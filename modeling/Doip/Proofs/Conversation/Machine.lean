import Doip.Proofs.Connection.Persists
import Doip.Proofs.Conversation.Pending

/-! A conversation as one thread sees it that makes one call after the other: a switch and at most one connection
(`Machine`), and what each call does to them (`Machine.Step`). A conversation with no call under way stands for
such a machine when its link and its slot agree on one open connection and every other one is closed
(`Represents`). -/

namespace Doip

/-- The switch, and the server and state of the connection if there is one. -/
structure Machine where
  running : Bool
  connection : Option (Address × ConnectionState) := none

namespace Machine

def state (m : Machine) : ConnectionState := (m.connection.map (·.2)).getD .disconnected

def server (m : Machine) : Option Address := m.connection.map (·.1)

/-- What an exchange with a server may come to when it leaves the connection in a state. -/
def Answered (settings : ConversationSettings) (server : Address) (st : ConnectionState) :
    Except RequestError Response → Prop
  | .ok response => response.source = server ∧ response.target = settings.source
  | .error (.negativeAck _) => True
  | .error .ackTimeout => True
  | .error .timeout => True
  | .error .connectionLost => st = .faulted
  | .error _ => False

/-- What a request of some length may come to, and the state in which it leaves the connection. -/
def Exchanged (settings : ConversationSettings) (server : Address) (data : Bytes) (st : ConnectionState)
    (result : Except RequestError Response) : Prop :=
  (st = .activated ∨ st = .faulted) ∧
    if settings.limit.toNat < 4 + data.length then
      result = .error (.payloadTooLarge (4 + data.length) settings.limit.toNat)
    else Answered settings server st result

/-- What the calls do on a machine with the settings and servers of a conversation. -/
inductive Step (start : Conversation) : Operation → Outcome → Machine → Machine → Prop
  | startup (m : Machine) : Step start .startup .done m { m with running := true }
  | shutdown (m : Machine) : Step start .shutdown .done m { running := false }
  | connectStopped {m : Machine} {target : Address} {host : Option IpAddress} (hrun : m.running = false) :
      Step start (.connect target host) (.connect .failed) m m
  | connectAgain {m : Machine} {target : Address} {host : Option IpAddress} (hrun : m.running = true)
      (hst : m.state = .activated) : Step start (.connect target host) (.connect .alreadyConnected) m m
  | connectUnresolved {m : Machine} {target : Address} {host : Option IpAddress} (hrun : m.running = true)
      (hst : m.state ≠ .activated) (hnone : start.resolve target host = none) :
      Step start (.connect target host) (.connect .failed) m m
  | connected {m : Machine} {target : Address} {host : Option IpAddress} {endpoint : Endpoint}
      (hrun : m.running = true) (hst : m.state ≠ .activated)
      (hsome : start.resolve target host = some endpoint) :
      Step start (.connect target host) (.connect .success) m { m with connection := some (target, .activated) }
  | connectFailed {m : Machine} {target : Address} {host : Option IpAddress} {endpoint : Endpoint}
      (hrun : m.running = true) (hst : m.state ≠ .activated)
      (hsome : start.resolve target host = some endpoint) :
      Step start (.connect target host) (.connect .failed) m { m with connection := none }
  | disconnected {m : Machine} {p : Address × ConnectionState} (hsome : m.connection = some p) :
      Step start .disconnect (.disconnect .success) m { m with connection := none }
  | notConnected {m : Machine} (hnone : m.connection = none) : Step start .disconnect (.disconnect .failed) m m
  | requestEmpty (m : Machine) : Step start (.request []) (.request (.error .emptyPayload)) m m
  | requestRefused {m : Machine} {data : Bytes} (hdata : data ≠ [])
      (hst : m.running = false ∨ m.state ≠ .activated) :
      Step start (.request data) (.request (.error .notConnected)) m m
  | exchanged {m : Machine} {data : Bytes} {server : Address} {st : ConnectionState}
      {result : Except RequestError Response} (hdata : data ≠ []) (hrun : m.running = true)
      (hsome : m.connection = some (server, .activated)) (h : Exchanged start.settings server data st result) :
      Step start (.request data) (.request result) m { m with connection := some (server, st) }

/-- A run of calls with their outcomes. The connection may be lost at any time between two calls. -/
inductive Run (start : Conversation) : Machine → List (Operation × Outcome) → Machine → Prop
  | done (m : Machine) : Run start m [] m
  | step {m m' m'' : Machine} {history : List (Operation × Outcome)} {op : Operation} {outcome : Outcome}
      (h : Run start m history m') (hstep : Step start op outcome m' m'') :
      Run start m (history ++ [(op, outcome)]) m''
  | lose {m m' : Machine} {history : List (Operation × Outcome)} {server : Address}
      (h : Run start m history m') (hsome : m'.connection = some (server, .activated)) :
      Run start m history { m' with connection := some (server, .faulted) }

end Machine

namespace Conversation

open Connection (OutsideStep Persists)

variable {w : Worker} {id conn i : Nat} {c c' start : Conversation} {k : Connection} {m : Machine}
variable {on : Bool} {link : Option Link} {slot holder live : Option Nat} {waits : List Wait}

/-- A conversation that has come from another: it has its settings and servers, nobody stands in line, and all
connections but one are closed. -/
structure Layout (start c : Conversation) (running : Bool) (link : Option Link) (slot holder live : Option Nat)
    (waits : List Wait) : Prop where
  settings : c.settings = start.settings
  version : c.version = start.version
  servers : c.servers = start.servers
  running : c.running = running
  link : c.link = link
  slot : c.slot = slot
  holder : c.holder = holder
  line : c.line = []
  waits : c.timer.waits = waits
  others : ∀ (i : Nat) (k : Connection), c.connections[i]? = some k → live ≠ some i → k.closed = true ∧ k.stream = none

/-- The connection to a server that is in use, and has not been closed. -/
structure Live (start c : Conversation) (conn : Nat) (server : Address) (k : Connection) : Prop where
  connection : c.connections[conn]? = some k
  server : k.server = server
  settings : k.settings = .of start.settings start.version
  opened : k.closed = false

/-- A conversation with no call under way stands for a machine. -/
inductive Represents (start c : Conversation) : Machine → Prop
  | bare {running : Bool} (h : Layout start c running none none none none []) : Represents start c ⟨running, none⟩
  | linked {conn : Nat} {server : Address} {k : Connection}
      (h : Layout start c true (some ⟨conn, server⟩) (some conn) none (some conn) [])
      (hlive : Live start c conn server k) (hst : k.state = .activated ∨ k.state = .faulted) :
      Represents start c ⟨true, some (server, k.state)⟩

/-! What a conversation that stands for a machine shows. -/

theorem Represents.running (h : Represents start c m) : c.running = m.running := by
  cases h with
  | bare h => exact h.running
  | linked h => exact h.running

theorem Represents.state (h : Represents start c m) : c.state = m.state := by
  cases h with
  | bare h => simp [Conversation.state, Machine.state, h.link]
  | linked h hlive => simp [Conversation.state, Machine.state, h.link, hlive.connection]

theorem Represents.serverAddress (h : Represents start c m) : c.serverAddress = m.server := by
  cases h with
  | bare h => simp [Conversation.serverAddress, Machine.server, h.link]
  | linked h => simp [Conversation.serverAddress, Machine.server, h.link]

theorem Layout.resolve (h : Layout start c on link slot holder live waits) (target : Address)
    (host : Option IpAddress) : c.resolve target host = start.resolve target host := by
  unfold Conversation.resolve
  rw [h.servers, h.settings]

theorem Represents.resolve (h : Represents start c m) (target : Address) (host : Option IpAddress) :
    c.resolve target host = start.resolve target host := by
  cases h with
  | bare h => exact h.resolve target host
  | linked h => exact h.resolve target host

/-! What comes from outside. -/

/-- What the network does, and the passing of time. -/
def Event.isNetwork : Event → Bool
  | .dialled _ _ => true
  | .arrive _ _ => true
  | .noticeClosed _ => true
  | .sever _ => true
  | .elapse _ => true
  | _ => false

theorem apply_network_threads {e : Event} (he : e.isNetwork = true) (w : Worker) (c : Conversation) :
    (c.apply w e).threads = c.threads := by
  cases e with
  | call operation inside => cases he
  | advance id => cases he
  | shutDown => cases he
  | dropTasks => cases he
  | _ => rfl

/-- What the conversation comes to when nobody acts on it: connections may be lost, and waits pass. -/
structure Outside (c c' : Conversation) (pass : Wait → Wait) : Prop where
  layout : ∀ {start : Conversation} {on : Bool} {link : Option Link} {slot holder live : Option Nat}
      {waits : List Wait},
    Layout start c on link slot holder live waits → Layout start c' on link slot holder live (waits.map pass)
  connection : ∀ {i : Nat} {k : Connection}, c.connections[i]? = some k →
    ∃ k', c'.connections[i]? = some k' ∧ k.Persists k'
  key : ∀ wait, (pass wait).key = wait.key
  stopped : ∀ wait, (pass wait).stopped = wait.stopped
  remaining : ∀ wait, (pass wait).remaining ≤ wait.remaining

theorem Outside.same
    (hlayout : ∀ {start : Conversation} {on : Bool} {link : Option Link} {slot holder live : Option Nat}
      {waits : List Wait},
      Layout start c on link slot holder live waits → Layout start c' on link slot holder live waits)
    (hconn : ∀ {i : Nat} {k : Connection}, c.connections[i]? = some k →
      ∃ k', c'.connections[i]? = some k' ∧ k.Persists k') : Outside c c' fun wait => wait :=
  ⟨fun h => by rw [List.map_id']; exact hlayout h, hconn, fun _ => rfl, fun _ => rfl, fun _ => Nat.le_refl _⟩

theorem Layout.threads (h : Layout start c on link slot holder live waits) (threads : List Thread) :
    Layout start { c with threads } on link slot holder live waits := { h with }

theorem Outside.threads (c : Conversation) (threads : List Thread) : Outside c { c with threads } fun wait => wait :=
  .same (fun h => h.threads threads) fun hk => ⟨_, hk, .refl _⟩

theorem Layout.modify (h : Layout start c on link slot holder live waits) {f : Connection → Connection}
    (hf : ∀ k : Connection, k.Persists (f k)) (j : Nat) :
    Layout start (c.modifyConnection j f) on link slot holder live waits := by
  refine { h with others := fun i k hk hi => ?_ }
  by_cases hj : j = i
  · subst hj
    cases hk₀ : c.connections[j]? with
    | none =>
      rw [modifyConnection, List.getElem?_modify_eq, hk₀] at hk
      cases hk
    | some k₀ =>
      rw [getElem?_modifyConnection hk₀] at hk
      cases hk
      obtain ⟨hclosed, hstream⟩ := h.others j k₀ hk₀ hi
      exact ⟨(hf k₀).closed.trans hclosed, (hf k₀).bare hstream⟩
  · exact h.others i k ((getElem?_modifyConnection_of_ne hj f).symm.trans hk) hi

theorem Outside.modify {f : Connection → Connection} (hf : ∀ k, OutsideStep k (f k)) (c : Conversation) (j : Nat) :
    Outside c (c.modifyConnection j f) fun wait => wait := by
  refine .same (fun h => h.modify (fun k => (hf k).persists) j) fun hk => ?_
  rename_i i k
  by_cases hj : j = i
  · subst hj
    exact ⟨f k, getElem?_modifyConnection hk f, (hf k).persists⟩
  · exact ⟨k, (getElem?_modifyConnection_of_ne hj f).trans hk, .refl k⟩

theorem Outside.elapse (c : Conversation) (ms : Nat) :
    Outside c { c with timer := c.timer.elapse ms } (Wait.elapse ms) :=
  { layout := fun h => { h with waits := congrArg (List.map (Wait.elapse ms)) h.waits }
    connection := fun hk => ⟨_, hk, .refl _⟩
    key := fun _ => rfl
    stopped := fun _ => rfl
    remaining := fun wait => Nat.sub_le wait.remaining ms }

theorem Outside.network {e : Event} (he : e.isNetwork = true) (w : Worker) (c : Conversation) :
    ∃ pass, Outside c (c.apply w e) pass := by
  cases e with
  | dialled j dial => exact ⟨_, .modify (fun k => .dialled k dial) c j⟩
  | arrive j a => exact ⟨_, .modify (fun k => .arrive k a) c j⟩
  | noticeClosed j => exact ⟨_, .modify .noticeClosed c j⟩
  | sever j => exact ⟨_, .modify .sever c j⟩
  | elapse ms => exact ⟨_, .elapse c ms⟩
  | call operation inside => cases he
  | advance id => cases he
  | shutDown => cases he
  | dropTasks => cases he

variable {pass : Wait → Wait}

theorem Live.outside {server : Address} (h : Live start c conn server k) (ho : Outside c c' pass) :
    ∃ k', Live start c' conn server k' ∧ (k'.state = k.state ∨ k'.state = .faulted) := by
  obtain ⟨k', hk', hp⟩ := ho.connection h.connection
  exact ⟨k', ⟨hk', hp.server.trans h.server, hp.settings.trans h.settings, hp.closed.trans h.opened⟩, hp.state⟩

/-- The connection of a machine may be lost. -/
def Drifts (m m' : Machine) : Prop :=
  m' = m ∨ ∃ server, m.connection = some (server, .activated) ∧ m' = { m with connection := some (server, .faulted) }

theorem Represents.outside (h : Represents start c m) (ho : Outside c c' pass) :
    ∃ m', Drifts m m' ∧ Represents start c' m' := by
  cases h with
  | bare h => exact ⟨_, .inl rfl, .bare (ho.layout h)⟩
  | linked h hlive hst =>
    obtain ⟨k', hlive', hsame | hlost⟩ := hlive.outside ho
    · rw [← hsame] at hst ⊢
      exact ⟨_, .inl rfl, .linked (ho.layout h) hlive' hst⟩
    · refine ⟨⟨true, some (_, k'.state)⟩, ?_, .linked (ho.layout h) hlive' (.inr hlost)⟩
      rw [hlost]
      rcases hst with hst | hst
      · exact .inr ⟨_, by rw [hst], rfl⟩
      · exact .inl (by rw [hst])

/-! What the calls do to the layout. -/

theorem Layout.setRunning (h : Layout start c on link slot holder live waits) (running : Bool) :
    Layout start { c with running } running link slot holder live waits := { h with running := rfl }

theorem Layout.setLink (h : Layout start c on link slot holder live waits) (link : Option Link) :
    Layout start { c with link } on link slot holder live waits := { h with link := rfl }

theorem Layout.setSlot (h : Layout start c on link slot holder live waits) (slot : Option Nat) :
    Layout start { c with slot } on link slot holder live waits := { h with slot := rfl }

theorem Layout.lock (h : Layout start c on link slot none live waits) (id : Nat) :
    c.tryLock id = some { c with holder := some id } ∧
      Layout start { c with holder := some id } on link slot (some id) live waits :=
  ⟨if_pos (by rw [h.holder]; rfl), { h with holder := rfl }⟩

theorem Layout.unlock (h : Layout start c on link slot holder live waits) :
    Layout start c.unlock on link slot none live waits :=
  { h with holder := by simp only [Conversation.unlock, h.line, List.head?_nil]
           line := by simp only [Conversation.unlock, h.line, List.tail_nil] }

theorem Layout.put (h : Layout start c on link slot holder (some conn) waits) (f : Connection → Connection) :
    Layout start (c.modifyConnection conn f) on link slot holder (some conn) waits := by
  refine { h with others := fun i k hk hi => h.others i k ?_ hi }
  have hne : conn ≠ i := fun heq => hi (congrArg some heq)
  exact (getElem?_modifyConnection_of_ne hne f).symm.trans hk

theorem Layout.retire (h : Layout start c on link slot holder (some conn) waits)
    (hk : c.connections[conn]? = some k) (hclosed : k.closed = true) (hstream : k.stream = none) :
    Layout start c on link slot holder none waits := by
  refine { h with others := fun i k' hk' _ => ?_ }
  by_cases hi : conn = i
  · subst hi
    rw [hk] at hk'
    cases hk'
    exact ⟨hclosed, hstream⟩
  · exact h.others i k' hk' fun heq => hi (Option.some.inj heq)

theorem Layout.create (h : Layout start c on link slot holder none waits) (k : Connection) :
    Layout start { c with connections := c.connections ++ [k] } on link slot holder (some c.connections.length)
      waits := by
  refine { h with others := fun i k' hk' hi => h.others i k' ?_ nofun }
  rcases Nat.lt_trichotomy i c.connections.length with hlt | heq | hgt
  · exact (List.getElem?_append_left hlt).symm.trans hk'
  · exact absurd (congrArg some heq.symm) hi
  · have hout : (c.connections ++ [k])[i]? = none :=
      List.getElem?_eq_none (by rw [List.length_append]; exact hgt)
    cases hout.symm.trans hk'

theorem Layout.arm (h : Layout start c on link slot holder live []) (id timeout : Nat) :
    Layout start { c with timer := c.timer.arm id timeout } on link slot holder live
      [{ key := id, remaining := timeout }] :=
  { h with waits := by simp only [Timer.arm, h.waits, List.nil_append] }

theorem Layout.finish {wait : Wait} (h : Layout start c on link slot holder live [wait]) (hkey : wait.key = id) :
    Layout start { c with timer := c.timer.finish id } on link slot holder live [] :=
  { h with waits := by simp [Timer.finish, h.waits, hkey] }

theorem Layout.stop (h : Layout start c on link slot holder live []) :
    Layout start { c with timer := c.timer.stop } on link slot holder live [] :=
  { h with waits := by unfold Timer.stop; split <;> simp [h.waits] }

theorem Layout.wait? {wait : Wait} (h : Layout start c on link slot holder live [wait]) (hkey : wait.key = id) :
    c.timer.wait? id = some wait := by
  simp [Timer.wait?, h.waits, hkey]

theorem Represents.linked_of {server : Address} {st : ConnectionState} (hrun : m.running = true)
    (h : Layout start c true (some ⟨conn, server⟩) (some conn) none (some conn) [])
    (hlive : Live start c conn server k) (hk : k.state = st) (hst : st = .activated ∨ st = .faulted) :
    Represents start c { m with connection := some (server, st) } := by
  subst hk
  rw [hrun]
  exact .linked h hlive hst

theorem Represents.bare_of (hrun : m.running = on) (h : Layout start c on none none none none []) :
    Represents start c { m with connection := none } := by
  rw [hrun]
  exact .bare h

theorem Represents.threads (h : Represents start c m) (threads : List Thread) :
    Represents start { c with threads } m := by
  cases h with
  | bare h => exact .bare (h.threads threads)
  | linked h hlive hst =>
    exact .linked (h.threads threads) ⟨hlive.connection, hlive.server, hlive.settings, hlive.opened⟩ hst

end Conversation
end Doip
