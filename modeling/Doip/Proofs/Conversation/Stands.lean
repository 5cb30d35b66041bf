import Doip.Proofs.Conversation.Machine
import Doip.Proofs.Conversation.Usage

/-! The one call under way on a conversation that is used by one thread, point by point (`Stands`). Every step takes
it to a later point, or ends it as the machine's step says, or leaves it where it waits (`Goes`). -/

namespace Doip

def Call.rank : Call → Nat
  | .connect _ _ .entered => 9
  | .connect _ _ .checked => 8
  | .connect _ _ (.submitting _) => 7
  | .connect _ _ (.queued _) => 6
  | .connect _ _ (.replacing _ _) => 5
  | .connect _ _ (.waiting _ _ .connect) => 4
  | .connect _ _ (.writing _ _) => 3
  | .connect _ _ (.waiting _ _ _) => 2
  | .connect _ _ (.failing _) => 1
  | .connect _ _ .refused => 1
  | .disconnect .entered => 5
  | .disconnect .stopping => 4
  | .disconnect .submitting => 3
  | .disconnect .queued => 2
  | .disconnect (.closing _) => 1
  | .request _ .entered => 7
  | .request _ .submitting => 6
  | .request _ .queued => 5
  | .request _ (.writing _ _) => 4
  | .request _ (.waiting _ (.acknowledgement _)) => 3
  | .request _ (.waiting _ _) => 2
  | .request _ (.closing _ _) => 1
  | .shutdown .entered => 4
  | .shutdown .cancelling => 3
  | .shutdown .stopping => 2
  | .shutdown .releasing => 1
  | .startup => 1
  | .returned _ => 0

theorem Call.rank_le (call : Call) : call.rank ≤ 9 := by
  fun_cases Call.rank <;> decide

namespace Conversation

/-- The longest time that a call waits for anything. -/
def longest (c : Conversation) : Nat :=
  max (max c.settings.connectTimeout.toNat c.settings.activationTimeout.toNat)
    (max c.settings.ackTimeout.toNat c.settings.responseTimeout.toNat)

/-- The wait of a call that nobody has stopped. -/
structure Ticks (start : Conversation) (id : Nat) (wait : Wait) : Prop where
  key : wait.key = id
  stopped : wait.stopped = false
  remaining : wait.remaining ≤ start.longest

/-- A connect goes on to a new connection. -/
structure MayConnect (start : Conversation) (m : Machine) (target : Address) (host : Option IpAddress)
    (endpoint : Endpoint) : Prop where
  running : m.running = true
  state : m.state ≠ .activated
  resolved : start.resolve target host = some endpoint

/-- A request goes on to an exchange with the server. -/
structure MayAsk (start : Conversation) (m : Machine) (server : Address) (data : Bytes) : Prop where
  nonempty : data ≠ []
  running : m.running = true
  connection : m.connection = some (server, .activated)
  fits : 4 + data.length ≤ start.settings.limit.toNat

/-- A request that has taken the slot of an activated connection, which may have been lost since. -/
structure Exchanging (start c : Conversation) (id conn : Nat) (server : Address) (k : Connection)
    (waits : List Wait) : Prop where
  layout : Layout start c true (some ⟨conn, server⟩) (some conn) (some id) (some conn) waits
  live : Live start c conn server k
  state : k.state = .activated ∨ k.state = .faulted

/-- Where the call with a number stands on a conversation that stood for a machine when the call was made, or has
lost its connection since. -/
inductive Stands (start : Conversation) (m : Machine) (id : Nat) (c : Conversation) : Operation → Call → Prop
  | startup (h : Represents start c m) : Stands start m id c .startup .startup
  | connectEntered {target : Address} {host : Option IpAddress} (h : Represents start c m) :
      Stands start m id c (.connect target host) (.connect target host .entered)
  | connectChecked {target : Address} {host : Option IpAddress} (h : Represents start c m)
      (hrun : m.running = true) : Stands start m id c (.connect target host) (.connect target host .checked)
  | connectSubmitting {target : Address} {host : Option IpAddress} {endpoint : Endpoint}
      (h : Represents start c m) (hmay : MayConnect start m target host endpoint) :
      Stands start m id c (.connect target host) (.connect target host (.submitting endpoint))
  | connectQueued {target : Address} {host : Option IpAddress} {endpoint : Endpoint}
      (h : Represents start c m) (hmay : MayConnect start m target host endpoint) :
      Stands start m id c (.connect target host) (.connect target host (.queued endpoint))
  | replacing {target : Address} {host : Option IpAddress} {endpoint : Endpoint} {link : Option Link}
      {stale : Nat} {k : Connection} (hmay : MayConnect start m target host endpoint)
      (h : Layout start c true link none (some id) (some stale) []) (hk : c.connections[stale]? = some k)
      (hclosed : k.closed = true) :
      Stands start m id c (.connect target host) (.connect target host (.replacing endpoint stale))
  | dialling {target : Address} {host : Option IpAddress} {endpoint : Endpoint} {conn : Nat} {k : Connection}
      {wait : Wait} (hmay : MayConnect start m target host endpoint)
      (h : Layout start c true (some ⟨conn, target⟩) none (some id) (some conn) [wait])
      (hlive : Live start c conn target k) (hwait : Ticks start id wait) :
      Stands start m id c (.connect target host) (.connect target host (.waiting endpoint conn .connect))
  | asking {target : Address} {host : Option IpAddress} {endpoint : Endpoint} {conn : Nat} {k : Connection}
      (hmay : MayConnect start m target host endpoint)
      (h : Layout start c true (some ⟨conn, target⟩) none (some id) (some conn) [])
      (hlive : Live start c conn target k) :
      Stands start m id c (.connect target host) (.connect target host (.writing endpoint conn))
  | activating {target : Address} {host : Option IpAddress} {endpoint : Endpoint} {conn : Nat} {k : Connection}
      {wait : Wait} (hmay : MayConnect start m target host endpoint)
      (h : Layout start c true (some ⟨conn, target⟩) none (some id) (some conn) [wait])
      (hlive : Live start c conn target k) (hwait : Ticks start id wait) :
      Stands start m id c (.connect target host) (.connect target host (.waiting endpoint conn .activation))
  | failing {target : Address} {host : Option IpAddress} {endpoint : Endpoint} {link : Option Link} {conn : Nat}
      {k : Connection} (hmay : MayConnect start m target host endpoint)
      (h : Layout start c true link none (some id) (some conn) []) (hk : c.connections[conn]? = some k)
      (hclosed : k.closed = true) :
      Stands start m id c (.connect target host) (.connect target host (.failing conn))
  | disconnectEntered (h : Represents start c m) : Stands start m id c .disconnect (.disconnect .entered)
  | disconnecting {p : Address × ConnectionState} {point : DisconnectPoint} {conn : Nat} {k : Connection}
      (hpoint : point = .stopping ∨ point = .submitting ∨ point = .queued) (hsome : m.connection = some p)
      (h : Layout start c m.running none (some conn) none (some conn) []) (hk : c.connections[conn]? = some k)
      (hclosed : k.closed = true) : Stands start m id c .disconnect (.disconnect point)
  | disconnectClosing {p : Address × ConnectionState} {conn : Nat} {k : Connection}
      (hsome : m.connection = some p) (h : Layout start c m.running none none (some id) (some conn) [])
      (hk : c.connections[conn]? = some k) (hclosed : k.closed = true) :
      Stands start m id c .disconnect (.disconnect (.closing conn))
  | requestEntered {data : Bytes} (h : Represents start c m) :
      Stands start m id c (.request data) (.request data .entered)
  | requestSubmitting {data : Bytes} (h : Represents start c m) (hdata : data ≠ []) (hrun : m.running = true) :
      Stands start m id c (.request data) (.request data .submitting)
  | requestQueued {data : Bytes} (h : Represents start c m) (hdata : data ≠ []) (hrun : m.running = true) :
      Stands start m id c (.request data) (.request data .queued)
  | exchangeWriting {data frame : Bytes} {server : Address} {conn : Nat} {k : Connection}
      (hmay : MayAsk start m server data) (h : Exchanging start c id conn server k []) :
      Stands start m id c (.request data) (.request data (.writing conn frame))
  | acknowledging {data : Bytes} {aside : List Bytes} {server : Address} {conn : Nat} {k : Connection} {wait : Wait}
      (hmay : MayAsk start m server data) (h : Exchanging start c id conn server k [wait])
      (hwait : Ticks start id wait) :
      Stands start m id c (.request data) (.request data (.waiting conn (.acknowledgement aside)))
  | responding {data : Bytes} {server : Address} {conn : Nat} {k : Connection} {wait : Wait}
      (hmay : MayAsk start m server data) (h : Exchanging start c id conn server k [wait])
      (hwait : Ticks start id wait) :
      Stands start m id c (.request data) (.request data (.waiting conn .response))
  | shutdownEntered (h : Represents start c m) : Stands start m id c .shutdown (.shutdown .entered)
  | shutdownBare {point : ShutdownPoint} (hpoint : point = .cancelling ∨ point = .releasing)
      (h : Layout start c false none none none none []) : Stands start m id c .shutdown (.shutdown point)
  | shutdownCancelling {server : Address} {conn : Nat} {k : Connection}
      (h : Layout start c false (some ⟨conn, server⟩) (some conn) none (some conn) [])
      (hk : c.connections[conn]? = some k) : Stands start m id c .shutdown (.shutdown .cancelling)
  | shutdownReleasing {point : ShutdownPoint} {conn : Nat} {k : Connection}
      (hpoint : point = .stopping ∨ point = .releasing)
      (h : Layout start c false none (some conn) none (some conn) []) (hk : c.connections[conn]? = some k) :
      Stands start m id c .shutdown (.shutdown point)

variable {id conn : Nat} {start c : Conversation} {k : Connection} {m m' : Machine} {op : Operation} {call : Call}
variable {target server : Address} {host : Option IpAddress} {data : Bytes} {wait : Wait}
variable {link : Option Link}

def waitOver (c : Conversation) : Bool := c.timer.waits.all (·.expired)

theorem Layout.waitOver {running : Bool} {slot holder live : Option Nat}
    (h : Layout start c running link slot holder live [wait]) : c.waitOver = wait.expired := by
  simp [Conversation.waitOver, h.waits]

/-- After a step of a call with so many points before it: it stands at a later point, or still where it stood if the
time of its wait is not over, or it has ended as the machine's step says. -/
inductive Goes (start : Conversation) (m : Machine) (id : Nat) (op : Operation) (rank : Nat) (lapsed : Bool) :
    Conversation × Call → Prop
  | onward {c : Conversation} {call : Call} (h : Stands start m id c op call) (hrank : call.rank < rank) :
      Goes start m id op rank lapsed (c, call)
  | stays {c : Conversation} {call : Call} (h : Stands start m id c op call) (hrank : call.rank = rank)
      (hlapsed : lapsed = false) : Goes start m id op rank lapsed (c, call)
  | ends {c : Conversation} {outcome : Outcome} {m' : Machine} (hstep : Machine.Step start op outcome m m')
      (h : Represents start c m') : Goes start m id op rank lapsed (c, .returned outcome)

theorem Goes.mono {r : Conversation × Call} {rank rank' : Nat} {lapsed lapsed' : Bool}
    (h : Goes start m id op rank lapsed r) (hrank : rank < rank') : Goes start m id op rank' lapsed' r := by
  cases h with
  | onward h hlt => exact .onward h (Nat.lt_trans hlt hrank)
  | stays h heq => exact .onward h (heq ▸ hrank)
  | ends hstep h => exact .ends hstep h

theorem Live.put (h : Live start c conn server k) {f : Connection → Connection} (hf : k.Belongs (f k)) :
    Live start (c.modifyConnection conn f) conn server (f k) :=
  ⟨getElem?_modifyConnection h.connection f, hf.server.trans h.server, hf.settings.trans h.settings,
    hf.closed.trans h.opened⟩

theorem Live.replace (h : Live start c conn server k) {k' : Connection} (hk' : k.Belongs k') :
    Live start (c.modifyConnection conn fun _ => k') conn server k' := h.put hk' (f := fun _ => k')

theorem Live.same {c' : Conversation} (h : Live start c conn server k) (hsame : c'.connections = c.connections) :
    Live start c' conn server k := ⟨hsame ▸ h.connection, h.server, h.settings, h.opened⟩

/-! What comes from outside leaves a call at its point. -/

section Outside

variable {c' : Conversation} {pass : Wait → Wait} {waits : List Wait}

theorem Drifts.running (h : Drifts m m') : m'.running = m.running := by
  rcases h with rfl | ⟨server, -, rfl⟩
  · rfl
  · rfl

theorem Drifts.eq_of_not_activated (h : Drifts m m') (hst : m.state ≠ .activated) : m' = m := by
  rcases h with rfl | ⟨server, hconn, -⟩
  · rfl
  · exact absurd (by rw [Machine.state, hconn]; rfl) hst

theorem Ticks.outside (h : Ticks start id wait) (ho : Outside c c' pass) : Ticks start id (pass wait) :=
  ⟨(ho.key wait).trans h.key, (ho.stopped wait).trans h.stopped, Nat.le_trans (ho.remaining wait) h.remaining⟩

theorem Exchanging.outside (h : Exchanging start c id conn server k waits) (ho : Outside c c' pass) :
    ∃ k', Exchanging start c' id conn server k' (waits.map pass) := by
  obtain ⟨k', hlive', hsame | hlost⟩ := h.live.outside ho
  · exact ⟨k', ho.layout h.layout, hlive', by rw [hsame]; exact h.state⟩
  · exact ⟨k', ho.layout h.layout, hlive', .inr hlost⟩

theorem Stands.outside (h : Stands start m id c op call) (ho : Outside c c' pass) :
    ∃ m', Drifts m m' ∧ Stands start m' id c' op call := by
  cases h with
  | startup h =>
    obtain ⟨m', hdrift, h'⟩ := h.outside ho
    exact ⟨m', hdrift, .startup h'⟩
  | connectEntered h =>
    obtain ⟨m', hdrift, h'⟩ := h.outside ho
    exact ⟨m', hdrift, .connectEntered h'⟩
  | connectChecked h hrun =>
    obtain ⟨m', hdrift, h'⟩ := h.outside ho
    exact ⟨m', hdrift, .connectChecked h' (hdrift.running.trans hrun)⟩
  | connectSubmitting h hmay =>
    obtain ⟨m', hdrift, h'⟩ := h.outside ho
    obtain rfl := hdrift.eq_of_not_activated hmay.state
    exact ⟨_, hdrift, .connectSubmitting h' hmay⟩
  | connectQueued h hmay =>
    obtain ⟨m', hdrift, h'⟩ := h.outside ho
    obtain rfl := hdrift.eq_of_not_activated hmay.state
    exact ⟨_, hdrift, .connectQueued h' hmay⟩
  | replacing hmay h hk hclosed =>
    obtain ⟨k', hk', hp⟩ := ho.connection hk
    exact ⟨m, .inl rfl, .replacing hmay (ho.layout h) hk' (hp.closed.trans hclosed)⟩
  | dialling hmay h hlive hwait =>
    obtain ⟨k', hlive', -⟩ := hlive.outside ho
    exact ⟨m, .inl rfl, .dialling hmay (ho.layout h) hlive' (hwait.outside ho)⟩
  | asking hmay h hlive =>
    obtain ⟨k', hlive', -⟩ := hlive.outside ho
    exact ⟨m, .inl rfl, .asking hmay (ho.layout h) hlive'⟩
  | activating hmay h hlive hwait =>
    obtain ⟨k', hlive', -⟩ := hlive.outside ho
    exact ⟨m, .inl rfl, .activating hmay (ho.layout h) hlive' (hwait.outside ho)⟩
  | failing hmay h hk hclosed =>
    obtain ⟨k', hk', hp⟩ := ho.connection hk
    exact ⟨m, .inl rfl, .failing hmay (ho.layout h) hk' (hp.closed.trans hclosed)⟩
  | disconnectEntered h =>
    obtain ⟨m', hdrift, h'⟩ := h.outside ho
    exact ⟨m', hdrift, .disconnectEntered h'⟩
  | disconnecting hpoint hsome h hk hclosed =>
    obtain ⟨k', hk', hp⟩ := ho.connection hk
    exact ⟨m, .inl rfl, .disconnecting hpoint hsome (ho.layout h) hk' (hp.closed.trans hclosed)⟩
  | disconnectClosing hsome h hk hclosed =>
    obtain ⟨k', hk', hp⟩ := ho.connection hk
    exact ⟨m, .inl rfl, .disconnectClosing hsome (ho.layout h) hk' (hp.closed.trans hclosed)⟩
  | requestEntered h =>
    obtain ⟨m', hdrift, h'⟩ := h.outside ho
    exact ⟨m', hdrift, .requestEntered h'⟩
  | requestSubmitting h hdata hrun =>
    obtain ⟨m', hdrift, h'⟩ := h.outside ho
    exact ⟨m', hdrift, .requestSubmitting h' hdata (hdrift.running.trans hrun)⟩
  | requestQueued h hdata hrun =>
    obtain ⟨m', hdrift, h'⟩ := h.outside ho
    exact ⟨m', hdrift, .requestQueued h' hdata (hdrift.running.trans hrun)⟩
  | exchangeWriting hmay h =>
    obtain ⟨k', h'⟩ := h.outside ho
    exact ⟨m, .inl rfl, .exchangeWriting hmay h'⟩
  | acknowledging hmay h hwait =>
    obtain ⟨k', h'⟩ := h.outside ho
    exact ⟨m, .inl rfl, .acknowledging hmay h' (hwait.outside ho)⟩
  | responding hmay h hwait =>
    obtain ⟨k', h'⟩ := h.outside ho
    exact ⟨m, .inl rfl, .responding hmay h' (hwait.outside ho)⟩
  | shutdownEntered h =>
    obtain ⟨m', hdrift, h'⟩ := h.outside ho
    exact ⟨m', hdrift, .shutdownEntered h'⟩
  | shutdownBare hpoint h => exact ⟨m, .inl rfl, .shutdownBare hpoint (ho.layout h)⟩
  | shutdownCancelling h hk =>
    obtain ⟨k', hk', -⟩ := ho.connection hk
    exact ⟨m, .inl rfl, .shutdownCancelling (ho.layout h) hk'⟩
  | shutdownReleasing hpoint h hk =>
    obtain ⟨k', hk', -⟩ := ho.connection hk
    exact ⟨m, .inl rfl, .shutdownReleasing hpoint (ho.layout h) hk'⟩

end Outside

/-! A call waits for itself only, and not for long. -/

theorem ticks_of_nil (h : c.timer.waits = []) : ∀ wait ∈ c.timer.waits, Ticks start id wait := by
  intro wait hmem
  rw [h] at hmem
  exact absurd hmem List.not_mem_nil

theorem ticks_of_one (h : c.timer.waits = [wait]) (hwait : Ticks start id wait) :
    ∀ wait ∈ c.timer.waits, Ticks start id wait := by
  intro wait' hmem
  rw [h] at hmem
  rw [List.mem_singleton.1 hmem]
  exact hwait

theorem Represents.waits (h : Represents start c m) : c.timer.waits = [] := by
  cases h with
  | bare h => exact h.waits
  | linked h => exact h.waits

theorem Stands.ticks (h : Stands start m id c op call) : ∀ wait ∈ c.timer.waits, Ticks start id wait := by
  cases h with
  | startup h => exact ticks_of_nil h.waits
  | connectEntered h => exact ticks_of_nil h.waits
  | connectChecked h => exact ticks_of_nil h.waits
  | connectSubmitting h => exact ticks_of_nil h.waits
  | connectQueued h => exact ticks_of_nil h.waits
  | replacing _ h => exact ticks_of_nil h.waits
  | dialling _ h _ hwait => exact ticks_of_one h.waits hwait
  | asking _ h => exact ticks_of_nil h.waits
  | activating _ h _ hwait => exact ticks_of_one h.waits hwait
  | failing _ h => exact ticks_of_nil h.waits
  | disconnectEntered h => exact ticks_of_nil h.waits
  | disconnecting _ _ h => exact ticks_of_nil h.waits
  | disconnectClosing _ h => exact ticks_of_nil h.waits
  | requestEntered h => exact ticks_of_nil h.waits
  | requestSubmitting h => exact ticks_of_nil h.waits
  | requestQueued h => exact ticks_of_nil h.waits
  | exchangeWriting _ h => exact ticks_of_nil h.layout.waits
  | acknowledging _ h hwait => exact ticks_of_one h.layout.waits hwait
  | responding _ h hwait => exact ticks_of_one h.layout.waits hwait
  | shutdownEntered h => exact ticks_of_nil h.waits
  | shutdownBare _ h => exact ticks_of_nil h.waits
  | shutdownCancelling h => exact ticks_of_nil h.waits
  | shutdownReleasing _ h => exact ticks_of_nil h.waits

theorem Stands.waitOver (h : Stands start m id c op call) {ms : Nat} (hms : start.longest ≤ ms) :
    Conversation.waitOver { c with timer := c.timer.elapse ms } = true := by
  refine List.all_eq_true.2 fun wait hmem => ?_
  obtain ⟨wait₀, hmem₀, rfl⟩ := List.mem_map.1 hmem
  have hremaining := (h.ticks wait₀ hmem₀).remaining
  simp only [Wait.elapse, Bool.or_eq_true, decide_eq_true_eq]
  omega

theorem Stands.rank_pos (h : Stands start m id c op call) : 0 < call.rank := by
  cases h with
  | disconnecting hpoint => rcases hpoint with rfl | rfl | rfl <;> simp [Call.rank]
  | shutdownBare hpoint => rcases hpoint with rfl | rfl <;> simp [Call.rank]
  | shutdownReleasing hpoint => rcases hpoint with rfl | rfl <;> simp [Call.rank]
  | _ => simp [Call.rank]

theorem Represents.enter (h : Represents start c m) (id : Nat) (op : Operation) :
    Stands start m id c op (.of op) := by
  cases op with
  | connect target host => exact .connectEntered h
  | disconnect => exact .disconnectEntered h
  | request data => exact .requestEntered h
  | startup => exact .startup h
  | shutdown => exact .shutdownEntered h

end Conversation
end Doip
