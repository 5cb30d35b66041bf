import Doip.Proofs.Conversation.Activation
import Doip.Proofs.Conversation.Exchange

/-! What a diagnostic request comes to, over every orderly run (`request_verdict`): the verdict on the signs among
the frames that arrive, and nothing else. -/

namespace Doip

namespace Exchange

variable {x : Exchange} {log : Log} {c : Conversation} {w : Worker} {hs : List Happening}

theorem Open.threads {k : Connection} {s : Stream} (ho : x.Open log c k s) (threads : List Thread) :
    x.Open log { c with threads } k s := { ho with }

theorem Stage.threads {call : Call} (h : x.Stage log c call) (threads : List Thread) :
    x.Stage log { c with threads } call := by
  cases h with
  | writing ho hearly hw htime hlast hsigns =>
    exact .writing (ho.threads threads) hearly hw htime hlast hsigns
  | acknowledging ho hearly hw hc hsigns hseen =>
    exact .acknowledging (ho.threads threads) hearly hw hc hsigns hseen
  | responding ho hw hc hsigns hack hnone => exact .responding (ho.threads threads) hw hc hsigns hack hnone
  | done hd => exact .done hd

/-- The call of an exchange stands where the log says. -/
def Follows (x : Exchange) (log : Log) (c : Conversation) : Prop :=
  ∃ t, c.threads[x.id]? = some t ∧ x.Stage log c t.call

theorem Follows.step (h : x.Follows log c) (hcan : w.cancelled = false) (a : Happening)
    (hal : log.Allows x.settings.codec a)
    (hp : Punctual x.ackTimeout x.responseTimeout (x.signs (log.note x.settings.codec a))) :
    x.Follows (log.note x.settings.codec a) (c.apply w (a.event x.conn x.id)) := by
  obtain ⟨t, ht, hstage⟩ := h
  cases a with
  | arrive a =>
    cases a with
    | bytes bs => exact ⟨t, ht, hstage.arrive hal⟩
    | endOfStream => exact False.elim hal
    | failure => exact False.elim hal
  | pass ms => exact ⟨t, ht, hstage.pass hal⟩
  | look =>
    refine ⟨_, Conversation.getElem?_advance ht, ?_⟩
    show x.Stage _ (c.advance w x.id) _
    rw [Conversation.advance_eq ht]
    exact (hstage.look hcan t.inside hp).threads _

theorem Follows.run (h : x.Follows log c) (hcan : w.cancelled = false)
    (hord : Log.Orderly x.settings.codec log hs)
    (hp : Punctual x.ackTimeout x.responseTimeout (x.signs (log.noteAll x.settings.codec hs))) :
    x.Follows (log.noteAll x.settings.codec hs) (Conversation.run w x.conn x.id c hs) := by
  induction hs generalizing log c with
  | nil => exact h
  | cons a hs ih =>
    obtain ⟨hal, hrest⟩ := hord
    refine ih (h.step hcan a hal ?_) hrest hp
    -- what was noted first stays in front of all that is noted, so it is punctual as well
    obtain ⟨later, hlater⟩ :=
      (log.note x.settings.codec a).signs_noteAll x.settings.codec x.server x.settings.client hs
    have hall : Punctual x.ackTimeout x.responseTimeout (x.signs (log.note x.settings.codec a) ++ later) :=
      hlater ▸ hp
    exact hall.of_append

theorem Follows.outcome (h : x.Follows log c) {o : Outcome} (ho : c.outcome? x.id = some o) :
    o = x.outcome (verdict x.ackTimeout x.responseTimeout (x.signs log)) := by
  obtain ⟨⟨call, inside⟩, ht, hstage⟩ := h
  obtain rfl : call = .returned o := (Conversation.outcome?_eq_some_iff ht).1 ho
  cases hstage with
  | done hd => rw [hd.verdict_eq]

theorem Follows.ended (h : x.Follows log c) (hlast : log.last = .look)
    (hover : x.ackTimeout + x.responseTimeout < log.time) :
    c.outcome? x.id = some (x.outcome (verdict x.ackTimeout x.responseTimeout (x.signs log))) := by
  obtain ⟨⟨call, inside⟩, ht, hstage⟩ := h
  have hpass : log.last.isPass = false := by rw [hlast]; rfl
  cases hstage with
  | writing ho hearly hw htime hlast' hsigns => omega
  | acknowledging ho hearly hw hc hsigns hseen =>
    have hexp := hc.due (by omega)
    rw [hc.fresh hpass] at hexp
    cases hexp
  | responding ho hw hc hsigns hack hnone =>
    have hlt := ackBefore_lt hack
    have hexp := hc.due (by omega)
    rw [hc.fresh hpass] at hexp
    cases hexp
  | done hd =>
    rw [(Conversation.outcome?_eq_some_iff ht).2 rfl, hd.verdict_eq]

/-- The exchange of a request on a connection. -/
def of (c : Conversation) (id conn : Nat) (data : Bytes) (k : Connection) : Exchange where
  id := id
  conn := conn
  data := data
  server := k.server
  settings := k.settings
  ackTimeout := c.settings.ackTimeout.toNat
  responseTimeout := c.settings.responseTimeout.toNat

/-- A run that does not lose the connection, leaves room for every frame, and in which no sign comes at the very
end of the time for it. -/
structure Fair (x : Exchange) (log : Log) (hs : List Happening) : Prop where
  orderly : Log.Orderly x.settings.codec log hs
  punctual : Punctual x.ackTimeout x.responseTimeout (x.signs (log.noteAll x.settings.codec hs))

end Exchange

namespace Conversation

variable {w : Worker} {id conn : Nat} {data : Bytes} {inside : Bool} {c : Conversation} {k : Connection} {s : Stream}

theorem follows_of_queued (h : Reachable c) (ht : c.threads[id]? = some ⟨.request data .queued, inside⟩)
    (hrun : c.running = true) (hfree : c.holder = none) (hslot : c.slot = some conn)
    (hk : c.connections[conn]? = some k) (hst : k.state = .activated) (hstr : k.stream = some s)
    (hrec : s.receiving = true) (hb : s.broken = false) (hfits : 4 + data.length ≤ k.settings.codec.limit.toNat) :
    (Exchange.of c id conn data k).Follows { buffer := s.buffer } (c.advance w id) := by
  have hn : c.timer.wait? id = none := h.wait?_eq_none ht rfl
  have hkept := h.sound.kept k (List.mem_of_getElem? hk) s hstr
  have hdrop : k.discardPending.1.stream = some { s with queue := [] } := by
    simp [Connection.discardPending, hstr]
  have hframe : k.discardPending.1.requestFrame data = .ok (requestOn k data) := requestFrame_of_fits hst hfits
  have hstep : stepCall w id inside c (.request data .queued) =
      ({ c with holder := some id }.modifyConnection conn fun _ => k.discardPending.1,
        .request data (.writing conn (requestOn k data))) := by
    simp [stepCall, stepRequest, tryLock, hfree, startExchange, hslot, hk, hst, hframe]
  have hopen : (Exchange.of c id conn data k).Open { buffer := s.buffer }
      ({ c with holder := some id }.modifyConnection conn fun _ => k.discardPending.1) k.discardPending.1
      { s with queue := [] } :=
    { running := hrun, ackTimeout := rfl, responseTimeout := rfl
      connection := getElem?_modifyConnection hk _
      activated := hst, server := rfl, settings := rfl, stream := hdrop, receiving := hrec, whole := hb
      kept := hkept.of_le rfl (Nat.zero_le _) fun hr => ⟨hr, rfl⟩
      buffer := rfl, room := Nat.le_refl _, read := fun _ => rfl
      past := fun p hp => absurd hp List.not_mem_nil }
  refine ⟨_, getElem?_advance ht, ?_⟩
  show (Exchange.of c id conn data k).Stage _ (c.advance w id) _
  rw [advance_eq ht, hstep]
  exact (Exchange.Stage.writing hopen rfl hn rfl rfl rfl).threads _

/-- A request that takes the slot of an activated connection comes to the verdict on the signs that arrive from
then on. When it has ended, it has ended so, and it has ended at the first look after the time for everything is
over. Two runs with the same signs at the same times come to the same, whatever else arrives and however the
bytes are cut. -/
theorem request_verdict (h : Reachable c) (ht : c.threads[id]? = some ⟨.request data .queued, inside⟩)
    (hrun : c.running = true) (hfree : c.holder = none) (hslot : c.slot = some conn)
    (hk : c.connections[conn]? = some k) (hst : k.state = .activated) (hstr : k.stream = some s)
    (hrec : s.receiving = true) (hb : s.broken = false) (hcan : w.cancelled = false)
    (hfits : 4 + data.length ≤ k.settings.codec.limit.toNat) :
    let x := Exchange.of c id conn data k
    let start : Log := { buffer := s.buffer }
    let logged (hs : List Happening) := start.noteAll k.settings.codec hs
    let result (hs : List Happening) : Outcome :=
      .request ((verdict c.settings.ackTimeout.toNat c.settings.responseTimeout.toNat
        ((logged hs).signs k.server k.settings.client)).map fun answer => ⟨k.server, k.settings.client, answer⟩)
    let ended (hs : List Happening) := (run w conn id (c.advance w id) hs).outcome? id
    (∀ hs, x.Fair start hs → ∀ o, ended hs = some o → o = result hs) ∧
    (∀ hs, x.Fair start hs → (logged hs).last = .look →
      c.settings.ackTimeout.toNat + c.settings.responseTimeout.toNat < (logged hs).time →
      ended hs = some (result hs)) ∧
    (∀ hs hs', x.Fair start hs → x.Fair start hs' →
      (logged hs).signs k.server k.settings.client = (logged hs').signs k.server k.settings.client →
      ∀ o o', ended hs = some o → ended hs' = some o' → o = o') := by
  intro x start logged result ended
  have hfollows : x.Follows start (c.advance w id) :=
    follows_of_queued h ht hrun hfree hslot hk hst hstr hrec hb hfits
  have hend : ∀ hs, x.Fair start hs → x.Follows (logged hs) (run w conn id (c.advance w id) hs) :=
    fun hs hfair => hfollows.run hcan hfair.orderly hfair.punctual
  have hverdict : ∀ hs, x.Fair start hs → ∀ o, ended hs = some o → o = result hs :=
    fun hs hfair o ho => (hend hs hfair).outcome ho
  refine ⟨hverdict, fun hs hfair hlast hover => (hend hs hfair).ended hlast hover, ?_⟩
  intro hs hs' hfair hfair' hsame o o' ho ho'
  rw [hverdict hs hfair o ho, hverdict hs' hfair' o' ho']
  simp only [result, hsame]

/-- A client that has its activation, and on which a request is called. -/
def requesting : Conversation :=
  [Event.arrive 0 (.bytes welcome.toBytes), .advance 0, .call (.request [0x3E, 0x00]) false, .advance 1,
    .advance 1].foldl (apply {}) awaitingActivation

theorem asking_welcomed :
    asking.arrive (.bytes welcome.toBytes) = { asking with stream := some (askingStream [welcome]) } := by
  have hd : Codec.drain {} ((askingStream []).buffer ++ welcome.toBytes) = { frames := [welcome] } := drain_welcome
  have hkept : (askingStream []).Kept {} := ⟨rfl, Nat.zero_le _, fun _ => rfl⟩
  have hs : (askingStream []).arrive {} 0x0E00 (.bytes welcome.toBytes) = (askingStream [welcome], false) := by
    rw [Stream.arrive_whole hkept rfl (by rw [hd]), Stream.digest, hd]
    rfl
  simp only [Connection.arrive, asking, hs]
  rfl

theorem apply_welcome {c : Conversation} {conn : Nat} (h : c.connections[conn]? = some asking) :
    c.apply {} (.arrive conn (.bytes welcome.toBytes)) =
      c.modifyConnection conn fun _ => { asking with stream := some (askingStream [welcome]) } := by
  rw [← asking_welcomed]
  exact modifyConnection_eq h (·.arrive (.bytes welcome.toBytes))

theorem awaitingActivation_welcomed : awaitingActivation.apply {} (.arrive 0 (.bytes welcome.toBytes)) =
    { awaitingActivation with connections := [{ asking with stream := some (askingStream [welcome]) }] } :=
  apply_welcome rfl

theorem requesting_eq : requesting =
    [Event.advance 0, .call (.request [0x3E, 0x00]) false, .advance 1, .advance 1].foldl (apply {})
      { awaitingActivation with connections := [{ asking with stream := some (askingStream [welcome]) }] } := by
  rw [requesting, List.foldl_cons, awaitingActivation_welcomed]

def answered : Message := .of 2 .diagnosticMessage (DiagnosticMessage.encode ⟨0x1000, 0x0E00, [0x7E, 0x00]⟩)

def acknowledged : Message := .of 2 .diagnosticMessageAck (Acknowledgement.encode ⟨0x1000, 0x0E00, 0, []⟩)

/-- The answer comes after 10 ms, and the acknowledgement behind it in the same chunk. -/
def earlyAnswer : List Happening := Log.schedule [(10, answered.toBytes ++ acknowledged.toBytes), (7001, [])]

theorem drain_answers :
    Codec.drain {} ([] ++ (answered.toBytes ++ acknowledged.toBytes)) = { frames := [answered, acknowledged] } := by
  have hans : Codec.Admits {} answered := Codec.admits_of {} (by decide) (by decide) 2
  have hack : Codec.Admits {} acknowledged := Codec.admits_of {} (by decide) (by decide) 2
  rw [List.nil_append, Codec.drain_toBytes hans, Codec.drain_frame hack]

theorem logged_earlyAnswer : Log.noteAll {} { buffer := [] } earlyAnswer =
    { time := 7011, buffer := [], frames := [(10, answered), (10, acknowledged)], unread := 0, last := .look } := by
  simp only [earlyAnswer, Log.schedule, Log.noteAll, List.foldl_cons, List.foldl_nil, Log.note, drain_answers,
    List.append_nil, Codec.drain_empty]
  rfl

theorem request_answered_early :
    (run {} 0 1 (requesting.advance {} 1) earlyAnswer).outcome? 1 =
      some (.request (.ok ⟨0x1000, 0x0E00, [0x7E, 0x00]⟩)) := by
  have hreach : Reachable requesting :=
    ((Reachable.fresh _ _ _ _).applyAll {} _).applyAll {} _
  have ht : requesting.threads[1]? = some ⟨.request [0x3E, 0x00] .queued, false⟩ := by
    rw [requesting_eq]
    rfl
  have hk : requesting.connections[0]? = some { asking with state := .activated } := by
    rw [requesting_eq]
    rfl
  have hslot : requesting.slot = some 0 ∧ requesting.holder = none ∧ requesting.running = true := by
    rw [requesting_eq]
    exact ⟨rfl, rfl, rfl⟩
  have htimes : requesting.settings.ackTimeout.toNat = 2000 ∧ requesting.settings.responseTimeout.toNat = 5000 := by
    rw [requesting_eq]
    exact ⟨rfl, rfl⟩
  have hverdict := request_verdict (w := {}) hreach ht hslot.2.2 hslot.2.1 hslot.1 hk rfl rfl rfl rfl rfl (by decide)
  rw [htimes.1, htimes.2] at hverdict
  obtain ⟨-, hends, -⟩ := hverdict
  have hsigns : (Log.noteAll {} { buffer := [] } earlyAnswer).signs 0x1000 0x0E00 =
      [(10, .answer [0x7E, 0x00]), (10, .acknowledgement .positive)] := by
    rw [logged_earlyAnswer]
    rfl
  have hfair : (Exchange.of requesting 1 0 [0x3E, 0x00] { asking with state := .activated }).Fair { buffer := [] }
      earlyAnswer := by
    refine ⟨Log.orderly_schedule ?_, ?_⟩
    · show ∀ d ∈ Codec.feed {} [] [answered.toBytes ++ acknowledged.toBytes, []], _
      simp only [Codec.feed, drain_answers, List.append_nil, Codec.drain_empty]
      decide
    · show Punctual requesting.settings.ackTimeout.toNat requesting.settings.responseTimeout.toNat
        ((Log.noteAll {} { buffer := [] } earlyAnswer).signs 0x1000 0x0E00)
      rw [hsigns, htimes.1, htimes.2]
      refine ⟨fun outcome => by simp, fun t data hack => ?_⟩
      obtain rfl : 10 = t := congrArg Prod.fst (Option.some.inj hack)
      simp
  refine (hends earlyAnswer hfair ?_ ?_).trans ?_
  · show (Log.noteAll {} { buffer := [] } earlyAnswer).last = .look
    rw [logged_earlyAnswer]
  · show 2000 + 5000 < (Log.noteAll {} { buffer := [] } earlyAnswer).time
    rw [logged_earlyAnswer]
    decide
  · show some (Outcome.request ((verdict 2000 5000
      ((Log.noteAll {} { buffer := [] } earlyAnswer).signs 0x1000 0x0E00)).map _)) = _
    rw [hsigns]
    rfl

end Conversation
end Doip
