import Doip.Proofs.Connection.Marks
import Doip.Proofs.Connection.Replies
import Doip.Proofs.Connection.Session

/-! The inbound queue of a session, first in, first out. Every step leaves the marks of an observer in balance with
the queue (`balanced_perform`), and the receiver in step with the bytes on the wire (`InStep.perform`). So whatever
the interleaving of the receiver with the caller, frames are lost only while the queue is full, and what the caller
gets is in wire order (`fifo_of_history`). -/

namespace Doip

def Arrival.carried : Arrival → Bytes
  | .bytes bs => bs
  | .endOfStream => []
  | .failure => []

namespace Stream

variable {α : Type}

/-- The frames that a search looks at: all up to the first it accepts. -/
def seen (select : Message → Selection α) : List Message → List Message
  | [] => []
  | m :: ms =>
    match select m with
    | .accept _ => [m]
    | _ => m :: seen select ms

theorem search_seen (select : Message → Selection α) (ms : List Message) :
    seen select ms ++ (search select ms).2.2 = ms ∧
      search select (seen select ms) = ((search select ms).1, (search select ms).2.1, []) := by
  induction ms with
  | nil => exact ⟨rfl, rfl⟩
  | cons m ms ih =>
    obtain ⟨hrest, hsame⟩ := ih
    cases hm : select m with
    | accept a => simp only [seen, search, hm, List.cons_append, List.nil_append, and_self]
    | setAside data => simp only [seen, search, hm, List.cons_append, hrest, hsame, and_self]
    | drop => simp only [seen, search, hm, List.cons_append, hrest, hsame, and_self]

/-- The frames that the receiver handles when something arrives. -/
def dispatched (codec : Codec) (s : Stream) : Arrival → List Message
  | .bytes bs => if s.receiving then (codec.drain (s.buffer ++ bs)).frames else []
  | .endOfStream => []
  | .failure => []

theorem dispatched_ended {codec : Codec} {s : Stream} (hr : s.receiving = false) (a : Arrival) :
    s.dispatched codec a = [] := by
  cases a <;> simp [dispatched, hr]

/-- The receiver has handled the first frames of the bytes on the wire, and as long as it runs all of them, with the
rest in its buffer. -/
structure InStep (codec : Codec) (wire : Bytes) (ms : List Message) (s : Stream) : Prop where
  frames : ms <+: (codec.drain wire).frames
  rest : s.receiving = true → codec.drain wire = { frames := ms, rest := s.buffer }

variable {codec : Codec} {wire : Bytes} {ms : List Message} {s : Stream}

theorem InStep.fresh (codec : Codec) : InStep codec [] [] {} :=
  ⟨List.nil_prefix, fun _ => codec.drain_empty⟩

theorem InStep.ended (hin : InStep codec wire ms s) (hr : s.receiving = false) (more : Bytes) :
    InStep codec (wire ++ more) ms s := by
  refine ⟨hin.frames.trans ?_, fun h => by rw [hr] at h; cases h⟩
  rw [Codec.drain_append]
  exact List.prefix_append _ _

theorem InStep.stopped (hin : InStep codec wire ms s) {s' : Stream} (hr : s'.receiving = false) :
    InStep codec wire ms s' :=
  ⟨hin.frames, fun h => by rw [hr] at h; cases h⟩

theorem InStep.arrive (hin : InStep codec wire ms s) (hs : s.Kept codec) (client : Address) (a : Arrival) :
    InStep codec (wire ++ a.carried) (ms ++ s.dispatched codec a) (s.arrive codec client a).1 := by
  cases hr : s.receiving with
  | false =>
    rw [arrive_ended hr, dispatched_ended hr, List.append_nil]
    exact hin.ended hr _
  | true =>
    cases a with
    | endOfStream =>
      rw [Arrival.carried, dispatched, List.append_nil, List.append_nil]
      exact hin.stopped (by simp [Stream.arrive, hr])
    | failure =>
      rw [Arrival.carried, dispatched, List.append_nil, List.append_nil]
      exact hin.stopped (by simp [Stream.arrive, hr])
    | bytes bs =>
      have hwire : codec.drain (wire ++ bs) =
          (codec.drain wire).andThen (codec.drain (s.buffer ++ bs)) := by
        rw [Codec.drain_append, hin.rest hr]
      rw [hin.rest hr] at hwire
      rw [Arrival.carried, dispatched, if_pos hr]
      cases hf : (codec.drain (s.buffer ++ bs)).fault with
      | none =>
        rw [arrive_whole hs hr hf]
        refine ⟨by rw [hwire]; exact List.prefix_rfl, fun _ => ?_⟩
        rw [hwire, Codec.Drained.andThen, hf]
        rfl
      | some e =>
        rw [arrive_broken hs hr hf]
        exact ⟨by rw [hwire]; exact List.prefix_rfl, fun h => by cases h⟩

end Stream

namespace Connection

/-- The frames that the receiver handles when something arrives. -/
def dispatched (c : Connection) (a : Arrival) : List Message :=
  match c.stream with
  | some s => s.dispatched c.settings.codec a
  | none => []

/-- The frames that a wait takes out of the queue when it looks. -/
def offered {α : Type} (c : Connection) (w : Wait) (shutDown : Bool) (select : Message → Stream.Selection α) :
    List Message :=
  if shutDown || w.stopped then [] else Stream.seen select c.pending

/-- What an observer notes when something happens to a connection. -/
def marks (c : Connection) : Doing → List Mark
  | .arrive a => (c.dispatched a).map .dispatched
  | .take w shutDown => (c.offered w shutDown Stream.Selection.accept).map .received
  | .lookActivation w shutDown => (c.offered w shutDown c.selectActivation).map .received
  | .lookAcknowledgement w shutDown _ => (c.offered w shutDown c.selectAcknowledgement).map .received
  | .lookResponse w shutDown => (c.offered w shutDown c.selectResponse).map .received
  | .discard => c.pending.map .discarded
  | _ => []

def history : Connection → List Doing → List Mark
  | _, [] => []
  | c, d :: ds => c.marks d ++ (c.perform d).1.history ds

variable {c : Connection} {α : Type}

/-! What is taken, what is still there and what comes make up what was there and what found a place. -/

theorem Kept.room (hc : c.Kept) : c.pending.length ≤ queueDepth := by
  unfold pending
  cases hs : c.stream with
  | none => exact Nat.zero_le _
  | some s => exact (hc s hs).room

theorem pending_arrive (hc : c.Kept) (a : Arrival) :
    (c.arrive a).pending = (c.pending ++ (c.dispatched a).filter Stream.forwards).take queueDepth := by
  have hfit : (c.pending ++ []).take queueDepth = c.pending := by
    rw [List.append_nil, List.take_of_length_le hc.room]
  cases hs : c.stream with
  | none =>
    have hsame : c.arrive a = c := by simp only [arrive, hs]
    have hnone : c.dispatched a = [] := by simp only [dispatched, hs]
    rw [hsame, hnone, List.filter_nil, hfit]
  | some s =>
    have hk := hc s hs
    have hsame : c.dispatched a = s.dispatched c.settings.codec a := by simp only [dispatched, hs]
    rw [hsame]
    cases hr : s.receiving with
    | false => rw [arrive_ended hs hr, Stream.dispatched_ended hr, List.filter_nil, hfit]
    | true =>
      rw [arrive_of_stream hs, pending_eq rfl, pending_eq hs]
      rw [pending_eq hs] at hfit
      cases a with
      | bytes bs =>
        rw [Stream.dispatched, if_pos hr]
        cases hf : (c.settings.codec.drain (s.buffer ++ bs)).fault with
        | none =>
          rw [Stream.arrive_whole hk hr hf]
          rfl
        | some e =>
          rw [Stream.arrive_broken hk hr hf]
          exact Stream.write_queue _ _
      | endOfStream => simpa [Stream.arrive, hr, Stream.dispatched] using hfit.symm
      | failure => simpa [Stream.arrive, hr, Stream.dispatched] using hfit.symm

theorem poll_offered (c : Connection) (w : Wait) (shutDown : Bool) (select : Message → Stream.Selection α) :
    c.offered w shutDown select ++ (c.poll w shutDown select).1.pending = c.pending ∧
      (c.poll w shutDown select).2.1 = (Stream.search select (c.offered w shutDown select)).2.1 ∧
      ∀ a, (c.poll w shutDown select).2.2 = some (.ok a) ↔
        (Stream.search select (c.offered w shutDown select)).1 = some a := by
  cases hs : c.stream with
  | none =>
    have hnone : c.offered w shutDown select = [] := by
      unfold offered pending
      rw [hs]
      exact ite_self _
    rw [hnone, poll_without_stream hs]
    exact ⟨rfl, rfl, fun a => by simp [Stream.search]⟩
  | some s =>
    cases hw : shutDown || w.stopped with
    | true =>
      rw [offered, if_pos hw, poll_cancelled hs hw]
      exact ⟨rfl, rfl, fun a => by simp [Stream.search]⟩
    | false =>
      obtain ⟨rfl, hst⟩ : shutDown = false ∧ w.stopped = false := by simpa using hw
      obtain ⟨hrest, hsame⟩ := Stream.search_seen select s.queue
      rw [offered, if_neg (by simp [hst]), poll_eq hs hst, pending_eq hs, hsame]
      refine ⟨hrest, rfl, fun a => ?_⟩
      cases (Stream.search select s.queue).1 with
      | some b => simp
      | none =>
        simp only
        split_ifs <;> simp

theorem pending_discardPending (c : Connection) : c.discardPending.1.pending = [] := by
  unfold pending discardPending
  cases c.stream <;> rfl

/-- What `marks` says of a step, against the queue before and behind it. -/
def Balanced (c c' : Connection) (h : List Mark) : Prop :=
  Mark.leavings h ++ c'.pending = c.pending ++ Mark.admitted c.pending.length 0 h

theorem Balanced.still {c' : Connection} (h : c'.pending = c.pending) : c.Balanced c' [] := by
  rw [Balanced, h]
  exact (List.append_nil _).symm

theorem Balanced.received {c' : Connection} {ms : List Message} (h : ms ++ c'.pending = c.pending) :
    c.Balanced c' (ms.map .received) := by
  rw [Balanced, Mark.leavings_received, Mark.admitted_received, h, List.append_nil]

theorem balanced_perform (hc : c.Kept) (d : Doing) : c.Balanced (c.perform d).1 (c.marks d) := by
  cases d with
  | arrive a =>
    have hadmit := Mark.admitted_dispatched hc.room (c.dispatched a)
    rw [Balanced, marks, Mark.leavings_dispatched, hadmit, List.nil_append, perform, pending_arrive hc,
      List.take_append, List.take_of_length_le hc.room]
  | arriveFormer i a => exact .still (c.pending_arriveFormer i a)
  | close => exact .still rfl
  | noticeClosed => exact .still c.pending_noticeClosed
  | sever => exact .still (c.pending_map _ fun _ => rfl)
  | beginActivation => exact .still rfl
  | writeActivation => exact .still c.pending_writeActivation
  | send data => exact .still (c.pending_send data)
  | take w shutDown => exact .received (c.poll_offered w shutDown _).1
  | lookActivation w shutDown =>
    obtain ⟨state, hlook⟩ := c.lookActivation_eq w shutDown
    refine .received ?_
    rw [perform, hlook]
    exact (c.poll_offered w shutDown c.selectActivation).1
  | lookAcknowledgement w shutDown aside =>
    obtain ⟨state, early, hlook⟩ := c.lookAcknowledgement_eq w shutDown aside
    refine .received ?_
    rw [perform, hlook]
    exact (c.poll_offered w shutDown c.selectAcknowledgement).1
  | lookResponse w shutDown =>
    obtain ⟨state, hlook⟩ := c.lookResponse_eq w shutDown
    refine .received ?_
    rw [perform, hlook]
    exact (c.poll_offered w shutDown c.selectResponse).1
  | beginResponse => exact .still c.pending_beginResponse
  | discard => rw [Balanced, marks, Mark.leavings_discarded, Mark.admitted_discarded, perform, pending_discardPending]

theorem Balanced.append {c' c'' : Connection} {h h' : List Mark} (hbal : c.Balanced c' h)
    (hbal' : c'.Balanced c'' h') : c.Balanced c'' (h ++ h') := by
  -- the two counters at the second part differ by what waits between the parts
  have hcount : c.pending.length + (Mark.admitted c.pending.length 0 h).length =
      c'.pending.length + (Mark.leavings h).length := by
    have hlen := congrArg List.length hbal
    rw [List.length_append, List.length_append] at hlen
    omega
  rw [Balanced, Mark.admitted_append, hcount, Mark.admitted_shift, Mark.leavings_append, List.append_assoc, hbal',
    ← List.append_assoc, hbal, List.append_assoc]

theorem balanced_performAll (hc : c.Kept) (ds : List Doing) : c.Balanced (c.performAll ds) (c.history ds) := by
  induction ds generalizing c with
  | nil => exact .still rfl
  | cons d ds ih => exact (balanced_perform hc d).append (ih (hc.perform d))

/-! What the receiver handles are the frames on the wire. -/

/-- A step that reads nothing leaves the settings alone, and the bytes that are no whole frame yet. -/
structure Unread (c c' : Connection) : Prop where
  settings : c'.settings = c.settings
  stream : ∀ s, c.stream = some s →
    ∃ s', c'.stream = some s' ∧ s'.buffer = s.buffer ∧ (s'.receiving = true → s.receiving = true)

theorem Unread.trans {c' c'' : Connection} (h : c.Unread c') (h' : c'.Unread c'') : c.Unread c'' := by
  refine ⟨h'.settings.trans h.settings, fun s hs => ?_⟩
  obtain ⟨s', hs', hbuf, hrec⟩ := h.stream s hs
  obtain ⟨s'', hs'', hbuf', hrec'⟩ := h'.stream s' hs'
  exact ⟨s'', hs'', hbuf'.trans hbuf, fun h => hrec (hrec' h)⟩

theorem Unread.same {c' : Connection} (hset : c'.settings = c.settings) (hstr : c'.stream = c.stream) :
    c.Unread c' :=
  ⟨hset, fun s hs => ⟨s, hstr.trans hs, rfl, id⟩⟩

theorem Unread.map {c' : Connection} (hset : c'.settings = c.settings) (f : Stream → Stream)
    (hstr : c'.stream = c.stream.map f)
    (hf : ∀ s, (f s).buffer = s.buffer ∧ ((f s).receiving = true → s.receiving = true)) : c.Unread c' := by
  refine ⟨hset, fun s hs => ⟨f s, ?_, hf s⟩⟩
  rw [hstr, hs]
  rfl

theorem unread_write? {c' : Connection} {frame : Bytes} (hw : c.write? frame = some c') : c.Unread c' := by
  unfold write? at hw
  split at hw
  · cases hw
  · rename_i s hs
    split at hw
    · cases hw
    · rename_i hb
      cases hw
      refine .map rfl (fun s => s.write frame) (by rw [hs]; rfl) fun s => ?_
      exact ⟨by unfold Stream.write; split <;> rfl, fun h => (s.write_receiving frame).symm.trans h⟩

theorem unread_poll (c : Connection) (w : Wait) (shutDown : Bool) (select : Message → Stream.Selection α) :
    c.Unread (c.poll w shutDown select).1 := by
  rcases c.poll_connection w shutDown select with h | ⟨s, hs, h⟩
  · rw [h]
    exact .same rfl rfl
  · rw [h]
    exact .map rfl (fun s => { s with queue := (Stream.search select s.queue).2.2 }) (by rw [hs]; rfl)
      fun s => ⟨rfl, id⟩

theorem unread_perform (c : Connection) {d : Doing} (hd : ∀ a, d ≠ .arrive a) : c.Unread (c.perform d).1 := by
  cases d with
  | arrive a => exact absurd rfl (hd a)
  | arriveFormer i a =>
    simp only [perform, arriveFormer]
    split <;> exact .same rfl rfl
  | close => exact .same rfl rfl
  | noticeClosed =>
    simp only [perform, noticeClosed]
    split
    · exact .map rfl (fun s => { s with receiving := false }) rfl fun s => ⟨rfl, fun h => by cases h⟩
    · exact .same rfl rfl
  | sever => exact .map rfl (fun s => { s with broken := true }) rfl fun s => ⟨rfl, id⟩
  | beginActivation => exact .same rfl rfl
  | writeActivation =>
    simp only [perform, writeActivation]
    cases hw : c.write? c.activationRequest with
    | none => exact .same rfl rfl
    | some c' => exact unread_write? hw
  | send data =>
    simp only [perform, send, writeRequest]
    split
    · exact .same rfl rfl
    · split
      · rename_i hw
        exact unread_write? hw
      · exact .same rfl rfl
  | take w shutDown => exact c.unread_poll w shutDown _
  | lookActivation w shutDown =>
    obtain ⟨state, hlook⟩ := c.lookActivation_eq w shutDown
    rw [perform, hlook]
    exact (c.unread_poll w shutDown c.selectActivation).trans (.same rfl rfl)
  | lookAcknowledgement w shutDown aside =>
    obtain ⟨state, early, hlook⟩ := c.lookAcknowledgement_eq w shutDown aside
    rw [perform, hlook]
    exact (c.unread_poll w shutDown c.selectAcknowledgement).trans (.same rfl rfl)
  | lookResponse w shutDown =>
    obtain ⟨state, hlook⟩ := c.lookResponse_eq w shutDown
    rw [perform, hlook]
    exact (c.unread_poll w shutDown c.selectResponse).trans (.same rfl rfl)
  | beginResponse =>
    simp only [perform, beginResponse]
    split
    · exact .same rfl rfl
    · split <;> exact .same rfl rfl
  | discard => exact .map rfl (fun s => { s with queue := [] }) rfl fun s => ⟨rfl, id⟩

def Doing.carried : Doing → Bytes
  | .arrive a => a.carried
  | _ => []

/-- The receiver of the current stream has handled the first frames of the bytes on the wire. -/
structure InStep (codec : Codec) (wire : Bytes) (h : List Mark) (c : Connection) : Prop where
  codec_eq : c.settings.codec = codec
  stream : ∃ s, c.stream = some s ∧ s.InStep codec wire (Mark.dispatches h)

variable {codec : Codec} {wire : Bytes} {h : List Mark}

theorem InStep.adopt (c : Connection) : c.adopt.InStep c.settings.codec [] [] :=
  ⟨rfl, {}, rfl, Stream.InStep.fresh _⟩

theorem InStep.unread {c' : Connection} (hin : c.InStep codec wire h) (hu : c.Unread c') :
    c'.InStep codec wire h := by
  obtain ⟨s, hs, hstep⟩ := hin.stream
  obtain ⟨s', hs', hbuf, hrec⟩ := hu.stream s hs
  refine ⟨(congrArg (·.codec) hu.settings).trans hin.codec_eq, s', hs', hstep.frames, fun hr => ?_⟩
  rw [hbuf, hstep.rest (hrec hr)]

theorem marks_own {d : Doing} (hd : ∀ a, d ≠ .arrive a) (c : Connection) :
    Mark.dispatches (c.marks d) = [] ∧ d.carried = [] := by
  cases d with
  | arrive a => exact absurd rfl (hd a)
  | take w shutDown => exact ⟨Mark.dispatches_received _, rfl⟩
  | lookActivation w shutDown => exact ⟨Mark.dispatches_received _, rfl⟩
  | lookAcknowledgement w shutDown aside => exact ⟨Mark.dispatches_received _, rfl⟩
  | lookResponse w shutDown => exact ⟨Mark.dispatches_received _, rfl⟩
  | discard => exact ⟨Mark.dispatches_discarded _, rfl⟩
  | _ => exact ⟨rfl, rfl⟩

theorem InStep.perform (hin : c.InStep codec wire h) (hc : c.Kept) (d : Doing) :
    (c.perform d).1.InStep codec (wire ++ d.carried) (h ++ c.marks d) := by
  by_cases hd : ∀ a, d ≠ .arrive a
  · obtain ⟨hnone, hcarried⟩ := marks_own hd c
    obtain ⟨hcodec, s, hs, hstep⟩ := hin.unread (c.unread_perform hd)
    refine ⟨hcodec, s, hs, ?_⟩
    rwa [hcarried, List.append_nil, Mark.dispatches_append, hnone, List.append_nil]
  · obtain ⟨a, rfl⟩ : ∃ a, d = .arrive a := by simpa using hd
    obtain ⟨rfl, s, hs, hstep⟩ := hin
    have hnext := hstep.arrive (hc s hs) c.settings.client a
    have hmarks : c.marks (.arrive a) = (s.dispatched c.settings.codec a).map .dispatched := by
      simp only [marks, dispatched, hs]
    rw [Connection.perform, arrive_of_stream hs, hmarks]
    refine ⟨rfl, _, rfl, ?_⟩
    rwa [Mark.dispatches_append, Mark.dispatches_dispatched]

theorem InStep.performAll (hin : c.InStep codec wire h) (hc : c.Kept) (ds : List Doing) :
    (c.performAll ds).InStep codec (wire ++ ds.flatMap Doing.carried) (h ++ c.history ds) := by
  induction ds generalizing c wire h with
  | nil => simpa [Connection.performAll, history] using hin
  | cons d ds ih =>
    have hnext := ih (hin.perform hc d) (hc.perform d)
    rwa [List.append_assoc, List.append_assoc] at hnext

/-! The queue of a session. -/

/-- A queue first in, first out that loses a frame only when it is full, by what was on the wire and by what an
observer has noted. -/
structure Fifo (codec : Codec) (wire : Bytes) (h : List Mark) (c : Connection) : Prop where
  bounded : c.pending.length ≤ 64
  /-- What has left and what still waits are together the frames that found a place. -/
  conserved : Mark.leavings h ++ c.pending = Mark.admits h
  /-- The frames on the wire are handled in their order. -/
  ordered : Mark.dispatches h <+: (codec.drain wire).frames
  /-- Those that find a place are among those for the caller, each once and in their order. -/
  chosen : (Mark.admits h).Sublist ((Mark.dispatches h).filter Stream.forwards)
  /-- No alive check and no unassigned type has a place. -/
  forCaller : ∀ m ∈ c.pending, m.type.isKnown = true ∧ m.type ≠ .aliveCheckRequest
  /-- With fewer than 64 waiting whenever a frame for the caller comes, none is lost. -/
  lossless : (∀ h₁ m h₂, h = h₁ ++ .dispatched m :: h₂ → Stream.forwards m = true →
      (Mark.admits h₁).length < (Mark.leavings h₁).length + 64) →
    Mark.admits h = (Mark.dispatches h).filter Stream.forwards
  /-- A wait takes frames from the front, and what it finds and sets aside are these as they are. -/
  taken : ∀ {α : Type} (w : Wait) (shutDown : Bool) (select : Message → Stream.Selection α),
    c.offered w shutDown select ++ (c.poll w shutDown select).1.pending = c.pending ∧
      (c.poll w shutDown select).2.1 = (Stream.search select (c.offered w shutDown select)).2.1 ∧
      ∀ a, (c.poll w shutDown select).2.2 = some (.ok a) ↔
        (Stream.search select (c.offered w shutDown select)).1 = some a
  /-- A discard counts the frames it removes and the responses it clears, and it leaves neither. -/
  discarded : c.discardPending.2 = c.early.length + (c.marks .discard).length ∧
    c.discardPending.1.early = [] ∧ c.discardPending.1.pending = []

theorem forCaller_of_forwards {m : Message} (hf : Stream.forwards m = true) :
    m.type.isKnown = true ∧ m.type ≠ .aliveCheckRequest := by
  unfold Stream.forwards at hf
  cases ht : m.type <;> simp_all [PayloadType.isKnown]

theorem discarded_count (c : Connection) :
    c.discardPending.2 = c.early.length + (c.marks .discard).length := by
  rw [marks, List.length_map]
  unfold pending discardPending
  cases c.stream <;> rfl

/-- Whatever arrives on a stream, in whatever pieces, and whatever its caller takes, discards or writes in between,
the queue is first in, first out and loses nothing while it has room. -/
theorem fifo_of_history (c₀ : Connection) (ds : List Doing) :
    (c₀.adopt.performAll ds).Fifo c₀.settings.codec (ds.flatMap Doing.carried) (c₀.adopt.history ds) := by
  have hkept := c₀.kept_adopt
  have hconserved : Mark.leavings (c₀.adopt.history ds) ++ (c₀.adopt.performAll ds).pending =
      Mark.admits (c₀.adopt.history ds) := balanced_performAll hkept ds
  obtain ⟨-, s, -, hstep⟩ := (InStep.adopt c₀).performAll hkept ds
  have hchosen := Mark.admitted_sublist 0 0 (c₀.adopt.history ds)
  exact {
    bounded := (hkept.performAll ds).room
    conserved := hconserved
    ordered := hstep.frames
    chosen := hchosen
    forCaller := fun m hm => by
      have hadmitted : m ∈ Mark.admits (c₀.adopt.history ds) := hconserved ▸ List.mem_append_right _ hm
      exact forCaller_of_forwards (List.mem_filter.1 (hchosen.subset hadmitted)).2
    lossless := fun hroom => Mark.admitted_eq_of_room fun h₁ m h₂ hh hm => by
      rw [Nat.zero_add, Nat.zero_add]
      exact hroom h₁ m h₂ hh hm
    taken := fun w shutDown select => poll_offered _ w shutDown select
    discarded := ⟨discarded_count _, rfl, pending_discardPending _⟩ }

end Connection
end Doip
