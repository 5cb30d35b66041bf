import Doip.Proofs.Connection.Persists
import Doip.Proofs.Connection.Session

/-! Two sessions of one connection, the later one beside what the earlier ones have left: streams whose receivers may
still run, and responses that were set aside. The same session without all that has the same queue at all times, and its
waits end in the same way (`Beside`). Two things get across. A receiver that is left over records its loss as that of
the connection, and a response that is left over is taken for the next one. Where there is neither the sessions cannot
be told apart (`isolated_iff_nothing_left`). -/

namespace Doip

namespace Stream

variable {codec : Codec} {s s' : Stream}

/-- A stream but for what was written on it. -/
def unwritten (s : Stream) : Stream := { s with written := [] }

theorem unwritten_write (s : Stream) (frame : Bytes) : (s.write frame).unwritten = s.unwritten := by
  unfold write
  split <;> rfl

theorem eq_of_unwritten (h : s.unwritten = s'.unwritten) :
    s.queue = s'.queue ∧ s.receiving = s'.receiving ∧ s.broken = s'.broken := by
  simp only [unwritten, Stream.mk.injEq] at h
  obtain ⟨-, hqueue, hreceiving, -, -, hbroken, -⟩ := h
  exact ⟨hqueue, hreceiving, hbroken⟩

theorem unwritten_arrive (hs : s.Kept codec) (hs' : s'.Kept codec) (h : s.unwritten = s'.unwritten) (client : Address)
    (a : Arrival) :
    (s.arrive codec client a).1.unwritten = (s'.arrive codec client a).1.unwritten ∧
      (s.arrive codec client a).2 = (s'.arrive codec client a).2 := by
  obtain ⟨buffer, queue, receiving, attended, written, broken, shut⟩ := s
  obtain ⟨buffer', queue', receiving', attended', written', broken', shut'⟩ := s'
  simp only [unwritten, Stream.mk.injEq] at h
  obtain ⟨rfl, rfl, rfl, rfl, -, rfl, rfl⟩ := h
  cases receiving with
  | false =>
    rw [arrive_ended rfl, arrive_ended rfl]
    exact ⟨rfl, rfl⟩
  | true =>
    cases a with
    | endOfStream => exact ⟨rfl, rfl⟩
    | failure => exact ⟨rfl, rfl⟩
    | bytes bs =>
      rw [arrive_bytes hs rfl, arrive_bytes hs' rfl]
      cases (codec.drain (buffer ++ bs)).fault with
      | none => exact ⟨rfl, rfl⟩
      | some e =>
        refine ⟨?_, rfl⟩
        simp only [reject, write, digest, absorb]
        cases broken <;> rfl

end Stream
namespace Connection

variable {k k' c : Connection} {α : Type}

/-- A session and the same one without what earlier sessions have left. They have the same queue, and a receiver that
reads the same; the state of the first may be overwritten, and it may have further responses in front. -/
structure Beside (k k' : Connection) : Prop where
  settings : k.settings = k'.settings
  server : k.server = k'.server
  closed : k.closed = k'.closed
  stream : k.stream.map Stream.unwritten = k'.stream.map Stream.unwritten
  state : k.state = k'.state ∨ k.state = .faulted
  former : k'.former = []
  early : k'.early <:+ k.early

theorem beginResponse_fst (c : Connection) : c.beginResponse.1 = { c with early := c.early.tail } := by
  obtain ⟨settings, server, state, closed, dial, stream, former, early⟩ := c
  unfold beginResponse
  cases early with
  | nil => exact apply_ite Prod.fst _ _ _ |>.trans (ite_self _)
  | cons data early => rfl

namespace Beside

theorem streams (h : k.Beside k') :
    (k.stream = none ∧ k'.stream = none) ∨
      ∃ s s', k.stream = some s ∧ k'.stream = some s' ∧ s.unwritten = s'.unwritten := by
  have hstream := h.stream
  cases hs : k.stream with
  | none =>
    rw [hs] at hstream
    exact .inl ⟨rfl, Option.map_eq_none_iff.1 hstream.symm⟩
  | some s =>
    rw [hs] at hstream
    obtain ⟨s', hs', hsame⟩ := Option.map_eq_some_iff.1 hstream.symm
    exact .inr ⟨s, s', rfl, hs', hsame.symm⟩

theorem pending (h : k.Beside k') : k.pending = k'.pending := by
  rcases h.streams with ⟨hs, hs'⟩ | ⟨s, s', hs, hs', hsame⟩
  · rw [Connection.pending, Connection.pending, hs, hs']
  · rw [pending_eq hs, pending_eq hs']
    exact (Stream.eq_of_unwritten hsame).1

theorem mapStream (h : k.Beside k') (f f' : Stream → Stream)
    (hf : ∀ s s', s.unwritten = s'.unwritten → (f s).unwritten = (f' s').unwritten) :
    Beside { k with stream := k.stream.map f } { k' with stream := k'.stream.map f' } := by
  refine { h with stream := ?_ }
  rcases h.streams with ⟨hs, hs'⟩ | ⟨s, s', hs, hs', hsame⟩
  · rw [hs, hs']
    rfl
  · rw [hs, hs']
    exact congrArg some (hf s s' hsame)

theorem setState (h : k.Beside k') (state : ConnectionState) :
    Beside { k with state := state } { k' with state := state } :=
  { h with state := .inl rfl }

theorem arrive (h : k.Beside k') (hk : k.Kept) (hk' : k'.Kept) (a : Arrival) : (k.arrive a).Beside (k'.arrive a) := by
  unfold Connection.arrive
  rcases h.streams with ⟨hs, hs'⟩ | ⟨s, s', hs, hs', hsame⟩
  · rw [hs, hs']
    exact h
  · have hkept := hk s hs
    rw [h.settings] at hkept
    obtain ⟨hstream, hlost⟩ := Stream.unwritten_arrive hkept (hk' s' hs') hsame k'.settings.client a
    simp only [hs, hs', h.settings, h.closed, hlost]
    refine { h with settings := rfl, closed := rfl, stream := congrArg some hstream, state := ?_ }
    split
    · exact .inl rfl
    · exact h.state

theorem arriveFormer (h : k.Beside k') (i : Nat) (a : Arrival) : (k.arriveFormer i a).Beside (k'.arriveFormer i a) := by
  have hnone : k'.arriveFormer i a = k' := by simp [Connection.arriveFormer, h.former]
  rw [hnone]
  unfold Connection.arriveFormer
  split
  · exact h
  · refine { h with state := ?_ }
    simp only
    split
    · exact .inr rfl
    · exact h.state

theorem noticeClosed (h : k.Beside k') : k.noticeClosed.Beside k'.noticeClosed := by
  unfold Connection.noticeClosed
  rw [h.closed]
  split
  · have hstopped := h.mapStream (fun s => { s with receiving := false }) (fun s => { s with receiving := false })
      fun s s' hsame => congrArg (fun s : Stream => { s with receiving := false }) hsame
    exact { hstopped with closed := rfl, former := by simp [h.former] }
  · exact h

theorem write? (h : k.Beside k') (frame : Bytes) :
    (k.write? frame = none ∧ k'.write? frame = none) ∨
      ∃ j j', k.write? frame = some j ∧ k'.write? frame = some j' ∧ j.Beside j' ∧ k.Beside j' := by
  unfold Connection.write?
  rcases h.streams with ⟨hs, hs'⟩ | ⟨s, s', hs, hs', hsame⟩
  · rw [hs, hs']
    exact .inl ⟨rfl, rfl⟩
  · have hbroken := (Stream.eq_of_unwritten hsame).2.2
    simp only [hs, hs', hbroken]
    cases s'.broken with
    | true => exact .inl ⟨rfl, rfl⟩
    | false =>
      refine .inr ⟨_, _, rfl, rfl, { h with stream := congrArg some ?_ }, { h with stream := ?_ }⟩
      · rw [Stream.unwritten_write, Stream.unwritten_write, hsame]
      · rw [hs]
        exact congrArg some (hsame.trans (s'.unwritten_write frame).symm)

theorem poll (h : k.Beside k') (w : Wait) (shutDown : Bool) (select : Message → Stream.Selection α) :
    ∃ j j' found, k.poll w shutDown select = (j, found) ∧ k'.poll w shutDown select = (j', found) ∧ j.Beside j' := by
  rcases h.streams with ⟨hs, hs'⟩ | ⟨s, s', hs, hs', hsame⟩
  · exact ⟨k, k', _, poll_without_stream hs, poll_without_stream hs', h⟩
  · cases hw : shutDown || w.stopped with
    | true => exact ⟨k, k', _, poll_cancelled hs hw, poll_cancelled hs' hw, h⟩
    | false =>
      obtain ⟨rfl, hst⟩ : shutDown = false ∧ w.stopped = false := by simpa using hw
      obtain ⟨hqueue, hreceiving, -⟩ := Stream.eq_of_unwritten hsame
      rw [poll_eq hs hst, poll_eq hs' hst, hqueue, hreceiving]
      refine ⟨_, _, _, rfl, rfl, { h with stream := ?_ }⟩
      rw [searched, searched, hqueue]
      exact congrArg (fun s : Stream => some { s with queue := (Stream.search select s'.queue).2.2 }) hsame

theorem faultOnLoss (h : k.Beside k') (result : Except ReceiveError α) :
    (k.faultOnLoss result).Beside (k'.faultOnLoss result) := by
  unfold Connection.faultOnLoss
  split
  · exact h.setState .faulted
  · exact h

theorem finishActivation (h : k.Beside k') (result : Except ReceiveError ActivationResponse) :
    (k.finishActivation result).2 = (k'.finishActivation result).2 ∧
      (k.finishActivation result).1.Beside (k'.finishActivation result).1 := by
  unfold Connection.finishActivation
  split
  · split
    · exact ⟨rfl, h.setState .activated⟩
    · exact ⟨rfl, h.setState .faulted⟩
  · exact ⟨rfl, h.setState .faulted⟩

theorem send (h : k.Beside k') (data : Bytes) : (k.send data).1.Beside (k'.send data).1 := by
  rcases h.state with hstate | hlost
  · have hframe : k.requestFrame data = k'.requestFrame data := by
      simp only [requestFrame, hstate, h.settings, h.server]
    unfold Connection.send
    rw [hframe]
    split
    · exact h
    · rename_i frame _
      unfold writeRequest
      rcases h.write? frame with ⟨hw, hw'⟩ | ⟨j, j', hw, hw', hj, -⟩
      · rw [hw, hw']
        exact h.setState .faulted
      · rw [hw, hw']
        exact hj
  · -- the state decides who may send, so the other may send where this one is lost
    have hrefused : (k.send data).1 = k := by simp [Connection.send, requestFrame, hlost]
    rw [hrefused]
    unfold Connection.send
    split
    · exact h
    · rename_i frame _
      unfold writeRequest
      rcases h.write? frame with ⟨-, hw'⟩ | ⟨j, j', -, hw', -, hj⟩
      · rw [hw']
        exact { h with state := .inr hlost }
      · rw [hw']
        exact hj

theorem writeActivation (h : k.Beside k') :
    (k.perform .writeActivation).2 = (k'.perform .writeActivation).2 ∧
      (k.perform .writeActivation).1.Beside (k'.perform .writeActivation).1 := by
  have hrequest : k.activationRequest = k'.activationRequest := by
    rw [activationRequest, activationRequest, h.settings]
  simp only [Connection.perform, Connection.writeActivation, hrequest]
  rcases h.write? k'.activationRequest with ⟨hw, hw'⟩ | ⟨j, j', hw, hw', hj, -⟩
  · rw [hw, hw']
    exact ⟨rfl, h.setState .faulted⟩
  · rw [hw, hw']
    exact ⟨rfl, hj⟩

theorem lookActivation (h : k.Beside k') (w : Wait) (shutDown : Bool) :
    (k.resume "" w shutDown .activation).2 = (k'.resume "" w shutDown .activation).2 ∧
      (k.resume "" w shutDown .activation).1.Beside (k'.resume "" w shutDown .activation).1 := by
  have hselect : k.selectActivation = k'.selectActivation := by
    funext m
    simp only [selectActivation, h.settings, h.server]
  obtain ⟨j, j', ⟨aside, _ | result⟩, hp, hp', hj⟩ := h.poll w shutDown k'.selectActivation
  · simp only [resume, hselect, hp, hp']
    exact ⟨trivial, hj⟩
  · obtain ⟨hresult, hdone⟩ := hj.finishActivation result
    simp only [resume, hselect, hp, hp', hresult]
    exact ⟨trivial, hdone⟩

theorem lookAcknowledgement (h : k.Beside k') (w : Wait) (shutDown : Bool) (before : List Bytes) :
    (k.resume "" w shutDown (.acknowledgement before)).2 = (k'.resume "" w shutDown (.acknowledgement before)).2 ∧
      (k.resume "" w shutDown (.acknowledgement before)).1.Beside
        (k'.resume "" w shutDown (.acknowledgement before)).1 := by
  have hselect : k.selectAcknowledgement = k'.selectAcknowledgement := by
    funext m
    simp only [selectAcknowledgement, h.settings, h.server]
  obtain ⟨j, j', ⟨aside, _ | result⟩, hp, hp', hj⟩ := h.poll w shutDown k'.selectAcknowledgement
  · simp only [resume, hselect, hp, hp']
    exact ⟨trivial, hj⟩
  · have hearly : Beside { j with early := j.early ++ before ++ aside }
        { j' with early := j'.early ++ before ++ aside } := by
      obtain ⟨front, hfront⟩ := hj.early
      exact { hj with early := ⟨front, by rw [← hfront, List.append_assoc, List.append_assoc, List.append_assoc]⟩ }
    simp only [resume, hselect, hp, hp']
    exact ⟨trivial, hearly.faultOnLoss result⟩

theorem lookResponse (h : k.Beside k') (w : Wait) (shutDown : Bool) :
    (k.resume "" w shutDown .response).2 = (k'.resume "" w shutDown .response).2 ∧
      (k.resume "" w shutDown .response).1.Beside (k'.resume "" w shutDown .response).1 := by
  have hselect : k.selectResponse = k'.selectResponse := by
    funext m
    simp only [selectResponse, h.settings, h.server]
  obtain ⟨j, j', ⟨aside, _ | result⟩, hp, hp', hj⟩ := h.poll w shutDown k'.selectResponse
  · simp only [resume, hselect, hp, hp']
    exact ⟨trivial, hj⟩
  · simp only [resume, hselect, hp, hp']
    exact ⟨trivial, hj.faultOnLoss result⟩

/-- A response that is left over is taken first, and those of the second session stay behind. -/
theorem beginResponse (h : k.Beside k') : k.beginResponse.1.Beside k'.beginResponse.1 := by
  rw [beginResponse_fst, beginResponse_fst]
  obtain ⟨front, hfront⟩ := h.early
  refine { h with early := ?_ }
  show k'.early.tail <:+ k.early.tail
  rw [← hfront]
  cases front with
  | nil => exact List.suffix_rfl
  | cons data front => exact (List.tail_suffix _).trans (List.suffix_append _ _)

theorem discardPending (h : k.Beside k') : k.discardPending.1.Beside k'.discardPending.1 :=
  { h.mapStream (fun s => { s with queue := [] }) (fun s => { s with queue := [] })
      (fun _ _ hsame => congrArg (fun s : Stream => { s with queue := [] }) hsame) with
    early := List.suffix_rfl }

theorem sever (h : k.Beside k') : (k.perform .sever).1.Beside (k'.perform .sever).1 :=
  h.mapStream (fun s => { s with broken := true }) (fun s => { s with broken := true })
    fun _ _ hsame => congrArg (fun s : Stream => { s with broken := true }) hsame

theorem perform (h : k.Beside k') (hk : k.Kept) (hk' : k'.Kept) (d : Doing) :
    (k.perform d).1.Beside (k'.perform d).1 := by
  cases d with
  | arrive a => exact h.arrive hk hk' a
  | arriveFormer i a => exact h.arriveFormer i a
  | close => exact { h with closed := rfl }
  | noticeClosed => exact h.noticeClosed
  | sever => exact h.sever
  | beginActivation => exact h.setState .activating
  | writeActivation => exact h.writeActivation.2
  | send data => exact h.send data
  | take w shutDown =>
    obtain ⟨j, j', found, hp, hp', hj⟩ := h.poll w shutDown Stream.Selection.accept
    simpa only [Connection.perform, hp, hp'] using hj
  | lookActivation w shutDown => exact (h.lookActivation w shutDown).2
  | lookAcknowledgement w shutDown aside => exact (h.lookAcknowledgement w shutDown aside).2
  | lookResponse w shutDown => exact (h.lookResponse w shutDown).2
  | beginResponse => exact h.beginResponse
  | discard => exact h.discardPending

theorem performAll (h : k.Beside k') (hk : k.Kept) (hk' : k'.Kept) (ds : List Doing) :
    (k.performAll ds).Beside (k'.performAll ds) := by
  induction ds generalizing k k' with
  | nil => exact h
  | cons d ds ih => exact ih (h.perform hk hk' d) (hk.perform d) (hk'.perform d)

end Beside

/-- The doings that tell a caller what has become of an activation or of a wait. -/
def Doing.decides : Doing → Bool
  | .writeActivation => true
  | .take _ _ => true
  | .lookActivation _ _ => true
  | .lookAcknowledgement _ _ _ => true
  | .lookResponse _ _ => true
  | _ => false

theorem Beside.told (h : k.Beside k') {d : Doing} (hd : d.decides = true) : (k.perform d).2 = (k'.perform d).2 := by
  cases d with
  | writeActivation => exact h.writeActivation.1
  | take w shutDown =>
    obtain ⟨j, j', found, hp, hp', -⟩ := h.poll w shutDown Stream.Selection.accept
    simp only [Connection.perform, hp, hp']
  | lookActivation w shutDown => exact congrArg Told.looked (h.lookActivation w shutDown).1
  | lookAcknowledgement w shutDown aside => exact congrArg Told.looked (h.lookAcknowledgement w shutDown aside).1
  | lookResponse w shutDown => exact congrArg Told.looked (h.lookResponse w shutDown).1
  | _ => cases hd

/-! Where nothing is left over. -/

/-- What a caller sees of a session: what he is told, and the state and the queue behind each doing. -/
def course : Connection → List Doing → List (Told × ConnectionState × List Message)
  | _, [] => []
  | c, d :: ds => ((c.perform d).2, (c.perform d).1.state, (c.perform d).1.pending) :: (c.perform d).1.course ds

/-- No earlier receiver can record a loss. -/
def Quiet (c : Connection) : Prop := c.closed = true ∨ ∀ s ∈ c.former, s.receiving = false

/-- What a doing makes of earlier streams. -/
def formerAfter (c : Connection) (former : List Stream) : Doing → List Stream
  | .noticeClosed => if c.closed then former.map fun s => { s with receiving := false } else former
  | _ => former

theorem poll_former (c : Connection) (former : List Stream) (w : Wait) (shutDown : Bool)
    (select : Message → Stream.Selection α) :
    ({ c with former } : Connection).poll w shutDown select =
      ({ (c.poll w shutDown select).1 with former }, (c.poll w shutDown select).2) := by
  obtain ⟨settings, server, state, closed, dial, stream, former', early⟩ := c
  cases stream with
  | none => rfl
  | some s =>
    cases hw : shutDown || w.stopped with
    | true => rw [poll_cancelled rfl hw, poll_cancelled rfl hw]
    | false =>
      obtain ⟨rfl, hst⟩ : shutDown = false ∧ w.stopped = false := by simpa using hw
      rw [poll_eq rfl hst, poll_eq rfl hst]
      rfl

theorem write?_former (c : Connection) (former : List Stream) (frame : Bytes) :
    ({ c with former } : Connection).write? frame = (c.write? frame).map fun c => { c with former } := by
  obtain ⟨settings, server, state, closed, dial, stream, former', early⟩ := c
  cases stream with
  | none => rfl
  | some s =>
    simp only [write?]
    split <;> rfl

theorem perform_former (c : Connection) (former : List Stream) {d : Doing} (hd : ∀ i a, d ≠ .arriveFormer i a) :
    ({ c with former } : Connection).perform d =
      ({ (c.perform d).1 with former := c.formerAfter former d }, (c.perform d).2) := by
  cases d with
  | arriveFormer i a => exact absurd rfl (hd i a)
  | arrive a =>
    obtain ⟨settings, server, state, closed, dial, stream, former', early⟩ := c
    cases stream <;> rfl
  | noticeClosed =>
    simp only [perform, noticeClosed, formerAfter]
    split <;> rfl
  | writeActivation =>
    have hrequest : ({ c with former } : Connection).activationRequest = c.activationRequest := rfl
    simp only [perform, writeActivation, hrequest, write?_former]
    cases c.write? c.activationRequest <;> rfl
  | send data =>
    have hframe : ({ c with former } : Connection).requestFrame data = c.requestFrame data := rfl
    simp only [perform, send, hframe]
    cases c.requestFrame data with
    | error e => rfl
    | ok frame =>
      simp only [writeRequest, write?_former]
      cases c.write? frame <;> rfl
  | take w shutDown =>
    simp only [perform, poll_former]
    rfl
  | lookActivation w shutDown =>
    have hselect : ({ c with former } : Connection).selectActivation = c.selectActivation := rfl
    simp only [perform, resume, hselect, poll_former]
    rcases c.poll w shutDown c.selectActivation with ⟨c', aside, _ | result⟩
    · rfl
    · simp only [finishActivation]
      split
      · split <;> rfl
      · rfl
  | lookAcknowledgement w shutDown before =>
    have hselect : ({ c with former } : Connection).selectAcknowledgement = c.selectAcknowledgement := rfl
    simp only [perform, resume, hselect, poll_former]
    rcases c.poll w shutDown c.selectAcknowledgement with ⟨c', aside, _ | result⟩
    · rfl
    · simp only [faultOnLoss]
      split <;> rfl
  | lookResponse w shutDown =>
    have hselect : ({ c with former } : Connection).selectResponse = c.selectResponse := rfl
    simp only [perform, resume, hselect, poll_former]
    rcases c.poll w shutDown c.selectResponse with ⟨c', aside, _ | result⟩
    · rfl
    · simp only [faultOnLoss]
      split <;> rfl
  | beginResponse =>
    obtain ⟨settings, server, state, closed, dial, stream, former', early⟩ := c
    cases early with
    | nil =>
      simp only [perform, beginResponse]
      split <;> rfl
    | cons data rest => rfl
  | discard => rfl
  | close => rfl
  | sever => rfl
  | beginActivation => rfl

theorem perform_closed (hc : c.closed = true) (d : Doing) : (c.perform d).1.closed = true := by
  cases d with
  | arrive a => exact (arrive_persists c a).closed.trans hc
  | arriveFormer i a =>
    simp only [perform, arriveFormer]
    split <;> exact hc
  | close => rfl
  | noticeClosed => exact (OutsideStep.noticeClosed c).persists.closed.trans hc
  | sever => exact hc
  | beginActivation => exact hc
  | writeActivation =>
    simp only [perform]
    split
    · rename_i hw
      exact (OwnerStep.writeActivation hw).closed hc
    · rename_i hw
      exact (OwnerStep.loseActivation hw).closed hc
  | send data =>
    simp only [perform, send]
    split
    · exact hc
    · exact (OwnerStep.writeRequest c _).closed hc
  | take w shutDown => exact (Persists.poll c w shutDown _).closed.trans hc
  | lookActivation w shutDown => exact (c.resume_closed "" w shutDown _).trans hc
  | lookAcknowledgement w shutDown aside => exact (c.resume_closed "" w shutDown _).trans hc
  | lookResponse w shutDown => exact (c.resume_closed "" w shutDown _).trans hc
  | beginResponse => exact (OwnerStep.beginResponse c).closed hc
  | discard => exact (OwnerStep.discardPending c).closed hc

theorem Quiet.arriveFormer (hc : c.Quiet) (i : Nat) (a : Arrival) :
    (c.arriveFormer i a).Quiet ∧ ∃ former, c.arriveFormer i a = { c with former } := by
  unfold Connection.arriveFormer
  cases hs : c.former[i]? with
  | none => exact ⟨hc, c.former, rfl⟩
  | some s =>
    rcases hc with hclosed | hended
    · exact ⟨.inl hclosed, _, by simp [hclosed]; rfl⟩
    · have hr := hended s (List.mem_of_getElem? hs)
      simp only [Stream.arrive_ended hr]
      refine ⟨.inr fun s' hs' => ?_, _, rfl⟩
      rcases List.mem_or_eq_of_mem_set hs' with hold | rfl
      · exact hended s' hold
      · exact hr

theorem Quiet.perform (hc : c.Quiet) (d : Doing) : (c.perform d).1.Quiet := by
  by_cases hd : ∀ i a, d ≠ .arriveFormer i a
  · rcases hc with hclosed | hended
    · exact .inl (perform_closed hclosed d)
    · have hformer : (c.perform d).1.former = c.formerAfter c.former d :=
        congrArg (fun r : Connection × Told => r.1.former) (c.perform_former c.former hd)
      refine .inr fun s hs => ?_
      rw [hformer] at hs
      unfold formerAfter at hs
      split at hs
      · split at hs
        · obtain ⟨s', -, rfl⟩ := List.mem_map.1 hs
          rfl
        · exact hended s hs
      · exact hended s hs
  · obtain ⟨i, a, rfl⟩ : ∃ i a, d = .arriveFormer i a := by simpa using hd
    exact (hc.arriveFormer i a).1

theorem Quiet.course_eq (hc : c.Quiet) (ds : List Doing) : c.course ds = { c with former := [] }.course ds := by
  induction ds generalizing c with
  | nil => rfl
  | cons d ds ih =>
    have hnext := ih (hc.perform d)
    simp only [course]
    by_cases hd : ∀ i a, d ≠ .arriveFormer i a
    · have hnone : c.formerAfter [] d = [] := by
        unfold formerAfter
        split
        · exact ite_self _
        · rfl
      rw [perform_former c [] hd, hnone, hnext]
      rfl
    · obtain ⟨i, a, rfl⟩ : ∃ i a, d = .arriveFormer i a := by simpa using hd
      obtain ⟨former, hsame⟩ := (hc.arriveFormer i a).2
      rw [hnext]
      simp only [Connection.perform, hsame]
      rfl

/-- A receiver that is left over on an open connection is not quiet: the end of its stream faults the connection. -/
theorem arriveFormer_faults (hopen : c.closed = false) {i : Nat} {s : Stream} (hs : c.former[i]? = some s)
    (hr : s.receiving = true) : (c.arriveFormer i .endOfStream).state = .faulted := by
  simp [Connection.arriveFormer, hs, Stream.arrive, hr, hopen]

/-- A connect while an earlier session has not been ended by a disconnect. The queue of the new session is its own, and
so is what its activation and its waits come to; its state is its own, or a receiver that was left over has overwritten
it as faulted, and its responses come behind those that were left over. It runs like a session without anything left
over, whatever happens, exactly if no response is left over, and no receiver unless the connection is closed. -/
theorem isolated_iff_nothing_left (c₀ : Connection) (endpoint : String) :
    let c := (c₀.finishConnect endpoint (.ok (.ok ()))).1
    let alone : Connection := { c with former := [], early := [] }
    (∀ ds,
      (c.performAll ds).pending = (alone.performAll ds).pending ∧
        ((c.performAll ds).state = (alone.performAll ds).state ∨ (c.performAll ds).state = .faulted) ∧
        (alone.performAll ds).early <:+ (c.performAll ds).early ∧
        ∀ d : Doing, d.decides = true → ((c.performAll ds).perform d).2 = ((alone.performAll ds).perform d).2) ∧
    ((∀ ds, c.course ds = alone.course ds) ↔
      c.early = [] ∧ (c.closed = true ∨ ∀ s ∈ c.former, s.receiving = false)) := by
  intro c alone
  have hkept : c.Kept := c₀.kept_adopt
  refine ⟨fun ds => ?_, fun hsame => ⟨?_, ?_⟩, fun ⟨hearly, hquiet⟩ ds => ?_⟩
  · have hbeside : Beside c alone := ⟨rfl, rfl, rfl, rfl, .inl rfl, rfl, List.nil_suffix⟩
    have hnow := hbeside.performAll hkept (hkept.same_stream rfl rfl) ds
    exact ⟨hnow.pending, hnow.state, hnow.early, fun d hd => hnow.told hd⟩
  · cases hearly : c.early with
    | nil => rfl
    | cons data rest =>
      have htold : Told.begun c.beginResponse.2 = Told.begun alone.beginResponse.2 :=
        congrArg Prod.fst (List.cons.inj (hsame [.beginResponse])).1
      have hnone : alone.beginResponse.2 ≠ some (.ok data) := by
        simp only [alone, beginResponse]
        split <;> exact nofun
      have hstale : c.beginResponse.2 = some (.ok data) := by simp only [beginResponse, hearly]
      exact absurd ((Told.begun.inj htold).symm.trans hstale) hnone
  · by_contra hloud
    obtain ⟨hopen, s, hs, hr⟩ : c.closed = false ∧ ∃ s ∈ c.former, s.receiving = true := by
      simpa only [not_or, Bool.not_eq_true, not_forall, Bool.not_eq_false, exists_prop] using hloud
    obtain ⟨i, hi⟩ := List.getElem?_of_mem hs
    have hstate := congrArg (fun r => r.2.1)
      (List.cons.inj (List.cons.inj (hsame [.beginActivation, .arriveFormer i .endOfStream])).2).1
    have hfaulted : (c.beginActivation.arriveFormer i .endOfStream).state = .faulted :=
      arriveFormer_faults (c := c.beginActivation) hopen hi hr
    have hactivating : (alone.beginActivation.arriveFormer i .endOfStream).state = .activating := rfl
    have hboth : ConnectionState.faulted = .activating := hfaulted.symm.trans (hstate.trans hactivating)
    cases hboth
  · have hform : alone = { c with former := [] } := by
      simp only [alone, ← hearly]
    rw [hform]
    exact Quiet.course_eq hquiet ds

/-- A connection that has its first stream. -/
def firstSession : Connection :=
  { settings :=
      { client := 0x0E00, activationType := .default, connectTimeout := 5000, activationTimeout := 2000, codec := {} }
    server := 0x1000
    state := .connecting
    stream := some {} }

def lateResponse : Message := .of 2 .diagnosticMessage (DiagnosticMessage.encode ⟨0x1000, 0x0E00, [0x7E, 0x00]⟩)

/-- A response comes while an acknowledgement is waited for, and then the time of the wait is over. -/
def setAside : List Doing :=
  [.arrive (.bytes lateResponse.toBytes), .lookAcknowledgement { key := 0, remaining := 0, expired := true } false []]

theorem performAll_setAside :
    firstSession.performAll setAside = { firstSession with early := [[0x7E, 0x00]] } := by
  have hdrain : Codec.drain {} ([] ++ lateResponse.toBytes) = { frames := [lateResponse] } :=
    Codec.drain_frame (by decide)
  have harrive : Stream.arrive {} 0x0E00 {} (.bytes lateResponse.toBytes) = ({ queue := [lateResponse] }, false) := by
    rw [Stream.arrive_whole (Stream.Kept.fresh {}) rfl (congrArg Codec.Drained.fault hdrain), Stream.digest, hdrain]
    rfl
  have hqueued : (firstSession.perform (.arrive (.bytes lateResponse.toBytes))).1 =
      { firstSession with stream := some { queue := [lateResponse] } } := by
    simp only [perform, arrive, firstSession, harrive]
    rfl
  show (((firstSession.perform _).1).perform _).1 = _
  rw [hqueued]
  rfl

/-- In a second session the response that the first one set aside is taken for an answer, and the end of the old stream
faults the connection. -/
theorem second_session_disturbed :
    let c := ((firstSession.performAll setAside).beginConnect.finishConnect "" (.ok (.ok ()))).1
    let alone : Connection := { c with former := [], early := [] }
    (c.beginResponse.2 = some (.ok [0x7E, 0x00]) ∧ alone.beginResponse.2 = some (.error .connectionLost)) ∧
      ((c.arriveFormer 0 .endOfStream).state = .faulted ∧ (alone.arriveFormer 0 .endOfStream).state = .connecting) ∧
      ¬∀ ds, c.course ds = alone.course ds := by
  intro c alone
  have hearly : c.early = [[0x7E, 0x00]] := by
    simp only [c, performAll_setAside]
    rfl
  refine ⟨⟨?_, rfl⟩, ⟨?_, rfl⟩, fun hsame => ?_⟩
  · simp only [beginResponse, hearly]
  · simp only [c, performAll_setAside]
    rfl
  · have hnone : c.early = [] := ((isolated_iff_nothing_left _ "").2.1 hsame).1
    rw [hearly] at hnone
    cases hnone

end Connection
end Doip
