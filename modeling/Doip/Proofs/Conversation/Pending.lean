import Doip.Proofs.Conversation.Exclusive
import Doip.Proofs.Conversation.Run

/-! The frames that wait in the queue of a connection. The calls take frames away from its front (`Continues`),
what comes from outside adds frames at its end (`Appends`), and nothing else happens to them. -/

namespace Doip

namespace Connection

/-- A connection between the same two, with the end of the queue left. -/
structure Continues (k k' : Connection) : Prop where
  server : k'.server = k.server
  settings : k'.settings = k.settings
  pending : k'.pending <:+ k.pending

/-- A connection between the same two, with more in its queue and nothing else set aside. -/
structure Appends (k k' : Connection) : Prop where
  server : k'.server = k.server
  settings : k'.settings = k.settings
  early : k'.early = k.early
  pending : k.pending <+: k'.pending

variable {k k' k'' : Connection}

theorem Continues.refl (k : Connection) : k.Continues k := ⟨rfl, rfl, List.suffix_refl _⟩

theorem Continues.trans (h : k.Continues k') (h' : k'.Continues k'') : k.Continues k'' :=
  ⟨h'.server.trans h.server, h'.settings.trans h.settings, h'.pending.trans h.pending⟩

theorem Continues.map_stream (hserver : k'.server = k.server) (hset : k'.settings = k.settings)
    (f : Stream → Stream) (hstr : k'.stream = k.stream.map f) (hf : ∀ s, (f s).queue <:+ s.queue) :
    k.Continues k' := by
  refine ⟨hserver, hset, ?_⟩
  rw [Connection.pending, Connection.pending, hstr]
  cases k.stream with
  | none => exact List.suffix_refl _
  | some s => exact hf s

theorem Continues.same_stream (hserver : k'.server = k.server) (hset : k'.settings = k.settings)
    (hstr : k'.stream = k.stream) : k.Continues k' :=
  .map_stream hserver hset id (by simpa using hstr) fun _ => List.suffix_refl _

theorem Continues.emptied (hserver : k'.server = k.server) (hset : k'.settings = k.settings)
    (hnil : k'.pending = []) : k.Continues k' :=
  ⟨hserver, hset, by rw [hnil]; exact List.nil_suffix⟩

theorem Continues.write? {frame : Bytes} (hw : k.write? frame = some k') : k.Continues k' := by
  unfold Connection.write? at hw
  split at hw
  · cases hw
  · rename_i s hs
    split at hw
    · cases hw
    · cases hw
      refine .map_stream rfl rfl (fun s => s.write frame) (by rw [hs]; rfl) fun s => ?_
      exact (Stream.write_queue s frame) ▸ List.suffix_refl _

theorem Continues.searched {α : Type} {s : Stream} (hs : k.stream = some s)
    (select : Message → Stream.Selection α) : k.Continues (k.searched s select) := by
  refine ⟨rfl, rfl, ?_⟩
  rw [pending_eq hs]
  exact Stream.search_rest_suffix select s.queue

theorem Continues.poll {α : Type} (k : Connection) (w : Wait) (shutDown : Bool)
    (select : Message → Stream.Selection α) : k.Continues (k.poll w shutDown select).1 := by
  rcases k.poll_connection w shutDown select with h | ⟨s, hs, h⟩
  · rw [h]
    exact .refl k
  · rw [h]
    exact .searched hs select

theorem Continues.faultOnLoss {α : Type} (k : Connection) (result : Except ReceiveError α) :
    k.Continues (k.faultOnLoss result) := by
  unfold Connection.faultOnLoss
  split
  · exact .same_stream rfl rfl rfl
  · exact .refl k

theorem Continues.finishActivation (k : Connection) (result : Except ReceiveError ActivationResponse) :
    k.Continues (k.finishActivation result).1 := by
  unfold Connection.finishActivation
  split
  · split <;> exact .same_stream rfl rfl rfl
  · exact .same_stream rfl rfl rfl

theorem Continues.finishConnect (k : Connection) (endpoint : String)
    (result : Except TimerOutcome (Except String Unit)) : k.Continues (k.finishConnect endpoint result).1 := by
  unfold Connection.finishConnect
  split
  · exact .emptied rfl rfl rfl
  · exact .same_stream rfl rfl rfl
  · exact .same_stream rfl rfl rfl
  · exact .same_stream rfl rfl rfl

theorem Continues.resume (k : Connection) (endpoint : String) (w : Wait) (shutDown : Bool) (waiting : Waiting) :
    k.Continues (k.resume endpoint w shutDown waiting).1 := by
  unfold Connection.resume
  cases waiting with
  | connect =>
    simp only
    split
    · exact .refl k
    · exact .finishConnect k endpoint _
  | activation =>
    have hp := Continues.poll k w shutDown k.selectActivation
    simp only
    split
    · rename_i h
      rwa [h] at hp
    · rename_i h
      rw [h] at hp
      exact hp.trans (.finishActivation _ _)
  | acknowledgement before =>
    have hp := Continues.poll k w shutDown k.selectAcknowledgement
    simp only
    split
    · rename_i h
      rwa [h] at hp
    · rename_i c aside result h
      rw [h] at hp
      have hearly : Continues c { c with early := c.early ++ before ++ aside } := .same_stream rfl rfl rfl
      exact (hp.trans hearly).trans (.faultOnLoss _ result)
  | response =>
    have hp := Continues.poll k w shutDown k.selectResponse
    simp only
    split
    · rename_i h
      rwa [h] at hp
    · rename_i h
      rw [h] at hp
      exact hp.trans (.faultOnLoss _ _)

theorem OwnerStep.continues (h : OwnerStep k k') : k.Continues k' := by
  cases h with
  | close => exact .same_stream rfl rfl rfl
  | finishDisconnect => exact .emptied rfl rfl rfl
  | abandon => exact .emptied rfl rfl rfl
  | beginActivation => exact .same_stream rfl rfl rfl
  | writeActivation h =>
    unfold Connection.writeActivation at h
    split at h
    · rename_i hw
      cases h
      exact .write? hw
    · cases h
  | loseActivation h =>
    unfold Connection.writeActivation at h
    split at h
    · cases h
    · cases h
      exact .same_stream rfl rfl rfl
  | writeRequest frame =>
    unfold Connection.writeRequest
    split
    · rename_i hw
      exact .write? hw
    · exact .same_stream rfl rfl rfl
  | discardPending => exact .map_stream rfl rfl (fun s => { s with queue := [] }) rfl fun s => List.nil_suffix
  | beginResponse =>
    unfold Connection.beginResponse
    split
    · exact .same_stream rfl rfl rfl
    · split <;> exact .refl k
  | resume endpoint w shutDown waiting => exact .resume k endpoint w shutDown waiting

theorem Appends.refl (k : Connection) : k.Appends k := ⟨rfl, rfl, rfl, List.prefix_refl _⟩

theorem Appends.map_stream (hserver : k'.server = k.server) (hset : k'.settings = k.settings)
    (hearly : k'.early = k.early) (f : Stream → Stream) (hstr : k'.stream = k.stream.map f)
    (hf : ∀ s, s.queue <+: (f s).queue) : k.Appends k' := by
  refine ⟨hserver, hset, hearly, ?_⟩
  rw [Connection.pending, Connection.pending, hstr]
  cases k.stream with
  | none => exact List.prefix_refl _
  | some s => exact hf s

theorem Appends.close (k : Connection) : k.Appends k.close := ⟨rfl, rfl, rfl, List.prefix_refl _⟩

theorem OutsideStep.appends (h : OutsideStep k k') : k.Appends k' := by
  cases h with
  | dialled dial => exact ⟨rfl, rfl, rfl, List.prefix_refl _⟩
  | arrive a =>
    cases hs : k.stream with
    | none =>
      have hsame : k.arrive a = k := by simp only [Connection.arrive, hs]
      rw [hsame]
      exact .refl k
    | some s =>
      refine .map_stream ?_ ?_ ?_ (fun s => (s.arrive k.settings.codec k.settings.client a).1) ?_
        fun s => (s.arrive_adds a).queue
      · simp only [Connection.arrive, hs]
      · simp only [Connection.arrive, hs]
      · simp only [Connection.arrive, hs]
      · simp only [Connection.arrive, hs, Option.map_some]
  | noticeClosed =>
    unfold Connection.noticeClosed
    split
    · exact .map_stream rfl rfl rfl (fun s => { s with receiving := false }) rfl fun s => List.prefix_refl _
    · exact .refl k
  | sever => exact .map_stream rfl rfl rfl (fun s => { s with broken := true }) rfl fun s => List.prefix_refl _
  | stopped =>
    exact .map_stream rfl rfl rfl (fun s => { s with receiving := false }) rfl fun s => List.prefix_refl _

end Connection

namespace Conversation

open Connection (OutsideStep)

variable {w : Worker} {id conn : Nat} {c c' : Conversation} {k : Connection}

def pending (c : Conversation) (conn : Nat) : List Message := (c.connections[conn]?.map Connection.pending).getD []

theorem pending_eq (hk : c.connections[conn]? = some k) : c.pending conn = k.pending := by
  rw [pending, hk]
  rfl

/-- Every connection goes on, and a new one has nothing in its queue. -/
structure Drains (c c' : Conversation) : Prop where
  goes : ∀ (conn : Nat) (k : Connection), c.connections[conn]? = some k →
    ∃ k', c'.connections[conn]? = some k' ∧ k.Continues k'
  fresh : ∀ (conn : Nat) (k' : Connection), c.connections[conn]? = none →
    c'.connections[conn]? = some k' → k'.pending = []

theorem Drains.refl (c : Conversation) : Drains c c :=
  ⟨fun _ k hk => ⟨k, hk, .refl k⟩, fun conn k' h h' => by rw [h] at h'; cases h'⟩

theorem Drains.trans {c'' : Conversation} (h : Drains c c') (h' : Drains c' c'') : Drains c c'' := by
  refine ⟨fun conn k hk => ?_, fun conn k'' hnone hk'' => ?_⟩
  · obtain ⟨k', hk', hcont⟩ := h.goes conn k hk
    obtain ⟨k'', hk'', hcont'⟩ := h'.goes conn k' hk'
    exact ⟨k'', hk'', hcont.trans hcont'⟩
  · cases hk' : c'.connections[conn]? with
    | none => exact h'.fresh conn k'' hk' hk''
    | some k' =>
      obtain ⟨k₁, hk₁, hcont⟩ := h'.goes conn k' hk'
      rw [hk''] at hk₁
      cases hk₁
      have hsuf := hcont.pending
      rw [h.fresh conn k' hnone hk'] at hsuf
      exact List.suffix_nil.1 hsuf

theorem Drains.modify (c : Conversation) {i : Nat} {f : Connection → Connection}
    (hf : ∀ k, c.connections[i]? = some k → k.Continues (f k)) : Drains c (c.modifyConnection i f) := by
  refine ⟨fun conn k hk => ?_, fun conn k' hnone hk' => ?_⟩
  · by_cases hi : i = conn
    · subst hi
      exact ⟨f k, getElem?_modifyConnection hk f, hf k hk⟩
    · exact ⟨k, (getElem?_modifyConnection_of_ne hi f).trans hk, .refl k⟩
  · rw [modifyConnection, List.getElem?_modify, hnone] at hk'
    cases hk'

theorem Drains.same (h : c'.connections = c.connections) : Drains c c' := by
  have hr := Drains.refl c
  exact ⟨fun conn k hk => by rw [h]; exact hr.goes conn k hk, fun conn k' hn hk' => by
    rw [h] at hk'; exact hr.fresh conn k' hn hk'⟩

theorem Move.drains (h : Move id c c') : Drains c c' := by
  cases h with
  | switch => exact .same rfl
  | modify i f hf => exact .modify c fun k hk => (hf k hk).continues
  | create settings server closed =>
    refine ⟨fun conn k hk => ⟨k, ?_, .refl k⟩, fun conn k' hnone hk' => ?_⟩
    · obtain ⟨hlt, -⟩ := List.getElem?_eq_some_iff.1 hk
      rw [List.getElem?_append_left hlt, hk]
    · have hlen := List.getElem?_eq_none_iff.1 hnone
      rw [List.getElem?_append_right hlen] at hk'
      rw [List.mem_singleton.1 (List.mem_of_getElem? hk')]
      rfl
  | arm timeout => exact .same rfl
  | finish => exact .same rfl
  | stop => exact .same rfl

theorem Moves.drains (h : Moves id c c') : Drains c c' := by
  induction h with
  | refl => exact .refl c
  | tail _ hm ih => exact ih.trans hm.drains

theorem Drains.pending (h : Drains c c') (conn : Nat) : c'.pending conn <:+ c.pending conn := by
  cases hk : c.connections[conn]? with
  | some k =>
    obtain ⟨k', hk', hcont⟩ := h.goes conn k hk
    rw [pending_eq hk, pending_eq hk']
    exact hcont.pending
  | none =>
    cases hk' : c'.connections[conn]? with
    | none =>
      rw [Conversation.pending, hk']
      exact List.nil_suffix
    | some k' =>
      rw [pending_eq hk', h.fresh conn k' hk hk']
      exact List.nil_suffix

theorem dropTask_drains (c : Conversation) (i : Nat) : Drains c (c.dropTask i) := by
  unfold dropTask
  split
  · exact .refl c
  · split
    · exact .refl c
    · rename_i call conn _
      cases conn with
      | none => exact .same rfl
      | some conn =>
        exact (Drains.modify c fun k _ => (Connection.OwnerStep.abandon k).continues).trans (.same rfl)

theorem dropAll_drains (is : List Nat) (c : Conversation) : Drains c (is.foldl dropTask c) := by
  induction is generalizing c with
  | nil => exact .refl c
  | cons i is ih => exact (dropTask_drains c i).trans (ih _)

theorem dropTasks_drains (c : Conversation) : Drains c c.dropTasks := by
  have hstop : ∀ k : Connection,
      k.Continues { k with stream := k.stream.map fun s => { s with receiving := false } } :=
    fun k => .map_stream rfl rfl (fun s => { s with receiving := false }) rfl fun s => List.suffix_refl _
  refine (dropAll_drains (List.range c.threads.length) c).trans ?_
  refine ⟨fun conn k hk => ⟨_, ?_, hstop k⟩, fun conn k' hnone hk' => ?_⟩
  · exact (List.getElem?_map).trans (by rw [hk]; rfl)
  · have hmap := (List.getElem?_map).symm.trans hk'
    rw [hnone] at hmap
    cases hmap

/-- Whether an event comes from outside: it is neither a step of a call nor the end of the worker. -/
def Event.isOutside : Event → Bool
  | .advance _ => false
  | .dropTasks => false
  | _ => true

theorem appends_of_modify {i : Nat} {f : Connection → Connection} (hf : ∀ k : Connection, k.Appends (f k))
    (hk : c.connections[conn]? = some k) :
    ∃ k', (c.modifyConnection i f).connections[conn]? = some k' ∧ k.Appends k' := by
  by_cases hi : i = conn
  · subst hi
    exact ⟨f k, getElem?_modifyConnection hk f, hf k⟩
  · exact ⟨k, (getElem?_modifyConnection_of_ne hi f).trans hk, .refl k⟩

/-- What comes from outside takes no frame away. -/
theorem apply_appends {e : Event} (he : e.isOutside = true) (w : Worker) (hk : c.connections[conn]? = some k) :
    ∃ k', (c.apply w e).connections[conn]? = some k' ∧ k.Appends k' := by
  cases e with
  | call operation inside => exact ⟨k, hk, .refl k⟩
  | advance id => cases he
  | dialled conn' dial => exact appends_of_modify (fun k => (OutsideStep.dialled k dial).appends) hk
  | arrive conn' a => exact appends_of_modify (fun k => (OutsideStep.arrive k a).appends) hk
  | noticeClosed conn' => exact appends_of_modify (fun k => (OutsideStep.noticeClosed k).appends) hk
  | sever conn' => exact appends_of_modify (fun k => (OutsideStep.sever k).appends) hk
  | elapse ms => exact ⟨k, hk, .refl k⟩
  | shutDown => exact ⟨k.close, (List.getElem?_map).trans (by rw [hk]; rfl), .close k⟩
  | dropTasks => cases he

end Conversation
end Doip
