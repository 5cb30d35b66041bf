import Doip.Proofs.Bench.Rounds
import Doip.Proofs.Entity.Session

/-! What a bench does without discoveries (`Bench.Continues`): calls and the passing of time leave the script of the
entity, the requests for identification that it has noted and the known vehicles as they are. -/

namespace Doip

/-- No session of an entity notes a request for identification. -/
structure Entity.Continues (e e' : Entity) : Prop where
  script : e'.script = e.script
  identifications : e'.identifications = e.identifications

namespace Entity.Continues

variable {e e' e'' : Entity}

theorem refl (e : Entity) : Continues e e := ⟨rfl, rfl⟩

theorem trans (h : Continues e e') (h' : Continues e' e'') : Continues e e'' :=
  ⟨h'.script.trans h.script, h'.identifications.trans h.identifications⟩

theorem withSession {f : Session → Session × List Observation} (hf : ∀ s, .identification ∉ (f s).2) (i : Nat) :
    Continues e (e.withSession i f) := by
  unfold Entity.withSession
  split
  · exact refl e
  · rename_i s hs
    refine ⟨rfl, ?_⟩
    have hnone : (f s).2.countP (· = .identification) = 0 :=
      List.countP_eq_zero.2 fun o ho => by simpa using fun heq : o = .identification => hf s (heq ▸ ho)
    simp only [Entity.identifications, List.countP_append, hnone, Nat.add_zero]

theorem receive (e : Entity) (i : Nat) (bs : Bytes) : Continues e (e.receive i bs) :=
  withSession (fun s => s.unseen_receive e.script bs) i

theorem close (e : Entity) (i : Nat) : Continues e (e.close i) := withSession (fun s => s.unseen_close e.script) i

theorem elapse (e : Entity) (ms : Nat) : Continues e (e.elapse ms) := by
  unfold Entity.elapse
  generalize hscript : e.script = script
  generalize List.range e.sessions.length = is
  induction is generalizing e with
  | nil => exact refl e
  | cons i is ih =>
    have hfirst : Continues e (e.withSession i (·.elapse e.script ms)) :=
      withSession (fun s => s.unseen_elapse e.script ms) i
    exact hfirst.trans (ih _ (hfirst.script.trans hscript))

end Entity.Continues

namespace Bench

/-- Nothing but the conversations, the wires and the sessions of the entity have changed. -/
structure Continues (b b' : Bench) : Prop where
  entity : b.entity.Continues b'.entity
  vehicles : b'.manager.vehicles = b.manager.vehicles

namespace Continues

variable {b b' b'' : Bench}

theorem refl (b : Bench) : Continues b b := ⟨.refl _, rfl⟩

theorem trans (h : Continues b b') (h' : Continues b' b'') : Continues b b'' :=
  ⟨h.entity.trans h'.entity, h'.vehicles.trans h.vehicles⟩

theorem foldl {α : Type} {f : Bench → α → Bench} (h : ∀ b a, Continues b (f b a)) (l : List α) (b : Bench) :
    Continues b (l.foldl f b) := by
  induction l generalizing b with
  | nil => exact refl b
  | cons a l ih => exact (h b a).trans (ih (f b a))

theorem apply (b : Bench) (i : Nat) (e : Conversation.Event) : Continues b (b.apply i e) := ⟨.refl _, rfl⟩

theorem applyAll (b : Bench) (events : Conversation → List Conversation.Event) : Continues b (b.applyAll events) := by
  rw [applyAll_eq]
  exact ⟨.refl _, rfl⟩

theorem dial (b : Bench) (i conn : Nat) (endpoint : Endpoint) : Continues b (b.dial i conn endpoint) := by
  unfold Bench.dial
  split
  · simp only
    split <;> exact ⟨⟨rfl, rfl⟩, rfl⟩
  · exact refl b

theorem dialAll (b : Bench) : Continues b b.dialAll :=
  foldl (fun _ _ => foldl (fun b (attempt : Nat × Endpoint) => dial b _ attempt.1 attempt.2) _ _) _ b

theorem carry (b : Bench) (k : Nat) : Continues b (b.carry k) := by
  unfold Bench.carry
  split
  · exact refl b
  · rename_i wire hwire
    split
    · exact refl b
    · rename_i stream hstream
      let outbound := stream.written.drop wire.forwarded
      let read := if outbound.isEmpty then b.entity else b.entity.receive wire.session outbound
      have hread : b.entity.Continues read := by
        unfold read
        split
        · exact .refl _
        · exact .receive _ _ _
      have hclosed : read.Continues (if stream.shut && !wire.hungUp then read.close wire.session else read) := by
        split
        · exact .close _ _
        · exact .refl _
      have hcarried : ∀ wires, Continues b { b with
          entity := if stream.shut && !wire.hungUp then read.close wire.session else read, wires } :=
        fun _ => ⟨hread.trans hclosed, rfl⟩
      exact (hcarried _).trans (foldl (fun b a => apply b wire.conversation (.arrive wire.connection a)) _ _)

theorem round (b : Bench) : Continues b b.round :=
  (applyAll b _).trans ((dialAll _).trans ((foldl carry _ _).trans (applyAll _ _)))

theorem settle (b : Bench) : Continues b b.settle := by
  unfold Bench.settle
  generalize 16 * (b.calls.countP Call.isOpen + 1) = n
  induction n with
  | zero => exact refl b
  | succ n ih => exact ih.trans (round _)

theorem elapse (b : Bench) (ms : Nat) : Continues b (b.elapse ms) :=
  (applyAll b _).trans ⟨.elapse _ _, rfl⟩

theorem await (b : Bench) (done : Bench → Bool) : Continues b (b.await done) := by
  have hwithin : ∀ (fuel : Nat) (b : Bench), Continues b (awaitWithin fuel done b) := by
    intro fuel
    induction fuel with
    | zero => exact refl
    | succ fuel ih =>
      intro b
      unfold awaitWithin
      split
      · exact refl b
      · split
        · exact refl b
        · exact ((elapse b _).trans (settle _)).trans (ih _)
  exact (settle b).trans (hwithin _ _)

theorem pass (b : Bench) (ms : Nat) : Continues b (b.pass ms) := by
  have hwithin : ∀ (fuel ms : Nat) (b : Bench), Continues b (passWithin fuel ms b) := by
    intro fuel
    induction fuel with
    | zero => exact fun _ => refl
    | succ fuel ih =>
      intro ms b
      unfold passWithin
      split
      · split
        · exact ((elapse b _).trans (settle _)).trans (ih _ _)
        · exact (elapse b _).trans (settle _)
      · exact (elapse b _).trans (settle _)
  exact (settle b).trans (hwithin _ _ _)

theorem call (b : Bench) (i : Nat) (operation : Operation) : Continues b (b.call i operation).1 := by
  simp only [Bench.call, start, finish]
  exact ((apply b i _).trans (settle _)).trans (await _ _)

end Continues
end Bench
end Doip
