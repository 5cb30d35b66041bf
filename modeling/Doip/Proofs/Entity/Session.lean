import Doip.Entity.Session
import Doip.Proofs.Frame.Chunking
import Doip.Proofs.Payload.Diagnostic

/-! What a session of a scripted entity does about one whole frame when it has nothing else to do
(`Ready.receive`), and how a script that responds answers a request (`Script.answer_request`). -/

namespace Doip

namespace Session

variable {script : Script} {s : Session} {m : Message} {rest : Bytes}

/-- A session that has answered everything and waits for the next frame. -/
structure Ready (s : Session) : Prop where
  unread : s.unread = []
  late : s.late = none
  atEnd : s.atEnd = false
  ended : s.ended = false

instance (s : Session) : Decidable s.Ready :=
  decidable_of_iff (s.unread = [] ∧ s.late = none ∧ s.atEnd = false ∧ s.ended = false)
    ⟨fun ⟨hu, hl, ha, he⟩ => ⟨hu, hl, ha, he⟩, fun h => ⟨h.unread, h.late, h.atEnd, h.ended⟩⟩

theorem work_of_none (h : Script.codec.splitFrame s.unread = .ok none) :
    s.work script = ({ s with ended := s.atEnd }, []) := by
  unfold work
  split
  · rename_i heq
    rw [h] at heq
    cases heq
  · rfl
  · rename_i heq
    rw [h] at heq
    cases heq

theorem work_frame (h : Script.codec.splitFrame s.unread = .ok (some (m, rest)))
    (hcloses : (script.answer m).closes = false) :
    s.work script =
      match (script.answer m).late with
      | some (ms + 1, frame) =>
        ({ s with
          unread := rest
          written := s.written ++ (script.answer m).output
          late := some (ms + 1, frame) }, (script.answer m).observed.toList)
      | some (0, frame) =>
        ((work script { s with unread := rest, written := s.written ++ (script.answer m).output ++ frame }).1,
          (script.answer m).observed.toList ++
            (work script { s with unread := rest, written := s.written ++ (script.answer m).output ++ frame }).2)
      | none =>
        ((work script { s with unread := rest, written := s.written ++ (script.answer m).output }).1,
          (script.answer m).observed.toList ++
            (work script { s with unread := rest, written := s.written ++ (script.answer m).output }).2) := by
  rw [work]
  split
  · rename_i heq
    rw [h] at heq
    cases heq
  · rename_i heq
    rw [h] at heq
    cases heq
  · rename_i m' rest' heq
    rw [h] at heq
    cases heq
    have hgoes : ¬(script.answer m).closes = true := by
      rw [hcloses]
      exact Bool.false_ne_true
    exact if_neg hgoes

theorem work_of_some (h : Script.codec.splitFrame s.unread = .ok (some (m, rest)))
    (hcloses : (script.answer m).closes = false) (hlate : (script.answer m).late = none) :
    s.work script =
      ((work script { s with unread := rest, written := s.written ++ (script.answer m).output }).1,
        (script.answer m).observed.toList ++
          (work script { s with unread := rest, written := s.written ++ (script.answer m).output }).2) := by
  rw [work_frame h hcloses, hlate]

theorem Ready.receive (hs : s.Ready) (hm : Script.codec.Admits m) (hcloses : (script.answer m).closes = false)
    (hlate : (script.answer m).late = none) :
    s.receive script m.toBytes =
      ({ s with written := s.written ++ (script.answer m).output }, (script.answer m).observed.toList) := by
  let s' : Session := { s with unread := s.unread ++ m.toBytes }
  let s'' : Session := { s with unread := [], written := s.written ++ (script.answer m).output }
  have hunread : s'.unread = m.toBytes ++ [] := by
    rw [List.append_nil]
    exact (congrArg (· ++ m.toBytes) hs.unread).trans (List.nil_append _)
  have hsplit : Script.codec.splitFrame s'.unread = .ok (some (m, [])) :=
    Codec.splitFrame_eq_some_iff.2 ⟨hm, hunread⟩
  have hrest : work script s'' = ({ s'' with ended := s''.atEnd }, []) := work_of_none rfl
  have hgo : ¬(s'.ended || s'.late.isSome) = true := by simp [s', hs.ended, hs.late]
  show resume script s' = _
  rw [resume, if_neg hgo, work_of_some hsplit hcloses hlate]
  show ((work script s'').1, _ ++ (work script s'').2) = _
  rw [hrest, List.append_nil]
  obtain ⟨unread, late, atEnd, ended, written⟩ := s
  obtain ⟨rfl, rfl, rfl, rfl⟩ := hs
  rfl

theorem Ready.written (hs : s.Ready) (written : Bytes) : Ready { s with written } :=
  ⟨hs.unread, hs.late, hs.atEnd, hs.ended⟩

theorem elapse_self (h : s.late = none) (ms : Nat) : s.elapse script ms = (s, []) := by simp only [elapse, h]

/-- A session with no whole frame left to read ends in silence. -/
theorem close_read (script : Script) (hlate : s.late = none)
    (hread : s.ended = true ∨ Script.codec.splitFrame s.unread = .ok none) :
    s.close script = ({ s with atEnd := true, ended := true }, []) := by
  obtain ⟨unread, late, atEnd, ended, written⟩ := s
  obtain rfl : late = none := hlate
  rw [close, resume]
  cases ended with
  | true => rfl
  | false => exact work_of_none (hread.resolve_left Bool.false_ne_true)

/-! Whatever a session reads, it notes no request for identification. -/

theorem observed_answer (script : Script) (m : Message) : (script.answer m).observed ≠ some .identification := by
  unfold Script.answer
  split
  · unfold Script.activate
    split <;> exact nofun
  · unfold Script.reply
    simp only
    split <;> exact nofun
  · exact nofun
  · exact nofun
  · exact nofun

theorem unseen_work (script : Script) (s : Session) : .identification ∉ (s.work script).2 := by
  have hanswer : ∀ m, .identification ∉ (script.answer m).observed.toList := fun m hmem =>
    observed_answer script m (Option.mem_toList.1 hmem)
  fun_induction work script s with
  | case1 => exact List.not_mem_nil
  | case2 => exact List.not_mem_nil
  | case3 => exact hanswer _
  | case4 => exact hanswer _
  | case5 =>
    rename_i heq ih
    rw [heq] at ih
    exact fun hmem => (List.mem_append.1 hmem).elim (hanswer _) ih
  | case6 =>
    rename_i heq ih
    rw [heq] at ih
    exact fun hmem => (List.mem_append.1 hmem).elim (hanswer _) ih

theorem unseen_resume (script : Script) (s : Session) : .identification ∉ (s.resume script).2 := by
  unfold resume
  split
  · exact List.not_mem_nil
  · exact s.unseen_work script

theorem unseen_receive (script : Script) (bs : Bytes) (s : Session) : .identification ∉ (s.receive script bs).2 :=
  unseen_resume script _

theorem unseen_close (script : Script) (s : Session) : .identification ∉ (s.close script).2 := unseen_resume script _

theorem unseen_elapse (script : Script) (ms : Nat) (s : Session) : .identification ∉ (s.elapse script ms).2 := by
  unfold elapse
  split
  · exact List.not_mem_nil
  · split
    · exact List.not_mem_nil
    · exact unseen_resume script _

end Session

namespace Script

variable {script : Script} {tester : Address} {request response : Bytes}

/-- The frame of a request as an entity reads it, whatever version it was written with. -/
def requestOf (script : Script) (version : UInt8) (tester : Address) (request : Bytes) : Message :=
  .of version .diagnosticMessage (DiagnosticMessage.encode ⟨tester, script.address, request⟩)

/-- The acknowledgement repeats the request. -/
def acknowledgementOf (script : Script) (tester : Address) (request : Bytes) : Message :=
  .of defaultVersion .diagnosticMessageAck (Acknowledgement.encode ⟨script.address, tester, 0x00, request⟩)

def responseOf (script : Script) (tester : Address) (response : Bytes) : Message :=
  .of defaultVersion .diagnosticMessage (DiagnosticMessage.encode ⟨script.address, tester, response⟩)

theorem answer_request (hreply : script.handler request = .respond response) (version : UInt8) (tester : Address) :
    script.answer (script.requestOf version tester request) =
      { observed := some (.request tester request)
        output :=
          (script.acknowledgementOf tester request).toBytes ++ (script.responseOf tester response).toBytes } := by
  have hparse : Payload.parse (script.requestOf version tester request) =
      .ok (.diagnosticMessage ⟨tester, script.address, request⟩) := Payload.parse_diagnosticMessage version _
  simp only [answer, hparse, reply, if_true, hreply, Reply.core, Reply.frames, List.flatten_nil, List.append_nil]
  rfl

theorem answer_genericNack (script : Script) (version code : UInt8) :
    script.answer (.of version .genericNack [code]) = { observed := some (.genericNack code) } := by
  simp only [answer, Payload.parse_genericNack]

/-- A request within the largest limit is whole for every entity. -/
theorem admits_requestOf (script : Script) (version : UInt8) (tester : Address) (h : 4 + request.length ≤ 0xFFFF) :
    Script.codec.Admits (script.requestOf version tester request) := by
  have hcanonical : PayloadType.Canonical .diagnosticMessage := rfl
  refine Codec.admits_of _ hcanonical ?_ version
  rw [DiagnosticMessage.length_encode]
  exact h

end Script
end Doip
