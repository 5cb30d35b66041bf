import Doip.CommandLine.Run
import Doip.Proofs.Text.Blank
import Doip.Proofs.Text.Hex

/-! Requests as they are typed. The digits of a request may be cut anywhere; the pieces stand in one or more arguments,
with blanks between those of one argument, and each behind any number of marks `0x` (`Typed`). All arguments are of
this form (`exists_typed`), and what is read is what the digits of the pieces spell (`readPayload_eq_ok_iff`). -/

namespace Doip.CommandLine

variable {arguments : List String} {bs : Bytes} {cs : List Char}

/-- A piece of a request: some text behind any number of marks. -/
structure Piece where
  marks : Nat := 0
  digits : List Char
deriving DecidableEq

namespace Piece

def text (p : Piece) : List Char := (List.replicate p.marks ['0', 'x']).flatten ++ p.digits

/-- What stands behind the marks does not begin with one. -/
def Bare (p : Piece) : Prop := ∀ cs, p.digits ≠ '0' :: 'x' :: cs

end Piece

/-- The pieces are typed, in their order, as the given arguments. -/
inductive Typed : List Piece → List String → Prop
  | nil : Typed [] []
  | argument {ps qs : List Piece} {argument : String} {arguments : List String}
      (h : Blank.Spaced (ps.map Piece.text) argument.toList) (hrest : Typed qs arguments) :
      Typed (ps ++ qs) (argument :: arguments)

variable {p : Piece} {pieces : List Piece}

/-! Pieces and their marks. -/

theorem stripMarks_of_bare (h : ∀ rest, cs ≠ '0' :: 'x' :: rest) : stripMarks cs = cs := by
  rw [stripMarks]
  exact h

theorem stripMarks_text (h : p.Bare) : stripMarks p.text = p.digits := by
  obtain ⟨marks, digits⟩ := p
  induction marks with
  | zero => exact stripMarks_of_bare h
  | succ n ih => exact ih h

theorem exists_piece (w : List Char) : ∃ p : Piece, p.Bare ∧ p.text = w := by
  induction w using stripMarks.induct with
  | case1 cs ih =>
    obtain ⟨p, hbare, htext⟩ := ih
    exact ⟨{ p with marks := p.marks + 1 }, hbare, congrArg ('0' :: 'x' :: ·) htext⟩
  | case2 cs hcs => exact ⟨⟨0, cs⟩, hcs, rfl⟩

theorem exists_pieces (ws : List (List Char)) :
    ∃ pieces : List Piece, pieces.map Piece.text = ws ∧ ∀ p ∈ pieces, p.Bare := by
  induction ws with
  | nil => exact ⟨[], rfl, fun _ hp => absurd hp List.not_mem_nil⟩
  | cons w ws ih =>
    obtain ⟨p, hp, rfl⟩ := exists_piece w
    obtain ⟨pieces, rfl, hpieces⟩ := ih
    exact ⟨p :: pieces, rfl, List.forall_mem_cons.2 ⟨hp, hpieces⟩⟩

theorem exists_typed (arguments : List String) : ∃ pieces, Typed pieces arguments ∧ ∀ p ∈ pieces, p.Bare := by
  induction arguments with
  | nil => exact ⟨[], .nil, fun _ hp => absurd hp List.not_mem_nil⟩
  | cons argument arguments ih =>
    obtain ⟨ps, hps, hbare⟩ := exists_pieces (Blank.words argument.toList)
    obtain ⟨qs, hqs, hbare'⟩ := ih
    refine ⟨ps ++ qs, .argument ?_ hqs, fun p hp => (List.mem_append.1 hp).elim (hbare p) (hbare' p)⟩
    rw [hps]
    exact Blank.spaced_words argument.toList

theorem Typed.payloadDigits (h : Typed pieces arguments) (hbare : ∀ p ∈ pieces, p.Bare) :
    payloadDigits arguments = pieces.flatMap Piece.digits := by
  unfold CommandLine.payloadDigits
  induction h with
  | nil => rfl
  | @argument ps qs argument arguments h _ ih =>
    have hps : (ps.map Piece.text).flatMap stripMarks = ps.flatMap Piece.digits := by
      rw [List.flatMap_map]
      exact List.flatMap_congr fun p hp => stripMarks_text (hbare p (List.mem_append_left _ hp))
    rw [List.flatMap_cons, List.flatMap_append, h.words_eq, hps, List.flatMap_append,
      ih fun p hp => hbare p (List.mem_append_right _ hp)]

/-! Digits. -/

theorem Piece.bare_of_isDigit (h : ∀ c ∈ p.digits, ∃ n, Hex.IsDigit c n) : p.Bare := by
  intro cs hcs
  obtain ⟨n, hn⟩ := h 'x' (by simp [hcs])
  exact absurd hn.mem (by decide)

theorem readPayload_eq_ok_iff (h : Typed pieces arguments) (hbare : ∀ p ∈ pieces, p.Bare) :
    readPayload arguments = .ok bs ↔ bs ≠ [] ∧ Hex.Spells (pieces.flatMap Piece.digits) bs := by
  rw [← Hex.decode_eq_ok_iff, ← h.payloadDigits hbare]
  simp only [readPayload]
  cases hread : Hex.decode (Utf8.encode (CommandLine.payloadDigits arguments)) with
  | error fault => exact ⟨nofun, fun ⟨_, h⟩ => nomatch h⟩
  | ok read =>
    cases read with
    | nil => exact ⟨nofun, fun ⟨hne, h⟩ => absurd (Except.ok.inj h).symm hne⟩
    | cons b read =>
      simp only [Except.ok.injEq]
      exact ⟨fun h => ⟨h ▸ List.cons_ne_nil b read, h⟩, And.right⟩

theorem readPayload_fails_iff (h : Typed pieces arguments) (hbare : ∀ p ∈ pieces, p.Bare) :
    let digits := pieces.flatMap Piece.digits
    (∃ fault, readPayload arguments = .error fault) ↔
      digits.length % 2 = 1 ∨ (∃ c ∈ digits, ∀ n, ¬Hex.IsDigit c n) ∨ digits = [] := by
  intro digits
  have hok (bs : Bytes) : readPayload arguments = .ok bs ↔ bs ≠ [] ∧ Hex.Spells digits bs :=
    readPayload_eq_ok_iff h hbare
  constructor
  · rintro ⟨fault, hfault⟩
    by_contra hnone
    simp only [not_or, not_exists, not_and, not_forall, not_not] at hnone
    obtain ⟨heven, hdigits, hne⟩ := hnone
    obtain ⟨bs, hbs⟩ := Hex.exists_spells_iff.2 ⟨by omega, hdigits⟩
    have hread := (hok bs).2 ⟨mt hbs.eq_nil_iff.2 hne, hbs⟩
    rw [hfault] at hread
    cases hread
  · intro hfails
    cases hread : readPayload arguments with
    | error fault => exact ⟨fault, rfl⟩
    | ok bs =>
      obtain ⟨hne, hspells⟩ := (hok bs).1 hread
      obtain ⟨heven, hdigits⟩ := Hex.exists_spells_iff.1 ⟨bs, hspells⟩
      rcases hfails with hodd | ⟨c, hc, hbad⟩ | hnone
      · omega
      · obtain ⟨n, hn⟩ := hdigits c hc
        exact absurd hn (hbad n)
      · exact absurd (hspells.eq_nil_iff.1 hnone) hne

/-! The printed form. -/

def pairsOf (bs : Bytes) : List Piece := bs.map fun b => { digits := Hex.pair Hex.upperDigits b }

theorem digits_pairsOf (bs : Bytes) : (pairsOf bs).flatMap Piece.digits = bs.flatMap (Hex.pair Hex.upperDigits) := by
  rw [pairsOf, List.flatMap_map]

theorem typed_spaced (bs : Bytes) : Typed (pairsOf bs) [Hex.spaced bs] := by
  have hwords : ∀ w ∈ bs.map (Hex.pair Hex.upperDigits), Blank.IsWord w := by
    intro w hw
    obtain ⟨b, -, rfl⟩ := List.mem_map.1 hw
    have hb := b.toNat_lt
    have hcased : Hex.Cased Hex.upperDigits := .inr rfl
    refine ⟨List.cons_ne_nil _ _, ?_⟩
    simp only [Hex.pair, List.forall_mem_cons]
    exact ⟨(hcased.isDigit (by omega)).not_blank, (hcased.isDigit (by omega)).not_blank,
      fun _ hc => absurd hc List.not_mem_nil⟩
  have htexts : (pairsOf bs).map Piece.text = bs.map (Hex.pair Hex.upperDigits) := by
    rw [pairsOf, List.map_map]
    rfl
  rw [← List.append_nil (pairsOf bs)]
  refine .argument ?_ .nil
  rw [htexts, Hex.spaced, String.toList_ofList]
  exact .intersperse rfl hwords

/-- A request is read back however its digits are cut and distributed over arguments, in either letter case and behind
any marks; so is the form in which it is printed. All arguments consist of pieces behind marks, and when their digits
are odd in number, include something else or are not there at all, reading fails. Then nothing is sent, and no
connection is opened for it. -/
theorem requests_read_back :
    (∀ (pieces : List Piece) (arguments : List String) (bs : Bytes), Typed pieces arguments → bs ≠ [] →
      Hex.Spells (pieces.flatMap Piece.digits) bs → readPayload arguments = .ok bs) ∧
    (∀ bs : Bytes, bs ≠ [] → readPayload [Hex.spaced bs] = .ok bs) ∧
    (∀ arguments : List String, ∃ pieces, Typed pieces arguments ∧ ∀ p ∈ pieces, p.Bare) ∧
    (∀ (pieces : List Piece) (arguments : List String), Typed pieces arguments → (∀ p ∈ pieces, p.Bare) →
      let digits := pieces.flatMap Piece.digits
      ((∃ fault, readPayload arguments = .error fault) ↔
        digits.length % 2 = 1 ∨ (∃ c ∈ digits, ∀ n, ¬Hex.IsDigit c n) ∨ digits = [])) ∧
    ∀ (arguments : List String) (fault : PayloadFault), readPayload arguments = .error fault →
      ∀ (bench : Bench) (i : Invocation) (target : Target),
        runSend bench i target arguments = (bench, failed (payloadFailure fault)) := by
  have hread (pieces : List Piece) (arguments : List String) (bs : Bytes) (h : Typed pieces arguments) (hne : bs ≠ [])
      (hspells : Hex.Spells (pieces.flatMap Piece.digits) bs) : readPayload arguments = .ok bs := by
    refine (readPayload_eq_ok_iff h fun p hp => ?_).2 ⟨hne, hspells⟩
    exact Piece.bare_of_isDigit fun c hc => hspells.isDigit c (List.mem_flatMap_of_mem hp hc)
  refine ⟨hread, fun bs hne => ?_, exists_typed, fun _ _ => readPayload_fails_iff,
    fun arguments fault hfault _ _ _ => ?_⟩
  · refine hread _ _ bs (typed_spaced bs) hne ?_
    rw [digits_pairsOf]
    exact Hex.Cased.spells (.inr rfl) bs
  · rw [runSend, hfault]

def scattered : List Piece := [⟨1, ['2']⟩, ⟨0, ['2', 'f']⟩, ⟨2, []⟩, ⟨0, ['1']⟩, ⟨2, ['9', '0']⟩, ⟨1, []⟩]

/-- Pieces over three arguments are read as one request. Without the first one reading fails, and nothing is sent. -/
theorem scattered_read :
    readPayload ["0x2\u20032f ", "0x0x", "1\t0x0x90 0x"] = .ok [0x22, 0xF1, 0x90] ∧
      readPayload [Hex.spaced [0x22, 0xF1, 0x90]] = .ok [0x22, 0xF1, 0x90] ∧
      ∃ fault, readPayload ["2f ", "0x0x", "1\t0x0x90 0x"] = .error fault ∧
        ∀ bench i target, runSend bench i target ["2f ", "0x0x", "1\t0x0x90 0x"] =
          (bench, failed (payloadFailure fault)) := by
  obtain ⟨hread, hspaced, -, hfails, hsend⟩ := requests_read_back
  have hfirst := Blank.words_eq_iff.1 (show Blank.words "0x2\u20032f ".toList = _ by cbv)
  have hshort := Blank.words_eq_iff.1 (show Blank.words "2f ".toList = _ by cbv)
  have hmiddle := Blank.words_eq_iff.1 (show Blank.words "0x0x".toList = _ by cbv)
  have hlast := Blank.words_eq_iff.1 (show Blank.words "1\t0x0x90 0x".toList = _ by cbv)
  have hrest : Typed ([⟨2, []⟩] ++ (scattered.drop 3 ++ [])) ["0x0x", "1\t0x0x90 0x"] :=
    .argument hmiddle (.argument hlast .nil)
  have hwhole : Typed (scattered.take 2 ++ scattered.drop 2) ["0x2\u20032f ", "0x0x", "1\t0x0x90 0x"] :=
    .argument hfirst hrest
  have hbehind : Typed ([⟨0, ['2', 'f']⟩] ++ scattered.drop 2) ["2f ", "0x0x", "1\t0x0x90 0x"] :=
    .argument hshort hrest
  have hspells : Hex.Spells (scattered.flatMap Piece.digits) [0x22, 0xF1, 0x90] := by
    unfold Hex.Spells
    decide
  have hbare : ∀ p ∈ scattered.tail, p.Bare := by
    intro p hp
    refine Piece.bare_of_isDigit fun c hc => hspells.isDigit c ?_
    exact List.mem_flatMap_of_mem (List.mem_of_mem_tail hp) hc
  obtain ⟨fault, hfault⟩ := (hfails scattered.tail _ hbehind hbare).2 (.inl (by decide))
  exact ⟨hread scattered _ _ hwhole (List.cons_ne_nil _ _) hspells, hspaced _ (List.cons_ne_nil _ _), fault, hfault,
    hsend _ fault hfault⟩

end Doip.CommandLine
