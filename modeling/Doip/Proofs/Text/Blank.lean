import Mathlib.Data.List.TakeWhile
import Doip.Text.Blank

/-! What trimming and cutting at blanks leave. A trimmed text is what stands between the blanks at its ends
(`strip_eq_iff`), and the words of a text are those that blanks separate in it (`words_eq_iff`). -/

namespace Doip.Blank

variable {p : Char → Bool} {c : Char} {cs t w rest before after : List Char} {ws : List (List Char)}

/-! Trimming. -/

/-- What remains of a text without the characters at both ends that satisfy `p`. -/
structure Stripped (p : Char → Bool) (cs t : List Char) : Prop where
  within : ∃ before after, cs = before ++ t ++ after ∧ (∀ c ∈ before, p c = true) ∧ ∀ c ∈ after, p c = true
  first : ∀ c ∈ t.head?, p c = false
  last : ∀ c ∈ t.getLast?, p c = false

theorem dropWhile_append_of_head (hbefore : ∀ c ∈ before, p c = true) (hfirst : ∀ c ∈ rest.head?, p c = false) :
    (before ++ rest).dropWhile p = rest := by
  rw [List.dropWhile_append_of_pos hbefore]
  cases rest with
  | nil => rfl
  | cons c rest => exact List.dropWhile_cons_of_neg (by simp [hfirst c rfl])

theorem head?_dropWhile (p : Char → Bool) (cs : List Char) : ∀ c ∈ (cs.dropWhile p).head?, p c = false := by
  intro c hc
  have hhead := List.head?_dropWhile_not p cs
  rwa [hc] at hhead

theorem Stripped.strip_eq (h : Stripped p cs t) : strip p cs = t := by
  obtain ⟨⟨before, after, rfl, hbefore, hafter⟩, hfirst, hlast⟩ := h
  unfold strip
  by_cases ht : t = []
  · have hall : ∀ c ∈ before ++ t ++ after, p c = true := by
      intro c hc
      rw [ht, List.append_nil] at hc
      exact (List.mem_append.1 hc).elim (hbefore c) (hafter c)
    rw [List.dropWhile_eq_nil_iff.2 hall, ht]
    rfl
  · have hhead : (t ++ after).head? = t.head? := by
      obtain ⟨c, t, rfl⟩ := List.exists_cons_of_ne_nil ht
      rfl
    have hafter' : ∀ c ∈ after.reverse, p c = true := fun c hc => hafter c (List.mem_reverse.1 hc)
    have hlast' : ∀ c ∈ t.reverse.head?, p c = false := List.head?_reverse ▸ hlast
    rw [List.append_assoc, dropWhile_append_of_head hbefore (hhead ▸ hfirst), List.reverse_append,
      dropWhile_append_of_head hafter' hlast', List.reverse_reverse]

theorem stripped_strip (p : Char → Bool) (cs : List Char) : Stripped p cs (strip p cs) := by
  -- what is dropped at the end, in the order in which it is dropped
  let middle := (cs.dropWhile p).reverse
  have hends : cs.dropWhile p = strip p cs ++ (middle.takeWhile p).reverse := by
    rw [strip, ← List.reverse_append, List.takeWhile_append_dropWhile, List.reverse_reverse]
  refine ⟨⟨cs.takeWhile p, (middle.takeWhile p).reverse, ?_, fun c => List.mem_takeWhile_imp, fun c hc => ?_⟩,
    fun c hc => ?_, fun c hc => ?_⟩
  · rw [List.append_assoc, ← hends, List.takeWhile_append_dropWhile]
  · exact List.mem_takeWhile_imp (List.mem_reverse.1 hc)
  · refine head?_dropWhile p cs c ?_
    rw [hends, List.head?_append, hc]
    rfl
  · rw [strip, List.getLast?_reverse] at hc
    exact head?_dropWhile p middle c hc

/-- A text is stripped to the one part that neither begins nor ends with what is to go. -/
theorem strip_eq_iff : strip p cs = t ↔ Stripped p cs t :=
  ⟨fun h => h ▸ stripped_strip p cs, Stripped.strip_eq⟩

theorem Stripped.length_le (h : Stripped p cs t) : t.length ≤ cs.length := by
  obtain ⟨before, after, rfl, -, -⟩ := h.within
  simp only [List.length_append]
  omega

theorem Stripped.eq_nil_iff (h : Stripped p cs t) : t = [] ↔ ∀ c ∈ cs, p c = true := by
  obtain ⟨before, after, rfl, hbefore, hafter⟩ := h.within
  constructor
  · rintro rfl
    rw [List.append_nil]
    exact fun c hc => (List.mem_append.1 hc).elim (hbefore c) (hafter c)
  · intro hall
    cases t with
    | nil => rfl
    | cons c t =>
      have hc : p c = true := hall c (List.mem_append_left _ (List.mem_append_right _ List.mem_cons_self))
      rw [h.first c rfl] at hc
      cases hc

theorem stripped_of_forall (hbefore : ∀ c ∈ before, p c = true) (ht : ∀ c ∈ t, p c = false)
    (hafter : ∀ c ∈ after, p c = true) : Stripped p (before ++ t ++ after) t :=
  ⟨⟨before, after, rfl, hbefore, hafter⟩, fun c hc => ht c (List.mem_of_mem_head? hc),
    fun c hc => ht c (List.mem_of_mem_getLast? hc)⟩

/-! Words. -/

def IsWord (w : List Char) : Prop := w ≠ [] ∧ ∀ c ∈ w, isBlank c = false

/-- The words of a text and the blanks that separate them. There may be blanks at both ends as well. -/
inductive Spaced : List (List Char) → List Char → Prop
  | nil {blanks : List Char} (hblanks : ∀ c ∈ blanks, isBlank c = true) : Spaced [] blanks
  | last {blanks w : List Char} (hblanks : ∀ c ∈ blanks, isBlank c = true) (hw : IsWord w) : Spaced [w] (blanks ++ w)
  | more {blanks w rest : List Char} {b : Char} {ws : List (List Char)} (hblanks : ∀ c ∈ blanks, isBlank c = true)
      (hw : IsWord w) (hb : isBlank b = true) (h : Spaced ws rest) : Spaced (w :: ws) (blanks ++ w ++ b :: rest)

theorem words_of_blanks (h : ∀ c ∈ cs, isBlank c = true) : words cs = [] := by
  rw [words]
  have hdrop := List.dropWhile_eq_nil_iff.2 h
  split
  · rfl
  · rename_i hcons
    rw [hdrop] at hcons
    cases hcons

@[simp] theorem words_nil : words [] = [] := words_of_blanks fun _ hc => absurd hc List.not_mem_nil

theorem words_of_cons (h : cs.dropWhile isBlank = c :: rest) :
    words cs = (c :: rest.takeWhile (!isBlank ·)) :: words (rest.dropWhile (!isBlank ·)) := by
  rw [words]
  split
  · rename_i hnil
    rw [h] at hnil
    cases hnil
  · rename_i hcons
    rw [h] at hcons
    cases hcons
    rfl

theorem dropWhile_cons_blank {b : Char} (hb : isBlank b = true) (cs : List Char) :
    (b :: cs).dropWhile isBlank = cs.dropWhile isBlank :=
  List.dropWhile_cons_of_pos hb

theorem words_cons_blank {b : Char} (hb : isBlank b = true) (cs : List Char) : words (b :: cs) = words cs := by
  cases hdrop : cs.dropWhile isBlank with
  | nil =>
    have hall := List.dropWhile_eq_nil_iff.1 hdrop
    rw [words_of_blanks hall, words_of_blanks (List.forall_mem_cons.2 ⟨hb, hall⟩)]
  | cons c rest =>
    rw [words_of_cons hdrop, words_of_cons ((dropWhile_cons_blank hb cs).trans hdrop)]

/-- A word ends with the text or in front of a blank. -/
theorem words_append (hbefore : ∀ c ∈ before, isBlank c = true) (hw : IsWord w)
    (hrest : ∀ b ∈ rest.head?, isBlank b = true) : words (before ++ w ++ rest) = w :: words rest := by
  obtain ⟨c, w, rfl⟩ := List.exists_cons_of_ne_nil hw.1
  have hdrop : (before ++ (c :: w) ++ rest).dropWhile isBlank = c :: (w ++ rest) := by
    rw [List.append_assoc]
    refine dropWhile_append_of_head hbefore fun d hd => hw.2 d ?_
    rw [← Option.some.inj hd]
    exact List.mem_cons_self
  have hbehind : (w ++ rest).dropWhile (!isBlank ·) = rest := by
    refine dropWhile_append_of_head (fun d hd => ?_) fun b hb => ?_
    · rw [hw.2 d (List.mem_cons_of_mem c hd)]
      rfl
    · rw [hrest b hb]
      rfl
  have hword : (w ++ rest).takeWhile (!isBlank ·) = w := by
    have hcut := List.takeWhile_append_dropWhile (p := (!isBlank ·)) (l := w ++ rest)
    rw [hbehind] at hcut
    exact List.append_cancel_right hcut
  rw [words_of_cons hdrop, hbehind, hword]

theorem Spaced.words_eq (h : Spaced ws cs) : words cs = ws := by
  induction h with
  | nil hblanks => exact words_of_blanks hblanks
  | @last blanks w hblanks hw =>
    have hlast : words (blanks ++ w ++ []) = w :: words [] := words_append hblanks hw fun _ hb => nomatch hb
    rwa [List.append_nil, words_nil] at hlast
  | @more blanks w rest b ws hblanks hw hb _ ih =>
    have hhead : ∀ d ∈ (b :: rest).head?, isBlank d = true := fun d hd => Option.some.inj hd ▸ hb
    rw [words_append hblanks hw hhead, words_cons_blank hb, ih]

/-- A text consists of blanks, or its first word is followed by a blank or by nothing. -/
theorem blanks_or_word (cs : List Char) :
    (∀ c ∈ cs, isBlank c = true) ∨
      ∃ before w rest, cs = before ++ w ++ rest ∧ (∀ c ∈ before, isBlank c = true) ∧ IsWord w ∧
        ∀ b ∈ rest.head?, isBlank b = true := by
  cases hdrop : cs.dropWhile isBlank with
  | nil => exact .inl (List.dropWhile_eq_nil_iff.1 hdrop)
  | cons c rest =>
    have hc : isBlank c = false := head?_dropWhile isBlank cs c (by rw [hdrop]; rfl)
    refine .inr ⟨cs.takeWhile isBlank, c :: rest.takeWhile (!isBlank ·), rest.dropWhile (!isBlank ·), ?_,
      fun d => List.mem_takeWhile_imp, ⟨List.cons_ne_nil _ _, List.forall_mem_cons.2 ⟨hc, fun d hd => ?_⟩⟩,
      fun b hb => ?_⟩
    · rw [List.append_assoc, List.cons_append, List.takeWhile_append_dropWhile, ← hdrop,
        List.takeWhile_append_dropWhile]
    · simpa using List.mem_takeWhile_imp hd
    · simpa using head?_dropWhile (!isBlank ·) rest b hb

theorem spaced_words (cs : List Char) : Spaced (words cs) cs := by
  induction hn : cs.length using Nat.strongRecOn generalizing cs with
  | ind n ih =>
    rcases blanks_or_word cs with hall | ⟨before, w, rest, rfl, hbefore, hw, hrest⟩
    · rw [words_of_blanks hall]
      exact .nil hall
    · rw [words_append hbefore hw hrest]
      cases rest with
      | nil =>
        rw [words_nil, List.append_nil]
        exact .last hbefore hw
      | cons b rest =>
        have hb : isBlank b = true := hrest b rfl
        have hlength : rest.length < n := by
          rw [← hn, List.length_append, List.length_cons]
          omega
        rw [words_cons_blank hb]
        exact .more hbefore hw hb (ih rest.length hlength rest rfl)

/-- The words of a text are those that blanks separate in it. -/
theorem words_eq_iff : words cs = ws ↔ Spaced ws cs :=
  ⟨fun h => h ▸ spaced_words cs, Spaced.words_eq⟩

theorem Spaced.intersperse {b : Char} (hb : isBlank b = true) (hws : ∀ w ∈ ws, IsWord w) :
    Spaced ws (ws.intersperse [b]).flatten := by
  have hnone : ∀ c ∈ ([] : List Char), isBlank c = true := fun _ hc => absurd hc List.not_mem_nil
  induction ws with
  | nil => exact .nil hnone
  | cons w ws ih =>
    have hw := hws w List.mem_cons_self
    have hrest := ih fun w hw => hws w (List.mem_cons_of_mem _ hw)
    cases ws with
    | nil =>
      rw [List.intersperse_singleton, List.flatten_singleton]
      exact .last hnone hw
    | cons w' ws => exact .more hnone hw hb hrest

end Doip.Blank
