import Mathlib.Data.List.DropRight
import Mathlib.Tactic.Common
import Doip.Proofs.Document.Scalars

/-! Documents in one line and over several. Both are laid out alike, but for the blanks between their parts, and the
reader skips those (`value_lay`): whichever way a tree is written, it is read back. -/

namespace Doip

/-- A tree all of whose keys are texts. -/
inductive Value.Named : Value → Prop
  | natural (n : Nat) : Named (.natural n)
  | text (s : String) : Named (.text s)
  | list {vs : List Value} (items : ∀ v ∈ vs, Named v) : Named (.list vs)
  | table {ms : List (Option String × Value)} (keys : ∀ m ∈ ms, m.1.isSome = true) (values : ∀ m ∈ ms, Named m.2) :
    Named (.table ms)
  | other : Named .other

namespace Json

def Blanks (cs : List Char) : Prop := ∀ c ∈ cs, isSpace c = true

/-- How a tree is laid out: what stands in front of every item, by its depth, and behind a colon. -/
structure Layout where
  line : Nat → List Char
  space : List Char
  blanks_line : ∀ depth, Blanks (line depth)
  blanks_space : Blanks space

namespace Layout

def oneLine : Layout := ⟨fun _ => [], [], fun _ => nofun, nofun⟩

def indented : Layout where
  line := newLine
  space := [' ']
  blanks_line depth c hc := by
    rcases List.mem_cons.1 hc with rfl | hc
    · rfl
    · rw [List.eq_of_mem_replicate hc]
      rfl
  blanks_space c hc := by
    rw [List.mem_singleton.1 hc]
    rfl

end Layout

variable (l : Layout)

mutual

def lay (depth : Nat) : Value → List Char
  | .natural n => Nat.toDigits 10 n
  | .text s => stringText s
  | .list [] => ['[', ']']
  | .list (v :: vs) => '[' :: layItems (depth + 1) (v :: vs) ++ l.line depth ++ [']']
  | .table [] => ['{', '}']
  | .table (m :: ms) => '{' :: layMembers (depth + 1) (m :: ms) ++ l.line depth ++ ['}']
  | .other => "null".toList

def layItems (depth : Nat) : List Value → List Char
  | [] => []
  | [v] => l.line depth ++ lay depth v
  | v :: vs => l.line depth ++ lay depth v ++ ',' :: layItems depth vs

def layMembers (depth : Nat) : List (Option String × Value) → List Char
  | [] => []
  | [(k, v)] => l.line depth ++ keyText k ++ ':' :: (l.space ++ lay depth v)
  | (k, v) :: ms => l.line depth ++ keyText k ++ ':' :: (l.space ++ lay depth v) ++ ',' :: layMembers depth ms

end

/-! The layouts that are written. -/

variable {l : Layout} {v : Value} {depth : Nat}

theorem writeItems_eq {vs : List Value} (h : ∀ v ∈ vs, write v = lay .oneLine depth v) :
    writeItems vs = layItems .oneLine depth vs := by
  induction vs with
  | nil => rfl
  | cons v vs ih =>
    have hrest := ih fun w hw => h w (List.mem_cons_of_mem _ hw)
    cases vs <;> simp [writeItems, layItems, h v List.mem_cons_self, hrest, Layout.oneLine]

theorem writeMembers_eq {ms : List (Option String × Value)} (h : ∀ m ∈ ms, write m.2 = lay .oneLine depth m.2) :
    writeMembers ms = layMembers .oneLine depth ms := by
  induction ms with
  | nil => rfl
  | cons m ms ih =>
    have hrest := ih fun w hw => h w (List.mem_cons_of_mem _ hw)
    cases ms <;> simp [writeMembers, layMembers, h m List.mem_cons_self, hrest, Layout.oneLine]

theorem write_eq (h : v.Named) (depth : Nat) : write v = lay .oneLine depth v := by
  induction h generalizing depth with
  | natural n => rw [write, lay]
  | text s => rw [write, lay]
  | other => rw [write, lay]
  | @list vs _ ih =>
    have hitems := writeItems_eq fun v hv => ih v hv (depth + 1)
    cases vs with
    | nil => rfl
    | cons v vs => simp [write, lay, hitems, Layout.oneLine]
  | @table ms _ _ ih =>
    have hmembers := writeMembers_eq fun m hm => ih m hm (depth + 1)
    cases ms with
    | nil => rfl
    | cons m ms => simp [write, lay, hmembers, Layout.oneLine]

theorem indentItems_eq {vs : List Value} (h : ∀ v ∈ vs, indent depth v = lay .indented depth v) :
    indentItems depth vs = layItems .indented depth vs := by
  induction vs with
  | nil => rfl
  | cons v vs ih =>
    have hrest := ih fun w hw => h w (List.mem_cons_of_mem _ hw)
    cases vs <;> simp [indentItems, layItems, h v List.mem_cons_self, hrest, Layout.indented]

theorem indentMembers_eq {ms : List (Option String × Value)}
    (h : ∀ m ∈ ms, indent depth m.2 = lay .indented depth m.2) :
    indentMembers depth ms = layMembers .indented depth ms := by
  induction ms with
  | nil => rfl
  | cons m ms ih =>
    have hrest := ih fun w hw => h w (List.mem_cons_of_mem _ hw)
    cases ms <;> simp [indentMembers, layMembers, h m List.mem_cons_self, hrest, Layout.indented]

theorem indent_eq (h : v.Named) (depth : Nat) : indent depth v = lay .indented depth v := by
  induction h generalizing depth with
  | natural n => rw [indent, lay]
  | text s => rw [indent, lay]
  | other => rw [indent, lay]
  | @list vs _ ih =>
    have hitems := indentItems_eq fun v hv => ih v hv (depth + 1)
    cases vs with
    | nil => rfl
    | cons v vs => simp [indent, lay, hitems, Layout.indented]
  | @table ms _ _ ih =>
    have hmembers := indentMembers_eq fun m hm => ih m hm (depth + 1)
    cases ms with
    | nil => rfl
    | cons m ms => simp [indent, lay, hmembers, Layout.indented]

/-! Blanks in front of what is read. -/

theorem skip_blanks {bs : List Char} (h : Blanks bs) (cs : List Char) : skip (bs ++ cs) = skip cs :=
  List.dropWhile_append_of_pos h

theorem skip_visible {c : Char} (h : isSpace c = false) (cs : List Char) : skip (c :: cs) = c :: cs := by
  rw [skip, List.dropWhile_cons, h]
  rfl

theorem skip_quote (cs : List Char) : skip (quote :: cs) = quote :: cs := skip_visible rfl cs

theorem skip_colon (cs : List Char) : skip (':' :: cs) = ':' :: cs := skip_visible rfl cs

theorem skip_comma (cs : List Char) : skip (',' :: cs) = ',' :: cs := skip_visible rfl cs

theorem skip_skip (cs : List Char) : skip (skip cs) = skip cs := List.dropWhile_idempotent _ _

theorem value_skip (fuel : Nat) (cs : List Char) : value fuel (skip cs) = value fuel cs := by
  cases fuel with
  | zero => rw [value, value]
  | succ fuel => rw [value, value, skip_skip]

theorem items_skip (fuel : Nat) (cs : List Char) : items fuel (skip cs) = items fuel cs := by
  cases fuel with
  | zero => rw [items, items]
  | succ fuel => rw [items, items, value_skip]

theorem members_skip (fuel : Nat) (cs : List Char) : members fuel (skip cs) = members fuel cs := by
  cases fuel with
  | zero => rw [members, members]
  | succ fuel => rw [members, members, skip_skip]

theorem value_blanks {bs : List Char} (h : Blanks bs) (fuel : Nat) (cs : List Char) :
    value fuel (bs ++ cs) = value fuel cs := by
  rw [← value_skip, skip_blanks h, value_skip]

/-! What a value begins with tells what it is. -/

theorem ne_of_isDigit {c d : Char} (hc : isDigit c = true) (hd : isDigit d = false) : c ≠ d := by
  rintro rfl
  rw [hc] at hd
  cases hd

theorem isSpace_digit {c : Char} (hdigit : isDigit c = true) : isSpace c = false := by
  have hother {d : Char} (hd : isDigit d = false) : c ≠ d := ne_of_isDigit hdigit hd
  simp [isSpace, @hother ' ' rfl, @hother '\t' rfl, @hother '\n' rfl, @hother '\r' rfl]

theorem value_digit {c : Char} (hdigit : isDigit c = true) (fuel : Nat) (cs : List Char) :
    value (fuel + 1) (c :: cs) = number (c :: cs) := by
  have hother {d : Char} (hd : isDigit d = false) : c ≠ d := ne_of_isDigit hdigit hd
  simp [value, skip_visible (isSpace_digit hdigit), @hother '[' rfl, @hother '{' rfl, @hother 'n' rfl, @hother 't' rfl,
    @hother 'f' rfl, @hother quote rfl]

theorem stringText_append (s : String) (cs : List Char) :
    stringText s ++ cs = quote :: (s.toList.flatMap escape ++ quote :: cs) := by
  simp [stringText]

theorem value_text (fuel : Nat) (s : String) (rest : List Char) :
    value (fuel + 1) (stringText s ++ rest) = some (.text s, rest) := by
  have hread := string_stringText s rest
  rw [stringText_append, value, skip_quote]
  simp only [quote] at hread ⊢
  simp [hread]

theorem value_list (fuel : Nat) {cs tail : List Char} {c : Char} (hskip : skip cs = c :: tail) (hc : c ≠ ']') :
    value (fuel + 1) ('[' :: cs) = (items fuel cs).map fun (vs, rest) => (.list vs, rest) := by
  have hopen : skip ('[' :: cs) = '[' :: cs := skip_visible rfl cs
  rw [← items_skip, hskip]
  simp [value, hopen, hskip, hc]
  cases items fuel (c :: tail) <;> rfl

theorem value_table (fuel : Nat) {cs tail : List Char} {c : Char} (hskip : skip cs = c :: tail) (hc : c ≠ '}') :
    value (fuel + 1) ('{' :: cs) = (members fuel cs).map fun (ms, rest) => (.table ms, rest) := by
  have hopen : skip ('{' :: cs) = '{' :: cs := skip_visible rfl cs
  rw [← members_skip, hskip]
  simp [value, hopen, hskip, hc]
  cases members fuel (c :: tail) <;> rfl

/-! What is laid out is read. -/

theorem Ends.of_blanks {bs : List Char} (h : Blanks bs) {c : Char} (hc : c = ',' ∨ c = ']' ∨ c = '}')
    (rest : List Char) : Ends (bs ++ c :: rest) := by
  cases bs with
  | nil =>
    rintro c' ⟨⟩
    exact .inr hc
  | cons b bs =>
    rintro c' ⟨⟩
    exact .inl (h b List.mem_cons_self)

theorem Ends.comma (rest : List Char) : Ends (',' :: rest) := by
  rintro c ⟨⟩
  exact .inr (.inl rfl)

/-- Whatever is laid out can be seen, and closes no list. -/
theorem lay_eq_cons (l : Layout) (depth : Nat) (v : Value) :
    ∃ c cs, lay l depth v = c :: cs ∧ isSpace c = false ∧ c ≠ ']' := by
  cases v with
  | natural n =>
    obtain ⟨c, cs, hcs, hdigit⟩ := toDigits_eq_cons n
    exact ⟨c, cs, by rw [lay, hcs], isSpace_digit hdigit, ne_of_isDigit hdigit rfl⟩
  | text s => exact ⟨quote, _, by rw [lay, stringText]; rfl, rfl, by decide⟩
  | list vs => cases vs <;> exact ⟨'[', _, by rw [lay]; first | done | rfl, rfl, by decide⟩
  | table ms => cases ms <;> exact ⟨'{', _, by rw [lay]; first | done | rfl, rfl, by decide⟩
  | other => exact ⟨'n', _, by rw [lay]; rfl, rfl, by decide⟩

theorem layItems_cons_cons (l : Layout) (depth : Nat) (v v' : Value) (vs : List Value) :
    layItems l depth (v :: v' :: vs) =
      l.line depth ++ (lay l depth v ++ ',' :: layItems l depth (v' :: vs)) := by
  rw [layItems, List.append_assoc]
  exact nofun

theorem layMembers_cons_cons (l : Layout) (depth : Nat) (k : Option String) (v : Value)
    (m : Option String × Value) (ms : List (Option String × Value)) :
    layMembers l depth ((k, v) :: m :: ms) =
      l.line depth ++ (keyText k ++ ':' :: (l.space ++ (lay l depth v ++ ',' :: layMembers l depth (m :: ms)))) := by
  rw [layMembers, List.append_assoc, List.append_assoc, List.cons_append, List.append_assoc]
  exact nofun

theorem skip_layItems (l : Layout) (depth : Nat) (v : Value) (vs : List Value) (rest : List Char) :
    ∃ c tail, skip (layItems l depth (v :: vs) ++ rest) = c :: tail ∧ c ≠ ']' := by
  obtain ⟨c, cs, hcs, hvisible, hc⟩ := lay_eq_cons l depth v
  have hskip (tail : List Char) : skip (l.line depth ++ (lay l depth v ++ tail)) = c :: (cs ++ tail) := by
    rw [skip_blanks (l.blanks_line depth), hcs, List.cons_append, skip_visible hvisible]
  cases vs with
  | nil => exact ⟨c, _, by rw [layItems, List.append_assoc, hskip], hc⟩
  | cons v' vs => exact ⟨c, _, by rw [layItems_cons_cons, List.append_assoc, List.append_assoc, hskip], hc⟩

theorem skip_layMembers (l : Layout) (depth : Nat) (m : Option String × Value) (ms : List (Option String × Value))
    (rest : List Char) : ∃ tail, skip (layMembers l depth (m :: ms) ++ rest) = quote :: tail := by
  have hskip (k : Option String) (tail : List Char) :
      ∃ tail', skip (l.line depth ++ (keyText k ++ tail)) = quote :: tail' := by
    rw [skip_blanks (l.blanks_line depth)]
    exact ⟨_, skip_visible rfl _⟩
  cases ms with
  | nil =>
    rw [layMembers, List.append_assoc, List.append_assoc]
    exact hskip _ _
  | cons m' ms =>
    rw [layMembers_cons_cons, List.append_assoc, List.append_assoc]
    exact hskip _ _

/-- A tree is read when there is fuel for its text. -/
def Reads (l : Layout) (v : Value) : Prop :=
  ∀ fuel depth rest, 2 * (lay l depth v).length ≤ fuel + 2 → Ends rest →
    value (fuel + 1) (lay l depth v ++ rest) = some (v, rest)

theorem items_lay {vs : List Value} (h : ∀ v ∈ vs, Reads l v) (hvs : vs ≠ []) {bs : List Char} (hbs : Blanks bs)
    (rest : List Char) (fuel depth : Nat) (hfuel : 2 * (layItems l depth vs).length ≤ fuel + 2) :
    items (fuel + 2) (layItems l depth vs ++ (bs ++ ']' :: rest)) = some (vs, rest) := by
  induction vs generalizing fuel with
  | nil => exact absurd rfl hvs
  | cons v vs ih =>
    have hread := h v List.mem_cons_self
    have hclose : skip (bs ++ ']' :: rest) = ']' :: rest := by
      rw [skip_blanks hbs, skip_visible rfl]
    cases vs with
    | nil =>
      rw [layItems, List.length_append] at hfuel
      have hv := hread fuel depth (bs ++ ']' :: rest) (by omega) (.of_blanks hbs (by decide) rest)
      rw [layItems, List.append_assoc, items, value_blanks (l.blanks_line depth), hv]
      simp [hclose]
    | cons v' vs =>
      obtain ⟨c, cs, hcs, -, -⟩ := lay_eq_cons l depth v
      have hlength : (lay l depth v).length = cs.length + 1 := congrArg List.length hcs
      -- one item takes one off the fuel, and at least two characters off the text
      rw [layItems_cons_cons, List.length_append, List.length_append, List.length_cons] at hfuel
      obtain ⟨fuel, rfl⟩ : ∃ f, fuel = f + 1 := ⟨fuel - 1, by omega⟩
      have hv := hread (fuel + 1) depth (',' :: (layItems l depth (v' :: vs) ++ (bs ++ ']' :: rest))) (by omega)
        (.comma _)
      have hvs := ih (fun w hw => h w (List.mem_cons_of_mem _ hw)) (by simp) fuel (by omega)
      rw [layItems_cons_cons, List.append_assoc, List.append_assoc, items, value_blanks (l.blanks_line depth),
        List.cons_append, hv]
      simp [skip_comma, hvs]

section Member

variable {bs cs rest rest' : List Char} {fuel : Nat} (hbs : Blanks bs) (k : String)
  (hv : value fuel cs = some (v, rest'))

include hbs hv

theorem members_last (hclose : skip rest' = '}' :: rest) :
    members (fuel + 1) (bs ++ (keyText (some k) ++ ':' :: cs)) = some ([(some k, v)], rest) := by
  rw [← members_skip, skip_blanks hbs, members_skip, keyText, Option.getD_some, stringText_append, members, skip_quote]
  simp [string_stringText, skip_colon, hv, hclose]

theorem members_more (hcomma : skip rest' = ',' :: rest) :
    members (fuel + 1) (bs ++ (keyText (some k) ++ ':' :: cs)) =
      (members fuel rest).map fun (ms, rest) => ((some k, v) :: ms, rest) := by
  rw [← members_skip, skip_blanks hbs, members_skip, keyText, Option.getD_some, stringText_append, members, skip_quote]
  simp only [if_true, string_stringText, Option.bind_eq_bind, Option.bind_some, skip_colon, hv, hcomma]
  cases members fuel rest <;> rfl

end Member

theorem members_lay {ms : List (Option String × Value)} (hkeys : ∀ m ∈ ms, m.1.isSome = true)
    (h : ∀ m ∈ ms, Reads l m.2) (hms : ms ≠ []) {bs : List Char} (hbs : Blanks bs) (rest : List Char)
    (fuel depth : Nat) (hfuel : 2 * (layMembers l depth ms).length ≤ fuel + 2) :
    members (fuel + 2) (layMembers l depth ms ++ (bs ++ '}' :: rest)) = some (ms, rest) := by
  induction ms generalizing fuel with
  | nil => exact absurd rfl hms
  | cons m ms ih =>
    obtain ⟨key, v⟩ := m
    obtain ⟨k, rfl⟩ := Option.isSome_iff_exists.1 (hkeys _ List.mem_cons_self)
    have hread : Reads l v := h _ List.mem_cons_self
    have hclose : skip (bs ++ '}' :: rest) = '}' :: rest := by
      rw [skip_blanks hbs, skip_visible rfl]
    cases ms with
    | nil =>
      rw [layMembers, List.length_append, List.length_append, List.length_cons, List.length_append] at hfuel
      have hv := hread fuel depth (bs ++ '}' :: rest) (by omega) (.of_blanks hbs (by decide) rest)
      rw [layMembers, List.append_assoc, List.append_assoc, List.cons_append, List.append_assoc,
        members_last (l.blanks_line depth) k ((value_blanks l.blanks_space _ _).trans hv) hclose]
    | cons m' ms =>
      rw [layMembers_cons_cons, List.length_append, List.length_append, List.length_cons, List.length_append,
        List.length_append, List.length_cons] at hfuel
      obtain ⟨fuel, rfl⟩ : ∃ f, fuel = f + 1 := ⟨fuel - 1, by omega⟩
      have hv := hread (fuel + 1) depth (',' :: (layMembers l depth (m' :: ms) ++ (bs ++ '}' :: rest))) (by omega)
        (.comma _)
      have hms := ih (fun w hw => hkeys w (List.mem_cons_of_mem _ hw)) (fun w hw => h w (List.mem_cons_of_mem _ hw))
        (by simp) fuel (by omega)
      rw [layMembers_cons_cons, List.append_assoc, List.append_assoc, List.cons_append, List.append_assoc,
        List.append_assoc, List.cons_append, members_more (l.blanks_line depth) k
          ((value_blanks l.blanks_space _ _).trans hv) (skip_comma _), hms]
      rfl

/-- Whichever way a tree is laid out, it is read back. -/
theorem value_lay (l : Layout) (h : v.Named) : Reads l v := by
  induction h with
  | natural n =>
    intro fuel depth rest _ hrest
    obtain ⟨c, cs, hcs, hdigit⟩ := toDigits_eq_cons n
    -- only here it matters what follows
    rw [lay, hcs, List.cons_append, value_digit hdigit, ← List.cons_append, ← hcs, number_toDigits n hrest]
  | text s =>
    intro fuel depth rest _ _
    rw [lay, value_text]
  | other =>
    intro fuel depth rest _ _
    rw [lay]
    rfl
  | @list vs _ ih =>
    intro fuel depth rest hfuel _
    cases vs with
    | nil =>
      rw [lay]
      rfl
    | cons v vs =>
      obtain ⟨c, tail, hskip, hc⟩ := skip_layItems l (depth + 1) v vs (l.line depth ++ ']' :: rest)
      rw [lay, List.length_append, List.length_append, List.length_cons] at hfuel
      obtain ⟨fuel, rfl⟩ : ∃ f, fuel = f + 2 := ⟨fuel - 2, by simp at hfuel; omega⟩
      have hread := items_lay ih (by simp) (l.blanks_line depth) rest fuel (depth + 1) (by omega)
      have htext : lay l depth (.list (v :: vs)) ++ rest =
          '[' :: (layItems l (depth + 1) (v :: vs) ++ (l.line depth ++ ']' :: rest)) := by
        simp [lay]
      rw [htext, value_list _ hskip hc, hread]
      rfl
  | @table ms hkeys _ ih =>
    intro fuel depth rest hfuel _
    cases ms with
    | nil =>
      rw [lay]
      rfl
    | cons m ms =>
      obtain ⟨tail, hskip⟩ := skip_layMembers l (depth + 1) m ms (l.line depth ++ '}' :: rest)
      rw [lay, List.length_append, List.length_append, List.length_cons] at hfuel
      obtain ⟨fuel, rfl⟩ : ∃ f, fuel = f + 2 := ⟨fuel - 2, by simp at hfuel; omega⟩
      have hread := members_lay hkeys ih (by simp) (l.blanks_line depth) rest fuel (depth + 1) (by omega)
      have htext : lay l depth (.table (m :: ms)) ++ rest =
          '{' :: (layMembers l (depth + 1) (m :: ms) ++ (l.line depth ++ '}' :: rest)) := by
        simp [lay]
      rw [htext, value_table _ hskip (by decide), hread]
      rfl

theorem parse?_of_value {cs : List Char} (hread : value (2 * cs.length + 1 + 1) cs = some (v, [])) :
    parse? (String.ofList cs) = some v := by
  rw [parse?, String.toList_ofList]
  show (value (2 * cs.length + 1 + 1) cs).bind _ = some v
  rw [hread]
  rfl

/-- Both notations are read back. -/
theorem parse?_text (h : v.Named) : parse? (text v) = some v := by
  have hread := value_lay .oneLine h (2 * (write v).length + 1) 0 [] (by rw [write_eq h 0]; omega) nofun
  rw [List.append_nil, ← write_eq h] at hread
  exact parse?_of_value hread

theorem parse?_indented (h : v.Named) : parse? (indented v) = some v := by
  have hread := value_lay .indented h (2 * (indent 0 v).length + 1) 0 [] (by rw [indent_eq h 0]; omega) nofun
  rw [List.append_nil, ← indent_eq h] at hread
  exact parse?_of_value hread

end Json
end Doip
