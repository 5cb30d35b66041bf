import Mathlib.Data.List.TakeWhile
import Doip.IpAddress
import Doip.Proofs.Text.Numeral

/-! The texts of internet addresses. What is written of an address is read back as that address (`parse?_text`). For the
second notation the groups in front of `::` and those behind it are read apart, and the run of zeros that was left out
is what is missing of eight (`longestZeros_spec`). -/

namespace Doip.IpAddress

variable {base most : Nat}

/-- What stands behind a numeral: nothing, or no digit of its base. -/
def Stops (base : Nat) (rest : List Char) : Prop := ∀ c ∈ rest.head?, Numeral.digit? base c = none

theorem Stops.takeWhile {rest : List Char} (h : Stops base rest) :
    rest.takeWhile (fun c => (Numeral.digit? base c).isSome) = [] := by
  cases rest with
  | nil => rfl
  | cons c rest =>
    rw [List.takeWhile_cons, h c rfl]
    rfl

theorem number_none {cs : List Char} (h : Stops base cs) : number base most cs = none := by
  simp only [number, h.takeWhile, List.length_nil, true_or, if_true]

theorem number_toDigits {n : Nat} {rest : List Char} (htwo : 1 < base) (hbase : base ≤ 16) (hmost : 0 < most)
    (hn : n < base.pow most) (hrest : Stops base rest) :
    number base most (base.toDigits n ++ rest) = some (n, rest) := by
  have hdigits : (base.toDigits n ++ rest).takeWhile (fun c => (Numeral.digit? base c).isSome) = base.toDigits n := by
    rw [List.takeWhile_append_of_pos (Numeral.isSome_digit? htwo hbase), hrest.takeWhile, List.append_nil]
  have hsome : (base.toDigits n).length ≠ 0 := fun h => Nat.toDigits_ne_nil (List.length_eq_zero_iff.1 h)
  have hmany : (base.toDigits n).length ≤ most := (Nat.length_toDigits_le_iff htwo hmost).2 hn
  have hread : Numeral.extend base (base.pow most) 0 (base.toDigits n) = .ok n :=
    Numeral.extend_toDigits htwo hbase (Nat.le_of_lt hn)
  simp only [number, hdigits, hread, List.drop_left]
  rw [if_neg (by omega)]
  rfl

/-! The notation of four numbers. -/

theorem octet_toDigits (n : UInt8) {rest : List Char} (hrest : Stops 10 rest) :
    octet (Nat.toDigits 10 n.toNat ++ rest) = some (n, rest) := by
  have hn : n.toNat < 256 := n.toNat_lt
  have hleading : ¬((Nat.toDigits 10 n.toNat ++ rest).head? = some '0' ∧
      rest.length + 1 < (Nat.toDigits 10 n.toNat ++ rest).length) := by
    rintro ⟨hhead, hlonger⟩
    by_cases hzero : n.toNat = 0
    · rw [hzero] at hlonger
      exact Nat.lt_irrefl _ hlonger
    · rw [Numeral.head?_toDigits_append] at hhead
      exact Numeral.head?_toDigits (by decide) (by decide) hzero hhead
  have hsize : n.toNat < Nat.pow 10 3 := Nat.lt_of_lt_of_le hn (by decide)
  rw [octet, number_toDigits (by decide) (by decide) (by decide) hsize hrest]
  show (if 255 < n.toNat ∨ _ then none else some (UInt8.ofNat n.toNat, rest)) = _
  rw [if_neg (not_or.2 ⟨by omega, hleading⟩), UInt8.ofNat_toNat]

theorem v4Text_eq (v : Ipv4) : v4Text v = Nat.toDigits 10 v.a.toNat ++ '.' :: (Nat.toDigits 10 v.b.toNat ++
    '.' :: (Nat.toDigits 10 v.c.toNat ++ '.' :: Nat.toDigits 10 v.d.toNat)) := by
  simp [v4Text, List.intersperse]

theorem readV4_v4Text (v : Ipv4) : readV4 (v4Text v) = some (v, []) := by
  have hdot (rest : List Char) : Stops 10 ('.' :: rest) := by
    rintro c ⟨⟩
    decide
  have hend : Stops 10 [] := nofun
  have hlast : octet (Nat.toDigits 10 v.d.toNat) = some (v.d, []) := by
    rw [← List.append_nil (Nat.toDigits 10 v.d.toNat), octet_toDigits v.d hend]
  simp only [readV4, v4Text_eq, octet_toDigits _ (hdot _), expect, if_true, hlast, Option.bind_eq_bind,
    Option.bind_some, Option.pure_def]

theorem octet_suffix {cs rest : List Char} {n : UInt8} (h : octet cs = some (n, rest)) : rest <:+ cs := by
  simp only [octet, number, Option.bind_eq_bind] at h
  split at h
  · cases h
  · obtain ⟨⟨m, rest'⟩, hread, h⟩ := Option.bind_eq_some_iff.1 h
    obtain ⟨_, _, hpair⟩ := Option.map_eq_some_iff.1 hread
    dsimp only at h
    split at h
    · cases h
    · cases h
      cases hpair
      exact List.drop_suffix _ _

theorem readV4_none {cs : List Char} (h : '.' ∉ cs) : readV4 cs = none := by
  cases hfirst : octet cs with
  | none => simp only [readV4, hfirst, Option.bind_eq_bind, Option.bind_none]
  | some first =>
    obtain ⟨n, rest⟩ := first
    have hrest : expect '.' rest = none := by
      cases rest with
      | nil => rfl
      | cons c rest =>
        have hmem : c ∈ cs := (octet_suffix hfirst).subset List.mem_cons_self
        rw [expect, if_neg]
        rintro rfl
        exact h hmem
    simp only [readV4, hfirst, hrest, Option.bind_eq_bind, Option.bind_some, Option.bind_none]

theorem readV4_stop {cs : List Char} (h : Stops 10 cs) : readV4 cs = none := by
  simp only [readV4, octet, number_none h, Option.bind_eq_bind, Option.bind_none]

/-! The notation of eight groups. -/

/-- Groups that follow others. -/
def laterText (gs : List UInt16) : List Char := gs.flatMap fun g => ':' :: Nat.toDigits 16 g.toNat

theorem groupsText_cons (g : UInt16) (gs : List UInt16) :
    groupsText (g :: gs) = Nat.toDigits 16 g.toNat ++ laterText gs := by
  induction gs generalizing g with
  | nil => simp [groupsText, laterText]
  | cons g' gs ih =>
    have hnext := ih g'
    simp only [groupsText, List.map_cons] at hnext ⊢
    rw [List.intersperse_cons_cons, List.flatten_cons, List.flatten_cons, hnext]
    simp [laterText]

theorem dot_notMem_toDigits {n : Nat} : '.' ∉ Nat.toDigits 16 n := fun h =>
  absurd (Numeral.isSome_digit? (by decide) (by decide) _ h) (by decide)

theorem dot_notMem_laterText (gs : List UInt16) : '.' ∉ laterText gs := by
  simp [laterText, dot_notMem_toDigits]

theorem dot_notMem_groupsText (gs : List UInt16) : '.' ∉ groupsText gs := by
  cases gs with
  | nil => exact List.not_mem_nil
  | cons g gs =>
    rw [groupsText_cons]
    simp [dot_notMem_toDigits, dot_notMem_laterText]

/-- What may stand behind the groups of a side: nothing, or the two colons. -/
inductive Side : List Char → Prop
  | last : Side []
  | colons (tail : List Char) : Side (':' :: ':' :: tail)

theorem stops_colon (rest : List Char) : Stops base (':' :: rest) := by
  rintro c ⟨⟩
  rfl

theorem Side.stops {rest : List Char} (h : Side rest) : Stops base rest := by
  cases h with
  | last => exact nofun
  | colons tail => exact stops_colon _

/-- Groups that follow others end the numeral in front of them. -/
theorem Side.stops_laterText {rest : List Char} (h : Side rest) (gs : List UInt16) :
    Stops base (laterText gs ++ rest) := by
  cases gs with
  | nil => exact h.stops
  | cons g gs => exact stops_colon _

theorem readGroups_group {limit : Nat} {first : Bool} {cs start rest : List Char} {g : UInt16}
    (hstart : (if first then some cs else expect ':' cs) = some start)
    (htext : start = Nat.toDigits 16 g.toNat ++ rest) (hrest : Stops 16 rest) (hv4 : readV4 start = none) :
    readGroups (limit + 1) first cs =
      (g :: (readGroups limit false rest).1, (readGroups limit false rest).2) := by
  have hsize : g.toNat < Nat.pow 16 4 := g.toNat_lt
  have hnumber : number 16 4 start = some (g.toNat, rest) := by
    rw [htext, number_toDigits (by decide) (by decide) (by decide) hsize hrest]
  have hnone : (if limit = 0 then none else readV4 start) = none := by
    split
    · rfl
    · exact hv4
  rw [readGroups, hstart]
  simp only [hnone, Option.bind_some, hnumber, UInt16.ofNat_toNat]

theorem readGroups_stop (first : Bool) {rest : List Char} (h : Side rest) (limit : Nat) :
    readGroups limit first rest = ([], false, rest) := by
  cases limit with
  | zero => rfl
  | succ limit =>
    have hstart : (if first then some rest else expect ':' rest) = none ∨
        ∃ start, (if first then some rest else expect ':' rest) = some start ∧ Stops 10 start ∧ Stops 16 start := by
      cases first with
      | true => exact .inr ⟨rest, rfl, h.stops, h.stops⟩
      | false =>
        cases h with
        | last => exact .inl rfl
        | colons tail => exact .inr ⟨':' :: tail, rfl, stops_colon _, stops_colon _⟩
    rw [readGroups]
    rcases hstart with hstart | ⟨start, hstart, hten, hsixteen⟩
    · simp only [hstart, Option.bind_none, ite_self]
    · simp only [hstart, Option.bind_some, readV4_stop hten, number_none hsixteen, ite_self]

theorem readGroups_laterText {rest : List Char} (hside : Side rest) (hrest : '.' ∉ rest) (gs : List UInt16)
    (limit : Nat) (hlimit : gs.length ≤ limit) : readGroups limit false (laterText gs ++ rest) = (gs, false, rest) := by
  induction gs generalizing limit with
  | nil => exact readGroups_stop _ hside limit
  | cons g gs ih =>
    obtain ⟨limit, rfl⟩ : ∃ l, limit = l + 1 := ⟨limit - 1, by rw [List.length_cons] at hlimit; omega⟩
    have htext : laterText (g :: gs) ++ rest = ':' :: (Nat.toDigits 16 g.toNat ++ (laterText gs ++ rest)) := by
      simp [laterText]
    have hdot : '.' ∉ Nat.toDigits 16 g.toNat ++ (laterText gs ++ rest) := by
      simp [dot_notMem_toDigits, dot_notMem_laterText, hrest]
    rw [htext, readGroups_group rfl rfl (hside.stops_laterText gs) (readV4_none hdot),
      ih limit (Nat.le_of_succ_le_succ hlimit)]

/-- The groups of a side are read as they were written. -/
theorem readGroups_groupsText {rest : List Char} (hside : Side rest) (hrest : '.' ∉ rest) (gs : List UInt16)
    (limit : Nat) (hlimit : gs.length ≤ limit) :
    readGroups limit true (groupsText gs ++ rest) = (gs, false, rest) := by
  cases gs with
  | nil => exact readGroups_stop _ hside limit
  | cons g gs =>
    obtain ⟨limit, rfl⟩ : ∃ l, limit = l + 1 := ⟨limit - 1, by rw [List.length_cons] at hlimit; omega⟩
    have hdot : '.' ∉ groupsText (g :: gs) ++ rest := by
      simp [dot_notMem_groupsText, hrest]
    rw [readGroups_group rfl (by rw [groupsText_cons, List.append_assoc]) (hside.stops_laterText gs) (readV4_none hdot),
      readGroups_laterText hside hrest gs limit (Nat.le_of_succ_le_succ hlimit)]

/-- Where the longest run of zeros lies. -/
theorem longestZeros_spec (gs : List UInt16) (i : Nat) :
    (longestZeros i gs).2 = 0 ∨ ∃ front back, gs = front ++ List.replicate (longestZeros i gs).2 0 ++ back ∧
      (longestZeros i gs).1 = i + front.length := by
  induction gs generalizing i with
  | nil => exact .inl rfl
  | cons g gs ih =>
    rw [longestZeros]
    split
    · right
      have hzeros : (g :: gs).takeWhile (· = 0) = List.replicate ((g :: gs).takeWhile (· = 0)).length 0 := by
        refine List.eq_replicate_of_mem fun x hx => ?_
        have hzero := List.mem_takeWhile_imp hx
        exact of_decide_eq_true hzero
      refine ⟨[], (g :: gs).dropWhile (· = 0), ?_, rfl⟩
      rw [List.nil_append, ← hzeros, List.takeWhile_append_dropWhile]
    · rcases ih (i + 1) with hnone | ⟨front, back, hsplit, hstart⟩
      · exact .inl hnone
      · refine .inr ⟨g :: front, back, by rw [List.cons_append, List.cons_append, ← hsplit], ?_⟩
        rw [hstart, List.length_cons]
        omega

/-- How eight groups are written: all of them, or without the zeros that `::` stands for. -/
theorem compressed_cases (gs : List UInt16) : compressed gs = groupsText gs ∨
    ∃ front run back, gs = front ++ List.replicate run 0 ++ back ∧ 2 ≤ run ∧
      compressed gs = groupsText front ++ ':' :: ':' :: groupsText back := by
  have hcompressed : compressed gs = if (longestZeros 0 gs).2 ≤ 1 then groupsText gs
      else groupsText (gs.take (longestZeros 0 gs).1) ++ [':', ':'] ++
        groupsText (gs.drop ((longestZeros 0 gs).1 + (longestZeros 0 gs).2)) := rfl
  rw [hcompressed]
  split
  · exact .inl rfl
  · rename_i hrun
    obtain hnone | ⟨front, back, hgroups, hstart⟩ := longestZeros_spec gs 0
    · omega
    · refine .inr ⟨front, _, back, hgroups, by omega, ?_⟩
      have hfront : gs.take front.length = front := by
        rw [hgroups, List.append_assoc, List.take_left]
      have hback : ∀ run, gs = front ++ List.replicate run 0 ++ back → gs.drop (front.length + run) = back := by
        rintro run rfl
        exact List.drop_left' (by simp)
      rw [hstart, Nat.zero_add, hfront, hback _ hgroups, List.append_assoc]
      rfl

theorem dot_notMem_compressed (gs : List UInt16) : '.' ∉ compressed gs := by
  rcases compressed_cases gs with htext | ⟨front, run, back, -, -, htext⟩
  · rw [htext]
    exact dot_notMem_groupsText gs
  · rw [htext]
    simp [dot_notMem_groupsText]

theorem readV6_compressed (v : Ipv6) : readV6 (compressed v.groups) = some (.v6 v, []) := by
  obtain ⟨gs, hlength⟩ := v
  dsimp only
  rcases compressed_cases gs with htext | ⟨front, run, back, rfl, hrun, htext⟩
  · have hall := readGroups_groupsText .last List.not_mem_nil gs 8 (Nat.le_of_eq hlength)
    rw [List.append_nil] at hall
    simp [readV6, htext, hall, hlength, ofGroups?]
  · have hsum : front.length + run + back.length = 8 := by
      simpa [Nat.add_assoc] using hlength
    -- without a dot no group is taken for the beginning of an IPv4 address
    have hdot : '.' ∉ ':' :: ':' :: groupsText back := by
      simp [dot_notMem_groupsText]
    have hfront := readGroups_groupsText (.colons (groupsText back)) hdot front 8 (by omega)
    have hback := readGroups_groupsText .last List.not_mem_nil back (7 - front.length) (by omega)
    rw [List.append_nil] at hback
    -- what the two sides lack of eight groups is the run that was left out
    have hrest : 8 - front.length - back.length = run := by omega
    have hpart : front.length ≠ 8 := by omega
    have hwhole : ofGroups? (front ++ List.replicate run 0 ++ back) =
        some (.v6 ⟨front ++ List.replicate run 0 ++ back, hlength⟩) := dif_pos hlength
    simp only [readV6, htext, hfront, hpart, if_false, Bool.false_eq_true, expect, if_true, Option.bind_eq_bind,
      Option.bind_some, hback, hrest, hwhole, Option.pure_def]

theorem readGroups_v4Text (limit : Nat) (v : Ipv4) :
    readGroups (limit + 2) false (':' :: v4Text v) = (v.groups, true, []) := by
  rw [readGroups]
  simp only [Bool.false_eq_true, if_false, expect, if_true, Option.bind_some, readV4_v4Text, Nat.add_eq_zero_iff,
    Nat.one_ne_zero, and_false]

theorem readV6_mapped (v : Ipv4) :
    readV6 ("::ffff:".toList ++ v4Text v) = some (.v6 ⟨[0, 0, 0, 0, 0, 0xFFFF] ++ v.groups, rfl⟩, []) := by
  have hfront := readGroups_stop true (.colons ("ffff:".toList ++ v4Text v)) 8
  have hstop : Stops 10 ("ffff:".toList ++ v4Text v) := by
    rintro c ⟨⟩
    decide
  have hback : readGroups 7 true ("ffff:".toList ++ v4Text v) = (0xFFFF :: v.groups, true, []) := by
    have htext : "ffff:".toList ++ v4Text v = Nat.toDigits 16 (0xFFFF : UInt16).toNat ++ ':' :: v4Text v := rfl
    rw [readGroups_group rfl htext (stops_colon _) (readV4_stop hstop), readGroups_v4Text]
  have htext : "::ffff:".toList ++ v4Text v = ':' :: ':' :: ("ffff:".toList ++ v4Text v) := rfl
  rw [htext, readV6, hfront]
  simp only [List.length_nil, expect, if_true, hback, Option.bind_eq_bind, Option.bind_some]
  rfl

theorem address_toNat (w : UInt16) : address (UInt8.ofNat (w.toNat / 256)) (UInt8.ofNat w.toNat) = w := by
  have hbytes : be 2 w.toNat = [UInt8.ofNat (w.toNat / 256), UInt8.ofNat w.toNat] := rfl
  have hw : w.toNat < Nat.pow 256 2 := w.toNat_lt
  rw [address, ← hbytes, ofBE_be, Nat.mod_eq_of_lt hw, UInt16.ofNat_toNat]

theorem readV6_v6Text (v : Ipv6) : readV6 (v6Text v) = some (.v6 v, []) := by
  obtain ⟨gs, hlength⟩ := v
  rw [v6Text]
  split
  · rename_i g h hgroups
    dsimp only at hgroups
    subst hgroups
    rw [readV6_mapped]
    simp only [Ipv4.groups, address_toNat]
    rfl
  · exact readV6_compressed ⟨gs, hlength⟩

theorem readV4_v6Text (v : Ipv6) : readV4 (v6Text v) = none := by
  rw [v6Text]
  split
  · exact readV4_stop (stops_colon _)
  · exact readV4_none (dot_notMem_compressed _)

/-- What is written of an address is read as that address. -/
theorem parse?_text (ip : IpAddress) : parse? ip.text = some ip := by
  cases ip with
  | v4 v => simp only [parse?, text, String.toList_ofList, read, readV4_v4Text]
  | v6 v => simp only [parse?, text, String.toList_ofList, read, readV4_v6Text, readV6_v6Text]

example : text (.v6 ⟨[0x2001, 0xDB8, 0, 0, 1, 0, 0, 1], rfl⟩) = "2001:db8::1:0:0:1" := by decide +kernel

end Doip.IpAddress
