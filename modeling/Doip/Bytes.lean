/-! Byte lists and the big-endian numbers in them. `ofBE_be` reads a written number back modulo
`256 ^ k`, and `be_ofBE` writes a read one again, so a field of fixed width loses nothing. -/

namespace Doip

abbrev Bytes := List UInt8

/-- A 16-bit logical address of a tester or of a diagnostic server. -/
abbrev Address := UInt16

/-- The `k` low bytes of `n`, the most significant first. -/
def be : Nat → Nat → Bytes
  | 0, _ => []
  | k + 1, n => be k (n / 256) ++ [UInt8.ofNat n]

/-- The number whose digits in base 256 are the given bytes, the most significant first. -/
def ofBE (bs : Bytes) : Nat := bs.foldl (fun n b => n * 256 + b.toNat) 0

@[simp] theorem length_be (k n : Nat) : (be k n).length = k := by
  induction k generalizing n with
  | zero => rfl
  | succ k ih => simp [be, ih]

theorem ofBE_concat (bs : Bytes) (b : UInt8) : ofBE (bs ++ [b]) = ofBE bs * 256 + b.toNat := by
  simp [ofBE]

theorem ofBE_be (k n : Nat) : ofBE (be k n) = n % Nat.pow 256 k := by
  induction k generalizing n with
  | zero => exact (Nat.mod_one n).symm
  | succ k ih =>
    rw [be, ofBE_concat, ih, Nat.pow_eq, Nat.pow_eq, Nat.pow_succ', Nat.mod_mul, UInt8.toNat_ofNat']
    omega

theorem be_ofBE (bs : Bytes) : be bs.length (ofBE bs) = bs := by
  induction h : bs.length generalizing bs with
  | zero => simp [List.length_eq_zero_iff.1 h, be]
  | succ k ih =>
    have hne : bs ≠ [] := by intro e; simp [e] at h
    obtain ⟨xs, x, rfl⟩ : ∃ xs x, bs = xs ++ [x] :=
      ⟨bs.dropLast, bs.getLast hne, (List.dropLast_concat_getLast hne).symm⟩
    have hx := x.toNat_lt
    have hd : (ofBE xs * 256 + x.toNat) / 256 = ofBE xs := by omega
    have hm : UInt8.ofNat (ofBE xs * 256 + x.toNat) = x := by
      apply UInt8.toNat_inj.1
      rw [UInt8.toNat_ofNat']
      omega
    rw [be, ofBE_concat, hd, hm, ih xs (by simpa using h)]

theorem ofBE_lt (bs : Bytes) : ofBE bs < Nat.pow 256 bs.length := by
  have h : ofBE bs = ofBE bs % Nat.pow 256 bs.length := by rw [← ofBE_be, be_ofBE]
  rw [h]
  exact Nat.mod_lt _ (Nat.pow_pos (by decide))

def address (hi lo : UInt8) : Address := UInt16.ofNat (ofBE [hi, lo])

def addressBytes (a : Address) : Bytes := be 2 a.toNat

@[simp] theorem length_addressBytes (a : Address) : (addressBytes a).length = 2 := length_be 2 _

/-- A field of exactly `n` bytes. -/
structure Octets (n : Nat) where
  bytes : Bytes
  length_bytes : bytes.length = n
deriving DecidableEq

attribute [simp] Octets.length_bytes

@[ext] theorem Octets.ext {n : Nat} {a b : Octets n} (h : a.bytes = b.bytes) : a = b := by
  cases a; cases b; simpa using h

def Octets.slice (bs : Bytes) (start n : Nat) (h : start + n ≤ bs.length) : Octets n :=
  ⟨(bs.drop start).take n, by simp; omega⟩

def Octets.ofBytes? (n : Nat) (bs : Bytes) : Option (Octets n) :=
  if h : bs.length = n then some ⟨bs, h⟩ else none

def Octets.replicate (n : Nat) (b : UInt8) : Octets n := ⟨List.replicate n b, by simp⟩

end Doip
