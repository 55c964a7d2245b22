import Mathlib.Data.Nat.Digits.Defs
import Mathlib.Tactic.Common

/-!
# Byte strings

Wire data and file contents are lists of bytes.  Numbers are read from them in little-endian
order, and the text of a source literal is written with `ascii`.
-/

namespace AntennaMgmt.Lib

/-- Wire data or the contents of a file. -/
abbrev Bytes := List UInt8

/-- The number whose little-endian representation is `bs`. -/
def leNat (bs : Bytes) : ℕ := Nat.ofDigits 256 (bs.map UInt8.toNat)

/-- The `w` bytes of the little-endian representation of `n`, cut to them. -/
def leBytes : ℕ → ℕ → Bytes
  | 0, _ => []
  | w + 1, n => UInt8.ofNat n :: leBytes w (n / 256)

@[simp] lemma length_leBytes (w n : ℕ) : (leBytes w n).length = w := by
  induction w generalizing n with
  | zero => rfl
  | succ w ih => rw [leBytes, List.length_cons, ih]

lemma leNat_cons (b : UInt8) (bs : Bytes) : leNat (b :: bs) = b.toNat + 256 * leNat bs := by
  simp [leNat, Nat.ofDigits_cons]

/-- A number is read back from its representation, cut to as many bytes. -/
lemma leNat_leBytes (w n : ℕ) : leNat (leBytes w n) = n % 256 ^ w := by
  induction w generalizing n with
  | zero => simp [leBytes, leNat, Nat.mod_one]
  | succ w ih =>
    have hbyte : (UInt8.ofNat n).toNat = n % 256 := UInt8.toNat_ofNat'
    rw [leBytes, leNat_cons, ih, hbyte, pow_succ', Nat.mod_mul]

/-- The representation of a number that was read is what it was read from. -/
lemma leBytes_leNat (bs : Bytes) : leBytes bs.length (leNat bs) = bs := by
  induction bs with
  | nil => rfl
  | cons b bs ih =>
    have hlt : b.toNat < 256 := b.toNat_lt
    have hmod : (b.toNat + 256 * leNat bs) % 256 = b.toNat := by omega
    have hbyte : UInt8.ofNat (b.toNat + 256 * leNat bs) = b := by
      refine UInt8.toNat_inj.1 ?_
      rw [UInt8.toNat_ofNat']
      exact hmod
    have hrest : (b.toNat + 256 * leNat bs) / 256 = leNat bs := by omega
    rw [leNat_cons, List.length_cons, leBytes, hbyte, hrest, ih]

lemma leNat_lt (bs : Bytes) : leNat bs < 256 ^ bs.length := by
  induction bs with
  | nil => exact Nat.one_pos
  | cons b bs ih =>
    have hlt : b.toNat < 256 := b.toNat_lt
    rw [leNat_cons, List.length_cons, pow_succ']
    omega

/-- The `w` bytes of `bs` that start at offset `i`. -/
def slice (bs : Bytes) (i w : ℕ) : Bytes := (bs.drop i).take w

/-- A field that lies within the bytes already present does not depend on what follows. -/
lemma slice_append {xs : Bytes} (ys : Bytes) {i w : ℕ} (h : i + w ≤ xs.length) :
    slice (xs ++ ys) i w = slice xs i w := by
  have hdrop : i ≤ xs.length := by omega
  have htake : w ≤ (xs.drop i).length := by rw [List.length_drop]; omega
  rw [slice, slice, List.drop_append_of_le_length hdrop, List.take_append_of_le_length htake]

@[simp] lemma length_slice {bs : Bytes} {i w : ℕ} (h : i + w ≤ bs.length) :
    (slice bs i w).length = w := by
  rw [slice, List.length_take, List.length_drop]
  omega

/-- Two fields that follow one another are one field. -/
lemma slice_add (bs : Bytes) (i v w : ℕ) :
    slice bs i (v + w) = slice bs i v ++ slice bs (i + v) w := by
  rw [slice, List.take_add, List.drop_drop, slice, slice]

/-- A field of one byte. -/
lemma slice_one {bs : Bytes} {i : ℕ} (h : i < bs.length) : slice bs i 1 = [bs.getD i 0] := by
  rw [slice, List.drop_eq_getElem_cons h, List.take_succ_cons, List.take_zero]
  simp [h]

/-- A field that holds a number is the representation of it. -/
lemma leBytes_leNat_slice {bs : Bytes} {i w : ℕ} (h : i + w ≤ bs.length) :
    leBytes w (leNat (slice bs i w)) = slice bs i w := by
  have hcut := leBytes_leNat (slice bs i w)
  rwa [length_slice h] at hcut

/-- The bytes of an ASCII literal. -/
def ascii (s : String) : Bytes := s.toList.map fun c => UInt8.ofNat c.toNat

end AntennaMgmt.Lib
