import Mathlib.Algebra.Order.Ring.Int
import Mathlib.Tactic.Common

/-!
# Word operations that wrap

Differences and products of 64-bit words are taken modulo `2 ^ 64`.  A computation is given with
the operations that it executes, and an operation is exact when the word that it yields is the
number that it stands for.
-/

namespace AntennaMgmt.Lib

/-- An operation on 64-bit words, with its operands. -/
inductive WordOp
  | sub (a b : UInt64)
  | mul (a b : UInt64)
  | div (a b : UInt64)
deriving DecidableEq, Repr

namespace WordOp

/-- The operation does not wrap, and does not divide by zero. -/
def Exact : WordOp → Prop
  | sub a b => ((a - b).toNat : ℤ) = a.toNat - b.toNat
  | mul a b => (a * b).toNat = a.toNat * b.toNat
  | div _ b => b ≠ 0

instance : DecidablePred Exact
  | sub _ _ => inferInstanceAs (Decidable (_ = _))
  | mul _ _ => inferInstanceAs (Decidable (_ = _))
  | div _ _ => inferInstanceAs (Decidable (_ ≠ _))

variable {a b : UInt64}

lemma exact_sub_iff : (sub a b).Exact ↔ b ≤ a := by
  constructor
  · intro h
    have hexact : ((a - b).toNat : ℤ) = a.toNat - b.toNat := h
    rw [UInt64.le_iff_toNat_le]
    omega
  · intro h
    have hsub : (a - b).toNat = a.toNat - b.toNat := UInt64.toNat_sub_of_le a b h
    have hle : b.toNat ≤ a.toNat := UInt64.le_iff_toNat_le.1 h
    change ((a - b).toNat : ℤ) = a.toNat - b.toNat
    omega

lemma exact_mul_iff : (mul a b).Exact ↔ a.toNat * b.toNat < 2 ^ 64 := by
  change (a * b).toNat = a.toNat * b.toNat ↔ _
  rw [UInt64.toNat_mul, Nat.mod_eq_iff_lt (by decide)]

lemma exact_div_iff : (div a b).Exact ↔ b ≠ 0 := Iff.rfl

/-- A part of a whole, in parts of `n`, is `n` at most when the product is exact. -/
lemma toNat_mul_div_le {n part whole : UInt64} (hmul : (mul n part).Exact)
    (hpart : part ≤ whole) : (n * part / whole).toNat ≤ n.toNat := by
  have hprod : (n * part).toNat = n.toNat * part.toNat := hmul
  rw [UInt64.toNat_div, hprod]
  refine Nat.div_le_of_le_mul ?_
  rw [Nat.mul_comm]
  exact Nat.mul_le_mul_right _ (UInt64.le_iff_toNat_le.1 hpart)

end WordOp

end AntennaMgmt.Lib
