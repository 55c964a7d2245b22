import Mathlib.Algebra.CharP.Two
import Mathlib.Algebra.Field.ZMod
import Mathlib.Algebra.Polynomial.Degree.Domain
import Mathlib.Algebra.Polynomial.Div
import Mathlib.Algebra.Polynomial.Inductions
import Mathlib.RingTheory.Coprime.Lemmas
import Mathlib.Tactic.LinearCombination

/-!
# Cyclic redundancy checks

A string of bits, the most significant one first, is a polynomial over the field of two elements.
A shift register that takes in the symbols of a message at its top, and is reduced by a generator
at each shift, holds the remainder of the message modulo the generator.  Remainders tell strings
apart that differ in a window no wider than the register.
-/

namespace AntennaMgmt.Lib

open Polynomial

/-! ### Bits and polynomials -/

/-- A bit as an element of the field. -/
def bitCoeff (b : Bool) : ZMod 2 := if b then 1 else 0

lemma bitCoeff_xor (a b : Bool) : bitCoeff (a ^^ b) = bitCoeff a + bitCoeff b := by
  cases a <;> cases b <;> decide

lemma bitCoeff_injective : Function.Injective bitCoeff := by decide

/-- The polynomial of a string of bits; the first bit is the leading coefficient. -/
noncomputable def bitsPoly : List Bool → (ZMod 2)[X]
  | [] => 0
  | b :: l => C (bitCoeff b) * X ^ l.length + bitsPoly l

/-- The lowest `w` bits of a number, the most significant one first. -/
def msbBits : ℕ → ℕ → List Bool
  | 0, _ => []
  | w + 1, n => n.testBit w :: msbBits w n

@[simp] lemma bitsPoly_nil : bitsPoly [] = 0 := rfl

@[simp] lemma bitsPoly_cons (b : Bool) (l : List Bool) :
    bitsPoly (b :: l) = C (bitCoeff b) * X ^ l.length + bitsPoly l := rfl

@[simp] lemma length_msbBits (w n : ℕ) : (msbBits w n).length = w := by
  induction w with
  | zero => rfl
  | succ w ih => rw [msbBits, List.length_cons, ih]

lemma bitsPoly_append (xs ys : List Bool) :
    bitsPoly (xs ++ ys) = bitsPoly xs * X ^ ys.length + bitsPoly ys := by
  induction xs with
  | nil => simp
  | cons b xs ih =>
    rw [List.cons_append, bitsPoly_cons, bitsPoly_cons, ih, List.length_append, pow_add]
    ring

lemma degree_bitsPoly_lt (l : List Bool) : degree (bitsPoly l) < l.length := by
  induction l with
  | nil => simp
  | cons b l ih =>
    have hlen : (l.length : WithBot ℕ) < (b :: l).length := by
      rw [List.length_cons]
      exact_mod_cast Nat.lt_succ_self l.length
    have hlead : degree (C (bitCoeff b) * X ^ l.length : (ZMod 2)[X]) ≤ l.length :=
      degree_C_mul_X_pow_le _ _
    rw [bitsPoly_cons]
    exact (degree_add_le _ _).trans_lt (max_lt (hlead.trans_lt hlen) (ih.trans hlen))

lemma coeff_bitsPoly_length (b : Bool) (l : List Bool) :
    (bitsPoly (b :: l)).coeff l.length = bitCoeff b := by
  rw [bitsPoly_cons, coeff_add, coeff_C_mul_X_pow, if_pos rfl,
    coeff_eq_zero_of_degree_lt (degree_bitsPoly_lt l), add_zero]

/-- Strings of one length are told apart by their polynomials. -/
lemma bitsPoly_inj {xs ys : List Bool} (hlen : xs.length = ys.length)
    (h : bitsPoly xs = bitsPoly ys) : xs = ys := by
  induction xs generalizing ys with
  | nil => exact (List.length_eq_zero_iff.1 hlen.symm).symm
  | cons a xs ih =>
    cases ys with
    | nil => cases hlen
    | cons b ys =>
      have hlen' : xs.length = ys.length := Nat.succ.inj hlen
      have hfirst : bitCoeff a = bitCoeff b := by
        rw [← coeff_bitsPoly_length a xs, ← coeff_bitsPoly_length b ys, h, hlen']
      have hab := bitCoeff_injective hfirst
      rw [bitsPoly_cons, bitsPoly_cons, hab, hlen'] at h
      rw [hab, ih hlen' (add_left_cancel h)]

lemma bitsPoly_replicate_false (k : ℕ) : bitsPoly (List.replicate k false) = 0 := by
  induction k with
  | zero => rfl
  | succ k ih => simp [List.replicate_succ, ih, bitCoeff]

/-- Exclusive or is addition. -/
lemma bitsPoly_msbBits_xor (w m n : ℕ) :
    bitsPoly (msbBits w (m ^^^ n)) = bitsPoly (msbBits w m) + bitsPoly (msbBits w n) := by
  induction w with
  | zero => simp [msbBits]
  | succ w ih =>
    simp only [msbBits, bitsPoly_cons, length_msbBits, ih, Nat.testBit_xor, bitCoeff_xor, C_add]
    ring

/-- The bits above the lowest ones do not matter. -/
lemma msbBits_mod {w v : ℕ} (h : w ≤ v) (n : ℕ) : msbBits w (n % 2 ^ v) = msbBits w n := by
  induction w with
  | zero => rfl
  | succ w ih =>
    have hbit : (n % 2 ^ v).testBit w = n.testBit w := by
      rw [Nat.testBit_mod_two_pow, decide_eq_true (by omega), Bool.true_and]
    rw [msbBits, msbBits, hbit, ih (by omega)]

/-- A number that is shifted up has zeros behind its bits. -/
lemma msbBits_shift (w k n : ℕ) :
    msbBits (w + k) (n * 2 ^ k) = msbBits w n ++ List.replicate k false := by
  induction w with
  | zero =>
    rw [Nat.zero_add]
    have hlow : ∀ j ≤ k, msbBits j (n * 2 ^ k) = List.replicate j false := by
      intro j hj
      induction j with
      | zero => rfl
      | succ j ih =>
        have hbit : (n * 2 ^ k).testBit j = false := by
          rw [Nat.testBit_mul_two_pow, decide_eq_false (by omega), Bool.false_and]
        rw [msbBits, hbit, ih (by omega), List.replicate_succ]
    exact hlow k le_rfl
  | succ w ih =>
    have hbit : (n * 2 ^ k).testBit (w + k) = n.testBit w := by
      rw [Nat.testBit_mul_two_pow, decide_eq_true (by omega), Bool.true_and, Nat.add_sub_cancel]
    rw [Nat.add_right_comm, msbBits, hbit, ih, msbBits, List.cons_append]

lemma bitsPoly_msbBits_shift (w k n : ℕ) :
    bitsPoly (msbBits (w + k) (n * 2 ^ k)) = bitsPoly (msbBits w n) * X ^ k := by
  rw [msbBits_shift, bitsPoly_append, bitsPoly_replicate_false, List.length_replicate, add_zero]

lemma msbBits_inj {w m n : ℕ} (hm : m < 2 ^ w) (hn : n < 2 ^ w) (h : msbBits w m = msbBits w n) :
    m = n := by
  induction w generalizing m n with
  | zero => omega
  | succ w ih =>
    obtain ⟨htop, hrest⟩ := List.cons.inj h
    have hlow : m % 2 ^ w = n % 2 ^ w := by
      refine ih (Nat.mod_lt _ (Nat.two_pow_pos w)) (Nat.mod_lt _ (Nat.two_pow_pos w)) ?_
      rw [msbBits_mod le_rfl, msbBits_mod le_rfl, hrest]
    refine Nat.eq_of_testBit_eq fun i => ?_
    rcases Nat.lt_trichotomy i w with hlt | rfl | hgt
    · have hbit := congrArg (fun k => k.testBit i) hlow
      simpa [hlt] using hbit
    · exact htop
    · rw [Nat.testBit_lt_two_pow (hm.trans_le (Nat.pow_le_pow_right Nat.two_pos hgt)),
        Nat.testBit_lt_two_pow (hn.trans_le (Nat.pow_le_pow_right Nat.two_pos hgt))]

/-! ### The register -/

/-- The generator `x ^ w + p`, with `p` given by its bits. -/
noncomputable def crcGenerator (w p : ℕ) : (ZMod 2)[X] := X ^ w + bitsPoly (msbBits w p)

/-- One shift of a register of `w` bits. -/
def crcShift (w p c : ℕ) : ℕ :=
  if c.testBit (w - 1) then (2 * c % 2 ^ w) ^^^ p else 2 * c % 2 ^ w

/-- A symbol of `s` bits is added at the top of the register, and the register is shifted once for
each of its bits. -/
def crcFeed (w p s c b : ℕ) : ℕ := (crcShift w p)^[s] (c ^^^ b * 2 ^ (w - s))

variable {w p s : ℕ}

lemma monic_crcGenerator (w p : ℕ) : (crcGenerator w p).Monic := by
  refine monic_X_pow_add ?_
  have hdegree := degree_bitsPoly_lt (msbBits w p)
  rwa [length_msbBits] at hdegree

lemma degree_crcGenerator (w p : ℕ) : degree (crcGenerator w p) = w := by
  have hdegree := degree_bitsPoly_lt (msbBits w p)
  rw [length_msbBits] at hdegree
  rw [crcGenerator, degree_add_eq_left_of_degree_lt (by rwa [degree_X_pow]), degree_X_pow]

/-- A shift multiplies by `x`, modulo the generator. -/
lemma crcShift_dvd (hw : 0 < w) (p c : ℕ) : crcGenerator w p ∣
    bitsPoly (msbBits w (crcShift w p c)) - X * bitsPoly (msbBits w c) := by
  obtain ⟨v, rfl⟩ : ∃ v, w = v + 1 := ⟨w - 1, by omega⟩
  have hdouble : bitsPoly (msbBits (v + 1) (2 * c % 2 ^ (v + 1))) = bitsPoly (msbBits v c) * X := by
    have hshift := bitsPoly_msbBits_shift v 1 c
    rwa [pow_one, pow_one, mul_comm c 2, ← msbBits_mod le_rfl] at hshift
  rw [crcShift, Nat.add_sub_cancel]
  cases htop : c.testBit v with
  | true =>
    have hgen : bitsPoly (msbBits (v + 1) ((2 * c % 2 ^ (v + 1)) ^^^ p)) -
        X * bitsPoly (msbBits (v + 1) c) = crcGenerator (v + 1) p := by
      have hone : bitCoeff true = 1 := rfl
      rw [bitsPoly_msbBits_xor, hdouble, CharTwo.sub_eq_add, msbBits.eq_2 c v, bitsPoly_cons, htop,
        length_msbBits, hone, C_1, crcGenerator]
      have htwo : bitsPoly (msbBits v c) * X + bitsPoly (msbBits v c) * X = 0 :=
        CharTwo.add_self_eq_zero _
      linear_combination htwo
    rw [if_pos rfl, hgen]
  | false =>
    have hzero : bitCoeff false = 0 := rfl
    rw [if_neg Bool.false_ne_true, hdouble, msbBits.eq_2 c v, bitsPoly_cons, htop, hzero, C_0,
      zero_mul, zero_add, mul_comm, sub_self]
    exact dvd_zero _

lemma crcShift_lt (hp : p < 2 ^ w) (c : ℕ) : crcShift w p c < 2 ^ w := by
  have hmod : 2 * c % 2 ^ w < 2 ^ w := Nat.mod_lt _ (Nat.two_pow_pos w)
  rw [crcShift]
  split_ifs
  · exact Nat.xor_lt_two_pow hmod hp
  · exact hmod

/-- The register keeps its width. -/
lemma crcFeed_foldl_lt (hp : p < 2 ^ w) (hs : 0 < s) {c : ℕ} (hc : c < 2 ^ w) (bs : List ℕ) :
    bs.foldl (crcFeed w p s) c < 2 ^ w := by
  induction bs generalizing c with
  | nil => exact hc
  | cons b bs ih =>
    obtain ⟨k, rfl⟩ : ∃ k, s = k + 1 := ⟨s - 1, by omega⟩
    refine ih ?_
    rw [crcFeed, Function.iterate_succ_apply']
    exact crcShift_lt hp _

/-- Being congruent modulo `g` is kept by a multiplication. -/
lemma dvd_mul_sub_mul {g a b : (ZMod 2)[X]} (h : g ∣ a - b) (c : (ZMod 2)[X]) :
    g ∣ c * a - c * b := by
  rw [← mul_sub]
  exact h.mul_left c

/-- Several shifts multiply by a power of `x`. -/
lemma crcShift_iterate_dvd (hw : 0 < w) (p k c : ℕ) : crcGenerator w p ∣
    bitsPoly (msbBits w ((crcShift w p)^[k] c)) - X ^ k * bitsPoly (msbBits w c) := by
  induction k generalizing c with
  | zero => simp
  | succ k ih =>
    have hfirst := dvd_mul_sub_mul (crcShift_dvd hw p c) (X ^ k)
    rw [Function.iterate_succ_apply]
    have hsum := dvd_add (ih (crcShift w p c)) hfirst
    rwa [sub_add_sub_cancel, ← mul_assoc, ← pow_succ] at hsum

/-- A symbol that is fed to the register stands behind what was there, `w` places up. -/
lemma crcFeed_dvd (hw : 0 < w) (hs : s ≤ w) (p c b : ℕ) : crcGenerator w p ∣
    bitsPoly (msbBits w (crcFeed w p s c b)) -
      (bitsPoly (msbBits w c) * X ^ s + bitsPoly (msbBits s b) * X ^ w) := by
  have htop : bitsPoly (msbBits w (b * 2 ^ (w - s))) = bitsPoly (msbBits s b) * X ^ (w - s) := by
    have hshift := bitsPoly_msbBits_shift s (w - s) b
    rwa [Nat.add_sub_cancel' hs] at hshift
  have hpow : (X : (ZMod 2)[X]) ^ w = X ^ s * X ^ (w - s) := by
    rw [← pow_add, Nat.add_sub_cancel' hs]
  have hshifts := crcShift_iterate_dvd hw p s (c ^^^ b * 2 ^ (w - s))
  rw [bitsPoly_msbBits_xor, htop] at hshifts
  have hsame : bitsPoly (msbBits w c) * X ^ s + bitsPoly (msbBits s b) * X ^ w =
      X ^ s * (bitsPoly (msbBits w c) + bitsPoly (msbBits s b) * X ^ (w - s)) := by
    rw [hpow]
    ring
  rwa [crcFeed, hsame]

/-- The bits of a message of symbols of `s` bits. -/
def symbolBits (s : ℕ) (bs : List ℕ) : List Bool := bs.flatMap (msbBits s)

lemma length_symbolBits (s : ℕ) (bs : List ℕ) : (symbolBits s bs).length = s * bs.length := by
  induction bs with
  | nil => rfl
  | cons b bs ih =>
    rw [symbolBits, List.flatMap_cons, List.length_append, length_msbBits, List.length_cons,
      Nat.mul_succ, Nat.add_comm, ← ih, symbolBits]

/-- A message that is fed to the register symbol by symbol. -/
lemma crcFeed_foldl_dvd (hw : 0 < w) (hs : s ≤ w) (p c : ℕ) (bs : List ℕ) : crcGenerator w p ∣
    bitsPoly (msbBits w (bs.foldl (crcFeed w p s) c)) -
      (bitsPoly (symbolBits s bs) * X ^ w +
        bitsPoly (msbBits w c) * X ^ (symbolBits s bs).length) := by
  induction bs generalizing c with
  | nil => simp [symbolBits]
  | cons b bs ih =>
    have hfeed := dvd_mul_sub_mul (crcFeed_dvd hw hs p c b) (X ^ (symbolBits s bs).length)
    have hsum := dvd_add (ih (crcFeed w p s c b)) hfeed
    have hbits : symbolBits s (b :: bs) = msbBits s b ++ symbolBits s bs := rfl
    have hgoal : bitsPoly (msbBits w ((b :: bs).foldl (crcFeed w p s) c)) -
        (bitsPoly (symbolBits s (b :: bs)) * X ^ w +
          bitsPoly (msbBits w c) * X ^ (symbolBits s (b :: bs)).length) =
        bitsPoly (msbBits w (bs.foldl (crcFeed w p s) (crcFeed w p s c b))) -
          (bitsPoly (symbolBits s bs) * X ^ w +
            bitsPoly (msbBits w (crcFeed w p s c b)) * X ^ (symbolBits s bs).length) +
        (X ^ (symbolBits s bs).length * bitsPoly (msbBits w (crcFeed w p s c b)) -
          X ^ (symbolBits s bs).length *
            (bitsPoly (msbBits w c) * X ^ s + bitsPoly (msbBits s b) * X ^ w)) := by
      rw [hbits, bitsPoly_append, List.length_append, length_msbBits, pow_add, List.foldl_cons]
      ring
    rwa [hgoal]

/-- The register holds the remainder of the message with `w` zeros behind it and what the register
held at first before it. -/
theorem crcFeed_foldl_eq_mod (hw : 0 < w) (hs : s ≤ w) (p c : ℕ) (bs : List ℕ) :
    bitsPoly (msbBits w (bs.foldl (crcFeed w p s) c)) =
      (bitsPoly (symbolBits s bs) * X ^ w +
        bitsPoly (msbBits w c) * X ^ (symbolBits s bs).length) %ₘ crcGenerator w p := by
  have hmonic := monic_crcGenerator w p
  rw [← modByMonic_eq_of_dvd_sub hmonic (crcFeed_foldl_dvd hw hs p c bs), eq_comm,
    modByMonic_eq_self_iff hmonic, degree_crcGenerator]
  have hdegree := degree_bitsPoly_lt (msbBits w (bs.foldl (crcFeed w p s) c))
  rwa [length_msbBits] at hdegree

/-! ### Bursts -/

/-- Two strings are equal outside of `w` consecutive places. -/
def DifferWithin {α : Type*} (w : ℕ) (xs ys : List α) : Prop :=
  ∃ k, ∀ j, j < k ∨ k + w ≤ j → xs[j]? = ys[j]?

/-- The parts of two such strings. -/
lemma DifferWithin.exists_append {α : Type*} {xs ys : List α} (h : DifferWithin w xs ys)
    (hlen : xs.length = ys.length) : ∃ u m m' v, xs = u ++ m ++ v ∧ ys = u ++ m' ++ v ∧
      m.length = m'.length ∧ m.length ≤ w := by
  obtain ⟨k, hk⟩ := h
  have hfront : ys.take k = xs.take k := by
    ext1 j
    rw [List.getElem?_take, List.getElem?_take]
    split_ifs with hj
    · exact (hk j (.inl hj)).symm
    · rfl
  have hback : ys.drop (k + w) = xs.drop (k + w) := by
    ext1 j
    rw [List.getElem?_drop, List.getElem?_drop, hk _ (.inr (Nat.le_add_right _ _))]
  have hsplit (zs : List α) :
      zs = zs.take k ++ (zs.drop k).take w ++ zs.drop (k + w) := by
    rw [List.append_assoc, ← List.drop_drop, List.take_append_drop, List.take_append_drop]
  refine ⟨xs.take k, (xs.drop k).take w, (ys.drop k).take w, xs.drop (k + w), hsplit xs, ?_, ?_, ?_⟩
  · rw [← hfront, ← hback]
    exact hsplit ys
  · rw [List.length_take, List.length_take, List.length_drop, List.length_drop, hlen]
  · exact List.length_take_le _ _

/-- A generator with a constant term has no factor `x`. -/
lemma isCoprime_X_of_coeff_zero {g : (ZMod 2)[X]} (h : g.coeff 0 = 1) : IsCoprime g X := by
  refine ⟨1, -divX g, ?_⟩
  have hdiv := divX_mul_X_add g
  rw [h, C_1] at hdiv
  linear_combination -hdiv

/-- Strings that differ within a window no wider than the generator's degree have different
remainders. -/
theorem modByMonic_ne_of_differWithin {g : (ZMod 2)[X]} (hg : g.Monic) (hzero : g.coeff 0 = 1)
    (hdegree : degree g = w) {xs ys : List Bool} (hlen : xs.length = ys.length) (hne : xs ≠ ys)
    (h : DifferWithin w xs ys) (k : ℕ) (t : (ZMod 2)[X]) :
    (bitsPoly xs * X ^ k + t) %ₘ g ≠ (bitsPoly ys * X ^ k + t) %ₘ g := by
  intro hsame
  obtain ⟨u, m, m', v, rfl, rfl, hmm, hmw⟩ := h.exists_append hlen
  have hdvd : g ∣ bitsPoly (u ++ m ++ v) * X ^ k + t - (bitsPoly (u ++ m' ++ v) * X ^ k + t) := by
    rw [← modByMonic_eq_zero_iff_dvd hg, sub_modByMonic, hsame, sub_self]
  have hwindow : bitsPoly (u ++ m ++ v) * X ^ k + t - (bitsPoly (u ++ m' ++ v) * X ^ k + t) =
      (bitsPoly m - bitsPoly m') * X ^ (v.length + k) := by
    simp only [bitsPoly_append, hmm, pow_add]
    ring
  rw [hwindow] at hdvd
  have hburst := (isCoprime_X_of_coeff_zero hzero).pow_right.dvd_of_dvd_mul_right hdvd
  have hsmall : degree (bitsPoly m - bitsPoly m') < degree g := by
    have hbound : ((m.length : ℕ) : WithBot ℕ) ≤ w := by exact_mod_cast hmw
    have hm := degree_bitsPoly_lt m
    have hm' := degree_bitsPoly_lt m'
    rw [← hmm] at hm'
    rw [hdegree]
    exact (degree_sub_le _ _).trans_lt (max_lt (hm.trans_le hbound) (hm'.trans_le hbound))
  have heq := sub_eq_zero.1 (eq_zero_of_dvd_of_degree_lt hburst hsmall)
  exact hne (by rw [bitsPoly_inj hmm heq])

end AntennaMgmt.Lib
