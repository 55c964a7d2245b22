import AntennaMgmt.Lib.Text

/-!
# Numbers in the notation of C

A number is written in base 16 behind `0x`, in base 8 behind another zero and in base 10 else.
`strtoul` with base 0 takes as much of a text as is a number and wraps or saturates what does not
fit; the number that a whole text denotes is unbounded.
-/

namespace AntennaMgmt.Lib

/-- The value of a digit in base 16 or less. -/
def digitValue (b : UInt8) : Option ℕ :=
  if 48 ≤ b.toNat ∧ b.toNat ≤ 57 then some (b.toNat - 48)
  else if 97 ≤ b.toNat ∧ b.toNat ≤ 102 then some (b.toNat - 87)
  else if 65 ≤ b.toNat ∧ b.toNat ≤ 70 then some (b.toNat - 55)
  else none

/-- A digit of the base. -/
def isDigitOf (base : ℕ) (b : UInt8) : Bool := (digitValue b).any (· < base)

/-- The number that a text of digits denotes. -/
def digitsValue (base : ℕ) (ds : Bytes) : ℕ :=
  ds.foldl (fun n d => n * base + (digitValue d).getD 0) 0

/-- The base of a number and its digits. -/
def splitBase (s : Bytes) : ℕ × Bytes :=
  if s.head? = some 48 ∧ (s.getD 1 0 = 120 ∨ s.getD 1 0 = 88) ∧ isDigitOf 16 (s.getD 2 0) then
    (16, s.drop 2)
  else if s.head? = some 48 then (8, s)
  else (10, s)

/-- The text has a sign in front. -/
def hasSign (s : Bytes) : Bool := s.head? = some 45 ∨ s.head? = some 43

/-- The text behind its sign. -/
def unsigned (s : Bytes) : Bytes := if hasSign s then s.tail else s

/-- `strtoul(s, NULL, 0)` with a 64-bit `unsigned long`. -/
def strtoulBase0 (s : Bytes) : ℕ :=
  let t := s.dropWhile isSpace
  let (base, ds) := splitBase (unsigned t)
  let v := digitsValue base (ds.takeWhile (isDigitOf base))
  if 2 ^ 64 ≤ v then 2 ^ 64 - 1
  else if t.head? = some 45 then (2 ^ 64 - v) % 2 ^ 64
  else v

/-- The integer that a text denotes, if all of it is a number. -/
def numeral (s : Bytes) : Option ℤ :=
  let (base, ds) := splitBase (unsigned s)
  if ds ≠ [] ∧ ds.all (isDigitOf base) then
    some (if s.head? = some 45 then -(digitsValue base ds : ℤ) else digitsValue base ds)
  else none

/-- A digit is no white space. -/
lemma isSpace_of_isDigitOf {base : ℕ} {b : UInt8} (h : isDigitOf base b = true) :
    isSpace b = false := by
  simp only [isSpace, Bool.or_eq_false_iff, Bool.and_eq_false_iff, decide_eq_false_iff_not]
  rw [isDigitOf, digitValue] at h
  split_ifs at h
  · omega
  · omega
  · omega
  · simp at h

/-- A number has no white space in front. -/
lemma dropWhile_isSpace_of_numeral {s : Bytes} {n : ℤ} (h : numeral s = some n) :
    s.dropWhile isSpace = s := by
  cases s with
  | nil => rfl
  | cons b s =>
    have hb : isSpace b = false := by
      by_contra hspace
      rw [Bool.not_eq_false] at hspace
      have hsign : hasSign (b :: s) = false := by
        simp only [hasSign, List.head?_cons, Option.some.injEq, decide_eq_false_iff_not]
        rintro (rfl | rfl)
        · exact absurd hspace (by decide)
        · exact absurd hspace (by decide)
      have hzero : b ≠ 48 := by
        rintro rfl
        exact absurd hspace (by decide)
      have hdigit : isDigitOf 10 b = true := by
        rw [numeral] at h
        simp [unsigned, hsign, splitBase, hzero] at h
        exact h.1.1
      rw [isSpace_of_isDigitOf hdigit] at hspace
      cases hspace
    exact List.dropWhile_cons_of_neg (by simp [hb])

/-- What `strtoul` returns for a number. -/
lemma strtoulBase0_of_numeral {s : Bytes} {n : ℤ} (h : numeral s = some n) :
    ∃ v : ℕ, n = (if s.head? = some 45 then -(v : ℤ) else v) ∧
      strtoulBase0 s = if 2 ^ 64 ≤ v then 2 ^ 64 - 1
        else if s.head? = some 45 then (2 ^ 64 - v) % 2 ^ 64 else v := by
  have hdrop := dropWhile_isSpace_of_numeral h
  rw [numeral] at h
  obtain ⟨⟨-, hall⟩, hn⟩ := Option.ite_none_right_eq_some.1 h
  have htake : (splitBase (unsigned s)).2.takeWhile (isDigitOf (splitBase (unsigned s)).1) =
      (splitBase (unsigned s)).2 :=
    List.takeWhile_eq_self_iff.2 (List.all_eq_true.1 hall)
  refine ⟨digitsValue (splitBase (unsigned s)).1 (splitBase (unsigned s)).2,
    (Option.some.inj hn).symm, ?_⟩
  rw [strtoulBase0]
  simp only [hdrop, htake]

/-- What `strtoul` returns, cut to the residues of `m`, is the number exactly if that is one of
them. -/
lemma strtoulBase0_mod_eq_iff {s : Bytes} {n : ℤ} {m : ℕ} (h : numeral s = some n) (hm : 0 < m)
    (hle : m < 2 ^ 64) : ((strtoulBase0 s % m : ℕ) : ℤ) = n ↔ 0 ≤ n ∧ n < m := by
  obtain ⟨v, hn, hvalue⟩ := strtoulBase0_of_numeral h
  constructor
  · intro heq
    have hlt := Nat.mod_lt (strtoulBase0 s) hm
    omega
  · rintro ⟨hpos, hlt⟩
    rw [hvalue]
    split_ifs at hn ⊢ with hbig hminus
    · omega
    · omega
    · -- only zero can have a minus sign
      obtain rfl : v = 0 := by omega
      rw [hn, Nat.sub_zero, Nat.mod_self, Nat.zero_mod]
      rfl
    · rw [hn, Nat.mod_eq_of_lt (by omega)]

end AntennaMgmt.Lib
