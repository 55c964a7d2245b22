import AntennaMgmt.Lib.Text

/-!
# Scanning a line

A format of `sscanf` begins with a text, in which white space stands for any white space, and goes
on with a conversion.  What is written by the text of the format and a value is read back.
-/

namespace AntennaMgmt.Lib

/-- The text of a format matched with the front of a line: what is left of the line. -/
def scanLiteral : Bytes → Bytes → Option Bytes
  | [], s => some s
  | c :: fmt, s =>
    if isSpace c then scanLiteral fmt (s.dropWhile isSpace)
    else match s with
      | [] => none
      | d :: s => if d = c then scanLiteral fmt s else none

/-- The conversion of at least one and at most `width` characters that are not `stop`. -/
def scanUntil (width : ℕ) (stop : UInt8) (s : Bytes) : Option Bytes :=
  let t := (s.takeWhile (· ≠ stop)).take width
  if t = [] then none else some t

/-- The conversion of an unsigned number, before it is cut to the size of its variable. -/
def scanUnsigned (s : Bytes) : Option ℕ :=
  let t := s.dropWhile isSpace
  let digits := if t.head? = some 45 ∨ t.head? = some 43 then t.tail else t
  if digits.head?.any isDigit then some (strtoul s) else none

/-! ### The text of a format -/

lemma scanLiteral_space {c : UInt8} (hc : isSpace c = true) (fmt s : Bytes) :
    scanLiteral (c :: fmt) s = scanLiteral fmt (s.dropWhile isSpace) := by
  rw [scanLiteral.eq_def]
  exact if_pos hc

lemma scanLiteral_char {c : UInt8} (hc : isSpace c = false) (fmt : Bytes) (d : UInt8) (s : Bytes) :
    scanLiteral (c :: fmt) (d :: s) = if d = c then scanLiteral fmt s else none := by
  rw [scanLiteral.eq_def]
  exact if_neg (by simp [hc])

/-- The text of a format is matched with itself, unless white space at its end takes more. -/
lemma scanLiteral_append {fmt rest : Bytes}
    (h : (∀ c ∈ fmt.getLast?, isSpace c = false) ∨ rest.dropWhile isSpace = rest) :
    scanLiteral fmt (fmt ++ rest) = some rest := by
  induction fmt with
  | nil => rfl
  | cons c fmt ih =>
    rw [List.cons_append]
    cases fmt with
    | nil =>
      cases hc : isSpace c with
      | true =>
        have hrest : rest.dropWhile isSpace = rest :=
          h.resolve_left fun hlast => by simpa [hc] using hlast c (by simp)
        simp [scanLiteral, hc, hrest]
      | false => simp [scanLiteral, hc]
    | cons d fmt =>
      have hmatch := ih (by simpa [List.getLast?_cons_cons] using h)
      cases hc : isSpace c with
      | true =>
        rw [scanLiteral_space hc, List.dropWhile_cons_of_pos hc]
        cases hd : isSpace d with
        | true =>
          rw [scanLiteral_space hd] at hmatch ⊢
          rw [List.dropWhile_idempotent, hmatch]
        | false =>
          rw [List.cons_append, List.dropWhile_cons_of_neg (by simp [hd]), ← List.cons_append,
            hmatch]
      | false =>
        rw [scanLiteral_char hc, if_pos rfl, hmatch]

/-- What is left is the end of the line. -/
lemma suffix_of_scanLiteral {fmt s rest : Bytes} (h : scanLiteral fmt s = some rest) :
    rest <:+ s := by
  induction fmt generalizing s with
  | nil =>
    obtain rfl := Option.some.inj h
    exact List.suffix_rfl
  | cons c fmt ih =>
    cases hc : isSpace c with
    | true =>
      rw [scanLiteral_space hc] at h
      exact (ih h).trans (List.dropWhile_suffix _)
    | false =>
      cases s with
      | nil => simp [scanLiteral, hc] at h
      | cons d s =>
        rw [scanLiteral_char hc] at h
        obtain ⟨-, h⟩ := Option.ite_none_right_eq_some.1 h
        exact (ih h).trans (List.suffix_cons d s)

/-! ### Conversions -/

/-- A text up to a stop is read back. -/
lemma scanUntil_append {width : ℕ} {stop : UInt8} {t : Bytes} (hstop : stop ∉ t) (hne : t ≠ [])
    (hwidth : t.length ≤ width) (rest : Bytes) :
    scanUntil width stop (t ++ stop :: rest) = some t := by
  rw [scanUntil, takeWhile_ne_append hstop, List.take_of_length_le hwidth, if_neg hne]

/-- There is nothing to read at the stop. -/
lemma scanUntil_stop (width : ℕ) (stop : UInt8) (rest : Bytes) :
    scanUntil width stop (stop :: rest) = none := by
  simp [scanUntil]

/-- What is read is in the line and is not the stop. -/
lemma mem_of_scanUntil {width : ℕ} {stop : UInt8} {s t : Bytes}
    (h : scanUntil width stop s = some t) {c : UInt8} (hc : c ∈ t) : c ≠ stop ∧ c ∈ s := by
  obtain ⟨-, ht⟩ := Option.ite_none_left_eq_some.1 h
  obtain rfl := Option.some.inj ht
  have hmem := List.mem_of_mem_take hc
  exact ⟨by simpa using List.mem_takeWhile_imp hmem, List.takeWhile_subset _ hmem⟩

/-- A number that `printf` wrote is read back, up to what is no digit. -/
lemma scanUnsigned_decimal {n : ℕ} {rest : Bytes} (h : n < 2 ^ 64)
    (hrest : ∀ c ∈ rest.head?, isDigit c = false) :
    scanUnsigned (decimal n ++ rest) = some n := by
  obtain ⟨b, t, hd, hb⟩ := exists_decimal_eq_cons n
  obtain ⟨hspace, hminus, hplus⟩ := isSpace_of_isDigit hb
  have hdrop : (decimal n ++ rest).dropWhile isSpace = decimal n ++ rest := by
    simp [hd, hspace]
  rw [scanUnsigned, strtoul_decimal_append h hrest, hdrop]
  simp [hd, hminus, hplus, hb]

end AntennaMgmt.Lib
