import AntennaMgmt.Lib.Text

/-!
# Bytes written in hexadecimal
-/

namespace AntennaMgmt.Lib

/-- The digit for a number below 16. -/
def hexDigit (n : ℕ) : UInt8 := if n < 10 then UInt8.ofNat (48 + n) else UInt8.ofNat (87 + n)

/-- Two digits for each byte, as `printf` writes them. -/
def hexText (bs : Bytes) : Bytes :=
  bs.flatMap fun b => [hexDigit (b.toNat / 16), hexDigit (b.toNat % 16)]

/-- The digits that are written. -/
def hexDigits : Bytes := ascii "0123456789abcdef"

lemma hexDigit_mem {n : ℕ} (h : n < 16) : hexDigit n ∈ hexDigits := by
  have hall : ∀ n : Fin 16, hexDigit n ∈ hexDigits := by decide
  exact hall ⟨n, h⟩

lemma mem_hexDigits_of_mem_hexText {bs : Bytes} {c : UInt8} (h : c ∈ hexText bs) :
    c ∈ hexDigits := by
  obtain ⟨b, -, hc⟩ := List.mem_flatMap.1 h
  have hlt := b.toNat_lt
  simp only [List.mem_cons, List.not_mem_nil, or_false] at hc
  rcases hc with rfl | rfl
  · exact hexDigit_mem (by omega)
  · exact hexDigit_mem (by omega)

@[simp] lemma length_hexText (bs : Bytes) : (hexText bs).length = 2 * bs.length := by
  induction bs with
  | nil => rfl
  | cons b bs ih =>
    rw [hexText] at ih ⊢
    rw [List.flatMap_cons, List.length_append, ih]
    simp only [List.length_cons, List.length_nil]
    omega

/-- A digit, small or large. -/
def isHexDigit (c : UInt8) : Bool :=
  (48 ≤ c.toNat && c.toNat ≤ 57) || (97 ≤ c.toNat && c.toNat ≤ 102) ||
    (65 ≤ c.toNat && c.toNat ≤ 70)

/-- `tolower`. -/
def toLower (c : UInt8) : UInt8 := if 65 ≤ c.toNat ∧ c.toNat ≤ 90 then c + 32 else c

/-- What is written has small digits. -/
lemma map_toLower_hexText (bs : Bytes) : (hexText bs).map toLower = hexText bs := by
  rw [List.map_congr_left, List.map_id]
  intro c hc
  have hall : ∀ c ∈ hexDigits, toLower c = id c := by decide +kernel
  exact hall c (mem_hexDigits_of_mem_hexText hc)

lemma hexDigit_inj {m n : ℕ} (hm : m < 16) (hn : n < 16) (h : hexDigit m = hexDigit n) : m = n := by
  have hall : ∀ m n : Fin 16, hexDigit m = hexDigit n → m = n := by decide
  exact congrArg Fin.val (hall ⟨m, hm⟩ ⟨n, hn⟩ h)

/-- Different bytes are written differently. -/
lemma hexText_injective : Function.Injective hexText := by
  intro bs cs h
  induction bs generalizing cs with
  | nil =>
    have hlen := congrArg List.length h
    rw [length_hexText, length_hexText] at hlen
    exact (List.length_eq_zero_iff.1 (by simpa using hlen.symm)).symm
  | cons b bs ih =>
    cases cs with
    | nil =>
      have hlen := congrArg List.length h
      simp at hlen
    | cons c cs =>
      rw [hexText, hexText, List.flatMap_cons, List.flatMap_cons] at h
      obtain ⟨hdigits, hrest⟩ := List.append_inj h rfl
      obtain ⟨hhigh, hlow, -⟩ : _ ∧ _ ∧ True := by simpa using hdigits
      have hb := b.toNat_lt
      have hc := c.toNat_lt
      have hhigh' := hexDigit_inj (by omega) (by omega) hhigh
      have hlow' := hexDigit_inj (by omega) (by omega) hlow
      have hbc : b = c := UInt8.toNat_inj.1 (by omega)
      rw [hbc, ih hrest]

end AntennaMgmt.Lib
