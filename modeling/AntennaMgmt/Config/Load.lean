import AntennaMgmt.Lib.Text

/-!
# The configuration file

`config_load` reads the file in pieces of up to 255 bytes and stores the assignments that it finds
in them, up to 64, with keys and values cut to the sizes of their arrays.  A line is meant to be a
comment, an assignment, or nothing; a piece of a longer line is taken for a line of its own.
-/

namespace AntennaMgmt.Config

open AntennaMgmt.Lib

/-- `config_item_t`. -/
structure ConfigItem where
  key : Bytes
  value : Bytes
deriving DecidableEq, Repr

/-! ### The reader -/

/-- What is dropped in front of a text. -/
def isBlank (b : UInt8) : Bool := b = 32 || b = 9

/-- What is dropped behind a text: blanks, line feeds and carriage returns. -/
def isBlankOrEnd (b : UInt8) : Bool := b = 32 || b = 9 || b = 10 || b = 13

/-- `trim_whitespace`: the first byte that is not a blank stays in any case. -/
def trimWhitespace (str : Bytes) : Bytes :=
  match str.dropWhile isBlank with
  | [] => []
  | b :: rest => b :: rest.rdropWhile isBlankOrEnd

/-- The key and the value on a line, if it is an assignment. -/
def keyValue (line : Bytes) : Option ConfigItem :=
  let trimmed := trimWhitespace line
  if trimmed.head? = some 35 ∨ trimmed = [] then none
  else if 61 ∉ trimmed then none
  else
    let key := trimmed.takeWhile (· ≠ 61)
    some ⟨trimWhitespace key, trimWhitespace (trimmed.drop (key.length + 1))⟩

/-- The two calls of `strncpy`. -/
def ConfigItem.copied (item : ConfigItem) : ConfigItem := ⟨item.key.take 63, item.value.take 191⟩

/-- The item in a piece that `fgets` has read, which is a string. -/
def pieceItem (piece : Bytes) : Option ConfigItem :=
  (keyValue (piece.takeWhile (· ≠ 0))).map ConfigItem.copied

/-- The loop over the pieces, with the items stored so far. -/
def loadPieces : List Bytes → List ConfigItem → List ConfigItem
  | [], items => items
  | piece :: pieces, items =>
    if items.length < 64 then loadPieces pieces (items ++ (pieceItem piece).toList) else items

/-- `config_load` on a file that opens: the items in `g_config_items`. -/
def configLoad (file : Bytes) : List ConfigItem := loadPieces (fgetsPieces 255 [] file) []

/-- `config_get_string`. -/
def configGetString (items : List ConfigItem) (key : Bytes) : Option Bytes :=
  (items.find? (·.key = key)).map ConfigItem.value

/-! ### Trimming -/

/-- The number of bytes that are neither blanks nor ends of lines: trimming keeps all of them. -/
def ink (bs : Bytes) : ℕ := bs.countP (! isBlankOrEnd ·)

lemma ink_append (xs ys : Bytes) : ink (xs ++ ys) = ink xs + ink ys := List.countP_append

lemma ink_eq_zero_iff {bs : Bytes} : ink bs = 0 ↔ ∀ b ∈ bs, isBlankOrEnd b = true := by
  simp [ink, List.countP_eq_zero]

lemma isBlankOrEnd_of_isBlank {b : UInt8} (h : isBlank b = true) : isBlankOrEnd b = true := by
  simp only [isBlank, Bool.or_eq_true, decide_eq_true_eq] at h
  rcases h with rfl | rfl <;> rfl

lemma ink_dropWhile {p : UInt8 → Bool} (hp : ∀ b, p b = true → isBlankOrEnd b = true)
    (bs : Bytes) : ink (bs.dropWhile p) = ink bs := by
  have hzero : ink (bs.takeWhile p) = 0 :=
    ink_eq_zero_iff.2 fun b hb => hp b (List.mem_takeWhile_imp hb)
  calc ink (bs.dropWhile p) = ink (bs.takeWhile p) + ink (bs.dropWhile p) := by omega
    _ = ink bs := by rw [← ink_append, List.takeWhile_append_dropWhile]

lemma ink_rdropWhile (bs : Bytes) : ink (bs.rdropWhile isBlankOrEnd) = ink bs := by
  have hrev : ∀ xs : Bytes, ink xs.reverse = ink xs := fun xs => List.countP_reverse
  rw [List.rdropWhile, hrev, ink_dropWhile fun _ hb => hb, hrev]

@[simp] lemma ink_trimWhitespace (str : Bytes) : ink (trimWhitespace str) = ink str := by
  rw [← ink_dropWhile (fun _ hb => isBlankOrEnd_of_isBlank hb) str, trimWhitespace]
  cases str.dropWhile isBlank with
  | nil => rfl
  | cons b rest =>
    change ink ([b] ++ rest.rdropWhile isBlankOrEnd) = ink ([b] ++ rest)
    rw [ink_append, ink_append, ink_rdropWhile]

/-- A trimmed text cannot be cut without losing something. -/
lemma length_le_of_ink_take {str : Bytes} {n : ℕ} (hn : 0 < n)
    (h : ink ((trimWhitespace str).take n) = ink (trimWhitespace str)) :
    (trimWhitespace str).length ≤ n := by
  by_contra hlong
  rw [trimWhitespace] at h hlong
  cases hdrop : str.dropWhile isBlank with
  | nil =>
    rw [hdrop] at hlong
    exact hlong (Nat.zero_le n)
  | cons b rest =>
    rw [hdrop] at h hlong
    dsimp only at h hlong
    rw [List.length_cons] at hlong
    have hne : rest.rdropWhile isBlankOrEnd ≠ [] := List.ne_nil_of_length_pos (by omega)
    -- the last byte is none of those that are dropped
    have hlast := List.rdropWhile_last_not isBlankOrEnd rest hne
    generalize rest.rdropWhile isBlankOrEnd = kept at *
    have hsplit := List.dropLast_concat_getLast hne
    have hcut : (b :: kept).take n = (b :: kept.dropLast).take n := by
      have hlen : n ≤ (b :: kept.dropLast).length := by
        rw [List.length_cons, List.length_dropLast]
        omega
      have htake : (b :: kept.dropLast ++ [kept.getLast hne]).take n =
          (b :: kept.dropLast).take n :=
        List.take_append_of_le_length hlen
      rw [← htake, List.cons_append, hsplit]
    have hle : ink ((b :: kept.dropLast).take n) ≤ ink (b :: kept.dropLast) :=
      (List.take_sublist n _).countP_le
    have hink : ink (b :: kept) = ink (b :: kept.dropLast) + 1 := by
      conv_lhs => rw [← hsplit, ← List.cons_append, ink_append]
      simp [ink, hlast]
    rw [hcut, hink] at h
    omega

/-- A line feed behind a text is trimmed, unless there are but blanks in front of it. -/
lemma trimWhitespace_lf (str : Bytes) :
    trimWhitespace (str ++ [lf]) =
      if trimWhitespace str = [] then [lf] else trimWhitespace str := by
  rw [trimWhitespace, trimWhitespace, List.dropWhile_append]
  cases str.dropWhile isBlank with
  | nil => rfl
  | cons b rest =>
    rw [List.isEmpty_cons, if_neg Bool.false_ne_true, List.cons_append,
      if_neg (List.cons_ne_nil _ _)]
    dsimp only
    rw [List.rdropWhile_concat_pos _ _ _ (by decide)]

/-! ### Assignments -/

lemma keyValue_lf (line : Bytes) : keyValue (line ++ [lf]) = keyValue line := by
  rw [keyValue, keyValue, trimWhitespace_lf]
  by_cases hnil : trimWhitespace line = []
  · rw [if_pos hnil, hnil]
    rfl
  · rw [if_neg hnil]

/-- An assignment has a sign, is not a comment, and is cut at its first sign. -/
lemma keyValue_eq_some_iff {line : Bytes} {item : ConfigItem} :
    keyValue line = some item ↔ ∃ front back,
      trimWhitespace line = front ++ 61 :: back ∧ 61 ∉ front ∧
        (trimWhitespace line).head? ≠ some 35 ∧
        item = ⟨trimWhitespace front, trimWhitespace back⟩ := by
  rw [keyValue]
  constructor
  · intro h
    split_ifs at h with hskip hequals
    exact ⟨_, _, eq_takeWhile_append hequals, not_mem_takeWhile_ne 61 _,
      fun hhead => hskip (.inl hhead), (Option.some.inj h).symm⟩
  · rintro ⟨front, back, hline, hfront, hhead, rfl⟩
    rw [hline] at hhead ⊢
    have hskip : ¬ ((front ++ 61 :: back).head? = some 35 ∨ front ++ 61 :: back = []) := by
      rintro (hcomment | hnil)
      · exact hhead hcomment
      · simp at hnil
    have hdrop : (front ++ 61 :: back).drop (front.length + 1) = back := by
      rw [List.drop_append, List.drop_of_length_le (Nat.le_succ _), Nat.add_sub_cancel_left]
      rfl
    dsimp only
    rw [if_neg hskip, if_neg (by simp), takeWhile_ne_append hfront, hdrop]

/-- A comment is none. -/
lemma keyValue_comment (rest : Bytes) : keyValue (35 :: rest) = none := by
  rw [keyValue, trimWhitespace, List.dropWhile_cons_of_neg (by decide)]
  rfl

/-- All that is in an assignment is in its key or in its value, but for the sign between them. -/
lemma ink_of_keyValue {line : Bytes} {item : ConfigItem} (h : keyValue line = some item) :
    ink line = ink item.key + 1 + ink item.value := by
  obtain ⟨front, back, hline, -, -, rfl⟩ := keyValue_eq_some_iff.1 h
  have hsign : ink (61 :: back) = ink back + 1 := by simp [ink, isBlankOrEnd]
  rw [← ink_trimWhitespace line, hline, ink_append, hsign]
  dsimp only
  rw [ink_trimWhitespace, ink_trimWhitespace]
  omega

/-- What is stored of an assignment is the whole of it when nothing gets lost. -/
lemma copied_eq_self {line : Bytes} {item : ConfigItem} (h : keyValue line = some item)
    (hink : ink item.key + ink item.value ≤ ink item.copied.key + ink item.copied.value) :
    item.copied = item ∧ item.key.length ≤ 63 ∧ item.value.length ≤ 191 := by
  obtain ⟨key, value, -, -, -, rfl⟩ := keyValue_eq_some_iff.1 h
  have hkey : ink ((trimWhitespace key).take 63) ≤ ink (trimWhitespace key) :=
    (List.take_sublist 63 _).countP_le
  have hvalue : ink ((trimWhitespace value).take 191) ≤ ink (trimWhitespace value) :=
    (List.take_sublist 191 _).countP_le
  dsimp only [ConfigItem.copied] at hink ⊢
  have hkeyAll : ink ((trimWhitespace key).take 63) = ink (trimWhitespace key) := by omega
  have hvalueAll : ink ((trimWhitespace value).take 191) = ink (trimWhitespace value) := by omega
  have hkeyLen := length_le_of_ink_take (by decide) hkeyAll
  have hvalueLen := length_le_of_ink_take (by decide) hvalueAll
  rw [List.take_of_length_le hkeyLen, List.take_of_length_le hvalueLen]
  exact ⟨rfl, hkeyLen, hvalueLen⟩

end AntennaMgmt.Config
