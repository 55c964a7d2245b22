import AntennaMgmt.Lib.Bytes
import AntennaMgmt.Lib.Path
import Mathlib.Data.Nat.Digits.Lemmas
import Mathlib.Data.List.DropRight

/-!
# Text files

Lines as `sed` and as `fgets` see them, and decimal numbers as `printf` writes and `strtoul`
reads them.
-/

namespace AntennaMgmt.Lib

/-- The line feed that ends a line. -/
def lf : UInt8 := 10

/-! ### Lines -/

/-- The lines of a file without their line feeds; the last one may lack it. -/
def textLines : Bytes → List Bytes
  | [] => []
  | b :: bs =>
    if b = lf then [] :: textLines bs
    else match textLines bs with
      | [] => [[b]]
      | l :: ls => (b :: l) :: ls

lemma textLines_line {l : Bytes} (h : lf ∉ l) (rest : Bytes) :
    textLines (l ++ lf :: rest) = l :: textLines rest := by
  induction l with
  | nil => simp [textLines]
  | cons b l ih =>
    have hb : b ≠ lf := fun he => h (by simp [he])
    have hl : lf ∉ l := fun he => h (by simp [he])
    rw [List.cons_append, textLines, if_neg hb, ih hl]

/-- A last line without a line feed. -/
lemma textLines_last {l : Bytes} (h : lf ∉ l) (hne : l ≠ []) : textLines l = [l] := by
  induction l with
  | nil => exact absurd rfl hne
  | cons b l ih =>
    have hb : b ≠ lf := fun he => h (by simp [he])
    have hl : lf ∉ l := fun he => h (by simp [he])
    cases l with
    | nil => simp [textLines, hb]
    | cons c l => rw [textLines, if_neg hb, ih hl (by simp)]

/-- What repeated calls of `fgets` with room for `n` bytes return: a piece ends behind a line
feed, when it is full, or at the end of the file.  `acc` is the piece read so far. -/
def fgetsPieces (n : ℕ) : Bytes → Bytes → List Bytes
  | acc, [] => if acc = [] then [] else [acc]
  | acc, b :: bs =>
    if b = lf ∨ n ≤ acc.length + 1 then (acc ++ [b]) :: fgetsPieces n [] bs
    else fgetsPieces n (acc ++ [b]) bs

/-- Bytes that leave room in the piece are added to it. -/
lemma fgetsPieces_append {n : ℕ} {xs : Bytes} (h : lf ∉ xs) (acc rest : Bytes)
    (hlen : acc.length + xs.length < n) :
    fgetsPieces n acc (xs ++ rest) = fgetsPieces n (acc ++ xs) rest := by
  induction xs generalizing acc with
  | nil => rw [List.nil_append, List.append_nil]
  | cons b xs ih =>
    have hb : b ≠ lf := fun he => h (by simp [he])
    have hxs : lf ∉ xs := fun he => h (by simp [he])
    rw [List.length_cons] at hlen
    have hroom : ¬ (b = lf ∨ n ≤ acc.length + 1) := by
      rintro (he | hle)
      · exact hb he
      · omega
    have hlen' : (acc ++ [b]).length + xs.length < n := by
      rw [List.length_append, List.length_singleton]
      omega
    rw [List.cons_append, fgetsPieces, if_neg hroom, ih hxs (acc ++ [b]) hlen', List.append_assoc,
      List.singleton_append]

/-- A line that fits is returned as a whole. -/
lemma fgetsPieces_line {n : ℕ} {l : Bytes} (h : lf ∉ l) (acc rest : Bytes)
    (hlen : acc.length + l.length < n) :
    fgetsPieces n acc (l ++ lf :: rest) = (acc ++ l ++ [lf]) :: fgetsPieces n [] rest := by
  rw [fgetsPieces_append h acc _ hlen, fgetsPieces, if_pos (.inl rfl)]

/-- A last line that fits is returned as a whole, too. -/
lemma fgetsPieces_last {n : ℕ} {l : Bytes} (h : lf ∉ l) (acc : Bytes) (hne : acc ++ l ≠ [])
    (hlen : acc.length + l.length < n) : fgetsPieces n acc l = [acc ++ l] := by
  have hread := fgetsPieces_append h acc [] hlen
  rwa [List.append_nil, fgetsPieces, if_neg hne] at hread

/-- A piece that is full. -/
lemma fgetsPieces_full {n : ℕ} {xs : Bytes} (h : lf ∉ xs) (acc rest : Bytes) (hne : xs ≠ [])
    (hlen : acc.length + xs.length = n) :
    fgetsPieces n acc (xs ++ rest) = (acc ++ xs) :: fgetsPieces n [] rest := by
  obtain ⟨ys, b, rfl⟩ : ∃ ys b, xs = ys ++ [b] :=
    ⟨xs.dropLast, xs.getLast hne, (List.dropLast_concat_getLast hne).symm⟩
  have hys : lf ∉ ys := fun he => h (List.mem_append_left [b] he)
  rw [List.length_append, List.length_singleton] at hlen
  have hfull : b = lf ∨ n ≤ (acc ++ ys).length + 1 := by
    rw [List.length_append]
    omega
  rw [List.append_assoc, fgetsPieces_append hys acc _ (by omega), List.singleton_append,
    fgetsPieces, if_pos hfull, List.append_assoc]

/-- The pieces make up the file. -/
lemma flatten_fgetsPieces (n : ℕ) (acc text : Bytes) :
    (fgetsPieces n acc text).flatten = acc ++ text := by
  induction text generalizing acc with
  | nil =>
    rw [fgetsPieces]
    split_ifs with hnil <;> simp [hnil]
  | cons b text ih =>
    rw [fgetsPieces]
    split_ifs
    · rw [List.flatten_cons, ih]
      simp
    · rw [ih]
      simp

/-- What holds of the empty file and of a last line, and for a line and what follows it, holds of
every text. -/
lemma lines_induction {motive : Bytes → Prop} (nil : motive [])
    (last : ∀ l, lf ∉ l → l ≠ [] → motive l)
    (line : ∀ l rest, lf ∉ l → motive rest → motive (l ++ lf :: rest)) (text : Bytes) :
    motive text := by
  refine segments_induction lf (fun l hl => ?_) line text
  rcases eq_or_ne l [] with rfl | hne
  · exact nil
  · exact last l hl hne

lemma not_mem_of_mem_textLines {text l : Bytes} (h : l ∈ textLines text) : lf ∉ l := by
  induction text using lines_induction with
  | nil => exact absurd h List.not_mem_nil
  | last l' hl' hne =>
    rw [textLines_last hl' hne, List.mem_singleton] at h
    rwa [h]
  | line l' rest hl' ih =>
    rw [textLines_line hl', List.mem_cons] at h
    rcases h with rfl | hrest
    · exact hl'
    · exact ih hrest

/-- A reader that takes no notice of a line feed at the end reads the lines of a text, if all of
them fit. -/
lemma map_fgetsPieces {α : Type*} {f : Bytes → α} {n : ℕ} {text : Bytes}
    (hf : ∀ l, f (l ++ [lf]) = f l) (h : ∀ l ∈ textLines text, l.length < n) :
    (fgetsPieces n [] text).map f = (textLines text).map f := by
  induction text using lines_induction with
  | nil => rfl
  | last l hl hne =>
    rw [textLines_last hl hne, List.forall_mem_singleton] at h
    rw [textLines_last hl hne, fgetsPieces_last hl [] hne (by simpa using h)]
    rfl
  | line l rest hl ih =>
    rw [textLines_line hl, List.forall_mem_cons] at h
    rw [textLines_line hl, fgetsPieces_line hl [] rest (by simpa using h.1), List.map_cons,
      List.map_cons, List.nil_append, hf, ih h.2]

section Gather

variable {α : Type*} {f : Bytes → Option α} (hf : ∀ l, f (l ++ [lf]) = f l) (hnil : f [] = none)
include hf hnil

/-- A reader that takes no notice of a line feed at the end, and finds nothing in an empty piece,
reads line after line. -/
lemma filterMap_fgetsPieces_line {n : ℕ} {l : Bytes} (h : lf ∉ l) (acc rest : Bytes) :
    (fgetsPieces n acc (l ++ lf :: rest)).filterMap f =
      (fgetsPieces n acc l).filterMap f ++ (fgetsPieces n [] rest).filterMap f := by
  induction l generalizing acc with
  | nil =>
    have hread : fgetsPieces n acc (lf :: rest) = (acc ++ [lf]) :: fgetsPieces n [] rest := by
      rw [fgetsPieces, if_pos (.inl rfl)]
    rw [List.nil_append, hread, List.filterMap_cons, hf, fgetsPieces]
    split_ifs with hacc
    · rw [hacc, hnil]
      rfl
    · rw [List.filterMap_cons, List.filterMap_nil]
      cases f acc <;> rfl
  | cons b l ih =>
    have hl : lf ∉ l := fun he => h (by simp [he])
    rw [List.cons_append, fgetsPieces, fgetsPieces]
    split_ifs
    · rw [List.filterMap_cons, List.filterMap_cons, ih hl]
      cases f (acc ++ [b]) <;> rfl
    · exact ih hl (acc ++ [b])

lemma filterMap_fgetsPieces (n : ℕ) (text : Bytes) :
    (fgetsPieces n [] text).filterMap f =
      (textLines text).flatMap fun l => (fgetsPieces n [] l).filterMap f := by
  induction text using lines_induction with
  | nil => rfl
  | last l hl hne => rw [textLines_last hl hne, List.flatMap_singleton]
  | line l rest hl ih =>
    rw [filterMap_fgetsPieces_line hf hnil hl, textLines_line hl, List.flatMap_cons, ih]

end Gather

/-- The first `n` lines of a file, with their line feeds. -/
def takeLines : ℕ → Bytes → Bytes
  | 0, _ => []
  | n + 1, text =>
    let l := text.takeWhile (· ≠ lf)
    text.take (l.length + 1) ++ takeLines n (text.drop (l.length + 1))

lemma takeLines_line {l : Bytes} (h : lf ∉ l) (n : ℕ) (rest : Bytes) :
    takeLines (n + 1) (l ++ lf :: rest) = l ++ lf :: takeLines n rest := by
  have hl : (l ++ lf :: rest).takeWhile (· ≠ lf) = l := takeWhile_ne_append h rest
  have hlen : (l ++ [lf]).length = l.length + 1 := by simp
  have htext : l ++ lf :: rest = (l ++ [lf]) ++ rest := by simp
  rw [takeLines, hl, htext]
  rw [List.take_left' hlen, List.drop_left' hlen]
  simp

lemma takeLines_nil (n : ℕ) : takeLines n [] = [] := by
  induction n with
  | zero => rfl
  | succ n ih => simp [takeLines, ih]

lemma takeLines_last {l : Bytes} (h : lf ∉ l) (n : ℕ) : takeLines (n + 1) l = l := by
  have hle : l.length ≤ l.length + 1 := Nat.le_succ l.length
  rw [takeLines, takeWhile_ne_eq_self h, List.take_of_length_le hle, List.drop_of_length_le hle,
    takeLines_nil, List.append_nil]

lemma textLines_takeLines (n : ℕ) (text : Bytes) :
    textLines (takeLines n text) = (textLines text).take n := by
  induction text using lines_induction generalizing n with
  | nil => rw [takeLines_nil, textLines, List.take_nil]
  | last l hl hne =>
    cases n with
    | zero => rfl
    | succ n => simp [takeLines_last hl, textLines_last hl hne]
  | line l rest hl ih =>
    cases n with
    | zero => rfl
    | succ n =>
      rw [takeLines_line hl, textLines_line hl, textLines_line hl, ih, List.take_succ_cons]

/-- All lines are the whole file. -/
lemma takeLines_length (text : Bytes) : takeLines (textLines text).length text = text := by
  induction text using lines_induction with
  | nil => rfl
  | last l hl hne => rw [textLines_last hl hne, List.length_singleton, takeLines_last hl]
  | line l rest hl ih => rw [textLines_line hl, List.length_cons, takeLines_line hl, ih]

/-- Lines that fit are returned as they are. -/
lemma fgetsPieces_lines {n : ℕ} {ls : List Bytes} (h : ∀ l ∈ ls, lf ∉ l ∧ l.length < n) :
    fgetsPieces n [] (ls.flatMap (· ++ [lf])) = ls.map (· ++ [lf]) := by
  induction ls with
  | nil => rfl
  | cons l ls ih =>
    obtain ⟨hl, hls⟩ := List.forall_mem_cons.1 h
    rw [List.flatMap_cons, List.append_assoc, List.singleton_append,
      fgetsPieces_line hl.1 [] _ (by simpa using hl.2), ih hls, List.nil_append, List.map_cons]

/-! ### Tables that are filled line by line -/

section Table

variable {α β : Type*} {f : α → List β} {g : α → Option β} {m : ℕ} {ls : List α}

lemma flatMap_take_succ (f : α → List β) {i : ℕ} {l : α} (hl : ls[i]? = some l) :
    (ls.take (i + 1)).flatMap f = (ls.take i).flatMap f ++ f l := by
  rw [List.take_add_one, hl, Option.toList_some, List.flatMap_append, List.flatMap_singleton]

lemma filterMap_take_succ (g : α → Option β) {i : ℕ} {l : α} (hl : ls[i]? = some l) :
    (ls.take (i + 1)).filterMap g = (ls.take i).filterMap g ++ (g l).toList := by
  rw [List.take_add_one, hl, Option.toList_some, List.filterMap_append]
  cases hg : g l <;> simp [hg]

/-- A table with room for `m` entries has those of the lines, whatever number of lines was read,
exactly when each line that was read before the table was full gave the right first entry. -/
lemma gathered_iff (hfg : ∀ l, (f l).head? = g l → f l = (g l).toList) :
    (∀ n, ((ls.take n).flatMap f).take m = ((ls.take n).filterMap g).take m) ↔
      ∀ i l, ls[i]? = some l → ((ls.take i).filterMap g).length < m → (f l).head? = g l := by
  -- a table that is not full has all entries
  have hall : ∀ {xs ys : List β}, xs.take m = ys.take m → ys.length < m → xs = ys := by
    intro xs ys heq hlt
    have hlen := congrArg List.length heq
    rw [List.length_take, List.length_take] at hlen
    rwa [List.take_of_length_le (by omega), List.take_of_length_le (by omega)] at heq
  constructor
  · intro h i l hl hroom
    have hnext := h (i + 1)
    rw [flatMap_take_succ f hl, filterMap_take_succ g hl, hall (h i) hroom, List.take_append,
      List.take_append, List.append_cancel_left_eq] at hnext
    have hhead := congrArg List.head? hnext
    rwa [List.head?_take, List.head?_take, if_neg (by omega), if_neg (by omega),
      Option.head?_toList] at hhead
  · intro h n
    induction n with
    | zero => rfl
    | succ n ih =>
      cases hl : ls[n]? with
      | none => rwa [List.take_add_one, hl, Option.toList_none, List.append_nil]
      | some l =>
        rw [flatMap_take_succ f hl, filterMap_take_succ g hl]
        by_cases hroom : ((ls.take n).filterMap g).length < m
        · rw [hall ih hroom, hfg l (h n l hl hroom)]
        · -- the table is full
          have hlen := congrArg List.length ih
          rw [List.length_take, List.length_take] at hlen
          rw [List.take_append_of_le_length (by omega), List.take_append_of_le_length (by omega),
            ih]

end Table

/-! ### Decimal numbers -/

/-- The digits `'0'` to `'9'`. -/
def isDigit (b : UInt8) : Bool := 48 ≤ b.toNat && b.toNat ≤ 57

/-- The text that `printf` gives for a number. -/
def decimal (n : ℕ) : Bytes :=
  if n = 0 then [48] else (Nat.digits 10 n).reverse.map fun d => UInt8.ofNat (48 + d)

/-- The number that a text of digits denotes. -/
def decimalValue (bs : Bytes) : ℕ := Nat.ofDigits 10 (bs.reverse.map fun b => b.toNat - 48)

lemma toNat_digit {d : ℕ} (h : d < 10) : (UInt8.ofNat (48 + d)).toNat = 48 + d := by
  rw [UInt8.toNat_ofNat']
  omega

lemma isDigit_of_mem_decimal {n : ℕ} {b : UInt8} (h : b ∈ decimal n) : isDigit b := by
  unfold decimal at h
  split at h
  · rw [List.mem_singleton.1 h]
    decide
  · obtain ⟨d, hd, rfl⟩ := List.mem_map.1 h
    have hlt : d < 10 := Nat.digits_lt_base (by decide) (List.mem_reverse.1 hd)
    simp only [isDigit, toNat_digit hlt, Bool.and_eq_true, decide_eq_true_eq]
    omega

lemma decimal_ne_nil (n : ℕ) : decimal n ≠ [] := by
  unfold decimal
  split
  · exact List.cons_ne_nil _ _
  · rename_i h
    simp [Nat.digits_ne_nil_iff_ne_zero.2 h]

/-- A number has no more digits than it needs. -/
lemma length_decimal_le {n k : ℕ} (hk : 0 < k) (h : n < 10 ^ k) : (decimal n).length ≤ k := by
  rw [decimal]
  split_ifs
  · exact hk
  · rw [List.length_map, List.length_reverse]
    exact (Nat.digits_length_le_iff (by norm_num) n).2 h

lemma decimalValue_decimal (n : ℕ) : decimalValue (decimal n) = n := by
  unfold decimal
  split
  · rename_i h
    rw [h]
    rfl
  · have hmap : (Nat.digits 10 n).map ((fun b : UInt8 => b.toNat - 48) ∘
        fun d => UInt8.ofNat (48 + d)) = (Nat.digits 10 n).map id := by
      refine List.map_congr_left fun d hd => ?_
      have hlt : d < 10 := Nat.digits_lt_base (by decide) hd
      rw [Function.comp_apply, toNat_digit hlt, Nat.add_sub_cancel_left, id]
    rw [decimalValue, ← List.map_reverse, List.reverse_reverse, List.map_map, hmap, List.map_id,
      Nat.ofDigits_digits]

/-- `isspace`. -/
def isSpace (b : UInt8) : Bool := b.toNat = 32 || (9 ≤ b.toNat && b.toNat ≤ 13)

/-- `strtoul(s, NULL, 10)` with a 64-bit `unsigned long`. -/
def strtoul (s : Bytes) : ℕ :=
  let t := s.dropWhile isSpace
  let signed := t.head? = some 45 ∨ t.head? = some 43
  let v := decimalValue ((if signed then t.tail else t).takeWhile isDigit)
  if 2 ^ 64 ≤ v then 2 ^ 64 - 1
  else if t.head? = some 45 then (2 ^ 64 - v) % 2 ^ 64
  else v

/-- A number that `printf` wrote begins with a digit. -/
lemma exists_decimal_eq_cons (n : ℕ) : ∃ b t, decimal n = b :: t ∧ isDigit b = true := by
  obtain ⟨b, t, hd⟩ := List.exists_cons_of_ne_nil (decimal_ne_nil n)
  exact ⟨b, t, hd, isDigit_of_mem_decimal (n := n) (by simp [hd])⟩

/-- A digit is neither white space nor a sign. -/
lemma isSpace_of_isDigit {b : UInt8} (h : isDigit b = true) :
    isSpace b = false ∧ b ≠ 45 ∧ b ≠ 43 := by
  simp only [isDigit, Bool.and_eq_true, decide_eq_true_eq] at h
  refine ⟨?_, ?_, ?_⟩
  · simp only [isSpace, Bool.or_eq_false_iff, Bool.and_eq_false_iff, decide_eq_false_iff_not]
    omega
  · rintro rfl
    exact absurd h (by decide)
  · rintro rfl
    exact absurd h (by decide)

/-- `strtoul` reads back what `printf` wrote, as long as it fits, up to what is no digit. -/
lemma strtoul_decimal_append {n : ℕ} {rest : Bytes} (h : n < 2 ^ 64)
    (hrest : ∀ c ∈ rest.head?, isDigit c = false) : strtoul (decimal n ++ rest) = n := by
  have htake : (decimal n ++ rest).takeWhile isDigit = decimal n := by
    rw [List.takeWhile_append_of_pos fun b hb => isDigit_of_mem_decimal hb]
    cases rest with
    | nil => simp
    | cons c rest => simp [hrest c (by simp)]
  obtain ⟨b, t, hd, hb⟩ := exists_decimal_eq_cons n
  obtain ⟨hspace, hminus, hplus⟩ := isSpace_of_isDigit hb
  have hdrop : (decimal n ++ rest).dropWhile isSpace = decimal n ++ rest := by
    rw [hd, List.cons_append, List.dropWhile_cons_of_neg (by simp [hspace])]
  have hsign : ∀ c : UInt8, b ≠ c → (decimal n ++ rest).head? ≠ some c := by
    intro c hc
    rw [hd, List.cons_append, List.head?_cons, ne_eq, Option.some.injEq]
    exact hc
  have hsmall : ¬ 2 ^ 64 ≤ n := Nat.not_le.2 h
  simp only [strtoul, hdrop, hsign 45 hminus, hsign 43 hplus, or_self, if_false, htake,
    decimalValue_decimal, hsmall]

/-- `strtoul` reads back what `printf` wrote, as long as it fits. -/
lemma strtoul_decimal {n : ℕ} (h : n < 2 ^ 64) : strtoul (decimal n) = n := by
  have hend : ∀ c ∈ ([] : Bytes).head?, isDigit c = false := by simp
  have happend := strtoul_decimal_append h hend
  rwa [List.append_nil] at happend

end AntennaMgmt.Lib
