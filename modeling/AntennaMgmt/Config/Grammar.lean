import AntennaMgmt.Config.Load

/-!
# What a configuration file says

A configuration file says the assignments on its lines that are not comments, up to 64.  The file
gives the lines that `config_load` has to meet for what it stores to be what the file says.
-/

namespace AntennaMgmt.Config

open AntennaMgmt.Lib

/-- What the file says. -/
def fileItems (file : Bytes) : List ConfigItem := ((textLines file).filterMap keyValue).take 64

/-- What is stored is what the file says. -/
def FollowsGrammar (file : Bytes) : Prop := configLoad file = fileItems file

/-- Each line gives what it says: what is stored is what the file says, and what it says up to any
of its lines. -/
def FollowsLines (file : Bytes) : Prop :=
  FollowsGrammar file ∧ ∀ n, FollowsGrammar (takeLines n file)

/-- A line that the reader gets right.  Of an assignment, there are no zero bytes, the key and the
value fit, and one of the pieces has both, for itself.  Of another line, no piece is an assignment
for itself. -/
def ReadWhole (line : Bytes) : Prop :=
  match keyValue line with
  | some item => 0 ∉ line ∧ item.key.length ≤ 63 ∧ item.value.length ≤ 191 ∧
      ∃ piece ∈ fgetsPieces 255 [] line, keyValue piece = some item
  | none => ∀ piece ∈ fgetsPieces 255 [] line, keyValue (piece.takeWhile (· ≠ 0)) = none

/-! ### The pieces of a line -/

/-- What the pieces of a line give. -/
def lineItems (line : Bytes) : List ConfigItem := (fgetsPieces 255 [] line).filterMap pieceItem

lemma loadPieces_eq (pieces : List Bytes) {items : List ConfigItem} (h : items.length ≤ 64) :
    loadPieces pieces items = (items ++ pieces.filterMap pieceItem).take 64 := by
  induction pieces generalizing items with
  | nil => rw [loadPieces, List.filterMap_nil, List.append_nil, List.take_of_length_le h]
  | cons piece pieces ih =>
    rw [loadPieces]
    split_ifs with hroom
    · have hnext : (items ++ (pieceItem piece).toList).length ≤ 64 := by
        rw [List.length_append]
        cases pieceItem piece <;> simp <;> omega
      rw [ih hnext, List.append_assoc, List.filterMap_cons]
      cases pieceItem piece <;> rfl
    · rw [List.take_append_of_le_length (by omega), List.take_of_length_le h]

/-- The line feed of a piece does not matter. -/
lemma pieceItem_lf (piece : Bytes) : pieceItem (piece ++ [lf]) = pieceItem piece := by
  by_cases hzero : 0 ∈ piece
  · have hcut : (piece ++ [lf]).takeWhile (· ≠ 0) = piece.takeWhile (· ≠ 0) := by
      conv_lhs => rw [eq_takeWhile_append hzero, List.append_assoc]
      exact takeWhile_ne_append (not_mem_takeWhile_ne 0 piece) _
    rw [pieceItem, pieceItem, hcut]
  · have hlf : 0 ∉ piece ++ [lf] := by simp [hzero, lf]
    rw [pieceItem, pieceItem, takeWhile_ne_eq_self hlf, takeWhile_ne_eq_self hzero, keyValue_lf]

/-- The items are gathered line by line. -/
lemma configLoad_eq (file : Bytes) :
    configLoad file = ((textLines file).flatMap lineItems).take 64 := by
  rw [configLoad, loadPieces_eq _ (by simp), List.nil_append,
    filterMap_fgetsPieces pieceItem_lf rfl]
  rfl

/-- A piece that has all that is on the line: the others have nothing. -/
lemma exists_pieces {line piece : Bytes} (h : piece ∈ fgetsPieces 255 [] line)
    (hink : ink line ≤ ink piece) : ∃ before after,
    fgetsPieces 255 [] line = before ++ piece :: after ∧ ink before.flatten = 0 ∧
      ink after.flatten = 0 := by
  obtain ⟨before, after, heq⟩ := List.append_of_mem h
  have hflat := congrArg ink (flatten_fgetsPieces 255 [] line)
  rw [heq, List.flatten_append, List.flatten_cons, ink_append, ink_append, List.nil_append] at hflat
  exact ⟨before, after, heq, by omega, by omega⟩

lemma ink_le_of_mem {line piece : Bytes} (h : piece ∈ fgetsPieces 255 [] line) :
    ink piece ≤ ink line := by
  have hsub := List.sublist_flatten_of_mem h
  rw [flatten_fgetsPieces] at hsub
  exact hsub.countP_le

/-- Pieces with nothing in them give nothing. -/
lemma filterMap_pieceItem_eq_nil {pieces : List Bytes} (h : ink pieces.flatten = 0) :
    pieces.filterMap pieceItem = [] := by
  rw [List.filterMap_eq_nil_iff]
  intro piece hpiece
  have hcut : ((piece.takeWhile (· ≠ 0)).Sublist pieces.flatten) :=
    (List.takeWhile_sublist _).trans (List.sublist_flatten_of_mem hpiece)
  have hle : ink (piece.takeWhile (· ≠ 0)) ≤ ink pieces.flatten := hcut.countP_le
  rw [pieceItem, Option.map_eq_none_iff]
  by_contra hsome
  obtain ⟨item, hitem⟩ := Option.ne_none_iff_exists'.1 hsome
  have hink := ink_of_keyValue hitem
  omega

/-! ### The lines that are read right -/

/-- A line that is read right gives what it says. -/
lemma ReadWhole.lineItems_eq {line : Bytes} (h : ReadWhole line) :
    lineItems line = (keyValue line).toList := by
  rw [ReadWhole] at h
  cases hline : keyValue line with
  | none =>
    rw [hline] at h
    rw [lineItems, Option.toList_none, List.filterMap_eq_nil_iff]
    intro piece hpiece
    rw [pieceItem, h piece hpiece]
    rfl
  | some item =>
    rw [hline] at h
    obtain ⟨hzero, hkey, hvalue, piece, hpiece, hitem⟩ := h
    have hink := ink_of_keyValue hline
    have hsame := ink_of_keyValue hitem
    obtain ⟨before, after, heq, hbefore, hafter⟩ := exists_pieces hpiece (by omega)
    have hstring : 0 ∉ piece := by
      intro hmem
      have hflat := List.mem_flatten_of_mem hpiece hmem
      rw [flatten_fgetsPieces] at hflat
      exact hzero hflat
    have hcopied : item.copied = item := by
      rw [ConfigItem.copied, List.take_of_length_le hkey, List.take_of_length_le hvalue]
    have hgiven : pieceItem piece = some item := by
      rw [pieceItem, takeWhile_ne_eq_self hstring, hitem, Option.map_some, hcopied]
    rw [lineItems, heq, List.filterMap_append, List.filterMap_cons, hgiven,
      filterMap_pieceItem_eq_nil hbefore, filterMap_pieceItem_eq_nil hafter]
    rfl

/-- An assignment that is what a piece of it gives. -/
lemma readWhole_of_pieceItem {line piece : Bytes} {item : ConfigItem}
    (hline : keyValue line = some item) (hpiece : piece ∈ fgetsPieces 255 [] line)
    (hitem : pieceItem piece = some item) : ReadWhole line := by
  obtain ⟨found, hfound, hcopied⟩ := Option.map_eq_some_iff.1 hitem
  have hink := ink_of_keyValue hline
  have hinkFound := ink_of_keyValue hfound
  have hle := ink_le_of_mem hpiece
  have hcut : ink (piece.takeWhile (· ≠ 0)) ≤ ink piece := (List.takeWhile_sublist _).countP_le
  rw [← hcopied] at hink
  obtain ⟨hself, hkey, hvalue⟩ := copied_eq_self hfound (by omega)
  rw [hself] at hcopied hink
  subst hcopied
  -- nothing stands outside the piece, nor behind a zero byte in it
  have hstring : 0 ∉ piece := by
    intro hmem
    have hsplit := congrArg ink (eq_takeWhile_append hmem)
    rw [ink_append] at hsplit
    have hzero : ∀ bs : Bytes, ink (0 :: bs) = ink bs + 1 := fun bs => by
      simp [ink, isBlankOrEnd]
    rw [hzero] at hsplit
    omega
  obtain ⟨before, after, heq, hbefore, hafter⟩ := exists_pieces hpiece (by omega)
  have hzero : 0 ∉ line := by
    have hflat := flatten_fgetsPieces 255 [] line
    rw [heq, List.flatten_append, List.flatten_cons, List.nil_append] at hflat
    rw [← hflat, List.mem_append, List.mem_append]
    rintro (hmem | hmem | hmem)
    · exact absurd (ink_eq_zero_iff.1 hbefore 0 hmem) (by decide)
    · exact hstring hmem
    · exact absurd (ink_eq_zero_iff.1 hafter 0 hmem) (by decide)
  rw [takeWhile_ne_eq_self hstring] at hfound
  rw [ReadWhole, hline]
  exact ⟨hzero, hkey, hvalue, piece, hpiece, hfound⟩

/-- The first item that the pieces of a line give is the right one exactly for the lines that are
read right. -/
lemma head?_lineItems_iff (line : Bytes) :
    (lineItems line).head? = keyValue line ↔ ReadWhole line := by
  constructor
  · intro h
    cases hline : keyValue line with
    | none =>
      rw [hline, List.head?_eq_none_iff, lineItems, List.filterMap_eq_nil_iff] at h
      rw [ReadWhole, hline]
      intro piece hpiece
      exact Option.map_eq_none_iff.1 (h piece hpiece)
    | some item =>
      rw [hline] at h
      obtain ⟨piece, hpiece, hitem⟩ := List.mem_filterMap.1 (List.mem_of_head? h)
      exact readWhole_of_pieceItem hline hpiece hitem
  · intro h
    rw [h.lineItems_eq, Option.head?_toList]

/-- Lines that are shorter than a piece are read right, when their keys and values fit. -/
lemma readWhole_of_short {line : Bytes} (hlf : lf ∉ line) (hlen : line.length < 255)
    (hzero : 0 ∉ line) (hfits : ∀ item, keyValue line = some item →
      item.key.length ≤ 63 ∧ item.value.length ≤ 191) : ReadWhole line := by
  rcases eq_or_ne line [] with rfl | hne
  · exact fun piece hpiece => absurd hpiece List.not_mem_nil
  have hpieces : fgetsPieces 255 [] line = [line] :=
    fgetsPieces_last hlf [] hne (by simpa using hlen)
  rw [ReadWhole]
  cases hline : keyValue line with
  | none =>
    intro piece hpiece
    rw [hpieces, List.mem_singleton] at hpiece
    rw [hpiece, takeWhile_ne_eq_self hzero, hline]
  | some item =>
    obtain ⟨hkey, hvalue⟩ := hfits item hline
    exact ⟨hzero, hkey, hvalue, line, by rw [hpieces]; exact List.mem_singleton_self line, hline⟩

/-! ### Files -/

/-- A file whose lines are all read right. -/
lemma followsGrammar_of_readWhole {file : Bytes} (h : ∀ line ∈ textLines file, ReadWhole line) :
    FollowsGrammar file := by
  have hitems : (textLines file).flatMap lineItems = (textLines file).filterMap keyValue := by
    rw [List.filterMap_eq_flatMap_toList]
    exact List.flatMap_congr fun line hline => (h line hline).lineItems_eq
  rw [FollowsGrammar, configLoad_eq, hitems, fileItems]

/-- A file with short lines, and keys and values that fit. -/
lemma followsGrammar_of_short {file : Bytes} (h : ∀ line ∈ textLines file,
    line.length < 255 ∧ 0 ∉ line ∧ ∀ item, keyValue line = some item →
      item.key.length ≤ 63 ∧ item.value.length ≤ 191) : FollowsGrammar file := by
  refine followsGrammar_of_readWhole fun line hline => ?_
  obtain ⟨hlen, hzero, hfits⟩ := h line hline
  exact readWhole_of_short (not_mem_of_mem_textLines hline) hlen hzero hfits

/-- What is stored is what the file says line by line exactly when each line that is met before the
table is full is read right. -/
theorem followsLines_iff (file : Bytes) :
    FollowsLines file ↔ ∀ i line, (textLines file)[i]? = some line →
      (((textLines file).take i).filterMap keyValue).length < 64 → ReadWhole line := by
  have hfirst : FollowsLines file ↔ ∀ n, FollowsGrammar (takeLines n file) := by
    refine and_iff_right_of_imp fun h => ?_
    have hall := h (textLines file).length
    rwa [takeLines_length] at hall
  have hitems : ∀ line, (lineItems line).head? = keyValue line →
      lineItems line = (keyValue line).toList :=
    fun line h => ((head?_lineItems_iff line).1 h).lineItems_eq
  rw [hfirst]
  simp only [FollowsGrammar, configLoad_eq, fileItems, textLines_takeLines]
  rw [gathered_iff hitems]
  simp only [head?_lineItems_iff]

/-- A comment that fills a piece, and the assignment in the rest of it. -/
def commentFront : Bytes := 35 :: List.replicate 254 45

lemma length_commentFront : commentFront.length = 255 := by
  rw [commentFront, List.length_cons, List.length_replicate]

/-- A file with a comment, and nothing else. -/
def commentFile : Bytes := commentFront ++ (ascii "PAAU_ID_CHECK=0" ++ [lf])

/-- The rest of the comment is stored. -/
theorem followsGrammar_comment_fails :
    textLines commentFile = [commentFront ++ ascii "PAAU_ID_CHECK=0"] ∧
    fileItems commentFile = [] ∧
    configLoad commentFile = [⟨ascii "PAAU_ID_CHECK", ascii "0"⟩] ∧
    configGetString (configLoad commentFile) (ascii "PAAU_ID_CHECK") = some (ascii "0") ∧
    ¬ FollowsGrammar commentFile := by
  have hrest : lf ∉ ascii "PAAU_ID_CHECK=0" := by decide
  have hfront : lf ∉ commentFront := by
    rw [commentFront, List.mem_cons, List.mem_replicate]
    decide
  have hlines : textLines commentFile = [commentFront ++ ascii "PAAU_ID_CHECK=0"] := by
    rw [commentFile, ← List.append_assoc, textLines_line (by simp [hfront, hrest]), textLines]
  have hsays : fileItems commentFile = [] := by
    rw [fileItems, hlines, commentFront, List.cons_append]
    simp only [List.filterMap_cons, keyValue_comment]
    rfl
  have hpieces : fgetsPieces 255 [] commentFile =
      [commentFront, ascii "PAAU_ID_CHECK=0" ++ [lf]] := by
    have hlen : ([] : Bytes).length + commentFront.length = 255 := by
      rw [length_commentFront, List.length_nil]
    rw [commentFile, fgetsPieces_full hfront [] _ (List.cons_ne_nil _ _) hlen,
      fgetsPieces_line hrest [] [] (by decide)]
    rfl
  have hnone : pieceItem commentFront = none := by
    have hzero : 0 ∉ commentFront := by
      rw [commentFront, List.mem_cons, List.mem_replicate]
      decide
    rw [pieceItem, takeWhile_ne_eq_self hzero, commentFront, keyValue_comment]
    rfl
  have hload : configLoad commentFile = [⟨ascii "PAAU_ID_CHECK", ascii "0"⟩] := by
    rw [configLoad, hpieces, loadPieces, hnone]
    decide
  refine ⟨hlines, hsays, hload, ?_, ?_⟩
  · rw [hload]
    decide
  · rw [FollowsGrammar, hload, hsays]
    exact List.cons_ne_nil _ _

end AntennaMgmt.Config
