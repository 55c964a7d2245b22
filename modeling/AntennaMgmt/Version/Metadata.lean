import AntennaMgmt.Lib.Path
import AntennaMgmt.Lib.Scanf
import AntennaMgmt.Version.Download

/-!
# The metadata of an installed version

`save_version_metadata` prints the metadata into `version.json`, field by field and as they are.
`load_version_metadata` reads either `metadata.txt` or `version.json` line by line; which format
it expects depends on the path of the file that it has opened.
-/

namespace AntennaMgmt.Version

open AntennaMgmt.Lib

/-- `version_metadata_t`. -/
structure VersionMetadata where
  version : Bytes
  buildTime : Bytes
  checksum : Bytes
  fileSize : UInt32
  verType : UInt8
  installPath : Bytes
deriving DecidableEq, Repr

/-! ### Saving -/

/-- The double quote. -/
abbrev quote : UInt8 := 34

/-- A string in double quotes. -/
def quoted (s : Bytes) : Bytes := quote :: (s ++ [quote])

/-- The front of a line of `version.json`. -/
def jsonKey (key : Bytes) : Bytes := ascii "  " ++ quoted key ++ ascii ": "

/-- The lines that `save_version_metadata` prints. -/
def versionJsonLines (metadata : VersionMetadata) : List Bytes :=
  [ascii "\x7b",
    jsonKey (ascii "version") ++ quoted metadata.version ++ ascii ",",
    jsonKey (ascii "build_time") ++ quoted metadata.buildTime ++ ascii ",",
    jsonKey (ascii "checksum") ++ quoted metadata.checksum ++ ascii ",",
    jsonKey (ascii "file_size") ++ decimal metadata.fileSize.toNat ++ ascii ",",
    jsonKey (ascii "ver_type") ++ decimal metadata.verType.toNat ++ ascii ",",
    jsonKey (ascii "install_path") ++ quoted metadata.installPath,
    ascii "\x7d"]

/-- What `save_version_metadata` prints. -/
def versionJson (metadata : VersionMetadata) : Bytes :=
  (versionJsonLines metadata).flatMap (· ++ [lf])

/-! ### Loading -/

/-- A character that does not end a line, nor the string that the line is read into. -/
def isLineChar (c : UInt8) : Bool := c ≠ 0 && c ≠ lf && c ≠ 13

/-- A line without what ends it. -/
def cutLine (piece : Bytes) : Bytes := piece.takeWhile isLineChar

/-- The blanks around keys and values. -/
def isBlank (c : UInt8) : Bool := c = 32 || c = 9

/-- A key or a value without the blanks around it. -/
def trimBlanks (s : Bytes) : Bytes := (s.dropWhile isBlank).rdropWhile isBlank

/-- A line of `metadata.txt`. -/
def loadTxtLine (line : Bytes) (metadata : VersionMetadata) : VersionMetadata :=
  if line.head? = some 35 ∨ line = [] then metadata
  else if 61 ∉ line then metadata
  else
    let key := trimBlanks (line.takeWhile (· ≠ 61))
    let value := trimBlanks (line.drop ((line.takeWhile (· ≠ 61)).length + 1))
    if key = ascii "version" then { metadata with version := value.take 39 }
    else if key = ascii "sha256" then { metadata with checksum := value.take 64 }
    else metadata

/-- `sscanf` of a line for a string. -/
def scanJsonText (key : Bytes) (width : ℕ) (line : Bytes) : Option Bytes :=
  (scanLiteral (jsonKey key ++ [quote]) line).bind (scanUntil width quote)

/-- `sscanf` of a line for a number. -/
def scanJsonNumber (key line : Bytes) : Option ℕ :=
  (scanLiteral (jsonKey key) line).bind scanUnsigned

/-- A line of `version.json`; what `sscanf` does not convert stays as it was. -/
def loadJsonLine (line : Bytes) (metadata : VersionMetadata) : VersionMetadata :=
  if quoted (ascii "version") <:+: line then
    { metadata with
        version := (scanJsonText (ascii "version") 39 line).getD metadata.version }
  else if quoted (ascii "build_time") <:+: line then
    { metadata with
        buildTime := (scanJsonText (ascii "build_time") 19 line).getD metadata.buildTime }
  else if quoted (ascii "checksum") <:+: line then
    { metadata with
        checksum := (scanJsonText (ascii "checksum") 64 line).getD metadata.checksum }
  else if quoted (ascii "file_size") <:+: line then
    { metadata with
        fileSize := ((scanJsonNumber (ascii "file_size") line).map UInt32.ofNat).getD
          metadata.fileSize }
  else if quoted (ascii "ver_type") <:+: line then
    { metadata with
        verType := ((scanJsonNumber (ascii "ver_type") line).map UInt8.ofNat).getD
          metadata.verType }
  else if quoted (ascii "install_path") <:+: line then
    { metadata with
        installPath := (scanJsonText (ascii "install_path") 255 line).getD metadata.installPath }
  else metadata

/-- Before the first line. -/
def VersionMetadata.zero : VersionMetadata := ⟨[], [], [], 0, 0, []⟩

/-- The loop over the lines. -/
def loadLines (isTxtFormat : Bool) (text : Bytes) : VersionMetadata :=
  ((fgetsPieces 511 [] text).map cutLine).foldl (fun metadata line =>
    if isTxtFormat then loadTxtLine line metadata else loadJsonLine line metadata) .zero

/-- The path and the contents of the file that `load_version_metadata` opens. -/
def metadataFile (dir : Bytes) (files : Dir) : Option (Bytes × Bytes) :=
  match files (ascii "metadata.txt") with
  | some text => some (dir ++ ascii "/metadata.txt", text)
  | none => (files (ascii "version.json")).map fun text => (dir ++ ascii "/version.json", text)

/-- `load_version_metadata` of a directory with a path that fits its buffer. -/
def loadVersionMetadata (dir : Bytes) (files : Dir) : Option VersionMetadata :=
  (metadataFile dir files).map fun (metaPath, text) =>
    let metadata := loadLines (decide (ascii "metadata.txt" <:+: metaPath)) text
    if metadata.version = [] then
      { metadata with version := (dir.rtakeWhile (· ≠ 47)).take 39 }
    else metadata

/-! ### What no file can bring back -/

lemma isLineChar_of_mem_cutLine {piece : Bytes} {c : UInt8} (h : c ∈ cutLine piece) :
    isLineChar c = true :=
  List.mem_takeWhile_imp h

/-- What is read for a key is in the line and has no quotes. -/
lemma mem_of_scanJsonText {key line t : Bytes} {width : ℕ}
    (h : scanJsonText key width line = some t) {c : UInt8} (hc : c ∈ t) : c ≠ quote ∧ c ∈ line := by
  obtain ⟨rest, hrest, ht⟩ := Option.bind_eq_some_iff.1 h
  obtain ⟨hne, hmem⟩ := mem_of_scanUntil ht hc
  exact ⟨hne, (suffix_of_scanLiteral hrest).subset hmem⟩

/-- The time that is loaded has no quotes and is in one line. -/
lemma buildTime_loadLines {text : Bytes} {c : UInt8}
    (h : c ∈ (loadLines false text).buildTime) : c ≠ quote ∧ isLineChar c = true := by
  have hall : ∀ c ∈ (loadLines false text).buildTime, c ≠ quote ∧ isLineChar c = true := by
    rw [loadLines]
    refine List.foldlRecOn _ _ (motive := fun metadata : VersionMetadata =>
      ∀ c ∈ metadata.buildTime, c ≠ quote ∧ isLineChar c = true) (by simp [VersionMetadata.zero]) ?_
    intro metadata hmetadata line hline
    obtain ⟨piece, -, rfl⟩ := List.mem_map.1 hline
    simp only [Bool.false_eq_true, if_false]
    rw [loadJsonLine]
    split_ifs with hversion hbuildTime
    · exact hmetadata
    · cases hscan : scanJsonText (ascii "build_time") 19 (cutLine piece) with
      | none => exact hmetadata
      | some t =>
        intro c hc
        obtain ⟨hne, hmem⟩ := mem_of_scanJsonText hscan hc
        exact ⟨hne, isLineChar_of_mem_cutLine hmem⟩
    all_goals exact hmetadata
  exact hall c h

/-- The lines of `metadata.txt` have no path. -/
lemma installPath_loadLines (text : Bytes) : (loadLines true text).installPath = [] := by
  rw [loadLines]
  refine List.foldlRecOn _ _ (motive := fun metadata : VersionMetadata =>
    metadata.installPath = []) rfl ?_
  intro metadata hmetadata line _
  simp only [if_true]
  rw [loadTxtLine]
  dsimp only
  split_ifs
  all_goals exact hmetadata

/-! ### What the lines of `version.json` bring back -/

/-- The keys of `version.json`. -/
def jsonKeys : List Bytes :=
  [ascii "version", ascii "build_time", ascii "checksum", ascii "file_size", ascii "ver_type",
    ascii "install_path"]

/-- The keys are no longer or shorter than they are. -/
lemma jsonKeys_plain {k : Bytes} (hk : k ∈ jsonKeys) :
    quote ∉ k ∧ 2 < k.length ∧ k.head? ≠ some 58 ∧ ∀ c ∈ k, isLineChar c = true := by
  revert k
  decide +kernel

variable {k key value tail line : Bytes}

/-- A key that is in quotes on a line with a string is the key of the line or its string. -/
lemma eq_or_eq_of_quoted (hk : k ∈ jsonKeys) (hkey : quote ∉ key) (hvalue : quote ∉ value)
    (htail : tail.length ≤ 1 ∧ quote ∉ tail)
    (h : quoted k <:+: jsonKey key ++ quoted value ++ tail) : k = key ∨ k = value := by
  obtain ⟨hquote, hlen, -⟩ := jsonKeys_plain hk
  have hline : jsonKey key ++ quoted value ++ tail = ascii "  " ++ quote :: (key ++ quote ::
      (ascii ": " ++ quote :: (value ++ quote :: tail))) := by
    simp [jsonKey, quoted]
  have hseg := mem_splitOn_of_between hquote h
  rw [hline, List.splitOn_append_cons_self_of_not_mem (by decide),
    List.splitOn_append_cons_self_of_not_mem hkey,
    List.splitOn_append_cons_self_of_not_mem (by decide),
    List.splitOn_append_cons_self_of_not_mem hvalue, List.splitOn_eq_singleton htail.2] at hseg
  simp only [List.mem_cons, List.not_mem_nil, or_false] at hseg
  rcases hseg with rfl | rfl | rfl | rfl | rfl
  · exact absurd hlen (by decide)
  · exact .inl rfl
  · exact absurd hlen (by decide)
  · exact .inr rfl
  · omega

/-- A key that is in quotes on a line without a string is the key of the line. -/
lemma eq_of_quoted (hk : k ∈ jsonKeys) (hkey : quote ∉ key) (htail : quote ∉ tail)
    (h : quoted k <:+: jsonKey key ++ tail) : k = key := by
  obtain ⟨hquote, hlen, hhead, -⟩ := jsonKeys_plain hk
  have hline : jsonKey key ++ tail =
      ascii "  " ++ quote :: (key ++ quote :: (ascii ": " ++ tail)) := by
    simp [jsonKey, quoted]
  have hrest : quote ∉ ascii ": " ++ tail := by
    rw [List.mem_append, not_or]
    exact ⟨by decide, htail⟩
  have hseg := mem_splitOn_of_between hquote h
  rw [hline, List.splitOn_append_cons_self_of_not_mem (by decide),
    List.splitOn_append_cons_self_of_not_mem hkey, List.splitOn_eq_singleton hrest] at hseg
  simp only [List.mem_cons, List.not_mem_nil, or_false] at hseg
  rcases hseg with rfl | rfl | rfl
  · exact absurd hlen (by decide)
  · rfl
  · exact absurd rfl hhead

/-- A line has its key in quotes. -/
lemma quoted_jsonKey (key value tail : Bytes) :
    quoted key <:+: jsonKey key ++ value ++ tail :=
  ⟨ascii "  ", ascii ": " ++ value ++ tail, by simp [jsonKey]⟩

/-- A string on a line is read back. -/
lemma scanJsonText_line {width : ℕ} (hvalue : quote ∉ value) (hwidth : value.length ≤ width)
    (tail : Bytes) :
    (scanJsonText key width (jsonKey key ++ quoted value ++ tail)).getD [] = value := by
  have hline : jsonKey key ++ quoted value ++ tail =
      (jsonKey key ++ [quote]) ++ (value ++ quote :: tail) := by
    simp [quoted]
  have hlast : ∀ c ∈ (jsonKey key ++ [quote]).getLast?, isSpace c = false := by
    simp [isSpace, quote]
  rw [hline, scanJsonText, scanLiteral_append (.inl hlast), Option.bind_some]
  by_cases hnil : value = []
  · rw [hnil, List.nil_append, scanUntil_stop, Option.getD_none]
  · rw [scanUntil_append hvalue hnil hwidth, Option.getD_some]

/-- A number on a line is read back. -/
lemma scanJsonNumber_line {n : ℕ} (hn : n < 2 ^ 64)
    (htail : ∀ c ∈ tail.head?, isDigit c = false) :
    scanJsonNumber key (jsonKey key ++ decimal n ++ tail) = some n := by
  have hdigits : (decimal n ++ tail).dropWhile isSpace = decimal n ++ tail := by
    obtain ⟨b, t, hd, hb⟩ := exists_decimal_eq_cons n
    simp [hd, (isSpace_of_isDigit hb).1]
  rw [List.append_assoc, scanJsonNumber, scanLiteral_append (.inr hdigits), Option.bind_some,
    scanUnsigned_decimal hn htail]

/-- A string that fits its field and stays on its line. -/
def FitsLine (width : ℕ) (t : Bytes) : Prop :=
  (∀ c ∈ t, c ≠ quote ∧ isLineChar c = true) ∧ t.length ≤ width

lemma FitsLine.quote_not_mem {width : ℕ} {t : Bytes} (h : FitsLine width t) : quote ∉ t :=
  fun hmem => (h.1 quote hmem).1 rfl

/-- Metadata whose strings fit, and of which only the time could be a key. -/
structure Storable (metadata : VersionMetadata) : Prop where
  version : FitsLine 39 metadata.version
  buildTime : FitsLine 19 metadata.buildTime
  checksum : FitsLine 64 metadata.checksum
  installPath : FitsLine 255 metadata.installPath
  checksum_not_key : metadata.checksum ∉ jsonKeys
  installPath_not_key : metadata.installPath ∉ jsonKeys

/-- A line without quotes has no effect. -/
lemma loadJsonLine_of_quote_not_mem (h : quote ∉ line) (metadata : VersionMetadata) :
    loadJsonLine line metadata = metadata := by
  have hkey : ∀ k, ¬ quoted k <:+: line := fun k hk => h (hk.subset (by simp [quoted]))
  simp only [loadJsonLine, hkey, if_false]

section Lines

variable {metadata : VersionMetadata}

lemma loadJsonLine_version (hvalue : FitsLine 39 value) (hold : metadata.version = []) :
    loadJsonLine (jsonKey (ascii "version") ++ quoted value ++ ascii ",") metadata =
      { metadata with version := value } := by
  rw [loadJsonLine, if_pos (quoted_jsonKey _ _ _), hold,
    scanJsonText_line hvalue.quote_not_mem hvalue.2]

/-- The time `version` makes its line look like that of the version. -/
lemma loadJsonLine_buildTime (hvalue : FitsLine 19 value) (hold : metadata.buildTime = []) :
    loadJsonLine (jsonKey (ascii "build_time") ++ quoted value ++ ascii ",") metadata =
      { metadata with buildTime := if value = ascii "version" then [] else value } := by
  split_ifs with hclash
  · have hscan : scanJsonText (ascii "version") 39
        (jsonKey (ascii "build_time") ++ quoted (ascii "version") ++ ascii ",") = none := by
      decide
    rw [hclash, loadJsonLine, if_pos (by decide), hscan, Option.getD_none, ← hold]
  · have hversion : ¬ quoted (ascii "version") <:+:
        jsonKey (ascii "build_time") ++ quoted value ++ ascii "," := by
      intro h
      rcases eq_or_eq_of_quoted (by decide) (by decide) hvalue.quote_not_mem (by decide) h
        with hkey | heq
      · exact absurd hkey (by decide)
      · exact hclash heq.symm
    rw [loadJsonLine, if_neg hversion, if_pos (quoted_jsonKey _ _ _), hold,
      scanJsonText_line hvalue.quote_not_mem hvalue.2]

/-- No other key is in quotes on a line with a string that is no key. -/
lemma not_quoted (hvalue : quote ∉ value) (hvalueKey : value ∉ jsonKeys)
    (htail : tail.length ≤ 1 ∧ quote ∉ tail) (hkey : key ∈ jsonKeys) (hk : k ∈ jsonKeys)
    (hne : k ≠ key) : ¬ quoted k <:+: jsonKey key ++ quoted value ++ tail := by
  intro h
  rcases eq_or_eq_of_quoted hk (jsonKeys_plain hkey).1 hvalue htail h with heq | rfl
  · exact hne heq
  · exact hvalueKey hk

lemma loadJsonLine_checksum (hvalue : FitsLine 64 value) (hvalueKey : value ∉ jsonKeys)
    (hold : metadata.checksum = []) :
    loadJsonLine (jsonKey (ascii "checksum") ++ quoted value ++ ascii ",") metadata =
      { metadata with checksum := value } := by
  have hnot : ∀ k ∈ jsonKeys, k ≠ ascii "checksum" →
      ¬ quoted k <:+: jsonKey (ascii "checksum") ++ quoted value ++ ascii "," := fun k hk =>
    not_quoted hvalue.quote_not_mem hvalueKey (by decide) (by decide) hk
  rw [loadJsonLine, if_neg (hnot _ (by decide) (by decide)),
    if_neg (hnot _ (by decide) (by decide)),
    if_pos (quoted_jsonKey _ _ _), hold, scanJsonText_line hvalue.quote_not_mem hvalue.2]

lemma loadJsonLine_installPath (hvalue : FitsLine 255 value) (hvalueKey : value ∉ jsonKeys)
    (hold : metadata.installPath = []) :
    loadJsonLine (jsonKey (ascii "install_path") ++ quoted value) metadata =
      { metadata with installPath := value } := by
  have hnot : ∀ k ∈ jsonKeys, k ≠ ascii "install_path" →
      ¬ quoted k <:+: jsonKey (ascii "install_path") ++ quoted value ++ [] := fun k hk =>
    not_quoted hvalue.quote_not_mem hvalueKey (by decide) (by decide) hk
  rw [← List.append_nil (jsonKey (ascii "install_path") ++ quoted value), loadJsonLine,
    if_neg (hnot _ (by decide) (by decide)), if_neg (hnot _ (by decide) (by decide)),
    if_neg (hnot _ (by decide) (by decide)), if_neg (hnot _ (by decide) (by decide)),
    if_neg (hnot _ (by decide) (by decide)), if_pos (quoted_jsonKey _ _ _), hold,
    scanJsonText_line hvalue.quote_not_mem hvalue.2]

/-- No other key is in quotes on a line with a number. -/
lemma not_quoted_number (n : ℕ) (hkey : key ∈ jsonKeys) (hk : k ∈ jsonKeys) (hne : k ≠ key) :
    ¬ quoted k <:+: jsonKey key ++ decimal n ++ ascii "," := by
  intro h
  have htail : quote ∉ decimal n ++ ascii "," := by
    rw [List.mem_append, not_or]
    exact ⟨fun hmem => absurd (isDigit_of_mem_decimal hmem) (by decide), by decide⟩
  rw [List.append_assoc] at h
  exact hne (eq_of_quoted hk (jsonKeys_plain hkey).1 htail h)

lemma loadJsonLine_fileSize (size : UInt32) :
    loadJsonLine (jsonKey (ascii "file_size") ++ decimal size.toNat ++ ascii ",") metadata =
      { metadata with fileSize := size } := by
  have hnot : ∀ k ∈ jsonKeys, k ≠ ascii "file_size" →
      ¬ quoted k <:+: jsonKey (ascii "file_size") ++ decimal size.toNat ++ ascii "," :=
    fun k hk => not_quoted_number size.toNat (by decide) hk
  have hsize : size.toNat < 2 ^ 64 := size.toNat_lt.trans (by norm_num)
  rw [loadJsonLine, if_neg (hnot _ (by decide) (by decide)),
    if_neg (hnot _ (by decide) (by decide)),
    if_neg (hnot _ (by decide) (by decide)), if_pos (quoted_jsonKey _ _ _),
    scanJsonNumber_line hsize (by decide +kernel), Option.map_some, Option.getD_some,
    UInt32.ofNat_toNat]

lemma loadJsonLine_verType (verType : UInt8) :
    loadJsonLine (jsonKey (ascii "ver_type") ++ decimal verType.toNat ++ ascii ",") metadata =
      { metadata with verType := verType } := by
  have hnot : ∀ k ∈ jsonKeys, k ≠ ascii "ver_type" →
      ¬ quoted k <:+: jsonKey (ascii "ver_type") ++ decimal verType.toNat ++ ascii "," :=
    fun k hk => not_quoted_number verType.toNat (by decide) hk
  have htype : verType.toNat < 2 ^ 64 := verType.toNat_lt.trans (by norm_num)
  rw [loadJsonLine, if_neg (hnot _ (by decide) (by decide)),
    if_neg (hnot _ (by decide) (by decide)),
    if_neg (hnot _ (by decide) (by decide)), if_neg (hnot _ (by decide) (by decide)),
    if_pos (quoted_jsonKey _ _ _), scanJsonNumber_line htype (by decide +kernel), Option.map_some,
    Option.getD_some, UInt8.ofNat_toNat]

/-- The lines of `version.json` bring everything back, but for the time `version`. -/
lemma foldl_loadJsonLine (h : Storable metadata) :
    (versionJsonLines metadata).foldl (fun metadata line => loadJsonLine line metadata) .zero =
      { metadata with
          buildTime := if metadata.buildTime = ascii "version" then []
            else metadata.buildTime } := by
  have hopen : ∀ m, loadJsonLine (ascii "\x7b") m = m := loadJsonLine_of_quote_not_mem (by decide)
  have hclose : ∀ m, loadJsonLine (ascii "\x7d") m = m := loadJsonLine_of_quote_not_mem (by decide)
  rw [versionJsonLines]
  simp only [List.foldl_cons, List.foldl_nil]
  rw [hopen, hclose, loadJsonLine_version h.version rfl, loadJsonLine_buildTime h.buildTime rfl,
    loadJsonLine_checksum h.checksum h.checksum_not_key rfl, loadJsonLine_fileSize,
    loadJsonLine_verType, loadJsonLine_installPath h.installPath h.installPath_not_key rfl]

lemma isLineChar_of_mem_jsonKey (hkey : key ∈ jsonKeys) :
    ∀ c ∈ jsonKey key, isLineChar c = true := by
  revert key
  decide +kernel

lemma isLineChar_of_mem_quoted {width : ℕ} (hvalue : FitsLine width value) :
    ∀ c ∈ quoted value, isLineChar c = true := by
  rw [quoted, List.forall_mem_cons, List.forall_mem_append]
  exact ⟨by decide, fun c hc => (hvalue.1 c hc).2, by simp [isLineChar, lf, quote]⟩

lemma isLineChar_of_mem_decimal (n : ℕ) : ∀ c ∈ decimal n, isLineChar c = true := by
  have hdigit : ∀ c : UInt8, isDigit c = true → isLineChar c = true := by
    intro c hc
    simp only [isDigit, Bool.and_eq_true, decide_eq_true_eq] at hc
    simp only [isLineChar, lf, Bool.and_eq_true, decide_eq_true_eq, ← UInt8.toNat_inj, ne_eq]
    refine ⟨⟨?_, ?_⟩, ?_⟩ <;> simp <;> omega
  exact fun c hc => hdigit c (isDigit_of_mem_decimal hc)

/-- Every line can be read in one piece. -/
lemma versionJsonLines_fit (h : Storable metadata) {l : Bytes}
    (hl : l ∈ versionJsonLines metadata) : (∀ c ∈ l, isLineChar c = true) ∧ l.length < 511 := by
  obtain ⟨hversion, hbuildTime, hchecksum, hinstallPath, -, -⟩ := h
  have hcomma : ∀ c ∈ ascii ",", isLineChar c = true := by decide +kernel
  have hsize : (decimal metadata.fileSize.toNat).length ≤ 10 :=
    length_decimal_le (by norm_num) (metadata.fileSize.toNat_lt.trans (by norm_num))
  have htype : (decimal metadata.verType.toNat).length ≤ 3 :=
    length_decimal_le (by norm_num) (metadata.verType.toNat_lt.trans (by norm_num))
  have hkeys : ∀ k ∈ jsonKeys, (jsonKey k).length ≤ 18 := by decide
  have htext : ∀ k ∈ jsonKeys, ∀ width t, FitsLine width t → width ≤ 255 →
      (∀ c ∈ jsonKey k ++ quoted t ++ ascii ",", isLineChar c = true) ∧
        (jsonKey k ++ quoted t ++ ascii ",").length < 511 := by
    intro k hk width t ht hwidth
    rw [List.forall_mem_append, List.forall_mem_append]
    refine ⟨⟨⟨isLineChar_of_mem_jsonKey hk, isLineChar_of_mem_quoted ht⟩, hcomma⟩, ?_⟩
    have hkey := hkeys k hk
    have hlen := ht.2
    simp [quoted, ascii]
    omega
  have hnumber : ∀ k ∈ jsonKeys, ∀ n, (decimal n).length ≤ 10 →
      (∀ c ∈ jsonKey k ++ decimal n ++ ascii ",", isLineChar c = true) ∧
        (jsonKey k ++ decimal n ++ ascii ",").length < 511 := by
    intro k hk n hn
    rw [List.forall_mem_append, List.forall_mem_append]
    refine ⟨⟨⟨isLineChar_of_mem_jsonKey hk, isLineChar_of_mem_decimal n⟩, hcomma⟩, ?_⟩
    have hkey := hkeys k hk
    simp [ascii]
    omega
  simp only [versionJsonLines, List.mem_cons, List.not_mem_nil, or_false] at hl
  rcases hl with rfl | rfl | rfl | rfl | rfl | rfl | rfl | rfl
  · decide +kernel
  · exact htext _ (by decide) _ _ hversion (by norm_num)
  · exact htext _ (by decide) _ _ hbuildTime (by norm_num)
  · exact htext _ (by decide) _ _ hchecksum (by norm_num)
  · exact hnumber _ (by decide) _ hsize
  · exact hnumber _ (by decide) _ (htype.trans (by norm_num))
  · obtain ⟨hchars, hlen⟩ := htext _ (by decide : ascii "install_path" ∈ jsonKeys) _ _ hinstallPath
      le_rfl
    rw [List.forall_mem_append] at hchars
    rw [List.length_append] at hlen
    exact ⟨hchars.1, by omega⟩
  · decide +kernel

/-- What is saved is loaded, but for the time `version`. -/
lemma loadLines_versionJson (h : Storable metadata) :
    loadLines false (versionJson metadata) = { metadata with
      buildTime := if metadata.buildTime = ascii "version" then [] else metadata.buildTime } := by
  have hpieces : ∀ l ∈ versionJsonLines metadata, lf ∉ l ∧ l.length < 511 := by
    intro l hl
    obtain ⟨hchars, hlen⟩ := versionJsonLines_fit h hl
    exact ⟨fun hmem => absurd (hchars lf hmem) (by decide), hlen⟩
  have hcut : (versionJsonLines metadata).map (cutLine ∘ (· ++ [lf])) =
      versionJsonLines metadata := by
    rw [List.map_congr_left, List.map_id]
    intro l hl
    show (l ++ [lf]).takeWhile isLineChar = l
    rw [List.takeWhile_append_of_pos (versionJsonLines_fit h hl).1]
    simp [isLineChar]
  rw [loadLines, versionJson, fgetsPieces_lines hpieces, List.map_map, hcut]
  exact foldl_loadJsonLine h

end Lines

/-- The loss of the time `version` is the only one. -/
lemma timeLost_iff (metadata : VersionMetadata) :
    { metadata with
        buildTime := if metadata.buildTime = ascii "version" then [] else metadata.buildTime } =
      metadata ↔ metadata.buildTime ≠ ascii "version" := by
  constructor
  · intro h htime
    have hlost := congrArg VersionMetadata.buildTime h
    dsimp only at hlost
    rw [if_pos htime, htime] at hlost
    exact absurd hlost (by decide)
  · intro htime
    rw [if_neg htime]

end AntennaMgmt.Version
