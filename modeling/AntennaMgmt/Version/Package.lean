import AntennaMgmt.Lib.Numeral
import AntennaMgmt.Version.Download

/-!
# The metadata of a firmware package

`firmware_parse_metadata` reads `metadata.txt` of a package with `fgets`, takes the lines for
assignments to keys and counts those of the five keys that it knows.  The numbers are cut to a
byte, the strings to the sizes of their arrays.
-/

namespace AntennaMgmt.Version

open AntennaMgmt.Lib

/-- A file: what `fread` delivers of it and what `stat` tells. -/
structure FileNode where
  content : Bytes
  size : ℕ
  regular : Bool
  executable : Bool
deriving DecidableEq, Repr

/-- The files by their paths. -/
abbrev Files := Bytes → Option FileNode

/-- `firmware_metadata_t`. -/
structure FirmwareMetadata where
  fileType : UInt8
  fileSubType : UInt8
  sha256 : Bytes
  fileSize : UInt32
  version : Bytes
  binFilePath : Bytes
deriving DecidableEq, Repr

/-! ### The parser -/

/-- `trim_whitespace`. -/
def trimWhitespace (str : Bytes) : Bytes := (str.dropWhile isSpace).rdropWhile isSpace

/-- The key and the value on a line, if it is an assignment. -/
def keyValue (line : Bytes) : Option (Bytes × Bytes) :=
  let trimmed := trimWhitespace line
  if trimmed.head? = some 35 ∨ trimmed = [] then none
  else if 61 ∉ trimmed then none
  else
    let key := trimmed.takeWhile (· ≠ 61)
    some (trimWhitespace key, trimWhitespace (trimmed.drop (key.length + 1)))

/-- The assignment in a piece that `fgets` has read, which is a string. -/
def pieceKeyValue (piece : Bytes) : Option (Bytes × Bytes) := keyValue (piece.takeWhile (· ≠ 0))

/-- The variables of `firmware_parse_metadata`. -/
structure Parsing where
  fileType : UInt8
  fileSubType : UInt8
  sha256 : Bytes
  version : Bytes
  binFilename : Bytes
  fieldsFound : ℕ
deriving DecidableEq, Repr

/-- Before the first line. -/
def Parsing.start : Parsing := ⟨0, 0, [], [], [], 0⟩

/-- The fields. -/
def parseField (p : Parsing) (kv : Bytes × Bytes) : Parsing :=
  if kv.1 = ascii "file_type" then
    { p with
        fileType := UInt8.ofNat (strtoulBase0 kv.2)
        fieldsFound := p.fieldsFound + 1 }
  else if kv.1 = ascii "file_sub_type" then
    { p with
        fileSubType := UInt8.ofNat (strtoulBase0 kv.2)
        fieldsFound := p.fieldsFound + 1 }
  else if kv.1 = ascii "sha256" then
    { p with sha256 := kv.2.take 64, fieldsFound := p.fieldsFound + 1 }
  else if kv.1 = ascii "version" then
    { p with version := kv.2.take 39, fieldsFound := p.fieldsFound + 1 }
  else if kv.1 = ascii "bin_file" then
    { p with binFilename := kv.2.take 255, fieldsFound := p.fieldsFound + 1 }
  else p

/-- The body of the loop. -/
def parseLine (p : Parsing) (piece : Bytes) : Parsing :=
  match pieceKeyValue piece with
  | none => p
  | some kv => parseField p kv

/-- The loop over the lines. -/
def parseLines (text : Bytes) : Parsing := (fgetsPieces 511 [] text).foldl parseLine .start

/-- `firmware_parse_metadata`. -/
def firmwareParseMetadata (files : Files) (versionDir : Bytes) : Option FirmwareMetadata := do
  let metadataTxt ← files ((versionDir ++ ascii "/metadata.txt").take 511)
  let p := parseLines metadataTxt.content
  if p.fieldsFound < 5 then none
  else if ¬ shellSafeName p.binFilename then none
  else
    let binFilePath := (versionDir ++ ascii "/" ++ p.binFilename).take 255
    let binFile ← files binFilePath
    some ⟨p.fileType, p.fileSubType, p.sha256, UInt32.ofNat binFile.size, p.version, binFilePath⟩

/-! ### What is read and what is written -/

/-- The five keys. -/
def metadataKeys : List Bytes :=
  [ascii "file_type", ascii "file_sub_type", ascii "sha256", ascii "version", ascii "bin_file"]

/-- The assignments that the parser reads. -/
def readEntries (text : Bytes) : List (Bytes × Bytes) :=
  (fgetsPieces 511 [] text).filterMap pieceKeyValue

/-- The assignments on the lines of a text. -/
def writtenEntries (text : Bytes) : List (Bytes × Bytes) := (textLines text).filterMap keyValue

/-- The value of the last assignment to a key. -/
def lastValue (key : Bytes) (entries : List (Bytes × Bytes)) : Option Bytes :=
  (entries.reverse.find? fun kv => kv.1 = key).map Prod.snd

@[simp] lemma lastValue_nil (key : Bytes) : lastValue key [] = none := rfl

lemma lastValue_concat (key : Bytes) (entries : List (Bytes × Bytes)) (kv : Bytes × Bytes) :
    lastValue key (entries ++ [kv]) = if kv.1 = key then some kv.2 else lastValue key entries := by
  rw [lastValue, List.reverse_append, List.reverse_singleton, List.singleton_append,
    List.find?_cons]
  split_ifs with hkey
  · simp [hkey]
  · simp [hkey, lastValue]

/-- A key has a last value if it has any. -/
lemma lastValue_isSome_iff (key : Bytes) (entries : List (Bytes × Bytes)) :
    (lastValue key entries).isSome ↔ ∃ value, (key, value) ∈ entries := by
  simp [lastValue]

/-- What the parser has taken from the assignments. -/
lemma foldl_parseField (entries : List (Bytes × Bytes)) :
    entries.foldl parseField .start =
      { fileType := UInt8.ofNat (strtoulBase0 ((lastValue (ascii "file_type") entries).getD []))
        fileSubType :=
          UInt8.ofNat (strtoulBase0 ((lastValue (ascii "file_sub_type") entries).getD []))
        sha256 := ((lastValue (ascii "sha256") entries).getD []).take 64
        version := ((lastValue (ascii "version") entries).getD []).take 39
        binFilename := ((lastValue (ascii "bin_file") entries).getD []).take 255
        fieldsFound := (entries.filter fun kv => kv.1 ∈ metadataKeys).length } := by
  induction entries using List.reverseRecOn with
  | nil => decide
  | append_singleton entries kv ih =>
    have hdistinct : metadataKeys.Nodup := by decide
    simp only [metadataKeys, List.nodup_cons, List.mem_cons, List.not_mem_nil, or_false,
      not_or] at hdistinct
    obtain ⟨⟨h₁₂, h₁₃, h₁₄, h₁₅⟩, ⟨h₂₃, h₂₄, h₂₅⟩, ⟨h₃₄, h₃₅⟩, h₄₅, -⟩ := hdistinct
    rw [List.foldl_concat, ih, parseField]
    simp only [lastValue_concat, List.filter_append, List.length_append, metadataKeys]
    by_cases htype : kv.1 = ascii "file_type"
    · simp [htype, h₁₂, h₁₃, h₁₄, h₁₅]
    by_cases hsub : kv.1 = ascii "file_sub_type"
    · simp [hsub, Ne.symm h₁₂, h₂₃, h₂₄, h₂₅]
    by_cases hsha : kv.1 = ascii "sha256"
    · simp [hsha, Ne.symm h₁₃, Ne.symm h₂₃, h₃₄, h₃₅]
    by_cases hversion : kv.1 = ascii "version"
    · simp [hversion, Ne.symm h₁₄, Ne.symm h₂₄, Ne.symm h₃₄, h₄₅]
    by_cases hbin : kv.1 = ascii "bin_file"
    · simp [hbin, Ne.symm h₁₅, Ne.symm h₂₅, Ne.symm h₃₅, Ne.symm h₄₅]
    simp [htype, hsub, hsha, hversion, hbin]

lemma parseLines_eq (text : Bytes) :
    parseLines text = (readEntries text).foldl parseField .start := by
  rw [readEntries, List.foldl_filterMap, parseLines]
  congr 1
  funext p piece
  rw [parseLine]
  cases pieceKeyValue piece <;> rfl

/-- What the parser returns: the last values, and the path of a file that is there. -/
lemma firmwareParseMetadata_eq_some {files : Files} {versionDir : Bytes} {node : FileNode}
    {metadata : FirmwareMetadata}
    (hfile : files ((versionDir ++ ascii "/metadata.txt").take 511) = some node)
    (h : firmwareParseMetadata files versionDir = some metadata) :
    ∃ name binFile, lastValue (ascii "bin_file") (readEntries node.content) = some name ∧
      metadata.binFilePath = (versionDir ++ ascii "/" ++ name.take 255).take 255 ∧
      files metadata.binFilePath = some binFile ∧
      metadata.fileType = UInt8.ofNat
        (strtoulBase0 ((lastValue (ascii "file_type") (readEntries node.content)).getD [])) ∧
      metadata.fileSubType = UInt8.ofNat
        (strtoulBase0 ((lastValue (ascii "file_sub_type") (readEntries node.content)).getD [])) ∧
      metadata.sha256 =
        ((lastValue (ascii "sha256") (readEntries node.content)).getD []).take 64 := by
  rw [firmwareParseMetadata, hfile] at h
  simp only [Option.bind_eq_bind, Option.bind_some, parseLines_eq, foldl_parseField] at h
  obtain ⟨-, h⟩ := Option.ite_none_left_eq_some.1 h
  obtain ⟨hsafe, h⟩ := Option.ite_none_left_eq_some.1 h
  obtain ⟨binFile, hbin, h⟩ := Option.bind_eq_some_iff.1 h
  obtain rfl := Option.some.inj h
  cases hlast : lastValue (ascii "bin_file") (readEntries node.content) with
  | none => simp [hlast, shellSafeName] at hsafe
  | some name =>
    rw [hlast] at hbin
    exact ⟨name, binFile, rfl, rfl, hbin, rfl, rfl, rfl⟩

/-! ### Lines and pieces -/

lemma trimWhitespace_lf (l : Bytes) : trimWhitespace (l ++ [lf]) = trimWhitespace l := by
  have hlf : isSpace lf = true := by decide
  rw [trimWhitespace, trimWhitespace]
  by_cases hall : ∀ c ∈ l, isSpace c = true
  · have hall' : ∀ c ∈ l ++ [lf], isSpace c = true := by
      rw [List.forall_mem_append, List.forall_mem_singleton]
      exact ⟨hall, hlf⟩
    rw [List.dropWhile_eq_nil_iff.2 hall, List.dropWhile_eq_nil_iff.2 hall']
  · rw [List.dropWhile_append, if_neg, List.rdropWhile_concat_pos _ _ _ hlf]
    rwa [List.isEmpty_iff, List.dropWhile_eq_nil_iff]

lemma pieceKeyValue_of_string {l : Bytes} (h : 0 ∉ l) : pieceKeyValue l = keyValue l := by
  rw [pieceKeyValue, takeWhile_ne_eq_self h]

/-- The line feed at the end of a piece makes no difference. -/
lemma pieceKeyValue_lf (l : Bytes) : pieceKeyValue (l ++ [lf]) = pieceKeyValue l := by
  by_cases hzero : 0 ∈ l
  · rw [pieceKeyValue, pieceKeyValue, eq_takeWhile_append hzero]
    simp [List.takeWhile_append]
  · have hzero' : 0 ∉ l ++ [lf] := by
      rw [List.mem_append, not_or]
      exact ⟨hzero, by decide⟩
    rw [pieceKeyValue_of_string hzero, pieceKeyValue_of_string hzero', keyValue, keyValue,
      trimWhitespace_lf]

/-- A file whose lines fit and are strings is read as it is written. -/
lemma readEntries_eq {text : Bytes}
    (h : ∀ line ∈ textLines text, line.length < 511 ∧ 0 ∉ line) :
    readEntries text = writtenEntries text := by
  have hpieces := map_fgetsPieces pieceKeyValue_lf fun line hline => (h line hline).1
  calc readEntries text
      = ((fgetsPieces 511 [] text).map pieceKeyValue).filterMap id := by
        rw [List.filterMap_map]
        rfl
    _ = ((textLines text).map pieceKeyValue).filterMap id := by rw [hpieces]
    _ = (textLines text).filterMap pieceKeyValue := by
        rw [List.filterMap_map]
        rfl
    _ = writtenEntries text :=
        List.filterMap_congr fun line hline => pieceKeyValue_of_string (h line hline).2

/-! ### Soundness -/

/-- What the metadata should be: every key is there, the numbers are those written last, and the
path is that of the file written last. -/
structure ParsedSoundly (text versionDir : Bytes) (metadata : FirmwareMetadata) : Prop where
  keys : ∀ key ∈ metadataKeys, ∃ value, (key, value) ∈ writtenEntries text
  fileType : ∃ value n, lastValue (ascii "file_type") (writtenEntries text) = some value ∧
    numeral value = some n ∧ (metadata.fileType.toNat : ℤ) = n
  fileSubType : ∃ value n, lastValue (ascii "file_sub_type") (writtenEntries text) = some value ∧
    numeral value = some n ∧ (metadata.fileSubType.toNat : ℤ) = n
  binFilePath : ∃ value, lastValue (ascii "bin_file") (writtenEntries text) = some value ∧
    metadata.binFilePath = versionDir ++ ascii "/" ++ value

/-- The number written for a key is that of a byte; if the pieces have another text for it, then
one with the same number. -/
def ByteWritten (key text : Bytes) : Prop :=
  ∃ value n, lastValue key (writtenEntries text) = some value ∧ numeral value = some n ∧
    0 ≤ n ∧ n < 256 ∧
    (lastValue key (readEntries text) ≠ some value →
      ((strtoulBase0 ((lastValue key (readEntries text)).getD []) % 256 : ℕ) : ℤ) = n)

/-- The file written has room in the path; if the pieces have another name for it, then one that
is cut to it. -/
def PathWritten (text versionDir : Bytes) : Prop :=
  ∃ value, lastValue (ascii "bin_file") (writtenEntries text) = some value ∧
    versionDir.length + 1 + value.length ≤ 255 ∧
    (lastValue (ascii "bin_file") (readEntries text) ≠ some value →
      versionDir.length + 1 + value.length = 255 ∧
        value <+: (lastValue (ascii "bin_file") (readEntries text)).getD [])

/-- A number is right exactly if it is written as that of a byte. -/
lemma byteWritten_iff (key text : Bytes) :
    (∃ value n, lastValue key (writtenEntries text) = some value ∧ numeral value = some n ∧
      ((UInt8.ofNat (strtoulBase0 ((lastValue key (readEntries text)).getD []))).toNat : ℤ) = n) ↔
    ByteWritten key text := by
  refine exists_congr fun value => exists_congr fun n => and_congr_right fun hvalue =>
    and_congr_right fun hn => ?_
  rw [UInt8.toNat_ofNat']
  constructor
  · intro heq
    have hlt := Nat.mod_lt (strtoulBase0 ((lastValue key (readEntries text)).getD []))
      (show 0 < 256 by norm_num)
    exact ⟨by omega, by omega, fun _ => heq⟩
  · rintro ⟨hpos, hlt, hother⟩
    by_cases hsame : lastValue key (readEntries text) = some value
    · rw [hsame, Option.getD_some]
      exact (strtoulBase0_mod_eq_iff hn (by norm_num) (by norm_num)).2 ⟨hpos, hlt⟩
    · exact hother hsame

/-- The buffers of the name and of the path hold a path exactly if it fits. -/
lemma cutPath_eq_iff {dir value name : Bytes} :
    (dir ++ ascii "/" ++ name.take 255).take 255 = dir ++ ascii "/" ++ value ↔
      dir.length + 1 + value.length ≤ 255 ∧
        (name ≠ value → dir.length + 1 + value.length = 255 ∧ value <+: name) := by
  have hbase : (dir ++ ascii "/").length = dir.length + 1 := by simp [ascii]
  constructor
  · intro h
    have hlen := congrArg List.length h
    have hpath : (dir ++ ascii "/" ++ value).length = dir.length + 1 + value.length := by
      simp [ascii]
      omega
    rw [List.length_take, hpath] at hlen
    refine ⟨by omega, fun hne => ?_⟩
    rw [List.take_append, List.take_of_length_le (by omega), List.append_cancel_left_eq,
      List.take_take, hbase] at h
    have hfront : value <+: name := h ▸ List.take_prefix _ _
    refine ⟨?_, hfront⟩
    by_contra hroom
    refine hne (hfront.eq_of_length_le ?_).symm
    have hcut := congrArg List.length h
    rw [List.length_take] at hcut
    omega
  · rintro ⟨hfits, hother⟩
    rw [List.take_append, List.take_of_length_le (by omega), List.append_cancel_left_eq,
      List.take_take, hbase]
    by_cases hname : name = value
    · rw [hname]
      exact List.take_of_length_le (by omega)
    · obtain ⟨hfull, hfront⟩ := hother hname
      rw [List.prefix_iff_eq_take.1 hfront]
      congr 1
      omega

/-- **When the metadata of a package is parsed soundly.**  The metadata of a package that is
accepted are those that the lines of the file say if and only if all five keys are written, the
last numbers written are those of a byte and the path has room for the last file written.  Where a
line does not fit a piece or holds a NUL, the pieces that are read have to say the same. -/
theorem parseMetadata_sound_iff {files : Files} {versionDir : Bytes} {node : FileNode}
    {metadata : FirmwareMetadata}
    (hfile : files ((versionDir ++ ascii "/metadata.txt").take 511) = some node)
    (h : firmwareParseMetadata files versionDir = some metadata) :
    (ParsedSoundly node.content versionDir metadata ↔
      (∀ key ∈ metadataKeys, ∃ value, (key, value) ∈ writtenEntries node.content) ∧
        ByteWritten (ascii "file_type") node.content ∧
        ByteWritten (ascii "file_sub_type") node.content ∧
        PathWritten node.content versionDir) ∧
    ((∀ line ∈ textLines node.content, line.length < 511 ∧ 0 ∉ line) →
      readEntries node.content = writtenEntries node.content) := by
  refine ⟨?_, readEntries_eq⟩
  obtain ⟨name, -, hname, hpath, -, htype, hsubType, -⟩ := firmwareParseMetadata_eq_some hfile h
  have hbin : (∃ value, lastValue (ascii "bin_file") (writtenEntries node.content) = some value ∧
      metadata.binFilePath = versionDir ++ ascii "/" ++ value) ↔
      PathWritten node.content versionDir := by
    refine exists_congr fun value => and_congr_right fun _ => ?_
    rw [hpath, cutPath_eq_iff, hname]
    simp
  rw [← byteWritten_iff, ← byteWritten_iff, ← hbin, ← htype, ← hsubType]
  exact ⟨fun hs => ⟨hs.keys, hs.fileType, hs.fileSubType, hs.binFilePath⟩,
    fun ⟨hkeys, hfileType, hfileSubType, hbinFilePath⟩ =>
      ⟨hkeys, hfileType, hfileSubType, hbinFilePath⟩⟩

/-- The files of a package in the directory `/fw`, with an empty image. -/
def packageFiles (text : Bytes) : Files := fun path =>
  if path = ascii "/fw/metadata.txt" then some ⟨text, text.length, true, false⟩
  else if path = ascii "/fw/a.bin" then some ⟨[], 0, true, false⟩
  else none

/-- A file with the five keys. -/
def plainText : Bytes :=
  ascii "file_type=0xF0\nfile_sub_type=0x13\nsha256=00\nversion=v1\nbin_file=a.bin\n"

/-- The assignments on its lines. -/
def plainEntries : List (Bytes × Bytes) :=
  [(ascii "file_type", ascii "0xF0"), (ascii "file_sub_type", ascii "0x13"),
    (ascii "sha256", ascii "00"), (ascii "version", ascii "v1"), (ascii "bin_file", ascii "a.bin")]

lemma writtenEntries_plainText : writtenEntries plainText = plainEntries := by decide +kernel

lemma readEntries_plainText : readEntries plainText = plainEntries := by
  rw [readEntries_eq, writtenEntries_plainText]
  decide +kernel

theorem parseMetadata_sound_iff_plainText :
    ParsedSoundly plainText (ascii "/fw")
      ⟨0xF0, 0x13, ascii "00", 0, ascii "v1", ascii "/fw/a.bin"⟩ := by
  refine (@parseMetadata_sound_iff (packageFiles plainText) (ascii "/fw")
    ⟨plainText, plainText.length, true, false⟩ _ (by decide +kernel) (by decide +kernel)).1.2 ?_
  rw [ByteWritten, ByteWritten, PathWritten, writtenEntries_plainText, readEntries_plainText]
  refine ⟨?_, ?_, ?_, ?_⟩
  · intro key hkey
    rw [← lastValue_isSome_iff]
    revert key
    decide +kernel
  · exact ⟨ascii "0xF0", 0xF0, by decide, by decide +kernel, by norm_num, by norm_num,
      fun hne => absurd (by decide) hne⟩
  · exact ⟨ascii "0x13", 0x13, by decide, by decide +kernel, by norm_num, by norm_num,
      fun hne => absurd (by decide) hne⟩
  · exact ⟨ascii "a.bin", by decide, by decide, fun hne => absurd (by decide) hne⟩

/-- A file with two versions and no sub type. -/
def twoVersionsText : Bytes :=
  ascii "file_type=0xF0\nversion=v1\nversion=v2\nsha256=00\nbin_file=a.bin\n"

/-- A file without a sub type is accepted when another key is there twice. -/
theorem parseMetadata_not_sound_twoVersions :
    firmwareParseMetadata (packageFiles twoVersionsText) (ascii "/fw") =
      some ⟨0xF0, 0, ascii "00", 0, ascii "v2", ascii "/fw/a.bin"⟩ ∧
    ¬ ParsedSoundly twoVersionsText (ascii "/fw")
      ⟨0xF0, 0, ascii "00", 0, ascii "v2", ascii "/fw/a.bin"⟩ := by
  constructor
  · decide +kernel
  · intro h
    have hsub := (lastValue_isSome_iff _ _).2 (h.keys (ascii "file_sub_type") (by decide))
    revert hsub
    decide +kernel

end AntennaMgmt.Version
