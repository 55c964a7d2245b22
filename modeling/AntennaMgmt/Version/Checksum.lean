import AntennaMgmt.Lib.Hex
import AntennaMgmt.Version.Metadata
import AntennaMgmt.Version.Package

/-!
# The two checks of a package

The download checks one file of a package against one digest: `verify_bin_file_checksum` takes the
first `.bin` file of the directory and the first digest in the first `.txt` file.  The injection
takes the file and the digest that `metadata.txt` names.  SHA-256 is a parameter.
-/

namespace AntennaMgmt.Version

open AntennaMgmt.Lib

/-! ### The check of the download -/

/-- The name has the suffix and something in front of it. -/
def hasSuffix (suffix name : Bytes) : Bool := 4 < name.length ∧ suffix <:+ name

/-- The 64 hexadecimal digits at the front of a text. -/
def hexRun (s : Bytes) : Option Bytes :=
  let run := (s.take 64).takeWhile isHexDigit
  if run.length = 64 then some run else none

/-- What stands behind the first occurrence of `pat`. -/
def afterInfix (pat s : Bytes) : Option Bytes :=
  (beforeInfix pat s).map fun front => s.drop (front.length + pat.length)

/-- The digest on a line of the checksum file: behind `sha256=`, or at the front in the old
format. -/
def lineChecksum (piece : Bytes) : Option Bytes :=
  let start := (piece.takeWhile (· ≠ 0)).dropWhile isBlank
  if start = [] ∨ start.head? = some lf ∨ start.head? = some 35 then none
  else ((afterInfix (ascii "sha256=") start).bind hexRun).or (hexRun start)

/-- `read_checksum_from_txt`; `names` are the entries of the directory in the order of
`readdir`. -/
def readChecksumFromTxt (files : Files) (names : List Bytes) (versionDir : Bytes) :
    Option Bytes := do
  let name ← names.find? (hasSuffix (ascii ".txt"))
  let txtFile ← files ((versionDir ++ ascii "/" ++ name).take 511)
  (fgetsPieces 255 [] txtFile.content).findSome? lineChecksum

/-- A regular file that its owner may execute. -/
def isExecutable (node : FileNode) : Bool := node.regular && node.executable

/-- The loop of `verify_bin_file_checksum` over the entries: the path of the first `.bin` file, or
of the last executable without a suffix. -/
def findBinFile (files : Files) (versionDir : Bytes) (executableFile : Option Bytes) :
    List Bytes → Option Bytes
  | [] => executableFile
  | name :: names =>
    let fullPath := (versionDir ++ ascii "/" ++ name).take 511
    if name.head? = some 46 then findBinFile files versionDir executableFile names
    else if hasSuffix (ascii ".bin") name then some fullPath
    else if 46 ∉ name ∧ (files fullPath).any isExecutable then
      findBinFile files versionDir (some fullPath) names
    else findBinFile files versionDir executableFile names

/-- `strcasecmp` finds no difference. -/
def strcaseEq (s t : Bytes) : Bool := s.map toLower = t.map toLower

/-- `verify_bin_file_checksum` of a directory that can be opened. -/
def verifyBinFileChecksum (sha256 : Bytes → Bytes) (files : Files) (names : List Bytes)
    (versionDir : Bytes) : DownloadResult :=
  match findBinFile files versionDir none names with
  | none => .extract
  | some executableFile =>
    match readChecksumFromTxt files names versionDir with
    | none => .checksum
    | some expectedChecksum =>
      match files executableFile with
      | none => .checksum
      | some node =>
        if strcaseEq (hexText (sha256 node.content)) expectedChecksum then .success
        else .checksum

/-! ### The check of the injection -/

/-- `firmware_verify_integrity`. -/
def firmwareVerifyIntegrity (sha256 : Bytes → Bytes) (files : Files)
    (binFilePath expectedSha256 : Bytes) : Bool :=
  match files binFilePath with
  | none => false
  | some node => strcaseEq (hexText (sha256 node.content)) expectedSha256

/-! ### What the checks look at -/

/-- The file that the download checks. -/
def checkedFile (files : Files) (names : List Bytes) (versionDir : Bytes) : Option FileNode :=
  (findBinFile files versionDir none names).bind files

/-- The file that the text of `metadata.txt` names. -/
def namedFile (files : Files) (versionDir text : Bytes) : Option FileNode :=
  (lastValue (ascii "bin_file") (readEntries text)).bind fun name =>
    files ((versionDir ++ ascii "/" ++ name.take 255).take 255)

/-- The digest that the text of `metadata.txt` states. -/
def statedDigest (text : Bytes) : Bytes :=
  ((lastValue (ascii "sha256") (readEntries text)).getD []).take 64

/-- The checks look at files of one digest and at one text for it, or they look at two different
pairs and the metadata state the digest of the file that they name. -/
def ChecksAgree (sha256 : Bytes → Bytes) (files : Files) (names : List Bytes)
    (versionDir text : Bytes) : Prop :=
  ∃ checked named expected, checkedFile files names versionDir = some checked ∧
    namedFile files versionDir text = some named ∧
    readChecksumFromTxt files names versionDir = some expected ∧
    (sha256 named.content = sha256 checked.content ∧ strcaseEq (statedDigest text) expected = true ∨
      sha256 named.content ≠ sha256 checked.content ∧
        ¬ strcaseEq (statedDigest text) expected = true ∧
        strcaseEq (hexText (sha256 named.content)) (statedDigest text) = true)

lemma strcaseEq_iff {s t : Bytes} : strcaseEq s t = true ↔ s.map toLower = t.map toLower :=
  decide_eq_true_iff

/-- Digests are the same if their texts are, whatever the case. -/
lemma strcaseEq_hexText_iff {bs cs : Bytes} :
    strcaseEq (hexText bs) (hexText cs) = true ↔ bs = cs := by
  rw [strcaseEq_iff, map_toLower_hexText, map_toLower_hexText, hexText_injective.eq_iff]

section Checks

variable {sha256 : Bytes → Bytes} {files : Files} {names : List Bytes} {versionDir : Bytes}

/-- A package that the download accepts has a file with the digest that was expected. -/
lemma verifyBinFileChecksum_success
    (h : verifyBinFileChecksum sha256 files names versionDir = .success) :
    ∃ checked expected, checkedFile files names versionDir = some checked ∧
      readChecksumFromTxt files names versionDir = some expected ∧
      strcaseEq (hexText (sha256 checked.content)) expected = true := by
  rw [verifyBinFileChecksum] at h
  split at h
  · cases h
  rename_i path hpath
  split at h
  · cases h
  rename_i expected hexpected
  split at h
  · cases h
  rename_i checked hchecked
  split at h
  · rename_i heq
    have hfile : checkedFile files names versionDir = some checked := by
      rw [checkedFile, hpath, Option.bind_some, hchecked]
    exact ⟨checked, expected, hfile, hexpected, heq⟩
  · cases h

/-- **When the two checks of a package agree.**  A package that is accepted by the download and
whose metadata can be parsed passes the check of the injection if and only if the two checks look
at the same pair of file and digest, or the metadata state the digest of a file of their own. -/
theorem verifyIntegrity_of_accepted_iff {node : FileNode} {metadata : FirmwareMetadata}
    (hfile : files ((versionDir ++ ascii "/metadata.txt").take 511) = some node)
    (hverify : verifyBinFileChecksum sha256 files names versionDir = .success)
    (hparse : firmwareParseMetadata files versionDir = some metadata) :
    firmwareVerifyIntegrity sha256 files metadata.binFilePath metadata.sha256 = true ↔
      ChecksAgree sha256 files names versionDir node.content := by
  obtain ⟨checked, expected, hchecked, hexpected, hdigest⟩ := verifyBinFileChecksum_success hverify
  obtain ⟨name, named, hname, hpath, hnamed, -, -, hsha⟩ :=
    firmwareParseMetadata_eq_some hfile hparse
  have hnamedFile : namedFile files versionDir node.content = some named := by
    rw [namedFile, hname, Option.bind_some, ← hpath, hnamed]
  rw [firmwareVerifyIntegrity, hnamed, hsha, ← statedDigest]
  constructor
  · intro hstated
    refine ⟨checked, named, expected, hchecked, hnamedFile, hexpected, ?_⟩
    by_cases hsame : sha256 named.content = sha256 checked.content
    · refine .inl ⟨hsame, ?_⟩
      rw [strcaseEq_iff] at hstated hdigest ⊢
      rw [← hstated, hsame, hdigest]
    · refine .inr ⟨hsame, fun hexp => hsame ?_, hstated⟩
      rw [strcaseEq_iff] at hstated hdigest hexp
      rw [← strcaseEq_hexText_iff, strcaseEq_iff, hstated, hexp, hdigest]
  · rintro ⟨checked', named', expected', hchecked', hnamed', hexpected', hcase⟩
    obtain rfl := Option.some.inj (hchecked.symm.trans hchecked')
    obtain rfl := Option.some.inj (hnamedFile.symm.trans hnamed')
    obtain rfl := Option.some.inj (hexpected.symm.trans hexpected')
    rcases hcase with ⟨hsame, hexp⟩ | ⟨-, -, hstated⟩
    · rw [strcaseEq_iff] at hdigest hexp ⊢
      rw [hsame, hdigest, hexp]
    · exact hstated

end Checks

/-! ### A package with two images -/

/-- SHA-256 of the empty text and of `abc`. -/
def sha256Table (content : Bytes) : Bytes :=
  if content = [] then
    [0xe3, 0xb0, 0xc4, 0x42, 0x98, 0xfc, 0x1c, 0x14, 0x9a, 0xfb, 0xf4, 0xc8, 0x99, 0x6f, 0xb9,
      0x24, 0x27, 0xae, 0x41, 0xe4, 0x64, 0x9b, 0x93, 0x4c, 0xa4, 0x95, 0x99, 0x1b, 0x78, 0x52,
      0xb8, 0x55]
  else
    [0xba, 0x78, 0x16, 0xbf, 0x8f, 0x01, 0xcf, 0xea, 0x41, 0x41, 0x40, 0xde, 0x5d, 0xae, 0x22,
      0x23, 0xb0, 0x03, 0x61, 0xa3, 0x96, 0x17, 0x7a, 0x9c, 0xb4, 0x10, 0xff, 0x61, 0xf2, 0x00,
      0x15, 0xad]

/-- A `metadata.txt` that names a file and states the digest of an empty one. -/
def imageText (binFile : Bytes) : Bytes :=
  ascii "file_type=0xF0\nfile_sub_type=0x13\nversion=v1\nsha256=" ++ hexText (sha256Table []) ++
    ascii "\nbin_file=" ++ binFile ++ ascii "\n"

/-- The files in `/fw`: an empty image, another one and the metadata. -/
def twoImages (binFile : Bytes) : Files := fun path =>
  if path = ascii "/fw/a.bin" then some ⟨[], 0, true, false⟩
  else if path = ascii "/fw/b.bin" then some ⟨ascii "abc", 3, true, false⟩
  else if path = ascii "/fw/metadata.txt" then
    some ⟨imageText binFile, (imageText binFile).length, true, false⟩
  else none

/-- The entries of the directory. -/
def imageNames : List Bytes :=
  [ascii ".", ascii "..", ascii "a.bin", ascii "b.bin", ascii "metadata.txt"]

/-- The image that is found first is the one that the metadata name. -/
theorem verifyIntegrity_of_accepted_iff_firstImage :
    firmwareVerifyIntegrity sha256Table (twoImages (ascii "a.bin")) (ascii "/fw/a.bin")
      (hexText (sha256Table [])) = true := by
  refine (@verifyIntegrity_of_accepted_iff sha256Table (twoImages (ascii "a.bin")) imageNames
    (ascii "/fw") ⟨imageText (ascii "a.bin"), (imageText (ascii "a.bin")).length, true, false⟩
    ⟨0xF0, 0x13, hexText (sha256Table []), 0, ascii "v1", ascii "/fw/a.bin"⟩
    (by decide +kernel) (by decide +kernel) (by decide +kernel)).2 ?_
  exact ⟨⟨[], 0, true, false⟩, ⟨[], 0, true, false⟩, hexText (sha256Table []), by decide +kernel,
    by decide +kernel, by decide +kernel, .inl ⟨rfl, by decide +kernel⟩⟩

/-- The metadata name the second image with the digest of the first: the download checks the
first. -/
theorem verifyIntegrity_fails_secondImage :
    verifyBinFileChecksum sha256Table (twoImages (ascii "b.bin")) imageNames (ascii "/fw") =
      .success ∧
    firmwareParseMetadata (twoImages (ascii "b.bin")) (ascii "/fw") =
      some ⟨0xF0, 0x13, hexText (sha256Table []), 3, ascii "v1", ascii "/fw/b.bin"⟩ ∧
    firmwareVerifyIntegrity sha256Table (twoImages (ascii "b.bin")) (ascii "/fw/b.bin")
      (hexText (sha256Table [])) = false := by
  refine ⟨?_, ?_, ?_⟩
  · decide +kernel
  · decide +kernel
  · decide +kernel

end AntennaMgmt.Version
