import AntennaMgmt.Lib.Path
import AntennaMgmt.Lib.Text
import AntennaMgmt.Version.Download

/-!
# The path validators

Names that come from the network end up in the arguments of `tar`, `rm` and `rename`.  Three
predicates stand before that: one for names, one for relative paths and one for the members of an
archive.  The last is applied to every line of the listing of an archive before it is unpacked.
-/

namespace AntennaMgmt.Shell

open AntennaMgmt.Lib
open AntennaMgmt.Version (shellSafeName)

/-- The separator of segments. -/
abbrev slash : UInt8 := 47

/-! ### The predicates -/

/-- A byte that `shell_safe_relpath` and `shell_safe_tar_member` refuse. -/
def isControl (c : UInt8) : Bool := c.toNat < 0x20 || c.toNat = 0x7f

/-- The walk over the segments: false at a segment `..`. -/
def segmentWalk (p : Bytes) : Bool :=
  if _h : p = [] then true
  else
    -- up to the next separator, or to the end
    let segLen := (p.takeWhile (· ≠ slash)).length
    if segLen = 2 ∧ p.getD 0 0 = 46 ∧ p.getD 1 0 = 46 then false
    else if slash ∉ p then true
    else segmentWalk (p.drop (segLen + 1))
termination_by p.length
decreasing_by
  have hpos := List.length_pos_iff.2 _h
  rw [List.length_drop]
  omega

/-- `shell_safe_relpath`. -/
def shellSafeRelpath (path : Bytes) : Bool :=
  if path = [] then false
  else if 255 < path.length then false
  else if path.any isControl then false
  else segmentWalk path

/-- `shell_safe_tar_member`. -/
def shellSafeTarMember (member : Bytes) : Bool :=
  if member = [] then false
  else if member.head? = some slash then false
  else if 255 < member.length then false
  else if member.any isControl then false
  else segmentWalk member

/-! ### The listing of an archive -/

/-- `TAR_MAX_MEMBERS`. -/
def tarMaxMembers : ℕ := 4096

/-- `list_cap`. -/
def listCap : ℕ := 64 * 1024

/-- What a command left in the buffer that `shell_run` was given, as a string: the rest of its
output is read and thrown away. -/
def shellRunOut (outSize : ℕ) (output : Bytes) : Bytes :=
  (output.take (outSize - 1)).takeWhile (· ≠ 0)

/-- The tokens that `strtok_r` finds. -/
def strtok (sep : UInt8) (s : Bytes) : List Bytes := (s.splitOn sep).filter (· ≠ [])

/-- The loop over the lines, with the number `scanned`: its last value, unless a line is refused. -/
def scanMembers (scanned : ℕ) : List Bytes → Option ℕ
  | [] => some scanned
  | line :: lines =>
    if tarMaxMembers < scanned + 1 then none
    else if ¬ shellSafeTarMember line then none
    else scanMembers (scanned + 1) lines

/-- The pass of `verify_tar_members` over the names that `tar -tzf` prints. -/
def namePass (output : Bytes) : Bool :=
  let out := shellRunOut listCap output
  if listCap - 1 ≤ out.length then false
  else
    match scanMembers 0 (strtok lf out) with
    | none => false
    | some scanned => scanned ≠ 0

/-- The loop of `check_tar_member_types`. -/
def scanTypes (scanned : ℕ) : List Bytes → Option ℕ
  | [] => some scanned
  | line :: lines =>
    -- a warning of `tar` is no entry
    if line.getD 1 0 ∉ ascii "rwx-" then scanTypes scanned lines
    else if line.getD 0 0 ∉ ascii "-d" then none
    else scanTypes (scanned + 1) lines

/-- `check_tar_member_types`, with the status of `tar -tvzf` and what it prints. -/
def checkTarMemberTypes (status : ℤ) (output : Bytes) : Bool :=
  if status ≠ 0 then false
  else
    let out := shellRunOut listCap output
    if listCap - 1 ≤ out.length then false
    else
      match scanTypes 0 (strtok lf out) with
      | none => false
      | some scanned => scanned ≠ 0

/-- `verify_tar_members`, with the statuses of the two commands and what they print. -/
def verifyTarMembers (status : ℤ) (output : Bytes) (typesStatus : ℤ) (typesOutput : Bytes) : Bool :=
  if status ≠ 0 then false
  else if ¬ namePass output then false
  else checkTarMemberTypes typesStatus typesOutput

/-! ### The walk -/

/-- The comparison of the first segment with `..`, byte by byte. -/
lemma firstSegment_iff (p : Bytes) :
    ((p.takeWhile (· ≠ slash)).length = 2 ∧ p.getD 0 0 = 46 ∧ p.getD 1 0 = 46) ↔
      p.takeWhile (· ≠ slash) = ascii ".." := by
  have hdots : ascii ".." = [46, 46] := rfl
  have hprefix : p.takeWhile (· ≠ slash) <+: p := List.takeWhile_prefix _
  obtain ⟨t, ht⟩ := hprefix
  rw [hdots]
  constructor
  · rintro ⟨hlen, hfirst, hsecond⟩
    obtain ⟨a, b, hab⟩ := List.length_eq_two.1 hlen
    rw [hab] at ht
    simp [← ht] at hfirst hsecond
    rw [hab, hfirst, hsecond]
  · intro h
    rw [h] at ht ⊢
    rw [← ht]
    exact ⟨rfl, rfl, rfl⟩

/-- The walk finds the segments `..`. -/
lemma segmentWalk_iff (p : Bytes) : segmentWalk p = true ↔ ascii ".." ∉ p.splitOn slash := by
  induction p using segments_induction slash with
  | last p hmem =>
    rw [segmentWalk]
    by_cases hnil : p = []
    · simp [hnil, ascii]
    · simp only [dif_neg hnil, firstSegment_iff]
      rw [List.splitOn_eq_singleton hmem, takeWhile_ne_eq_self hmem, List.mem_singleton]
      split_ifs with hdots
      · simp [hdots]
      · simpa using Ne.symm hdots
  | more w rest hw ih =>
    have hne : w ++ slash :: rest ≠ [] := by simp
    have hmore : ¬ slash ∉ w ++ slash :: rest := by simp
    have hdrop : (w ++ slash :: rest).drop (w.length + 1) = rest := by simp [List.drop_append]
    rw [segmentWalk]
    simp only [dif_neg hne, firstSegment_iff, if_neg hmore]
    rw [takeWhile_ne_append hw, hdrop, List.splitOn_append_cons_self_of_not_mem hw, List.mem_cons,
      not_or]
    split_ifs with hdots
    · simp only [false_iff, not_and]
      exact fun hne => absurd hdots.symm hne
    · rw [ih]
      exact ⟨fun h => ⟨Ne.symm hdots, h⟩, And.right⟩

/-! ### What the predicates accept -/

/-- The characters of a safe name. -/
def nameChars : Bytes :=
  ascii "ABCDEFGHIJKLMNOPQRSTUVWXYZabcdefghijklmnopqrstuvwxyz0123456789._-"

/-- The codes of the characters of a safe name. -/
lemma map_nameChars : nameChars.map UInt8.toNat =
    List.range' 65 26 ++ List.range' 97 26 ++ List.range' 48 10 ++ [46, 95, 45] := by
  decide +kernel

/-- The comparisons of `shell_safe_name` pick out the characters of a safe name. -/
lemma mem_nameChars_iff (c : UInt8) :
    ((65 ≤ c.toNat && c.toNat ≤ 90) || (97 ≤ c.toNat && c.toNat ≤ 122) ||
      (48 ≤ c.toNat && c.toNat ≤ 57) || c.toNat = 46 || c.toNat = 95 || c.toNat = 45) = true ↔
      c ∈ nameChars := by
  have hinj : Function.Injective UInt8.toNat := fun _ _ => UInt8.toNat_inj.1
  rw [← List.mem_map_of_injective hinj, map_nameChars]
  simp [List.mem_range'_1]
  omega

/-- The names that are safe. -/
lemma shellSafeName_iff (s : Bytes) : shellSafeName s = true ↔
    1 ≤ s.length ∧ s.length ≤ 255 ∧ (∀ c ∈ s, c ∈ nameChars) ∧ s ≠ ascii "." ∧ s ≠ ascii ".." := by
  simp only [shellSafeName, Bool.and_eq_true, List.all_eq_true, mem_nameChars_iff,
    decide_eq_true_eq, Nat.one_le_iff_ne_zero, ne_eq, List.length_eq_zero_iff]
  tauto

/-- The paths that are safe. -/
lemma shellSafeRelpath_iff (s : Bytes) : shellSafeRelpath s = true ↔
    1 ≤ s.length ∧ s.length ≤ 255 ∧ (∀ c ∈ s, isControl c = false) ∧
      ascii ".." ∉ s.splitOn slash := by
  rw [← segmentWalk_iff, shellSafeRelpath]
  split_ifs with hnil hlong hcontrol
  · simp [hnil]
  · simp
    omega
  · obtain ⟨c, hc, hbad⟩ := List.any_eq_true.1 hcontrol
    simp only [false_iff, not_and]
    intro _ _ hall
    simp [hall c hc] at hbad
  · have hpos := List.length_pos_iff.2 hnil
    simp only [List.any_eq_true, not_exists, not_and, Bool.not_eq_true] at hcontrol
    exact ⟨fun h => ⟨hpos, not_lt.1 hlong, hcontrol, h⟩, fun h => h.2.2.2⟩

/-- A safe member of an archive is a safe path that is not absolute. -/
lemma shellSafeTarMember_iff (s : Bytes) : shellSafeTarMember s = true ↔
    shellSafeRelpath s = true ∧ s.head? ≠ some slash := by
  rw [shellSafeTarMember, shellSafeRelpath]
  by_cases hhead : s.head? = some slash
  · simp [hhead]
  · simp [hhead]

/-- The predicate of the request handlers is that of the walk. -/
lemma version_shellSafeRelpath_eq (s : Bytes) :
    Version.shellSafeRelpath s = shellSafeRelpath s := by
  have hcontrol (c : UInt8) : (32 ≤ c.toNat && c.toNat ≠ 127) = true ↔ isControl c = false := by
    simp [isControl]
  rw [Bool.eq_iff_iff, shellSafeRelpath_iff]
  simp only [Version.shellSafeRelpath, Bool.and_eq_true, List.all_eq_true, hcontrol,
    decide_eq_true_eq, Nat.one_le_iff_ne_zero, ne_eq, List.length_eq_zero_iff]
  constructor
  · rintro ⟨⟨⟨hne, hle⟩, hall⟩, hsegs⟩
    exact ⟨hne, hle, hall, fun hmem => hsegs _ hmem rfl⟩
  · rintro ⟨hne, hle, hall, hsegs⟩
    exact ⟨⟨⟨hne, hle⟩, hall⟩, fun seg hseg heq => hsegs (heq ▸ hseg)⟩

/-- A safe name is a safe path and a safe member. -/
lemma shellSafeName_implies {s : Bytes} (h : shellSafeName s = true) :
    shellSafeRelpath s = true ∧ shellSafeTarMember s = true := by
  obtain ⟨hpos, hle, hchars, -, hdots⟩ := (shellSafeName_iff s).1 h
  have hcontrol : ∀ c ∈ nameChars, isControl c = false := by decide +kernel
  have hslash : slash ∉ s := fun hmem => absurd (hchars slash hmem) (by decide)
  have hpath : shellSafeRelpath s = true := by
    rw [shellSafeRelpath_iff, List.splitOn_eq_singleton hslash]
    exact ⟨hpos, hle, fun c hc => hcontrol c (hchars c hc), by simpa using Ne.symm hdots⟩
  refine ⟨hpath, (shellSafeTarMember_iff s).2 ⟨hpath, ?_⟩⟩
  intro hhead
  exact hslash (List.mem_of_head? hhead)

/-! ### Where a member is unpacked -/

/-- What a segment of a path says. -/
def segmentOf (seg : Bytes) : Segment Bytes :=
  if seg = [] ∨ seg = ascii "." then .here
  else if seg = ascii ".." then .up
  else .name seg

/-- The segments of a path. -/
def segmentsOf (path : Bytes) : List (Segment Bytes) := (path.splitOn slash).map segmentOf

/-- The directory that is reached below `dest` with the first `k` segments of a path; an absolute
path starts from the root. -/
def reached (dest : List Bytes) (path : Bytes) (k : ℕ) : List Bytes :=
  Segment.resolve (if path.head? = some slash then [] else dest) ((segmentsOf path).take k)

lemma up_not_mem_segmentsOf {path : Bytes} (h : ascii ".." ∉ path.splitOn slash) :
    .up ∉ segmentsOf path := by
  intro hmem
  obtain ⟨seg, hseg, hup⟩ := List.mem_map.1 hmem
  rw [segmentOf] at hup
  split_ifs at hup with hhere hdots
  exact h (hdots ▸ hseg)

/-- No segment of a safe member leads out of the destination. -/
lemma prefix_reached {member : Bytes} (h : shellSafeTarMember member = true) (dest : List Bytes)
    (k : ℕ) : dest <+: reached dest member k := by
  obtain ⟨hpath, hhead⟩ := (shellSafeTarMember_iff member).1 h
  obtain ⟨-, -, -, hdots⟩ := (shellSafeRelpath_iff member).1 hpath
  rw [reached, if_neg hhead]
  exact Segment.staysInside_of_up_not_mem (up_not_mem_segmentsOf hdots) dest k

/-! ### The pass over the names -/

/-- The loop gets through when no line is refused and there are not too many. -/
lemma scanMembers_eq_some {scanned n : ℕ} {lines : List Bytes} (h : scanned ≤ tarMaxMembers) :
    scanMembers scanned lines = some n ↔ n = scanned + lines.length ∧ n ≤ tarMaxMembers ∧
      ∀ line ∈ lines, shellSafeTarMember line = true := by
  induction lines generalizing scanned with
  | nil =>
    rw [scanMembers, Option.some.injEq]
    simp only [List.length_nil, List.not_mem_nil]
    constructor
    · rintro rfl
      exact ⟨rfl, h, by simp⟩
    · rintro ⟨rfl, -, -⟩
      rfl
  | cons line lines ih =>
    rw [scanMembers, List.forall_mem_cons, List.length_cons]
    split_ifs with hmany hsafe
    · simp
      omega
    · rw [ih (not_lt.1 hmany)]
      simp only [hsafe, true_and]
      rw [Nat.add_assoc, Nat.add_comm 1]
    · simp [hsafe]

/-- A list that fits is scanned as it is. -/
lemma shellRunOut_eq {list : Bytes} (hstring : 0 ∉ list) (hfits : list.length < listCap) :
    shellRunOut listCap list = list := by
  rw [shellRunOut, List.take_of_length_le (by omega), takeWhile_ne_eq_self hstring]

lemma namePass_iff {list : Bytes} (hstring : 0 ∉ list) (hfits : list.length < listCap - 1) :
    namePass list = true ↔ 1 ≤ (strtok lf list).length ∧ (strtok lf list).length ≤ tarMaxMembers ∧
      ∀ line ∈ strtok lf list, shellSafeTarMember line = true := by
  rw [namePass, shellRunOut_eq hstring (by omega)]
  simp only [if_neg (not_le.2 hfits)]
  split
  · rename_i hnone
    simp only [Bool.false_eq_true, false_iff, not_and]
    intro _ hle hall
    have hsome := (scanMembers_eq_some (Nat.zero_le tarMaxMembers)).2
      ⟨(Nat.zero_add _).symm, hle, hall⟩
    rw [hnone] at hsome
    cases hsome
  · rename_i scanned hsome
    obtain ⟨rfl, hle, hall⟩ := (scanMembers_eq_some (Nat.zero_le tarMaxMembers)).1 hsome
    rw [Nat.zero_add] at hle
    simp only [Nat.zero_add, decide_eq_true_eq]
    exact ⟨fun hne => ⟨Nat.one_le_iff_ne_zero.2 hne, hle, hall⟩,
      fun h => Nat.one_le_iff_ne_zero.1 h.1⟩

lemma scanMembers_safe {scanned n : ℕ} {lines : List Bytes}
    (h : scanMembers scanned lines = some n) :
    ∀ line ∈ lines, shellSafeTarMember line = true := by
  induction lines generalizing scanned with
  | nil => simp
  | cons line lines ih =>
    rw [scanMembers] at h
    split_ifs at h with hmany hsafe
    rw [List.forall_mem_cons]
    exact ⟨hsafe, ih h⟩

/-- The types that the second listing may show. -/
lemma scanTypes_safe {scanned n : ℕ} {lines : List Bytes} (h : scanTypes scanned lines = some n) :
    ∀ line ∈ lines, line.getD 1 0 ∈ ascii "rwx-" → line.getD 0 0 ∈ ascii "-d" := by
  induction lines generalizing scanned with
  | nil => simp
  | cons line lines ih =>
    rw [scanTypes] at h
    rw [List.forall_mem_cons]
    split_ifs at h with hentry htype
    · exact ⟨fun _ => htype, ih h⟩
    · exact ⟨fun hperm => absurd hperm hentry, ih h⟩

/-- An archive is unpacked only if every name in its listing stays inside the destination and
every entry is a file or a directory. -/
theorem verifyTarMembers_safe {status typesStatus : ℤ} {output typesOutput : Bytes}
    (h : verifyTarMembers status output typesStatus typesOutput = true) :
    (∀ member ∈ strtok lf (shellRunOut listCap output), ∀ dest k, dest <+: reached dest member k) ∧
      ∀ line ∈ strtok lf (shellRunOut listCap typesOutput),
        line.getD 1 0 ∈ ascii "rwx-" → line.getD 0 0 ∈ ascii "-d" := by
  rw [verifyTarMembers] at h
  split_ifs at h with hstatus hnames
  constructor
  · rw [namePass] at hnames
    split_ifs at hnames
    split at hnames
    · cases hnames
    · rename_i n hscan
      intro member hmember dest k
      exact prefix_reached (scanMembers_safe hscan member hmember) dest k
  · rw [checkTarMemberTypes] at h
    dsimp only at h
    split_ifs at h
    split at h
    · cases h
    · rename_i n hscan
      exact scanTypes_safe hscan

/-- **The path validators.**  The predicates for names, paths and members accept exactly the
strings that they describe; a safe member stays, segment by segment, inside the directory that it
is unpacked to; a safe name is safe for the other two as well; and the pass over the names of an
archive accepts a list that is shorter than what the buffer holds if and only if it has between 1
and 4096 lines that are not empty, all of them safe. -/
theorem pathValidators_safe :
    (∀ s, shellSafeName s = true ↔ 1 ≤ s.length ∧ s.length ≤ 255 ∧ (∀ c ∈ s, c ∈ nameChars) ∧
      s ≠ ascii "." ∧ s ≠ ascii "..") ∧
    (∀ s, shellSafeRelpath s = true ↔ 1 ≤ s.length ∧ s.length ≤ 255 ∧
      (∀ c ∈ s, isControl c = false) ∧ ascii ".." ∉ s.splitOn slash) ∧
    (∀ s, shellSafeTarMember s = true ↔ (1 ≤ s.length ∧ s.length ≤ 255 ∧
      (∀ c ∈ s, isControl c = false) ∧ ascii ".." ∉ s.splitOn slash) ∧ s.head? ≠ some slash) ∧
    (∀ member, shellSafeTarMember member = true → ∀ dest k, dest <+: reached dest member k) ∧
    (∀ s, shellSafeName s = true → shellSafeRelpath s = true ∧ shellSafeTarMember s = true) ∧
    (∀ list : Bytes, 0 ∉ list → list.length < 65535 →
      (namePass list = true ↔
        (1 ≤ (strtok lf list).length ∧ (strtok lf list).length ≤ tarMaxMembers) ∧
          ∀ line ∈ strtok lf list, shellSafeTarMember line = true)) := by
  refine ⟨shellSafeName_iff, shellSafeRelpath_iff, ?_, ?_, ?_, ?_⟩
  · intro s
    rw [shellSafeTarMember_iff, shellSafeRelpath_iff]
  · intro member hmember dest k
    exact prefix_reached hmember dest k
  · intro s hs
    exact shellSafeName_implies hs
  · intro list hstring hfits
    rw [namePass_iff hstring hfits, and_assoc]

/-- A package with a program in a directory. -/
theorem pathValidators_safe_package :
    namePass (ascii "bin/\nbin/app\nmetadata.txt\n") = true ∧
      [ascii "opt"] <+: reached [ascii "opt"] (ascii "bin/app") 2 := by
  obtain ⟨-, -, htar, hinside, -, hlist⟩ := pathValidators_safe
  have hmember : ∀ line ∈ [ascii "bin/", ascii "bin/app", ascii "metadata.txt"],
      shellSafeTarMember line = true := by
    intro line hline
    rw [htar]
    revert line
    decide +kernel
  have hlines : strtok lf (ascii "bin/\nbin/app\nmetadata.txt\n") =
      [ascii "bin/", ascii "bin/app", ascii "metadata.txt"] := by decide
  refine ⟨(hlist _ (by decide) (by decide)).2 ?_, hinside _ (hmember _ (by decide)) _ 2⟩
  rw [hlines]
  exact ⟨by decide, hmember⟩

/-! ### A list that fills the buffer -/

/-- The tokens of lines. -/
lemma strtok_lines {sep : UInt8} {lines : List Bytes}
    (h : ∀ line ∈ lines, line ≠ [] ∧ sep ∉ line) :
    strtok sep (lines.flatMap (· ++ [sep])) = lines := by
  induction lines with
  | nil => simp [strtok]
  | cons line lines ih =>
    rw [List.forall_mem_cons] at h
    have hrest := ih h.2
    rw [strtok] at hrest ⊢
    rw [List.flatMap_cons, List.append_assoc, List.singleton_append,
      List.splitOn_append_cons_self_of_not_mem h.1.2,
      List.filter_cons_of_pos (by simpa using h.1.1), hrest]

/-- A name of some length. -/
def nameOf (n : ℕ) : Bytes := List.replicate n 97

lemma nameOf_safe {n : ℕ} (hpos : 3 ≤ n) (hle : n ≤ 255) :
    shellSafeTarMember (nameOf n) = true := by
  have hlen : (nameOf n).length = n := List.length_replicate
  refine (shellSafeName_implies ((shellSafeName_iff _).2 ⟨by omega, by omega, ?_, ?_, ?_⟩)).2
  · intro c hc
    rw [List.eq_of_mem_replicate hc]
    decide
  · intro hdot
    rw [hdot] at hlen
    simp [ascii] at hlen
    omega
  · intro hdots
    rw [hdots] at hlen
    simp [ascii] at hlen
    omega

/-- 255 names of 255 characters, and one of 254. -/
def fullNames : List Bytes := List.replicate 255 (nameOf 255) ++ [nameOf 254]

/-- A list of safe names that is one byte shorter than 64 KB is refused, since the buffer cannot
tell it from a list that was cut. -/
theorem namePass_fullNames : ∃ list : Bytes, 0 ∉ list ∧ list.length < 64 * 1024 ∧
    1 ≤ (strtok lf list).length ∧ (strtok lf list).length ≤ tarMaxMembers ∧
    (∀ line ∈ strtok lf list, shellSafeTarMember line = true) ∧ namePass list = false := by
  have hname (line : Bytes) (h : line ∈ fullNames) : ∃ n, 3 ≤ n ∧ n ≤ 255 ∧ line = nameOf n := by
    rcases List.mem_append.1 h with hmem | hmem
    · exact ⟨255, by omega, le_rfl, List.eq_of_mem_replicate hmem⟩
    · exact ⟨254, by omega, by omega, List.mem_singleton.1 hmem⟩
  have hlines : strtok lf (fullNames.flatMap (· ++ [lf])) = fullNames := by
    refine strtok_lines fun line hline => ?_
    obtain ⟨n, hn, -, rfl⟩ := hname line hline
    refine ⟨List.length_pos_iff.1 (by simp [nameOf]; omega), ?_⟩
    intro hmem
    exact absurd (List.eq_of_mem_replicate hmem) (by decide)
  have hlen : (fullNames.flatMap (· ++ [lf])).length = 65535 := by
    simp [fullNames, nameOf, List.length_flatMap, -List.reduceReplicate]
  have hstring : 0 ∉ fullNames.flatMap (· ++ [lf]) := by
    intro hmem
    obtain ⟨line, hline, hzero⟩ := List.mem_flatMap.1 hmem
    obtain ⟨n, -, -, rfl⟩ := hname line hline
    rcases List.mem_append.1 hzero with h | h
    · exact absurd (List.eq_of_mem_replicate h) (by decide)
    · exact absurd (List.mem_singleton.1 h) (by decide)
  refine ⟨fullNames.flatMap (· ++ [lf]), hstring, by rw [hlen]; decide, ?_⟩
  have hcount : fullNames.length = 256 := by simp [fullNames, -List.reduceReplicate]
  rw [hlines, hcount]
  refine ⟨by decide, by decide, ?_, ?_⟩
  · intro line hline
    obtain ⟨n, hn, hle, rfl⟩ := hname line hline
    exact nameOf_safe hn hle
  · rw [namePass, shellRunOut_eq hstring (by rw [hlen]; decide), if_pos (by rw [hlen]; decide)]

end AntennaMgmt.Shell
