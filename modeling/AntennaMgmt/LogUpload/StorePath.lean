import AntennaMgmt.LogUpload.Gate
import AntennaMgmt.Shell.Path

/-!
# The path of a log upload

The request carries the path in a field of 200 bytes that need not hold a NUL.  The check reads a
string from there on, past the end of the field if need be; what is stored is cut to 199 bytes.  A
string without a segment `..` may have one when it is cut.
-/

namespace AntennaMgmt.LogUpload

open AntennaMgmt.Lib AntennaMgmt.Shell
open UploadSys (Step next)

/-- The field `store_path` of a request. -/
def LogUploadRequest.storePathField (req : LogUploadRequest) : Bytes := slice req.slot 4 200

/-- The field is full, and what is stored of it ends in a segment `..`. -/
def LogUploadRequest.EndsInDots (req : LogUploadRequest) : Prop :=
  0 ∉ req.storePathField ∧ slice req.storePathField 196 3 = ascii "/.."

instance (req : LogUploadRequest) : Decidable req.EndsInDots := inferInstanceAs (Decidable (_ ∧ _))

/-! ### What has been checked -/

variable {ι : Type*} [DecidableEq ι] {config : UploadConfig} {s s' : UploadSys ι}
  {req : LogUploadRequest}

/-- A request that passes the checks. -/
def LogUploadRequest.Checked (req : LogUploadRequest) : Prop :=
  204 ≤ req.payloadLen ∧ Version.shellSafeRelpath req.storePath = true

instance (req : LogUploadRequest) : Decidable req.Checked := inferInstanceAs (Decidable (_ ∧ _))

/-- Every call that fills in the task has checked its request. -/
def AllChecked (s : UploadSys ι) : Prop := ∀ t req, s.pc t = .preparing req → req.Checked

/-- A call that moves to another place than the task leaves the others where they are. -/
lemma AllChecked.goto (h : AllChecked s) {t : ι} {p : UploadPc}
    (hp : ∀ req, p = .preparing req → req.Checked) {task : UploadState} {running : Bool} :
    AllChecked ({ s with task := task, running := running }.goto t p) := by
  intro u req hu
  by_cases hut : u = t
  · subst hut
    refine hp req ?_
    rw [← hu]
    exact (Function.update_self u p s.pc).symm
  · refine h u req ?_
    rw [← hu]
    exact (Function.update_of_ne hut p s.pc).symm

lemma AllChecked.step (h : AllChecked s) {a : UploadAct ι} (hstep : Step config s a s') :
    AllChecked s' := by
  have hmoves {t : ι} {p : UploadPc} (hp : ∀ req, p ≠ .preparing req) (task : UploadState)
      (running : Bool) : AllChecked ({ s with task := task, running := running }.goto t p) :=
    h.goto fun req heq => absurd heq (hp req)
  cases a with
  | arrive t req =>
    obtain ⟨-, hs⟩ := Option.ite_none_right_eq_some.1 hstep
    obtain rfl := Option.some.inj hs
    rw [UploadSys.arrive]
    split_ifs
    · exact h
    · exact hmoves (by simp) _ _
  | check t =>
    cases hpc : s.pc t <;> simp only [Step, next, hpc, reduceCtorEq] at hstep
    rename_i req
    obtain rfl := Option.some.inj hstep
    rw [UploadSys.check]
    split_ifs with hshort hsafe
    · exact hmoves (by simp) _ _
    · refine h.goto ?_
      rintro _ ⟨⟩
      exact ⟨not_lt.1 hshort, hsafe⟩
    · exact hmoves (by simp) _ _
  | prepare t =>
    cases hpc : s.pc t <;> simp only [Step, next, hpc, reduceCtorEq] at hstep
    obtain rfl := Option.some.inj hstep
    exact hmoves (by simp) _ _
  | ack t ok =>
    cases hpc : s.pc t <;> simp only [Step, next, hpc, reduceCtorEq] at hstep
    obtain rfl := Option.some.inj hstep
    exact hmoves (by cases ok <;> simp) _ _
  | create t ok =>
    cases hpc : s.pc t <;> simp only [Step, next, hpc, reduceCtorEq] at hstep
    split_ifs at hstep
    · obtain rfl := Option.some.inj hstep
      exact hmoves (by simp) _ _
    · obtain rfl := Option.some.inj hstep
      exact hmoves (by simp) _ _
  | giveUp t =>
    cases hpc : s.pc t <;> simp only [Step, next, hpc, reduceCtorEq] at hstep
    obtain rfl := Option.some.inj hstep
    exact hmoves (by simp) _ _
  | finish =>
    obtain ⟨-, hs⟩ := Option.ite_none_right_eq_some.1 hstep
    obtain rfl := Option.some.inj hs
    exact h

lemma allChecked_of_run {l : List (UploadAct ι)} (h : Run (Step config) UploadSys.init l s) :
    AllChecked s :=
  h.invariant (fun _ _ _ hs hstep => hs.step hstep) fun t req hpc => by cases hpc

/-! ### What is stored -/

/-- The string, as far as it stands in the field. -/
lemma take_storePath (req : LogUploadRequest) {n : ℕ} (hn : n ≤ 200) :
    req.storePath.take n = (req.storePathField.takeWhile (· ≠ 0)).take n := by
  rw [LogUploadRequest.storePath, LogUploadRequest.storePathField, slice, List.take_takeWhile,
    List.take_takeWhile, List.take_take, Nat.min_eq_left hn]

lemma length_storePathField_le (req : LogUploadRequest) : req.storePathField.length ≤ 200 :=
  List.length_take_le _ _

/-- A field with a NUL holds all of the string. -/
lemma length_storePath_of_nul (hnul : 0 ∈ req.storePathField) : req.storePath.length ≤ 199 := by
  by_contra hlong
  have hwhole : (req.storePathField.takeWhile (· ≠ 0)).length = 200 := by
    have hlen := congrArg List.length (take_storePath req (n := 200) le_rfl)
    have hle := (List.takeWhile_prefix (l := req.storePathField) (· ≠ 0)).length_le
    have hfield := length_storePathField_le req
    simp only [List.length_take] at hlen
    omega
  have hsame := (List.takeWhile_prefix (l := req.storePathField) (· ≠ 0)).eq_of_length_le
    (by rw [hwhole]; exact length_storePathField_le req)
  rw [← hsame] at hnul
  exact not_mem_takeWhile_ne 0 _ hnul

/-- A field without a NUL is the start of the string. -/
lemma take_storePath_of_no_nul (hnul : 0 ∉ req.storePathField) :
    req.storePath.take 200 = req.storePathField := by
  rw [take_storePath req le_rfl, takeWhile_ne_eq_self hnul,
    List.take_of_length_le (length_storePathField_le req)]

/-- The path that is stored is safe unless its last segment is what the cut leaves of a longer
one. -/
lemma stored_safe_iff (hchecked : req.Checked) (hslot : req.payloadLen ≤ req.slot.length) :
    shellSafeRelpath (req.storePath.take 199) = true ↔ ¬ req.EndsInDots := by
  obtain ⟨hlen, hsafe⟩ := hchecked
  rw [version_shellSafeRelpath_eq] at hsafe
  by_cases hnul : 0 ∈ req.storePathField
  · rw [List.take_of_length_le (length_storePath_of_nul hnul)]
    exact ⟨fun _ hends => hends.1 hnul, fun _ => hsafe⟩
  · have hfield : req.storePathField.length = 200 := length_slice (by omega)
    have hstart := take_storePath_of_no_nul hnul
    have hlong : 200 ≤ req.storePath.length := by
      have hle := congrArg List.length hstart
      rw [List.length_take, hfield] at hle
      omega
    obtain ⟨-, hle, hcontrol, hdots⟩ := (shellSafeRelpath_iff _).1 hsafe
    have hcut := mem_splitOn_take_iff hdots (by decide) (show (ascii "..").length < 199 by decide)
      (by omega)
    have hlast : slice req.storePathField 196 3 = (req.storePath.drop 196).take 3 := by
      rw [← hstart, ← slice_append (req.storePath.drop 200) (by rw [List.length_take]; omega),
        List.take_append_drop]
      rfl
    have hends : req.EndsInDots ↔ ascii ".." ∈ (req.storePath.take 199).splitOn slash := by
      rw [hcut, LogUploadRequest.EndsInDots, hlast]
      exact ⟨And.right, fun h => ⟨hnul, h⟩⟩
    rw [shellSafeRelpath_iff, hends, List.length_take]
    constructor
    · rintro ⟨-, -, -, hsegs⟩
      exact hsegs
    · intro hsegs
      exact ⟨by omega, by omega, fun c hc => hcontrol c (List.mem_of_mem_take hc), hsegs⟩

/-- **What is validated and what is used.**  Over every interleaving, when a request that has
passed the checks is stored, the path that is stored depends on the 200 bytes of the field alone,
whatever follows them in the slot; and it is safe if and only if the field does not, full and
without a NUL, have `/..` as the last bytes of it that are stored. -/
theorem storePath_safe_iff {l : List (UploadAct ι)} {t : ι}
    (hrun : Run (Step config) UploadSys.init l s) (hpc : s.pc t = .preparing req)
    (hstep : Step config s (.prepare t) s') (hslot : req.payloadLen ≤ req.slot.length) :
    s'.task.task.storePath = (req.storePathField.takeWhile (· ≠ 0)).take 199 ∧
      (shellSafeRelpath s'.task.task.storePath = true ↔ ¬ req.EndsInDots) := by
  have hstored : s'.task.task.storePath = req.storePath.take 199 := by
    simp only [Step, next, hpc] at hstep
    obtain rfl := Option.some.inj hstep
    rfl
  rw [hstored]
  exact ⟨take_storePath req (by decide), stored_safe_iff (allChecked_of_run hrun t req hpc) hslot⟩

/-- What a step of a call that stores its request does. -/
lemma prepare_step (config : UploadConfig) {t : ι} (hpc : s.pc t = .preparing req) :
    ∃ s', Step config s (.prepare t) s' ∧ s'.task.task.storePath = req.storePath.take 199 :=
  ⟨_, by simp only [Step, next, hpc]; rfl, rfl⟩

/-- A first request that passes the checks is about to be stored. -/
lemma exists_preparing (config : UploadConfig) (h : req.Checked) : ∃ s : UploadSys Unit,
    Run (Step config) UploadSys.init [.arrive () req, .check ()] s ∧ s.pc () = .preparing req := by
  obtain ⟨hlen, hsafe⟩ := h
  refine ⟨_, .cons (show _ = some _ from rfl) (.cons (show _ = some _ from rfl) (.nil _)), ?_⟩
  rw [UploadSys.check, if_neg (not_lt.2 hlen), if_neg (not_not.2 hsafe)]
  rfl

/-- IE 1201 with a field and what follows it in the slot. -/
def uploadRequest (field rest : Bytes) : LogUploadRequest :=
  ⟨⟨131, 219, 0, 0, 0, 1⟩, [0xB1, 0x04, 204, 0] ++ field ++ rest, 204⟩

/-- The path `logs`, with its NUL. -/
def logsRequest : LogUploadRequest := uploadRequest (ascii "logs" ++ List.replicate 196 0) []

theorem storePath_safe_iff_logs : ∃ s s' : UploadSys Unit,
    Run (Step ⟨⟨[], 21⟩, [], []⟩) UploadSys.init [.arrive () logsRequest, .check ()] s ∧
    Step ⟨⟨[], 21⟩, [], []⟩ s (.prepare ()) s' ∧ s'.task.task.storePath = ascii "logs" ∧
    shellSafeRelpath s'.task.task.storePath = true := by
  have hchecked : logsRequest.Checked := by decide +kernel
  obtain ⟨s, hrun, hpc⟩ := exists_preparing ⟨⟨[], 21⟩, [], []⟩ hchecked
  obtain ⟨s', hstep, -⟩ := prepare_step ⟨⟨[], 21⟩, [], []⟩ hpc
  obtain ⟨hstored, hsafe⟩ := storePath_safe_iff hrun hpc hstep (by decide +kernel)
  refine ⟨s, s', hrun, hstep, ?_, hsafe.2 (by decide +kernel)⟩
  rw [hstored]
  decide +kernel

/-- A field of 196 characters and `/..a`, and a NUL behind it. -/
def dottedRequest : LogUploadRequest :=
  uploadRequest (List.replicate 196 97 ++ ascii "/..a") [0]

/-- The path that is checked ends in `/..a` and the path that is stored in `/..`. -/
theorem storePath_not_safe : ∃ s s' : UploadSys Unit,
    Run (Step ⟨⟨[], 21⟩, [], []⟩) UploadSys.init [.arrive () dottedRequest, .check ()] s ∧
    s.pc () = .preparing dottedRequest ∧ Step ⟨⟨[], 21⟩, [], []⟩ s (.prepare ()) s' ∧
    dottedRequest.payloadLen ≤ dottedRequest.slot.length ∧
    ascii ".." ∈ s'.task.task.storePath.splitOn slash ∧
    shellSafeRelpath s'.task.task.storePath = false := by
  have hchecked : dottedRequest.Checked := by decide +kernel
  obtain ⟨s, hrun, hpc⟩ := exists_preparing ⟨⟨[], 21⟩, [], []⟩ hchecked
  obtain ⟨s', hstep, hstored⟩ := prepare_step ⟨⟨[], 21⟩, [], []⟩ hpc
  have hdots : ascii ".." ∈ s'.task.task.storePath.splitOn slash := by
    rw [hstored]
    decide +kernel
  refine ⟨s, s', hrun, hpc, hstep, by decide +kernel, hdots, Bool.eq_false_iff.2 ?_⟩
  intro hsafe
  exact ((shellSafeRelpath_iff _).1 hsafe).2.2.2 hdots

end AntennaMgmt.LogUpload
