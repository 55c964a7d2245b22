import AntennaMgmt.Version.Download

/-!
# What a failed download leaves behind

A failed download should leave every installed directory as it was.  A software package is
unpacked where it is to be installed, so a request that names an installed version, the current
one or the rollback directory writes into it and may remove it; firmware of an installed version
removes the old directory before the new one is in place.
-/

namespace AntennaMgmt.Version

open AntennaMgmt.Lib

/-- The last member of a name among those that tar wrote. -/
def DownloadEnv.member (env : DownloadEnv) (name : Bytes) : Option Bytes :=
  env.written.reverse.lookup name

/-- The unpacked package in the staging directory. -/
def DownloadEnv.package (env : DownloadEnv) (version : Bytes) (fs : FileTree) : Dir :=
  Version.unpacked env
    ((removeTree env fs (.staging version) (.staging version)).getD fun _ => none)

/-- A file that is left in the staging directory from an earlier download. -/
def DownloadEnv.stale (env : DownloadEnv) (version : Bytes) (fs : FileTree) (name : Bytes) :
    Option Bytes :=
  match fs (.staging version), env.rm (.staging version) with
  | some d, .stopped removed => if removed name then none else d name
  | _, _ => none

/-- The payload that asks for the software package of a version. -/
def softwareRequest (version : Bytes) : Bytes :=
  List.replicate 209 0 ++ ascii "app.tar.gz" ++ List.replicate 6 0 ++ [1, 0, 0, 0] ++
    List.replicate 20 0 ++ version ++ List.replicate (40 - version.length) 0

set_option maxRecDepth 20000 in
lemma softwareRequest_accepted_v2 :
    ∃ task, versionHandleDownloadRequest false true true (softwareRequest (ascii "v2")) =
      .ok task ∧ task.version = ascii "v2" ∧ task.verType = 0 :=
  ⟨_, rfl, rfl, rfl⟩

end AntennaMgmt.Version
