import AntennaMgmt.Rs422.Ring
import AntennaMgmt.Rs422.Frame

/-!
# The packet finder

`pkfinder.c` looks for packets in the bytes that have come in so far.  It finds a packet by its
head, reads its length, and hands a packet that is complete to a function of the caller, which
checks it.  What is done with is then removed from the ring.
-/

namespace AntennaMgmt.Rs422

open AntennaMgmt.Lib

/-- `PKFINDER`. -/
structure PkFinder where
  headBuf : Bytes
  headLen : ℕ
  headMasks : Bytes
  isPkFixLen : Bool
  pkFixLen : ℕ
  pkLenPos : ℕ
  pkLenLen : ℕ
  pkLenFirstMsk : UInt8
  /-- Whether `pkLenEnd` is `ENDIAN_LITTLE`. -/
  pkLenLittle : Bool
  pkLenAdd : ℕ

/-- What `pkfinderFind` returns, together with `fndPos` and `fndLen`. -/
inductive FindResult
  | failed
  | noHead
  | short (fndPos fndLen : ℕ)
  | whole (fndPos fndLen : ℕ)
deriving DecidableEq, Repr

/-- Whether the head of a packet stands at position `i`. -/
def PkFinder.headAt (p : PkFinder) (buf : Bytes) (i : ℕ) : Bool :=
  (List.range p.headLen).all fun j =>
    buf.getD (i + j) 0 &&& p.headMasks.getD j 0 = p.headBuf.getD j 0

/-- The length field of the packet at `fndPos`. -/
def PkFinder.lenField (p : PkFinder) (buf : Bytes) (fndPos : ℕ) : ℕ :=
  let pkLenArr := (slice buf (fndPos + p.pkLenPos) p.pkLenLen).modifyHead (· &&& p.pkLenFirstMsk)
  if p.pkLenLittle then leNat pkLenArr else beNat pkLenArr

/-- The second step of `pkfinderFind`: whether the packet at `fndPos` is complete.  `fndLen` is
what the caller's variable held before. -/
def PkFinder.measure (p : PkFinder) (buf : Bytes) (fndPos fndLen : ℕ) : FindResult :=
  if p.isPkFixLen then
    if buf.length < fndPos + p.pkFixLen then .short fndPos fndLen else .whole fndPos p.pkFixLen
  else if 4 < p.pkLenLen then .failed
  else if buf.length < fndPos + p.pkLenPos + p.pkLenLen then .short fndPos fndLen
  else
    let pkLen := p.lenField buf fndPos
    if buf.length < fndPos + pkLen + p.pkLenAdd then .short fndPos (pkLen + p.pkLenAdd)
    else .whole fndPos (pkLen + p.pkLenAdd)

/-- `pkfinderFind`: the first head, and whether its packet is complete. -/
def pkfinderFind (p : PkFinder) (buf : Bytes) (fndLen : ℕ) : FindResult :=
  match (List.range (buf.length - p.headLen + 1)).find? (p.headAt buf) with
  | none => .noHead
  | some fndPos => p.measure buf fndPos fndLen

/-- `STATUS`. -/
inductive Status
  | ok
  | error
deriving DecidableEq, Repr

/-- How the loop of `pkfinderParse` ends: how much is to be removed from the ring (nothing is when
the function returns from within the loop), `pk_fres`, and the state of the caller. -/
structure ParseEnd (σ : Type*) where
  fndIndex : Option ℕ
  pkFres : Status
  state : σ

variable {σ : Type*}

/-- The loop of `pkfinderParse` over the bytes `parseBuf`, in at most the given number of
rounds. -/
def pkfinderLoop (p : PkFinder) (chkExec : σ → Bytes → σ × Bool) (parseBufLen : ℕ)
    (parseBuf : Bytes) : ℕ → (fndIndex pkLen : ℕ) → Status → σ → Option (ParseEnd σ)
  | 0, _, _, _, _ => none
  | rounds + 1, fndIndex, pkLen, pkFres, s =>
    if fndIndex + p.headLen ≤ parseBuf.length then
      match pkfinderFind p (parseBuf.drop fndIndex) pkLen with
      | .noHead => some ⟨some (parseBuf.length - p.headLen), pkFres, s⟩
      | .short pkPos pkLen =>
        -- a packet that would never fit is passed over, any other one is waited for
        if parseBufLen < pkLen then some ⟨some (fndIndex + pkPos + p.headLen), pkFres, s⟩
        else some ⟨some (fndIndex + pkPos), pkFres, s⟩
      | .whole pkPos pkLen =>
        let (s, f) := chkExec s (slice parseBuf (fndIndex + pkPos) pkLen)
        -- a packet that fails the check may hide the head of a good one
        if f then
          pkfinderLoop p chkExec parseBufLen parseBuf rounds (fndIndex + pkPos + pkLen) pkLen .ok s
        else
          pkfinderLoop p chkExec parseBufLen parseBuf rounds (fndIndex + pkPos + p.headLen) pkLen
            pkFres s
      | .failed => some ⟨none, .error, s⟩
    else some ⟨some fndIndex, pkFres, s⟩

/-- `pkfinderParse`.  Every round that is not the last moves on by a head or a packet, so there
are no more rounds than bytes. -/
def pkfinderParse (p : PkFinder) (chkExec : σ → Bytes → σ × Bool) (parseBufLen : ℕ) (r : RBuf)
    (s : σ) : Option (Status × RBuf × σ) :=
  let parseBuf := (rBufGet r parseBufLen).1
  (pkfinderLoop p chkExec parseBufLen parseBuf (parseBuf.length + 1) 0 0 .error s).map fun e =>
    (e.pkFres, match e.fndIndex with
      | none => r
      | some n => (rBufRemove r n).1, e.state)

variable {p : PkFinder} {chkExec : σ → Bytes → σ × Bool} {parseBufLen : ℕ}

/-- A packet that is found complete is not empty, when its length is read from it. -/
lemma pkfinderFind_whole_pos (hfix : p.isPkFixLen = false) (hadd : 0 < p.pkLenAdd) {buf : Bytes}
    {fndLen pkPos pkLen : ℕ} (h : pkfinderFind p buf fndLen = .whole pkPos pkLen) : 0 < pkLen := by
  unfold pkfinderFind at h
  split at h
  · cases h
  · simp only [PkFinder.measure, hfix, Bool.false_eq_true, if_false] at h
    split_ifs at h
    cases h
    omega

/-- The loop has rounds enough when neither heads nor packets are empty. -/
lemma pkfinderLoop_isSome (hhead : 0 < p.headLen) (hfix : p.isPkFixLen = false)
    (hadd : 0 < p.pkLenAdd) (parseBuf : Bytes) {rounds fndIndex : ℕ} (pkLen : ℕ)
    (pkFres : Status) (s : σ) (hpos : 0 < rounds) (h : parseBuf.length < fndIndex + rounds) :
    (pkfinderLoop p chkExec parseBufLen parseBuf rounds fndIndex pkLen pkFres s).isSome := by
  induction rounds generalizing fndIndex pkLen pkFres s with
  | zero => exact absurd hpos (lt_irrefl 0)
  | succ rounds ih =>
    unfold pkfinderLoop
    split
    · rename_i hmore
      split
      · rfl
      · split <;> rfl
      · rename_i hfind
        have hlen := pkfinderFind_whole_pos hfix hadd hfind
        dsimp only
        split
        · exact ih _ _ _ (by omega) (by omega)
        · exact ih _ _ _ (by omega) (by omega)
      · rfl
    · rfl

/-- `pkfinderParse` comes back. -/
theorem pkfinderParse_isSome (hhead : 0 < p.headLen) (hfix : p.isPkFixLen = false)
    (hadd : 0 < p.pkLenAdd) (r : RBuf) (s : σ) :
    (pkfinderParse p chkExec parseBufLen r s).isSome := by
  rw [pkfinderParse, Option.isSome_map]
  exact pkfinderLoop_isSome hhead hfix hadd _ _ _ _ (by omega) (by omega)

/-- A head at the start is the first one. -/
lemma pkfinderFind_of_headAt_zero {buf : Bytes} (h : p.headAt buf 0) (fndLen : ℕ) :
    pkfinderFind p buf fndLen = p.measure buf 0 fndLen := by
  rw [pkfinderFind, List.range_succ_eq_map, List.find?_cons_of_pos h]

end AntennaMgmt.Rs422
