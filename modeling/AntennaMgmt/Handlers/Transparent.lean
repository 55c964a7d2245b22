import AntennaMgmt.Cpri.Ie

/-!
# Transparent messages

`transparent_msg_parse` takes the target and the content out of a message that is passed on to
the antenna as it is.  Unlike the other handlers it gives up at an IE of an invalid length.
-/

namespace AntennaMgmt.Handlers

open AntennaMgmt.Lib AntennaMgmt.Cpri

/-- `IE_TRANSPARENT_TARGET`. -/
def ieTransparentTarget : UInt16 := 0x0641

/-- `IE_TRANSPARENT_CONTENT`. -/
def ieTransparentContent : UInt16 := 0x0642

/-- `TRANSPARENT_TARGET_OMC`. -/
def transparentTargetOmc : UInt8 := 0

/-- `TRANSPARENT_CONTENT_MAX_LEN`. -/
def transparentContentMaxLen : ℕ := 1024

/-- `transparent_message_t`. -/
structure TransparentMessage where
  targetId : UInt8
  content : Bytes
  contentLen : ℕ
  effectiveLen : ℕ
deriving DecidableEq, Repr

/-- The message as it is parsed, with `has_target_ie` and `has_content_ie`. -/
structure TransparentParse where
  data : TransparentMessage
  hasTargetIe : Bool
  hasContentIe : Bool
deriving DecidableEq, Repr

/-- Before the first IE. -/
def TransparentParse.start : TransparentParse :=
  ⟨⟨transparentTargetOmc, List.replicate transparentContentMaxLen 0, 0, 0⟩, false, false⟩

/-- The length that is left when the zero bytes at the end are taken off
(`calc_effective_len`). -/
def calcEffectiveLen (content : Bytes) : ℕ → ℕ
  | 0 => 0
  | len + 1 => if content.getD len 0 = 0 then calcEffectiveLen content len else len + 1

/-- The `switch` in the loop. -/
def transparentBody (ieType : UInt16) (ieData : Bytes) (p : TransparentParse) :
    TransparentParse :=
  if ieType = ieTransparentTarget then
    if 1 ≤ ieData.length then
      { p with data := { p.data with targetId := ieData.getD 0 0 }, hasTargetIe := true }
    else p
  else if ieType = ieTransparentContent then
    let copied := ieData.take transparentContentMaxLen
    -- what an earlier content IE left behind the copy stays there
    { p with
        data := { p.data with
          content := copied ++ p.data.content.drop copied.length
          contentLen := copied.length }
        hasContentIe := true }
  else p

/-- The loop over the IEs from an offset on: false when an IE has an invalid length. -/
def transparentLoop {σ : Type*} (body : UInt16 → Bytes → σ → σ) (payload : Bytes) (offset : ℕ)
    (s : σ) : Bool × σ :=
  if offset + 4 ≤ payload.length then
    let ieType := UInt16.ofNat (leNat (slice payload offset 2))
    let ieLength := leNat (slice payload (offset + 2) 2)
    if ieLength < 4 then (false, s)
    else if payload.length < offset + ieLength then (false, s)
    else
      transparentLoop body payload (offset + ieLength)
        (body ieType (slice payload (offset + 4) (ieLength - 4)) s)
  else (true, s)
termination_by payload.length - offset
decreasing_by omega

/-- `transparent_msg_parse`: whether it returns `SUCCESS`, and the message that it has filled
in. -/
def transparentMsgParse (payload : Bytes) : Bool × TransparentMessage :=
  if payload.length < 4 then (false, TransparentParse.start.data)
  else
    match transparentLoop transparentBody payload 0 .start with
    | (false, p) => (false, p.data)
    | (true, p) =>
      if ¬ p.hasContentIe then (false, p.data)
      else (true, { p.data with effectiveLen := calcEffectiveLen p.data.content p.data.contentLen })

end AntennaMgmt.Handlers
