import AntennaMgmt.Cpri.Ie

/-!
# The configuration of a channel setup

`channel_setup_handle_config` goes through the IEs of the message that ends a channel setup: it
sets the clock and sends the antenna what is configured for it.  An IE that is too short for its
type is passed over.
-/

namespace AntennaMgmt.Handlers

open AntennaMgmt.Lib AntennaMgmt.Cpri

/-! ### IE types -/

/-- `IE_TYPE_SYSTEM_TIME`. -/
def ieTypeSystemTime : UInt16 := 11

/-- `IE_TYPE_OPERATION_MODE`. -/
def ieTypeOperationMode : UInt16 := 13

/-- `IE_TYPE_PHASED_ARRAY_BEAM`. -/
def ieTypePhasedArrayBeam : UInt16 := 15

/-- `IE_TYPE_CPRI_WORK_MODE`. -/
def ieTypeCpriWorkMode : UInt16 := 504

/-! ### The handler -/

/-- What the handler asks for: the clock set to a time, and the commands to the antenna. -/
inductive SetupCommand
  | setSystemTime (sec min hour day month : UInt8) (year : ℕ)
  | fpgaSendCpriConfig (mode : ℕ)
  | fpgaSendBeamNum (cmdBeamNum serviceBeamNum : UInt8)
  | fpgaSendCpriMode (workMode : ℕ)
deriving DecidableEq, Repr

/-- The body of the loop of `channel_setup_handle_config`.  The version check and the period of
the CPU statistics are logged only. -/
def setupConfigBody (ieType : UInt16) (ieData : Bytes) (commands : List SetupCommand) :
    List SetupCommand :=
  if ieType = ieTypeSystemTime then
    if 7 ≤ ieData.length then
      commands ++ [.setSystemTime (ieData.getD 0 0) (ieData.getD 1 0) (ieData.getD 2 0)
        (ieData.getD 3 0) (ieData.getD 4 0) (leNat (slice ieData 5 2))]
    else commands
  else if ieType = ieTypeOperationMode then
    if 4 ≤ ieData.length then
      commands ++ [.fpgaSendCpriConfig (leNat (slice ieData 0 4))]
    else commands
  else if ieType = ieTypePhasedArrayBeam then
    if 2 ≤ ieData.length then
      commands ++ [.fpgaSendBeamNum (ieData.getD 0 0) (ieData.getD 1 0)]
    else commands
  else if ieType = ieTypeCpriWorkMode then
    if 4 ≤ ieData.length then
      commands ++ [.fpgaSendCpriMode (leNat (slice ieData 0 4))]
    else commands
  else commands

/-- `channel_setup_handle_config`: what it asks for, in order. -/
def channelSetupHandleConfig (msg : CpriMessage) : List SetupCommand :=
  ieLoop setupConfigBody msg.payload 0 []

end AntennaMgmt.Handlers
