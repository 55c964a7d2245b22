import AntennaMgmt.Cell.Table
import AntennaMgmt.Fpga.Protocol

/-!
# Applying cell and frequency configurations

`cell_config_apply_cell` and `cell_config_apply_freq` edit the cell table, send the frequency
setting to the antenna and re-evaluate the TX switch.  Establishing a frequency gives the
mutex up while it waits for the antenna to cycle through its working modes; the call is
therefore made of two regions, `applyFreqStart` and `applyFreqFinish`, and the wait between.
-/

namespace AntennaMgmt.Cell

open AntennaMgmt.Lib AntennaMgmt.Fpga CellConfigManager

/-! ### Requests and answers -/

/-- `cell_cfg_flag_t`, and any other value of the byte. -/
inductive CellCfgFlag
  | establish
  | reconfig
  | delete
  | invalid
deriving DecidableEq, Repr

/-- `freq_cfg_flag_t`, and any other value of the byte. -/
inductive FreqCfgFlag
  | establish
  | delete
  | invalid
deriving DecidableEq, Repr

/-- The fields of `cell_config_ie_t` that are applied. -/
structure CellConfigIe where
  cellCfgFlag : CellCfgFlag
  localCellId : ℕ
  cellPower : ℕ
  cellType : ℕ
deriving DecidableEq, Repr

/-- The fields of `freq_config_ie_t` that are applied. -/
structure FreqConfigIe where
  freqCfgFlag : FreqCfgFlag
  localCellId : ℕ
  beamId : ℕ
  dlCenterFreq : ℕ
  ulCenterFreq : ℕ
  beamBandwidth : ℕ
  ulDlConfig : ℕ
  specialSubframe : ℕ
deriving DecidableEq, Repr

/-- The return codes of the calls. -/
inductive Ret
  | success
  | errorGeneral
  | errorTimeout
deriving DecidableEq, Repr

/-- `config_result_t`. -/
inductive ConfigResult
  | success
  | failure
deriving DecidableEq, Repr

/-! ### The antenna -/

/-- The payload of a frequency and bandwidth command. -/
structure FreqBand where
  dlEncoded : ℕ
  bandwidth : ℕ
  ulEncoded : ℕ
deriving DecidableEq, Repr

/-- The payload that `fpga_send_freq_band` builds. -/
def freqBand (dlFreq ulFreq bandwidth : ℕ) : FreqBand :=
  ⟨fpgaEncodeFrequency dlFreq, bandwidth, fpgaEncodeFrequency ulFreq⟩

/-- What the antenna answers during one call: the working mode read first, whether it accepts
the frequency setting, the modes read during the wait, and whether it accepts a TX command.
A reading is `none` when `fpga_handler_get_status` fails. -/
structure FreqEnv where
  status : Option ℕ
  sendOk : Bool
  polls : ℕ → Option ℕ
  txOk : Bool

/-- The cell table with what it drives: the link gate `g_bbu_link_ok`, the last TX command and
the last frequency setting that the antenna accepted. -/
structure Station where
  mgr : CellConfigManager
  bbuLinkOk : Bool
  lastTx : Option Bool
  setting : Option FreqBand

/-- `PHASED_ARRAY_MODE_BUSINESS`. -/
def modeBusiness : ℕ := 0

/-- `PHASED_ARRAY_MODE_SPECTRUM`. -/
def modeSpectrum : ℕ := 1

/-- The check of the working mode before a frequency is established. -/
def modeCheckPassed : Option ℕ → Bool
  | some mode => mode == modeBusiness || mode == modeSpectrum
  | none => false

/-- The first loop of `wait_for_antenna_mode_cycle`: with so many 100 ms slices left and the
given reading next, the slices and readings left when the mode has changed. -/
def waitModeChange (initialMode : ℕ) (polls : ℕ → Option ℕ) : ℕ → ℕ → Option (ℕ × ℕ)
  | 0, _ => none
  | slices + 1, k =>
    -- the slice in which the mode changes is left to the second loop
    if (polls k).any (· != initialMode) then some (slices + 1, k + 1)
    else waitModeChange initialMode polls slices (k + 1)

/-- The second loop: the mode comes back within the slices left. -/
def waitModeBack (initialMode : ℕ) (polls : ℕ → Option ℕ) : ℕ → ℕ → Bool
  | 0, _ => false
  | slices + 1, k =>
    if polls k = some initialMode then true else waitModeBack initialMode polls slices (k + 1)

/-- `wait_for_antenna_mode_cycle`: a mode that does not change counts as success. -/
def waitForAntennaModeCycle (polls : ℕ → Option ℕ) : Ret :=
  match polls 0 with
  | none => .errorGeneral
  | some initialMode =>
    if initialMode ≠ modeBusiness ∧ initialMode ≠ modeSpectrum then .success
    else match waitModeChange initialMode polls 50 1 with
      | none => .success
      | some (slices, k) =>
        if waitModeBack initialMode polls slices k then .success else .errorTimeout

namespace Station

/-- The table replaced. -/
def withMgr (s : Station) (m : CellConfigManager) : Station := { s with mgr := m }

/-- `update_tx_control`: with the link up, the antenna is told whether there is a frequency. -/
def updateTxControl (txOk : Bool) (s : Station) : Station :=
  if s.bbuLinkOk && txOk then { s with lastTx := some s.mgr.hasAnyFreq } else s

/-- `fpga_send_freq_band`, accepted or not. -/
def sendFreqBand (dlFreq ulFreq bandwidth : ℕ) (ok : Bool) (s : Station) : Station × Ret :=
  if ok then ({ s with setting := some (freqBand dlFreq ulFreq bandwidth) }, .success)
  else (s, .errorGeneral)

@[simp] lemma withMgr_mgr (s : Station) (m : CellConfigManager) : (s.withMgr m).mgr = m := rfl

@[simp] lemma withMgr_bbuLinkOk (s : Station) (m : CellConfigManager) :
    (s.withMgr m).bbuLinkOk = s.bbuLinkOk := rfl

@[simp] lemma withMgr_lastTx (s : Station) (m : CellConfigManager) :
    (s.withMgr m).lastTx = s.lastTx := rfl

@[simp] lemma withMgr_setting (s : Station) (m : CellConfigManager) :
    (s.withMgr m).setting = s.setting := rfl

@[simp] lemma updateTxControl_mgr (txOk : Bool) (s : Station) :
    (s.updateTxControl txOk).mgr = s.mgr := by
  rw [updateTxControl]
  split <;> rfl

@[simp] lemma updateTxControl_bbuLinkOk (txOk : Bool) (s : Station) :
    (s.updateTxControl txOk).bbuLinkOk = s.bbuLinkOk := by
  rw [updateTxControl]
  split <;> rfl

@[simp] lemma updateTxControl_setting (txOk : Bool) (s : Station) :
    (s.updateTxControl txOk).setting = s.setting := by
  rw [updateTxControl]
  split <;> rfl

end Station

/-! ### `cell_config_apply_cell` -/

namespace CellConfigManager

variable (m : CellConfigManager) (i : Fin maxCells)

/-- A cell written into a free slot; its frequency records are left as they are. -/
def establishCell (cellCfg : CellConfigIe) : CellConfigManager :=
  m.setRow i ⟨true, cellCfg.localCellId, cellCfg.cellPower, cellCfg.cellType, 0⟩ (m.freqs i)

/-- The power of a cell changed. -/
def reconfigCell (cellCfg : CellConfigIe) : CellConfigManager :=
  m.setRow i { m.cells i with cellPower := cellCfg.cellPower } (m.freqs i)

/-- A cell deleted with all its frequencies. -/
def deleteCell : CellConfigManager :=
  m.setRow i { m.cells i with freqCount := 0, active := false }
    fun j => { m.freqs i j with active := false, sentToAntenna := false }

end CellConfigManager

/-- `cell_config_apply_cell`. -/
def applyCell (cellCfg : CellConfigIe) (txOk : Bool) (s : Station) : Station × ConfigResult :=
  let m := s.mgr
  match cellCfg.cellCfgFlag, m.findCell cellCfg.localCellId with
  | .establish, some i =>
    -- a cell that is there already is not changed
    if (m.cells i).cellPower = cellCfg.cellPower ∧ (m.cells i).cellType = cellCfg.cellType then
      (s, .success)
    else (s, .failure)
  | .establish, none =>
    match m.freeCell with
    | some i => (s.withMgr (m.establishCell i cellCfg), .success)
    | none => (s, .failure)
  | .reconfig, some i => (s.withMgr (m.reconfigCell i cellCfg), .success)
  | .reconfig, none => (s, .failure)
  | .delete, some i => ((s.withMgr (m.deleteCell i)).updateTxControl txOk, .success)
  | .delete, none => (s, .success)
  | .invalid, _ => (s, .failure)

/-! ### `cell_config_apply_freq` -/

/-- `store_freq_info`. -/
def storeFreqInfo (freqCfg : FreqConfigIe) (sentToAntenna : Bool) : FreqInfo where
  active := true
  sentToAntenna := sentToAntenna
  localCellId := freqCfg.localCellId
  beamId := freqCfg.beamId
  dlCenterFreq := freqCfg.dlCenterFreq
  ulCenterFreq := freqCfg.ulCenterFreq
  beamBandwidth := freqCfg.beamBandwidth
  ulDlConfig := freqCfg.ulDlConfig
  specialSubframe := freqCfg.specialSubframe

/-- The record has the three values that are sent to the antenna. -/
def sameBand (x : FreqInfo) (freqCfg : FreqConfigIe) : Bool :=
  x.dlCenterFreq == freqCfg.dlCenterFreq && x.ulCenterFreq == freqCfg.ulCenterFreq &&
    x.beamBandwidth == freqCfg.beamBandwidth

namespace CellConfigManager

/-- The search for a record of the cell that has the values and that the antenna has. -/
def findSent (m : CellConfigManager) (i : Fin maxCells) (freqCfg : FreqConfigIe) :
    Option (Fin maxFreqsPerCell) :=
  findSlot fun j => (m.freqs i j).active && (m.freqs i j).sentToAntenna &&
    sameBand (m.freqs i j) freqCfg

/-- The search after the wait, for the record of the beam with the values. -/
def findStored (m : CellConfigManager) (i : Fin maxCells) (freqCfg : FreqConfigIe) :
    Option (Fin maxFreqsPerCell) :=
  findSlot fun j => (m.freqs i j).active && (m.freqs i j).beamId == freqCfg.beamId &&
    sameBand (m.freqs i j) freqCfg

/-- The slot for a beam, its own or a free one, with the cell record after `freq_count++`. -/
def slotFor (m : CellConfigManager) (i : Fin maxCells) (beamId : ℕ) :
    Option (Fin maxFreqsPerCell × CellInfo) :=
  match m.findFreq i beamId with
  | some j => some (j, m.cells i)
  | none => (m.freeFreq i).map fun j =>
    (j, { m.cells i with freqCount := ((m.cells i).freqCount + 1) % 256 })

/-- The frequency stored in its slot. -/
def storeFreq (m : CellConfigManager) (i : Fin maxCells) (slot : Fin maxFreqsPerCell × CellInfo)
    (freqCfg : FreqConfigIe) : CellConfigManager :=
  m.setRow i slot.2 (Function.update (m.freqs i) slot.1 (storeFreqInfo freqCfg false))

/-- The record marked as sent to the antenna. -/
def markSent (m : CellConfigManager) (i : Fin maxCells) (j : Fin maxFreqsPerCell) :
    CellConfigManager :=
  m.setRow i (m.cells i)
    (Function.update (m.freqs i) j { m.freqs i j with sentToAntenna := true })

/-- The frequency deleted. -/
def deleteFreq (m : CellConfigManager) (i : Fin maxCells) (j : Fin maxFreqsPerCell) :
    CellConfigManager :=
  m.setRow i { m.cells i with freqCount := ((m.cells i).freqCount + 255) % 256 }
    (Function.update (m.freqs i) j { m.freqs i j with active := false, sentToAntenna := false })

end CellConfigManager

/-- How the first region ends: the call returns, or it has given up the mutex and waits. -/
inductive Started
  | returned (ret : Ret) (result : ConfigResult)
  | waiting
deriving DecidableEq, Repr

/-- The first region with the establish flag, in a cell that was found. -/
def establishFreq (freqCfg : FreqConfigIe) (e : FreqEnv) (i : Fin maxCells) (s : Station) :
    Station × Started :=
  let m := s.mgr
  if modeCheckPassed e.status then
    match m.slotFor i freqCfg.beamId with
    | none => (s, .returned .errorGeneral .failure)
    | some slot =>
      -- the mark of the slot is taken off before it is known how the request ends
      let s' := s.withMgr (m.storeFreq i slot freqCfg)
      if (m.findSent i freqCfg).isSome then
        ((s'.withMgr (s'.mgr.markSent i slot.1)).updateTxControl e.txOk,
          .returned .success .success)
      else
        match s'.sendFreqBand freqCfg.dlCenterFreq freqCfg.ulCenterFreq freqCfg.beamBandwidth
            e.sendOk with
        | (s'', .success) => (s'', .waiting)
        | (s'', _) => (s'', .returned .success .failure)
  else
    -- the mode is wrong: the values are kept, not sent, and the answer is a failure
    match m.slotFor i freqCfg.beamId with
    | none => (s, .returned .success .failure)
    | some slot => (s.withMgr (m.storeFreq i slot freqCfg), .returned .success .failure)

/-- Everything the first region with the establish flag can do. -/
lemma establishFreq_cases (freqCfg : FreqConfigIe) (e : FreqEnv) (i : Fin maxCells)
    (s : Station) :
    (s.mgr.slotFor i freqCfg.beamId = none ∧
      ∃ ret, establishFreq freqCfg e i s = (s, .returned ret .failure)) ∨
    ∃ slot, s.mgr.slotFor i freqCfg.beamId = some slot ∧
      let s' := s.withMgr (s.mgr.storeFreq i slot freqCfg)
      (modeCheckPassed e.status = false ∧
        establishFreq freqCfg e i s = (s', .returned .success .failure)) ∨
      (modeCheckPassed e.status ∧ (s.mgr.findSent i freqCfg).isSome ∧
        establishFreq freqCfg e i s =
          ((s'.withMgr (s'.mgr.markSent i slot.1)).updateTxControl e.txOk,
            .returned .success .success)) ∨
      (modeCheckPassed e.status ∧ (s.mgr.findSent i freqCfg).isSome = false ∧
        e.sendOk = false ∧
        establishFreq freqCfg e i s = (s', .returned .success .failure)) ∨
      (modeCheckPassed e.status ∧ (s.mgr.findSent i freqCfg).isSome = false ∧ e.sendOk ∧
        establishFreq freqCfg e i s =
          ({ s' with setting := some (freqBand freqCfg.dlCenterFreq freqCfg.ulCenterFreq
              freqCfg.beamBandwidth) }, .waiting)) := by
  cases hslot : s.mgr.slotFor i freqCfg.beamId with
  | none =>
    refine .inl ⟨rfl, ?_⟩
    cases hmode : modeCheckPassed e.status <;> simp [establishFreq, hslot, hmode]
  | some slot =>
    refine .inr ⟨slot, rfl, ?_⟩
    cases hmode : modeCheckPassed e.status with
    | false => simp [establishFreq, hslot, hmode]
    | true =>
      cases hsent : (s.mgr.findSent i freqCfg).isSome <;> cases hok : e.sendOk <;>
        simp [establishFreq, hslot, hmode, hsent, hok, Station.sendFreqBand]

/-- `cell_config_apply_freq` up to its return, or up to where it gives the mutex up. -/
def applyFreqStart (freqCfg : FreqConfigIe) (e : FreqEnv) (s : Station) : Station × Started :=
  match s.mgr.findCell freqCfg.localCellId with
  | none => (s, .returned .errorGeneral .failure)
  | some i =>
    match freqCfg.freqCfgFlag with
    | .establish => establishFreq freqCfg e i s
    | .delete =>
      match s.mgr.findFreq i freqCfg.beamId with
      | some j =>
        ((s.withMgr (s.mgr.deleteFreq i j)).updateTxControl e.txOk, .returned .success .success)
      | none => (s, .returned .success .success)
    | .invalid => (s, .returned .success .failure)

/-- `cell_config_apply_freq` after the wait: the record is looked up again and marked when the
wait was a success. -/
def applyFreqFinish (freqCfg : FreqConfigIe) (e : FreqEnv) (s : Station) :
    Station × ConfigResult :=
  let found := (s.mgr.findCell freqCfg.localCellId).bind fun i =>
    (s.mgr.findStored i freqCfg).map fun j => (i, j)
  match found with
  -- the table was changed during the wait
  | none => (s, .failure)
  | some (i, j) =>
    if waitForAntennaModeCycle e.polls = .success then
      ((s.withMgr (s.mgr.markSent i j)).updateTxControl e.txOk, .success)
    else (s, .failure)

/-- `cell_config_apply_freq` when no other call comes in during the wait. -/
def applyFreq (freqCfg : FreqConfigIe) (e : FreqEnv) (s : Station) :
    Station × Ret × ConfigResult :=
  match applyFreqStart freqCfg e s with
  | (s', .returned ret result) => (s', ret, result)
  | (s', .waiting) =>
    let (s'', result) := applyFreqFinish freqCfg e s'
    (s'', .success, result)

end AntennaMgmt.Cell
