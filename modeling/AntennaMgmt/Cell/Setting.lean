import AntennaMgmt.Cell.Calls

/-!
# What a reported success says about the antenna

The antenna has one frequency and bandwidth setting.  A request to establish a frequency is
answered with success when the antenna took the setting, or when a record of the cell that
counts as sent already has the values.  The file says when such an answer is true of the
antenna, over all runs of calls.
-/

namespace AntennaMgmt.Cell

open AntennaMgmt.Lib AntennaMgmt.Fpga CellConfigManager

/-- The last command that the antenna accepted has the values of the request. -/
def Carries (s : Station) (freqCfg : FreqConfigIe) : Prop :=
  ∃ band, s.setting = some band ∧ fpgaDecodeFrequency band.dlEncoded = freqCfg.dlCenterFreq ∧
    fpgaDecodeFrequency band.ulEncoded = freqCfg.ulCenterFreq ∧
    band.bandwidth = freqCfg.beamBandwidth

/-- A success that is reported for establishing a frequency is true of the antenna. -/
def SuccessTrue (s : Station) : Call → Prop
  | .cell _ _ => True
  | .freq freqCfg e => freqCfg.freqCfgFlag = .establish →
      (applyFreq freqCfg e s).2.2 = .success → Carries (applyFreq freqCfg e s).1 freqCfg

/-- There is a cell and a slot for the request. -/
def CellConfigManager.HasSlot (m : CellConfigManager) (freqCfg : FreqConfigIe) : Prop :=
  ∃ i slot, m.findCell freqCfg.localCellId = some i ∧ m.slotFor i freqCfg.beamId = some slot

/-- Both frequencies of the request fit into the encoding. -/
def Encodable (freqCfg : FreqConfigIe) : Prop :=
  freqCfg.dlCenterFreq < 12800000 ∧ freqCfg.ulCenterFreq < 12800000

/-- Where the request to establish a frequency has a slot and is not refused: if a record that
counts as sent has its values, they still are the setting of the antenna, and if none has, they
can be encoded. -/
def StillSet (s : Station) : Call → Prop
  | .cell _ _ => True
  | .freq freqCfg e => freqCfg.freqCfgFlag = .establish → s.mgr.HasSlot freqCfg →
      ¬ Refused s.mgr freqCfg e →
      if s.mgr.alreadySent freqCfg then Carries s freqCfg else Encodable freqCfg

/-- A request that was sent is the setting exactly when it can be encoded. -/
lemma carries_bandOf {s : Station} {freqCfg : FreqConfigIe}
    (h : s.setting = some (bandOf freqCfg)) : Carries s freqCfg ↔ Encodable freqCfg := by
  simp only [Carries, h, Option.some.injEq, exists_eq_left', bandOf, freqBand,
    fpgaDecodeFrequency_encode_eq_iff, and_true, Encodable]

lemma carries_congr {s s' : Station} {freqCfg : FreqConfigIe} (h : s'.setting = s.setting) :
    Carries s' freqCfg ↔ Carries s freqCfg := by
  rw [Carries, h, Carries]

/-- One call: its success is true exactly when the setting is still there or encodable. -/
lemma successTrue_iff {s : Station} (h : TableInv s.mgr) (c : Call) :
    SuccessTrue s c ↔ StillSet s c := by
  cases c with
  | cell => exact Iff.rfl
  | freq freqCfg e =>
    refine imp_congr_right fun hflag => ?_
    cases hcell : s.mgr.findCell freqCfg.localCellId with
    | none =>
      -- without the cell the call fails
      have hslot : ¬ s.mgr.HasSlot freqCfg := by
        rintro ⟨i, slot, hi, -⟩
        rw [hcell] at hi
        cases hi
      simp [applyFreq, applyFreqStart, hcell, hslot]
    | some i =>
      have hsent : s.mgr.alreadySent freqCfg = (s.mgr.findSent i freqCfg).isSome := by
        simp [alreadySent, hcell]
      have hhas : s.mgr.HasSlot freqCfg ↔
          ∃ slot, s.mgr.slotFor i freqCfg.beamId = some slot := by
        simp [HasSlot, hcell]
      rcases applyFreq_establish_cases h hflag hcell e with ⟨hslot, ret, heq⟩ |
        ⟨slot, hslot, ⟨hmode, heq⟩ | ⟨hmode, hdup, m, heq⟩ | ⟨hmode, hdup, hsend, heq⟩ |
          ⟨hmode, hdup, hsend, hcycle, heq⟩ | ⟨hmode, hdup, hsend, hcycle, m, heq⟩⟩
      · simp [heq, hhas, hslot]
      · simp [heq, hhas, hslot, Refused, hmode]
      · -- answered from an older record: the setting is the one before the call
        have hset : ((s.withMgr m).updateTxControl e.txOk).setting = s.setting := by simp
        simp [heq, hhas, hslot, Refused, hmode, hsent, hdup, carries_congr hset]
      · simp [heq, hhas, hslot, Refused, hsent, hdup, hsend]
      · simp [heq, hhas, hslot, Refused, hsent, hdup, hcycle]
      · -- sent, accepted and waited for
        have hset : (({ s with setting := some (bandOf freqCfg) }.withMgr m).updateTxControl
            e.txOk).setting = some (bandOf freqCfg) := by simp
        simp [heq, hhas, hslot, Refused, hmode, hsent, hdup, hsend, hcycle, carries_bandOf hset]

/-- The successes that a run of calls reports are true of the antenna exactly when each request
that is answered from an older record finds its values still set, and each one that is sent
can be encoded. -/
theorem success_true_iff (bbuLinkOk : Bool) (l : List Call) :
    Along CallStep SuccessTrue (Station.init bbuLinkOk) l ↔
      Along CallStep StillSet (Station.init bbuLinkOk) l := by
  refine along_congr (I := fun s => TableInv s.mgr) ?_ (fun s c h => successTrue_iff h c)
    tableInv_init l
  rintro s c _ h rfl
  exact tableInv_apply h c

/-- Beams 3 and 4 of cell 7 get frequencies of their own, and then beam 5 the one of beam 3. -/
def overwritten : List Call :=
  [.cell cell7 true, .freq beam3 businessEnv,
    .freq { beam3 with beamId := 4, dlCenterFreq := 2610000 } businessEnv,
    .freq { beam3 with beamId := 5 } businessEnv]

/-- A reported success need not be true of the antenna: the request for beam 5 is answered with
success from the record of beam 3, while the antenna is set to the frequency of beam 4. -/
theorem success_from_stale_record :
    ¬ ∀ l : List Call, Along CallStep SuccessTrue (Station.init true) l := by
  intro h
  obtain ⟨-, h⟩ := h overwritten
  obtain ⟨-, h⟩ := h _ rfl
  obtain ⟨-, h⟩ := h _ rfl
  obtain ⟨htrue, -⟩ := h _ rfl
  obtain ⟨band, hband, hdl, -⟩ := htrue rfl (by decide +kernel)
  have hset : some band = some (freqBand 2610000 2500000 20) := by
    rw [← hband]
    decide +kernel
  obtain rfl := Option.some.inj hset
  exact absurd hdl (by decide +kernel)

end AntennaMgmt.Cell
