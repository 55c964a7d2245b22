import AntennaMgmt.Cell.Config
import AntennaMgmt.Lib.Transition

/-!
# The invariant of the cell table

Whatever is requested and whatever the antenna answers, the identifiers in the table stay
distinct and its counts and flags stay consistent, also when other calls come in while a call
has given the mutex up and waits for the antenna.
-/

namespace AntennaMgmt.Cell

open AntennaMgmt.Lib CellConfigManager

variable {m : CellConfigManager} {i : Fin maxCells} {j : Fin maxFreqsPerCell}

/-! ### The edits of the table -/

lemma TableInv.establishCell (h : TableInv m) {cellCfg : CellConfigIe}
    (hnone : m.findCell cellCfg.localCellId = none) (hfree : m.freeCell = some i) :
    TableInv (m.establishCell i cellCfg) := by
  have hrow := (h.row i).no_freq (freeCell_some hfree)
  refine h.setRow (fun _ k _ hk => findCell_none hnone k hk) (.of_empty rfl hrow fun j => ?_)
  -- an old mark in the slot would be the mark of an active frequency
  by_contra hsent
  have hactive := (h.row i).sent_active j (by simpa using hsent)
  rw [hrow j] at hactive
  cases hactive

lemma TableInv.reconfigCell (h : TableInv m) (hi : (m.cells i).active) (cellCfg : CellConfigIe) :
    TableInv (m.reconfigCell i cellCfg) :=
  h.setRow_same hi rfl ((h.row i).congr rfl rfl)

lemma TableInv.deleteCell (h : TableInv m) : TableInv (m.deleteCell i) :=
  h.setRow nofun (.of_empty rfl (fun _ => rfl) fun _ => rfl)

/-- The slot for a beam is the one the beam has, or a free one, counted. -/
lemma slotFor_some {beamId : ℕ} {slot : Fin maxFreqsPerCell × CellInfo}
    (h : m.slotFor i beamId = some slot) :
    (m.findFreq i beamId = some slot.1 ∧ slot.2 = m.cells i) ∨
    (m.findFreq i beamId = none ∧ m.freeFreq i = some slot.1 ∧
      slot.2 = { m.cells i with freqCount := ((m.cells i).freqCount + 1) % 256 }) := by
  rw [slotFor] at h
  split at h
  · next j hj =>
    obtain rfl := Option.some.inj h
    exact .inl ⟨hj, rfl⟩
  · next hnone =>
    obtain ⟨j, hfree, rfl⟩ := Option.map_eq_some_iff.1 h
    exact .inr ⟨hnone, hfree, rfl⟩

lemma TableInv.storeFreq (h : TableInv m) (hi : (m.cells i).active) {freqCfg : FreqConfigIe}
    {slot : Fin maxFreqsPerCell × CellInfo} (hslot : m.slotFor i freqCfg.beamId = some slot) :
    TableInv (m.storeFreq i slot freqCfg) := by
  obtain ⟨k, c⟩ := slot
  rcases slotFor_some hslot with ⟨hfind, rfl⟩ | ⟨hnone, hfree, rfl⟩
  · obtain ⟨hactive, hbeam⟩ := findFreq_some hfind
    exact h.setRow_same hi rfl ((h.row i).rewrite hi hactive rfl hbeam.symm)
  · exact h.setRow_same hi rfl
      ((h.row i).take hi (freeFreq_some hfree) rfl fun k hk => findFreq_none hnone k hk)

lemma TableInv.markSent (h : TableInv m) (hi : (m.cells i).active) (hj : (m.freqs i j).active) :
    TableInv (m.markSent i j) :=
  h.setRow_same hi rfl ((h.row i).rewrite hi hj hj rfl)

lemma TableInv.deleteFreq (h : TableInv m) (hi : (m.cells i).active)
    (hj : (m.freqs i j).active) : TableInv (m.deleteFreq i j) :=
  h.setRow_same hi rfl ((h.row i).free hi hj rfl rfl)

/-! ### The regions of the calls -/

lemma applyCell_tableInv {s : Station} (h : TableInv s.mgr) (cellCfg : CellConfigIe)
    (txOk : Bool) : TableInv (applyCell cellCfg txOk s).1.mgr := by
  unfold applyCell
  dsimp only
  split
  · split <;> exact h
  · next hnone =>
    split
    · next hfree => exact h.establishCell hnone hfree
    · exact h
  · next hfind => exact h.reconfigCell (findCell_some hfind).1 cellCfg
  · exact h
  · rw [Station.updateTxControl_mgr]
    exact h.deleteCell
  · exact h
  · exact h

/-- The cell stays active when a frequency is stored, and the record in the slot is the one
that was stored. -/
lemma storeFreq_self {freqCfg : FreqConfigIe} {slot : Fin maxFreqsPerCell × CellInfo}
    (hslot : m.slotFor i freqCfg.beamId = some slot) :
    (m.storeFreq i slot freqCfg).cells i = slot.2 ∧ slot.2.active = (m.cells i).active ∧
      slot.2.localCellId = (m.cells i).localCellId ∧
      (m.storeFreq i slot freqCfg).freqs i slot.1 = storeFreqInfo freqCfg false := by
  refine ⟨setRow_cells_self _ _, ?_, ?_, ?_⟩
  · rcases slotFor_some hslot with ⟨-, h⟩ | ⟨-, -, h⟩ <;> rw [h]
  · rcases slotFor_some hslot with ⟨-, h⟩ | ⟨-, -, h⟩ <;> rw [h]
  · simp [CellConfigManager.storeFreq]

lemma establishFreq_tableInv {s : Station} (h : TableInv s.mgr) (hi : (s.mgr.cells i).active)
    (freqCfg : FreqConfigIe) (e : FreqEnv) :
    TableInv (establishFreq freqCfg e i s).1.mgr := by
  rcases establishFreq_cases freqCfg e i s with ⟨-, _, heq⟩ | ⟨slot, hslot, hcases⟩
  · rw [heq]
    exact h
  have hstore := h.storeFreq hi hslot
  rcases hcases with ⟨-, heq⟩ | ⟨-, -, heq⟩ | ⟨-, -, -, heq⟩ | ⟨-, -, -, heq⟩ <;> rw [heq]
  · exact hstore
  · rw [Station.updateTxControl_mgr]
    obtain ⟨hcell, hactive, -, hfreq⟩ := storeFreq_self hslot
    refine hstore.markSent (by rw [hcell, hactive, hi]) ?_
    exact congrArg FreqInfo.active hfreq
  · exact hstore
  · exact hstore

lemma applyFreqStart_tableInv {s : Station} (h : TableInv s.mgr) (freqCfg : FreqConfigIe)
    (e : FreqEnv) : TableInv (applyFreqStart freqCfg e s).1.mgr := by
  unfold applyFreqStart
  split
  · exact h
  · next i hfind =>
    have hi := (findCell_some hfind).1
    split
    · exact establishFreq_tableInv h hi freqCfg e
    · split
      · next j hj =>
        rw [Station.updateTxControl_mgr]
        exact h.deleteFreq hi (findFreq_some hj).1
      · exact h
    · exact h

lemma findStored_some {freqCfg : FreqConfigIe} (h : m.findStored i freqCfg = some j) :
    (m.freqs i j).active ∧ (m.freqs i j).beamId = freqCfg.beamId ∧
      sameBand (m.freqs i j) freqCfg := by
  simpa [and_assoc] using findSlot_some h

/-- The mutex was given up before this region, so that it rests on nothing but the
invariant. -/
lemma applyFreqFinish_tableInv {s : Station} (h : TableInv s.mgr) (freqCfg : FreqConfigIe)
    (e : FreqEnv) : TableInv (applyFreqFinish freqCfg e s).1.mgr := by
  unfold applyFreqFinish
  dsimp only
  split
  · exact h
  · next i j hfound =>
    simp only [Option.bind_eq_some_iff, Option.map_eq_some_iff, Prod.mk.injEq] at hfound
    obtain ⟨i, hi, j, hj, rfl, rfl⟩ := hfound
    split
    · rw [Station.updateTxControl_mgr]
      exact h.markSent (findCell_some hi).1 (findStored_some hj).1
    · exact h

/-! ### Runs of calls -/

/-- The station, and the calls that have given the mutex up and wait. -/
structure CellSys where
  station : Station
  waiting : List (FreqConfigIe × FreqEnv)

/-- One region of a call, or a change of the link gate. -/
inductive Act
  | cell (cellCfg : CellConfigIe) (txOk : Bool)
  | freqStart (freqCfg : FreqConfigIe) (e : FreqEnv)
  | freqFinish (k : ℕ)
  | link (up : Bool)

/-- After `cell_config_init`. -/
def Station.init (bbuLinkOk : Bool) : Station where
  mgr := CellConfigManager.init
  bbuLinkOk := bbuLinkOk
  lastTx := none
  setting := none

/-- After `cell_config_init`, with no call in progress. -/
def CellSys.init : CellSys := ⟨Station.init false, []⟩

/-- The step function: any call may come in while others wait, and any of those may go on. -/
def next (s : CellSys) : Act → Option CellSys
  | .cell cellCfg txOk => some { s with station := (applyCell cellCfg txOk s.station).1 }
  | .freqStart freqCfg e =>
    match applyFreqStart freqCfg e s.station with
    -- the call gives the mutex up only to wait for the antenna
    | (st, .returned _ _) => some { s with station := st }
    | (st, .waiting) => some ⟨st, s.waiting ++ [(freqCfg, e)]⟩
  | .freqFinish k =>
    match s.waiting[k]? with
    | some (freqCfg, e) =>
      some ⟨(applyFreqFinish freqCfg e s.station).1, s.waiting.eraseIdx k⟩
    | none => none
  | .link up => some { s with station := { s.station with bbuLinkOk := up } }

/-- One region of one call. -/
def SysStep (s : CellSys) (a : Act) (s' : CellSys) : Prop := next s a = some s'

lemma sysStep_waiting {s : CellSys} {freqCfg : FreqConfigIe} {e : FreqEnv}
    (h : (applyFreqStart freqCfg e s.station).2 = .waiting) :
    SysStep s (.freqStart freqCfg e)
      ⟨(applyFreqStart freqCfg e s.station).1, s.waiting ++ [(freqCfg, e)]⟩ := by
  simp only [SysStep, next]
  split
  · next heq =>
    rw [heq] at h
    cases h
  · next heq => rw [heq]

/-- What one region does to the station. -/
lemma sysStep_station {s s' : CellSys} {a : Act} (h : SysStep s a s') :
    (∃ cellCfg txOk, s'.station = (applyCell cellCfg txOk s.station).1) ∨
    (∃ freqCfg e, s'.station = (applyFreqStart freqCfg e s.station).1) ∨
    (∃ freqCfg e, s'.station = (applyFreqFinish freqCfg e s.station).1) ∨
    s'.station.mgr = s.station.mgr := by
  cases a with
  | cell cellCfg txOk =>
    obtain rfl := Option.some.inj h
    exact .inl ⟨cellCfg, txOk, rfl⟩
  | freqStart freqCfg e =>
    refine .inr (.inl ⟨freqCfg, e, ?_⟩)
    simp only [SysStep, next] at h
    split at h
    · next heq =>
      obtain rfl := Option.some.inj h
      rw [heq]
    · next heq =>
      obtain rfl := Option.some.inj h
      rw [heq]
  | freqFinish k =>
    simp only [SysStep, next] at h
    split at h
    · next freqCfg e _ =>
      obtain rfl := Option.some.inj h
      exact .inr (.inr (.inl ⟨freqCfg, e, rfl⟩))
    · exact absurd h nofun
  | link up =>
    obtain rfl := Option.some.inj h
    exact .inr (.inr (.inr rfl))

lemma tableInv_step {s s' : CellSys} {a : Act} (h : TableInv s.station.mgr)
    (hstep : SysStep s a s') : TableInv s'.station.mgr := by
  rcases sysStep_station hstep with ⟨cellCfg, txOk, hs⟩ | ⟨freqCfg, e, hs⟩ | ⟨freqCfg, e, hs⟩ | hs
  · rw [hs]
    exact applyCell_tableInv h cellCfg txOk
  · rw [hs]
    exact applyFreqStart_tableInv h freqCfg e
  · rw [hs]
    exact applyFreqFinish_tableInv h freqCfg e
  · rwa [hs]

/-- In every state that calls, regions interleaved, can reach: active cells have distinct
identifiers, the active frequencies of a cell have distinct beams, the count of an active cell
is the number of its active frequencies, an inactive cell has none, and only an active
frequency is marked as sent. -/
theorem cell_table_invariant {l : List Act} {s : CellSys} (hrun : Run SysStep .init l s) :
    let m := s.station.mgr
    (∀ i i', (m.cells i).active → (m.cells i').active →
      (m.cells i).localCellId = (m.cells i').localCellId → i = i') ∧
    (∀ i, (m.cells i).active → ∀ j j', (m.freqs i j).active → (m.freqs i j').active →
      (m.freqs i j).beamId = (m.freqs i j').beamId → j = j') ∧
    (∀ i, (m.cells i).active →
      (m.cells i).freqCount = (Finset.univ.filter fun j => (m.freqs i j).active).card) ∧
    (∀ i, (m.cells i).active = false → ∀ j, (m.freqs i j).active = false) ∧
    ∀ i j, (m.freqs i j).sentToAntenna → (m.freqs i j).active := by
  have h : TableInv s.station.mgr := by
    refine hrun.invariant (I := fun s => TableInv s.station.mgr) ?_ tableInv_init
    exact fun _ _ _ h hstep => tableInv_step h hstep
  exact ⟨h.cell_ids, fun i _ => (h.row i).beam_ids, fun i => (h.row i).freq_count,
    fun i => (h.row i).no_freq, fun i => (h.row i).sent_active⟩

/-- A request to establish cell 7, and one for its beam 3. -/
def cell7 : CellConfigIe := ⟨.establish, 7, 40, 3⟩

def beam3 : FreqConfigIe := ⟨.establish, 7, 3, 2600000, 2500000, 20, 2, 7⟩

/-- An antenna in business mode that accepts everything and never leaves the mode. -/
def businessEnv : FreqEnv := ⟨some 0, true, fun _ => some 0, true⟩

/-- Cell 7 is deleted while the call for its beam waits for the antenna. -/
theorem cell_table_invariant_deleted_while_waiting :
    ∃ s, Run SysStep .init [.cell cell7 true, .freqStart beam3 businessEnv,
        .cell { cell7 with cellCfgFlag := .delete } true, .freqFinish 0] s ∧
      ∀ i, (s.station.mgr.cells i).active = false → ∀ j, (s.station.mgr.freqs i j).active = false :=
  have hrun := .cons rfl (.cons (sysStep_waiting (by decide +kernel)) (.cons rfl
    (.cons rfl (.nil _))))
  ⟨_, hrun, (cell_table_invariant hrun).2.2.2.1⟩

end AntennaMgmt.Cell
