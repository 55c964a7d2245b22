import AntennaMgmt.Lib.Slots

/-!
# The cell table

`g_cell_mgr` holds sixteen cells and, for each of them, sixteen frequencies.  The calls find a
cell by its identifier and a frequency by its beam, take free slots and give them back, and
keep a count of the frequencies of each cell.  Every edit they make writes one cell record and
the frequency records of that cell, so that the invariant of the table is shown row by row.
-/

namespace AntennaMgmt.Cell

open AntennaMgmt.Lib

/-- `MAX_CELLS`. -/
abbrev maxCells : ℕ := 16

/-- `MAX_FREQS_PER_CELL`. -/
abbrev maxFreqsPerCell : ℕ := 16

/-- `cell_info_t`. -/
structure CellInfo where
  active : Bool
  localCellId : ℕ
  cellPower : ℕ
  cellType : ℕ
  freqCount : ℕ
deriving DecidableEq, Repr

/-- `freq_info_t`. -/
structure FreqInfo where
  active : Bool
  sentToAntenna : Bool
  localCellId : ℕ
  beamId : ℕ
  dlCenterFreq : ℕ
  ulCenterFreq : ℕ
  beamBandwidth : ℕ
  ulDlConfig : ℕ
  specialSubframe : ℕ
deriving DecidableEq, Repr

/-- `cell_config_manager_t`. -/
structure CellConfigManager where
  cells : Fin maxCells → CellInfo
  freqs : Fin maxCells → Fin maxFreqsPerCell → FreqInfo

namespace CellConfigManager

/-- The table of `cell_config_init`, all bytes zero. -/
def init : CellConfigManager where
  cells := fun _ => ⟨false, 0, 0, 0, 0⟩
  freqs := fun _ _ => ⟨false, false, 0, 0, 0, 0, 0, 0, 0⟩

variable (m : CellConfigManager) (i : Fin maxCells)

/-- The loop that finds the active cell of an identifier. -/
def findCell (localCellId : ℕ) : Option (Fin maxCells) :=
  findSlot fun i => (m.cells i).active && (m.cells i).localCellId == localCellId

/-- The loop that finds a cell slot that is free. -/
def freeCell : Option (Fin maxCells) := findSlot fun i => !(m.cells i).active

/-- The loop that finds the active frequency of a beam. -/
def findFreq (beamId : ℕ) : Option (Fin maxFreqsPerCell) :=
  findSlot fun j => (m.freqs i j).active && (m.freqs i j).beamId == beamId

/-- The loop that finds a frequency slot that is free. -/
def freeFreq : Option (Fin maxFreqsPerCell) := findSlot fun j => !(m.freqs i j).active

/-- The frequency is in force: its cell is active, and so is it, and the antenna has it. -/
def Effective (j : Fin maxFreqsPerCell) : Prop :=
  (m.cells i).active ∧ (m.freqs i j).active ∧ (m.freqs i j).sentToAntenna

instance (j : Fin maxFreqsPerCell) : Decidable (m.Effective i j) :=
  inferInstanceAs (Decidable (_ ∧ _))

/-- `has_any_freq`. -/
def hasAnyFreq : Bool := decide (∃ i j, m.Effective i j)

/-- An edit of one cell: its record and the records of its frequencies. -/
def setRow (c : CellInfo) (row : Fin maxFreqsPerCell → FreqInfo) : CellConfigManager where
  cells := Function.update m.cells i c
  freqs := Function.update m.freqs i row

variable {m i}

@[simp] lemma hasAnyFreq_eq_true : m.hasAnyFreq = true ↔ ∃ i j, m.Effective i j := by
  simp [hasAnyFreq]

lemma findCell_some {localCellId : ℕ} (h : m.findCell localCellId = some i) :
    (m.cells i).active ∧ (m.cells i).localCellId = localCellId := by
  simpa using findSlot_some h

lemma findCell_none {localCellId : ℕ} (h : m.findCell localCellId = none)
    (k : Fin maxCells) (hk : (m.cells k).active) : (m.cells k).localCellId ≠ localCellId := by
  simpa [hk] using findSlot_none h k

lemma freeCell_some (h : m.freeCell = some i) : (m.cells i).active = false := by
  simpa using findSlot_some h

lemma findFreq_some {beamId : ℕ} {j : Fin maxFreqsPerCell} (h : m.findFreq i beamId = some j) :
    (m.freqs i j).active ∧ (m.freqs i j).beamId = beamId := by
  simpa using findSlot_some h

lemma findFreq_none {beamId : ℕ} (h : m.findFreq i beamId = none) (j : Fin maxFreqsPerCell)
    (hj : (m.freqs i j).active) : (m.freqs i j).beamId ≠ beamId := by
  simpa [hj] using findSlot_none h j

lemma freeFreq_some {j : Fin maxFreqsPerCell} (h : m.freeFreq i = some j) :
    (m.freqs i j).active = false := by
  simpa using findSlot_some h

@[simp] lemma setRow_cells_self (c : CellInfo) (row : Fin maxFreqsPerCell → FreqInfo) :
    (m.setRow i c row).cells i = c := by simp [setRow]

@[simp] lemma setRow_freqs_self (c : CellInfo) (row : Fin maxFreqsPerCell → FreqInfo) :
    (m.setRow i c row).freqs i = row := by simp [setRow]

lemma setRow_cells_of_ne {k : Fin maxCells} (h : k ≠ i) (c : CellInfo)
    (row : Fin maxFreqsPerCell → FreqInfo) : (m.setRow i c row).cells k = m.cells k := by
  simp [setRow, h]

lemma setRow_freqs_of_ne {k : Fin maxCells} (h : k ≠ i) (c : CellInfo)
    (row : Fin maxFreqsPerCell → FreqInfo) : (m.setRow i c row).freqs k = m.freqs k := by
  simp [setRow, h]

lemma setRow_effective_of_ne {k : Fin maxCells} (h : k ≠ i) (c : CellInfo)
    (row : Fin maxFreqsPerCell → FreqInfo) (j : Fin maxFreqsPerCell) :
    (m.setRow i c row).Effective k j ↔ m.Effective k j := by
  rw [Effective, setRow_cells_of_ne h, setRow_freqs_of_ne h, Effective]

end CellConfigManager

/-! ### The invariant -/

/-- What holds of one cell and its frequencies. -/
structure RowInv (c : CellInfo) (row : Fin maxFreqsPerCell → FreqInfo) : Prop where
  /-- The beams of the active frequencies are distinct. -/
  beam_ids : KeysDistinct FreqInfo.active FreqInfo.beamId row
  /-- The count of an active cell is the number of its active frequencies. -/
  freq_count : c.active → c.freqCount = usedCount FreqInfo.active row
  /-- An inactive cell has no active frequency. -/
  no_freq : c.active = false → ∀ j, (row j).active = false
  /-- What the antenna has is active. -/
  sent_active : ∀ j, (row j).sentToAntenna → (row j).active

/-- The invariant of the cell table. -/
structure TableInv (m : CellConfigManager) : Prop where
  /-- The identifiers of the active cells are distinct. -/
  cell_ids : KeysDistinct CellInfo.active CellInfo.localCellId m.cells
  row : ∀ i, RowInv (m.cells i) (m.freqs i)

open CellConfigManager

variable {m : CellConfigManager} {i : Fin maxCells} {c : CellInfo}
  {row : Fin maxFreqsPerCell → FreqInfo}

/-- The empty table satisfies the invariant. -/
lemma tableInv_init : TableInv CellConfigManager.init where
  cell_ids := .of_unused fun _ => rfl
  row _ :=
    { beam_ids := .of_unused fun _ => rfl
      freq_count := nofun
      no_freq := fun _ _ => rfl
      sent_active := nofun }

/-- An edit of one cell is judged by that cell: its identifier stays or is new, and its row
satisfies the invariant of rows. -/
lemma TableInv.setRow (h : TableInv m)
    (hid : c.active → ∀ k ≠ i, (m.cells k).active → (m.cells k).localCellId ≠ c.localCellId)
    (hrow : RowInv c row) : TableInv (m.setRow i c row) := by
  refine ⟨h.cell_ids.update hid, fun k => ?_⟩
  rcases eq_or_ne k i with rfl | hk
  · simpa using hrow
  · rw [setRow_cells_of_ne hk, setRow_freqs_of_ne hk]
    exact h.row k

/-- The same for a cell that keeps its identifier. -/
lemma TableInv.setRow_same (h : TableInv m) (hi : (m.cells i).active)
    (hid : c.localCellId = (m.cells i).localCellId) (hrow : RowInv c row) :
    TableInv (m.setRow i c row) := by
  refine h.setRow (fun _ k hk hactive heq => hk (h.cell_ids k i hactive hi ?_)) hrow
  rw [heq, hid]

/-- The edits below are all made on an active cell, where only the other three parts say
anything. -/
lemma RowInv.of_active (hc : c.active) (hbeam : KeysDistinct FreqInfo.active FreqInfo.beamId row)
    (hcount : c.freqCount = usedCount FreqInfo.active row)
    (hsent : ∀ j, (row j).sentToAntenna → (row j).active) : RowInv c row :=
  ⟨hbeam, fun _ => hcount, fun h => by simp [hc] at h, hsent⟩

variable {j : Fin maxFreqsPerCell} {x : FreqInfo}

lemma RowInv.sent_update (h : RowInv c row) (hx : x.sentToAntenna → x.active) :
    ∀ k, (Function.update row j x k).sentToAntenna → (Function.update row j x k).active := by
  intro k
  rcases eq_or_ne k j with rfl | hk
  · simpa using hx
  · simpa [hk] using h.sent_active k

/-- Taking a free slot for a beam that the cell does not have. -/
lemma RowInv.take (h : RowInv c row) (hc : c.active) (hj : (row j).active = false)
    (hx : x.active) (hbeam : ∀ k, (row k).active → (row k).beamId ≠ x.beamId) :
    RowInv { c with freqCount := (c.freqCount + 1) % 256 } (Function.update row j x) := by
  have hcount : usedCount FreqInfo.active _ = _ := usedCount_update_take hj hx
  refine .of_active hc (h.beam_ids.update fun _ k _ hk => hbeam k hk) ?_
    (h.sent_update fun _ => hx)
  -- the count stays below 17, far from where `freq_count++` would wrap
  have hle : usedCount FreqInfo.active (Function.update row j x) ≤ 16 := by
    exact usedCount_le.trans_eq (Fintype.card_fin _)
  rw [hcount] at hle ⊢
  rw [h.freq_count hc]
  exact Nat.mod_eq_of_lt (by omega)

/-- Rewriting the slot of an active frequency under its own beam. -/
lemma RowInv.rewrite (h : RowInv c row) (hc : c.active) (hj : (row j).active) (hx : x.active)
    (hbeam : x.beamId = (row j).beamId) : RowInv c (Function.update row j x) := by
  refine .of_active hc (h.beam_ids.update_same hj hbeam) ?_ (h.sent_update fun _ => hx)
  rw [usedCount_update_same (by rw [hx, hj]), h.freq_count hc]

/-- Giving the slot of an active frequency back. -/
lemma RowInv.free (h : RowInv c row) (hc : c.active) (hj : (row j).active)
    (hx : x.active = false) (hsent : x.sentToAntenna = false) :
    RowInv { c with freqCount := (c.freqCount + 255) % 256 } (Function.update row j x) := by
  have hcount : usedCount FreqInfo.active _ + 1 = _ := usedCount_update_free hj hx
  refine .of_active hc (h.beam_ids.update_unused hx) ?_ (h.sent_update fun hs => ?_)
  · have hle : usedCount FreqInfo.active row ≤ 16 := by
      exact usedCount_le.trans_eq (Fintype.card_fin _)
    have hfreq := h.freq_count hc
    change (c.freqCount + 255) % 256 = _
    omega
  · rw [hsent] at hs
    cases hs

/-- A cell all of whose frequencies are inactive and unsent. -/
lemma RowInv.of_empty (hcount : c.freqCount = 0) (hrow : ∀ j, (row j).active = false)
    (hsent : ∀ j, (row j).sentToAntenna = false) : RowInv c row where
  beam_ids := .of_unused hrow
  freq_count _ := by rw [hcount, usedCount_of_unused hrow]
  no_freq _ := hrow
  sent_active j hj := by simp [hsent j] at hj

/-- Nothing of a row depends on the power, the type or the identifier of its cell. -/
lemma RowInv.congr {c' : CellInfo} (h : RowInv c row) (hactive : c'.active = c.active)
    (hcount : c'.freqCount = c.freqCount) : RowInv c' row where
  beam_ids := h.beam_ids
  freq_count hc := by rw [hcount, h.freq_count (by rwa [← hactive])]
  no_freq hc := h.no_freq (by rwa [← hactive])
  sent_active := h.sent_active

end AntennaMgmt.Cell
