import AntennaMgmt.Lib.Text

/-!
# The trial record on disk

An activated software version runs on trial until a channel to the base band unit is set up.
The trial record is a text file of `key=value` lines.  `version_manager.c` and the script
`upgrade-guard.sh` both read it and both write it.
-/

namespace AntennaMgmt.Version

open AntennaMgmt.Lib

/-- `version_trial_t`: the version on trial, the version to fall back to, the number of starts
so far and the time of the activation. -/
structure Trial where
  newDir : Bytes
  prevDir : Bytes
  attempts : ℕ
  time : Bytes
deriving DecidableEq, Repr

/-- The carriage return, which both readers drop. -/
def cr : UInt8 := 13

/-- The `'='` behind a key. -/
def eqSign : UInt8 := 61

/-- A line `key=value`. -/
def entryLine (kv : Bytes × Bytes) : Bytes := kv.1 ++ eqSign :: kv.2

/-- A text of such lines. -/
def entriesText (kvs : List (Bytes × Bytes)) : Bytes :=
  kvs.flatMap fun kv => entryLine kv ++ [lf]

/-- The keys and values of a record. -/
def Trial.entries (t : Trial) : List (Bytes × Bytes) :=
  [(ascii "new", t.newDir), (ascii "previous", t.prevDir),
    (ascii "attempts", decimal t.attempts), (ascii "time", t.time)]

/-- The text of a record: the `fprintf` of `trial_write` and the `printf` of the script. -/
def trialText (t : Trial) : Bytes := entriesText t.entries

/-! ### The reader of the C side -/

/-- One pass of the loop of `trial_read` over what `fgets` returned. -/
def trialReadLine (t : Trial) (piece : Bytes) : Trial :=
  let line := piece.takeWhile fun b => b ≠ 0 ∧ b ≠ cr ∧ b ≠ lf
  let key := line.takeWhile (· ≠ eqSign)
  match line.dropWhile (· ≠ eqSign) with
  | [] => t
  | _ :: val =>
    if key = ascii "new" then { t with newDir := val.take 511 }
    else if key = ascii "previous" then { t with prevDir := val.take 511 }
    else if key = ascii "attempts" then { t with attempts := strtoul val % 2 ^ 32 }
    else if key = ascii "time" then { t with time := val.take 31 }
    else t

/-- `trial_read`; the file is absent or has the given contents. -/
def trialRead (file : Option Bytes) : Option Trial :=
  match file with
  | none => none
  | some text =>
    let t := (fgetsPieces 639 [] text).foldl trialReadLine ⟨[], [], 0, []⟩
    if t.newDir = [] then none else some t

/-! ### The reader of the script -/

/-- `s/^key=//p`: the rest of a line that starts with the key. -/
def stripKey (key line : Bytes) : Option Bytes :=
  if (key ++ [eqSign]).isPrefixOf line then some (line.drop (key ++ [eqSign]).length) else none

/-- `trial_get`: `sed -n "s/^key=//p" | head -n 1 | tr -d '\r'` in a command substitution. -/
def trialGet (text key : Bytes) : Bytes :=
  (((textLines text).findSome? (stripKey key)).getD []).filter fun b => b ≠ cr ∧ b ≠ 0

/-- The variables that the script reads from the file; an `attempts` that is no number counts
as zero. -/
def guardRead (text : Bytes) : Trial where
  newDir := trialGet text (ascii "new")
  prevDir := trialGet text (ascii "previous")
  attempts :=
    let a := trialGet text (ascii "attempts")
    if a = [] ∨ ¬ a.all isDigit then 0 else decimalValue a
  time := trialGet text (ascii "time")

/-! ### Reading back -/

/-- A C string without line breaks that fits into `char[cap]`. -/
structure CleanField (cap : ℕ) (bs : Bytes) : Prop where
  bytes : ∀ b ∈ bs, b ≠ 0 ∧ b ≠ cr ∧ b ≠ lf
  length_lt : bs.length < cap

instance (cap : ℕ) (bs : Bytes) : Decidable (CleanField cap bs) :=
  decidable_of_iff ((bs.all fun b => b ≠ 0 ∧ b ≠ cr ∧ b ≠ lf) = true ∧ bs.length < cap)
    ⟨fun h => ⟨fun b hb => of_decide_eq_true (List.all_eq_true.1 h.1 b hb), h.2⟩,
      fun h => ⟨List.all_eq_true.2 fun b hb => decide_eq_true (h.bytes b hb), h.length_lt⟩⟩

lemma CleanField.lf_not_mem {cap : ℕ} {bs : Bytes} (h : CleanField cap bs) : lf ∉ bs :=
  fun hmem => (h.bytes lf hmem).2.2 rfl

lemma CleanField.filter_eq {cap : ℕ} {bs : Bytes} (h : CleanField cap bs) :
    bs.filter (fun b => b ≠ cr ∧ b ≠ 0) = bs :=
  List.filter_eq_self.2 fun b hb => decide_eq_true ⟨(h.bytes b hb).2.1, (h.bytes b hb).1⟩

lemma cleanField_decimal {n : ℕ} (h : n < 2 ^ 64) : CleanField 21 (decimal n) := by
  refine ⟨fun b hb => ?_, ?_⟩
  · have hdigit := isDigit_of_mem_decimal hb
    simp only [isDigit, Bool.and_eq_true, decide_eq_true_eq] at hdigit
    refine ⟨?_, ?_, ?_⟩ <;> rintro rfl <;> simp [cr, lf] at hdigit
  · have hlt : n < 10 ^ 20 := h.trans (by decide)
    exact Nat.lt_succ_of_le (length_decimal_le (by decide) hlt)

/-- A record whose fields are what `version_trial_t` can hold, without line breaks. -/
structure Trial.Clean (t : Trial) : Prop where
  newDir_ne_nil : t.newDir ≠ []
  newDir : CleanField 512 t.newDir
  prevDir : CleanField 512 t.prevDir
  time : CleanField 32 t.time
  attempts_lt : t.attempts < 2 ^ 64

instance (t : Trial) : Decidable t.Clean :=
  decidable_of_iff (t.newDir ≠ [] ∧ CleanField 512 t.newDir ∧ CleanField 512 t.prevDir ∧
      CleanField 32 t.time ∧ t.attempts < 2 ^ 64)
    ⟨fun ⟨hne, hnew, hprev, htime, hlt⟩ => ⟨hne, hnew, hprev, htime, hlt⟩,
      fun h => ⟨h.newDir_ne_nil, h.newDir, h.prevDir, h.time, h.attempts_lt⟩⟩

/-- A key that no reader mistakes and a value that every buffer can hold. -/
structure CleanEntry (kv : Bytes × Bytes) : Prop where
  key : ∀ b ∈ kv.1, b ≠ 0 ∧ b ≠ cr ∧ b ≠ lf ∧ b ≠ eqSign
  key_length : kv.1.length ≤ 64
  value : CleanField 512 kv.2

lemma CleanField.mono {m n : ℕ} {bs : Bytes} (h : CleanField m bs) (hle : m ≤ n) :
    CleanField n bs :=
  ⟨h.bytes, h.length_lt.trans_le hle⟩

lemma CleanEntry.of_key {key value : Bytes} (hvalue : CleanField 512 value)
    (hkey : CleanField 65 key) (heq : eqSign ∉ key) : CleanEntry (key, value) where
  key b hb := by
    obtain ⟨hzero, hcr, hlf⟩ := hkey.bytes b hb
    exact ⟨hzero, hcr, hlf, fun hb' => heq (hb' ▸ hb)⟩
  key_length := Nat.le_of_lt_succ hkey.length_lt
  value := hvalue

lemma Trial.Clean.entries {t : Trial} (h : t.Clean) : ∀ kv ∈ t.entries, CleanEntry kv := by
  intro kv hkv
  simp only [Trial.entries, List.mem_cons, List.not_mem_nil, or_false] at hkv
  rcases hkv with rfl | rfl | rfl | rfl
  · exact .of_key h.newDir (by decide) (by decide)
  · exact .of_key h.prevDir (by decide) (by decide)
  · exact .of_key ((cleanField_decimal h.attempts_lt).mono (by decide)) (by decide) (by decide)
  · exact .of_key (h.time.mono (by decide)) (by decide) (by decide)

lemma CleanEntry.bytes {kv : Bytes × Bytes} (h : CleanEntry kv) :
    ∀ b ∈ entryLine kv, b ≠ 0 ∧ b ≠ cr ∧ b ≠ lf := by
  intro b hb
  rcases List.mem_append.1 hb with hb | hb
  · exact ⟨(h.key b hb).1, (h.key b hb).2.1, (h.key b hb).2.2.1⟩
  · rcases List.mem_cons.1 hb with rfl | hb
    · decide
    · exact h.value.bytes b hb

lemma CleanEntry.lf_not_mem {kv : Bytes × Bytes} (h : CleanEntry kv) : lf ∉ entryLine kv :=
  fun hmem => (h.bytes lf hmem).2.2 rfl

/-- The C side sees one line for each entry. -/
lemma fgetsPieces_entries {kvs : List (Bytes × Bytes)} (h : ∀ kv ∈ kvs, CleanEntry kv) :
    fgetsPieces 639 [] (entriesText kvs) = kvs.map fun kv => entryLine kv ++ [lf] := by
  induction kvs with
  | nil => rfl
  | cons kv kvs ih =>
    have hkv := h kv List.mem_cons_self
    have hshort : ([] : Bytes).length + (entryLine kv).length < 639 := by
      have hkey := hkv.key_length
      have hval := hkv.value.length_lt
      simp only [entryLine, List.length_append, List.length_cons, List.length_nil]
      omega
    have htext : entriesText (kv :: kvs) = entryLine kv ++ lf :: entriesText kvs := by
      simp [entriesText]
    rw [htext, fgetsPieces_line hkv.lf_not_mem [] _ hshort, List.nil_append,
      ih fun kv' hkv' => h kv' (List.mem_cons_of_mem kv hkv'), List.map_cons]

/-- So does the script. -/
lemma textLines_entries {kvs : List (Bytes × Bytes)} (h : ∀ kv ∈ kvs, CleanEntry kv) :
    textLines (entriesText kvs) = kvs.map entryLine := by
  induction kvs with
  | nil => rfl
  | cons kv kvs ih =>
    have hkv := h kv List.mem_cons_self
    have htext : entriesText (kv :: kvs) = entryLine kv ++ lf :: entriesText kvs := by
      simp [entriesText]
    rw [htext, textLines_line hkv.lf_not_mem,
      ih fun kv' hkv' => h kv' (List.mem_cons_of_mem kv hkv'), List.map_cons]

/-- `strchr` finds the sign behind the key. -/
lemma split_entryLine {kv : Bytes × Bytes} (h : CleanEntry kv) :
    (entryLine kv).takeWhile (· ≠ eqSign) = kv.1 ∧
      (entryLine kv).dropWhile (· ≠ eqSign) = eqSign :: kv.2 := by
  have hpos : ∀ b ∈ kv.1, decide (b ≠ eqSign) = true :=
    fun b hb => decide_eq_true (h.key b hb).2.2.2
  rw [entryLine, List.takeWhile_append_of_pos hpos, List.dropWhile_append_of_pos hpos]
  simp

/-- What `trial_read` makes of one line: its key and its value. -/
lemma trialReadLine_entry (t : Trial) {kv : Bytes × Bytes} (h : CleanEntry kv) :
    trialReadLine t (entryLine kv ++ [lf]) =
      if kv.1 = ascii "new" then { t with newDir := kv.2.take 511 }
      else if kv.1 = ascii "previous" then { t with prevDir := kv.2.take 511 }
      else if kv.1 = ascii "attempts" then { t with attempts := strtoul kv.2 % 2 ^ 32 }
      else if kv.1 = ascii "time" then { t with time := kv.2.take 31 }
      else t := by
  have hline : (entryLine kv ++ [lf]).takeWhile
      (fun b => decide (b ≠ 0 ∧ b ≠ cr ∧ b ≠ lf)) = entryLine kv := by
    rw [List.takeWhile_append_of_pos fun b hb => decide_eq_true (h.bytes b hb)]
    simp
  obtain ⟨hk, hv⟩ := split_entryLine h
  simp only [trialReadLine, hline, hk, hv]

/-- The C side reads a record back; its `uint32_t` keeps the number of starts modulo 2^32. -/
theorem trialRead_trialText {t : Trial} (h : t.Clean) :
    trialRead (some (trialText t)) = some { t with attempts := t.attempts % 2 ^ 32 } := by
  have hentries := h.entries
  have htake : ∀ {bs : Bytes} {n : ℕ}, CleanField (n + 1) bs → bs.take n = bs :=
    fun hbs => List.take_of_length_le (Nat.le_of_lt_succ hbs.length_lt)
  have hnew : t.newDir.take 511 = t.newDir := htake h.newDir
  have hprev : t.prevDir.take 511 = t.prevDir := htake h.prevDir
  have htime : t.time.take 31 = t.time := htake h.time
  simp only [Trial.entries, List.forall_mem_cons] at hentries
  obtain ⟨hn, hp, ha, ht, -⟩ := hentries
  rw [trialRead, trialText, fgetsPieces_entries h.entries]
  simp only [Trial.entries, List.map_cons, List.map_nil, List.foldl_cons, List.foldl_nil]
  rw [trialReadLine_entry _ hn, trialReadLine_entry _ hp, trialReadLine_entry _ ha,
    trialReadLine_entry _ ht]
  simp +decide only [if_true, if_false, hnew, hprev, htime, strtoul_decimal h.attempts_lt,
    h.newDir_ne_nil]

/-- A key matches exactly the lines that carry it. -/
lemma isPrefixOf_entryLine {key : Bytes} {kv : Bytes × Bytes} (hkey : eqSign ∉ key)
    (hkv : eqSign ∉ kv.1) :
    (key ++ [eqSign]).isPrefixOf (entryLine kv) = decide (key = kv.1) := by
  obtain ⟨key', value⟩ := kv
  induction key generalizing key' with
  | nil =>
    cases key' with
    | nil => simp [entryLine]
    | cons b key' =>
      have hb : eqSign ≠ b := fun he => hkv (by simp [he])
      simp [entryLine, List.isPrefixOf, hb]
  | cons a key ih =>
    have ha : a ≠ eqSign := fun he => hkey (by simp [he])
    have hkey : eqSign ∉ key := fun hmem => hkey (List.mem_cons_of_mem a hmem)
    cases key' with
    | nil => simp [entryLine, List.isPrefixOf, ha]
    | cons b key' =>
      have hkv : eqSign ∉ key' := fun hmem => hkv (List.mem_cons_of_mem b hmem)
      have ih := ih hkey key' hkv
      simp only [entryLine] at ih
      simp [entryLine, List.isPrefixOf, ih, Bool.beq_eq_decide_eq]

lemma stripKey_entryLine {key : Bytes} {kv : Bytes × Bytes} (hkey : eqSign ∉ key)
    (hkv : eqSign ∉ kv.1) :
    stripKey key (entryLine kv) = if key = kv.1 then some kv.2 else none := by
  rw [stripKey, isPrefixOf_entryLine hkey hkv]
  by_cases h : key = kv.1
  · have hlen : (key ++ [eqSign]).length = kv.1.length + 1 := by simp [h]
    have hdrop : (entryLine kv).drop (kv.1.length + 1) = kv.2 := by
      rw [entryLine, ← List.drop_drop, List.drop_left, List.drop_one, List.tail_cons]
    rw [hlen, hdrop, decide_eq_true h, if_pos rfl, if_pos h]
  · rw [decide_eq_false h, if_neg h, if_neg Bool.false_ne_true]

/-- The first line with a key gives the value of the first entry with it. -/
lemma findSome?_stripKey {key : Bytes} (hkey : eqSign ∉ key) {kvs : List (Bytes × Bytes)}
    (h : ∀ kv ∈ kvs, CleanEntry kv) :
    (kvs.map entryLine).findSome? (stripKey key) = kvs.lookup key := by
  induction kvs with
  | nil => rfl
  | cons kv kvs ih =>
    have hkv : eqSign ∉ kv.1 := fun hmem =>
      ((h kv List.mem_cons_self).key eqSign hmem).2.2.2 rfl
    have ih := ih fun kv' hkv' => h kv' (List.mem_cons_of_mem kv hkv')
    rw [List.map_cons, List.findSome?_cons, stripKey_entryLine hkey hkv, ih]
    obtain ⟨key', value⟩ := kv
    by_cases he : key = key'
    · subst he
      simp
    · have hbeq : (key == key') = false := beq_eq_false_iff_ne.2 he
      simp only [he, if_false, List.lookup_cons, hbeq]

/-- The script reads a record back. -/
theorem guardRead_trialText {t : Trial} (h : t.Clean) : guardRead (trialText t) = t := by
  have hdigits : (decimal t.attempts).all isDigit = true :=
    List.all_eq_true.2 fun b hb => isDigit_of_mem_decimal hb
  have hget : ∀ key value : Bytes, eqSign ∉ key → t.entries.lookup key = some value →
      CleanField 512 value → trialGet (trialText t) key = value := by
    intro key value hkey hlookup hvalue
    rw [trialGet, trialText, textLines_entries h.entries, findSome?_stripKey hkey h.entries,
      hlookup, Option.getD_some, hvalue.filter_eq]
  have hdec := (cleanField_decimal h.attempts_lt).mono (show 21 ≤ 512 by decide)
  have htime := h.time.mono (show 32 ≤ 512 by decide)
  rw [guardRead, hget _ _ (by decide) rfl h.newDir, hget _ _ (by decide) rfl h.prevDir,
    hget _ _ (by decide) rfl hdec, hget _ _ (by decide) rfl htime]
  simp only [decimal_ne_nil, hdigits, not_true_eq_false, or_self, if_false,
    decimalValue_decimal]

end AntennaMgmt.Version
