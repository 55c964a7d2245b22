import AntennaMgmt.Handlers.Walk

/-!
# The results of a parameter configuration

`handle_config_ie` has one variable for the result of each kind of IE, and sets it when an IE of
the kind has been applied.  The response says success for the kind as soon as one of its IEs was
applied, whatever became of the others.
-/

namespace AntennaMgmt.Handlers

open AntennaMgmt.Lib AntennaMgmt.Cpri

/-! ### The kinds of IEs -/

/-- The kinds of IEs that `handle_config_ie` knows. -/
inductive ConfigKind
  | systemTime
  | cpuPeriod
  | cpriWorkMode
deriving DecidableEq, Repr

/-- The kinds, in the order of their results in the response. -/
def configKinds : List ConfigKind := [.systemTime, .cpuPeriod, .cpriWorkMode]

/-- The type of the response IE: `IE_SYSTEM_TIME_CONFIG_RESP`, `IE_CPU_PERIOD_CONFIG_RESP` and
`IE_CPRI_WORK_MODE_CONFIG_RESP`. -/
def ConfigKind.respType : ConfigKind → UInt16
  | .systemTime => 551
  | .cpuPeriod => 553
  | .cpriWorkMode => 555

/-- The kind of an IE. -/
def kindOf (x : Element) : Option ConfigKind :=
  if x.type = ieSystemTimeConfig then some .systemTime
  else if x.type = ieCpuPeriodConfig then some .cpuPeriod
  else if x.type = ieCpriWorkModeConfig then some .cpriWorkMode
  else none

/-- The variable for the result of a kind. -/
def Configuring.result (c : Configuring) : ConfigKind → ℕ
  | .systemTime => c.timeResult
  | .cpuPeriod => c.periodResult
  | .cpriWorkMode => c.modeResult

/-- The mark that an IE of the kind was met. -/
def Configuring.processed (c : Configuring) : ConfigKind → Bool
  | .systemTime => c.timeProcessed
  | .cpuPeriod => c.periodProcessed
  | .cpriWorkMode => c.modeProcessed

/-- The response IE of a kind. -/
def Configuring.resp (c : Configuring) : ConfigKind → Element
  | .systemTime => resultResp 551 c.timeResult
  | .cpuPeriod => resultResp 553 c.periodResult
  | .cpriWorkMode => cpriWorkModeResp c.mainPort c.subPort c.modeResult

/-! ### What becomes of an IE -/

/-- The IE is long enough for its structure, and its values are in range. -/
def acceptable (x : Element) : Bool :=
  match kindOf x with
  | some .systemTime => decide (7 ≤ x.data.length) && validTime x.data
  | some .cpuPeriod => decide (4 ≤ x.data.length) &&
      decide (1 ≤ leNat (slice x.data 0 4) ∧ leNat (slice x.data 0 4) ≤ 3600)
  | some .cpriWorkMode => decide (4 ≤ x.data.length) &&
      decide (leNat (slice x.data 0 4) ≤ cpriModeLoadSharing)
  | none => false

/-- The IE leads to a system call or to a command to the FPGA. -/
def takesCall (x : Element) : Bool := acceptable x && decide (kindOf x ≠ some .cpuPeriod)

/-- The IE is applied successfully, `calls` system calls and commands having been made before. -/
def applied (e : ConfigEnv) (calls : ℕ) (x : Element) : Bool :=
  acceptable x && (decide (kindOf x = some .cpuPeriod) || e.applies calls)

/-- The IEs, each with whether it is applied successfully. -/
def outcomes (e : ConfigEnv) : ℕ → List Element → List (Element × Bool)
  | _, [] => []
  | calls, x :: xs =>
    (x, applied e calls x) :: outcomes e (if takesCall x then calls + 1 else calls) xs

/-- There is an IE of the kind. -/
def occurs (k : ConfigKind) (xs : List (Element × Bool)) : Bool :=
  xs.any fun p => kindOf p.1 = some k

/-- One of the IEs of the kind is applied. -/
def succeeds (k : ConfigKind) (xs : List (Element × Bool)) : Bool :=
  xs.any fun p => decide (kindOf p.1 = some k) && p.2

/-- The result in a response IE, which is at the end of it. -/
def respResult (y : Element) : ℕ := leNat (y.data.drop (y.data.length - 4))

/-- The response has one result for each kind of IE that occurs, and the result is success exactly
when all IEs of the kind were applied. -/
structure FaithfulResponse (xs : List (Element × Bool)) (ys : List Element) : Prop where
  kinds : ys.map Element.type = (configKinds.filter (occurs · xs)).map ConfigKind.respType
  results : ∀ k, ∀ y ∈ ys, y.type = k.respType →
    (respResult y = configResultSuccess ↔ ∀ p ∈ xs, kindOf p.1 = some k → p.2 = true)

/-- The IEs of each kind were all applied, or none of them was. -/
def Unmixed (xs : List (Element × Bool)) : Prop :=
  ∀ k, (∀ p ∈ xs, kindOf p.1 = some k → p.2 = true) ∨
    ∀ p ∈ xs, kindOf p.1 = some k → p.2 = false

/-! ### The loop -/

/-- What one IE does to the variables. -/
structure Visited (e : ConfigEnv) (x : Element) (c c' : Configuring) : Prop where
  calls : c'.calls = if takesCall x then c.calls + 1 else c.calls
  processed : ∀ k, c'.processed k = (c.processed k || decide (kindOf x = some k))
  result : ∀ k, c'.result k =
    if kindOf x = some k ∧ applied e c.calls x then configResultSuccess else c.result k

/-- The variables with the mark of a kind. -/
def Configuring.mark (c : Configuring) : ConfigKind → Configuring
  | .systemTime => { c with timeProcessed := true }
  | .cpuPeriod => { c with periodProcessed := true }
  | .cpriWorkMode => { c with modeProcessed := true }

lemma Configuring.mark_calls (c : Configuring) (k : ConfigKind) : (c.mark k).calls = c.calls := by
  cases k <;> rfl

lemma Configuring.mark_result (c : Configuring) (k : ConfigKind) :
    (c.mark k).result = c.result := by
  funext k'
  cases k <;> cases k' <;> rfl

lemma Configuring.mark_processed (c : Configuring) (k : ConfigKind) :
    (c.mark k).processed = Function.update c.processed k true := by
  funext k'
  cases k <;> cases k' <;> rfl

section Visited

variable (e : ConfigEnv) {x : Element} (c : Configuring)

/-- An IE that is refused leaves its kind marked and the rest as it was. -/
lemma visited_refused {k : ConfigKind} (hkind : kindOf x = some k) (hnot : acceptable x = false) :
    Visited e x c (c.mark k) := by
  refine ⟨by simp [takesCall, hnot, c.mark_calls], fun k' => ?_, fun k' => ?_⟩
  · rw [c.mark_processed, hkind]
    rcases eq_or_ne k' k with rfl | hne
    · simp
    · simp [hne, hne.symm]
  · simp [applied, hnot, c.mark_result]

lemma visited_systemTimeCase (hkind : kindOf x = some .systemTime) :
    Visited e x c (systemTimeCase e x.data c) := by
  have hacc : acceptable x = (decide (7 ≤ x.data.length) && validTime x.data) := by
    rw [acceptable, hkind]
  by_cases hok : acceptable x = true
  · obtain ⟨hlen, hvalid⟩ : 7 ≤ x.data.length ∧ validTime x.data = true := by
      simpa [hacc] using hok
    rw [systemTimeCase, if_neg (by omega), if_neg (by simp [hvalid])]
    refine ⟨by simp [takesCall, hok, hkind], fun k => ?_, fun k => ?_⟩
    · cases k <;> simp [Configuring.processed, hkind]
    · cases k <;> simp [Configuring.result, applied, hok, hkind]
  · have hnot : acceptable x = false := Bool.eq_false_of_not_eq_true hok
    have hcase : systemTimeCase e x.data c = c.mark .systemTime := by
      rw [systemTimeCase, Configuring.mark]
      by_cases hshort : x.data.length < 7
      · rw [if_pos hshort]
      · have hvalid : validTime x.data = false := by
          simpa [hacc, Nat.not_lt.1 hshort] using hnot
        rw [if_neg hshort, if_pos (by simp [hvalid])]
    rw [hcase]
    exact visited_refused e c hkind hnot

lemma visited_cpuPeriodCase (hkind : kindOf x = some .cpuPeriod) :
    Visited e x c (cpuPeriodCase x.data c) := by
  have hacc : acceptable x = true ↔ 4 ≤ x.data.length ∧ 1 ≤ leNat (slice x.data 0 4) ∧
      leNat (slice x.data 0 4) ≤ 3600 := by
    simp [acceptable, hkind]
  by_cases hok : acceptable x = true
  · obtain ⟨hlen, hpos, hmax⟩ := hacc.1 hok
    rw [cpuPeriodCase, if_neg (by omega)]
    dsimp only
    rw [if_neg (by omega)]
    refine ⟨by simp [takesCall, hkind], fun k => ?_, fun k => ?_⟩
    · cases k <;> simp [Configuring.processed, hkind]
    · cases k <;> simp [Configuring.result, applied, hok, hkind]
  · have hcase : cpuPeriodCase x.data c = c.mark .cpuPeriod := by
      rw [hacc] at hok
      rw [cpuPeriodCase, Configuring.mark]
      by_cases hshort : x.data.length < 4
      · rw [if_pos hshort]
      · rw [if_neg hshort]
        dsimp only
        rw [if_pos (by omega)]
    rw [hcase]
    exact visited_refused e c hkind (Bool.eq_false_of_not_eq_true hok)

lemma visited_cpriWorkModeCase (hkind : kindOf x = some .cpriWorkMode) :
    Visited e x c (cpriWorkModeCase e x.data c) := by
  have hacc : acceptable x = true ↔ 4 ≤ x.data.length ∧
      leNat (slice x.data 0 4) ≤ cpriModeLoadSharing := by
    simp [acceptable, hkind]
  by_cases hok : acceptable x = true
  · obtain ⟨hlen, hmax⟩ := hacc.1 hok
    rw [cpriWorkModeCase, if_neg (by omega), if_neg (by omega)]
    by_cases happlies : e.applies c.calls = true
    · rw [if_neg (by simp [happlies])]
      refine ⟨by simp [takesCall, hok, hkind], fun k => ?_, fun k => ?_⟩
      · cases k <;> simp [Configuring.processed, hkind]
      · cases k <;> simp [Configuring.result, applied, hok, hkind, happlies]
    · rw [if_pos happlies]
      refine ⟨by simp [takesCall, hok, hkind], fun k => ?_, fun k => ?_⟩
      · cases k <;> simp [Configuring.processed, hkind]
      · cases k <;> simp [Configuring.result, applied, hkind, happlies]
  · have hcase : cpriWorkModeCase e x.data c = c.mark .cpriWorkMode := by
      rw [hacc] at hok
      rw [cpriWorkModeCase, Configuring.mark]
      by_cases hshort : x.data.length < 4
      · rw [if_pos hshort]
      · rw [if_neg hshort, if_pos (by omega)]
    rw [hcase]
    exact visited_refused e c hkind (Bool.eq_false_of_not_eq_true hok)

/-- What the body of the loop does. -/
lemma visited_paramConfigBody : Visited e x c (visit (paramConfigBody e) c x) := by
  rw [visit, paramConfigBody]
  split_ifs with htime hperiod hmode
  · exact visited_systemTimeCase e c (by rw [kindOf, if_pos htime])
  · exact visited_cpuPeriodCase e c (by rw [kindOf, if_neg htime, if_pos hperiod])
  · exact visited_cpriWorkModeCase e c (by rw [kindOf, if_neg htime, if_neg hperiod, if_pos hmode])
  · have hkind : kindOf x = none := by
      rw [kindOf, if_neg htime, if_neg hperiod, if_neg hmode]
    have hnot : acceptable x = false := by rw [acceptable, hkind]
    exact ⟨by simp [takesCall, hnot], fun k => by simp [hkind], fun k => by simp [hkind]⟩

/-- What the loop does: a kind is marked when one of its IEs is met, and its result is success when
one of them is applied. -/
lemma foldl_paramConfigBody (xs : List Element) (k : ConfigKind) :
    (xs.foldl (visit (paramConfigBody e)) c).processed k =
        (c.processed k || occurs k (outcomes e c.calls xs)) ∧
      (xs.foldl (visit (paramConfigBody e)) c).result k =
        if succeeds k (outcomes e c.calls xs) then configResultSuccess else c.result k := by
  induction xs generalizing c with
  | nil => simp [outcomes, occurs, succeeds]
  | cons x xs ih =>
    have hvisited := visited_paramConfigBody e (x := x) c
    obtain ⟨hprocessed, hresult⟩ := ih (visit (paramConfigBody e) c x)
    rw [hvisited.calls, hvisited.processed] at hprocessed
    rw [hvisited.calls, hvisited.result] at hresult
    rw [List.foldl_cons, outcomes]
    constructor
    · rw [hprocessed, occurs, occurs, List.any_cons, Bool.or_assoc]
    · rw [hresult, succeeds, succeeds, List.any_cons]
      -- the IE is applied now, or one of the later ones is
      by_cases hnow : kindOf x = some k ∧ applied e c.calls x = true
      · simp [hnow.1, hnow.2]
      · have hnot : (decide (kindOf x = some k) && applied e c.calls x) = false := by
          simpa using hnow
        rw [if_neg hnow, hnot, Bool.false_or]

end Visited

/-! ### The response -/

/-- The response has the IEs of the kinds that were met, in their order. -/
lemma respIes_eq (c : Configuring) : c.respIes = (configKinds.filter c.processed).map c.resp := by
  rw [Configuring.respIes]
  cases htime : c.timeProcessed <;> cases hperiod : c.periodProcessed <;>
    cases hmode : c.modeProcessed <;>
    simp [configKinds, Configuring.processed, Configuring.resp, htime, hperiod, hmode]

lemma type_resp (c : Configuring) (k : ConfigKind) : (c.resp k).type = k.respType := by
  cases k <;> rfl

/-- The result is at the end of the response IE. -/
lemma respResult_resp (c : Configuring) (k : ConfigKind) :
    respResult (c.resp k) = c.result k % 2 ^ 32 := by
  cases k with
  | systemTime => exact leNat_leBytes 4 _
  | cpuPeriod => exact leNat_leBytes 4 _
  | cpriWorkMode => exact leNat_leBytes 4 _

lemma respType_injective : Function.Injective ConfigKind.respType := by
  intro k k' h
  cases k <;> cases k' <;> first | rfl | exact absurd h (by decide)

/-- The response IE with the type of a kind is that of the kind, and an IE of the kind was met. -/
lemma mem_respIes {c : Configuring} {k : ConfigKind} {y : Element} (hy : y ∈ c.respIes)
    (htype : y.type = k.respType) : y = c.resp k ∧ c.processed k = true := by
  rw [respIes_eq, List.mem_map] at hy
  obtain ⟨k', hk', rfl⟩ := hy
  rw [type_resp] at htype
  obtain rfl := respType_injective htype
  exact ⟨rfl, List.of_mem_filter hk'⟩

/-- A kind that was met has its IE in the response. -/
lemma resp_mem_respIes {c : Configuring} {k : ConfigKind} (hk : c.processed k = true) :
    c.resp k ∈ c.respIes := by
  have hkind : k ∈ configKinds := by cases k <;> decide
  rw [respIes_eq]
  exact List.mem_map_of_mem (List.mem_filter.2 ⟨hkind, hk⟩)

/-- With success for the kinds that have an IE applied, the response is faithful exactly when no
kind is mixed. -/
lemma faithfulResponse_iff {xs : List (Element × Bool)} {c : Configuring}
    (hprocessed : ∀ k, c.processed k = occurs k xs)
    (hresult : ∀ k, c.result k =
      if succeeds k xs then configResultSuccess else configResultFailure) :
    FaithfulResponse xs c.respIes ↔ Unmixed xs := by
  have hsuccess (k : ConfigKind) : respResult (c.resp k) = configResultSuccess ↔
      ∃ p ∈ xs, kindOf p.1 = some k ∧ p.2 = true := by
    have hsome : succeeds k xs = true ↔ ∃ p ∈ xs, kindOf p.1 = some k ∧ p.2 = true := by
      simp [succeeds]
    rw [respResult_resp, hresult, ← hsome]
    split_ifs with happlied
    · exact iff_of_true rfl happlied
    · exact iff_of_false (by decide) happlied
  have hoccurs (k : ConfigKind) : c.processed k = true ↔ ∃ p ∈ xs, kindOf p.1 = some k := by
    rw [hprocessed, occurs, List.any_eq_true]
    simp
  constructor
  · intro h k
    by_cases hsome : ∃ p ∈ xs, kindOf p.1 = some k ∧ p.2 = true
    · obtain ⟨p, hp, hkind, happlied⟩ := hsome
      have hmet : c.processed k = true := (hoccurs k).2 ⟨p, hp, hkind⟩
      exact .inl ((h.results k _ (resp_mem_respIes hmet) (type_resp c k)).1
        ((hsuccess k).2 ⟨p, hp, hkind, happlied⟩))
    · refine .inr fun p hp hkind => Bool.eq_false_of_not_eq_true fun happlied => ?_
      exact hsome ⟨p, hp, hkind, happlied⟩
  · intro h
    refine ⟨?_, fun k y hy htype => ?_⟩
    · have hsame : c.processed = (occurs · xs) := funext hprocessed
      rw [respIes_eq, List.map_map, hsame]
      exact List.map_congr_left fun k _ => type_resp c k
    · obtain ⟨rfl, hmet⟩ := mem_respIes hy htype
      obtain ⟨p, hp, hkind⟩ := (hoccurs k).1 hmet
      rw [hsuccess]
      rcases h k with hall | hnone
      · exact iff_of_true ⟨p, hp, hkind, hall p hp hkind⟩ hall
      · refine iff_of_false ?_ fun hall => ?_
        · rintro ⟨q, hq, hqkind, happlied⟩
          rw [hnone q hq hqkind] at happlied
          cases happlied
        · have happlied := hall p hp hkind
          rw [hnone p hp hkind] at happlied
          cases happlied

/-- `payload_len` is the length of the payload of a request that came as a message of this
length. -/
lemma configPayloadLen_toNat {request : CpriMessage} (hlen : request.payload.length < 2 ^ 16)
    (hheader : request.header.msgLength = cpriHeaderLen + request.payload.length) :
    (configPayloadLen request.header).toNat = request.payload.length := by
  rw [configPayloadLen, hheader, UInt16.toNat_ofNat']
  omega

/-- The IEs of the response to a request. -/
lemma handleConfigIe_payload {e : ConfigEnv} {cpuStatPeriod : ℕ} {request : CpriMessage}
    (hlen : request.payload.length < 2 ^ 16)
    (hheader : request.header.msgLength = cpriHeaderLen + request.payload.length) :
    elements (handleConfigIe e cpuStatPeriod request).1.payload =
      ((elements request.payload).foldl (visit (paramConfigBody e))
        (.start cpuStatPeriod)).respIes := by
  rw [handleConfigIe]
  dsimp only
  rw [elements_encode, configIes, paramConfigLoop_eq _ (configPayloadLen_toNat hlen hheader),
    ieLoop_zero]

/-- The response to a request, whose length is that of the message it came in, is faithful exactly
when the IEs of each kind were all applied or all refused. -/
theorem configResult_faithful_iff (e : ConfigEnv) (cpuStatPeriod : ℕ) {request : CpriMessage}
    (hlen : request.payload.length < 2 ^ 16)
    (hheader : request.header.msgLength = cpriHeaderLen + request.payload.length) :
    FaithfulResponse (outcomes e 0 (elements request.payload))
        (elements (handleConfigIe e cpuStatPeriod request).1.payload) ↔
      Unmixed (outcomes e 0 (elements request.payload)) := by
  rw [handleConfigIe_payload hlen hheader]
  have hloop := foldl_paramConfigBody e (.start cpuStatPeriod) (elements request.payload)
  refine faithfulResponse_iff (fun k => ?_) (fun k => ?_)
  · rw [(hloop k).1]
    cases k <;> rfl
  · rw [(hloop k).2]
    cases k <;> rfl

/-- An IE with a CPU period. -/
def periodIe (period : UInt8) : Element where
  type := ieCpuPeriodConfig
  data := [period, 0, 0, 0]
  size_lt := by simp

/-- The bytes of two IEs with a CPU period. -/
def twoPeriods (first second : UInt8) : Bytes :=
  [periodIe first, periodIe second].flatMap Element.encode

/-- Two periods that are in range: both are applied, and the response says success. -/
theorem configResult_faithful_twoPeriods :
    FaithfulResponse [(periodIe 60, true), (periodIe 30, true)]
      (elements (handleConfigIe ⟨fun _ => true, fun _ => none⟩ 5
        ⟨⟨61, 31, 1, 2, 0, 7⟩, twoPeriods 60 30⟩).1.payload) := by
  have happlied : outcomes ⟨fun _ => true, fun _ => none⟩ 0 (elements (twoPeriods 60 30)) =
      [(periodIe 60, true), (periodIe 30, true)] := by
    rw [twoPeriods, elements_encode]
    decide
  have hfaithful := @configResult_faithful_iff ⟨fun _ => true, fun _ => none⟩ 5
    ⟨⟨61, 31, 1, 2, 0, 7⟩, twoPeriods 60 30⟩ (by decide) (by decide)
  rw [happlied] at hfaithful
  exact hfaithful.2 fun k => .inl (by simp)

/-- A period of 60 seconds and one of 0: the second is refused, and the response says success. -/
theorem configResult_mixed :
    ¬ ∀ (e : ConfigEnv) (cpuStatPeriod : ℕ) (request : CpriMessage),
      request.payload.length < 2 ^ 16 →
      request.header.msgLength = cpriHeaderLen + request.payload.length →
      FaithfulResponse (outcomes e 0 (elements request.payload))
        (elements (handleConfigIe e cpuStatPeriod request).1.payload) := by
  intro h
  have hresults := (h ⟨fun _ => true, fun _ => none⟩ 5
    ⟨⟨61, 31, 1, 2, 0, 7⟩, twoPeriods 60 0⟩ (by decide) (by decide)).results
  rw [handleConfigIe_payload (by decide) (by decide), twoPeriods, elements_encode] at hresults
  have hall := (hresults .cpuPeriod (resultResp 553 0) (by decide) rfl).1 (by decide)
  exact absurd (hall (periodIe 0, false) (by decide) (by decide)) (by decide)

end AntennaMgmt.Handlers
