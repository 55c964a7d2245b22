import AntennaMgmt.Cell.Jobs
import AntennaMgmt.Handlers.ParamConfig
import AntennaMgmt.Handlers.Setup
import AntennaMgmt.Handlers.Transparent
import AntennaMgmt.Query.Param

/-!
# The walks over the IEs of a payload

The handlers go through the IEs of a payload with loops of their own, which check the length of an
IE in different orders and integer widths.  They all visit the elements of the payload, up to the
first position at which none is complete.
-/

namespace AntennaMgmt.Handlers

open AntennaMgmt.Lib AntennaMgmt.Cpri AntennaMgmt.Cell AntennaMgmt.Query

variable {σ : Type*}

/-- A visit to an element by the body of a loop. -/
def visit (body : UInt16 → Bytes → σ → σ) (s : σ) (x : Element) : σ := body x.type x.data s

/-! ### The loops -/

/-- The loop with counters of 16 bits, on a payload whose length it is given. -/
lemma paramConfigLoop_eq (body : UInt16 → Bytes → σ → σ) {payload : Bytes} {payloadLen : UInt16}
    (hlen : payloadLen.toNat = payload.length) (offset : ℕ) (s : σ) :
    paramConfigLoop body payload payloadLen offset s = ieLoop body payload offset s := by
  have hlt := payloadLen.toNat_lt
  induction offset, s using ieLoop.induct body payload with
  | case1 offset s hroom ieType ieLen hieLen ih =>
    have hend := hieLen.2
    have hvalue : ieLen = leNat (slice payload (offset + 2) 2) := rfl
    have hnext : (offset + ieLen) % 2 ^ 16 = offset + ieLen := Nat.mod_eq_of_lt (by omega)
    rw [paramConfigLoop, if_pos (by omega), if_neg (by omega), if_neg (by omega), ← hvalue, hnext,
      ih, ieLoop.eq_def body payload offset, if_pos hroom, if_pos hieLen]
  | case2 offset s hroom ieLen hieLen =>
    have hvalue : ieLen = leNat (slice payload (offset + 2) 2) := rfl
    rw [paramConfigLoop, if_pos (by omega), if_neg (by omega), if_pos (by omega), ieLoop,
      if_pos hroom, if_neg hieLen]
  | case3 offset s hroom =>
    rw [ieLoop, if_neg hroom]
    by_cases hin : offset < payloadLen.toNat
    · rw [paramConfigLoop, if_pos hin, if_pos (by omega)]
    · rw [paramConfigLoop, if_neg hin]

/-- The loop that gives up visits the same IEs, and gives up at a header with an invalid length. -/
lemma transparentLoop_eq (body : UInt16 → Bytes → σ → σ) (payload : Bytes) (offset : ℕ) (s : σ) :
    transparentLoop body payload offset s =
      (decide ((afterElements (payload.drop offset)).length < 4),
        ieLoop body payload offset s) := by
  induction offset, s using ieLoop.induct body payload with
  | case1 offset s hroom ieType ieLen hieLen ih =>
    have hcomplete := complete_drop_iff.2 ⟨hroom, hieLen⟩
    have hvalue : ieLen = leNat (slice payload (offset + 2) 2) := rfl
    rw [transparentLoop, if_pos hroom, if_neg (by omega), if_neg (by omega), ← hvalue, ih,
      afterElements_of_complete hcomplete, elementLength_drop, List.drop_drop, ← hvalue,
      ieLoop.eq_def body payload offset, if_pos hroom, if_pos hieLen]
  | case2 offset s hroom ieLen hieLen =>
    have hcomplete : ¬ Complete (payload.drop offset) := fun h => hieLen (complete_drop_iff.1 h).2
    have hvalue : ieLen = leNat (slice payload (offset + 2) 2) := rfl
    have hleft : ¬ (afterElements (payload.drop offset)).length < 4 := by
      rw [afterElements_of_not_complete hcomplete, List.length_drop]
      omega
    rw [transparentLoop, if_pos hroom, ieLoop, if_pos hroom, if_neg hieLen, decide_eq_false hleft]
    by_cases hmin : ieLen < 4
    · rw [if_pos hmin]
    · rw [if_neg hmin, if_pos (by omega)]
  | case3 offset s hroom =>
    have hcomplete : ¬ Complete (payload.drop offset) := fun h => hroom (complete_drop_iff.1 h).1
    have hleft : (afterElements (payload.drop offset)).length < 4 := by
      rw [afterElements_of_not_complete hcomplete, List.length_drop]
      omega
    rw [transparentLoop, if_neg hroom, ieLoop, if_neg hroom, decide_eq_true hleft]

/-! ### The handlers -/

/-- A message with a length that agrees with its payload has the payload's length for the loop of
16 bits. -/
lemma configPayloadLen_eq {header : CpriHeader} {payload : Bytes} (hlen : payload.length ≤ 8177)
    (hheader : header.msgLength = cpriHeaderLen + payload.length) :
    (configPayloadLen header).toNat = payload.length := by
  rw [configPayloadLen, hheader, UInt16.toNat_ofNat']
  omega

/-- A content IE is noted, and it is not forgotten at a later IE. -/
lemma hasContentIe_visit (p : TransparentParse) (x : Element) :
    (visit transparentBody p x).hasContentIe = true ↔
      p.hasContentIe = true ∨ x.type = ieTransparentContent := by
  rw [visit, transparentBody]
  split_ifs with htarget hroom hcontent
  · have hne : x.type ≠ ieTransparentContent := by
      rw [htarget]
      decide
    simp only [hne, or_false]
  · have hne : x.type ≠ ieTransparentContent := by
      rw [htarget]
      decide
    simp only [hne, or_false]
  · simp only [hcontent, or_true]
  · simp only [hcontent, or_false]

/-- Whether there was a content IE is known behind the last IE. -/
lemma hasContentIe_foldl (xs : List Element) (p : TransparentParse) :
    (xs.foldl (visit transparentBody) p).hasContentIe = true ↔
      p.hasContentIe = true ∨ ∃ x ∈ xs, x.type = ieTransparentContent := by
  induction xs generalizing p with
  | nil => simp
  | cons x xs ih => rw [List.foldl_cons, ih, hasContentIe_visit, List.exists_mem_cons_iff, or_assoc]

/-- The elements are the longest prefix of the payload that is made of IEs, and `rest` is behind
them. -/
structure LongestWalk (payload : Bytes) (xs : List Element) (rest : Bytes) : Prop where
  payload_eq : xs.flatMap Element.encode ++ rest = payload
  longest : ∀ ys : List Element, ys.flatMap Element.encode <+: payload → ys <+: xs

/-- A header is at the front and its length is invalid. -/
def InvalidHeader (rest : Bytes) : Prop :=
  4 ≤ rest.length ∧ (elementLength rest < 4 ∨ rest.length < elementLength rest)

/-- Every handler has visited the elements, in their order, and nothing else. -/
structure AllVisit (request : CpriMessage) (xs : List Element) : Prop where
  channelSetup : channelSetupHandleConfig request = xs.foldl (visit setupConfigBody) []
  statusQuery : ∀ e, statusQueryCreateResponse e request =
    xs.foldl (visit (statusQueryBody e)) .empty
  paramQuery : ∀ mallocOk env, paramQueryHandleRequest mallocOk env request =
    (xs.foldl (visit (paramQueryBody mallocOk env)) ⟨.empty, 0⟩).payload
  cellConfig : ∀ env mallocOk s, cellConfigCreateResponse env mallocOk request s =
    xs.foldl (visit (createResponseBody env mallocOk)) ⟨s, .empty, 0⟩
  busyResponse : ∀ mallocOk, cellConfigSendBusyResponse mallocOk request =
    let p := xs.foldl (visit (busyResponseBody mallocOk)) .empty
    if p.bytes.length = 0 then none
    else respond cellCfgRespBufSize (cellConfigRspHeader request.header) p
  paramConfig : ∀ e cpuStatPeriod, configIes e cpuStatPeriod request =
    xs.foldl (visit (paramConfigBody e)) (.start cpuStatPeriod)
  transparent : ∃ effectiveLen, (transparentMsgParse request.payload).2 =
    { (xs.foldl (visit transparentBody) .start).data with effectiveLen := effectiveLen }

/-- The elements of a payload are the longest walk. -/
lemma longestWalk_elements (payload : Bytes) :
    LongestWalk payload (elements payload) (afterElements payload) where
  payload_eq := flatMap_encode_elements payload
  longest := fun _ => prefix_elements

/-- What is left has an invalid header as soon as it has one. -/
lemma invalidHeader_afterElements (payload : Bytes) :
    InvalidHeader (afterElements payload) ↔ 4 ≤ (afterElements payload).length := by
  have hnot := not_complete_afterElements payload
  rw [Complete] at hnot
  rw [InvalidHeader]
  omega

/-- The loop over a whole payload visits its elements. -/
lemma ieLoop_zero (body : UInt16 → Bytes → σ → σ) (payload : Bytes) (s : σ) :
    ieLoop body payload 0 s = (elements payload).foldl (visit body) s := by
  rw [ieLoop_eq, List.drop_zero]
  rfl

/-- What `transparent_msg_parse` gets from its loop. -/
lemma transparentMsgParse_loop (payload : Bytes) :
    (∃ effectiveLen, (transparentMsgParse payload).2 =
      { (transparentLoop transparentBody payload 0 .start).2.data with
          effectiveLen := effectiveLen }) ∧
    ((transparentMsgParse payload).1 = false ↔
      (transparentLoop transparentBody payload 0 .start).1 = false ∨
        ¬ (transparentLoop transparentBody payload 0 .start).2.hasContentIe = true) := by
  rw [transparentMsgParse]
  split_ifs with hshort
  · have hloop : transparentLoop transparentBody payload 0 .start = (true, .start) := by
      rw [transparentLoop, if_neg (by omega)]
    rw [hloop]
    exact ⟨⟨0, rfl⟩, by simp [TransparentParse.start]⟩
  · obtain ⟨ended, p⟩ := transparentLoop transparentBody payload 0 .start
    cases ended with
    | false => exact ⟨⟨p.data.effectiveLen, rfl⟩, by simp⟩
    | true =>
      dsimp only
      split_ifs with hcontent
      · exact ⟨⟨_, rfl⟩, by simp [hcontent]⟩
      · exact ⟨⟨p.data.effectiveLen, rfl⟩, by simp [hcontent]⟩

/-- The handlers visit the elements of the payload. -/
lemma allVisit_elements {header : CpriHeader} {payload : Bytes} (hlen : payload.length ≤ 8177)
    (hheader : header.msgLength = cpriHeaderLen + payload.length) :
    AllVisit ⟨header, payload⟩ (elements payload) where
  channelSetup := ieLoop_zero _ payload _
  statusQuery := fun _ => ieLoop_zero _ payload _
  paramQuery := by
    intro mallocOk env
    have hshort : payload.length < 65532 := by omega
    rw [paramQueryHandleRequest, paramQueryLoop_eq _ hshort, ieLoop_zero]
  cellConfig := fun _ _ _ => ieLoop_zero _ payload _
  busyResponse := by
    intro mallocOk
    rw [cellConfigSendBusyResponse, ieLoop_zero]
  paramConfig := by
    intro e cpuStatPeriod
    rw [configIes, paramConfigLoop_eq _ (configPayloadLen_eq hlen hheader), ieLoop_zero]
  transparent := by
    have hdata := (transparentMsgParse_loop payload).1
    rwa [transparentLoop_eq, ieLoop_zero] at hdata

/-- **All walks over the IEs agree.**  On a payload of at most 8177 bytes every handler visits
the same IEs, those of the longest prefix of the payload that is made of IEs;
`transparent_msg_parse` fails exactly when a header with an invalid length is behind them or there
is no content IE among them. -/
theorem ieWalks_agree {header : CpriHeader} {payload : Bytes} (hlen : payload.length ≤ 8177)
    (hheader : header.msgLength = cpriHeaderLen + payload.length) :
    ∃ xs rest, LongestWalk payload xs rest ∧ AllVisit ⟨header, payload⟩ xs ∧
      ((transparentMsgParse payload).1 = false ↔
        InvalidHeader rest ∨ ¬ ∃ x ∈ xs, x.type = ieTransparentContent) := by
  refine ⟨elements payload, afterElements payload, longestWalk_elements payload,
    allVisit_elements hlen hheader, ?_⟩
  rw [(transparentMsgParse_loop payload).2, transparentLoop_eq, ieLoop_zero, List.drop_zero,
    hasContentIe_foldl, invalidHeader_afterElements, decide_eq_false_iff_not, Nat.not_lt]
  simp [TransparentParse.start]

/-- The theorem at a payload that ends in a header with a length of 3. -/
theorem ieWalks_agree_invalidLength :
    let payload : Bytes := [0x42, 0x06, 0x05, 0x00, 0xAA, 0x0B, 0x00, 0x03, 0x00]
    ∃ xs rest, LongestWalk payload xs rest ∧
      AllVisit ⟨⟨61, 24, 0, 0, 0, 7⟩, payload⟩ xs ∧
      ((transparentMsgParse payload).1 = false ↔
        InvalidHeader rest ∨ ¬ ∃ x ∈ xs, x.type = ieTransparentContent) :=
  ieWalks_agree (by decide) (by decide)

end AntennaMgmt.Handlers
