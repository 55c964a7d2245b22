import AntennaMgmt.Cpri.Codec
import AntennaMgmt.Lib.Tlv

/-!
# Requests and answers made of IEs

A request handler goes through the IEs of the payload and adds the IEs of its answer to a buffer
that is allocated with the first of them.  The answer is then encoded into a buffer of the
sender.  The file says when such an answer is sent with every IE that was added.
-/

namespace AntennaMgmt.Cpri

open AntennaMgmt.Lib

/-! ### Going through a payload -/

/-- The loop of a handler over the IEs of a payload from an offset on; `body` is given the type
and the data of an IE. -/
def ieLoop {σ : Type*} (body : UInt16 → Bytes → σ → σ) (payload : Bytes) (offset : ℕ) (s : σ) :
    σ :=
  if offset + 4 ≤ payload.length then
    let ieType := UInt16.ofNat (leNat (slice payload offset 2))
    let ieLen := leNat (slice payload (offset + 2) 2)
    if 4 ≤ ieLen ∧ offset + ieLen ≤ payload.length then
      ieLoop body payload (offset + ieLen)
        (body ieType (slice payload (offset + 4) (ieLen - 4)) s)
    else s
  else s
termination_by payload.length - offset
decreasing_by
  rename_i h
  obtain ⟨hmin, hend⟩ := h
  omega

/-- The loop visits the elements of the payload in their order. -/
lemma ieLoop_eq {σ : Type*} (body : UInt16 → Bytes → σ → σ) (payload : Bytes) (offset : ℕ)
    (s : σ) : ieLoop body payload offset s =
      (elements (payload.drop offset)).foldl (fun s x => body x.type x.data s) s := by
  induction offset, s using ieLoop.induct body payload with
  | case1 offset s hroom ieType ieLen hlen ih =>
    have hcomplete := complete_drop_iff.2 ⟨hroom, hlen⟩
    have htype : (firstElement (payload.drop offset)).type = ieType := by
      change UInt16.ofNat (leNat (slice (payload.drop offset) 0 2)) = _
      rw [slice, List.drop_drop]
      rfl
    have hdata : (firstElement (payload.drop offset)).data =
        slice payload (offset + 4) (ieLen - 4) := by
      change slice (payload.drop offset) 4 (elementLength (payload.drop offset) - 4) = _
      rw [elementLength_drop, slice, List.drop_drop]
      rfl
    rw [ieLoop, if_pos hroom, if_pos hlen, ih, elements_of_complete hcomplete, List.foldl_cons,
      List.drop_drop, htype, hdata, elementLength_drop]
  | case2 offset s hroom ieLen hlen =>
    have hcomplete : ¬ Complete (payload.drop offset) := fun h => hlen (complete_drop_iff.1 h).2
    rw [ieLoop, if_pos hroom, if_neg hlen, elements_of_not_complete hcomplete, List.foldl_nil]
  | case3 offset s hroom =>
    have hcomplete : ¬ Complete (payload.drop offset) := fun h => hroom (complete_drop_iff.1 h).1
    rw [ieLoop, if_neg hroom, elements_of_not_complete hcomplete, List.foldl_nil]

/-! ### Adding the IEs of an answer -/

/-- The payload of an answer as it grows, `none` for the null pointer, and how often `malloc`
was called for it. -/
structure IePayload where
  buffer : Option Bytes
  mallocs : ℕ

namespace IePayload

/-- The payload before the first IE. -/
def empty : IePayload := ⟨none, 0⟩

/-- The bytes of the payload. -/
def bytes (p : IePayload) : Bytes := p.buffer.getD []

end IePayload

/-- An IE written behind the others, if the buffer has room for it. -/
def appendIe (maxPayload : ℕ) (x : Element) (bytes : Bytes) : Bytes :=
  if maxPayload < bytes.length + x.encode.length then bytes else bytes ++ x.encode

/-- `add_ie` with a buffer of `maxPayload` bytes; `mallocOk n` says whether call `n` of `malloc`
succeeds. -/
def addIe (maxPayload : ℕ) (mallocOk : ℕ → Bool) (x : Element) (p : IePayload) : IePayload :=
  match p.buffer with
  | some bytes => ⟨some (appendIe maxPayload x bytes), p.mallocs⟩
  | none =>
    if mallocOk p.mallocs then ⟨some (appendIe maxPayload x []), p.mallocs + 1⟩
    else ⟨none, p.mallocs + 1⟩

/-- The IEs added one after the other. -/
def addAll (maxPayload : ℕ) (mallocOk : ℕ → Bool) (xs : List Element) (p : IePayload) :
    IePayload :=
  xs.foldl (fun p x => addIe maxPayload mallocOk x p) p

section Adding

variable (maxPayload : ℕ) (mallocOk : ℕ → Bool)

/-- What `add_ie` does: the IE is lost, or it is written and the buffer has room for it. -/
lemma addIe_cases (x : Element) (p : IePayload) :
    (addIe maxPayload mallocOk x p).bytes = p.bytes ∨
    ((addIe maxPayload mallocOk x p).bytes = p.bytes ++ x.encode ∧
      p.bytes.length + x.encode.length ≤ maxPayload) := by
  have happend : ∀ bytes, appendIe maxPayload x bytes = bytes ∨
      (appendIe maxPayload x bytes = bytes ++ x.encode ∧
        bytes.length + x.encode.length ≤ maxPayload) := by
    intro bytes
    rw [appendIe]
    split_ifs with hfull
    · exact .inl rfl
    · exact .inr ⟨rfl, Nat.not_lt.1 hfull⟩
  obtain ⟨buffer, mallocs⟩ := p
  cases buffer with
  | some bytes => exact happend bytes
  | none =>
    cases hmalloc : mallocOk mallocs with
    | true =>
      rw [addIe]
      simp only [hmalloc, if_true]
      exact happend []
    | false =>
      rw [addIe]
      simp only [hmalloc, Bool.false_eq_true, if_false]
      exact .inl rfl

variable {maxPayload mallocOk}

/-- An IE that the buffer has room for is written, once there is a buffer. -/
lemma addIe_of_le {x : Element} {p : IePayload}
    (hmalloc : p.buffer = none → mallocOk p.mallocs = true)
    (hroom : p.bytes.length + x.encode.length ≤ maxPayload) :
    (addIe maxPayload mallocOk x p).buffer = some (p.bytes ++ x.encode) := by
  obtain ⟨buffer, mallocs⟩ := p
  cases buffer with
  | some bytes => exact congrArg some (if_neg (Nat.not_lt.2 hroom))
  | none =>
    rw [addIe, if_pos (hmalloc rfl)]
    exact congrArg some (if_neg (Nat.not_lt.2 hroom))

variable (mallocOk) in
/-- The payload holds some of the IEs in their order, within the size of the buffer. -/
lemma addAll_bytes (xs : List Element) (p : IePayload) (hp : p.bytes.length ≤ maxPayload) :
    ∃ kept : List Element, kept.Sublist xs ∧
      (addAll maxPayload mallocOk xs p).bytes = p.bytes ++ kept.flatMap Element.encode ∧
      (addAll maxPayload mallocOk xs p).bytes.length ≤ maxPayload := by
  induction xs generalizing p with
  | nil => exact ⟨[], .slnil, (List.append_nil _).symm, hp⟩
  | cons x xs ih =>
    rcases addIe_cases maxPayload mallocOk x p with hlost | ⟨hkept, hroom⟩
    · obtain ⟨kept, hsub, hbytes, hlen⟩ := ih (addIe maxPayload mallocOk x p) (by rwa [hlost])
      exact ⟨kept, hsub.cons x, by rw [addAll, List.foldl_cons, ← addAll, hbytes, hlost], hlen⟩
    · obtain ⟨kept, hsub, hbytes, hlen⟩ := ih (addIe maxPayload mallocOk x p)
        (by rwa [hkept, List.length_append])
      refine ⟨x :: kept, hsub.cons_cons x, ?_, hlen⟩
      rw [addAll, List.foldl_cons, ← addAll, hbytes, hkept, List.flatMap_cons, List.append_assoc]

/-- The payload holds every IE when the buffer is there and has room for them all. -/
lemma addAll_of_le (xs : List Element) (p : IePayload)
    (hmalloc : p.buffer = none → xs ≠ [] → mallocOk p.mallocs = true)
    (hroom : p.bytes.length + (xs.flatMap Element.encode).length ≤ maxPayload) :
    (addAll maxPayload mallocOk xs p).bytes = p.bytes ++ xs.flatMap Element.encode := by
  induction xs generalizing p with
  | nil => exact (List.append_nil _).symm
  | cons x xs ih =>
    rw [List.flatMap_cons, List.length_append] at hroom
    have hstep : (addIe maxPayload mallocOk x p).buffer = some (p.bytes ++ x.encode) :=
      addIe_of_le (fun h => hmalloc h (List.cons_ne_nil x xs)) (by omega)
    have hbytes : (addIe maxPayload mallocOk x p).bytes = p.bytes ++ x.encode := by
      rw [IePayload.bytes, hstep, Option.getD_some]
    rw [addAll, List.foldl_cons, ← addAll, ih, hbytes, List.flatMap_cons, List.append_assoc]
    · intro hnone
      rw [hstep] at hnone
      cases hnone
    · rw [hbytes, List.length_append]
      omega

/-- Without a buffer the first IE is lost. -/
lemma addAll_malloc_failed {x : Element} {xs : List Element} (h : mallocOk 0 = false) :
    addAll maxPayload mallocOk (x :: xs) .empty = addAll maxPayload mallocOk xs ⟨none, 1⟩ := by
  have hstep : addIe maxPayload mallocOk x .empty = ⟨none, 1⟩ := by
    rw [IePayload.empty, addIe, if_neg (by simp [h])]
  rw [addAll, List.foldl_cons, hstep, addAll]

end Adding

/-! ### Sending an answer -/

/-- What `tcp_client_send` is given for an answer that is encoded into a buffer of `bufferSize`
bytes, or nothing when the encoding fails. -/
def respond (bufferSize : ℕ) (header : CpriHeader) (p : IePayload) : Option Bytes :=
  (cpriEncodeMessage ⟨header, p.bytes⟩ (List.replicate bufferSize 0)).map fun r => r.2.take r.1

/-- A message was sent that has the header and whose IEs are the given ones. -/
def AnsweredBy (sent : Option Bytes) (header : CpriHeader) (xs : List Element) : Prop :=
  ∃ payload, sent = some (encodeHeader header (cpriHeaderLen + payload.length) ++ payload) ∧
    elements payload = xs

/-- An answer is sent when it fits the buffer of the sender. -/
lemma respond_eq {bufferSize : ℕ} {header : CpriHeader} {p : IePayload}
    (hp : cpriHeaderLen + p.bytes.length < 2 ^ 32) : respond bufferSize header p =
      if cpriHeaderLen + p.bytes.length ≤ bufferSize then
        some (encodeHeader header (cpriHeaderLen + p.bytes.length) ++ p.bytes)
      else none := by
  split_ifs with hfits
  · rw [respond, cpriEncodeMessage_of_le hp (by rwa [List.length_replicate])]
    refine congrArg some (List.take_left' ?_)
    rw [List.length_append, length_encodeHeader]
  · rw [respond, cpriEncodeMessage, Nat.mod_eq_of_lt hp]
    simp only [List.length_replicate, if_pos (Nat.not_le.1 hfits), Option.map_none]

/-- **Exactly when an answer is complete.**  The message sent has the IEs that were added if and
only if they fit the buffer of the sender and there was a buffer for the first of them. -/
theorem answeredBy_respond_iff {maxPayload bufferSize : ℕ} {mallocOk : ℕ → Bool}
    (hmax : cpriHeaderLen + maxPayload < 2 ^ 32)
    (hbuffer : bufferSize ≤ cpriHeaderLen + maxPayload) (header : CpriHeader)
    (xs : List Element) :
    AnsweredBy (respond bufferSize header (addAll maxPayload mallocOk xs .empty)) header xs ↔
      cpriHeaderLen + (xs.flatMap Element.encode).length ≤ bufferSize ∧
        (xs = [] ∨ mallocOk 0 = true) := by
  obtain ⟨kept, hsub, hbytes, hlen⟩ := addAll_bytes mallocOk xs .empty
    (Nat.zero_le maxPayload)
  rw [respond_eq (by omega)]
  constructor
  · rintro ⟨payload, hsent, hall⟩
    split_ifs at hsent with hfits
    have hpayload := (List.append_inj (Option.some.inj hsent) (by simp)).2
    have hkept : kept = xs := by
      rw [← hall, ← hpayload, hbytes]
      exact (elements_encode kept).symm
    refine ⟨?_, ?_⟩
    · rw [hbytes, hkept] at hfits
      exact hfits
    · cases xs with
      | nil => exact .inl rfl
      | cons x xs =>
        refine .inr (Bool.eq_true_of_not_eq_false fun hfail => ?_)
        -- one of the IEs is lost, so that not all of them can be there
        obtain ⟨kept', hsub', hbytes', -⟩ := addAll_bytes mallocOk xs ⟨none, 1⟩
          (Nat.zero_le maxPayload)
        rw [addAll_malloc_failed hfail, hbytes'] at hbytes
        have hsame : kept' = x :: xs := by
          rw [← hkept, ← elements_encode kept', ← elements_encode kept]
          exact congrArg elements hbytes
        have hle := hsub'.length_le
        rw [hsame, List.length_cons] at hle
        omega
  · rintro ⟨hfits, hmalloc⟩
    have hall : (addAll maxPayload mallocOk xs .empty).bytes = xs.flatMap Element.encode :=
      addAll_of_le xs .empty (fun _ hne => hmalloc.resolve_left hne)
        (by rw [show IePayload.empty.bytes.length = 0 from rfl]; omega)
    rw [hall, if_pos hfits]
    exact ⟨_, rfl, elements_encode xs⟩

end AntennaMgmt.Cpri
