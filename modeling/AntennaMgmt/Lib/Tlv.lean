import AntennaMgmt.Lib.Bytes
import Mathlib.Tactic.SplitIfs

/-!
# Elements of a type, a length and data

A message body is a sequence of elements.  An element starts with its type and its length, two
bytes each in little-endian order, and the length counts these four bytes.  A reader takes
elements off the front of a body for as long as one is complete there.
-/

namespace AntennaMgmt.Lib

/-- An element, short enough for its length to be written in two bytes. -/
structure Element where
  type : UInt16
  data : Bytes
  size_lt : 4 + data.length < 2 ^ 16
deriving DecidableEq

namespace Element

/-- The bytes of an element. -/
def encode (x : Element) : Bytes :=
  leBytes 2 x.type.toNat ++ leBytes 2 (4 + x.data.length) ++ x.data

@[simp] lemma length_encode (x : Element) : x.encode.length = 4 + x.data.length := by
  simp only [encode, List.length_append, length_leBytes]

/-- Only the empty sequence takes no bytes. -/
lemma length_flatMap_encode_eq_zero {xs : List Element} :
    (xs.flatMap encode).length = 0 ↔ xs = [] := by
  cases xs with
  | nil => simp
  | cons x xs =>
    rw [List.flatMap_cons, List.length_append, length_encode]
    simp

end Element

/-- The length that is written at the front of a body. -/
def elementLength (bs : Bytes) : ℕ := leNat (slice bs 2 2)

lemma elementLength_lt (bs : Bytes) : elementLength bs < 2 ^ 16 := by
  have hlt := leNat_lt (slice bs 2 2)
  have hlen : (slice bs 2 2).length ≤ 2 := List.length_take_le _ _
  calc elementLength bs < 256 ^ (slice bs 2 2).length := hlt
    _ ≤ 256 ^ 2 := Nat.pow_le_pow_right (by norm_num) hlen
    _ = 2 ^ 16 := by norm_num

/-- A complete element is at the front of the body. -/
def Complete (bs : Bytes) : Prop :=
  4 ≤ bs.length ∧ 4 ≤ elementLength bs ∧ elementLength bs ≤ bs.length

instance (bs : Bytes) : Decidable (Complete bs) := inferInstanceAs (Decidable (_ ∧ _))

/-- The element at the front of a body. -/
def firstElement (bs : Bytes) : Element where
  type := UInt16.ofNat (leNat (slice bs 0 2))
  data := slice bs 4 (elementLength bs - 4)
  size_lt := by
    have hlen : (slice bs 4 (elementLength bs - 4)).length ≤ elementLength bs - 4 :=
      List.length_take_le _ _
    have hlt := elementLength_lt bs
    omega

/-- The length that is written at a position of a body. -/
lemma elementLength_drop (bs : Bytes) (o : ℕ) :
    elementLength (bs.drop o) = leNat (slice bs (o + 2) 2) := by
  rw [elementLength, slice, slice, List.drop_drop]

/-- A complete element is at a position of a body. -/
lemma complete_drop_iff {bs : Bytes} {o : ℕ} : Complete (bs.drop o) ↔ o + 4 ≤ bs.length ∧
    4 ≤ leNat (slice bs (o + 2) 2) ∧ o + leNat (slice bs (o + 2) 2) ≤ bs.length := by
  rw [Complete, elementLength_drop, List.length_drop]
  omega

/-- The elements of a body, up to the first position at which none is complete. -/
def elements (bs : Bytes) : List Element :=
  if Complete bs then firstElement bs :: elements (bs.drop (elementLength bs)) else []
termination_by bs.length
decreasing_by
  rename_i h
  obtain ⟨hmin, hlen, -⟩ := h
  rw [List.length_drop]
  omega

lemma elements_of_complete {bs : Bytes} (h : Complete bs) :
    elements bs = firstElement bs :: elements (bs.drop (elementLength bs)) := by
  rw [elements, if_pos h]

lemma elements_of_not_complete {bs : Bytes} (h : ¬ Complete bs) : elements bs = [] := by
  rw [elements, if_neg h]

@[simp] lemma elements_nil : elements [] = [] :=
  elements_of_not_complete fun h => absurd h.1 (by simp)

/-- The length of an element is read back. -/
lemma elementLength_encode (x : Element) (rest : Bytes) :
    elementLength (x.encode ++ rest) = x.encode.length := by
  have hfield : slice (x.encode ++ rest) 2 2 = leBytes 2 (4 + x.data.length) := rfl
  rw [elementLength, hfield, leNat_leBytes, Element.length_encode]
  exact Nat.mod_eq_of_lt x.size_lt

lemma complete_encode (x : Element) (rest : Bytes) : Complete (x.encode ++ rest) := by
  rw [Complete, elementLength_encode, List.length_append, Element.length_encode]
  omega

/-- An element is read back. -/
lemma firstElement_encode (x : Element) (rest : Bytes) :
    firstElement (x.encode ++ rest) = x := by
  have htype : slice (x.encode ++ rest) 0 2 = leBytes 2 x.type.toNat := rfl
  have hdata : slice (x.encode ++ rest) 4 (x.encode.length - 4) = x.data := by
    rw [Element.length_encode, Nat.add_sub_cancel_left]
    exact List.take_left
  obtain ⟨type, data, hsize⟩ := x
  rw [firstElement]
  congr 1
  · have hlt : type.toNat < 256 ^ 2 := type.toNat_lt
    rw [htype, leNat_leBytes, Nat.mod_eq_of_lt hlt]
    exact UInt16.ofNat_toNat
  · rw [elementLength_encode]
    exact hdata

/-- A sequence of elements is read back, whatever follows it. -/
lemma elements_encode_append (xs : List Element) (rest : Bytes) :
    elements (xs.flatMap Element.encode ++ rest) = xs ++ elements rest := by
  induction xs with
  | nil => rfl
  | cons x xs ih =>
    rw [List.flatMap_cons, List.append_assoc, elements_of_complete (complete_encode x _),
      firstElement_encode, elementLength_encode, List.drop_left, ih, List.cons_append]

/-- A sequence of elements is read back. -/
lemma elements_encode (xs : List Element) : elements (xs.flatMap Element.encode) = xs := by
  have h := elements_encode_append xs []
  rwa [List.append_nil, elements_nil, List.append_nil] at h

/-- A complete element is the front of the body. -/
lemma encode_firstElement {bs : Bytes} (h : Complete bs) :
    (firstElement bs).encode ++ bs.drop (elementLength bs) = bs := by
  obtain ⟨hroom, hmin, hfits⟩ := h
  have htype : (firstElement bs).type.toNat = leNat (slice bs 0 2) := by
    have hlt := leNat_lt (slice bs 0 2)
    rw [length_slice (by omega)] at hlt
    exact UInt16.toNat_ofNat_of_lt' hlt
  have hdata : (firstElement bs).data = slice bs 4 (elementLength bs - 4) := rfl
  have hlen : 4 + (firstElement bs).data.length = leNat (slice bs 2 2) := by
    rw [hdata, length_slice (by omega)]
    exact Nat.add_sub_cancel' hmin
  have hall : slice bs 0 2 ++ slice bs 2 2 ++ slice bs 4 (elementLength bs - 4) =
      bs.take (elementLength bs) := by
    rw [← slice_add, ← slice_add, show 2 + 2 + (elementLength bs - 4) = elementLength bs by omega]
    rfl
  rw [Element.encode, htype, hlen, leBytes_leNat_slice (by omega), leBytes_leNat_slice (by omega),
    hdata, hall, List.take_append_drop]

/-- What is left of a body behind its elements. -/
def afterElements (bs : Bytes) : Bytes :=
  if Complete bs then afterElements (bs.drop (elementLength bs)) else bs
termination_by bs.length
decreasing_by
  rename_i h
  obtain ⟨hmin, hlen, -⟩ := h
  rw [List.length_drop]
  omega

lemma afterElements_of_complete {bs : Bytes} (h : Complete bs) :
    afterElements bs = afterElements (bs.drop (elementLength bs)) := by
  rw [afterElements, if_pos h]

lemma afterElements_of_not_complete {bs : Bytes} (h : ¬ Complete bs) : afterElements bs = bs := by
  rw [afterElements, if_neg h]

/-- No complete element is left. -/
lemma not_complete_afterElements (bs : Bytes) : ¬ Complete (afterElements bs) := by
  induction bs using afterElements.induct with
  | case1 bs h ih => rwa [afterElements_of_complete h]
  | case2 bs h => rwa [afterElements_of_not_complete h]

/-- A body is its elements and what is left. -/
lemma flatMap_encode_elements (bs : Bytes) :
    (elements bs).flatMap Element.encode ++ afterElements bs = bs := by
  induction bs using afterElements.induct with
  | case1 bs h ih =>
    rw [elements_of_complete h, afterElements_of_complete h, List.flatMap_cons, List.append_assoc,
      ih, encode_firstElement h]
  | case2 bs h =>
    rw [elements_of_not_complete h, afterElements_of_not_complete h]
    rfl

/-- No sequence of elements at the front of a body is longer than that of its elements. -/
lemma prefix_elements {bs : Bytes} {xs : List Element} (h : xs.flatMap Element.encode <+: bs) :
    xs <+: elements bs := by
  obtain ⟨rest, rfl⟩ := h
  rw [elements_encode_append]
  exact List.prefix_append xs (elements rest)

end AntennaMgmt.Lib
