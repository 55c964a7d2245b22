import AntennaMgmt.Cpri.Message
import AntennaMgmt.Lib.SlotPool
import AntennaMgmt.Lib.Transition

/-!
# The payload pool

`cpri_decode_message` puts the payload of a message into a slot of a static pool, and
`cpri_free_message` finds the slot by the pointer in the message, or hands the pointer to `free`
when it is that of no slot.  The messages decoded and not freed hold the slots in use, one each.
-/

namespace AntennaMgmt.Cpri

open AntennaMgmt.Lib

/-! ### Messages in memory -/

/-- A payload pointer: that of a slot of the pool, or that of a block from `malloc`. -/
inductive PayloadPtr
  | slot (i : ℕ)
  | heap (a : ℕ)
deriving DecidableEq, Repr

/-- A variable of type `cpri_message_t`. -/
structure MessageVar where
  header : CpriHeader
  payload : Option PayloadPtr
  payloadLen : ℕ
deriving DecidableEq, Repr

/-- The pool, the message variables, and the blocks that were handed to `free`. -/
structure PoolMemory (ν : Type*) where
  inUse : Pool
  data : ℕ → Bytes
  message : ν → MessageVar
  heapFreed : List ℕ

variable {ν : Type*} [DecidableEq ν]

/-- `cpri_decode_message` into a variable: the error, if there is one, and the memory
afterwards. -/
def decodeCall (v : ν) (buffer : Bytes) (s : PoolMemory ν) : Option DecodeError × PoolMemory ν :=
  match cpriDecodeMessage s.inUse buffer with
  | .error .invalidParam => (some .invalidParam, s)
  -- the header and the length are written before the pool is asked for a slot
  | .error .memory => (some .memory, { s with
      message := Function.update s.message v
        ⟨decodeHeader buffer, none, buffer.length - cpriHeaderLen⟩ })
  | .ok (msg, none, inUse) => (none, { s with
      inUse := inUse
      message := Function.update s.message v ⟨msg.header, none, 0⟩ })
  | .ok (msg, some i, inUse) => (none, { s with
      inUse := inUse
      data := Function.update s.data i (msg.payload ++ (s.data i).drop msg.payload.length)
      message := Function.update s.message v ⟨msg.header, some (.slot i), msg.payload.length⟩ })

/-- `cpri_payload_free`. -/
def cpriPayloadFree (ptr : PayloadPtr) (s : PoolMemory ν) : PoolMemory ν :=
  match ptr with
  | .slot i => { s with inUse := cpriFreeMessage s.inUse (some i) }
  | .heap a => { s with heapFreed := s.heapFreed ++ [a] }

/-- `cpri_free_message` of a variable. -/
def freeCall (v : ν) (s : PoolMemory ν) : PoolMemory ν :=
  match (s.message v).payload with
  | none => s
  | some ptr =>
    { cpriPayloadFree ptr s with
      message := Function.update s.message v
        { s.message v with payload := none, payloadLen := 0 } }

/-! ### The allocator -/

/-- The allocator takes a slot that is free, or there is none. -/
lemma cpriPayloadAlloc_cases (pool : Pool) {size : ℕ} (hsize : size ≤ maxCpriPayloadSize) :
    (∃ i, pool[i]? = some false ∧ cpriPayloadAlloc pool size = some (i, pool.set i true)) ∨
      (false ∉ pool ∧ cpriPayloadAlloc pool size = none) := by
  rw [cpriPayloadAlloc, if_neg (Nat.not_lt.2 hsize)]
  cases hfind : pool.findIdx? (!·) with
  | none =>
    refine .inr ⟨fun hfree => ?_, rfl⟩
    have htrue := List.findIdx?_eq_none_iff.1 hfind false hfree
    cases htrue
  | some i =>
    obtain ⟨hlt, hfree, -⟩ := List.findIdx?_eq_some_iff_getElem.1 hfind
    have hval : pool[i] = false := by simpa using hfree
    exact .inl ⟨i, by rw [List.getElem?_eq_getElem hlt, hval], rfl⟩

/-- What a decode call comes to. -/
inductive Decoded (v : ν) (buffer : Bytes) (s : PoolMemory ν) :
    Option DecodeError × PoolMemory ν → Prop
  | short : buffer.length < cpriHeaderLen → Decoded v buffer s (some .invalidParam, s)
  | refused : cpriHeaderLen < buffer.length →
      (buffer.length - cpriHeaderLen ≤ maxCpriPayloadSize → false ∉ s.inUse) →
      Decoded v buffer s (some .memory, { s with
        message := Function.update s.message v
          ⟨decodeHeader buffer, none, buffer.length - cpriHeaderLen⟩ })
  | empty : buffer.length = cpriHeaderLen → Decoded v buffer s (none, { s with
      message := Function.update s.message v ⟨decodeHeader buffer, none, 0⟩ })
  | stored (i : ℕ) : cpriHeaderLen < buffer.length → s.inUse[i]? = some false →
      Decoded v buffer s (none, { s with
        inUse := s.inUse.set i true
        data := Function.update s.data i (buffer.drop cpriHeaderLen ++
          (s.data i).drop (buffer.drop cpriHeaderLen).length)
        message := Function.update s.message v ⟨decodeHeader buffer, some (.slot i),
          (buffer.drop cpriHeaderLen).length⟩ })

lemma decodeCall_cases (v : ν) (buffer : Bytes) (s : PoolMemory ν) :
    Decoded v buffer s (decodeCall v buffer s) := by
  rcases Nat.lt_trichotomy buffer.length cpriHeaderLen with hshort | hempty | hlong
  · rw [decodeCall, cpriDecodeMessage, if_pos hshort]
    exact .short hshort
  · rw [decodeCall, cpriDecodeMessage, if_neg (by omega), if_neg (by omega)]
    exact .empty hempty
  · rw [decodeCall, cpriDecodeMessage, if_neg (by omega), if_pos (by omega)]
    by_cases hsize : buffer.length - cpriHeaderLen ≤ maxCpriPayloadSize
    · rcases cpriPayloadAlloc_cases s.inUse hsize with
        ⟨i, hfree, halloc⟩ | ⟨hfull, halloc⟩
      · rw [halloc]
        exact .stored i hlong hfree
      · rw [halloc]
        exact .refused hlong fun _ => hfull
    · have halloc : cpriPayloadAlloc s.inUse (buffer.length - cpriHeaderLen) = none := by
        rw [cpriPayloadAlloc, if_pos (Nat.not_le.1 hsize)]
      rw [halloc]
      exact .refused hlong fun h => absurd h hsize

/-! ### Which messages hold a slot -/

/-- A message that was decoded with a payload and has not been freed: its number, its slot, and
the payload as it was decoded. -/
structure LiveMessage where
  id : ℕ
  slot : ℕ
  payload : Bytes
deriving DecidableEq, Repr

/-- The entry of a message in the account of the pool. -/
def LiveMessage.held (m : LiveMessage) : ℕ × Bytes := (m.slot, m.payload)

/-- The memory, with the live messages and, for each variable, the number of the message that was
last decoded into it or copied to it. -/
structure Tracked (ν : Type*) where
  memory : PoolMemory ν
  live : List LiveMessage
  owner : ν → Option ℕ
  nextId : ℕ

/-- What happens to the message variables: a message is decoded, freed, copied to another variable
by assignment, or built by its sender, with a payload from `malloc` or none. -/
inductive Call (ν : Type*)
  | decode (v : ν) (buffer : Bytes)
  | free (v : ν)
  | copy (v w : ν)
  | build (v : ν) (header : CpriHeader) (payload : Option ℕ) (payloadLen : ℕ)

/-- The variable holds no message of the pool any more. -/
def Tracked.forget (t : Tracked ν) (v : ν) : ν → Option ℕ := Function.update t.owner v none

/-- The live messages without the one in the variable. -/
def Tracked.without (t : Tracked ν) (v : ν) : List LiveMessage :=
  match t.owner v with
  | none => t.live
  | some n => t.live.filter fun m => m.id ≠ n

/-- One call. -/
def Tracked.next (t : Tracked ν) : Call ν → Tracked ν
  | .decode v buffer =>
    let (ret, memory) := decodeCall v buffer t.memory
    match ret, (memory.message v).payload with
    | none, some (.slot i) =>
      ⟨memory, ⟨t.nextId, i, buffer.drop cpriHeaderLen⟩ :: t.live,
        Function.update t.owner v (some t.nextId), t.nextId + 1⟩
    -- a call that refuses the buffer leaves the variable alone
    | some .invalidParam, _ => { t with memory := memory }
    | _, _ => { t with memory := memory, owner := t.forget v }
  | .free v =>
    { t with memory := freeCall v t.memory, live := t.without v, owner := t.forget v }
  | .copy v w =>
    { t with
      memory := { t.memory with
        message := Function.update t.memory.message w (t.memory.message v) }
      owner := Function.update t.owner w (t.owner v) }
  | .build v header payload payloadLen =>
    { t with
      memory := { t.memory with
        message := Function.update t.memory.message v
          ⟨header, payload.map .heap, payloadLen⟩ }
      owner := t.forget v }

/-- The calls as a transition system. -/
def poolStep (t : Tracked ν) (c : Call ν) (t' : Tracked ν) : Prop := t' = t.next c

/-- A call frees no message that has been freed: what is in the variable is live, or the variable
has been cleared or built by a sender. -/
def FreedOnce (t : Tracked ν) : Call ν → Prop
  | .free v => ∀ n, t.owner v = some n → ∃ m ∈ t.live, m.id = n
  | _ => True

/-- Nothing has been decoded yet. -/
structure Tracked.Fresh (t : Tracked ν) : Prop where
  inUse : t.memory.inUse = Pool.fresh
  live : t.live = []
  owner : ∀ v, t.owner v = none
  message : ∀ v i, (t.memory.message v).payload ≠ some (.slot i)

/-- The invariant: the live messages account for the slots in use, they have numbers of their own,
and a variable points to a slot only for the message in it. -/
structure Tracked.Inv (t : Tracked ν) : Prop where
  size : t.memory.inUse.length = maxCpriMessagePool
  accounts : Accounts t.memory.inUse t.memory.data (t.live.map LiveMessage.held)
  ids : (t.live.map LiveMessage.id).Nodup
  ids_lt : ∀ m ∈ t.live, m.id < t.nextId
  owner_lt : ∀ v n, t.owner v = some n → n < t.nextId
  owned : ∀ v, ∀ m ∈ t.live, t.owner v = some m.id →
    (t.memory.message v).payload = some (.slot m.slot) ∧
      (t.memory.message v).payloadLen = m.payload.length
  unowned : ∀ v i, t.owner v = none → (t.memory.message v).payload ≠ some (.slot i)

omit [DecidableEq ν] in
lemma Tracked.Fresh.inv {t : Tracked ν} (h : t.Fresh) : t.Inv where
  size := by rw [h.inUse, Pool.fresh, List.length_replicate]
  accounts := by
    rw [h.inUse, h.live]
    exact Accounts.unused _ _
  ids := by
    rw [h.live]
    exact List.nodup_nil
  ids_lt := by simp [h.live]
  owner_lt := by simp [h.owner]
  owned := by simp [h.live]
  unowned := fun v i _ => h.message v i

namespace Tracked.Inv

variable {t : Tracked ν}

/-- A variable is written to.  What it holds afterwards is a live message with its pointer, or
nothing of the pool. -/
lemma setVar (h : t.Inv) (v : ν) (message : MessageVar) (owner : Option ℕ)
    (hlt : ∀ n, owner = some n → n < t.nextId)
    (howned : ∀ m ∈ t.live, owner = some m.id →
      message.payload = some (.slot m.slot) ∧ message.payloadLen = m.payload.length)
    (hunowned : owner = none → ∀ i, message.payload ≠ some (.slot i)) :
    Tracked.Inv { t with
      memory := { t.memory with message := Function.update t.memory.message v message }
      owner := Function.update t.owner v owner } := by
  refine ⟨h.size, h.accounts, h.ids, h.ids_lt, ?_, ?_, ?_⟩
  · intro w n hw
    rcases eq_or_ne w v with rfl | hne
    · exact hlt n (by simpa using hw)
    · exact h.owner_lt w n (by simpa [hne] using hw)
  · intro w m hm hw
    rcases eq_or_ne w v with rfl | hne
    · simpa using howned m hm (by simpa using hw)
    · simpa [hne] using h.owned w m hm (by simpa [hne] using hw)
  · intro w i hw
    rcases eq_or_ne w v with rfl | hne
    · simpa using hunowned (by simpa using hw) i
    · simpa [hne] using h.unowned w i (by simpa [hne] using hw)

omit [DecidableEq ν] in
/-- A payload is stored in a free slot. -/
lemma stored (h : t.Inv) {i : ℕ} (hfree : t.memory.inUse[i]? = some false) (payload rest : Bytes) :
    Tracked.Inv { t with
      memory := { t.memory with
        inUse := t.memory.inUse.set i true
        data := Function.update t.memory.data i (payload ++ rest) }
      live := ⟨t.nextId, i, payload⟩ :: t.live
      nextId := t.nextId + 1 } := by
  refine ⟨?_, h.accounts.take hfree payload rest, ?_, ?_, ?_, ?_, h.unowned⟩
  · rw [List.length_set]
    exact h.size
  · rw [List.map_cons, List.nodup_cons]
    refine ⟨fun hmem => ?_, h.ids⟩
    obtain ⟨m, hm, hid⟩ := List.mem_map.1 hmem
    exact absurd hid (h.ids_lt m hm).ne
  · intro m hm
    rcases List.mem_cons.1 hm with rfl | hold
    · exact Nat.lt_succ_self _
    · exact Nat.lt_succ_of_lt (h.ids_lt m hold)
  · intro v n hv
    exact Nat.lt_succ_of_lt (h.owner_lt v n hv)
  · intro v m hm hv
    rcases List.mem_cons.1 hm with rfl | hold
    · exact absurd (h.owner_lt v _ hv) (lt_irrefl _)
    · exact h.owned v m hold hv

omit [DecidableEq ν] in
/-- A live message is the one with its number, and the one in its slot. -/
lemma filter_held (h : t.Inv) {m : LiveMessage} (hm : m ∈ t.live) :
    (t.live.filter fun m' => m'.id ≠ m.id).map LiveMessage.held =
      (t.live.map LiveMessage.held).filter fun p => p.1 ≠ m.slot := by
  have hslots : (t.live.map LiveMessage.slot).Nodup := by
    have hdistinct := h.accounts.distinct
    rwa [List.map_map] at hdistinct
  rw [List.filter_map]
  refine congrArg (List.map LiveMessage.held) (List.filter_congr fun m' hm' => ?_)
  have hiff : m'.id ≠ m.id ↔ m'.slot ≠ m.slot :=
    not_congr ⟨fun hid => congrArg LiveMessage.slot (List.inj_on_of_nodup_map h.ids hm' hm hid),
      fun hslot => congrArg LiveMessage.id (List.inj_on_of_nodup_map hslots hm' hm hslot)⟩
  exact decide_eq_decide.2 hiff

omit [DecidableEq ν] in
/-- The slot of a live message is given back. -/
lemma released (h : t.Inv) {m : LiveMessage} (hm : m ∈ t.live) :
    Tracked.Inv { t with
      memory := { t.memory with inUse := t.memory.inUse.set m.slot false }
      live := t.live.filter fun m' => m'.id ≠ m.id } := by
  refine ⟨?_, ?_, ?_, ?_, h.owner_lt, ?_, h.unowned⟩
  · rw [List.length_set]
    exact h.size
  · rw [h.filter_held hm]
    exact h.accounts.give m.slot
  · exact h.ids.sublist (List.filter_sublist.map _)
  · intro m' hm'
    exact h.ids_lt m' (List.mem_of_mem_filter hm')
  · intro v m' hm' hv
    exact h.owned v m' (List.mem_of_mem_filter hm') hv

/-- A variable that holds nothing of the pool is freed without a change to the pool. -/
lemma freeCall_unowned (h : t.Inv) {v : ν} (hv : t.owner v = none) :
    ∃ heapFreed message, (∀ i, message.payload ≠ some (.slot i)) ∧
      freeCall v t.memory = { t.memory with
        message := Function.update t.memory.message v message, heapFreed := heapFreed } := by
  rw [freeCall]
  cases hptr : (t.memory.message v).payload with
  | none =>
    refine ⟨t.memory.heapFreed, t.memory.message v, fun i => h.unowned v i hv, ?_⟩
    simp
  | some ptr =>
    cases ptr with
    | slot i => exact absurd hptr (h.unowned v i hv)
    | heap a => exact ⟨t.memory.heapFreed ++ [a], _, by simp, rfl⟩

/-- A variable that holds a live message is freed with the slot of the message. -/
lemma freeCall_owned (h : t.Inv) {v : ν} {m : LiveMessage} (hm : m ∈ t.live)
    (hv : t.owner v = some m.id) :
    freeCall v t.memory = { t.memory with
      inUse := t.memory.inUse.set m.slot false
      message := Function.update t.memory.message v
        { t.memory.message v with payload := none, payloadLen := 0 } } := by
  rw [freeCall, (h.owned v m hm hv).1]
  rfl

/-- What a call keeps. -/
lemma next (h : t.Inv) {c : Call ν} (hc : FreedOnce t c) : (t.next c).Inv := by
  cases c with
  | decode v buffer =>
    have hdecoded := decodeCall_cases v buffer t.memory
    rw [Tracked.next]
    generalize decodeCall v buffer t.memory = r at hdecoded
    cases hdecoded with
    | short hshort => exact h
    | refused hlong hfull =>
      dsimp only
      exact h.setVar v ⟨decodeHeader buffer, none, _⟩ none (by simp) (by simp) (by simp)
    | empty hempty =>
      simp only [Function.update_self]
      exact h.setVar v ⟨decodeHeader buffer, none, 0⟩ none (by simp) (by simp) (by simp)
    | stored i hlong hfree =>
      simp only [Function.update_self]
      have hstored := h.stored hfree (buffer.drop cpriHeaderLen)
        ((t.memory.data i).drop (buffer.drop cpriHeaderLen).length)
      refine hstored.setVar v ⟨decodeHeader buffer, some (.slot i), _⟩ (some t.nextId) ?_ ?_
        (by simp)
      · rintro n ⟨⟩
        exact Nat.lt_succ_self _
      · intro m hm hid
        rcases List.mem_cons.1 hm with rfl | hold
        · exact ⟨rfl, rfl⟩
        · exact absurd (Option.some_injective _ hid).symm (h.ids_lt m hold).ne
  | free v =>
    cases hv : t.owner v with
    | none =>
      obtain ⟨heapFreed, message, hmessage, hfree⟩ := h.freeCall_unowned hv
      have hwithout : t.without v = t.live := by rw [Tracked.without, hv]
      rw [Tracked.next, hfree, hwithout]
      have hset := h.setVar v message none (by simp) (by simp) fun _ => hmessage
      exact ⟨hset.size, hset.accounts, hset.ids, hset.ids_lt, hset.owner_lt, hset.owned,
        hset.unowned⟩
    | some n =>
      obtain ⟨m, hm, rfl⟩ := hc n hv
      have hwithout : t.without v = t.live.filter fun m' => m'.id ≠ m.id := by
        rw [Tracked.without, hv]
      rw [Tracked.next, h.freeCall_owned hm hv, hwithout]
      exact (h.released hm).setVar v _ none (by simp) (by simp) (by simp)
  | copy v w =>
    exact h.setVar w _ _ (h.owner_lt v) (h.owned v) fun hv i => h.unowned v i hv
  | build v header payload payloadLen =>
    refine h.setVar v _ none (by simp) (by simp) fun _ i => ?_
    cases payload <;> simp

end Tracked.Inv

/-! ### Every run -/

/-- What the pool promises in a state, and about the next call. -/
structure PoolSound (t : Tracked ν) : Prop where
  /-- Live messages hold slots of their own. -/
  distinct : (t.live.map LiveMessage.slot).Nodup
  /-- The slots are in use, and the payload is in them as it was decoded. -/
  intact : ∀ m ∈ t.live, t.memory.inUse[m.slot]? = some true ∧
    (t.memory.data m.slot).take m.payload.length = m.payload
  /-- No other slot is in use. -/
  accounted : ∀ i, t.memory.inUse[i]? = some true → ∃ m ∈ t.live, m.slot = i
  /-- A variable with a live message points to the slot of it. -/
  points : ∀ v, ∀ m ∈ t.live, t.owner v = some m.id →
    (t.memory.message v).payload = some (.slot m.slot) ∧
      (t.memory.message v).payloadLen = m.payload.length
  /-- A decode call with a payload that succeeds takes one slot, which was free. -/
  taken : ∀ v buffer, cpriHeaderLen < buffer.length → (decodeCall v buffer t.memory).1 = none →
    ∃ i, t.memory.inUse[i]? = some false ∧
      (decodeCall v buffer t.memory).2.inUse = t.memory.inUse.set i true ∧
      ((decodeCall v buffer t.memory).2.message v).payload = some (.slot i)
  /-- A decode call that fails takes no slot. -/
  failed : ∀ v buffer, (decodeCall v buffer t.memory).1 ≠ none →
    (decodeCall v buffer t.memory).2.inUse = t.memory.inUse
  /-- A decode call with a payload that fits a slot fails only with all slots taken. -/
  refused : ∀ v buffer, cpriHeaderLen < buffer.length →
    buffer.length ≤ cpriHeaderLen + maxCpriPayloadSize →
    (decodeCall v buffer t.memory).1 ≠ none → t.live.length = maxCpriMessagePool
  /-- Freeing gives back the slot of the message. -/
  freed : ∀ v, ∀ m ∈ t.live, t.owner v = some m.id →
    (freeCall v t.memory).inUse = t.memory.inUse.set m.slot false ∧
      (freeCall v t.memory).data = t.memory.data
  /-- Freeing a variable without a message of the pool gives back nothing. -/
  kept : ∀ v, t.owner v = none → (freeCall v t.memory).inUse = t.memory.inUse ∧
    (freeCall v t.memory).data = t.memory.data

lemma Tracked.Inv.sound {t : Tracked ν} (h : t.Inv) : PoolSound t where
  distinct := by
    have hdistinct := h.accounts.distinct
    rwa [List.map_map] at hdistinct
  intact := by
    intro m hm
    have hheld : m.held ∈ t.live.map LiveMessage.held := List.mem_map_of_mem hm
    have hslot : m.slot ∈ (t.live.map LiveMessage.held).map Prod.fst := List.mem_map_of_mem hheld
    exact ⟨(h.accounts.inUse_iff m.slot).2 hslot,
      (List.prefix_iff_eq_take.1 (h.accounts.contents m.held hheld)).symm⟩
  accounted := by
    intro i hi
    have hheld := (h.accounts.inUse_iff i).1 hi
    rw [List.map_map] at hheld
    obtain ⟨m, hm, hslot⟩ := List.mem_map.1 hheld
    exact ⟨m, hm, hslot⟩
  points := h.owned
  taken := by
    intro v buffer hlong hret
    have hdecoded := decodeCall_cases v buffer t.memory
    generalize decodeCall v buffer t.memory = r at hdecoded hret ⊢
    cases hdecoded with
    | short hshort => cases hret
    | refused => cases hret
    | empty hempty => omega
    | stored i _ hfree => exact ⟨i, hfree, rfl, by simp⟩
  failed := by
    intro v buffer hret
    have hdecoded := decodeCall_cases v buffer t.memory
    generalize decodeCall v buffer t.memory = r at hdecoded hret ⊢
    cases hdecoded with
    | short => rfl
    | refused => rfl
    | empty => rfl
    | stored => exact absurd rfl hret
  refused := by
    intro v buffer hlong hfits hret
    have hdecoded := decodeCall_cases v buffer t.memory
    generalize decodeCall v buffer t.memory = r at hdecoded hret
    cases hdecoded with
    | short hshort => omega
    | refused _ hfull =>
      have hlength := h.accounts.length_eq (hfull (by omega))
      rwa [List.length_map, h.size] at hlength
    | empty => exact absurd rfl hret
    | stored => exact absurd rfl hret
  freed := by
    intro v m hm hv
    rw [h.freeCall_owned hm hv]
    exact ⟨rfl, rfl⟩
  kept := by
    intro v hv
    obtain ⟨heapFreed, message, -, hfree⟩ := h.freeCall_unowned hv
    rw [hfree]
    exact ⟨rfl, rfl⟩

/-- **The pool keeps its messages apart.**  In every run in which no message is freed twice, the
live messages have slots of their own with their payloads in them, a decode call that fails takes
no slot and fails with all slots taken only, and freeing gives back the slot of the message. -/
theorem pool_sound {t t' : Tracked ν} {calls : List (Call ν)} (hfresh : t.Fresh)
    (hrun : Run (restrict poolStep FreedOnce) t calls t') : PoolSound t' := by
  have hinv : t'.Inv := by
    refine hrun.invariant ?_ hfresh.inv
    rintro s c s' hs ⟨rfl, hc⟩
    exact hs.next hc
  exact hinv.sound

/-- Two variables before anything is decoded. -/
def twoVars : Tracked (Fin 2) where
  memory := ⟨Pool.fresh, fun _ => List.replicate maxCpriPayloadSize 0,
    fun _ => ⟨⟨0, 0, 0, 0, 0, 0⟩, none, 0⟩, []⟩
  live := []
  owner := fun _ => none
  nextId := 0

/-- The theorem at a run that decodes a message, copies it, frees the copy, and frees the copy
again. -/
theorem pool_sound_copied :
    let message : Bytes := List.replicate 20 7
    PoolSound ((((twoVars.next (.decode 0 message)).next (.copy 0 1)).next (.free 1)).next
      (.free 1)) := by
  intro message
  have hfresh : twoVars.Fresh := ⟨rfl, rfl, fun _ => rfl, fun _ _ h => by cases h⟩
  have hdecode : restrict poolStep FreedOnce twoVars (.decode 0 message) _ := ⟨rfl, trivial⟩
  have hcopy : restrict poolStep FreedOnce (twoVars.next (.decode 0 message)) (.copy 0 1) _ :=
    ⟨rfl, trivial⟩
  refine pool_sound hfresh (.cons hdecode (.cons hcopy (.cons (a := .free 1) ⟨rfl, ?_⟩
    (.cons (a := .free 1) ⟨rfl, ?_⟩ (.nil _)))))
  · intro n hn
    exact ⟨_, List.mem_cons_self, Option.some_injective _ hn⟩
  · intro n hn
    cases hn

end AntennaMgmt.Cpri
