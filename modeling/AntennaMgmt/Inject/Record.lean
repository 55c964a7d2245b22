import AntennaMgmt.Inject.Steps

/-!
# What the record of the injector says

The frames sent, the data frames among them and those that were acknowledged, and the states
entered are read off the record.
-/

namespace AntennaMgmt.Inject

open AntennaMgmt.Lib AntennaMgmt.Rs422

/-- The frame that an event sends. -/
def Event.frame? : Event → Option Bytes
  | .sent f => some f
  | .exchange f _ => some f
  | .entered _ => none

/-- The frames sent, in order. -/
def sentFrames (trace : List Event) : List Bytes := trace.filterMap Event.frame?

/-- The data frames sent, in order. -/
def dataFrames (trace : List Event) : List Bytes :=
  (sentFrames trace).filter fun f => apidOf f = apidFileData

/-- How often packet `k` of segment `s` was sent. -/
def transmissions (trace : List Event) (s k : ℕ) : ℕ :=
  (dataFrames trace).countP fun f => wordOf f = s ∧ packetIndexOf f = k

/-- The data frame that an event finds acknowledged. -/
def Event.acked? : Event → Option Bytes
  | .exchange f reply =>
    if apidOf f = apidFileData ∧ ackResult .dataAck reply = some dataReceivedOk then some f
    else none
  | _ => none

/-- The data frames acknowledged, in order. -/
def ackedFrames (trace : List Event) : List Bytes := trace.filterMap Event.acked?

/-- The state that an event enters. -/
def Event.state? : Event → Option InjectionState
  | .entered s => some s
  | _ => none

/-- The packet that a data frame names. -/
def packetOf (f : Bytes) : ℕ × ℕ := (wordOf f, packetIndexOf f)

/-- The states entered, in order. -/
def statesOf (trace : List Event) : List InjectionState := trace.filterMap Event.state?

@[simp] lemma sentFrames_append (tr tr' : List Event) :
    sentFrames (tr ++ tr') = sentFrames tr ++ sentFrames tr' :=
  List.filterMap_append

@[simp] lemma sentFrames_sent (f : Bytes) : sentFrames [.sent f] = [f] := rfl

@[simp] lemma sentFrames_exchange (f : Bytes) (reply : Option Bytes) :
    sentFrames [.exchange f reply] = [f] := rfl

@[simp] lemma sentFrames_entered (s : InjectionState) : sentFrames [.entered s] = [] := rfl

@[simp] lemma statesOf_append (tr tr' : List Event) :
    statesOf (tr ++ tr') = statesOf tr ++ statesOf tr' :=
  List.filterMap_append

@[simp] lemma statesOf_entered (s : InjectionState) : statesOf [.entered s] = [s] := rfl

lemma dataFrames_append (tr tr' : List Event) :
    dataFrames (tr ++ tr') = dataFrames tr ++ dataFrames tr' := by
  simp [dataFrames]

lemma ackedFrames_append (tr tr' : List Event) :
    ackedFrames (tr ++ tr') = ackedFrames tr ++ ackedFrames tr' := by
  simp [ackedFrames]

/-- Events that send no data frame. -/
def Silent (es : List Event) : Prop := dataFrames es = [] ∧ ackedFrames es = []

lemma silent_entered (s : InjectionState) : Silent [.entered s] := ⟨rfl, rfl⟩

lemma Silent.append {es es' : List Event} (h : Silent es) (h' : Silent es') :
    Silent (es ++ es') := by
  constructor
  · rw [dataFrames_append, h.1, h'.1]
    rfl
  · rw [ackedFrames_append, h.2, h'.2]
    rfl

lemma silent_of_control {es : List Event} (h : ∀ e ∈ es, Event.Control e) : Silent es := by
  have hne : apidControl ≠ apidFileData := by decide
  induction es with
  | nil => exact ⟨rfl, rfl⟩
  | cons e es ih =>
    have he : Silent [e] := by
      have hctl := h e List.mem_cons_self
      cases e with
      | sent f => simp [Silent, dataFrames, ackedFrames, Event.acked?, hctl.1, hne]
      | exchange f reply =>
        simp [Silent, dataFrames, ackedFrames, Event.acked?, hctl.1, hne]
      | entered s => exact hctl.elim
    exact he.append (ih fun e he => h e (List.mem_cons_of_mem _ he))

section exchange

variable {f : Bytes} (hf : apidOf f = apidFileData) (reply : Option Bytes)
include hf

lemma dataFrames_exchange : dataFrames [.exchange f reply] = [f] := by
  simp [dataFrames, hf]

lemma ackedFrames_ok (hok : ackResult .dataAck reply = some dataReceivedOk) :
    ackedFrames [.exchange f reply] = [f] := by
  simp [ackedFrames, Event.acked?, hf, hok]

lemma transmissions_exchange (tr : List Event) (s k : ℕ) :
    transmissions (tr ++ [.exchange f reply]) s k =
      transmissions tr s k + if packetOf f = (s, k) then 1 else 0 := by
  rw [transmissions, dataFrames_append, dataFrames_exchange hf, List.countP_append]
  simp [transmissions, List.countP_cons, packetOf]

end exchange

lemma ackedFrames_not_ok {f : Bytes} {reply : Option Bytes}
    (hne : ackResult .dataAck reply ≠ some dataReceivedOk) :
    ackedFrames [.exchange f reply] = [] := by
  simp [ackedFrames, Event.acked?, hne]

lemma Silent.transmissions {tr es : List Event} (h : Silent es) (s k : ℕ) :
    transmissions (tr ++ es) s k = transmissions tr s k := by
  simp [Inject.transmissions, dataFrames_append, h.1]

end AntennaMgmt.Inject
