import AntennaMgmt.Lib.Transition
import Mathlib.Data.List.Infix

/-!
# A worker thread and its queue

Jobs are accepted into a queue; one thread takes them from its front and finishes them one by one.
When it is told to stop it goes on until the queue is empty and then exits.  Jobs may be accepted
at any time, so that some of those accepted after the stop may stay in the queue; those accepted
before it are finished when the thread has exited, each once and in their order.
-/

namespace AntennaMgmt.Lib

/-- Where the worker stands. -/
inductive WorkerPc (α : Type*)
  | waiting
  | working (job : α)
  | exited
deriving DecidableEq

namespace WorkerPc

variable {α β : Type*}

/-- The job that the worker has in hand, as a list. -/
def inHand : WorkerPc α → List α
  | working job => [job]
  | _ => []

/-- The same position with another view of the jobs. -/
def map (f : α → β) : WorkerPc α → WorkerPc β
  | waiting => waiting
  | working job => working (f job)
  | exited => exited

lemma map_eq_waiting {f : α → β} {pc : WorkerPc α} : pc.map f = waiting ↔ pc = waiting := by
  cases pc <;> simp [map]

lemma map_eq_exited {f : α → β} {pc : WorkerPc α} : pc.map f = exited ↔ pc = exited := by
  cases pc <;> simp [map]

lemma map_eq_working {f : α → β} {pc : WorkerPc α} {b : β} :
    pc.map f = working b ↔ ∃ a, pc = working a ∧ f a = b := by
  cases pc <;> simp [map]

lemma inHand_map (f : α → β) (pc : WorkerPc α) : (pc.map f).inHand = pc.inHand.map f := by
  cases pc <;> rfl

end WorkerPc

/-- The queue, the worker, and the jobs so far: accepted, accepted before the stop, finished. -/
structure Worker (α : Type*) where
  queue : List α
  stopping : Bool
  pc : WorkerPc α
  accepted : List α
  early : List α
  finished : List α

/-- What can happen. -/
inductive WorkerAct (α : Type*)
  | accept (job : α)
  | take
  | finish
  | stop
  | exit

namespace Worker

variable {α : Type*}

/-- Before the first job. -/
def init : Worker α := ⟨[], false, .waiting, [], [], []⟩

/-- One step of the worker or of those who give it jobs. -/
inductive Step : Worker α → WorkerAct α → Worker α → Prop
  | accept (w : Worker α) (job : α) : Step w (.accept job)
      { w with
          queue := w.queue ++ [job]
          accepted := w.accepted ++ [job]
          early := if w.stopping then w.early else w.early ++ [job] }
  | take {w : Worker α} {job : α} {rest : List α} : w.pc = .waiting → w.queue = job :: rest →
      Step w .take { w with queue := rest, pc := .working job }
  | finish {w : Worker α} {job : α} : w.pc = .working job →
      Step w .finish { w with pc := .waiting, finished := w.finished ++ [job] }
  | stop (w : Worker α) : Step w .stop { w with stopping := true }
  | exit {w : Worker α} : w.pc = .waiting → w.queue = [] → w.stopping = true →
      Step w .exit { w with pc := .exited }

/-- What holds at all times. -/
structure Inv (w : Worker α) : Prop where
  order : w.accepted = w.finished ++ w.pc.inHand ++ w.queue
  early_prefix : w.early <+: w.accepted
  early_eq : w.stopping = false → w.early = w.accepted
  exited : w.pc = .exited → w.stopping = true ∧ w.early <+: w.finished

lemma inv_init : (init : Worker α).Inv where
  order := rfl
  early_prefix := List.prefix_rfl
  early_eq _ := rfl
  exited h := by cases h

variable {w w' : Worker α} {a : WorkerAct α}

/-- Every step keeps the invariant. -/
lemma Inv.step (h : w.Inv) (hstep : Step w a w') : w'.Inv := by
  cases hstep with
  | accept job =>
    refine ⟨?_, ?_, ?_, ?_⟩
    · change w.accepted ++ [job] = w.finished ++ w.pc.inHand ++ (w.queue ++ [job])
      rw [h.order, List.append_assoc _ w.queue]
    · change (if w.stopping then w.early else w.early ++ [job]) <+: w.accepted ++ [job]
      split_ifs with hstop
      · exact h.early_prefix.trans (List.prefix_append _ _)
      · rw [h.early_eq (Bool.eq_false_iff.2 hstop)]
    · intro hstop
      change (if w.stopping then w.early else w.early ++ [job]) = w.accepted ++ [job]
      change w.stopping = false at hstop
      rw [hstop, if_neg Bool.false_ne_true, h.early_eq hstop]
    · intro hpc
      obtain ⟨hstop, hfinished⟩ := h.exited hpc
      refine ⟨hstop, ?_⟩
      change (if w.stopping then w.early else w.early ++ [job]) <+: w.finished
      rwa [hstop, if_pos rfl]
  | @take job rest hpc hqueue =>
    refine ⟨?_, h.early_prefix, h.early_eq, fun hexited => by cases hexited⟩
    rw [h.order, hpc, hqueue]
    simp [WorkerPc.inHand]
  | @finish job hpc =>
    refine ⟨?_, h.early_prefix, h.early_eq, fun hexited => by cases hexited⟩
    rw [h.order, hpc]
    simp [WorkerPc.inHand]
  | stop => exact ⟨h.order, h.early_prefix, fun hstop => (by cases hstop),
      fun hpc => ⟨rfl, (h.exited hpc).2⟩⟩
  | exit hpc hqueue hstop =>
    have hall : w.accepted = w.finished := by
      rw [h.order, hpc, hqueue]
      simp [WorkerPc.inHand]
    exact ⟨h.order.trans (by rw [hpc]; rfl), h.early_prefix, h.early_eq,
      fun _ => ⟨hstop, hall ▸ h.early_prefix⟩⟩

/-- A queue that takes no job after the stop is empty when the worker has exited. -/
lemma Inv.drained (h : w.Inv) (hearly : w.early = w.accepted) (hpc : w.pc = .exited) :
    w.queue = [] ∧ w.finished = w.accepted := by
  have hle := (h.exited hpc).2.length_le
  have horder := h.order
  rw [hpc, show (WorkerPc.exited : WorkerPc α).inHand = [] from rfl, List.append_nil] at horder
  rw [hearly, horder, List.length_append] at hle
  have hqueue : w.queue = [] := List.eq_nil_of_length_eq_zero (by omega)
  refine ⟨hqueue, ?_⟩
  rw [horder, hqueue, List.append_nil]

end Worker

end AntennaMgmt.Lib
