import Mathlib.Data.List.Basic
/-!
# Bounded queues

A machine that answers operations, the rule that two machines which simulate
each other answer alike, and the machine of a queue that holds at most
`capacity` entries and refuses a push beyond them.
-/

namespace RunLib

/-! ## Machines -/

section Machines

variable {σ τ ι ω : Type}

/-- The answers to a list of operations, and the state they leave. -/
def answers (step : σ → ι → ω × σ) : σ → List ι → List ω × σ
  | s, [] => ([], s)
  | s, i :: is => ((step s i).1 :: (answers step (step s i).2 is).1, (answers step (step s i).2 is).2)

theorem answers_simulate {step : σ → ι → ω × σ} {step' : τ → ι → ω × τ} {R : σ → τ → Prop}
    (h : ∀ s t i, R s t → (step s i).1 = (step' t i).1 ∧ R (step s i).2 (step' t i).2) {s : σ} {t : τ} (hst : R s t)
    (is : List ι) :
    (answers step s is).1 = (answers step' t is).1 ∧ R (answers step s is).2 (answers step' t is).2 := by
  induction is generalizing s t with
  | nil => exact ⟨rfl, hst⟩
  | cons i is ih =>
    obtain ⟨hanswer, hnext⟩ := h s t i hst
    obtain ⟨hanswers, hlast⟩ := ih hnext
    refine ⟨?_, hlast⟩
    unfold answers
    rw [hanswer, hanswers]

end Machines

/-! ## The queue -/

variable {α : Type}

inductive QueueOp (α : Type)
  | push (a : α)
  | pop

inductive QueueAnswer (α : Type)
  | accepted (a : α)
  | refused (a : α)
  | popped (a : α)
  | empty

def QueueAnswer.accepted? : QueueAnswer α → Option α
  | .accepted a => some a
  | _ => none

def QueueAnswer.refused? : QueueAnswer α → Option α
  | .refused a => some a
  | _ => none

def QueueAnswer.popped? : QueueAnswer α → Option α
  | .popped a => some a
  | _ => none

def accepted (l : List (QueueAnswer α)) : List α := l.filterMap (·.accepted?)

def refused (l : List (QueueAnswer α)) : List α := l.filterMap (·.refused?)

def popped (l : List (QueueAnswer α)) : List α := l.filterMap (·.popped?)

theorem accepted_cons (o : QueueAnswer α) (l : List (QueueAnswer α)) : accepted (o :: l) = accepted [o] ++ accepted l :=
  List.filterMap_append (l := [o])

theorem refused_cons (o : QueueAnswer α) (l : List (QueueAnswer α)) : refused (o :: l) = refused [o] ++ refused l :=
  List.filterMap_append (l := [o])

theorem popped_cons (o : QueueAnswer α) (l : List (QueueAnswer α)) : popped (o :: l) = popped [o] ++ popped l :=
  List.filterMap_append (l := [o])

/-- The entries held, oldest first, and how many were refused. -/
structure Fifo (α : Type) where
  held : List α
  refusals : Nat

def Fifo.new : Fifo α := { held := [], refusals := 0 }

def Fifo.step (capacity : Nat) (fifo : Fifo α) : QueueOp α → QueueAnswer α × Fifo α
  | .push a =>
    if fifo.held.length < capacity then (.accepted a, { fifo with held := fifo.held ++ [a] })
    else (.refused a, { fifo with refusals := fifo.refusals + 1 })
  | .pop =>
    match fifo.held with
    | [] => (.empty, fifo)
    | a :: held => (.popped a, { fifo with held := held })

theorem step_conserves (capacity : Nat) (fifo : Fifo α) (op : QueueOp α) :
    fifo.held ++ accepted [(fifo.step capacity op).1] = popped [(fifo.step capacity op).1] ++ (fifo.step capacity op).2.held := by
  cases op with
  | push a =>
    simp only [Fifo.step]
    split
    · rfl
    · exact List.append_nil _
  | pop =>
    simp only [Fifo.step]
    split
    · rename_i hheld
      rw [hheld]
      rfl
    · rename_i a held hheld
      rw [hheld]
      exact List.append_nil _

theorem step_refusals (capacity : Nat) (fifo : Fifo α) (op : QueueOp α) :
    (fifo.step capacity op).2.refusals = fifo.refusals + (refused [(fifo.step capacity op).1]).length := by
  cases op with
  | push a =>
    simp only [Fifo.step]
    split <;> rfl
  | pop =>
    simp only [Fifo.step]
    split <;> rfl

/-- What went in is what came out and what is held, in order. -/
theorem answers_conserve (capacity : Nat) (fifo : Fifo α) (ops : List (QueueOp α)) :
    fifo.held ++ accepted (answers (Fifo.step capacity) fifo ops).1 =
      popped (answers (Fifo.step capacity) fifo ops).1 ++ (answers (Fifo.step capacity) fifo ops).2.held := by
  induction ops generalizing fifo with
  | nil => exact List.append_nil _
  | cons op ops ih =>
    have hone := step_conserves capacity fifo op
    have hrest := ih (fifo.step capacity op).2
    unfold answers
    rw [accepted_cons, popped_cons, ← List.append_assoc, hone, List.append_assoc, hrest, List.append_assoc]

theorem answers_refusals (capacity : Nat) (fifo : Fifo α) (ops : List (QueueOp α)) :
    (answers (Fifo.step capacity) fifo ops).2.refusals =
      fifo.refusals + (refused (answers (Fifo.step capacity) fifo ops).1).length := by
  induction ops generalizing fifo with
  | nil => rfl
  | cons op ops ih =>
    unfold answers
    rw [refused_cons, List.length_append, ih, step_refusals, Nat.add_assoc]

end RunLib
