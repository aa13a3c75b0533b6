import Mathlib.Order.Defs.Unbundled
/-!
# Runs of a machine

A machine is a step function that refuses the actions it has no step for. A
`Run` is a sequence of actions it took, in the order it took them: where the
actions are those of several parties, a theorem about every run holds for every
interleaving of them.
-/

namespace RunLib

variable {S A : Type}

/-- The machine takes the actions one after the other. -/
inductive Run (step : S → A → Option S) : S → List A → S → Prop
  | nil (s : S) : Run step s [] s
  | cons {s s₁ s' : S} {a : A} {as : List A} : step s a = some s₁ → Run step s₁ as s' → Run step s (a :: as) s'

variable {step : S → A → Option S} {s s₁ s' : S} {a : A} {as bs : List A}

theorem Run.append (h : Run step s as s₁) (h' : Run step s₁ bs s') : Run step s (as ++ bs) s' := by
  induction h with
  | nil => exact h'
  | cons ha _ ih => exact .cons ha (ih h')

/-- A run is a run of its first part and one of the rest. -/
theorem Run.split (h : Run step s (as ++ bs) s') : ∃ s₁, Run step s as s₁ ∧ Run step s₁ bs s' := by
  induction as generalizing s with
  | nil => exact ⟨s, .nil s, h⟩
  | cons a as ih =>
    cases h with
    | cons ha hrest =>
      obtain ⟨s₂, hfirst, hsecond⟩ := ih hrest
      exact ⟨s₂, .cons ha hfirst, hsecond⟩

/-- An invariant of every step is one of every run. -/
theorem Run.inv {I : S → Prop} (hstep : ∀ s a s', step s a = some s' → I s → I s') (h : Run step s as s')
    (hs : I s) : I s' := by
  induction h with
  | nil => exact hs
  | cons ha _ ih => exact ih (hstep _ _ _ ha hs)

/-- A preorder along which every step moves is one along which every run does. -/
theorem Run.along {R : S → S → Prop} [IsPreorder S R] (hstep : ∀ s a s', step s a = some s' → R s s')
    (h : Run step s as s') : R s s' := by
  induction h with
  | nil => exact refl_of R _
  | cons ha _ ih => exact trans_of R (hstep _ _ _ ha) ih

/-- The state a sequence of actions leads to, where every one of them is taken. -/
def runAll (step : S → A → Option S) : S → List A → Option S
  | s, [] => some s
  | s, a :: as => (step s a).bind fun s₁ => runAll step s₁ as

theorem run_iff : Run step s as s' ↔ runAll step s as = some s' := by
  constructor
  · intro h
    induction h with
    | nil => rfl
    | cons ha _ ih => rw [runAll, ha, Option.bind_some, ih]
  · intro h
    induction as generalizing s with
    | nil =>
      cases h
      exact .nil _
    | cons a as ih =>
      obtain ⟨s₁, ha, hrest⟩ := Option.bind_eq_some_iff.1 h
      exact .cons ha (ih hrest)

end RunLib
