import AmBot.RunLib.Prog
/-!
# Environments that agree on what is still read

`A w e e'` says that from the world `w` on the two environments give the same
answers. A program is `Local A` where it then runs the same in both, to a world
from which they still agree. So an environment can be put together from the
answers of a run's parts.
-/

namespace RunLib.Prog

variable {E W α β σ : Type} {A : W → E → E → Prop}

def Local (A : W → E → E → Prop) (m : Prog E W α) : Prop := ∀ w e e', A w e e' → m e w = m e' w ∧ A (m e w).2 e e'

theorem local_pure (a : α) : Local A (pure a : Prog E W α) := fun _ _ _ h => ⟨rfl, h⟩

theorem local_halt (x : Halt) : Local A (halt x : Prog E W α) := fun _ _ _ h => ⟨rfl, h⟩

theorem local_modify {f : W → W} (hf : ∀ w e e', A w e e' → A (f w) e e') : Local A (modify f : Prog E W Unit) :=
  fun _ _ _ h => ⟨rfl, hf _ _ _ h⟩

theorem local_read {f : E → W → α} (hf : ∀ w e e', A w e e' → f e w = f e' w) : Local A (read f) := by
  intro w e e' h
  refine ⟨?_, h⟩
  simp only [read, hf w e e' h]

theorem Local.bind {m : Prog E W α} {f : α → Prog E W β} (hm : Local A m) (hf : ∀ a, Local A (f a)) :
    Local A (m >>= f) := by
  intro w e e' h
  obtain ⟨hsame, hrest⟩ := hm w e e' h
  rw [bind_run, bind_run, ← hsame]
  rcases hr : m e w with ⟨_ | a, w₁⟩ <;> rw [hr] at hrest
  · exact ⟨rfl, hrest⟩
  · exact hf a w₁ e e' hrest

theorem local_ite {c : Prop} [Decidable c] {m m' : Prog E W α} (h : Local A m) (h' : Local A m') :
    Local A (if c then m else m') := by
  split
  · exact h
  · exact h'

theorem local_when {c : Bool} {m : Prog E W Unit} (h : Local A m) : Local A (when c m) := local_ite h (local_pure ())

theorem local_each {f : α → Prog E W Unit} (h : ∀ x, Local A (f x)) (xs : List α) : Local A (each f xs) := by
  induction xs with
  | nil => exact local_pure ()
  | cons x xs ih => exact (h x).bind fun _ => ih

theorem local_loop {body : σ → Prog E W (σ ⊕ α)} (h : ∀ s, Local A (body s)) (n : Nat) (s : σ) :
    Local A (loop n body s) := by
  induction n generalizing s with
  | zero => exact local_halt _
  | succ n ih =>
    refine (h s).bind fun r => ?_
    cases r with
    | inl s' => exact ih s'
    | inr a => exact local_pure a

end RunLib.Prog
