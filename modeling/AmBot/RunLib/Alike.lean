import AmBot.RunLib.Prog
/-!
# Two programs that end alike

`Alike e m m' R` says that in the environment `e` the programs take every world
to the same world, and there halt alike or return values that `R` relates. It
compares a program with one that represents its values otherwise: `R` is the
relation of the two representations, and what reads only one of them through
`R` goes on alike.
-/

namespace RunLib.Prog

variable {E W α α' β β' γ σ σ' : Type} {e : E} {R : α → α' → Prop} {S : β → β' → Prop}

inductive Ends (R : α → α' → Prop) : Except Halt α → Except Halt α' → Prop where
  | returns {a : α} {a' : α'} (h : R a a') : Ends R (.ok a) (.ok a')
  | halts (halt : Halt) : Ends R (.error halt) (.error halt)

def Alike (e : E) (m : Prog E W α) (m' : Prog E W α') (R : α → α' → Prop) : Prop :=
  ∀ w, (m e w).2 = (m' e w).2 ∧ Ends R (m e w).1 (m' e w).1

theorem alike_pure {a : α} {a' : α'} (h : R a a') : Alike e (pure a : Prog E W α) (pure a') R := by
  intro w
  exact ⟨rfl, .returns h⟩

theorem alike_rfl (m : Prog E W α) : Alike e m m Eq := by
  intro w
  refine ⟨rfl, ?_⟩
  cases (m e w).1 with
  | error halt => exact .halts halt
  | ok a => exact .returns rfl

theorem Alike.mono {R' : α → α' → Prop} {m : Prog E W α} {m' : Prog E W α'} (h : Alike e m m' R)
    (himp : ∀ a a', R a a' → R' a a') : Alike e m m' R' := by
  intro w
  obtain ⟨hworld, hends⟩ := h w
  refine ⟨hworld, ?_⟩
  generalize (m e w).1 = r, (m' e w).1 = r' at hends
  cases hends with
  | returns hab => exact .returns (himp _ _ hab)
  | halts halt => exact .halts halt

theorem Alike.bind {m : Prog E W α} {m' : Prog E W α'} {f : α → Prog E W β} {f' : α' → Prog E W β'}
    (h : Alike e m m' R) (hf : ∀ a a', R a a' → Alike e (f a) (f' a') S) : Alike e (m >>= f) (m' >>= f') S := by
  intro w
  obtain ⟨hworld, hends⟩ := h w
  rw [bind_run, bind_run]
  rcases hm : m e w with ⟨r, w₁⟩
  rcases hm' : m' e w with ⟨r', w₁'⟩
  rw [hm, hm'] at hworld hends
  obtain rfl : w₁ = w₁' := hworld
  cases hends with
  | returns hab => exact hf _ _ hab w₁
  | halts halt => exact ⟨rfl, .halts halt⟩

/-- What the first program makes of its value before it returns it. -/
theorem Alike.then {m : Prog E W α} {m' : Prog E W α'} {f : α → Prog E W β} {S : β → α' → Prop}
    (h : Alike e m m' R) (hf : ∀ a a', R a a' → Alike e (f a) (pure a') S) : Alike e (m >>= f) m' S := by
  have hpure : (m' >>= pure) = m' := by
    funext e w
    rw [bind_run]
    rcases m' e w with ⟨halt | a, w₁⟩ <;> rfl
  rw [← hpure]
  exact h.bind hf

/-- A step that both programs take. -/
theorem alike_bind (m : Prog E W α) {f : α → Prog E W β} {f' : α → Prog E W β'} (hf : ∀ a, Alike e (f a) (f' a) S) :
    Alike e (m >>= f) (m >>= f') S := by
  apply (alike_rfl m).bind
  rintro a _ rfl
  exact hf a

theorem alike_ite {c c' : Prop} [Decidable c] [Decidable c'] {m₁ m₂ : Prog E W α} {m₁' m₂' : Prog E W α'}
    (hc : c ↔ c') (h₁ : Alike e m₁ m₁' R) (h₂ : Alike e m₂ m₂' R) :
    Alike e (if c then m₁ else m₂) (if c' then m₁' else m₂') R := by
  by_cases h : c
  · rw [if_pos h, if_pos (hc.mp h)]
    exact h₁
  · rw [if_neg h, if_neg fun h' => h (hc.mpr h')]
    exact h₂

inductive Rounds (X : σ → σ' → Prop) (R : α → α' → Prop) : σ ⊕ α → σ' ⊕ α' → Prop where
  | again {s : σ} {s' : σ'} (h : X s s') : Rounds X R (.inl s) (.inl s')
  | done {a : α} {a' : α'} (h : R a a') : Rounds X R (.inr a) (.inr a')

theorem rounds_rfl (m : Prog E W (σ ⊕ α)) : Alike e m m (Rounds Eq Eq) := by
  apply (alike_rfl m).mono
  rintro r _ rfl
  cases r with
  | inl s => exact .again rfl
  | inr a => exact .done rfl

theorem alike_loop {X : σ → σ' → Prop} {body : σ → Prog E W (σ ⊕ α)} {body' : σ' → Prog E W (σ' ⊕ α')}
    (h : ∀ s s', X s s' → Alike e (body s) (body' s') (Rounds X R)) (n : Nat) {s : σ} {s' : σ'} (hs : X s s') :
    Alike e (loop n body s) (loop n body' s') R := by
  induction n generalizing s s' with
  | zero =>
    intro w
    exact ⟨rfl, .halts _⟩
  | succ n ih =>
    apply (h s s' hs).bind
    intro r r' hr
    cases hr with
    | again hs => exact ih hs
    | done ha => exact alike_pure ha

/-- Sweeps whose steps are alike over the places they pass. -/
theorem alike_sweep {f f' : Nat → γ → α → Prog E W (γ × β)} (xs : List α) (i : Nat) (c : γ)
    (h : ∀ j < i + xs.length, ∀ c x, Alike e (f j c x) (f' j c x) Eq) :
    Alike e (sweep f i c xs) (sweep f' i c xs) fun r r' => r = r' ∧ r.2.length = xs.length := by
  induction xs generalizing i c with
  | nil => exact alike_pure ⟨rfl, rfl⟩
  | cons x xs ih =>
    have hhead : i < i + (x :: xs).length := by simp
    have hrest : ∀ j < i + 1 + xs.length, ∀ c x, Alike e (f j c x) (f' j c x) Eq := by
      intro j hj
      apply h
      simp only [List.length_cons]
      omega
    apply (h i hhead c x).bind
    rintro ⟨c, y⟩ _ rfl
    apply (ih (i + 1) c hrest).bind
    rintro ⟨c, ys⟩ _ ⟨rfl, hlength⟩
    apply alike_pure
    exact ⟨rfl, congrArg (· + 1) hlength⟩

theorem Alike.eq {m m' : Prog E W α} (h : Alike e m m' Eq) (w : W) : m e w = m' e w := by
  obtain ⟨hworld, hends⟩ := h w
  refine Prod.ext ?_ hworld
  generalize (m e w).1 = r, (m' e w).1 = r' at hends
  cases hends with
  | returns hab => exact congrArg _ hab
  | halts halt => rfl

end RunLib.Prog
