import Mathlib.Logic.Relation
/-!
# Programs over a world

A program reads an environment (the answers of everything outside it) and
changes a world (its memory, and a log of what it did). It either returns a
value or halts early, because a loop used up its fuel or because it did
something undefined. The world outlives a halt, so what is proved of every
outcome is proved of every finite part of an endless run too.

Two kinds of judgement are enough for the developments built on this:
`Triple P m Q S` (from `P`, a return satisfies `Q` and a halt `S`) and
`Keeps R m` (`m` only moves the world along the preorder `R`). The second
composes without naming intermediate assertions.
-/

namespace RunLib

/-- Why a run stops before its program returns. -/
inductive Halt where
  | outOfFuel
  | fault
  deriving DecidableEq, Repr

def Prog (E W α : Type) : Type := E → W → Except Halt α × W

namespace Prog

variable {E W α β γ σ : Type}

instance : Monad (Prog E W) where
  pure a := fun _ w => (.ok a, w)
  bind m f := fun e w =>
    match m e w with
    | (.ok a, w') => f a e w'
    | (.error h, w') => (.error h, w')

/-- A function of the environment and the world; the world stays. -/
def read (f : E → W → α) : Prog E W α := fun e w => (.ok (f e w), w)

def modify (f : W → W) : Prog E W Unit := fun _ w => (.ok (), f w)

def halt (h : Halt) : Prog E W α := fun _ w => (.error h, w)

/-- `if (c) m;`. -/
def when (c : Bool) (m : Prog E W Unit) : Prog E W Unit := if c then m else pure ()

/-- A loop of at most `n` rounds. A round says where to go on from, or what
the loop returns. -/
def loop : Nat → (σ → Prog E W (σ ⊕ α)) → σ → Prog E W α
  | 0, _, _ => halt .outOfFuel
  | n + 1, body, s => do
    match ← body s with
    | .inl s' => loop n body s'
    | .inr a => pure a

/-- `for (i = k; ...; ++i)` over the entries of an array: each step makes its
entry anew and may change an accumulator. -/
def sweep (f : Nat → γ → α → Prog E W (γ × β)) : Nat → γ → List α → Prog E W (γ × List β)
  | _, c, [] => pure (c, [])
  | i, c, x :: xs => do
    let (c, y) ← f i c x
    let (c, ys) ← sweep f (i + 1) c xs
    pure (c, y :: ys)

/-- `f` on each entry in turn. -/
def each (f : α → Prog E W Unit) : List α → Prog E W Unit
  | [] => pure ()
  | x :: xs => do
    f x
    each f xs

/-! ## Running a program -/

@[simp] theorem pure_run (a : α) (e : E) (w : W) : (pure a : Prog E W α) e w = (.ok a, w) := rfl

theorem bind_run (m : Prog E W α) (f : α → Prog E W β) (e : E) (w : W) :
    (m >>= f) e w = match m e w with
      | (.ok a, w') => f a e w'
      | (.error h, w') => (.error h, w') := rfl

theorem bind_ok {m : Prog E W α} {e : E} {w w' : W} {a : α} (h : m e w = (.ok a, w')) (f : α → Prog E W β) :
    (m >>= f) e w = f a e w' := by
  rw [bind_run, h]

theorem ite_bind {c : Prop} [Decidable c] (m m' : Prog E W α) (f : α → Prog E W β) :
    (if c then m else m') >>= f = if c then m >>= f else m' >>= f := by
  split
  · rfl
  · rfl

theorem bind_bind (m : Prog E W α) (f : α → Prog E W β) (g : β → Prog E W γ) :
    (m >>= fun a => f a >>= g) = (m >>= f) >>= g := by
  funext e w
  simp only [bind_run]
  rcases m e w with ⟨halted | a, w'⟩
  · rfl
  · rfl

@[simp] theorem modify_run (f : W → W) (e : E) (w : W) : (modify f : Prog E W Unit) e w = (.ok (), f w) := rfl

/-- A bind returns exactly when both parts do. -/
theorem bind_eq_ok {m : Prog E W α} {f : α → Prog E W β} {e : E} {w w' : W} {b : β} :
    (m >>= f) e w = (.ok b, w') ↔ ∃ a w₁, m e w = (.ok a, w₁) ∧ f a e w₁ = (.ok b, w') := by
  rw [bind_run]
  constructor
  · intro h
    split at h
    · exact ⟨_, _, ‹_›, h⟩
    · cases h
  · rintro ⟨a, w₁, h₁, h₂⟩
    rw [h₁]
    exact h₂

/-- What comes after all the entries comes after all but the first. -/
theorem each_cons_bind (f : α → Prog E W Unit) (x : α) (xs : List α) (m : Prog E W β) :
    (each f (x :: xs) >>= fun _ => m) = f x >>= fun _ => each f xs >>= fun _ => m := by
  funext e w
  simp only [each, bind_run]
  generalize f x e w = first
  obtain ⟨halted | a, w'⟩ := first <;> rfl

/-! ## Moving along a preorder -/

/-- Whatever `m` does, it moves the world along `R`. -/
def Keeps (R : W → W → Prop) (m : Prog E W α) : Prop := ∀ e w, R w (m e w).2

section Keeps
variable {R : W → W → Prop} [IsPreorder W R]

theorem keeps_pure (a : α) : Keeps R (pure a : Prog E W α) := fun _ w => refl_of R w

theorem keeps_read (f : E → W → α) : Keeps R (read f) := fun _ w => refl_of R w

theorem keeps_halt (h : Halt) : Keeps R (halt h : Prog E W α) := fun _ w => refl_of R w

theorem Keeps.bind {m : Prog E W α} {f : α → Prog E W β} (hm : Keeps R m) (hf : ∀ a, Keeps R (f a)) :
    Keeps R (m >>= f) := by
  intro e w
  rw [bind_run]
  have h₁ := hm e w
  split
  · rename_i a w₁ h
    rw [h] at h₁
    exact trans_of R h₁ (hf a e w₁)
  · rename_i h w₁ hw
    rw [hw] at h₁
    exact h₁

omit [IsPreorder W R] in
theorem Keeps.mono {R' : W → W → Prop} (h : ∀ w w', R w w' → R' w w') {m : Prog E W α} (hm : Keeps R m) :
    Keeps R' m := fun e w => h _ _ (hm e w)

omit [IsPreorder W R] in
theorem keeps_ite {c : Prop} [Decidable c] {m m' : Prog E W α} (h : Keeps R m) (h' : Keeps R m') :
    Keeps R (if c then m else m') := by
  split
  · exact h
  · exact h'

theorem keeps_when {c : Bool} {m : Prog E W Unit} (h : Keeps R m) : Keeps R (when c m) :=
  keeps_ite h (keeps_pure ())

theorem keeps_loop (n : Nat) {body : σ → Prog E W (σ ⊕ α)} (h : ∀ s, Keeps R (body s)) (s : σ) :
    Keeps R (loop n body s) := by
  induction n generalizing s with
  | zero => exact keeps_halt _
  | succ n ih =>
    refine (h s).bind fun r => ?_
    cases r with
    | inl s' => exact ih s'
    | inr a => exact keeps_pure a

theorem keeps_sweep {f : Nat → γ → α → Prog E W (γ × β)} (h : ∀ i c x, Keeps R (f i c x)) (i : Nat) (c : γ)
    (xs : List α) : Keeps R (sweep f i c xs) := by
  induction xs generalizing i c with
  | nil => exact keeps_pure _
  | cons x xs ih => exact (h i c x).bind fun _ => (ih _ _).bind fun _ => keeps_pure _

theorem keeps_each {f : α → Prog E W Unit} {xs : List α} (h : ∀ x ∈ xs, Keeps R (f x)) : Keeps R (each f xs) := by
  induction xs with
  | nil => exact keeps_pure _
  | cons x xs ih => exact (h x (by simp)).bind fun _ => ih fun y hy => h y (by simp [hy])

end Keeps

/-! ## Triples -/

/-- From a world in `P`, a return is in `Q` and a halt in `S`. -/
def Triple (P : W → Prop) (m : Prog E W α) (Q : α → W → Prop) (S : W → Prop) : Prop :=
  ∀ e w, P w → match m e w with
    | (.ok a, w') => Q a w'
    | (.error _, w') => S w'

section Triple
variable {P P' : W → Prop} {Q Q' : α → W → Prop} {S : W → Prop}

theorem Triple.ok {m : Prog E W α} (h : Triple P m Q S) {e : E} {w w' : W} {a : α} (hP : P w)
    (hr : m e w = (.ok a, w')) : Q a w' := by
  have := h e w hP
  rwa [hr] at this

theorem Triple.error {m : Prog E W α} (h : Triple P m Q S) {e : E} {w w' : W} {x : Halt} (hP : P w)
    (hr : m e w = (.error x, w')) : S w' := by
  have := h e w hP
  rwa [hr] at this

/-- Both outcomes at once. -/
theorem Triple.all {m : Prog E W α} {I : W → Prop} (h : Triple P m Q S) (hQ : ∀ a w, Q a w → I w)
    (hS : ∀ w, S w → I w) {e : E} {w : W} (hP : P w) : I (m e w).2 := by
  have := h e w hP
  split at this
  · rename_i heq; rw [heq]; exact hQ _ _ this
  · rename_i heq; rw [heq]; exact hS _ this

theorem triple_pure {a : α} (h : ∀ w, P w → Q a w) : Triple P (pure a : Prog E W α) Q S := fun _ w hw => h w hw

theorem triple_read {f : E → W → α} (h : ∀ e w, P w → Q (f e w) w) : Triple P (read f) Q S :=
  fun e w hw => h e w hw

/-- A read leaves every assertion as it is. -/
theorem triple_same {f : E → W → α} : Triple P (read f) (fun _ => P) S := triple_read fun _ _ => id

theorem triple_modify {f : W → W} {Q : Unit → W → Prop} (h : ∀ w, P w → Q () (f w)) :
    Triple P (modify f : Prog E W Unit) Q S := fun _ w hw => h w hw

theorem triple_halt {x : Halt} (h : ∀ w, P w → S w) : Triple P (halt x : Prog E W α) Q S := fun _ w hw => h w hw

theorem Triple.bind {m : Prog E W α} {f : α → Prog E W β} {Q' : β → W → Prop} (hm : Triple P m Q S)
    (hf : ∀ a, Triple (Q a) (f a) Q' S) : Triple P (m >>= f) Q' S := by
  intro e w hw
  rw [bind_run]
  have h₁ := hm e w hw
  split
  · rename_i b w₂ h
    split at h
    · rename_i a w₁ ha
      rw [ha] at h₁
      have := hf a e w₁ h₁
      rwa [h] at this
    · cases h
  · rename_i x w₂ h
    split at h
    · rename_i a w₁ ha
      rw [ha] at h₁
      have := hf a e w₁ h₁
      rwa [h] at this
    · rename_i y w₁ ha
      rw [ha] at h₁
      cases h
      exact h₁

theorem Triple.conseq {m : Prog E W α} {S' : W → Prop} (h : Triple P m Q S) (hP : ∀ w, P' w → P w)
    (hQ : ∀ a w, Q a w → Q' a w) (hS : ∀ w, S w → S' w) : Triple P' m Q' S' := by
  intro e w hw
  have := h e w (hP w hw)
  split at this
  · exact hQ _ _ this
  · exact hS _ this

theorem Triple.post {m : Prog E W α} (h : Triple P m Q S) (hQ : ∀ a w, Q a w → Q' a w) : Triple P m Q' S :=
  h.conseq (fun _ => id) hQ (fun _ => id)

theorem Triple.pre {m : Prog E W α} (h : Triple P m Q S) (hP : ∀ w, P' w → P w) : Triple P' m Q S :=
  h.conseq hP (fun _ _ => id) (fun _ => id)

/-- What a preorder says about a program, as a triple. -/
theorem Keeps.triple {R : W → W → Prop} {m : Prog E W α} {I : W → Prop} (h : Keeps R m)
    (hQ : ∀ w w', P w → R w w' → I w') : Triple P m (fun _ => I) I := by
  intro e w hw
  have := hQ w _ hw (h e w)
  split <;> rename_i heq <;> rw [heq] at this <;> exact this

/-- Two triples with one postcondition for halts between them. -/
theorem triple_and {m : Prog E W α} (h : Triple P m Q fun _ => True) (h' : Triple P m Q' S) :
    Triple P m (fun a w => Q a w ∧ Q' a w) S := by
  intro e w hw
  have h₁ := h e w hw
  have h₂ := h' e w hw
  split <;> rename_i heq <;> rw [heq] at h₁ h₂
  · exact ⟨h₁, h₂⟩
  · exact h₂

/-- Two triples side by side. -/
theorem Triple.both {P' S' : W → Prop} {m : Prog E W α} (h : Triple P m Q S) (h' : Triple P' m Q' S') :
    Triple (fun w => P w ∧ P' w) m (fun a w => Q a w ∧ Q' a w) (fun w => S w ∧ S' w) := by
  intro e w hw
  have h₁ := h e w hw.1
  have h₂ := h' e w hw.2
  split <;> rename_i heq <;> rw [heq] at h₁ h₂
  · exact ⟨h₁, h₂⟩
  · exact ⟨h₁, h₂⟩

/-- After a round: the invariant where it goes on, the result's assertion
where it ends. -/
def Next (I : σ → W → Prop) (Q : α → W → Prop) : σ ⊕ α → W → Prop
  | .inl s => I s
  | .inr a => Q a

/-- The rounds of a loop: from `s` in `w`, with `n` rounds left, it comes to
start one from `s'` in `w'`. -/
inductive Visits (e : E) (body : σ → Prog E W (σ ⊕ α)) : Nat → σ → W → σ → W → Prop
  | start {n : Nat} {s : σ} {w : W} : Visits e body (n + 1) s w s w
  | next {n : Nat} {s s₁ s' : σ} {w w₁ w' : W} : body s e w = (.ok (.inl s₁), w₁) → Visits e body n s₁ w₁ s' w' →
      Visits e body (n + 1) s w s' w'

/-- What every round that is started keeps holds in the end. -/
theorem loop_visits {e : E} {body : σ → Prog E W (σ ⊕ α)} {I : W → Prop} {n : Nat} {s : σ} {w : W}
    (h : ∀ s' w', Visits e body n s w s' w' → I w' → I (body s' e w').2) (hw : I w) : I (loop n body s e w).2 := by
  induction n generalizing s w with
  | zero => exact hw
  | succ n ih =>
    have hround := h s w .start hw
    rw [loop, bind_run]
    rcases hr : body s e w with ⟨halted | s₁ | a, w₁⟩ <;> rw [hr] at hround
    · exact hround
    · exact ih (fun s' w' hvisit => h s' w' (.next hr hvisit)) hround
    · exact hround

/-- The loop goes on from every round that it starts. -/
theorem Visits.moves {e : E} {body : σ → Prog E W (σ ⊕ α)} {R : W → W → Prop} [IsPreorder W R]
    (hR : ∀ s, Keeps R (body s)) {n : Nat} {s s' : σ} {w w' : W} (h : Visits e body n s w s' w') :
    R (body s' e w').2 (loop n body s e w).2 := by
  induction h with
  | @start n s w =>
    rw [loop, bind_run]
    rcases body s e w with ⟨halted | s₁ | a, w₁⟩
    · exact refl_of R w₁
    · exact keeps_loop n hR s₁ e w₁
    · exact refl_of R w₁
  | next hr _ ih =>
    rw [loop, bind_run, hr]
    exact ih

/-- A loop keeps the invariant of its rounds. -/
theorem triple_loop {I : σ → W → Prop} (n : Nat) {body : σ → Prog E W (σ ⊕ α)}
    (hbody : ∀ s, Triple (I s) (body s) (Next I Q) S)
    (hS : ∀ s w, I s w → S w) (s : σ) : Triple (I s) (loop n body s) Q S := by
  induction n generalizing s with
  | zero => exact triple_halt (hS s)
  | succ n ih =>
    refine (hbody s).bind fun r => ?_
    cases r with
    | inl s' => exact ih s'
    | inr a => exact triple_pure fun _ h => h

theorem triple_fact {φ : Prop} {m : Prog E W α} (h : φ → Triple P m Q S) : Triple (fun w => φ ∧ P w) m Q S :=
  fun e w hw => h hw.1 e w hw.2

theorem triple_ite {c : Prop} [Decidable c] {m m' : Prog E W α} (h : c → Triple P m Q S) (h' : ¬ c → Triple P m' Q S) :
    Triple P (if c then m else m') Q S := by
  split
  · exact h ‹_›
  · exact h' ‹_›

/-- A sweep keeps an invariant of the entries made, the accumulator and the
entries still to come. -/
theorem triple_sweep {I : List β → γ → List α → W → Prop} {f : Nat → γ → α → Prog E W (γ × β)}
    (h : ∀ done c x rest, Triple (I done c (x :: rest)) (f done.length c x) (fun r w => I (done ++ [r.2]) r.1 rest w) S)
    (c : γ) (xs : List α) : Triple (I [] c xs) (sweep f 0 c xs) (fun r w => I r.2 r.1 [] w) S := by
  have main : ∀ done c xs, Triple (I done c xs) (sweep f done.length c xs) (fun r w => I (done ++ r.2) r.1 [] w) S := by
    intro done c xs
    induction xs generalizing done c with
    | nil => exact triple_pure fun w hw => by simpa using hw
    | cons x xs ih =>
      refine (h done c x xs).bind fun r => ?_
      have hrest := ih (done ++ [r.2]) r.1
      rw [List.length_append] at hrest
      exact hrest.bind fun r' => triple_pure fun w hw => by simpa using hw
  simpa using main [] c xs

/-- `f` on each entry, with an invariant of the entries still to come. -/
theorem triple_each {I : List α → W → Prop} {f : α → Prog E W Unit}
    (h : ∀ x rest, Triple (I (x :: rest)) (f x) (fun _ => I rest) S) (xs : List α) :
    Triple (I xs) (each f xs) (fun _ => I []) S := by
  induction xs with
  | nil => exact triple_pure fun _ => id
  | cons x xs ih => exact (h x xs).bind fun _ => ih

end Triple

/-! ## One environment

A triple is about every environment. `m.under e` is `m` where the answers are
those of `e`, so that an assertion may name them. -/

def under (e : E) (m : Prog E W α) : Prog E W α := fun _ w => m e w

section Under
variable {P : W → Prop} {Q : α → W → Prop} {Q' : β → W → Prop} {S : W → Prop} {e : E}

theorem Triple.under {m : Prog E W α} (h : Triple P m Q S) : Triple P (m.under e) Q S := fun _ w hw => h e w hw

/-- An assertion of the world alone, however the run ends. -/
theorem triple_world {m : Prog E W α} {I : W → Prop} (h : ∀ w, P w → I (m e w).2) :
    Triple P (m.under e) (fun _ => I) I := by
  intro e' w hw
  have hI : I (m.under e e' w).2 := h w hw
  split <;> rename_i heq <;> rw [heq] at hI <;> exact hI

theorem Triple.bind_under {m : Prog E W α} {f : α → Prog E W β} (hm : Triple P (m.under e) Q S)
    (hf : ∀ a, Triple (Q a) ((f a).under e) Q' S) : Triple P ((m >>= f).under e) Q' S := hm.bind hf

theorem triple_ite_under {c : Prop} [Decidable c] {m m' : Prog E W α} (h : c → Triple P (m.under e) Q S)
    (h' : ¬ c → Triple P (m'.under e) Q S) : Triple P ((if c then m else m').under e) Q S := by
  split
  · exact h ‹_›
  · exact h' ‹_›

/-- A loop of one environment keeps the invariant its rounds keep there. -/
theorem triple_loop_under {I : σ → W → Prop} (n : Nat) {body : σ → Prog E W (σ ⊕ α)}
    (hbody : ∀ s, Triple (I s) ((body s).under e) (Next I Q) S) (hS : ∀ s w, I s w → S w) (s : σ) :
    Triple (I s) ((loop n body s).under e) Q S := by
  induction n generalizing s with
  | zero => exact triple_halt (hS s)
  | succ n ih =>
    refine (hbody s).bind_under fun r => ?_
    cases r with
    | inl s' => exact ih s'
    | inr a => exact triple_pure fun _ h => h

end Under

/-! ## Returned values -/

/-- Whatever `m` returns is in `Q`. -/
def Returns (m : Prog E W α) (Q : α → Prop) : Prop := ∀ e w a w', m e w = (.ok a, w') → Q a

section Returns
variable {Q Q' : α → Prop} {Q₂ : β → Prop}

theorem returns_pure {a : α} (h : Q a) : Returns (pure a : Prog E W α) Q := by
  intro e w b w' hr
  cases hr
  exact h

theorem returns_any (m : Prog E W α) : Returns m fun _ => True := fun _ _ _ _ _ => trivial

theorem Returns.bind {m : Prog E W α} {f : α → Prog E W β} (hm : Returns m Q) (hf : ∀ a, Q a → Returns (f a) Q₂) :
    Returns (m >>= f) Q₂ := by
  intro e w b w' hr
  obtain ⟨a, w₁, h₁, h₂⟩ := bind_eq_ok.1 hr
  exact hf a (hm e w a w₁ h₁) e w₁ b w' h₂

/-- A first part whose value does not matter. -/
theorem returns_bind {m : Prog E W α} {f : α → Prog E W β} (hf : ∀ a, Returns (f a) Q₂) : Returns (m >>= f) Q₂ :=
  (returns_any m).bind fun a _ => hf a

theorem returns_ite {c : Prop} [Decidable c] {m m' : Prog E W α} (h : c → Returns m Q) (h' : ¬ c → Returns m' Q) :
    Returns (if c then m else m') Q := by
  split
  · exact h ‹_›
  · exact h' ‹_›

theorem Returns.mono {m : Prog E W α} (hm : Returns m Q) (h : ∀ a, Q a → Q' a) : Returns m Q' :=
  fun e w a w' hr => h a (hm e w a w' hr)

theorem Triple.returns {m : Prog E W α} {P S : W → Prop} {R : α → W → Prop} (h : Triple P m R S) (hm : Returns m Q) :
    Triple P m (fun a w => Q a ∧ R a w) S := by
  intro e w hw
  have h₁ := h e w hw
  split <;> rename_i heq <;> rw [heq] at h₁
  · exact ⟨hm e w _ _ heq, h₁⟩
  · exact h₁

end Returns

/-! ## Programs that always return -/

section Total

/-- `m` always returns. -/
def Total (m : Prog E W α) : Prop := ∀ e w, ∃ a w', m e w = (.ok a, w')

theorem total_pure (a : α) : Total (pure a : Prog E W α) := fun _ w => ⟨a, w, rfl⟩

theorem total_modify (f : W → W) : Total (modify f : Prog E W Unit) := fun _ w => ⟨(), f w, rfl⟩

theorem Total.bind {m : Prog E W α} {f : α → Prog E W β} (hm : Total m) (hf : ∀ a, Total (f a)) : Total (m >>= f) := by
  intro e w
  obtain ⟨a, w₁, h₁⟩ := hm e w
  rw [bind_ok h₁]
  exact hf a e w₁

theorem total_ite {c : Prop} [Decidable c] {m m' : Prog E W α} (h : Total m) (h' : Total m') :
    Total (if c then m else m') := by
  split
  · exact h
  · exact h'

end Total

/-! ## Output -/

section Emits
variable {O : Type} {out : W → List O} {xs ys : List O} {Q : α → Prop} {Q' : β → Prop}

/-- A return has added `xs` to the output and satisfies `Q`; a halt has added
a first part of `xs`. -/
def Emits (out : W → List O) (xs : List O) (m : Prog E W α) (Q : α → Prop) : Prop :=
  ∀ e w, match m e w with
    | (.ok a, w') => Q a ∧ out w' = out w ++ xs
    | (.error _, w') => ∃ ys, ys <+: xs ∧ out w' = out w ++ ys

theorem Emits.ok {m : Prog E W α} (h : Emits out xs m Q) {e : E} {w w' : W} {a : α} (hr : m e w = (.ok a, w')) :
    Q a ∧ out w' = out w ++ xs := by
  have := h e w
  rwa [hr] at this

theorem emits_pure {a : α} (h : Q a) : Emits out [] (pure a : Prog E W α) Q := fun _ _ => ⟨h, by simp⟩

theorem Emits.bind {m : Prog E W α} {f : α → Prog E W β} (hm : Emits out xs m Q)
    (hf : ∀ a, Q a → Emits out ys (f a) Q') : Emits out (xs ++ ys) (m >>= f) Q' := by
  intro e w
  have h₁ := hm e w
  rcases hr : m e w with ⟨_ | a, w₁⟩ <;> rw [hr] at h₁
  · obtain ⟨zs, hz, ho⟩ := h₁
    rw [bind_run, hr]
    exact ⟨zs, hz.trans (List.prefix_append _ _), ho⟩
  · rw [bind_ok hr]
    have h₂ := hf a h₁.1 e w₁
    rcases hr' : f a e w₁ with ⟨_ | b, w₂⟩ <;> rw [hr'] at h₂
    · obtain ⟨zs, hz, ho⟩ := h₂
      exact ⟨xs ++ zs, List.prefix_append_right_inj xs |>.2 hz, by rw [ho, h₁.2, List.append_assoc]⟩
    · exact ⟨h₂.1, by rw [h₂.2, h₁.2, List.append_assoc]⟩

theorem Emits.bind_nil {m : Prog E W α} {f : α → Prog E W β} (hm : Emits out xs m Q)
    (hf : ∀ a, Q a → Emits out [] (f a) Q') : Emits out xs (m >>= f) Q' := by
  simpa using hm.bind hf

theorem Emits.nil_bind {m : Prog E W α} {f : α → Prog E W β} (hm : Emits out [] m Q)
    (hf : ∀ a, Q a → Emits out ys (f a) Q') : Emits out ys (m >>= f) Q' := by
  simpa using hm.bind hf

theorem Emits.mono {m : Prog E W α} {Q' : α → Prop} (hm : Emits out xs m Q) (h : ∀ a, Q a → Q' a) :
    Emits out xs m Q' := by
  intro e w
  have h₁ := hm e w
  rcases hr : m e w with ⟨_ | a, w₁⟩ <;> rw [hr] at h₁
  · exact h₁
  · exact ⟨h a h₁.1, h₁.2⟩

/-- A program that leaves the output alone. -/
theorem Keeps.emits {R : W → W → Prop} {m : Prog E W α} (h : Keeps R m) (hR : ∀ w w', R w w' → out w' = out w) :
    Emits out [] m fun _ => True := by
  intro e w
  have := hR _ _ (h e w)
  split <;> rename_i heq <;> rw [heq] at this
  · exact ⟨trivial, by simpa using this⟩
  · exact ⟨[], List.prefix_rfl, by simpa using this⟩

/-- `m` always returns, with a value in `Q`, and has added `xs` to the output. -/
def Writes (out : W → List O) (xs : List O) (m : Prog E W α) (Q : α → Prop) : Prop :=
  ∀ e w, ∃ a w', m e w = (.ok a, w') ∧ Q a ∧ out w' = out w ++ xs

theorem writes_pure {a : α} (h : Q a) : Writes out [] (pure a : Prog E W α) Q := fun _ w => ⟨a, w, rfl, h, by simp⟩

theorem Writes.bind {m : Prog E W α} {f : α → Prog E W β} (hm : Writes out xs m Q)
    (hf : ∀ a, Q a → Writes out ys (f a) Q') : Writes out (xs ++ ys) (m >>= f) Q' := by
  intro e w
  obtain ⟨a, w₁, hr, ha, ho⟩ := hm e w
  obtain ⟨b, w₂, hr', hb, ho'⟩ := hf a ha e w₁
  refine ⟨b, w₂, ?_, hb, ?_⟩
  · rw [bind_ok hr, hr']
  · rw [ho', ho, List.append_assoc]

theorem Writes.bind_nil {m : Prog E W α} {f : α → Prog E W β} (hm : Writes out xs m Q)
    (hf : ∀ a, Q a → Writes out [] (f a) Q') : Writes out xs (m >>= f) Q' := by
  simpa using hm.bind hf

theorem Writes.nil_bind {m : Prog E W α} {f : α → Prog E W β} (hm : Writes out [] m Q)
    (hf : ∀ a, Q a → Writes out ys (f a) Q') : Writes out ys (m >>= f) Q' := by
  simpa using hm.bind hf

theorem Writes.mono {m : Prog E W α} {Q' : α → Prop} (hm : Writes out xs m Q) (h : ∀ a, Q a → Q' a) :
    Writes out xs m Q' := by
  intro e w
  obtain ⟨a, w', hr, ha, ho⟩ := hm e w
  exact ⟨a, w', hr, h a ha, ho⟩

end Emits

end Prog

end RunLib
