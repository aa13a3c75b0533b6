import AmBot.RunLib.Prog
/-!
# One invariant for a whole program

Most functions of a program need no more of the world than its invariant, and
what they know besides is in the values they pass on. `Upholds e I m Q` says
that from a world of `I`, with the answers of `e`, the program ends in a world
of `I`, returns a value of `Q` if it returns, and does nothing undefined. The
arrays of a program are asserted entry by entry.
-/

namespace RunLib
namespace Prog

variable {E W α β γ σ : Type} {e : E} {I : W → Prop} {Q : α → Prop}

/-- The invariant is kept, what is returned is in `Q`, and nothing faults. -/
def Upholds (e : E) (I : W → Prop) (m : Prog E W α) (Q : α → Prop) : Prop :=
  ∀ w, I w → I (m e w).2 ∧ (m e w).1 ≠ .error .fault ∧ ∀ a, (m e w).1 = .ok a → Q a

theorem upholds_pure {a : α} (h : Q a) : Upholds e I (pure a : Prog E W α) Q := by
  intro w hw
  refine ⟨hw, nofun, fun b hb => ?_⟩
  cases hb
  exact h

theorem upholds_read {f : E → W → α} (h : ∀ w, I w → Q (f e w)) : Upholds e I (read f) Q := by
  intro w hw
  refine ⟨hw, nofun, fun b hb => ?_⟩
  cases hb
  exact h w hw

theorem upholds_modify {f : W → W} (h : ∀ w, I w → I (f w)) : Upholds e I (modify f : Prog E W Unit) fun _ => True :=
  fun w hw => ⟨h w hw, nofun, fun _ _ => trivial⟩

/-- A program whose first step is what makes the invariant hold. -/
theorem upholds_after {f : W → W} {k : Unit → Prog E W α} (hk : Upholds e I (k ()) Q) {w : W} (hw : I (f w)) :
    I ((modify f >>= k) e w).2 ∧ ((modify f >>= k) e w).1 ≠ .error .fault := by
  obtain ⟨hkept, hsafe, -⟩ := hk (f w) hw
  exact ⟨hkept, hsafe⟩

theorem upholds_outOfFuel : Upholds e I (halt .outOfFuel : Prog E W α) Q := fun _ hw => ⟨hw, nofun, nofun⟩

theorem Upholds.bind {m : Prog E W α} {f : α → Prog E W β} {Q' : β → Prop} (hm : Upholds e I m Q)
    (hf : ∀ a, Q a → Upholds e I (f a) Q') : Upholds e I (m >>= f) Q' := by
  intro w hw
  obtain ⟨hkept, hsafe, hret⟩ := hm w hw
  rw [bind_run]
  rcases hr : m e w with ⟨_ | a, w₁⟩ <;> rw [hr] at hkept hsafe hret
  · exact ⟨hkept, fun hfault => hsafe (by simpa using hfault), nofun⟩
  · exact hf a (hret a rfl) w₁ hkept

theorem Upholds.mono {m : Prog E W α} {Q' : α → Prop} (hm : Upholds e I m Q) (h : ∀ a, Q a → Q' a) :
    Upholds e I m Q' :=
  fun w hw => ⟨(hm w hw).1, (hm w hw).2.1, fun a ha => h a ((hm w hw).2.2 a ha)⟩

theorem Upholds.any {m : Prog E W α} (hm : Upholds e I m Q) : Upholds e I m fun _ => True := hm.mono fun _ _ => trivial

/-- Two steps that are one as far as the invariant goes. -/
theorem Upholds.bind_pair {m : Prog E W α} {m' : α → Prog E W β} {f : β → Prog E W γ} {Q : β → Prop} {Q' : γ → Prop}
    (hm : Upholds e I (m >>= m') Q) (hf : ∀ b, Q b → Upholds e I (f b) Q') :
    Upholds e I (m >>= fun a => m' a >>= f) Q' := by
  rw [bind_bind]
  exact hm.bind hf

theorem upholds_ite {c : Prop} [Decidable c] {m m' : Prog E W α} (h : c → Upholds e I m Q) (h' : ¬ c → Upholds e I m' Q) :
    Upholds e I (if c then m else m') Q := by
  split
  · exact h ‹_›
  · exact h' ‹_›

theorem upholds_when {c : Bool} {m : Prog E W Unit} (h : Upholds e I m fun _ => True) :
    Upholds e I (when c m) fun _ => True :=
  upholds_ite (fun _ => h) fun _ => upholds_pure trivial

/-- What always returns, and moves the world along a relation that the
invariant follows. -/
theorem Total.upholds {m : Prog E W α} (hm : Total m) {R : W → W → Prop} (h : Keeps R m)
    (hR : ∀ w w', R w w' → I w → I w') : Upholds e I m fun _ => True := by
  intro w hw
  obtain ⟨a, w', hr⟩ := hm e w
  refine ⟨hR w _ (h e w) hw, ?_, fun _ _ => trivial⟩
  rw [hr]
  nofun

/-- A value that is known of the returns besides. -/
theorem Upholds.returns {m : Prog E W α} {Q' : α → Prop} (hm : Upholds e I m Q) (h : Returns m Q') :
    Upholds e I m fun a => Q a ∧ Q' a := by
  intro w hw
  obtain ⟨hkept, hsafe, hret⟩ := hm w hw
  refine ⟨hkept, hsafe, fun a ha => ⟨hret a ha, ?_⟩⟩
  rcases hr : m e w with ⟨r, w'⟩
  rw [hr] at ha
  cases ha
  exact h e w a w' hr

/-- A loop, with what is known of its state between two rounds. -/
theorem upholds_loop {X : σ → Prop} (n : Nat) {body : σ → Prog E W (σ ⊕ α)}
    (h : ∀ s, X s → Upholds e I (body s) (Sum.elim X Q)) {s : σ} (hs : X s) : Upholds e I (loop n body s) Q := by
  induction n generalizing s with
  | zero => exact upholds_outOfFuel
  | succ n ih =>
    refine (h s hs).bind fun r hr => ?_
    cases r with
    | inl s' => exact ih hr
    | inr a => exact upholds_pure hr

/-- An array made anew, entry by entry. -/
theorem upholds_sweep {X : α → Prop} {Y : β → Prop} {f : Nat → γ → α → Prog E W (γ × β)}
    (h : ∀ i c x, X x → Upholds e I (f i c x) fun r => Y r.2) (i : Nat) (c : γ) {xs : List α} (hxs : ∀ x ∈ xs, X x) :
    Upholds e I (sweep f i c xs) fun r => r.2.length = xs.length ∧ ∀ y ∈ r.2, Y y := by
  induction xs generalizing i c with
  | nil => exact upholds_pure ⟨rfl, nofun⟩
  | cons x xs ih =>
    obtain ⟨hx, hrest⟩ := List.forall_mem_cons.1 hxs
    refine (h i c x hx).bind fun r hy => (ih (i + 1) r.1 hrest).bind fun r' hr' => upholds_pure ?_
    exact ⟨congrArg (· + 1) hr'.1, List.forall_mem_cons.2 ⟨hy, hr'.2⟩⟩

theorem upholds_each {f : α → Prog E W Unit} {xs : List α} (h : ∀ x ∈ xs, Upholds e I (f x) fun _ => True) :
    Upholds e I (each f xs) fun _ => True := by
  induction xs with
  | nil => exact upholds_pure trivial
  | cons x xs ih =>
    obtain ⟨hx, hrest⟩ := List.forall_mem_cons.1 h
    exact hx.bind fun _ _ => ih hrest

end Prog
end RunLib
