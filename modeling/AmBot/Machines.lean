import AmBot.Growth
import AmBot.RunLib.Runs
/-!
# Machines that read the trace

A machine takes the entries of the trace one after the other, or refuses one
that comes out of order. A program that takes it from one state to another
logs a run of it; how the machine came to the first state does not matter.
-/

namespace AmBot

open RunLib RunLib.Prog

variable {σ α : Type} {step : σ → Obs → Option σ} {start s s' : σ} {t u : List Obs} {o : Obs} {K : List Kind} {m : M α}

/-- What was logged since `t` has taken the machine to `s`. -/
def Tells (step : σ → Obs → Option σ) (start : σ) (t : List Obs) (s : σ) (u : List Obs) : Prop :=
  ∃ new, u = t ++ new ∧ Run step start new s

/-- What was logged since `t` is a run of the machine. -/
def Told (step : σ → Obs → Option σ) (start : σ) (t : List Obs) (w : World) : Prop := ∃ s, Tells step start t s w.trace

theorem Tells.told {w : World} (h : Tells step start t s w.trace) : Told step start t w := ⟨s, h⟩

theorem Tells.snoc (h : Tells step start t s u) (ho : step s o = some s') : Tells step start t s' (u ++ [o]) := by
  obtain ⟨new, rfl, hrun⟩ := h
  exact ⟨new ++ [o], List.append_assoc _ _ _, hrun.append (.cons ho (.nil s'))⟩

/-- A program takes the machine from `s` to where its result says. -/
abbrev TakesTo (step : σ → Obs → Option σ) (start : σ) (t : List Obs) (s : σ) (m : M α) (next : α → σ) : Prop :=
  Triple (fun w => Tells step start t s w.trace) m (fun a w => Tells step start t (next a) w.trace) (Told step start t)

theorem log_takesTo (h : step s o = some s') : TakesTo step start t s (log o) fun _ => s' := by
  apply triple_modify
  intro w hw
  exact hw.snoc h

theorem ask_takesTo (f : Env → Nat → α) : TakesTo step start t s (ask f) fun _ => s := fun _ _ hw => hw

/-- The machine stays where it is. -/
abbrev Stays (step : σ → Obs → Option σ) (start : σ) (t : List Obs) (s : σ) (m : M α) : Prop :=
  Keeps (Along fun u u' => Tells step start t s u → Tells step start t s u') m

theorem Stays.takesTo (h : Stays step start t s m) : TakesTo step start t s m fun _ => s :=
  (triple_along h).conseq (fun _ => id) (fun _ _ => id) fun _ => Tells.told

theorem acts_stays (hK : ∀ o : Obs, o.kind ∈ K → step s o = some s) (h : Keeps (Acts K) m) :
    Stays step start t s m := by
  apply acts_along _ h
  intro u o ho hu
  exact hu.snoc (hK o ho)

/-! ## Where a machine can be -/

variable {P Q : σ → Prop} {new : List Obs}

/-- What was logged since `t` has taken the machine to one of the states of `P`. -/
def Within (step : σ → Obs → Option σ) (start : σ) (t : List Obs) (P : σ → Prop) (u : List Obs) : Prop :=
  ∃ s, P s ∧ Tells step start t s u

/-- The machine takes the entry in every state of `P`, to one of `Q`. -/
def Admits (step : σ → Obs → Option σ) (P : σ → Prop) (o : Obs) (Q : σ → Prop) : Prop :=
  ∀ s, P s → ∃ s', step s o = some s' ∧ Q s'

theorem Within.told {w : World} (h : Within step start t P w.trace) : Told step start t w := by
  obtain ⟨s, -, hs⟩ := h
  exact ⟨s, hs⟩

theorem Within.mono (h : Within step start t P u) (hPQ : ∀ s, P s → Q s) : Within step start t Q u := by
  obtain ⟨s, hP, hs⟩ := h
  exact ⟨s, hPQ s hP, hs⟩

theorem Within.snoc (h : Within step start t P u) (ho : Admits step P o Q) : Within step start t Q (u ++ [o]) := by
  obtain ⟨s, hP, hs⟩ := h
  obtain ⟨s', hstep, hQ⟩ := ho s hP
  exact ⟨s', hQ, hs.snoc hstep⟩

/-- What is admitted in `P` one after the other. -/
theorem Within.append (h : Within step start t P u) (hnew : ∀ o ∈ new, Admits step P o P) :
    Within step start t P (u ++ new) := by
  induction new generalizing u with
  | nil => simpa using h
  | cons o new ih =>
    have hone := h.snoc (hnew o List.mem_cons_self)
    have hrest := ih hone fun o ho => hnew o (List.mem_cons_of_mem _ ho)
    simpa using hrest

end AmBot
