import AmBot.RunLib.Runs
import Mathlib.Algebra.Order.BigOperators.Group.List
import Mathlib.Algebra.Order.Ring.Nat
/-!
# Tasks that share a memory

Any number of tasks, each at a place `P` of its own program, over one shared
memory `G`. A move of one task may look at the memory and change it. Two rules
carry an invariant over such a move: a counter that changes by what the task
takes or gives back counts the tasks that have something, and a lock that only
its owner or nobody has when it is taken has one task inside.
-/

namespace RunLib

variable {P G A : Type}

structure Tasks (P G : Type) where
  tasks : List P
  shared : G

/-- The task `i` is at `p` now, and the memory is `g`. -/
def Tasks.moved (s : Tasks P G) (i : Nat) (p : P) (g : G) : Tasks P G := { tasks := s.tasks.set i p, shared := g }

/-- The task `i` moves, with the answer `a` from outside. -/
def Tasks.step (move : Nat → A → P → G → Option (P × G)) (s : Tasks P G) (action : Nat × A) : Option (Tasks P G) :=
  (s.tasks[action.1]?).bind fun p => (move action.1 action.2 p s.shared).map fun r => s.moved action.1 r.1 r.2

variable {move : Nat → A → P → G → Option (P × G)} {s s' : Tasks P G} {i j : Nat} {a : A} {p p' : P} {g' : G}

/-- What a step is. -/
theorem Tasks.step_cases (h : Tasks.step move s (i, a) = some s') :
    ∃ p p' g', s.tasks[i]? = some p ∧ move i a p s.shared = some (p', g') ∧ s' = s.moved i p' g' := by
  obtain ⟨p, hp, hmove⟩ := Option.bind_eq_some_iff.1 h
  obtain ⟨⟨p', g'⟩, hmove', rfl⟩ := Option.map_eq_some_iff.1 hmove
  exact ⟨p, p', g', hp, hmove', rfl⟩

/-- A task that can move is one the system can move. -/
theorem Tasks.step_isSome (hp : s.tasks[i]? = some p) (hmove : (move i a p s.shared).isSome = true) :
    (Tasks.step move s (i, a)).isSome = true := by
  rw [Tasks.step, hp, Option.bind_some, Option.isSome_map]
  exact hmove

theorem Tasks.moved_at (hp : s.tasks[i]? = some p) :
    (s.moved i p' g').tasks[j]? = if i = j then some p' else s.tasks[j]? := by
  rw [Tasks.moved]
  by_cases hij : i = j
  · subst hij
    rw [if_pos rfl, List.getElem?_set_self (List.getElem?_eq_some_iff.1 hp).1]
  · rw [if_neg hij, List.getElem?_set_ne hij]

/-! ## Counters -/

/-- A counter of what the tasks have. -/
def Counts (has : P → Nat) (count : G → Nat) (s : Tasks P G) : Prop := count s.shared = (s.tasks.map has).sum

section Counters
variable {has : P → Nat} {count : G → Nat}

theorem sum_set {tasks : List P} (has : P → Nat) (p' : P) (hp : tasks[i]? = some p) :
    ((tasks.set i p').map has).sum + has p = (tasks.map has).sum + has p' := by
  induction tasks generalizing i with
  | nil => cases hp
  | cons first tasks ih =>
    cases i with
    | zero =>
      cases hp
      simp only [List.set_cons_zero, List.map_cons, List.sum_cons]
      omega
    | succ i =>
      have htail := ih (i := i) (by simpa using hp)
      simp only [List.set_cons_succ, List.map_cons, List.sum_cons]
      omega

/-- What a task has is counted. -/
theorem Counts.le (hs : Counts has count s) (hp : s.tasks[i]? = some p) : has p ≤ count s.shared := by
  rw [show count s.shared = (s.tasks.map has).sum from hs]
  exact List.le_sum_of_mem (List.mem_map_of_mem (List.mem_of_getElem? hp))

theorem Counts.step (hs : Counts has count s) (hp : s.tasks[i]? = some p)
    (hcount : count g' + has p = count s.shared + has p') : Counts has count (s.moved i p' g') := by
  have htasks := sum_set has p' hp
  have hbefore : count s.shared = (s.tasks.map has).sum := hs
  change count g' = ((s.tasks.set i p').map has).sum
  omega

/-- Nobody has anything, so nothing is counted. -/
theorem Counts.none (hs : Counts has count s) (h : ∀ p ∈ s.tasks, has p = 0) : count s.shared = 0 := by
  rw [show count s.shared = (s.tasks.map has).sum from hs, List.sum_eq_zero_iff_forall_eq_nat]
  intro n hn
  obtain ⟨p, hp, rfl⟩ := List.mem_map.1 hn
  exact h p hp

end Counters

/-! ## Locks -/

/-- The owner of the lock is the one task inside. -/
def Guards (inside : P → Bool) (owner : G → Option Nat) (s : Tasks P G) : Prop :=
  ∀ j, owner s.shared = some j ↔ ∃ p, s.tasks[j]? = some p ∧ inside p = true

section Locks
variable {inside : P → Bool} {owner : G → Option Nat}

theorem Guards.at (hs : Guards inside owner s) (hp : s.tasks[i]? = some p) :
    owner s.shared = some i ↔ inside p = true := by
  rw [hs i, hp]
  simp

/-- A move that neither enters nor leaves. -/
theorem Guards.keep (hs : Guards inside owner s) (hp : s.tasks[i]? = some p) (howner : owner g' = owner s.shared)
    (hinside : inside p' = inside p) : Guards inside owner (s.moved i p' g') := by
  intro j
  change owner g' = some j ↔ _
  rw [howner, hs j, Tasks.moved_at hp]
  by_cases hij : i = j
  · subst hij
    simp [hp, hinside]
  · rw [if_neg hij]

/-- A move with the lock free or its own, which has it afterwards if it is
inside. -/
theorem Guards.step (hs : Guards inside owner s) (hp : s.tasks[i]? = some p)
    (hfree : owner s.shared = none ∨ owner s.shared = some i) (hafter : owner g' = if inside p' then some i else none) :
    Guards inside owner (s.moved i p' g') := by
  intro j
  change owner g' = some j ↔ _
  rw [hafter, Tasks.moved_at hp]
  by_cases hij : i = j
  · subst hij
    rw [if_pos rfl]
    cases hin : inside p' <;> simp [hin]
  · -- the others are where they were, and none of them is inside
    have hother : ¬ ∃ q, s.tasks[j]? = some q ∧ inside q = true := by
      intro hq
      have howner := (hs j).2 hq
      rcases hfree with hnone | hmine
      · rw [hnone] at howner
        cases howner
      · rw [hmine] at howner
        exact hij (Option.some.inj howner)
    rw [if_neg hij]
    refine iff_of_false ?_ hother
    split
    · intro h
      exact hij (Option.some.inj h)
    · exact nofun

/-- Two tasks are never inside together. -/
theorem Guards.unique (hs : Guards inside owner s) (hp : s.tasks[i]? = some p) (hin : inside p = true)
    (hp' : s.tasks[j]? = some p') (hin' : inside p' = true) : i = j := by
  have hi := (hs.at hp).2 hin
  have hj := (hs.at hp').2 hin'
  exact Option.some.inj (hi.symm.trans hj)

/-- Nobody is inside, so nobody owns the lock. -/
theorem Guards.none (hs : Guards inside owner s) (h : ∀ p ∈ s.tasks, inside p = false) : owner s.shared = none := by
  rw [Option.eq_none_iff_forall_ne_some]
  intro j hj
  obtain ⟨p, hp, hin⟩ := (hs j).1 hj
  simp [h p (List.mem_of_getElem? hp)] at hin

end Locks

end RunLib
