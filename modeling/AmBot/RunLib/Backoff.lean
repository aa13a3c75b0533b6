import Mathlib.Algebra.Order.Ring.Nat
import Mathlib.Data.List.DropRight
/-!
# Capped exponential backoff

Attempts to connect fail, or succeed until the connection is lost. The delay
after each is one unit after a loss and after a first failure, and doubles with
every further failure in a row up to a cap.
-/

namespace RunLib

/-- How an attempt to connect ends. -/
inductive Attempt where
  | failed
  | lost
  deriving DecidableEq, Repr

/-- The failures in a row since the last loss, or since the first failure. -/
def furtherFailures (attempts : List Attempt) : Nat :=
  let inRow := (attempts.rtakeWhile (· = .failed)).length
  if .lost ∈ attempts then inRow else inRow - 1

/-- The delay after the last of these attempts. -/
def backoff (cap : Nat) (attempts : List Attempt) : Nat := min (2 ^ furtherFailures attempts) cap

/-- The delay after each of them. -/
def delays (cap : Nat) (attempts : List Attempt) : List Nat :=
  (List.range attempts.length).map fun n => backoff cap (attempts.take (n + 1))

/-- The attempts of a history are each followed by their delay, in units. -/
def Follows (cap unit : Nat) (history : List (Attempt × Nat)) : Prop :=
  history.map (·.2) = (delays cap (history.map (·.1))).map (unit * ·)

variable {cap : Nat} {attempts : List Attempt}

theorem furtherFailures_lost (attempts : List Attempt) : furtherFailures (attempts ++ [.lost]) = 0 := by
  simp [furtherFailures]

theorem furtherFailures_failed (h : attempts ≠ []) :
    furtherFailures (attempts ++ [.failed]) = furtherFailures attempts + 1 := by
  have hpos := List.length_pos_iff.2 h
  unfold furtherFailures
  by_cases hlost : .lost ∈ attempts
  · simp [hlost]
  · -- the failures in a row are all there is
    have hall : attempts.rtakeWhile (· = .failed) = attempts := by
      apply List.rtakeWhile_eq_self_iff.2
      intro attempt hmem
      cases attempt with
      | failed => rfl
      | lost => exact absurd hmem hlost
    simp [hlost, hall]
    omega

theorem backoff_lost (hcap : 1 ≤ cap) (attempts : List Attempt) : backoff cap (attempts ++ [.lost]) = 1 := by
  rw [backoff, furtherFailures_lost, pow_zero, Nat.min_eq_left hcap]

theorem backoff_first (hcap : 1 ≤ cap) : backoff cap [.failed] = 1 := by
  have hfirst : furtherFailures [.failed] = 0 := rfl
  rw [backoff, hfirst, pow_zero, Nat.min_eq_left hcap]

theorem backoff_failed (h : attempts ≠ []) : backoff cap (attempts ++ [.failed]) = min (2 * backoff cap attempts) cap := by
  rw [backoff, backoff, furtherFailures_failed h, pow_succ]
  omega

theorem backoff_bounds (hcap : 1 ≤ cap) (attempts : List Attempt) :
    1 ≤ backoff cap attempts ∧ backoff cap attempts ≤ cap := by
  have hpos : 1 ≤ 2 ^ furtherFailures attempts := Nat.one_le_two_pow
  unfold backoff
  omega

theorem delays_snoc (attempts : List Attempt) (attempt : Attempt) :
    delays cap (attempts ++ [attempt]) = delays cap attempts ++ [backoff cap (attempts ++ [attempt])] := by
  unfold delays
  rw [List.length_append, List.length_singleton, List.range_succ, List.map_append, List.map_singleton]
  congr 1
  · apply List.map_congr_left
    intro n hn
    rw [List.take_append_of_le_length (List.mem_range.1 hn)]
  · rw [List.take_of_length_le (by simp)]

theorem follows_nil (cap unit : Nat) : Follows cap unit [] := rfl

theorem follows_snoc {unit : Nat} {history : List (Attempt × Nat)} {attempt : Attempt} {delay : Nat} :
    Follows cap unit (history ++ [(attempt, delay)]) ↔
      Follows cap unit history ∧ delay = unit * backoff cap (history.map (·.1) ++ [attempt]) := by
  unfold Follows
  rw [List.map_append, List.map_append, List.map_singleton, List.map_singleton, delays_snoc, List.map_append,
    List.map_singleton]
  constructor
  · intro h
    obtain ⟨hinit, hlast⟩ := List.append_inj' h rfl
    exact ⟨hinit, List.singleton_inj.1 hlast⟩
  · rintro ⟨hinit, rfl⟩
    rw [hinit]

/-- Of two histories of the same attempts, the one in units of `unit` and the
other in ones: where the first follows the backoff the second does so if and
only if their delays agree. -/
theorem follows_same {unit : Nat} {history history' : List (Attempt × Nat)} (hunit : 0 < unit)
    (hsame : history.map (·.1) = history'.map (·.1)) (h : Follows cap unit history) :
    history.map (·.2) = history'.map (unit * ·.2) ↔ Follows cap 1 history' := by
  unfold Follows at *
  have hscale : history'.map (unit * ·.2) = (history'.map (·.2)).map (unit * ·) := by simp
  rw [h, hsame, hscale, List.map_inj_right fun _ _ => Nat.eq_of_mul_eq_mul_left hunit]
  simp [eq_comm]

/-- No delay is shorter than a unit, or longer than the cap. -/
theorem Follows.bounds {unit : Nat} {history : List (Attempt × Nat)} (hcap : 1 ≤ cap)
    (h : Follows cap unit history) {entry : Attempt × Nat} (hentry : entry ∈ history) :
    unit ≤ entry.2 ∧ entry.2 ≤ unit * cap := by
  have hmem : entry.2 ∈ history.map (·.2) := List.mem_map_of_mem hentry
  rw [h] at hmem
  obtain ⟨delay, hdelay, heq⟩ := List.mem_map.1 hmem
  obtain ⟨n, -, rfl⟩ := List.mem_map.1 hdelay
  obtain ⟨hlow, hhigh⟩ := backoff_bounds hcap ((history.map (·.1)).take (n + 1))
  rw [← heq]
  exact ⟨Nat.le_mul_of_pos_right unit hlow, Nat.mul_le_mul_left unit hhigh⟩

end RunLib
