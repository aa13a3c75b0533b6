import AmBot.RunLib.Prog
/-!
# Buffers

Writes to an array of fixed size; a write past its end is a fault. A writer
that starts at the beginning and goes on entry by entry has made a first part
of the array anew, and the rest is what it was.
-/

namespace RunLib

variable {α : Type}

def store (buffer : List α) (i : Nat) (a : α) : Except Halt (List α) :=
  if i < buffer.length then .ok (buffer.set i a) else .error .fault

/-- Writes from `i` on. -/
def storeAll (buffer : List α) (i : Nat) : List α → Except Halt (List α)
  | [] => .ok buffer
  | a :: as => do
    let buffer ← store buffer i a
    storeAll buffer (i + 1) as

/-- The entry after what is written. -/
theorem store_next (written rest : List α) (old a : α) :
    store (written ++ old :: rest) written.length a = .ok (written ++ [a] ++ rest) := by
  have hin : written.length < (written ++ old :: rest).length := by simp
  unfold store
  rw [if_pos hin, List.set_append_right _ _ (Nat.le_refl _)]
  simp

theorem storeAll_next (written rest : List α) {old as : List α} (h : old.length = as.length) :
    storeAll (written ++ old ++ rest) written.length as = .ok (written ++ as ++ rest) := by
  induction as generalizing written old with
  | nil =>
    obtain rfl := List.length_eq_zero_iff.1 h
    rfl
  | cons a as ih =>
    cases old with
    | nil => cases h
    | cons o old =>
      have hrest := ih (written ++ [a]) (Nat.succ.inj h)
      have hstore : store (written ++ o :: old ++ rest) written.length a = .ok (written ++ [a] ++ old ++ rest) := by
        have h := store_next written (old ++ rest) o a
        simpa using h
      have hcons : storeAll (written ++ o :: old ++ rest) written.length (a :: as) =
          storeAll (written ++ [a] ++ old ++ rest) (written ++ [a]).length as := by
        rw [storeAll, hstore, List.length_append]
        rfl
      rw [hcons, hrest, List.append_assoc written]
      rfl

/-- A writer of a text and its terminator: it returns 0 with all of it written,
or -1 with a part of the buffer written. -/
inductive WrittenAs (terminator : α) (buffer : List α) : Option (List α) → List α × Int → Prop
  | whole (old rest text : List α) : buffer = old ++ rest → old.length = text.length + 1 →
    WrittenAs terminator buffer (some text) (text ++ [terminator] ++ rest, 0)
  | stopped (old rest written : List α) : buffer = old ++ rest → old.length = written.length →
    WrittenAs terminator buffer none (written ++ rest, -1)

variable {terminator : α} {buffer : List α} {text : Option (List α)} {result : List α × Int}

theorem WrittenAs.length (h : WrittenAs terminator buffer text result) : result.1.length = buffer.length := by
  cases h with
  | whole old rest text hbuffer hold =>
    rw [hbuffer, List.length_append, List.length_append, List.length_append, hold]
    rfl
  | stopped old rest written hbuffer hold => rw [hbuffer, List.length_append, List.length_append, hold]

theorem WrittenAs.result_iff (h : WrittenAs terminator buffer text result) : result.2 = 0 ↔ text.isSome = true := by
  cases h with
  | whole => exact iff_of_true rfl rfl
  | stopped => exact iff_of_false (Int.negSucc_ne_zero 0) Bool.false_ne_true

/-- A part with room after it for `n` entries. -/
theorem room_split (written : List α) {rest : List α} {n : Nat} (h : written.length + n ≤ (written ++ rest).length) :
    ∃ old rest', rest = old ++ rest' ∧ old.length = n := by
  refine ⟨rest.take n, rest.drop n, (List.take_append_drop n rest).symm, ?_⟩
  rw [List.length_append] at h
  rw [List.length_take]
  omega

end RunLib
