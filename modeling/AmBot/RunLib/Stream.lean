import Mathlib.Data.List.Infix
/-!
# Cutting a stream

A reader that gets a stream in pieces keeps the part of a segment it has not
seen the end of. `cut` is the pure form of such a reader: what it has, and
what a piece completes. However the pieces are cut, the segments are those
`List.splitOn` finds in the whole stream.
-/

namespace RunLib

variable {α : Type} [DecidableEq α]

/-- The segments that `data` completes after the unfinished segment `p`, and
the segment left unfinished. -/
def cut (sep : α) : List α → List α → List (List α) × List α
  | p, [] => ([], p)
  | p, c :: data =>
    if c = sep then (p :: (cut sep [] data).1, (cut sep [] data).2) else cut sep (p ++ [c]) data

/-- The segments each piece completes. -/
def cuts (sep : α) : List α → List (List α) → List (List (List α))
  | _, [] => []
  | p, data :: pieces => (cut sep p data).1 :: cuts sep (cut sep p data).2 pieces

theorem cut_append (sep : α) (p a b : List α) :
    cut sep p (a ++ b) = ((cut sep p a).1 ++ (cut sep (cut sep p a).2 b).1, (cut sep (cut sep p a).2 b).2) := by
  induction a generalizing p with
  | nil => simp [cut]
  | cons c a ih =>
    simp only [List.cons_append, cut]
    split
    · simp [ih]
    · exact ih _

/-- The pieces together complete what the whole stream does. -/
theorem cuts_flatten (sep : α) (p : List α) (pieces : List (List α)) :
    (cuts sep p pieces).flatten = (cut sep p pieces.flatten).1 := by
  induction pieces generalizing p with
  | nil => simp [cuts, cut]
  | cons data pieces ih => simp [cuts, cut_append, ih]

/-- One piece more completes what it does after all the others. -/
theorem cuts_append (sep : α) (p : List α) (pieces : List (List α)) (data : List α) :
    cuts sep p (pieces ++ [data]) = cuts sep p pieces ++ [(cut sep (cut sep p pieces.flatten).2 data).1] := by
  induction pieces generalizing p with
  | nil => simp [cuts, cut]
  | cons piece pieces ih => simp [cuts, cut_append, ih]

theorem splitOn_eq_cut (sep : α) {p : List α} (hp : sep ∉ p) (data : List α) :
    (p ++ data).splitOn sep = (cut sep p data).1 ++ [(cut sep p data).2] := by
  induction data generalizing p with
  | nil => simpa [cut] using List.splitOn_eq_singleton hp
  | cons c data ih =>
    simp only [cut]
    split
    · subst c
      rw [List.splitOn_append_cons_self_of_not_mem hp]
      simpa using ih (List.not_mem_nil)
    · rename_i hc
      have hpc : sep ∉ p ++ [c] := by simp [hp, Ne.symm hc]
      simpa using ih hpc

/-- The complete segments of a stream, as `List.splitOn` finds them. -/
theorem cut_nil_fst (sep : α) (data : List α) : (cut sep [] data).1 = (data.splitOn sep).dropLast := by
  have h := splitOn_eq_cut sep (List.not_mem_nil) data
  rw [List.nil_append] at h
  simp [h]

/-! ## Segment by segment -/

/-- A property of every last segment that a segment more keeps holds of every stream. -/
@[elab_as_elim]
theorem segments_induction (sep : α) {P : List α → Prop} (last : ∀ part, sep ∉ part → P part)
    (next : ∀ part data, sep ∉ part → P data → P (part ++ sep :: data)) (data : List α) : P data := by
  induction hn : data.length using Nat.strong_induction_on generalizing data with
  | _ n ih =>
    by_cases hsep : sep ∈ data
    · obtain ⟨part, rest, rfl, hpart⟩ := List.eq_append_cons_of_mem hsep
      exact next part rest hpart (ih _ (by simp at hn; omega) rest rfl)
    · exact last data hsep

theorem not_mem_of_mem_splitOn (sep : α) (data : List α) : ∀ part ∈ data.splitOn sep, sep ∉ part := by
  refine segments_induction sep (fun part hpart => ?_) (fun part data hpart ih => ?_) data
  · rw [List.splitOn_eq_singleton hpart]
    simpa using hpart
  · rw [List.splitOn_append_cons_self_of_not_mem hpart]
    simpa [hpart] using ih

end RunLib
