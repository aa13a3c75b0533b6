import Mathlib.Data.List.Basic
/-!
# Quoted arguments

A list of arguments as one text: each is a blank, a quote, the argument and a
quote. A reader that goes over the text once gets the arguments back, if none
of them has the quote in it.
-/

namespace RunLib

variable {α : Type} [DecidableEq α] {blank quote : α}

def quoted (blank quote : α) (arg : List α) : List α := blank :: quote :: (arg ++ [quote])

/-- Where a reader is: between two arguments, after a blank, or in an argument
of which it has read a part. -/
inductive QuotedScan (α : Type) where
  | between
  | opening
  | inside (read : List α)

/-- The arguments of the text from here on; `none` if it is not of the form. -/
def readQuoted (blank quote : α) : QuotedScan α → List α → Option (List (List α))
  | .between, [] => some []
  | .between, c :: text => if c = blank then readQuoted blank quote .opening text else none
  | .opening, c :: text => if c = quote then readQuoted blank quote (.inside []) text else none
  | .inside read, c :: text =>
    if c = quote then (readQuoted blank quote .between text).map (read :: ·)
    else readQuoted blank quote (.inside (read ++ [c])) text
  | .opening, [] => none
  | .inside _, [] => none

theorem readQuoted_inside {arg : List α} (harg : quote ∉ arg) (read text : List α) :
    readQuoted blank quote (.inside read) (arg ++ quote :: text) =
      (readQuoted blank quote .between text).map ((read ++ arg) :: ·) := by
  induction arg generalizing read with
  | nil => simp [readQuoted]
  | cons c arg ih =>
    obtain ⟨hc, harg⟩ := not_or.1 (List.mem_cons.not.1 harg)
    rw [List.cons_append, readQuoted, if_neg (Ne.symm hc), ih harg]
    simp

theorem readQuoted_quoted {args : List (List α)} (hargs : ∀ arg ∈ args, quote ∉ arg) :
    readQuoted blank quote .between (args.map (quoted blank quote)).flatten = some args := by
  induction args with
  | nil => rfl
  | cons arg args ih =>
    have harg : quote ∉ arg := hargs arg List.mem_cons_self
    have hread := ih fun a ha => hargs a (List.mem_cons_of_mem _ ha)
    rw [List.map_cons, List.flatten_cons, quoted]
    simp only [List.cons_append, List.append_assoc, List.nil_append, readQuoted, if_true]
    rw [readQuoted_inside harg, hread]
    simp

end RunLib
