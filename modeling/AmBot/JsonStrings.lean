import AmBot.RunLib.Buffer
import AmBot.Scanner
/-!
# Strings of the chat

`json_escape` on its buffer, and `parse_json_string` on what it writes.
-/

namespace AmBot

open RunLib

/-- The loop of `json_escape` on the buffer: what it leaves there, and what it
returns. -/
def escapeLoop : Bytes → Bytes → Nat → Except Halt (Bytes × Int)
  | dst, [], used => do
    let dst ← store dst used NUL
    pure (dst, 0)
  | dst, c :: src, used =>
    if c < 32 then pure (dst, -1)
    else if c = QUOTE ∨ c = BACKSLASH then
      if dst.length ≤ used + 2 then pure (dst, -1)
      else do
        let dst ← storeAll dst used [BACKSLASH, c]
        escapeLoop dst src (used + 2)
    else if dst.length ≤ used + 1 then pure (dst, -1)
    else do
      let dst ← storeAll dst used [c]
      escapeLoop dst src (used + 1)

/-- `json_escape` into `dst`. -/
def escapeInto (dst src : Bytes) : Except Halt (Bytes × Int) := if dst = [] then pure (dst, -1) else escapeLoop dst src 0

/-- The bytes written for one byte. -/
def escapeByte (c : UInt8) : Bytes := if c = QUOTE ∨ c = BACKSLASH then [BACKSLASH, c] else [c]

/-- How many bytes get a backslash. -/
def escapes (src : Bytes) : Nat := src.countP fun c => c = QUOTE ∨ c = BACKSLASH

/-! ## What is written -/

/-- One round of either loop on a byte that is let through. -/
theorem jsonEscapeFrom_byte {size : Nat} {c : UInt8} {src used : Bytes} (hc : ¬ c < 32) :
    jsonEscapeFrom size (c :: src) used =
      if size ≤ used.length + (escapeByte c).length then none else jsonEscapeFrom size src (used ++ escapeByte c) := by
  unfold escapeByte
  rw [jsonEscapeFrom, if_neg hc]
  by_cases hspecial : c = QUOTE ∨ c = BACKSLASH
  · rw [if_pos hspecial, if_pos hspecial]
    rfl
  · rw [if_neg hspecial, if_neg hspecial]
    rfl

theorem escapeLoop_byte {dst : Bytes} {c : UInt8} {src : Bytes} {used : Nat} (hc : ¬ c < 32) :
    escapeLoop dst (c :: src) used =
      if dst.length ≤ used + (escapeByte c).length then pure (dst, -1)
      else storeAll dst used (escapeByte c) >>= fun dst => escapeLoop dst src (used + (escapeByte c).length) := by
  unfold escapeByte
  rw [escapeLoop, if_neg hc]
  by_cases hspecial : c = QUOTE ∨ c = BACKSLASH
  · rw [if_pos hspecial, if_pos hspecial]
    rfl
  · rw [if_neg hspecial, if_neg hspecial]
    rfl

theorem escapeLoop_written (src : Bytes) {buffer old written rest : Bytes} (hbuffer : buffer = old ++ rest)
    (hold : old.length = written.length) (hroom : rest ≠ []) :
    ∃ r, escapeLoop (written ++ rest) src written.length = .ok r ∧
      WrittenAs NUL buffer (jsonEscapeFrom buffer.length src written) r := by
  induction src generalizing old written rest with
  | nil =>
    obtain ⟨o, rest, rfl⟩ := List.exists_cons_of_ne_nil hroom
    refine ⟨(written ++ [NUL] ++ rest, 0), ?_, ?_⟩
    · rw [escapeLoop, store_next]
      rfl
    · rw [jsonEscapeFrom]
      exact .whole (old ++ [o]) rest written (by simp [hbuffer]) (by simp [hold])
  | cons c src ih =>
    have hlength : (written ++ rest).length = buffer.length := by simp [hbuffer, hold]
    by_cases hc : c < 32
    · refine ⟨(written ++ rest, -1), ?_, ?_⟩
      · rw [escapeLoop, if_pos hc]
        rfl
      · rw [jsonEscapeFrom, if_pos hc]
        exact .stopped old rest written hbuffer hold
    · rw [escapeLoop_byte hc, jsonEscapeFrom_byte hc, hlength]
      by_cases hfull : buffer.length ≤ written.length + (escapeByte c).length
      · rw [if_pos hfull, if_pos hfull]
        exact ⟨_, rfl, .stopped old rest written hbuffer hold⟩
      · -- the byte goes into the next entries, and one is left for the NUL
        rw [if_neg hfull, if_neg hfull]
        obtain ⟨next, rest', rfl, hnext⟩ :
            ∃ next rest', rest = next ++ rest' ∧ next.length = (escapeByte c).length :=
          room_split written (by rw [hlength]; omega)
        have hstore := storeAll_next written rest' hnext
        have hrest : rest' ≠ [] := by
          rintro rfl
          rw [List.append_nil, List.length_append, hnext] at hlength
          omega
        have hbuffer' : buffer = (old ++ next) ++ rest' := by rw [hbuffer, List.append_assoc]
        have hold' : (old ++ next).length = (written ++ escapeByte c).length := by simp [hold, hnext]
        obtain ⟨r, hloop, hwritten⟩ := ih hbuffer' hold' hrest
        refine ⟨r, ?_, hwritten⟩
        rw [← List.append_assoc, hstore, ← hloop, List.length_append]
        rfl

/-- `json_escape` stays within its buffer, which holds the text and its NUL
where it succeeds. -/
theorem escapeInto_written (dst src : Bytes) :
    ∃ r, escapeInto dst src = .ok r ∧ WrittenAs NUL dst (jsonEscape src dst.length) r := by
  unfold escapeInto jsonEscape
  by_cases hdst : dst = []
  · subst hdst
    rw [if_pos rfl, if_pos List.length_nil]
    exact ⟨_, rfl, .stopped [] [] [] rfl rfl⟩
  · rw [if_neg hdst, if_neg (List.length_eq_zero_iff.not.2 hdst)]
    have hwhole : dst = [] ++ dst := rfl
    have hnone : ([] : Bytes).length = ([] : Bytes).length := rfl
    exact escapeLoop_written src hwhole hnone hdst

/-! ## When it succeeds -/

/-- The loop writes every byte in its form, if all are let through and fit. -/
theorem jsonEscapeFrom_iff (size : Nat) (src used escaped : Bytes) (hused : used.length < size) :
    jsonEscapeFrom size src used = some escaped ↔
      ((∀ c ∈ src, 32 ≤ c) ∧ (used ++ src.flatMap escapeByte).length < size) ∧
        used ++ src.flatMap escapeByte = escaped := by
  induction src generalizing used with
  | nil => simp [jsonEscapeFrom, hused]
  | cons c src ih =>
    by_cases hc : c < 32
    · have hno : ¬ ∀ d ∈ c :: src, 32 ≤ d := fun h => absurd (h c List.mem_cons_self) (UInt8.not_le.2 hc)
      rw [jsonEscapeFrom, if_pos hc]
      exact iff_of_false nofun fun h => hno h.1.1
    · rw [jsonEscapeFrom_byte hc]
      by_cases hfull : size ≤ used.length + (escapeByte c).length
      · rw [if_pos hfull]
        refine iff_of_false nofun ?_
        rintro ⟨⟨-, hlength⟩, -⟩
        rw [List.flatMap_cons, List.length_append, List.length_append] at hlength
        omega
      · have hnext : (used ++ escapeByte c).length < size := by rw [List.length_append]; omega
        rw [if_neg hfull, ih _ hnext, List.flatMap_cons, ← List.append_assoc]
        simp [UInt8.not_lt.1 hc]

theorem flatMap_escapeByte_length (src : Bytes) : (src.flatMap escapeByte).length = src.length + escapes src := by
  induction src with
  | nil => rfl
  | cons c src ih =>
    unfold escapes at ih ⊢
    rw [List.flatMap_cons, List.length_append, ih, List.countP_cons, List.length_cons]
    unfold escapeByte
    by_cases hc : c = QUOTE ∨ c = BACKSLASH
    · rw [if_pos hc, if_pos (decide_eq_true hc)]
      exact (Nat.add_comm _ _).trans (by rw [List.length_cons, List.length_singleton]; omega)
    · rw [if_neg hc, if_neg (by simpa using hc)]
      exact (Nat.add_comm _ _).trans (by rw [List.length_singleton]; omega)

theorem jsonEscape_iff {src escaped : Bytes} {size : Nat} :
    jsonEscape src size = some escaped ↔
      ((∀ c ∈ src, 32 ≤ c) ∧ src.length + escapes src < size) ∧ src.flatMap escapeByte = escaped := by
  unfold jsonEscape
  by_cases hsize : size = 0
  · rw [if_pos hsize]
    exact iff_of_false nofun fun h => by omega
  · rw [if_neg hsize, jsonEscapeFrom_iff size src [] escaped (Nat.pos_of_ne_zero hsize), List.nil_append,
      flatMap_escapeByte_length]

/-! ## Reading it back -/

theorem escapeByte_unit {c : UInt8} (hc : 32 ≤ c) : responseLexis.unit (escapeByte c) [c] := by
  unfold escapeByte
  by_cases hspecial : c = QUOTE ∨ c = BACKSLASH
  · rw [if_pos hspecial]
    exact .escape (by rcases hspecial with rfl | rfl <;> decide)
  · rw [if_neg hspecial]
    obtain ⟨hquote, hslash⟩ := not_or.1 hspecial
    exact .plain hc hquote hslash

theorem flatMap_escapeByte_spells {src : Bytes} (h : ∀ c ∈ src, 32 ≤ c) :
    responseLexis.Spells (src.flatMap escapeByte) src := by
  induction src with
  | nil => exact .nil
  | cons c src ih =>
    rw [List.flatMap_cons, ← List.singleton_append]
    exact .unit (escapeByte_unit (h c List.mem_cons_self)) (ih fun d hd => h d (List.mem_cons_of_mem _ hd))

/-- `parse_json_string` reads an escaped text back, up to its quote. -/
theorem scanString_escape {src escaped : Bytes} {size : Nat} (h : jsonEscape src size = some escaped) {n : Nat}
    (hn : src.length < n) (s : Bytes) :
    scanString (some n) (terminated (QUOTE :: (escaped ++ QUOTE :: s))) = .ok (src, some (terminated s)) := by
  obtain ⟨⟨hprintable, -⟩, heq⟩ := jsonEscape_iff.1 h
  have hstr : responseLexis.Str (QUOTE :: (escaped ++ QUOTE :: s)) src s :=
    ⟨escaped, rfl, heq ▸ flatMap_escapeByte_spells hprintable⟩
  have hparse : parseJsonString (some n) (QUOTE :: (escaped ++ QUOTE :: s)) = (src, some s) :=
    parseJsonString_iff.2 ⟨src, hstr, fun size hsize => by cases hsize; exact hn, rfl⟩
  rw [scanString_terminated, hparse]
  rfl

/-- Writing a string and reading it are inverse. -/
theorem escape_inverse (m dst : Bytes) :
    (∃ r, escapeInto dst m = .ok r ∧ WrittenAs NUL dst (jsonEscape m dst.length) r ∧
      (r.2 = 0 ↔ (∀ c ∈ m, 32 ≤ c) ∧ m.length + escapes m < dst.length)) ∧
    ∀ escaped, jsonEscape m dst.length = some escaped → ∀ n s, m.length < n →
      scanString (some n) (terminated (QUOTE :: (escaped ++ QUOTE :: s))) = .ok (m, some (terminated s)) := by
  obtain ⟨r, hrun, hwritten⟩ := escapeInto_written dst m
  refine ⟨⟨r, hrun, hwritten, ?_⟩, fun escaped hescaped n s hn => scanString_escape hescaped hn s⟩
  rw [hwritten.result_iff, Option.isSome_iff_exists]
  constructor
  · rintro ⟨escaped, hescaped⟩
    exact (jsonEscape_iff.1 hescaped).1
  · intro hfits
    exact ⟨_, jsonEscape_iff.2 ⟨hfits, rfl⟩⟩

end AmBot
