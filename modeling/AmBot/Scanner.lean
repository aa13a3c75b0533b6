import AmBot.ChatGrammar
/-!
# The scanner on the response buffer

`parse_text_response` once more, on a pointer into the buffer: what may be read
from it is the rest of the C string and its NUL, and a read of anything else is
a fault. On every C string the scanner gets by without a fault and does what
the functions on lists do.
-/

namespace AmBot

open RunLib

/-- `*p`, where `p` is all that may be read from the pointer on. -/
def deref : Bytes → Except Halt UInt8
  | [] => .error .fault
  | c :: _ => .ok c

/-- `skip_json_ws`. -/
def scanSpace : Bytes → Except Halt Bytes
  | [] => .error .fault
  | c :: p => if isJsonSpace c then scanSpace p else .ok (c :: p)

/-- The loop of `parse_json_string`, and its end: the loop stops at a NUL or a
quote, and only the quote is a success. -/
def scanStringFrom (dst : Option Nat) : Bytes → Bytes → Except Halt (Bytes × Option Bytes)
  | [], _ => .error .fault
  | c :: p, used =>
    if c = NUL then .ok (used, none)
    else if c = QUOTE then .ok (used, if dst = some 0 then none else some p)
    else if c < 32 then .ok (used, none)
    else if c = BACKSLASH then
      match p with
      | [] => .error .fault
      | d :: p =>
        if d = NUL then .ok (used, none)
        else
          match (unescape d).bind (storeByte dst used) with
          | none => .ok (used, none)
          | some used' => scanStringFrom dst p used'
    else
      match storeByte dst used c with
      | none => .ok (used, none)
      | some used' => scanStringFrom dst p used'

/-- `parse_json_string`. -/
def scanString (dst : Option Nat) (p : Bytes) : Except Halt (Bytes × Option Bytes) := do
  let c ← deref p
  if c ≠ QUOTE then pure ([], none) else scanStringFrom dst (p.drop 1) []

/-- One round of the `for (;;)`, up to the value. -/
def scanMember (replySize : Nat) (p reply : Bytes) (haveText : Bool) :
    Except Halt (Bytes × Option (Bytes × Bool)) := do
  let (key, p) ← scanString (some 32) p
  match p with
  | none => pure (reply, none)
  | some p => do
    let p ← scanSpace p
    let c ← deref p
    if c ≠ COLON then pure (reply, none)
    else do
      let p ← scanSpace (p.drop 1)
      if key = ascii "text" then
        if haveText then pure (reply, none)
        else do
          let (reply, p) ← scanString (some replySize) p
          pure (reply, if reply = [] then none else p.map fun p => (p, true))
      else do
        let (_, p) ← scanString none p
        pure (reply, p.map fun p => (p, haveText))

def scanMembers (replySize : Nat) : Nat → Bytes → Bytes → Bool → Except Halt (Bytes × Bool)
  | 0, _, reply, _ => pure (reply, false)
  | n + 1, p, reply, haveText => do
    let (reply, next) ← scanMember replySize p reply haveText
    match next with
    | none => pure (reply, false)
    | some (p, haveText) => do
      let p ← scanSpace p
      let c ← deref p
      if c = 125 then do
        let p ← scanSpace (p.drop 1)
        let c ← deref p
        pure (reply, haveText && c = NUL)
      else if c ≠ 44 then pure (reply, false)
      else do
        let p ← scanSpace (p.drop 1)
        scanMembers replySize n p reply haveText

/-- `parse_text_response` of a body that is there. -/
def scanTextResponse (replySize : Nat) (body : Bytes) : Except Halt (Bytes × Bool) := do
  let p ← scanSpace body
  let c ← deref p
  if c ≠ 123 then pure ([], false)
  else do
    let p ← scanSpace (p.drop 1)
    let c ← deref p
    if c = 125 then pure ([], false) else scanMembers replySize p.length p [] false

/-! ## Within the C string -/

/-- The pointer after what is left of a C string. -/
def terminated (p : Bytes) : Bytes := p ++ [NUL]

@[simp] theorem terminated_nil : terminated [] = [NUL] := rfl

@[simp] theorem terminated_cons (c : UInt8) (p : Bytes) : terminated (c :: p) = c :: terminated p := rfl

theorem ok_bind {α β : Type} (a : α) (f : α → Except Halt β) : ((Except.ok a : Except Halt α) >>= f) = f a := rfl

theorem scanSpace_terminated (p : Bytes) : scanSpace (terminated p) = .ok (terminated (skipJsonSpace p)) := by
  induction p with
  | nil => rfl
  | cons c p ih =>
    by_cases hc : isJsonSpace c = true
    · simpa [scanSpace, skipJsonSpace, hc] using ih
    · simp [scanSpace, skipJsonSpace, hc]

theorem scanStringFrom_terminated (dst : Option Nat) (p used : Bytes) :
    scanStringFrom dst (terminated p) used =
      .ok ((jsonStringFrom dst p used).1, (jsonStringFrom dst p used).2.map terminated) := by
  have hquote : QUOTE ≠ NUL := by decide
  have hslash : BACKSLASH ≠ NUL := by decide
  fun_induction jsonStringFrom dst p used with
  | case1 => simp [scanStringFrom]
  | case2 q =>
    unfold scanStringFrom
    by_cases hdst : dst = some 0 <;> simp [hquote, hdst]
  | case3 c p used hq h32 =>
    unfold scanStringFrom
    simp [hq, h32]
  | case4 used hq h32 =>
    simp [scanStringFrom, hslash, hq, h32]
  | case5 used d p hstore hq h32 =>
    simp [scanStringFrom, hslash, hq, h32, hstore]
  | case6 used d p used' hstore hq h32 ih =>
    -- an escape that stands for something is not the NUL
    have hd : d ≠ NUL := by
      rintro rfl
      simp [show unescape NUL = none by decide] at hstore
    simpa [scanStringFrom, hslash, hq, h32, hstore, hd] using ih
  | case7 c p used hq h32 hb hstore =>
    unfold scanStringFrom
    simp [hq, h32, hb, hstore]
  | case8 c p used hq h32 hb used' hstore ih =>
    have hc : c ≠ NUL := by
      rintro rfl
      exact h32 (by decide)
    unfold scanStringFrom
    simpa [hc, hq, h32, hb, hstore] using ih

theorem scanString_terminated (dst : Option Nat) (p : Bytes) :
    scanString dst (terminated p) = .ok ((parseJsonString dst p).1, (parseJsonString dst p).2.map terminated) := by
  cases p with
  | nil => rfl
  | cons c p =>
    by_cases hc : c = QUOTE
    · simpa [scanString, parseJsonString, deref, ok_bind, hc] using scanStringFrom_terminated dst p []
    · simp [scanString, parseJsonString, deref, ok_bind, hc, pure, Except.pure]

/-- The byte after blanks is that of the list, or the NUL. -/
theorem deref_terminated (p : Bytes) : deref (terminated p) = .ok (p.head?.getD NUL) := by
  cases p <;> rfl

/-- The NUL is where nothing is left. -/
theorem head_nul {p : Bytes} (hp : NUL ∉ p) : p.head?.getD NUL = NUL ↔ p = [] := by
  cases p with
  | nil => simp
  | cons c p =>
    have hc : c ≠ NUL := fun h => hp (by simp [h])
    simp [hc]

theorem scanMember_terminated (size : Nat) (p reply : Bytes) (haveText : Bool) :
    scanMember size (terminated p) reply haveText =
      .ok ((textMember size p reply haveText).1,
        (textMember size p reply haveText).2.map fun r => (terminated r.1, r.2)) := by
  simp only [scanMember, textMember, scanString_terminated, ok_bind]
  rcases parseJsonString (some 32) p with ⟨key, _ | p₁⟩
  · rfl
  · simp only [Option.map_some, scanSpace_terminated, ok_bind, deref_terminated]
    rcases skipJsonSpace p₁ with _ | ⟨c, p₂⟩
    · rfl
    · have hmark : COLON = 58 := rfl
      simp only [terminated_cons, List.head?_cons, Option.getD_some, List.drop_succ_cons, List.drop_zero,
        scanSpace_terminated, ok_bind, scanString_terminated]
      by_cases hc : c = 58
      · subst hc
        by_cases hkey : key = ascii "text"
        · cases haveText with
          | true => simp [hkey, hmark, pure, Except.pure]
          | false =>
            rcases hv : parseJsonString (some size) (skipJsonSpace p₂) with ⟨out, _ | p₃⟩
            · simp [hkey, hmark, hv, pure, Except.pure]
            · by_cases hout : out = [] <;> simp [hkey, hmark, hv, hout, pure, Except.pure]
        · rcases hv : parseJsonString none (skipJsonSpace p₂) with ⟨out, _ | p₃⟩ <;>
            simp [hkey, hmark, hv, pure, Except.pure]
      · simp [hmark, hc, pure, Except.pure]

/-- The scanner's rounds end with a NUL where those on the list end with nothing
left; in a C string the two are the same. -/
theorem scanMembers_terminated (size n : Nat) {p : Bytes} (hp : NUL ∉ p) (reply : Bytes) (haveText : Bool) :
    scanMembers size n (terminated p) reply haveText = .ok (textMembers size n p reply haveText) := by
  induction n generalizing p reply haveText with
  | zero => rfl
  | succ n ih =>
    simp only [scanMembers, textMembers, scanMember_terminated, ok_bind]
    rcases hround : textMember size p reply haveText with ⟨out, _ | ⟨q, seen⟩⟩
    · rfl
    · obtain ⟨m, hm, -⟩ := textMember_iff.1 hround
      simp only [Option.map_some, scanSpace_terminated, ok_bind, deref_terminated]
      rcases hq : skipJsonSpace q with _ | ⟨c, q'⟩
      · rfl
      · have hsuffix : skipJsonSpace q' <:+ p := by
          have htail : q' <:+ skipJsonSpace q := hq ▸ List.suffix_cons c q'
          exact (((List.dropWhile_suffix _).trans htail).trans (List.dropWhile_suffix _)).trans hm.suffix
        have hrest : NUL ∉ skipJsonSpace q' := fun h => hp (hsuffix.subset h)
        simp only [terminated_cons, List.head?_cons, Option.getD_some, List.drop_succ_cons, List.drop_zero,
          scanSpace_terminated, ok_bind, deref_terminated]
        by_cases hbrace : c = 125
        · simp [hbrace, head_nul hrest, pure, Except.pure]
        · by_cases hcomma : c = 44
          · simpa [hcomma] using ih hrest out seen
          · simp [hbrace, hcomma, pure, Except.pure]

/-- On a C string the scanner reads nothing past the NUL, and does what
`parse_text_response` does on the list of its bytes. -/
theorem scanTextResponse_terminated (size : Nat) {body : Bytes} (hbody : NUL ∉ body) :
    scanTextResponse size (terminated body) = .ok (parseTextResponse (some body) size) := by
  simp only [scanTextResponse, parseTextResponse, scanSpace_terminated, ok_bind, deref_terminated]
  rcases hb : skipJsonSpace body with _ | ⟨c, p⟩
  · rfl
  · have hsuffix : skipJsonSpace p <:+ body := by
      have htail : p <:+ skipJsonSpace body := hb ▸ List.suffix_cons c p
      exact ((List.dropWhile_suffix _).trans htail).trans (List.dropWhile_suffix _)
    have hrest : NUL ∉ skipJsonSpace p := fun h => hbody (hsuffix.subset h)
    simp only [terminated_cons, List.head?_cons, Option.getD_some, List.drop_succ_cons, List.drop_zero,
      scanSpace_terminated, ok_bind, deref_terminated]
    by_cases hc : c = 123
    · subst hc
      rcases hp : skipJsonSpace p with _ | ⟨d, p'⟩
      · have h := scanMembers_terminated size 1 (by simp : NUL ∉ ([] : Bytes)) [] false
        simpa [hp, NUL] using h
      · by_cases hd : d = 125
        · simp [hp, hd, pure, Except.pure]
        · have h := scanMembers_terminated size (p'.length + 2) (hp ▸ hrest) [] false
          simpa [hp, hd, terminated] using h
    · simp [hc, pure, Except.pure]

end AmBot
