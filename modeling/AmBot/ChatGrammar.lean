import AmBot.RunLib.Json
import AmBot.BotAi
/-!
# The chat response

`parse_text_response` against the grammar of an object of strings. The two
helpers are shown to read exactly a string and exactly a member; a run over the
members is then a fold over what they denote.
-/

namespace AmBot

open RunLib

/-- The escapes of a response and the bytes they stand for. -/
def responseEscapes : List (UInt8 × UInt8) :=
  [(110, SP), (114, SP), (116, SP), (QUOTE, QUOTE), (BACKSLASH, BACKSLASH), (47, 47)]

/-- A byte of a string that stands for itself, or an escape. -/
inductive ResponseUnit : Bytes → Bytes → Prop
  | plain {c : UInt8} : 32 ≤ c → c ≠ QUOTE → c ≠ BACKSLASH → ResponseUnit [c] [c]
  | escape {d c : UInt8} : (d, c) ∈ responseEscapes → ResponseUnit [BACKSLASH, d] [c]

def responseLexis : Lexis UInt8 :=
  { quote := QUOTE, colon := COLON, comma := 44, left := 123, right := 125, blank := isJsonSpace,
    unit := ResponseUnit }

/-! ## Strings -/

/-- What a destination holds of a value: nothing where there is none. -/
def stored : Option Nat → Bytes → Bytes
  | none, _ => []
  | some _, v => v

/-- The value and its NUL are within the destination. -/
def Fits (dst : Option Nat) (v : Bytes) : Prop := ∀ size, dst = some size → v.length < size

theorem Fits.left {dst : Option Nat} {u v : Bytes} (h : Fits dst (u ++ v)) : Fits dst u := by
  intro size hs
  have := h size hs
  rw [List.length_append] at this
  omega

theorem unescape_eq {d c : UInt8} : unescape d = some c ↔ (d, c) ∈ responseEscapes := by
  simp only [unescape, responseEscapes, List.mem_cons, List.not_mem_nil, Prod.mk.injEq, or_false]
  by_cases h1 : d = 110 ∨ d = 114 ∨ d = 116
  · rcases h1 with rfl | rfl | rfl <;> simp [eq_comm, QUOTE, BACKSLASH]
  · by_cases h2 : d = QUOTE ∨ d = BACKSLASH ∨ d = 47
    · rcases h2 with rfl | rfl | rfl <;> simp [eq_comm, QUOTE, BACKSLASH]
    · simp only [not_or] at h1 h2
      simp [h1, h2]

theorem storeByte_eq {dst : Option Nat} {u : Bytes} {c : UInt8} {out : Bytes} :
    storeByte dst (stored dst u) c = some out ↔ Fits dst (u ++ [c]) ∧ out = stored dst (u ++ [c]) := by
  cases dst with
  | none => simp [storeByte, stored, Fits, eq_comm]
  | some size =>
    by_cases h : size ≤ u.length + 1
    · simp [storeByte, stored, Fits, h, Nat.not_lt.2 h]
    · simp [storeByte, stored, Fits, h, Nat.not_le.1 h, eq_comm]

theorem jsonStringFrom_quote (dst : Option Nat) (q used : Bytes) :
    jsonStringFrom dst (QUOTE :: q) used = (used, if dst = some 0 then none else some q) := by
  cases q <;> simp [jsonStringFrom]

theorem jsonStringFrom_plain {dst : Option Nat} {c : UInt8} {used used' : Bytes} (h32 : 32 ≤ c) (hq : c ≠ QUOTE)
    (hb : c ≠ BACKSLASH) (hs : storeByte dst used c = some used') (p : Bytes) :
    jsonStringFrom dst (c :: p) used = jsonStringFrom dst p used' := by
  cases p <;> simp [jsonStringFrom, hq, hb, UInt8.not_lt.2 h32, hs]

theorem jsonStringFrom_escape {dst : Option Nat} {d c : UInt8} {used used' : Bytes} (hd : (d, c) ∈ responseEscapes)
    (hs : storeByte dst used c = some used') (p : Bytes) :
    jsonStringFrom dst (BACKSLASH :: d :: p) used = jsonStringFrom dst p used' := by
  have hctrl : ¬ BACKSLASH < 32 := by decide
  have hquote : BACKSLASH ≠ QUOTE := by decide
  simp [jsonStringFrom, hctrl, hquote, unescape_eq.2 hd, hs]

/-- The text of a string is read whole. -/
theorem jsonStringFrom_spells {dst : Option Nat} {t v : Bytes} (h : responseLexis.Spells t v) {u : Bytes}
    (hfits : Fits dst (u ++ v)) (q : Bytes) :
    jsonStringFrom dst (t ++ QUOTE :: q) (stored dst u) = (stored dst (u ++ v), some q) := by
  induction h generalizing u with
  | nil =>
    have hdst : dst ≠ some 0 := fun h0 => by simpa using hfits 0 h0
    rw [List.nil_append, jsonStringFrom_quote, if_neg hdst, List.append_nil]
  | unit hu _ ih =>
    rw [← List.append_assoc] at hfits
    have hrest := ih hfits
    rw [← List.append_assoc]
    cases hu with
    | plain h32 hq hb =>
      rw [← hrest]
      exact jsonStringFrom_plain h32 hq hb (storeByte_eq.2 ⟨hfits.left, rfl⟩) _
    | escape hd =>
      rw [← hrest]
      exact jsonStringFrom_escape hd (storeByte_eq.2 ⟨hfits.left, rfl⟩) _

/-- What is read is the text of a string. -/
theorem spells_jsonStringFrom {dst : Option Nat} {p u out q : Bytes} (hu : Fits dst u)
    (h : jsonStringFrom dst p (stored dst u) = (out, some q)) :
    ∃ t v, p = t ++ QUOTE :: q ∧ responseLexis.Spells t v ∧ Fits dst (u ++ v) ∧ out = stored dst (u ++ v) := by
  generalize hused : stored dst u = used at h
  fun_induction jsonStringFrom dst p used generalizing u with
  | case1 => simp at h
  | case2 rest used =>
    obtain ⟨rfl, h⟩ := Prod.mk.injEq .. ▸ h
    split at h
    · cases h
    · cases h
      exact ⟨[], [], by simp, .nil, by simpa using hu, by simp [hused]⟩
  | case3 => simp at h
  | case4 => simp at h
  | case5 => simp at h
  | case6 used d rest used' hstore _ _ ih =>
    obtain ⟨c, hc, hs⟩ := Option.bind_eq_some_iff.1 hstore
    subst hused
    obtain ⟨hfits, rfl⟩ := storeByte_eq.1 hs
    obtain ⟨t, v, rfl, hspells, hv, rfl⟩ := ih hfits rfl h
    have hunit : responseLexis.unit [BACKSLASH, d] [c] := .escape (unescape_eq.1 hc)
    exact ⟨_, _, rfl, .unit hunit hspells, by simpa using hv, by simp⟩
  | case7 => simp at h
  | case8 c rest used hq h32 hb used' hs ih =>
    subst hused
    obtain ⟨hfits, rfl⟩ := storeByte_eq.1 hs
    obtain ⟨t, v, rfl, hspells, hv, rfl⟩ := ih hfits rfl h
    have hunit : responseLexis.unit [c] [c] := .plain (UInt8.not_lt.1 h32) hq hb
    exact ⟨_, _, rfl, .unit hunit hspells, by simpa using hv, by simp⟩

/-- Nothing is read into a buffer of no bytes. -/
theorem jsonStringFrom_zero (p used : Bytes) : (jsonStringFrom (some 0) p used).2 = none := by
  fun_induction jsonStringFrom (some 0) p used <;> simp_all

/-- `parse_json_string` reads a string whose value the destination can hold. -/
theorem parseJsonString_iff {dst : Option Nat} {p out q : Bytes} :
    parseJsonString dst p = (out, some q) ↔ ∃ v, responseLexis.Str p v q ∧ Fits dst v ∧ out = stored dst v := by
  have hnil : stored dst [] = [] := by cases dst <;> rfl
  constructor
  · intro h
    cases p with
    | nil => simp [parseJsonString] at h
    | cons c rest =>
      simp only [parseJsonString] at h
      split at h
      · rename_i hc
        subst hc
        have hdst : Fits dst [] := by
          rintro size rfl
          refine Nat.pos_of_ne_zero fun h0 => ?_
          subst h0
          simpa [h] using jsonStringFrom_zero rest []
        rw [← hnil] at h
        obtain ⟨t, v, rfl, hspells, hfits, rfl⟩ := spells_jsonStringFrom hdst h
        exact ⟨v, ⟨t, rfl, hspells⟩, hfits, rfl⟩
      · simp at h
  · rintro ⟨v, ⟨t, rfl, hspells⟩, hfits, rfl⟩
    have h := jsonStringFrom_spells hspells (u := []) hfits q
    rwa [hnil] at h

/-! ## Members -/

/-- A member of the object, as it changes `reply` and `have_text`. -/
def Takes (size : Nat) (m : Bytes × Bytes) (s s' : Bytes × Bool) : Prop :=
  m.1.length < 32 ∧
    (m.1 = ascii "text" ∧ s.2 = false ∧ m.2 ≠ [] ∧ m.2.length < size ∧ s' = (m.2, true) ∨
      m.1 ≠ ascii "text" ∧ s' = s)

theorem colon_iff {p v q r : Bytes} (h : responseLexis.Str r v q) :
    responseLexis.Mark COLON p r ↔ ∃ p', skipJsonSpace p = COLON :: p' ∧ skipJsonSpace p' = r :=
  Lexis.mark_iff (by decide) (h.dropWhile_eq (by decide))

/-- One round reads one member. -/
theorem textMember_iff {size : Nat} {p reply reply' q : Bytes} {haveText haveText' : Bool} :
    textMember size p reply haveText = (reply', some (q, haveText')) ↔
      ∃ m, responseLexis.Member p m q ∧ Takes size m (reply, haveText) (reply', haveText') := by
  constructor
  · intro h
    unfold textMember at h
    split at h
    · simp at h
    · rename_i key p₁ hkey
      obtain ⟨_, hk, hfits, rfl⟩ := parseJsonString_iff.1 hkey
      have hshort : key.length < 32 := hfits 32 rfl
      split at h
      · rename_i p₂ hcolon
        split at h
        · rename_i htext
          split at h
          · simp at h
          · rename_i hfirst
            split at h
            · simp at h
            · rename_i out p₃ hvalue
              obtain ⟨_, hv, hsize, rfl⟩ := parseJsonString_iff.1 hvalue
              have hmark := (colon_iff hv).2 ⟨p₂, hcolon, rfl⟩
              obtain ⟨rfl, h⟩ := Prod.mk.injEq .. ▸ h
              split at h
              · simp at h
              · rename_i hne
                cases h
                refine ⟨(key, out), ⟨_, _, hk, hmark, hv⟩, hshort, .inl ⟨htext, ?_, hne, hsize size rfl, rfl⟩⟩
                simpa using hfirst
        · rename_i hother
          split at h
          · simp at h
          · rename_i out p₃ hvalue
            obtain ⟨v, hv, -, -⟩ := parseJsonString_iff.1 hvalue
            have hmark := (colon_iff hv).2 ⟨p₂, hcolon, rfl⟩
            cases h
            exact ⟨(key, v), ⟨_, _, hk, hmark, hv⟩, hshort, .inr ⟨hother, rfl⟩⟩
      · simp at h
  · rintro ⟨⟨k, v⟩, ⟨r, r', hk, hmark, hv⟩, hshort, htakes⟩
    obtain ⟨p', hcolon, rfl⟩ := (colon_iff hv).1 hmark
    have hkey : parseJsonString (some 32) p = (k, some r) :=
      parseJsonString_iff.2 ⟨k, hk, fun size hs => by cases hs; exact hshort, rfl⟩
    have hcolon' : skipJsonSpace r = 58 :: p' := hcolon
    rcases htakes with ⟨htext, hfirst, hne, hsize, heq⟩ | ⟨hother, heq⟩
    · cases heq
      obtain rfl : haveText = false := hfirst
      have hvalue : parseJsonString (some size) (skipJsonSpace p') = (v, some q) :=
        parseJsonString_iff.2 ⟨v, hv, fun n hn => by cases hn; exact hsize, rfl⟩
      have hne' : v ≠ [] := hne
      simp [textMember, hkey, hcolon', show k = ascii "text" from htext, hvalue, hne']
    · cases heq
      have hvalue : parseJsonString none (skipJsonSpace p') = ([], some q) :=
        parseJsonString_iff.2 ⟨v, hv, nofun, rfl⟩
      simp [textMember, hkey, hcolon', show k ≠ ascii "text" from hother, hvalue]

/-! ## The object -/

/-- Members taken one after the other. -/
inductive TakesAll (size : Nat) : List (Bytes × Bytes) → Bytes × Bool → Bytes × Bool → Prop
  | nil {s : Bytes × Bool} : TakesAll size [] s s
  | cons {m ms s s' s''} : Takes size m s s' → TakesAll size ms s' s'' → TakesAll size (m :: ms) s s''

theorem takesAll_append {size : Nat} {a b : List (Bytes × Bytes)} {s s'' : Bytes × Bool} :
    TakesAll size (a ++ b) s s'' ↔ ∃ s', TakesAll size a s s' ∧ TakesAll size b s' s'' := by
  induction a generalizing s with
  | nil =>
    constructor
    · intro h
      exact ⟨s, .nil, h⟩
    · rintro ⟨s', h, h'⟩
      cases h
      exact h'
  | cons m a ih =>
    constructor
    · intro h
      cases h with
      | cons hm hrest =>
        obtain ⟨s', ha, hb⟩ := ih.1 hrest
        exact ⟨s', .cons hm ha, hb⟩
    · rintro ⟨s', h, hb⟩
      cases h with
      | cons hm ha => exact .cons hm (ih.2 ⟨s', ha, hb⟩)

/-- The members before a point are read, each with its comma. -/
theorem textMembers_before {size : Nat} {p r : Bytes} {ms : List (Bytes × Bytes)} (h : responseLexis.Before p ms r)
    (hr : skipJsonSpace r = r) {s s' : Bytes × Bool} (htakes : TakesAll size ms s s') {n : Nat} (hn : p.length < n) :
    ∃ n', r.length < n' ∧ textMembers size n p s.1 s.2 = textMembers size n' r s'.1 s'.2 := by
  induction h generalizing n s with
  | nil =>
    cases htakes
    exact ⟨n, hn, rfl⟩
  | @member p m r₁ r₂ ms r hm hcomma hrest ih =>
    cases htakes with
    | cons hm' hrest' =>
      rename_i s₁
      obtain ⟨n, rfl⟩ : ∃ k, n = k + 1 := ⟨n - 1, by omega⟩
      have hshort : r₂.length < n := by
        have h₁ := hm.length_lt
        have h₂ := hcomma.length_lt
        omega
      have hround : textMember size p s.1 s.2 = (s₁.1, some (r₁, s₁.2)) := textMember_iff.2 ⟨m, hm, hm'⟩
      have hr₂ : r₂.dropWhile responseLexis.blank = r₂ := hrest.dropWhile_eq (by decide) hr
      obtain ⟨r₁', hc, rfl⟩ := (Lexis.mark_iff (by decide) hr₂).1 hcomma
      have hc' : skipJsonSpace r₁ = 44 :: r₁' := hc
      obtain ⟨n', hn', heq⟩ := ih hr hrest' hshort
      refine ⟨n', hn', heq ▸ ?_⟩
      simp only [textMembers, hround, hc']
      rfl

/-- The last member and the closing brace. -/
theorem textMembers_last {size : Nat} {p q : Bytes} {m : Bytes × Bytes} (h : responseLexis.Member p m q)
    (hright : responseLexis.Mark 125 q []) {s : Bytes × Bool} {reply : Bytes} (htakes : Takes size m s (reply, true))
    {n : Nat} (hn : p.length < n) : textMembers size n p s.1 s.2 = (reply, true) := by
  obtain ⟨n, rfl⟩ : ∃ k, n = k + 1 := ⟨n - 1, by omega⟩
  have hround : textMember size p s.1 s.2 = (reply, some (q, true)) := textMember_iff.2 ⟨m, h, htakes⟩
  obtain ⟨q', hq, hend⟩ := (Lexis.mark_iff (by decide) (by rfl)).1 hright
  have hq' : skipJsonSpace q = 125 :: q' := hq
  have hend' : skipJsonSpace q' = [] := hend
  simp [textMembers, hround, hq', hend']

theorem textMembers_members {size : Nat} {p q : Bytes} {ms : List (Bytes × Bytes)} (h : responseLexis.Members p ms q)
    (hright : responseLexis.Mark 125 q []) {s : Bytes × Bool} {reply : Bytes}
    (htakes : TakesAll size ms s (reply, true)) {n : Nat} (hn : p.length < n) :
    textMembers size n p s.1 s.2 = (reply, true) := by
  obtain ⟨first, r, last, hbefore, hlast, rfl⟩ := h
  obtain ⟨s', hfirst, hs'⟩ := takesAll_append.1 htakes
  obtain ⟨n', hn', heq⟩ := textMembers_before hbefore (hlast.dropWhile_eq (by decide)) hfirst hn
  cases hs' with
  | cons hm hnil =>
    cases hnil
    rw [heq, textMembers_last hlast hright hm hn']

/-- What the rounds accept is members and the end of the object. -/
theorem members_textMembers {size n : Nat} {p reply reply' : Bytes} {haveText : Bool}
    (h : textMembers size n p reply haveText = (reply', true)) :
    ∃ ms q, responseLexis.Members p ms q ∧ responseLexis.Mark 125 q [] ∧
      TakesAll size ms (reply, haveText) (reply', true) := by
  induction n generalizing p reply haveText with
  | zero => simp [textMembers] at h
  | succ n ih =>
    simp only [textMembers] at h
    split at h
    · simp at h
    · rename_i out q seen hround
      obtain ⟨m, hm, htakes⟩ := textMember_iff.1 hround
      split at h
      · rename_i q' hbrace
        simp only [Prod.mk.injEq, Bool.and_eq_true, decide_eq_true_eq] at h
        obtain ⟨rfl, rfl, hend⟩ := h
        have hright : responseLexis.Mark 125 q [] := (Lexis.mark_iff (by decide) (by rfl)).2 ⟨q', hbrace, hend⟩
        exact ⟨[m], q, ⟨[], p, m, .nil, hm, rfl⟩, hright, .cons htakes .nil⟩
      · rename_i q' hc
        obtain ⟨ms, z, ⟨first, r, last, hbefore, hlast, rfl⟩, hright, hall⟩ := ih h
        have hcomma : responseLexis.Mark 44 q (skipJsonSpace q') := Lexis.mark_skip hc
        exact ⟨m :: (first ++ [last]), z, ⟨m :: first, r, last, .member hm hcomma hbefore, hlast, rfl⟩, hright,
          .cons htakes hall⟩
      · simp at h

/-- A key that is read and passed over. -/
def Other (m : Bytes × Bytes) : Prop := m.1.length ≤ 31 ∧ m.1 ≠ ascii "text"

theorem takesAll_others {ms : List (Bytes × Bytes)} (size : Nat) (h : ∀ m ∈ ms, Other m) (s : Bytes × Bool) :
    TakesAll size ms s s := by
  induction ms with
  | nil => exact .nil
  | cons m ms ih =>
    obtain ⟨hshort, hkey⟩ := h m (by simp)
    exact .cons ⟨by omega, .inr ⟨hkey, rfl⟩⟩ (ih fun x hx => h x (by simp [hx]))

/-- Once the text is there, only other keys are taken. -/
theorem TakesAll.others {size : Nat} {ms : List (Bytes × Bytes)} {s s' : Bytes × Bool} (h : TakesAll size ms s s')
    (hs : s.2 = true) : s' = s ∧ ∀ m ∈ ms, Other m := by
  induction h with
  | nil => exact ⟨rfl, by simp⟩
  | @cons m ms s s₁ s₂ hm _ ih =>
    obtain ⟨hshort, ⟨-, hfirst, -⟩ | ⟨hkey, rfl⟩⟩ := hm
    · simp [hs] at hfirst
    · obtain ⟨rfl, hall⟩ := ih hs
      refine ⟨rfl, fun x hx => ?_⟩
      rcases List.mem_cons.1 hx with rfl | hx
      · exact ⟨by omega, hkey⟩
      · exact hall x hx

/-- The members that leave `reply` as the one text. -/
theorem takesAll_iff {size : Nat} {ms : List (Bytes × Bytes)} {reply : Bytes} :
    TakesAll size ms ([], false) (reply, true) ↔
      ∃ before after, ms = before ++ (ascii "text", reply) :: after ∧ (∀ m ∈ before ++ after, Other m) ∧
        1 ≤ reply.length ∧ reply.length < size := by
  constructor
  · intro h
    induction ms with
    | nil => cases h
    | cons m ms ih =>
      cases h with
      | cons hm hrest =>
        obtain ⟨hshort, ⟨hkey, -, hne, hsize, rfl⟩ | ⟨hkey, rfl⟩⟩ := hm
        · obtain ⟨heq, hall⟩ := hrest.others rfl
          obtain ⟨rfl, -⟩ := Prod.mk.injEq .. ▸ heq
          refine ⟨[], ms, ?_, by simpa using hall, List.length_pos_iff.2 hne, hsize⟩
          simp [← hkey]
        · obtain ⟨before, after, rfl, hall, hpos, hsize⟩ := ih hrest
          refine ⟨m :: before, after, rfl, fun x hx => ?_, hpos, hsize⟩
          rcases List.mem_cons.1 hx with rfl | hx
          · exact ⟨by omega, hkey⟩
          · exact hall x hx
  · rintro ⟨before, after, rfl, hall, hpos, hsize⟩
    have hbefore : ∀ m ∈ before, Other m := fun m hm => hall m (by simp [hm])
    have hafter : ∀ m ∈ after, Other m := fun m hm => hall m (by simp [hm])
    have htext : Takes size (ascii "text", reply) ([], false) (reply, true) :=
      ⟨show (ascii "text").length < 32 by decide, .inl ⟨rfl, rfl, List.length_pos_iff.1 hpos, hsize, rfl⟩⟩
    exact takesAll_append.2 ⟨_, takesAll_others _ hbefore _, .cons htext (takesAll_others _ hafter _)⟩

/-- The bodies the bot takes an answer from: one object of strings, with keys
of at most 31 bytes, in which exactly one key is `text`. -/
def ChatAnswer (replySize : Nat) (body value : Bytes) : Prop :=
  ∃ before after, responseLexis.Object body (before ++ (ascii "text", value) :: after) ∧
    (∀ m ∈ before ++ after, m.1.length ≤ 31 ∧ m.1 ≠ ascii "text") ∧
    1 ≤ value.length ∧ value.length ≤ replySize - 1

theorem chatAnswer_iff {size : Nat} {body value : Bytes} :
    ChatAnswer size body value ↔ ∃ ms, responseLexis.Object body ms ∧ TakesAll size ms ([], false) (value, true) := by
  constructor
  · rintro ⟨before, after, hobj, hall, hpos, hsize⟩
    exact ⟨_, hobj, takesAll_iff.2 ⟨before, after, rfl, hall, hpos, by omega⟩⟩
  · rintro ⟨ms, hobj, htakes⟩
    obtain ⟨before, after, rfl, hall, hpos, hsize⟩ := takesAll_iff.1 htakes
    exact ⟨before, after, hobj, hall, hpos, by omega⟩

/-- The text of an answer has no control byte. -/
theorem ChatAnswer.printable {size : Nat} {body value : Bytes} (h : ChatAnswer size body value) :
    value ≠ [] ∧ ∀ c ∈ value, 32 ≤ c := by
  obtain ⟨before, after, hobj, -, hpos, -⟩ := h
  obtain ⟨t, hspells⟩ := hobj.spelled (ascii "text", value) (by simp)
  refine ⟨List.length_pos_iff.1 hpos, hspells.all fun t v hunit c hc => ?_⟩
  cases hunit with
  | plain h32 => rwa [List.mem_singleton.1 hc]
  | escape hd =>
    obtain rfl := List.mem_singleton.1 hc
    simp only [responseEscapes, List.mem_cons, Prod.mk.injEq, List.not_mem_nil, or_false] at hd
    rcases hd with ⟨-, rfl⟩ | ⟨-, rfl⟩ | ⟨-, rfl⟩ | ⟨-, rfl⟩ | ⟨-, rfl⟩ | ⟨-, rfl⟩ <;> decide

/-- Members begin with the quote of a key. -/
theorem members_quote {p q : Bytes} {ms : List (Bytes × Bytes)} (h : responseLexis.Members p ms q) :
    ∃ t, p = QUOTE :: t := by
  obtain ⟨first, r, last, hbefore, hlast, -⟩ := h
  have hp : ∃ m r, responseLexis.Member p m r := by
    cases hbefore with
    | nil => exact ⟨_, _, hlast⟩
    | member hm _ _ => exact ⟨_, _, hm⟩
  obtain ⟨m, r, r₁, r₂, ⟨t, rfl, -⟩, -, -⟩ := hp
  exact ⟨_, rfl⟩

/-- `parse_text_response` accepts exactly the grammar. -/
theorem parseTextResponse_iff {size : Nat} {body reply : Bytes} :
    parseTextResponse (some body) size = (reply, true) ↔ ChatAnswer size body reply := by
  rw [chatAnswer_iff]
  constructor
  · intro h
    simp only [parseTextResponse] at h
    split at h
    · rename_i p hbrace
      split at h
      · simp at h
      · obtain ⟨ms, q, hms, hright, hall⟩ := members_textMembers h
        have hleft : responseLexis.Mark 123 body (skipJsonSpace p) := Lexis.mark_skip hbrace
        exact ⟨ms, ⟨_, q, hleft, hms, hright⟩, hall⟩
    · simp at h
  · rintro ⟨ms, ⟨r, q, hleft, hms, hright⟩, hall⟩
    obtain ⟨t, rfl⟩ := members_quote hms
    obtain ⟨p, hp, hskip⟩ := (Lexis.mark_iff (by decide) (by rfl)).1 hleft
    have hp' : skipJsonSpace body = 123 :: p := hp
    have hskip' : skipJsonSpace p = QUOTE :: t := hskip
    have hquote : QUOTE ≠ 125 := by decide
    simpa [parseTextResponse, hp', hskip', hquote] using textMembers_members hms hright hall (Nat.lt_succ_self _)

/-! ## What a refused body leaves in `reply` -/

theorem storeByte_keeps {dst : Option Nat} {used used' : Bytes} {c : UInt8} (h : storeByte dst used c = some used') :
    used <+: used' := by
  cases dst with
  | none => simp_all [storeByte]
  | some size =>
    by_cases hs : size ≤ used.length + 1
    · simp [storeByte, hs] at h
    · simp only [storeByte, hs, if_false, Option.some.injEq] at h
      exact h ▸ List.prefix_append _ _

/-- What is stored stays, also where the string is refused. -/
theorem jsonStringFrom_keeps (dst : Option Nat) (p used : Bytes) : used <+: (jsonStringFrom dst p used).1 := by
  fun_induction jsonStringFrom dst p used with
  | case6 used d rest used' hstore _ _ ih =>
    obtain ⟨c, -, hs⟩ := Option.bind_eq_some_iff.1 hstore
    exact (storeByte_keeps hs).trans ih
  | case8 c rest used _ _ _ used' hs ih => exact (storeByte_keeps hs).trans ih
  | _ => exact List.prefix_rfl

/-- The first thing that is stored is a unit at the start of the text. -/
theorem jsonStringFrom_first {dst : Option Nat} {p used : Bytes} (h : (jsonStringFrom dst p used).1 ≠ used) :
    ∃ t c rest used', p = t ++ rest ∧ responseLexis.unit t [c] ∧ storeByte dst used c = some used' := by
  fun_induction jsonStringFrom dst p used with
  | case6 used d rest used' hstore =>
    obtain ⟨c, hc, hs⟩ := Option.bind_eq_some_iff.1 hstore
    exact ⟨[BACKSLASH, d], c, rest, used', rfl, .escape (unescape_eq.1 hc), hs⟩
  | case8 c rest used hq h32 hb used' hs =>
    exact ⟨[c], c, rest, used', rfl, .plain (UInt8.not_lt.1 h32) hq hb, hs⟩
  | _ => simp at h

/-- A string stores something when it begins with a unit there is room for. -/
theorem parseJsonString_stores {size : Nat} {p : Bytes} :
    (parseJsonString (some size) p).1 ≠ [] ↔
      2 ≤ size ∧ ∃ t v rest, p = QUOTE :: (t ++ rest) ∧ responseLexis.unit t v := by
  have hroom : ∀ c, storeByte (some size) [] c = if size ≤ 1 then none else some [c] := fun _ => rfl
  constructor
  · intro h
    cases p with
    | nil => exact absurd rfl h
    | cons c p =>
      simp only [parseJsonString] at h
      split at h
      · rename_i hc
        obtain ⟨t, d, rest, used', rfl, hunit, hs⟩ := jsonStringFrom_first h
        rw [hroom] at hs
        split at hs
        · cases hs
        · exact ⟨by omega, t, [d], rest, hc ▸ rfl, hunit⟩
      · exact absurd rfl h
  · rintro ⟨hsize, t, v, rest, rfl, hunit⟩
    have hstore : ∀ c, storeByte (some size) [] c = some [c] := fun c => by rw [hroom, if_neg (by omega)]
    have hkeeps : ∀ c, (jsonStringFrom (some size) rest [c]).1 ≠ [] := fun c h0 => by
      simpa [h0] using jsonStringFrom_keeps (some size) rest [c]
    cases hunit with
    | @plain c h32 hq hb =>
      have heq := jsonStringFrom_plain h32 hq hb (hstore c) rest
      simpa [parseJsonString, heq] using hkeeps c
    | @escape d c hd =>
      have heq := jsonStringFrom_escape hd (hstore c) rest
      simpa [parseJsonString, heq] using hkeeps c

/-- The next member is a text whose value begins with a byte that is stored. -/
def TextBegins (replySize : Nat) (p : Bytes) : Prop :=
  2 ≤ replySize ∧ ∃ r t v rest, responseLexis.Str p (ascii "text") r ∧
    responseLexis.Mark COLON r (QUOTE :: (t ++ rest)) ∧ responseLexis.unit t v

theorem textMember_stores {size : Nat} {p : Bytes} : (textMember size p [] false).1 ≠ [] ↔ TextBegins size p := by
  constructor
  · intro h
    unfold textMember at h
    split at h
    · simp at h
    · rename_i key p₁ hkey
      obtain ⟨_, hk, -, rfl⟩ := parseJsonString_iff.1 hkey
      split at h
      · rename_i p₂ hcolon
        split at h
        · rename_i htext
          have hstores : (parseJsonString (some size) (skipJsonSpace p₂)).1 ≠ [] := by
            split at h
            · cases ‹false = true›
            · split at h <;> simp_all
          obtain ⟨hsize, t, v, rest, hvalue, hunit⟩ := parseJsonString_stores.1 hstores
          have hmark : responseLexis.Mark COLON p₁ (QUOTE :: (t ++ rest)) :=
            (Lexis.mark_iff (by decide) (by rfl)).2 ⟨p₂, hcolon, hvalue⟩
          exact ⟨hsize, p₁, t, v, rest, htext ▸ hk, hmark, hunit⟩
        · split at h <;> simp at h
      · simp at h
  · rintro ⟨hsize, r, t, v, rest, hk, hmark, hunit⟩
    obtain ⟨p', hcolon, hvalue⟩ := (Lexis.mark_iff (by decide) (by rfl)).1 hmark
    have hkey : parseJsonString (some 32) p = (ascii "text", some r) :=
      parseJsonString_iff.2 ⟨_, hk, fun n hn => by cases hn; decide, rfl⟩
    have hcolon' : skipJsonSpace r = 58 :: p' := hcolon
    have hstores : (parseJsonString (some size) (skipJsonSpace p')).1 ≠ [] :=
      parseJsonString_stores.2 ⟨hsize, t, v, rest, hvalue, hunit⟩
    rcases hv : parseJsonString (some size) (skipJsonSpace p') with ⟨out, _ | q⟩ <;> rw [hv] at hstores
    · simpa [textMember, hkey, hcolon', hv] using hstores
    · simpa [textMember, hkey, hcolon', hv] using hstores

/-- After the text, `reply` does not change. -/
theorem textMember_keeps (size : Nat) (p reply : Bytes) :
    (textMember size p reply true).1 = reply := by
  unfold textMember
  split
  · rfl
  · split
    · split
      · rfl
      · split <;> rfl
    · rfl

theorem textMembers_keeps {size n : Nat} {p reply : Bytes} : (textMembers size n p reply true).1 = reply := by
  induction n generalizing p with
  | zero => rfl
  | succ n ih =>
    have hkeeps := textMember_keeps size p reply
    simp only [textMembers]
    split
    · simp_all
    · rename_i out q seen hround
      obtain ⟨m, -, -, htakes⟩ := textMember_iff.1 hround
      obtain ⟨-, rfl, rfl⟩ : m.1 ≠ ascii "text" ∧ out = reply ∧ seen = true := by simpa using htakes
      split
      · rfl
      · exact ih
      · rfl

/-- Something is stored exactly when the rounds get to a text that begins. -/
theorem textMembers_stores {size n : Nat} {p : Bytes} (hn : p.length < n) :
    (textMembers size n p [] false).1 ≠ [] ↔
      ∃ ms r, responseLexis.Before p ms r ∧ (∀ m ∈ ms, Other m) ∧ TextBegins size r := by
  constructor
  · intro h
    induction n generalizing p with
    | zero => exact absurd rfl h
    | succ n ih =>
      simp only [textMembers] at h
      split at h
      · rename_i out hround
        have hbegins : TextBegins size p := textMember_stores.1 (by simpa [hround] using h)
        exact ⟨[], p, .nil, by simp, hbegins⟩
      · rename_i out q seen hround
        obtain ⟨m, hm, hshort, ⟨-, -, hne, -, heq⟩ | ⟨hkey, heq⟩⟩ := textMember_iff.1 hround
        · obtain ⟨rfl, rfl⟩ := Prod.mk.injEq .. ▸ heq
          have hbegins : TextBegins size p := textMember_stores.1 (by simpa [hround] using hne)
          exact ⟨[], p, .nil, by simp, hbegins⟩
        · obtain ⟨rfl, rfl⟩ := Prod.mk.injEq .. ▸ heq
          split at h
          · exact absurd rfl h
          · rename_i q' hc
            have hcomma : responseLexis.Mark 44 q (skipJsonSpace q') := Lexis.mark_skip hc
            have hlen : (skipJsonSpace q').length < n := by
              have h₁ := hm.length_lt
              have h₂ := hcomma.length_lt
              omega
            obtain ⟨ms, r, hbefore, hall, hbegins⟩ := ih hlen h
            refine ⟨m :: ms, r, .member hm hcomma hbefore, fun x hx => ?_, hbegins⟩
            rcases List.mem_cons.1 hx with rfl | hx
            · exact ⟨by omega, hkey⟩
            · exact hall x hx
          · exact absurd rfl h
  · rintro ⟨ms, r, hbefore, hall, hbegins⟩
    have hr : skipJsonSpace r = r := by
      obtain ⟨-, r', t, v, rest, hk, -⟩ := hbegins
      exact hk.dropWhile_eq (by decide)
    obtain ⟨n', hn', heq⟩ := textMembers_before hbefore hr (takesAll_others size hall ([], false)) hn
    obtain ⟨n', rfl⟩ : ∃ k, n' = k + 1 := ⟨n' - 1, by omega⟩
    have hstores := textMember_stores.2 hbegins
    rw [heq]
    simp only [textMembers]
    rcases hround : textMember size r [] false with ⟨out, _ | ⟨q, seen⟩⟩ <;> rw [hround] at hstores
    · exact hstores
    · obtain ⟨m, hm, hshort, ⟨-, -, hne, -, heq⟩ | ⟨hkey, heq⟩⟩ := textMember_iff.1 hround
      · obtain ⟨rfl, rfl⟩ := Prod.mk.injEq .. ▸ heq
        dsimp only
        split
        · exact hne
        · rw [textMembers_keeps]
          exact hne
        · exact hne
      · obtain ⟨rfl, rfl⟩ := Prod.mk.injEq .. ▸ heq
        exact absurd rfl hstores

/-- The body has the start of an object with other keys only, up to a text
whose value begins with a byte that is stored. -/
def ReachesText (replySize : Nat) (body : Bytes) : Prop :=
  ∃ p before q, responseLexis.Mark 123 body p ∧ responseLexis.Before p before q ∧
    (∀ m ∈ before, m.1.length ≤ 31 ∧ m.1 ≠ ascii "text") ∧ TextBegins replySize q

theorem parseTextResponse_stores {size : Nat} {body : Bytes} :
    (parseTextResponse (some body) size).1 ≠ [] ↔ ReachesText size body := by
  constructor
  · intro h
    simp only [parseTextResponse] at h
    split at h
    · rename_i p hbrace
      split at h
      · exact absurd rfl h
      · obtain ⟨ms, r, hbefore, hall, hbegins⟩ := (textMembers_stores (Nat.lt_succ_self _)).1 h
        have hleft : responseLexis.Mark 123 body (skipJsonSpace p) := Lexis.mark_skip hbrace
        exact ⟨_, ms, r, hleft, hbefore, hall, hbegins⟩
    · exact absurd rfl h
  · rintro ⟨p, before, q, hleft, hbefore, hall, hbegins⟩
    have hquote : ∃ t, p = QUOTE :: t := by
      cases hbefore with
      | nil =>
        obtain ⟨-, r, t, v, rest, ⟨s, rfl, -⟩, -⟩ := hbegins
        exact ⟨_, rfl⟩
      | member hm _ _ =>
        obtain ⟨r₁, r₂, ⟨s, rfl, -⟩, -, -⟩ := hm
        exact ⟨_, rfl⟩
    have hstores := (textMembers_stores (Nat.lt_succ_self _)).2 ⟨before, q, hbefore, hall, hbegins⟩
    obtain ⟨t, rfl⟩ := hquote
    obtain ⟨p', hp, hskip⟩ := (Lexis.mark_iff (by decide) (by rfl)).1 hleft
    have hp' : skipJsonSpace body = 123 :: p' := hp
    have hskip' : skipJsonSpace p' = QUOTE :: t := hskip
    have hne : QUOTE ≠ 125 := by decide
    simpa [parseTextResponse, hp', hskip', hne] using hstores

end AmBot
