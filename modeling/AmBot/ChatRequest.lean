import AmBot.Chat
import AmBot.Isolation
import AmBot.Url
/-!
# The chat request

The body `ambot_botai_chat` writes, as JSON. The message goes through
`json_escape`; the expert goes into the body as it is.
-/

namespace AmBot

open RunLib RunLib.Prog

/-- The body is one object with exactly these two members. -/
def BodyMeans (body expert message : Bytes) : Prop :=
  ∃ ms, json.Object body ms ∧ ms.Perm [(ascii "expert", expert), (ascii "message", message)]

variable {env : Env} {w : World} {botai : BotAi} {message escaped : Bytes} {replySize : Nat}

/-! ## The message -/

theorem jsonEscapeFrom_spells {size : Nat} {src used out : Bytes} (h : jsonEscapeFrom size src used = some out) :
    ∃ t, out = used ++ t ∧ json.Spells t src := by
  induction src generalizing used with
  | nil =>
    obtain rfl : used = out := by simpa [jsonEscapeFrom] using h
    exact ⟨[], by simp, .nil⟩
  | cons c src ih =>
    unfold jsonEscapeFrom at h
    split at h
    · cases h
    · rename_i h32
      split at h
      · rename_i hc
        split at h
        · cases h
        · obtain ⟨t, rfl, ht⟩ := ih h
          have hescape : json.unit [92, c] [c] := .escape (by rcases hc with rfl | rfl <;> decide)
          exact ⟨[92, c] ++ t, by simp [BACKSLASH], .unit hescape ht⟩
      · rename_i hc
        split at h
        · cases h
        · obtain ⟨t, rfl, ht⟩ := ih h
          simp only [not_or] at hc
          have hplain : json.unit [c] [c] := .plain ⟨UInt8.not_lt.1 h32, hc.1, hc.2⟩
          exact ⟨[c] ++ t, by simp, .unit hplain ht⟩

theorem jsonEscape_spells {size : Nat} (h : jsonEscape message size = some escaped) : json.Spells escaped message := by
  unfold jsonEscape at h
  split at h
  · cases h
  · obtain ⟨t, rfl, ht⟩ := jsonEscapeFrom_spells h
    exact ht

/-! ## The body -/

theorem chatBody_eq (botai : BotAi) (escaped : Bytes) :
    chatBody botai escaped = 123 :: 34 :: (ascii "expert" ++ 34 :: 58 :: 34 :: (botai.expert ++ 34 :: 44 :: 34 ::
      (ascii "message" ++ 34 :: 58 :: 34 :: (escaped ++ 34 :: [125])))) := by
  simp only [chatBody, List.append_assoc]
  rfl

/-- A mark with no blanks around it. -/
theorem bare_mark (c : UInt8) (q : Bytes) : json.Mark c (c :: q) q := ⟨q, .rfl _, .rfl _⟩

/-- The body of an expert that needs no escapes. -/
theorem chatBody_means (hexpert : ∀ c ∈ botai.expert, Unescaped c) (hmessage : json.Spells escaped message) :
    BodyMeans (chatBody botai escaped) botai.expert message := by
  have hkey : json.Spells (ascii "expert") (ascii "expert") := plain_spells (by decide +kernel)
  have hkey' : json.Spells (ascii "message") (ascii "message") := plain_spells (by decide +kernel)
  have hfirst : json.Member (34 :: (ascii "expert" ++ 34 :: 58 :: 34 :: (botai.expert ++ 34 :: 44 :: 34 ::
      (ascii "message" ++ 34 :: 58 :: 34 :: (escaped ++ 34 :: [125]))))) (ascii "expert", botai.expert)
      (44 :: 34 :: (ascii "message" ++ 34 :: 58 :: 34 :: (escaped ++ 34 :: [125]))) :=
    ⟨_, _, ⟨_, rfl, hkey⟩, bare_mark 58 _, ⟨_, rfl, plain_spells hexpert⟩⟩
  have hlast : json.Member (34 :: (ascii "message" ++ 34 :: 58 :: 34 :: (escaped ++ 34 :: [125])))
      (ascii "message", message) [125] :=
    ⟨_, _, ⟨_, rfl, hkey'⟩, bare_mark 58 _, ⟨_, rfl, hmessage⟩⟩
  refine ⟨[(ascii "expert", botai.expert), (ascii "message", message)], ?_, List.Perm.refl _⟩
  rw [chatBody_eq]
  exact ⟨_, [125], bare_mark 123 _, ⟨[_], _, _, .member hfirst (bare_mark 44 _) .nil, hlast, rfl⟩, bare_mark 125 _⟩

/-- A string that is to stand for `expert`, and has a comma after it, is
closed by the quote the bot wrote: a later one has no backslash before it, or no
comma after it. Then nothing in it is an escape. -/
theorem expert_read {expert rest q r : Bytes} {c : UInt8} (hc : c ≠ 44) (hblank : json.blank c = false)
    (hstr : json.Str (34 :: (expert ++ 34 :: 44 :: 34 :: c :: rest)) expert q) (hcomma : json.Mark 44 q r) :
    ∀ d ∈ expert, Unescaped d := by
  obtain ⟨t, heq, ht⟩ := hstr
  have heq' : expert ++ 34 :: 44 :: 34 :: c :: rest = t ++ 34 :: q := (List.cons.inj heq).2
  have hlen := json_length ht
  have hsame : t = expert → ∀ d ∈ expert, Unescaped d := by
    rintro rfl
    exact (json_same ht (Nat.le_refl _)).2
  rcases List.append_eq_append_iff.1 heq' with ⟨a, rfl, ha⟩ | ⟨b, rfl, -⟩
  · cases a with
    | nil => exact hsame (by simp)
    | cons x a =>
      obtain ⟨rfl, h₁⟩ := List.cons.inj ha
      cases a with
      | nil => exact absurd (List.cons.inj h₁).1 (by decide)
      | cons y a =>
        obtain ⟨rfl, h₂⟩ := List.cons.inj h₁
        cases a with
        | nil =>
          -- the quote in front of the next key: no comma follows it
          obtain ⟨-, h₃⟩ := List.cons.inj h₂
          obtain ⟨q', ⟨s, hs, hq⟩, -⟩ := hcomma
          rw [← h₃] at hq
          cases s with
          | nil => exact absurd (List.cons.inj hq).1 hc
          | cons d s =>
            obtain ⟨rfl, -⟩ := List.cons.inj hq
            have := hs c (by simp)
            simp [hblank] at this
        | cons z a =>
          -- a later one: the quote in front of the next key is in the string
          obtain ⟨rfl, -⟩ := List.cons.inj h₂
          obtain ⟨a', ha'⟩ := json_quote (a := expert ++ [34, 44]) (b := a) ht (by simp)
          have hlast := congrArg List.getLast? ha'
          simp at hlast
  · rw [List.length_append] at hlen
    have hb : b = [] := List.length_eq_zero_iff.1 (by omega)
    exact hsame (by simp [hb])

/-- After a mark with no blanks before a quote, a string starts at that quote. -/
theorem mark_quote {c : UInt8} {p q v s : Bytes} (hc : json.blank c = false) (h : json.Mark c (c :: 34 :: p) q)
    (hq : json.Str q v s) : q = 34 :: p := by
  obtain ⟨r, hr, rfl⟩ := (Lexis.mark_iff hc (hq.dropWhile_eq (by decide))).1 h
  rw [List.dropWhile_cons_of_neg (by simp [hc])] at hr
  rw [← (List.cons.inj hr).2]
  exact List.dropWhile_cons_of_neg (by decide)

/-- The body means what was meant exactly where the expert needs no escapes. -/
theorem chatBody_means_iff (hmessage : json.Spells escaped message) :
    BodyMeans (chatBody botai escaped) botai.expert message ↔ ∀ c ∈ botai.expert, Unescaped c := by
  refine ⟨fun ⟨ms, hobj, hperm⟩ => ?_, fun h => chatBody_means h hmessage⟩
  rw [chatBody_eq] at hobj
  obtain ⟨p, q, hleft, ⟨first, p', last, hbefore, -, rfl⟩, -⟩ := hobj
  have htwo : first.length = 1 := by simpa using hperm.length_eq
  obtain ⟨m, rfl⟩ := List.length_eq_one_iff.1 htwo
  cases hbefore with
  | member hm hcomma _ =>
    obtain ⟨r, r', hkey, hcolon, hvalue⟩ := hm
    obtain rfl := mark_quote (by decide) hleft hkey
    -- the first key is the one the bot wrote
    obtain ⟨t, heq, ht⟩ := hkey
    obtain ⟨rfl, rfl⟩ := json_ends ht (List.cons.inj heq).2.symm (by decide) (by
      intro a' ha'
      have hlast := congrArg List.getLast? ha'
      revert hlast
      simp [ascii])
    obtain rfl := mark_quote (by decide) hcolon hvalue
    have hmem : m ∈ [(ascii "expert", botai.expert), (ascii "message", message)] := hperm.subset (by simp)
    simp only [List.mem_cons, List.not_mem_nil, or_false] at hmem
    rcases hmem with rfl | rfl
    · exact expert_read (by decide) (by decide) hvalue hcomma
    · have hlen := json_length ht
      exact absurd hlen (show ¬ (ascii "message").length ≤ (ascii "expert").length by decide)

/-! ## The request -/

/-- What the first send hands to the network. -/
def firstSent (t : List Obs) : Option Bytes :=
  t.findSome? fun
    | .send _ data _ => some data
    | _ => none

theorem firstSent_append {t t' : List Obs} {data : Bytes} (h : firstSent t = some data) :
    firstSent (t ++ t') = some data := by
  rw [firstSent, List.findSome?_append, ← firstSent, h]
  rfl

theorem firstSent_none {t : List Obs} {S : List Kind} (hS : .send ∉ S) (h : ∀ o ∈ t, o.kind ∈ S) : firstSent t = none := by
  rw [firstSent, List.findSome?_eq_none_iff]
  intro o ho
  cases o with
  | send => exact absurd (h _ ho) hS
  | _ => rfl

/-- Since the trace `before`, nothing was sent, or `request` was sent first. -/
def SentFirst (before : List Obs) (sent : Option Bytes) (w : World) : Prop :=
  ∃ t, w.trace = before ++ t ∧ firstSent t = sent

section
variable {α : Type} {before : List Obs} {S : List Kind} {m : M α} {request : Bytes}

theorem sentFirst_quiet (hm : Keeps (Acts S) m) (hS : .send ∉ S) :
    Triple (SentFirst before none) m (fun _ => SentFirst before none) fun _ => True := by
  refine (Keeps.triple hm fun w w' hw hacts => ?_).conseq (fun _ => id) (fun _ _ => id) fun _ _ => trivial
  obtain ⟨t, ht, hnone⟩ := hw
  obtain ⟨t', ht', hk⟩ := hacts.logs
  refine ⟨t ++ t', by rw [ht', ht, List.append_assoc], ?_⟩
  rw [firstSent, List.findSome?_append, ← firstSent, hnone, ← firstSent, firstSent_none hS hk]
  rfl

theorem sentFirst_keeps (hm : Keeps (Acts S) m) :
    Triple (SentFirst before (some request)) m (fun _ => SentFirst before (some request)) fun _ => True := by
  refine (Keeps.triple hm fun w w' hw hacts => ?_).conseq (fun _ => id) (fun _ _ => id) fun _ _ => trivial
  obtain ⟨t, ht, hsome⟩ := hw
  obtain ⟨t', ht', -⟩ := hacts.logs
  exact ⟨t ++ t', by rw [ht', ht, List.append_assoc], firstSent_append hsome⟩

theorem netSendAll_first (sock : Int) (hne : request ≠ []) :
    Triple (SentFirst before none) (netSendAll sock request) (fun _ => SentFirst before (some request)) fun _ => True := by
  obtain ⟨c, rest, rfl⟩ := List.exists_cons_of_ne_nil hne
  unfold netSendAll netSendFrom
  refine (sentFirst_quiet (S := []) (keeps_ask _) (by simp)).bind fun rc => ?_
  have hlog : Triple (SentFirst before none) (log (.send sock (c :: rest) rc))
      (fun _ => SentFirst before (some (c :: rest))) fun _ => True := by
    refine triple_modify fun w ⟨t, ht, hnone⟩ => ⟨t ++ [.send sock (c :: rest) rc], by simp [World.log, ht], ?_⟩
    rw [firstSent, List.findSome?_append, ← firstSent, hnone]
    rfl
  exact hlog.bind fun _ => sentFirst_keeps (keeps_ite (keeps_pure _) (netSendFrom_keeps _ _ _))

/-- A request that is made is the first thing sent. -/
theorem httpRequest_sends (botai : BotAi) (method endpoint : Bytes) (body : Option Bytes) (size : Nat) :
    Triple (SentFirst before none) (httpRequest botai method endpoint body size)
      (fun _ w => SentFirst before none w ∨ ∃ request, httpPrepare botai method endpoint body = some request ∧
        SentFirst before (some request) w) fun _ => True := by
  unfold httpRequest
  split
  · exact triple_pure fun _ => .inl
  · rename_i request hprepare
    refine (sentFirst_quiet (netConnectIpv4_keeps _ _) (by decide)).bind fun sock =>
      triple_ite (fun _ => triple_pure fun _ => .inl) fun _ => ?_
    refine (netSendAll_first sock (httpPrepare_some hprepare).2).bind fun rc => ?_
    refine Triple.post (Q := fun _ => SentFirst before (some request)) (sentFirst_keeps (S := exchange) ?_)
      fun _ _ hw => .inr ⟨request, hprepare, hw⟩
    refine keeps_ite ((widen (by decide) (netCloseSocket_keeps _)).bind fun _ => keeps_pure _) ?_
    refine (widen (by decide) (httpReceive_keeps _ _ _ _ _)).bind fun received => ?_
    cases received with
    | none => exact keeps_pure _
    | some used =>
      exact (widen (by decide) (netCloseSocket_keeps _)).bind fun _ =>
        keeps_ite (keeps_pure _) (keeps_ite (keeps_pure _) (keeps_pure _))

/-- What a chat sends first is the request with the body it prepared. -/
theorem botaiChat_sends {t : List Obs} (h : (botaiChat botai message replySize env w).2.trace = w.trace ++ t)
    (hsent : firstSent t = some request) :
    ∃ body, chatPrepare botai message replySize = some body ∧
      httpPrepare botai (ascii "POST") (ascii "/v1/chat") (some body) = some request := by
  obtain ⟨r, w', hrun⟩ := botaiChat_total botai message replySize env w
  rw [hrun] at h
  unfold botaiChat at hrun
  cases hbody : chatPrepare botai message replySize with
  | none =>
    rw [hbody] at hrun
    obtain ⟨-, rfl⟩ := Prod.mk.inj hrun
    obtain rfl := List.self_eq_append_right.1 h
    cases hsent
  | some body =>
    rw [hbody] at hrun
    obtain ⟨response, w₁, hrequest, hrun⟩ := bind_eq_ok.1 hrun
    have hw : w₁ = w' := by
      cases response with
      | none => exact (Prod.mk.inj hrun).2
      | some _ => exact (Prod.mk.inj hrun).2
    subst hw
    have hstart : SentFirst w.trace none w := ⟨[], by simp, rfl⟩
    have hsame : ∀ {sent}, SentFirst w.trace sent w₁ → firstSent t = sent := by
      rintro sent ⟨t', ht', hsent'⟩
      rw [h] at ht'
      rw [List.append_cancel_left ht', hsent']
    rcases (httpRequest_sends _ _ _ _ _).ok hstart hrequest with hnone | ⟨request', hprepare, hsome⟩
    · rw [hsame hnone] at hsent
      cases hsent
    · rw [hsame hsome] at hsent
      obtain rfl := Option.some.inj hsent
      exact ⟨body, rfl, hprepare⟩

end

/-! ## The lines of the request -/

theorem decimal_append {n : Nat} (h : 10 ≤ n) :
    decimal n = decimal (n / 10) ++ [UInt8.ofNat (Nat.digitChar (n % 10)).toNat] := by
  simp [decimal, Nat.toDigits_of_base_le (by decide) h]

theorem digitChar_byte {d : Nat} (h : d < 10) :
    isDigit (UInt8.ofNat (Nat.digitChar d).toNat) = true ∧ (UInt8.ofNat (Nat.digitChar d).toNat).toNat - 48 = d := by
  revert d
  decide

/-- The digits of a number are digits, and their value is the number. -/
theorem decimal_value (n : Nat) : (∀ d ∈ decimal n, isDigit d = true) ∧ digitsValue (decimal n) = n := by
  induction n using Nat.strong_induction_on with
  | _ n ih =>
    by_cases h : n < 10
    · obtain ⟨hdigit, hvalue⟩ := digitChar_byte h
      simpa [decimal, Nat.toDigits_of_lt_base h, digitsValue] using ⟨hdigit, hvalue⟩
    · obtain ⟨hdigit, hvalue⟩ := digitChar_byte (Nat.mod_lt n (by decide : 0 < 10))
      obtain ⟨hall, hrest⟩ := ih (n / 10) (by omega)
      rw [decimal_append (by omega)]
      refine ⟨fun d hd => ?_, ?_⟩
      · rcases List.mem_append.1 hd with hd | hd
        · exact hall d hd
        · rw [List.mem_singleton.1 hd]
          exact hdigit
      · unfold digitsValue at hrest ⊢
        rw [List.foldl_append, hrest, List.foldl_cons, List.foldl_nil, hvalue]
        omega

/-- No blank line starts within a line. -/
theorem strstr_within {line rest : Bytes} {x : UInt8} (hline : LF ∉ line) :
    strstr (CRLF ++ CRLF) (x :: (line ++ CR :: rest)) = strstr (CRLF ++ CRLF) (line ++ CR :: rest) := by
  have hsecond : (CRLF ++ CRLF).isPrefixOf (x :: (line ++ CR :: rest)) = false := by
    cases line with
    | nil => simp [CRLF, List.isPrefixOf, show (LF == CR) = false by decide]
    | cons y line =>
      have hy : LF ≠ y := fun h => hline (by simp [h])
      simp [CRLF, List.isPrefixOf, hy]
  rw [strstr, hsecond]
  rfl

/-- A line that a line follows is not the last of the header. -/
theorem httpBody_line {line : Bytes} {c : UInt8} (rest : Bytes) (hline : LF ∉ line) (hc : c ≠ CR) :
    httpBody (line ++ CR :: LF :: c :: rest) = httpBody (c :: rest) := by
  unfold httpBody
  congr 1
  induction line with
  | nil =>
    have h₁ : (CRLF ++ CRLF).isPrefixOf (CR :: LF :: c :: rest) = false := by
      simp [CRLF, List.isPrefixOf, hc.symm]
    have h₂ : (CRLF ++ CRLF).isPrefixOf (LF :: c :: rest) = false := by
      simp [CRLF, List.isPrefixOf, show (CR == LF) = false by decide]
    simp [strstr, h₁, h₂]
  | cons x line ih =>
    simp only [List.mem_cons, not_or] at hline
    rw [List.cons_append, strstr_within hline.2, ih hline.2]

theorem httpBody_end {line : Bytes} (hline : LF ∉ line) (body : Bytes) :
    httpBody (line ++ CR :: LF :: CR :: LF :: body) = some body := by
  unfold httpBody
  induction line with
  | nil => simp [strstr, CRLF, List.isPrefixOf]
  | cons x line ih =>
    simp only [List.mem_cons, not_or] at hline
    rw [List.cons_append, strstr_within hline.2, ih hline.2]

/-- What follows the blank line after the lines of a header. -/
theorem httpBody_lines {line : Bytes} {lines : List Bytes} (hlf : ∀ l ∈ line :: lines, LF ∉ l)
    (hcr : ∀ l ∈ lines, ∃ c rest, l = c :: rest ∧ c ≠ CR) (body : Bytes) :
    httpBody ((line :: lines).flatMap (· ++ CRLF) ++ CRLF ++ body) = some body := by
  induction lines generalizing line with
  | nil =>
    have h := httpBody_end (hlf line (by simp)) body
    simpa [CRLF] using h
  | cons next lines ih =>
    obtain ⟨c, rest, rfl, hc⟩ := hcr next (by simp)
    have hrest := @ih (c :: rest) (fun l hl => hlf l (by simp at hl ⊢; tauto)) fun l hl => hcr l (by simp [hl])
    have hline := httpBody_line (rest ++ CRLF ++ lines.flatMap (· ++ CRLF) ++ CRLF ++ body) (hlf line (by simp)) hc
    simp only [List.flatMap_cons, List.append_assoc, List.cons_append, CRLF, List.nil_append] at hrest hline ⊢
    rw [hline, hrest]

/-- The lines of a request in front of its body. -/
def requestLines (botai : BotAi) (body : Bytes) : List Bytes :=
  [ascii "POST " ++ botai.path ++ ascii "/v1/chat HTTP/1.0", ascii "Host: " ++ botai.host,
   ascii "Content-Type: application/json", ascii "Content-Length: " ++ decimal body.length, ascii "Connection: close"]

theorem httpText_lines (botai : BotAi) (body : Bytes) :
    httpText botai (ascii "POST") (ascii "/v1/chat") (some body) =
      (requestLines botai body).flatMap (· ++ CRLF) ++ CRLF ++ body := by
  unfold httpText httpTarget requestLines
  simp only [List.flatMap_cons, List.flatMap_nil, List.append_assoc, List.append_nil]
  rfl

theorem httpBody_request {body : Bytes} (hhost : LF ∉ botai.host) (hpath : LF ∉ botai.path) :
    httpBody (httpText botai (ascii "POST") (ascii "/v1/chat") (some body)) = some body := by
  have hdigits : LF ∉ decimal body.length := fun h => by
    have := (decimal_value body.length).1 _ h
    revert this
    decide
  have hconst : ∀ s ∈ [ascii "POST ", ascii "/v1/chat HTTP/1.0", ascii "Host: ", ascii "Content-Type: application/json",
      ascii "Content-Length: ", ascii "Connection: close"], LF ∉ s := by decide
  simp only [List.forall_mem_cons, List.not_mem_nil, false_imp_iff, implies_true, and_true] at hconst
  obtain ⟨h₁, h₂, h₃, h₄, h₅, h₆⟩ := hconst
  rw [httpText_lines]
  refine httpBody_lines (fun l hl => ?_) (fun l hl => ?_) body
  · simp only [List.mem_cons, List.not_mem_nil, or_false] at hl
    rcases hl with rfl | rfl | rfl | rfl | rfl <;> simp [*]
  · simp only [List.mem_cons, List.not_mem_nil, or_false] at hl
    rcases hl with rfl | rfl | rfl | rfl <;> exact ⟨_, _, rfl, by decide⟩

/-! ## The configuration -/

/-- A line as `fgets` reads it: a newline is its last byte. -/
def OneLine (line : Bytes) : Prop := ∃ text, LF ∉ text ∧ (line = text ∨ line = text ++ [LF])

theorem fgets_oneLine (n : Nat) (file : Bytes) : OneLine (fgets n file).1 := by
  induction n generalizing file with
  | zero => exact ⟨[], by simp, .inl rfl⟩
  | succ n ih =>
    cases file with
    | nil => exact ⟨[], by simp, .inl rfl⟩
    | cons c file =>
      simp only [fgets]
      split
      · rename_i hc
        exact ⟨[], by simp, .inr (by simp [hc])⟩
      · rename_i hc
        obtain ⟨text, htext, hline⟩ := ih file
        refine ⟨c :: text, by simp [htext, Ne.symm hc], ?_⟩
        rcases hline with h | h <;> simp [h]

theorem fgetsLines_oneLine {n k : Nat} {file line : Bytes} (h : line ∈ fgetsLines n k file) : OneLine line := by
  induction k generalizing file with
  | zero => simp [fgetsLines] at h
  | succ k ih =>
    cases file with
    | nil => simp [fgetsLines] at h
    | cons c file =>
      rcases List.mem_cons.1 h with rfl | h
      · exact fgets_oneLine _ _
      · exact ih h

/-- Nothing follows the newline of a line. -/
theorem OneLine.end {line u v : Bytes} (h : OneLine line) (heq : line = u ++ LF :: v) : v = [] := by
  obtain ⟨text, htext, rfl | rfl⟩ := h
  · exact absurd (by simp [heq]) htext
  · rcases List.eq_nil_or_concat v with rfl | ⟨v, c, rfl⟩
    · rfl
    · rw [List.concat_eq_append, ← List.cons_append, ← List.append_assoc] at heq
      obtain ⟨rfl, -⟩ := List.append_inj' heq rfl
      simp at htext

/-- Trimming takes the newline off. -/
theorem trim_noLf {line : Bytes} (h : OneLine line) : LF ∉ trim (cstr line) := by
  intro hmem
  obtain ⟨a, b, hab⟩ := List.append_of_mem hmem
  have hrev : (trim (cstr line)).reverse = (trimLeft (cstr line)).reverse.dropWhile isSpace := List.reverse_reverse _
  have hprefix : trim (cstr line) <+: trimLeft (cstr line) := by
    have hsuffix : (trim (cstr line)).reverse <:+ (trimLeft (cstr line)).reverse := hrev ▸ List.dropWhile_suffix _
    exact List.reverse_suffix.1 hsuffix
  obtain ⟨y, hy⟩ := hprefix
  obtain ⟨x, hx⟩ : trimLeft (cstr line) <:+ cstr line := List.dropWhile_suffix _
  obtain ⟨z, hz⟩ : cstr line <+: line := List.takeWhile_prefix _
  have hline : line = x ++ a ++ LF :: (b ++ y ++ z) := by
    rw [← hz, ← hx, ← hy, hab]
    simp
  obtain rfl : b = [] := by
    have := h.end hline
    simp at this
    exact this.1
  -- so the newline is the last byte that is left, which is no blank
  have hhead := List.head?_dropWhile_not isSpace (trimLeft (cstr line)).reverse
  rw [← hrev, hab] at hhead
  simp [isSpace, LF] at hhead

theorem mem_of_trim {text : Bytes} {c : UInt8} (h : c ∈ trim text) : c ∈ text := by
  have hmem := (List.dropWhile_suffix isSpace).subset (List.mem_reverse.1 h)
  exact (List.dropWhile_suffix isSpace).subset (List.mem_reverse.1 hmem)

theorem mem_of_strchr {c d : UInt8} {p rest : Bytes} (h : strchr d p = some rest) (hc : c ∈ rest) : c ∈ p := by
  unfold strchr at h
  split at h
  · cases h
  · cases h
    exact (List.dropWhile_suffix _).subset hc

/-- No value of a file has a newline in it. -/
theorem fileLines_noLf {text key value : Bytes} (h : .setting key value ∈ fileLines text) : LF ∉ value := by
  obtain ⟨line, hline, hparse⟩ := List.mem_map.1 h
  obtain ⟨raw, hraw, rfl⟩ := List.mem_map.1 hline
  have hclean := trim_noLf (fgetsLines_oneLine hraw)
  unfold parseLine at hparse
  split at hparse
  · cases hparse
  · cases hparse
  · cases hparse
  · unfold parseHeader at hparse
    split at hparse
    · cases hparse
    · dsimp only at hparse
      split at hparse <;> cases hparse
  · split at hparse
    · cases hparse
    · rename_i rest hrest
      cases hparse
      exact fun hmem => hclean (mem_of_strchr hrest (List.mem_of_mem_drop (mem_of_trim hmem)))

/-- A global value is that of the seed, or what a line of the file assigns. -/
theorem configLoad_value_from (seed : Config) {path : Bytes} (hpath : path ≠ []) (text : Bytes) {k : Key} (hk : k ≠ .CHANNEL) :
    (configLoad seed path (some text)).2.value k = seed.value k ∨
      ∃ key value, .setting key value ∈ fileLines text ∧
        storedValue k value = some ((configLoad seed path (some text)).2.value k) := by
  have hassigned : ∀ {lines v}, (∀ l ∈ lines, l ∈ fileLines text) → lastAssigned k lines = some v →
      ∃ key value, .setting key value ∈ fileLines text ∧ storedValue k value = some v := by
    intro lines v hsub hlast
    obtain ⟨line, hline, hassign⟩ := List.mem_filterMap.1 (List.mem_of_getLast? hlast)
    cases line with
    | setting key value =>
      simp only [assigned, Option.ite_none_right_eq_some] at hassign
      exact ⟨key, value, hsub _ hline, hassign.2⟩
    | ignored => cases hassign
    | network => cases hassign
  rw [configLoad_value seed hpath text hk, preambleValue]
  cases hskipped : lastAssigned k (skippedLines (fileLines text)) with
  | some v =>
    refine .inr (hassigned (fun l hl => ?_) hskipped)
    obtain ⟨section_, hsection, hl⟩ := List.mem_flatMap.1 hl
    rw [lines_eq (fileLines text)]
    exact List.mem_append_right _ (List.mem_flatMap.2 ⟨section_, List.mem_of_mem_drop hsection, List.mem_cons_of_mem _ hl⟩)
  | none =>
    cases hpreamble : lastAssigned k (preamble (fileLines text)) with
    | some v => exact .inr (hassigned (fun l hl => List.takeWhile_prefix _ |>.subset hl) hpreamble)
    | none => exact .inl rfl

/-- The configuration a session starts with, and its client once the service
was found compatible. -/
def startConfig (startup : SessionConfig) (text : Bytes) : Config :=
  (configLoad (configSeed startup.host startup.port startup.nick startup.user startup.pass startup.ownerNick)
    startup.configPath (some text)).2

def compatibleBotai (config : Config) : BotAi :=
  { (botaiConfigure config.botaiUrl config.botaiExpert config.botaiTimeoutSeconds).2 with compatible := true }

/-- The expert of a configuration. -/
def configuredExpert (config : Config) : Bytes := if config.botaiExpert ≠ [] then config.botaiExpert else ascii "auto"

theorem startConfig_botai (startup : SessionConfig) (hpath : startup.configPath ≠ []) (text : Bytes) :
    LF ∉ (startConfig startup text).botaiUrl ∧ (startConfig startup text).botaiExpert.length ≤ 31 := by
  constructor
  · rcases configLoad_value_from _ hpath text (k := .BOTAI_URL) (by decide) with h | ⟨key, value, hline, h⟩
    · have hseed : (startConfig startup text).botaiUrl = [] := Val.text.inj h
      simp [hseed]
    · have hvalue : (startConfig startup text).botaiUrl = copyValue 256 value := (Val.text.inj (Option.some.inj h)).symm
      rw [hvalue]
      exact fun hmem => fileLines_noLf hline (List.mem_of_mem_take hmem)
  · rcases configLoad_value_from _ hpath text (k := .BOTAI_EXPERT) (by decide) with h | ⟨key, value, hline, h⟩
    · have hseed : (startConfig startup text).botaiExpert = ascii "auto" := Val.text.inj h
      rw [hseed]
      decide
    · have hvalue : (startConfig startup text).botaiExpert = copyValue 32 value := (Val.text.inj (Option.some.inj h)).symm
      rw [hvalue]
      exact List.length_take_le _ _

/-- The fields of the client that go into a request. -/
theorem compatibleBotai_fields {config : Config} (henabled : (compatibleBotai config).enabled = true)
    (hurl : LF ∉ config.botaiUrl) (hexpert : config.botaiExpert.length ≤ 31) :
    LF ∉ (compatibleBotai config).host ∧ LF ∉ (compatibleBotai config).path ∧
      (compatibleBotai config).expert = configuredExpert config := by
  have hrc : (botaiConfigure config.botaiUrl config.botaiExpert config.botaiTimeoutSeconds).1 = 0 := by
    by_contra hrc
    have hoff := botaiConfigure_disabled hrc
    exact absurd henabled (by simp [compatibleBotai, hoff])
  obtain ⟨host, portText, port, path, hparts, hb⟩ := parts_botaiConfigure hrc
  have hstate : compatibleBotai config =
      { configured host port path config.botaiExpert config.botaiTimeoutSeconds with compatible := true } := by
    rw [compatibleBotai, botaiConfigure_parts hparts hb]
  rw [hparts.url_eq] at hurl
  simp only [List.mem_append, not_or] at hurl
  rw [hstate]
  refine ⟨fun hmem => hurl.2.1.1 (List.mem_of_mem_take hmem), ?_, ?_⟩
  · intro hmem
    simp only [configured] at hmem
    split at hmem
    · exact hurl.2.2 hmem
    · simp at hmem
  · simp only [configured, configuredExpert]
    split
    · exact copyValue_of_short (by simp only [botaiExpertMax]; omega)
    · rfl

/-! ## What a chat sends -/

/-- The lengths of a header and of its body agree. -/
def LengthStated (request body : Bytes) : Prop :=
  ∃ before digits after, request = before ++ CRLF ++ ascii "Content-Length: " ++ digits ++ CRLF ++ after ++ body ∧
    (∀ d ∈ digits, isDigit d = true) ∧ digitsValue digits = body.length

theorem httpText_length (botai : BotAi) (body : Bytes) :
    LengthStated (httpText botai (ascii "POST") (ascii "/v1/chat") (some body)) body := by
  refine ⟨ascii "POST " ++ botai.path ++ ascii "/v1/chat HTTP/1.0" ++ CRLF ++ ascii "Host: " ++ botai.host ++ CRLF ++
    ascii "Content-Type: application/json", decimal body.length, ascii "Connection: close" ++ CRLF ++ CRLF, ?_,
    (decimal_value body.length).1, (decimal_value body.length).2⟩
  rw [httpText_lines]
  simp only [requestLines, List.flatMap_cons, List.flatMap_nil, List.append_assoc, List.append_nil]

variable {config : Config} {t : List Obs} {request : Bytes}

/-- The request a chat sends, with the body it writes. -/
theorem chat_request (hurl : LF ∉ config.botaiUrl) (hexpert : config.botaiExpert.length ≤ 31)
    (htrace : (botaiChat (compatibleBotai config) message replySize env w).2.trace = w.trace ++ t)
    (hsent : firstSent t = some request) :
    ∃ escaped, json.Spells escaped message ∧ (compatibleBotai config).expert = configuredExpert config ∧
      HeaderEnds request (chatBody (compatibleBotai config) escaped) ∧
      LengthStated request (chatBody (compatibleBotai config) escaped) := by
  obtain ⟨body, hbody, hprepare⟩ := botaiChat_sends htrace hsent
  have henabled : (compatibleBotai config).enabled = true := by
    by_contra hoff
    simp [httpPrepare, hoff] at hprepare
  obtain ⟨hhost, hpath, hexpert'⟩ := compatibleBotai_fields henabled hurl hexpert
  obtain ⟨rfl, -⟩ := httpPrepare_some hprepare
  unfold chatPrepare at hbody
  split at hbody
  · cases hbody
  · split at hbody
    · cases hbody
    · rename_i escaped hescaped
      obtain ⟨-, heq⟩ := Option.ite_none_right_eq_some.1 hbody
      obtain rfl := Option.some.inj heq
      exact ⟨escaped, jsonEscape_spells hescaped, hexpert', httpBody_iff.1 (httpBody_request hhost hpath),
        httpText_length _ _⟩

/-- The body of every request a chat sends has its length in the header, and
says what was meant exactly where the expert of the configuration needs no
escapes; what the message is makes no difference. -/
theorem chat_request_means_iff (startup : SessionConfig) (hpath : startup.configPath ≠ []) (text : Bytes)
    (htrace : (botaiChat (compatibleBotai (startConfig startup text)) message replySize env w).2.trace = w.trace ++ t)
    (hsent : firstSent t = some request) :
    ∃ body, HeaderEnds request body ∧ LengthStated request body ∧
      (BodyMeans body (configuredExpert (startConfig startup text)) message ↔
        ∀ c ∈ configuredExpert (startConfig startup text), 32 ≤ c ∧ c ≠ QUOTE ∧ c ≠ BACKSLASH) := by
  obtain ⟨hurl, hexpert⟩ := startConfig_botai startup hpath text
  obtain ⟨escaped, hescaped, hexpert', hbody, hlength⟩ := chat_request hurl hexpert htrace hsent
  refine ⟨_, hbody, hlength, ?_⟩
  rw [← hexpert']
  exact chatBody_means_iff hescaped

def startupFile : SessionConfig :=
  { host := [], port := 0, nick := [], user := [], pass := [], ownerNick := [], configPath := ascii "AmBot.conf" }

/-- A session with the file `text`, asked `hi` while the network takes everything. -/
def chatOnline (text : Bytes) : Except Halt (Int × Bytes) × World :=
  botaiChat (compatibleBotai (startConfig startupFile text)) (ascii "hi") 1025 (Env.replying [SP]) (worldInit configInit)

theorem chatOnline_trace (text : Bytes) :
    (chatOnline text).2.trace = (worldInit configInit).trace ++ (chatOnline text).2.trace := (List.nil_append _).symm

def plainExpertFile : Bytes := ascii "BOTAI_URL=http://ai\nBOTAI_EXPERT=amiga\n"

theorem chat_request_means_plain :
    ∃ request, firstSent (chatOnline plainExpertFile).2.trace = some request ∧
      ∃ body, HeaderEnds request body ∧ LengthStated request body ∧
        (BodyMeans body (configuredExpert (startConfig startupFile plainExpertFile)) (ascii "hi") ↔
          ∀ c ∈ configuredExpert (startConfig startupFile plainExpertFile), 32 ≤ c ∧ c ≠ QUOTE ∧ c ≠ BACKSLASH) := by
  have hsent : (firstSent (chatOnline plainExpertFile).2.trace).isSome = true := by decide +kernel
  obtain ⟨request, hrequest⟩ := Option.isSome_iff_exists.1 hsent
  exact ⟨request, hrequest, chat_request_means_iff startupFile (by decide) plainExpertFile (chatOnline_trace _) hrequest⟩

/-- An expert that closes its string and adds a member. -/
def quotedExpertFile : Bytes := ascii "BOTAI_URL=http://ai\nBOTAI_EXPERT=a\",\"role\":\"b\n"

theorem chat_request_means_other :
    ¬ ∀ (startup : SessionConfig) (text message : Bytes) (replySize : Nat) (env : Env) (w : World) (t : List Obs)
      (request : Bytes), startup.configPath ≠ [] →
      (botaiChat (compatibleBotai (startConfig startup text)) message replySize env w).2.trace = w.trace ++ t →
      firstSent t = some request →
      ∃ body, HeaderEnds request body ∧ BodyMeans body (configuredExpert (startConfig startup text)) message := by
  intro h
  have hsent : (firstSent (chatOnline quotedExpertFile).2.trace).isSome = true := by decide +kernel
  obtain ⟨request, hrequest⟩ := Option.isSome_iff_exists.1 hsent
  obtain ⟨body, hbody, hmeans⟩ := h startupFile quotedExpertFile (ascii "hi") 1025 (Env.replying [SP])
    (worldInit configInit) _ request (by decide) (chatOnline_trace _) hrequest
  obtain ⟨hurl, hexpert⟩ := startConfig_botai startupFile (by decide) quotedExpertFile
  obtain ⟨escaped, hescaped, hexpert', hbody', -⟩ := chat_request hurl hexpert (chatOnline_trace _) hrequest
  obtain rfl := Option.some.inj ((httpBody_iff.2 hbody).symm.trans (httpBody_iff.2 hbody'))
  rw [← hexpert'] at hmeans
  have hplain := (chatBody_means_iff hescaped).1 hmeans
  rw [hexpert'] at hplain
  have hquote : QUOTE ∈ configuredExpert (startConfig startupFile quotedExpertFile) := by decide +kernel
  exact (hplain QUOTE hquote).2.1 rfl

end AmBot
