import AmBot.Handshake
import AmBot.RunLib.Until
/-!
# The answer to CAP LS

After CAP LS 302 a server may give its capabilities on several lines, all but
the last marked with `*`. The handler decides on each line that it takes for
an answer by itself, and on the letters of sasl anywhere in it.
-/

namespace AmBot

open RunLib

/-- One line of the answer: the server's name, where it has a prefix, and the
capabilities on it. -/
structure CapLsLine where
  server : Option Bytes
  caps : List Bytes
  deriving DecidableEq, Repr

/-- The line as it is sent; `more` says that others follow. -/
def CapLsLine.text (l : CapLsLine) (more : Bool) : Bytes :=
  (match l.server with
    | some server => ascii ":" ++ server ++ ascii " "
    | none => []) ++
  ascii "CAP * LS " ++ ((if more then ascii "* :" else ascii ":") ++ [SP].intercalate l.caps)

/-- The whole answer. -/
def capLsReply (lines : List CapLsLine) (last : CapLsLine) : List Bytes :=
  lines.map (·.text true) ++ [last.text false]

/-- The token sasl, with or without a value. -/
def isSasl (cap : Bytes) : Bool := cap = ascii "sasl" || (ascii "sasl=").isPrefixOf cap

/-- sasl is in the list. -/
def offersSasl (lines : List CapLsLine) (last : CapLsLine) : Bool := (lines ++ [last]).any fun l => l.caps.any isSasl

/-- What the client says in an exchange. -/
def clientSaid (h : List Said) : List Bytes :=
  h.filterMap fun x => match x with
    | .client l => some l
    | .server _ => none

/-- CAP REQ is said once where sasl is offered and not at all otherwise, and
CAP END not after it. -/
def Understood (offered : Bool) (said : List Bytes) : Prop :=
  said.count capReq = (if offered then 1 else 0) ∧ Until (· = capReq) (fun _ => False) (· = capEnd) said

/-! ## What the handler makes of the answer -/

/-- The handler acts on the line. -/
def actedOn (line : Bytes) : Bool := isCapLs line || containsToken line " 903 " || isSaslFailure line

/-- The line has a CAP LS and the letters of sasl. -/
def asksSasl (line : Bytes) : Bool := isCapLs line && containsToken line "sasl"

/-- The client's answers to the lines it acts on. -/
def answersTo : List Bytes → List Bytes
  | [] => []
  | line :: lines => if asksSasl line then capReq :: answersTo lines else [capEnd]

/-- The lines it acts on are one that asks for sasl where sasl is offered, and
do not start with such a line otherwise. -/
def Recognised (offered : Bool) (acted : List Bytes) : Prop :=
  if offered then ∃ line, acted = [line] ∧ asksSasl line = true else ∀ line ∈ acted.head?, asksSasl line = false

theorem understood_iff (offered : Bool) (acted : List Bytes) :
    Understood offered (capLs :: answersTo acted) ↔ Recognised offered acted := by
  have hls : capLs ≠ capReq := by decide
  unfold Understood Recognised
  cases acted with
  | nil =>
    have hnone : Until (· = capReq) (fun _ => False) (· = capEnd) [capLs] := by decide
    cases offered <;> simp [answersTo, hls, hnone]
  | cons line rest =>
    cases hasks : asksSasl line with
    | false =>
      have hended : Until (· = capReq) (fun _ => False) (· = capEnd) [capLs, capEnd] := by decide
      have hend : capEnd ≠ capReq := by decide
      cases offered <;> simp [answersTo, hasks, hls, hend, hended]
    | true =>
      cases offered with
      | false => simp [answersTo, hasks, hls]
      | true =>
        cases rest with
        | nil =>
          have hasked : Until (· = capReq) (fun _ => False) (· = capEnd) [capLs, capReq] := by decide
          simp [answersTo, hasks, hls, hasked]
        | cons line' rest =>
          -- a second line is answered with another CAP REQ or with CAP END
          have hsecond : ¬ (∃ l, line :: line' :: rest = [l] ∧ asksSasl l = true) := by simp
          simp only [if_true, hsecond, iff_false, not_and]
          intro hcount huntil
          cases hasks' : asksSasl line' with
          | true => simp [answersTo, hasks, hasks', hls] at hcount
          | false =>
            simp only [answersTo, hasks, hasks', if_true, Bool.false_eq_true, if_false] at huntil
            exact huntil [capLs, capReq] capEnd [] rfl rfl ⟨[capLs], capReq, [], rfl, rfl, by simp⟩

section
variable {config : NetworkConfig} {state : ModernIrc}

theorem text_tokens (l : CapLsLine) (more : Bool) :
    containsToken (l.text more) " LS " = true ∧ (ascii "AUTHENTICATE +").isPrefixOf (l.text more) = false := by
  constructor
  · refine (strstr_isSome _ _).2 ?_
    have hls : ascii " LS " <:+: ascii "CAP * LS " := by decide
    exact hls.trans (List.infix_append_iff.2 (.inl (List.suffix_append _ _).isInfix))
  · unfold CapLsLine.text
    cases l.server <;> rfl

/-- A line of the answer is taken for a CAP LS or a numeric, or for nothing. -/
theorem reading_text (hopen : state.capActive = true ∧ state.capEnded = false) (hplain : config.saslPlain = true)
    {line : Bytes} (hline : containsToken line " LS " = true ∧ (ascii "AUTHENTICATE +").isPrefixOf line = false) :
    reading config state line =
      if asksSasl line then .offer
      else if isCapLs line then .refusal
      else if containsToken line " 903 " then .success
      else if isSaslFailure line then .failure
      else .nothing := by
  unfold reading asksSasl
  simp only [hopen, hplain, hline, Bool.not_true, Bool.or_self, Bool.true_and, Bool.and_false, Bool.false_eq_true, if_false]
  cases hls : isCapLs line with
  | true => simp
  | false =>
    -- without ` CAP ` the line is no CAP ACK either
    have hcap : containsToken line " CAP " = false := by simpa [isCapLs, hline] using hls
    simp [isCapAck, hcap]

theorem clientSaid_closed (h : state.capActive = false ∨ state.capEnded = true) (lines : List Bytes) :
    clientSaid (dialogue config state lines) = [] := by
  induction lines with
  | nil => rfl
  | cons line lines ih =>
    rw [dialogue, reading_closed h]
    simpa [clientSaid, Reading.reply, Reading.sends, Reading.next] using ih

theorem clientSaid_dialogue (hopen : state.capActive = true ∧ state.capEnded = false) (hplain : config.saslPlain = true)
    {lines : List Bytes} (hlines : ∀ line ∈ lines, containsToken line " LS " = true ∧
      (ascii "AUTHENTICATE +").isPrefixOf line = false) :
    clientSaid (dialogue config state lines) = answersTo (lines.filter actedOn) := by
  induction lines generalizing state with
  | nil => rfl
  | cons line lines ih =>
    have hrest : ∀ line ∈ lines, containsToken line " LS " = true ∧ (ascii "AUTHENTICATE +").isPrefixOf line = false :=
      fun line hline => hlines line (List.mem_cons_of_mem _ hline)
    have hreading := reading_text hopen hplain (hlines line List.mem_cons_self)
    have hsplit (r : Reading) : clientSaid (.server line :: r.reply config ++ dialogue config (r.next state) lines) =
        (r.sends config).toList ++ clientSaid (dialogue config (r.next state) lines) := by
      cases h : r.sends config <;> simp [clientSaid, Reading.reply, h]
    have hended (r : Reading) (h : (r.next state).capEnded = true) :
        clientSaid (dialogue config (r.next state) lines) = [] := clientSaid_closed (.inr h) lines
    rw [dialogue, hsplit, hreading]
    -- one case for each reading; the negotiation goes on after an offer and after nothing
    cases hasks : asksSasl line with
    | true =>
      have hacted : actedOn line = true := by
        simp only [asksSasl, Bool.and_eq_true] at hasks
        simp [actedOn, hasks.1]
      rw [List.filter_cons_of_pos hacted]
      have hafter : clientSaid (dialogue config (Reading.next state .offer) lines) = answersTo (lines.filter actedOn) :=
        ih hopen hrest
      simpa [answersTo, hasks, Reading.sends] using hafter
    | false =>
      simp only [Bool.false_eq_true, if_false]
      by_cases hacted : actedOn line = true
      · rw [List.filter_cons_of_pos hacted]
        have hanswer : answersTo (line :: lines.filter actedOn) = [capEnd] := by simp [answersTo, hasks]
        rw [hanswer]
        simp only [actedOn, Bool.or_eq_true] at hacted
        split_ifs with hls hdone hfailed
        · rw [hended _ rfl]
          rfl
        · rw [hended _ rfl]
          rfl
        · rw [hended _ rfl]
          rfl
        · exact absurd hacted (by simp [hls, hdone, hfailed])
      · rw [List.filter_cons_of_neg hacted]
        simp only [actedOn, Bool.or_eq_true, not_or, Bool.not_eq_true] at hacted
        have hafter : clientSaid (dialogue config (Reading.next state .nothing) lines) = answersTo (lines.filter actedOn) :=
          ih hopen hrest
        simpa [hacted, Reading.sends] using hafter

end

/-- With SASL PLAIN configured, the answer to CAP LS is understood exactly where
the lines that the handler acts on are one with a CAP LS and the letters of
sasl, if sasl is offered, and do not start with such a line otherwise. -/
theorem negotiation_understands_iff (sock : Int) {config : NetworkConfig} (hcap : config.capEnabled = true)
    (hplain : config.saslPlain = true) (lines : List CapLsLine) (last : CapLsLine) (env : Env) (w : World) :
    ∃ state w' t, negotiation sock config (capLsReply lines last) env w = (.ok state, w') ∧ w'.trace = w.trace ++ t ∧
      (Understood (offersSasl lines last) (clientSaid (said config t)) ↔
        Recognised (offersSasl lines last) ((capLsReply lines last).filter actedOn)) := by
  obtain ⟨w', t, hr, ht, -, hsaid⟩ := negotiation_trace config (capLsReply lines last) sock env w
  refine ⟨_, w', t, hr, ht, ?_⟩
  have htokens : ∀ line ∈ capLsReply lines last, containsToken line " LS " = true ∧
      (ascii "AUTHENTICATE +").isPrefixOf line = false := by
    intro line hline
    rcases List.mem_append.1 hline with hline | hline
    · obtain ⟨l, -, rfl⟩ := List.mem_map.1 hline
      exact text_tokens l true
    · rw [List.mem_singleton.1 hline]
      exact text_tokens last false
  have hclient : clientSaid (said config t) = capLs :: answersTo ((capLsReply lines last).filter actedOn) := by
    have hdialogue : clientSaid (dialogue config (started config) (capLsReply lines last)) =
        answersTo ((capLsReply lines last).filter actedOn) := clientSaid_dialogue ⟨hcap, rfl⟩ hplain htokens
    rw [hsaid, history, opening, if_pos hcap, ← hdialogue]
    rfl
  rw [hclient]
  exact understood_iff _ _

/-- sasl with a value, on one line from a server with a name. -/
theorem negotiation_understands_one_line :
    let last : CapLsLine := { server := some (ascii "irc"), caps := [ascii "multi-prefix", ascii "sasl=PLAIN"] }
    ∃ state w' t, negotiation 3 saslNetwork (capLsReply [] last) Env.online (worldInit configInit) = (.ok state, w') ∧
      w'.trace = (worldInit configInit).trace ++ t ∧ Understood true (clientSaid (said saslNetwork t)) := by
  have hcap : saslNetwork.capEnabled = true := rfl
  obtain ⟨state, w', t, hr, ht, hunderstood⟩ := negotiation_understands_iff 3 hcap rfl []
    { server := some (ascii "irc"), caps := [ascii "multi-prefix", ascii "sasl=PLAIN"] } Env.online (worldInit configInit)
  exact ⟨state, w', t, hr, ht, hunderstood.2 ⟨_, rfl, by decide +kernel⟩⟩

/-- The same list on two lines ends the negotiation while the request is open;
a capability with the letters of sasl in its name is asked for; and without
the name of the server nothing is. -/
theorem negotiation_misunderstands :
    let understood (lines : List CapLsLine) (last : CapLsLine) := Understood (offersSasl lines last) (clientSaid
      (said saslNetwork (negotiation 3 saslNetwork (capLsReply lines last) Env.online (worldInit configInit)).2.trace))
    let irc := some (ascii "irc")
    ¬ understood [⟨irc, [ascii "sasl=PLAIN"]⟩] ⟨irc, [ascii "multi-prefix"]⟩ ∧
    ¬ understood [] ⟨irc, [ascii "x-nosasl"]⟩ ∧ ¬ understood [] ⟨none, [ascii "sasl"]⟩ := by
  unfold Understood
  decide +kernel

end AmBot
