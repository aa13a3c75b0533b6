import AmBot.Handshake
import AmBot.RunLib.Until
/-!
# The order of a SASL exchange

What the server's lines mean is read off their words, `concludes`; what the
handler takes them for is `reading`. The steps of the exchange come in their
order, and none of the server's final answers is passed over, where the two
agree.
-/

namespace AmBot

open RunLib RunLib.Prog

/-! ## The server's answers -/

/-- The words of `p`; one that starts with `:` takes the rest of the line. -/
def ircParams : Nat → Bytes → List Bytes
  | 0, _ => []
  | n + 1, p =>
    match skipBlanks p with
    | [] => []
    | 58 :: t => [t]
    | t => upTo SP t :: ircParams n (t.drop (upTo SP t).length)

/-- The command of a line and its parameters. -/
def ircWords (line : Bytes) : List Bytes :=
  match line with
  | 58 :: p => ircParams line.length (p.drop (upTo SP p).length)
  | p => ircParams p.length p

/-- The server's answers that conclude a request of the client. -/
inductive Conclusion where
  | ack
  | nak
  | challenge
  | success
  | failure
  deriving DecidableEq, Repr

/-- The answer to CAP REQ, where it names sasl. -/
def capConclusion (params : List Bytes) : Option Conclusion :=
  match params with
  | [_, answer, caps] =>
    if !(caps.splitOn SP).contains (ascii "sasl") then none
    else if answer = ascii "ACK" then some .ack
    else if answer = ascii "NAK" then some .nak
    else none
  | _ => none

def concludes (line : Bytes) : Option Conclusion :=
  match ircWords line with
  | [] => none
  | command :: params =>
    if command = ascii "CAP" then capConclusion params
    else if command = ascii "AUTHENTICATE" then (if params = [ascii "+"] then some .challenge else none)
    else if command = ascii "903" then some .success
    else if [ascii "902", ascii "904", ascii "905", ascii "906", ascii "907"].contains command then some .failure
    else none

def Said.concludes (k : Conclusion) : Said → Bool
  | .server line => AmBot.concludes line = some k
  | .client _ => false

/-! ## The order of the steps -/

/-- AUTHENTICATE PLAIN follows a CAP ACK that follows the CAP REQ, the
credentials follow AUTHENTICATE PLAIN and are said once, and the exchange is
complete only once a 903 has followed them. -/
structure SaslOrder (config : NetworkConfig) (complete : Bool) (h : List Said) : Prop where
  plain : Lawful (fun before x => x = .client authPlain →
    After (· = .client capReq) (·.concludes .ack) before) h
  payload : ∀ payload ∈ payloadLine config, Lawful (fun before x => x = .client payload →
    .client authPlain ∈ before ∧ .client payload ∉ before) h
  complete : complete = true → ∃ payload ∈ payloadLine config,
    After (· = .client payload) (·.concludes .success) h

theorem saslOrder_and {config : NetworkConfig} {complete : Bool} {h : List Said} : SaslOrder config complete h ↔
    Lawful (fun before x => x = .client authPlain → After (· = .client capReq) (·.concludes .ack) before) h ∧
    (∀ payload ∈ payloadLine config, Lawful (fun before x => x = .client payload →
      .client authPlain ∈ before ∧ .client payload ∉ before) h) ∧
    (complete = true → ∃ payload ∈ payloadLine config, After (· = .client payload) (·.concludes .success) h) :=
  ⟨fun ⟨h₁, h₂, h₃⟩ => ⟨h₁, h₂, h₃⟩, fun ⟨h₁, h₂, h₃⟩ => ⟨h₁, h₂, h₃⟩⟩

instance {config : NetworkConfig} {complete : Bool} {h : List Said} : Decidable (SaslOrder config complete h) :=
  decidable_of_iff' _ saslOrder_and

/-- A line that the handler takes for a step is that step, and in its place. -/
def InOrder (config : NetworkConfig) (before : List Said) (line : Bytes) : Reading → Prop
  | .ack => concludes line = some .ack ∨ After (· = .client capReq) (·.concludes .ack) before
  | .challenge => ∀ payload ∈ payloadLine config, .client authPlain ∈ before ∧ .client payload ∉ before
  | .success => ∃ payload ∈ payloadLine config, (concludes line = some .success ∧ .client payload ∈ before) ∨
      After (· = .client payload) (·.concludes .success) before
  | .offer | .refusal | .failure | .nothing => True

section
variable {config : NetworkConfig} {lines : List Bytes} {line : Bytes}

/-- What a line of the client must follow, where an answer is at most one line. -/
theorem lawful_reply {l : Bytes} {R : List Said → Prop} {h : List Said} (r : Reading) :
    Lawful (fun before x => x = .client l → R before) (h ++ .server line :: r.reply config) ↔
      Lawful (fun before x => x = .client l → R before) h ∧
        (r.sends config = some l → R (h ++ [.server line])) := by
  unfold Reading.reply
  cases hsends : r.sends config with
  | none => simp [lawful_snoc]
  | some m =>
    have hsplit : h ++ Said.server line :: List.map Said.client (some m).toList =
        (h ++ [.server line]) ++ [.client m] := by simp
    rw [hsplit, lawful_snoc, lawful_snoc]
    simp

/-- Only a client that has asked for sasl takes a line for a CAP ACK. -/
theorem requested_of_ack {state : ModernIrc} (h : reading config state line = .ack) : state.saslRequested = true := by
  unfold reading isCapAck at h
  cases hrequested : state.saslRequested with
  | true => rfl
  | false =>
    simp only [hrequested, Bool.false_and, Bool.false_eq_true, if_false] at h
    split_ifs at h

theorem capReq_said (h : (reached config lines).saslRequested = true) : .client capReq ∈ history config lines := by
  induction lines using List.reverseRecOn with
  | nil => cases h
  | append_singleton lines line ih =>
    rw [reached_snoc] at h
    rw [history_snoc]
    generalize reading config (reached config lines) line = r at h ⊢
    cases r with
    | offer => simp [Reading.reply, Reading.sends]
    | refusal => exact List.mem_append_left _ (ih h)
    | ack => exact List.mem_append_left _ (ih h)
    | challenge => exact List.mem_append_left _ (ih h)
    | success => exact List.mem_append_left _ (ih h)
    | failure => exact List.mem_append_left _ (ih h)
    | nothing => exact List.mem_append_left _ (ih h)

theorem ack_of_sends {r : Reading} (h : r.sends config = some authPlain) : r = .ack := by
  cases r with
  | ack => rfl
  | challenge => exact absurd (by simp) (payloadLine_ne h)
  | offer => exact absurd (Option.some.inj h) (by decide)
  | refusal => exact absurd (Option.some.inj h) (by decide)
  | success => exact absurd (Option.some.inj h) (by decide)
  | failure => exact absurd (Option.some.inj h) (by decide)
  | nothing => cases h

theorem challenge_of_sends {r : Reading} {payload : Bytes} (hp : payload ∈ payloadLine config)
    (h : r.sends config = some payload) : r = .challenge := by
  have hne := payloadLine_ne hp
  cases r with
  | challenge => rfl
  | nothing => cases h
  | offer => exact absurd (Option.some.inj h ▸ (by simp)) hne
  | refusal => exact absurd (Option.some.inj h ▸ (by simp)) hne
  | ack => exact absurd (Option.some.inj h ▸ (by simp)) hne
  | success => exact absurd (Option.some.inj h ▸ (by simp)) hne
  | failure => exact absurd (Option.some.inj h ▸ (by simp)) hne

/-- Only a 903 completes the exchange. -/
theorem next_complete {state : ModernIrc} {r : Reading} (hr : r ≠ .success) :
    (r.next state).saslComplete = state.saslComplete := by
  cases r <;> first | rfl | exact absurd rfl hr

/-- A 903 is answered with CAP END. -/
theorem reply_success (h : List Said) : h ++ .server line :: Reading.reply config .success =
    (h ++ [.server line]) ++ [.client capEnd] := by
  simp [Reading.reply, Reading.sends]

theorem inOrder_of_saslOrder
    (h : SaslOrder config (reached config (lines ++ [line])).saslComplete (history config (lines ++ [line]))) :
    InOrder config (history config lines) line (reading config (reached config lines) line) := by
  rw [reached_snoc, history_snoc] at h
  obtain ⟨hplain, hpayload, hcomplete⟩ := h
  generalize reading config (reached config lines) line = r at hplain hpayload hcomplete ⊢
  cases r with
  | ack =>
    rcases after_snoc.1 ((lawful_reply _).1 hplain |>.2 rfl) with hafter | ⟨hline, -⟩
    · exact .inr hafter
    · exact .inl (of_decide_eq_true hline)
  | challenge =>
    intro payload hp
    simpa using (lawful_reply _).1 (hpayload payload hp) |>.2 hp
  | success =>
    obtain ⟨payload, hp, hafter⟩ := hcomplete rfl
    refine ⟨payload, hp, ?_⟩
    rw [reply_success] at hafter
    rcases after_snoc.1 hafter with hafter | ⟨hline, -⟩
    · rcases after_snoc.1 hafter with hafter | ⟨hline, x, hx, rfl⟩
      · exact .inr hafter
      · exact .inl ⟨of_decide_eq_true hline, hx⟩
    · cases hline
  | offer => trivial
  | refusal => trivial
  | failure => trivial
  | nothing => trivial

/-- The exchange is completed by a 903 in its place, or has been before. -/
theorem complete_snoc (h : SaslOrder config (reached config lines).saslComplete (history config lines))
    (horder : InOrder config (history config lines) line (reading config (reached config lines) line))
    (hcomplete : (reached config (lines ++ [line])).saslComplete = true) :
    ∃ payload ∈ payloadLine config,
      After (· = .client payload) (·.concludes .success) (history config (lines ++ [line])) := by
  rw [reached_snoc] at hcomplete
  rw [history_snoc]
  by_cases hr : reading config (reached config lines) line = .success
  · rw [hr] at horder
    obtain ⟨payload, hp, ⟨hline, hmem⟩ | hafter⟩ := horder
    · have hafter : After (· = .client payload) (·.concludes .success) (history config lines ++ [.server line]) :=
        after_snoc.2 (.inr ⟨decide_eq_true hline, _, hmem, rfl⟩)
      refine ⟨payload, hp, ?_⟩
      rw [hr, reply_success]
      exact hafter.append _
    · exact ⟨payload, hp, hafter.append _⟩
  · rw [next_complete hr] at hcomplete
    obtain ⟨payload, hp, hafter⟩ := h.complete hcomplete
    exact ⟨payload, hp, hafter.append _⟩

/-- A line keeps the order exactly where it is in order. -/
theorem saslOrder_snoc (h : SaslOrder config (reached config lines).saslComplete (history config lines)) :
    SaslOrder config (reached config (lines ++ [line])).saslComplete (history config (lines ++ [line])) ↔
      InOrder config (history config lines) line (reading config (reached config lines) line) := by
  refine ⟨inOrder_of_saslOrder, fun horder => ⟨?_, fun payload hp => ?_, complete_snoc h horder⟩⟩
  · rw [history_snoc]
    refine (lawful_reply _).2 ⟨h.plain, fun hsends => ?_⟩
    have hack := ack_of_sends hsends
    rw [hack] at horder
    rcases horder with hline | hafter
    · exact after_snoc.2 (.inr ⟨decide_eq_true hline, _, capReq_said (requested_of_ack hack), rfl⟩)
    · exact hafter.append _
  · rw [history_snoc]
    refine (lawful_reply _).2 ⟨h.payload payload hp, fun hsends => ?_⟩
    rw [challenge_of_sends hp hsends] at horder
    simpa using horder payload hp

theorem saslOrder_nil : SaslOrder config (reached config []).saslComplete (history config []) := by
  have hopening : ∀ x ∈ opening config, x = .client capLs := by
    unfold opening
    split <;> simp
  have hfirst {l : Bytes} {R : List Said → Prop} (hl : l ≠ capLs) :
      Lawful (fun before x => x = .client l → R before) (history config []) := by
    intro before x after h hx
    have hmem : x ∈ opening config := by
      rw [← history_nil config, h]
      simp
    rw [hx] at hmem
    exact absurd (Said.client.inj (hopening _ hmem)) hl
  refine ⟨hfirst (by decide), fun payload hp => hfirst fun heq => ?_, nofun⟩
  exact payloadLine_ne hp (by simp [heq])

/-- After every part of the lines the steps are in order exactly where each
line is in order after those before it. -/
theorem saslOrder_iff : (∀ handled, handled <+: lines →
      SaslOrder config (reached config handled).saslComplete (history config handled)) ↔
    Lawful (fun before line => InOrder config (history config before) line
      (reading config (reached config before) line)) lines := by
  induction lines using List.reverseRecOn with
  | nil =>
    refine ⟨fun _ => lawful_nil, fun _ handled h => ?_⟩
    rw [List.prefix_nil.1 h]
    exact saslOrder_nil
  | append_singleton lines line ih =>
    rw [lawful_snoc, ← ih]
    constructor
    · intro h
      have hbefore := h lines (List.prefix_append _ _)
      exact ⟨fun handled hpre => h handled (hpre.trans (List.prefix_append _ _)),
        (saslOrder_snoc hbefore).1 (h _ List.prefix_rfl)⟩
    · rintro ⟨h, horder⟩ handled hpre
      rcases List.prefix_concat_iff.1 hpre with rfl | hpre
      · exact (saslOrder_snoc (h lines List.prefix_rfl)).2 horder
      · exact h handled hpre

end

/-- The steps of a negotiation come in their order, at every point of it,
exactly where each line that the handler takes for a step is that step and in
its place. -/
theorem negotiation_order_iff (sock : Int) (config : NetworkConfig) (lines : List Bytes) :
    (∀ handled, handled <+: lines → ∀ env w, ∃ state w' t, negotiation sock config handled env w = (.ok state, w') ∧
      w'.trace = w.trace ++ t ∧ SaslOrder config state.saslComplete (said config t)) ↔
    ∀ before line after, lines = before ++ line :: after →
      InOrder config (history config before) line (reading config (reached config before) line) := by
  refine Iff.trans ?_ saslOrder_iff
  refine forall₂_congr fun handled _ => ?_
  constructor
  · intro h
    obtain ⟨state, w', t, hr, ht, horder⟩ := h Env.silent (worldInit configInit)
    obtain ⟨w'', t', hr', ht', -, hsaid⟩ := negotiation_trace config handled sock Env.silent (worldInit configInit)
    rw [hr] at hr'
    cases hr'
    rw [ht] at ht'
    rw [List.append_cancel_left ht', hsaid] at horder
    exact horder
  · intro h env w
    obtain ⟨w', t, hr, ht, -, hsaid⟩ := negotiation_trace config handled sock env w
    refine ⟨_, w', t, hr, ht, ?_⟩
    rw [hsaid]
    exact h

/-- A message with the words of a CAP ACK gets AUTHENTICATE PLAIN; a challenge
nobody asked for gets the credentials; a 903 out of nowhere completes. -/
theorem negotiation_out_of_order :
    let run (lines : List String) := negotiation 3 saslNetwork (lines.map ascii) Env.online (worldInit configInit)
    ¬ SaslOrder saslNetwork false (said saslNetwork
      (run [":irc CAP * LS :sasl", ":n!u@h PRIVMSG #c :a CAP b ACK c sasl"]).2.trace) ∧
    ¬ SaslOrder saslNetwork false (said saslNetwork (run [":irc CAP * LS :sasl", "AUTHENTICATE +"]).2.trace) ∧
    (run [":irc 903 bot :done"]).1.map (·.saslComplete) = .ok true ∧
    ¬ SaslOrder saslNetwork true (said saslNetwork (run [":irc 903 bot :done"]).2.trace) := by
  have hrun (lines : List String) :=
    negotiation_said saslNetwork (lines.map ascii) 3 Env.online configInit
  have hack : ¬ SaslOrder saslNetwork false
      (history saslNetwork ([":irc CAP * LS :sasl", ":n!u@h PRIVMSG #c :a CAP b ACK c sasl"].map ascii)) := by decide
  have hchallenge : ¬ SaslOrder saslNetwork false
      (history saslNetwork ([":irc CAP * LS :sasl", "AUTHENTICATE +"].map ascii)) := by decide
  have hcomplete : (reached saslNetwork ([":irc 903 bot :done"].map ascii)).saslComplete = true := by decide
  have hdone : ¬ SaslOrder saslNetwork true (history saslNetwork ([":irc 903 bot :done"].map ascii)) := by decide
  dsimp only
  rw [(hrun _).2, (hrun _).2, (hrun _).2, (hrun _).1]
  exact ⟨hack, hchallenge, congrArg Except.ok hcomplete, hdone⟩

/-! ## No answer is passed over -/

/-- The client's line after a conclusion. -/
def Conclusion.calls (config : NetworkConfig) : Conclusion → Option Bytes
  | .ack => some authPlain
  | .challenge => payloadLine config
  | .nak | .success | .failure => some capEnd

/-- The handler goes on with the line: it returns failure, or sends what the
conclusion calls for or CAP END. -/
def GoesOn (sock : Int) (config : NetworkConfig) (state : ModernIrc) (line : Bytes) (k : Conclusion) : Prop :=
  ∀ env w, ∃ rc state' w' t, modernIrcHandleLine sock config state line env w = (.ok (rc, state'), w') ∧
    w'.trace = w.trace ++ t ∧ (rc ≠ 0 ∨ ∃ next, (k.calls config = some next ∨ next = capEnd) ∧
      t.any (·.begins next) = true)

/-- The conclusion is taken for what it is, or for an end of the negotiation. -/
def Heard (r : Reading) (k : Conclusion) : Prop :=
  r ∈ [.refusal, .success, .failure] ∨ (k = .ack ∧ r = .ack) ∨ (k = .challenge ∧ r = .challenge)

/-- The handler's run on one line, with what it adds to the trace. -/
theorem modernIrcHandleLine_run (sock : Int) (config : NetworkConfig) (state : ModernIrc) (line : Bytes) (env : Env)
    (w : World) : ∃ rc w' t, modernIrcHandleLine sock config state line env w =
        (.ok (rc, (reading config state line).next state), w') ∧
      w'.trace = w.trace ++ t ∧ said config t = (reading config state line).reply config ∧
      ((reading config state line).fails config = true → rc = -1) := by
  obtain ⟨p, w', hr, ⟨hnext, hfails⟩, hsaid⟩ := @modernIrcHandleLine_utters config sock state line env w
  obtain ⟨rc, next⟩ := p
  obtain ⟨t, ht, -⟩ := (modernIrcHandleLine_keeps sock config state line env w).logs
  cases hnext
  have htrace : w'.trace = w.trace ++ t := by rwa [hr] at ht
  refine ⟨rc, w', t, hr, htrace, ?_, hfails⟩
  simp only [htrace, said, List.filterMap_append] at hsaid
  exact List.append_cancel_left hsaid

theorem begins_iff_said {config : NetworkConfig} {l : Bytes} (hl : l ∈ clientLines config) {t : List Obs} :
    t.any (·.begins l) = true ↔ .client l ∈ said config t := by
  rw [← List.count_pos_iff, ← countP_begins hl, List.countP_pos_iff, List.any_eq_true]

/-- Where every send takes something, only a reading that fails is answered
with a failure. -/
theorem modernIrcHandleLine_online (sock : Int) {config : NetworkConfig} {state : ModernIrc} {line : Bytes}
    (h : (reading config state line).fails config = false) (w : World) :
    ∃ w', modernIrcHandleLine sock config state line Env.online w =
      (.ok (0, (reading config state line).next state), w') := by
  rw [modernIrcHandleLine_eq]
  generalize reading config state line = r at h ⊢
  unfold carryOut
  cases hsends : r.sends config with
  | none =>
    refine ⟨w, ?_⟩
    simp [h, bind_run]
  | some l =>
    obtain ⟨w', hsend⟩ := ircSendLine_online online_sends sock l w
    refine ⟨w', ?_⟩
    simp only
    rw [bind_ok hsend, h]
    rfl

/-- A line that starts with a challenge concludes nothing else. -/
theorem concludes_challenge {line : Bytes} {k : Conclusion} (hline : (ascii "AUTHENTICATE +").isPrefixOf line)
    (hk : concludes line = some k) : k = .challenge := by
  obtain ⟨rest, rfl⟩ := List.isPrefixOf_iff_prefix.1 hline
  obtain ⟨params, hwords⟩ : ∃ params, ircWords (ascii "AUTHENTICATE +" ++ rest) = ascii "AUTHENTICATE" :: params :=
    ⟨_, rfl⟩
  have hcap : ascii "AUTHENTICATE" ≠ ascii "CAP" := by decide
  simp only [concludes, hwords, hcap, if_true, if_false, Option.ite_none_right_eq_some, Option.some.injEq] at hk
  exact hk.2.symm

theorem starts_of_challenge {config : NetworkConfig} {state : ModernIrc} {line : Bytes}
    (h : reading config state line = .challenge) : (ascii "AUTHENTICATE +").isPrefixOf line = true := by
  unfold reading at h
  split_ifs at h with _ _ _ _ hprefix
  exact (Bool.and_eq_true _ _ ▸ hprefix).2

theorem Conclusion.calls_mem {config : NetworkConfig} {k : Conclusion} {next : Bytes}
    (h : k.calls config = some next ∨ next = capEnd) : next ∈ clientLines config := by
  rcases h with h | rfl
  · cases k <;> simp_all [Conclusion.calls, clientLines]
  · simp [clientLines]

/-- Nothing but an ACK calls for AUTHENTICATE PLAIN. -/
theorem Conclusion.ack_of_calls {config : NetworkConfig} {k : Conclusion} (h : k.calls config = some authPlain) :
    k = .ack := by
  have hne : capEnd ≠ authPlain := by decide
  cases k with
  | ack => rfl
  | challenge => exact absurd (by simp) (payloadLine_ne h)
  | nak => exact absurd (Option.some.inj h) hne
  | success => exact absurd (Option.some.inj h) hne
  | failure => exact absurd (Option.some.inj h) hne

/-- No conclusion calls for another CAP REQ. -/
theorem Conclusion.calls_ne_capReq {config : NetworkConfig} {k : Conclusion} : k.calls config ≠ some capReq := by
  intro h
  have hne : capEnd ≠ capReq := by decide
  cases k with
  | ack => exact absurd (Option.some.inj h) (by decide)
  | challenge => exact absurd (by simp) (payloadLine_ne h)
  | nak => exact absurd (Option.some.inj h) hne
  | success => exact absurd (Option.some.inj h) hne
  | failure => exact absurd (Option.some.inj h) hne

/-- What goes on with a conclusion is the right step. -/
theorem heard_of_sends {config : NetworkConfig} {state : ModernIrc} {line next : Bytes} {k : Conclusion}
    (hk : concludes line = some k) (hnext : k.calls config = some next ∨ next = capEnd)
    (hsends : (reading config state line).sends config = some next) : Heard (reading config state line) k := by
  cases hr : reading config state line with
  | refusal => exact .inl (by simp)
  | success => exact .inl (by simp)
  | failure => exact .inl (by simp)
  | challenge => exact .inr (.inr ⟨concludes_challenge (starts_of_challenge hr) hk, rfl⟩)
  | nothing => simp [hr, Reading.sends] at hsends
  | ack =>
    rw [hr] at hsends
    obtain rfl : authPlain = next := Option.some.inj hsends
    rcases hnext with hcalls | hend
    · exact .inr (.inl ⟨Conclusion.ack_of_calls hcalls, rfl⟩)
    · exact absurd hend (by decide)
  | offer =>
    rw [hr] at hsends
    obtain rfl : capReq = next := Option.some.inj hsends
    rcases hnext with hcalls | hend
    · exact absurd hcalls Conclusion.calls_ne_capReq
    · exact absurd hend (by decide)

section
variable {sock : Int} {config : NetworkConfig} {state : ModernIrc} {line : Bytes} {k : Conclusion}

/-- With an outside that takes everything the handler fails or sends a line. -/
theorem heard_of_goesOn (h : concludes line = some k) (hgoes : GoesOn sock config state line k) :
    Heard (reading config state line) k := by
  cases hfails : (reading config state line).fails config with
  | true =>
    cases hr : reading config state line with
    | failure => exact .inl (by simp)
    | challenge => exact .inr (.inr ⟨concludes_challenge (starts_of_challenge hr) h, rfl⟩)
    | _ => rw [hr] at hfails; cases hfails
  | false =>
    obtain ⟨rc, state', w', t, hr, ht, hout⟩ := hgoes Env.online (worldInit configInit)
    obtain ⟨rc', w'', t', hr', ht', hsaid, -⟩ :=
      modernIrcHandleLine_run sock config state line Env.online (worldInit configInit)
    obtain ⟨w₀, hzero⟩ := modernIrcHandleLine_online sock hfails (worldInit configInit)
    rw [hr] at hr' hzero
    cases hr'
    cases hzero
    rw [ht] at ht'
    cases List.append_cancel_left ht'
    obtain ⟨next, hnext, hbegins⟩ := hout.resolve_left (not_not.2 rfl)
    rw [begins_iff_said (Conclusion.calls_mem hnext), hsaid] at hbegins
    refine heard_of_sends h hnext ?_
    simpa [Reading.reply] using hbegins

theorem goesOn_of_heard (hheard : Heard (reading config state line) k) : GoesOn sock config state line k := by
  intro env w
  obtain ⟨rc, w', t, hr, ht, hsaid, hfails⟩ := modernIrcHandleLine_run sock config state line env w
  refine ⟨rc, _, w', t, hr, ht, ?_⟩
  have begun {next : Bytes} (hnext : k.calls config = some next ∨ next = capEnd)
      (hsends : (reading config state line).sends config = some next) : t.any (·.begins next) = true := by
    rw [begins_iff_said (Conclusion.calls_mem hnext), hsaid]
    simp [Reading.reply, hsends]
  rcases hheard with hended | ⟨rfl, hack⟩ | ⟨rfl, hchallenge⟩
  · refine .inr ⟨capEnd, .inr rfl, begun (.inr rfl) ?_⟩
    simp only [List.mem_cons, List.not_mem_nil, or_false] at hended
    rcases hended with hended | hended | hended <;> rw [hended] <;> rfl
  · refine .inr ⟨authPlain, .inl rfl, begun (.inl rfl) ?_⟩
    rw [hack]
    rfl
  · cases hpayload : payloadLine config with
    | none =>
      refine .inl ?_
      rw [hfails (by rw [hchallenge]; simp [Reading.fails, hpayload])]
      decide
    | some payload =>
      refine .inr ⟨payload, .inl hpayload, begun (.inl hpayload) ?_⟩
      rw [hchallenge]
      exact hpayload

end

/-- The handler goes on with a conclusion, in whatever state it is, exactly
where it takes the line for what it is or for an end of the negotiation. -/
theorem modernIrcHandleLine_hears_iff (sock : Int) (config : NetworkConfig) (state : ModernIrc) {line : Bytes}
    {k : Conclusion} (h : concludes line = some k) :
    GoesOn sock config state line k ↔ Heard (reading config state line) k := by
  constructor
  · intro hgoes
    exact heard_of_goesOn h hgoes
  · intro hheard
    exact goesOn_of_heard hheard

/-- The CAP ACK after CAP REQ. -/
theorem modernIrcHandleLine_hears_ack :
    GoesOn 3 saslNetwork (reached saslNetwork [ascii ":irc CAP * LS :sasl"]) (ascii ":irc CAP bot ACK :sasl") .ack :=
  (modernIrcHandleLine_hears_iff 3 saslNetwork _ (by decide)).2 (.inr (.inl ⟨rfl, by decide⟩))

/-- The CAP NAK after CAP REQ is passed over, and the negotiation stays open. -/
theorem modernIrcHandleLine_ignores_nak :
    let state := reached saslNetwork [ascii ":irc CAP * LS :sasl"]
    let run := negotiation 3 saslNetwork [ascii ":irc CAP * LS :sasl"] Env.online (worldInit configInit)
    run.1 = .ok state ∧ state.capEnded = false ∧ (said saslNetwork run.2.trace).getLast? = some (.client capReq) ∧
      concludes (ascii ":irc CAP bot NAK :sasl") = some .nak ∧
      ¬ GoesOn 3 saslNetwork state (ascii ":irc CAP bot NAK :sasl") .nak := by
  have hrun := negotiation_said saslNetwork [ascii ":irc CAP * LS :sasl"] 3 Env.online configInit
  have hopen : (reached saslNetwork [ascii ":irc CAP * LS :sasl"]).capEnded = false := by decide
  have hlast : (history saslNetwork [ascii ":irc CAP * LS :sasl"]).getLast? = some (.client capReq) := by decide
  have hnak : concludes (ascii ":irc CAP bot NAK :sasl") = some .nak := by decide
  dsimp only
  rw [hrun.2]
  refine ⟨hrun.1, hopen, hlast, hnak, fun hgoes => ?_⟩
  obtain ⟨rc, state', w', t, hr, ht, hout⟩ := hgoes Env.online (worldInit configInit)
  have hreading : reading saslNetwork (reached saslNetwork [ascii ":irc CAP * LS :sasl"])
      (ascii ":irc CAP bot NAK :sasl") = .nothing := by decide
  rw [modernIrcHandleLine_eq, hreading] at hr
  cases hr
  cases List.self_eq_append_right.1 ht
  simp [Reading.fails] at hout

end AmBot
