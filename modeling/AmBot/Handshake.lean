import AmBot.Negotiation
/-!
# The negotiation as an exchange of lines

What a negotiation comes to is a sequence of lines: the server's, and the
client's that answer them. `reading` is what the handler takes a line for, and
everything it does with the line follows from that. `said` reads the same
sequence off the trace, whatever the sends return, so that a result about the
order of the exchange is one about `history`.
-/

namespace AmBot

open RunLib RunLib.Prog

/-! ## The client's lines -/

def capLs : Bytes := ascii "CAP LS 302"
def capReq : Bytes := ascii "CAP REQ :sasl"
def capEnd : Bytes := ascii "CAP END"
def authPlain : Bytes := ascii "AUTHENTICATE PLAIN"

def authenticate : Bytes := ascii "AUTHENTICATE "

/-- The line with the credentials; `none` where `send_sasl_payload` gives up
before it sends. -/
def payloadLine (config : NetworkConfig) : Option Bytes :=
  if 160 < config.saslUser.length * 2 + config.saslPass.length + 2 then none
  else
    match b64Encode (config.saslUser ++ [0] ++ config.saslUser ++ [0] ++ config.saslPass) 224 with
    | none => none
    | some encoded => if 240 ≤ (authenticate ++ encoded).length then none else some (authenticate ++ encoded)

theorem sendSaslPayload_eq (sock : Int) (config : NetworkConfig) :
    sendSaslPayload sock config = match payloadLine config with
      | none => pure (-1)
      | some line => ircSendLine sock line := by
  unfold sendSaslPayload payloadLine
  split
  · rfl
  · cases b64Encode (config.saslUser ++ [0] ++ config.saslUser ++ [0] ++ config.saslPass) 224 with
    | none => rfl
    | some encoded =>
      by_cases hlong : 240 ≤ (authenticate ++ encoded).length
      · simp only [hlong, if_true]
        exact if_pos hlong
      · simp only [hlong, if_false]
        exact if_neg hlong

/-- The lines of the client that belong to the negotiation. -/
def clientLines (config : NetworkConfig) : List Bytes :=
  [capLs, capReq, capEnd, authPlain] ++ (payloadLine config).toList

/-! ## Base64 -/

theorem b64Char_ne_space (v : Nat) : b64Char v ≠ SP := by
  have hall : ∀ i < 64, b64Table.getD i 0 ≠ SP := by decide +kernel
  exact hall _ (Nat.mod_lt _ (by decide))

theorem b64Quad_length {src : Bytes} (h : src ≠ []) : (b64Quad src).1.length = 4 := by
  unfold b64Quad
  split
  · exact absurd rfl h
  · rfl
  · rfl
  · rfl

theorem b64Quad_no_space (src : Bytes) : SP ∉ (b64Quad src).1 := by
  have heq : SP ≠ 61 := by decide
  unfold b64Quad
  split <;> simp [heq, (b64Char_ne_space _).symm]

theorem b64Rounds_shape {size n : Nat} {src out encoded : Bytes} (h : b64Rounds size n src out = some encoded)
    (hspace : SP ∉ out) (hlength : 4 ∣ out.length) : SP ∉ encoded ∧ 4 ∣ encoded.length := by
  induction n generalizing src out with
  | zero =>
    cases src with
    | nil =>
      simp only [b64Rounds, Option.ite_none_left_eq_some, Option.some.injEq] at h
      rw [← h.2]
      exact ⟨hspace, hlength⟩
    | cons c src => cases h
  | succ n ih =>
    cases src with
    | nil =>
      simp only [b64Rounds, Option.ite_none_left_eq_some, Option.some.injEq] at h
      rw [← h.2]
      exact ⟨hspace, hlength⟩
    | cons c src =>
      simp only [b64Rounds, Option.ite_none_left_eq_some] at h
      refine ih h.2 ?_ ?_
      · simp [hspace, b64Quad_no_space]
      · rw [List.length_append, b64Quad_length (List.cons_ne_nil c src)]
        omega

/-- The credentials' line is one word after `AUTHENTICATE `, of a length that
no other line of the client has. -/
theorem payloadLine_shape {config : NetworkConfig} {line : Bytes} (h : payloadLine config = some line) :
    ∃ encoded, line = authenticate ++ encoded ∧ SP ∉ encoded ∧ 4 ∣ encoded.length := by
  unfold payloadLine at h
  split at h
  · cases h
  · cases hencode : b64Encode (config.saslUser ++ [0] ++ config.saslUser ++ [0] ++ config.saslPass) 224 with
    | none =>
      rw [hencode] at h
      cases h
    | some encoded =>
      rw [hencode] at h
      simp only [Option.ite_none_left_eq_some, Option.some.injEq] at h
      exact ⟨encoded, h.2.symm, b64Rounds_shape hencode (by simp) (by simp)⟩

/-! ## What a line is taken for -/

/-- What the handler can take a line for: a CAP LS whose sasl it asks for, any
other CAP LS, a CAP ACK, a challenge, and how the authentication ended. -/
inductive Reading where
  | offer
  | refusal
  | ack
  | challenge
  | success
  | failure
  | nothing
  deriving DecidableEq, Repr

def reading (config : NetworkConfig) (state : ModernIrc) (line : Bytes) : Reading :=
  if !state.capActive || state.capEnded then .nothing
  else if isCapLs line then
    if config.saslPlain && containsToken line "sasl" then .offer else .refusal
  else if isCapAck state line then .ack
  else if state.saslRequested && (ascii "AUTHENTICATE +").isPrefixOf line then .challenge
  else if containsToken line " 903 " then .success
  else if isSaslFailure line then .failure
  else .nothing

namespace Reading

/-- The line that is sent, if any. -/
def sends (config : NetworkConfig) : Reading → Option Bytes
  | .offer => some capReq
  | .ack => some authPlain
  | .challenge => payloadLine config
  | .refusal | .success | .failure => some capEnd
  | .nothing => none

def next (state : ModernIrc) : Reading → ModernIrc
  | .offer => { state with saslRequested := true }
  | .success => { state with saslComplete := true, capEnded := true }
  | .refusal | .failure => { state with capEnded := true }
  | .ack | .challenge | .nothing => state

/-- The handler returns -1 whatever the send returns. -/
def fails (config : NetworkConfig) : Reading → Bool
  | .failure => true
  | .challenge => payloadLine config = none
  | _ => false

end Reading

/-- The handler, once it knows what the line is. -/
def carryOut (sock : Int) (config : NetworkConfig) (state : ModernIrc) (r : Reading) : M (Int × ModernIrc) := do
  let rc ← (match r.sends config with
    | none => pure 0
    | some line => ircSendLine sock line)
  pure (if r.fails config then -1 else rc, r.next state)

theorem modernIrcHandleLine_eq (sock : Int) (config : NetworkConfig) (state : ModernIrc) (line : Bytes) :
    modernIrcHandleLine sock config state line = carryOut sock config state (reading config state line) := by
  unfold modernIrcHandleLine reading isCapLs isCapAck isSaslFailure
  split
  · rfl
  split
  · split
    · rfl
    · rfl
  split
  · rfl
  split
  · rw [sendSaslPayload_eq]
    unfold carryOut
    cases hpayload : payloadLine config with
    | none => simp only [Reading.sends, Reading.fails, Reading.next, hpayload]; rfl
    | some payload => simp only [Reading.sends, Reading.fails, Reading.next, hpayload]; rfl
  split
  · rfl
  split
  · rfl
  · rfl

/-! ## The exchange in the trace -/

/-- A line of the exchange, with who says it. -/
inductive Said where
  | server (line : Bytes)
  | client (line : Bytes)
  deriving DecidableEq, Repr

/-- What an entry adds to the exchange: a line that is given to the handler,
or the first `send` of a line of the client. -/
def Obs.said (config : NetworkConfig) : Obs → Option Said
  | .line text _ => some (.server text)
  | .send _ data _ => if data ∈ clientLines config then some (.client data) else none
  | _ => none

def said (config : NetworkConfig) (trace : List Obs) : List Said := trace.filterMap (·.said config)

/-- The first `send` of `line`. -/
def Obs.begins (line : Bytes) : Obs → Bool
  | .send _ data _ => data = line
  | _ => false

/-- The length of a line after its last blank. -/
def lastWord (line : Bytes) : Nat := (line.reverse.takeWhile (· ≠ SP)).length

theorem lastWord_suffix {l m : Bytes} (h : m <:+ l) (hm : SP ∈ m) : lastWord m = lastWord l := by
  obtain ⟨before, rfl⟩ := h
  unfold lastWord
  rw [List.reverse_append, List.takeWhile_append]
  split
  · rename_i hall
    have hsame : m.reverse.takeWhile (· ≠ SP) = m.reverse := (List.takeWhile_prefix _).eq_of_length hall
    have hmem : SP ∈ m.reverse.takeWhile (· ≠ SP) := by rw [hsame]; simpa using hm
    have := List.mem_takeWhile_imp hmem
    simp at this
  · rfl

theorem payloadLine_word {config : NetworkConfig} {line : Bytes} (h : payloadLine config = some line) :
    SP ∈ line ∧ 4 ∣ lastWord line := by
  obtain ⟨encoded, rfl, hspace, hlength⟩ := payloadLine_shape h
  have hmem : SP ∈ authenticate := by decide
  refine ⟨List.mem_append_left _ hmem, ?_⟩
  have hword : lastWord (authenticate ++ encoded) = encoded.length := by
    unfold lastWord
    rw [List.reverse_append, List.takeWhile_append_of_pos]
    · have hend : authenticate.reverse.takeWhile (· ≠ SP) = [] := by decide
      rw [hend, List.append_nil, List.length_reverse]
    · intro c hc
      simp only [List.mem_reverse] at hc
      simpa using ne_of_mem_of_not_mem hc hspace
  rwa [hword]

/-- No line of the client ends in another one, so that what is left to send of
one is never the start of one. -/
theorem clientLines_suffix {config : NetworkConfig} {l m : Bytes} (hl : l ∈ clientLines config)
    (hm : m ∈ clientLines config) (h : m <:+ l) : m = l := by
  have split (k : Bytes) (hk : k ∈ clientLines config) :
      k ∈ [capLs, capReq, capEnd, authPlain] ∨ payloadLine config = some k := by
    rcases List.mem_append.1 hk with hk | hk
    · exact .inl hk
    · exact .inr (Option.mem_toList.1 hk)
  have hfixed : ∀ k ∈ [capLs, capReq, capEnd, authPlain], SP ∈ k ∧ ¬ 4 ∣ lastWord k := by decide
  rcases split m hm with hm | hm
  · have hsame : lastWord m = lastWord l := lastWord_suffix h (hfixed m hm).1
    rcases split l hl with hl | hl
    · have hpairs : ∀ l ∈ [capLs, capReq, capEnd, authPlain], ∀ m ∈ [capLs, capReq, capEnd, authPlain],
          m <:+ l → m = l := by decide
      exact hpairs l hl m hm h
    · exact absurd (payloadLine_word hl).2 (hsame ▸ (hfixed m hm).2)
  · have hsame : lastWord m = lastWord l := lastWord_suffix h (payloadLine_word hm).1
    rcases split l hl with hl | hl
    · exact absurd (hsame ▸ (payloadLine_word hm).2) (hfixed l hl).2
    · rw [hl] at hm
      exact (Option.some.inj hm).symm

section
variable {config : NetworkConfig} {α : Type}

/-- What a program adds to the exchange. -/
abbrev Utters (config : NetworkConfig) (xs : List Said) (m : M α) (Q : α → Prop) : Prop :=
  Writes (fun w : World => said config w.trace) xs m Q

theorem log_utters (o : Obs) : Utters config (o.said config).toList (log o) fun _ => True := by
  intro env w
  refine ⟨(), w.log o, rfl, trivial, ?_⟩
  simp only [said, World.log, List.filterMap_append]
  cases h : o.said config <;> simp [h]

theorem ask_utters {β : Type} (f : Env → Nat → β) : Utters config [] (ask f) fun _ => True := by
  intro env w
  exact ⟨_, _, rfl, trivial, (List.append_nil _).symm⟩

/-- A rest that no line of the client is the end of. -/
theorem netSendFrom_quiet (sock : Int) (n : Nat) {data : Bytes} (h : ∀ m ∈ clientLines config, ¬ m <:+ data) :
    Utters config [] (netSendFrom sock n data) fun _ => True := by
  induction n generalizing data with
  | zero => cases data <;> exact writes_pure trivial
  | succ n ih =>
    cases data with
    | nil => exact writes_pure trivial
    | cons c rest =>
      unfold netSendFrom
      refine Writes.nil_bind (ask_utters _) fun rc _ => ?_
      have hlog : Utters config [] (log (.send sock (c :: rest) rc)) fun _ => True := by
        have hnot : c :: rest ∉ clientLines config := fun hmem => h _ hmem List.suffix_rfl
        have hsend : Utters config (Obs.said config (.send sock (c :: rest) rc)).toList (log (.send sock (c :: rest) rc))
            fun _ => True := log_utters _
        simpa [Obs.said, hnot] using hsend
      refine hlog.nil_bind fun _ _ => ?_
      split
      · exact writes_pure trivial
      · exact ih fun m hm hs => h m hm (hs.trans (List.drop_suffix _ _))

theorem clientLines_space {m : Bytes} (hm : m ∈ clientLines config) : SP ∈ m := by
  have hfixed : ∀ k ∈ [capLs, capReq, capEnd, authPlain], SP ∈ k := by decide
  rcases List.mem_append.1 hm with hm | hm
  · exact hfixed m hm
  · exact (payloadLine_word (Option.mem_toList.1 hm)).1

theorem netSendAll_utters (sock : Int) {l : Bytes} (hl : l ∈ clientLines config) :
    Utters config [.client l] (netSendAll sock l) fun _ => True := by
  cases l with
  | nil => exact absurd (clientLines_space hl) List.not_mem_nil
  | cons c rest =>
    unfold netSendAll netSendFrom
    refine Writes.nil_bind (ask_utters _) fun rc _ => ?_
    have hlog : Utters config [.client (c :: rest)] (log (.send sock (c :: rest) rc)) fun _ => True := by
      have hsend : Utters config (Obs.said config (.send sock (c :: rest) rc)).toList (log (.send sock (c :: rest) rc))
          fun _ => True := log_utters _
      simpa [Obs.said, hl] using hsend
    refine hlog.bind_nil fun _ _ => ?_
    split
    · exact writes_pure trivial
    · rename_i hrc
      -- the rest is shorter than the line, so it is not the line again
      refine netSendFrom_quiet _ _ fun m hm hs => ?_
      have hsame : m = c :: rest := clientLines_suffix hl hm (hs.trans (List.drop_suffix _ _))
      have hlength := hs.length_le
      rw [hsame] at hlength
      simp only [List.length_drop, List.length_cons] at hlength
      omega

theorem ircSendLine_utters (sock : Int) {l : Bytes} (hl : l ∈ clientLines config) :
    Utters config [.client l] (ircSendLine sock l) fun _ => True := by
  unfold ircSendLine
  refine (netSendAll_utters sock hl).bind_nil fun rc _ => ?_
  split
  · exact writes_pure trivial
  · refine netSendFrom_quiet _ _ fun m hm hs => ?_
    have hspace : SP ∈ [CR, LF] := hs.subset (clientLines_space hm)
    exact absurd hspace (by decide)

/-- What a reading adds to the exchange. -/
def Reading.reply (config : NetworkConfig) (r : Reading) : List Said := (r.sends config).toList.map .client

theorem Reading.sends_mem {r : Reading} {l : Bytes} (h : r.sends config = some l) : l ∈ clientLines config := by
  cases r <;> simp_all [Reading.sends, clientLines]

theorem carryOut_utters (sock : Int) (state : ModernIrc) (r : Reading) :
    Utters config (r.reply config) (carryOut sock config state r) fun p =>
      p.2 = r.next state ∧ (r.fails config = true → p.1 = -1) := by
  unfold carryOut Reading.reply
  cases hsends : r.sends config with
  | none =>
    refine Writes.nil_bind (Q := fun _ => True) (writes_pure trivial) fun rc _ => writes_pure ⟨rfl, fun hfails => ?_⟩
    exact if_pos hfails
  | some line =>
    refine Writes.bind_nil (ircSendLine_utters sock (Reading.sends_mem hsends)) fun rc _ =>
      writes_pure ⟨rfl, fun hfails => ?_⟩
    exact if_pos hfails

theorem modernIrcHandleLine_utters (sock : Int) (state : ModernIrc) (line : Bytes) :
    Utters config ((reading config state line).reply config) (modernIrcHandleLine sock config state line) fun p =>
      p.2 = (reading config state line).next state ∧ ((reading config state line).fails config = true → p.1 = -1) := by
  rw [modernIrcHandleLine_eq]
  exact carryOut_utters sock state _

theorem modernIrcAnswer_utters (sock : Int) (state : ModernIrc) (line : Bytes) :
    Utters config (.server line :: (reading config state line).reply config) (modernIrcAnswer sock config state line)
      fun p => p.2 = (reading config state line).next state := by
  have hline : Utters config [.server line] (log (.line line state)) fun _ => True := log_utters _
  have hend : Utters config [] (log .negotiated) fun _ => True := log_utters _
  have hhandle : Utters config ((reading config state line).reply config) (do
      let result ← modernIrcHandleLine sock config state line
      log .negotiated
      pure result) fun p => p.2 = (reading config state line).next state := by
    refine (modernIrcHandleLine_utters sock state line).bind_nil fun p hp => ?_
    exact hend.bind_nil fun _ _ => writes_pure hp.1
  exact hline.bind fun _ _ => hhandle

theorem modernIrcStart_utters (sock : Int) :
    Utters config (if config.capEnabled then [.client capLs] else []) (modernIrcStart sock config) fun p =>
      p.2 = { modernIrcInit with capActive := config.capEnabled } := by
  unfold modernIrcStart
  split
  · rename_i hcap
    refine (ircSendLine_utters sock (l := capLs) (by simp [clientLines])).bind_nil fun rc _ => writes_pure ?_
    simp [hcap]
  · rename_i hcap
    refine writes_pure ?_
    simp only [Bool.not_eq_true] at hcap
    rw [hcap]
    rfl

end

/-! ## A whole negotiation -/

/-- The handler on each line in turn, whatever it returns. -/
def modernIrcAnswers (sock : Int) (config : NetworkConfig) : List Bytes → ModernIrc → M ModernIrc
  | [], state => pure state
  | line :: lines, state => do
    let (_, state) ← modernIrcAnswer sock config state line
    modernIrcAnswers sock config lines state

/-- The negotiation of one connection, from its start. -/
def negotiation (sock : Int) (config : NetworkConfig) (lines : List Bytes) : M ModernIrc := do
  let (_, state) ← modernIrcStart sock config
  modernIrcAnswers sock config lines state

/-- The state after `modernIrcStart`. -/
def started (config : NetworkConfig) : ModernIrc := { modernIrcInit with capActive := config.capEnabled }

/-- The state after some lines. -/
def reachedFrom (config : NetworkConfig) (state : ModernIrc) (lines : List Bytes) : ModernIrc :=
  lines.foldl (fun state line => (reading config state line).next state) state

/-- What some lines add to the exchange. -/
def dialogue (config : NetworkConfig) : ModernIrc → List Bytes → List Said
  | _, [] => []
  | state, line :: lines =>
    .server line :: (reading config state line).reply config ++
      dialogue config ((reading config state line).next state) lines

def opening (config : NetworkConfig) : List Said := if config.capEnabled then [.client capLs] else []

/-- The state of a connection after some lines, and the exchange up to it. -/
def reached (config : NetworkConfig) (lines : List Bytes) : ModernIrc := reachedFrom config (started config) lines

def history (config : NetworkConfig) (lines : List Bytes) : List Said :=
  opening config ++ dialogue config (started config) lines

section
variable (config : NetworkConfig) (lines : List Bytes) (line : Bytes)

@[simp] theorem reached_nil : reached config [] = started config := rfl

@[simp] theorem reached_snoc : reached config (lines ++ [line]) =
    (reading config (reached config lines) line).next (reached config lines) := by
  simp [reached, reachedFrom]

@[simp] theorem history_nil : history config [] = opening config := List.append_nil _

theorem dialogue_append (state : ModernIrc) (more : List Bytes) : dialogue config state (lines ++ more) =
    dialogue config state lines ++ dialogue config (reachedFrom config state lines) more := by
  induction lines generalizing state with
  | nil => rfl
  | cons line lines ih => simp [dialogue, reachedFrom, ih]

@[simp] theorem history_snoc : history config (lines ++ [line]) =
    history config lines ++ .server line :: (reading config (reached config lines) line).reply config := by
  simp [history, dialogue_append, dialogue, reached]

theorem modernIrcAnswers_utters (sock : Int) (state : ModernIrc) :
    Utters config (dialogue config state lines) (modernIrcAnswers sock config lines state) fun state' =>
      state' = reachedFrom config state lines := by
  induction lines generalizing state with
  | nil => exact writes_pure rfl
  | cons line lines ih =>
    refine (modernIrcAnswer_utters sock state line).bind fun p hp => ?_
    obtain ⟨rc, next⟩ := p
    cases hp
    exact ih _

/-- The exchange of a whole negotiation, whatever the sends return. -/
theorem negotiation_utters (sock : Int) :
    Utters config (history config lines) (negotiation sock config lines) fun state => state = reached config lines := by
  refine (modernIrcStart_utters sock).bind fun p hp => ?_
  obtain ⟨rc, state⟩ := p
  cases hp
  exact modernIrcAnswers_utters config lines sock _

theorem negotiation_keeps (sock : Int) : Keeps (Acts [.send, .line, .negotiated]) (negotiation sock config lines) := by
  have answers (lines : List Bytes) : ∀ state,
      Keeps (Acts [.send, .line, .negotiated]) (modernIrcAnswers sock config lines state) := by
    induction lines with
    | nil => exact fun state => keeps_pure state
    | cons line lines ih => exact fun state => (modernIrcAnswer_keeps sock config state line).bind fun p => ih p.2
  exact (widen (by decide) (modernIrcStart_keeps sock config)).bind fun p => answers lines p.2

/-- The same of the entries that a negotiation adds to the trace. -/
theorem negotiation_trace (sock : Int) (env : Env) (w : World) :
    ∃ w' t, negotiation sock config lines env w = (.ok (reached config lines), w') ∧ w'.trace = w.trace ++ t ∧
      (∀ o ∈ t, o.kind ∈ [.send, .line, .negotiated]) ∧ said config t = history config lines := by
  obtain ⟨state, w', hr, rfl, hsaid⟩ := negotiation_utters config lines sock env w
  obtain ⟨t, ht, hkinds⟩ := (negotiation_keeps config lines sock env w).logs
  have htrace : w'.trace = w.trace ++ t := by rwa [hr] at ht
  refine ⟨w', t, hr, htrace, hkinds, ?_⟩
  simp only [htrace, said, List.filterMap_append] at hsaid
  exact List.append_cancel_left hsaid

/-- The same for a negotiation with nothing before it. -/
theorem negotiation_said (sock : Int) (env : Env) (globals : Config) :
    (negotiation sock config lines env (worldInit globals)).1 = .ok (reached config lines) ∧
      said config (negotiation sock config lines env (worldInit globals)).2.trace = history config lines := by
  obtain ⟨w', t, hr, ht, -, hsaid⟩ := negotiation_trace config lines sock env (worldInit globals)
  rw [hr]
  refine ⟨rfl, ?_⟩
  rw [ht, ← hsaid]
  rfl

end

/-- A network with CAP and credentials. -/
def saslNetwork : NetworkConfig :=
  { copyNetwork (networkDefaults configInit) with saslPlain := true, saslUser := ascii "u", saslPass := ascii "p" }

/-- The first sends of a line of the client, as the exchange counts them. -/
theorem countP_begins {config : NetworkConfig} {l : Bytes} (hl : l ∈ clientLines config) (t : List Obs) :
    t.countP (·.begins l) = (said config t).count (.client l) := by
  induction t with
  | nil => rfl
  | cons o t ih =>
    have hentry : o.begins l = true ↔ o.said config = some (.client l) := by
      cases o <;> simp [Obs.begins, Obs.said]
      intro h
      rwa [h]
    rw [List.countP_cons, ih]
    simp only [said, List.filterMap_cons]
    cases h : o.said config with
    | none => simp [hentry, h]
    | some x => simp [hentry, h, List.count_cons]

/-! ## CAP END -/

theorem reading_closed {config : NetworkConfig} {state : ModernIrc} (h : state.capActive = false ∨ state.capEnded = true)
    (line : Bytes) : reading config state line = .nothing := by
  unfold reading
  rw [if_pos (by simpa using h)]

/-- Past the end of the negotiation, and without one, the handler does nothing. -/
theorem modernIrcHandleLine_closed {state : ModernIrc} (h : state.capActive = false ∨ state.capEnded = true) (sock : Int)
    (config : NetworkConfig) (line : Bytes) : modernIrcHandleLine sock config state line = pure (0, state) := by
  rw [modernIrcHandleLine_eq, reading_closed h]
  rfl

theorem modernIrcAnswers_closed {state : ModernIrc} (h : state.capActive = false ∨ state.capEnded = true) (sock : Int)
    (config : NetworkConfig) (lines : List Bytes) :
    Keeps (Acts [.line, .negotiated]) (modernIrcAnswers sock config lines state) := by
  induction lines with
  | nil => exact keeps_pure _
  | cons line lines ih =>
    intro env w
    have hhandler : modernIrcHandleLine sock config state line env (w.log (.line line state)) =
        (.ok (0, state), w.log (.line line state)) := by
      rw [modernIrcHandleLine_closed h]
      rfl
    have hmarks : Acts [.line, .negotiated] w ((w.log (.line line state)).log .negotiated) := by
      refine .tail (.single (.log w _ ?_ ?_)) (.log _ _ ?_ ?_) <;> simp [Obs.kind]
    rw [modernIrcAnswers, bind_ok (modernIrcAnswer_run hhandler)]
    exact trans_of (Acts _) hmarks (ih env _)

/-- The credentials' line is none of the others. -/
theorem payloadLine_ne {config : NetworkConfig} {payload : Bytes} (h : payloadLine config = some payload) :
    payload ∉ [capLs, capReq, capEnd, authPlain] := by
  have hfixed : ∀ k ∈ [capLs, capReq, capEnd, authPlain], ¬ 4 ∣ lastWord k := by decide
  exact fun hmem => hfixed payload hmem (payloadLine_word h).2

/-- A reading sends CAP END where it ends the negotiation. -/
theorem Reading.reply_capEnd {config : NetworkConfig} {state : ModernIrc} (h : state.capEnded = false) (r : Reading) :
    (r.reply config).count (.client capEnd) = if (r.next state).capEnded then 1 else 0 := by
  unfold Reading.reply
  cases r with
  | challenge =>
    simp only [Reading.sends, Reading.next, h]
    cases hpayload : payloadLine config with
    | none => rfl
    | some payload =>
      have hne : payload ≠ capEnd := fun heq => payloadLine_ne hpayload (by simp [heq])
      simp [hne]
  | offer => simp [Reading.sends, Reading.next, h]; decide
  | ack => simp [Reading.sends, Reading.next, h]; decide
  | refusal => simp [Reading.sends, Reading.next]
  | success => simp [Reading.sends, Reading.next]
  | failure => simp [Reading.sends, Reading.next]
  | nothing => simp [Reading.sends, Reading.next, h]

theorem capEnd_count (config : NetworkConfig) (lines : List Bytes) :
    (history config lines).count (.client capEnd) = if (reached config lines).capEnded then 1 else 0 := by
  induction lines using List.reverseRecOn with
  | nil =>
    have hopening : (opening config).count (.client capEnd) = 0 := by
      unfold opening
      split <;> decide
    simpa [started, modernIrcInit] using hopening
  | append_singleton lines line ih =>
    have hserver : (Said.server line) ≠ .client capEnd := nofun
    rw [history_snoc, reached_snoc, List.count_append, List.count_cons_of_ne hserver, ih]
    cases hended : (reached config lines).capEnded with
    | true =>
      rw [reading_closed (.inr hended)]
      simp [Reading.reply, Reading.sends, Reading.next, hended]
    | false =>
      rw [Reading.reply_capEnd hended]
      simp

theorem negotiation_silent {config : NetworkConfig} (h : config.capEnabled = false) (sock : Int) (lines : List Bytes) :
    Keeps (Acts [.line, .negotiated]) (negotiation sock config lines) := by
  intro env w
  have hstart : modernIrcStart sock config env w = (.ok (0, modernIrcInit), w) := by
    unfold modernIrcStart
    rw [h]
    rfl
  rw [negotiation, bind_ok hstart]
  exact modernIrcAnswers_closed (.inl rfl) sock config lines env w

/-- Whatever the server sends and whatever the sends return, CAP END is begun
once if the negotiation has ended and never before; from then on the handler
does nothing, and with CAP disabled it never sends. -/
theorem negotiation_ends_once (sock : Int) (config : NetworkConfig) (lines : List Bytes) (env : Env) (w : World) :
    ∃ state w' t, negotiation sock config lines env w = (.ok state, w') ∧ w'.trace = w.trace ++ t ∧
      t.countP (·.begins capEnd) = (if state.capEnded then 1 else 0) ∧
      (state.capEnded = true → ∀ line env w, modernIrcHandleLine sock config state line env w = (.ok (0, state), w)) ∧
      (config.capEnabled = false → ∀ o ∈ t, o.kind ≠ .send) := by
  obtain ⟨w', t, hr, ht, -, hsaid⟩ := negotiation_trace config lines sock env w
  refine ⟨_, w', t, hr, ht, ?_, fun hended line env w => ?_, fun hcap o ho => ?_⟩
  · have hmem : capEnd ∈ clientLines config := by simp [clientLines]
    rw [countP_begins hmem, hsaid, capEnd_count]
  · rw [modernIrcHandleLine_closed (.inr hended)]
    rfl
  · obtain ⟨t', ht', hkinds⟩ := (negotiation_silent hcap sock lines env w).logs
    rw [hr] at ht'
    have hsame : t = t' := List.append_cancel_left (ht.symm.trans ht')
    have hkind := hkinds o (hsame ▸ ho)
    intro hsend
    rw [hsend] at hkind
    simp at hkind

end AmBot
