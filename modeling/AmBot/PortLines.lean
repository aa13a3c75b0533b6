import AmBot.LineLimit
/-!
# The lines of the ARexx commands

Nine commands send a line. What is sent where they succeed is `sentLine`, which
keeps 63 bytes of a target and takes the rest of the command as it is.
-/

namespace AmBot

open RunLib RunLib.Prog

/-- The commands that put their arguments behind their own name. -/
def argsCommands : List Bytes := [ascii "JOIN", ascii "WHOIS", ascii "MODE"]

/-- The commands that send a line. -/
def lineCommands : List Bytes := argsCommands ++ messageCommands ++ [ascii "RAW"]

/-- The target and the text of a message command. -/
def targetWord (input : Bytes) : Bytes := firstWord (afterWord input)

def messageText (input : Bytes) : Bytes := afterWord (afterWord input)

/-- The documented line of a message command. -/
def documentedLine (input : Bytes) : Bytes :=
  messageLine (uppercase (firstWord input)) (targetWord input) (messageText input)

/-- The line a command sends where it succeeds. -/
def sentLine (input : Bytes) : Bytes :=
  let command := uppercase (firstWord input)
  if command = ascii "RAW" then afterWord input
  else if command ∈ messageCommands then messageLine command ((targetWord input).take 63) (messageText input)
  else command ++ ascii " " ++ afterWord input

/-- The command has arguments, and its line fits where that is looked at. -/
def Sendable (input : Bytes) : Prop :=
  afterWord input ≠ [] ∧ (uppercase (firstWord input) = ascii "RAW" ∨ (sentLine input).length ≤ ircLineMax)

/-! ## Reading the commands -/

variable {input : Bytes} {control : Control}

theorem firstWord_afterWord (p : Bytes) : firstWord (afterWord p) = (afterWord p).takeWhile (!isSpace ·) := by
  unfold firstWord afterWord
  rw [skipSpace_skipSpace]

theorem targetWord_ne_nil (h : afterWord input ≠ []) : targetWord input ≠ [] := by
  unfold targetWord
  rw [firstWord_afterWord]
  have hfirst : ∀ c ∈ (afterWord input).head?, isSpace c = false := head?_dropWhile _
  cases hrest : afterWord input with
  | nil => exact absurd hrest h
  | cons c rest =>
    have hc : isSpace c = false := hfirst c (by rw [hrest]; rfl)
    simp [hc]

theorem targetWord_nil (h : afterWord input = []) : targetWord input = [] := by
  unfold targetWord
  rw [h]
  rfl

theorem fits_line {line : Bytes} (h : line ≠ []) : fits (ircLineMax + 1) line = true ↔ line.length ≤ ircLineMax := by
  have hpos := List.length_pos_iff.2 h
  simp only [fits, Bool.and_eq_true, decide_eq_true_eq]
  omega

theorem messageLine_ne_nil (command target text : Bytes) : messageLine command target text ≠ [] := by
  unfold messageLine
  split_ifs
  all_goals simp [ascii]

theorem commandWord_line (h : uppercase (firstWord input) ∈ lineCommands) :
    commandWord input = uppercase (firstWord input) := by
  have hshort : ∀ known ∈ lineCommands, known.length < 15 := by decide
  exact (commandWord_iff (hshort _ h) input).2 rfl

/-- A request with its line, or turned down. -/
theorem formattedRequest_eq {line : Bytes} (h : line ≠ []) :
    formattedRequest line = if line.length ≤ ircLineMax then .line line else .refuse (ascii "LINE TOO LONG") := by
  unfold formattedRequest
  exact ite_congr (propext (fits_line h)) (fun _ => rfl) fun _ => rfl

theorem formattedRequest_short {line : Bytes} (hne : line ≠ []) (h : line.length ≤ ircLineMax) :
    formattedRequest line = .line line := by
  rw [formattedRequest_eq hne, if_pos h]

theorem formattedRequest_long {line : Bytes} (hne : line ≠ []) (h : ¬ line.length ≤ ircLineMax) :
    formattedRequest line = .refuse (ascii "LINE TOO LONG") := by
  rw [formattedRequest_eq hne, if_neg h]

theorem requestOf_raw (h : uppercase (firstWord input) = ascii "RAW") : requestOf input = .line (afterWord input) := by
  have hword : commandWord input = ascii "RAW" := (commandWord_iff (by decide) input).2 h
  unfold requestOf
  rw [hword]
  rfl

theorem requestOf_args (h : uppercase (firstWord input) ∈ argsCommands) :
    requestOf input = argsRequest (uppercase (firstWord input)) (afterWord input) := by
  have hword := commandWord_line (List.mem_append_left _ (List.mem_append_left _ h))
  unfold requestOf
  rw [hword, nextWord_eq]
  generalize uppercase (firstWord input) = command at h
  simp only [argsCommands, List.mem_cons, List.not_mem_nil, or_false] at h
  rcases h with rfl | rfl | rfl <;> rfl

theorem requestOf_message (h : uppercase (firstWord input) ∈ messageCommands) :
    requestOf input = messageRequest (uppercase (firstWord input)) (afterWord input) := by
  have hword := commandWord_line (List.mem_append_left _ (List.mem_append_right _ h))
  unfold requestOf
  rw [hword, nextWord_eq]
  generalize uppercase (firstWord input) = command at h
  simp only [messageCommands, List.mem_cons, List.not_mem_nil, or_false] at h
  rcases h with rfl | rfl | rfl | rfl | rfl <;> rfl

theorem sentLine_raw (h : uppercase (firstWord input) = ascii "RAW") : sentLine input = afterWord input := by
  unfold sentLine
  dsimp only
  rw [if_pos h]

theorem sentLine_args (h : uppercase (firstWord input) ∈ argsCommands) :
    sentLine input = uppercase (firstWord input) ++ ascii " " ++ afterWord input := by
  have hother : ∀ known ∈ argsCommands, known ≠ ascii "RAW" ∧ known ∉ messageCommands := by decide
  unfold sentLine
  dsimp only
  rw [if_neg (hother _ h).1, if_neg (hother _ h).2]

theorem sentLine_message (h : uppercase (firstWord input) ∈ messageCommands) :
    sentLine input = messageLine (uppercase (firstWord input)) ((targetWord input).take 63) (messageText input) := by
  have hother : ∀ known ∈ messageCommands, known ≠ ascii "RAW" := by decide
  unfold sentLine
  dsimp only
  rw [if_neg (hother _ h), if_pos h]

theorem sentLine_ne_nil (hcommand : uppercase (firstWord input) ∈ lineCommands) (h : afterWord input ≠ []) :
    sentLine input ≠ [] := by
  rcases List.mem_append.1 hcommand with hcommand | hraw
  · rcases List.mem_append.1 hcommand with hcommand | hcommand
    · rw [sentLine_args hcommand]
      simp [h]
    · rw [sentLine_message hcommand]
      exact messageLine_ne_nil _ _ _
  · rw [sentLine_raw (List.mem_singleton.1 hraw)]
    exact h

theorem messageRequest_eq (h : afterWord input ≠ []) (command : Bytes) :
    messageRequest command (afterWord input) =
      formattedRequest (messageLine command ((targetWord input).take 63) (messageText input)) := by
  have htarget : (targetWord input).take 63 ≠ [] := by simp [targetWord_ne_nil h]
  unfold messageRequest
  rw [nextWord_eq]
  exact if_neg htarget

theorem messageRequest_missing (h : afterWord input = []) (command : Bytes) :
    messageRequest command (afterWord input) = .refuse (ascii "MISSING TARGET") := by
  rw [h]
  rfl

/-- What can be sent is asked for; for the rest, nothing is. -/
theorem requestOf_line (hcommand : uppercase (firstWord input) ∈ lineCommands) :
    Sendable input ∧ requestOf input = .line (sentLine input) ∨
      ¬ Sendable input ∧ (requestOf input = .line [] ∨ ∃ message, requestOf input = .refuse message) := by
  unfold Sendable
  rcases List.mem_append.1 hcommand with hcommand | hraw
  · have hother : ∀ known ∈ argsCommands ++ messageCommands, known ≠ ascii "RAW" := by decide
    have hno := hother _ hcommand
    by_cases hargs : afterWord input = []
    · refine .inr ⟨fun h => h.1 hargs, .inr ?_⟩
      rcases List.mem_append.1 hcommand with hcommand | hcommand
      · exact ⟨_, by rw [requestOf_args hcommand, argsRequest, if_pos hargs]⟩
      · exact ⟨_, by rw [requestOf_message hcommand, messageRequest_missing hargs]⟩
    · have hne := sentLine_ne_nil (List.mem_append_left _ hcommand) hargs
      have hrequest : requestOf input = formattedRequest (sentLine input) := by
        rcases List.mem_append.1 hcommand with hcommand | hcommand
        · rw [requestOf_args hcommand, argsRequest, if_neg hargs, sentLine_args hcommand]
        · rw [requestOf_message hcommand, messageRequest_eq hargs, sentLine_message hcommand]
      by_cases hshort : (sentLine input).length ≤ ircLineMax
      · exact .inl ⟨⟨hargs, .inr hshort⟩, hrequest.trans (formattedRequest_short hne hshort)⟩
      · refine .inr ⟨fun h => ?_, .inr ⟨_, hrequest.trans (formattedRequest_long hne hshort)⟩⟩
        rcases h.2 with hraw | hfits
        · exact hno hraw
        · exact hshort hfits
  · have hraw := List.mem_singleton.1 hraw
    by_cases hargs : afterWord input = []
    · exact .inr ⟨fun h => h.1 hargs, .inl (by rw [requestOf_raw hraw, hargs])⟩
    · exact .inl ⟨⟨hargs, .inl hraw⟩, by rw [requestOf_raw hraw, sentLine_raw hraw]⟩

/-! ## What a successful command has sent -/

/-- Where `dispatch_command` returns 0, it has sent on its socket alone, and
what the network has taken is in `P`. -/
def SendsOnly (control : Control) (input : Bytes) (P : Bytes → Prop) : Prop :=
  ∀ env (w : World), w.control = control → ∀ result w' t,
    dispatchCommand input env w = (.ok (0, result), w') → w'.trace = w.trace ++ t →
      (∀ o ∈ t, ∃ data n, o = .send control.sock data n) ∧ P (takenOn control.sock t)

/-- Where the network takes everything, a line that is asked for is sent. -/
theorem dispatchCommand_online {w : World} {text : Bytes} (honline : w.control.Online) (htext : text ≠ [])
    (hrequest : requestOf input = .line text) :
    ∃ result w', dispatchCommand input Env.online w = (.ok (0, result), w') := by
  obtain ⟨w', hline⟩ := ircSendLine_online online_sends w.control.sock text w
  have hrun := operationSendRaw_online honline htext hline
  refine ⟨setResult (ascii "OK"), w', ?_⟩
  rw [dispatchCommand_eq, hrequest]
  exact hrun

/-- What is sent is the one line that can be. -/
theorem sendsOnly_iff (hcommand : uppercase (firstWord input) ∈ lineCommands) (P : Bytes → Prop) :
    SendsOnly control input P ↔ (control.Online → Sendable input → P (sentLine input ++ CRLF)) := by
  constructor
  · intro hsends honline hsendable
    obtain ⟨-, hrequest⟩ | ⟨hno, -⟩ := requestOf_line hcommand
    · have hne := sentLine_ne_nil hcommand hsendable.1
      let w := (worldInit configInit).setControl control
      obtain ⟨result, w', hrun⟩ := dispatchCommand_online (w := w) honline hne hrequest
      obtain ⟨rc, result', w'', t, hrun', ht, houtcome⟩ := dispatchCommand_outcome input Env.online w
      rw [hrun] at hrun'
      obtain ⟨⟨rfl, -⟩, rfl⟩ : (0 = rc ∧ result = result') ∧ w' = w'' := by simpa using hrun'
      rw [hrequest] at houtcome
      obtain ⟨-, -, hsent⟩ := houtcome.line
      have htaken : takenOn control.sock t = sentLine input ++ CRLF := by
        rcases hsent.result with ⟨-, hall⟩ | ⟨hne, -⟩
        · exact hall
        · exact absurd rfl hne
      rw [← htaken]
      exact (hsends Env.online w rfl result w' t hrun ht).2
    · exact absurd hsendable hno
  · rintro hsendable env w rfl result w' t hrun ht
    obtain ⟨rc, result', w'', t', hrun', ht', houtcome⟩ := dispatchCommand_outcome input env w
    rw [hrun] at hrun'
    obtain ⟨⟨rfl, -⟩, rfl⟩ : (0 = rc ∧ result = result') ∧ w' = w'' := by simpa using hrun'
    obtain rfl : t = t' := List.append_cancel_left (ht.symm.trans ht')
    obtain ⟨hcan, hrequest⟩ | ⟨-, hrequest | ⟨message, hrequest⟩⟩ := requestOf_line hcommand
    · rw [hrequest] at houtcome
      obtain ⟨honline, -, hsent⟩ := houtcome.line
      refine ⟨hsent.only, ?_⟩
      rcases hsent.result with ⟨-, hall⟩ | ⟨hne, -⟩
      · rw [hall]
        exact hsendable honline hcan
      · exact absurd rfl hne
    · rw [hrequest] at houtcome
      exact absurd rfl houtcome.line.2.1
    · rw [hrequest] at houtcome
      cases houtcome

/-! ## One line a command -/

/-- One IRC line and its CRLF. -/
def OneIrcLine (bytes : Bytes) : Prop := ∃ line, CR ∉ line ∧ LF ∉ line ∧ line.length ≤ ircLineMax ∧ bytes = line ++ CRLF

/-- What a command takes over as it is. -/
def relayedText (input : Bytes) : Bytes :=
  if uppercase (firstWord input) ∈ messageCommands then messageText input else afterWord input

theorem oneIrcLine_iff (line : Bytes) :
    OneIrcLine (line ++ CRLF) ↔ CR ∉ line ∧ LF ∉ line ∧ line.length ≤ ircLineMax := by
  constructor
  · rintro ⟨line', hcr, hlf, hlength, heq⟩
    obtain rfl := List.append_cancel_right heq
    exact ⟨hcr, hlf, hlength⟩
  · rintro ⟨hcr, hlf, hlength⟩
    exact ⟨line, hcr, hlf, hlength, rfl⟩

theorem targetWord_no_space {c : UInt8} (h : c ∈ targetWord input) : isSpace c = false := by
  simpa using List.mem_takeWhile_imp h

theorem mem_messageLine {c : UInt8} (hc : c = CR ∨ c = LF) {command target : Bytes} (hcommand : command ∈ messageCommands)
    (htarget : c ∉ target) (text : Bytes) : c ∈ messageLine command target text ↔ c ∈ text := by
  have hverbs : ∀ known ∈ messageCommands, CR ∉ messageVerb known ∧ LF ∉ messageVerb known := by decide
  have hverb : c ∉ messageVerb command := by
    rcases hc with rfl | rfl
    · exact (hverbs command hcommand).1
    · exact (hverbs command hcommand).2
  have hfixed : c ∉ ascii "PRIVMSG " ∧ c ∉ ascii " :" ∧ c ∉ ascii "ACTION " ∧ c ∉ ascii " " ∧ c ≠ 1 := by
    rcases hc with rfl | rfl <;> decide
  obtain ⟨hprivmsg, hcolon, haction, hblank, hone⟩ := hfixed
  unfold messageLine
  split_ifs with hact htext
  · simp [hprivmsg, hcolon, haction, hone, htarget]
  · simp [hverb, hblank, hcolon, htarget]
  · have hnil := not_not.1 htext
    simp [hverb, hblank, htarget, hnil]

/-- Line breaks come from the text that is taken over. -/
theorem mem_sentLine {c : UInt8} (hc : c = CR ∨ c = LF) (hcommand : uppercase (firstWord input) ∈ lineCommands) :
    c ∈ sentLine input ↔ c ∈ relayedText input := by
  have hother : ∀ known ∈ argsCommands ++ [ascii "RAW"], known ∉ messageCommands := by decide
  unfold relayedText
  rcases List.mem_append.1 hcommand with hcommand | hraw
  · rcases List.mem_append.1 hcommand with hcommand | hcommand
    · have hfixed : ∀ known ∈ argsCommands, CR ∉ known ++ ascii " " ∧ LF ∉ known ++ ascii " " := by decide
      have hno : c ∉ uppercase (firstWord input) ++ ascii " " := by
        rcases hc with rfl | rfl
        · exact (hfixed _ hcommand).1
        · exact (hfixed _ hcommand).2
      rw [if_neg (hother _ (List.mem_append_left _ hcommand)), sentLine_args hcommand, List.mem_append, or_iff_right hno]
    · have htarget : c ∉ (targetWord input).take 63 := by
        intro hmem
        have hspace := targetWord_no_space (List.mem_of_mem_take hmem)
        rcases hc with rfl | rfl <;> cases hspace
      rw [if_pos hcommand, sentLine_message hcommand, mem_messageLine hc hcommand htarget]
  · have hraw' := List.mem_singleton.1 hraw
    rw [if_neg (hother _ (List.mem_append_right _ hraw)), sentLine_raw hraw']

/-- A command that succeeds has sent one line exactly where the text it takes
over has no line break, and for RAW no more than a line. -/
theorem command_one_line_iff (hcommand : uppercase (firstWord input) ∈ lineCommands) :
    SendsOnly control input OneIrcLine ↔
      (control.Online → Sendable input →
        CR ∉ relayedText input ∧ LF ∉ relayedText input ∧
          (uppercase (firstWord input) = ascii "RAW" → (relayedText input).length ≤ ircLineMax)) := by
  rw [sendsOnly_iff hcommand, oneIrcLine_iff, mem_sentLine (.inl rfl) hcommand, mem_sentLine (.inr rfl) hcommand]
  refine forall_congr' fun _ => forall_congr' fun hsendable => and_congr_right fun _ => and_congr_right fun _ => ?_
  by_cases hraw : uppercase (firstWord input) = ascii "RAW"
  · have hrelayed : relayedText input = sentLine input := by
      have hnot : ascii "RAW" ∉ messageCommands := by decide
      rw [sentLine_raw hraw, relayedText, hraw, if_neg hnot]
    rw [hrelayed]
    exact ⟨fun h _ => h, fun h => h hraw⟩
  · have hshort := hsendable.2.resolve_left hraw
    exact ⟨fun _ h => absurd h hraw, fun _ => hshort⟩

theorem command_one_line_join :
    SendsOnly onlineWorld.control (ascii "join #c") OneIrcLine ↔
      (onlineWorld.control.Online → Sendable (ascii "join #c") →
        CR ∉ relayedText (ascii "join #c") ∧ LF ∉ relayedText (ascii "join #c") ∧
          (uppercase (firstWord (ascii "join #c")) = ascii "RAW" → (relayedText (ascii "join #c")).length ≤ ircLineMax)) :=
  command_one_line_iff (by decide)

/-- What a command does in `onlineWorld`. -/
def portTrace (input : Bytes) : List Obs := (dispatchCommand input Env.online onlineWorld).2.trace

theorem portRun {result : Bytes} (h : (dispatchCommand input Env.online onlineWorld).1 = .ok (0, result)) :
    ∃ w', dispatchCommand input Env.online onlineWorld = (.ok (0, result), w') ∧
      w'.trace = onlineWorld.trace ++ portTrace input :=
  ⟨(dispatchCommand input Env.online onlineWorld).2, Prod.ext h rfl, (List.nil_append _).symm⟩

theorem SendsOnly.ran {P : Bytes → Prop} (h : SendsOnly onlineWorld.control input P) {result : Bytes}
    (hrun : (dispatchCommand input Env.online onlineWorld).1 = .ok (0, result)) : P (takenOn 3 (portTrace input)) := by
  obtain ⟨w', hrun, ht⟩ := portRun hrun
  exact (h Env.online onlineWorld rfl result w' _ hrun ht).2

/-- A message with a line break is sent as two lines. -/
theorem command_two_lines :
    (dispatchCommand (ascii "MSG #c hi\nQUIT") Env.online onlineWorld).1 = .ok (0, ascii "OK") ∧
      takenOn 3 (portTrace (ascii "MSG #c hi\nQUIT")) = ascii "PRIVMSG #c :hi\nQUIT" ++ CRLF ∧
      ¬ SendsOnly onlineWorld.control (ascii "MSG #c hi\nQUIT") OneIrcLine := by
  have hrun : (dispatchCommand (ascii "MSG #c hi\nQUIT") Env.online onlineWorld).1 = .ok (0, ascii "OK") := by
    decide +kernel
  have htaken : takenOn 3 (portTrace (ascii "MSG #c hi\nQUIT")) = ascii "PRIVMSG #c :hi\nQUIT" ++ CRLF := by
    decide +kernel
  refine ⟨hrun, htaken, fun hone => ?_⟩
  have hclean := hone.ran hrun
  rw [htaken, oneIrcLine_iff] at hclean
  exact hclean.2.1 (by decide)

/-! ## The documented line -/

/-- A message command that succeeds has sent its documented line, and one that
cannot be written in full fails and sends nothing. -/
def SendsDocumented (control : Control) (input : Bytes) : Prop :=
  ∀ env (w : World), w.control = control →
    ∃ rc result w' t, dispatchCommand input env w = (.ok (rc, result), w') ∧ w'.trace = w.trace ++ t ∧
      (rc = 0 → (∀ o ∈ t, ∃ data n, o = .send control.sock data n) ∧
        takenOn control.sock t = documentedLine input ++ CRLF) ∧
      (targetWord input = [] ∨ ircLineMax < (documentedLine input).length → rc ≠ 0 ∧ t = [])

theorem SendsDocumented.sendsOnly (h : SendsDocumented control input) :
    SendsOnly control input (· = documentedLine input ++ CRLF) := by
  rintro env w rfl result w' t hrun ht
  obtain ⟨rc, result', w'', t', hrun', ht', hsent, -⟩ := h env w rfl
  rw [hrun] at hrun'
  obtain ⟨⟨rfl, -⟩, rfl⟩ : (0 = rc ∧ result = result') ∧ w' = w'' := by simpa using hrun'
  obtain rfl : t = t' := List.append_cancel_left (ht.symm.trans ht')
  exact hsent rfl

theorem messageLine_length (command target text : Bytes) :
    (messageLine command target text).length = (messageLine command [] text).length + target.length := by
  unfold messageLine
  split_ifs
  all_goals
    simp only [List.length_append, List.length_nil]
    omega

theorem documentedLine_of_short (hcommand : uppercase (firstWord input) ∈ messageCommands)
    (h : (targetWord input).length ≤ 63) : sentLine input = documentedLine input := by
  rw [sentLine_message hcommand, List.take_of_length_le h]
  rfl

theorem short_of_documentedLine (hcommand : uppercase (firstWord input) ∈ messageCommands)
    (h : sentLine input = documentedLine input) : (targetWord input).length ≤ 63 := by
  have hlength := congrArg List.length h
  rw [sentLine_message hcommand, documentedLine, messageLine_length, messageLine_length _ (targetWord input),
    List.length_take] at hlength
  omega

/-- What cannot be sent is turned down. -/
theorem Outcome.unsendable {c c' : Control} {rc : Nat} {t : List Obs} (hcommand : uppercase (firstWord input) ∈ lineCommands)
    (h : Outcome c (requestOf input) rc c' t) (hno : ¬ (c.Online ∧ Sendable input)) : rc = 10 := by
  obtain ⟨hcan, hrequest⟩ | ⟨-, hrequest | ⟨message, hrequest⟩⟩ := requestOf_line hcommand
  · rw [hrequest] at h
    exact h.offline_line fun honline => hno ⟨honline, hcan⟩
  · rw [hrequest] at h
    exact h.missing_line
  · rw [hrequest] at h
    cases h
    rfl

/-- The documented line is sent exactly where the target is not too long to be
kept, or nothing is sent at all. -/
theorem message_documented_iff (hcommand : uppercase (firstWord input) ∈ messageCommands) :
    SendsDocumented control input ↔
      (control.Online → (sentLine input).length ≤ ircLineMax → (targetWord input).length ≤ 63) := by
  have hline : uppercase (firstWord input) ∈ lineCommands := List.mem_append_left _ (List.mem_append_right _ hcommand)
  constructor
  · intro hdocumented honline hshort
    by_cases hargs : afterWord input = []
    · rw [targetWord_nil hargs]
      exact Nat.zero_le _
    · have heq := (sendsOnly_iff hline _).1 hdocumented.sendsOnly honline ⟨hargs, .inr hshort⟩
      exact short_of_documentedLine hcommand (List.append_cancel_right heq)
  · rintro hkept env w rfl
    obtain ⟨rc, result, w', t, hrun, ht, houtcome⟩ := dispatchCommand_outcome input env w
    refine ⟨rc, result, w', t, hrun, ht, ?_, ?_⟩
    · rintro rfl
      have hsends : SendsOnly w.control input (· = documentedLine input ++ CRLF) := by
        refine (sendsOnly_iff hline _).2 fun honline hsendable => ?_
        have hnotRaw : ∀ known ∈ messageCommands, known ≠ ascii "RAW" := by decide
        have hshort := hsendable.2.resolve_left (hnotRaw _ hcommand)
        rw [documentedLine_of_short hcommand (hkept honline hshort)]
      exact hsends env w rfl result w' t hrun ht
    · intro hunwritable
      have hno : ¬ (w.control.Online ∧ Sendable input) := by
        rintro ⟨honline, hsendable⟩
        have hnotRaw : ∀ known ∈ messageCommands, known ≠ ascii "RAW" := by decide
        have hshort := hsendable.2.resolve_left (hnotRaw _ hcommand)
        rcases hunwritable with htarget | hlong
        · exact targetWord_ne_nil hsendable.1 htarget
        · rw [← documentedLine_of_short hcommand (hkept honline hshort)] at hlong
          omega
      have hrc := houtcome.unsendable hline hno
      exact ⟨by omega, houtcome.silent hrc⟩

theorem message_documented_notice :
    SendsDocumented onlineWorld.control (ascii "notice bob  hello") ↔
      (onlineWorld.control.Online → (sentLine (ascii "notice bob  hello")).length ≤ ircLineMax →
        (targetWord (ascii "notice bob  hello")).length ≤ 63) :=
  message_documented_iff (by decide)

/-- A message to a name of 64 bytes. -/
def longMessage : Bytes := ascii "MSG " ++ List.replicate 64 97 ++ ascii " hi"

/-- It succeeds, and goes to another name. -/
theorem message_cut :
    (dispatchCommand longMessage Env.online onlineWorld).1 = .ok (0, ascii "OK") ∧
      documentedLine longMessage = ascii "PRIVMSG " ++ List.replicate 64 97 ++ ascii " :hi" ∧
      takenOn 3 (portTrace longMessage) = ascii "PRIVMSG " ++ List.replicate 63 97 ++ ascii " :hi" ++ CRLF ∧
      ¬ SendsDocumented onlineWorld.control longMessage := by
  have hrun : (dispatchCommand longMessage Env.online onlineWorld).1 = .ok (0, ascii "OK") := by decide +kernel
  have htaken : takenOn 3 (portTrace longMessage) = ascii "PRIVMSG " ++ List.replicate 63 97 ++ ascii " :hi" ++ CRLF := by
    decide +kernel
  have hdifferent : takenOn 3 (portTrace longMessage) ≠ documentedLine longMessage ++ CRLF := by decide +kernel
  refine ⟨hrun, by decide +kernel, htaken, fun hdocumented => ?_⟩
  exact hdifferent (hdocumented.sendsOnly.ran hrun)

end AmBot
