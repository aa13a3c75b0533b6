import AmBot.Chat
import AmBot.Delivery
import AmBot.Dispatch
import AmBot.Texts
/-!
# Answers to PING

A PONG is sent for the lines that start with `PING `. By the grammar of
`ambot_event_from_irc_line` a PING may have a prefix and blanks before its
command, and it has a parameter; every PING of a stream is answered, and
nothing else is, exactly where the two agree on its lines.
-/

namespace AmBot

open RunLib RunLib.Prog

/-- A line by the grammar of `ambot_event_from_irc_line`: the command, and the
parameters from the first one on. -/
def ircMessage (line : Bytes) : Option (Bytes × Bytes) :=
  (splitPrefix line).map fun start =>
    let p := skipBlanks start.2
    (upTo SP p, skipBlanks (p.drop (upTo SP p).length))

/-- The parameters of a message with this command. -/
def paramsOf (command line : Bytes) : Option Bytes :=
  (ircMessage line).bind fun message => if message.1 = command then some message.2 else none

/-- The parameters of a PING, of which there is at least one. -/
def pingParams (line : Bytes) : Option Bytes := (paramsOf (ascii "PING") line).filter (· ≠ [])

/-- The parameters of the PONGs among some texts, with the sockets. -/
def pongsIn (texts : List (Int × Bytes)) : List (Int × Bytes) :=
  texts.filterMap fun text => (paramsOf (ascii "PONG") text.2).map fun params => (text.1, params)

/-- The PONG due for a line. -/
def duePong (sock : Int) (line : Bytes) : Option (Int × Bytes) := (pingParams (cstr line)).map fun params => (sock, params)

/-- The PONGs sent are those due for the lines, in order. -/
def PingsAnswered (sock : Int) (lines : List Bytes) (t : List Obs) : Prop :=
  pongsIn (sentTexts [] t) = lines.filterMap (duePong sock)

/-- The line starts with `PING ` if and only if it is a PING with a parameter. -/
def PlainPing (line : Bytes) : Prop := isPing line = true ↔ (pingParams line).isSome = true

/-- No ARexx command of the run asks for a PONG of its own. -/
def NoPongAsked (t : List Obs) : Prop :=
  ∀ input rc result, .rexx input rc result ∈ t → ∀ line, requestOf input = .line line → paramsOf (ascii "PONG") line = none

/-! ## Messages -/

theorem ircMessage_word {word : Bytes} (hword : SP ∉ word) (hne : word ≠ []) (hcolon : word.head? ≠ some COLON)
    (rest : Bytes) : ircMessage (word ++ SP :: rest) = some (word, skipBlanks rest) := by
  have hhead : (word ++ SP :: rest).head? = word.head? := by
    obtain ⟨c, word, rfl⟩ := List.exists_cons_of_ne_nil hne
    rfl
  have hspace : word.head? ≠ some SP := fun h => hword (List.mem_of_head? h)
  have hskip : skipBlanks (word ++ SP :: rest) = word ++ SP :: rest :=
    @skipBlanks_until [] _ (List.forall_mem_nil _) (hhead ▸ hspace)
  have hupTo : upTo SP (word ++ SP :: rest) = word := upTo_until hword fun b hb => (Option.some.inj hb).symm
  unfold ircMessage
  rw [splitPrefix_none (hhead ▸ hcolon), Option.map_some]
  simp only [hskip, hupTo, List.drop_left]
  rfl

theorem paramsOf_word {command word : Bytes} (hword : SP ∉ word) (hne : word ≠ []) (hcolon : word.head? ≠ some COLON)
    (rest : Bytes) : paramsOf command (word ++ SP :: rest) = if word = command then some (skipBlanks rest) else none := by
  unfold paramsOf
  rw [ircMessage_word hword hne hcolon]
  rfl

theorem isPing_iff {line : Bytes} : isPing line = true ↔ ∃ rest, line = ascii "PING" ++ SP :: rest := by
  have hping : ascii "PING " = ascii "PING" ++ [SP] := by decide
  rw [isPing, List.isPrefixOf_iff_prefix, hping]
  constructor
  · rintro ⟨rest, rfl⟩
    exact ⟨rest, by simp⟩
  · rintro ⟨rest, rfl⟩
    exact ⟨rest, by simp⟩

/-- A line that starts with `PING ` is a PING, and its answer has its parameters. -/
theorem isPing_params {line : Bytes} (h : isPing line = true) :
    paramsOf (ascii "PING") line = some (skipBlanks (line.drop 5)) ∧
      paramsOf (ascii "PONG") (ascii "PONG " ++ line.drop 5) = some (skipBlanks (line.drop 5)) := by
  obtain ⟨rest, rfl⟩ := isPing_iff.1 h
  have hdrop : (ascii "PING" ++ SP :: rest).drop 5 = rest := rfl
  have hpong : ascii "PONG " ++ rest = ascii "PONG" ++ SP :: rest := rfl
  rw [hdrop, hpong, paramsOf_word (by decide) (by decide) (by decide),
    paramsOf_word (by decide) (by decide) (by decide)]
  exact ⟨rfl, rfl⟩

/-! ## What a run answers -/

theorem pongsIn_append (texts texts' : List (Int × Bytes)) :
    pongsIn (texts ++ texts') = pongsIn texts ++ pongsIn texts' := List.filterMap_append

theorem pongsIn_oneText (sock : Int) (data : Bytes) : pongsIn (oneText sock data) = pongsIn [(sock, data)] := by
  unfold oneText
  split
  · rename_i hdata
    subst hdata
    rfl
  · rfl

theorem pongsIn_none {sock : Int} {data : Bytes} (h : paramsOf (ascii "PONG") data = none) :
    pongsIn [(sock, data)] = [] := by simp [pongsIn, h]

/-- Between the two worlds these PONGs were sent. -/
def Ponged (pongs : List (Int × Bytes)) (w w' : World) : Prop :=
  ∃ t texts, w'.trace = w.trace ++ t ∧ Hands texts t ∧ (NoPongAsked t → pongsIn texts = pongs)

theorem Ponged.append {pongs pongs' : List (Int × Bytes)} {w w₁ w₂ : World} (h : Ponged pongs w w₁)
    (h' : Ponged pongs' w₁ w₂) : Ponged (pongs ++ pongs') w w₂ := by
  obtain ⟨t, texts, ht, hhands, hpongs⟩ := h
  obtain ⟨t', texts', ht', hhands', hpongs'⟩ := h'
  refine ⟨t ++ t', texts ++ texts', by rw [ht', ht, List.append_assoc], hhands.append hhands', fun hasked => ?_⟩
  rw [pongsIn_append, hpongs fun input rc result hmem => hasked input rc result (List.mem_append_left _ hmem),
    hpongs' fun input rc result hmem => hasked input rc result (List.mem_append_right _ hmem)]

theorem ponged_same {w w' : World} (h : w'.trace = w.trace) : Ponged [] w w' :=
  ⟨[], [], by simp [h], hands_nil, fun _ => rfl⟩

instance : IsPreorder World (Ponged []) where
  refl _ := ponged_same rfl
  trans _ _ _ h h' := h.append h'

variable {α β : Type} {S : List Kind}

/-- What sends nothing answers nothing. -/
theorem ponged_none {m : M α} (hS : .send ∉ S) (h : Keeps (Acts S) m) : Keeps (Ponged []) m := by
  refine h.mono fun w w' hacts => ?_
  obtain ⟨t, ht, hkind⟩ := hacts.logs
  exact ⟨t, [], ht, hands_quiet fun o ho hsend => hS (hsend ▸ hkind o ho), fun _ => rfl⟩

theorem ask_ponged (f : Env → Nat → α) : Keeps (Ponged []) (ask f) := fun _ _ => ponged_same rfl

theorem log_ponged {o : Obs} (ho : o.kind ≠ .send) : Keeps (Ponged []) (log o) :=
  fun _ w => ⟨[o], [], rfl, hands_quiet (by simpa using ho), fun _ => rfl⟩

theorem netSendAll_ponged (sock : Int) {data : Bytes} (h : paramsOf (ascii "PONG") data = none) :
    Keeps (Ponged []) (netSendAll sock data) := by
  intro env w
  obtain ⟨rc, w', t, hrun, ht, hhands, -⟩ := netSendAll_hands sock data env w
  rw [hrun]
  exact ⟨t, _, ht, hhands, fun _ => by rw [pongsIn_oneText, pongsIn_none h]⟩

/-- A line is a PONG or it is none. -/
theorem ircSendLine_hands (sock : Int) (line : Bytes) (env : Env) (w : World) :
    ∃ rc w' t texts, ircSendLine sock line env w = (.ok rc, w') ∧ w'.trace = w.trace ++ t ∧ Hands texts t ∧
      pongsIn texts = pongsIn [(sock, line)] ∧ ∀ o ∈ t, o.kind = .send := by
  obtain ⟨rc, w₁, t, hline, ht, hhands, hkind⟩ := netSendAll_hands sock line env w
  unfold ircSendLine
  rw [bind_ok hline]
  by_cases hrc : rc = 0
  · obtain ⟨rc', w₂, t', hcrlf, ht', hhands', hkind'⟩ := netSendAll_hands sock CRLF env w₁
    rw [if_neg (not_not.2 hrc)]
    refine ⟨rc', w₂, t ++ t', _, hcrlf, by rw [ht', ht, List.append_assoc], hhands.append hhands', ?_, fun o ho => ?_⟩
    · have hnone : pongsIn [(sock, CRLF)] = [] := rfl
      rw [pongsIn_append, pongsIn_oneText, pongsIn_oneText, hnone, List.append_nil]
    · rcases List.mem_append.1 ho with ho | ho
      · exact hkind o ho
      · exact hkind' o ho
  · rw [if_pos hrc]
    exact ⟨-1, w₁, t, _, rfl, ht, hhands, pongsIn_oneText _ _, hkind⟩

theorem ircSendLine_ponged (sock : Int) (line : Bytes) (env : Env) (w : World) :
    Ponged (pongsIn [(sock, line)]) w (ircSendLine sock line env w).2 := by
  obtain ⟨rc, w', t, texts, hrun, ht, hhands, hpongs, -⟩ := ircSendLine_hands sock line env w
  rw [hrun]
  exact ⟨t, texts, ht, hhands, fun _ => hpongs⟩

theorem sendFormatted_ponged (sock : Int) {line : Bytes} (h : paramsOf (ascii "PONG") line = none) :
    Keeps (Ponged []) (sendFormatted sock line) := by
  refine keeps_ite (Keeps.bind (fun env w => ?_) fun _ => keeps_pure _) (keeps_pure _)
  have hanswers := ircSendLine_ponged sock line env w
  rwa [pongsIn_none h] at hanswers

/-! ## The handlers of an event -/

theorem sendReply_ponged (context : CommandContext) (target text : Bytes) :
    Keeps (Ponged []) (sendReply context target text) := by
  have hline : ascii "PRIVMSG " ++ target ++ ascii " :" ++ text =
      ascii "PRIVMSG" ++ SP :: (target ++ ascii " :" ++ text) := by
    have hword : ascii "PRIVMSG " = ascii "PRIVMSG" ++ [SP] := by decide
    simp [hword]
  unfold sendReply
  rw [hline]
  exact sendFormatted_ponged _ (paramsOf_word (by decide) (by decide) (by decide) _)

theorem httpText_params {method : Bytes} (hmethod : SP ∉ method) (hne : method ≠ []) (hcolon : method.head? ≠ some COLON)
    (hpong : method ≠ ascii "PONG") (botai : BotAi) (endpoint : Bytes) (body : Option Bytes) :
    paramsOf (ascii "PONG") (httpText botai method endpoint body) = none := by
  obtain ⟨rest, hrest⟩ : method ++ ascii " " <+: httpText botai method endpoint body := by
    unfold httpText
    cases body <;> simp only [List.append_assoc, List.prefix_append_right_inj, List.prefix_append]
  have hspace : ascii " " = [SP] := by decide
  rw [hspace, List.append_assoc, List.singleton_append] at hrest
  rw [← hrest, paramsOf_word hmethod hne hcolon, if_neg hpong]

theorem httpRequest_ponged {method : Bytes} (hmethod : SP ∉ method) (hne : method ≠ [])
    (hcolon : method.head? ≠ some COLON) (hpong : method ≠ ascii "PONG") (botai : BotAi) (endpoint : Bytes)
    (body : Option Bytes) (size : Nat) : Keeps (Ponged []) (httpRequest botai method endpoint body size) := by
  have hclose (sock : Int) : Keeps (Ponged []) (netCloseSocket sock) :=
    ponged_none (by decide) (netCloseSocket_keeps sock)
  unfold httpRequest
  cases hprepare : httpPrepare botai method endpoint body with
  | none => exact keeps_pure _
  | some request =>
    have hrequest : paramsOf (ascii "PONG") request = none := by
      rw [(httpPrepare_some hprepare).1]
      exact httpText_params hmethod hne hcolon hpong _ _ _
    refine (ponged_none (by decide) (netConnectIpv4_keeps _ _)).bind fun sock => keeps_ite (keeps_pure _) ?_
    refine (netSendAll_ponged _ hrequest).bind fun rc => keeps_ite ((hclose _).bind fun _ => keeps_pure _) ?_
    refine (ponged_none (by decide) (httpReceive_keeps _ _ _ _ _)).bind fun received => ?_
    split
    · exact keeps_pure _
    · exact (hclose _).bind fun _ => keeps_ite (keeps_pure _) (keeps_ite (keeps_pure _) (keeps_pure _))

theorem handleAi_ponged (botai : BotAi) (context : CommandContext) (target p : Bytes) :
    Keeps (Ponged []) (handleAi botai context target p) := by
  have hchat (message : Bytes) : Keeps (Ponged []) (botaiChat botai message (botaiReplyMax + 1)) := by
    unfold botaiChat
    split
    · exact keeps_pure _
    · refine (httpRequest_ponged (by decide) (by decide) (by decide) (by decide) _ _ _ _).bind fun response => ?_
      split <;> exact keeps_pure _
  unfold handleAi
  refine keeps_ite (sendReply_ponged _ _ _) (keeps_ite (sendReply_ponged _ _ _) ?_)
  exact (hchat _).bind fun _ => keeps_ite (sendReply_ponged _ _ _) (sendReply_ponged _ _ _)

theorem commandsHandleEvent_ponged (botai : BotAi) (event : Event) (context : CommandContext) :
    Keeps (Ponged []) (commandsHandleEvent botai event context) := by
  unfold commandsHandleEvent
  refine keeps_ite (keeps_pure _) (keeps_ite (keeps_pure _) ?_)
  split
  · exact sendReply_ponged _ _ _
  · refine keeps_ite (sendReply_ponged _ _ _) ?_
    split
    · exact sendReply_ponged _ _ _
    · exact sendReply_ponged _ _ _
    · exact sendReply_ponged _ _ _
    · exact handleAi_ponged _ _ _ _

/-! ## The ARexx port -/

/-- A raw line goes out, or nothing does. -/
theorem operationSendRaw_hands (text : Bytes) (env : Env) (w : World) :
    ∃ r w' t texts, operationSendRaw text env w = (.ok r, w') ∧ w'.trace = w.trace ++ t ∧ Hands texts t ∧
      (paramsOf (ascii "PONG") text = none → pongsIn texts = []) := by
  by_cases honline : w.control.Online
  · by_cases htext : text = []
    · subst htext
      obtain ⟨hconnected, hsock⟩ := honline
      have hgoes : ¬ (!w.control.connected || decide (w.control.sock < 0)) = true := by simp [hconnected, hsock]
      refine ⟨(10, setResult (ascii "MISSING LINE")), w, [], [], ?_, by simp, hands_nil, fun _ => rfl⟩
      unfold operationSendRaw
      rw [bind_ok (show getControl env w = (.ok w.control, w) from rfl), if_neg hgoes]
      rfl
    · obtain ⟨rc, w', t, texts, hrun, ht, hhands, hpongs, -⟩ := ircSendLine_hands w.control.sock text env w
      exact ⟨_, w', t, texts, operationSendRaw_online honline htext hrun, ht, hhands,
        fun hnone => hpongs.trans (pongsIn_none hnone)⟩
  · exact ⟨_, w, [], [], operationSendRaw_offline honline text env, by simp, hands_nil, fun _ => rfl⟩

/-- An ARexx command sends a PONG only where it asks for one. -/
theorem rexxAnswer_ponged (message : Bytes) : Keeps (Ponged []) (rexxAnswer message) := by
  have hcontrol (f : Control → Bytes × Control) : Keeps (Ponged []) (controlOperation f) := fun _ w => ponged_same rfl
  unfold rexxAnswer
  generalize cstr message = input
  dsimp only
  rw [dispatchCommand_eq]
  cases hrequest : requestOf input with
  | connect => exact (hcontrol operationConnect).bind fun _ => log_ponged (by simp [Obs.kind])
  | disconnect => exact (hcontrol operationDisconnect).bind fun _ => log_ponged (by simp [Obs.kind])
  | reload => exact (hcontrol operationReload).bind fun _ => log_ponged (by simp [Obs.kind])
  | quit => exact (hcontrol operationQuit).bind fun _ => log_ponged (by simp [Obs.kind])
  | refuse message => exact Keeps.bind (keeps_pure _) fun _ => log_ponged (by simp [Obs.kind])
  | status => exact (Keeps.bind (keeps_read _) fun _ => keeps_pure _).bind fun _ => log_ponged (by simp [Obs.kind])
  | line text =>
    intro env w
    obtain ⟨⟨rc, result⟩, w', t, texts, hrun, ht, hhands, hnone⟩ := operationSendRaw_hands text env w
    have hline : PortRequest.run (.line text) env w = (.ok (rc, result), w') := hrun
    rw [bind_ok hline]
    refine ⟨t ++ [.rexx input rc result], texts ++ [], ?_, hhands.append (hands_quiet (by simp [Obs.kind])), fun hasked => ?_⟩
    · show (w'.log _).trace = _
      simp [World.log, ht]
    · rw [List.append_nil]
      exact hnone (hasked input rc result (by simp) text hrequest)

theorem rexxProcess_ponged : Keeps (Ponged []) rexxProcess :=
  (ask_ponged _).bind fun _ => keeps_each fun _ _ => rexxAnswer_ponged _

theorem rexxRunScript_ponged (path : Bytes) (args : List Bytes) : Keeps (Ponged []) (rexxRunScript path args) := by
  have hwait : Keeps (Ponged []) scriptWaitLoop := by
    refine Keeps.bind (keeps_read _) fun _ => keeps_loop _ (fun _ => ?_) _
    exact (ask_ponged _).bind fun r => (keeps_when rexxProcess_ponged).bind fun _ => keeps_pure _
  unfold rexxRunScript
  refine (ask_ponged _).bind fun _ => keeps_ite (keeps_pure _) ?_
  split
  · exact keeps_pure _
  · refine (ask_ponged _).bind fun _ => keeps_ite (keeps_pure _) ?_
    exact (log_ponged (by simp [Obs.kind])).bind fun _ => hwait.bind fun _ => ask_ponged _

theorem hooksDispatchEvent_ponged (event : Event) (context : HookContext) :
    Keeps (Ponged []) (hooksDispatchEvent event context) := by
  unfold hooksDispatchEvent
  split
  · exact keeps_pure _
  · refine keeps_ite (keeps_pure _) ((ask_ponged _).bind fun _ => ?_)
    exact keeps_ite (keeps_pure _) ((rexxRunScript_ponged _ _).bind fun _ => keeps_pure _)

theorem dispatchEvent_ponged (botai : BotAi) (commands : CommandContext) (hooks : HookContext) (event : Event) :
    Keeps (Ponged []) (dispatchEvent botai commands hooks event) := by
  refine Keeps.bind (keeps_read _) fun _ => (log_ponged (by simp [Obs.kind])).bind fun _ => ?_
  exact (commandsHandleEvent_ponged _ _ _).bind fun _ => hooksDispatchEvent_ponged _ _

/-! ## Runs that end -/

/-- Every hook script that is waited for ends. -/
def ScriptsEnd (env : Env) : Prop := ∀ w, ∃ w', scriptWaitLoop env w = (.ok (), w')

/-- `m` returns where the scripts end. -/
def Ends (m : M α) : Prop := ∀ env w, ScriptsEnd env → ∃ a w', m env w = (.ok a, w')

theorem ends_total {m : M α} (h : Total m) : Ends m := fun env w _ => h env w

theorem Ends.bind {m : M α} {f : α → M β} (hm : Ends m) (hf : ∀ a, Ends (f a)) : Ends (m >>= f) := by
  intro env w hscripts
  obtain ⟨a, w₁, h₁⟩ := hm env w hscripts
  rw [bind_ok h₁]
  exact hf a env w₁ hscripts

theorem ends_ite {c : Prop} [Decidable c] {m m' : M α} (h : Ends m) (h' : Ends m') : Ends (if c then m else m') := by
  split
  · exact h
  · exact h'

theorem commandsHandleEvent_total (botai : BotAi) (event : Event) (context : CommandContext) :
    Total (commandsHandleEvent botai event context) := by
  have reply (target text : Bytes) : Total (sendReply context target text) := sendFormatted_total _ _
  unfold commandsHandleEvent
  refine total_ite (total_pure _) (total_ite (total_pure _) ?_)
  split
  · exact reply _ _
  · refine total_ite (reply _ _) ?_
    split
    · exact reply _ _
    · exact reply _ _
    · exact reply _ _
    · refine total_ite (reply _ _) (total_ite (reply _ _) ?_)
      exact (botaiChat_total _ _ _).bind fun _ => total_ite (reply _ _) (reply _ _)

theorem hooksDispatchEvent_ends (event : Event) (context : HookContext) : Ends (hooksDispatchEvent event context) := by
  have hask {γ : Type} (f : Env → Nat → γ) : Ends (ask f) := ends_total (ask_total f)
  have hpure {γ : Type} (a : γ) : Ends (pure a : M γ) := ends_total (total_pure a)
  have hwait : Ends scriptWaitLoop := fun env w hscripts => ⟨(), hscripts w⟩
  have hscript (path : Bytes) (args : List Bytes) : Ends (rexxRunScript path args) := by
    unfold rexxRunScript
    refine (hask _).bind fun _ => ends_ite (hpure _) ?_
    split
    · exact hpure _
    · refine (hask _).bind fun _ => ends_ite (hpure _) ?_
      exact (ends_total (log_total _)).bind fun _ => hwait.bind fun _ => hask _
  unfold hooksDispatchEvent
  split
  · exact hpure _
  · refine ends_ite (hpure _) ((hask _).bind fun _ => ends_ite (hpure _) ?_)
    exact (hscript _ _).bind fun _ => hpure _

theorem dispatchEvent_ends (botai : BotAi) (commands : CommandContext) (hooks : HookContext) (event : Event) :
    Ends (dispatchEvent botai commands hooks event) := by
  refine Ends.bind (fun _ w _ => ⟨w.control, w, rfl⟩) fun control => (ends_total (log_total _)).bind fun _ => ?_
  exact (ends_total (commandsHandleEvent_total _ _ _)).bind fun _ => hooksDispatchEvent_ends _ _

theorem eventDispatchPending_ends {handler : Event → M Unit} (h : ∀ event, Ends (handler event)) (n : Nat)
    (queue : EventQueue) : Ends (eventDispatchPending handler n queue) := by
  induction n generalizing queue with
  | zero => exact ends_total (total_pure _)
  | succ n ih =>
    unfold eventDispatchPending
    split
    · exact ends_total (total_pure _)
    · exact (h _).bind fun _ => ih _

/-! ## The line handlers -/

/-- A run that returns has sent these PONGs, and returns in `Q`. One that a
script holds up has sent the first of them. -/
def Answering (pongs : List (Int × Bytes)) (m : M α) (Q : α → Prop) : Prop :=
  ∀ env w, match m env w with
    | (.ok a, w') => Q a ∧ Ponged pongs w w'
    | (.error _, w') => ¬ ScriptsEnd env ∧ ∃ part, part <+: pongs ∧ Ponged part w w'

theorem Answering.ok {pongs : List (Int × Bytes)} {m : M α} {Q : α → Prop} (h : Answering pongs m Q) {env : Env}
    {w w' : World} {a : α} (hr : m env w = (.ok a, w')) : Q a ∧ Ponged pongs w w' := by
  have hrun := h env w
  rwa [hr] at hrun

theorem answering_pure {a : α} {Q : α → Prop} (h : Q a) : Answering [] (pure a : M α) Q :=
  fun _ _ => ⟨h, ponged_same rfl⟩

theorem Answering.bind {pongs pongs' : List (Int × Bytes)} {m : M α} {f : α → M β} {Q : α → Prop} {Q' : β → Prop}
    (hm : Answering pongs m Q) (hf : ∀ a, Q a → Answering pongs' (f a) Q') :
    Answering (pongs ++ pongs') (m >>= f) Q' := by
  intro env w
  have hfirst := hm env w
  rcases hr : m env w with ⟨halt | a, w₁⟩ <;> rw [hr] at hfirst
  · obtain ⟨hscripts, part, hpart, hponged⟩ := hfirst
    rw [bind_run, hr]
    exact ⟨hscripts, part, hpart.trans (List.prefix_append _ _), hponged⟩
  · obtain ⟨ha, hponged⟩ := hfirst
    have hsecond := hf a ha env w₁
    rw [bind_ok hr]
    rcases hr' : f a env w₁ with ⟨halt | b, w₂⟩ <;> rw [hr'] at hsecond
    · obtain ⟨hscripts, part, hpart, hponged'⟩ := hsecond
      exact ⟨hscripts, pongs ++ part, (List.prefix_append_right_inj _).2 hpart, hponged.append hponged'⟩
    · exact ⟨hsecond.1, hponged.append hsecond.2⟩

theorem Answering.bind_nil {pongs : List (Int × Bytes)} {m : M α} {f : α → M β} {Q : α → Prop} {Q' : β → Prop}
    (hm : Answering pongs m Q) (hf : ∀ a, Q a → Answering [] (f a) Q') : Answering pongs (m >>= f) Q' := by
  simpa using hm.bind hf

theorem answering_none {m : M α} (hends : Ends m) (h : Keeps (Ponged []) m) : Answering [] m fun _ => True := by
  intro env w
  have hponged := h env w
  rcases hr : m env w with ⟨halt | a, w'⟩ <;> rw [hr] at hponged
  · refine ⟨fun hscripts => ?_, [], List.prefix_rfl, hponged⟩
    obtain ⟨a, w₁, hok⟩ := hends env w hscripts
    rw [hr] at hok
    cases hok
  · exact ⟨trivial, hponged⟩

theorem sendFormatted_answering (sock : Int) (line : Bytes) :
    Answering (if fits (ircLineMax + 1) line then pongsIn [(sock, line)] else []) (sendFormatted sock line)
      fun _ => True := by
  unfold sendFormatted
  split
  · intro env w
    obtain ⟨rc, w', t, texts, hrun, ht, hhands, hpongs, -⟩ := ircSendLine_hands sock line env w
    rw [bind_ok hrun]
    exact ⟨trivial, t, texts, ht, hhands, fun _ => hpongs⟩
  · exact answering_pure trivial

/-- What the handlers answer to a line. -/
def linePongs (sock : Int) (line : Bytes) : List (Int × Bytes) :=
  if isPing (cstr line) then
    if fits (ircLineMax + 1) (ascii "PONG " ++ (cstr line).drop 5) then
      pongsIn [(sock, ascii "PONG " ++ (cstr line).drop 5)]
    else []
  else []

theorem linePongs_other {line : Bytes} (h : ¬ isPing (cstr line) = true) (sock : Int) : linePongs sock line = [] :=
  if_neg h

theorem sendPong_answering (sock : Int) {line : Bytes} (h : isPing (cstr line) = true) :
    Answering (linePongs sock line) (sendPong sock (cstr line)) fun _ => True := by
  unfold linePongs
  rw [if_pos h]
  exact sendFormatted_answering _ _

theorem sessionHandleLine_answering (sock : Int) (line : Bytes) (queue : EventQueue) :
    Answering (linePongs sock line) (sessionHandleLine sock line queue) fun r => r.1 = 0 ∧ True := by
  unfold sessionHandleLine
  by_cases hping : isPing (cstr line) = true
  · simp only [hping, if_true]
    exact (sendPong_answering sock hping).bind_nil fun _ _ => answering_pure ⟨rfl, trivial⟩
  · rw [linePongs_other hping]
    simp only [hping, if_false, Bool.false_eq_true]
    split <;> exact answering_pure ⟨rfl, trivial⟩

/-- An open connection whose negotiation is off or finished. -/
structure Live (sock : Int) (runtime : NetworkRuntime) : Prop where
  socket : runtime.sock = sock
  connected : 0 ≤ sock
  negotiated : runtime.modern.capActive = false ∨ runtime.modern.capEnded = true

theorem multinetHandleLine_answering (botai : BotAi) {sock : Int} (line : Bytes) {runtime : NetworkRuntime}
    (h : Live sock runtime) :
    Answering (linePongs sock line) (multinetHandleLine botai line runtime) fun r => r.1 = 0 ∧ Live sock r.2 := by
  obtain ⟨rfl, hsock, hdone⟩ := h
  have hopen : ¬ runtime.sock < 0 := not_lt.2 hsock
  have hmodern : Answering [] (modernIrcAnswer runtime.sock runtime.config runtime.modern (cstr line))
      fun r => r = (0, runtime.modern) := by
    have hoff : (!runtime.modern.capActive || runtime.modern.capEnded) = true := by simpa using hdone
    unfold modernIrcAnswer modernIrcHandleLine
    rw [if_pos hoff]
    refine (answering_none (ends_total (log_total _)) (log_ponged (by simp [Obs.kind]))).bind_nil fun _ _ => ?_
    refine Answering.bind_nil (Q := fun r => r = (0, runtime.modern)) (answering_pure rfl) fun r hr => ?_
    refine (answering_none (ends_total (log_total _)) (log_ponged (by simp [Obs.kind]))).bind_nil fun _ _ => ?_
    exact answering_pure hr
  unfold multinetHandleLine
  rw [if_neg hopen, ← List.nil_append (linePongs runtime.sock line)]
  refine hmodern.bind fun r hr => ?_
  subst hr
  by_cases hping : isPing (cstr line) = true
  · simp only [hping, ne_eq, not_true_eq_false, if_false, if_true]
    exact (sendPong_answering _ hping).bind_nil fun _ _ => answering_pure ⟨rfl, rfl, hsock, hdone⟩
  · rw [linePongs_other hping]
    simp only [hping, ne_eq, not_true_eq_false, if_false, Bool.false_eq_true, hopen]
    split
    · exact answering_pure ⟨rfl, rfl, hsock, hdone⟩
    · split
      · exact answering_pure ⟨rfl, rfl, hsock, hdone⟩
      · refine (answering_none (eventDispatchPending_ends (dispatchEvent_ends _ _ _) _ _)
          (eventDispatchPending_keeps (dispatchEvent_ponged _ _ _) _ _)).bind_nil fun _ _ => ?_
        exact answering_pure ⟨rfl, rfl, hsock, hdone⟩

/-! ## The reads of a connection -/

section
variable {σ : Type} {I : σ → Prop} {sock : Int} {callback : Bytes → σ → M (Int × σ)}
  (h : ∀ line user, I user → Answering (linePongs sock line) (callback line user) fun r => r.1 = 0 ∧ I r.2)
include h

theorem deliver_answering (lines : List Bytes) {user : σ} (hu : I user) :
    Answering (lines.flatMap (linePongs sock)) (deliver callback lines user) I := by
  induction lines generalizing user with
  | nil => exact answering_pure hu
  | cons line lines ih =>
    rw [List.flatMap_cons]
    exact (h line user hu).bind fun r hr => ih hr.2

theorem framerFeed_answering (p data : Bytes) {user : σ} (hu : I user) :
    Answering ((framedLines (cut LF p data).1).flatMap (linePongs sock)) (framerFeed callback data (absFramer p) user)
      fun r => r.1 = absFramer (cut LF p data).2 ∧ I r.2 := by
  have hzero : ReturnsZero I callback := fun line user hu env w r w' hr => ((h line user hu).ok hr).1
  rw [framerFeed_eq_deliver hzero p data hu]
  exact (deliver_answering h _ hu).bind_nil fun user hu => answering_pure ⟨rfl, hu⟩

end

theorem sessionFeed_answering (botai : BotAi) (sock : Int) (p data : Bytes) {s : SessionState}
    (hframer : s.framer = absFramer p) :
    Answering ((framedLines (cut LF p data).1).flatMap (linePongs sock)) (sessionFeed botai sock data s)
      fun s => s.framer = absFramer (cut LF p data).2 := by
  unfold sessionFeed
  rw [hframer]
  refine (framerFeed_answering (I := fun _ => True) (fun line queue _ => sessionHandleLine_answering sock line queue)
    p data trivial).bind_nil fun r hr => ?_
  refine (answering_none (eventDispatchPending_ends (fun event => ?_) _ _)
    (eventDispatchPending_keeps (fun event => ?_) _ _)).bind_nil fun _ _ => answering_pure hr.1
  · exact Ends.bind (fun _ w _ => ⟨w.config, w, rfl⟩) fun _ => dispatchEvent_ends _ _ _ _
  · exact Keeps.bind (keeps_read _) fun _ => dispatchEvent_ponged _ _ _ _

theorem feedNetwork_answering (botai : BotAi) (i : Nat) (c : Counters) {sock : Int} (p data : Bytes) {slot : Slot}
    (hframer : slot.runtime.framer = absFramer p) (h : Live sock slot.runtime) :
    Answering ((framedLines (cut LF p data).1).flatMap (linePongs sock)) (feedNetwork botai i c slot data)
      fun r => r.2.runtime.framer = absFramer (cut LF p data).2 ∧ Live sock r.2.runtime := by
  unfold feedNetwork
  rw [hframer]
  refine (framerFeed_answering (fun line _ => multinetHandleLine_answering botai line) p data h).bind_nil fun r hr => ?_
  have hopen : ¬ r.2.sock < 0 := not_lt.2 (hr.2.socket ▸ hr.2.connected)
  simp only [hopen, if_false]
  exact answering_pure ⟨hr.1, hr.2.socket, hr.2.connected, hr.2.negotiated⟩

/-- The lines the reads complete after the unfinished line `p`. -/
def readLines (p : Bytes) (reads : List Bytes) : List Bytes := framedLines (cut LF p reads.flatten).1

theorem readLines_cons (p data : Bytes) (reads : List Bytes) :
    readLines p (data :: reads) = framedLines (cut LF p data).1 ++ readLines (cut LF p data).2 reads := by
  rw [readLines, readLines, List.flatten_cons, cut_append, framedLines_append]

theorem sessionFeeds_answering (botai : BotAi) (sock : Int) (p : Bytes) (reads : List Bytes) {s : SessionState}
    (hframer : s.framer = absFramer p) :
    Answering ((readLines p reads).flatMap (linePongs sock)) (sessionFeeds botai sock reads s) fun _ => True := by
  induction reads generalizing p s with
  | nil => exact answering_pure trivial
  | cons data reads ih =>
    rw [readLines_cons, List.flatMap_append]
    exact (sessionFeed_answering botai sock p data hframer).bind fun s hs => ih _ hs

theorem feedNetworks_answering (botai : BotAi) (i : Nat) (c : Counters) {sock : Int} (p : Bytes) (reads : List Bytes)
    {slot : Slot} (hframer : slot.runtime.framer = absFramer p) (h : Live sock slot.runtime) :
    Answering ((readLines p reads).flatMap (linePongs sock)) (feedNetworks botai i reads c slot) fun _ => True := by
  induction reads generalizing p c slot with
  | nil => exact answering_pure trivial
  | cons data reads ih =>
    rw [readLines_cons, List.flatMap_append]
    exact (feedNetwork_answering botai i c p data hframer h).bind fun r hr => ih _ _ hr.1 hr.2

/-! ## Exactly the PINGs -/

theorem framedLines_length {segments : List Bytes} {line : Bytes} (h : line ∈ framedLines segments) :
    line.length ≤ ircLineMax := by
  obtain ⟨segment, hsegment, rfl⟩ := List.mem_map.1 h
  exact (dropCr_length segment).trans (by simpa using (List.mem_filter.1 hsegment).2)

/-- The answer to a line that the framer hands on fits its buffer. -/
theorem linePongs_framed {line : Bytes} (hlength : line.length ≤ ircLineMax) (sock : Int) :
    linePongs sock line = if isPing (cstr line) then [(sock, skipBlanks ((cstr line).drop 5))] else [] := by
  unfold linePongs
  split
  · rename_i hping
    have hfits : fits (ircLineMax + 1) (ascii "PONG " ++ (cstr line).drop 5) = true := by
      have hcstr : (cstr line).length ≤ line.length := (List.takeWhile_prefix _).length_le
      obtain ⟨rest, hrest⟩ := isPing_iff.1 hping
      rw [hrest] at hcstr ⊢
      have hsame : (ascii "PONG " ++ (ascii "PING" ++ SP :: rest).drop 5).length = (ascii "PING" ++ SP :: rest).length := rfl
      simp only [fits, hsame, Bool.and_eq_true, decide_eq_true_eq]
      simp at hcstr ⊢
      omega
    rw [if_pos hfits]
    simp [pongsIn, (isPing_params hping).2]
  · rfl

theorem filterMap_length_le {f g : α → Option β} {l : List α} (h : ∀ x ∈ l, f x = none ∨ f x = g x) :
    (l.filterMap f).length ≤ (l.filterMap g).length := by
  induction l with
  | nil => exact le_rfl
  | cons x l ih =>
    obtain ⟨hx, hrest⟩ := List.forall_mem_cons.1 h
    have hle := ih hrest
    rw [List.filterMap_cons, List.filterMap_cons]
    rcases hx with hx | hx
    · rw [hx]
      cases g x with
      | none => exact hle
      | some y => exact hle.trans (Nat.le_succ _)
    · rw [hx]
      cases g x with
      | none => exact hle
      | some y => exact Nat.succ_le_succ hle

/-- Where `f` is `g` or nothing, it makes of a list what `g` does only if it is
`g` on all of it. -/
theorem filterMap_eq_iff {f g : α → Option β} {l : List α} (h : ∀ x ∈ l, f x = none ∨ f x = g x) :
    l.filterMap f = l.filterMap g ↔ ∀ x ∈ l, f x = g x := by
  constructor
  · induction l with
    | nil => exact fun _ => List.forall_mem_nil _
    | cons x l ih =>
      intro heq
      obtain ⟨hx, hrest⟩ := List.forall_mem_cons.1 h
      rw [List.filterMap_cons, List.filterMap_cons] at heq
      have hsame : f x = g x := by
        rcases hx with hnone | hsame
        · cases hg : g x with
          | none => exact hnone
          | some y =>
            -- then the second list is longer
            rw [hnone, hg] at heq
            dsimp only at heq
            have hlength := congrArg List.length heq
            have hle := filterMap_length_le hrest
            rw [List.length_cons] at hlength
            omega
        · exact hsame
      refine List.forall_mem_cons.2 ⟨hsame, ih hrest ?_⟩
      rw [hsame] at heq
      cases hg : g x with
      | none =>
        rw [hg] at heq
        exact heq
      | some y =>
        rw [hg] at heq
        exact (List.cons.inj heq).2
  · exact List.filterMap_congr

theorem pingParams_ne_nil {line params : Bytes} (h : pingParams line = some params) : params ≠ [] := by
  simpa using (Option.filter_eq_some_iff.1 h).2

theorem pingParams_ping {line : Bytes} (h : isPing line = true) :
    pingParams line = if skipBlanks (line.drop 5) = [] then none else some (skipBlanks (line.drop 5)) := by
  unfold pingParams
  rw [(isPing_params h).1]
  split <;> simp [*]

/-- A line is answered as it is due if and only if its PING is plain. -/
theorem linePongs_eq_duePong (sock : Int) {line : Bytes} (hlength : line.length ≤ ircLineMax) :
    linePongs sock line = (duePong sock line).toList ↔ PlainPing (cstr line) := by
  rw [linePongs_framed hlength, PlainPing, duePong]
  by_cases hping : isPing (cstr line) = true
  · rw [pingParams_ping hping]
    by_cases hparams : skipBlanks ((cstr line).drop 5) = [] <;> simp [hping, hparams]
  · cases hdue : pingParams (cstr line) <;> simp [hping]

/-- The answers are those due if and only if the PINGs are plain. -/
theorem linePongs_eq_iff (sock : Int) {lines : List Bytes} (hlines : ∀ line ∈ lines, line.length ≤ ircLineMax) :
    lines.flatMap (linePongs sock) = lines.filterMap (duePong sock) ↔ ∀ line ∈ lines, PlainPing (cstr line) := by
  constructor
  · intro heq
    -- no answer without parameters is due, so every answer given is due
    have hgiven (line : Bytes) (hline : line ∈ lines) (hping : isPing (cstr line) = true) :
        duePong sock line = some (sock, skipBlanks ((cstr line).drop 5)) := by
      have hmem : (sock, skipBlanks ((cstr line).drop 5)) ∈ lines.flatMap (linePongs sock) := by
        refine List.mem_flatMap.2 ⟨line, hline, ?_⟩
        simp [linePongs_framed (hlines line hline), hping]
      rw [heq] at hmem
      obtain ⟨line', -, hdue⟩ := List.mem_filterMap.1 hmem
      obtain ⟨params, hparams, hpair⟩ := Option.map_eq_some_iff.1 hdue
      have hne : skipBlanks ((cstr line).drop 5) ≠ [] := (Prod.mk.inj hpair).2 ▸ pingParams_ne_nil hparams
      rw [duePong, pingParams_ping hping, if_neg hne]
      rfl
    have hfilter : lines.flatMap (linePongs sock) =
        lines.filterMap fun line => if isPing (cstr line) then duePong sock line else none := by
      rw [List.filterMap_eq_flatMap_toList]
      apply List.flatMap_congr
      intro line hline
      rw [linePongs_framed (hlines line hline)]
      split
      · rename_i hping
        rw [hgiven line hline hping]
        rfl
      · rfl
    rw [hfilter] at heq
    have hall := (filterMap_eq_iff fun line _ => by split <;> simp).1 heq
    intro line hline
    rw [← linePongs_eq_duePong sock (hlines line hline), linePongs_framed (hlines line hline), ← hall line hline]
    split
    · rename_i hping
      rw [hgiven line hline hping]
      rfl
    · rfl
  · intro h
    rw [List.filterMap_eq_flatMap_toList]
    apply List.flatMap_congr
    intro line hline
    exact (linePongs_eq_duePong sock (hlines line hline)).2 (h line hline)

/-! ## Both sessions -/

/-- A run of a connection that reads these lines, whatever part of its texts
each `send` takes: it returns where the scripts end, and answers the PINGs if
and only if they are plain. One that does not return has answered the first of
them. -/
structure AnsweredIff (sock : Int) (lines : List Bytes) (env : Env) (w : World) (run : Except Halt α × World) : Prop where
  returns : ScriptsEnd env → ∃ a, run.1 = .ok a
  answers : ∃ t, run.2.trace = w.trace ++ t ∧ (SendsSucceed t → ∀ fd, takenOn fd t = textsOn fd (sentTexts [] t)) ∧
    (NoPongAsked t →
      (∀ a, run.1 = .ok a → (PingsAnswered sock lines t ↔ ∀ line ∈ lines, PlainPing (cstr line))) ∧
        ((∀ line ∈ lines, PlainPing (cstr line)) → pongsIn (sentTexts [] t) <+: lines.filterMap (duePong sock)))

theorem Answering.answeredIff {sock : Int} {lines : List Bytes} {m : M α} {Q : α → Prop}
    (h : Answering (lines.flatMap (linePongs sock)) m Q) (hlines : ∀ line ∈ lines, line.length ≤ ircLineMax)
    (env : Env) (w : World) : AnsweredIff sock lines env w (m env w) := by
  have hrun := h env w
  have hplain := linePongs_eq_iff sock hlines
  rcases hr : m env w with ⟨halt | a, w'⟩ <;> rw [hr] at hrun
  · obtain ⟨hscripts, part, hpart, t, texts, ht, hhands, hpongs⟩ := hrun
    refine ⟨fun hends => absurd hends hscripts, t, ht, fun hsucceed fd => ?_, fun hasked => ⟨nofun, fun hall => ?_⟩⟩
    · rw [hhands.read]
      exact hhands.taken hsucceed fd
    · rw [hhands.read, hpongs hasked, ← hplain.2 hall]
      exact hpart
  · obtain ⟨-, t, texts, ht, hhands, hpongs⟩ := hrun
    refine ⟨fun _ => ⟨a, rfl⟩, t, ht, fun hsucceed fd => ?_, fun hasked => ⟨fun _ _ => ?_, fun hall => ?_⟩⟩
    · rw [hhands.read]
      exact hhands.taken hsucceed fd
    · rw [PingsAnswered, hhands.read, hpongs hasked]
      exact hplain
    · rw [hhands.read, hpongs hasked, hplain.2 hall]

theorem readLines_framesOf {p : Bytes} (hp : LF ∉ p) (reads : List Bytes) :
    readLines p reads = framesOf (p ++ reads.flatten) := by
  rw [readLines, framesOf, splitOn_eq_cut LF hp, List.dropLast_concat]

/-- In both sessions the PONGs sent are those due for the framed lines, one for
each PING with a parameter, if and only if every line that starts with `PING `
is one and every one starts so. `p` is what came before of an unfinished line. -/
theorem pings_answered_iff (botai : BotAi) {p : Bytes} (hp : LF ∉ p) (reads : List Bytes) (env : Env) (w : World) :
    (∀ sock s, s.framer = absFramer p →
      AnsweredIff sock (framesOf (p ++ reads.flatten)) env w (sessionFeeds botai sock reads s env w)) ∧
    (∀ i c sock slot, slot.runtime.framer = absFramer p → Live sock slot.runtime →
      AnsweredIff sock (framesOf (p ++ reads.flatten)) env w (feedNetworks botai i reads c slot env w)) := by
  rw [← readLines_framesOf hp]
  have hlines : ∀ line ∈ readLines p reads, line.length ≤ ircLineMax := fun _ => framedLines_length
  constructor
  · intro sock s hframer
    exact (sessionFeeds_answering botai sock p reads hframer).answeredIff hlines env w
  · intro i c sock slot hframer hlive
    exact (feedNetworks_answering botai i c p reads hframer hlive).answeredIff hlines env w

/-- One read of a connection without negotiation, in each session. -/
def singleRead (read : Bytes) : Except Halt SessionState × World :=
  sessionFeeds botaiInit 3 [read] sessionInit Env.online (worldInit configInit)

def multiRead (read : Bytes) : Except Halt (Counters × Slot) × World :=
  feedNetworks botaiInit 0 [read] { active := 1, retrying := 0 }
    (plainSlot (copyNetwork (networkDefaults configInit)) 3) Env.online (worldInit configInit)

/-- A plain PING, which both sessions answer. -/
theorem pings_answered_plain :
    let lines := framesOf (ascii "PING :x y\r\n")
    (∀ line ∈ lines, PlainPing (cstr line)) ∧
      AnsweredIff 3 lines Env.online (worldInit configInit) (singleRead (ascii "PING :x y\r\n")) ∧
      AnsweredIff 3 lines Env.online (worldInit configInit) (multiRead (ascii "PING :x y\r\n")) ∧
      (singleRead (ascii "PING :x y\r\n")).1.isOk = true ∧ (multiRead (ascii "PING :x y\r\n")).1.isOk = true := by
  have h := pings_answered_iff botaiInit List.not_mem_nil [ascii "PING :x y\r\n"] Env.online (worldInit configInit)
  simp only [List.nil_append, List.flatten_singleton] at h
  refine ⟨?_, h.1 3 sessionInit rfl, ?_, by decide +kernel⟩
  · unfold PlainPing
    decide +kernel
  · exact h.2 0 { active := 1, retrying := 0 } 3 (plainSlot (copyNetwork (networkDefaults configInit)) 3) rfl
      ⟨rfl, by decide, .inl rfl⟩

/-- A PING with a prefix. -/
theorem prefixed_ping_unanswered :
    ¬ PingsAnswered 3 (framesOf (ascii ":irc.net PING x\r\n")) (singleRead (ascii ":irc.net PING x\r\n")).2.trace ∧
      ¬ PingsAnswered 3 (framesOf (ascii ":irc.net PING x\r\n")) (multiRead (ascii ":irc.net PING x\r\n")).2.trace := by
  unfold PingsAnswered
  decide +kernel

end AmBot
