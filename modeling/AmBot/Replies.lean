import AmBot.Chat
import AmBot.Talks
import AmBot.Transmit
/-!
# Replies to `!AI`

What the service answers goes to IRC in one line: the text of an answer has no
control byte, and the sender and the target come from a line without an LF.
-/

namespace AmBot

open RunLib RunLib.Prog

/-! ## The fields of an event -/

theorem copyValue_subset (size : Nat) (src : Bytes) : copyValue size src ⊆ src := List.take_subset _ _

theorem upTo_subset (c : UInt8) (p : Bytes) : upTo c p ⊆ p := (List.takeWhile_prefix _).subset

theorem skipBlanks_subset (p : Bytes) : skipBlanks p ⊆ p := (List.dropWhile_suffix _).subset

theorem splitPrefix_subset {line p : Bytes} {sender : Option Bytes} (h : splitPrefix line = some (sender, p)) :
    sender.getD [] ⊆ line ∧ p ⊆ line := by
  unfold splitPrefix at h
  split at h
  · rename_i rest
    cases hchr : strchr SP rest with
    | none => rw [hchr] at h; cases h
    | some q =>
      rw [hchr] at h
      obtain ⟨rfl, rfl⟩ := Prod.mk.injEq .. ▸ Option.some.inj h
      have hq : q ⊆ rest := by
        unfold strchr at hchr
        split at hchr
        · cases hchr
        · cases hchr
          exact (List.dropWhile_suffix _).subset
      exact ⟨List.subset_cons_of_subset _ (upTo_subset SP rest),
        List.subset_cons_of_subset _ (List.Subset.trans (List.drop_subset 1 q) hq)⟩
  · obtain ⟨rfl, rfl⟩ := Prod.mk.injEq .. ▸ Option.some.inj h
    exact ⟨List.nil_subset _, List.Subset.refl _⟩

theorem firstParam_subset (p : Bytes) : (firstParam p).1 ⊆ p ∧ (firstParam p).2 ⊆ p := by
  have hskip := skipBlanks_subset p
  unfold firstParam
  split
  · exact ⟨List.nil_subset _, List.nil_subset _⟩
  · rename_i t ht
    rw [ht] at hskip
    exact ⟨List.nil_subset _, hskip⟩
  · exact ⟨List.Subset.trans (upTo_subset _ _) hskip, List.Subset.trans (List.drop_subset _ _) hskip⟩

theorem trailingOf_subset (p : Bytes) : (trailingOf p).getD [] ⊆ p := by
  have hskip := skipBlanks_subset p
  unfold trailingOf
  split
  · exact List.nil_subset _
  · rename_i t ht
    rw [ht] at hskip
    exact List.Subset.trans (List.subset_cons_self _ _) hskip
  · exact hskip

theorem eventOf_subset (type : EventType) {nick params line : Bytes} (hparams : params ⊆ line) :
    (eventOf type nick params).target ⊆ line := by
  obtain ⟨hparam, hrest⟩ := firstParam_subset params
  have htarget : copyValue eventTargetSize (firstParam params).1 ⊆ line :=
    List.Subset.trans (copyValue_subset eventTargetSize _) (List.Subset.trans hparam hparams)
  have htrailing : (trailingOf (firstParam params).2).getD [] ⊆ line :=
    List.Subset.trans (trailingOf_subset _) (List.Subset.trans hrest hparams)
  by_cases htype : type = .nick
  · subst htype
    rw [eventOf_nick]
    refine List.Subset.trans (copyValue_subset _ _) ?_
    cases htext : trailingOf (firstParam params).2 with
    | none => exact htarget
    | some t =>
      rw [htext] at htrailing
      exact htrailing
  · rw [eventOf_text htype]
    exact htarget

/-- The fields of an event are made of the bytes of its line. -/
theorem eventFromIrcLine_subset {line : Bytes} {event : Event} (h : eventFromIrcLine line = some event) :
    event.nick ⊆ line ∧ event.target ⊆ line := by
  cases hsplit : splitPrefix line with
  | none =>
    rw [eventFromIrcLine_none hsplit] at h
    cases h
  | some r =>
    obtain ⟨sender, p⟩ := r
    obtain ⟨hsender, hp⟩ := splitPrefix_subset hsplit
    have hdrop : (skipBlanks p).drop (upTo SP (skipBlanks p)).length ⊆ line :=
      List.Subset.trans (List.drop_subset _ _) (List.Subset.trans (skipBlanks_subset p) hp)
    rw [eventFromIrcLine_split hsplit] at h
    split at h
    · cases h
    · obtain rfl := Option.some.inj h
      rw [eventOf_sender]
      exact ⟨List.Subset.trans (copyValue_subset eventNickSize _) (List.Subset.trans (upTo_subset BANG _) hsender),
        eventOf_subset _ hdrop⟩

/-- The answer goes to the target or to the sender of the event. -/
theorem replyTarget_subset {line : Bytes} {event : Event} (h : eventFromIrcLine line = some event)
    (context : CommandContext) : replyTarget event context ⊆ line := by
  obtain ⟨hnick, htarget⟩ := eventFromIrcLine_subset h
  unfold replyTarget
  split
  · exact hnick
  · exact htarget

/-! ## The answer -/

def aiReplies : List Bytes :=
  [ascii "Usage: !AI <message>", ascii "BotAI is unavailable", ascii "BotAI is temporarily unavailable"]

/-- One of the fixed messages, or text without control bytes. -/
def AiReply (reply : Bytes) : Prop := reply ∈ aiReplies ∨ reply ≠ [] ∧ ∀ c ∈ reply, 32 ≤ c

theorem AiReply.no_lf {reply : Bytes} (h : AiReply reply) : LF ∉ reply := by
  rcases h with h | ⟨-, h⟩
  · have hfixed : ∀ r ∈ aiReplies, LF ∉ r := by decide
    exact hfixed reply h
  · exact fun hlf => absurd (h LF hlf) (by decide)

def replyLine (target text : Bytes) : Bytes := ascii "PRIVMSG " ++ target ++ ascii " :" ++ text

/-- A line is one line if its target and its text are. -/
theorem replyLine_no_lf {target text : Bytes} (htarget : LF ∉ target) (htext : LF ∉ text) :
    LF ∉ replyLine target text := by
  have hfixed : LF ∉ ascii "PRIVMSG " ∧ LF ∉ ascii " :" := by decide
  simp only [replyLine, List.mem_append, not_or]
  exact ⟨⟨⟨hfixed.1, htarget⟩, hfixed.2⟩, htext⟩

/-- Nothing, or one line with a reply. -/
def Answers (sock : Int) (target : Bytes) (t : List Obs) : Prop :=
  t = [] ∨ ∃ reply, AiReply reply ∧ Transmits sock (replyLine target reply) t

variable {env : Env} {w : World} {botai : BotAi} {context : CommandContext} {event : Event}

/-- Each send goes to a socket that was opened before it. -/
abbrev OwnSockets (t : List Obs) : Prop := Lawful (OnSocket [] []) t

/-- What the message of an `!AI` command is. -/
def aiMessage (event : Event) : Bytes := skipBlanks (commandName event.text).2

/-- The service answers an `!AI` command with this text. -/
def AiSays (env : Env) (w : World) (botai : BotAi) (event : Event) (text : Bytes) : Prop :=
  findCommand (commandName event.text).1 = some .AI ∧ aiMessage event ≠ [] ∧
    ∃ stream, Chatted env w botai (aiMessage event) (botaiReplyMax + 1) stream ∧
      ChatResponse (botaiReplyMax + 1) stream text

/-- The reply to a command: the service's text, or one of the bot's own. -/
def ReplyIs (env : Env) (w : World) (botai : BotAi) (event : Event) (own : List Bytes) (reply : Bytes) : Prop :=
  AiSays env w botai event reply ∨ reply ∈ own ∧ ∀ text, ¬ AiSays env w botai event text

theorem AiSays.unique {text text' : Bytes} (h : AiSays env w botai event text) (h' : AiSays env w botai event text') :
    text = text' := by
  obtain ⟨-, -, stream, hchat, htext⟩ := h
  obtain ⟨-, -, stream', hchat', htext'⟩ := h'
  obtain rfl := hchat.unique hchat'
  obtain ⟨rc, reply, w', -, -, hreply, -⟩ := botaiChat_response hchat
  rw [← hreply text htext, hreply text' htext']

/-- A chat that succeeds has the text the service answered with. -/
theorem botaiChat_told {message reply : Bytes} {replySize : Nat} {rc : Int} {w' : World}
    (h : botaiChat botai message replySize env w = (.ok (rc, reply), w')) :
    (rc = 0 → ∃ stream, Chatted env w botai message replySize stream ∧ ChatResponse replySize stream reply) ∧
      (rc ≠ 0 → ∀ stream text, Chatted env w botai message replySize stream → ¬ ChatResponse replySize stream text) := by
  refine ⟨fun hrc => ?_, fun hrc stream text hchat htext => ?_⟩
  · by_contra hnone
    have hrefused : ∀ stream, Chatted env w botai message replySize stream → ¬ Accepted botaiResponseMax stream := by
      intro stream hchat hstream
      obtain ⟨rc', reply', w₁, hrun, hiff, hreply, -⟩ := botaiChat_response hchat
      obtain ⟨hresult, -⟩ := Prod.mk.inj (h.symm.trans hrun)
      obtain ⟨rfl, rfl⟩ := Prod.mk.inj (Except.ok.inj hresult)
      obtain ⟨value, hvalue⟩ := hiff.1 hrc
      exact hnone ⟨stream, hchat, hreply value hvalue ▸ hvalue⟩
    obtain ⟨w₁, hrun⟩ := botaiChat_refused hrefused
    obtain ⟨hresult, -⟩ := Prod.mk.inj (h.symm.trans hrun)
    obtain ⟨rfl, -⟩ := Prod.mk.inj (Except.ok.inj hresult)
    exact absurd hrc (by decide)
  · obtain ⟨rc', reply', w₁, hrun, hiff, -⟩ := botaiChat_response hchat
    obtain ⟨hresult, -⟩ := Prod.mk.inj (h.symm.trans hrun)
    obtain ⟨rfl, -⟩ := Prod.mk.inj (Except.ok.inj hresult)
    exact hrc (hiff.2 ⟨text, htext⟩)

/-- The one thing a command does on IRC: it answers with its reply. `u` is the
exchange with the service, if there is one. -/
def Replied (env : Env) (w : World) (botai : BotAi) (event : Event) (own : List Bytes) (sock : Int) (target : Bytes)
    (m : M Unit) : Prop :=
  ∃ w' u t reply, m env w = (.ok (), w') ∧ w'.trace = w.trace ++ (u ++ t) ∧ OwnSockets u ∧
    ReplyIs env w botai event own reply ∧
    (fits (ircLineMax + 1) (replyLine target reply) = true ∧ Transmits sock (replyLine target reply) t ∨
      fits (ircLineMax + 1) (replyLine target reply) = false ∧ t = [])

theorem sendReply_replied {own : List Bytes} {reply : Bytes} (hreply : reply ∈ own)
    (hsaid : ∀ text, ¬ AiSays env w botai event text) (target : Bytes) :
    Replied env w botai event own context.sock target (sendReply context target reply) := by
  obtain ⟨w', t, hrun, ht, hsent⟩ := sendFormatted_transmits context.sock (replyLine target reply) env w
  exact ⟨w', [], t, reply, hrun, ht, lawful_nil, .inr ⟨hreply, hsaid⟩, hsent⟩

theorem handleAi_replied (env : Env) (w : World) (botai : BotAi) (context : CommandContext)
    (hai : findCommand (commandName event.text).1 = some .AI) (target : Bytes) :
    Replied env w botai event aiReplies context.sock target
      (handleAi botai context target (commandName event.text).2) := by
  unfold handleAi
  dsimp only
  split
  · rename_i hmessage
    exact sendReply_replied (by decide) (fun _ hsaid => hsaid.2.1 hmessage) target
  · rename_i hmessage
    split
    · rename_i hincompatible
      refine sendReply_replied (by decide) (fun _ hsaid => ?_) target
      obtain ⟨-, -, stream, ⟨body, hbody, -⟩, -⟩ := hsaid
      have hcompatible : botai.compatible = false := by simpa using hincompatible
      simp [chatPrepare, hcompatible] at hbody
    · obtain ⟨⟨rc, reply⟩, w₁, hchat⟩ := botaiChat_total botai (aiMessage event) (botaiReplyMax + 1) env w
      have htalks : Talks false [] w (botaiChat botai (aiMessage event) (botaiReplyMax + 1) env w).2 :=
        botaiChat_talks botai (aiMessage event) (botaiReplyMax + 1) env w
      rw [hchat] at htalks
      obtain ⟨-, u, hu, hown⟩ := htalks
      obtain ⟨htold, hsilent⟩ := botaiChat_told hchat
      have hbind := bind_ok hchat fun r =>
        if r.1 ≠ 0 then sendReply context target (ascii "BotAI is temporarily unavailable")
        else sendReply context target r.2
      have hreply : ReplyIs env w botai event aiReplies (if rc ≠ 0 then ascii "BotAI is temporarily unavailable" else reply) := by
        by_cases hrc : rc = 0
        · rw [if_neg (not_not.2 hrc)]
          exact .inl ⟨hai, hmessage, htold hrc⟩
        · rw [if_pos hrc]
          exact .inr ⟨by decide, fun text ⟨_, _, stream, hchatted, htext⟩ => hsilent hrc stream text hchatted htext⟩
      obtain ⟨w', t, hrun, ht, hsent⟩ := sendFormatted_transmits context.sock
        (replyLine target (if rc ≠ 0 then ascii "BotAI is temporarily unavailable" else reply)) env w₁
      refine ⟨w', u, t, _, ?_, by rw [ht, hu, List.append_assoc], hown, hreply, hsent⟩
      refine hbind.trans (Eq.trans ?_ hrun)
      dsimp only
      by_cases hrc : rc = 0
      · rw [if_neg (not_not.2 hrc), if_neg (not_not.2 hrc)]
        rfl
      · rw [if_pos hrc, if_pos hrc]
        rfl

theorem ReplyIs.aiReply {reply : Bytes} (h : ReplyIs env w botai event aiReplies reply) : AiReply reply := by
  rcases h with ⟨-, -, stream, -, -, body, -, hanswer⟩ | ⟨hown, -⟩
  · exact .inr hanswer.printable
  · exact .inl hown

/-- The `AI` branch talks to the service on sockets of its own, and then
answers with one line at most. -/
theorem handleAi_answers (env : Env) (w : World) (botai : BotAi) (context : CommandContext)
    (hai : findCommand (commandName event.text).1 = some .AI) (target : Bytes) :
    ∃ w' u t, handleAi botai context target (commandName event.text).2 env w = (.ok (), w') ∧
      w'.trace = w.trace ++ (u ++ t) ∧ OwnSockets u ∧ Answers context.sock target t := by
  obtain ⟨w', u, t, reply, hrun, ht, hown, hreply, ⟨-, htransmits⟩ | ⟨-, hnone⟩⟩ :=
    handleAi_replied env w botai context hai target
  · exact ⟨w', u, t, hrun, ht, hown, .inr ⟨reply, hreply.aiReply, htransmits⟩⟩
  · exact ⟨w', u, t, hrun, ht, hown, .inl hnone⟩

theorem commandsHandleEvent_ai {event : Event} (hcommand : isCommand event = true)
    (hai : findCommand (commandName event.text).1 = some .AI) (botai : BotAi) (context : CommandContext) :
    commandsHandleEvent botai event context =
      handleAi botai context (replyTarget event context) (commandName event.text).2 := by
  have hname : (commandName event.text).1 ≠ [] := by
    intro hnil
    rw [hnil] at hai
    exact absurd hai (by decide)
  have hlevel : ¬ (permissionFor context event.nick).level < Command.AI.minimum.level := Nat.not_lt_zero _
  unfold commandsHandleEvent
  simp [hcommand, hname, hai, hlevel]

/-- No connection gets the descriptor `sock`, which is in use. -/
def Apart (sock : Int) (t : List Obs) : Prop := ∀ host port fd, .connect host port fd ∈ t → 0 ≤ fd → fd ≠ sock

/-- What happens on sockets of its own is not on one in use. -/
theorem OwnSockets.unused {sock : Int} {u : List Obs} (hown : OwnSockets u) (hapart : Apart sock u) :
    ∀ o ∈ u, o.uses ≠ some sock := by
  intro o ho huses
  obtain ⟨before, after, rfl⟩ := List.append_of_mem ho
  rcases hown before o after rfl sock huses with hmine | ⟨hsock, host, port, hconnect⟩ | ⟨-, hshared, -⟩
  · exact absurd hmine List.not_mem_nil
  · exact hapart host port _ (by simp [hconnect]) hsock rfl
  · exact absurd hshared List.not_mem_nil

theorem OwnSockets.quiet {sock : Int} {u t : List Obs} (hown : OwnSockets u) (hapart : Apart sock (u ++ t)) :
    ∀ data rc, .send sock data rc ∉ u :=
  fun _ _ hmem => hown.unused (fun host port fd hd => hapart host port fd (List.mem_append_left _ hd)) _ hmem rfl

/-- Whatever the service answers, what an `!AI` of a framed line sends to IRC
is nothing or one line: the reply target, and one of the fixed messages or text
without control bytes. -/
theorem ai_reply_one_line {line : Bytes} {t : List Obs} (hline : LF ∉ line)
    (hevent : eventFromIrcLine (cstr line) = some event) (hcommand : isCommand event = true)
    (hai : findCommand (commandName event.text).1 = some .AI)
    (htrace : (commandsHandleEvent botai event context env w).2.trace = w.trace ++ t) (hapart : Apart context.sock t) :
    (commandsHandleEvent botai event context env w).1 = .ok () ∧
      ((∀ data rc, .send context.sock data rc ∉ t) ∨
        ∃ reply, (reply ∈ aiReplies ∨ reply ≠ [] ∧ ∀ c ∈ reply, 32 ≤ c) ∧
          LF ∉ replyLine (replyTarget event context) reply ∧
          Transmits context.sock (replyLine (replyTarget event context) reply) t) := by
  rw [commandsHandleEvent_ai hcommand hai] at htrace ⊢
  obtain ⟨w', u, v, hrun, huv, hown, hanswers⟩ :=
    handleAi_answers env w botai context hai (replyTarget event context)
  rw [hrun] at htrace ⊢
  obtain rfl : u ++ v = t := List.append_cancel_left (huv.symm.trans htrace)
  refine ⟨rfl, ?_⟩
  have hquiet := hown.quiet hapart
  rcases hanswers with rfl | ⟨reply, hreply, htransmits⟩
  · exact .inl fun data rc hmem => hquiet data rc (by simpa using hmem)
  · have htarget : LF ∉ replyTarget event context :=
      fun hlf => hline ((List.takeWhile_prefix _).subset (replyTarget_subset hevent context hlf))
    exact .inr ⟨reply, hreply, replyLine_no_lf htarget hreply.no_lf, htransmits.after hquiet⟩

def helloEvent : Event := { type := .privmsg, nick := ascii "bob", target := ascii "#c", text := ascii "!AI hi" }

def helloContext : CommandContext := { sock := 4, botNick := ascii "AmBot", ownerNick := [] }

/-- What the handler does where the service says hello. -/
def helloTrace : List Obs :=
  (commandsHandleEvent botaiReady helloEvent helloContext (Env.replying helloResponse) (worldInit configInit)).2.trace

theorem ai_reply_one_line_hello :
    (commandsHandleEvent botaiReady helloEvent helloContext (Env.replying helloResponse) (worldInit configInit)).1 =
        .ok () ∧
      ((∀ data rc, .send 4 data rc ∉ helloTrace) ∨
        ∃ reply, (reply ∈ aiReplies ∨ reply ≠ [] ∧ ∀ c ∈ reply, 32 ≤ c) ∧
          LF ∉ replyLine (ascii "#c") reply ∧ Transmits 4 (replyLine (ascii "#c") reply) helloTrace) := by
  have hline : LF ∉ ascii ":bob!u@h PRIVMSG #c :!AI hi" := by decide
  have hevent : eventFromIrcLine (cstr (ascii ":bob!u@h PRIVMSG #c :!AI hi")) = some helloEvent := by decide
  have htarget : replyTarget helloEvent helloContext = ascii "#c" := by decide
  have hsocket : ∀ o ∈ helloTrace, o.kind = .connect → o = .connect (ascii "ai") 8090 3 := by decide +kernel
  rw [← htarget]
  refine ai_reply_one_line hline hevent (by decide) (by decide) (List.nil_append helloTrace).symm
    fun host port fd hconnect _ => ?_
  obtain ⟨-, -, rfl⟩ := Obs.connect.injEq .. ▸ hsocket _ hconnect rfl
  decide

/-- There it is the one line with that text. -/
example : takenOn 4 helloTrace = replyLine (ascii "#c") (ascii "hello") ++ CRLF := by decide +kernel

end AmBot
