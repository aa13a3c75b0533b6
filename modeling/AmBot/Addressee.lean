import AmBot.Lines
import AmBot.Replies
/-!
# Who a command is answered to

An answer goes to the channel of the command, or to its sender where the
command came in private. The event has 63 bytes of the one name and 31 of the
other, and the line of the answer has to fit its buffer.
-/

namespace AmBot

open RunLib RunLib.Prog

/-! ## The names in the line -/

/-- The first parameter, in full. -/
def lineTarget (line : Bytes) : Bytes :=
  match splitPrefix line with
  | none => []
  | some (_, p) => (firstParam ((skipBlanks p).drop (upTo SP (skipBlanks p)).length)).1

theorem eventFromIrcLine_target {line : Bytes} {event : Event} (h : eventFromIrcLine line = some event)
    (htype : event.type ≠ .nick) : event.target = (lineTarget line).take 63 := by
  cases hsplit : splitPrefix line with
  | none =>
    rw [eventFromIrcLine_none hsplit] at h
    cases h
  | some r =>
    obtain ⟨sender, p⟩ := r
    rw [eventFromIrcLine_split hsplit] at h
    split at h
    · cases h
    · obtain rfl := Option.some.inj h
      rw [eventOf_type] at htype
      rw [eventOf_text htype, lineTarget, hsplit]
      rfl

theorem lineTarget_no_space (line : Bytes) : SP ∉ lineTarget line := by
  unfold lineTarget
  split
  · exact List.not_mem_nil
  · unfold firstParam
    split
    · exact List.not_mem_nil
    · exact List.not_mem_nil
    · exact not_mem_upTo SP _

theorem senderNick_no_space (line : Bytes) : SP ∉ senderNick line := by
  intro hmem
  have hprefix : SP ∉ linePrefix line := by
    unfold linePrefix
    split
    · exact not_mem_upTo SP _
    · exact List.not_mem_nil
  exact hprefix (upTo_subset BANG _ hmem)

/-- The line came in private: its target is the bot itself. -/
def inPrivate (context : CommandContext) (line : Bytes) : Bool := equalIgnoreCase (lineTarget line) context.botNick

/-- Who is to be answered. -/
def addressee (context : CommandContext) (line : Bytes) : Bytes :=
  if inPrivate context line then senderNick line else lineTarget line

/-- How much of that name an event has. -/
def nameKept (context : CommandContext) (line : Bytes) : Nat := if inPrivate context line then 31 else 63

theorem addressee_no_space (context : CommandContext) (line : Bytes) : SP ∉ addressee context line := by
  unfold addressee
  split
  · exact senderNick_no_space line
  · exact lineTarget_no_space line

theorem equalIgnoreCase_length {a b : Bytes} (h : equalIgnoreCase a b = true) : a.length = b.length := by
  simpa using congrArg List.length ((equalIgnoreCase_iff a b).1 h)

/-- The bot's nick is found in the 63 bytes that are kept where it stands in
the line. -/
theorem equalIgnoreCase_take {a b : Bytes} {n : Nat} (hb : b.length < n) :
    equalIgnoreCase (a.take n) b = equalIgnoreCase a b := by
  by_cases ha : a.length ≤ n
  · rw [List.take_of_length_le ha]
  · rw [Bool.eq_iff_iff]
    constructor
    · intro h
      have := equalIgnoreCase_length h
      rw [List.length_take] at this
      omega
    · intro h
      have := equalIgnoreCase_length h
      omega

theorem replyTarget_kept {line : Bytes} {event : Event} {context : CommandContext} (h : eventFromIrcLine line = some event)
    (htype : event.type ≠ .nick) (hnick : context.botNick.length ≤ 31) :
    replyTarget event context = (addressee context line).take (nameKept context line) := by
  unfold replyTarget addressee nameKept inPrivate
  rw [eventFromIrcLine_target h htype, equalIgnoreCase_take (by omega), eventFromIrcLine_nick h]
  split <;> rfl

/-! ## The bot's nick -/

theorem lastAssigned_nick {lines : List ConfigLine} {v : Val} (h : lastAssigned .NICK lines = some v) :
    ∃ value, v = .text (copyValue 32 value) := by
  obtain ⟨line, -, hline⟩ := List.mem_filterMap.1 (List.mem_of_getLast? h)
  unfold assigned at hline
  split at hline
  · rename_i value
    split at hline
    · exact ⟨value, (Option.some.inj hline).symm⟩
    · cases hline
  · cases hline

/-- A nick in a configuration is one that its field holds. -/
def NickHeld (v : Val) : Prop := ∃ nick, v = .text nick ∧ nick.length ≤ 31

theorem lastAssigned_nickHeld {lines : List ConfigLine} {v : Val} (h : NickHeld v) :
    NickHeld ((lastAssigned .NICK lines).getD v) := by
  cases hlast : lastAssigned .NICK lines with
  | none => exact h
  | some v' =>
    obtain ⟨value, rfl⟩ := lastAssigned_nick hlast
    exact ⟨_, rfl, List.length_take_le _ _⟩

theorem OwnerGiven.nickHeld {config : Config} {owner : Bytes} (h : OwnerGiven config owner) : NickHeld (config.value .NICK) := by
  induction h with
  | commandLine => exact ⟨_, rfl, List.length_take_le _ _⟩
  | @load config given path text _ hpath ih =>
    rw [configLoad_value config hpath text (by decide)]
    exact lastAssigned_nickHeld (lastAssigned_nickHeld ih)

theorem OwnerGiven.nick_length {config : Config} {owner : Bytes} (h : OwnerGiven config owner) :
    config.nick.length ≤ 31 := by
  obtain ⟨nick, hvalue, hlen⟩ := h.nickHeld
  obtain rfl : config.nick = nick := Val.text.inj hvalue
  exact hlen

/-- Wherever commands are handled, the bot's nick fits its field. -/
theorem Serves.botNick_length {context : CommandContext} {owner : Bytes} (h : Serves context owner) :
    context.botNick.length ≤ 31 := by
  cases h with
  | session sock hgiven => exact hgiven.nick_length
  | @legacy config _ runtime sock hgiven hruntime =>
    show runtime.config.nick.length ≤ 31
    rw [hruntime]
    exact List.length_take_le _ _
  | @network config _ _ text _ runtime sock _ _ hruntime =>
    show runtime.config.nick.length ≤ 31
    rw [hruntime]
    exact List.length_take_le _ _

/-! ## The answer -/

/-- The answers that are no text of the service. -/
def fixedReplies : List Bytes :=
  [ascii "Unknown command. Try !HELP", ascii "Permission denied", ascii "Commands: !HELP !STATUS !VERSION !AI",
   ascii "AmBot status: online (admin)", ascii "AmBot status: online", versionText] ++ aiReplies

theorem fixedReplies_short : ∀ reply ∈ fixedReplies, LF ∉ reply ∧ reply.length ≤ 40 := by decide

variable {env : Env} {w : World} {botai : BotAi} {context : CommandContext} {event : Event}

theorem ReplyIs.mono {own own' : List Bytes} {reply : Bytes} (h : ReplyIs env w botai event own reply) (hown : own ⊆ own') :
    ReplyIs env w botai event own' reply :=
  h.imp_right fun ⟨hmem, hsaid⟩ => ⟨hown hmem, hsaid⟩

/-- Every command is answered by its reply, if the line of it fits. -/
theorem commandsHandleEvent_replied (env : Env) (w : World) (botai : BotAi) (context : CommandContext)
    (hcommand : isCommand event = true) (hname : (commandName event.text).1 ≠ []) :
    Replied env w botai event fixedReplies context.sock (replyTarget event context)
      (commandsHandleEvent botai event context) := by
  have hsaid {c : Option Command} (hfind : findCommand (commandName event.text).1 = c) (hc : c ≠ some .AI) :
      ∀ text, ¬ AiSays env w botai event text := fun _ hsaid => hc (hfind.symm.trans hsaid.1)
  unfold commandsHandleEvent
  simp only [hcommand, hname, Bool.not_true, Bool.false_eq_true, if_false]
  cases hfind : findCommand (commandName event.text).1 with
  | none => exact sendReply_replied (by decide) (hsaid hfind (by decide)) _
  | some command =>
    have hlevel : ¬ (permissionFor context event.nick).level < command.minimum.level := by
      cases command <;> exact Nat.not_lt_zero _
    dsimp only
    rw [if_neg hlevel]
    cases command with
    | HELP => exact sendReply_replied (by decide) (hsaid hfind (by decide)) _
    | STATUS =>
      refine sendReply_replied ?_ (hsaid hfind (by decide)) _
      split <;> decide
    | VERSION => exact sendReply_replied (by decide) (hsaid hfind (by decide)) _
    | AI =>
      obtain ⟨w', u, t, reply, hrun, ht, hown, hreply, hsent⟩ := handleAi_replied env w botai context hfind _
      exact ⟨w', u, t, reply, hrun, ht, hown, hreply.mono (List.subset_append_right _ _), hsent⟩

theorem ReplyIs.no_lf {reply : Bytes} (h : ReplyIs env w botai event fixedReplies reply) : LF ∉ reply := by
  rcases h with ⟨-, -, stream, -, -, body, -, hanswer⟩ | ⟨hfixed, -⟩
  · exact fun hlf => absurd (hanswer.printable.2 LF hlf) (by decide)
  · exact (fixedReplies_short reply hfixed).1

theorem replyLine_length (target text : Bytes) : (replyLine target text).length = 10 + target.length + text.length := by
  have hfixed : (ascii "PRIVMSG ").length = 8 ∧ (ascii " :").length = 2 := by decide
  simp only [replyLine, List.length_append, hfixed]
  omega

theorem replyLine_fits {target text : Bytes} :
    fits (ircLineMax + 1) (replyLine target text) = true ↔ (replyLine target text).length ≤ ircLineMax := by
  have hlen := replyLine_length target text
  simp only [fits, Bool.and_eq_true, decide_eq_true_eq]
  omega

/-- A name without a space is all that stands before the colon of its line. -/
theorem replyLine_target {target rest text text' : Bytes} (hrest : SP ∉ rest)
    (h : replyLine target text ++ CRLF = replyLine (target ++ rest) text' ++ CRLF) : rest = [] := by
  have hcolon : ascii " :" = [SP, COLON] := by decide
  simp only [replyLine, hcolon, List.append_assoc] at h
  have htail := List.append_cancel_left (List.append_cancel_left h)
  cases rest with
  | nil => rfl
  | cons c rest =>
    obtain ⟨rfl, -⟩ := List.cons.inj htail
    exact absurd List.mem_cons_self hrest

/-- The reply fits its line, as one of the bot's own does for every name. -/
theorem ReplyIs.fits_iff {reply target : Bytes} (h : ReplyIs env w botai event fixedReplies reply)
    (htarget : target.length ≤ 63) :
    fits (ircLineMax + 1) (replyLine target reply) = true ↔
      ∀ text, AiSays env w botai event text → (replyLine target text).length ≤ ircLineMax := by
  rw [replyLine_fits]
  rcases h with hsaid | ⟨hfixed, hsilent⟩
  · exact ⟨fun hfits text htext => by rwa [htext.unique hsaid], fun hall => hall reply hsaid⟩
  · have hshort := (fixedReplies_short reply hfixed).2
    refine ⟨fun _ text htext => absurd htext (hsilent text), fun _ => ?_⟩
    rw [replyLine_length, ircLineMax]
    omega

/-- A command of any line is answered in one line to whom it came from exactly
where that name is not longer than an event keeps it, and the service's text,
if it is one, fits the line. -/
theorem command_replied_iff {line owner : Bytes} {t : List Obs} (hline : LF ∉ line)
    (hevent : eventFromIrcLine (cstr line) = some event) (hcommand : isCommand event = true)
    (hname : (commandName event.text).1 ≠ []) (hserves : Serves context owner)
    (htrace : (commandsHandleEvent botai event context env w).2.trace = w.trace ++ t) (hapart : Apart context.sock t)
    (hworks : TakesSends context.sock t) :
    ((commandsHandleEvent botai event context env w).1 = .ok () ∧
      ∃ text, LF ∉ replyLine (addressee context (cstr line)) text ∧
        takenOn context.sock t = replyLine (addressee context (cstr line)) text ++ CRLF) ↔
      (addressee context (cstr line)).length ≤ nameKept context (cstr line) ∧
        ∀ text, AiSays env w botai event text →
          (replyLine (addressee context (cstr line)) text).length ≤ ircLineMax := by
  have htype : event.type ≠ .nick := by
    intro hnick
    simp [isCommand, hnick] at hcommand
  have htarget := replyTarget_kept hevent htype hserves.botNick_length
  have hclean : LF ∉ replyTarget event context :=
    fun hlf => hline ((List.takeWhile_prefix _).subset (replyTarget_subset hevent context hlf))
  have hkept : nameKept context (cstr line) ≤ 63 := by
    unfold nameKept
    split <;> decide
  obtain ⟨w', u, t', reply, hrun, huv, hown, hreply, hsent⟩ :=
    commandsHandleEvent_replied env w botai context hcommand hname
  rw [hrun] at htrace ⊢
  obtain rfl : u ++ t' = t := List.append_cancel_left (huv.symm.trans htrace)
  have htaken : takenOn context.sock (u ++ t') = takenOn context.sock t' := by
    rw [takenOn_append, takenOn_eq_nil (hown.quiet hapart), List.nil_append]
  rw [htaken]
  constructor
  · rintro ⟨-, text, -, hline'⟩
    rcases hsent with ⟨hfits, htransmits⟩ | ⟨-, rfl⟩
    · have hwhole := htransmits.whole fun data rc hd => hworks data rc (List.mem_append_right _ hd)
      rw [hwhole, htarget] at hline'
      have hdrop : SP ∉ (addressee context (cstr line)).drop (nameKept context (cstr line)) :=
        fun hmem => addressee_no_space context (cstr line) (List.mem_of_mem_drop hmem)
      have hnil := replyLine_target hdrop (by rwa [List.take_append_drop])
      have hshort : (addressee context (cstr line)).length ≤ nameKept context (cstr line) := List.drop_eq_nil_iff.1 hnil
      rw [htarget, List.take_of_length_le hshort] at hfits
      exact ⟨hshort, (hreply.fits_iff (hshort.trans hkept)).1 hfits⟩
    · -- a line was taken, but none was sent
      have := congrArg List.length hline'
      simp [takenOn, CRLF] at this
  · rintro ⟨hshort, hall⟩
    rw [List.take_of_length_le hshort] at htarget
    have hfits := (hreply.fits_iff (hshort.trans hkept)).2 hall
    rw [← htarget] at hfits ⊢
    rcases hsent with ⟨-, htransmits⟩ | ⟨hno, -⟩
    · exact ⟨rfl, reply, replyLine_no_lf hclean hreply.no_lf,
        htransmits.whole fun data rc hd => hworks data rc (List.mem_append_right _ hd)⟩
    · rw [hfits] at hno
      cases hno

/-! ## A question for help -/

def helpLine (target : Bytes) : Bytes := ascii ":bob!u@h PRIVMSG " ++ target ++ ascii " :!HELP"

def helpEvent (target : Bytes) : Event :=
  { type := .privmsg, nick := ascii "bob", target := target.take 63, text := ascii "!HELP" }

/-- What the handler does where the network takes every send. -/
def helpTrace (target : Bytes) : List Obs :=
  (commandsHandleEvent botaiInit (helpEvent target) helloContext Env.online (worldInit configInit)).2.trace

/-- A send that was taken, or something else. -/
def Obs.accepted : Obs → Bool
  | .send _ _ rc => 0 < rc
  | _ => true

theorem takesSends_of_accepted {sock : Int} {t : List Obs} (h : ∀ o ∈ t, o.accepted = true) : TakesSends sock t :=
  fun data rc hmem => by simpa [Obs.accepted] using h _ hmem

theorem apart_of_kinds {sock : Int} {t : List Obs} (h : ∀ o ∈ t, o.kind ≠ .connect) : Apart sock t :=
  fun _ _ _ hmem => absurd rfl (h _ hmem)

theorem helloContext_serves : Serves helloContext [] := by
  have hcontext : helloContext =
      { sock := 4, botNick := (configSeed (ascii "irc") 0 (ascii "AmBot") [] [] []).nick
        ownerNick := (configSeed (ascii "irc") 0 (ascii "AmBot") [] [] []).owner } := by decide
  rw [hcontext]
  exact .session 4 (.commandLine (ascii "irc") 0 (ascii "AmBot") [] [] [])

theorem command_replied_help :
    ((commandsHandleEvent botaiInit (helpEvent (ascii "#c")) helloContext Env.online (worldInit configInit)).1 = .ok () ∧
      ∃ text, LF ∉ replyLine (addressee helloContext (cstr (helpLine (ascii "#c")))) text ∧
        takenOn helloContext.sock (helpTrace (ascii "#c")) =
          replyLine (addressee helloContext (cstr (helpLine (ascii "#c")))) text ++ CRLF) ↔
      (addressee helloContext (cstr (helpLine (ascii "#c")))).length ≤
          nameKept helloContext (cstr (helpLine (ascii "#c"))) ∧
        ∀ text, AiSays Env.online (worldInit configInit) botaiInit (helpEvent (ascii "#c")) text →
          (replyLine (addressee helloContext (cstr (helpLine (ascii "#c")))) text).length ≤ ircLineMax := by
  have hline : LF ∉ helpLine (ascii "#c") := by decide
  have hevent : eventFromIrcLine (cstr (helpLine (ascii "#c"))) = some (helpEvent (ascii "#c")) := by decide
  have hkinds : ∀ o ∈ helpTrace (ascii "#c"), o.kind ≠ .connect := by decide +kernel
  have haccepted : ∀ o ∈ helpTrace (ascii "#c"), o.accepted = true := by decide +kernel
  exact command_replied_iff hline hevent (by decide) (by decide) helloContext_serves
    (List.nil_append (helpTrace (ascii "#c"))).symm (apart_of_kinds hkinds) (takesSends_of_accepted haccepted)

def longChannel : Bytes := 35 :: List.replicate 63 97

/-- A question from a channel with a name of 64 bytes is answered to another
channel. -/
theorem command_misaddressed :
    eventFromIrcLine (cstr (helpLine longChannel)) = some (helpEvent longChannel) ∧ Serves helloContext [] ∧
      addressee helloContext (cstr (helpLine longChannel)) = longChannel ∧
      TakesSends helloContext.sock (helpTrace longChannel) ∧
      takenOn helloContext.sock (helpTrace longChannel) =
        replyLine (longChannel.take 63) (ascii "Commands: !HELP !STATUS !VERSION !AI") ++ CRLF ∧
      ∀ text, takenOn helloContext.sock (helpTrace longChannel) ≠ replyLine longChannel text ++ CRLF := by
  have haccepted : ∀ o ∈ helpTrace longChannel, o.accepted = true := by decide +kernel
  have htaken : takenOn helloContext.sock (helpTrace longChannel) =
      replyLine (longChannel.take 63) (ascii "Commands: !HELP !STATUS !VERSION !AI") ++ CRLF := by decide +kernel
  refine ⟨by decide +kernel, helloContext_serves, by decide +kernel, takesSends_of_accepted haccepted, htaken, fun text => ?_⟩
  rw [htaken, ← List.take_append_drop 63 longChannel]
  intro heq
  have hnil : longChannel.drop 63 = [] := replyLine_target (by decide) heq
  exact absurd hnil (by decide)

end AmBot
