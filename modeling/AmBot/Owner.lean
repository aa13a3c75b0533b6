import AmBot.Effects
import AmBot.Isolation
import AmBot.Multinet
/-!
# The owner

`permission_for` compares two copies of at most 31 bytes, the nick of an event
and the owner of a session. The owner is followed here from the command line
or an OWNER line of the file to the context of the commands.
-/

namespace AmBot

open RunLib RunLib.Prog

/-! ## Nicks up to case -/

theorem equalIgnoreCase_iff (a b : Bytes) : equalIgnoreCase a b = true ↔ a.map toUpper = b.map toUpper := by
  induction a generalizing b with
  | nil => cases b <;> simp [equalIgnoreCase]
  | cons x a ih => cases b <;> simp [equalIgnoreCase, ih]

/-- Two nicks are equal if their first 31 bytes are and what follows is. -/
theorem equalIgnoreCase_split (n : Nat) (a b : Bytes) :
    equalIgnoreCase a b = true ↔
      equalIgnoreCase (a.take n) (b.take n) = true ∧ equalIgnoreCase (a.drop n) (b.drop n) = true := by
  simp only [equalIgnoreCase_iff, List.map_take, List.map_drop]
  constructor
  · intro h
    rw [h]
    exact ⟨rfl, rfl⟩
  · rintro ⟨htake, hdrop⟩
    rw [← List.take_append_drop n (a.map toUpper), htake, hdrop, List.take_append_drop]

/-! ## The sender -/

/-- What stands between the `:` and the first space. -/
def linePrefix : Bytes → Bytes
  | 58 :: p => upTo SP p
  | _ => []

/-- The complete nick of the sender: the prefix up to its `!`. -/
def senderNick (line : Bytes) : Bytes := upTo BANG (linePrefix line)

theorem splitPrefix_linePrefix {line p : Bytes} {sender : Option Bytes} (h : splitPrefix line = some (sender, p)) :
    sender.getD [] = linePrefix line := by
  unfold splitPrefix at h
  split at h
  · rename_i rest
    cases hchr : strchr SP rest with
    | none => rw [hchr] at h; cases h
    | some q => rw [hchr] at h; cases h; rfl
  · cases h
    unfold linePrefix
    split
    · rename_i hcolon
      exact absurd rfl (hcolon _)
    · rfl

theorem eventFromIrcLine_nick {line : Bytes} {event : Event} (h : eventFromIrcLine line = some event) :
    event.nick = (senderNick line).take 31 := by
  cases hsplit : splitPrefix line with
  | none =>
    rw [eventFromIrcLine_none hsplit] at h
    cases h
  | some r =>
    obtain ⟨sender, p⟩ := r
    rw [eventFromIrcLine_split hsplit] at h
    split at h
    · cases h
    · rw [← Option.some.inj h, eventOf_sender, senderNick, ← splitPrefix_linePrefix hsplit]
      rfl

/-! ## The configured owner -/

/-- The value of an OWNER line. -/
def ownerLine : ConfigLine → Option Bytes
  | .setting key value => if keyOf key = some .OWNER then some value else none
  | _ => none

/-- The owner the last OWNER line gives, or the one given before. -/
def givenOwner (given : Bytes) (lines : List ConfigLine) : Bytes := (lines.filterMap ownerLine).getLast?.getD given

theorem lastAssigned_owner (given : Bytes) (lines : List ConfigLine) :
    (lastAssigned .OWNER lines).getD (.text (copyValue 32 given)) = .text (copyValue 32 (givenOwner given lines)) := by
  have hassigned : assigned .OWNER = fun line => (ownerLine line).map fun value => .text (copyValue 32 value) := by
    funext line
    cases line with
    | setting key value =>
      simp only [assigned, ownerLine]
      split <;> rfl
    | _ => rfl
  rw [lastAssigned, hassigned, ← List.map_filterMap, List.getLast?_map, givenOwner]
  cases (lines.filterMap ownerLine).getLast? <;> rfl

/-- A configuration and the owner it was given: on the command line, or by the
files loaded since. -/
inductive OwnerGiven : Config → Bytes → Prop
  | commandLine (host : Bytes) (port : Nat) (nick user pass owner : Bytes) :
      OwnerGiven (configSeed host port nick user pass owner) owner
  | load {config : Config} {given path : Bytes} (text : Bytes) : OwnerGiven config given → path ≠ [] →
      OwnerGiven (configLoad config path (some text)).2
        (givenOwner (givenOwner given (preamble (fileLines text))) (skippedLines (fileLines text)))

/-- The record of a section inherits the owner of the preamble. -/
def sectionOwner (given : Bytes) (lines : List ConfigLine) (section_ : Bytes × List ConfigLine) : Bytes :=
  givenOwner (givenOwner given (preamble lines)) section_.2

theorem OwnerGiven.stored {config : Config} {owner : Bytes} (h : OwnerGiven config owner) :
    config.owner = copyValue 32 owner := by
  induction h with
  | commandLine => rfl
  | @load config given path text _ hpath ih =>
    have hseed : config.value .OWNER = .text (copyValue 32 given) := congrArg Val.text ih
    have hvalue := configLoad_value config hpath text (k := .OWNER) (by decide)
    rw [preambleValue, hseed, lastAssigned_owner, lastAssigned_owner] at hvalue
    exact Val.text.inj hvalue

/-- The contexts in which commands are handled, and the owner configured for
them: of the single-network session, of the network of the global form, and of
the network of a section. -/
inductive Serves : CommandContext → Bytes → Prop
  | session {config : Config} {owner : Bytes} (sock : Int) : OwnerGiven config owner →
      Serves { sock, botNick := config.nick, ownerNick := config.owner } owner
  | legacy {config : Config} {owner : Bytes} {runtime : NetworkRuntime} (sock : Int) : OwnerGiven config owner →
      runtime.config = copyNetwork (legacyNetwork config) → Serves (runtime.connected sock).commands owner
  | network {config : Config} {given path : Bytes} {text : Bytes} {section_ : Bytes × List ConfigLine}
      {runtime : NetworkRuntime} (sock : Int) : OwnerGiven config given →
      section_ ∈ keptSections (fileLines text) →
      runtime.config = copyNetwork (record (preambleGlobals config path (fileLines text)) section_) →
      Serves (runtime.connected sock).commands (sectionOwner given (fileLines text) section_)

theorem record_owner {config : Config} {given : Bytes} (h : OwnerGiven config given) (path : Bytes)
    (lines : List ConfigLine) (section_ : Bytes × List ConfigLine) :
    (record (preambleGlobals config path lines) section_).owner = copyValue 32 (sectionOwner given lines section_) := by
  have hseed : config.value .OWNER = .text (copyValue 32 given) := congrArg Val.text h.stored
  have hglobals : (preambleGlobals config path lines).value .OWNER =
      .text (copyValue 32 (givenOwner given (preamble lines))) := by
    rw [preambleGlobals_value _ _ _ (by decide), preambleValue, hseed, lastAssigned_owner]
  have hvalue := record_value (preambleGlobals config path lines) section_ (k := .OWNER) rfl
  rw [hglobals] at hvalue
  have hinherited : inherited .OWNER (.text (copyValue 32 (givenOwner given (preamble lines)))) =
      .text (copyValue 32 (givenOwner given (preamble lines))) := congrArg Val.text (copyValue_copyValue 32 _)
  rw [hinherited, lastAssigned_owner] at hvalue
  exact Val.text.inj hvalue

/-- Every context has the first 31 bytes of the owner configured for it. -/
theorem Serves.ownerNick {context : CommandContext} {owner : Bytes} (h : Serves context owner) :
    context.ownerNick = owner.take 31 := by
  cases h with
  | session sock hgiven => exact hgiven.stored
  | legacy sock hgiven hruntime =>
    show NetworkConfig.owner _ = _
    rw [hruntime]
    show copyValue 32 (copyValue 32 _) = _
    rw [hgiven.stored, copyValue_copyValue, copyValue_copyValue]
    rfl
  | network sock hgiven _ hruntime =>
    show NetworkConfig.owner _ = _
    rw [hruntime]
    show copyValue 32 (record _ _).owner = _
    rw [record_owner hgiven, copyValue_copyValue]
    rfl

/-! ## The permission -/

/-- What STATUS answers. -/
def statusText (permission : Permission) : Bytes :=
  if permission = .admin then ascii "AmBot status: online (admin)" else ascii "AmBot status: online"

/-- `ambot_commands_handle_event` for a sender of this permission. -/
def handleAs (permission : Permission) (botai : BotAi) (event : Event) (context : CommandContext) : M Unit :=
  if !isCommand event then pure ()
  else
    let (name, p) := commandName event.text
    let target := replyTarget event context
    if name = [] then pure ()
    else
      match findCommand name with
      | none => sendReply context target (ascii "Unknown command. Try !HELP")
      | some command =>
        if permission.level < command.minimum.level then sendReply context target (ascii "Permission denied")
        else
          match command with
          | .HELP => sendReply context target (ascii "Commands: !HELP !STATUS !VERSION !AI")
          | .STATUS => sendReply context target (statusText permission)
          | .VERSION => sendReply context target versionText
          | .AI => handleAi botai context target p

/-- Whatever this sender says, the handler does what it does for one of this
permission. -/
def TreatsAs (permission : Permission) (botai : BotAi) (event : Event) (context : CommandContext) : Prop :=
  ∀ text, commandsHandleEvent botai { event with text } context = handleAs permission botai { event with text } context

theorem commandsHandleEvent_permission (botai : BotAi) (event : Event) (context : CommandContext) :
    TreatsAs (permissionFor context event.nick) botai event context := by
  intro text
  rfl

/-- A line that fits is handed to `send` whole at first. -/
theorem sendFormatted_first {sock : Int} {line : Bytes} (h : fits (ircLineMax + 1) line = true) (env : Env) (w : World) :
    ∃ u, (sendFormatted sock line env w).2.trace = w.trace ++ .send sock line (env.send w.tick) :: u := by
  cases line with
  | nil => cases h
  | cons c data =>
    -- the rest of the line, and its end, come after the first send
    have hrest : Keeps (Acts [.send]) (do
        let rc ← (if env.send w.tick ≤ 0 then pure (-1)
          else netSendFrom sock data.length ((c :: data).drop (env.send w.tick).toNat))
        let _ ← (if rc ≠ 0 then pure (-1) else netSendAll sock [CR, LF])
        pure () : M Unit) := by
      refine (keeps_ite (keeps_pure _) (netSendFrom_keeps _ _ _)).bind fun rc => ?_
      exact (keeps_ite (keeps_pure _) (netSendFrom_keeps _ _ _)).bind fun _ => keeps_pure _
    obtain ⟨u, hu, -⟩ :=
      (hrest env (World.log { w with tick := w.tick + 1 } (.send sock (c :: data) (env.send w.tick)))).logs
    refine ⟨u, ?_⟩
    have hrun : (sendFormatted sock (c :: data) env w).2.trace =
        ((w.log (.send sock (c :: data) (env.send w.tick))).trace) ++ u := by
      rw [sendFormatted, if_pos h]
      unfold ircSendLine
      rw [← bind_bind]
      exact hu
    rw [hrun]
    simp [World.log]

theorem handleAs_status {event : Event} (htype : event.type = .privmsg) (permission : Permission) (botai : BotAi)
    (context : CommandContext) :
    handleAs permission botai { event with text := ascii "!STATUS" } context =
      sendReply context (replyTarget event context) (statusText permission) := by
  have hcommand : isCommand { event with text := ascii "!STATUS" } = true := by
    have hbang : (ascii "!STATUS").head? = some BANG := by decide
    simp [isCommand, htype, hbang]
  have hname : commandName (ascii "!STATUS") = (ascii "STATUS", []) := by decide
  have hfound : findCommand (ascii "STATUS") = some .STATUS := by decide
  have hgate : ¬ permission.level < Command.STATUS.minimum.level := Nat.not_lt_zero _
  unfold handleAs
  rw [hcommand, hname]
  dsimp only
  rw [if_neg (by decide), if_neg (by decide), hfound]
  exact if_neg hgate

/-- Nobody is treated in two ways: the answers to STATUS differ. -/
theorem treatsAs_admin_iff {event : Event} (htype : event.type = .privmsg) (hnick : event.nick.length ≤ 31)
    (htarget : event.target.length ≤ 63) (botai : BotAi) (context : CommandContext) :
    TreatsAs .admin botai event context ↔ permissionFor context event.nick = .admin := by
  constructor
  · intro htreats
    cases hpermission : permissionFor context event.nick with
    | admin => rfl
    | user =>
      have hsame := (htreats (ascii "!STATUS")).symm.trans
        (commandsHandleEvent_permission botai event context (ascii "!STATUS"))
      rw [hpermission, handleAs_status htype, handleAs_status htype] at hsame
      have hlength : (replyTarget event context).length ≤ 63 := by
        unfold replyTarget
        split
        · omega
        · exact htarget
      have hfits (permission : Permission) : fits (ircLineMax + 1)
          (ascii "PRIVMSG " ++ replyTarget event context ++ ascii " :" ++ statusText permission) = true := by
        have hfixed : (ascii "PRIVMSG ").length = 8 ∧ (ascii " :").length = 2 ∧ (statusText permission).length ≤ 28 := by
          cases permission <;> decide
        simp only [fits, Bool.and_eq_true, decide_eq_true_eq, List.length_append, ircLineMax]
        omega
      obtain ⟨u, hadmin⟩ := sendFormatted_first (hfits .admin) Env.silent (worldInit configInit)
      obtain ⟨v, huser⟩ := sendFormatted_first (hfits .user) Env.silent (worldInit configInit)
      have hruns := congrArg (fun m : M Unit => (m Env.silent (worldInit configInit)).2.trace) hsame
      have htrace := hadmin.symm.trans (hruns.trans huser)
      have hline := (List.cons.inj (List.append_cancel_left htrace)).1
      injection hline with _ htext _
      exact absurd (List.append_cancel_left htext) (by decide)
  · intro hadmin
    have htreats := commandsHandleEvent_permission botai event context
    rwa [hadmin] at htreats

/-- Whoever sends a PRIVMSG, the handler treats ADMIN or USER: as ADMIN the owner
and no one else, exactly where two nicks with the same first 31 bytes are the
same. -/
theorem admin_iff_owner {line : Bytes} {event : Event} {context : CommandContext} {owner : Bytes}
    (hevent : eventFromIrcLine line = some event) (htype : event.type = .privmsg) (hserves : Serves context owner)
    (botai : BotAi) :
    (TreatsAs .admin botai event context ∨ TreatsAs .user botai event context) ∧
    ((TreatsAs .admin botai event context ↔ owner ≠ [] ∧ equalIgnoreCase (senderNick line) owner = true) ↔
      (equalIgnoreCase ((senderNick line).take 31) (owner.take 31) = true →
        equalIgnoreCase ((senderNick line).drop 31) (owner.drop 31) = true)) := by
  have hcomm (a b : Bytes) : equalIgnoreCase a b = equalIgnoreCase b a := by
    rw [Bool.eq_iff_iff, equalIgnoreCase_iff, equalIgnoreCase_iff, eq_comm]
  obtain ⟨hnick, htarget, -⟩ := eventFromIrcLine_length hevent
  have hadmin : TreatsAs .admin botai event context ↔
      owner ≠ [] ∧ equalIgnoreCase ((senderNick line).take 31) (owner.take 31) = true := by
    rw [treatsAs_admin_iff htype hnick htarget, permissionFor, hserves.ownerNick, eventFromIrcLine_nick hevent, hcomm]
    split
    · rename_i hboth
      exact ⟨fun _ => ⟨fun hnil => hboth.1 (by rw [hnil]; rfl), hboth.2⟩, fun _ => rfl⟩
    · rename_i hnot
      refine ⟨nofun, fun ⟨howner, htake⟩ => absurd ⟨?_, htake⟩ hnot⟩
      simpa using howner
  refine ⟨?_, ?_⟩
  · have htreats := commandsHandleEvent_permission botai event context
    cases hpermission : permissionFor context event.nick with
    | admin => exact .inl (hpermission ▸ htreats)
    | user => exact .inr (hpermission ▸ htreats)
  rw [hadmin, equalIgnoreCase_split 31 (senderNick line) owner]
  constructor
  · intro hiff htake
    by_cases howner : owner = []
    · -- the sender has no nick either
      subst howner
      have hnil : (senderNick line).map toUpper = [] := by
        simpa [equalIgnoreCase_iff] using htake
      simp [List.map_eq_nil_iff.1 hnil, equalIgnoreCase]
    · exact (hiff.1 ⟨howner, htake⟩).2.2
  · intro hdrop
    exact ⟨fun ⟨howner, htake⟩ => ⟨howner, htake, hdrop htake⟩, fun ⟨howner, htake, _⟩ => ⟨howner, htake⟩⟩

/-- The configuration of a bot with this owner on the command line. -/
def ownedBy (owner : Bytes) : Config := configSeed (ascii "irc") 0 (ascii "bot") [] [] owner

def ownedContext (owner : Bytes) : CommandContext :=
  { sock := 3, botNick := (ownedBy owner).nick, ownerNick := (ownedBy owner).owner }

theorem ownedContext_serves (owner : Bytes) : Serves (ownedContext owner) owner :=
  .session 3 (.commandLine (ascii "irc") 0 (ascii "bot") [] [] owner)

/-- A question of this nick for the status. -/
def askedBy (nick : Bytes) : Bytes := ascii ":" ++ nick ++ ascii "!u@h PRIVMSG #c :!STATUS"

def askedEvent (nick : Bytes) : Event := { type := .privmsg, nick, target := ascii "#c", text := ascii "!STATUS" }

theorem admin_iff_owner_short :
    let event := askedEvent (ascii "alice")
    let context := ownedContext (ascii "Alice")
    (TreatsAs .admin botaiInit event context ∨ TreatsAs .user botaiInit event context) ∧
    ((TreatsAs .admin botaiInit event context ↔
        ascii "Alice" ≠ [] ∧ equalIgnoreCase (senderNick (askedBy (ascii "alice"))) (ascii "Alice") = true) ↔
      (equalIgnoreCase ((senderNick (askedBy (ascii "alice"))).take 31) ((ascii "Alice").take 31) = true →
        equalIgnoreCase ((senderNick (askedBy (ascii "alice"))).drop 31) ((ascii "Alice").drop 31) = true)) := by
  have hevent : eventFromIrcLine (askedBy (ascii "alice")) = some (askedEvent (ascii "alice")) := by decide +kernel
  exact admin_iff_owner hevent rfl (ownedContext_serves _) botaiInit

/-- Two nicks of 32 bytes that differ in the last one. -/
def longOwner : Bytes := List.replicate 31 97 ++ [98]
def longSender : Bytes := List.replicate 31 97 ++ [99]

/-- The one is answered as the other. -/
theorem admin_not_owner :
    let event := askedEvent (List.replicate 31 97)
    let context := ownedContext longOwner
    Serves context longOwner ∧ eventFromIrcLine (askedBy longSender) = some event ∧
      senderNick (askedBy longSender) = longSender ∧ equalIgnoreCase longSender longOwner = false ∧
      TreatsAs .admin botaiInit event context ∧
      .send 3 (ascii "PRIVMSG #c :AmBot status: online (admin)") 512 ∈
        (commandsHandleEvent botaiInit event context Env.online (worldInit configInit)).2.trace := by
  have hadmin : permissionFor (ownedContext longOwner) (askedEvent (List.replicate 31 97)).nick = .admin := by
    decide +kernel
  have htreats := commandsHandleEvent_permission botaiInit (askedEvent (List.replicate 31 97)) (ownedContext longOwner)
  rw [hadmin] at htreats
  exact ⟨ownedContext_serves _, by decide +kernel, by decide +kernel, by decide +kernel, htreats, by decide +kernel⟩

end AmBot
