import AmBot.BotAi
/-!
# Bot commands

`commands.c`: a PRIVMSG whose text starts with `!` is looked up in a static
table and answered with one PRIVMSG.
-/

namespace AmBot

open RunLib

inductive Permission where
  | user
  | admin
  deriving DecidableEq, Repr

def Permission.level : Permission → Nat
  | .user => 0
  | .admin => 1

inductive Command where
  | HELP
  | STATUS
  | VERSION
  | AI
  deriving DecidableEq, Repr

def Command.all : List Command := [.HELP, .STATUS, .VERSION, .AI]

def Command.name : Command → Bytes
  | .HELP => ascii "HELP"
  | .STATUS => ascii "STATUS"
  | .VERSION => ascii "VERSION"
  | .AI => ascii "AI"

def Command.minimum : Command → Permission
  | .HELP | .STATUS | .VERSION | .AI => .user

def findCommand (name : Bytes) : Option Command := Command.all.find? fun c => equalIgnoreCase c.name name

def permissionFor (context : CommandContext) (nick : Bytes) : Permission :=
  if context.ownerNick ≠ [] ∧ equalIgnoreCase context.ownerNick nick then .admin else .user

def replyTarget (event : Event) (context : CommandContext) : Bytes :=
  if equalIgnoreCase event.target context.botNick then event.nick else event.target

def sendReply (context : CommandContext) (target text : Bytes) : M Unit :=
  sendFormatted context.sock (ascii "PRIVMSG " ++ target ++ ascii " :" ++ text)

/-- The word after the `!`, at most fifteen bytes of it, and what follows. -/
def commandName (text : Bytes) : Bytes × Bytes :=
  let name := copyValue 16 (upTo SP (text.drop 1))
  (name, (text.drop 1).drop name.length)

def isCommand (event : Event) : Bool := event.type = .privmsg && event.text.head? = some BANG

def versionText : Bytes := ascii "AmBot 0.8.0-m8"

/-- The `AI` branch, with the text after the command word. -/
def handleAi (botai : BotAi) (context : CommandContext) (target p : Bytes) : M Unit :=
  let message := skipBlanks p
  if message = [] then sendReply context target (ascii "Usage: !AI <message>")
  else if !botai.compatible then sendReply context target (ascii "BotAI is unavailable")
  else do
    let (rc, reply) ← botaiChat botai message (botaiReplyMax + 1)
    if rc ≠ 0 then sendReply context target (ascii "BotAI is temporarily unavailable")
    else sendReply context target reply

/-- `ambot_commands_handle_event`. -/
def commandsHandleEvent (botai : BotAi) (event : Event) (context : CommandContext) : M Unit :=
  if !isCommand event then pure ()
  else
    let (name, p) := commandName event.text
    let target := replyTarget event context
    if name = [] then pure ()
    else
      match findCommand name with
      | none => sendReply context target (ascii "Unknown command. Try !HELP")
      | some command =>
        let permission := permissionFor context event.nick
        if permission.level < command.minimum.level then sendReply context target (ascii "Permission denied")
        else
          match command with
          | .HELP => sendReply context target (ascii "Commands: !HELP !STATUS !VERSION !AI")
          | .STATUS =>
            sendReply context target
              (if permission = .admin then ascii "AmBot status: online (admin)" else ascii "AmBot status: online")
          | .VERSION => sendReply context target versionText
          | .AI => handleAi botai context target p

end AmBot
