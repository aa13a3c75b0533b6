import AmBot.Rexx
/-!
# Event hooks

`hooks.c`: an event runs the ARexx script of its type, if there is one.
-/

namespace AmBot

open RunLib

def scriptName : EventType → Option Bytes
  | .privmsg => some (ascii "ON_PRIVMSG.rexx")
  | .notice => some (ascii "ON_NOTICE.rexx")
  | .join => some (ascii "ON_JOIN.rexx")
  | .part => some (ascii "ON_PART.rexx")
  | .quit => some (ascii "ON_QUIT.rexx")
  | .kick => some (ascii "ON_KICK.rexx")
  | .topic => some (ascii "ON_TOPIC.rexx")
  | .nick => some (ascii "ON_NICK.rexx")
  | .connect => some (ascii "ON_CONNECT.rexx")
  | .disconnect => some (ascii "ON_DISCONNECT.rexx")
  | .none => none

/-- `ambot_hooks_dispatch_event`. -/
def hooksDispatchEvent (event : Event) (context : HookContext) : M Unit :=
  match scriptName event.type with
  | none => pure ()
  | some script =>
    let path := context.scriptDir ++ ascii "/" ++ script
    if !fits 128 path then pure ()
    else do
      let found ← ask Env.scriptExists
      if !found then pure ()
      else do
        let _ ← rexxRunScript path [eventTypeName event.type, event.nick, event.target, event.text]
        pure ()

end AmBot
