import AmBot.Irc
/-!
# The control operations and the ARexx port

`operations.c` and `rexx.c`: a command from the `AMBOT` port changes the
control block or sends one line on its socket, and is answered with a return
code and a result string.
-/

namespace AmBot

open RunLib

def operationResultMax : Nat := 256

/-- `set_result` and the short `snprintf`s into the result buffer. -/
def setResult (text : Bytes) : Bytes := copyValue operationResultMax text

/-! ## Operations -/

def flagDigit (b : Bool) : Bytes := if b then ascii "1" else ascii "0"

/-- The result string of `ambot_operation_status`. -/
def operationStatus (control : Control) : Bytes :=
  setResult (ascii "CONNECTED=" ++ flagDigit control.connected ++
    ascii " CONNECT_REQUESTED=" ++ flagDigit control.connectRequested ++
    ascii " DISCONNECT_REQUESTED=" ++ flagDigit control.disconnectRequested ++
    ascii " RELOAD_REQUESTED=" ++ flagDigit control.reloadRequested ++
    ascii " QUIT_REQUESTED=" ++ flagDigit control.quitRequested)

/-- `ambot_operation_connect`: the result string and the control block. -/
def operationConnect (control : Control) : Bytes × Control :=
  if control.connected then (setResult (ascii "ALREADY CONNECTED"), control)
  else
    (setResult (ascii "CONNECT REQUESTED"),
      { control with connectRequested := true, disconnectRequested := false })

def operationDisconnect (control : Control) : Bytes × Control :=
  (setResult (if control.connected then ascii "DISCONNECT REQUESTED" else ascii "DISCONNECTED"),
    { control with disconnectRequested := true, connectRequested := false })

def operationReload (control : Control) : Bytes × Control :=
  (setResult (ascii "RELOAD REQUESTED"), { control with reloadRequested := true })

def operationQuit (control : Control) : Bytes × Control :=
  (setResult (ascii "QUIT REQUESTED"),
    { control with quitRequested := true, disconnectRequested := true, connectRequested := false })

/-- `ambot_operation_send_raw`: the return code and the result string. -/
def operationSendRaw (line : Bytes) : M (Nat × Bytes) := do
  let control ← getControl
  if !control.connected || control.sock < 0 then pure (10, setResult (ascii "NOT CONNECTED"))
  else if line = [] then pure (10, setResult (ascii "MISSING LINE"))
  else do
    let rc ← ircSendLine control.sock line
    if rc ≠ 0 then pure (20, setResult (ascii "SEND FAILED")) else pure (0, setResult (ascii "OK"))

def operationSendTarget (command target text : Bytes) : M (Nat × Bytes) :=
  if target = [] then pure (10, setResult (ascii "MISSING TARGET"))
  else
    let line :=
      if text ≠ [] then command ++ ascii " " ++ target ++ ascii " :" ++ text
      else command ++ ascii " " ++ target
    if fits (ircLineMax + 1) line then operationSendRaw line
    else pure (10, setResult (ascii "LINE TOO LONG"))

/-! ## Reading a command -/

def skipSpace (p : Bytes) : Bytes := p.dropWhile isSpace

/-- `next_word` into a buffer of `size` bytes: the word kept and the rest of
the string from the next word on. -/
def nextWord (p : Bytes) (size : Nat) : Bytes × Bytes :=
  let p := skipSpace p
  (copyValue size (p.takeWhile (!isSpace ·)), skipSpace (p.dropWhile (!isSpace ·)))

def uppercase (text : Bytes) : Bytes := text.map toUpper

/-- The command word `dispatch_command` compares. -/
def commandWord (input : Bytes) : Bytes := uppercase (nextWord input 16).1

/-- `send_command`. -/
def sendCommand (command args : Bytes) : M (Nat × Bytes) :=
  let args := skipSpace args
  if args = [] then pure (10, setResult (ascii "MISSING ARGUMENTS"))
  else
    let line := command ++ ascii " " ++ args
    if fits (ircLineMax + 1) line then operationSendRaw line
    else pure (10, setResult (ascii "LINE TOO LONG"))

/-- The branch of `dispatch_command` for PART, TOPIC, MSG, NOTICE and ACTION. -/
def dispatchTarget (command args : Bytes) : M (Nat × Bytes) :=
  let (target, text) := nextWord args 64
  if target = [] then pure (10, setResult (ascii "MISSING TARGET"))
  else
    let text := skipSpace text
    if command = ascii "MSG" then operationSendTarget (ascii "PRIVMSG") target text
    else if command = ascii "NOTICE" then operationSendTarget (ascii "NOTICE") target text
    else if command = ascii "PART" then operationSendTarget (ascii "PART") target text
    else if command = ascii "TOPIC" then operationSendTarget (ascii "TOPIC") target text
    else
      let payload := ascii "PRIVMSG " ++ target ++ ascii " :" ++ [1] ++ ascii "ACTION " ++ text ++ [1]
      if fits (ircLineMax + 1) payload then operationSendRaw payload
      else pure (10, setResult (ascii "LINE TOO LONG"))

/-- An operation that only changes the control block. -/
def controlOperation (f : Control → Bytes × Control) : M (Nat × Bytes) := do
  let control ← getControl
  modifyControl fun _ => (f control).2
  pure (0, (f control).1)

/-- `dispatch_command`: the return code and the result string. -/
def dispatchCommand (input : Bytes) : M (Nat × Bytes) :=
  let command := commandWord input
  let args := (nextWord input 16).2
  if command = [] then pure (10, setResult (ascii "EMPTY COMMAND"))
  else if command = ascii "STATUS" then do
    let control ← getControl
    pure (0, operationStatus control)
  else if command = ascii "CONNECT" then controlOperation operationConnect
  else if command = ascii "DISCONNECT" then controlOperation operationDisconnect
  else if command = ascii "RELOAD" then controlOperation operationReload
  else if command = ascii "QUIT" then controlOperation operationQuit
  else if command = ascii "RAW" then operationSendRaw (skipSpace args)
  else if command = ascii "JOIN" then sendCommand (ascii "JOIN") args
  else if command = ascii "WHOIS" then sendCommand (ascii "WHOIS") args
  else if command = ascii "MODE" then sendCommand (ascii "MODE") args
  else if command = ascii "PART" ∨ command = ascii "TOPIC" ∨ command = ascii "MSG" ∨ command = ascii "NOTICE" ∨
      command = ascii "ACTION" then dispatchTarget command args
  else pure (10, setResult (ascii "UNKNOWN COMMAND"))

/-! ## The port -/

/-- One message of the drain: dispatched, answered and replied to. -/
def rexxAnswer (message : Bytes) : M Unit := do
  let input := cstr message
  let (rc, result) ← dispatchCommand input
  log (.rexx input rc result)

/-- `ambot_rexx_process`. -/
def rexxProcess : M Unit := do
  let messages ← ask Env.messages
  Prog.each rexxAnswer messages

/-! ## Running a hook script -/

def rexxScriptCommandMax : Nat := 1024

/-- `append_quoted_arg`'s byte for byte of the argument. -/
def quotedByte (c : UInt8) : UInt8 :=
  if c = CR ∨ c = LF then SP else if c = QUOTE then 39 else c

def quotedArg (src : Bytes) : Bytes := ascii " \"" ++ src.map quotedByte ++ ascii "\""

/-- The command string of `ambot_rexx_run_script`; `none` where an append
fails. Each append fails once the string with its NUL is full. -/
def scriptCommand (path : Bytes) (args : List Bytes) : Option Bytes :=
  let command := path ++ (args.map quotedArg).flatten
  if command.length < rexxScriptCommandMax then some command else none

/-- The `while (!done)` of `ambot_rexx_run_script`. -/
def scriptWaitLoop : M Unit := do
  let fuel ← getFuel
  Prog.loop fuel (fun _ => do
    let (rexx, replied) ← ask Env.scriptWait
    -- the script's own commands come in here
    Prog.when rexx rexxProcess
    pure (if replied then .inr () else .inl ())) ()

/-- `ambot_rexx_run_script` from the path on. -/
def rexxRunScript (path : Bytes) (args : List Bytes) : M Int := do
  let ready ← ask Env.rexxMaster
  if !ready then pure 20
  else
    match scriptCommand path args with
    | none => pure 10
    | some command => do
      let made ← ask Env.argstring
      if !made then pure 20
      else do
        log (.script command)
        scriptWaitLoop
        ask Env.scriptResult

end AmBot
