import AmBot.Rexx
import AmBot.RunLib.Runs
/-!
# The ARexx port and those who use it

`rexx.c` one message at a time. The bot's task is somewhere in the code that
uses its `AMBOT` port, or outside it; the other parties are the tasks that find
the port and put messages there, and the hook script the bot waits for, which
sends commands of its own. `portStep` is a step of any one of them, so a run
of it is an interleaving of all.
-/

namespace AmBot

open RunLib

/-! ## Messages and ports -/

/-- What the bot reads of a `struct RexxMsg` and fills in: `mn_ReplyPort`,
`rm_Args[0]`, `RXFF_RESULT` in `rm_Action`, `rm_Result1` and `rm_Result2`. -/
structure RexxMsg where
  replyPort : Nat
  arg0 : Option Bytes
  wantsResult : Bool
  result1 : Int
  result2 : Option Bytes
  deriving DecidableEq, Repr

/-- The command of a message, as `ambot_rexx_process` reads it. -/
def RexxMsg.input (message : RexxMsg) : Bytes := message.arg0.getD []

/-- The part of a message that its sender fixes. -/
def RexxMsg.asked (message : RexxMsg) : Nat × Option Bytes × Bool :=
  (message.replyPort, message.arg0, message.wantsResult)

/-- The message filled in by `ambot_rexx_process`; `made` says whether
`CreateArgstring` gives a string. -/
def RexxMsg.fill (message : RexxMsg) (rc : Nat) (result : Bytes) (made : Bool) : RexxMsg :=
  { message with
    result1 := rc
    result2 := if message.wantsResult && made then some result else none }

/-- Where `ambot_rexx_process` was called: by the session, or by
`ambot_rexx_run_script`, which goes on to look whether the script's reply
signal was among those it took. -/
inductive PortCaller where
  | session
  | script (replySignal : Bool)
  deriving DecidableEq, Repr

/-- Where the bot's task is. -/
inductive PortPc where
  /-- Outside `rexx.c`, and not waiting for the port's signal. -/
  | idle
  /-- In `WaitSelect`, with the port's signal in its mask. -/
  | waiting
  /-- At the condition of `ambot_rexx_process`. -/
  | draining (caller : PortCaller)
  /-- In its body, with a message in hand. -/
  | answering (message : RexxMsg) (caller : PortCaller)
  /-- In the `Wait` of `ambot_rexx_run_script`. -/
  | scriptWaiting
  /-- After that `Wait` and the answers, with the reply signal or without. -/
  | scriptWoken (replySignal : Bool)
  /-- At the condition of the loop in `ambot_rexx_close`. -/
  | closing
  | closed
  deriving DecidableEq, Repr

/-- Where `ambot_rexx_process` returns to. -/
def PortCaller.pc : PortCaller → PortPc
  | .session => .idle
  | .script replySignal => .scriptWoken replySignal

/-- The hook script's task: at work, waiting for the answer to a command, or
ended, with its message back at the bot's reply port. -/
inductive ScriptState where
  | absent
  | running
  | calling
  | ended
  deriving DecidableEq, Repr

/-- The port of the script's task, to which its commands are replied. -/
def scriptPort : Nat := 0

/-- The world with the port and the parties. `signal` and `replySignal` are the
bot's signals for its two ports; `posted`, `replied` and `returned` are the
messages ever put to the port, answered, and sent back when it was closed. -/
structure PortState where
  world : World
  isPublic : Bool
  queue : List RexxMsg
  signal : Bool
  pc : PortPc
  script : ScriptState
  replySignal : Bool
  posted : List RexxMsg
  replied : List RexxMsg
  returned : List RexxMsg

/-- The port as `ambot_rexx_open` leaves it. -/
def portOpened (w : World) : PortState :=
  { world := w, isPublic := true, queue := [], signal := false, pc := .idle, script := .absent, replySignal := false
    posted := [], replied := [], returned := [] }

/-- The message `ambot_rexx_process` has taken and not replied to. -/
def PortState.inHand (s : PortState) : List RexxMsg :=
  match s.pc with
  | .answering message _ => [message]
  | _ => []

/-! ## Steps -/

/-- An answer on the trace: the command, the return code and the result string. -/
def Obs.portAnswer : Obs → Option (Bytes × Nat × Bytes)
  | .rexx input rc result => some (input, rc, result)
  | _ => none

def portAnswers (trace : List Obs) : List (Bytes × Nat × Bytes) := trace.filterMap Obs.portAnswer

inductive PortAction where
  /-- Another task finds the public port and puts a message there. -/
  | post (message : RexxMsg)
  /-- The script sends a command and waits for the reply. -/
  | call (message : RexxMsg)
  /-- The script ends. -/
  | finish
  /-- The bot's next move in the code of its port. -/
  | bot (made : Bool)
  /-- `WaitSelect` returns for another reason than the port's signal. -/
  | event
  /-- The session calls `ambot_rexx_process`, `WaitSelect`, `ambot_rexx_run_script` or `ambot_rexx_close`. -/
  | process
  | wait
  | runScript (command : Bytes)
  | close
  /-- The session does anything else, logging no answer to a message. -/
  | session (world : World) (logged : List Obs)

def World.answered (w : World) : World := { w with tick := w.tick + 1 }

/-- `PutMsg` to the `AMBOT` port. -/
def PortState.put (s : PortState) (message : RexxMsg) : PortState :=
  { s with queue := s.queue ++ [message], signal := true, posted := s.posted ++ [message] }

/-- `ReplyMsg`. -/
def PortState.reply (s : PortState) (message : RexxMsg) : PortState :=
  { s with
    replied := s.replied ++ [message]
    script := if message.replyPort = scriptPort ∧ s.script = .calling then .running else s.script }

/-- `ambot_rexx_process` is called. -/
def PortState.enter (s : PortState) (caller : PortCaller) : PortState :=
  { s with world := s.world.answered, pc := .draining caller }

/-- A wait of the session takes the port's signal. -/
def PortState.wake (s : PortState) : PortState :=
  if s.signal then { s with signal := false }.enter .session else { s with pc := .idle }

/-- The body of `ambot_rexx_process`. -/
def portAnswer (env : Env) (s : PortState) (message : RexxMsg) (caller : PortCaller) (made : Bool) : Option PortState :=
  let input := cstr message.input
  match dispatchCommand input env s.world with
  | (.ok (rc, result), world) =>
    some ({ s with world := world.log (.rexx input rc result), pc := .draining caller }.reply
      (message.fill rc result made))
  | (.error _, _) => none

/-- The bot's next move where it is in the code of its port; none where it
waits for a signal that is not there. -/
def botStep (env : Env) (s : PortState) (made : Bool) : Option PortState :=
  match s.pc with
  | .waiting => if s.signal then some s.wake else none
  | .draining caller =>
    match s.queue with
    | [] => some { s with pc := caller.pc }
    | message :: queue => some { s with queue, pc := .answering message caller }
  | .answering message caller => portAnswer env s message caller made
  | .scriptWaiting =>
    if s.signal || s.replySignal then
      let woken := { s with world := s.world.answered, signal := false, replySignal := false }
      some (if s.signal then woken.enter (.script s.replySignal) else { woken with pc := .scriptWoken s.replySignal })
    else none
  | .scriptWoken replySignal =>
    -- the script's message is freed here
    some (if replySignal && s.script = .ended then { s with pc := .idle, script := .absent }
      else { s with pc := .scriptWaiting })
  | .closing =>
    match s.queue with
    | [] => some { s with pc := .closed }
    | message :: queue => some { s with queue, returned := s.returned ++ [message] }
  | .idle => none
  | .closed => none

/-- A step of one of the parties. -/
def portStep (env : Env) (s : PortState) : PortAction → Option PortState
  | .post message => if s.isPublic ∧ message.replyPort ≠ scriptPort then some (s.put message) else none
  | .call message =>
    if s.isPublic ∧ s.script = .running ∧ message.replyPort = scriptPort then
      some { s.put message with script := .calling }
    else none
  | .finish => if s.script = .running then some { s with script := .ended, replySignal := true } else none
  | .bot made => botStep env s made
  | .event => if s.pc = .waiting then some s.wake else none
  | .process => if s.pc = .idle then some (s.enter .session) else none
  | .wait => if s.pc = .idle then some { s with pc := .waiting } else none
  | .runScript command =>
    if s.pc = .idle then
      some { s with world := s.world.log (.script command), pc := .scriptWaiting, script := .running, replySignal := false }
    else none
  | .close => if s.pc = .idle then some { s with isPublic := false, pc := .closing } else none
  | .session world logged =>
    if s.pc = .idle ∧ portAnswers logged = [] then
      some { s with world := { world with trace := s.world.trace ++ logged } }
    else none

end AmBot
