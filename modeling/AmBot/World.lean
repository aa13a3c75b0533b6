import AmBot.RunLib.Prog
import AmBot.Events
import AmBot.Networks
/-!
# The machine the bot runs on

`Env` answers every call that leaves the bot (sockets, signals, the ARexx
ports, files, the clock), each answer depending on how many were given before.
`World` is the memory the whole session shares and the trace of what it did:
an `Obs` for each call and each point where the session loops decide.
-/

namespace AmBot

open RunLib

/-! ## Shared structures -/

/-- `struct ambot_control`. -/
structure Control where
  sock : Int
  connected : Bool
  connectRequested : Bool
  disconnectRequested : Bool
  quitRequested : Bool
  reloadRequested : Bool
  deriving DecidableEq, Repr

def controlInit : Control :=
  { sock := -1, connected := false, connectRequested := true, disconnectRequested := false,
    quitRequested := false, reloadRequested := false }

/-- `ambot_control_set_socket`. -/
def controlSetSocket (control : Control) (sock : Int) : Control :=
  { control with
    sock := sock
    connected := decide (0 ≤ sock)
    connectRequested := if 0 ≤ sock then false else control.connectRequested }

/-- `struct ambot_irc_framer`: `line` is `line[0..length)`. -/
structure IrcFramer where
  line : Bytes
  dropping : Bool
  deriving DecidableEq, Repr

def IrcFramer.length (framer : IrcFramer) : Nat := framer.line.length

def ircFramerInit : IrcFramer := { line := [], dropping := false }

/-- `struct ambot_modernirc`. -/
structure ModernIrc where
  capActive : Bool
  saslRequested : Bool
  saslComplete : Bool
  capEnded : Bool
  deriving DecidableEq, Repr

def modernIrcInit : ModernIrc :=
  { capActive := false, saslRequested := false, saslComplete := false, capEnded := false }

/-- `struct ambot_command_context`, less the BotAI pointer. -/
structure CommandContext where
  sock : Int
  botNick : Bytes
  ownerNick : Bytes
  deriving DecidableEq, Repr

/-- `struct ambot_hook_context`, less the counters it prints at exit. -/
structure HookContext where
  scriptDir : Bytes
  deriving DecidableEq, Repr

/-- `struct network_runtime`, less its module list. -/
structure NetworkRuntime where
  config : NetworkConfig
  sock : Int
  framer : IrcFramer
  events : EventQueue
  commands : CommandContext
  hooks : HookContext
  modern : ModernIrc
  retryWait : Nat
  retryAt : Int
  retryEnabled : Bool
  deriving DecidableEq, Repr

/-- Entry `i` of `runtimes` with entry `i` of `sockets`. -/
structure Slot where
  runtime : NetworkRuntime
  socket : Int
  deriving DecidableEq, Repr

/-- `struct ambot_botai`. -/
structure BotAi where
  host : Bytes
  path : Bytes
  expert : Bytes
  port : Nat
  timeoutSeconds : Nat
  enabled : Bool
  compatible : Bool
  deriving DecidableEq, Repr

/-- What `ambot_net_wait_many` hands back: its return code, the two signals
the sessions ask for and the bits of `ready`. -/
structure WaitResult where
  rc : Int
  rexx : Bool
  ctrlC : Bool
  ready : List Bool
  deriving DecidableEq, Repr

/-! ## Observations -/

/-- Which of the two session loops connects a network. -/
inductive Mode where
  | single
  | multi
  deriving DecidableEq, Repr

/-- One entry of the trace. The entries from `event` on are points the code
passes, with the state it passes them in: where a session loop decides, and
where it is about to connect, to register, to join the configured channels or
to read a line, or takes up or leaves one network. -/
inductive Obs where
  | connect (host : Bytes) (port : Nat) (result : Int)
  | send (sock : Int) (data : Bytes) (rc : Int)
  | recv (sock : Int) (data : Option Bytes)
  | close (sock : Int)
  | wait (socks : List Int) (timeout : Option Nat)
  | rexx (input : Bytes) (rc : Nat) (result : Bytes)
  | script (command : Bytes)
  | load (path : Bytes) (opened : Bool)
  | delay (ticks : Nat)
  | ctrlC
  | underflow
  | event (event : Event) (control : Control)
  | rebuild (control : Control)
  | opened (slots : List Slot) (control : Control)
  | iteration (slots : List Slot) (active retrying : Nat) (control : Control)
  | woken (result : WaitResult) (slots : List Slot) (control : Control)
  | retry (now : Int) (slots : List Slot) (control : Control)
  | session (sock : Int) (control : Control)
  | dial (mode : Mode) (network : NetworkConfig)
  | register (control : Control)
  | join (sock : Int) (channels : List Bytes)
  | turn (index : Nat) (slot : Slot)
  | settled (index : Nat) (slot : Slot)
  | line (text : Bytes) (modern : ModernIrc)
  | negotiated
  deriving DecidableEq, Repr

/-! ## Answers from outside -/

structure WaitAnswer where
  rc : Int
  rexx : Bool
  ctrlC : Bool
  readable : Int → Bool

/-- The answers of the outside, by the number of answers given before. `fuel`
bounds the rounds of each loop that has no bound of its own. -/
structure Env where
  fuel : Nat
  gethostbyname : Nat → Bool
  socket : Nat → Int
  connect : Nat → Int
  send : Nat → Int
  /-- `none` for a negative result; the bytes received otherwise. -/
  recv : Nat → Option Bytes
  waitSelect : Nat → WaitAnswer
  /-- The messages one drain of the `AMBOT` port finds. -/
  messages : Nat → List Bytes
  time : Nat → Int
  ctrlC : Nat → Bool
  /-- What `fopen` finds at the configuration path. -/
  file : Nat → Option Bytes
  scriptExists : Nat → Bool
  /-- The `REXX` port exists and the reply port and message can be made. -/
  rexxMaster : Nat → Bool
  argstring : Nat → Bool
  /-- One `Wait` for a running script: the `AMBOT` port's signal, the reply. -/
  scriptWait : Nat → Bool × Bool
  scriptResult : Nat → Int
  rexxOpen : Nat → Bool
  netOpen : Nat → Bool

/-- `breakSignal` is the task's Ctrl-C signal: it stays set until a wait takes it. -/
structure World where
  control : Control
  config : Config
  breakSignal : Bool
  tick : Nat
  trace : List Obs

/-- An outside where nothing is found and nothing arrives. -/
def Env.silent : Env :=
  { fuel := 20
    gethostbyname := fun _ => false
    socket := fun _ => -1
    connect := fun _ => -1
    send := fun _ => -1
    recv := fun _ => none
    waitSelect := fun _ => { rc := 0, rexx := false, ctrlC := false, readable := fun _ => false }
    messages := fun _ => []
    time := fun _ => 0
    ctrlC := fun _ => false
    file := fun _ => none
    scriptExists := fun _ => false
    rexxMaster := fun _ => false
    argstring := fun _ => false
    scriptWait := fun _ => (false, true)
    scriptResult := fun _ => 0
    rexxOpen := fun _ => false
    netOpen := fun _ => false }

/-- An outside where every connect succeeds with descriptor 3, every send takes
all it is given and every wait ends with an ARexx signal. -/
def Env.online : Env :=
  { Env.silent with
    gethostbyname := fun _ => true
    socket := fun _ => 3
    connect := fun _ => 0
    send := fun _ => 512
    waitSelect := fun _ => { rc := 0, rexx := true, ctrlC := false, readable := fun _ => false } }

/-- The world in which a session starts. -/
def worldInit (config : Config) : World :=
  { control := controlInit, config, breakSignal := false, tick := 0, trace := [] }

abbrev M (α : Type) : Type := Prog Env World α

def World.log (w : World) (o : Obs) : World := { w with trace := w.trace ++ [o] }

def World.setControl (w : World) (control : Control) : World := { w with control }

/-- The next answer of the outside. -/
def ask {α : Type} (f : Env → Nat → α) : M α := fun env w => (.ok (f env w.tick), { w with tick := w.tick + 1 })

def log (o : Obs) : M Unit := Prog.modify fun w => w.log o

def getControl : M Control := Prog.read fun _ w => w.control

def modifyControl (f : Control → Control) : M Unit := Prog.modify fun w => w.setControl (f w.control)

def getConfig : M Config := Prog.read fun _ w => w.config

def setConfig (config : Config) : M Unit := Prog.modify fun w => { w with config }

def getFuel : M Nat := Prog.read fun env _ => env.fuel

def setBreakSignal (set : Bool) : M Unit := Prog.modify fun w => { w with breakSignal := set }

/-- The Ctrl-C signal, where one may have arrived since it was last looked at. -/
def getBreakSignal (arrived : Bool) : M Bool := do
  let pending ← Prog.read fun _ w => w.breakSignal
  setBreakSignal (pending || arrived)
  pure (pending || arrived)

/-- `ctrl_c_requested`. -/
def ctrlCRequested : M Bool := do
  let arrived ← ask Env.ctrlC
  let set ← getBreakSignal arrived
  Prog.when set (log .ctrlC)
  pure set

/-- `Delay(ticks)`. -/
def delay (ticks : Nat) : M Unit := log (.delay ticks)

/-- `--n` on an unsigned counter, which wraps at zero. -/
def decrement (n : Nat) : M Nat :=
  if n = 0 then do
    log .underflow
    pure (2 ^ 32 - 1)
  else pure (n - 1)

/-! ## net.c -/

/-- `ambot_net_connect_ipv4`. -/
def netConnectIpv4 (host : Bytes) (port : Nat) : M Int := do
  let resolved ← ask Env.gethostbyname
  let result ←
    (if resolved then do
      let sock ← ask Env.socket
      if sock < 0 then pure (-1)
      else do
        let rc ← ask Env.connect
        -- a socket that does not connect is closed here, before anyone sees it
        pure (if rc < 0 then -1 else sock)
    else pure (-1))
  log (.connect host port result)
  pure result

/-- The `while (sent < length)` of `ambot_net_send_all`, on the unsent bytes;
every round that goes on has sent one of them. -/
def netSendFrom (sock : Int) : Nat → Bytes → M Int
  | _, [] => pure 0
  | 0, _ :: _ => pure 0
  | n + 1, data => do
    let rc ← ask Env.send
    log (.send sock data rc)
    if rc ≤ 0 then pure (-1) else netSendFrom sock n (data.drop rc.toNat)

def netSendAll (sock : Int) (data : Bytes) : M Int := netSendFrom sock data.length data

/-- `ambot_net_recv`: at most `length` bytes, or `none` for a negative result. -/
def netRecv (sock : Int) (length : Nat) : M (Option Bytes) := do
  let received ← ask Env.recv
  let data := received.map (List.take length)
  log (.recv sock data)
  pure data

/-- The bits of `ready` that a `WaitSelect` sets. -/
def readyBits (answer : WaitAnswer) (socks : List Int) : List Bool :=
  if answer.rc < 0 then socks.map fun _ => false
  else socks.map fun s => decide (0 ≤ s) && answer.readable s

/-- `ambot_net_wait_many` and its timed variant, with the two signals in the
mask, which `WaitSelect` takes. -/
def netWaitMany (socks : List Int) (timeout : Option Nat) : M WaitResult := do
  log (.wait socks timeout)
  let answer ← ask Env.waitSelect
  -- a Ctrl-C that was pending before the wait ends it too
  let ctrlC ← getBreakSignal answer.ctrlC
  setBreakSignal false
  pure { rc := answer.rc, rexx := answer.rexx, ctrlC, ready := readyBits answer socks }

/-- `ambot_net_wait_many_timed` of one socket with an empty signal mask: its
return code, and whether the socket is ready. -/
def netWaitSocket (sock : Int) (timeout : Nat) : M (Int × Bool) := do
  log (.wait [sock] (some timeout))
  let answer ← ask Env.waitSelect
  pure (answer.rc, (readyBits answer [sock]).headD false)

/-- `ambot_net_close_socket`. -/
def netCloseSocket (sock : Int) : M Unit :=
  if 0 ≤ sock then log (.close sock) else pure ()

end AmBot
