import AmBot.ModernIrc
import AmBot.Commands
import AmBot.Hooks
/-!
# The multi-network runtime

`multinet.c`. The main loop's state is the list of slots, entry `i` of
`runtimes` with entry `i` of `sockets`, and the two counters; one round of the
loop is `multinetRound`.
-/

namespace AmBot

open RunLib

/-! ## Dispatching events -/

/-- `ambot_event_dispatch_pending`; the handlers do not push, so the queue's
count bounds the rounds. -/
def eventDispatchPending (handler : Event → M Unit) : Nat → EventQueue → M EventQueue
  | 0, queue => pure queue
  | n + 1, queue =>
    match eventQueuePop queue with
    | none => pure queue
    | some (event, queue) => do
      handler event
      eventDispatchPending handler n queue

/-- `dispatch_event` of both sessions. -/
def dispatchEvent (botai : BotAi) (commands : CommandContext) (hooks : HookContext) (event : Event) : M Unit := do
  let control ← getControl
  log (.event event control)
  commandsHandleEvent botai event commands
  hooksDispatchEvent event hooks

/-! ## One network -/

/-- `handle_line`: its return code and the runtime after it. -/
def multinetHandleLine (botai : BotAi) (bytes : Bytes) (runtime : NetworkRuntime) : M (Int × NetworkRuntime) :=
  if runtime.sock < 0 then pure (1, runtime)
  else do
    let line := cstr bytes
    let (rc, modern) ← modernIrcAnswer runtime.sock runtime.config runtime.modern line
    let runtime := { runtime with modern }
    if rc ≠ 0 then do
      -- the caller sees the closed socket and does not schedule a retry
      netCloseSocket runtime.sock
      pure (1, { runtime with sock := -1 })
    else if isPing line then do
      sendPong runtime.sock line
      pure (0, runtime)
    else
      let rc := if runtime.sock < 0 then 1 else 0
      match eventFromIrcLine line with
      | none => pure (rc, runtime)
      | some event =>
        let (pushed, events) := eventQueuePush runtime.events event
        if pushed ≠ 0 then pure (rc, { runtime with events })
        else do
          let events ← eventDispatchPending (dispatchEvent botai runtime.commands runtime.hooks) events.count events
          pure (rc, { runtime with events })

inductive ConnectResult where
  | ok
  | retry
  | permanent
  deriving DecidableEq, Repr

/-- The runtime `connect_runtime` sets up once the socket is open. -/
def NetworkRuntime.connected (runtime : NetworkRuntime) (sock : Int) : NetworkRuntime :=
  { runtime with
    sock := sock
    framer := ircFramerInit
    events := eventQueueInit
    commands := { sock, botNick := runtime.config.nick, ownerNick := runtime.config.owner }
    hooks := { scriptDir := runtime.config.hookDir }
    modern := modernIrcInit }

/-- `connect_runtime`: its result and the runtime after it. -/
def connectRuntime (runtime : NetworkRuntime) : M (ConnectResult × NetworkRuntime) :=
  let config := runtime.config
  if networkValidateSecurity config ≠ 0 then pure (.permanent, runtime)
  else do
    log (.dial .multi config)
    let sock ← netConnectIpv4 (networkEndpointHost config) (networkEndpointPort config)
    if sock < 0 then pure (.retry, { runtime with sock })
    else do
      let (rc, modern) ← modernIrcStart sock config
      let runtime := { runtime.connected sock with modern }
      let rc ← (if rc ≠ 0 then pure (-1) else ircSendRegistration sock config.nick config.user config.pass)
      if rc ≠ 0 then do
        netCloseSocket sock
        pure (.retry, { runtime with sock := -1 })
      else do
        sendJoins sock config.channels
        pure (.ok, runtime)

/-! ## The loop -/

inductive MultinetResult where
  | stop
  | reload
  | reconnect
  | noRetryableNetworks
  deriving DecidableEq, Repr

structure Counters where
  active : Nat
  retrying : Nat
  deriving DecidableEq, Repr

/-- A runtime table entry after `memset` and the assignments before the first
connect. -/
def runtimeInit (config : NetworkConfig) : NetworkRuntime :=
  { config, sock := -1, framer := ircFramerInit, events := eventQueueInit
    commands := { sock := 0, botNick := [], ownerNick := [] }
    hooks := { scriptDir := [] }
    modern := modernIrcInit
    retryWait := 0, retryAt := 0, retryEnabled := false }

/-- `if (i == 0) ambot_control_set_socket(control, sock);`. -/
def setFirstSocket (i : Nat) (sock : Int) : M Unit :=
  Prog.when (i = 0) (modifyControl fun control => controlSetSocket control sock)

/-- What a loop over the networks does with one of them. -/
def takeTurn (i : Nat) (slot : Slot) (step : M (Counters × Slot)) : M (Counters × Slot) := do
  log (.turn i slot)
  let (c, slot) ← step
  log (.settled i slot)
  pure (c, slot)

/-- The first connect of one network. -/
def startNetwork (i : Nat) (c : Counters) (config : NetworkConfig) : M (Counters × Slot) :=
  takeTurn i { runtime := runtimeInit config, socket := -1 } do
  let (result, runtime) ← connectRuntime (runtimeInit config)
  match result with
  | .ok => pure ({ c with active := c.active + 1 }, { runtime, socket := runtime.sock })
  | .retry => do
    let now ← ask Env.time
    let runtime := { runtime with retryEnabled := true, retryWait := 1, retryAt := now + 1 }
    pure ({ c with retrying := c.retrying + 1 }, { runtime, socket := runtime.sock })
  | .permanent => pure (c, { runtime, socket := runtime.sock })

def due (now : Int) (runtime : NetworkRuntime) : Bool := runtime.retryEnabled && runtime.retryAt ≤ now

/-- `retry_wait` after one more failure. -/
def nextRetryWait (wait : Nat) : Nat :=
  if wait < 30 then (if 30 < wait * 2 then 30 else wait * 2) else wait

/-- The reconnect loop's body for network `i`. -/
def retryNetwork (now : Int) (i : Nat) (c : Counters) (slot : Slot) : M (Counters × Slot) :=
  if !due now slot.runtime then pure (c, slot)
  else takeTurn i slot do
    let (result, runtime) ← connectRuntime slot.runtime
    match result with
    | .ok => do
      let retrying ← decrement c.retrying
      setFirstSocket i runtime.sock
      pure ({ active := c.active + 1, retrying },
        { runtime := { runtime with retryEnabled := false }, socket := runtime.sock })
    | .permanent => do
      let retrying ← decrement c.retrying
      pure ({ c with retrying }, { slot with runtime := { runtime with retryEnabled := false } })
    | .retry =>
      -- `sockets[i]` keeps the -1 it has
      let wait := nextRetryWait runtime.retryWait
      pure (c, { slot with runtime := { runtime with retryWait := wait, retryAt := now + wait } })

def multinetRecvBuffer : Nat := 512

/-- A connection that recv reports closed: retried after a second. -/
def loseNetwork (i : Nat) (c : Counters) (slot : Slot) : M (Counters × Slot) := do
  netCloseSocket slot.runtime.sock
  setFirstSocket i (-1)
  let now ← ask Env.time
  pure ({ active := c.active - 1, retrying := c.retrying + 1 },
    { runtime := { slot.runtime with sock := -1, retryEnabled := true, retryWait := 1, retryAt := now + 1 }
      socket := -1 })

/-- Received bytes go through the framer; a negotiation failure disables the
network. -/
def feedNetwork (botai : BotAi) (i : Nat) (c : Counters) (slot : Slot) (data : Bytes) : M (Counters × Slot) := do
  let (framer, runtime) ← framerFeed (multinetHandleLine botai) data slot.runtime.framer slot.runtime
  let runtime := { runtime with framer }
  if runtime.sock < 0 then do
    -- `handle_line` has closed it
    setFirstSocket i (-1)
    pure ({ c with active := c.active - 1 }, { runtime, socket := -1 })
  else pure (c, { slot with runtime })

/-- The receive loop's body for network `i`. -/
def receiveNetwork (botai : BotAi) (ready : List Bool) (i : Nat) (c : Counters) (slot : Slot) : M (Counters × Slot) :=
  if !ready.getD i false || slot.runtime.sock < 0 then pure (c, slot)
  else takeTurn i slot do
    let received ← netRecv slot.runtime.sock multinetRecvBuffer
    match received with
    | none => loseNetwork i c slot
    | some [] => loseNetwork i c slot
    | some data => feedNetwork botai i c slot data

/-- The state of the main loop. -/
structure MultinetState where
  slots : List Slot
  counters : Counters
  deriving DecidableEq, Repr

def MultinetState.sockets (s : MultinetState) : List Int := s.slots.map (·.socket)

/-- The code after the main loop. -/
def multinetStop (s : MultinetState) : M MultinetResult := do
  Prog.each (fun slot => if 0 ≤ slot.runtime.sock then netCloseSocket slot.runtime.sock else pure ()) s.slots
  modifyControl fun control => controlSetSocket control (-1)
  pure .stop

/-- What a round does once it has been woken and is to go on: the reconnects
that are due, then the sockets that are ready. -/
def multinetServe (botai : BotAi) (ready : List Bool) (s : MultinetState) : M MultinetState := do
  let (counters, slots) ←
    (if 0 < s.counters.retrying then do
      let now ← ask Env.time
      let control ← getControl
      log (.retry now s.slots control)
      Prog.sweep (retryNetwork now) 0 s.counters s.slots
    else pure (s.counters, s.slots))
  let (counters, slots) ← Prog.sweep (receiveNetwork botai ready) 0 counters slots
  pure { slots, counters }

/-- One round of the main loop, from its condition to its end. -/
def multinetRound (botai : BotAi) (s : MultinetState) : M (MultinetState ⊕ MultinetResult) := do
  let control ← getControl
  if control.quitRequested || control.disconnectRequested then do
    let result ← multinetStop s
    pure (.inr result)
  else do
    log (.iteration s.slots s.counters.active s.counters.retrying control)
    if s.counters.active = 0 ∧ s.counters.retrying = 0 then pure (.inr .noRetryableNetworks)
    else do
      let result ← netWaitMany s.sockets (if 0 < s.counters.retrying then some 1 else none)
      Prog.when result.rexx rexxProcess
      let control ← getControl
      log (.woken result s.slots control)
      -- RELOAD and RECONNECT return from here, past the code after the loop
      if result.rexx && control.reloadRequested then pure (.inr .reload)
      else if result.ctrlC then do
        log .ctrlC
        modifyControl fun control => { control with quitRequested := true }
        let result ← multinetStop s
        pure (.inr result)
      else if result.rc < 0 then pure (.inr .reconnect)
      else do
        let s ← multinetServe botai result.ready s
        pure (.inl s)

/-- `runtimes[0].sock`. -/
def firstSocket (slots : List Slot) : Int := (slots.head?.map (·.runtime.sock)).getD (-1)

/-- The initial connects of `ambot_multinet_run`. -/
def multinetStart (networks : Networks) : M MultinetState := do
  let (counters, slots) ← Prog.sweep startNetwork 0 { active := 0, retrying := 0 } networks.items
  let control ← getControl
  log (.opened slots control)
  Prog.when (0 ≤ firstSocket slots) (modifyControl fun control => controlSetSocket control (firstSocket slots))
  pure { slots, counters }

/-- One network with the default settings. -/
def oneNetwork : Networks :=
  { items := [copyNetwork (networkDefaults configInit)], skipped := 0, bound := by decide }

/-- `ambot_multinet_run`. -/
def multinetRun (networks : Networks) (botai : BotAi) : M MultinetResult := do
  let s ← multinetStart networks
  let fuel ← getFuel
  Prog.loop fuel (multinetRound botai) s

end AmBot
