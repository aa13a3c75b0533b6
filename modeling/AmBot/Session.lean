import AmBot.Multinet
/-!
# The session

`session.c`: the start of the bot, the loop around `ambot_multinet_run`, and
the older loop that serves one network. The single-network code reads the nick
and the hook directory through pointers into the configuration, so here they
are read when they are used.
-/

namespace AmBot

open RunLib

/-! ## Reloading -/

/-- `ambot_config_load` on a path, as the session calls it. -/
def loadConfig (path : Bytes) : M Int := do
  let config ← getConfig
  let file ← ask Env.file
  let (rc, config) := configLoad config path file
  log (.load path (decide (rc = 0)))
  setConfig config
  pure rc

def clearReload : M Unit := modifyControl fun control => { control with reloadRequested := false }

/-- `process_reload`. -/
def processReload : M Unit := do
  let control ← getControl
  if control.reloadRequested then do
    clearReload
    let config ← getConfig
    if config.path = [] then pure ()
    else do
      let _ ← loadConfig config.path
      pure ()
  else pure ()

/-! ## One network -/

def emitLifecycle (type : EventType) (reason : Bytes) : M Unit := do
  let config ← getConfig
  let event : Event :=
    { type, nick := snprintf eventNickSize config.nick, target := snprintf eventTargetSize config.host,
      text := snprintf eventTextSize reason }
  hooksDispatchEvent event { scriptDir := config.hookDir }

/-- `handle_line` of the single-network session: its return code and the queue. -/
def sessionHandleLine (sock : Int) (bytes : Bytes) (queue : EventQueue) : M (Int × EventQueue) :=
  let line := cstr bytes
  if isPing line then do
    sendPong sock line
    pure (0, queue)
  else
    match eventFromIrcLine line with
    | none => pure (0, queue)
    | some event => pure (0, (eventQueuePush queue event).2)

/-- `dispatch_event` of the single-network session. -/
def sessionDispatchEvent (botai : BotAi) (sock : Int) (event : Event) : M Unit := do
  let config ← getConfig
  dispatchEvent botai { sock, botNick := config.nick, ownerNick := config.owner } { scriptDir := config.hookDir } event

/-- The framer and the queue of a connected session. -/
structure SessionState where
  framer : IrcFramer
  events : EventQueue
  deriving DecidableEq, Repr

/-- Received bytes: the whole read goes through the framer, then the queue is
dispatched. -/
def sessionFeed (botai : BotAi) (sock : Int) (data : Bytes) (s : SessionState) : M SessionState := do
  let (framer, events) ← framerFeed (sessionHandleLine sock) data s.framer s.events
  let events ← eventDispatchPending (sessionDispatchEvent botai sock) events.count events
  pure { framer, events }

def setSocket (sock : Int) : M Unit := modifyControl fun control => controlSetSocket control sock

def recvBuffer : Nat := 512

/-- One round of the loop of `run_connected_session`. -/
def connectedRound (botai : BotAi) (sock : Int) (s : SessionState) : M (SessionState ⊕ Int) := do
  let ctrlC ← ctrlCRequested
  let control ← getControl
  if ctrlC || control.quitRequested || control.disconnectRequested then do
    setSocket (-1)
    pure (.inr 0)
  else do
    log (.session sock control)
    let result ← netWaitMany [sock] none
    Prog.when result.rexx do
      rexxProcess
      processReload
    if result.ctrlC then do
      log .ctrlC
      modifyControl fun control => { control with quitRequested := true }
      setSocket (-1)
      pure (.inr 0)
    else do
      -- a stop among the messages wins over what the wait found
      let control ← getControl
      if control.quitRequested || control.disconnectRequested then do
        setSocket (-1)
        pure (.inr 0)
      else if result.rc < 0 then do
        setSocket (-1)
        pure (.inr (-1))
      else if !result.ready.headD false then pure (.inl s)
      else do
        let received ← netRecv sock recvBuffer
        match received with
        | none => do
          setSocket (-1)
          pure (.inr (-1))
        | some [] => do
          setSocket (-1)
          pure (.inr (-1))
        | some data => do
          let s ← sessionFeed botai sock data s
          pure (.inl s)

/-- `run_connected_session`. -/
def runConnectedSession (botai : BotAi) (sock : Int) : M Int := do
  setSocket sock
  let control ← getControl
  log (.register control)
  modifyControl fun control => { control with disconnectRequested := false }
  let config ← getConfig
  let rc ← ircSendRegistration sock config.nick config.user config.pass
  if rc ≠ 0 then do
    setSocket (-1)
    pure (-1)
  else do
    sendJoins sock config.channels
    let fuel ← getFuel
    Prog.loop fuel (connectedRound botai sock) { framer := ircFramerInit, events := eventQueueInit }

/-- The loop of `reconnect_delay`; every round waits five ticks or the rest. -/
def reconnectDelayFrom : Nat → Nat → M Unit
  | 0, _ => pure ()
  | n + 1, ticks => do
    let control ← getControl
    if ticks = 0 || !control.connectRequested || control.quitRequested then pure ()
    else do
      let ctrlC ← ctrlCRequested
      if ctrlC then pure ()
      else do
        rexxProcess
        processReload
        let control ← getControl
        if !control.connectRequested || control.quitRequested then pure ()
        else do
          delay (min ticks 5)
          reconnectDelayFrom n (ticks - 5)

/-- `reconnect_delay`. -/
def reconnectDelay (seconds : Nat) : M Unit := reconnectDelayFrom (seconds * 50) (seconds * 50)

def reconnectMaxSeconds : Nat := 30

/-- `backoff` after a delay. -/
def nextBackoff (backoff : Nat) : Nat :=
  if backoff < reconnectMaxSeconds then
    (if reconnectMaxSeconds < backoff * 2 then reconnectMaxSeconds else backoff * 2)
  else backoff

/-- The delay at the end of a round that is to reconnect. -/
def reconnectLater (backoff : Nat) : M (Nat ⊕ Int) := do
  let control ← getControl
  if control.connectRequested then do
    reconnectDelay backoff
    pure (.inl (nextBackoff backoff))
  else pure (.inl backoff)

/-- The reason `ambot_session_run` gives for the end of a connection. -/
def disconnectReason (rc : Int) : M Bytes := do
  let control ← getControl
  if control.disconnectRequested then pure (ascii "requested")
  else do
    let stopped ← (if control.quitRequested then pure true else ctrlCRequested)
    if stopped then pure (ascii "stopped")
    else if rc ≠ 0 then pure (ascii "connection-lost")
    else pure (ascii "disconnected")

/-- One connection of `ambot_session_run`, from its opening to its end. -/
def serveConnection (botai : BotAi) (sock : Int) : M (Nat ⊕ Int) := do
  setSocket sock
  emitLifecycle .connect (ascii "connected")
  let rc ← runConnectedSession botai sock
  netCloseSocket sock
  setSocket (-1)
  let reason ← disconnectReason rc
  emitLifecycle .disconnect reason
  let control ← getControl
  let stopped ← (if control.quitRequested then pure true else ctrlCRequested)
  if stopped then pure (.inr 0)
  else do
    let control ← getControl
    if control.disconnectRequested then do
      modifyControl fun control => { control with disconnectRequested := false, connectRequested := false }
      pure (.inl 1)
    else do
      modifyControl fun control => { control with connectRequested := true }
      reconnectLater 1

/-- One round of the single-network loop, with its `backoff`. -/
def sessionRound (botai : BotAi) (backoff : Nat) : M (Nat ⊕ Int) := do
  let ctrlC ← ctrlCRequested
  let control ← getControl
  if ctrlC || control.quitRequested then pure (.inr 0)
  else do
    rexxProcess
    processReload
    let control ← getControl
    if !control.connectRequested then do
      delay 5
      pure (.inl backoff)
    else do
      let config ← getConfig
      -- the settings of the one network, which nothing has checked
      log (.dial .single (copyNetwork (legacyNetwork config)))
      let sock ← netConnectIpv4 config.host config.port
      if 0 ≤ sock then serveConnection botai sock else reconnectLater backoff

/-! ## Several networks -/

/-- `while (!connect_requested && !quit_requested && !ctrl_c_requested())`,
also ended by a reload where `reload` is set. -/
def waitForConnect (reload : Bool) : M Unit := do
  let fuel ← getFuel
  Prog.loop fuel (fun _ => do
    let control ← getControl
    if control.connectRequested || (reload && control.reloadRequested) || control.quitRequested then pure (.inr ())
    else do
      let ctrlC ← ctrlCRequested
      if ctrlC then pure (.inr ())
      else do
        rexxProcess
        delay 5
        pure (.inl ())) ()

/-- The five seconds after a failed wait; 250 ticks in steps of five. -/
def waitToRebuild : Nat → M Unit
  | 0 => pure ()
  | n + 1 => do
    let control ← getControl
    if control.quitRequested then pure ()
    else do
      let ctrlC ← ctrlCRequested
      if ctrlC then pure ()
      else do
        rexxProcess
        let control ← getControl
        if control.reloadRequested then pure ()
        else do
          delay 5
          waitToRebuild n

/-- A reload that was asked for during a wait; its return code. -/
def reloadRequestedConfig : M Int := do
  let control ← getControl
  let config ← getConfig
  if control.reloadRequested && config.path ≠ [] then do
    clearReload
    loadConfig config.path
  else pure 0

/-- What `run_m7_networks` does with the result of a run. -/
def afterMultinet (result : MultinetResult) : M (Unit ⊕ Int) := do
  let control ← getControl
  let stopped ← (if control.quitRequested then pure true else ctrlCRequested)
  if stopped then pure (.inr 0)
  else if result = .reload then do
    -- tested before `disconnect_requested`; a file that cannot be read ends the session
    clearReload
    let config ← getConfig
    if config.path = [] then pure (.inr 10)
    else do
      let rc ← loadConfig config.path
      pure (if rc ≠ 0 then .inr 10 else .inl ())
  else if control.disconnectRequested then do
    modifyControl fun control => { control with disconnectRequested := false, connectRequested := false }
    waitForConnect false
    pure (.inl ())
  else if result = .noRetryableNetworks then do
    modifyControl fun control => { control with connectRequested := false }
    waitForConnect true
    let rc ← reloadRequestedConfig
    pure (if rc ≠ 0 then .inr 10 else .inl ())
  else if result = .reconnect then do
    -- here a load that fails is ignored
    waitToRebuild 50
    let _ ← reloadRequestedConfig
    pure (.inl ())
  else pure (.inr 0)

/-- One round of the loop of `run_m7_networks`. -/
def m7Round (botai : BotAi) (_ : Unit) : M (Unit ⊕ Int) := do
  let ctrlC ← ctrlCRequested
  let control ← getControl
  if ctrlC || control.quitRequested then pure (.inr 0)
  else do
    let config ← getConfig
    let (rc, networks) := networksFromConfig config
    if rc ≠ 0 then pure (.inr 10)
    else do
      log (.rebuild control)
      -- whatever was requested since the last run is dropped
      modifyControl fun control =>
        { control with reloadRequested := false, disconnectRequested := false, connectRequested := true }
      let result ← multinetRun networks botai
      afterMultinet result

/-- A configuration with a server, a nick and a file it can be read from again. -/
def oneServer : Config := { configInit with host := ascii "irc", nick := ascii "bot", path := ascii "bot.conf" }

/-- `run_m7_networks`. -/
def runM7Networks (botai : BotAi) : M Int := do
  let fuel ← getFuel
  Prog.loop fuel (m7Round botai) ()

/-! ## The start -/

/-- `struct ambot_session_config`, null strings as empty ones. -/
structure SessionConfig where
  host : Bytes
  port : Nat
  nick : Bytes
  user : Bytes
  pass : Bytes
  ownerNick : Bytes
  configPath : Bytes
  deriving DecidableEq, Repr

/-- The BotAI part of the start. -/
def startBotai : M BotAi := do
  let config ← getConfig
  if config.botaiUrl = [] then pure botaiInit
  else
    let (rc, botai) := botaiConfigure config.botaiUrl config.botaiExpert config.botaiTimeoutSeconds
    if rc ≠ 0 then pure botai
    else do
      let (_, botai) ← botaiCheck botai
      pure botai

/-- The single-network loop of `ambot_session_run`. -/
def runSingleNetwork (botai : BotAi) : M Int := do
  let fuel ← getFuel
  let rc ← Prog.loop fuel (sessionRound botai) 1
  setSocket (-1)
  pure rc

/-- The choice between the two modes. -/
def runNetworks (botai : BotAi) : M Int := do
  let config ← getConfig
  if config.networks ≠ [] || config.useAmbnc then do
    let rc ← runM7Networks botai
    setSocket (-1)
    pure rc
  else runSingleNetwork botai

/-- `ambot_session_run`. -/
def sessionRun (startup : SessionConfig) : M Int := do
  setConfig (configSeed startup.host startup.port startup.nick startup.user startup.pass startup.ownerNick)
  let rc ← (if startup.configPath ≠ [] then loadConfig startup.configPath else pure 0)
  let config ← getConfig
  if rc ≠ 0 then pure 10
  else if config.networks = [] ∧ (config.host = [] ∨ config.nick = []) then pure 10
  else do
    modifyControl fun _ => controlInit
    let rexxOpen ← ask Env.rexxOpen
    if !rexxOpen then pure 20
    else do
      let netOpen ← ask Env.netOpen
      if !netOpen then pure 20
      else do
        let botai ← startBotai
        runNetworks botai

end AmBot
