import AmBot.Session
import AmBot.RunLib.Alike
/-!
# The words of a wait

`netWaitMany` takes a list of sockets and answers with one boolean for each.
The code works on machine words: `wait_many` fills an `fd_set` in one loop and
turns it into a bit mask in another, the signals come back in a mask too, and
its callers test single bits. Here the waits and the two loops around them are
written with these words (the definitions of `Words`), and shown to end alike:
no socket and no signal is lost or taken for another one on the way.

What is relied on is what `WaitSelect` and `AllocSignal` promise: an error is
-1, and the port's signal bit is not the one of Ctrl-C.
-/

namespace AmBot

open RunLib Prog

/-- `unsigned long`. -/
abbrev ULong : Type := BitVec 32

/-- `1UL << i`. -/
def ulongBit (i : Nat) : ULong := 1#32 <<< i

/-- `(word & mask) != 0`. -/
def ULong.meets (word mask : ULong) : Bool := word &&& mask != 0#32

/-- `SIGBREAKF_CTRL_C`. -/
def sigbreakfCtrlC : ULong := ulongBit 12

/-- `fd_set`, by its members. -/
structure FdSet where
  members : List Int
  deriving DecidableEq, Repr

def FdSet.zero : FdSet := { members := [] }

def FdSet.set (fds : FdSet) (fd : Int) : FdSet := { members := fd :: fds.members }

def FdSet.isSet (fds : FdSet) (fd : Int) : Bool := fds.members.contains fd

/-- What `WaitSelect` leaves of a set: the readable descriptors below `nfds`. -/
def FdSet.readable (fds : FdSet) (nfds : Int) (answer : WaitAnswer) : FdSet :=
  { members := fds.members.filter fun fd => decide (fd < nfds) && answer.readable fd }

/-- What a function that waits leaves: its return code, `*signals` and
`*ready_mask`. -/
structure Waited where
  rc : Int
  signals : ULong
  ready : ULong
  deriving DecidableEq, Repr

namespace Words

/-! ## net.c -/

/-- The signals of a mask that have come. -/
def comeSignals (port mask : ULong) (rexx ctrlC : Bool) : ULong :=
  (if rexx then mask &&& port else 0#32) ||| (if ctrlC then mask &&& sigbreakfCtrlC else 0#32)

/-- `WaitSelect`: it leaves the readable descriptors in the set, and in the mask
the signals that have come. The Ctrl-C signal is taken when it is asked for. -/
def waitSelect (port : ULong) (nfds : Int) (readfds : FdSet) (mask : ULong) : M (Int × FdSet × ULong) := do
  let answer ← ask Env.waitSelect
  let ctrlC ←
    (if mask.meets sigbreakfCtrlC then do
      let ctrlC ← getBreakSignal answer.ctrlC
      setBreakSignal false
      pure ctrlC
    else pure false)
  pure (answer.rc, readfds.readable nfds answer, comeSignals port mask answer.rexx ctrlC)

/-- The loop of `wait_many` that fills `readfds` and finds `maxfd`. -/
def collectSockets : List Int → FdSet → Int → FdSet × Int
  | [], readfds, maxfd => (readfds, maxfd)
  | sock :: socks, readfds, maxfd =>
    if 0 ≤ sock then collectSockets socks (readfds.set sock) (if maxfd < sock then sock else maxfd)
    else collectSockets socks readfds maxfd

/-- The loop of `wait_many` that makes `ready` of `readfds`, from `socks[i]` on. -/
def readyFrom (readfds : FdSet) : Nat → List Int → ULong → ULong
  | _, [], ready => ready
  | i, sock :: socks, ready =>
    if i < 32 then
      readyFrom readfds (i + 1) socks (if decide (0 ≤ sock) && readfds.isSet sock then ready ||| ulongBit i else ready)
    else ready

/-- `wait_many`, for callers that start with no bit in `ready`. -/
def waitMany (port : ULong) (socks : List Int) (mask : ULong) (timeout : Option Nat) : M Waited := do
  log (.wait socks timeout)
  let collected := collectSockets socks FdSet.zero (-1)
  let (rc, readfds, signals) ← waitSelect port (collected.2 + 1) collected.1 mask
  if rc < 0 then pure { rc := -1, signals, ready := 0#32 }
  else pure { rc, signals, ready := readyFrom readfds 0 socks 0#32 }

/-- `ambot_net_wait`: its return code and `*signals`. -/
def netWait (port : ULong) (sock : Int) (mask : ULong) : M (Int × ULong) := do
  let waited ← waitMany port [sock] mask none
  if waited.rc < 0 then pure (-1, waited.signals)
  else pure (if waited.ready.meets 1#32 then 1 else 0, waited.signals)

/-- The wait of `http_request`: its return code and the test of its bit. -/
def netWaitSocket (port : ULong) (sock : Int) (timeout : Nat) : M (Int × Bool) := do
  let waited ← waitMany port [sock] 0#32 (some timeout)
  pure (waited.rc, waited.ready.meets 1#32)

/-! ## run_connected_session -/

/-- One round of its loop. -/
def connectedRound (port : ULong) (botai : BotAi) (sock : Int) (s : SessionState) : M (SessionState ⊕ Int) := do
  let ctrlC ← ctrlCRequested
  let control ← getControl
  if ctrlC || control.quitRequested || control.disconnectRequested then do
    setSocket (-1)
    pure (.inr 0)
  else do
    log (.session sock control)
    let (readable, signals) ← netWait port sock (port ||| sigbreakfCtrlC)
    Prog.when (signals.meets port) do
      rexxProcess
      processReload
    if signals.meets sigbreakfCtrlC then do
      log .ctrlC
      modifyControl fun control => { control with quitRequested := true }
      setSocket (-1)
      pure (.inr 0)
    else do
      let control ← getControl
      if control.quitRequested || control.disconnectRequested then do
        setSocket (-1)
        pure (.inr 0)
      else if readable < 0 then do
        setSocket (-1)
        pure (.inr (-1))
      else if 0 < readable then do
        let received ← netRecv sock recvBuffer
        match received with
        | none => do
          setSocket (-1)
          pure (.inr (-1))
        | some [] => do
          setSocket (-1)
          pure (.inr (-1))
        | some data => do
          let s ← sessionFeed botai sock data s
          pure (.inl s)
      else pure (.inl s)

/-- `run_connected_session`. -/
def runConnectedSession (port : ULong) (botai : BotAi) (sock : Int) : M Int := do
  setSocket sock
  let control ← getControl
  log (.register control)
  modifyControl fun control => { control with disconnectRequested := false }
  let config ← getConfig
  let rc ← ircSendRegistration sock config.nick config.user config.pass
  if rc ≠ 0 then do
    setSocket (-1)
    pure (-1)
  else do
    sendJoins sock config.channels
    let fuel ← getFuel
    Prog.loop fuel (connectedRound port botai sock) { framer := ircFramerInit, events := eventQueueInit }

/-! ## ambot_multinet_run -/

/-- The receive loop's body for network `i`. -/
def receiveNetwork (botai : BotAi) (ready : ULong) (i : Nat) (c : Counters) (slot : Slot) : M (Counters × Slot) :=
  if ready.meets (ulongBit i) ∧ 0 ≤ slot.runtime.sock then
    takeTurn i slot do
      let received ← netRecv slot.runtime.sock multinetRecvBuffer
      match received with
      | none => loseNetwork i c slot
      | some [] => loseNetwork i c slot
      | some data => feedNetwork botai i c slot data
  else pure (c, slot)

/-- A round from its reconnects on. -/
def multinetServe (botai : BotAi) (ready : ULong) (s : MultinetState) : M MultinetState := do
  let (counters, slots) ←
    (if 0 < s.counters.retrying then do
      let now ← ask Env.time
      let control ← getControl
      log (.retry now s.slots control)
      Prog.sweep (retryNetwork now) 0 s.counters s.slots
    else pure (s.counters, s.slots))
  let (counters, slots) ← Prog.sweep (receiveNetwork botai ready) 0 counters slots
  pure { slots, counters }

/-- The booleans that the words of a wait for `count` sockets stand for. -/
def asResult (port : ULong) (count : Nat) (waited : Waited) : WaitResult :=
  { rc := waited.rc
    rexx := waited.signals.meets port
    ctrlC := waited.signals.meets sigbreakfCtrlC
    ready := (List.range count).map fun i => waited.ready.meets (ulongBit i) }

/-- One round of the main loop. -/
def multinetRound (port : ULong) (botai : BotAi) (s : MultinetState) : M (MultinetState ⊕ MultinetResult) := do
  let control ← getControl
  if control.quitRequested || control.disconnectRequested then do
    let result ← multinetStop s
    pure (.inr result)
  else do
    log (.iteration s.slots s.counters.active s.counters.retrying control)
    if s.counters.active = 0 ∧ s.counters.retrying = 0 then pure (.inr .noRetryableNetworks)
    else do
      let waited ← waitMany port s.sockets (port ||| sigbreakfCtrlC) (if 0 < s.counters.retrying then some 1 else none)
      Prog.when (waited.signals.meets port) rexxProcess
      let control ← getControl
      log (.woken (asResult port s.sockets.length waited) s.slots control)
      if waited.signals.meets port && control.reloadRequested then pure (.inr .reload)
      else if waited.signals.meets sigbreakfCtrlC then do
        log .ctrlC
        modifyControl fun control => { control with quitRequested := true }
        let result ← multinetStop s
        pure (.inr result)
      else if waited.rc < 0 then pure (.inr .reconnect)
      else do
        let s ← multinetServe botai waited.ready s
        pure (.inl s)

/-- `ambot_multinet_run`. -/
def multinetRun (port : ULong) (networks : Networks) (botai : BotAi) : M MultinetResult := do
  let s ← multinetStart networks
  let fuel ← getFuel
  Prog.loop fuel (multinetRound port botai) s

end Words

/-! ## Bits -/

theorem meets_ulongBit (word : ULong) {i : Nat} (hi : i < 32) : word.meets (ulongBit i) = word.getLsbD i := by
  unfold ULong.meets ulongBit
  rw [← BitVec.twoPow_eq, BitVec.and_twoPow]
  cases word.getLsbD i with
  | false => rfl
  | true =>
    rw [if_pos rfl, bne_iff_ne]
    intro hzero
    have hbit := congrArg (BitVec.getLsbD · i) hzero
    simp [hi] at hbit

theorem getLsbD_ulongBit (i j : Nat) : (ulongBit i).getLsbD j = decide (i = j ∧ j < 32) := by
  unfold ulongBit
  rw [← BitVec.twoPow_eq, BitVec.getLsbD_twoPow]
  grind

namespace Words

variable {port : ULong} {socks : List Int} {readfds : FdSet} {env : Env}

/-! ## The loops of wait_many -/

theorem mem_collectSockets (socks : List Int) (readfds : FdSet) (maxfd fd : Int) :
    fd ∈ (collectSockets socks readfds maxfd).1.members ↔ (fd ∈ socks ∧ 0 ≤ fd) ∨ fd ∈ readfds.members := by
  induction socks generalizing readfds maxfd with
  | nil => simp [collectSockets]
  | cons sock socks ih =>
    rw [collectSockets]
    split
    · rw [ih]
      simp only [FdSet.set, List.mem_cons]
      grind
    · rw [ih]
      grind

/-- `maxfd + 1` is beyond every descriptor of the set. -/
theorem le_collectSockets (socks : List Int) (readfds : FdSet) (maxfd : Int) (h : ∀ fd ∈ readfds.members, fd ≤ maxfd) :
    ∀ fd ∈ (collectSockets socks readfds maxfd).1.members, fd ≤ (collectSockets socks readfds maxfd).2 := by
  induction socks generalizing readfds maxfd with
  | nil => exact h
  | cons sock socks ih =>
    rw [collectSockets]
    split
    · apply ih
      intro fd hfd
      rcases List.mem_cons.mp hfd with rfl | hfd
      · split <;> omega
      · have := h fd hfd
        split <;> omega
    · exact ih _ _ h

theorem getLsbD_readyFrom (readfds : FdSet) (i : Nat) (socks : List Int) (ready : ULong) (j : Nat) :
    (readyFrom readfds i socks ready).getLsbD j = (ready.getLsbD j || (decide (i ≤ j ∧ j < 32) &&
      (socks[j - i]?).any fun sock => decide (0 ≤ sock) && readfds.isSet sock)) := by
  induction socks generalizing i ready with
  | nil => simp [readyFrom]
  | cons sock socks ih =>
    rw [readyFrom]
    split
    · rw [ih]
      have hset : (if decide (0 ≤ sock) && readfds.isSet sock then ready ||| ulongBit i else ready).getLsbD j =
          (ready.getLsbD j || ((decide (0 ≤ sock) && readfds.isSet sock) && decide (i = j ∧ j < 32))) := by
        rw [← getLsbD_ulongBit]
        split
        · next hsock => rw [BitVec.getLsbD_or, hsock, Bool.true_and]
        · next hsock => rw [Bool.eq_false_iff.mpr hsock, Bool.false_and, Bool.or_false]
      rw [hset]
      rcases Nat.lt_trichotomy j i with hlt | rfl | hgt
      · simp [Nat.not_le.mpr hlt, Nat.ne_of_gt hlt, Nat.not_le.mpr (Nat.lt_succ_of_lt hlt)]
      · simp [Bool.and_comm]
      · obtain ⟨k, rfl⟩ := Nat.exists_eq_add_of_lt hgt
        have hplace : i + k + 1 - i = k + 1 := by omega
        have hrest : i + k + 1 - (i + 1) = k := by omega
        rw [hplace, hrest, List.getElem?_cons_succ]
        simp [Nat.add_assoc]
    · have hout : ¬(i ≤ j ∧ j < 32) := by omega
      simp [hout]

/-- Of the sockets, those that are valid and readable are left in the set. -/
theorem isSet_waitSelect (answer : WaitAnswer) (sock : Int) (hmem : sock ∈ socks) (hvalid : 0 ≤ sock) :
    ((collectSockets socks FdSet.zero (-1)).1.readable ((collectSockets socks FdSet.zero (-1)).2 + 1) answer).isSet
      sock = answer.readable sock := by
  have hset : sock ∈ (collectSockets socks FdSet.zero (-1)).1.members :=
    (mem_collectSockets socks FdSet.zero (-1) sock).mpr (.inl ⟨hmem, hvalid⟩)
  have hle := le_collectSockets socks FdSet.zero (-1) (List.forall_mem_nil _) sock hset
  rw [FdSet.isSet, FdSet.readable, Bool.eq_iff_iff, List.contains_iff_mem, List.mem_filter]
  simp only [hset, true_and, Bool.and_eq_true, decide_eq_true_eq, and_iff_right_iff_imp]
  intro _
  omega

/-- The words of a wait for `socks` say what its result says. -/
structure Reads (port : ULong) (socks : List Int) (waited : Waited) (result : WaitResult) : Prop where
  rc : waited.rc = result.rc
  rexx : waited.signals.meets port = result.rexx
  ctrlC : waited.signals.meets sigbreakfCtrlC = result.ctrlC
  ready : ∀ i < 32, waited.ready.meets (ulongBit i) = result.ready.getD i false
  length : result.ready.length = socks.length

theorem readyBits_getD (answer : WaitAnswer) (hrc : 0 ≤ answer.rc) (i : Nat) :
    (readyBits answer socks).getD i false = (socks[i]?).any fun sock => decide (0 ≤ sock) && answer.readable sock := by
  rw [readyBits, if_neg (Int.not_lt.mpr hrc), List.getD_eq_getElem?_getD, List.getElem?_map]
  cases socks[i]? <;> rfl

theorem readyBits_failed (answer : WaitAnswer) (hrc : answer.rc < 0) (i : Nat) :
    (readyBits answer socks).getD i false = false := by
  rw [readyBits, if_pos hrc, List.getD_eq_getElem?_getD, List.getElem?_map]
  cases socks[i]? <;> rfl

theorem readyBits_length (answer : WaitAnswer) : (readyBits answer socks).length = socks.length := by
  unfold readyBits
  split <;> exact List.length_map _

/-- The mask that `wait_many` makes of what `WaitSelect` leaves. -/
theorem meets_readyFrom (answer : WaitAnswer) (hrc : 0 ≤ answer.rc) {i : Nat} (hi : i < 32) :
    (readyFrom ((collectSockets socks FdSet.zero (-1)).1.readable ((collectSockets socks FdSet.zero (-1)).2 + 1)
      answer) 0 socks 0#32).meets (ulongBit i) = (readyBits answer socks).getD i false := by
  rw [meets_ulongBit _ hi, getLsbD_readyFrom, readyBits_getD answer hrc]
  have hplace : 0 ≤ i ∧ i < 32 := ⟨Nat.zero_le i, hi⟩
  simp only [BitVec.getLsbD_zero, Bool.false_or, hplace, and_self, decide_true, Bool.true_and, Nat.sub_zero]
  rcases hsock : socks[i]? with _ | sock
  · rfl
  · by_cases hvalid : 0 ≤ sock
    · have hset := isSet_waitSelect answer sock (List.mem_of_getElem? hsock) hvalid
      simp only [Option.any_some, hset]
    · simp [hvalid]

/-! ## One wait -/

section Waits

variable {sigBit : Nat}

/-- The two signals of a session keep apart in its mask. -/
theorem meets_comeSignals (hbit : sigBit < 32) (hother : sigBit ≠ 12) (rexx ctrlC : Bool) :
    (comeSignals (ulongBit sigBit) (ulongBit sigBit ||| sigbreakfCtrlC) rexx ctrlC).meets (ulongBit sigBit) = rexx ∧
    (comeSignals (ulongBit sigBit) (ulongBit sigBit ||| sigbreakfCtrlC) rexx ctrlC).meets sigbreakfCtrlC = ctrlC := by
  have hapart : ¬12 = sigBit := fun h => hother h.symm
  rw [meets_ulongBit _ hbit, sigbreakfCtrlC, meets_ulongBit _ (by decide)]
  unfold comeSignals
  cases rexx <;> cases ctrlC <;>
    simp only [if_true, if_false, Bool.false_eq_true, BitVec.getLsbD_or, BitVec.getLsbD_and, BitVec.getLsbD_zero,
      getLsbD_ulongBit, sigbreakfCtrlC] <;>
    simp [hbit, hother, hapart]

theorem waitMany_alike (hbit : sigBit < 32) (hother : sigBit ≠ 12) (hfails : ∀ tick, -1 ≤ (env.waitSelect tick).rc)
    (socks : List Int) (timeout : Option Nat) :
    Alike env (waitMany (ulongBit sigBit) socks (ulongBit sigBit ||| sigbreakfCtrlC) timeout)
      (netWaitMany socks timeout) (Reads (ulongBit sigBit) socks) := by
  intro w
  have hasked : (ulongBit sigBit ||| sigbreakfCtrlC).meets sigbreakfCtrlC = true := by
    rw [sigbreakfCtrlC, meets_ulongBit _ (by decide), BitVec.getLsbD_or, getLsbD_ulongBit 12 12]
    simp
  generalize hanswer : env.waitSelect (w.log (.wait socks timeout)).tick = answer
  obtain ⟨hrexx, hbreak⟩ := meets_comeSignals hbit hother answer.rexx (w.breakSignal || answer.ctrlC)
  simp only [waitMany, waitSelect, AmBot.netWaitMany, bind_run, log, ask, getBreakSignal, setBreakSignal, modify_run,
    Prog.read, pure_run, hasked, if_true, hanswer]
  by_cases hrc : answer.rc < 0
  · have herror : answer.rc = -1 := by
      have := hfails (w.log (.wait socks timeout)).tick
      rw [hanswer] at this
      omega
    rw [if_pos hrc]
    refine ⟨rfl, .returns ⟨herror.symm, hrexx, hbreak, ?_, readyBits_length answer⟩⟩
    intro i hi
    rw [readyBits_failed answer hrc, meets_ulongBit _ hi, BitVec.getLsbD_zero]
  · rw [if_neg hrc]
    refine ⟨rfl, .returns ⟨rfl, hrexx, hbreak, ?_, readyBits_length answer⟩⟩
    intro i hi
    exact meets_readyFrom answer (Int.not_lt.mp hrc) hi

/-- What the return code of `ambot_net_wait` says of the socket. -/
structure ReadsOne (port : ULong) (waited : Int × ULong) (result : WaitResult) : Prop where
  failed : waited.1 < 0 ↔ result.rc < 0
  ready : 0 ≤ result.rc → (0 < waited.1 ↔ result.ready.headD false = true)
  rexx : waited.2.meets port = result.rexx
  ctrlC : waited.2.meets sigbreakfCtrlC = result.ctrlC

theorem netWait_alike (hbit : sigBit < 32) (hother : sigBit ≠ 12) (hfails : ∀ tick, -1 ≤ (env.waitSelect tick).rc)
    (sock : Int) :
    Alike env (netWait (ulongBit sigBit) sock (ulongBit sigBit ||| sigbreakfCtrlC)) (netWaitMany [sock] none)
      (ReadsOne (ulongBit sigBit)) := by
  apply (waitMany_alike hbit hother hfails [sock] none).then
  intro waited result h
  have hready : waited.ready.meets 1#32 = result.ready.headD false := by
    have hfirst := h.ready 0 (by decide)
    rw [ulongBit, BitVec.shiftLeft_zero] at hfirst
    rw [hfirst]
    cases result.ready <;> rfl
  rw [h.rc, hready]
  split
  · next hrc =>
    apply alike_pure
    exact ⟨⟨fun _ => hrc, fun _ => Int.negSucc_lt_zero 0⟩, fun hge => absurd hrc (Int.not_lt.mpr hge), h.rexx, h.ctrlC⟩
  · next hrc =>
    apply alike_pure
    refine ⟨⟨fun hlt => absurd hlt ?_, fun hlt => absurd hlt hrc⟩, fun _ => ?_, h.rexx, h.ctrlC⟩
    · cases result.ready.headD false <;> simp
    · cases result.ready.headD false <;> simp

theorem netWaitSocket_alike (port : ULong) (hfails : ∀ tick, -1 ≤ (env.waitSelect tick).rc) (sock : Int)
    (timeout : Nat) : Alike env (netWaitSocket port sock timeout) (AmBot.netWaitSocket sock timeout) Eq := by
  intro w
  have hasked : ULong.meets 0#32 sigbreakfCtrlC = false := rfl
  generalize hanswer : env.waitSelect (w.log (.wait [sock] (some timeout))).tick = answer
  simp only [netWaitSocket, waitMany, waitSelect, AmBot.netWaitSocket, bind_run, log, ask, modify_run, pure_run, hasked,
    Bool.false_eq_true, if_false, hanswer]
  by_cases hrc : answer.rc < 0
  · have herror : answer.rc = -1 := by
      have := hfails (w.log (.wait [sock] (some timeout))).tick
      rw [hanswer] at this
      omega
    simp only [if_pos hrc, readyBits, pure_run]
    rw [herror]
    exact ⟨trivial, .returns rfl⟩
  · have hready := @meets_readyFrom [sock] answer (Int.not_lt.mp hrc) 0 (by decide)
    rw [ulongBit, BitVec.shiftLeft_zero] at hready
    simp only [if_neg hrc, pure_run, hready]
    refine ⟨trivial, .returns ?_⟩
    unfold readyBits
    split <;> rfl

/-! ## The two loops -/

theorem connectedRound_alike (hbit : sigBit < 32) (hother : sigBit ≠ 12)
    (hfails : ∀ tick, -1 ≤ (env.waitSelect tick).rc) (botai : BotAi) (sock : Int) (s : SessionState) :
    Alike env (connectedRound (ulongBit sigBit) botai sock s) (AmBot.connectedRound botai sock s) (Rounds Eq Eq) := by
  apply alike_bind
  intro ctrlC
  apply alike_bind
  intro control
  apply alike_ite Iff.rfl (rounds_rfl _)
  apply alike_bind
  intro _
  apply (netWait_alike hbit hother hfails sock).bind
  rintro ⟨readable, signals⟩ result ⟨hfailed, hready, hrexx, hctrlC⟩
  dsimp only at hfailed hready hrexx hctrlC ⊢
  rw [hrexx, hctrlC]
  apply alike_bind
  intro _
  apply alike_ite Iff.rfl (rounds_rfl _)
  apply alike_bind
  intro control
  apply alike_ite Iff.rfl (rounds_rfl _)
  by_cases hrc : result.rc < 0
  · rw [if_pos hrc, if_pos (hfailed.mpr hrc)]
    exact rounds_rfl _
  · rw [if_neg hrc, if_neg fun h => hrc (hfailed.mp h)]
    by_cases hset : result.ready.headD false = true
    · rw [if_pos ((hready (Int.not_lt.mp hrc)).mpr hset), if_neg (by rw [hset]; decide)]
      exact rounds_rfl _
    · rw [if_neg fun h => hset ((hready (Int.not_lt.mp hrc)).mp h), if_pos (by simpa using hset)]
      exact rounds_rfl _

theorem receiveNetwork_alike (botai : BotAi) {ready : ULong} {bits : List Bool} {i : Nat}
    (h : ready.meets (ulongBit i) = bits.getD i false) (c : Counters) (slot : Slot) :
    Alike env (receiveNetwork botai ready i c slot) (AmBot.receiveNetwork botai bits i c slot) Eq := by
  unfold receiveNetwork AmBot.receiveNetwork
  rw [h]
  by_cases hturn : bits.getD i false = true ∧ 0 ≤ slot.runtime.sock
  · have hgo : (!bits.getD i false || decide (slot.runtime.sock < 0)) = false := by
      rw [hturn.1]
      simpa using hturn.2
    rw [if_pos hturn, if_neg (Bool.eq_false_iff.mp hgo)]
    exact alike_rfl _
  · rw [if_neg hturn, if_pos (by grind)]
    exact alike_rfl _

/-- The rounds keep as many networks as there are bits for. -/
def Fit (s s' : MultinetState) : Prop := s = s' ∧ s.slots.length ≤ 32

theorem multinetServe_alike (botai : BotAi) {ready : ULong} {bits : List Bool} {s : MultinetState}
    (h : ∀ i < 32, ready.meets (ulongBit i) = bits.getD i false) (hs : s.slots.length ≤ 32) :
    Alike env (multinetServe botai ready s) (AmBot.multinetServe botai bits s) Fit := by
  have hretry : Alike env
      (if 0 < s.counters.retrying then do
        let now ← ask Env.time
        let control ← getControl
        log (.retry now s.slots control)
        Prog.sweep (retryNetwork now) 0 s.counters s.slots
      else pure (s.counters, s.slots))
      (if 0 < s.counters.retrying then do
        let now ← ask Env.time
        let control ← getControl
        log (.retry now s.slots control)
        Prog.sweep (retryNetwork now) 0 s.counters s.slots
      else pure (s.counters, s.slots)) fun r r' => r = r' ∧ r.2.length = s.slots.length := by
    apply alike_ite Iff.rfl
    · apply alike_bind
      intro now
      apply alike_bind
      intro control
      apply alike_bind
      intro _
      apply alike_sweep
      intro j _ c x
      exact alike_rfl _
    · exact alike_pure ⟨rfl, rfl⟩
  apply hretry.bind
  rintro ⟨counters, slots⟩ _ ⟨rfl, hlength⟩
  have hreceive : Alike env (Prog.sweep (receiveNetwork botai ready) 0 counters slots)
      (Prog.sweep (AmBot.receiveNetwork botai bits) 0 counters slots) fun r r' => r = r' ∧ r.2.length = slots.length := by
    apply alike_sweep
    intro j hj c x
    exact receiveNetwork_alike botai (h j (by simp only at hlength; omega)) c x
  apply hreceive.bind
  rintro ⟨counters, slots'⟩ _ ⟨rfl, hlength'⟩
  exact alike_pure ⟨rfl, by simp only at hlength hlength' ⊢; omega⟩

theorem asResult_of_reads {waited : Waited} {result : WaitResult} (h : Reads port socks waited result)
    (hsocks : socks.length ≤ 32) : asResult port socks.length waited = result := by
  have hready : (List.range socks.length).map (fun i => waited.ready.meets (ulongBit i)) = result.ready := by
    apply List.ext_getElem
    · rw [List.length_map, List.length_range, h.length]
    · intro i hi hi'
      rw [List.getElem_map, List.getElem_range, h.ready i (by simp at hi; omega),
        List.getD_eq_getElem?_getD, List.getElem?_eq_getElem hi', Option.getD_some]
  unfold asResult
  rw [h.rc, h.rexx, h.ctrlC, hready]

theorem multinetRound_alike (hbit : sigBit < 32) (hother : sigBit ≠ 12)
    (hfails : ∀ tick, -1 ≤ (env.waitSelect tick).rc) (botai : BotAi) {s : MultinetState} (hs : s.slots.length ≤ 32) :
    Alike env (multinetRound (ulongBit sigBit) botai s) (AmBot.multinetRound botai s) (Rounds Fit Eq) := by
  have hends : ∀ m : M MultinetResult, Alike env (do let result ← m; pure (.inr result))
      (do let result ← m; pure (.inr result)) (Rounds Fit Eq) := by
    intro m
    apply alike_bind
    intro result
    exact alike_pure (.done rfl)
  have hsocks : s.sockets.length ≤ 32 := by rwa [MultinetState.sockets, List.length_map]
  apply alike_bind
  intro control
  apply alike_ite Iff.rfl (hends _)
  apply alike_bind
  intro _
  apply alike_ite Iff.rfl (alike_pure (.done rfl))
  apply (waitMany_alike hbit hother hfails s.sockets _).bind
  intro waited result h
  rw [asResult_of_reads h hsocks, h.rexx, h.ctrlC, h.rc]
  apply alike_bind
  intro _
  apply alike_bind
  intro control
  apply alike_bind
  intro _
  apply alike_ite Iff.rfl (alike_pure (.done rfl))
  apply alike_ite Iff.rfl
  · apply alike_bind
    intro _
    apply alike_bind
    intro _
    exact hends _
  · apply alike_ite Iff.rfl (alike_pure (.done rfl))
    apply (multinetServe_alike botai h.ready hs).bind
    intro s₁ s₁' hfit
    exact alike_pure (.again hfit)

theorem multinetRun_alike (hbit : sigBit < 32) (hother : sigBit ≠ 12)
    (hfails : ∀ tick, -1 ≤ (env.waitSelect tick).rc) (networks : Networks) (botai : BotAi) :
    Alike env (multinetRun (ulongBit sigBit) networks botai) (AmBot.multinetRun networks botai) Eq := by
  have hstart : Alike env (multinetStart networks) (multinetStart networks) Fit := by
    have hsweep : Alike env (Prog.sweep startNetwork 0 { active := 0, retrying := 0 } networks.items)
        (Prog.sweep startNetwork 0 { active := 0, retrying := 0 } networks.items)
        fun r r' => r = r' ∧ r.2.length = networks.items.length := by
      apply alike_sweep
      intro j _ c x
      exact alike_rfl _
    apply hsweep.bind
    rintro ⟨counters, slots⟩ _ ⟨rfl, hlength⟩
    apply alike_bind
    intro control
    apply alike_bind
    intro _
    apply alike_bind
    intro _
    have hbound := networks.bound
    exact alike_pure ⟨rfl, by dsimp only [networksMax] at *; omega⟩
  apply hstart.bind
  rintro s _ hfit
  apply alike_bind
  intro fuel
  apply alike_loop ?_ fuel hfit
  rintro s₁ _ ⟨rfl, hlength⟩
  exact multinetRound_alike hbit hother hfails botai hlength

theorem runConnectedSession_alike (hbit : sigBit < 32) (hother : sigBit ≠ 12)
    (hfails : ∀ tick, -1 ≤ (env.waitSelect tick).rc) (botai : BotAi) (sock : Int) :
    Alike env (runConnectedSession (ulongBit sigBit) botai sock) (AmBot.runConnectedSession botai sock) Eq := by
  apply alike_bind
  intro _
  apply alike_bind
  intro control
  apply alike_bind
  intro _
  apply alike_bind
  intro _
  apply alike_bind
  intro config
  apply alike_bind
  intro rc
  apply alike_ite Iff.rfl (alike_rfl _)
  apply alike_bind
  intro _
  apply alike_bind
  intro fuel
  apply alike_loop ?_ fuel rfl
  rintro s _ rfl
  exact connectedRound_alike hbit hother hfails botai sock s

end Waits

end Words

/-- The sessions that wait with descriptor sets, bit masks and signal words run
as those that wait with lists and booleans do: the same trace, the same world,
the same result, round for round, and so does the wait of a BotAI request. -/
theorem waits_in_words (sigBit : Nat) (env : Env) (hbit : sigBit < 32) (hother : sigBit ≠ 12)
    (hfails : ∀ tick, -1 ≤ (env.waitSelect tick).rc) :
    (∀ networks botai w, Words.multinetRun (ulongBit sigBit) networks botai env w = multinetRun networks botai env w) ∧
    (∀ botai sock w, Words.runConnectedSession (ulongBit sigBit) botai sock env w =
      runConnectedSession botai sock env w) ∧
    ∀ sock timeout w, Words.netWaitSocket (ulongBit sigBit) sock timeout env w = netWaitSocket sock timeout env w := by
  refine ⟨?_, ?_, ?_⟩
  · intro networks botai
    exact (Words.multinetRun_alike hbit hother hfails networks botai).eq
  · intro botai sock
    exact (Words.runConnectedSession_alike hbit hother hfails botai sock).eq
  · intro sock timeout
    exact (Words.netWaitSocket_alike _ hfails sock timeout).eq

theorem waits_in_words_readable :
    let env := { Env.online with waitSelect := fun tick =>
      { rc := 1, rexx := false, ctrlC := decide (30 ≤ tick), readable := fun fd => decide (fd = 3) } }
    Words.multinetRun (ulongBit 16) oneNetwork botaiInit env (worldInit configInit) =
      multinetRun oneNetwork botaiInit env (worldInit configInit) := by
  intro env
  have hfails : ∀ tick, -1 ≤ (env.waitSelect tick).rc := fun _ => by simp [env]
  obtain ⟨hrun, -, -⟩ := waits_in_words 16 env (by decide) (by decide) hfails
  exact hrun oneNetwork botaiInit (worldInit configInit)

end AmBot
