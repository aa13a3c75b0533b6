import AmBot.Effects
/-!
# How the trace of a session grows

A property of the trace that is kept entry by entry, except over a few marks,
has to be proved only of the functions that log those marks. `Along T` moves
the trace along a preorder; the functions of both session loops are followed
here once, for every such preorder, down to the three turns of a network and
to the two points where the single-network loop connects and joins.
-/

namespace AmBot

open RunLib RunLib.Prog

/-- The trace moves along `T`. -/
def Along (T : List Obs → List Obs → Prop) (w w' : World) : Prop := T w.trace w'.trace

instance (T : List Obs → List Obs → Prop) [IsPreorder (List Obs) T] : IsPreorder World (Along T) where
  refl w := refl_of T w.trace
  trans w₁ w₂ w₃ := trans_of T (a := w₁.trace) (b := w₂.trace) (c := w₃.trace)

/-- The trace has grown by entries of `P`. -/
def Adds (P : Obs → Prop) (t t' : List Obs) : Prop := ∃ u, t' = t ++ u ∧ ∀ o ∈ u, P o

theorem Adds.mono {P P' : Obs → Prop} (h : ∀ o, P o → P' o) {t t' : List Obs} (hadds : Adds P t t') : Adds P' t t' := by
  obtain ⟨u, rfl, hu⟩ := hadds
  exact ⟨u, rfl, fun o ho => h o (hu o ho)⟩

instance (P : Obs → Prop) : IsPreorder (List Obs) (Adds P) where
  refl t := ⟨[], by simp⟩
  trans := by
    rintro t₁ t₂ t₃ ⟨u, rfl, hu⟩ ⟨v, rfl, hv⟩
    refine ⟨u ++ v, by simp, fun o ho => ?_⟩
    rcases List.mem_append.1 ho with ho | ho
    · exact hu o ho
    · exact hv o ho

theorem adds_one {P : Obs → Prop} {t : List Obs} {o : Obs} (h : P o) : Adds P t (t ++ [o]) := ⟨[o], rfl, by simpa using h⟩

/-- The kinds of the single-network loop that are followed entry by entry. -/
abbrev lone : List Kind :=
  [.connect, .send, .recv, .close, .wait, .rexx, .script, .load, .delay, .ctrlC, .event, .session, .register,
    .line, .negotiated]

/-- The kinds of no turn, connect or join: those that are followed entry by entry. -/
abbrev plain : List Kind := lone ++ [.underflow, .rebuild, .opened, .iteration, .woken, .retry]

section
variable {T : List Obs → List Obs → Prop} [IsPreorder (List Obs) T] {α : Type} {S : List Kind}

theorem acts_along (hT : ∀ t o, o.kind ∈ S → T t (t ++ [o])) {m : M α} (h : Keeps (Acts S) m) :
    Keeps (Along T) m := by
  have act : ∀ w w', Act S w w' → Along T w w' := by
    intro w w' ha
    cases ha with
    | tick => exact refl_of T w.trace
    | signal => exact refl_of T w.trace
    | log o ho => exact hT _ _ ho
    | answer i rc r c hr => exact hT w.trace (.rexx i rc r) hr
  refine Keeps.mono (fun w w' hacts => ?_) h
  induction hacts with
  | refl => exact refl_of (Along T) w
  | tail _ ha ih => exact trans_of (Along T) ih (act _ _ ha)

/-- An assertion of the trace that is kept. -/
instance (J : List Obs → Prop) : IsPreorder (List Obs) fun t t' => J t → J t' where
  refl _ := id
  trans _ _ _ h h' := h' ∘ h

theorem triple_along {J : List Obs → Prop} {m : M α} (h : Keeps (Along fun t t' => J t → J t') m) :
    Triple (fun w => J w.trace) m (fun _ w => J w.trace) fun w => J w.trace :=
  Keeps.triple h fun _ _ hw hkept => hkept hw

theorem along_triple {J : List Obs → Prop} {m : M α}
    (h : Triple (fun w => J w.trace) m (fun _ w => J w.trace) fun w => J w.trace) :
    Keeps (Along fun t t' => J t → J t') m :=
  fun _ _ hw => h.all (fun _ _ => id) (fun _ => id) hw

theorem modifyControl_along (f : Control → Control) : Keeps (Along T) (modifyControl f) := fun _ w => refl_of T w.trace

theorem setConfig_along (config : Config) : Keeps (Along T) (setConfig config) := fun _ w => refl_of T w.trace

theorem setFirstSocket_along (i : Nat) (sock : Int) : Keeps (Along T) (setFirstSocket i sock) :=
  keeps_when (modifyControl_along _)

theorem plain_along {K : List Kind} (hT : ∀ t o, o.kind ∈ K → T t (t ++ [o])) {m : M α} (hS : S ⊆ K)
    (h : Keeps (Acts S) m) : Keeps (Along T) m := acts_along (fun t o ho => hT t o (hS ho)) h

omit [IsPreorder (List Obs) T] in
theorem log_along {K : List Kind} (hT : ∀ t o, o.kind ∈ K → T t (t ++ [o])) {o : Obs} (ho : o.kind ∈ K) :
    Keeps (Along T) (log o) := fun _ w => hT w.trace o ho

/-! ## One network -/

section
variable (hT : ∀ t o, o.kind ∈ lone → T t (t ++ [o]))
include hT

theorem loadConfig_along (path : Bytes) : Keeps (Along T) (loadConfig path) := by
  refine (keeps_read _).bind fun config => Keeps.bind (plain_along hT (S := []) (by simp) (keeps_ask _)) fun file => ?_
  exact (log_along hT (by simp [Obs.kind])).bind fun _ => (setConfig_along _).bind fun _ => keeps_pure _

theorem reloadRequestedConfig_along : Keeps (Along T) reloadRequestedConfig := by
  refine (keeps_read _).bind fun control => (keeps_read _).bind fun config => keeps_ite ?_ (keeps_pure _)
  exact (modifyControl_along _).bind fun _ => loadConfig_along hT _

theorem stopped_along (quit : Bool) : Keeps (Along T) (if quit then pure true else ctrlCRequested) :=
  keeps_ite (keeps_pure _) (plain_along hT (by decide) ctrlCRequested_keeps)

theorem processReload_along : Keeps (Along T) processReload := by
  refine (keeps_read _).bind fun control => keeps_ite ?_ (keeps_pure _)
  refine (modifyControl_along _).bind fun _ => (keeps_read _).bind fun config => keeps_ite (keeps_pure _) ?_
  exact (loadConfig_along hT _).bind fun rc => keeps_pure _

theorem reconnectDelayFrom_along (n ticks : Nat) : Keeps (Along T) (reconnectDelayFrom n ticks) := by
  induction n generalizing ticks with
  | zero => exact keeps_pure _
  | succ n ih =>
    refine (keeps_read _).bind fun control => keeps_ite (keeps_pure _) ?_
    refine (plain_along hT (by decide) ctrlCRequested_keeps).bind fun ctrlC => keeps_ite (keeps_pure _) ?_
    refine (plain_along hT (by decide) rexxProcess_keeps).bind fun _ => (processReload_along hT).bind fun _ => ?_
    refine (keeps_read _).bind fun control => keeps_ite (keeps_pure _) ?_
    exact (plain_along hT (by decide) (delay_keeps _)).bind fun _ => ih _

theorem reconnectLater_along (backoff : Nat) : Keeps (Along T) (reconnectLater backoff) := by
  refine (keeps_read _).bind fun control => keeps_ite ?_ (keeps_pure _)
  exact (reconnectDelayFrom_along hT _ _).bind fun _ => keeps_pure _

theorem sessionFeed_along (botai : BotAi) (sock : Int) (data : Bytes) (s : SessionState) :
    Keeps (Along T) (sessionFeed botai sock data s) := by
  refine (plain_along hT (by decide) (framerFeed_keeps (sessionHandleLine_keeps sock) _ _ _)).bind fun r => ?_
  obtain ⟨framer, events⟩ := r
  refine Keeps.bind (eventDispatchPending_keeps (fun event => ?_) _ _) fun _ => keeps_pure _
  exact (keeps_read _).bind fun config => plain_along hT (by decide) (dispatchEvent_keeps _ _ _ _)

theorem connectedRound_along (botai : BotAi) (sock : Int) (s : SessionState) :
    Keeps (Along T) (connectedRound botai sock s) := by
  have ends (rc : Int) : Keeps (Along T) (do setSocket (-1); pure (.inr rc) : M (SessionState ⊕ Int)) :=
    (modifyControl_along _).bind fun _ => keeps_pure _
  unfold connectedRound
  refine (plain_along hT (by decide) ctrlCRequested_keeps).bind fun ctrlC => (keeps_read _).bind fun control => ?_
  refine keeps_ite (ends 0) ((log_along hT (by simp [Obs.kind])).bind fun _ => ?_)
  refine (plain_along hT (by decide) (netWaitMany_keeps _ _)).bind fun result => ?_
  refine (keeps_when ((plain_along hT (by decide) rexxProcess_keeps).bind fun _ => processReload_along hT)).bind fun _ => ?_
  refine keeps_ite ((log_along hT (by simp [Obs.kind])).bind fun _ => (modifyControl_along _).bind fun _ => ends 0) ?_
  refine (keeps_read _).bind fun control => keeps_ite (ends 0) (keeps_ite (ends (-1)) (keeps_ite (keeps_pure _) ?_))
  refine (plain_along hT (by decide) (netRecv_keeps _ _)).bind fun received => ?_
  split
  · exact ends (-1)
  · exact ends (-1)
  · exact (sessionFeed_along hT _ _ _ _).bind fun s => keeps_pure _

theorem runConnectedSession_along (hjoins : ∀ sock channels, Keeps (Along T) (sendJoins sock channels)) (botai : BotAi)
    (sock : Int) : Keeps (Along T) (runConnectedSession botai sock) := by
  unfold runConnectedSession
  refine (modifyControl_along _).bind fun _ => (keeps_read _).bind fun control => ?_
  refine (log_along hT (by simp [Obs.kind])).bind fun _ => (modifyControl_along _).bind fun _ => ?_
  refine (keeps_read _).bind fun config => (plain_along hT (by decide) (ircSendRegistration_keeps _ _ _ _)).bind fun rc => ?_
  refine keeps_ite ((modifyControl_along _).bind fun _ => keeps_pure _) ((hjoins _ _).bind fun _ => ?_)
  exact (keeps_read _).bind fun fuel => keeps_loop _ (connectedRound_along hT botai sock) _

/-- What comes after a connection. -/
theorem afterConnection_along (rc sock : Int) : Keeps (Along T) (do
    netCloseSocket sock
    setSocket (-1)
    let reason ← disconnectReason rc
    emitLifecycle .disconnect reason
    let control ← getControl
    let stopped ← (if control.quitRequested then pure true else ctrlCRequested)
    if stopped then pure (.inr 0)
    else do
      let control ← getControl
      if control.disconnectRequested then do
        modifyControl fun control => { control with disconnectRequested := false, connectRequested := false }
        pure (.inl 1)
      else do
        modifyControl fun control => { control with connectRequested := true }
        reconnectLater 1) := by
  refine (plain_along hT (by decide) (netCloseSocket_keeps _)).bind fun _ => (modifyControl_along _).bind fun _ => ?_
  refine (plain_along hT (by decide) (disconnectReason_keeps rc)).bind fun reason => ?_
  refine (plain_along hT (by decide) (emitLifecycle_keeps _ _)).bind fun _ => (keeps_read _).bind fun control => ?_
  refine (stopped_along hT _).bind fun stopped => keeps_ite (keeps_pure _) ?_
  refine (keeps_read _).bind fun control => keeps_ite ?_ ?_
  · exact (modifyControl_along _).bind fun _ => keeps_pure _
  · exact (modifyControl_along _).bind fun _ => reconnectLater_along hT 1

theorem serveConnection_along (hjoins : ∀ sock channels, Keeps (Along T) (sendJoins sock channels)) (botai : BotAi)
    (sock : Int) : Keeps (Along T) (serveConnection botai sock) := by
  refine (modifyControl_along _).bind fun _ => (plain_along hT (by decide) (emitLifecycle_keeps _ _)).bind fun _ => ?_
  exact (runConnectedSession_along hT hjoins botai sock).bind fun rc => afterConnection_along hT rc sock

/-- A round, from its connection. -/
theorem sessionRound_along {botai : BotAi} {backoff : Nat} (hsingle : ∀ config, Keeps (Along T) (do
      log (.dial .single (copyNetwork (legacyNetwork config)))
      let sock ← netConnectIpv4 config.host config.port
      if 0 ≤ sock then serveConnection botai sock else reconnectLater backoff)) :
    Keeps (Along T) (sessionRound botai backoff) := by
  refine (plain_along hT (by decide) ctrlCRequested_keeps).bind fun ctrlC => (keeps_read _).bind fun control => ?_
  refine keeps_ite (keeps_pure _) ((plain_along hT (by decide) rexxProcess_keeps).bind fun _ => ?_)
  refine (processReload_along hT).bind fun _ => (keeps_read _).bind fun control => keeps_ite ?_ ?_
  · exact (plain_along hT (by decide) (delay_keeps 5)).bind fun _ => keeps_pure _
  · exact (keeps_read _).bind fun config => hsingle config

/-- The loop, from its connections. -/
theorem runSingleNetwork_along (botai : BotAi) (hsingle : ∀ config backoff, Keeps (Along T) (do
      log (.dial .single (copyNetwork (legacyNetwork config)))
      let sock ← netConnectIpv4 config.host config.port
      if 0 ≤ sock then serveConnection botai sock else reconnectLater backoff)) :
    Keeps (Along T) (runSingleNetwork botai) := by
  refine (keeps_read _).bind fun fuel => (keeps_loop fuel (fun backoff => ?_) 1).bind fun rc =>
    (modifyControl_along _).bind fun _ => keeps_pure _
  exact sessionRound_along hT fun config => hsingle config backoff

end

/-! ## Several networks -/

section
variable (hT : ∀ t o, o.kind ∈ plain → T t (t ++ [o]))
include hT

omit [IsPreorder (List Obs) T] in
theorem lone_of_plain : ∀ t o, o.kind ∈ lone → T t (t ++ [o]) := fun t o ho => hT t o (List.mem_append_left _ ho)

theorem receiveNetwork_step_along (botai : BotAi) (i : Nat) (c : Counters) (slot : Slot) :
    Keeps (Along T) (do
      let received ← netRecv slot.runtime.sock multinetRecvBuffer
      match received with
      | none => loseNetwork i c slot
      | some [] => loseNetwork i c slot
      | some data => feedNetwork botai i c slot data) := by
  have lose : Keeps (Along T) (loseNetwork i c slot) := by
    refine (plain_along hT (by decide) (netCloseSocket_keeps _)).bind fun _ => (setFirstSocket_along i _).bind fun _ => ?_
    exact Keeps.bind (plain_along hT (S := []) (by simp) (keeps_ask _)) fun _ => keeps_pure _
  refine (plain_along hT (by decide) (netRecv_keeps _ _)).bind fun received => ?_
  split
  · exact lose
  · exact lose
  · refine (plain_along hT (by decide) (framerFeed_keeps (multinetHandleLine_keeps botai) _ _ _)).bind fun r => ?_
    obtain ⟨framer, runtime⟩ := r
    exact keeps_ite ((setFirstSocket_along i _).bind fun _ => keeps_pure _) (keeps_pure _)

theorem multinetStop_along (s : MultinetState) : Keeps (Along T) (multinetStop s) :=
  (plain_along hT (by decide) (closeAll_keeps s.slots)).bind fun _ => (modifyControl_along _).bind fun _ => keeps_pure _

theorem afterMultinet_along (result : MultinetResult) : Keeps (Along T) (afterMultinet result) := by
  unfold afterMultinet
  refine (keeps_read _).bind fun control => (stopped_along (lone_of_plain hT) _).bind fun stopped => ?_
  refine keeps_ite (keeps_pure _) ?_
  refine keeps_ite ?_ (keeps_ite ?_ (keeps_ite ?_ (keeps_ite ?_ (keeps_pure _))))
  · refine (modifyControl_along _).bind fun _ => (keeps_read _).bind fun config => keeps_ite (keeps_pure _) ?_
    exact (loadConfig_along (lone_of_plain hT) _).bind fun rc => keeps_pure _
  · refine (modifyControl_along _).bind fun _ => ?_
    exact (plain_along hT (by decide) (waitForConnect_keeps false)).bind fun _ => keeps_pure _
  · refine (modifyControl_along _).bind fun _ => (plain_along hT (by decide) (waitForConnect_keeps true)).bind fun _ => ?_
    exact (reloadRequestedConfig_along (lone_of_plain hT)).bind fun rc => keeps_pure _
  · refine (plain_along hT (by decide) (waitToRebuild_keeps 50)).bind fun _ => ?_
    exact (reloadRequestedConfig_along (lone_of_plain hT)).bind fun rc => keeps_pure _

end

end

/-! ## A whole session -/

/-- What has to be known besides of the three turns of a network. -/
structure FollowedTurns (T : List Obs → List Obs → Prop) : Prop where
  plain : ∀ t o, o.kind ∈ plain → T t (t ++ [o])
  start : ∀ i c config, Keeps (Along T) (startNetwork i c config)
  retry : ∀ now i c slot, Keeps (Along T) (retryNetwork now i c slot)
  receive : ∀ botai ready i c slot, Keeps (Along T) (receiveNetwork botai ready i c slot)

/-- And of a connection of the single-network loop. -/
structure Followed (T : List Obs → List Obs → Prop) : Prop extends FollowedTurns T where
  single : ∀ botai config backoff, Keeps (Along T) (do
    log (.dial .single (copyNetwork (legacyNetwork config)))
    let sock ← netConnectIpv4 config.host config.port
    if 0 ≤ sock then serveConnection botai sock else reconnectLater backoff)

section
variable {T : List Obs → List Obs → Prop} [IsPreorder (List Obs) T]

theorem takeTurn_along (hT : ∀ t o, o.kind ∈ [.turn, .settled] → T t (t ++ [o])) {i : Nat} {slot : Slot}
    {step : M (Counters × Slot)} (h : Keeps (Along T) step) : Keeps (Along T) (takeTurn i slot step) := by
  have mark (o : Obs) (ho : o.kind ∈ [.turn, .settled]) : Keeps (Along T) (log o) := fun _ w => hT w.trace o ho
  refine (mark _ (by simp [Obs.kind])).bind fun _ => h.bind fun r => ?_
  obtain ⟨c, slot'⟩ := r
  exact (mark _ (by simp [Obs.kind])).bind fun _ => keeps_pure _

/-- Where the marks of a turn are like any other entry, a connect is what is
left of the turns. -/
theorem FollowedTurns.of_connects (hplain : ∀ t o, o.kind ∈ AmBot.plain → T t (t ++ [o]))
    (hturns : ∀ t o, o.kind ∈ [.turn, .settled] → T t (t ++ [o]))
    (hconnect : ∀ runtime, Keeps (Along T) (connectRuntime runtime)) : FollowedTurns T where
  plain := hplain
  start i c config := by
    refine takeTurn_along hturns ((hconnect _).bind fun r => ?_)
    obtain ⟨result, runtime⟩ := r
    cases result with
    | ok => exact keeps_pure _
    | retry => exact Keeps.bind (plain_along hplain (S := []) (by simp) (keeps_ask _)) fun _ => keeps_pure _
    | permanent => exact keeps_pure _
  retry now i c slot := by
    have hdecrement := plain_along hplain (by decide) (decrement_keeps c.retrying)
    refine keeps_ite (keeps_pure _) (takeTurn_along hturns ((hconnect _).bind fun r => ?_))
    obtain ⟨result, runtime⟩ := r
    cases result with
    | ok => exact hdecrement.bind fun _ => (setFirstSocket_along i _).bind fun _ => keeps_pure _
    | retry => exact keeps_pure _
    | permanent => exact hdecrement.bind fun _ => keeps_pure _
  receive botai ready i c slot :=
    keeps_ite (keeps_pure _) (takeTurn_along hturns (receiveNetwork_step_along hplain botai i c slot))

theorem Followed.of_connects (hplain : ∀ t o, o.kind ∈ AmBot.plain → T t (t ++ [o]))
    (hturns : ∀ t o, o.kind ∈ [.turn, .settled] → T t (t ++ [o]))
    (hconnect : ∀ runtime, Keeps (Along T) (connectRuntime runtime))
    (hsingle : ∀ botai config backoff, Keeps (Along T) (do
      log (.dial .single (copyNetwork (legacyNetwork config)))
      let sock ← netConnectIpv4 config.host config.port
      if 0 ≤ sock then serveConnection botai sock else reconnectLater backoff)) : Followed T where
  toFollowedTurns := .of_connects hplain hturns hconnect
  single := hsingle

end

namespace FollowedTurns
variable {T : List Obs → List Obs → Prop} [IsPreorder (List Obs) T] (h : FollowedTurns T) (botai : BotAi)
include h

theorem multinetServe (ready : List Bool) (s : MultinetState) : Keeps (Along T) (multinetServe botai ready s) := by
  refine Keeps.bind (keeps_ite ?_ (keeps_pure _)) fun r => ?_
  · refine Keeps.bind (plain_along h.plain (S := []) (by simp) (keeps_ask _)) fun now => ?_
    refine (keeps_read _).bind fun control => ?_
    exact (log_along h.plain (by simp [Obs.kind])).bind fun _ => keeps_sweep (h.retry now) _ _ _
  · exact (keeps_sweep (h.receive botai ready) _ _ _).bind fun r => keeps_pure _

theorem multinetRound (s : MultinetState) : Keeps (Along T) (multinetRound botai s) := by
  refine (keeps_read _).bind fun control => keeps_ite ((multinetStop_along h.plain s).bind fun result => keeps_pure _) ?_
  refine (log_along h.plain (by simp [Obs.kind])).bind fun _ => keeps_ite (keeps_pure _) ?_
  refine (plain_along h.plain (by decide) (netWaitMany_keeps _ _)).bind fun result => ?_
  refine (keeps_when (plain_along h.plain (by decide) rexxProcess_keeps)).bind fun _ => (keeps_read _).bind fun control => ?_
  refine (log_along h.plain (by simp [Obs.kind])).bind fun _ => keeps_ite (keeps_pure _) (keeps_ite ?_ ?_)
  · refine (log_along h.plain (by simp [Obs.kind])).bind fun _ => (modifyControl_along _).bind fun _ => ?_
    exact (multinetStop_along h.plain s).bind fun result => keeps_pure _
  · exact keeps_ite (keeps_pure _) ((h.multinetServe botai _ s).bind fun s => keeps_pure _)

theorem multinetRun (networks : Networks) : Keeps (Along T) (multinetRun networks botai) := by
  refine Keeps.bind ?_ fun s => (keeps_read _).bind fun fuel => keeps_loop fuel (h.multinetRound botai) s
  refine (keeps_sweep h.start _ _ _).bind fun r => (keeps_read _).bind fun control => ?_
  refine (log_along h.plain (by simp [Obs.kind])).bind fun _ => ?_
  exact (keeps_when (modifyControl_along _)).bind fun _ => keeps_pure _

theorem runM7Networks : Keeps (Along T) (runM7Networks botai) := by
  refine (keeps_read _).bind fun fuel => keeps_loop fuel (fun _ => ?_) ()
  refine (plain_along h.plain (by decide) ctrlCRequested_keeps).bind fun ctrlC => (keeps_read _).bind fun control => ?_
  refine keeps_ite (keeps_pure _) ((keeps_read _).bind fun config => keeps_ite (keeps_pure _) ?_)
  refine (log_along h.plain (by simp [Obs.kind])).bind fun _ => (modifyControl_along _).bind fun _ => ?_
  exact (h.multinetRun botai _).bind fun result => afterMultinet_along h.plain result

end FollowedTurns

namespace Followed
variable {T : List Obs → List Obs → Prop} [IsPreorder (List Obs) T] (h : Followed T) (botai : BotAi)
include h

theorem runSingleNetwork : Keeps (Along T) (runSingleNetwork botai) :=
  runSingleNetwork_along (lone_of_plain h.plain) botai (h.single botai)

theorem runNetworks : Keeps (Along T) (runNetworks botai) := by
  refine (keeps_read _).bind fun config => keeps_ite ?_ (h.runSingleNetwork botai)
  exact (h.runM7Networks botai).bind fun rc => (modifyControl_along _).bind fun _ => keeps_pure _

end Followed

/-- Whatever the three turns and the connections keep, the whole session does. -/
theorem sessionRun_along {T : List Obs → List Obs → Prop} [IsPreorder (List Obs) T] (h : Followed T)
    (startup : SessionConfig) : Keeps (Along T) (sessionRun startup) := by
  refine (setConfig_along _).bind fun _ => ?_
  refine Keeps.bind (keeps_ite (loadConfig_along (lone_of_plain h.plain) _) (keeps_pure _)) fun rc => ?_
  refine (keeps_read _).bind fun config => keeps_ite (keeps_pure _) (keeps_ite (keeps_pure _) ?_)
  refine (modifyControl_along _).bind fun _ => ?_
  refine Keeps.bind (plain_along h.plain (S := []) (by simp) (keeps_ask _)) fun rexx => ?_
  refine keeps_ite (keeps_pure _) (Keeps.bind (plain_along h.plain (S := []) (by simp) (keeps_ask _)) fun net => ?_)
  refine keeps_ite (keeps_pure _) (Keeps.bind ?_ fun botai => h.runNetworks botai)
  refine (keeps_read _).bind fun config => keeps_ite (keeps_pure _) ?_
  split
  refine keeps_ite (keeps_pure _) ((plain_along h.plain (by decide) (botaiCheck_keeps _)).bind fun r => keeps_pure _)

end AmBot
