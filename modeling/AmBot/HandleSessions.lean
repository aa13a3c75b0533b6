import AmBot.HandleRuns
/-!
# Sessions close what they open

Over whole sessions of either mode no call is given a descriptor that is not
open. A session that never builds a table of networks also returns with every
descriptor closed.
-/

namespace AmBot

open RunLib RunLib.Prog

variable {α : Type} {k : Int → Nat} {c sock : Int} {S : List Kind}

/-! ## Between two runs -/

theorem setConfig_owns (config : Config) : Triple (Owns k c) (setConfig config) (fun _ => Owns k c) Safe :=
  modify_owns (f := fun w => { w with config }) fun _ => ⟨rfl, rfl⟩

theorem loadConfig_owns (path : Bytes) : Triple (Owns k c) (loadConfig path) (fun _ => Owns k c) Safe := by
  refine triple_same.bind fun config => (ask_owns _).bind fun file => (log_owns ⟨rfl, by simp [Obs.kind]⟩).bind fun _ => ?_
  exact (setConfig_owns _).bind fun _ => triple_pure fun _ => id

theorem clearReload_owns : Triple (Owns k c) clearReload (fun _ => Owns k c) Safe := modifyControl_owns fun _ => rfl

theorem reloadRequestedConfig_owns : Triple (Owns k c) reloadRequestedConfig (fun _ => Owns k c) Safe := by
  refine triple_same.bind fun control => triple_same.bind fun config =>
    triple_ite (fun _ => ?_) fun _ => triple_pure fun _ => id
  exact clearReload_owns.bind fun _ => loadConfig_owns _

theorem processReload_owns : Triple (Owns k c) processReload (fun _ => Owns k c) Safe := by
  refine triple_same.bind fun control => triple_ite (fun _ => ?_) fun _ => triple_pure fun _ => id
  refine clearReload_owns.bind fun _ => triple_same.bind fun config => triple_ite (fun _ => triple_pure fun _ => id) fun _ => ?_
  exact (loadConfig_owns _).bind fun _ => triple_pure fun _ => id

theorem ctrlCRequested_owns : Triple (Owns k c) ctrlCRequested (fun _ => Owns k c) Safe :=
  quiet_owns (by decide) ctrlCRequested_keeps

theorem delay_owns (ticks : Nat) : Triple (Owns k c) (delay ticks) (fun _ => Owns k c) Safe :=
  log_owns ⟨rfl, by simp [Obs.kind]⟩

/-- A Ctrl-C that is only looked for where no QUIT has come. -/
theorem stopped_owns (control : Control) :
    Triple (Owns k c) (if control.quitRequested then pure true else ctrlCRequested) (fun _ => Owns k c) Safe :=
  triple_ite (fun _ => triple_pure fun _ => id) fun _ => ctrlCRequested_owns

theorem waitForConnect_owns (hc : Covers k c) (reload : Bool) :
    Triple (Owns k c) (waitForConnect reload) (fun _ => Owns k c) Safe := by
  refine triple_same.bind fun fuel => triple_loop (I := fun _ => Owns k c) fuel (fun _ => ?_) (fun _ _ hw => hw.safe) ()
  refine triple_same.bind fun control => triple_ite (fun _ => triple_pure fun _ => id) fun _ => ?_
  refine ctrlCRequested_owns.bind fun _ => triple_ite (fun _ => triple_pure fun _ => id) fun _ => ?_
  exact (rexxProcess_owns hc).bind fun _ => (delay_owns 5).bind fun _ => triple_pure fun _ => id

theorem waitToRebuild_owns (hc : Covers k c) (n : Nat) :
    Triple (Owns k c) (waitToRebuild n) (fun _ => Owns k c) Safe := by
  induction n with
  | zero => exact triple_pure fun _ => id
  | succ n ih =>
    refine triple_same.bind fun control => triple_ite (fun _ => triple_pure fun _ => id) fun _ => ?_
    refine ctrlCRequested_owns.bind fun _ => triple_ite (fun _ => triple_pure fun _ => id) fun _ => ?_
    refine (rexxProcess_owns hc).bind fun _ => triple_same.bind fun control => ?_
    exact triple_ite (fun _ => triple_pure fun _ => id) fun _ => (delay_owns 5).bind fun _ => ih

theorem afterMultinet_owns (hc : Covers k c) (result : MultinetResult) :
    Triple (Owns k c) (afterMultinet result) (fun _ => Owns k c) Safe := by
  unfold afterMultinet
  refine triple_same.bind fun control => (stopped_owns control).bind fun stopped => ?_
  refine triple_ite (fun _ => triple_pure fun _ => id) fun _ => triple_ite (fun _ => ?_) fun _ => ?_
  · refine clearReload_owns.bind fun _ => triple_same.bind fun config =>
      triple_ite (fun _ => triple_pure fun _ => id) fun _ => ?_
    exact (loadConfig_owns _).bind fun rc => triple_pure fun _ => id
  refine triple_ite (fun _ => ?_) fun _ => triple_ite (fun _ => ?_) fun _ => triple_ite (fun _ => ?_) fun _ => ?_
  · refine Triple.bind (modifyControl_owns fun _ => rfl) fun _ => ?_
    exact (waitForConnect_owns hc false).bind fun _ => triple_pure fun _ => id
  · refine Triple.bind (modifyControl_owns fun _ => rfl) fun _ => (waitForConnect_owns hc true).bind fun _ => ?_
    exact reloadRequestedConfig_owns.bind fun rc => triple_pure fun _ => id
  · refine (waitToRebuild_owns hc 50).bind fun _ => ?_
    exact reloadRequestedConfig_owns.bind fun rc => triple_pure fun _ => id
  · exact triple_pure fun _ => id

theorem m7Round_between (botai : BotAi) (s : Unit) :
    Triple Between (m7Round botai s) (Next (fun _ => Between) fun _ => Between) Safe := by
  unfold m7Round
  refine Triple.bind (triple_between fun _ _ _ => ctrlCRequested_owns) fun ctrlC => triple_same.bind fun control => ?_
  refine triple_ite (fun _ => triple_pure fun _ => id) fun _ => triple_same.bind fun config => ?_
  refine triple_ite (fun _ => triple_pure fun _ => id) fun _ => ?_
  refine Triple.bind (triple_between fun _ _ _ => log_owns ⟨rfl, by simp [Obs.kind]⟩) fun _ => ?_
  refine Triple.bind (triple_between fun _ _ _ => modifyControl_owns fun _ => rfl) fun _ => ?_
  refine (multinetRun_between _ botai).bind fun result => ?_
  refine (triple_between fun _ _ hc => afterMultinet_owns hc result).post fun r w hw => ?_
  cases r with
  | inl s => exact hw
  | inr rc => exact hw

theorem runM7Networks_between (botai : BotAi) : Triple Between (runM7Networks botai) (fun _ => Between) Safe := by
  refine triple_same.bind fun fuel => triple_loop fuel (m7Round_between botai) (fun _ _ hw => ?_) ()
  obtain ⟨k, hw, -⟩ := hw
  exact hw.safe

/-! ## A connection of the single-network loop -/

theorem emitLifecycle_owns (hc : Covers k c) (type : EventType) (reason : Bytes) :
    Triple (Owns k c) (emitLifecycle type reason) (fun _ => Owns k c) Safe :=
  triple_same.bind fun _ => hooksDispatchEvent_owns hc _ _

section Connection
variable (hsock : Has k sock)
include hsock

theorem covers_has : Covers k sock := fun _ => hsock.2

theorem sessionHandleLine_owns (bytes : Bytes) (queue : EventQueue) :
    Triple (Owns k sock) (sessionHandleLine sock bytes queue) (fun _ => Owns k sock) Safe := by
  unfold sessionHandleLine
  refine triple_ite (fun _ => ?_) fun _ => ?_
  · refine Triple.bind (on_owns (by decide) (sendPong_keeps _ _) (sendFormatted_talks (by simp) _) hsock
      (covers_has hsock)) fun _ => triple_pure fun _ => id
  · split
    · exact triple_pure fun _ => id
    · exact triple_pure fun _ => id

theorem sessionFeed_owns (botai : BotAi) (data : Bytes) (s : SessionState) :
    Triple (Owns k sock) (sessionFeed botai sock data s) (fun _ => Owns k sock) Safe := by
  unfold sessionFeed
  refine (framerFeed_triple (J := fun _ => Owns k sock) (fun line queue => sessionHandleLine_owns hsock line queue)
    (fun _ _ hw => hw.safe) data s.framer s.events).bind fun r => ?_
  obtain ⟨framer, events⟩ := r
  refine (eventDispatchPending_triple (fun event => ?_) _ _).bind fun queue => triple_pure fun _ => id
  exact triple_same.bind fun config => dispatchEvent_owns (covers_has hsock) botai hsock _ event

theorem connectedRound_owns (botai : BotAi) (s : SessionState) :
    Triple (Owns k sock) (connectedRound botai sock s) (Next (fun _ => Owns k sock) fun _ => Owns k (-1)) Safe := by
  have ends (rc : Int) : Triple (Owns k sock) (do setSocket (-1); pure (.inr rc) : M (SessionState ⊕ Int))
      (Next (fun _ => Owns k sock) fun _ => Owns k (-1)) Safe :=
    (setSocket_owns (-1)).bind fun _ => triple_pure fun _ => id
  unfold connectedRound
  refine ctrlCRequested_owns.bind fun ctrlC => triple_same.bind fun control => triple_ite (fun _ => ends 0) fun _ => ?_
  refine (log_owns ⟨rfl, by simp [Obs.kind]⟩).bind fun _ => ?_
  refine (netWaitMany_owns none (by simpa using fun _ => hsock.2)).bind fun result => ?_
  refine Triple.bind (Q := fun _ => Owns k sock) (triple_ite (fun _ => ?_) fun _ => triple_pure fun _ => id) fun _ => ?_
  · exact (rexxProcess_owns (covers_has hsock)).bind fun _ => processReload_owns
  refine triple_ite (fun _ => ?_) fun _ => triple_same.bind fun control => ?_
  · refine (log_owns ⟨rfl, by simp [Obs.kind]⟩).bind fun _ => ?_
    exact Triple.bind (modifyControl_owns fun _ => rfl) fun _ => ends 0
  refine triple_ite (fun _ => ends 0) fun _ => triple_ite (fun _ => ends (-1)) fun _ => ?_
  refine triple_ite (fun _ => triple_pure fun _ => id) fun _ => ?_
  refine (on_owns (by decide) (netRecv_keeps _ _) (netRecv_talks (by simp) _) hsock (covers_has hsock)).bind
    fun received => ?_
  split
  · exact ends (-1)
  · exact ends (-1)
  · exact (sessionFeed_owns hsock botai _ s).bind fun s => triple_pure fun _ => id

theorem runConnectedSession_owns (botai : BotAi) :
    Triple (Owns k sock) (runConnectedSession botai sock) (fun _ => Owns k (-1)) Safe := by
  unfold runConnectedSession
  refine (setSocket_owns sock).bind fun _ => triple_same.bind fun control => ?_
  refine (log_owns ⟨rfl, by simp [Obs.kind]⟩).bind fun _ => Triple.bind (modifyControl_owns fun _ => rfl) fun _ => ?_
  refine triple_same.bind fun config => ?_
  refine (on_owns (by decide) (ircSendRegistration_keeps _ _ _ _) (ircSendRegistration_talks (by simp) _ _ _) hsock
    (covers_has hsock)).bind fun rc => triple_ite (fun _ => ?_) fun _ => ?_
  · exact (setSocket_owns (-1)).bind fun _ => triple_pure fun _ => id
  refine (on_owns (by decide) (sendJoins_keeps _ _) (sendJoins_talks (by simp) _) hsock (covers_has hsock)).bind
    fun _ => triple_same.bind fun fuel => ?_
  exact triple_loop fuel (connectedRound_owns hsock botai) (fun _ _ hw => hw.safe) _

end Connection

/-! ## The single-network loop -/

/-- No descriptor is open, and the control block has none. -/
abbrev Alone : World → Prop := Owns (fun _ => 0) (-1)

theorem reconnectDelayFrom_alone (n ticks : Nat) : Triple Alone (reconnectDelayFrom n ticks) (fun _ => Alone) Safe := by
  induction n generalizing ticks with
  | zero => exact triple_pure fun _ => id
  | succ n ih =>
    refine triple_same.bind fun control => triple_ite (fun _ => triple_pure fun _ => id) fun _ => ?_
    refine ctrlCRequested_owns.bind fun _ => triple_ite (fun _ => triple_pure fun _ => id) fun _ => ?_
    refine (rexxProcess_owns covers_none).bind fun _ => processReload_owns.bind fun _ => triple_same.bind fun control => ?_
    exact triple_ite (fun _ => triple_pure fun _ => id) fun _ => (delay_owns _).bind fun _ => ih _

theorem reconnectLater_alone (backoff : Nat) :
    Triple Alone (reconnectLater backoff) (Next (fun _ => Alone) fun _ => Alone) Safe := by
  refine triple_same.bind fun control => triple_ite (fun _ => ?_) fun _ => triple_pure fun _ => id
  exact (reconnectDelayFrom_alone _ _).bind fun _ => triple_pure fun _ => id

theorem disconnectReason_owns (rc : Int) : Triple (Owns k c) (disconnectReason rc) (fun _ => Owns k c) Safe := by
  refine triple_same.bind fun control => triple_ite (fun _ => triple_pure fun _ => id) fun _ => ?_
  refine (stopped_owns control).bind fun stopped => triple_ite (fun _ => triple_pure fun _ => id) fun _ => ?_
  exact triple_ite (fun _ => triple_pure fun _ => id) fun _ => triple_pure fun _ => id

/-- A connection hands back its socket. -/
theorem serveConnection_alone (botai : BotAi) (hsock : 0 ≤ sock) :
    Triple (Owns (plus (fun _ => 0) sock) c) (serveConnection botai sock) (Next (fun _ => Alone) fun _ => Alone) Safe := by
  have hhas := has_plus (fun _ => 0) hsock
  unfold serveConnection
  refine (setSocket_owns sock).bind fun _ => (emitLifecycle_owns (covers_has hhas) _ _).bind fun _ => ?_
  refine (runConnectedSession_owns hhas botai).bind fun rc => (netCloseSocket_owns sock).bind fun _ => ?_
  refine (setSocket_owns (-1)).bind fun _ => (disconnectReason_owns rc).bind fun reason => ?_
  refine (emitLifecycle_owns covers_none _ _).bind fun _ => triple_same.bind fun control => ?_
  refine (stopped_owns control).bind fun stopped => triple_ite (fun _ => triple_pure fun _ => id) fun _ => ?_
  refine triple_same.bind fun control => triple_ite (fun _ => ?_) fun _ => ?_
  · exact Triple.bind (modifyControl_owns fun _ => rfl) fun _ => triple_pure fun _ => id
  · exact Triple.bind (modifyControl_owns fun _ => rfl) fun _ => reconnectLater_alone 1

theorem sessionRound_alone (botai : BotAi) (backoff : Nat) :
    Triple Alone (sessionRound botai backoff) (Next (fun _ => Alone) fun _ => Alone) Safe := by
  unfold sessionRound
  refine ctrlCRequested_owns.bind fun ctrlC => triple_same.bind fun control =>
    triple_ite (fun _ => triple_pure fun _ => id) fun _ => ?_
  refine (rexxProcess_owns covers_none).bind fun _ => processReload_owns.bind fun _ => triple_same.bind fun control => ?_
  refine triple_ite (fun _ => ?_) fun _ => triple_same.bind fun config => ?_
  · exact (delay_owns 5).bind fun _ => triple_pure fun _ => id
  refine (log_owns ⟨rfl, by simp [Obs.kind]⟩).bind fun _ => (netConnectIpv4_owns _ _).bind fun sock => ?_
  refine triple_ite (fun hsock => serveConnection_alone botai hsock) fun hsock => ?_
  exact (reconnectLater_alone backoff).pre fun w => (owns_plus_closed (by omega)).1

theorem runSingleNetwork_alone (botai : BotAi) : Triple Alone (runSingleNetwork botai) (fun _ => Alone) Safe := by
  refine triple_same.bind fun fuel => ?_
  refine (triple_loop fuel (sessionRound_alone botai) (fun _ _ hw => hw.safe) 1).bind fun rc => ?_
  exact (setSocket_owns (-1)).bind fun _ => triple_pure fun _ => id

/-! ## Sessions -/

theorem startBotai_alone : Triple Alone startBotai (fun _ => Alone) Safe := by
  refine triple_same.bind fun config => triple_ite (fun _ => triple_pure fun _ => id) fun _ => ?_
  dsimp only
  refine triple_ite (fun _ => triple_pure fun _ => id) fun _ => ?_
  exact (botaiCheck_owns covers_none _).bind fun r => triple_pure fun _ => id

theorem sessionRun_safe (startup : SessionConfig) : Triple Alone (sessionRun startup) (fun _ => Safe) Safe := by
  unfold sessionRun
  refine (setConfig_owns _).bind fun _ => ?_
  refine Triple.bind (Q := fun _ => Alone) (triple_ite (fun _ => loadConfig_owns _) fun _ => triple_pure fun _ => id)
    fun rc => triple_same.bind fun config => triple_ite (fun _ => triple_pure fun _ hw => hw.safe) fun _ => ?_
  refine triple_ite (fun _ => triple_pure fun _ hw => hw.safe) fun _ => ?_
  refine Triple.bind (Q := fun _ => Alone) (triple_modify fun w hw => ⟨hw.opens, hw.safe, rfl⟩) fun _ => ?_
  refine (ask_owns _).bind fun rexxOpen => triple_ite (fun _ => triple_pure fun _ hw => hw.safe) fun _ => ?_
  refine (ask_owns _).bind fun netOpen => triple_ite (fun _ => triple_pure fun _ hw => hw.safe) fun _ => ?_
  refine startBotai_alone.bind fun botai => triple_same.bind fun config => triple_ite (fun _ => ?_) fun _ => ?_
  · refine ((runM7Networks_between botai).pre fun w hw => hw.between covers_none).bind fun rc => ?_
    refine Triple.bind (Q := fun _ => Safe) (triple_modify fun w hw => ?_) fun _ => triple_pure fun _ => id
    obtain ⟨k, hw, -⟩ := hw
    exact hw.safe
  · exact (runSingleNetwork_alone botai).post fun _ _ hw => hw.safe

theorem alone_init {w : World} (htrace : w.trace = []) (hsock : w.control.sock = -1) : Alone w where
  opens := fun fd _ => by rw [htrace]; rfl
  safe := by
    unfold Safe
    rw [htrace]
    exact lawful_nil
  control := hsock

/-- Whatever the outside does, in either mode: every descriptor that a session
sends on, receives from, waits for or closes has been opened by it before and
not been closed since. -/
theorem sessionRun_uses_open (startup : SessionConfig) (config : Config) (env : Env) :
    Lawful GivenOpen (sessionRun startup env (worldInit config)).2.trace :=
  (sessionRun_safe startup).all (fun _ _ => id) (fun _ => id) (alone_init rfl rfl)

/-- A single-network run that returns has closed every descriptor it opened,
each once. -/
theorem runSingleNetwork_closes (botai : BotAi) (env : Env) (w : World) (rc : Int)
    (h : (runSingleNetwork botai env (w.begin.setControl controlInit)).1 = .ok rc) :
    ClosedOnce (runSingleNetwork botai env (w.begin.setControl controlInit)).2.trace :=
  ((runSingleNetwork_alone botai).ok (alone_init rfl rfl) (Prod.ext h rfl)).opens

/-- A connection, and a QUIT. -/
theorem runSingleNetwork_closes_after_quit :
    let env := { Env.online with messages := fun n => if n < 4 then [] else [ascii "QUIT"] }
    let run := runSingleNetwork botaiInit env ((worldInit oneServer).begin.setControl controlInit)
    .close 3 ∈ run.2.trace ∧ ClosedOnce run.2.trace :=
  ⟨by decide +kernel, runSingleNetwork_closes botaiInit _ (worldInit oneServer) 0 (by decide +kernel)⟩

end AmBot
