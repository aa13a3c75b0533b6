import AmBot.CtrlC
/-!
# Ctrl-C in both sessions

The loops of both modes, followed from one look at the Ctrl-C signal to the
next: between them nothing has been noticed, and after one that is noticed no
loop does another round.
-/

namespace AmBot

open RunLib RunLib.Prog

variable {φ ψ : Int → Prop}

/-- Any socket. -/
abbrev anySocket : Int → Prop := fun _ => True

abbrev noSocket : Int → Prop := fun sock => sock < 0

/-! ## Steps -/

theorem setSocket_stopping (sock : Int) (h : ψ sock) :
    Triple (StoppingAt φ) (setSocket sock) (fun _ => StoppingAt ψ) Orderly := by
  apply triple_modify
  rintro w ⟨hstate, -⟩
  exact ⟨hstate, h⟩

theorem log_ctrlC_calm : Triple (CalmAt φ) (log .ctrlC) (fun _ w => Orderly w ∧ φ w.control.sock) Orderly := by
  apply triple_modify
  rintro w ⟨hcalm, hφ⟩
  exact ⟨lawful_snoc.2 ⟨hcalm.orderly, fun _ => List.mem_cons_self⟩, hφ⟩

/-- A Ctrl-C that a wait has taken is kept in the quit flag. -/
theorem quit_stopping : Triple (fun w => Orderly w ∧ φ w.control.sock)
    (modifyControl fun control => { control with quitRequested := true }) (fun _ => StoppingAt φ) Orderly := by
  apply triple_modify
  rintro w ⟨horderly, hφ⟩
  exact ⟨.inr ⟨horderly, .inr rfl⟩, hφ⟩

theorem loadConfig_passes (path : Bytes) : Keeps (Passes [.load]) (loadConfig path) := by
  refine (keeps_read _).bind fun config => Keeps.bind (fun _ w => ⟨rfl, refl_of (Logs _) w⟩) fun file => ?_
  refine Keeps.bind (m := log _) (fun _ w => ⟨rfl, [_], rfl, by simp [Obs.kind]⟩) fun _ => ?_
  exact Keeps.bind (m := setConfig _) (fun _ w => ⟨rfl, refl_of (Logs _) w⟩) fun _ => keeps_pure _

theorem loadConfig_calm (path : Bytes) : Triple (CalmAt φ) (loadConfig path) (fun _ => CalmAt φ) Orderly :=
  passes_calm (by decide) (loadConfig_passes path)

theorem processReload_calm : Triple (CalmAt φ) processReload (fun _ => CalmAt φ) Orderly := by
  refine triple_same.bind fun control => triple_ite (fun _ => ?_) fun _ => triple_pure fun _ => id
  refine Triple.bind (control_calm fun _ => rfl) fun _ => triple_same.bind fun config => ?_
  refine triple_ite (fun _ => triple_pure fun _ => id) fun _ => ?_
  exact (loadConfig_calm _).bind fun rc => triple_pure fun _ => id

theorem rexxProcess_calm : Triple (CalmAt φ) rexxProcess (fun _ => CalmAt φ) Orderly :=
  acts_calm (by decide) rexxProcess_keeps

theorem hooksDispatchEvent_stopping (event : Event) (context : HookContext) :
    Triple (StoppingAt noSocket) (hooksDispatchEvent event context) (fun _ => StoppingAt noSocket) Orderly := by
  rintro env w ⟨hstate, hsock⟩
  have hwinds := hooksDispatchEvent_windsUp event context env hsock
  have hsock' := (hooksDispatchEvent_keeps event context env w).sock
  have hafter : StoppingAt noSocket (hooksDispatchEvent event context env w).2 := by
    refine ⟨hwinds.stopping hstate, ?_⟩
    rw [hsock']
    exact hsock
  split <;> rename_i heq <;> rw [heq] at hafter
  · exact hafter
  · exact hafter.orderly

theorem emitLifecycle_stopping (type : EventType) (reason : Bytes) :
    Triple (StoppingAt noSocket) (emitLifecycle type reason) (fun _ => StoppingAt noSocket) Orderly :=
  triple_same.bind fun _ => hooksDispatchEvent_stopping _ _

/-! ## One network -/

theorem sessionFeed_calm (botai : BotAi) (sock : Int) (data : Bytes) (s : SessionState) :
    Triple (CalmAt φ) (sessionFeed botai sock data s) (fun _ => CalmAt φ) Orderly := by
  refine (acts_calm (by decide) (framerFeed_keeps (sessionHandleLine_keeps sock) _ _ _)).bind fun r => ?_
  obtain ⟨framer, events⟩ := r
  refine Triple.bind (eventDispatchPending_triple (fun event => ?_) _ _) fun _ => triple_pure fun _ => id
  exact triple_same.bind fun config => acts_calm (by decide) (dispatchEvent_keeps _ _ _ _)

theorem connectedRound_calm (botai : BotAi) (sock : Int) (s : SessionState) :
    Triple (CalmAt anySocket) (connectedRound botai sock s)
      (Next (fun _ => CalmAt anySocket) fun _ => StoppingAt anySocket) Orderly := by
  have ends (rc : Int) : Triple (StoppingAt anySocket) (do setSocket (-1); pure (.inr rc) : M (SessionState ⊕ Int))
      (Next (fun _ => CalmAt anySocket) fun _ => StoppingAt anySocket) Orderly :=
    (setSocket_stopping (-1) trivial).bind fun _ => triple_pure fun _ => id
  have closes (rc : Int) := (ends rc).pre fun w (hw : CalmAt anySocket w) => hw.stopping
  refine Triple.pre (stop_test ?_ (fun _ => ends 0) fun control => ?_) fun w => CalmAt.stopping
  · intro ctrlC control hno
    simp only [Bool.or_eq_false_iff] at hno
    exact hno.1
  refine (acts_calm (S := [.session]) (by decide) (keeps_log (by simp [Obs.kind]))).bind fun _ => ?_
  refine (acts_calm (by decide) (netWaitMany_keeps _ _)).bind fun result => ?_
  refine Triple.bind (Q := fun _ => CalmAt anySocket) ?_ fun _ => triple_ite (fun _ => ?_) fun _ => ?_
  · refine triple_ite (fun _ => ?_) fun _ => triple_pure fun _ => id
    exact rexxProcess_calm.bind fun _ => processReload_calm
  · exact log_ctrlC_calm.bind fun _ => quit_stopping.bind fun _ => ends 0
  · refine triple_same.bind fun control => triple_ite (fun _ => closes 0) fun _ => ?_
    refine triple_ite (fun _ => closes (-1)) fun _ => ?_
    refine triple_ite (fun _ => triple_pure fun _ => id) fun _ => ?_
    refine (acts_calm (by decide) (netRecv_keeps _ _)).bind fun received => ?_
    split
    · exact closes (-1)
    · exact closes (-1)
    · exact (sessionFeed_calm _ _ _ _).bind fun s => triple_pure fun _ => id

theorem runConnectedSession_calm (botai : BotAi) (sock : Int) :
    Triple (CalmAt anySocket) (runConnectedSession botai sock) (fun _ => StoppingAt anySocket) Orderly := by
  refine Triple.bind (setSocket_calm (ψ := anySocket) sock trivial) fun _ => triple_same.bind fun control => ?_
  refine (acts_calm (S := [.register]) (by decide) (keeps_log (by simp [Obs.kind]))).bind fun _ => ?_
  refine Triple.bind (control_calm fun _ => rfl) fun _ => triple_same.bind fun config => ?_
  refine (acts_calm (by decide) (ircSendRegistration_keeps _ _ _ _)).bind fun rc => triple_ite (fun _ => ?_) fun _ => ?_
  · exact Triple.bind (setSocket_calm (ψ := anySocket) (-1) trivial) fun _ => triple_pure fun w hw => hw.stopping
  · refine (acts_calm (by decide) (sendJoins_keeps _ _)).bind fun _ => triple_same.bind fun fuel => ?_
    exact triple_loop fuel (connectedRound_calm botai sock) (fun _ _ hw => hw.orderly) _

theorem disconnectReason_stopping (rc : Int) :
    Triple (StoppingAt φ) (disconnectReason rc) (fun _ => StoppingAt φ) Orderly := by
  refine triple_same.bind fun control => triple_ite (fun _ => triple_pure fun _ => id) fun _ => ?_
  refine Triple.bind (Q := fun _ => StoppingAt φ) ?_ fun stopped => ?_
  · exact triple_ite (fun _ => triple_pure fun _ => id) fun _ => ctrlCRequested_stopping.post fun _ _ hw => hw.1
  · exact triple_ite (fun _ => triple_pure fun _ => id) fun _ => triple_ite (fun _ => triple_pure fun _ => id) fun _ =>
      triple_pure fun _ => id

theorem reconnectDelayFrom_stopping (n ticks : Nat) :
    Triple (CalmAt noSocket) (reconnectDelayFrom n ticks) (fun _ => StoppingAt noSocket) Orderly := by
  induction n generalizing ticks with
  | zero => exact triple_pure fun w => CalmAt.stopping
  | succ n ih =>
    refine triple_same.bind fun control => triple_ite (fun _ => triple_pure fun w => CalmAt.stopping) fun _ => ?_
    refine ctrlCRequested_calm.bind fun ctrlC => triple_ite (fun _ => triple_pure fun w hw => hw.1) fun hno => ?_
    refine Triple.pre ?_ fun w hw => hw.2 (by simpa using hno)
    refine rexxProcess_calm.bind fun _ => processReload_calm.bind fun _ => triple_same.bind fun control => ?_
    refine triple_ite (fun _ => triple_pure fun w => CalmAt.stopping) fun _ => ?_
    exact (acts_calm (by decide) (delay_keeps _)).bind fun _ => ih _

theorem reconnectLater_stopping (backoff : Nat) : Triple (CalmAt noSocket) (reconnectLater backoff)
    (Next (fun _ => StoppingAt noSocket) fun _ => Orderly) Orderly := by
  refine triple_same.bind fun control => triple_ite (fun _ => ?_) fun _ => triple_pure fun w hw => hw.stopping
  exact (reconnectDelayFrom_stopping _ _).bind fun _ => triple_pure fun _ => id

theorem serveConnection_calm (botai : BotAi) (sock : Int) : Triple (CalmAt noSocket) (serveConnection botai sock)
    (Next (fun _ => StoppingAt noSocket) fun _ => Orderly) Orderly := by
  refine Triple.bind (setSocket_calm (ψ := anySocket) sock trivial) fun _ => ?_
  refine (acts_calm (by decide) (emitLifecycle_keeps _ _)).bind fun _ => ?_
  refine (runConnectedSession_calm botai sock).bind fun rc => ?_
  refine (windsUp_stopping (netCloseSocket_windsUp sock)).bind fun _ => ?_
  refine Triple.bind (setSocket_stopping (ψ := noSocket) (-1) (by decide)) fun _ => ?_
  refine (disconnectReason_stopping rc).bind fun reason => (emitLifecycle_stopping _ _).bind fun _ => ?_
  refine stopped_test (fun _ => triple_pure fun w hw => hw.orderly) fun _ => ?_
  refine triple_same.bind fun control => triple_ite (fun _ => ?_) fun _ => ?_
  · exact Triple.bind (control_calm fun _ => rfl) fun _ => triple_pure fun w hw => hw.stopping
  · exact Triple.bind (control_calm fun _ => rfl) fun _ => reconnectLater_stopping 1

theorem sessionRound_stopping (botai : BotAi) (backoff : Nat) : Triple (StoppingAt noSocket) (sessionRound botai backoff)
    (Next (fun _ => StoppingAt noSocket) fun _ => Orderly) Orderly := by
  refine stop_test ?_ (fun _ => triple_pure fun w hw => hw.orderly) fun control => ?_
  · intro ctrlC control hno
    exact Bool.or_eq_false_iff.1 hno
  refine rexxProcess_calm.bind fun _ => processReload_calm.bind fun _ => triple_same.bind fun control => ?_
  refine triple_ite (fun _ => ?_) fun _ => triple_same.bind fun config => ?_
  · exact (acts_calm (by decide) (delay_keeps _)).bind fun _ => triple_pure fun w hw => hw.stopping
  · refine (acts_calm (S := [.dial]) (by decide) (keeps_log (by simp [Obs.kind]))).bind fun _ => ?_
    refine (acts_calm (by decide) (netConnectIpv4_keeps _ _)).bind fun sock => ?_
    exact triple_ite (fun _ => serveConnection_calm botai sock) fun _ => reconnectLater_stopping backoff

theorem runSingleNetwork_stopping (botai : BotAi) :
    Triple (CalmAt noSocket) (runSingleNetwork botai) (fun _ => Orderly) Orderly := by
  refine triple_same.bind fun fuel => ?_
  refine Triple.bind (Q := fun _ => Orderly) ?_ fun rc =>
    Triple.bind (triple_modify fun _ => id) fun _ => triple_pure fun _ => id
  exact (triple_loop fuel (sessionRound_stopping botai) (fun _ _ hw => hw.orderly) 1).pre fun w => CalmAt.stopping

/-! ## Several networks -/

theorem multinetRound_calm (botai : BotAi) (s : MultinetState) :
    Triple (CalmAt anySocket) (multinetRound botai s)
      (Next (fun _ => CalmAt anySocket) fun _ => StoppingAt anySocket) Orderly := by
  have stop : Triple (StoppingAt anySocket) (do
      let result ← multinetStop s
      pure (.inr result) : M (MultinetState ⊕ MultinetResult))
      (Next (fun _ => CalmAt anySocket) fun _ => StoppingAt anySocket) Orderly :=
    (windsUp_stopping (multinetStop_windsUp s)).bind fun result => triple_pure fun _ => id
  refine triple_same.bind fun control => triple_ite (fun _ => stop.pre fun w => CalmAt.stopping) fun _ => ?_
  refine (acts_calm (S := [.iteration]) (by decide) (keeps_log (by simp [Obs.kind]))).bind fun _ => ?_
  refine triple_ite (fun _ => triple_pure fun w => CalmAt.stopping) fun _ => ?_
  refine (acts_calm (by decide) (netWaitMany_keeps _ _)).bind fun result => ?_
  refine Triple.bind (Q := fun _ => CalmAt anySocket) ?_ fun _ => triple_same.bind fun control => ?_
  · exact triple_ite (fun _ => rexxProcess_calm) fun _ => triple_pure fun _ => id
  refine (acts_calm (S := [.woken]) (by decide) (keeps_log (by simp [Obs.kind]))).bind fun _ => ?_
  refine triple_ite (fun _ => triple_pure fun w => CalmAt.stopping) fun _ => triple_ite (fun _ => ?_) fun _ => ?_
  · exact log_ctrlC_calm.bind fun _ => quit_stopping.bind fun _ => stop
  · refine triple_ite (fun _ => triple_pure fun w => CalmAt.stopping) fun _ => ?_
    exact (moves_calm (by decide) (multinetServe_kinds botai _ s)).bind fun s => triple_pure fun _ => id

theorem multinetRun_calm (networks : Networks) (botai : BotAi) :
    Triple (CalmAt anySocket) (multinetRun networks botai) (fun _ => StoppingAt anySocket) Orderly := by
  refine Triple.bind (Q := fun _ => CalmAt anySocket) ?_ fun s => triple_same.bind fun fuel => ?_
  · refine (moves_calm (by decide) (keeps_sweep startNetwork_moves _ _ _)).bind fun r => ?_
    refine triple_same.bind fun control => ?_
    refine (acts_calm (S := [.opened]) (by decide) (keeps_log (by simp [Obs.kind]))).bind fun _ => ?_
    refine Triple.bind (Q := fun _ => CalmAt anySocket) ?_ fun _ => triple_pure fun _ => id
    refine triple_ite (fun _ => triple_modify fun w hw => ⟨hw.1, trivial⟩) fun _ => triple_pure fun _ => id
  · exact triple_loop fuel (multinetRound_calm botai) (fun _ _ hw => hw.orderly) s

theorem waitForConnect_stopping (reload : Bool) :
    Triple (CalmAt φ) (waitForConnect reload) (fun _ => StoppingAt φ) Orderly := by
  refine triple_same.bind fun fuel => ?_
  refine triple_loop (I := fun _ => CalmAt φ) fuel (fun _ => ?_) (fun _ _ hw => hw.orderly) ()
  refine triple_same.bind fun control => triple_ite (fun _ => triple_pure fun w => CalmAt.stopping) fun _ => ?_
  refine ctrlCRequested_calm.bind fun ctrlC => triple_ite (fun _ => triple_pure fun w hw => hw.1) fun hno => ?_
  refine Triple.pre ?_ fun w hw => hw.2 (by simpa using hno)
  exact rexxProcess_calm.bind fun _ => (acts_calm (by decide) (delay_keeps _)).bind fun _ => triple_pure fun _ => id

theorem waitToRebuild_stopping (n : Nat) : Triple (CalmAt φ) (waitToRebuild n) (fun _ => StoppingAt φ) Orderly := by
  induction n with
  | zero => exact triple_pure fun w => CalmAt.stopping
  | succ n ih =>
    refine triple_same.bind fun control => triple_ite (fun _ => triple_pure fun w => CalmAt.stopping) fun _ => ?_
    refine ctrlCRequested_calm.bind fun ctrlC => triple_ite (fun _ => triple_pure fun w hw => hw.1) fun hno => ?_
    refine Triple.pre ?_ fun w hw => hw.2 (by simpa using hno)
    refine rexxProcess_calm.bind fun _ => triple_same.bind fun control => ?_
    refine triple_ite (fun _ => triple_pure fun w => CalmAt.stopping) fun _ => ?_
    exact (acts_calm (by decide) (delay_keeps _)).bind fun _ => ih

theorem afterMultinet_stopping (result : MultinetResult) : Triple (StoppingAt anySocket) (afterMultinet result)
    (Next (fun _ => StoppingAt anySocket) fun _ => Orderly) Orderly := by
  refine stopped_test (fun _ => triple_pure fun w hw => hw.orderly) fun control => triple_ite (fun _ => ?_) fun _ => ?_
  · refine Triple.bind (control_calm fun _ => rfl) fun _ => triple_same.bind fun config => ?_
    refine triple_ite (fun _ => triple_pure fun w hw => hw.orderly) fun _ => (loadConfig_calm _).bind fun rc => ?_
    refine triple_pure fun w hw => ?_
    split
    · exact hw.orderly
    · exact hw.stopping
  have reloaded : Triple (StoppingAt anySocket) reloadRequestedConfig (fun _ => StoppingAt anySocket) Orderly :=
    windsUp_stopping reloadRequestedConfig_windsUp
  refine triple_ite (fun _ => ?_) fun _ => triple_ite (fun _ => ?_) fun _ => triple_ite (fun _ => ?_) fun _ => ?_
  · refine Triple.bind (control_calm fun _ => rfl) fun _ => ?_
    exact (waitForConnect_stopping false).bind fun _ => triple_pure fun _ => id
  · refine Triple.bind (control_calm fun _ => rfl) fun _ => (waitForConnect_stopping true).bind fun _ => ?_
    refine reloaded.bind fun rc => triple_pure fun w hw => ?_
    split
    · exact hw.orderly
    · exact hw
  · exact (waitToRebuild_stopping 50).bind fun _ => reloaded.bind fun rc => triple_pure fun _ => id
  · exact triple_pure fun w hw => hw.orderly

theorem runM7Networks_stopping (botai : BotAi) :
    Triple (CalmAt anySocket) (runM7Networks botai) (fun _ => Orderly) Orderly := by
  refine triple_same.bind fun fuel => ?_
  have rounds : ∀ u, Triple (StoppingAt anySocket) (m7Round botai u)
      (Next (fun _ => StoppingAt anySocket) fun _ => Orderly)
      Orderly := fun _ => ?_
  · exact (triple_loop fuel rounds (fun _ _ hw => hw.orderly) ()).pre fun w => CalmAt.stopping
  refine stop_test ?_ (fun _ => triple_pure fun w hw => hw.orderly) fun control => triple_same.bind fun config => ?_
  · intro ctrlC control hno
    exact Bool.or_eq_false_iff.1 hno
  refine triple_ite (fun _ => triple_pure fun w hw => hw.orderly) fun _ => ?_
  refine (acts_calm (S := [.rebuild]) (by decide) (keeps_log (by simp [Obs.kind]))).bind fun _ => ?_
  refine Triple.bind (control_calm fun _ => rfl) fun _ => (multinetRun_calm _ botai).bind fun result => ?_
  exact afterMultinet_stopping result

/-! ## A whole session -/

/-- In either mode, whatever has been going on, once a Ctrl-C has been noticed
the bot neither connects, sends, receives nor waits again: it closes sockets,
runs the disconnect hook and may read a configuration that was asked for. -/
theorem sessionRun_stops_on_ctrlC (startup : SessionConfig) (env : Env) (config : Config) :
    Lawful AfterCtrlC (sessionRun startup env (worldInit config)).2.trace := by
  have hrun : Triple (CalmAt noSocket) (sessionRun startup) (fun _ => Orderly) Orderly := by
    have seed (config : Config) : Triple (CalmAt noSocket) (setConfig config) (fun _ => CalmAt noSocket) Orderly :=
      triple_modify fun _ => id
    refine (seed _).bind fun _ => ?_
    refine Triple.bind (triple_ite (fun _ => loadConfig_calm _) fun _ => triple_pure fun _ => id) fun rc => ?_
    refine triple_same.bind fun config => triple_ite (fun _ => triple_pure fun w hw => hw.orderly) fun _ => ?_
    refine triple_ite (fun _ => triple_pure fun w hw => hw.orderly) fun _ => ?_
    refine Triple.bind (Q := fun _ => CalmAt noSocket)
      (triple_modify fun w hw => ⟨hw.1, show (-1 : Int) < 0 by decide⟩) fun _ => ?_
    refine (acts_calm (S := []) (by decide) (keeps_ask _)).bind fun rexxOpen => ?_
    refine triple_ite (fun _ => triple_pure fun w hw => hw.orderly) fun _ => ?_
    refine (acts_calm (S := []) (by decide) (keeps_ask _)).bind fun netOpen => ?_
    refine triple_ite (fun _ => triple_pure fun w hw => hw.orderly) fun _ => ?_
    refine Triple.bind (Q := fun _ => CalmAt noSocket) ?_ fun botai => triple_same.bind fun config => ?_
    · refine triple_same.bind fun config => triple_ite (fun _ => triple_pure fun _ => id) fun _ => ?_
      split
      refine triple_ite (fun _ => triple_pure fun _ => id) fun _ => ?_
      exact (acts_calm (by decide) (botaiCheck_keeps _)).bind fun r => triple_pure fun _ => id
    · refine triple_ite (fun _ => ?_) fun _ => runSingleNetwork_stopping botai
      refine ((runM7Networks_stopping botai).pre fun w hw => ⟨hw.1, trivial⟩).bind fun rc => ?_
      exact Triple.bind (Q := fun _ => Orderly) (triple_modify fun _ => id) fun _ => triple_pure fun _ => id
  exact hrun.all (fun _ _ => id) (fun _ => id) ⟨by simp [Undisturbed, worldInit], show (-1 : Int) < 0 by decide⟩

end AmBot
