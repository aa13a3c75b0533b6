import AmBot.Stops
/-!
# DISCONNECT with one network

While a connection is served a DISCONNECT is noted in `disconnect_requested`,
which the session loop looks at before it waits. Between connections it is
`connect_requested` that notes it, and the loop connects only with that set.
`run_connected_session` resets the first flag before it registers, after the
hook of the connect has had the chance to set it.
-/

namespace AmBot

open RunLib RunLib.Prog

/-- A DISCONNECT, with the flags that note it while a connection is served. -/
def disconnectServed : Request where
  asked := (·.answers "DISCONNECT")
  settled := (·.asksConnect)
  flag c := c.disconnectRequested || c.quitRequested
  asked_rexx _ := Obs.answers_rexx
  sets h hasked := by
    rw [h.of_disconnect (Obs.commandWord_of_answers hasked)]
    rfl
  keeps h hopen hflag := by
    cases h with
    | connect hword =>
      rw [operationConnect_settles hword hopen]
      exact hflag
    | disconnect => rfl
    | reload => exact hflag
    | quit => rfl
    | other => exact hflag
  setSocket _ _ h := h

/-- A DISCONNECT while a connection is served: nothing is connected and nothing
waited for. -/
def attending : Watch where
  requests := [disconnectServed]
  barred := [.connect, .wait]
  configured _ := True

/-- A DISCONNECT between connections. -/
def idling : Watch where
  requests := [disconnectWait]
  barred := [.connect, .wait]
  configured _ := True

/-- The flag is looked at in time: it is not set where a session is about to
register, unless it is to stop, and not where an event asks the BotAI service. -/
def Obs.heedsDisconnect (botai : BotAi) : Obs → Bool
  | .register control => !control.disconnectRequested || control.quitRequested
  | .event received control =>
    !(control.disconnectRequested || control.quitRequested) || !opensBotai botai received
  | _ => true

abbrev HeedsDisconnect (botai : BotAi) (o : Obs) : Prop := o.heedsDisconnect botai = true

section
variable {botai : BotAi}

theorem attending_flag (c : Control) : attending.flag c = (c.disconnectRequested || c.quitRequested) := by
  simp [Watch.flag, attending, disconnectServed]

theorem idling_flag (c : Control) : idling.flag c = !c.connectRequested := by
  simp [Watch.flag, idling, disconnectWait]

theorem attending_routine : ∀ k ∈ Watch.routine, k ∉ attending.barred := by
  show ∀ k ∈ Watch.routine, k ∉ [Kind.connect, Kind.wait]
  decide

theorem idling_routine : ∀ k ∈ Watch.routine, k ∉ idling.barred := attending_routine

theorem attending_event (event : Event) (control : Control) (h : HeedsDisconnect botai (.event event control))
    (hflag : attending.flag control = true) : opensBotai botai event = false := by
  rw [attending_flag] at hflag
  simpa [HeedsDisconnect, Obs.heedsDisconnect, hflag] using h

/-- An open DISCONNECT is noted, with a connection and without one. -/
abbrev Attending (botai : BotAi) : World → Prop := Given (HeedsDisconnect botai) attending.Tracked
abbrev Idling (botai : BotAi) : World → Prop := Given (HeedsDisconnect botai) idling.Tracked

/-- No DISCONNECT is open. -/
abbrev NotAsked (botai : BotAi) : World → Prop := Given (HeedsDisconnect botai) attending.Clear

/-- No DISCONNECT was lost so far. -/
abbrev NoneLost (botai : BotAi) : World → Prop := Given (HeedsDisconnect botai) attending.Held

/-- The two differ only in the flag. -/
theorem attending_held {w : World} : attending.Held w ↔ idling.Held w := by
  simp [Watch.Held, attending, idling, disconnectServed, disconnectWait]

theorem attending_clear {w : World} : attending.Clear w ↔ idling.Clear w := by
  constructor
  · intro h
    refine ⟨attending_held.1 h.held, fun r hr => ?_, trivial⟩
    rw [List.mem_singleton.1 hr]
    exact h.quiet disconnectServed (List.mem_singleton.2 rfl)
  · intro h
    refine ⟨attending_held.2 h.held, fun r hr => ?_, trivial⟩
    rw [List.mem_singleton.1 hr]
    exact h.quiet disconnectWait (List.mem_singleton.2 rfl)

theorem NotAsked.attending {w : World} (h : NotAsked botai w) : Attending botai w := h.mono Watch.Clear.tracked

theorem NotAsked.idling {w : World} (h : NotAsked botai w) : Idling botai w :=
  h.mono fun hw => (attending_clear.1 hw).tracked

theorem Attending.noneLost {w : World} (h : Attending botai w) : NoneLost botai w := h.mono Watch.Tracked.held

theorem Idling.noneLost {w : World} (h : Idling botai w) : NoneLost botai w := h.mono fun hw => attending_held.2 hw.held

theorem attend_routine {α : Type} {S : List Kind} {m : M α} (hS : S ⊆ Watch.routine) (h : Keeps (Acts S) m) :
    Triple (Attending botai) m (fun _ => Attending botai) (NoneLost botai) :=
  Watch.routine_tracked attending_routine hS h

/-- What is left where a function stops halfway is the same for both. -/
theorem idle {α : Type} {m : M α} {Q : α → World → Prop}
    (h : Triple (Idling botai) m Q (Given (HeedsDisconnect botai) idling.Held)) :
    Triple (Idling botai) m Q (NoneLost botai) :=
  h.conseq (fun _ => id) (fun _ _ => id) fun _ hw => hw.mono attending_held.2

theorem idle_routine {α : Type} {S : List Kind} {m : M α} (hS : S ⊆ Watch.routine) (h : Keeps (Acts S) m) :
    Triple (Idling botai) m (fun _ => Idling botai) (NoneLost botai) :=
  idle (Watch.routine_tracked idling_routine hS h)

theorem notAsked_acts {α : Type} {S : List Kind} {m : M α} (hS : .rexx ∉ S) (h : Keeps (Acts S) m) :
    Triple (NotAsked botai) m (fun _ => NotAsked botai) (NoneLost botai) :=
  Watch.acts_clear hS h

theorem processReload_attending :
    Triple (Attending botai) processReload (fun _ => Attending botai) (NoneLost botai) := by
  refine Watch.processReload_tracked attending_routine (fun _ => trivial) fun r hr c hflag => ?_
  rw [List.mem_singleton.1 hr] at hflag ⊢
  exact hflag

theorem processReload_idling : Triple (Idling botai) processReload (fun _ => Idling botai) (NoneLost botai) := by
  refine idle (Watch.processReload_tracked idling_routine (fun _ => trivial) fun r hr c hflag => ?_)
  rw [List.mem_singleton.1 hr] at hflag ⊢
  exact hflag

/-! ## A connection -/

theorem setSocket_attending (sock : Int) :
    Triple (Attending botai) (setSocket sock) (fun _ => Attending botai) (NoneLost botai) := Watch.setSocket_tracked sock

/-- The session waits only with no DISCONNECT noted, and closes after the drain
of a wait where one is. -/
theorem connectedRound_attending (sock : Int) (s : SessionState) :
    Triple (Attending botai) (connectedRound botai sock s) (Next (fun _ => Attending botai) fun _ => Attending botai)
      (NoneLost botai) := by
  have ends : ∀ rc : Int, Triple (Attending botai) (do setSocket (-1); pure (.inr rc))
      (Next (fun _ : SessionState => Attending botai) fun _ => Attending botai) (NoneLost botai) := fun rc =>
    (setSocket_attending (-1)).bind fun _ => triple_pure fun _ => id
  unfold connectedRound
  refine (attend_routine (by decide) ctrlCRequested_keeps).bind fun ctrlC => Watch.getControl_tracked.bind fun control => ?_
  refine triple_ite (fun _ => (ends 0).pre fun _ hw => hw.1) fun hgoes => ?_
  simp only [Bool.or_eq_true, not_or, Bool.not_eq_true] at hgoes
  obtain ⟨⟨-, hquit⟩, hdisconnect⟩ := hgoes
  refine Triple.bind (Q := fun _ => NotAsked botai) (triple_modify fun w hw => ?_) fun _ => ?_
  · refine Watch.log_clear hw nofun (attending_routine .session (by decide)) fun _ => ?_
    rw [attending_flag, hdisconnect, hquit]
    rfl
  refine ((notAsked_acts (by decide) (netWaitMany_keeps _ _)).post fun _ _ => NotAsked.attending).bind fun result => ?_
  refine Triple.bind (Q := fun _ => Attending botai)
    (triple_ite (fun _ => ?_) fun _ => triple_pure fun _ => id) fun _ => ?_
  · exact (attend_routine (by decide) rexxProcess_keeps).bind fun _ => processReload_attending
  refine triple_ite (fun _ => ?_) fun _ => ?_
  · refine Triple.bind (attend_routine (S := [.ctrlC]) (by decide) (keeps_log (by simp [Obs.kind]))) fun _ => ?_
    refine Triple.bind (Watch.modifyControl_tracked fun r hr c _ => ?_) fun _ => ends 0
    rw [List.mem_singleton.1 hr]
    exact Bool.or_true _
  refine triple_same.bind fun control => ?_
  refine triple_ite (fun _ => ends 0) fun _ => triple_ite (fun _ => ends (-1)) fun _ => ?_
  refine triple_ite (fun _ => triple_pure fun _ => id) fun _ => ?_
  refine (attend_routine (by decide) (netRecv_keeps _ _)).bind fun received => ?_
  split
  · exact ends (-1)
  · exact ends (-1)
  · exact (Watch.sessionFeed_tracked attending_routine attending_event sock _ s).bind fun s' => triple_pure fun _ => id

/-- The session registers with no DISCONNECT noted, or with a QUIT noting it too. -/
theorem register_attending {control : Control} :
    Triple (fun w => Attending botai w ∧ control = w.control) (log (.register control))
      (fun _ => Given (HeedsDisconnect botai) fun w =>
        attending.Tracked w ∧ (w.control.disconnectRequested = false ∨ w.control.quitRequested = true))
      (NoneLost botai) := by
  refine triple_modify fun w hw => ?_
  obtain ⟨hattending, rfl⟩ := hw
  refine hattending.log fun ha hnow => ⟨hnow.log nofun (attending_routine .register (by decide)), ?_⟩
  simpa [HeedsDisconnect, Obs.heedsDisconnect, World.log] using ha

/-- There the reset leaves every DISCONNECT noted. -/
theorem reset_attending :
    Triple (Given (HeedsDisconnect botai) fun w =>
        attending.Tracked w ∧ (w.control.disconnectRequested = false ∨ w.control.quitRequested = true))
      (modifyControl fun control => { control with disconnectRequested := false })
      (fun _ => Attending botai) (NoneLost botai) := by
  refine triple_modify fun w hw hall => ?_
  obtain ⟨htracked, hset⟩ := hw hall
  refine ⟨htracked.held, fun r hr hopen => ?_, trivial⟩
  have hflag := htracked.noted r hr hopen
  rw [List.mem_singleton.1 hr] at hflag ⊢
  have hnoted : w.control.disconnectRequested = true ∨ w.control.quitRequested = true := by
    simpa [disconnectServed] using hflag
  have hquit : w.control.quitRequested = true := by
    rcases hset with hset | hquit
    · simpa [hset] using hnoted
    · exact hquit
  simpa [disconnectServed, World.setControl] using hquit

theorem runConnectedSession_attending (sock : Int) :
    Triple (Attending botai) (runConnectedSession botai sock) (fun _ => Attending botai) (NoneLost botai) := by
  unfold runConnectedSession
  refine (setSocket_attending sock).bind fun _ => Watch.getControl_tracked.bind fun control => ?_
  refine register_attending.bind fun _ => reset_attending.bind fun _ => ?_
  refine triple_same.bind fun config => ?_
  refine (attend_routine (by decide) (ircSendRegistration_keeps _ _ _ _)).bind fun rc => triple_ite (fun _ => ?_) fun _ => ?_
  · exact (setSocket_attending (-1)).bind fun _ => triple_pure fun _ => id
  refine (attend_routine (by decide) (sendJoins_keeps _ _)).bind fun _ => triple_same.bind fun fuel => ?_
  exact triple_loop (I := fun _ => Attending botai) fuel (connectedRound_attending sock) (fun _ _ => Attending.noneLost) _

/-! ## Between connections -/

theorem reconnectDelayFrom_idling (n ticks : Nat) :
    Triple (Idling botai) (reconnectDelayFrom n ticks) (fun _ => Idling botai) (NoneLost botai) := by
  induction n generalizing ticks with
  | zero => exact triple_pure fun _ => id
  | succ n ih =>
    refine triple_same.bind fun control => triple_ite (fun _ => triple_pure fun _ => id) fun _ => ?_
    refine (idle_routine (by decide) ctrlCRequested_keeps).bind fun ctrlC => ?_
    refine triple_ite (fun _ => triple_pure fun _ => id) fun _ => ?_
    refine (idle_routine (by decide) rexxProcess_keeps).bind fun _ => processReload_idling.bind fun _ => ?_
    refine triple_same.bind fun control => triple_ite (fun _ => triple_pure fun _ => id) fun _ => ?_
    exact (idle_routine (by decide) (delay_keeps _)).bind fun _ => ih _

theorem reconnectLater_idling (backoff : Nat) :
    Triple (Idling botai) (reconnectLater backoff) (Next (fun _ => Idling botai) fun _ => NoneLost botai)
      (NoneLost botai) := by
  refine triple_same.bind fun control => triple_ite (fun _ => ?_) fun _ => triple_pure fun _ => id
  exact (reconnectDelayFrom_idling _ _).bind fun _ => triple_pure fun _ => id

/-- The session goes on after a connection only without a QUIT. -/
theorem stopped_attending {control : Control} :
    Triple (fun w => Attending botai w ∧ control = w.control)
      (if control.quitRequested then pure true else ctrlCRequested)
      (fun stopped w => (stopped = false → w.control.quitRequested = false) ∧ Attending botai w) (NoneLost botai) := by
  refine triple_ite (fun _ => triple_pure fun w hw => ⟨nofun, hw.1⟩) fun hquit => ?_
  have hkept : Triple (fun w => Attending botai w ∧ control = w.control) ctrlCRequested
      (fun stopped w => stopped = false → w.control.quitRequested = false) fun _ => True := by
    intro env w hw
    rw [ctrlCRequested_run]
    have hclear : w.control.quitRequested = false := by simpa [hw.2] using hquit
    cases w.breakSignal || env.ctrlC w.tick <;> exact fun _ => hclear
  exact triple_and hkept ((attend_routine (by decide) ctrlCRequested_keeps).pre fun _ hw => hw.1)

/-- The flags as they are set once a DISCONNECT has been carried out. -/
theorem Attending.waits {w : World} (h : Attending botai w) :
    Idling botai (w.setControl { w.control with disconnectRequested := false, connectRequested := false }) := by
  intro hall
  have htracked := h hall
  refine ⟨attending_held.1 htracked.held, fun r hr _ => ?_, trivial⟩
  rw [List.mem_singleton.1 hr]
  rfl

theorem serveConnection_notAsked (sock : Int) :
    Triple (NotAsked botai) (serveConnection botai sock) (Next (fun _ => Idling botai) fun _ => NoneLost botai)
      (NoneLost botai) := by
  unfold serveConnection
  refine (Watch.modifyControl_clear _).bind fun _ => ?_
  refine ((attend_routine (by decide) (emitLifecycle_keeps _ _)).pre fun _ => NotAsked.attending).bind fun _ => ?_
  refine (runConnectedSession_attending sock).bind fun rc => ?_
  refine (attend_routine (by decide) (netCloseSocket_keeps _)).bind fun _ => (setSocket_attending (-1)).bind fun _ => ?_
  refine (attend_routine (by decide) (disconnectReason_keeps rc)).bind fun reason => ?_
  refine (attend_routine (by decide) (emitLifecycle_keeps _ _)).bind fun _ => ?_
  refine Watch.getControl_tracked.bind fun control => stopped_attending.bind fun ended => ?_
  refine triple_ite (fun _ => triple_pure fun _ hw => hw.2.noneLost) fun hgoes => ?_
  rw [Bool.not_eq_true] at hgoes
  refine Triple.bind (Q := fun control w => Attending botai w ∧ control = w.control ∧ w.control.quitRequested = false)
    (triple_read fun _ w hw => ⟨hw.2, rfl, hw.1 hgoes⟩) fun control => triple_ite (fun _ => ?_) fun hserves => ?_
  · exact Triple.bind (Q := fun _ => Idling botai) (triple_modify fun w hw => hw.1.waits) fun _ => triple_pure fun _ => id
  -- with neither flag set no DISCONNECT is open
  refine Triple.bind (Q := fun _ => NotAsked botai) ?_ fun _ => (reconnectLater_idling 1).pre fun _ => NotAsked.idling
  refine (Watch.modifyControl_clear _).pre fun w hw => ?_
  obtain ⟨hattending, rfl, hquit⟩ := hw
  refine hattending.mono fun hnow => hnow.clear ?_
  simpa [attending_flag, hquit] using hserves

theorem sessionRound_idling (backoff : Nat) :
    Triple (Idling botai) (sessionRound botai backoff) (Next (fun _ => Idling botai) fun _ => NoneLost botai)
      (NoneLost botai) := by
  unfold sessionRound
  refine (idle_routine (by decide) ctrlCRequested_keeps).bind fun ctrlC => triple_same.bind fun control => ?_
  refine triple_ite (fun _ => triple_pure fun _ => Idling.noneLost) fun _ => ?_
  refine (idle_routine (by decide) rexxProcess_keeps).bind fun _ => processReload_idling.bind fun _ => ?_
  refine Watch.getControl_tracked.bind fun control => triple_ite (fun _ => ?_) fun hconnect => ?_
  · exact ((idle_routine (by decide) (delay_keeps 5)).pre fun _ hw => hw.1).bind fun _ => triple_pure fun _ => id
  -- the session connects with the flag set, so no DISCONNECT is open
  refine Triple.pre (P := NotAsked botai) ?_ fun w hw => ?_
  · refine triple_same.bind fun config => ?_
    refine Triple.bind (notAsked_acts (S := [.dial]) (by decide) (keeps_log (by simp [Obs.kind]))) fun _ => ?_
    refine (notAsked_acts (by decide) (netConnectIpv4_keeps _ _)).bind fun sock => ?_
    exact triple_ite (fun _ => serveConnection_notAsked sock) fun _ =>
      (reconnectLater_idling backoff).pre fun _ => NotAsked.idling
  · obtain ⟨hidling, rfl⟩ := hw
    refine hidling.mono fun hnow => attending_clear.2 (hnow.clear ?_)
    simpa [idling_flag] using hconnect

theorem runSingleNetwork_noneLost :
    Triple (Idling botai) (runSingleNetwork botai) (fun _ => NoneLost botai) (NoneLost botai) := by
  refine triple_same.bind fun fuel => ?_
  refine Triple.bind (triple_loop (I := fun _ => Idling botai) fuel sessionRound_idling (fun _ _ => Idling.noneLost) 1)
    fun rc => ?_
  exact Triple.bind (Q := fun _ => NoneLost botai) (triple_modify fun _ hw => hw) fun _ => triple_pure fun _ => id

end

/-- With one network, a session that looks at the flag in time neither connects
nor waits after a DISCONNECT until a CONNECT has been answered with CONNECT
REQUESTED. -/
theorem runSingleNetwork_disconnects (botai : BotAi) (config : Config) (env : Env)
    (hheeds : ∀ o ∈ (runSingleNetwork botai env (worldInit config)).2.trace, o.heedsDisconnect botai = true) :
    Until (·.answers "DISCONNECT") (·.asksConnect) (·.kind ∈ [.connect, .wait])
      (runSingleNetwork botai env (worldInit config)).2.trace := by
  have hinit : Idling botai (worldInit config) :=
    fun _ => ⟨fun r _ => until_nil, fun r _ hopen => absurd hopen not_owed_nil, trivial⟩
  have hheld : attending.Held (runSingleNetwork botai env (worldInit config)).2 :=
    runSingleNetwork_noneLost.all (fun _ _ hw => hw) (fun _ hw => hw) hinit hheeds
  exact hheld disconnectServed (List.mem_singleton.2 rfl)

/-- A DISCONNECT in the wait of a connection, then a CONNECT. -/
theorem runSingleNetwork_disconnects_then_connects :
    Until (·.answers "DISCONNECT") (·.asksConnect) (·.kind ∈ [.connect, .wait])
      (runSingleNetwork botaiInit
        { Env.online with
          fuel := 4
          messages := fun n => if n < 3 then [] else [if n < 15 then ascii "DISCONNECT" else ascii "CONNECT"] }
        (worldInit oneServer)).2.trace := by
  refine runSingleNetwork_disconnects botaiInit oneServer _ fun o ho => ?_
  have hheeds : (runSingleNetwork botaiInit
      { Env.online with
        fuel := 4
        messages := fun n => if n < 3 then [] else [if n < 15 then ascii "DISCONNECT" else ascii "CONNECT"] }
      (worldInit oneServer)).2.trace.all (fun o => o.heedsDisconnect botaiInit) = true := by decide +kernel
  exact List.all_eq_true.1 hheeds o ho

/-- A DISCONNECT from the hook script of the connect. -/
theorem runSingleNetwork_disconnect_lost :
    ¬ Until (·.answers "DISCONNECT") (·.asksConnect) (·.kind ∈ [.connect, .wait])
      (runSingleNetwork botaiInit { Env.online with
        fuel := 1
        scriptExists := fun _ => true
        rexxMaster := fun _ => true
        argstring := fun _ => true
        scriptWait := fun _ => (true, true)
        messages := fun n => if n < 8 then [] else [ascii "DISCONNECT"] } (worldInit oneServer)).2.trace := by
  decide +kernel

end AmBot
