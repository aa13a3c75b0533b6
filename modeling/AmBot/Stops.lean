import AmBot.Requests
/-!
# DISCONNECT and QUIT

A DISCONNECT is noted in `disconnect_requested` and a QUIT in
`quit_requested`, and no connection is to be opened from then on. Three places
look elsewhere first: a new run clears the flag of a DISCONNECT, and a round of
the main loop goes on to its due reconnects and its events after the flags have
been set. Between a stop and the CONNECT that ends it the session clears the
flag itself, and there it is `connect_requested` that notes the request.
-/

namespace AmBot

open RunLib RunLib.Prog

/-- CONNECT was answered with CONNECT REQUESTED. -/
def Obs.asksConnect : Obs → Bool
  | .rexx input _ result => commandWord input = ascii "CONNECT" && result = ascii "CONNECT REQUESTED"
  | _ => false

/-! ## The requests -/

/-- CONNECT settles a DISCONNECT where it changes anything. -/
theorem operationConnect_settles {c : Control} {input : Bytes} (hword : commandWord input = ascii "CONNECT")
    (hopen : ¬ (Obs.rexx input 0 (operationConnect c).1).asksConnect = true) : (operationConnect c).2 = c := by
  unfold operationConnect at hopen ⊢
  split
  · rfl
  · rename_i hconnected
    rw [if_neg hconnected] at hopen
    refine absurd ?_ hopen
    simp only [Obs.asksConnect, hword, Bool.and_eq_true, decide_eq_true_eq, true_and]
    decide

/-- A DISCONNECT, with the flag that notes it while a run goes on. -/
def disconnectRequest : Request where
  asked := (·.answers "DISCONNECT")
  settled := (·.asksConnect)
  flag c := c.disconnectRequested
  asked_rexx _ := Obs.answers_rexx
  sets h hasked := by
    rw [h.of_disconnect (Obs.commandWord_of_answers hasked)]
    rfl
  keeps h hopen hflag := by
    cases h with
    | connect hword =>
      rw [operationConnect_settles hword hopen]
      exact hflag
    | disconnect => rfl
    | reload => exact hflag
    | quit => rfl
    | other => exact hflag
  setSocket _ _ h := h

/-- A DISCONNECT, with the flag that notes it once the session has stopped. -/
def disconnectWait : Request where
  asked := (·.answers "DISCONNECT")
  settled := (·.asksConnect)
  flag c := !c.connectRequested
  asked_rexx _ := Obs.answers_rexx
  sets h hasked := by
    rw [h.of_disconnect (Obs.commandWord_of_answers hasked)]
    rfl
  keeps h hopen hflag := by
    cases h with
    | connect hword =>
      rw [operationConnect_settles hword hopen]
      exact hflag
    | disconnect => rfl
    | reload => exact hflag
    | quit => rfl
    | other => exact hflag
  setSocket c sock h := by
    simp only [controlSetSocket]
    split
    · rfl
    · exact h

/-- A QUIT, which nothing settles. -/
def quitRequest : Request where
  asked := (·.answers "QUIT")
  settled _ := False
  flag c := c.quitRequested
  asked_rexx _ := Obs.answers_rexx
  sets h hasked := by
    rw [h.of_quit (Obs.commandWord_of_answers hasked)]
    rfl
  keeps h _ hflag := by
    cases h with
    | connect =>
      unfold operationConnect
      split
      · exact hflag
      · exact hflag
    | disconnect => exact hflag
    | reload => exact hflag
    | quit => rfl
    | other => exact hflag
  setSocket _ _ h := h

/-- The stops while a run goes on. -/
def stops : Watch where
  requests := [disconnectRequest, quitRequest]
  barred := [.connect]
  configured _ := True

/-- The stops while the session waits for a CONNECT. -/
def stopped : Watch where
  requests := [disconnectWait, quitRequest]
  barred := [.connect]
  configured _ := True

/-- The code looks at the flags of the stops in time: no run starts with a
DISCONNECT noted, and no reconnect is due and no event asks the BotAI service
with a stop noted. -/
def Obs.heedsStops (botai : BotAi) : Obs → Bool
  | .rebuild control => !control.disconnectRequested
  | .retry now slots control =>
    !(control.disconnectRequested || control.quitRequested) || slots.all fun slot => !due now slot.runtime
  | .event received control =>
    !(control.disconnectRequested || control.quitRequested) || !opensBotai botai received
  | _ => true

theorem stops_flag (c : Control) : stops.flag c = (c.disconnectRequested || c.quitRequested) := by
  simp [Watch.flag, stops, disconnectRequest, quitRequest]

section
variable {botai : BotAi}

/-- The assumption of this module, on every entry. -/
abbrev Heeds (botai : BotAi) (o : Obs) : Prop := o.heedsStops botai = true

/-- Every open stop is noted. -/
abbrev StopsNoted (botai : BotAi) : World → Prop := Given (Heeds botai) stops.Tracked

/-- No stop is open. -/
abbrev StopsClear (botai : BotAi) : World → Prop := Given (Heeds botai) stops.Clear

/-- No connection was opened past a stop so far. -/
abbrev StopsHeld (botai : BotAi) : World → Prop := Given (Heeds botai) stops.Held

theorem routine_free : ∀ k ∈ Watch.routine, k ∉ stops.barred := by decide

theorem heeds_event (event : Event) (control : Control) (h : Heeds botai (.event event control))
    (hflag : stops.flag control = true) : opensBotai botai event = false := by
  rw [stops_flag] at hflag
  simpa [Heeds, Obs.heedsStops, hflag] using h

/-! ## A run -/

theorem multinetServe_stops (ready : List Bool) (s : MultinetState) :
    Triple (StopsNoted botai) (multinetServe botai ready s) (fun _ => StopsNoted botai)
      (StopsHeld botai) := by
  unfold multinetServe
  refine Triple.bind (Q := fun _ => StopsNoted botai) (triple_ite (fun _ => ?_) fun _ =>
    triple_pure fun _ => id) fun r => ?_
  · refine Triple.bind (Watch.acts_tracked (S := []) (by simp) (keeps_ask _)) fun now => ?_
    refine Watch.getControl_tracked.bind fun control => ?_
    by_cases hidle : ∀ slot ∈ s.slots, due now slot.runtime = false
    · rw [Watch.retry_sweep_idle hidle]
      exact Triple.bind (Q := fun _ => StopsNoted botai) (triple_modify fun w hw => hw.1.log
        fun _ hnow => hnow.log nofun (routine_free .retry (by decide))) fun _ => triple_pure fun _ => id
    · -- a reconnect is due, so no stop is noted
      refine Triple.bind (Q := fun _ => StopsClear botai) (triple_modify fun w hw => ?_) fun _ => ?_
      · refine Watch.log_clear hw nofun (routine_free .retry (by decide)) fun ha => ?_
        rw [stops_flag]
        by_contra hset
        simp only [Heeds, Obs.heedsStops, Bool.eq_true_of_not_eq_false hset] at ha
        exact hidle (by simpa using ha)
      · exact (Watch.retry_sweep_clear now s.counters s.slots).post fun _ w hw => hw.mono Watch.Clear.tracked
  · exact (Watch.receive_sweep_tracked routine_free heeds_event ready r.1 r.2).bind fun r => triple_pure fun _ => id

theorem multinetRound_stops (s : MultinetState) :
    Triple (StopsNoted botai) (multinetRound botai s)
      (Next (fun _ => StopsNoted botai) fun _ => StopsNoted botai)
      (StopsHeld botai) := by
  unfold multinetRound
  refine triple_same.bind fun control => triple_ite (fun _ => ?_) fun _ => ?_
  · exact (Watch.multinetStop_tracked routine_free s).bind fun result => triple_pure fun _ => id
  refine Triple.bind (Watch.acts_tracked (S := [.iteration]) (by decide) (keeps_log (by simp [Obs.kind])))
    fun _ => triple_ite (fun _ => triple_pure fun _ => id) fun _ => ?_
  refine (Watch.acts_tracked (by decide) (netWaitMany_keeps _ _)).bind fun result => ?_
  refine (Watch.acts_tracked (by decide) (keeps_when rexxProcess_keeps)).bind fun _ => ?_
  refine triple_same.bind fun control => ?_
  refine Triple.bind (Watch.acts_tracked (S := [.woken]) (by decide) (keeps_log (by simp [Obs.kind])))
    fun _ => ?_
  refine triple_ite (fun _ => triple_pure fun _ => id) fun _ => triple_ite (fun _ => ?_) fun _ => ?_
  · refine Triple.bind (Watch.acts_tracked (S := [.ctrlC]) (by decide) (keeps_log (by simp [Obs.kind])))
      fun _ => ?_
    refine (Watch.modifyControl_tracked fun r hr c hflag => ?_).bind fun _ =>
      (Watch.multinetStop_tracked routine_free s).bind fun result => triple_pure fun _ => id
    rcases List.mem_cons.1 hr with rfl | hr
    · exact hflag
    · rw [List.mem_singleton.1 hr]
      rfl
  refine triple_ite (fun _ => triple_pure fun _ => id) fun _ => ?_
  exact (multinetServe_stops result.ready s).bind fun s' => triple_pure fun _ => id

theorem multinetRun_stops (networks : Networks) :
    Triple (StopsClear botai) (multinetRun networks botai) (fun _ => StopsNoted botai)
      (StopsHeld botai) := by
  refine (Watch.multinetStart_clear networks).bind fun s => ?_
  refine Triple.bind (Q := fun _ => StopsNoted botai) (triple_read fun _ w hw => hw.mono Watch.Clear.tracked)
    fun fuel => ?_
  exact triple_loop (I := fun _ => StopsNoted botai) fuel multinetRound_stops
    (fun _ _ hw => hw.mono Watch.Tracked.held) s

/-! ## The session -/

/-- Where a round of the session loop starts: the stops are noted, or the
session waited for a CONNECT and is to end. -/
def Resumes (w : World) : Prop :=
  stops.Tracked w ∨ (stopped.Tracked w ∧ (w.control.quitRequested = true ∨ w.breakSignal = true))

theorem stopped_held {w : World} : stopped.Held w ↔ stops.Held w := by
  simp [Watch.Held, stops, stopped, disconnectRequest, disconnectWait]

theorem Resumes.held {w : World} (h : Resumes w) : stops.Held w := by
  rcases h with h | ⟨h, -⟩
  · exact h.held
  · exact stopped_held.1 h.held

/-- The flag of a DISCONNECT that has been carried out is cleared, and the
session waits with no CONNECT requested. -/
theorem Tracked.waits {w : World} (h : stops.Tracked w) :
    stopped.Tracked (w.setControl { w.control with disconnectRequested := false, connectRequested := false }) := by
  refine ⟨stopped_held.2 h.held, fun r hr hopen => ?_, trivial⟩
  rcases List.mem_cons.1 hr with rfl | hr
  · rfl
  · rw [List.mem_singleton.1 hr] at hopen ⊢
    exact h.noted quitRequest (by simp [stops]) hopen

/-- A CONNECT that has been requested settles the DISCONNECT. -/
theorem Tracked.connects {w : World} (h : stopped.Tracked w) (hconnect : w.control.connectRequested = true) :
    stops.Tracked w := by
  refine ⟨stopped_held.1 h.held, fun r hr hopen => ?_, trivial⟩
  rcases List.mem_cons.1 hr with rfl | hr
  · have hwaits : disconnectWait.flag w.control = true := h.noted disconnectWait (by simp [stopped]) hopen
    simp [disconnectWait, hconnect] at hwaits
  · rw [List.mem_singleton.1 hr] at hopen ⊢
    exact h.noted quitRequest (by simp [stopped]) hopen

theorem loadConfig_stops (path : Bytes) :
    Triple (StopsNoted botai) (loadConfig path) (fun _ => StopsNoted botai)
      (StopsHeld botai) :=
  Watch.loadConfig_tracked routine_free (fun _ => trivial) path

/-- Every flag of the stops is as it was. -/
theorem stops_kept {f : Control → Control} (hdisconnect : ∀ c, (f c).disconnectRequested = c.disconnectRequested)
    (hquit : ∀ c, (f c).quitRequested = c.quitRequested) :
    Triple (StopsNoted botai) (modifyControl f) (fun _ => StopsNoted botai)
      (StopsHeld botai) := by
  refine Watch.modifyControl_tracked fun r hr c hflag => ?_
  rcases List.mem_cons.1 hr with rfl | hr
  · exact (hdisconnect c).trans hflag
  · rw [List.mem_singleton.1 hr] at hflag ⊢
    exact (hquit c).trans hflag

/-- The wait after a DISCONNECT ends with a CONNECT, a QUIT or a Ctrl-C. -/
theorem waitForConnect_stopped :
    Triple (Given (Heeds botai) stopped.Tracked) (waitForConnect false) (fun _ => Given (Heeds botai) Resumes)
      (Given (Heeds botai) stopped.Held) := by
  refine triple_same.bind fun fuel => ?_
  refine triple_loop (I := fun _ => Given (Heeds botai) stopped.Tracked) fuel (fun _ => ?_)
    (fun _ _ hw => hw.mono Watch.Tracked.held) ()
  refine Watch.getControl_tracked.bind fun control => triple_ite (fun hends => ?_) fun _ => ?_
  · refine triple_pure fun w hw => hw.1.mono fun hnow => ?_
    simp only [Bool.false_and, Bool.or_false, Bool.or_eq_true, hw.2] at hends
    rcases hends with hconnect | hquit
    · exact .inl (Tracked.connects hnow hconnect)
    · exact .inr ⟨hnow, .inl hquit⟩
  refine Triple.bind (Q := fun set w => w.breakSignal = set ∧ Given (Heeds botai) stopped.Tracked w) ?_ fun ctrlC =>
    triple_ite (fun hset => ?_) fun _ => ?_
  · have hsignal : Triple (fun w => Given (Heeds botai) stopped.Tracked w ∧ control = w.control) ctrlCRequested
        (fun set w => w.breakSignal = set) fun _ => True := by
      intro env w _
      rw [ctrlCRequested_run]
      dsimp only
      cases w.breakSignal || env.ctrlC w.tick <;> rfl
    exact triple_and hsignal ((Watch.acts_tracked (by decide) ctrlCRequested_keeps).pre fun w hw => hw.1)
  · refine triple_pure fun w hw => hw.2.mono fun hnow => .inr ⟨hnow, .inr ?_⟩
    rw [hw.1, hset]
  · refine ((Watch.acts_tracked (by decide) rexxProcess_keeps).pre fun w hw => hw.2).bind fun _ => ?_
    exact (Watch.acts_tracked (by decide) (delay_keeps 5)).bind fun _ => triple_pure fun _ => id

theorem reloadRequestedConfig_stops :
    Triple (StopsNoted botai) reloadRequestedConfig (fun _ => StopsNoted botai)
      (StopsHeld botai) := by
  refine triple_same.bind fun control => ?_
  refine triple_same.bind fun config => ?_
  refine triple_ite (fun _ => ?_) fun _ => triple_pure fun _ => id
  exact Triple.bind (stops_kept (fun _ => rfl) fun _ => rfl) fun _ => loadConfig_stops _

theorem afterMultinet_stops (result : MultinetResult) :
    Triple (StopsNoted botai) (afterMultinet result)
      (Next (fun _ => Given (Heeds botai) Resumes) fun _ => StopsHeld botai)
      (StopsHeld botai) := by
  have resume : ∀ w, StopsNoted botai w → Given (Heeds botai) Resumes w := fun _ hw => hw.mono .inl
  have held : ∀ w, StopsNoted botai w → StopsHeld botai w :=
    fun _ hw => hw.mono Watch.Tracked.held
  unfold afterMultinet
  refine triple_same.bind fun control => ?_
  refine Triple.bind (Watch.acts_tracked (S := [.ctrlC]) (by decide) (keeps_ite (keeps_pure _) ctrlCRequested_keeps))
    fun quit => ?_
  refine triple_ite (fun _ => triple_pure held) fun _ => triple_ite (fun _ => ?_) fun _ => ?_
  · -- RELOAD
    refine Triple.bind (stops_kept (fun _ => rfl) fun _ => rfl) fun _ => ?_
    refine triple_same.bind fun config => ?_
    refine triple_ite (fun _ => triple_pure held) fun _ => (loadConfig_stops _).bind fun rc => ?_
    split
    · exact triple_pure held
    · exact triple_pure resume
  refine triple_ite (fun _ => ?_) fun _ => triple_ite (fun _ => ?_) fun _ => triple_ite (fun _ => ?_) fun _ =>
    triple_pure held
  · -- a DISCONNECT has been carried out
    refine Triple.bind (Q := fun _ => Given (Heeds botai) stopped.Tracked) (triple_modify fun w hw hall =>
      Tracked.waits (hw hall)) fun _ => ?_
    have hwait : Triple (Given (Heeds botai) stopped.Tracked) (waitForConnect false) (fun _ => Given (Heeds botai) Resumes)
        (StopsHeld botai) :=
      waitForConnect_stopped.conseq (fun _ => id) (fun _ _ => id) fun w hw => hw.mono stopped_held.1
    exact hwait.bind fun _ => triple_pure fun _ => id
  · refine Triple.bind (stops_kept (fun _ => rfl) fun _ => rfl) fun _ => ?_
    refine (Watch.acts_tracked (by decide) (waitForConnect_keeps true)).bind fun _ => ?_
    refine reloadRequestedConfig_stops.bind fun rc => ?_
    split
    · exact triple_pure held
    · exact triple_pure resume
  · refine (Watch.acts_tracked (by decide) (waitToRebuild_keeps 50)).bind fun _ => ?_
    exact reloadRequestedConfig_stops.bind fun _ => triple_pure resume

/-- Without a Ctrl-C and a QUIT, the stops are noted again. -/
theorem ctrlCRequested_resumes :
    Triple (Given (Heeds botai) Resumes) ctrlCRequested
      (fun set => Given (Heeds botai) fun w =>
        stops.Held w ∧ (set = false → w.control.quitRequested = false → stops.Tracked w))
      (StopsHeld botai) := by
  intro env w hw
  rw [ctrlCRequested_run]
  dsimp only
  cases hset : w.breakSignal || env.ctrlC w.tick with
  | true =>
    simp only [if_true]
    have hheld : StopsHeld botai { w with tick := w.tick + 1, breakSignal := true } := fun hall =>
      (hw hall).held
    refine hheld.log fun _ hnow => ⟨?_, nofun⟩
    exact Watch.Held.log (o := .ctrlC) hnow fun hbarred => absurd hbarred (by decide)
  | false =>
    simp only [Bool.false_eq_true, if_false]
    refine fun hall => ⟨(hw hall).held, fun _ hquit => ?_⟩
    rcases hw hall with hnow | ⟨-, hsignal⟩
    · exact ⟨hnow.held, hnow.noted, trivial⟩
    · rw [Bool.or_eq_false_iff] at hset
      rcases hsignal with hsignal | hsignal
      · rw [hsignal] at hquit
        cases hquit
      · rw [hset.1] at hsignal
        cases hsignal

theorem m7Round_stops (s : Unit) :
    Triple (Given (Heeds botai) Resumes) (m7Round botai s)
      (Next (fun _ => Given (Heeds botai) Resumes) fun _ => StopsHeld botai)
      (StopsHeld botai) := by
  unfold m7Round
  refine ctrlCRequested_resumes.bind fun ctrlC => ?_
  refine Triple.bind (Q := fun control w => Given (Heeds botai) (fun w =>
      stops.Held w ∧ (ctrlC = false → w.control.quitRequested = false → stops.Tracked w)) w ∧ control = w.control)
    (triple_read fun _ w hw => ⟨hw, rfl⟩) fun control => ?_
  refine triple_ite (fun _ => triple_pure fun w hw => hw.1.mono And.left) fun hgoes => ?_
  simp only [Bool.or_eq_true, not_or, Bool.not_eq_true] at hgoes
  refine Triple.bind (Q := fun _ w => StopsNoted botai w ∧ control = w.control)
    (triple_read fun _ w hw => ⟨hw.1.mono fun hnow => hnow.2 hgoes.1 (hw.2 ▸ hgoes.2), hw.2⟩) fun config => ?_
  refine triple_ite (fun _ => triple_pure fun w hw => hw.1.mono Watch.Tracked.held) fun _ => ?_
  -- with no stop noted, the run may connect
  refine Triple.bind (Q := fun _ => StopsClear botai) (triple_modify fun w hw => ?_) fun _ => ?_
  · refine Watch.log_clear hw nofun (routine_free .rebuild (by decide)) fun ha => ?_
    have hdisconnect : control.disconnectRequested = false := by simpa [Heeds, Obs.heedsStops] using ha
    rw [stops_flag, hdisconnect, hgoes.2]
    rfl
  refine (Watch.modifyControl_clear _).bind fun _ => (multinetRun_stops _).bind fun result => ?_
  exact afterMultinet_stops result

theorem runM7Networks_held :
    Triple (Given (Heeds botai) Resumes) (runM7Networks botai) (fun _ => StopsHeld botai)
      (StopsHeld botai) := by
  refine triple_same.bind fun fuel => ?_
  exact triple_loop fuel m7Round_stops (fun _ _ hw => hw.mono Resumes.held) ()

end

/-- In a session that looks at the flags of its stops in time, no connection is
opened after a DISCONNECT until a CONNECT has been answered with CONNECT
REQUESTED, and none after a QUIT. -/
theorem runM7Networks_stops (botai : BotAi) (config : Config) (env : Env)
    (hheeds : ∀ o ∈ (runM7Networks botai env (worldInit config)).2.trace, o.heedsStops botai = true) :
    Until (·.answers "DISCONNECT") (·.asksConnect) (·.kind = .connect)
      (runM7Networks botai env (worldInit config)).2.trace ∧
    Until (·.answers "QUIT") (fun _ => False) (·.kind = .connect)
      (runM7Networks botai env (worldInit config)).2.trace := by
  have hinit : Given (Heeds botai) Resumes (worldInit config) := by
    refine fun _ => .inl ⟨fun r _ => until_nil, fun r _ hopen => absurd hopen not_owed_nil, trivial⟩
  have hheld : stops.Held (runM7Networks botai env (worldInit config)).2 :=
    runM7Networks_held.all (fun _ _ hw => hw) (fun _ hw => hw) hinit hheeds
  simp only [Watch.Held, stops, List.mem_cons, List.not_mem_nil, or_false, forall_eq_or_imp, forall_eq] at hheld
  exact hheld

/-- A DISCONNECT while connected, then a CONNECT. -/
theorem runM7Networks_stops_then_connects :
    let trace := (runM7Networks botaiInit
      { Env.online with fuel := 3, messages := fun n => [if n < 12 then ascii "DISCONNECT" else ascii "CONNECT"] }
      (worldInit oneServer)).2.trace
    Until (·.answers "DISCONNECT") (·.asksConnect) (·.kind = .connect) trace ∧
      Until (·.answers "QUIT") (fun _ => False) (·.kind = .connect) trace := by
  refine runM7Networks_stops botaiInit oneServer _ fun o ho => ?_
  have hheeds : (runM7Networks botaiInit
      { Env.online with fuel := 3, messages := fun n => [if n < 12 then ascii "DISCONNECT" else ascii "CONNECT"] }
      (worldInit oneServer)).2.trace.all (fun o => o.heedsStops botaiInit) = true := by decide +kernel
  exact List.all_eq_true.1 hheeds o ho

/-- A DISCONNECT and a RELOAD in one drain: the run returns RELOAD, and the next
one connects again. -/
theorem runM7Networks_stop_lost :
    ¬ Until (·.answers "DISCONNECT") (·.asksConnect) (·.kind = .connect)
      (runM7Networks botaiInit { Env.online with
        fuel := 2, messages := fun _ => [ascii "DISCONNECT", ascii "RELOAD"], file := fun _ => some [] }
        (worldInit oneServer)).2.trace := by
  decide +kernel

end AmBot
