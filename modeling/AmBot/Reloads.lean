import AmBot.Requests
import AmBot.Sections
/-!
# RELOAD

A RELOAD is noted in `reload_requested`, and the configuration file is to be
read again before the bot waits for the network or connects. The flag is looked
at after the ARexx messages of a wait and of a delay. A hook script can set it
in between, and a DISCONNECT can make the session clear it in a new run.
-/

namespace AmBot

open RunLib RunLib.Prog

/-- A RELOAD of `path` has been carried out, or a QUIT or Ctrl-C has come. -/
def Obs.endsReload (path : Bytes) : Obs → Bool
  | .load loaded _ => loaded = path
  | .ctrlC => true
  | o => o.answers "QUIT"

/-- A RELOAD of the file at `path`. -/
def reloadRequest (path : Bytes) : Request where
  asked := (·.answers "RELOAD")
  settled := (·.endsReload path)
  flag c := c.reloadRequested
  asked_rexx _ := Obs.answers_rexx
  sets h hasked := by
    rw [h.of_reload (Obs.commandWord_of_answers hasked)]
    rfl
  keeps h _ hflag := by
    cases h with
    | connect =>
      unfold operationConnect
      split
      · exact hflag
      · exact hflag
    | disconnect => exact hflag
    | reload => rfl
    | quit => exact hflag
    | other => exact hflag
  setSocket _ _ h := h

/-- The reloads of the file at `path`, which no connect and no wait may pass. -/
def reloads (path : Bytes) : Watch where
  requests := [reloadRequest path]
  barred := [.connect, .wait]
  configured config := config.path = path

/-- The code looks at the flag in time: it does not start a run, wait in a
session loop or ask the BotAI service with a RELOAD noted. -/
def Obs.heedsReload (botai : BotAi) : Obs → Bool
  | .rebuild control => !control.reloadRequested
  | .iteration _ active retrying control => !control.reloadRequested || (active = 0 && retrying = 0)
  | .session _ control => !control.reloadRequested
  | .event received control => !control.reloadRequested || !opensBotai botai received
  | _ => true

abbrev HeedsReload (botai : BotAi) (o : Obs) : Prop := o.heedsReload botai = true

section
variable {botai : BotAi} {path : Bytes}

theorem reloads_flag (c : Control) : (reloads path).flag c = c.reloadRequested := by
  simp [Watch.flag, reloads, reloadRequest]

theorem reloads_routine : ∀ k ∈ Watch.routine, k ∉ (reloads path).barred := by
  show ∀ k ∈ Watch.routine, k ∉ [Kind.connect, Kind.wait]
  decide

theorem reloads_event (event : Event) (control : Control) (h : HeedsReload botai (.event event control))
    (hflag : (reloads path).flag control = true) : opensBotai botai event = false := by
  rw [reloads_flag] at hflag
  simpa [HeedsReload, Obs.heedsReload, hflag] using h

/-- A RELOAD is noted. -/
abbrev Noting (botai : BotAi) (path : Bytes) : World → Prop := Given (HeedsReload botai) (reloads path).Tracked

/-- No RELOAD is open. -/
abbrev Loaded (botai : BotAi) (path : Bytes) : World → Prop := Given (HeedsReload botai) (reloads path).Clear

/-- No RELOAD was passed over so far. -/
abbrev InTime (botai : BotAi) (path : Bytes) : World → Prop := Given (HeedsReload botai) (reloads path).Held

theorem Loaded.noting {w : World} (h : Loaded botai path w) : Noting botai path w := h.mono Watch.Clear.tracked

theorem Noting.inTime {w : World} (h : Noting botai path w) : InTime botai path w := h.mono Watch.Tracked.held

theorem routine_noting {α : Type} {S : List Kind} {m : M α} (hS : S ⊆ Watch.routine) (h : Keeps (Acts S) m) :
    Triple (Noting botai path) m (fun _ => Noting botai path) (InTime botai path) :=
  Watch.routine_tracked reloads_routine hS h

/-- Everything but a RELOAD and the session's own reset leaves the flag. -/
theorem modifyControl_noting {f : Control → Control} (hf : ∀ c, (f c).reloadRequested = c.reloadRequested) :
    Triple (Noting botai path) (modifyControl f) (fun _ => Noting botai path) (InTime botai path) := by
  refine Watch.modifyControl_tracked fun r hr c hflag => ?_
  rw [List.mem_singleton.1 hr] at hflag ⊢
  exact (hf c).trans hflag

/-- An entry that is logged in time only with the flag clear. -/
theorem Noting.log_loaded {o : Obs} {control : Control} {w : World} (hw : Noting botai path w ∧ control = w.control)
    (ho : o.kind ≠ .rexx) (hbar : o.kind ∉ (reloads path).barred)
    (hflag : HeedsReload botai o → control.reloadRequested = false) : Loaded botai path (w.log o) :=
  Watch.log_clear hw ho hbar fun ha => (reloads_flag control).trans (hflag ha)

/-- With the flag clear no RELOAD is open. -/
theorem Noting.loaded {control : Control} {w : World} (h : Noting botai path w ∧ control = w.control)
    (hflag : control.reloadRequested = false) : Loaded botai path w := by
  obtain ⟨hnoting, rfl⟩ := h
  exact hnoting.mono fun hnow => hnow.clear ((reloads_flag _).trans hflag)

/-! ## Reading the file again -/

theorem copyValue_fits {size : Nat} {text : Bytes} (h : fits size text = true) : copyValue size text = text := by
  simp only [fits, Bool.and_eq_true, decide_eq_true_eq] at h
  exact copyValue_of_short h.2

theorem fits_ne_nil {size : Nat} {text : Bytes} (h : fits size text = true) : text ≠ [] := by
  rintro rfl
  simp [fits] at h

/-- A file that is read again has the path it was read from. -/
theorem configLoad_samePath (hfits : fits 128 path = true) {config : Config} (hpath : config.path = path)
    (file : Option Bytes) : (configLoad config path file).2.path = path := by
  cases file with
  | none =>
    unfold configLoad
    split
    · exact hpath
    · exact hpath
  | some text => exact (configLoad_path config (fits_ne_nil hfits) text).trans (copyValue_fits hfits)

/-- The flag may have been reset for a load, of `again`, that is still to come. -/
abbrev Rereading (botai : BotAi) (path again : Bytes) : World → Prop :=
  Given (HeedsReload botai) fun w => (reloads path).Held w ∧ w.config.path = path ∧ again = path

/-- The load settles every RELOAD before it. -/
theorem loadConfig_loaded (hfits : fits 128 path = true) (again : Bytes) :
    Triple (Rereading botai path again) (loadConfig again) (fun _ => Loaded botai path) (InTime botai path) := by
  refine Triple.bind (Q := fun config w => Rereading botai path again w ∧ config = w.config)
    (triple_read fun _ _ hw => ⟨hw, rfl⟩) fun config => ?_
  refine Triple.bind (Q := fun _ w => Rereading botai path again w ∧ config = w.config)
    (fun _ _ hw => ⟨hw.1, hw.2⟩) fun file => ?_
  refine Triple.bind (Q := fun _ => Given (HeedsReload botai) fun w =>
    (reloads path).Held w ∧ (reloads path).Quiet w ∧ config.path = path ∧ again = path)
    (triple_modify fun w hw => ?_) fun _ => ?_
  · obtain ⟨hreading, rfl⟩ := hw
    refine hreading.log fun _ hnow => ?_
    obtain ⟨hheld, hpath, rfl⟩ := hnow
    have hlogged : (reloads again).Held (w.log (.load again (decide ((configLoad w.config again file).1 = 0)))) :=
      hheld.log fun hbarred => absurd hbarred (reloads_routine .load (by decide))
    refine ⟨hlogged, fun r hr hopen => ?_, hpath, rfl⟩
    rw [List.mem_singleton.1 hr] at hopen
    refine ((reloadRequest again).isOpen_log ?_ hopen).2 ?_
    · exact nofun
    · simp [reloadRequest, Obs.endsReload]
  · refine Triple.bind (Q := fun _ => Loaded botai path) (triple_modify fun w hw hall => ?_) fun _ =>
      triple_pure fun _ => id
    obtain ⟨hheld, hquiet, hpath, rfl⟩ := hw hall
    exact ⟨hheld, hquiet, configLoad_samePath hfits hpath file⟩

/-- What is known once the flag is reset, and then of the path that is read. -/
theorem clearReload_rereading :
    Triple (Noting botai path) clearReload (fun _ => Rereading botai path path) (InTime botai path) :=
  triple_modify fun _ hw hall => ⟨(hw hall).held, (hw hall).configured, rfl⟩

theorem getConfig_rereading :
    Triple (Rereading botai path path) getConfig (fun config => Rereading botai path config.path) (InTime botai path) :=
  triple_read fun _ _ hw => hw.mono fun hnow => ⟨hnow.1, hnow.2.1, hnow.2.1⟩

/-- `process_reload` leaves no RELOAD open. -/
theorem processReload_loaded (hfits : fits 128 path = true) :
    Triple (Noting botai path) processReload (fun _ => Loaded botai path) (InTime botai path) := by
  unfold processReload
  refine Watch.getControl_tracked.bind fun control => triple_ite (fun _ => ?_) fun hclear => ?_
  · refine (clearReload_rereading.pre fun _ hw => hw.1).bind fun _ => getConfig_rereading.bind fun config =>
      triple_ite (fun hnil => ?_) fun _ => ?_
    · exact triple_pure fun w hw => hw.mono fun hnow => absurd (hnow.2.2.symm.trans hnil) (fits_ne_nil hfits)
    · exact (loadConfig_loaded hfits config.path).bind fun _ => triple_pure fun _ => id
  · exact triple_pure fun w hw => Noting.loaded hw (by simpa using hclear)

/-- With no RELOAD open, anything but the drain of the ARexx port keeps it so. -/
theorem acts_loaded {α : Type} {S : List Kind} {m : M α} (hS : .rexx ∉ S) (h : Keeps (Acts S) m) :
    Triple (Loaded botai path) m (fun _ => Loaded botai path) (InTime botai path) :=
  Watch.acts_clear hS h

theorem modifyControl_loaded (f : Control → Control) :
    Triple (Loaded botai path) (modifyControl f) (fun _ => Loaded botai path) (InTime botai path) :=
  Watch.modifyControl_clear f

/-! ## Several networks -/

theorem multinetServe_reloads (ready : List Bool) (s : MultinetState) :
    Triple (Loaded botai path) (multinetServe botai ready s) (fun _ => Noting botai path) (InTime botai path) := by
  unfold multinetServe
  -- the reconnects come right after a wait, the events of the sockets may bring a RELOAD
  refine Triple.bind (Q := fun _ => Loaded botai path)
    (triple_ite (fun _ => ?_) fun _ => triple_pure fun _ => id) fun r => ?_
  · refine Triple.bind (acts_loaded (S := []) (by simp) (keeps_ask _)) fun now => ?_
    refine triple_same.bind fun control => ?_
    refine Triple.bind (acts_loaded (S := [.retry]) (by decide) (keeps_log (by simp [Obs.kind])))
      fun _ => ?_
    exact Watch.retry_sweep_clear now s.counters s.slots
  · have hreceive : Triple (Noting botai path) (sweep (receiveNetwork botai ready) 0 r.1 r.2)
        (fun _ => Noting botai path) (InTime botai path) :=
      Watch.receive_sweep_tracked reloads_routine reloads_event ready r.1 r.2
    exact (hreceive.pre fun _ => Loaded.noting).bind fun r => triple_pure fun _ => id

theorem multinetRound_reloads (s : MultinetState) :
    Triple (Noting botai path) (multinetRound botai s)
      (Next (fun _ => Noting botai path) fun _ => Noting botai path) (InTime botai path) := by
  unfold multinetRound
  refine Watch.getControl_tracked.bind fun control => triple_ite (fun _ => ?_) fun _ => ?_
  · exact ((Watch.multinetStop_tracked reloads_routine s).pre fun _ hw => hw.1).bind fun result => triple_pure fun _ => id
  by_cases hidle : s.counters.active = 0 ∧ s.counters.retrying = 0
  · simp only [hidle, and_self, if_true]
    exact Triple.bind (Q := fun _ => Noting botai path) (triple_modify fun w hw => hw.1.log fun _ hnow =>
      hnow.log nofun (reloads_routine .iteration (by decide))) fun _ => triple_pure fun _ => id
  rw [if_neg hidle]
  -- the iteration is going to wait, so no RELOAD is noted
  refine Triple.bind (Q := fun _ => Loaded botai path) (triple_modify fun w hw => ?_) fun _ => ?_
  · refine Noting.log_loaded hw nofun (reloads_routine .iteration (by decide)) fun ha => ?_
    have hheeds : control.reloadRequested = false ∨ (s.counters.active = 0 ∧ s.counters.retrying = 0) := by
      simpa [HeedsReload, Obs.heedsReload] using ha
    exact hheeds.resolve_right hidle
  refine (acts_loaded (by decide) (netWaitMany_keeps _ _)).bind fun result => ?_
  -- only a drain can have noted one since
  refine Triple.bind (Q := fun _ w => Noting botai path w ∧ (result.rexx = false → Loaded botai path w)) ?_ fun _ => ?_
  · cases hrexx : result.rexx with
    | true =>
      have hdrain : Triple (Noting botai path) rexxProcess (fun _ => Noting botai path) (InTime botai path) :=
        routine_noting (by decide) rexxProcess_keeps
      exact (hdrain.pre fun _ => Loaded.noting).post fun _ _ hw => ⟨hw, nofun⟩
    | false => exact triple_pure fun _ hw => ⟨hw.noting, fun _ => hw⟩
  refine Triple.bind (Q := fun control w => (Noting botai path w ∧ control = w.control) ∧
    (result.rexx = false → Loaded botai path w)) (triple_read fun _ w hw => ⟨⟨hw.1, rfl⟩, hw.2⟩) fun control => ?_
  refine Triple.bind (Q := fun _ w => (Noting botai path w ∧ control = w.control) ∧
    (result.rexx = false → Loaded botai path w)) (triple_modify fun w hw => ?_) fun _ => ?_
  · have hlogged : Noting botai path (w.log (.woken result s.slots control)) :=
      hw.1.1.log fun _ hnow => hnow.log nofun (reloads_routine .woken (by decide))
    exact ⟨⟨hlogged, hw.1.2⟩, fun hrexx => (hw.2 hrexx).log fun _ hnow => hnow.log nofun⟩
  refine triple_ite (fun _ => triple_pure fun _ hw => hw.1.1) fun hstays => ?_
  have hloaded : ∀ w, (Noting botai path w ∧ control = w.control) ∧ (result.rexx = false → Loaded botai path w) →
      Loaded botai path w := by
    rintro w ⟨hnoting, hquiet⟩
    simp only [Bool.and_eq_true, not_and, Bool.not_eq_true] at hstays
    cases hrexx : result.rexx with
    | true => exact Noting.loaded hnoting (hstays hrexx)
    | false => exact hquiet hrexx
  refine Triple.pre (P := Loaded botai path) (triple_ite (fun _ => ?_) fun _ => ?_) hloaded
  · refine Triple.bind (acts_loaded (S := [.ctrlC]) (by decide) (keeps_log (by simp [Obs.kind])))
      fun _ => (modifyControl_loaded _).bind fun _ => ?_
    refine ((Watch.multinetStop_tracked reloads_routine s).pre fun _ => Loaded.noting).bind fun result => ?_
    exact triple_pure fun _ => id
  refine triple_ite (fun _ => triple_pure fun _ => Loaded.noting) fun _ => ?_
  exact (multinetServe_reloads result.ready s).bind fun s' => triple_pure fun _ => id

theorem multinetRun_reloads (networks : Networks) :
    Triple (Loaded botai path) (multinetRun networks botai) (fun _ => Noting botai path) (InTime botai path) := by
  refine (Watch.multinetStart_clear networks).bind fun s => ?_
  refine Triple.bind (Q := fun _ => Noting botai path) (triple_read fun _ w hw => Loaded.noting hw) fun fuel => ?_
  exact triple_loop (I := fun _ => Noting botai path) fuel multinetRound_reloads (fun _ _ => Noting.inTime) s

theorem getConfig_noting :
    Triple (Noting botai path) getConfig
      (fun config w => Noting botai path w ∧ Given (HeedsReload botai) (fun _ => config.path = path) w)
      (InTime botai path) :=
  triple_read fun _ _ hw => ⟨hw, hw.mono fun hnow => hnow.configured⟩

theorem reloadRequestedConfig_noting (hfits : fits 128 path = true) :
    Triple (Noting botai path) reloadRequestedConfig (fun _ => Noting botai path) (InTime botai path) := by
  unfold reloadRequestedConfig
  refine triple_same.bind fun control => ?_
  refine getConfig_noting.bind fun config => ?_
  refine triple_ite (fun _ => ?_) fun _ => triple_pure fun _ hw => hw.1
  refine Triple.bind (Q := fun _ => Rereading botai path config.path) (triple_modify fun _ hw hall =>
    ⟨(hw.1 hall).held, (hw.1 hall).configured, hw.2 hall⟩) fun _ => ?_
  exact (loadConfig_loaded hfits config.path).post fun _ _ => Loaded.noting

theorem afterMultinet_reloads (hfits : fits 128 path = true) (result : MultinetResult) :
    Triple (Noting botai path) (afterMultinet result) (Next (fun _ => Noting botai path) fun _ => Noting botai path)
      (InTime botai path) := by
  unfold afterMultinet
  refine triple_same.bind fun control => ?_
  refine Triple.bind (routine_noting (S := [.ctrlC]) (by decide) (keeps_ite (keeps_pure _) ctrlCRequested_keeps))
    fun quit => ?_
  refine triple_ite (fun _ => triple_pure fun _ => id) fun _ => triple_ite (fun _ => ?_) fun _ => ?_
  · -- RELOAD
    refine clearReload_rereading.bind fun _ => getConfig_rereading.bind fun config =>
      triple_ite (fun hnil => ?_) fun _ => ?_
    · exact triple_pure fun w hw => hw.mono fun hnow => absurd (hnow.2.2.symm.trans hnil) (fits_ne_nil hfits)
    · refine (loadConfig_loaded hfits config.path).bind fun rc => ?_
      split
      · exact triple_pure fun _ => Loaded.noting
      · exact triple_pure fun _ => Loaded.noting
  refine triple_ite (fun _ => ?_) fun _ => triple_ite (fun _ => ?_) fun _ => triple_ite (fun _ => ?_) fun _ =>
    triple_pure fun _ => id
  · refine Triple.bind (modifyControl_noting fun _ => rfl) fun _ => ?_
    exact (routine_noting (by decide) (waitForConnect_keeps false)).bind fun _ => triple_pure fun _ => id
  · refine Triple.bind (modifyControl_noting fun _ => rfl) fun _ => ?_
    refine (routine_noting (by decide) (waitForConnect_keeps true)).bind fun _ => ?_
    refine (reloadRequestedConfig_noting hfits).bind fun rc => ?_
    split
    · exact triple_pure fun _ => id
    · exact triple_pure fun _ => id
  · refine (routine_noting (by decide) (waitToRebuild_keeps 50)).bind fun _ => ?_
    exact (reloadRequestedConfig_noting hfits).bind fun _ => triple_pure fun _ => id

theorem m7Round_reloads (hfits : fits 128 path = true) (s : Unit) :
    Triple (Noting botai path) (m7Round botai s) (Next (fun _ => Noting botai path) fun _ => Noting botai path)
      (InTime botai path) := by
  unfold m7Round
  refine (routine_noting (by decide) ctrlCRequested_keeps).bind fun ctrlC => Watch.getControl_tracked.bind fun control => ?_
  refine triple_ite (fun _ => triple_pure fun _ hw => hw.1) fun _ => ?_
  refine triple_same.bind fun config => ?_
  refine triple_ite (fun _ => triple_pure fun _ hw => hw.1) fun _ => ?_
  -- the flag is about to be reset, so no RELOAD is noted
  refine Triple.bind (Q := fun _ => Loaded botai path) (triple_modify fun w hw => ?_) fun _ => ?_
  · refine Noting.log_loaded hw nofun (reloads_routine .rebuild (by decide)) fun ha => ?_
    simpa [HeedsReload, Obs.heedsReload] using ha
  refine (modifyControl_loaded _).bind fun _ => (multinetRun_reloads _).bind fun result => ?_
  exact afterMultinet_reloads hfits result

theorem runM7Networks_reloads (hfits : fits 128 path = true) :
    Triple (Noting botai path) (runM7Networks botai) (fun _ => Noting botai path) (InTime botai path) := by
  refine triple_same.bind fun fuel => ?_
  exact triple_loop (I := fun _ => Noting botai path) fuel (m7Round_reloads hfits) (fun _ _ => Noting.inTime) ()

/-! ## One network -/

theorem setSocket_noting (sock : Int) :
    Triple (Noting botai path) (setSocket sock) (fun _ => Noting botai path) (InTime botai path) :=
  Watch.setSocket_tracked sock

theorem sessionFeed_noting (sock : Int) (data : Bytes) (s : SessionState) :
    Triple (Noting botai path) (sessionFeed botai sock data s) (fun _ => Noting botai path) (InTime botai path) :=
  Watch.sessionFeed_tracked reloads_routine reloads_event sock data s

/-- After the drain of a wait the file has been read again where it has to be. -/
theorem connectedRound_noting (hfits : fits 128 path = true) (sock : Int) (s : SessionState) :
    Triple (Noting botai path) (connectedRound botai sock s) (Next (fun _ => Noting botai path) fun _ => Noting botai path)
      (InTime botai path) := by
  have ends : ∀ rc : Int, Triple (Loaded botai path) (do setSocket (-1); pure (.inr rc))
      (Next (fun _ : SessionState => Noting botai path) fun _ => Noting botai path) (InTime botai path) := fun rc =>
    ((setSocket_noting (-1)).pre fun _ => Loaded.noting).bind fun _ => triple_pure fun _ => id
  unfold connectedRound
  refine (routine_noting (by decide) ctrlCRequested_keeps).bind fun ctrlC => Watch.getControl_tracked.bind fun control => ?_
  refine triple_ite (fun _ => ?_) fun _ => ?_
  · exact ((setSocket_noting (-1)).pre fun _ hw => hw.1).bind fun _ => triple_pure fun _ => id
  -- the session is going to wait, so no RELOAD is noted
  refine Triple.bind (Q := fun _ => Loaded botai path) (triple_modify fun w hw => ?_) fun _ => ?_
  · refine Noting.log_loaded hw nofun (reloads_routine .session (by decide)) fun ha => ?_
    simpa [HeedsReload, Obs.heedsReload] using ha
  refine (acts_loaded (by decide) (netWaitMany_keeps _ _)).bind fun result => ?_
  refine Triple.bind (Q := fun _ => Loaded botai path)
    (triple_ite (fun _ => ?_) fun _ => triple_pure fun _ => id) fun _ => ?_
  · refine ((routine_noting (by decide) rexxProcess_keeps).pre fun _ => Loaded.noting).bind fun _ => ?_
    exact processReload_loaded hfits
  refine triple_ite (fun _ => ?_) fun _ => ?_
  · refine Triple.bind (acts_loaded (S := [.ctrlC]) (by decide) (keeps_log (by simp [Obs.kind])))
      fun _ => ?_
    exact (modifyControl_loaded _).bind fun _ => ends 0
  refine triple_same.bind fun control => ?_
  refine triple_ite (fun _ => ends 0) fun _ => triple_ite (fun _ => ends (-1)) fun _ => ?_
  refine triple_ite (fun _ => triple_pure fun _ => Loaded.noting) fun _ => ?_
  refine (acts_loaded (by decide) (netRecv_keeps _ _)).bind fun received => ?_
  split
  · exact ends (-1)
  · exact ends (-1)
  · exact ((sessionFeed_noting sock _ s).pre fun _ => Loaded.noting).bind fun s' => triple_pure fun _ => id

theorem runConnectedSession_noting (hfits : fits 128 path = true) (sock : Int) :
    Triple (Noting botai path) (runConnectedSession botai sock) (fun _ => Noting botai path) (InTime botai path) := by
  unfold runConnectedSession
  refine (setSocket_noting sock).bind fun _ => triple_same.bind fun control => ?_
  refine Triple.bind (routine_noting (S := [.register]) (by decide) (keeps_log (by simp [Obs.kind]))) fun _ => ?_
  refine Triple.bind (modifyControl_noting fun _ => rfl) fun _ => ?_
  refine triple_same.bind fun config => ?_
  refine (routine_noting (by decide) (ircSendRegistration_keeps _ _ _ _)).bind fun rc =>
    triple_ite (fun _ => ?_) fun _ => ?_
  · exact (setSocket_noting (-1)).bind fun _ => triple_pure fun _ => id
  refine (routine_noting (by decide) (sendJoins_keeps _ _)).bind fun _ => ?_
  refine triple_same.bind fun fuel => ?_
  exact triple_loop (I := fun _ => Noting botai path) fuel (connectedRound_noting hfits sock) (fun _ _ => Noting.inTime) _

theorem reconnectDelayFrom_noting (hfits : fits 128 path = true) (n ticks : Nat) :
    Triple (Noting botai path) (reconnectDelayFrom n ticks) (fun _ => Noting botai path) (InTime botai path) := by
  induction n generalizing ticks with
  | zero => exact triple_pure fun _ => id
  | succ n ih =>
    refine triple_same.bind fun control => ?_
    refine triple_ite (fun _ => triple_pure fun _ => id) fun _ => ?_
    refine (routine_noting (by decide) ctrlCRequested_keeps).bind fun ctrlC => ?_
    refine triple_ite (fun _ => triple_pure fun _ => id) fun _ => ?_
    refine (routine_noting (by decide) rexxProcess_keeps).bind fun _ => ?_
    refine ((processReload_loaded hfits).post fun _ _ => Loaded.noting).bind fun _ => ?_
    refine triple_same.bind fun control => ?_
    refine triple_ite (fun _ => triple_pure fun _ => id) fun _ => ?_
    exact (routine_noting (by decide) (delay_keeps _)).bind fun _ => ih _

theorem reconnectLater_noting (hfits : fits 128 path = true) (backoff : Nat) :
    Triple (Noting botai path) (reconnectLater backoff) (Next (fun _ => Noting botai path) fun _ => Noting botai path)
      (InTime botai path) := by
  refine triple_same.bind fun control => ?_
  refine triple_ite (fun _ => ?_) fun _ => triple_pure fun _ => id
  exact (reconnectDelayFrom_noting hfits _ _).bind fun _ => triple_pure fun _ => id

theorem serveConnection_noting (hfits : fits 128 path = true) (sock : Int) :
    Triple (Noting botai path) (serveConnection botai sock) (Next (fun _ => Noting botai path) fun _ => Noting botai path)
      (InTime botai path) := by
  unfold serveConnection
  refine (setSocket_noting sock).bind fun _ => (routine_noting (by decide) (emitLifecycle_keeps _ _)).bind fun _ => ?_
  refine (runConnectedSession_noting hfits sock).bind fun rc => ?_
  refine (routine_noting (by decide) (netCloseSocket_keeps _)).bind fun _ => (setSocket_noting (-1)).bind fun _ => ?_
  refine (routine_noting (by decide) (disconnectReason_keeps rc)).bind fun reason => ?_
  refine (routine_noting (by decide) (emitLifecycle_keeps _ _)).bind fun _ => ?_
  refine triple_same.bind fun control => ?_
  refine Triple.bind (routine_noting (S := [.ctrlC]) (by decide) (keeps_ite (keeps_pure _) ctrlCRequested_keeps))
    fun quit => triple_ite (fun _ => triple_pure fun _ => id) fun _ => ?_
  refine triple_same.bind fun control => triple_ite (fun _ => ?_) fun _ => ?_
  · exact Triple.bind (modifyControl_noting fun _ => rfl) fun _ => triple_pure fun _ => id
  · exact Triple.bind (modifyControl_noting fun _ => rfl) fun _ => reconnectLater_noting hfits 1

theorem sessionRound_noting (hfits : fits 128 path = true) (backoff : Nat) :
    Triple (Noting botai path) (sessionRound botai backoff) (Next (fun _ => Noting botai path) fun _ => Noting botai path)
      (InTime botai path) := by
  unfold sessionRound
  refine (routine_noting (by decide) ctrlCRequested_keeps).bind fun ctrlC => ?_
  refine triple_same.bind fun control => ?_
  refine triple_ite (fun _ => triple_pure fun _ => id) fun _ => ?_
  refine (routine_noting (by decide) rexxProcess_keeps).bind fun _ => (processReload_loaded hfits).bind fun _ => ?_
  refine triple_same.bind fun control => triple_ite (fun _ => ?_) fun _ => ?_
  · exact (acts_loaded (by decide) (delay_keeps 5)).bind fun _ => triple_pure fun _ => Loaded.noting
  refine triple_same.bind fun config => ?_
  refine Triple.bind (acts_loaded (S := [.dial]) (by decide) (keeps_log (by simp [Obs.kind]))) fun _ => ?_
  refine ((acts_loaded (by decide) (netConnectIpv4_keeps _ _)).post fun _ _ => Loaded.noting).bind fun sock => ?_
  exact triple_ite (fun _ => serveConnection_noting hfits sock) fun _ => reconnectLater_noting hfits backoff

theorem runSingleNetwork_noting (hfits : fits 128 path = true) :
    Triple (Noting botai path) (runSingleNetwork botai) (fun _ => Noting botai path) (InTime botai path) := by
  refine triple_same.bind fun fuel => ?_
  refine Triple.bind (triple_loop (I := fun _ => Noting botai path) fuel (sessionRound_noting hfits)
    (fun _ _ => Noting.inTime) 1) fun rc => ?_
  exact (setSocket_noting (-1)).bind fun _ => triple_pure fun _ => id

/-! ## Both modes -/

theorem runNetworks_noting (hfits : fits 128 path = true) :
    Triple (Noting botai path) (runNetworks botai) (fun _ => Noting botai path) (InTime botai path) := by
  refine triple_same.bind fun config => ?_
  refine triple_ite (fun _ => ?_) fun _ => runSingleNetwork_noting hfits
  exact (runM7Networks_reloads hfits).bind fun rc => (setSocket_noting (-1)).bind fun _ => triple_pure fun _ => id

end

/-- In a session of either mode that looks at the flag in time, no connection is
opened and no wait begins after a RELOAD until the configuration file has been
read again, or a QUIT or Ctrl-C has come. -/
theorem runNetworks_reloads (botai : BotAi) (config : Config) (env : Env) (hfits : fits 128 config.path = true)
    (hheeds : ∀ o ∈ (runNetworks botai env (worldInit config)).2.trace, o.heedsReload botai = true) :
    Until (·.answers "RELOAD") (·.endsReload config.path) (·.kind ∈ [.connect, .wait])
      (runNetworks botai env (worldInit config)).2.trace := by
  have hinit : Noting botai config.path (worldInit config) :=
    fun _ => ⟨fun r _ => until_nil, fun r _ hopen => absurd hopen not_owed_nil, rfl⟩
  have hheld : (reloads config.path).Held (runNetworks botai env (worldInit config)).2 :=
    (runNetworks_noting hfits).all (fun _ _ => Noting.inTime) (fun _ hw => hw) hinit hheeds
  exact hheld (reloadRequest config.path) (List.mem_singleton.2 rfl)

/-- A RELOAD before the connect and one after each wait, with one network. -/
theorem runNetworks_reloads_each :
    Until (·.answers "RELOAD") (·.endsReload oneServer.path) (·.kind ∈ [.connect, .wait])
      (runNetworks botaiInit
        { Env.online with fuel := 2, messages := fun _ => [ascii "RELOAD"], file := fun _ => some [] }
        (worldInit oneServer)).2.trace := by
  refine runNetworks_reloads botaiInit oneServer _ (by decide) fun o ho => ?_
  have hheeds : (runNetworks botaiInit
      { Env.online with fuel := 2, messages := fun _ => [ascii "RELOAD"], file := fun _ => some [] }
      (worldInit oneServer)).2.trace.all (fun o => o.heedsReload botaiInit) = true := by decide +kernel
  exact List.all_eq_true.1 hheeds o ho

/-- With several networks, a RELOAD and a CONNECT during the wait after a
DISCONNECT; with one, a RELOAD from the hook script of a JOIN. -/
theorem runNetworks_reload_lost :
    ¬ Until (·.answers "RELOAD") (·.endsReload oneServer.path) (·.kind ∈ [.connect, .wait])
      (runNetworks botaiInit { Env.online with
        fuel := 2
        messages := fun n => if n < 12 then [ascii "DISCONNECT"] else [ascii "RELOAD", ascii "CONNECT"] }
        (worldInit { oneServer with useAmbnc := true })).2.trace ∧
    ¬ Until (·.answers "RELOAD") (·.endsReload oneServer.path) (·.kind ∈ [.connect, .wait])
      (runNetworks botaiInit { Env.online with
        fuel := 2
        recv := fun _ => some (ascii ":a JOIN #c\n")
        waitSelect := fun _ => { rc := 1, rexx := false, ctrlC := false, readable := fun _ => true }
        scriptExists := fun _ => true
        rexxMaster := fun _ => true
        argstring := fun _ => true
        scriptWait := fun _ => (true, true)
        messages := fun n => if n < 10 then [] else [ascii "RELOAD"] } (worldInit oneServer)).2.trace := by
  constructor
  · decide +kernel
  · decide +kernel

end AmBot
