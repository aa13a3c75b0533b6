import AmBot.Endpoints
import AmBot.Requests
import AmBot.Rounds
/-!
# Why a session ends

A session that serves its networks returns because somebody has asked for it: a
QUIT has been answered, or a Ctrl-C noticed. The several-networks mode also
gives up, with another return code, on a configuration it cannot use. The
single-network loop never does; and each profile it takes up is that of the
last, unless a file has been loaded in between.
-/

namespace AmBot

open RunLib RunLib.Prog

variable {α σ : Type} {S : List Kind} {w w' : World}

/-- A Ctrl-C that has been noticed, or a QUIT that has been answered. -/
def Obs.stops (o : Obs) : Bool := o.kind = .ctrlC || o.answers "QUIT"

/-- Somebody has asked the bot to stop. -/
def StopSeen (t : List Obs) : Prop := ∃ o ∈ t, o.stops = true

/-- The quit flag is set only where that shows. -/
def QuitTraced (w : World) : Prop := w.control.quitRequested = true → StopSeen w.trace

theorem StopSeen.append {t : List Obs} (h : StopSeen t) (u : List Obs) : StopSeen (t ++ u) := by
  obtain ⟨o, ho, hstops⟩ := h
  exact ⟨o, List.mem_append_left _ ho, hstops⟩

theorem stopSeen_last {t : List Obs} {o : Obs} (h : o.stops = true) : StopSeen (t ++ [o]) :=
  ⟨o, List.mem_append_right _ (List.mem_singleton.2 rfl), h⟩

theorem stopSeen_snoc {t : List Obs} {o : Obs} (h : o.stops = false) : StopSeen (t ++ [o]) ↔ StopSeen t := by
  simp [StopSeen, h]

/-! ## One step -/

/-- An assertion that is kept. -/
def Carries (J : World → Prop) (w w' : World) : Prop := J w → J w'

instance (J : World → Prop) : IsPreorder World (Carries J) where
  refl _ := id
  trans _ _ _ h h' := h' ∘ h

theorem carries_triple {J : World → Prop} {m : M α} (h : Keeps (Carries J) m) : Triple J m (fun _ => J) J :=
  Keeps.triple h fun _ _ hw hcarries => hcarries hw

/-- A command that sets the quit flag is a QUIT, and answered. -/
theorem Answered.quitTraced {c c' : Control} {input result : Bytes} {rc : Nat} (h : Answered c input rc result c')
    (hquit : c'.quitRequested = true) :
    c.quitRequested = true ∨ (Obs.rexx input rc result).stops = true := by
  cases h with
  | connect =>
    unfold operationConnect at hquit
    split at hquit
    · exact .inl hquit
    · exact .inl hquit
  | disconnect => exact .inl hquit
  | reload => exact .inl hquit
  | quit hword => exact .inr (by simp [Obs.stops, Obs.answers, hword])
  | other => exact .inl hquit

theorem Act.quitTraced (h : Act S w w') (hw : QuitTraced w) : QuitTraced w' := by
  cases h with
  | tick => exact hw
  | signal => exact hw
  | log => exact fun hquit => (hw hquit).append _
  | answer input rc result control _ hanswered =>
    intro hquit
    rcases hanswered.quitTraced hquit with hbefore | hstops
    · exact (hw hbefore).append _
    · exact stopSeen_last hstops

theorem acts_quitTraced {m : M α} (h : Keeps (Acts S) m) : Keeps (Carries QuitTraced) m := by
  refine h.mono fun w w' hacts hw => ?_
  induction hacts with
  | refl => exact hw
  | tail _ hact ih => exact hact.quitTraced ih

theorem control_quitTraced {f : Control → Control} (h : ∀ c, (f c).quitRequested = c.quitRequested) :
    Keeps (Carries QuitTraced) (modifyControl f) := by
  intro env w hw hquit
  exact hw ((h w.control).symm.trans hquit)

theorem log_quitTraced (o : Obs) : Keeps (Carries QuitTraced) (log o) := fun _ _ hw hquit => (hw hquit).append _

/-- A Ctrl-C that is there shows in the trace. -/
theorem ctrlCRequested_stopped {J : World → Prop} (hJ : Keeps (Carries J) ctrlCRequested) :
    Triple J ctrlCRequested (fun set w => J w ∧ (set = true → StopSeen w.trace)) J := by
  intro env w hw
  have hkept := hJ env w hw
  unfold ctrlCRequested at hkept ⊢
  simp only [bind_run, ask, getBreakSignal, setBreakSignal, Prog.read, Prog.modify] at hkept ⊢
  cases hset : (w.breakSignal || env.ctrlC w.tick) with
  | false =>
    rw [hset] at hkept
    exact ⟨hkept, fun hnever => absurd hnever (by decide)⟩
  | true =>
    rw [hset] at hkept
    exact ⟨hkept, fun _ => stopSeen_last rfl⟩

section
variable {J S' : World → Prop} {Q : α → World → Prop} {m m' : Control → M α}

/-- `ctrl_c_requested() || control->quit_requested`: where it holds, somebody
has asked. -/
theorem asked_test (hJ : ∀ w, J w → QuitTraced w) (hctrlC : Keeps (Carries J) ctrlCRequested) (hS : ∀ w, J w → S' w)
    (hstop : ∀ control, Triple (fun w => J w ∧ StopSeen w.trace) (m control) Q S')
    (hgo : ∀ control, Triple J (m' control) Q S') :
    Triple J (do
      let ctrlC ← ctrlCRequested
      let control ← getControl
      if ctrlC || control.quitRequested then m control else m' control) Q S' := by
  refine ((ctrlCRequested_stopped hctrlC).conseq (fun _ => id) (fun _ _ => id) hS).bind fun ctrlC => ?_
  refine getControl_reads.bind fun control => triple_ite (fun hask => ?_) fun _ => ?_
  · refine (hstop control).pre fun w hw => ?_
    obtain ⟨⟨hkept, hnoticed⟩, rfl⟩ := hw
    rcases Bool.or_eq_true_iff.1 hask with hset | hquit
    · exact ⟨hkept, hnoticed hset⟩
    · exact ⟨hkept, hJ w hkept hquit⟩
  · exact (hgo control).pre fun w hw => hw.1.1

/-- `control->quit_requested || ctrl_c_requested()`. -/
theorem stopped_asked (hJ : ∀ w, J w → QuitTraced w) (hctrlC : Keeps (Carries J) ctrlCRequested) (hS : ∀ w, J w → S' w)
    (hstop : ∀ control, Triple (fun w => J w ∧ StopSeen w.trace) (m control) Q S')
    (hgo : ∀ control, Triple J (m' control) Q S') :
    Triple J (do
      let control ← getControl
      let stopped ← (if control.quitRequested then pure true else ctrlCRequested)
      if stopped then m control else m' control) Q S' := by
  refine getControl_reads.bind fun control => ?_
  refine Triple.bind (Q := fun stopped w => J w ∧ (stopped = true → StopSeen w.trace)) ?_ fun stopped => ?_
  · refine triple_ite (fun hquit => triple_pure fun w hw => ?_) fun _ => ?_
    · obtain ⟨hkept, rfl⟩ := hw
      exact ⟨hkept, fun _ => hJ w hkept hquit⟩
    · exact (ctrlCRequested_stopped hctrlC).conseq (fun _ hw => hw.1) (fun _ _ => id) hS
  · refine triple_ite (fun hstopped => ?_) fun _ => ?_
    · exact (hstop control).pre fun w hw => ⟨hw.1, hw.2 hstopped⟩
    · exact (hgo control).pre fun w hw => hw.1

end

/-! ## Several networks -/

theorem setFirstSocket_quitTraced (i : Nat) (sock : Int) : Keeps (Carries QuitTraced) (setFirstSocket i sock) :=
  keeps_when (control_quitTraced fun _ => rfl)

theorem takeTurn_quitTraced {i : Nat} {slot : Slot} {step : M (Counters × Slot)} (h : Keeps (Carries QuitTraced) step) :
    Keeps (Carries QuitTraced) (takeTurn i slot step) := by
  refine (log_quitTraced _).bind fun _ => h.bind fun r => ?_
  obtain ⟨c, slot'⟩ := r
  exact (log_quitTraced _).bind fun _ => keeps_pure _

theorem ask_quitTraced (f : Env → Nat → α) : Keeps (Carries QuitTraced) (ask f) := acts_quitTraced (keeps_ask (S := []) f)

theorem startNetwork_quitTraced (i : Nat) (c : Counters) (config : NetworkConfig) :
    Keeps (Carries QuitTraced) (startNetwork i c config) := by
  refine takeTurn_quitTraced ((acts_quitTraced (connectRuntime_keeps _)).bind fun r => ?_)
  obtain ⟨result, runtime⟩ := r
  cases result with
  | ok => exact keeps_pure _
  | retry => exact (ask_quitTraced _).bind fun _ => keeps_pure _
  | permanent => exact keeps_pure _

theorem retryNetwork_quitTraced (now : Int) (i : Nat) (c : Counters) (slot : Slot) :
    Keeps (Carries QuitTraced) (retryNetwork now i c slot) := by
  have hdecrement := acts_quitTraced (decrement_keeps c.retrying)
  refine keeps_ite (keeps_pure _) (takeTurn_quitTraced ((acts_quitTraced (connectRuntime_keeps _)).bind fun r => ?_))
  obtain ⟨result, runtime⟩ := r
  cases result with
  | ok => exact hdecrement.bind fun _ => (setFirstSocket_quitTraced i _).bind fun _ => keeps_pure _
  | retry => exact keeps_pure _
  | permanent => exact hdecrement.bind fun _ => keeps_pure _

theorem receiveNetwork_quitTraced (botai : BotAi) (ready : List Bool) (i : Nat) (c : Counters) (slot : Slot) :
    Keeps (Carries QuitTraced) (receiveNetwork botai ready i c slot) := by
  have lose : Keeps (Carries QuitTraced) (loseNetwork i c slot) := by
    refine (acts_quitTraced (netCloseSocket_keeps _)).bind fun _ => (setFirstSocket_quitTraced i _).bind fun _ => ?_
    exact (ask_quitTraced _).bind fun _ => keeps_pure _
  refine keeps_ite (keeps_pure _) (takeTurn_quitTraced ((acts_quitTraced (netRecv_keeps _ _)).bind fun received => ?_))
  split
  · exact lose
  · exact lose
  · refine (acts_quitTraced (framerFeed_keeps (multinetHandleLine_keeps botai) _ _ _)).bind fun r => ?_
    obtain ⟨framer, runtime⟩ := r
    exact keeps_ite ((setFirstSocket_quitTraced i _).bind fun _ => keeps_pure _) (keeps_pure _)

theorem multinetServe_quitTraced (botai : BotAi) (ready : List Bool) (s : MultinetState) :
    Keeps (Carries QuitTraced) (multinetServe botai ready s) := by
  refine Keeps.bind (keeps_ite ?_ (keeps_pure _)) fun r => ?_
  · refine (ask_quitTraced _).bind fun now => (keeps_read _).bind fun control => (log_quitTraced _).bind fun _ => ?_
    exact keeps_sweep (retryNetwork_quitTraced now) _ _ _
  · exact (keeps_sweep (receiveNetwork_quitTraced botai ready) _ _ _).bind fun r => keeps_pure _

theorem multinetStart_quitTraced (networks : Networks) : Keeps (Carries QuitTraced) (multinetStart networks) := by
  refine (keeps_sweep startNetwork_quitTraced _ _ _).bind fun r => (keeps_read _).bind fun control => ?_
  refine (log_quitTraced _).bind fun _ => Keeps.bind (keeps_when ?_) fun _ => keeps_pure _
  exact control_quitTraced fun _ => rfl

/-- A flag that ends a run is set. -/
def Dismissed (w : World) : Prop := w.control.quitRequested = true ∨ w.control.disconnectRequested = true

/-- A run that has stopped has been told to, by a flag that is still set. -/
def StopShows (result : MultinetResult) (w : World) : Prop := QuitTraced w ∧ (result = .stop → Dismissed w)

theorem multinetStop_shows (s : MultinetState) :
    Triple (fun w => QuitTraced w ∧ Dismissed w) (multinetStop s) StopShows QuitTraced := by
  have hclosed : Triple (fun w => QuitTraced w ∧ Dismissed w) (each (fun slot =>
      if 0 ≤ slot.runtime.sock then netCloseSocket slot.runtime.sock else pure ()) s.slots)
      (fun _ w => QuitTraced w ∧ Dismissed w) QuitTraced := by
    refine (Keeps.triple (closeAll_keeps s.slots) fun w w' hw hacts => ?_).conseq (fun _ => id) (fun _ _ => id)
      fun w (hw : QuitTraced w ∧ Dismissed w) => hw.1
    obtain ⟨htraced, htold⟩ := hw
    have hcontrol := hacts.control (by decide)
    obtain ⟨u, hu, -⟩ := hacts.logs
    refine ⟨fun hquit => ?_, ?_⟩
    · rw [hu]
      exact (htraced (hcontrol ▸ hquit)).append u
    · rw [Dismissed, hcontrol]
      exact htold
  refine hclosed.bind fun _ => ?_
  exact Triple.bind (Q := fun _ w => QuitTraced w ∧ Dismissed w) (triple_modify fun _ => id) fun _ => triple_pure fun w hw =>
    ⟨hw.1, fun _ => hw.2⟩

theorem multinetRound_shows (botai : BotAi) (s : MultinetState) :
    Triple QuitTraced (multinetRound botai s) (Next (fun _ => QuitTraced) StopShows) QuitTraced := by
  unfold multinetRound
  refine getControl_reads.bind fun control => triple_ite (fun hasked => ?_) fun _ => ?_
  · refine ((multinetStop_shows s).pre fun w hw => ?_).bind fun result => triple_pure fun _ => id
    obtain ⟨htraced, rfl⟩ := hw
    exact ⟨htraced, Bool.or_eq_true_iff.1 hasked⟩
  refine Triple.bind ((carries_triple (log_quitTraced _)).pre fun w hw => hw.1) fun _ => ?_
  refine triple_ite (fun _ => triple_pure fun w hw => ⟨hw, nofun⟩) fun _ => ?_
  refine (carries_triple (acts_quitTraced (netWaitMany_keeps _ _))).bind fun result => ?_
  refine (carries_triple (keeps_when (acts_quitTraced rexxProcess_keeps))).bind fun _ => triple_same.bind fun control => ?_
  refine (carries_triple (log_quitTraced _)).bind fun _ => ?_
  refine triple_ite (fun _ => triple_pure fun w hw => ⟨hw, nofun⟩) fun _ => ?_
  refine triple_ite (fun _ => ?_) fun _ => triple_ite (fun _ => triple_pure fun w hw => ⟨hw, nofun⟩) fun _ => ?_
  · -- the Ctrl-C is logged before it sets the flag
    refine Triple.bind (Q := fun _ w => StopSeen w.trace) (triple_modify fun w _ => stopSeen_last rfl) fun _ => ?_
    refine Triple.bind (Q := fun _ w => QuitTraced w ∧ Dismissed w)
      (triple_modify fun w hw => ⟨fun _ => hw, .inl rfl⟩) fun _ => ?_
    exact (multinetStop_shows s).bind fun result => triple_pure fun _ => id
  · exact (carries_triple (multinetServe_quitTraced botai _ s)).bind fun s => triple_pure fun _ => id

theorem multinetRun_shows (networks : Networks) (botai : BotAi) :
    Triple QuitTraced (multinetRun networks botai) StopShows QuitTraced := by
  refine (carries_triple (multinetStart_quitTraced networks)).bind fun s => triple_same.bind fun fuel => ?_
  exact triple_loop (I := fun _ => QuitTraced) fuel (multinetRound_shows botai) (fun _ _ => id) s

theorem loadConfig_quitTraced (path : Bytes) : Keeps (Carries QuitTraced) (loadConfig path) := by
  refine (keeps_read _).bind fun config => (ask_quitTraced _).bind fun file => (log_quitTraced _).bind fun _ => ?_
  exact Keeps.bind (m := setConfig _) (fun _ _ => id) fun _ => keeps_pure _

theorem reloadRequestedConfig_quitTraced : Keeps (Carries QuitTraced) reloadRequestedConfig := by
  refine (keeps_read _).bind fun control => (keeps_read _).bind fun config => keeps_ite ?_ (keeps_pure _)
  exact Keeps.bind (control_quitTraced fun _ => rfl) fun _ => loadConfig_quitTraced _

/-- A session of several networks that ends with 0 has been asked to. -/
def EndShows (rc : Int) (w : World) : Prop := QuitTraced w ∧ (rc = 0 → StopSeen w.trace)

/-- What is known after the session has looked for a stop. -/
theorem stopped_shows (result : MultinetResult) (control : Control) :
    Triple (fun w => StopShows result w ∧ control = w.control) (if control.quitRequested then pure true else ctrlCRequested)
      (fun stopped w => QuitTraced w ∧ (stopped = true → StopSeen w.trace) ∧
        (stopped = false → result = .stop → control.disconnectRequested = true)) QuitTraced := by
  refine triple_ite (fun hquit => triple_pure fun w hw => ?_) fun hquit => ?_
  · obtain ⟨⟨htraced, -⟩, rfl⟩ := hw
    exact ⟨htraced, fun _ => htraced hquit, nofun⟩
  · intro env w hw
    obtain ⟨⟨htraced, htold⟩, rfl⟩ := hw
    have hlooked := ctrlCRequested_stopped (acts_quitTraced ctrlCRequested_keeps) env w htraced
    split at hlooked
    · refine ⟨hlooked.1, hlooked.2, fun _ hstop => ?_⟩
      exact (htold hstop).resolve_left hquit
    · exact hlooked

theorem afterMultinet_shows (result : MultinetResult) :
    Triple (StopShows result) (afterMultinet result) (Next (fun _ => QuitTraced) EndShows) QuitTraced := by
  have gives (rc : Int) (hrc : rc ≠ 0) :
      Triple QuitTraced (pure (.inr rc) : M (Unit ⊕ Int)) (Next (fun _ => QuitTraced) EndShows) QuitTraced :=
    triple_pure fun w hw => ⟨hw, fun h => absurd h hrc⟩
  have reread (rc : Int) : Triple QuitTraced (pure (if rc ≠ 0 then .inr 10 else .inl ()) : M (Unit ⊕ Int))
      (Next (fun _ => QuitTraced) EndShows) QuitTraced := by
    split
    · exact gives 10 (by decide)
    · exact triple_pure fun _ => id
  unfold afterMultinet
  refine getControl_reads.bind fun control => (stopped_shows result control).bind fun stopped => ?_
  refine triple_ite (fun hstopped => triple_pure fun w hw => ⟨hw.1, fun _ => hw.2.1 hstopped⟩) fun hgoes => ?_
  refine triple_ite (fun _ => ?_) fun hreload => triple_ite (fun _ => ?_) fun hconnected => ?_
  · refine Triple.bind (Q := fun _ => QuitTraced) (triple_modify fun w hw => hw.1) fun _ => ?_
    refine triple_same.bind fun config => triple_ite (fun _ => gives 10 (by decide)) fun _ => ?_
    exact (carries_triple (loadConfig_quitTraced _)).bind fun rc => reread rc
  · refine Triple.bind (Q := fun _ => QuitTraced) (triple_modify fun w hw => hw.1) fun _ => ?_
    exact (carries_triple (acts_quitTraced (waitForConnect_keeps false))).bind fun _ => triple_pure fun _ => id
  refine triple_ite (fun _ => ?_) fun hidle => triple_ite (fun _ => ?_) fun hfailed => triple_pure fun w hw => ?_
  · refine Triple.bind (Q := fun _ => QuitTraced) (triple_modify fun w hw => hw.1) fun _ => ?_
    refine (carries_triple (acts_quitTraced (waitForConnect_keeps true))).bind fun _ => ?_
    exact (carries_triple reloadRequestedConfig_quitTraced).bind fun rc => reread rc
  · refine Triple.bind ((carries_triple (acts_quitTraced (waitToRebuild_keeps 50))).pre fun w hw => hw.1) fun _ => ?_
    exact (carries_triple reloadRequestedConfig_quitTraced).bind fun rc => triple_pure fun _ => id
  · -- a run that was stopped by neither flag did not stop
    have hstop : result = .stop := by
      cases result with
      | stop => rfl
      | reload => exact absurd rfl hreload
      | reconnect => exact absurd rfl hfailed
      | noRetryableNetworks => exact absurd rfl hidle
    exact absurd (hw.2.2 (Bool.eq_false_of_not_eq_true hgoes) hstop) hconnected

theorem m7Round_shows (botai : BotAi) (s : Unit) :
    Triple QuitTraced (m7Round botai s) (Next (fun _ => QuitTraced) EndShows) QuitTraced := by
  refine asked_test (fun _ => id) (acts_quitTraced ctrlCRequested_keeps) (fun _ => id) (fun control => ?_) fun control => ?_
  · exact triple_pure fun w hw => ⟨hw.1, fun _ => hw.2⟩
  refine triple_same.bind fun config => triple_ite (fun _ => triple_pure fun w hw => ⟨hw, nofun⟩) fun _ => ?_
  refine (carries_triple (log_quitTraced _)).bind fun _ => ?_
  refine Triple.bind (Q := fun _ => QuitTraced) (triple_modify fun _ => id) fun _ => ?_
  exact (multinetRun_shows _ botai).bind fun result => afterMultinet_shows result

theorem runM7Networks_shows (botai : BotAi) : Triple QuitTraced (runM7Networks botai) EndShows QuitTraced := by
  refine triple_same.bind fun fuel => ?_
  exact triple_loop (I := fun _ => QuitTraced) fuel (m7Round_shows botai) (fun _ _ => id) ()

/-! ## One network -/

/-- The profile the single-network loop has taken up last, unless a file has
been loaded since. -/
def dialled (t : List Obs) : Option NetworkConfig :=
  t.foldl (fun last o => match o with
    | .dial .single n => some n
    | .load _ true => none
    | _ => last) none

/-- The single-network loop takes up the profile of the last time, unless a file
has been loaded in between. -/
def SameProfile (before : List Obs) (o : Obs) : Prop := ∀ n, o = .dial .single n → ∀ n' ∈ dialled before, n = n'

theorem sameProfile_of_other {t : List Obs} {o : Obs} (h : o.other) : SameProfile t o := fun n ho => absurd ho (h n)

theorem dialled_snoc {t : List Obs} {o : Obs} (hdial : o.kind ≠ .dial) (hload : o.kind ≠ .load) :
    dialled (t ++ [o]) = dialled t := by
  cases o <;> first | exact absurd rfl hdial | exact absurd rfl hload | simp [dialled]

/-- What `ambot_config_load` does in a session. -/
theorem loadConfig_run (path : Bytes) (env : Env) (w : World) :
    let r := configLoad w.config path (env.file w.tick)
    loadConfig path env w = (.ok r.1, { w with
      config := r.2, tick := w.tick + 1, trace := w.trace ++ [.load path (decide (r.1 = 0))] }) := by
  rcases h : configLoad w.config path (env.file w.tick) with ⟨rc, config⟩
  simp [loadConfig, bind_run, getConfig, Prog.read, ask, log, setConfig, World.log, h]

theorem configLoad_none (config : Config) (path : Bytes) : (configLoad config path none).2 = config := by
  unfold configLoad
  split
  · rfl
  · rfl

/-- The invariant of the single-network loop. -/
structure Underway (w : World) : Prop where
  quitTraced : QuitTraced w
  law : Lawful SameProfile w.trace
  current : ∀ n ∈ dialled w.trace, n = copyNetwork (legacyNetwork w.config)

theorem Underway.snoc {w' : World} (h : Underway w) (htraced : QuitTraced w') {o : Obs} (htrace : w'.trace = w.trace ++ [o])
    (hconfig : w'.config = w.config) (hdial : o.kind ≠ .dial) (hload : o.kind ≠ .load) : Underway w' := by
  refine ⟨htraced, ?_, ?_⟩
  · rw [htrace]
    exact lawful_snoc.2 ⟨h.law, sameProfile_of_other (other_of_kind hdial)⟩
  · rw [htrace, hconfig, dialled_snoc hdial hload]
    exact h.current

theorem acts_underway (hdial : .dial ∉ S) (hload : .load ∉ S) {m : M α} (h : Keeps (Acts S) m) :
    Keeps (Carries Underway) m := by
  refine h.mono fun w w' hacts hw => ?_
  induction hacts with
  | refl => exact hw
  | tail _ hact ih =>
    have htraced := hact.quitTraced ih.quitTraced
    cases hact with
    | tick => exact ⟨ih.quitTraced, ih.law, ih.current⟩
    | signal => exact ⟨ih.quitTraced, ih.law, ih.current⟩
    | log o ho => exact ih.snoc htraced rfl rfl (fun hkind => hdial (hkind ▸ ho)) fun hkind => hload (hkind ▸ ho)
    | answer => exact ih.snoc htraced rfl rfl (by simp [Obs.kind]) (by simp [Obs.kind])

theorem control_underway {f : Control → Control} (h : ∀ c, (f c).quitRequested = c.quitRequested) :
    Keeps (Carries Underway) (modifyControl f) :=
  fun env w hw => ⟨control_quitTraced h env w hw.quitTraced, hw.law, hw.current⟩

theorem setSocket_underway (sock : Int) : Keeps (Carries Underway) (setSocket sock) := control_underway fun _ => rfl

theorem log_underway {o : Obs} (hdial : o.kind ≠ .dial) (hload : o.kind ≠ .load) : Keeps (Carries Underway) (log o) :=
  fun env w hw => hw.snoc (log_quitTraced o env w hw.quitTraced) rfl rfl hdial hload

theorem configLoad_failed {config : Config} {path : Bytes} {file : Option Bytes}
    (h : (configLoad config path file).1 ≠ 0) : (configLoad config path file).2 = config := by
  unfold configLoad at h ⊢
  by_cases hpath : path = []
  · rw [if_pos hpath] at h
    exact absurd rfl h
  rw [if_neg hpath] at h ⊢
  cases file with
  | none => rfl
  | some text => exact absurd rfl h

/-- A load that fails leaves the settings as they are. -/
theorem loadConfig_underway (path : Bytes) : Keeps (Carries Underway) (loadConfig path) := by
  intro env w hw
  have htraced := loadConfig_quitTraced path env w hw.quitTraced
  rw [loadConfig_run] at htraced ⊢
  refine ⟨htraced, lawful_snoc.2 ⟨hw.law, sameProfile_of_other (other_of_kind nofun)⟩, ?_⟩
  dsimp only
  by_cases hrc : (configLoad w.config path (env.file w.tick)).1 = 0
  · simp [dialled, hrc]
  · rw [configLoad_failed hrc]
    simpa [dialled, hrc] using hw.current

theorem processReload_underway : Keeps (Carries Underway) processReload := by
  refine (keeps_read _).bind fun control => keeps_ite ?_ (keeps_pure _)
  refine Keeps.bind (control_underway fun _ => rfl) fun _ => (keeps_read _).bind fun config => keeps_ite (keeps_pure _) ?_
  exact (loadConfig_underway _).bind fun rc => keeps_pure _

theorem ctrlCRequested_underway : Keeps (Carries Underway) ctrlCRequested :=
  acts_underway (by decide) (by decide) ctrlCRequested_keeps

theorem rexxProcess_underway : Keeps (Carries Underway) rexxProcess :=
  acts_underway (by decide) (by decide) rexxProcess_keeps

theorem reconnectDelayFrom_underway (n ticks : Nat) : Keeps (Carries Underway) (reconnectDelayFrom n ticks) := by
  induction n generalizing ticks with
  | zero => exact keeps_pure _
  | succ n ih =>
    refine (keeps_read _).bind fun control => keeps_ite (keeps_pure _) ?_
    refine ctrlCRequested_underway.bind fun ctrlC => keeps_ite (keeps_pure _) ?_
    refine rexxProcess_underway.bind fun _ => processReload_underway.bind fun _ => ?_
    refine (keeps_read _).bind fun control => keeps_ite (keeps_pure _) ?_
    exact (acts_underway (by decide) (by decide) (delay_keeps _)).bind fun _ => ih _

theorem sessionFeed_underway (botai : BotAi) (sock : Int) (data : Bytes) (s : SessionState) :
    Keeps (Carries Underway) (sessionFeed botai sock data s) := by
  refine (acts_underway (by decide) (by decide) (framerFeed_keeps (sessionHandleLine_keeps sock) _ _ _)).bind fun r => ?_
  obtain ⟨framer, events⟩ := r
  refine Keeps.bind (eventDispatchPending_keeps (fun event => ?_) _ _) fun _ => keeps_pure _
  exact (keeps_read _).bind fun config => acts_underway (by decide) (by decide) (dispatchEvent_keeps _ _ _ _)

theorem connectedRound_underway (botai : BotAi) (sock : Int) (s : SessionState) :
    Triple Underway (connectedRound botai sock s) (fun _ => Underway) Underway := by
  have ends (rc : Int) : Keeps (Carries Underway) (do setSocket (-1); pure (.inr rc) : M (SessionState ⊕ Int)) :=
    (setSocket_underway (-1)).bind fun _ => keeps_pure _
  unfold connectedRound
  refine (carries_triple ctrlCRequested_underway).bind fun ctrlC => triple_same.bind fun control => ?_
  refine triple_ite (fun _ => carries_triple (ends 0)) fun _ => ?_
  refine (carries_triple (log_underway (by simp [Obs.kind]) (by simp [Obs.kind]))).bind fun _ => ?_
  refine (carries_triple (acts_underway (by decide) (by decide) (netWaitMany_keeps _ _))).bind fun result => ?_
  refine Triple.bind (carries_triple (keeps_when (rexxProcess_underway.bind fun _ => processReload_underway))) fun _ => ?_
  refine triple_ite (fun _ => ?_) fun _ => carries_triple ?_
  · -- the Ctrl-C is logged before it sets the flag
    refine Triple.bind (Q := fun _ w => Underway w ∧ StopSeen w.trace)
      (triple_modify fun w hw => ⟨?_, stopSeen_last rfl⟩) fun _ => ?_
    · exact hw.snoc (fun _ => stopSeen_last rfl) rfl rfl (by simp [Obs.kind]) (by simp [Obs.kind])
    refine Triple.bind (Q := fun _ => Underway) (triple_modify fun w hw => ?_) fun _ => carries_triple (ends 0)
    exact ⟨fun _ => hw.2, hw.1.law, hw.1.current⟩
  refine (keeps_read _).bind fun control => keeps_ite (ends 0) (keeps_ite (ends (-1)) (keeps_ite (keeps_pure _) ?_))
  refine (acts_underway (by decide) (by decide) (netRecv_keeps _ _)).bind fun received => ?_
  split
  · exact ends (-1)
  · exact ends (-1)
  · exact (sessionFeed_underway _ _ _ _).bind fun s => keeps_pure _

theorem runConnectedSession_underway (botai : BotAi) (sock : Int) :
    Triple Underway (runConnectedSession botai sock) (fun _ => Underway) Underway := by
  refine (carries_triple (setSocket_underway sock)).bind fun _ => triple_same.bind fun control => ?_
  refine (carries_triple (log_underway (by simp [Obs.kind]) (by simp [Obs.kind]))).bind fun _ => ?_
  refine Triple.bind (carries_triple (control_underway fun _ => rfl)) fun _ => triple_same.bind fun config => ?_
  refine (carries_triple (acts_underway (by decide) (by decide) (ircSendRegistration_keeps _ _ _ _))).bind fun rc => ?_
  refine triple_ite (fun _ => carries_triple ((setSocket_underway _).bind fun _ => keeps_pure _)) fun _ => ?_
  refine (carries_triple (acts_underway (by decide) (by decide) (sendJoins_keeps _ _))).bind fun _ => ?_
  refine triple_same.bind fun fuel => triple_loop (I := fun _ => Underway) fuel (fun s => ?_) (fun _ _ => id) _
  refine (connectedRound_underway botai sock s).post fun r w hw => ?_
  cases r with
  | inl s => exact hw
  | inr rc => exact hw

/-- A session that has come to its end, and why. -/
def Asked (w : World) : Prop := Underway w ∧ StopSeen w.trace

theorem reconnectLater_underway (backoff : Nat) :
    Triple Underway (reconnectLater backoff) (Next (fun _ => Underway) fun _ => Asked) Underway := by
  refine triple_same.bind fun control => triple_ite (fun _ => ?_) fun _ => triple_pure fun _ => id
  exact (carries_triple (reconnectDelayFrom_underway _ _)).bind fun _ => triple_pure fun _ => id

theorem disconnectReason_underway (rc : Int) : Keeps (Carries Underway) (disconnectReason rc) :=
  acts_underway (by decide) (by decide) (disconnectReason_keeps rc)

theorem serveConnection_underway (botai : BotAi) (sock : Int) :
    Triple Underway (serveConnection botai sock) (Next (fun _ => Underway) fun _ => Asked) Underway := by
  have hlifecycle (type : EventType) (reason : Bytes) : Keeps (Carries Underway) (emitLifecycle type reason) :=
    acts_underway (by decide) (by decide) (emitLifecycle_keeps _ _)
  refine (carries_triple (setSocket_underway sock)).bind fun _ => (carries_triple (hlifecycle _ _)).bind fun _ => ?_
  refine (runConnectedSession_underway botai sock).bind fun rc => ?_
  refine (carries_triple (acts_underway (by decide) (by decide) (netCloseSocket_keeps sock))).bind fun _ => ?_
  refine (carries_triple (setSocket_underway (-1))).bind fun _ => ?_
  refine (carries_triple (disconnectReason_underway rc)).bind fun reason => (carries_triple (hlifecycle _ _)).bind fun _ => ?_
  refine stopped_asked (fun _ hw => hw.quitTraced) ctrlCRequested_underway (fun _ => id)
    (fun control => triple_pure fun _ => id) fun _ => ?_
  refine triple_same.bind fun control => triple_ite (fun _ => ?_) fun _ => ?_
  · exact Triple.bind (carries_triple (control_underway fun _ => rfl)) fun _ => triple_pure fun _ => id
  · exact Triple.bind (carries_triple (control_underway fun _ => rfl)) fun _ => reconnectLater_underway 1

theorem sessionRound_underway (botai : BotAi) (backoff : Nat) :
    Triple Underway (sessionRound botai backoff) (Next (fun _ => Underway) fun _ => Asked) Underway := by
  refine asked_test (fun _ hw => hw.quitTraced) ctrlCRequested_underway (fun _ => id)
    (fun control => triple_pure fun _ => id) fun control => ?_
  refine (carries_triple rexxProcess_underway).bind fun _ => (carries_triple processReload_underway).bind fun _ => ?_
  refine triple_same.bind fun control => triple_ite (fun _ => ?_) fun _ => ?_
  · refine (carries_triple (acts_underway (by decide) (by decide) (delay_keeps 5))).bind fun _ => triple_pure fun _ => id
  refine Triple.bind (Q := fun config w => Underway w ∧ config = w.config)
    (triple_read fun _ _ hw => ⟨hw, rfl⟩) fun config => ?_
  refine Triple.bind (Q := fun _ => Underway) (triple_modify fun w hw => ?_) fun _ => ?_
  · obtain ⟨hserving, rfl⟩ := hw
    refine ⟨fun hquit => (hserving.quitTraced hquit).append _, lawful_snoc.2 ⟨hserving.law, ?_⟩, ?_⟩
    · rintro n ⟨⟩ n' hn'
      exact (hserving.current n' hn').symm
    · simp [dialled, World.log]
  refine (carries_triple (acts_underway (by decide) (by decide) (netConnectIpv4_keeps _ _))).bind fun sock => ?_
  exact triple_ite (fun _ => serveConnection_underway botai sock) fun _ => reconnectLater_underway backoff

/-- The single-network loop ends for nothing but a QUIT or a Ctrl-C. -/
theorem runSingleNetwork_asked (botai : BotAi) : Triple Underway (runSingleNetwork botai) (fun _ => Asked) Underway := by
  refine triple_same.bind fun fuel => ?_
  refine (triple_loop (I := fun _ => Underway) fuel (sessionRound_underway botai) (fun _ _ => id) 1).bind fun rc => ?_
  refine Triple.bind (Q := fun _ => Asked) (triple_modify fun w hw => ?_) fun _ => triple_pure fun _ => id
  exact ⟨⟨hw.1.quitTraced, hw.1.law, hw.1.current⟩, hw.2⟩

end AmBot
