import AmBot.Descriptors
import AmBot.Endings
/-!
# A RELOAD that fails

Where the configuration file cannot be opened, `ambot_config_load` leaves the
configuration as it is. The single-network loop and the wait before a rebuild
go on with it; a run that a RELOAD has stopped, and the wait with no network
left, end the session instead.
-/

namespace AmBot

open RunLib RunLib.Prog

/-- The configuration file could not be opened. -/
def Obs.failedLoad : Obs → Bool
  | .load _ found => !found
  | _ => false

/-- Whether the last load found its file. -/
def lastLoad (t : List Obs) : Option Bool :=
  t.foldl (fun last o => match o with
    | .load _ found => some found
    | _ => last) none

/-- The networks of the last run, unless a file has been loaded since. -/
def served (t : List Obs) : Option (List NetworkConfig) :=
  t.foldl (fun last o => match o with
    | .opened slots _ => some (slots.map (·.runtime.config))
    | .load _ true => none
    | _ => last) none

/-- The code is about to leave the run for a RELOAD, or to wait with no network
left: a load that fails from here on ends the session. -/
def Obs.dooms : Obs → Bool
  | .woken result _ control => result.rexx && control.reloadRequested
  | .iteration _ active retrying _ => active = 0 && retrying = 0
  | _ => false

/-- A run serves the networks of the last one, unless a file has been loaded
in between. -/
def SameNetworks (before : List Obs) (o : Obs) : Prop :=
  ∀ slots control, o = .opened slots control → ∀ items ∈ served before, slots.map (·.runtime.config) = items

/-- A load that fails changes nothing, and the session goes on with what it
served: after one it returns only where somebody has asked it to stop, the next
run has the networks of the last, and the single-network loop its profile. -/
structure InService (env : Env) (run : Except Halt Int × World) : Prop where
  unchanged : ∀ path w, env.file w.tick = none → (loadConfig path env w).2.config = w.config
  stays : ∀ rc, run.1 = .ok rc → lastLoad run.2.trace = some false → StopSeen run.2.trace
  networks : Lawful SameNetworks run.2.trace
  profile : Lawful SameProfile run.2.trace

/-- No load fails past a mark that dooms it, before the next run, unless the bot
has been asked to stop. -/
def Survives (before : List Obs) (o : Obs) : Prop :=
  o.failedLoad = true → Owed (·.dooms) (·.kind = .rebuild) before → StopSeen before

/-! ## One more entry -/

/-- The entries the assertions of this module look at. -/
abbrev reloadMarks : List Kind := [.load, .rebuild, .opened, .iteration, .woken]

section
variable {t : List Obs} {o : Obs}

theorem lastLoad_snoc (ho : o.kind ≠ .load) : lastLoad (t ++ [o]) = lastLoad t := by
  cases o <;> first | exact absurd rfl ho | simp [lastLoad]

theorem served_snoc (ho : o.kind ≠ .opened) (hload : o.kind ≠ .load) : served (t ++ [o]) = served t := by
  cases o <;> first | exact absurd rfl ho | exact absurd rfl hload | simp [served]

theorem sameNetworks_of_kind (ho : o.kind ≠ .opened) : SameNetworks t o := by
  rintro slots control rfl
  exact absurd rfl ho

theorem not_dooms (hiteration : o.kind ≠ .iteration) (hwoken : o.kind ≠ .woken) : o.dooms = false := by
  cases o <;> first | rfl | exact absurd rfl hiteration | exact absurd rfl hwoken

theorem not_failedLoad (ho : o.kind ≠ .load) : o.failedLoad = false := by
  cases o <;> first | rfl | exact absurd rfl ho

theorem owed_same (hdooms : o.dooms = false) (hrebuild : o.kind ≠ .rebuild) :
    Owed (·.dooms) (·.kind = .rebuild) (t ++ [o]) ↔ Owed (·.dooms) (·.kind = .rebuild) t := by
  simp [owed_snoc, hdooms, hrebuild]

end

/-- What is kept at all times: the networks of the last run are those of the
configuration, and no load has failed past a mark that dooms it. -/
structure Served (config : Config) (t : List Obs) : Prop where
  networks : Lawful SameNetworks t
  current : ∀ items ∈ served t, items = (networksFromConfig config).2.items
  kept : Until (·.dooms) (·.kind = .rebuild) (·.failedLoad) t

/-- The invariant of the rounds of `run_m7_networks`: the configuration after a
load that failed is one that has been served. -/
structure Resumable (config : Config) (t : List Obs) : Prop extends Served config t where
  valid : lastLoad t = some false → (networksFromConfig config).1 = 0
  active : lastLoad t = some false → config.path ≠ []

/-- The invariant within a run; `doomed` says whether a load may fail. -/
structure Running (doomed : Bool) (config : Config) (t : List Obs) : Prop extends Served config t where
  valid : (networksFromConfig config).1 = 0
  active : lastLoad t = some false → config.path ≠ []
  owed : Owed (·.dooms) (·.kind = .rebuild) t ↔ doomed = true

section
variable {config : Config} {t : List Obs} {o : Obs} {doomed : Bool}

theorem Served.snoc (h : Served config t) (ho : o.kind ≠ .opened) (hload : o.kind ≠ .load) : Served config (t ++ [o]) := by
  refine ⟨lawful_snoc.2 ⟨h.networks, sameNetworks_of_kind ho⟩, ?_, until_snoc.2 ⟨h.kept, ?_⟩⟩
  · rw [served_snoc ho hload]
    exact h.current
  · simp [not_failedLoad hload]

theorem Resumable.snoc (h : Resumable config t) (ho : o.kind ≠ .opened) (hload : o.kind ≠ .load) :
    Resumable config (t ++ [o]) := by
  obtain ⟨hserved, hvalid, hactive⟩ := h
  refine ⟨hserved.snoc ho hload, ?_, ?_⟩
  · rwa [lastLoad_snoc hload]
  · rwa [lastLoad_snoc hload]

theorem Running.snoc (h : Running doomed config t) (ho : o.kind ∉ reloadMarks) : Running doomed config (t ++ [o]) := by
  simp only [List.mem_cons, List.not_mem_nil, or_false, not_or] at ho
  obtain ⟨hload, hrebuild, hopened, hiteration, hwoken⟩ := ho
  refine ⟨h.toServed.snoc hopened hload, h.valid, ?_, ?_⟩
  · rw [lastLoad_snoc hload]
    exact h.active
  · rw [owed_same (not_dooms hiteration hwoken) hrebuild]
    exact h.owed

theorem Running.resumable (h : Running doomed config t) : Resumable config t :=
  ⟨h.toServed, fun _ => h.valid, h.active⟩

end

/-! ## Triples -/

/-- An assertion of the configuration and the trace. -/
def At (I : Config → List Obs → Prop) (w : World) : Prop := I w.config w.trace

/-- A load has failed past a mark that dooms it, and nothing has come after it. -/
structure Doomed (t : List Obs) : Prop where
  networks : Lawful SameNetworks t
  lost : ∃ before path, t = before ++ [.load path false] ∧ Until (·.dooms) (·.kind = .rebuild) (·.failedLoad) before ∧
    Owed (·.dooms) (·.kind = .rebuild) before

/-- The session ends right after a load that failed only where one has failed
past a mark that dooms it, or with 0. -/
structure Verdict (rc : Int) (w : World) : Prop where
  networks : Lawful SameNetworks w.trace
  ends : (Until (·.dooms) (·.kind = .rebuild) (·.failedLoad) w.trace ∧ (rc ≠ 0 → lastLoad w.trace ≠ some false)) ∨
    Doomed w.trace

section
variable {α : Type} {S : List Kind} {I : Config → List Obs → Prop} {doomed : Bool}

theorem at_moves {m : M α} (hI : ∀ config t o, o.kind ∈ S → I config t → I config (t ++ [o]))
    (hserved : ∀ config t, I config t → Served config t) (h : Keeps (Moves S) m) :
    Triple (At I) m (fun _ => At I) (At Served) := by
  have grow (config : Config) (t : List Obs) (ht : I config t) (u : List Obs) (hu : ∀ o ∈ u, o.kind ∈ S) :
      I config (t ++ u) := by
    induction u using List.reverseRecOn with
    | nil => simpa using ht
    | append_singleton u o ih =>
      rw [← List.append_assoc]
      exact hI config _ o (hu o (by simp)) (ih fun o' ho' => hu o' (by simp [ho']))
  have hkept : Triple (At I) m (fun _ => At I) (At I) := by
    refine Keeps.triple h fun w w' hw hmoves => ?_
    obtain ⟨hconfig, u, hu, hkinds⟩ := hmoves
    rw [At, hconfig, hu]
    exact grow _ _ hw u hkinds
  exact hkept.conseq (fun _ => id) (fun _ _ => id) fun w hw => hserved _ _ hw

theorem running_moves {m : M α} (hS : ∀ k ∈ S, k ∉ reloadMarks) (h : Keeps (Moves S) m) :
    Triple (At (Running doomed)) m (fun _ => At (Running doomed)) (At Served) :=
  at_moves (fun _ _ _ ho ht => ht.snoc (hS _ ho)) (fun _ _ ht => ht.toServed) h

theorem resumable_moves {m : M α} (hS : ∀ k ∈ S, k ∉ reloadMarks) (h : Keeps (Moves S) m) :
    Triple (At Resumable) m (fun _ => At Resumable) (At Served) := by
  refine at_moves (fun _ _ o ho ht => ht.snoc ?_ ?_) (fun _ _ ht => ht.toServed) h
  · exact fun hk => hS _ ho (hk ▸ by simp)
  · exact fun hk => hS _ ho (hk ▸ by simp)

theorem Running.verdict {w : World} (h : At (Running doomed) w) : Verdict 0 w :=
  ⟨h.networks, .inl ⟨h.kept, fun hrc => absurd rfl hrc⟩⟩

theorem Resumable.verdict {w : World} (h : At Resumable w) {rc : Int} (hrc : rc ≠ 0 → lastLoad w.trace ≠ some false) :
    Verdict rc w := ⟨h.networks, .inl ⟨h.kept, hrc⟩⟩

theorem Doomed.verdict {w : World} (h : Doomed w.trace) (rc : Int) : Verdict rc w := ⟨h.networks, .inr h⟩

end

/-! ## Reading the file -/

theorem loadConfig_unchanged {env : Env} {w : World} (h : env.file w.tick = none) (path : Bytes) :
    (loadConfig path env w).2.config = w.config := by
  rw [loadConfig_run, h]
  exact configLoad_none _ _

theorem lastLoad_load (t : List Obs) (path : Bytes) (found : Bool) : lastLoad (t ++ [.load path found]) = some found := by
  simp [lastLoad]

/-- A load that finds its file starts afresh. -/
theorem Served.load {config config' : Config} {t : List Obs} (h : Served config t) (path : Bytes) :
    Resumable config' (t ++ [.load path true]) := by
  refine ⟨⟨lawful_snoc.2 ⟨h.networks, sameNetworks_of_kind nofun⟩, ?_, until_snoc.2 ⟨h.kept, nofun⟩⟩, ?_, ?_⟩
  · simp [served]
  · simp [lastLoad_load]
  · simp [lastLoad_load]

/-- One that does not ends the session where it is doomed. -/
theorem Running.fail {doomed : Bool} {config : Config} {t : List Obs} (h : Running doomed config t)
    (hpath : config.path ≠ []) (path : Bytes) :
    if doomed then Doomed (t ++ [.load path false]) else Resumable config (t ++ [.load path false]) := by
  have hnetworks : Lawful SameNetworks (t ++ [.load path false]) :=
    lawful_snoc.2 ⟨h.networks, sameNetworks_of_kind nofun⟩
  cases doomed with
  | true =>
    exact ⟨hnetworks, t, path, rfl, h.kept, h.owed.2 rfl⟩
  | false =>
    refine ⟨⟨hnetworks, ?_, until_snoc.2 ⟨h.kept, fun _ howed => ?_⟩⟩, fun _ => h.valid, fun _ => hpath⟩
    · simpa [served] using h.current
    · exact absurd (h.owed.1 howed) Bool.false_ne_true

/-- After a load in a run, or where none was asked for. -/
def Reread (doomed : Bool) (rc : Int) (w : World) : Prop :=
  if rc = 0 then At Resumable w else if doomed then Doomed w.trace else At Resumable w

theorem loadConfig_running {doomed : Bool} (path : Bytes) :
    Triple (fun w => At (Running doomed) w ∧ w.config.path ≠ []) (loadConfig path) (Reread doomed) (At Served) := by
  intro env w hw
  obtain ⟨hrunning, hpath⟩ := hw
  rw [loadConfig_run]
  dsimp only [Reread]
  by_cases hrc : (configLoad w.config path (env.file w.tick)).1 = 0
  · simp only [hrc, decide_true, if_true]
    exact hrunning.toServed.load path
  · have hnone : env.file w.tick = none := by
      cases hfile : env.file w.tick with
      | none => rfl
      | some text =>
        rw [hfile] at hrc
        refine absurd ?_ hrc
        unfold configLoad
        split
        · rfl
        · rfl
    rw [if_neg hrc]
    simp only [hrc, decide_false]
    rw [hnone, configLoad_none]
    exact hrunning.fail hpath path

theorem getConfig_running {doomed : Bool} :
    Triple (At (Running doomed)) getConfig (fun config w => At (Running doomed) w ∧ config = w.config) (At Served) :=
  triple_read fun _ _ hw => ⟨hw, rfl⟩

theorem reloadRequestedConfig_running {doomed : Bool} :
    Triple (At (Running doomed)) reloadRequestedConfig (Reread doomed) (At Served) := by
  unfold reloadRequestedConfig
  refine triple_same.bind fun control => getConfig_running.bind fun config => triple_ite (fun hreload => ?_) fun _ => ?_
  · have hpath : config.path ≠ [] := by simpa using (Bool.and_eq_true_iff.1 hreload).2
    refine Triple.bind (Q := fun _ w => At (Running doomed) w ∧ w.config.path ≠ []) (triple_modify fun w hw => ?_) fun _ =>
      loadConfig_running config.path
    obtain ⟨hrunning, rfl⟩ := hw
    exact ⟨hrunning, hpath⟩
  · refine triple_pure fun w hw => ?_
    rw [Reread, if_pos rfl]
    exact hw.1.resumable

/-! ## A run -/

/-- The networks that are opened are those of the configuration. -/
theorem Running.opened {config : Config} {t : List Obs} (h : Running false config t) {slots : List Slot}
    (hslots : slots.map (·.runtime.config) = (networksFromConfig config).2.items) (control : Control) :
    Running false config (t ++ [.opened slots control]) := by
  refine ⟨⟨lawful_snoc.2 ⟨h.networks, ?_⟩, ?_, until_snoc.2 ⟨h.kept, nofun⟩⟩, h.valid, ?_, ?_⟩
  · rintro slots' control' heq items hitems
    cases heq
    rw [hslots, h.current items hitems]
  · simpa [served] using hslots
  · rw [lastLoad_snoc (by simp [Obs.kind])]
    exact h.active
  · rw [owed_same rfl (by simp [Obs.kind])]
    exact h.owed

/-- The invariant while the networks of a run are opened. -/
abbrev Opening (networks : Networks) (config : Config) (t : List Obs) : Prop :=
  Running false config t ∧ (networksFromConfig config).2 = networks

theorem startNetwork_opening (networks : Networks) (i : Nat) (c : Counters) (config : NetworkConfig) :
    Triple (At (Opening networks)) (startNetwork i c config)
      (fun r w => r.2.runtime.config = config ∧ At (Opening networks) w) (At Served) := by
  have hserving : ∀ k ∈ serving, k ∉ reloadMarks := by decide
  have hmoves : Triple (At (Opening networks)) (startNetwork i c config) (fun _ => At (Opening networks)) (At Served) :=
    at_moves (fun _ _ _ ho ht => ⟨ht.1.snoc (hserving _ ho), ht.2⟩) (fun _ _ ht => ht.1.toServed)
      (startNetwork_moves i c config)
  exact hmoves.returns (startNetwork_config i c config)

theorem multinetStart_running (networks : Networks) :
    Triple (At (Opening networks)) (multinetStart networks) (fun _ => At (Running false)) (At Served) := by
  unfold multinetStart
  have hsweep : Triple (At (Opening networks)) (sweep startNetwork 0 { active := 0, retrying := 0 } networks.items)
      (fun r w => r.2.map (·.runtime.config) = networks.items ∧ At (Opening networks) w) (At Served) := by
    refine ((triple_sweep (I := fun done _ rest w => done.map (·.runtime.config) ++ rest = networks.items ∧
      At (Opening networks) w) (fun done c config rest => triple_fact fun hitems => ?_) _ _).pre fun w hw => ?_).post
      fun r w hw => ?_
    · refine (startNetwork_opening networks done.length c config).post fun r w hw => ⟨?_, hw.2⟩
      rw [List.map_append, List.map_singleton, hw.1, List.append_assoc]
      exact hitems
    · exact ⟨rfl, hw⟩
    · simpa using hw
  refine hsweep.bind fun r => ?_
  obtain ⟨counters, slots⟩ := r
  refine triple_same.bind fun control => ?_
  refine Triple.bind (Q := fun _ => At (Running false)) (triple_modify fun w hw => ?_) fun _ => ?_
  · obtain ⟨hslots, hrunning, hnetworks⟩ := hw
    exact hrunning.opened (hslots.trans (congrArg Networks.items hnetworks.symm)) control
  refine Triple.bind (running_moves (S := []) (by simp) (keeps_when (modifyControl_moves _))) fun _ => ?_
  exact triple_pure fun _ => id

/-- A load that fails after the run ends the session. -/
def MultinetResult.doomed : MultinetResult → Bool
  | .reload | .noRetryableNetworks => true
  | .stop | .reconnect => false

theorem multinetStop_running (s : MultinetState) :
    Triple (At (Running false)) (multinetStop s) (fun result => At (Running result.doomed)) (At Served) := by
  have hstop : Returns (multinetStop s) fun result => result = .stop :=
    returns_bind fun _ => returns_bind fun _ => returns_pure rfl
  refine ((running_moves (by decide) (multinetStop_moves s)).returns hstop).post fun result w hw => ?_
  obtain ⟨rfl, hrunning⟩ := hw
  exact hrunning

/-- A mark in the main loop says what is to come of a load. -/
theorem Running.mark {w : World} (h : At (Running false) w) (o : Obs) (ho : o.kind = .iteration ∨ o.kind = .woken) :
    At (Running o.dooms) (w.log o) := by
  have hopened : o.kind ≠ .opened := by rcases ho with ho | ho <;> simp [ho]
  have hload : o.kind ≠ .load := by rcases ho with ho | ho <;> simp [ho]
  have hrebuild : o.kind ≠ .rebuild := by rcases ho with ho | ho <;> simp [ho]
  refine ⟨h.toServed.snoc hopened hload, h.valid, fun hlast => h.active ?_, ?_⟩
  · exact (lastLoad_snoc hload).symm.trans hlast
  · refine owed_snoc.trans ?_
    simp [hrebuild, h.owed]

theorem multinetRound_running (botai : BotAi) (s : MultinetState) :
    Triple (At (Running false)) (multinetRound botai s)
      (Next (fun _ => At (Running false)) fun result => At (Running result.doomed)) (At Served) := by
  unfold multinetRound
  refine triple_same.bind fun control => triple_ite (fun _ => ?_) fun _ => ?_
  · exact (multinetStop_running s).bind fun result => triple_pure fun _ => id
  refine Triple.bind (Q := fun _ => At (Running (s.counters.active = 0 && s.counters.retrying = 0)))
    (triple_modify fun w hw => Running.mark hw (.iteration ..) (.inl rfl)) fun _ => ?_
  refine triple_ite (fun hidle => ?_) fun hbusy => ?_
  · rw [hidle.1, hidle.2]
    exact triple_pure fun _ => id
  have hgoes : (decide (s.counters.active = 0) && decide (s.counters.retrying = 0)) = false := by
    rw [← Bool.decide_and]
    exact decide_eq_false hbusy
  rw [hgoes]
  refine (running_moves (S := [.wait]) (by decide) (moves (by decide) (netWaitMany_keeps _ _))).bind fun result => ?_
  refine Triple.bind (running_moves (S := [.send, .rexx]) (by decide) (keeps_when (moves (by decide) rexxProcess_keeps)))
    fun _ => triple_same.bind fun control => ?_
  refine Triple.bind (Q := fun _ => At (Running (result.rexx && control.reloadRequested)))
    (triple_modify fun w hw => Running.mark hw (.woken ..) (.inr rfl)) fun _ => ?_
  refine triple_ite (fun hreload => ?_) fun hstays => ?_
  · rw [hreload]
    exact triple_pure fun _ => id
  rw [Bool.eq_false_of_not_eq_true hstays]
  refine triple_ite (fun _ => ?_) fun _ => triple_ite (fun _ => triple_pure fun _ => id) fun _ => ?_
  · refine Triple.bind (running_moves (S := [.ctrlC]) (by decide)
      (moves (List.Subset.refl _) (keeps_log (by simp [Obs.kind])))) fun _ => ?_
    refine Triple.bind (running_moves (S := []) (by simp) (modifyControl_moves _)) fun _ => ?_
    exact (multinetStop_running s).bind fun result => triple_pure fun _ => id
  · refine (running_moves (by decide) (multinetServe_kinds botai result.ready s)).bind fun s' => ?_
    exact triple_pure fun _ => id

theorem multinetRun_running (networks : Networks) (botai : BotAi) :
    Triple (At (Opening networks)) (multinetRun networks botai) (fun result => At (Running result.doomed)) (At Served) := by
  refine (multinetStart_running networks).bind fun s => triple_same.bind fun fuel => ?_
  exact triple_loop (I := fun _ => At (Running false)) fuel (multinetRound_running botai) (fun _ _ hw => hw.toServed) s

/-! ## The session -/

theorem afterMultinet_resumable (result : MultinetResult) :
    Triple (At (Running result.doomed)) (afterMultinet result) (Next (fun _ => At Resumable) Verdict) (At Served) := by
  have reread (rc : Int) (h : result.doomed = true) : Triple (Reread result.doomed rc)
      (pure (if rc ≠ 0 then .inr 10 else .inl ()) : M (Unit ⊕ Int)) (Next (fun _ => At Resumable) Verdict) (At Served) := by
    refine triple_pure fun w hw => ?_
    rw [Reread, h] at hw
    by_cases hrc : rc = 0
    · rw [if_pos hrc] at hw
      rw [if_neg (not_not.2 hrc)]
      exact hw
    · rw [if_neg hrc] at hw
      rw [if_pos hrc]
      exact hw.verdict 10
  unfold afterMultinet
  refine triple_same.bind fun control => ?_
  refine Triple.bind (running_moves (S := [.ctrlC]) (by decide)
    (keeps_ite (keeps_pure _) (moves (by decide) ctrlCRequested_keeps))) fun stopped => ?_
  refine triple_ite (fun _ => triple_pure fun _ hw => Running.verdict hw) fun _ => ?_
  refine triple_ite (fun hr => ?_) fun _ => ?_
  · -- a RELOAD has stopped the run
    refine Triple.bind (running_moves (S := []) (by simp) (modifyControl_moves _)) fun _ => ?_
    refine getConfig_running.bind fun config => triple_ite (fun hnil => triple_pure fun w hw => ?_) fun hpath => ?_
    · refine Resumable.verdict hw.1.resumable fun _ hlast => hw.1.active hlast ?_
      rw [← hw.2, hnil]
    · refine ((loadConfig_running config.path).pre fun w (hw : At (Running result.doomed) w ∧ config = w.config) =>
        ⟨hw.1, hw.2 ▸ hpath⟩).bind fun rc => reread rc ?_
      rw [hr]
      rfl
  refine triple_ite (fun _ => ?_) fun _ => triple_ite (fun hr => ?_) fun _ => triple_ite (fun hr => ?_) fun _ => ?_
  · refine Triple.bind (running_moves (S := []) (by simp) (modifyControl_moves _)) fun _ => ?_
    refine (running_moves (S := waiting) (by decide) (moves (by decide) (waitForConnect_keeps false))).bind fun _ => ?_
    exact triple_pure fun _ hw => hw.resumable
  · -- no network is left
    refine Triple.bind (running_moves (S := []) (by simp) (modifyControl_moves _)) fun _ => ?_
    refine (running_moves (S := waiting) (by decide) (moves (by decide) (waitForConnect_keeps true))).bind fun _ => ?_
    refine reloadRequestedConfig_running.bind fun rc => reread rc ?_
    rw [hr]
    rfl
  · refine (running_moves (S := waiting) (by decide) (moves (by decide) (waitToRebuild_keeps 50))).bind fun _ => ?_
    refine reloadRequestedConfig_running.bind fun rc => triple_pure fun w hw => ?_
    rw [Reread, hr] at hw
    split at hw
    · exact hw
    · exact hw
  · exact triple_pure fun _ hw => Running.verdict hw

/-- A run starts with no load doomed. -/
theorem Resumable.rebuild {config : Config} {t : List Obs} (h : Resumable config t)
    (hvalid : (networksFromConfig config).1 = 0) (control : Control) : Running false config (t ++ [.rebuild control]) := by
  refine ⟨h.toServed.snoc nofun nofun, hvalid, fun hlast => h.active ?_, ?_⟩
  · exact (lastLoad_snoc (by simp [Obs.kind])).symm.trans hlast
  · refine owed_snoc.trans ?_
    simp [Obs.dooms, Obs.kind]

theorem m7Round_resumable (botai : BotAi) (s : Unit) :
    Triple (At Resumable) (m7Round botai s) (Next (fun _ => At Resumable) Verdict) (At Served) := by
  unfold m7Round
  refine (resumable_moves (S := [.ctrlC]) (by decide) (moves (by decide) ctrlCRequested_keeps)).bind fun ctrlC => ?_
  refine triple_same.bind fun control => ?_
  refine triple_ite (fun _ => triple_pure fun _ hw => Resumable.verdict hw fun hrc => absurd rfl hrc) fun _ => ?_
  refine Triple.bind (Q := fun config w => At Resumable w ∧ config = w.config)
    (triple_read fun _ _ hw => ⟨hw, rfl⟩) fun config => ?_
  refine triple_ite (fun hinvalid => triple_pure fun w hw => ?_) fun hvalid => ?_
  · refine Resumable.verdict hw.1 fun _ hlast => hinvalid ?_
    rw [hw.2]
    exact hw.1.valid hlast
  refine Triple.bind (Q := fun _ => At (Opening (networksFromConfig config).2)) (triple_modify fun w hw => ?_) fun _ => ?_
  · obtain ⟨hresumable, rfl⟩ := hw
    exact ⟨hresumable.rebuild (not_not.1 hvalid) control, rfl⟩
  refine Triple.bind (Q := fun _ => At (Opening (networksFromConfig config).2)) (triple_modify fun _ hw => hw) fun _ => ?_
  exact (multinetRun_running _ botai).bind fun result => afterMultinet_resumable result

theorem runM7Networks_verdict (botai : BotAi) : Triple (At Resumable) (runM7Networks botai) Verdict (At Served) := by
  refine triple_same.bind fun fuel => ?_
  exact triple_loop (I := fun _ => At Resumable) fuel (m7Round_resumable botai) (fun _ _ hw => hw.toServed) ()

/-! ## One network -/

/-- The kinds the single-network loop logs. -/
abbrev singleKinds : List Kind := lone ++ [.dial, .join]

theorem runSingleNetwork_adds (botai : BotAi) : Keeps (Along (Adds (·.kind ∈ singleKinds))) (runSingleNetwork botai) := by
  have hlone : ∀ t o, o.kind ∈ lone → Adds (·.kind ∈ singleKinds) t (t ++ [o]) :=
    fun t o ho => adds_one (List.mem_append_left _ ho)
  have hjoins (sock : Int) (channels : List Bytes) : Keeps (Along (Adds (·.kind ∈ singleKinds))) (sendJoins sock channels) :=
    acts_along (fun t o ho => adds_one ((by decide : [.send, .join] ⊆ singleKinds) ho)) (sendJoins_keeps sock channels)
  refine runSingleNetwork_along hlone botai fun config backoff => ?_
  refine Keeps.bind (fun _ _ => adds_one (by simp [Obs.kind])) fun _ => ?_
  refine (plain_along hlone (by decide) (netConnectIpv4_keeps _ _)).bind fun sock => ?_
  exact keeps_ite (serveConnection_along hlone hjoins botai sock) (reconnectLater_along hlone backoff)

/-- Where no run of several networks is, no load is doomed. -/
theorem single_kept {t : List Obs} (h : ∀ o ∈ t, o.kind ∈ singleKinds) :
    Lawful SameNetworks t ∧ Until (·.dooms) (·.kind = .rebuild) (·.failedLoad) t := by
  have hother : ∀ o ∈ t, o.kind ∉ [.opened, .iteration, .woken] := by
    intro o ho hmark
    have hdisjoint : ∀ k ∈ singleKinds, k ∉ [Kind.opened, .iteration, .woken] := by decide
    exact hdisjoint _ (h o ho) hmark
  constructor
  · rintro before o after rfl
    exact sameNetworks_of_kind fun hk => hother o (by simp) (hk ▸ by simp)
  · rintro before o after rfl - ⟨before', mark, after', rfl, hdooms, -⟩
    have hmark := hother mark (by simp)
    rw [not_dooms (fun hk => hmark (hk ▸ by simp)) (fun hk => hmark (hk ▸ by simp))] at hdooms
    cases hdooms

theorem lawful_survives {t : List Obs} (h : Until (·.dooms) (·.kind = .rebuild) (·.failedLoad) t) : Lawful Survives t :=
  fun before o after ht hfailed howed => absurd howed (h before o after ht hfailed)

/-! ## Both modes -/

/-- What holds of every session, also halfway. -/
structure Steady (w : World) : Prop where
  networks : Lawful SameNetworks w.trace
  profile : Lawful SameProfile w.trace

/-- What a session says where it stops halfway. -/
def Unended (w : World) : Prop := Steady w ∧ Lawful Survives w.trace

/-- And where it returns. -/
def Concluded (w : World) : Prop :=
  Steady w ∧ ((lastLoad w.trace = some false → StopSeen w.trace) ↔ Lawful Survives w.trace)

theorem Verdict.stays_iff {rc : Int} {w : World} (h : Verdict rc w) (hshows : rc = 0 → StopSeen w.trace) :
    (lastLoad w.trace = some false → StopSeen w.trace) ↔ Lawful Survives w.trace := by
  rcases h.ends with ⟨hkept, hrc⟩ | hdoomed
  · refine iff_of_true (fun hlast => ?_) (lawful_survives hkept)
    by_cases hzero : rc = 0
    · exact hshows hzero
    · exact absurd hlast (hrc hzero)
  · obtain ⟨before, path, htrace, hkept, howed⟩ := hdoomed.lost
    have hload : StopSeen (before ++ [.load path false]) ↔ StopSeen before := stopSeen_snoc rfl
    rw [htrace, lawful_snoc, hload]
    constructor
    · intro hstays
      exact ⟨lawful_survives hkept, fun _ _ => hstays (lastLoad_load _ _ _)⟩
    · intro hsurvives _
      exact hsurvives.2 rfl howed

theorem runSingleNetwork_ends (botai : BotAi) :
    Triple (fun w => w.trace = [] ∧ Underway w) (runSingleNetwork botai) (fun _ => Concluded) Unended := by
  rintro env w ⟨hw, hserving⟩
  obtain ⟨u, hu, hkinds⟩ := runSingleNetwork_adds botai env w
  rw [hw, List.nil_append] at hu
  obtain ⟨hnetworks, hkept⟩ := single_kept (by rwa [hu] : ∀ o ∈ (runSingleNetwork botai env w).2.trace, o.kind ∈ singleKinds)
  have hasked := runSingleNetwork_asked botai env w hserving
  rcases hr : runSingleNetwork botai env w with ⟨_ | rc, w'⟩ <;> rw [hr] at hnetworks hkept hasked
  · exact ⟨⟨hnetworks, hasked.law⟩, lawful_survives hkept⟩
  · exact ⟨⟨hnetworks, hasked.1.law⟩, iff_of_true (fun _ => hasked.2) (lawful_survives hkept)⟩

theorem runM7Networks_ends (botai : BotAi) :
    Triple (fun w => w.trace = [] ∧ QuitTraced w) (runM7Networks botai) (fun _ => Concluded) Unended := by
  rintro env w ⟨hw, htraced⟩
  have hstart : At Resumable w := by
    rw [At, hw]
    exact ⟨⟨lawful_nil, nofun, until_nil⟩, nofun, nofun⟩
  have hprofile : Lawful SameProfile (runM7Networks botai env w).2.trace := by
    obtain ⟨u, hu, hother⟩ := turns_other.runM7Networks botai env w
    rw [hu, hw, List.nil_append]
    rintro before o after rfl
    exact sameProfile_of_other (hother o (by simp))
  have hverdict := runM7Networks_verdict botai env w hstart
  have hshows := runM7Networks_shows botai env w htraced
  rcases hr : runM7Networks botai env w with ⟨_ | rc, w'⟩ <;> rw [hr] at hprofile hverdict hshows
  · exact ⟨⟨hverdict.networks, hprofile⟩, lawful_survives hverdict.kept⟩
  · exact ⟨⟨hverdict.networks, hprofile⟩, hverdict.stays_iff hshows.2⟩

theorem runNetworks_ends (botai : BotAi) :
    Triple (fun w => w.trace = [] ∧ w.control.quitRequested = false) (runNetworks botai) (fun _ => Concluded) Unended := by
  have htraced (w : World) (h : w.trace = [] ∧ w.control.quitRequested = false) : QuitTraced w := by
    intro hquit
    rw [h.2] at hquit
    cases hquit
  refine triple_same.bind fun config => triple_ite (fun _ => ?_) fun _ => ?_
  · refine Triple.bind ((runM7Networks_ends botai).pre fun w hw => ⟨hw.1, htraced w hw⟩) fun rc => ?_
    refine Triple.bind (Q := fun _ => Concluded) (triple_modify fun w hw => ?_) fun _ => triple_pure fun _ => id
    exact ⟨⟨hw.1.networks, hw.1.profile⟩, hw.2⟩
  · refine (runSingleNetwork_ends botai).pre fun w hw => ⟨hw.1, htraced w hw, ?_, ?_⟩
    · rw [hw.1]
      exact lawful_nil
    · rw [hw.1]
      exact nofun

end AmBot
