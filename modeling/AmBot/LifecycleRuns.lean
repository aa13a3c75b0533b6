import AmBot.Lifecycle
/-!
# Sessions with one connection at a time

Both loops of a session, followed along `lifeStep`. A session that builds a
table of networks is left there; every other one keeps to the machine to its
end.
-/

namespace AmBot

open RunLib RunLib.Prog

variable {t : List Obs} {α : Type} {P : Life → Prop} {c sock : Int} {o : Obs} {m : M α}

/-! ## A connected session -/

theorem loadConfig_lives (h : ∀ path opened, Admits lifeStep P (.load path opened) P) (path : Bytes) :
    LivesIn t c P (loadConfig path) := by
  refine triple_same.bind fun config => (ask_lives _).bind fun file => (log_lives (h _ _)).bind fun _ => ?_
  exact Triple.bind (triple_modify fun _ hw => ⟨hw.control, hw.life⟩) fun _ => triple_pure fun _ => id

theorem processReload_lives (h : ∀ path opened, Admits lifeStep P (.load path opened) P) :
    LivesIn t c P processReload := by
  refine triple_same.bind fun control => triple_ite (fun _ => ?_) fun _ => triple_pure fun _ => id
  refine Triple.bind (modifyControl_lives fun _ => rfl) fun _ => triple_same.bind fun config => ?_
  refine triple_ite (fun _ => triple_pure fun _ => id) fun _ => ?_
  exact (loadConfig_lives h _).bind fun _ => triple_pure fun _ => id

theorem ctrlCRequested_lives (h : Admits lifeStep P .ctrlC P) : LivesIn t c P ctrlCRequested := by
  refine quiet_lives (by decide) ctrlCRequested_keeps fun o ho => ?_
  cases o with
  | ctrlC => exact h
  | _ => simp [Obs.kind] at ho

/-- The events of the queue come from the network. -/
abbrev EventQueue.FromIrc (queue : EventQueue) : Prop := queue.All (·.type.FromIrc)

theorem eventQueueInit_fromIrc : eventQueueInit.FromIrc := eventQueueInit_all ⟨nofun, nofun⟩

theorem typeFromCommand_fromIrc (command : Bytes) : (typeFromCommand command).FromIrc := by
  unfold typeFromCommand
  split_ifs
  all_goals exact ⟨nofun, nofun⟩

theorem eventFromIrcLine_fromIrc {line : Bytes} {event : Event} (h : eventFromIrcLine line = some event) :
    event.type.FromIrc := by
  cases hsplit : splitPrefix line with
  | none =>
    rw [eventFromIrcLine_none hsplit] at h
    cases h
  | some r =>
    rw [eventFromIrcLine_split hsplit] at h
    rw [← Option.some.inj (Option.ite_none_left_eq_some.1 h).2, eventOf_type]
    exact typeFromCommand_fromIrc _

theorem sessionHandleLine_lives (bytes : Bytes) (queue : EventQueue) :
    Triple (fun w => queue.FromIrc ∧ Lives t sock (· = .online sock) w) (sessionHandleLine sock bytes queue)
      (fun r w => r.2.FromIrc ∧ Lives t sock (· = .online sock) w) (Told lifeStep .starting t) := by
  apply triple_fact
  intro hqueue
  unfold sessionHandleLine
  refine triple_ite (fun _ => ?_) fun _ => ?_
  · refine Triple.bind (Q := fun _ => Lives t sock (· = .online sock)) ?_ fun _ => triple_pure fun _ hw => ⟨hqueue, hw⟩
    exact sends_lives (fun _ _ => if_pos rfl) (sendPong_keeps _ _) (sendFormatted_talks (by simp) _)
  split
  · exact triple_pure fun _ hw => ⟨hqueue, hw⟩
  · rename_i event hevent
    exact triple_pure fun _ hw => ⟨eventQueuePush_all hqueue (eventFromIrcLine_fromIrc hevent), hw⟩

/-- The events of a queue, each from the network. -/
theorem eventDispatchPending_lives {handler : Event → M Unit}
    (h : ∀ event : Event, event.type.FromIrc → LivesIn t c P (handler event)) (n : Nat) {queue : EventQueue}
    (hqueue : queue.FromIrc) :
    Triple (Lives t c P) (eventDispatchPending handler n queue) (fun queue w => queue.FromIrc ∧ Lives t c P w)
      (Told lifeStep .starting t) := by
  induction n generalizing queue with
  | zero => exact triple_pure fun _ hw => ⟨hqueue, hw⟩
  | succ n ih =>
    unfold eventDispatchPending
    split
    · exact triple_pure fun _ hw => ⟨hqueue, hw⟩
    · rename_i event queue' hpop
      obtain ⟨hevent, hqueue'⟩ := eventQueuePop_all hqueue hpop
      exact (h event hevent).bind fun _ => ih hqueue'

theorem sessionFeed_lives (botai : BotAi) (data : Bytes) {s : SessionState} (hs : s.events.FromIrc) :
    Triple (Lives t sock (· = .online sock)) (sessionFeed botai sock data s)
      (fun s w => s.events.FromIrc ∧ Lives t sock (Attached sock) w) (Told lifeStep .starting t) := by
  unfold sessionFeed
  have hlines := framerFeed_triple (J := fun queue w => queue.FromIrc ∧ Lives t sock (· = .online sock) w)
    sessionHandleLine_lives (fun _ _ hw => hw.2.life.told) data s.framer s.events
  refine Triple.bind (hlines.pre fun _ hw => ⟨hs, hw⟩) fun r => ?_
  obtain ⟨framer, events⟩ := r
  refine triple_fact fun hevents => Triple.bind ((eventDispatchPending_lives ?_ _ hevents).pre ?_) fun queue =>
    triple_pure fun _ => id
  · intro event hevent
    exact triple_same.bind fun config => dispatchEvent_lives botai ⟨sock, config.nick, config.owner⟩ _ hevent
  · rintro w hw
    exact hw.mono fun _ => .inl

/-- A session that is registering or connected. -/
def Working (sock : Int) (life : Life) : Prop := life = .registering sock ∨ Attached sock life

theorem working_admits {life : Life} (hregistering : lifeStep (.registering sock) o = some life)
    (hattached : goesOn sock o = some life) : Admits lifeStep (Working sock) o (· = life) := by
  rintro now (rfl | hnow)
  · exact ⟨life, hregistering, rfl⟩
  · exact attached_admits hattached now hnow

theorem working_ctrlC : Admits lifeStep (Working sock) .ctrlC (Working sock) := by
  rintro now (rfl | hnow)
  · exact ⟨_, rfl, .inl rfl⟩
  · obtain ⟨_, hstep, rfl⟩ := attached_admits (o := .ctrlC) rfl now hnow
    exact ⟨_, hstep, .inr (.inl rfl)⟩

/-- A round of a connected session, which ends with no socket in the control block. -/
theorem connectedRound_lives (botai : BotAi) (s : SessionState) :
    Triple (fun w => s.events.FromIrc ∧ Lives t sock (Working sock) w) (connectedRound botai sock s)
      (Next (fun s w => s.events.FromIrc ∧ Lives t sock (Working sock) w) fun _ => Lives t (-1) (Working sock))
      (Told lifeStep .starting t) := by
  apply triple_fact
  intro hs
  have ends {P : Life → Prop} (hP : ∀ life, P life → Working sock life) (rc : Int) :
      Triple (Lives t sock P) (do setSocket (-1); pure (.inr rc) : M (SessionState ⊕ Int))
        (Next (fun s w => s.events.FromIrc ∧ Lives t sock (Working sock) w) fun _ => Lives t (-1) (Working sock))
        (Told lifeStep .starting t) :=
    (setSocket_lives (-1)).bind fun _ => triple_pure fun _ hw => hw.mono hP
  have hworking : ∀ life, life = .online sock → Working sock life := fun _ h => .inr (.inl h)
  have honline (o : Obs) (ho : onlineStep sock o = some (.online sock)) :
      Admits lifeStep (· = .online sock) o (· = .online sock) := admits_one ho
  unfold connectedRound
  refine (ctrlCRequested_lives working_ctrlC).bind fun ctrlC => triple_same.bind fun control => ?_
  refine triple_ite (fun _ => ends (fun _ => id) 0) fun _ => ?_
  refine Triple.bind (log_lives (working_admits (if_pos rfl) (if_pos rfl))) fun _ => ?_
  refine Triple.bind (Q := fun _ => Lives t sock (· = .online sock)) ?_ fun result => ?_
  · refine Triple.bind (log_lives (honline _ (if_pos rfl))) fun _ => ?_
    exact (ask_lives _).bind fun answer => silent_lives ((getBreakSignal_keeps _).bind fun _ =>
      (setBreakSignal_keeps _).bind fun _ => keeps_pure _)
  refine Triple.bind (Q := fun _ => Lives t sock (· = .online sock)) ?_ fun _ => ?_
  · refine triple_ite (fun _ => ?_) fun _ => triple_pure fun _ => id
    exact (rexxProcess_lives online_commands).bind fun _ => processReload_lives fun _ _ => honline _ rfl
  refine triple_ite (fun _ => ?_) fun _ => triple_same.bind fun control => ?_
  · refine Triple.bind (log_lives (honline _ rfl)) fun _ => ?_
    exact Triple.bind (modifyControl_lives fun _ => rfl) fun _ => ends hworking 0
  refine triple_ite (fun _ => ends hworking 0) fun _ => triple_ite (fun _ => ends hworking (-1)) fun _ => ?_
  refine triple_ite (fun _ => triple_pure fun _ hw => ⟨hs, hw.mono hworking⟩) fun _ => ?_
  refine Triple.bind (Q := fun _ => Lives t sock (· = .online sock)) ?_ fun received => ?_
  · refine (ask_lives _).bind fun data => ?_
    exact Triple.bind (log_lives (honline _ (if_pos rfl))) fun _ => triple_pure fun _ => id
  split
  · exact ends hworking (-1)
  · exact ends hworking (-1)
  · exact (sessionFeed_lives botai _ hs).bind fun s => triple_pure fun _ hw => ⟨hw.1, hw.2.mono fun _ => .inr⟩

/-- A connection that is open, and may have been greeted. -/
def Greeting (sock : Int) (life : Life) : Prop := life = .opened sock ∨ life = .greeted sock false

theorem sendJoins_lives (channels : List Bytes) : LivesIn t c (· = .registering sock) (sendJoins sock channels) := by
  refine Triple.bind (log_lives (admits_one (if_pos rfl))) fun _ => ?_
  apply triple_each (I := fun _ => Lives t c (· = .registering sock))
  intro channel _
  exact sends_lives (fun _ _ => if_pos rfl) (sendFormatted_keeps _ _) (sendFormatted_talks (by simp) _)

theorem runConnectedSession_lives (botai : BotAi) :
    Triple (Lives t c (Greeting sock)) (runConnectedSession botai sock) (fun _ => Lives t (-1) (Working sock))
      (Told lifeStep .starting t) := by
  have hregister (control : Control) : Admits lifeStep (Greeting sock) (.register control) (· = .registering sock) := by
    rintro _ (rfl | rfl)
    · exact ⟨_, rfl, rfl⟩
    · exact ⟨_, rfl, rfl⟩
  unfold runConnectedSession
  refine (setSocket_lives sock).bind fun _ => triple_same.bind fun control => ?_
  refine Triple.bind (log_lives (hregister _)) fun _ => Triple.bind (modifyControl_lives fun _ => rfl) fun _ => ?_
  refine triple_same.bind fun config => ?_
  refine Triple.bind (sends_lives (fun _ _ => if_pos rfl) (ircSendRegistration_keeps _ _ _ _)
    (ircSendRegistration_talks (by simp) _ _ _)) fun rc => triple_ite (fun _ => ?_) fun _ => ?_
  · exact (setSocket_lives (-1)).bind fun _ => triple_pure fun _ hw => hw.mono fun _ => .inl
  refine (sendJoins_lives _).bind fun _ => triple_same.bind fun fuel => ?_
  refine (triple_loop fuel (connectedRound_lives botai) (fun _ _ hw => hw.2.life.told) _).pre fun _ hw => ?_
  exact ⟨eventQueueInit_fromIrc, hw.mono fun _ => .inl⟩

/-! ## The loop -/

theorem reconnectDelayFrom_lives (n ticks : Nat) : LivesIn t (-1) Away (reconnectDelayFrom n ticks) := by
  induction n generalizing ticks with
  | zero => exact triple_pure fun _ => id
  | succ n ih =>
    refine triple_same.bind fun control => triple_ite (fun _ => triple_pure fun _ => id) fun _ => ?_
    refine (ctrlCRequested_lives (away_admits (by simp [Obs.kind]))).bind fun ctrlC => ?_
    refine triple_ite (fun _ => triple_pure fun _ => id) fun _ => (rexxProcess_lives away_commands).bind fun _ => ?_
    refine (processReload_lives fun _ _ => away_admits (by simp [Obs.kind])).bind fun _ => ?_
    refine triple_same.bind fun control => triple_ite (fun _ => triple_pure fun _ => id) fun _ => ?_
    exact Triple.bind (log_lives (away_admits (by simp [Obs.kind]))) fun _ => ih _

theorem reconnectLater_lives (backoff : Nat) : LivesIn t (-1) Away (reconnectLater backoff) := by
  refine triple_same.bind fun control => triple_ite (fun _ => ?_) fun _ => triple_pure fun _ => id
  exact (reconnectDelayFrom_lives _ _).bind fun _ => triple_pure fun _ => id

theorem stopped_lives (h : Admits lifeStep P .ctrlC P) (quit : Bool) :
    LivesIn t c P (if quit then pure true else ctrlCRequested) :=
  triple_ite (fun _ => triple_pure fun _ => id) fun _ => ctrlCRequested_lives h

theorem disconnectReason_lives (h : Admits lifeStep P .ctrlC P) (rc : Int) :
    Triple (Lives t c P) (disconnectReason rc) (fun reason w => reason ∈ endReasons ∧ Lives t c P w)
      (Told lifeStep .starting t) := by
  have told {reason : Bytes} (hreason : reason ∈ endReasons) :
      Triple (Lives t c P) (pure reason : M Bytes) (fun reason w => reason ∈ endReasons ∧ Lives t c P w)
        (Told lifeStep .starting t) := triple_pure fun _ hw => ⟨hreason, hw⟩
  refine triple_same.bind fun control => triple_ite (fun _ => told (by decide)) fun _ => ?_
  refine (stopped_lives h _).bind fun stopped => triple_ite (fun _ => told (by decide)) fun _ => ?_
  exact triple_ite (fun _ => told (by decide)) fun _ => told (by decide)

/-- One connection, from its first hook to its last. -/
theorem serveConnection_lives (botai : BotAi) (hsock : 0 ≤ sock) :
    Triple (Lives t c (· = .opened sock)) (serveConnection botai sock) (fun _ => Lives t (-1) Away)
      (Told lifeStep .starting t) := by
  unfold serveConnection
  refine (setSocket_lives sock).bind fun _ => ?_
  refine Triple.bind (emitLifecycle_lives (R := Greeting sock) (Q := (· = .greeted sock false)) List.mem_cons_self (by decide)
    (fun command hcommand => admits_one (if_pos hcommand)) greeted_commands (fun _ => .inl) fun _ => .inr) fun _ => ?_
  refine (runConnectedSession_lives botai).bind fun rc => ?_
  have hclose : Admits lifeStep (Working sock) (.close sock) (· = .parted) :=
    working_admits (if_pos rfl) (if_pos rfl)
  refine Triple.bind (netCloseSocket_lives hsock hclose) fun _ => ?_
  refine (setSocket_lives (-1)).bind fun _ => (disconnectReason_lives (admits_one rfl) rc).bind fun reason => ?_
  refine Triple.bind (Q := fun _ => Lives t (-1) Away) (triple_fact fun hreason => ?_) fun _ => ?_
  · exact emitLifecycle_lives hreason (by decide) (fun command hcommand => admits_one (if_pos hcommand))
      (unsent_commands fun _ _ _ => admits_one rfl) (fun _ hlife => hlife ▸ .parted) fun _ hlife => hlife ▸ .idle
  refine triple_same.bind fun control => (stopped_lives (away_admits (by simp [Obs.kind])) _).bind fun stopped => ?_
  refine triple_ite (fun _ => triple_pure fun _ => id) fun _ => triple_same.bind fun control => ?_
  refine triple_ite (fun _ => ?_) fun _ => ?_
  · exact Triple.bind (modifyControl_lives fun _ => rfl) fun _ => triple_pure fun _ => id
  · exact Triple.bind (modifyControl_lives fun _ => rfl) fun _ => reconnectLater_lives 1

theorem sessionRound_lives (botai : BotAi) (backoff : Nat) : LivesIn t (-1) Away (sessionRound botai backoff) := by
  have hdial (n : NetworkConfig) : Admits lifeStep Away (.dial .single n) (· = .dialling) := by
    rintro _ (rfl | rfl | rfl)
    · exact ⟨_, rfl, rfl⟩
    · exact ⟨_, rfl, rfl⟩
    · exact ⟨_, rfl, rfl⟩
  unfold sessionRound
  refine (ctrlCRequested_lives (away_admits (by simp [Obs.kind]))).bind fun ctrlC => triple_same.bind fun control => ?_
  refine triple_ite (fun _ => triple_pure fun _ => id) fun _ => (rexxProcess_lives away_commands).bind fun _ => ?_
  refine (processReload_lives fun _ _ => away_admits (by simp [Obs.kind])).bind fun _ => ?_
  refine triple_same.bind fun control => triple_ite (fun _ => ?_) fun _ => triple_same.bind fun config => ?_
  · exact Triple.bind (log_lives (away_admits (by simp [Obs.kind]))) fun _ => triple_pure fun _ => id
  refine Triple.bind (log_lives (hdial _)) fun _ => ?_
  refine Triple.bind (netConnectIpv4_lives fun fd => admits_one rfl) fun sock => ?_
  by_cases hsock : 0 ≤ sock
  · rw [if_pos hsock, if_pos hsock]
    exact serveConnection_lives botai hsock
  · rw [if_neg hsock, if_neg hsock]
    exact (reconnectLater_lives backoff).pre fun _ hw => hw.mono fun _ hlife => hlife ▸ .idle

theorem runSingleNetwork_lives (botai : BotAi) : LivesIn t (-1) Away (runSingleNetwork botai) := by
  have hround (backoff : Nat) : Triple (Lives t (-1) Away) (sessionRound botai backoff)
      (Next (fun _ => Lives t (-1) Away) fun _ => Lives t (-1) Away) (Told lifeStep .starting t) := by
    refine (sessionRound_lives botai backoff).post fun r _ hw => ?_
    cases r with
    | inl backoff => exact hw
    | inr rc => exact hw
  refine triple_same.bind fun fuel => Triple.bind (triple_loop fuel hround (fun _ _ hw => hw.life.told) 1) fun rc => ?_
  exact (setSocket_lives (-1)).bind fun _ => triple_pure fun _ => id

/-! ## Sessions -/

/-- A table of networks has been built. -/
def Built (t : List Obs) : Prop := ∃ control, .rebuild control ∈ t

theorem Built.append {t u : List Obs} (h : Built t) : Built (t ++ u) := by
  obtain ⟨control, hcontrol⟩ := h
  exact ⟨control, List.mem_append_left u hcontrol⟩

theorem built_followed : Followed fun t t' => Built t → Built t' := by
  have snoc (K : List Kind) : ∀ t o, o.kind ∈ K → Built t → Built (t ++ [o]) := fun t o _ => Built.append
  refine .of_connects (snoc _) (snoc _) (fun runtime => acts_along (snoc _) (connectRuntime_keeps runtime))
    fun botai config backoff => ?_
  refine Keeps.bind (log_along (snoc [.dial]) (by simp [Obs.kind])) fun _ => ?_
  refine (acts_along (snoc _) (netConnectIpv4_keeps _ _)).bind fun sock => ?_
  have hjoins (sock : Int) (channels : List Bytes) :
      Keeps (Along fun t t' => Built t → Built t') (sendJoins sock channels) :=
    acts_along (snoc _) (sendJoins_keeps sock channels)
  exact keeps_ite (serveConnection_along (snoc _) hjoins botai sock) (reconnectLater_along (snoc _) _)

/-- Nothing has been served yet, or it is networks of a table. -/
def Unserved (w : World) : Prop := Built w.trace ∨ Lives [] (-1) Away w

/-- As far as it has come, a session without a table lived as `lifeStep` says. -/
def Lived (w : World) : Prop := Built w.trace ∨ Told lifeStep .starting [] w

theorem Unserved.lived {w : World} (h : Unserved w) : Lived w := h.imp_right fun hw => hw.life.told

/-- What keeps the table and does not need a connection. -/
theorem triple_unserved (hbuilt : Keeps (Along fun t t' => Built t → Built t') m) (hlives : LivesIn [] (-1) Away m) :
    Triple Unserved m (fun _ => Unserved) Lived := by
  intro env w hw
  rcases hw with hw | hw
  · have hafter := triple_along hbuilt env w hw
    split
    · rename_i heq
      rw [heq] at hafter
      exact .inl hafter
    · rename_i heq
      rw [heq] at hafter
      exact .inl hafter
  · have hafter := hlives env w hw
    split
    · rename_i heq
      rw [heq] at hafter
      exact .inr hafter
    · rename_i heq
      rw [heq] at hafter
      exact .inr hafter

theorem m7Round_unserved (botai : BotAi) :
    Triple Unserved (m7Round botai ()) (Next (fun _ => Unserved) fun _ => Unserved) Lived := by
  have hctrlC : Triple Unserved ctrlCRequested (fun _ => Unserved) Lived :=
    triple_unserved (plain_along built_followed.plain (by decide) ctrlCRequested_keeps)
      (ctrlCRequested_lives (away_admits (by simp [Obs.kind])))
  unfold m7Round
  refine hctrlC.bind fun ctrlC => triple_same.bind fun control => ?_
  refine triple_ite (fun _ => triple_pure fun _ => id) fun _ => ?_
  refine triple_same.bind fun config => triple_ite (fun _ => triple_pure fun _ => id) fun _ => ?_
  -- from here on there is a table
  have hrebuild : Triple Unserved (log (.rebuild control)) (fun _ w => Built w.trace) Lived :=
    triple_modify fun w _ => ⟨control, by simp [World.log]⟩
  refine hrebuild.bind fun _ => ?_
  refine (triple_along ?_).conseq (fun _ => id) (fun r w hw => ?_) fun _ => .inl
  · refine (modifyControl_along _).bind fun _ => (built_followed.multinetRun botai _).bind fun result => ?_
    exact afterMultinet_along built_followed.plain result
  · cases r with
    | inl s => exact .inl hw
    | inr rc => exact .inl hw

theorem setSocket_unserved : Triple Unserved (setSocket (-1)) (fun _ => Unserved) Lived :=
  triple_unserved (modifyControl_along _) (setSocket_lives (-1))

theorem runNetworks_unserved (botai : BotAi) : Triple Unserved (runNetworks botai) (fun _ => Unserved) Lived := by
  refine triple_same.bind fun config => triple_ite (fun _ => ?_) fun _ => ?_
  · refine Triple.bind (Q := fun _ => Unserved) ?_ fun rc => setSocket_unserved.bind fun _ => triple_pure fun _ => id
    refine triple_same.bind fun fuel => ?_
    exact triple_loop (I := fun _ => Unserved) fuel (fun _ => m7Round_unserved botai) (fun _ _ hw => hw.lived) ()
  · exact triple_unserved (built_followed.runSingleNetwork botai) (runSingleNetwork_lives botai)

/-- Before any table. -/
theorem Triple.lived {Q : α → World → Prop} (h : Triple (Lives [] c P) m Q (Told lifeStep .starting [])) :
    Triple (Lives [] c P) m Q Lived := h.conseq (fun _ => id) (fun _ _ => id) fun _ => .inr

theorem sessionRun_unserved (startup : SessionConfig) :
    Triple (Lives [] (-1) (· = .starting)) (sessionRun startup) (fun _ => Unserved) Lived := by
  have none {rc : Int} : Triple (Lives [] (-1) (· = .starting)) (pure rc : M Int) (fun _ => Unserved) Lived :=
    triple_pure fun _ hw => .inr (hw.mono fun _ => .inl)
  have same {f : World → World} (hcontrol : ∀ w, (f w).control.sock = w.control.sock ∨ (f w).control.sock = -1)
      (htrace : ∀ w, (f w).trace = w.trace) : Triple (Lives [] (-1) (· = .starting)) (modify f : M Unit)
        (fun _ => Lives [] (-1) (· = .starting)) Lived := by
    refine triple_modify fun w hw => ⟨?_, htrace w ▸ hw.life⟩
    rcases hcontrol w with hsame | hnone
    · exact hsame.trans hw.control
    · exact hnone
  refine Triple.bind (same (fun _ => .inl rfl) fun _ => rfl) fun _ => ?_
  refine Triple.bind (Q := fun _ => Lives [] (-1) (· = .starting)) ?_ fun rc => triple_same.bind fun config => ?_
  · refine triple_ite (fun _ => ?_) fun _ => triple_pure fun _ => id
    exact Triple.lived (loadConfig_lives (fun _ _ => admits_one rfl) _)
  refine triple_ite (fun _ => none) fun _ => triple_ite (fun _ => none) fun _ => ?_
  refine Triple.bind (same (fun _ => .inr rfl) fun _ => rfl) fun _ => ?_
  refine (Triple.lived (ask_lives _)).bind fun rexxOpen => triple_ite (fun _ => none) fun _ => ?_
  refine (Triple.lived (ask_lives _)).bind fun netOpen => triple_ite (fun _ => none) fun _ => ?_
  exact (Triple.lived startBotai_lives).bind fun botai => (runNetworks_unserved botai).pre fun _ => .inr

/-- A session that never builds a table of networks has one connection at a
time, which lives as `lifeStep` says, and returns without one. -/
theorem sessionRun_keeps_lifecycle (startup : SessionConfig) (env : Env) (config : Config) :
    let run := sessionRun startup env (worldInit config)
    Built run.2.trace ∨
      ∃ life, Run lifeStep .starting run.2.trace life ∧ ∀ rc, run.1 = .ok rc → Away life := by
  have hstart : Lives [] (-1) (· = .starting) (worldInit config) := ⟨rfl, .starting, rfl, [], rfl, .nil _⟩
  have hend := sessionRun_unserved startup env _ hstart
  intro run
  have hrun : sessionRun startup env (worldInit config) = run := rfl
  obtain ⟨result, w⟩ := run
  rw [hrun] at hend
  cases result with
  | ok rc =>
    rcases hend with hbuilt | ⟨-, life, haway, new, hnew, hlives⟩
    · exact .inl hbuilt
    · exact .inr ⟨life, hnew ▸ hlives, fun _ _ => haway⟩
  | error halt =>
    rcases hend with hbuilt | ⟨life, new, hnew, hlives⟩
    · exact .inl hbuilt
    · exact .inr ⟨life, hnew ▸ hlives, nofun⟩

end AmBot
