import AmBot.Endpoints
import AmBot.FieldRuns
import AmBot.RunLib.Until
/-!
# The profiles the bot connects for

A connect of a session is for the BotAI service, or for the profile that the
session has just taken up. The several-networks mode validates every profile it
takes up. The single-network loop validates none: it is up to the configuration
that is in force where one of its rounds comes to connect.
-/

namespace AmBot

open RunLib RunLib.Prog

variable {startup : SessionConfig} {env : Env}

/-! ## What a connect is for -/

/-- A connect right after a profile has been taken up is to the endpoint of that
profile, which is valid; any other is one of the client to the BotAI service. -/
def Vouched (startup : SessionConfig) (env : Env) (before : List Obs) : Obs → Prop
  | .connect host port _ =>
    match before.getLast? with
    | some (.dial mode n) => Profile startup env mode n host port ∧ networkValidateSecurity n = 0
    | _ => ∃ botai, Client startup env botai ∧ botai.enabled = true ∧ host = botai.host ∧ port = botai.port
  | _ => True

theorem vouched_of_kind {t : List Obs} {o : Obs} (h : o.kind ≠ .connect) : Vouched startup env t o := by
  cases o <;> first | exact trivial | exact absurd rfl h

/-- No profile waits for its connect. -/
def DialDone (t : List Obs) : Prop := ∀ mode n, t.getLast? ≠ some (.dial mode n)

theorem dialDone_snoc {t : List Obs} {o : Obs} (h : o.kind ≠ .dial) : DialDone (t ++ [o]) := by
  intro mode n hlast
  rw [List.getLast?_concat, Option.some.injEq] at hlast
  exact h (hlast ▸ rfl)

/-- Where the profiles of the single-network loop are valid, every connect is
vouched for. -/
theorem Accounted.vouched {t : List Obs} (h : Accounted startup env t)
    (hvalid : ∀ n, .dial .single n ∈ t → networkValidateSecurity n = 0) :
    Lawful (Vouched startup env) t ∧ DialDone t := by
  induction h with
  | nil => exact ⟨lawful_nil, nofun⟩
  | @entry t o _ ho ih =>
    obtain ⟨hlaw, -⟩ := ih fun n hn => hvalid n (List.mem_append_left _ hn)
    obtain ⟨-, hsourced⟩ := ho
    have hkind : o.kind ≠ .connect ∧ o.kind ≠ .dial := by
      cases o <;> first | exact hsourced.elim | exact ⟨nofun, nofun⟩
    exact ⟨lawful_snoc.2 ⟨hlaw, vouched_of_kind hkind.1⟩, dialDone_snoc hkind.2⟩
  | @service t botai rc _ hclient henabled ih =>
    obtain ⟨hlaw, hdone⟩ := ih fun n hn => hvalid n (List.mem_append_left _ hn)
    refine ⟨lawful_snoc.2 ⟨hlaw, ?_⟩, dialDone_snoc nofun⟩
    unfold Vouched
    dsimp only
    split
    · exact absurd ‹_› (hdone _ _)
    · exact ⟨botai, hclient, henabled, rfl, rfl⟩
  | @network t mode n host port rc _ hprofile ih =>
    obtain ⟨hlaw, -⟩ := ih fun n hn => hvalid n (List.mem_append_left _ hn)
    have hchecked : networkValidateSecurity n = 0 := by
      cases hprofile with
      | single _ => exact hvalid _ (by simp)
      | multi _ _ hchecked => exact hchecked
    rw [show t ++ [.dial mode n, .connect host port rc] = (t ++ [.dial mode n]) ++ [.connect host port rc] by simp]
    refine ⟨lawful_snoc.2 ⟨lawful_snoc.2 ⟨hlaw, trivial⟩, ?_⟩, dialDone_snoc nofun⟩
    unfold Vouched
    dsimp only
    rw [List.getLast?_concat]
    exact ⟨hprofile, hchecked⟩

/-- A profile that is taken up is connected. -/
theorem Accounted.connected {t : List Obs} (h : Accounted startup env t) {mode : Mode} {n : NetworkConfig}
    (hn : .dial mode n ∈ t) :
    ∃ before host port rc after, t = (before ++ [.dial mode n]) ++ .connect host port rc :: after := by
  have later {t : List Obs} (u : List Obs)
      (h : ∃ before host port rc after, t = (before ++ [.dial mode n]) ++ .connect host port rc :: after) :
      ∃ before host port rc after, t ++ u = (before ++ [.dial mode n]) ++ .connect host port rc :: after := by
    obtain ⟨before, host, port, rc, after, rfl⟩ := h
    exact ⟨before, host, port, rc, after ++ u, by simp⟩
  induction h with
  | nil => exact absurd hn List.not_mem_nil
  | entry _ ho ih =>
    rcases List.mem_append.1 hn with hold | hnew
    · exact later _ (ih hold)
    · rw [← List.mem_singleton.1 hnew] at ho
      exact ho.2.elim
  | service _ _ _ ih =>
    rcases List.mem_append.1 hn with hold | hnew
    · exact later _ (ih hold)
    · exact absurd (List.mem_singleton.1 hnew) nofun
  | @network t mode' n' host port rc _ _ ih =>
    rcases List.mem_append.1 hn with hold | hnew
    · exact later _ (ih hold)
    · rcases List.mem_cons.1 hnew with hsame | hconnect
      · cases hsame
        exact ⟨t, host, port, rc, [], by simp⟩
      · exact absurd (List.mem_singleton.1 hconnect) nofun

/-! ## The rounds that come to connect -/

/-- `ambot_session_run` up to the choice of its mode: what it returns before
that, or the client it goes on with. -/
def sessionStart (startup : SessionConfig) : M (Int ⊕ BotAi) := do
  setConfig (configSeed startup.host startup.port startup.nick startup.user startup.pass startup.ownerNick)
  let rc ← (if startup.configPath ≠ [] then loadConfig startup.configPath else pure 0)
  let config ← getConfig
  if rc ≠ 0 then pure (.inl 10)
  else if config.networks = [] ∧ (config.host = [] ∨ config.nick = []) then pure (.inl 10)
  else do
    modifyControl fun _ => controlInit
    let rexxOpen ← ask Env.rexxOpen
    if !rexxOpen then pure (.inl 20)
    else do
      let netOpen ← ask Env.netOpen
      if !netOpen then pure (.inl 20)
      else do
        let botai ← startBotai
        pure (.inr botai)

theorem sessionRun_eq (startup : SessionConfig) :
    sessionRun startup = sessionStart startup >>= Sum.elim pure runNetworks := by
  unfold sessionRun sessionStart
  simp only [← bind_bind, Prog.ite_bind]
  rfl

/-- A round of the single-network loop up to its connect: how it ends before
that, or the configuration it connects with. -/
def roundConfig (backoff : Nat) : M ((Nat ⊕ Int) ⊕ Config) := do
  let ctrlC ← ctrlCRequested
  let control ← getControl
  if ctrlC || control.quitRequested then pure (.inl (.inr 0))
  else do
    rexxProcess
    processReload
    let control ← getControl
    if !control.connectRequested then do
      delay 5
      pure (.inl (.inl backoff))
    else do
      let config ← getConfig
      pure (.inr config)

/-- The rest of the round. -/
def roundConnect (botai : BotAi) (backoff : Nat) : (Nat ⊕ Int) ⊕ Config → M (Nat ⊕ Int)
  | .inl r => pure r
  | .inr config => do
    log (.dial .single (copyNetwork (legacyNetwork config)))
    let sock ← netConnectIpv4 config.host config.port
    if 0 ≤ sock then serveConnection botai sock else reconnectLater backoff

theorem sessionRound_eq (botai : BotAi) (backoff : Nat) :
    sessionRound botai backoff = roundConfig backoff >>= roundConnect botai backoff := by
  unfold sessionRound roundConfig
  simp only [← bind_bind, Prog.ite_bind]
  rfl

/-- The session has come to run the single-network loop, and a round of it to
connect while `config` is in force. -/
def ConnectsWith (startup : SessionConfig) (env : Env) (config : Config) : Prop :=
  ∃ botai w backoff w' w'', sessionStart startup env (worldInit configInit) = (.ok (.inr botai), w) ∧
    (w.config.networks = [] ∧ w.config.useAmbnc = false) ∧
    Visits env (sessionRound botai) env.fuel 1 w backoff w' ∧ roundConfig backoff env w' = (.ok (.inr config), w'')

/-! ## The profiles that are taken up -/

theorem lone_other : ∀ t o, o.kind ∈ lone → Adds Obs.other t (t ++ [o]) := by
  intro t o ho
  refine adds_one (other_of_kind fun hdial => ?_)
  exact absurd (hdial ▸ ho) (by decide)

theorem sendJoins_other (sock : Int) (channels : List Bytes) : Keeps (Along (Adds Obs.other)) (sendJoins sock channels) := by
  refine acts_along (fun t o ho => adds_one (other_of_kind fun hdial => ?_)) (sendJoins_keeps sock channels)
  exact absurd (hdial ▸ ho) (by decide)

theorem connection_other (botai : BotAi) (config : Config) (backoff : Nat) : Keeps (Along (Adds Obs.other)) (do
    let sock ← netConnectIpv4 config.host config.port
    if 0 ≤ sock then serveConnection botai sock else reconnectLater backoff) := by
  refine (plain_along lone_other (by decide) (netConnectIpv4_keeps _ _)).bind fun sock => ?_
  exact keeps_ite (serveConnection_along lone_other sendJoins_other botai sock) (reconnectLater_along lone_other backoff)

theorem roundConfig_other (backoff : Nat) : Keeps (Along (Adds Obs.other)) (roundConfig backoff) := by
  refine (plain_along lone_other (by decide) ctrlCRequested_keeps).bind fun ctrlC => (keeps_read _).bind fun control => ?_
  refine keeps_ite (keeps_pure _) ((plain_along lone_other (by decide) rexxProcess_keeps).bind fun _ => ?_)
  refine (processReload_along lone_other).bind fun _ => (keeps_read _).bind fun control => keeps_ite ?_ ?_
  · exact (plain_along lone_other (by decide) (delay_keeps 5)).bind fun _ => keeps_pure _
  · exact (keeps_read _).bind fun config => keeps_pure _

theorem sessionStart_other (startup : SessionConfig) : Keeps (Along (Adds Obs.other)) (sessionStart startup) := by
  refine (setConfig_along _).bind fun _ => ?_
  refine Keeps.bind (keeps_ite (loadConfig_along lone_other _) (keeps_pure _)) fun rc => ?_
  refine (keeps_read _).bind fun config => keeps_ite (keeps_pure _) (keeps_ite (keeps_pure _) ?_)
  refine (modifyControl_along _).bind fun _ => ?_
  refine Keeps.bind (plain_along lone_other (S := []) (by simp) (keeps_ask _)) fun rexx => ?_
  refine keeps_ite (keeps_pure _) (Keeps.bind (plain_along lone_other (S := []) (by simp) (keeps_ask _)) fun net => ?_)
  refine keeps_ite (keeps_pure _) (Keeps.bind ?_ fun botai => keeps_pure _)
  refine (keeps_read _).bind fun config => keeps_ite (keeps_pure _) ?_
  split
  refine keeps_ite (keeps_pure _) ((plain_along lone_other (by decide) (botaiCheck_keeps _)).bind fun r => keeps_pure _)

theorem not_taken_up {t t' : List Obs} (h : Adds Obs.other t t') {n : NetworkConfig} (hn : .dial .single n ∈ t') :
    .dial .single n ∈ t := by
  obtain ⟨u, rfl, hu⟩ := h
  rcases List.mem_append.1 hn with hold | hnew
  · exact hold
  · exact absurd rfl (hu _ hnew n)

/-- A round adds the profile it comes to connect with, and no other. -/
theorem sessionRound_adds (botai : BotAi) (backoff : Nat) (w : World) (n : NetworkConfig)
    (hn : .dial .single n ∈ (sessionRound botai backoff env w).2.trace) :
    .dial .single n ∈ w.trace ∨
      ∃ config w', roundConfig backoff env w = (.ok (.inr config), w') ∧ n = copyNetwork (legacyNetwork config) := by
  have hrequest := roundConfig_other backoff env w
  rw [sessionRound_eq, bind_run] at hn
  rcases hr : roundConfig backoff env w with ⟨halted | ended | config, w'⟩ <;> rw [hr] at hrequest hn
  · exact .inl (not_taken_up hrequest hn)
  · exact .inl (not_taken_up hrequest hn)
  · have hdialled := not_taken_up (connection_other botai config backoff env _) hn
    rcases List.mem_append.1 hdialled with hold | hnew
    · exact .inl (not_taken_up hrequest hold)
    · cases List.mem_singleton.1 hnew
      exact .inr ⟨config, w', rfl, rfl⟩

theorem sessionRound_grows (botai : BotAi) (backoff : Nat) :
    Keeps (Along (Adds fun _ => True)) (sessionRound botai backoff) := by
  refine sessionRound_along (fun _ _ _ => adds_one trivial) fun config => ?_
  refine Keeps.bind (fun _ _ => adds_one trivial) fun _ => ?_
  exact (connection_other botai config backoff).mono fun _ _ => Adds.mono fun _ _ => trivial

theorem runNetworks_multi (botai : BotAi) {w : World} (h : ¬ (w.config.networks = [] ∧ w.config.useAmbnc = false)) :
    Adds Obs.other w.trace (runNetworks botai env w).2.trace := by
  have hmode : (w.config.networks ≠ [] || w.config.useAmbnc) = true := by
    by_contra hsingle
    exact h (by simpa using hsingle)
  have hrun : runNetworks botai env w = (do let rc ← runM7Networks botai; setSocket (-1); pure rc : M Int) env w := by
    unfold runNetworks
    rw [bind_run]
    exact congrFun (congrFun (if_pos hmode) env) w
  rw [hrun]
  exact ((turns_other.runM7Networks botai).bind fun _ => (modifyControl_along _).bind fun _ => keeps_pure _) env w

theorem runNetworks_single (botai : BotAi) {w : World} (h : w.config.networks = [] ∧ w.config.useAmbnc = false) :
    (runNetworks botai env w).2.trace = (loop env.fuel (sessionRound botai) 1 env w).2.trace := by
  have hmode : ¬ (w.config.networks ≠ [] || w.config.useAmbnc) = true := by simpa using h
  have hrun : runNetworks botai env w = runSingleNetwork botai env w := by
    unfold runNetworks
    rw [bind_run]
    exact congrFun (congrFun (if_neg hmode) env) w
  rw [hrun]
  unfold runSingleNetwork getFuel
  simp only [bind_run, Prog.read]
  rcases loop env.fuel (sessionRound botai) 1 env w with ⟨halted | rc, w'⟩
  · rfl
  · rfl

/-- Every profile that the single-network loop takes up is that of a
configuration it comes to connect with. -/
theorem dial_connectsWith {n : NetworkConfig}
    (hn : .dial .single n ∈ (sessionRun startup env (worldInit configInit)).2.trace) :
    ∃ config, ConnectsWith startup env config ∧ n = copyNetwork (legacyNetwork config) := by
  have hstart := sessionStart_other startup env (worldInit configInit)
  have hnone {w : World} (h : Adds Obs.other (worldInit configInit).trace w.trace) : .dial .single n ∉ w.trace :=
    fun hmem => absurd (not_taken_up h hmem) List.not_mem_nil
  rw [sessionRun_eq, bind_run] at hn
  rcases hr : sessionStart startup env (worldInit configInit) with ⟨halted | rc | botai, w⟩ <;> rw [hr] at hstart hn
  · exact absurd hn (hnone hstart)
  · exact absurd hn (hnone hstart)
  by_cases hmode : w.config.networks = [] ∧ w.config.useAmbnc = false
  · -- every round that is started has taken up what it comes to connect with
    have hrounds : ∀ backoff w', Visits env (sessionRound botai) env.fuel 1 w backoff w' →
        (.dial .single n ∈ w'.trace → ∃ config, ConnectsWith startup env config ∧ n = copyNetwork (legacyNetwork config)) →
        .dial .single n ∈ (sessionRound botai backoff env w').2.trace →
          ∃ config, ConnectsWith startup env config ∧ n = copyNetwork (legacyNetwork config) := by
      intro backoff w' hvisit ih hround
      rcases sessionRound_adds botai backoff w' n hround with hold | ⟨config, w'', hconfig, hsame⟩
      · exact ih hold
      · exact ⟨config, ⟨botai, w, backoff, w', w'', hr, hmode, hvisit, hconfig⟩, hsame⟩
    have hloop := loop_visits hrounds fun hmem => absurd hmem (hnone hstart)
    apply hloop
    rw [← runNetworks_single botai hmode]
    exact hn
  · exact absurd (not_taken_up (runNetworks_multi botai hmode) hn) (hnone hstart)

/-- The profile of a configuration that the loop comes to connect with is taken
up. -/
theorem ConnectsWith.dial {config : Config} (h : ConnectsWith startup env config) :
    .dial .single (copyNetwork (legacyNetwork config)) ∈ (sessionRun startup env (worldInit configInit)).2.trace := by
  obtain ⟨botai, w, backoff, w', w'', hr, hmode, hvisit, hconfig⟩ := h
  rw [sessionRun_eq, bind_run, hr]
  change _ ∈ (runNetworks botai env w).2.trace
  rw [runNetworks_single botai hmode]
  obtain ⟨u, hu, -⟩ := hvisit.moves (R := Along (Adds fun _ => True)) (sessionRound_grows botai)
  rw [hu]
  apply List.mem_append_left
  rw [sessionRound_eq, bind_run, hconfig]
  obtain ⟨v, hv, -⟩ := connection_other botai config backoff env (w''.log (.dial .single (copyNetwork (legacyNetwork config))))
  change _ ∈ ((do
    let sock ← netConnectIpv4 config.host config.port
    if 0 ≤ sock then serveConnection botai sock else reconnectLater backoff : M (Nat ⊕ Int)) env
      (w''.log (.dial .single (copyNetwork (legacyNetwork config))))).2.trace
  rw [hv]
  exact List.mem_append_left _ (List.mem_append_right _ (List.mem_singleton.2 rfl))

/-! ## The profiles that are connected -/

/-- In every session, every connect to an IRC endpoint is for a profile that
passes `ambot_network_validate_security`, exactly where the settings of every
configuration do that the single-network loop comes to connect with. -/
theorem sessionRun_vouches_iff (startup : SessionConfig) (env : Env) :
    Lawful (Vouched startup env) (sessionRun startup env (worldInit configInit)).2.trace ↔
      ∀ config, ConnectsWith startup env config → networkValidateSecurity (copyNetwork (legacyNetwork config)) = 0 := by
  obtain ⟨⟨-, haccounted⟩, -⟩ := sessionRun_upholds startup env configInit
  constructor
  · intro hlaw config hconnects
    obtain ⟨before, host, port, rc, after, htrace⟩ := haccounted.connected hconnects.dial
    have hvouched := hlaw _ _ _ htrace
    unfold Vouched at hvouched
    dsimp only at hvouched
    rw [List.getLast?_concat] at hvouched
    exact hvouched.2
  · intro hvalid
    refine (haccounted.vouched fun n hn => ?_).1
    obtain ⟨config, hconnects, rfl⟩ := dial_connectsWith hn
    exact hvalid config hconnects

/-- A global form that asks for TLS from an upstream it does not have. -/
def directTls : SessionConfig :=
  { host := ascii "irc", port := 6667, nick := ascii "bot", user := [], pass := [], ownerNick := [],
    configPath := ascii "bot.conf" }

/-- The single-network loop connects it. -/
theorem sessionRun_connects_invalid :
    let env := { Env.online with
      fuel := 1, rexxOpen := fun _ => true, netOpen := fun _ => true, file := fun _ => some (ascii "TLS = UPSTREAM\n") }
    let config := (configLoad (configSeed (ascii "irc") 6667 (ascii "bot") [] [] []) (ascii "bot.conf")
      (some (ascii "TLS = UPSTREAM\n"))).2
    let n := copyNetwork (legacyNetwork config)
    networkValidateSecurity n ≠ 0 ∧
    [.dial .single n, .connect (ascii "irc") 6667 3] <:+: (sessionRun directTls env (worldInit configInit)).2.trace ∧
    ¬ Lawful (Vouched directTls env) (sessionRun directTls env (worldInit configInit)).2.trace := by
  intro env config n
  have hinvalid : networkValidateSecurity n ≠ 0 := by decide +kernel
  have hconnect : [.dial .single n, .connect (ascii "irc") 6667 3] <:+:
      (sessionRun directTls env (worldInit configInit)).2.trace := by
    decide +kernel
  refine ⟨hinvalid, hconnect, fun hlaw => ?_⟩
  obtain ⟨before, after, htrace⟩ := hconnect
  have hvouched := hlaw (before ++ [.dial .single n]) (.connect (ascii "irc") 6667 3) after (by simp [← htrace])
  unfold Vouched at hvouched
  dsimp only at hvouched
  rw [List.getLast?_concat] at hvouched
  exact hinvalid hvouched.2

end AmBot
