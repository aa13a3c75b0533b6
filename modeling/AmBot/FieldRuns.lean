import AmBot.Fields
import AmBot.Gate
import AmBot.Handshake
import AmBot.LineBreaks
import AmBot.RunLib.Upholds
/-!
# Whole sessions keep to their arrays

From start to end of a session, in either mode, every structure fits its
arrays, nothing is stored outside the framer's line, what is run as a hook
script is one of the scripts of a configuration the session has read, and what
is sent is one line at a time. What comes in over IRC is in the arguments of
the scripts and inside the lines.
-/

namespace AmBot

open RunLib RunLib.Prog

/-! ## What a session can know -/

/-- The path the session was started with, or that path as its array keeps it. -/
def SessionConfig.Names (startup : SessionConfig) (path : Bytes) : Prop :=
  path = startup.configPath ∨ path = copyValue 128 startup.configPath

/-- The configurations a session can have: the one its arguments make, and
what a load makes of one with what is in the file at that time. -/
inductive InForce (startup : SessionConfig) (env : Env) : Config → Prop
  | seed : InForce startup env
      (configSeed startup.host startup.port startup.nick startup.user startup.pass startup.ownerNick)
  | load {config : Config} {path : Bytes} (tick : Nat) : InForce startup env config → startup.Names path →
      InForce startup env (configLoad config path (env.file tick)).2

/-- The BotAI client of a session: configured from a configuration in force, and
`compatible` as the check of the service has left it. -/
def Client (startup : SessionConfig) (env : Env) (botai : BotAi) : Prop :=
  ∃ config compatible, InForce startup env config ∧
    botai = { (botaiConfigure config.botaiUrl config.botaiExpert config.botaiTimeoutSeconds).2 with compatible }

/-- The requests a client makes: for the version of the service, and for the
answer to a message. -/
inductive Asks (botai : BotAi) : Bytes → Prop
  | version : Asks botai (httpText botai (ascii "GET") (ascii "/v1/version") none)
  | chat {message body : Bytes} {replySize : Nat} (hbody : chatPrepare botai message replySize = some body) :
      Asks botai (httpText botai (ascii "POST") (ascii "/v1/chat") (some body))

/-- What a session may hand to `send`: a line of its own or the rest of one,
the end of a line, the line an ARexx command asks for, and a request of its
client to the BotAI service. -/
inductive MaySend (startup : SessionConfig) (env : Env) (data : Bytes) : Prop
  | line (h : LineFits data)
  | crlf (h : data <:+ [CR, LF])
  | command {tick : Nat} {message text : Bytes} (hmessage : message ∈ env.messages tick)
      (hrequest : requestOf (cstr message) = .line text) (h : data <:+ text)
  | request {botai : BotAi} {request : Bytes} (hclient : Client startup env botai) (hasks : Asks botai request)
      (h : data <:+ request)

/-- The profiles the bot connects for, each with its endpoint: the settings of
a configuration in force, and the networks that it accepts. -/
inductive Profile (startup : SessionConfig) (env : Env) : Mode → NetworkConfig → Bytes → Nat → Prop
  | single {config : Config} : InForce startup env config →
      Profile startup env .single (copyNetwork (legacyNetwork config)) config.host config.port
  | multi {config : Config} {n : NetworkConfig} : InForce startup env config →
      n ∈ (networksFromConfig config).2.items → networkValidateSecurity n = 0 →
      Profile startup env .multi n (networkEndpointHost n) (networkEndpointPort n)

/-- The hook directories: that of the single-network loop and those of the
networks. -/
def Config.hookDirs (config : Config) : List Bytes :=
  config.hookDir :: (networksFromConfig config).2.items.map (·.hookDir)

/-- The command of a hook script in one of the directories, with an event as
its arguments. -/
def RunsHook (dirs : List Bytes) (command : Bytes) : Prop :=
  ∃ dir ∈ dirs, ∃ (event : Event) (script : Bytes), scriptName event.type = some script ∧
    scriptCommand (dir ++ ascii "/" ++ script) [eventTypeName event.type, event.nick, event.target, event.text] =
      some command

/-- The structures in an entry of the trace fit their arrays. -/
def Obs.Fits : Obs → Prop
  | .rexx _ _ result => result.length < operationResultMax
  | .script command => command.length < rexxScriptCommandMax
  | .event e _ => e.Fits
  | .line text _ => text.length ≤ ircLineMax
  | .join _ channels => channels.length ≤ channelsMax ∧ ∀ channel ∈ channels, channel.length < 64
  | .dial _ n => n.Fits
  | .opened slots _ | .iteration slots _ _ _ | .woken _ slots _ | .retry _ slots _ =>
    slots.length ≤ networksMax ∧ ∀ slot ∈ slots, slot.runtime.Fits
  | .turn _ slot | .settled _ slot => slot.runtime.Fits
  | _ => True

/-- A script that is run is a hook of a configuration in force, a file that is
read is the one the session was started with, and what is sent may be sent. A
connect has its source in the entry before it. -/
def Obs.Sourced (startup : SessionConfig) (env : Env) : Obs → Prop
  | .connect _ _ _ | .dial _ _ => False
  | .send _ data _ => startup.Unbroken → MaySend startup env data
  | .script command => ∃ config, InForce startup env config ∧ RunsHook config.hookDirs command
  | .load path _ => startup.Names path
  | _ => True

/-- A trace whose entries are accounted for one by one, but for the connects: one
is to the BotAI service, or it comes right after the profile it is for. -/
inductive Accounted (startup : SessionConfig) (env : Env) : List Obs → Prop
  | nil : Accounted startup env []
  | entry {t : List Obs} {o : Obs} : Accounted startup env t → o.Fits ∧ o.Sourced startup env →
      Accounted startup env (t ++ [o])
  | service {t : List Obs} {botai : BotAi} {rc : Int} : Accounted startup env t → Client startup env botai →
      botai.enabled = true → Accounted startup env (t ++ [.connect botai.host botai.port rc])
  | network {t : List Obs} {mode : Mode} {n : NetworkConfig} {host : Bytes} {port : Nat} {rc : Int} :
      Accounted startup env t → Profile startup env mode n host port →
      Accounted startup env (t ++ [.dial mode n, .connect host port rc])

/-- The invariant of a session. -/
structure Vetted (startup : SessionConfig) (env : Env) (w : World) : Prop where
  config : InForce startup env w.config
  trace : Accounted startup env w.trace

variable {startup : SessionConfig} {env : Env} {α : Type} {S : List Kind} {sock : Int}

/-- A configuration that has been loaded has the path it was loaded from. -/
theorem InForce.path {config : Config} (h : InForce startup env config) :
    config.path = [] ∨ startup.Names config.path := by
  induction h with
  | seed => exact .inl rfl
  | @load config path tick _ hpath ih =>
    by_cases hnone : path = []
    · unfold configLoad
      rw [if_pos hnone]
      exact ih
    cases hfile : env.file tick with
    | none =>
      unfold configLoad
      rw [if_neg hnone]
      exact ih
    | some text =>
      rw [configLoad_path _ hnone]
      refine .inr (.inr ?_)
      rcases hpath with rfl | rfl
      · rfl
      · exact copyValue_copyValue 128 _

theorem InForce.fits {config : Config} (h : InForce startup env config) : config.Fits := by
  induction h with
  | seed => exact configSeed_fits _ _ _ _ _ _
  | load tick _ _ ih => exact configLoad_fits ih _ _

theorem Profile.fits {mode : Mode} {n : NetworkConfig} {host : Bytes} {port : Nat}
    (h : Profile startup env mode n host port) : n.Fits := by
  cases h with
  | single hconfig => exact legacyNetwork_fits hconfig.fits
  | multi hconfig hn _ => exact networksFromConfig_fits hconfig.fits hn

theorem Accounted.fits {t : List Obs} (h : Accounted startup env t) : ∀ o ∈ t, o.Fits := by
  induction h with
  | nil => exact List.forall_mem_nil _
  | entry _ ho ih => exact List.forall_mem_append.2 ⟨ih, List.forall_mem_singleton.2 ho.1⟩
  | service _ _ _ ih => exact List.forall_mem_append.2 ⟨ih, List.forall_mem_singleton.2 trivial⟩
  | network _ hprofile ih =>
    exact List.forall_mem_append.2 ⟨ih, List.forall_mem_cons.2 ⟨hprofile.fits, List.forall_mem_singleton.2 trivial⟩⟩

/-- What is said of the sources of the entries other than the connects. -/
theorem Accounted.sourced {t : List Obs} (h : Accounted startup env t) :
    ∀ o ∈ t, o.kind ∉ [.connect, .dial] → o.Sourced startup env := by
  induction h with
  | nil => exact List.forall_mem_nil _
  | entry _ ho ih => exact List.forall_mem_append.2 ⟨ih, List.forall_mem_singleton.2 fun _ => ho.2⟩
  | service _ _ _ ih =>
    refine List.forall_mem_append.2 ⟨ih, List.forall_mem_singleton.2 fun hkind => ?_⟩
    exact absurd (by simp [Obs.kind]) hkind
  | network _ _ ih =>
    refine List.forall_mem_append.2 ⟨ih, List.forall_mem_cons.2 ⟨fun hkind => ?_, List.forall_mem_singleton.2 fun hkind => ?_⟩⟩
    · exact absurd (by simp [Obs.kind]) hkind
    · exact absurd (by simp [Obs.kind]) hkind

theorem Accounted.entries {t u : List Obs} (h : Accounted startup env t)
    (hu : ∀ o ∈ u, o.Fits ∧ o.Sourced startup env) : Accounted startup env (t ++ u) := by
  induction u using List.reverseRecOn with
  | nil => simpa using h
  | append_singleton u o ih =>
    obtain ⟨hinit, hlast⟩ := List.forall_mem_append.1 hu
    rw [← List.append_assoc]
    exact (ih hinit).entry (hlast o (List.mem_singleton.2 rfl))

theorem InForce.unbroken {config : Config} (h : InForce startup env config) (hstartup : startup.Unbroken) :
    config.Unbroken := by
  induction h with
  | seed => exact configSeed_unbroken hstartup
  | load tick _ _ ih => exact configLoad_unbroken ih _ _

/-! ## What always returns -/

theorem getBreakSignal_total (arrived : Bool) : Total (getBreakSignal arrived) := fun _ _ => ⟨_, _, rfl⟩

theorem ctrlCRequested_total : Total ctrlCRequested := by
  refine (ask_total _).bind fun arrived => (getBreakSignal_total _).bind fun set => ?_
  exact Total.bind (total_ite (log_total _) (total_pure _)) fun _ => total_pure _

theorem netWaitMany_total (socks : List Int) (timeout : Option Nat) : Total (netWaitMany socks timeout) := by
  refine (log_total _).bind fun _ => (ask_total _).bind fun answer => (getBreakSignal_total _).bind fun ctrlC => ?_
  exact Total.bind (total_modify _) fun _ => total_pure _

/-! ## What is not accounted for -/

/-- The kinds that hold no structure. -/
abbrev dull : List Kind :=
  [.recv, .close, .wait, .delay, .ctrlC, .underflow, .rebuild, .session, .register, .negotiated]

theorem dull_sound {o : Obs} (h : o.kind ∈ dull) : o.Fits ∧ o.Sourced startup env := by
  cases o <;> first | exact ⟨trivial, trivial⟩ | simp [Obs.kind] at h

theorem dull_upholds {m : M α} (hS : S ⊆ dull) (hm : Total m) (h : Keeps (Acts S) m) :
    Upholds env (Vetted startup env) m fun _ => True := by
  refine hm.upholds h fun w w' hacts hw => ⟨?_, ?_⟩
  · rw [hacts.config]
    exact hw.config
  · obtain ⟨u, hu, hall⟩ := hacts.logs
    rw [hu]
    exact hw.trace.entries fun o ho => dull_sound (hS (hall o ho))

theorem log_upholds {o : Obs} (h : o.Fits ∧ o.Sourced startup env) :
    Upholds env (Vetted startup env) (log o) fun _ => True :=
  upholds_modify fun _ hw => ⟨hw.config, hw.trace.entry h⟩

theorem ask_upholds (f : Env → Nat → α) : Upholds env (Vetted startup env) (ask f) fun _ => True :=
  dull_upholds (by simp) (ask_total f) (keeps_ask (S := []) f)

theorem modifyControl_upholds (f : Control → Control) :
    Upholds env (Vetted startup env) (modifyControl f) fun _ => True := upholds_modify fun _ hw => ⟨hw.config, hw.trace⟩

theorem read_upholds (f : Env → World → α) : Upholds env (Vetted startup env) (Prog.read f) fun _ => True :=
  upholds_read fun _ _ => trivial

theorem getConfig_upholds : Upholds env (Vetted startup env) getConfig (InForce startup env) :=
  upholds_read fun _ hw => hw.config

theorem ctrlCRequested_upholds : Upholds env (Vetted startup env) ctrlCRequested fun _ => True :=
  dull_upholds (by decide) ctrlCRequested_total ctrlCRequested_keeps

theorem netCloseSocket_upholds (sock : Int) : Upholds env (Vetted startup env) (netCloseSocket sock) fun _ => True :=
  dull_upholds (by decide) (netCloseSocket_total _) (netCloseSocket_keeps _)

theorem netWaitMany_upholds (socks : List Int) (timeout : Option Nat) :
    Upholds env (Vetted startup env) (netWaitMany socks timeout) fun _ => True :=
  dull_upholds (by decide) (netWaitMany_total _ _) (netWaitMany_keeps _ _)

/-- An answer of the outside is the one it gives at that time. -/
theorem ask_answers (f : Env → Nat → α) : Upholds env (Vetted startup env) (ask f) fun a => ∃ tick, a = f env tick := by
  intro w hw
  refine ⟨⟨hw.config, hw.trace⟩, nofun, ?_⟩
  intro a ha
  exact ⟨w.tick, (Except.ok.inj ha).symm⟩

/-! ## What is connected -/

/-- A connect that is to the service. -/
theorem connectService_upholds {botai : BotAi} (hclient : Client startup env botai) (henabled : botai.enabled = true) :
    Upholds env (Vetted startup env) (netConnectIpv4 botai.host botai.port) fun _ => True := by
  intro w hw
  obtain ⟨sock, w', hconnect, htrace⟩ := netConnectIpv4_logs botai.host botai.port env w
  have hconfig : w'.config = w.config := by
    have hacts := netConnectIpv4_keeps botai.host botai.port env w
    rw [hconnect] at hacts
    exact hacts.config
  rw [hconnect]
  refine ⟨⟨hconfig ▸ hw.config, ?_⟩, nofun, fun _ _ => trivial⟩
  rw [htrace]
  exact hw.trace.service hclient henabled

/-- A profile, and the connect that is for it. -/
theorem dial_upholds {mode : Mode} {n : NetworkConfig} {host : Bytes} {port : Nat}
    (h : Profile startup env mode n host port) :
    Upholds env (Vetted startup env) (log (.dial mode n) >>= fun _ => netConnectIpv4 host port) fun _ => True := by
  intro w hw
  obtain ⟨sock, w', hconnect, htrace⟩ := netConnectIpv4_logs host port env (w.log (.dial mode n))
  have hconfig : w'.config = w.config := by
    have hacts := netConnectIpv4_keeps host port env (w.log (.dial mode n))
    rw [hconnect] at hacts
    exact hacts.config
  have hrun : (log (.dial mode n) >>= fun _ => netConnectIpv4 host port) env w = (.ok sock, w') := hconnect
  have hgrown : w'.trace = w.trace ++ [.dial mode n, .connect host port sock] := by simp [htrace, World.log]
  rw [hrun]
  refine ⟨⟨hconfig ▸ hw.config, ?_⟩, by simp, fun _ _ => trivial⟩
  rw [hgrown]
  exact hw.trace.network h

/-! ## What is sent -/

theorem netSendFrom_upholds (sock : Int) (n : Nat) {data : Bytes}
    (h : startup.Unbroken → ∀ rest, rest <:+ data → MaySend startup env rest) :
    Upholds env (Vetted startup env) (netSendFrom sock n data) fun _ => True := by
  induction n generalizing data with
  | zero => cases data <;> exact upholds_pure trivial
  | succ n ih =>
    cases data with
    | nil => exact upholds_pure trivial
    | cons c data =>
      refine (ask_upholds _).bind fun rc _ => ?_
      have hsent : startup.Unbroken → MaySend startup env (c :: data) := fun hstartup => h hstartup _ (List.suffix_refl _)
      refine Upholds.bind (log_upholds ⟨trivial, hsent⟩) fun _ _ => ?_
      refine upholds_ite (fun _ => upholds_pure trivial) fun _ => ?_
      apply ih
      intro hstartup rest hrest
      exact h hstartup rest (hrest.trans (List.drop_suffix _ _))

/-- A line of the bot's own, or one that a command asks for. -/
theorem ircSendLine_upholds (sock : Int) {line : Bytes}
    (h : startup.Unbroken → ∀ rest, rest <:+ line → MaySend startup env rest) :
    Upholds env (Vetted startup env) (ircSendLine sock line) fun _ => True := by
  refine Upholds.bind (netSendFrom_upholds sock _ h) fun rc _ => upholds_ite (fun _ => upholds_pure trivial) fun _ => ?_
  apply netSendFrom_upholds
  intro _ rest hrest
  exact .crlf hrest

theorem maySend_line {line rest : Bytes} (hline : LineFits line) (h : rest <:+ line) : MaySend startup env rest :=
  .line ⟨h.length_le.trans hline.length, fun hlf => hline.unbroken (h.subset hlf)⟩

theorem sendFormatted_upholds (sock : Int) {line : Bytes} (h : startup.Unbroken → LF ∉ line) :
    Upholds env (Vetted startup env) (sendFormatted sock line) fun _ => True := by
  refine upholds_ite (fun hfits => ?_) fun _ => upholds_pure trivial
  refine (ircSendLine_upholds sock fun hstartup rest hrest => ?_).bind fun _ _ => upholds_pure trivial
  have hlength : line.length ≤ ircLineMax := by
    simp only [fits, Bool.and_eq_true, decide_eq_true_eq] at hfits
    exact Nat.lt_succ_iff.1 hfits.2
  exact maySend_line ⟨hlength, h hstartup⟩ hrest

theorem snprintf_line {line : Bytes} (h : startup.Unbroken → LF ∉ line) :
    startup.Unbroken → ∀ rest, rest <:+ snprintf (ircLineMax + 1) line → MaySend startup env rest := by
  intro hstartup rest hrest
  exact maySend_line ⟨List.length_take_le _ _, fun hlf => h hstartup (List.mem_of_mem_take hlf)⟩ hrest

theorem sendJoins_upholds (sock : Int) {channels : List Bytes} (hcount : channels.length ≤ channelsMax)
    (h : ∀ channel ∈ channels, channel.length < 64) (hlines : startup.Unbroken → ∀ channel ∈ channels, LF ∉ channel) :
    Upholds env (Vetted startup env) (sendJoins sock channels) fun _ => True := by
  refine Upholds.bind (log_upholds ⟨⟨hcount, h⟩, trivial⟩) fun _ _ => upholds_each fun channel hchannel => ?_
  apply sendFormatted_upholds
  intro hstartup
  have hword : LF ∉ ascii "JOIN " := by decide
  rw [List.mem_append, not_or]
  exact ⟨hword, hlines hstartup channel hchannel⟩

theorem ircSendRegistration_upholds (sock : Int) {nick user pass : Bytes}
    (h : startup.Unbroken → LF ∉ nick ∧ LF ∉ user ∧ LF ∉ pass) :
    Upholds env (Vetted startup env) (ircSendRegistration sock nick user pass) fun _ => True := by
  have hwords : LF ∉ ascii "PASS " ∧ LF ∉ ascii "NICK " ∧ LF ∉ ascii "USER " ∧ LF ∉ ascii " 0 * :AmBot" := by decide
  refine Upholds.bind (Q := fun _ => True) (upholds_ite (fun _ => ?_) fun _ => upholds_pure trivial) fun _ _ => ?_
  · apply ircSendLine_upholds
    apply snprintf_line
    intro hstartup
    rw [List.mem_append, not_or]
    exact ⟨hwords.1, (h hstartup).2.2⟩
  refine upholds_ite (fun _ => upholds_pure trivial) fun _ => ?_
  refine (ircSendLine_upholds sock (snprintf_line fun hstartup => ?_)).bind fun _ _ => ?_
  · rw [List.mem_append, not_or]
    exact ⟨hwords.2.1, (h hstartup).1⟩
  refine upholds_ite (fun _ => upholds_pure trivial) fun _ => ?_
  refine (ircSendLine_upholds sock (snprintf_line fun hstartup => ?_)).bind fun _ _ => ?_
  · rw [List.mem_append, List.mem_append, not_or, not_or]
    exact ⟨⟨hwords.2.2.1, (h hstartup).2.1⟩, hwords.2.2.2⟩
  exact upholds_ite (fun _ => upholds_pure trivial) fun _ => upholds_pure trivial

/-! ## The BotAI service -/

theorem httpRequest_upholds {botai : BotAi} (hclient : Client startup env botai) {method endpoint : Bytes}
    {body : Option Bytes} (hasks : Asks botai (httpText botai method endpoint body)) (size : Nat) :
    Upholds env (Vetted startup env) (httpRequest botai method endpoint body size) fun _ => True := by
  unfold httpRequest
  cases hrequest : httpPrepare botai method endpoint body with
  | none => exact upholds_pure trivial
  | some request =>
    have hmade : botai.enabled = true ∧ httpText botai method endpoint body = request := by
      unfold httpPrepare at hrequest
      split at hrequest
      · cases hrequest
      rename_i henabled
      split at hrequest
      · cases hrequest
      · exact ⟨by simpa using henabled, Option.some.inj (Option.ite_none_right_eq_some.1 hrequest).2⟩
    obtain ⟨henabled, hsame⟩ := hmade
    have hsent : startup.Unbroken → ∀ rest, rest <:+ request → MaySend startup env rest := by
      rintro - rest hrest
      rw [← hsame] at hrest
      exact .request hclient hasks hrest
    refine (connectService_upholds hclient henabled).bind fun sock _ => ?_
    refine upholds_ite (fun _ => upholds_pure trivial) fun _ => (netSendFrom_upholds sock _ hsent).bind fun rc _ => ?_
    refine upholds_ite (fun _ => (netCloseSocket_upholds _).bind fun _ _ => upholds_pure trivial) fun _ => ?_
    refine Upholds.bind (dull_upholds (by decide) (httpReceive_total _ _ _ _ _) (httpReceive_keeps _ _ _ _ _))
      fun received _ => ?_
    cases received with
    | none => exact upholds_pure trivial
    | some used =>
      refine (netCloseSocket_upholds _).bind fun _ _ => upholds_ite (fun _ => upholds_pure trivial) fun _ => ?_
      exact upholds_ite (fun _ => upholds_pure trivial) fun _ => upholds_pure trivial

theorem Client.checked {botai : BotAi} (h : Client startup env botai) (compatible : Bool) :
    Client startup env { botai with compatible } := by
  obtain ⟨config, _, hconfig, rfl⟩ := h
  exact ⟨config, compatible, hconfig, rfl⟩

theorem botaiCheck_upholds {botai : BotAi} (hclient : Client startup env botai) :
    Upholds env (Vetted startup env) (botaiCheck botai) fun r => Client startup env r.2 := by
  refine (httpRequest_upholds hclient .version _).bind fun response _ => ?_
  split
  · exact upholds_pure (hclient.checked false)
  · exact upholds_ite (fun _ => upholds_pure (hclient.checked true)) fun _ => upholds_pure (hclient.checked false)

/-- The text of a chat that succeeds is one line. -/
theorem botaiChat_upholds {botai : BotAi} (hclient : Client startup env botai) (message : Bytes) (replySize : Nat) :
    Upholds env (Vetted startup env) (botaiChat botai message replySize) fun r => r.1 = 0 → LF ∉ r.2 := by
  have htold : Returns (botaiChat botai message replySize) fun r => r.1 = 0 → LF ∉ r.2 := by
    rintro env w ⟨rc, reply⟩ w' hrun hrc hlf
    obtain ⟨stream, -, -, body, -, hanswer⟩ := (botaiChat_told hrun).1 hrc
    exact absurd (hanswer.printable.2 LF hlf) (by decide)
  have hchat : Upholds env (Vetted startup env) (botaiChat botai message replySize) fun _ => True := by
    unfold botaiChat
    split
    · exact upholds_pure trivial
    rename_i body hbody
    refine (httpRequest_upholds hclient (.chat hbody) _).bind fun response _ => ?_
    cases response with
    | none => exact upholds_pure trivial
    | some response => exact upholds_pure trivial
  exact (hchat.returns htold).mono fun r hr => hr.2

/-! ## Replies -/

theorem sendReply_upholds (context : CommandContext) {target text : Bytes} (htarget : LF ∉ target) (htext : LF ∉ text) :
    Upholds env (Vetted startup env) (sendReply context target text) fun _ => True :=
  sendFormatted_upholds context.sock fun _ => replyLine_no_lf htarget htext

theorem commandsHandleEvent_upholds {botai : BotAi} (hclient : Client startup env botai) {event : Event}
    (hevent : event.Fits) (context : CommandContext) :
    Upholds env (Vetted startup env) (commandsHandleEvent botai event context) fun _ => True := by
  have htarget : LF ∉ replyTarget event context := by
    unfold replyTarget
    split
    · exact hevent.nickLine
    · exact hevent.targetLine
  have reply {text : Bytes} (htext : LF ∉ text) :
      Upholds env (Vetted startup env) (sendReply context (replyTarget event context) text) fun _ => True :=
    sendReply_upholds context htarget htext
  unfold commandsHandleEvent
  refine upholds_ite (fun _ => upholds_pure trivial) fun _ => upholds_ite (fun _ => upholds_pure trivial) fun _ => ?_
  split
  · exact reply (by decide)
  rename_i command _
  refine upholds_ite (fun _ => reply (by decide)) fun _ => ?_
  cases command with
  | HELP => exact reply (by decide)
  | STATUS =>
    apply reply
    split
    · decide
    · decide
  | VERSION => exact reply (by decide)
  | AI =>
    refine upholds_ite (fun _ => reply (by decide)) fun _ => upholds_ite (fun _ => reply (by decide)) fun _ => ?_
    refine (botaiChat_upholds hclient _ _).bind fun r hr => upholds_ite (fun _ => reply (by decide)) fun hrc => ?_
    exact reply (hr (not_not.1 hrc))

/-! ## The ARexx commands -/

theorem setResult_fits (text : Bytes) : (setResult text).length < operationResultMax := copyValue_lt (by decide) text

/-- What a command asks for, where it has been put to the port. -/
theorem requestRun_upholds {tick : Nat} {message : Bytes} (hmessage : message ∈ env.messages tick)
    {request : PortRequest} (hrequest : requestOf (cstr message) = request) :
    Upholds env (Vetted startup env) request.run fun r => r.2.length < operationResultMax := by
  have operation {f : Control → Bytes × Control} (hf : ∀ control, (f control).1.length < operationResultMax) :
      Upholds env (Vetted startup env) (controlOperation f) fun r => r.2.length < operationResultMax :=
    (read_upholds _).bind fun control _ => (modifyControl_upholds _).bind fun _ _ => upholds_pure (hf control)
  cases request with
  | refuse message => exact upholds_pure (setResult_fits message)
  | status => exact (read_upholds _).bind fun control _ => upholds_pure (setResult_fits _)
  | connect =>
    refine operation fun control => ?_
    unfold operationConnect
    split
    · exact setResult_fits _
    · exact setResult_fits _
  | disconnect => exact operation fun control => setResult_fits _
  | reload => exact operation fun control => setResult_fits _
  | quit => exact operation fun control => setResult_fits _
  | line text =>
    refine (read_upholds _).bind fun control _ => upholds_ite (fun _ => upholds_pure (setResult_fits _)) fun _ => ?_
    refine upholds_ite (fun _ => upholds_pure (setResult_fits _)) fun _ => ?_
    have hsent : startup.Unbroken → ∀ rest, rest <:+ text → MaySend startup env rest := fun _ rest hrest =>
      .command hmessage hrequest hrest
    refine (ircSendLine_upholds _ hsent).bind fun rc _ => ?_
    exact upholds_ite (fun _ => upholds_pure (setResult_fits _)) fun _ => upholds_pure (setResult_fits _)

theorem rexxProcess_upholds : Upholds env (Vetted startup env) rexxProcess fun _ => True := by
  refine (ask_answers _).bind fun messages hanswer => upholds_each fun message hmessage => ?_
  obtain ⟨tick, rfl⟩ := hanswer
  unfold rexxAnswer
  dsimp only
  rw [dispatchCommand_eq]
  exact (requestRun_upholds hmessage rfl).bind fun r hr => log_upholds ⟨hr, trivial⟩

theorem scriptWaitLoop_upholds : Upholds env (Vetted startup env) scriptWaitLoop fun _ => True := by
  refine (read_upholds _).bind fun fuel _ => upholds_loop (X := fun _ => True) fuel (fun _ _ => ?_) trivial
  refine (ask_upholds _).bind fun r _ => (upholds_when rexxProcess_upholds).bind fun _ _ => upholds_pure ?_
  split
  · trivial
  · trivial

/-- A hook script of a configuration in force. -/
theorem hooksDispatchEvent_upholds {config : Config} (hconfig : InForce startup env config) {dir : Bytes}
    (hdir : dir ∈ config.hookDirs) (event : Event) :
    Upholds env (Vetted startup env) (hooksDispatchEvent event { scriptDir := dir }) fun _ => True := by
  unfold hooksDispatchEvent
  split
  · exact upholds_pure trivial
  rename_i script hscript
  refine upholds_ite (fun _ => upholds_pure trivial) fun _ => (ask_upholds _).bind fun found _ => ?_
  refine upholds_ite (fun _ => upholds_pure trivial) fun _ => Upholds.bind (Q := fun _ => True) ?_ fun _ _ =>
    upholds_pure trivial
  refine (ask_upholds _).bind fun ready _ => upholds_ite (fun _ => upholds_pure trivial) fun _ => ?_
  split
  · exact upholds_pure trivial
  rename_i command hcommand
  refine (ask_upholds _).bind fun made _ => upholds_ite (fun _ => upholds_pure trivial) fun _ => ?_
  have hfits : command.length < rexxScriptCommandMax := by
    obtain ⟨hlength, hsame⟩ := Option.ite_none_right_eq_some.1 hcommand
    rw [← Option.some.inj hsame]
    exact hlength
  have hruns : RunsHook config.hookDirs command := ⟨dir, hdir, event, script, hscript, hcommand⟩
  refine Upholds.bind (log_upholds ⟨hfits, config, hconfig, hruns⟩) fun _ _ => ?_
  exact scriptWaitLoop_upholds.bind fun _ _ => ask_upholds _

/-! ## Lines and events -/

theorem dispatchEvent_upholds {config : Config} (hconfig : InForce startup env config) {dir : Bytes}
    (hdir : dir ∈ config.hookDirs) {botai : BotAi} (hclient : Client startup env botai) (commands : CommandContext)
    {event : Event} (hevent : event.Fits) :
    Upholds env (Vetted startup env) (dispatchEvent botai commands { scriptDir := dir } event) fun _ => True := by
  refine (read_upholds _).bind fun control _ => Upholds.bind (log_upholds ⟨hevent, trivial⟩) fun _ _ => ?_
  refine (commandsHandleEvent_upholds hclient hevent commands).bind fun _ _ => ?_
  exact hooksDispatchEvent_upholds hconfig hdir event

theorem eventDispatchPending_upholds {handler : Event → M Unit}
    (h : ∀ event, event.Fits → Upholds env (Vetted startup env) (handler event) fun _ => True) (n : Nat)
    {queue : EventQueue} (hqueue : queue.Fits) :
    Upholds env (Vetted startup env) (eventDispatchPending handler n queue) EventQueue.Fits := by
  induction n generalizing queue with
  | zero => exact upholds_pure hqueue
  | succ n ih =>
    unfold eventDispatchPending
    split
    · exact upholds_pure hqueue
    · rename_i event queue' hpop
      obtain ⟨hevent, hqueue'⟩ := eventQueuePop_fits hqueue hpop
      exact (h event hevent).bind fun _ _ => ih hqueue'

/-- Received bytes, with what is known of the user data between two lines. -/
theorem framerFeed_upholds {σ : Type} {X : σ → Prop} {callback : Bytes → σ → M (Int × σ)}
    (h : ∀ line user, LineFits line → X user →
      Upholds env (Vetted startup env) (callback line user) fun r => X r.2)
    (data : Bytes) {framer : IrcFramer} (hframer : framer.Fits) {user : σ} (huser : X user) :
    Upholds env (Vetted startup env) (framerFeed callback data framer user) fun r => r.1.Fits ∧ X r.2 := by
  induction data generalizing framer user with
  | nil => exact upholds_pure ⟨hframer, huser⟩
  | cons ch data ih =>
    obtain ⟨framer', line, hbyte, hframer', hline⟩ := framerByte_fits hframer ch
    unfold framerFeed
    rw [hbyte]
    cases line with
    | none => exact ih hframer' huser
    | some line =>
      refine (h line user (hline line rfl) huser).bind fun r hr => ?_
      exact upholds_ite (fun _ => upholds_pure ⟨hframer', hr⟩) fun _ => ih hframer' hr

/-- The answer to a line that asks for one. -/
theorem sendPong_upholds (sock : Int) {line : Bytes} (hline : LineFits line) :
    Upholds env (Vetted startup env) (sendPong sock (cstr line)) fun _ => True := by
  apply sendFormatted_upholds
  intro _
  have hword : LF ∉ ascii "PONG " := by decide
  rw [List.mem_append, not_or]
  exact ⟨hword, fun hlf => hline.cstr.unbroken (List.mem_of_mem_drop hlf)⟩

/-! ## One network of several -/

/-- A runtime that is set up from a network of a configuration in force. -/
structure Runs (startup : SessionConfig) (env : Env) (runtime : NetworkRuntime) : Prop where
  fits : runtime.Fits
  listed : ∃ config, InForce startup env config ∧ runtime.config ∈ (networksFromConfig config).2.items
  hooks : 0 ≤ runtime.sock → runtime.hooks.scriptDir = runtime.config.hookDir

variable {runtime : NetworkRuntime} {botai : BotAi}

theorem Runs.hookDir (h : Runs startup env runtime) :
    ∃ config, InForce startup env config ∧ runtime.config.hookDir ∈ config.hookDirs := by
  obtain ⟨config, hconfig, hlisted⟩ := h.listed
  exact ⟨config, hconfig, List.mem_cons_of_mem _ (List.mem_map_of_mem hlisted)⟩

theorem Runs.unbroken (h : Runs startup env runtime) (hstartup : startup.Unbroken) : runtime.config.Unbroken := by
  obtain ⟨config, hconfig, hlisted⟩ := h.listed
  exact networksFromConfig_unbroken (hconfig.unbroken hstartup) hlisted

/-- The same network, with other fields that fit. -/
theorem Runs.change {runtime' : NetworkRuntime} (h : Runs startup env runtime)
    (hconfig : runtime'.config = runtime.config) (hframer : runtime'.framer.Fits) (hevents : runtime'.events.Fits)
    (hhooks : 0 ≤ runtime'.sock → runtime'.hooks.scriptDir = runtime.config.hookDir) : Runs startup env runtime' where
  fits := ⟨hconfig ▸ h.fits.config, hframer, hevents⟩
  listed := by
    rw [hconfig]
    exact h.listed
  hooks hsock := by
    rw [hconfig]
    exact hhooks hsock

theorem modernIrcStart_upholds (sock : Int) (config : NetworkConfig) :
    Upholds env (Vetted startup env) (modernIrcStart sock config) fun _ => True := by
  have hwords : (ascii "CAP LS 302").length ≤ ircLineMax ∧ LF ∉ ascii "CAP LS 302" := by decide
  refine upholds_ite (fun _ => ?_) fun _ => upholds_pure trivial
  refine (ircSendLine_upholds sock fun _ rest hrest => ?_).bind fun _ _ => upholds_pure trivial
  exact maySend_line ⟨hwords.1, hwords.2⟩ hrest

theorem modernIrcAnswer_upholds {line : Bytes} (hline : LineFits line) (sock : Int) (config : NetworkConfig)
    (state : ModernIrc) : Upholds env (Vetted startup env) (modernIrcAnswer sock config state line) fun _ => True := by
  refine Upholds.bind (log_upholds ⟨hline.length, trivial⟩) fun _ _ => ?_
  rw [modernIrcHandleLine_eq]
  have hsent :
      Upholds env (Vetted startup env) (carryOut sock config state (reading config state line)) fun _ => True := by
    refine Upholds.bind (Q := fun _ => True) ?_ fun _ _ => upholds_pure trivial
    cases hsends : (reading config state line).sends config with
    | none => exact upholds_pure trivial
    | some text => exact ircSendLine_upholds sock fun _ rest hrest => maySend_line (sends_lineFits hsends) hrest
  refine hsent.bind fun r _ => ?_
  exact Upholds.bind (log_upholds ⟨trivial, trivial⟩) fun _ _ => upholds_pure trivial

theorem multinetHandleLine_upholds (hclient : Client startup env botai) {bytes : Bytes} (hbytes : LineFits bytes)
    (h : Runs startup env runtime) :
    Upholds env (Vetted startup env) (multinetHandleLine botai bytes runtime) fun r => Runs startup env r.2 := by
  unfold multinetHandleLine
  refine upholds_ite (fun _ => upholds_pure h) fun hopen => ?_
  refine (modernIrcAnswer_upholds hbytes.cstr _ _ _).bind fun r _ => ?_
  obtain ⟨rc, modern⟩ := r
  have hevents {events : EventQueue} (hfits : events.Fits) : Runs startup env { runtime with modern, events } :=
    h.change rfl h.fits.framer hfits h.hooks
  have hmodern : Runs startup env { runtime with modern } := hevents h.fits.events
  refine upholds_ite (fun _ => ?_) fun _ => upholds_ite (fun _ => ?_) fun _ => ?_
  · refine (netCloseSocket_upholds _).bind fun _ _ => upholds_pure ?_
    exact h.change rfl h.fits.framer h.fits.events (by simp)
  · exact (sendPong_upholds _ hbytes).bind fun _ _ => upholds_pure hmodern
  dsimp only
  split
  · exact upholds_pure hmodern
  rename_i event hevent
  have hpushed := eventQueuePush_fits h.fits.events (eventFromIrcLine_fits hbytes.cstr.unbroken hevent)
  refine upholds_ite (fun _ => upholds_pure (hevents hpushed)) fun _ => ?_
  obtain ⟨config, hconfig, hdir⟩ := h.hookDir
  have handler (event : Event) (hfits : event.Fits) :
      Upholds env (Vetted startup env) (dispatchEvent botai runtime.commands runtime.hooks event) fun _ => True := by
    rw [show runtime.hooks = { scriptDir := runtime.config.hookDir } by rw [← h.hooks (Int.not_lt.1 hopen)]]
    exact dispatchEvent_upholds hconfig hdir hclient runtime.commands hfits
  exact (eventDispatchPending_upholds handler _ hpushed).bind fun events hfits => upholds_pure (hevents hfits)

theorem connectRuntime_upholds (h : Runs startup env runtime) :
    Upholds env (Vetted startup env) (connectRuntime runtime) fun r => Runs startup env r.2 := by
  unfold connectRuntime
  refine upholds_ite (fun _ => upholds_pure h) fun hvalid => ?_
  obtain ⟨config, hconfig, hlisted⟩ := h.listed
  refine (dial_upholds (.multi hconfig hlisted (not_not.1 hvalid))).bind_pair fun sock _ => ?_
  refine upholds_ite (fun hfailed => upholds_pure ?_) fun _ => ?_
  · exact h.change rfl h.fits.framer h.fits.events fun hsock => absurd hsock (Int.not_le.2 hfailed)
  refine (modernIrcStart_upholds _ _).bind fun r _ => ?_
  obtain ⟨rc, modern⟩ := r
  have hset : Runs startup env { runtime.connected sock with modern } :=
    h.change rfl ircFramerInit_fits eventQueueInit_fits fun _ => rfl
  refine Upholds.bind (Q := fun _ => True) (upholds_ite (fun _ => upholds_pure trivial) fun _ => ?_) fun rc _ => ?_
  · apply ircSendRegistration_upholds
    intro hstartup
    have hlines := h.unbroken hstartup
    exact ⟨hlines.nick, hlines.user, hlines.pass⟩
  refine upholds_ite (fun _ => (netCloseSocket_upholds _).bind fun _ _ => upholds_pure ?_) fun _ => ?_
  · exact h.change rfl ircFramerInit_fits eventQueueInit_fits (by simp)
  · have hlines : startup.Unbroken → ∀ channel ∈ runtime.config.channels, LF ∉ channel := fun hstartup =>
      (h.unbroken hstartup).channel
    exact (sendJoins_upholds _ h.fits.config.channels h.fits.config.channel hlines).bind fun _ _ => upholds_pure hset

/-! ## The table -/

/-- The entries of the table. -/
structure Tables (startup : SessionConfig) (env : Env) (slots : List Slot) : Prop where
  count : slots.length ≤ networksMax
  slot : ∀ slot ∈ slots, Runs startup env slot.runtime

theorem Tables.fits {slots : List Slot} (h : Tables startup env slots) :
    slots.length ≤ networksMax ∧ ∀ slot ∈ slots, slot.runtime.Fits :=
  ⟨h.count, fun slot hslot => (h.slot slot hslot).fits⟩

variable {slot : Slot}

theorem setFirstSocket_upholds (i : Nat) (sock : Int) :
    Upholds env (Vetted startup env) (setFirstSocket i sock) fun _ => True := upholds_when (modifyControl_upholds _)

theorem decrement_upholds (n : Nat) : Upholds env (Vetted startup env) (decrement n) fun _ => True :=
  dull_upholds (by decide) (total_ite ((log_total _).bind fun _ => total_pure _) (total_pure _)) (decrement_keeps n)

theorem takeTurn_upholds (i : Nat) (hslot : Runs startup env slot.runtime) {step : M (Counters × Slot)}
    (h : Upholds env (Vetted startup env) step fun r => Runs startup env r.2.runtime) :
    Upholds env (Vetted startup env) (takeTurn i slot step) fun r => Runs startup env r.2.runtime := by
  refine Upholds.bind (log_upholds ⟨hslot.fits, trivial⟩) fun _ _ => h.bind fun r hr => ?_
  obtain ⟨c, slot'⟩ := r
  exact Upholds.bind (log_upholds ⟨hr.fits, trivial⟩) fun _ _ => upholds_pure hr

theorem runtimeInit_runs {config : Config} (hconfig : InForce startup env config) {n : NetworkConfig}
    (hn : n ∈ (networksFromConfig config).2.items) : Runs startup env (runtimeInit n) where
  fits := ⟨networksFromConfig_fits hconfig.fits hn, ircFramerInit_fits, eventQueueInit_fits⟩
  listed := ⟨config, hconfig, hn⟩
  hooks hsock := absurd hsock (by simp [runtimeInit])

theorem startNetwork_upholds (i : Nat) (c : Counters) {n : NetworkConfig} (h : Runs startup env (runtimeInit n)) :
    Upholds env (Vetted startup env) (startNetwork i c n) fun r => Runs startup env r.2.runtime := by
  refine takeTurn_upholds i h ((connectRuntime_upholds h).bind fun r hr => ?_)
  obtain ⟨result, runtime⟩ := r
  cases result with
  | ok => exact upholds_pure hr
  | retry =>
    refine (ask_upholds _).bind fun now _ => upholds_pure ?_
    exact hr.change rfl hr.fits.framer hr.fits.events hr.hooks
  | permanent => exact upholds_pure hr

theorem retryNetwork_upholds (now : Int) (i : Nat) (c : Counters) (h : Runs startup env slot.runtime) :
    Upholds env (Vetted startup env) (retryNetwork now i c slot) fun r => Runs startup env r.2.runtime := by
  refine upholds_ite (fun _ => upholds_pure h) fun _ => ?_
  refine takeTurn_upholds i h ((connectRuntime_upholds h).bind fun r hr => ?_)
  obtain ⟨result, runtime⟩ := r
  have hkept : ∀ (enabled : Bool) (wait : Nat) (at_ : Int),
      Runs startup env { runtime with retryEnabled := enabled, retryWait := wait, retryAt := at_ } :=
    fun _ _ _ => hr.change rfl hr.fits.framer hr.fits.events hr.hooks
  cases result with
  | ok =>
    refine (decrement_upholds _).bind fun retrying _ => (setFirstSocket_upholds _ _).bind fun _ _ => upholds_pure ?_
    exact hkept false _ _
  | retry => exact upholds_pure (hkept _ _ _)
  | permanent => exact (decrement_upholds _).bind fun retrying _ => upholds_pure (hkept false _ _)

theorem receiveNetwork_upholds (hclient : Client startup env botai) (ready : List Bool) (i : Nat) (c : Counters) (h : Runs startup env slot.runtime) :
    Upholds env (Vetted startup env) (receiveNetwork botai ready i c slot) fun r => Runs startup env r.2.runtime := by
  have lose : Upholds env (Vetted startup env) (loseNetwork i c slot) fun r => Runs startup env r.2.runtime := by
    refine (netCloseSocket_upholds _).bind fun _ _ => (setFirstSocket_upholds _ _).bind fun _ _ => ?_
    refine (ask_upholds _).bind fun now _ => upholds_pure ?_
    exact h.change rfl h.fits.framer h.fits.events (by simp)
  refine upholds_ite (fun _ => upholds_pure h) fun _ => takeTurn_upholds i h ?_
  refine (dull_upholds (by decide) (netRecv_total _ _) (netRecv_keeps _ _)).bind fun received _ => ?_
  split
  · exact lose
  · exact lose
  · refine (framerFeed_upholds (fun line runtime hline => multinetHandleLine_upholds hclient hline) _ h.fits.framer h).bind
      fun r hr => ?_
    obtain ⟨framer, runtime⟩ := r
    obtain ⟨hframer, hruns⟩ := hr
    have hfed : Runs startup env { runtime with framer } := hruns.change rfl hframer hruns.fits.events hruns.hooks
    refine upholds_ite (fun _ => ?_) fun _ => upholds_pure hfed
    exact (setFirstSocket_upholds _ _).bind fun _ _ => upholds_pure hfed

theorem multinetServe_upholds (hclient : Client startup env botai) (ready : List Bool) {s : MultinetState} (h : Tables startup env s.slots) :
    Upholds env (Vetted startup env) (multinetServe botai ready s) fun s => Tables startup env s.slots := by
  have table {slots slots' : List Slot} (hcount : slots.length ≤ networksMax)
      (hslots : slots'.length = slots.length ∧ ∀ slot ∈ slots', Runs startup env slot.runtime) :
      Tables startup env slots' := ⟨hslots.1 ▸ hcount, hslots.2⟩
  refine Upholds.bind (Q := fun r => Tables startup env r.2) (upholds_ite (fun _ => ?_) fun _ => upholds_pure h)
    fun r hr => ?_
  · refine (ask_upholds _).bind fun now _ => (read_upholds _).bind fun control _ => ?_
    refine Upholds.bind (log_upholds ⟨h.fits, trivial⟩) fun _ _ => ?_
    refine (upholds_sweep (Y := fun slot => Runs startup env slot.runtime)
      (fun i c slot hslot => retryNetwork_upholds now i c hslot) 0 s.counters h.slot).mono fun r hr => ?_
    exact table h.count hr
  · refine (upholds_sweep (Y := fun slot => Runs startup env slot.runtime)
      (fun i c slot hslot => receiveNetwork_upholds hclient ready i c hslot) 0 r.1 hr.slot).bind fun r' hr' => upholds_pure ?_
    exact table hr.count hr'

theorem multinetStop_upholds (s : MultinetState) : Upholds env (Vetted startup env) (multinetStop s) fun _ => True := by
  refine Upholds.bind (upholds_each fun slot _ => ?_) fun _ _ => (modifyControl_upholds _).bind fun _ _ =>
    upholds_pure trivial
  exact upholds_ite (fun _ => netCloseSocket_upholds _) fun _ => upholds_pure trivial

theorem multinetRound_upholds (hclient : Client startup env botai) {s : MultinetState}
    (h : Tables startup env s.slots) :
    Upholds env (Vetted startup env) (multinetRound botai s)
      (Sum.elim (fun s : MultinetState => Tables startup env s.slots) fun _ => True) := by
  have stop : Upholds env (Vetted startup env) (do let result ← multinetStop s; pure (.inr result))
      (Sum.elim (fun s : MultinetState => Tables startup env s.slots) fun _ => True) :=
    (multinetStop_upholds s).bind fun _ _ => upholds_pure trivial
  refine (read_upholds _).bind fun control _ => upholds_ite (fun _ => stop) fun _ => ?_
  refine Upholds.bind (log_upholds ⟨h.fits, trivial⟩) fun _ _ => upholds_ite (fun _ => upholds_pure trivial) fun _ => ?_
  refine (netWaitMany_upholds _ _).bind fun result _ => (upholds_when rexxProcess_upholds).bind fun _ _ => ?_
  refine (read_upholds _).bind fun control _ => Upholds.bind (log_upholds ⟨h.fits, trivial⟩) fun _ _ => ?_
  refine upholds_ite (fun _ => upholds_pure trivial) fun _ => upholds_ite (fun _ => ?_) fun _ => ?_
  · refine Upholds.bind (log_upholds ⟨trivial, trivial⟩) fun _ _ => (modifyControl_upholds _).bind fun _ _ => stop
  · refine upholds_ite (fun _ => upholds_pure trivial) fun _ => ?_
    exact (multinetServe_upholds hclient _ h).bind fun s hs => upholds_pure hs

theorem multinetRun_upholds {config : Config} (hconfig : InForce startup env config) (hclient : Client startup env botai) :
    Upholds env (Vetted startup env) (multinetRun (networksFromConfig config).2 botai) fun _ => True := by
  refine Upholds.bind (Q := fun s : MultinetState => Tables startup env s.slots) ?_ fun s hs => ?_
  · refine (upholds_sweep (Y := fun slot => Runs startup env slot.runtime)
      (fun i c n hn => startNetwork_upholds i c hn) 0 _ fun n hn => runtimeInit_runs hconfig hn).bind fun r hr => ?_
    have htable : Tables startup env r.2 := ⟨hr.1 ▸ (networksFromConfig config).2.bound, hr.2⟩
    refine (read_upholds _).bind fun control _ => Upholds.bind (log_upholds ⟨htable.fits, trivial⟩) fun _ _ => ?_
    exact (upholds_when (modifyControl_upholds _)).bind fun _ _ => upholds_pure htable
  · exact (read_upholds _).bind fun fuel _ => upholds_loop fuel (fun s hs => multinetRound_upholds hclient hs) hs

/-! ## One network alone -/

theorem loadConfig_upholds {path : Bytes} (hpath : startup.Names path) :
    Upholds env (Vetted startup env) (loadConfig path) fun _ => True := by
  refine getConfig_upholds.bind fun config hconfig => ?_
  refine Upholds.bind (Q := fun file => ∃ tick, file = env.file tick) ?_ fun file hfile => ?_
  · exact fun w hw => ⟨⟨hw.config, hw.trace⟩, nofun, fun file hfile => ⟨w.tick, (Except.ok.inj hfile).symm⟩⟩
  obtain ⟨tick, rfl⟩ := hfile
  have hloaded : InForce startup env (configLoad config path (env.file tick)).2 := .load tick hconfig hpath
  dsimp only
  refine Upholds.bind (log_upholds ⟨trivial, hpath⟩) fun _ _ => Upholds.bind (Q := fun _ => True) ?_ fun _ _ =>
    upholds_pure trivial
  exact upholds_modify fun w hw => ⟨hloaded, hw.trace⟩

theorem processReload_upholds : Upholds env (Vetted startup env) processReload fun _ => True := by
  refine (read_upholds _).bind fun control _ => upholds_ite (fun _ => ?_) fun _ => upholds_pure trivial
  refine (modifyControl_upholds _).bind fun _ _ => getConfig_upholds.bind fun config hconfig => ?_
  refine upholds_ite (fun _ => upholds_pure trivial) fun hsome => ?_
  exact (loadConfig_upholds (hconfig.path.resolve_left hsome)).bind fun _ _ => upholds_pure trivial

theorem emitLifecycle_upholds (type : EventType) (reason : Bytes) :
    Upholds env (Vetted startup env) (emitLifecycle type reason) fun _ => True :=
  getConfig_upholds.bind fun _ hconfig => hooksDispatchEvent_upholds hconfig List.mem_cons_self _

theorem sessionHandleLine_upholds (sock : Int) {bytes : Bytes} (hbytes : LineFits bytes) {queue : EventQueue}
    (h : queue.Fits) : Upholds env (Vetted startup env) (sessionHandleLine sock bytes queue) fun r => r.2.Fits := by
  refine upholds_ite (fun _ => (sendPong_upholds _ hbytes).bind fun _ _ => upholds_pure h) fun _ => ?_
  split
  · exact upholds_pure h
  · rename_i event hevent
    exact upholds_pure (eventQueuePush_fits h (eventFromIrcLine_fits hbytes.cstr.unbroken hevent))

/-- The framer and the queue of a connected session. -/
structure SessionState.Fits (s : SessionState) : Prop where
  framer : s.framer.Fits
  events : s.events.Fits

theorem sessionFeed_upholds (hclient : Client startup env botai) (sock : Int) (data : Bytes) {s : SessionState} (h : s.Fits) :
    Upholds env (Vetted startup env) (sessionFeed botai sock data s) SessionState.Fits := by
  refine (framerFeed_upholds (fun line queue hline => sessionHandleLine_upholds sock hline) data h.framer h.events).bind
    fun r hr => ?_
  obtain ⟨framer, events⟩ := r
  refine (eventDispatchPending_upholds (fun event hevent => ?_) _ hr.2).bind fun events hevents =>
    upholds_pure ⟨hr.1, hevents⟩
  exact getConfig_upholds.bind fun config hconfig =>
    dispatchEvent_upholds hconfig List.mem_cons_self hclient _ hevent

theorem connectedRound_upholds (hclient : Client startup env botai) (sock : Int) {s : SessionState} (h : s.Fits) :
    Upholds env (Vetted startup env) (connectedRound botai sock s) (Sum.elim SessionState.Fits fun _ => True) := by
  have ends (rc : Int) : Upholds env (Vetted startup env) (do setSocket (-1); pure (.inr rc) : M (SessionState ⊕ Int))
      (Sum.elim SessionState.Fits fun _ => True) := (modifyControl_upholds _).bind fun _ _ => upholds_pure trivial
  unfold connectedRound
  refine ctrlCRequested_upholds.bind fun ctrlC _ => (read_upholds _).bind fun control _ => ?_
  refine upholds_ite (fun _ => ends 0) fun _ => Upholds.bind (log_upholds ⟨trivial, trivial⟩) fun _ _ => ?_
  refine (netWaitMany_upholds _ _).bind fun result _ => ?_
  refine (upholds_when (rexxProcess_upholds.bind fun _ _ => processReload_upholds)).bind fun _ _ => ?_
  refine upholds_ite (fun _ => ?_) fun _ => (read_upholds _).bind fun control _ => ?_
  · exact Upholds.bind (log_upholds ⟨trivial, trivial⟩) fun _ _ => (modifyControl_upholds _).bind fun _ _ => ends 0
  refine upholds_ite (fun _ => ends 0) fun _ => upholds_ite (fun _ => ends (-1)) fun _ => ?_
  refine upholds_ite (fun _ => upholds_pure h) fun _ => ?_
  refine (dull_upholds (by decide) (netRecv_total _ _) (netRecv_keeps _ _)).bind fun received _ => ?_
  split
  · exact ends (-1)
  · exact ends (-1)
  · exact (sessionFeed_upholds hclient sock _ h).bind fun s hs => upholds_pure hs

theorem runConnectedSession_upholds (hclient : Client startup env botai) (sock : Int) :
    Upholds env (Vetted startup env) (runConnectedSession botai sock) fun _ => True := by
  refine (modifyControl_upholds _).bind fun _ _ => (read_upholds _).bind fun control _ => ?_
  refine Upholds.bind (log_upholds ⟨trivial, trivial⟩) fun _ _ => (modifyControl_upholds _).bind fun _ _ => ?_
  refine getConfig_upholds.bind fun config hconfig => ?_
  have hlines (hstartup : startup.Unbroken) : config.toSettings.Unbroken := (hconfig.unbroken hstartup).settings
  refine (ircSendRegistration_upholds sock fun hstartup =>
    ⟨(hlines hstartup).nick, (hlines hstartup).user, (hlines hstartup).pass⟩).bind fun rc _ => ?_
  refine upholds_ite (fun _ => (modifyControl_upholds _).bind fun _ _ => upholds_pure trivial) fun _ => ?_
  refine (sendJoins_upholds sock hconfig.fits.settings.channels hconfig.fits.settings.channel fun hstartup =>
    (hlines hstartup).channel).bind fun _ _ => ?_
  refine (read_upholds _).bind fun fuel _ => upholds_loop fuel (fun s hs => connectedRound_upholds hclient sock hs) ?_
  exact ⟨ircFramerInit_fits, eventQueueInit_fits⟩

theorem delay_upholds (ticks : Nat) : Upholds env (Vetted startup env) (delay ticks) fun _ => True :=
  log_upholds ⟨trivial, trivial⟩

theorem reconnectDelayFrom_upholds (n ticks : Nat) :
    Upholds env (Vetted startup env) (reconnectDelayFrom n ticks) fun _ => True := by
  induction n generalizing ticks with
  | zero => exact upholds_pure trivial
  | succ n ih =>
    refine (read_upholds _).bind fun control _ => upholds_ite (fun _ => upholds_pure trivial) fun _ => ?_
    refine ctrlCRequested_upholds.bind fun ctrlC _ => upholds_ite (fun _ => upholds_pure trivial) fun _ => ?_
    refine rexxProcess_upholds.bind fun _ _ => processReload_upholds.bind fun _ _ => ?_
    refine (read_upholds _).bind fun control _ => ?_
    refine upholds_ite (fun _ => upholds_pure trivial) fun _ => ?_
    exact (delay_upholds _).bind fun _ _ => ih _

theorem reconnectLater_upholds (backoff : Nat) :
    Upholds env (Vetted startup env) (reconnectLater backoff) fun _ => True := by
  refine (read_upholds _).bind fun control _ => upholds_ite (fun _ => ?_) fun _ => upholds_pure trivial
  exact (reconnectDelayFrom_upholds _ _).bind fun _ _ => upholds_pure trivial

theorem stopped_upholds (quit : Bool) :
    Upholds env (Vetted startup env) (if quit then pure true else ctrlCRequested) fun _ => True :=
  upholds_ite (fun _ => upholds_pure trivial) fun _ => ctrlCRequested_upholds

theorem disconnectReason_upholds (rc : Int) : Upholds env (Vetted startup env) (disconnectReason rc) fun _ => True := by
  refine (read_upholds _).bind fun control _ => upholds_ite (fun _ => upholds_pure trivial) fun _ => ?_
  refine (stopped_upholds _).bind fun stopped _ => upholds_ite (fun _ => upholds_pure trivial) fun _ => ?_
  exact upholds_ite (fun _ => upholds_pure trivial) fun _ => upholds_pure trivial

theorem serveConnection_upholds (hclient : Client startup env botai) (sock : Int) :
    Upholds env (Vetted startup env) (serveConnection botai sock) fun _ => True := by
  refine (modifyControl_upholds _).bind fun _ _ => (emitLifecycle_upholds _ _).bind fun _ _ => ?_
  refine (runConnectedSession_upholds hclient sock).bind fun rc _ => (netCloseSocket_upholds _).bind fun _ _ => ?_
  refine (modifyControl_upholds _).bind fun _ _ => (disconnectReason_upholds rc).bind fun reason _ => ?_
  refine (emitLifecycle_upholds _ _).bind fun _ _ => (read_upholds _).bind fun control _ => ?_
  refine (stopped_upholds _).bind fun stopped _ => upholds_ite (fun _ => upholds_pure trivial) fun _ => ?_
  refine (read_upholds _).bind fun control _ => upholds_ite (fun _ => ?_) fun _ => ?_
  · exact (modifyControl_upholds _).bind fun _ _ => upholds_pure trivial
  · exact (modifyControl_upholds _).bind fun _ _ => reconnectLater_upholds 1

theorem sessionRound_upholds (hclient : Client startup env botai) (backoff : Nat) :
    Upholds env (Vetted startup env) (sessionRound botai backoff) fun _ => True := by
  refine ctrlCRequested_upholds.bind fun ctrlC _ => (read_upholds _).bind fun control _ => ?_
  refine upholds_ite (fun _ => upholds_pure trivial) fun _ => rexxProcess_upholds.bind fun _ _ => ?_
  refine processReload_upholds.bind fun _ _ => (read_upholds _).bind fun control _ => ?_
  refine upholds_ite (fun _ => ?_) fun _ => ?_
  · exact (delay_upholds 5).bind fun _ _ => upholds_pure trivial
  refine getConfig_upholds.bind fun config hconfig => (dial_upholds (.single hconfig)).bind_pair fun sock _ => ?_
  exact upholds_ite (fun _ => serveConnection_upholds hclient sock) fun _ => reconnectLater_upholds backoff

/-! ## Several networks -/

theorem waitForConnect_upholds (reload : Bool) :
    Upholds env (Vetted startup env) (waitForConnect reload) fun _ => True := by
  refine (read_upholds _).bind fun fuel _ => upholds_loop (X := fun _ => True) fuel (fun _ _ => ?_) trivial
  refine (read_upholds _).bind fun control _ => upholds_ite (fun _ => upholds_pure trivial) fun _ => ?_
  refine ctrlCRequested_upholds.bind fun ctrlC _ => upholds_ite (fun _ => upholds_pure trivial) fun _ => ?_
  exact rexxProcess_upholds.bind fun _ _ => (delay_upholds 5).bind fun _ _ => upholds_pure trivial

theorem waitToRebuild_upholds (n : Nat) : Upholds env (Vetted startup env) (waitToRebuild n) fun _ => True := by
  induction n with
  | zero => exact upholds_pure trivial
  | succ n ih =>
    refine (read_upholds _).bind fun control _ => upholds_ite (fun _ => upholds_pure trivial) fun _ => ?_
    refine ctrlCRequested_upholds.bind fun ctrlC _ => upholds_ite (fun _ => upholds_pure trivial) fun _ => ?_
    refine rexxProcess_upholds.bind fun _ _ => (read_upholds _).bind fun control _ => ?_
    exact upholds_ite (fun _ => upholds_pure trivial) fun _ => (delay_upholds 5).bind fun _ _ => ih

theorem reloadRequestedConfig_upholds : Upholds env (Vetted startup env) reloadRequestedConfig fun _ => True := by
  refine (read_upholds _).bind fun control _ => getConfig_upholds.bind fun config hconfig => ?_
  refine upholds_ite (fun hsome => (modifyControl_upholds _).bind fun _ _ => ?_) fun _ => upholds_pure trivial
  have hpath : config.path ≠ [] := by
    simp only [Bool.and_eq_true, decide_eq_true_eq] at hsome
    exact hsome.2
  exact loadConfig_upholds (hconfig.path.resolve_left hpath)

theorem afterMultinet_upholds (result : MultinetResult) :
    Upholds env (Vetted startup env) (afterMultinet result) fun _ => True := by
  unfold afterMultinet
  refine (read_upholds _).bind fun control _ => (stopped_upholds _).bind fun stopped _ => ?_
  refine upholds_ite (fun _ => upholds_pure trivial) fun _ => upholds_ite (fun _ => ?_) fun _ => ?_
  · refine (modifyControl_upholds _).bind fun _ _ => getConfig_upholds.bind fun config hconfig => ?_
    refine upholds_ite (fun _ => upholds_pure trivial) fun hsome => ?_
    exact (loadConfig_upholds (hconfig.path.resolve_left hsome)).bind fun rc _ => upholds_pure trivial
  refine upholds_ite (fun _ => ?_) fun _ => upholds_ite (fun _ => ?_) fun _ => upholds_ite (fun _ => ?_) fun _ => ?_
  · refine (modifyControl_upholds _).bind fun _ _ => ?_
    exact (waitForConnect_upholds false).bind fun _ _ => upholds_pure trivial
  · refine (modifyControl_upholds _).bind fun _ _ => (waitForConnect_upholds true).bind fun _ _ => ?_
    exact reloadRequestedConfig_upholds.bind fun rc _ => upholds_pure trivial
  · exact (waitToRebuild_upholds 50).bind fun _ _ => reloadRequestedConfig_upholds.bind fun rc _ => upholds_pure trivial
  · exact upholds_pure trivial

theorem m7Round_upholds (hclient : Client startup env botai) : Upholds env (Vetted startup env) (m7Round botai ()) fun _ => True := by
  refine ctrlCRequested_upholds.bind fun ctrlC _ => (read_upholds _).bind fun control _ => ?_
  refine upholds_ite (fun _ => upholds_pure trivial) fun _ => getConfig_upholds.bind fun config hconfig => ?_
  refine upholds_ite (fun _ => upholds_pure trivial) fun _ => ?_
  refine Upholds.bind (log_upholds ⟨trivial, trivial⟩) fun _ _ => ?_
  refine (modifyControl_upholds _).bind fun _ _ => (multinetRun_upholds hconfig hclient).bind fun result _ => ?_
  exact afterMultinet_upholds result

/-! ## A whole session -/

theorem runNetworks_upholds (hclient : Client startup env botai) : Upholds env (Vetted startup env) (runNetworks botai) fun _ => True := by
  refine getConfig_upholds.bind fun config _ => upholds_ite (fun _ => ?_) fun _ => ?_
  · refine Upholds.bind (Q := fun _ => True) ?_ fun rc _ =>
      (modifyControl_upholds _).bind fun _ _ => upholds_pure trivial
    refine (read_upholds _).bind fun fuel _ => upholds_loop (X := fun _ => True) fuel (fun _ _ => ?_) trivial
    refine (m7Round_upholds hclient).mono fun r _ => ?_
    cases r <;> trivial
  · refine (read_upholds _).bind fun fuel _ => Upholds.bind (Q := fun _ => True) ?_ fun rc _ =>
      (modifyControl_upholds _).bind fun _ _ => upholds_pure trivial
    refine upholds_loop (X := fun _ => True) fuel (fun backoff _ => ?_) trivial
    refine (sessionRound_upholds hclient backoff).mono fun r _ => ?_
    cases r <;> trivial

theorem startBotai_upholds : Upholds env (Vetted startup env) startBotai (Client startup env) := by
  refine getConfig_upholds.bind fun config hconfig => upholds_ite (fun hnone => upholds_pure ?_) fun _ => ?_
  · refine ⟨config, false, hconfig, ?_⟩
    rw [hnone]
    rfl
  have hclient : Client startup env (botaiConfigure config.botaiUrl config.botaiExpert config.botaiTimeoutSeconds).2 :=
    ⟨config, _, hconfig, rfl⟩
  refine upholds_ite (fun _ => upholds_pure hclient) fun _ => ?_
  exact (botaiCheck_upholds hclient).bind fun r hr => upholds_pure hr

/-- A session from its second call on: the first one makes its configuration. -/
theorem sessionRun_upholds (startup : SessionConfig) (env : Env) (config : Config) :
    Vetted startup env (sessionRun startup env (worldInit config)).2 ∧
      (sessionRun startup env (worldInit config)).1 ≠ .error .fault := by
  unfold sessionRun setConfig
  have hseeded : Vetted startup env { worldInit config with
      config := configSeed startup.host startup.port startup.nick startup.user startup.pass startup.ownerNick } := by
    constructor
    · exact InForce.seed
    · exact .nil
  refine upholds_after (Q := fun _ => True) ?_ hseeded
  refine Upholds.bind (Q := fun _ => True) (upholds_ite (fun _ => loadConfig_upholds (.inl rfl)) fun _ =>
    upholds_pure trivial) fun rc _ => ?_
  refine getConfig_upholds.bind fun config _ => upholds_ite (fun _ => upholds_pure trivial) fun _ => ?_
  refine upholds_ite (fun _ => upholds_pure trivial) fun _ => (modifyControl_upholds _).bind fun _ _ => ?_
  refine (ask_upholds _).bind fun rexxOpen _ => upholds_ite (fun _ => upholds_pure trivial) fun _ => ?_
  refine (ask_upholds _).bind fun netOpen _ => upholds_ite (fun _ => upholds_pure trivial) fun _ => ?_
  exact startBotai_upholds.bind fun botai hclient => runNetworks_upholds hclient

/-- Whatever is in the configuration file and whatever arrives on the sockets
and at the port: no byte is stored outside the framer's line, and every
structure of the session, each time it is logged, and its configuration at the
end fit their arrays. -/
theorem sessionRun_fits (startup : SessionConfig) (env : Env) (config : Config) :
    (sessionRun startup env (worldInit config)).1 ≠ .error .fault ∧
    (sessionRun startup env (worldInit config)).2.config.Fits ∧
    ∀ o ∈ (sessionRun startup env (worldInit config)).2.trace, o.Fits := by
  obtain ⟨hvetted, hsafe⟩ := sessionRun_upholds startup env config
  exact ⟨hsafe, hvetted.config.fits, hvetted.trace.fits⟩

/-- Whatever arrives from the network, from the BotAI service and in the file:
a send of a session gets a line of the bot's own or the rest of one, which is
one IRC line, the CR LF behind it, the line of an ARexx command as that says it,
or a request of its client to the BotAI service. -/
theorem sessionRun_sends_lines (startup : SessionConfig) (env : Env) (config : Config) (hstartup : startup.Unbroken) :
    ∀ sock data rc, .send sock data rc ∈ (sessionRun startup env (worldInit config)).2.trace → MaySend startup env data := by
  obtain ⟨hvetted, -⟩ := sessionRun_upholds startup env config
  intro sock data rc hmem
  exact hvetted.trace.sourced _ hmem (by simp [Obs.kind]) hstartup

def plainStartup : SessionConfig :=
  { host := ascii "irc", port := 6667, nick := ascii "AmBot", user := [], pass := [], ownerNick := [], configPath := [] }

theorem sessionRun_sends_lines_nick :
    let env := { Env.online with fuel := 1, rexxOpen := fun _ => true, netOpen := fun _ => true }
    .send 3 (ascii "NICK AmBot") 512 ∈ (sessionRun plainStartup env (worldInit configInit)).2.trace ∧
      MaySend plainStartup env (ascii "NICK AmBot") := by
  intro env
  have hstartup : plainStartup.Unbroken := ⟨by decide, by decide, by decide⟩
  have hsent : .send 3 (ascii "NICK AmBot") 512 ∈ (sessionRun plainStartup env (worldInit configInit)).2.trace := by
    decide +kernel
  exact ⟨hsent, sessionRun_sends_lines plainStartup env configInit hstartup 3 _ 512 hsent⟩

end AmBot
