import AmBot.Fields
import AmBot.Handles
import AmBot.Machines
/-!
# The life of a connection

What hook scripts and ARexx commands can rely on with a single network.
`lifeStep` reads the trace of the session and refuses an entry that does not
belong where the connection is. `ON_CONNECT` is run before the bot registers
and `ON_DISCONNECT` once the socket is closed, neither more than once for a
connection; the hook of an IRC event is run after that event's command, at most
once and with that event as its arguments. What is sent after a hook, before
the bot goes on, is sent for ARexx commands. Without a connection nothing is
sent, and with one everything is sent on its socket, but for a request to the
BotAI service: that is made at the start of the session or for an `!AI`
command, on a connection of its own, which is closed before anything else goes
on.
-/

namespace AmBot

open RunLib RunLib.Prog

/-- The command of a hook script for an event. -/
def HookOf (event : Event) (command : Bytes) : Prop :=
  ∃ dir script, scriptName event.type = some script ∧
    scriptCommand (dir ++ ascii "/" ++ script) [eventTypeName event.type, event.nick, event.target, event.text] =
      some command

/-- The command of a hook script for the start or the end of a connection, with
one of these reasons. -/
def LifecycleHook (type : EventType) (reasons : List Bytes) (command : Bytes) : Prop :=
  ∃ event : Event, event.type = type ∧ event.text ∈ reasons ∧ HookOf event command

/-- The reasons of `ambot_session_run` for the end of a connection. -/
def endReasons : List Bytes := [ascii "requested", ascii "stopped", ascii "connection-lost", ascii "disconnected"]

/-- The events that come from the network. -/
def EventType.FromIrc (type : EventType) : Prop := type ≠ .connect ∧ type ≠ .disconnect

/-- An event whose command is `!AI`. -/
def AsksBotai (event : Event) : Prop := isCommand event = true ∧ findCommand (commandName event.text).1 = some .AI

/-! ## The machine -/

/-- Where the connection of a session is: `dialling` is about to connect,
`greeted` has run `ON_CONNECT`, `handling` has been given the event and can
still run its hook, `hooked` has run it, `asking` talks to the service and then
goes `back`, and `parted` can still run `ON_DISCONNECT`. After a hook the bot is
`sending` for an ARexx command until that is answered. -/
inductive Life where
  | starting
  | idle
  | dialling
  | opened (sock : Int)
  | greeted (sock : Int) (sending : Bool)
  | registering (sock : Int)
  | online (sock : Int)
  | handling (sock : Int) (event : Event)
  | hooked (sock : Int) (sending : Bool)
  | asking (service : Int) (back : Life)
  | parted

section
open Classical

/-- How a connected session goes on after an event: with the next one, with the
next round, or with the end of the connection. -/
noncomputable def goesOn (sock : Int) : Obs → Option Life
  | .event event _ => if event.type.FromIrc then some (.handling sock event) else none
  | .session fd _ => if fd = sock then some (.online sock) else none
  | .close fd => if fd = sock then some .parted else none
  | .ctrlC => some (.online sock)
  | _ => none

/-- What a connected session does in a round. -/
noncomputable def onlineStep (sock : Int) : Obs → Option Life
  | .send fd _ _ => if fd = sock then some (.online sock) else none
  | .recv fd _ => if fd = sock then some (.online sock) else none
  | .wait fds _ => if fds = [sock] then some (.online sock) else none
  | .rexx .. | .load .. => some (.online sock)
  | o => goesOn sock o

/-- The machine, with one case for each entry it can take in a state. -/
noncomputable def lifeStep : Life → Obs → Option Life
  | .starting, .load .. => some .starting
  | .starting, .connect _ _ fd => some (if 0 ≤ fd then .asking fd .idle else .idle)
  | .starting, .dial .. | .idle, .dial .. | .parted, .dial .. => some .dialling
  | .starting, .rexx .. | .starting, .delay _ | .starting, .ctrlC => some .idle
  | .idle, .rexx .. | .idle, .load .. | .idle, .delay _ | .idle, .ctrlC => some .idle
  | .parted, .rexx .. | .parted, .load .. | .parted, .delay _ => some .idle
  | .parted, .ctrlC => some .parted
  | .parted, .script command => if LifecycleHook .disconnect endReasons command then some .idle else none
  | .dialling, .connect _ _ fd => some (if 0 ≤ fd then .opened fd else .idle)
  | .opened sock, .script command =>
    if LifecycleHook .connect [ascii "connected"] command then some (.greeted sock false) else none
  | .greeted sock _, .rexx .. => some (.greeted sock false)
  | .greeted sock _, .send fd _ _ => if fd = sock then some (.greeted sock true) else none
  | .opened sock, .register _ | .greeted sock false, .register _ => some (.registering sock)
  | .registering sock, .send fd _ _ | .registering sock, .join fd _ =>
    if fd = sock then some (.registering sock) else none
  | .registering sock, .ctrlC => some (.registering sock)
  | .registering sock, .session fd _ => if fd = sock then some (.online sock) else none
  | .registering sock, .close fd => if fd = sock then some .parted else none
  | .online sock, o => onlineStep sock o
  | .handling sock event, .connect _ _ fd =>
    if AsksBotai event then some (if 0 ≤ fd then .asking fd (.handling sock event) else .handling sock event) else none
  | .handling sock event, .send fd _ _ => if fd = sock then some (.handling sock event) else none
  | .handling sock event, .script command => if HookOf event command then some (.hooked sock false) else none
  | .handling sock _, o => goesOn sock o
  | .hooked sock _, .rexx .. => some (.hooked sock false)
  | .hooked sock _, .send fd _ _ => if fd = sock then some (.hooked sock true) else none
  | .hooked sock false, o => goesOn sock o
  | .asking service back, .send fd _ _ => if fd = service then some (.asking service back) else none
  | .asking service back, .recv fd _ => if fd = service then some (.asking service back) else none
  | .asking service back, .wait fds _ => if fds = [service] then some (.asking service back) else none
  | .asking service back, .close fd => if fd = service then some back else none
  | _, _ => none

end

/-- No connection. -/
def Away (life : Life) : Prop := life = .starting ∨ life = .idle ∨ life = .parted

/-- A connected session, not in the middle of a request to the service. -/
def Attached (sock : Int) (life : Life) : Prop :=
  life = .online sock ∨ life = .hooked sock false ∨ ∃ event, life = .handling sock event

/-- The connection is there, and the socket of the control block is `c`. -/
structure Lives (t : List Obs) (c : Int) (P : Life → Prop) (w : World) : Prop where
  control : w.control.sock = c
  life : Within lifeStep .starting t P w.trace

/-- A program that leaves the connection there. -/
abbrev LivesIn (t : List Obs) (c : Int) (P : Life → Prop) {α : Type} (m : M α) : Prop :=
  Triple (Lives t c P) m (fun _ => Lives t c P) (Told lifeStep .starting t)

variable {t : List Obs} {α : Type} {P Q : Life → Prop} {c sock : Int} {o : Obs} {S : List Kind}
  {mine : List Int} {m : M α}

theorem Lives.mono {w : World} (h : Lives t c P w) (hPQ : ∀ life, P life → Q life) : Lives t c Q w :=
  ⟨h.control, h.life.mono hPQ⟩

theorem admits_one {life life' : Life} (h : lifeStep life o = some life') :
    Admits lifeStep (· = life) o (· = life') := by
  rintro _ rfl
  exact ⟨life', h, rfl⟩

theorem log_lives (h : Admits lifeStep P o Q) :
    Triple (Lives t c P) (log o) (fun _ => Lives t c Q) (Told lifeStep .starting t) :=
  triple_modify fun _ hw => ⟨hw.control, hw.life.snoc h⟩

theorem modifyControl_lives {f : Control → Control} (h : ∀ control, (f control).sock = control.sock) :
    LivesIn t c P (modifyControl f) := triple_modify fun _ hw => ⟨(h _).trans hw.control, hw.life⟩

theorem setSocket_lives (sock : Int) :
    Triple (Lives t c P) (setSocket sock) (fun _ => Lives t sock P) (Told lifeStep .starting t) :=
  triple_modify fun _ hw => ⟨rfl, hw.life⟩

/-- The socket an entry uses is one of `mine`, or one that is open of `shared`. -/
def UsesOnly (mine shared : List Int) (o : Obs) : Prop := ∀ fd, o.uses = some fd → fd ∈ mine ∨ fd ∈ shared ∧ 0 ≤ fd

/-- What talks on these sockets only, where the machine takes all that. -/
theorem talks_lives (rexx : Bool) (hS : .connect ∉ S) (hacts : Keeps (Acts S) m) (htalks : Keeps (Talks rexx mine) m)
    (h : ∀ o : Obs, o.kind ∈ S → UsesOnly mine (if rexx then [c] else []) o → Admits lifeStep P o P) :
    LivesIn t c P m := by
  have hkeeps (env : Env) (w : World) (hw : Lives t c P w) : Lives t c P (m env w).2 := by
    obtain ⟨hsock, new, hnew, hkinds, hlaw⟩ := acts_talked hacts htalks env w
    refine ⟨hsock.trans hw.control, ?_⟩
    rw [hnew]
    apply hw.life.append
    intro o ho
    apply h o (hkinds o ho)
    intro fd hfd
    obtain ⟨before, after, rfl⟩ := List.append_of_mem ho
    rcases hlaw before o after rfl fd hfd with hmine | ⟨-, host, port, hconnect⟩ | ⟨-, hshared, hopen⟩
    · exact .inl hmine
    · exact absurd (hkinds _ (List.mem_append_left _ hconnect)) hS
    · rw [← hw.control]
      exact .inr ⟨hshared, hopen⟩
  intro env w hw
  have hafter := hkeeps env w hw
  split
  · rename_i heq
    rw [heq] at hafter
    exact hafter
  · rename_i heq
    rw [heq] at hafter
    exact hafter.life.told

theorem quiet_lives (hS : .send ∉ S ∧ .recv ∉ S ∧ .connect ∉ S) (hacts : Keeps (Acts S) m)
    (h : ∀ o : Obs, o.kind ∈ S → Admits lifeStep P o P) : LivesIn t c P m := by
  have htalks : Keeps (Talks false []) m := quiet_talks ⟨hS.1, hS.2.1⟩ hacts
  exact talks_lives false hS.2.2 hacts htalks fun o ho _ => h o ho

theorem silent_lives (hacts : Keeps (Acts []) m) : LivesIn t c P m :=
  quiet_lives (by simp) hacts fun _ ho => absurd ho List.not_mem_nil

theorem ask_lives (f : Env → Nat → α) : LivesIn t c P (ask f) := silent_lives (keeps_ask f)

/-! ## What a state takes -/

/-- The entries of the ARexx commands, where there are any: what is sent for one,
and its answer, after which the connection is where it was. -/
def TakesCommands (c : Int) (P : Life → Prop) : Prop :=
  ∃ R : Life → Prop, (∀ life, P life → R life) ∧ (∀ data rc, 0 ≤ c → Admits lifeStep R (.send c data rc) R) ∧
    ∀ input rc result, Admits lifeStep R (.rexx input rc result) P

theorem Away.idle : Away .idle := .inr (.inl rfl)

theorem Away.parted : Away .parted := .inr (.inr rfl)

theorem away_admits (h : o.kind ∈ [.rexx, .load, .delay, .ctrlC]) : Admits lifeStep Away o Away := by
  rintro life (rfl | rfl | rfl)
  · cases o <;> first | exact ⟨_, rfl, .idle⟩ | exact ⟨_, rfl, .inl rfl⟩ | simp [Obs.kind] at h
  · cases o <;> first | exact ⟨_, rfl, .idle⟩ | simp [Obs.kind] at h
  · cases o <;> first | exact ⟨_, rfl, .idle⟩ | exact ⟨_, rfl, .parted⟩ | simp [Obs.kind] at h

/-- Without a connection there is nothing to send on. -/
theorem unsent_commands (h : ∀ input rc result, Admits lifeStep P (.rexx input rc result) P) :
    TakesCommands (-1) P := ⟨P, fun _ => id, fun _ _ hopen => absurd hopen (by decide), h⟩

theorem away_commands : TakesCommands (-1) Away := unsent_commands fun _ _ _ => away_admits (by simp [Obs.kind])

theorem online_commands : TakesCommands sock (· = .online sock) :=
  ⟨_, fun _ => id, fun _ _ _ => admits_one (if_pos rfl), fun _ _ _ => admits_one rfl⟩

/-- Commands after a hook. -/
theorem sending_commands {life : Bool → Life}
    (hsend : ∀ sending data rc, lifeStep (life sending) (.send sock data rc) = some (life true))
    (hrexx : ∀ sending input rc result, lifeStep (life sending) (.rexx input rc result) = some (life false)) :
    TakesCommands sock (· = life false) := by
  refine ⟨fun now => ∃ sending, now = life sending, fun _ hlife => ⟨false, hlife⟩, fun data rc _ => ?_,
    fun input rc result => ?_⟩
  · rintro _ ⟨sending, rfl⟩
    exact ⟨_, hsend sending data rc, true, rfl⟩
  · rintro _ ⟨sending, rfl⟩
    exact ⟨_, hrexx sending input rc result, rfl⟩

theorem greeted_commands : TakesCommands sock (· = .greeted sock false) :=
  sending_commands (fun _ _ _ => if_pos rfl) fun _ _ _ _ => rfl

theorem hooked_commands : TakesCommands sock (· = .hooked sock false) :=
  sending_commands (fun _ _ _ => if_pos rfl) fun _ _ _ _ => rfl

/-- A connected session goes on from wherever it is. -/
theorem attached_admits {life : Life} (h : goesOn sock o = some life) : Admits lifeStep (Attached sock) o (· = life) := by
  have hstep (now : Life) (hnow : Attached sock now) : lifeStep now o = some life := by
    cases o with
    | event => rcases hnow with rfl | rfl | ⟨event, rfl⟩ <;> exact h
    | session => rcases hnow with rfl | rfl | ⟨event, rfl⟩ <;> exact h
    | close => rcases hnow with rfl | rfl | ⟨event, rfl⟩ <;> exact h
    | ctrlC => rcases hnow with rfl | rfl | ⟨event, rfl⟩ <;> exact h
    | _ => cases h
  exact fun now hnow => ⟨life, hstep now hnow, rfl⟩

/-! ## Commands and scripts -/

/-- A command sends on the socket of the control block, if at all. -/
theorem dispatchCommand_lives (h : ∀ data rc, 0 ≤ c → Admits lifeStep P (.send c data rc) P) (input : Bytes) :
    LivesIn t c P (dispatchCommand input) := by
  have hcontrol {f : Control → Bytes × Control} (hf : ∀ control, (f control).2.sock = control.sock) :
      LivesIn t c P (controlOperation f) := fun _ w hw => ⟨(hf w.control).trans hw.control, hw.life⟩
  rw [dispatchCommand_eq]
  cases requestOf input with
  | refuse message => exact triple_pure fun _ => id
  | status => exact triple_same.bind fun _ => triple_pure fun _ => id
  | connect => exact hcontrol operationConnect_sock
  | disconnect => exact hcontrol fun _ => rfl
  | reload => exact hcontrol fun _ => rfl
  | quit => exact hcontrol fun _ => rfl
  | line text =>
    have htalks : Keeps (Talks true []) (operationSendRaw text) := operationSendRaw_talks text
    refine talks_lives true (by simp) (operationSendRaw_keeps text) htalks fun o ho huses => ?_
    cases o with
    | send fd data rc =>
      obtain ⟨rfl, hopen⟩ : fd = c ∧ 0 ≤ fd := by simpa using huses fd rfl
      exact h data rc hopen
    | _ => simp [Obs.kind] at ho

theorem rexxProcess_lives (h : TakesCommands c P) : LivesIn t c P rexxProcess := by
  obtain ⟨R, hPR, hsend, hanswer⟩ := h
  refine (ask_lives _).bind fun messages => triple_each (I := fun _ => Lives t c P) (fun message _ => ?_) messages
  refine Triple.bind (Q := fun _ => Lives t c R) ?_ fun r => ?_
  · exact (dispatchCommand_lives hsend _).pre fun _ hw => hw.mono hPR
  · obtain ⟨rc, result⟩ := r
    exact log_lives (hanswer _ _ _)

theorem scriptWaitLoop_lives (h : TakesCommands c P) : LivesIn t c P scriptWaitLoop := by
  refine triple_same.bind fun fuel =>
    triple_loop (I := fun _ => Lives t c P) fuel (fun _ => ?_) (fun _ _ hw => hw.life.told) ()
  refine (ask_lives _).bind fun r => ?_
  refine Triple.bind (Q := fun _ => Lives t c P) ?_ fun _ => triple_pure fun w hw => ?_
  · exact triple_ite (fun _ => rexxProcess_lives h) fun _ => triple_pure fun _ => id
  · split
    · exact hw
    · exact hw

/-- A hook, which is run or is not there. -/
theorem hooksDispatchEvent_lives {R : Life → Prop} {event : Event} (context : HookContext)
    (hscript : ∀ command, HookOf event command → Admits lifeStep P (.script command) Q) (hcommands : TakesCommands c Q)
    (hP : ∀ life, P life → R life) (hQ : ∀ life, Q life → R life) :
    Triple (Lives t c P) (hooksDispatchEvent event context) (fun _ => Lives t c R) (Told lifeStep .starting t) := by
  have hnone {β : Type} {b : β} :
      Triple (Lives t c P) (pure b : M β) (fun _ => Lives t c R) (Told lifeStep .starting t) :=
    triple_pure fun _ hw => hw.mono hP
  unfold hooksDispatchEvent
  split
  · exact hnone
  rename_i script hname
  refine triple_ite (fun _ => hnone) fun _ => (ask_lives _).bind fun found => triple_ite (fun _ => hnone) fun _ => ?_
  refine Triple.bind (Q := fun _ => Lives t c R) ?_ fun _ => triple_pure fun _ => id
  refine (ask_lives _).bind fun ready => triple_ite (fun _ => hnone) fun _ => ?_
  split
  · exact hnone
  rename_i command hcommand
  refine (ask_lives _).bind fun made => triple_ite (fun _ => hnone) fun _ => ?_
  refine (log_lives (hscript command ⟨context.scriptDir, script, hname, hcommand⟩)).bind fun _ => ?_
  refine (scriptWaitLoop_lives hcommands).bind fun _ => (ask_lives _).post fun _ w hw => hw.mono hQ

/-- The hook of the start or the end of a connection. -/
theorem emitLifecycle_lives {R : Life → Prop} {type : EventType} {reasons : List Bytes} {reason : Bytes}
    (hreason : reason ∈ reasons) (hreasons : ∀ reason ∈ reasons, reason.length < eventTextSize)
    (hscript : ∀ command, LifecycleHook type reasons command → Admits lifeStep P (.script command) Q)
    (hcommands : TakesCommands c Q) (hP : ∀ life, P life → R life) (hQ : ∀ life, Q life → R life) :
    Triple (Lives t c P) (emitLifecycle type reason) (fun _ => Lives t c R) (Told lifeStep .starting t) := by
  refine triple_same.bind fun config => hooksDispatchEvent_lives _ (fun command hcommand => ?_) hcommands hP hQ
  apply hscript
  refine ⟨_, rfl, ?_, hcommand⟩
  have htext : snprintf eventTextSize reason = reason :=
    List.take_of_length_le (Nat.le_pred_of_lt (hreasons reason hreason))
  exact htext.symm ▸ hreason

/-! ## The service -/

theorem netConnectIpv4_lives {R : Int → Life → Prop} {host : Bytes} {port : Nat}
    (h : ∀ fd, Admits lifeStep P (.connect host port fd) (R fd)) :
    Triple (Lives t c P) (netConnectIpv4 host port) (fun fd => Lives t c (R fd)) (Told lifeStep .starting t) := by
  intro env w hw
  obtain ⟨fd, w', hconnect, htrace⟩ := netConnectIpv4_logs host port env w
  have hacts := netConnectIpv4_keeps host port env w
  rw [hconnect] at hacts ⊢
  refine ⟨hacts.sock.trans hw.control, ?_⟩
  rw [htrace]
  exact hw.life.snoc (h fd)

theorem netCloseSocket_lives (hsock : 0 ≤ sock) (h : Admits lifeStep P (.close sock) Q) :
    Triple (Lives t c P) (netCloseSocket sock) (fun _ => Lives t c Q) (Told lifeStep .starting t) := by
  unfold netCloseSocket
  rw [if_pos hsock]
  exact log_lives h

section Asking
variable {service : Int} {back : Life}

/-- What a request sends and receives is on its own connection. -/
theorem own_lives (hS : S ⊆ [.send, .recv]) (hacts : Keeps (Acts S) m) (htalks : Keeps (Talks false [service]) m) :
    LivesIn t c (· = .asking service back) m := by
  refine talks_lives false (fun h => absurd (hS h) (by simp)) hacts htalks fun o ho huses => ?_
  have hfd {fd : Int} (h : o.uses = some fd) : fd = service := by simpa using huses fd h
  cases o with
  | send fd => exact admits_one (if_pos (hfd rfl))
  | recv fd => exact admits_one (if_pos (hfd rfl))
  | _ => exact absurd (hS ho) (by simp [Obs.kind])

theorem netWaitSocket_lives (timeout : Nat) :
    LivesIn t c (· = .asking service back) (netWaitSocket service timeout) := by
  refine Triple.bind (log_lives (admits_one (if_pos rfl))) fun _ => ?_
  exact (ask_lives _).bind fun _ => triple_pure fun _ => id

/-- The end of a request. -/
theorem closeService_lives (hservice : 0 ≤ service) :
    Triple (Lives t c (· = .asking service back)) (netCloseSocket service)
      (fun _ => Lives t c (· = back)) (Told lifeStep .starting t) :=
  netCloseSocket_lives hservice (admits_one (if_pos rfl))

theorem httpReceive_lives (hservice : 0 ≤ service) (timeout size n : Nat) (used : Bytes) :
    Triple (Lives t c (· = .asking service back)) (httpReceive service timeout size n used)
      (fun received => Lives t c (· = if received.isSome then .asking service back else back))
      (Told lifeStep .starting t) := by
  -- the loop closes the connection where it gives up
  induction n generalizing used with
  | zero => exact triple_pure fun _ => id
  | succ n ih =>
    unfold httpReceive
    refine triple_ite (fun _ => triple_pure fun _ => id) fun _ => (netWaitSocket_lives timeout).bind fun r => ?_
    refine triple_ite (fun _ => ?_) fun _ => ?_
    · exact (closeService_lives hservice).bind fun _ => triple_pure fun _ => id
    refine (own_lives (by decide) (netRecv_keeps _ _) (netRecv_talks (by simp) _)).bind fun received => ?_
    split
    · exact (closeService_lives hservice).bind fun _ => triple_pure fun _ => id
    · exact triple_pure fun _ => id
    · exact ih _

/-- A request, made and closed where the machine takes one. -/
theorem httpRequest_lives {R : Life → Prop}
    (hconnect : ∀ host port fd,
      Admits lifeStep P (.connect host port fd) (· = if 0 ≤ fd then .asking fd back else back))
    (hP : ∀ life, P life → R life) (hback : R back) (botai : BotAi) (method endpoint : Bytes) (body : Option Bytes)
    (size : Nat) :
    Triple (Lives t c P) (httpRequest botai method endpoint body size) (fun _ => Lives t c R)
      (Told lifeStep .starting t) := by
  have done {response : Option Bytes} : Triple (Lives t c (· = back)) (pure response : M (Option Bytes))
      (fun _ => Lives t c R) (Told lifeStep .starting t) := by
    refine triple_pure fun _ hw => hw.mono ?_
    rintro _ rfl
    exact hback
  unfold httpRequest
  split
  · exact triple_pure fun _ hw => hw.mono hP
  refine Triple.bind (netConnectIpv4_lives (hconnect _ _)) fun service => ?_
  by_cases hservice : 0 ≤ service
  · rw [if_pos hservice, if_neg (Int.not_lt.2 hservice)]
    refine (own_lives (by decide) (netSendAll_keeps _ _) (netSendAll_talks (by simp) _)).bind fun rc => ?_
    refine triple_ite (fun _ => (closeService_lives hservice).bind fun _ => done) fun _ => ?_
    refine (httpReceive_lives hservice _ _ _ _).bind fun received => ?_
    cases received with
    | none => exact done
    | some used =>
      refine (closeService_lives hservice).bind fun _ => triple_ite (fun _ => done) fun _ => ?_
      exact triple_ite (fun _ => done) fun _ => done
  · rw [if_neg hservice, if_pos (Int.not_le.1 hservice)]
    exact done

/-- A request while an event is handled. -/
theorem botaiChat_lives {event : Event} (hasks : AsksBotai event) (botai : BotAi) (message : Bytes) (size : Nat) :
    LivesIn t c (· = .handling sock event) (botaiChat botai message size) := by
  have hconnect (host : Bytes) (port : Nat) (fd : Int) :
      Admits lifeStep (· = .handling sock event) (.connect host port fd)
        (· = if 0 ≤ fd then .asking fd (.handling sock event) else .handling sock event) := admits_one (if_pos hasks)
  unfold botaiChat
  split
  · exact triple_pure fun _ => id
  refine (httpRequest_lives hconnect (fun _ => id) rfl _ _ _ _ _).bind fun response => ?_
  split
  · exact triple_pure fun _ => id
  · exact triple_pure fun _ => id

/-- The request at the start. -/
theorem startBotai_lives : Triple (Lives t c (· = .starting)) startBotai (fun _ => Lives t c Away)
    (Told lifeStep .starting t) := by
  have none {botai : BotAi} : Triple (Lives t c (· = .starting)) (pure botai : M BotAi) (fun _ => Lives t c Away)
      (Told lifeStep .starting t) := triple_pure fun _ hw => hw.mono fun _ => .inl
  refine triple_same.bind fun config => triple_ite (fun _ => none) fun _ => ?_
  split
  refine triple_ite (fun _ => none) fun _ => ?_
  refine Triple.bind (Q := fun _ => Lives t c Away) ?_ fun r => triple_pure fun _ => id
  have hrequest (botai : BotAi) (method endpoint : Bytes) (body : Option Bytes) (size : Nat) :=
    httpRequest_lives (t := t) (c := c) (fun _ _ _ => admits_one rfl) (fun _ => .inl) Away.idle botai method endpoint
      body size
  refine (hrequest _ _ _ _ _).bind fun response => ?_
  split
  · exact triple_pure fun _ => id
  · exact triple_ite (fun _ => triple_pure fun _ => id) fun _ => triple_pure fun _ => id

end Asking

/-! ## Events -/

/-- What is sent on the connection. -/
theorem sends_lives {life : Life} (h : ∀ data rc, lifeStep life (.send sock data rc) = some life)
    (hacts : Keeps (Acts [.send]) m) (htalks : Keeps (Talks false [sock]) m) : LivesIn t c (· = life) m := by
  refine talks_lives false (by simp) hacts htalks fun o ho huses => ?_
  cases o with
  | send fd =>
    obtain rfl : fd = sock := by simpa using huses fd rfl
    exact admits_one (h _ _)
  | _ => simp [Obs.kind] at ho

theorem commandsHandleEvent_lives (botai : BotAi) (event : Event) (context : CommandContext) :
    LivesIn t c (· = .handling context.sock event) (commandsHandleEvent botai event context) := by
  have reply (target text : Bytes) : LivesIn t c (· = .handling context.sock event) (sendReply context target text) :=
    sends_lives (fun _ _ => if_pos rfl) (sendReply_keeps _ _ _) (sendFormatted_talks (by simp) _)
  unfold commandsHandleEvent
  refine triple_ite (fun _ => triple_pure fun _ => id) fun hcommand => ?_
  refine triple_ite (fun _ => triple_pure fun _ => id) fun _ => ?_
  split
  · exact reply _ _
  rename_i command hfound
  refine triple_ite (fun _ => reply _ _) fun _ => ?_
  cases command with
  | HELP => exact reply _ _
  | STATUS => exact reply _ _
  | VERSION => exact reply _ _
  | AI =>
    have hasks : AsksBotai event := ⟨by simpa using hcommand, hfound⟩
    refine triple_ite (fun _ => reply _ _) fun _ => triple_ite (fun _ => reply _ _) fun _ => ?_
    exact (botaiChat_lives hasks _ _ _).bind fun r => triple_ite (fun _ => reply _ _) fun _ => reply _ _

/-- An event, its command and its hook. -/
theorem dispatchEvent_lives (botai : BotAi) (commands : CommandContext) (hooks : HookContext) {event : Event}
    (hevent : event.type.FromIrc) :
    LivesIn t commands.sock (Attached commands.sock) (dispatchEvent botai commands hooks event) := by
  refine triple_same.bind fun control => ?_
  refine Triple.bind (log_lives (attached_admits (if_pos hevent))) fun _ => ?_
  refine (commandsHandleEvent_lives botai event commands).bind fun _ => ?_
  refine hooksDispatchEvent_lives hooks (Q := (· = .hooked commands.sock false)) (fun command hcommand => ?_)
    hooked_commands ?_ ?_
  · exact admits_one (if_pos hcommand)
  · rintro _ rfl
    exact .inr (.inr ⟨event, rfl⟩)
  · rintro _ rfl
    exact .inr (.inl rfl)

end AmBot
