import AmBot.Exchange
import AmBot.Handshake
import AmBot.Rounds
import AmBot.RunLib.Until
/-!
# Who talks on which socket

A function sends and receives on the sockets it is given and on those it
opens. The ARexx commands, which a hook script may send in the middle of a
line, go to the socket of the control block.
-/

namespace AmBot

open RunLib RunLib.Prog

/-- The socket that is sent on or received from. -/
def Obs.uses : Obs → Option Int
  | .send fd _ _ => some fd
  | .recv fd _ => some fd
  | _ => none

/-- A socket that is used is one of `mine` or has been opened since, or an
ARexx command is sent on `shared`. -/
def OnSocket (mine shared : List Int) (before : List Obs) (o : Obs) : Prop :=
  ∀ fd, o.uses = some fd →
    fd ∈ mine ∨ (0 ≤ fd ∧ ∃ host port, .connect host port fd ∈ before) ∨ o.kind = .send ∧ fd ∈ shared ∧ 0 ≤ fd

/-- The sockets of the control block, where the ARexx commands come in. -/
def World.shared (rexx : Bool) (w : World) : List Int := if rexx then [w.control.sock] else []

/-- The control block keeps its socket, and what is logged is on a socket as
`OnSocket` says. -/
def Talks (rexx : Bool) (mine : List Int) (w w' : World) : Prop :=
  w'.control.sock = w.control.sock ∧ ∃ t, w'.trace = w.trace ++ t ∧ Lawful (OnSocket mine (w.shared rexx)) t

theorem OnSocket.mono {mine shared : List Int} {before before' : List Obs} {o : Obs} (h : OnSocket mine shared before o)
    (hbefore : before ⊆ before') : OnSocket mine shared before' o := by
  intro fd hfd
  rcases h fd hfd with hmine | ⟨hopen, host, port, hconnect⟩ | hshared
  · exact .inl hmine
  · exact .inr (.inl ⟨hopen, host, port, hbefore hconnect⟩)
  · exact .inr (.inr hshared)

instance (rexx : Bool) (mine : List Int) : IsPreorder World (Talks rexx mine) where
  refl _ := ⟨rfl, [], by simp, lawful_nil⟩
  trans := by
    rintro w₁ w₂ w₃ ⟨hsock, t, ht, hlaw⟩ ⟨hsock', t', ht', hlaw'⟩
    refine ⟨hsock'.trans hsock, t ++ t', by rw [ht', ht, List.append_assoc], lawful_append.2 ⟨hlaw, ?_⟩⟩
    have hshared : w₂.shared rexx = w₁.shared rexx := by rw [World.shared, World.shared, hsock]
    rw [hshared] at hlaw'
    exact hlaw'.mono fun before o _ _ ho => ho.mono (List.subset_append_right _ _)

theorem Answered.sock {c c' : Control} {input result : Bytes} {rc : Nat} (h : Answered c input rc result c') :
    c'.sock = c.sock := by
  cases h with
  | connect =>
    unfold operationConnect
    split
    · rfl
    · rfl
  | disconnect => rfl
  | reload => rfl
  | quit => rfl
  | other => rfl

theorem Acts.sock {S : List Kind} {w w' : World} (h : Acts S w w') : w'.control.sock = w.control.sock := by
  induction h with
  | refl => rfl
  | tail _ ha ih =>
    cases ha with
    | tick => exact ih
    | signal => exact ih
    | log => exact ih
    | answer i rc r c _ hanswered => exact hanswered.sock.trans ih

section
variable {α : Type} {S : List Kind} {rexx : Bool} {mine : List Int} {sock : Int}

theorem uses_kind {o : Obs} {fd : Int} (h : o.uses = some fd) : o.kind ∈ [.send, .recv] := by
  cases o with
  | send => simp [Obs.kind]
  | recv => simp [Obs.kind]
  | _ => cases h

/-- What is logged, with its kinds. -/
theorem acts_talked {m : M α} (hacts : Keeps (Acts S) m) (h : Keeps (Talks rexx mine) m) (env : Env) (w : World) :
    (m env w).2.control.sock = w.control.sock ∧ ∃ t, (m env w).2.trace = w.trace ++ t ∧ (∀ o ∈ t, o.kind ∈ S) ∧
      Lawful (OnSocket mine (w.shared rexx)) t := by
  obtain ⟨hsock, t, ht, hlaw⟩ := h env w
  obtain ⟨t', ht', hkinds⟩ := (hacts env w).logs
  obtain rfl := List.append_cancel_left (ht'.symm.trans ht)
  exact ⟨hsock, t', ht, hkinds, hlaw⟩

/-- What is logged uses no socket but those of `mine`. -/
theorem adds_talks {m : M α} (hacts : Keeps (Acts S) m)
    (hadds : Keeps (Along (Adds fun o => ∀ fd, o.uses = some fd → fd ∈ mine)) m) : Keeps (Talks rexx mine) m := by
  intro env w
  obtain ⟨t, ht, huses⟩ := hadds env w
  refine ⟨(hacts env w).sock, t, ht, ?_⟩
  rintro before o after rfl fd hfd
  exact .inl (huses o (by simp) fd hfd)

/-- What neither sends nor receives. -/
theorem quiet_talks (hS : .send ∉ S ∧ .recv ∉ S) {m : M α} (h : Keeps (Acts S) m) : Keeps (Talks rexx mine) m := by
  refine adds_talks h (acts_along (fun t o ho => adds_one fun fd hfd => ?_) h)
  rcases List.mem_cons.1 (uses_kind hfd) with hkind | hkind
  · exact absurd (hkind ▸ ho) hS.1
  · exact absurd (List.mem_singleton.1 hkind ▸ ho) hS.2

theorem ask_talks (f : Env → Nat → α) : Keeps (Talks rexx mine) (ask f) := fun _ w => refl_of (Talks rexx mine) w

theorem log_talks {o : Obs} (h : o.kind ∉ [.send, .recv, .rexx]) : Keeps (Talks rexx mine) (log o) := by
  have hkinds : o.kind ≠ .send ∧ o.kind ≠ .recv ∧ o.kind ≠ .rexx := by simpa using h
  refine quiet_talks (S := [o.kind]) ?_ (keeps_log ⟨by simp, hkinds.2.2⟩)
  simpa using ⟨Ne.symm hkinds.1, Ne.symm hkinds.2.1⟩

/-- What talks on the socket a connect returns, if it returns one. -/
theorem netConnectIpv4_talks (host : Bytes) (port : Nat) {m f : Int → M α} (hm : ∀ sock, Keeps (Talks rexx mine) (m sock))
    (hf : ∀ sock, Keeps (Talks rexx (sock :: mine)) (f sock)) : Keeps (Talks rexx mine) (do
      let sock ← netConnectIpv4 host port
      if sock < 0 then m sock else f sock) := by
  intro env w
  obtain ⟨sock, w₁, hconnect, htrace⟩ := netConnectIpv4_logs host port env w
  have hsock : w₁.control.sock = w.control.sock := by
    have hacts := netConnectIpv4_keeps host port env w
    rw [hconnect] at hacts
    exact hacts.sock
  have hshared : w₁.shared rexx = w.shared rexx := by rw [World.shared, World.shared, hsock]
  have hlog : Talks rexx mine w w₁ :=
    ⟨hsock, [.connect host port sock], htrace, (lawful_snoc (t := [])).2 ⟨lawful_nil, fun _ h => by cases h⟩⟩
  rw [bind_ok hconnect]
  by_cases hneg : sock < 0
  · rw [if_pos hneg]
    exact trans_of (Talks rexx mine) hlog (hm sock env w₁)
  rw [if_neg hneg]
  obtain ⟨hcontrol, t, ht, hlaw⟩ := hf sock env w₁
  refine ⟨hcontrol.trans hsock, [.connect host port sock] ++ t, by rw [ht, htrace, List.append_assoc], ?_⟩
  refine lawful_append.2 ⟨(lawful_snoc (t := [])).2 ⟨lawful_nil, fun _ h => by cases h⟩, ?_⟩
  rw [hshared] at hlaw
  refine hlaw.mono fun before o _ _ ho fd hfd => ?_
  rcases ho fd hfd with hmine | ⟨hopen, host', port', hconnect'⟩ | hrexx
  · rcases List.mem_cons.1 hmine with rfl | hmine
    · exact .inr (.inl ⟨Int.not_lt.1 hneg, host, port, by simp⟩)
    · exact .inl hmine
  · exact .inr (.inl ⟨hopen, host', port', List.mem_append_right _ hconnect'⟩)
  · exact .inr (.inr hrexx)

/-! ## Lines -/

theorem netSendFrom_adds {P : Obs → Prop} {sock : Int} (hP : ∀ data rc, P (.send sock data rc)) (n : Nat) (data : Bytes) :
    Keeps (Along (Adds P)) (netSendFrom sock n data) := by
  induction n generalizing data with
  | zero => cases data <;> exact keeps_pure _
  | succ n ih =>
    cases data with
    | nil => exact keeps_pure _
    | cons c data =>
      refine Keeps.bind (fun _ w => refl_of (Adds P) w.trace) fun rc => ?_
      exact Keeps.bind (fun _ _ => adds_one (hP _ rc)) fun _ => keeps_ite (keeps_pure _) (ih _)

theorem netSendAll_talks (h : sock ∈ mine) (data : Bytes) : Keeps (Talks rexx mine) (netSendAll sock data) := by
  refine adds_talks (netSendAll_keeps sock data) (netSendFrom_adds (fun data rc fd hfd => ?_) _ _)
  cases hfd
  exact h

theorem netRecv_talks (h : sock ∈ mine) (length : Nat) : Keeps (Talks rexx mine) (netRecv sock length) := by
  refine adds_talks (netRecv_keeps sock length) (Keeps.bind (fun _ w => refl_of (Adds _) w.trace) fun received => ?_)
  refine Keeps.bind (fun _ w => adds_one fun fd hfd => ?_) fun _ => keeps_pure _
  cases hfd
  exact h

theorem netCloseSocket_talks (sock : Int) : Keeps (Talks rexx mine) (netCloseSocket sock) :=
  quiet_talks (by decide) (netCloseSocket_keeps sock)

theorem ircSendLine_talks (h : sock ∈ mine) (line : Bytes) : Keeps (Talks rexx mine) (ircSendLine sock line) :=
  (netSendAll_talks h _).bind fun _ => keeps_ite (keeps_pure _) (netSendAll_talks h _)

theorem sendFormatted_talks (h : sock ∈ mine) (line : Bytes) : Keeps (Talks rexx mine) (sendFormatted sock line) :=
  keeps_ite ((ircSendLine_talks h _).bind fun _ => keeps_pure _) (keeps_pure _)

theorem ircSendRegistration_talks (h : sock ∈ mine) (nick user pass : Bytes) :
    Keeps (Talks rexx mine) (ircSendRegistration sock nick user pass) := by
  unfold ircSendRegistration
  refine Keeps.bind (keeps_ite (ircSendLine_talks h _) (keeps_pure _)) fun _ => keeps_ite (keeps_pure _) ?_
  refine (ircSendLine_talks h _).bind fun _ => keeps_ite (keeps_pure _) ?_
  exact (ircSendLine_talks h _).bind fun _ => keeps_ite (keeps_pure _) (keeps_pure _)

theorem sendJoins_talks (h : sock ∈ mine) (channels : List Bytes) : Keeps (Talks rexx mine) (sendJoins sock channels) :=
  Keeps.bind (log_talks (by simp [Obs.kind])) fun _ => keeps_each fun _ _ => sendFormatted_talks h _

theorem modernIrcStart_talks (h : sock ∈ mine) (config : NetworkConfig) :
    Keeps (Talks rexx mine) (modernIrcStart sock config) :=
  keeps_ite ((ircSendLine_talks h _).bind fun _ => keeps_pure _) (keeps_pure _)

theorem modernIrcAnswer_talks (h : sock ∈ mine) (config : NetworkConfig) (state : ModernIrc) (line : Bytes) :
    Keeps (Talks rexx mine) (modernIrcAnswer sock config state line) := by
  unfold modernIrcAnswer
  rw [modernIrcHandleLine_eq]
  refine Keeps.bind (log_talks (by simp [Obs.kind])) fun _ => Keeps.bind (Keeps.bind ?_ fun rc => keeps_pure _) fun _ =>
    Keeps.bind (log_talks (by simp [Obs.kind])) fun _ => keeps_pure _
  split
  · exact keeps_pure _
  · exact ircSendLine_talks h _

/-- A network is connected on the socket its connect opens. -/
theorem connectRuntime_talks (runtime : NetworkRuntime) : Keeps (Talks rexx mine) (connectRuntime runtime) := by
  unfold connectRuntime
  refine keeps_ite (keeps_pure _) (Keeps.bind (log_talks (by simp [Obs.kind])) fun _ => ?_)
  refine netConnectIpv4_talks _ _ (fun _ => keeps_pure _) fun sock => ?_
  have hsock : sock ∈ sock :: mine := List.mem_cons_self
  refine (modernIrcStart_talks hsock _).bind fun r => ?_
  obtain ⟨rc, modern⟩ := r
  refine Keeps.bind (keeps_ite (keeps_pure _) (ircSendRegistration_talks hsock _ _ _)) fun rc => keeps_ite ?_ ?_
  · exact (netCloseSocket_talks _).bind fun _ => keeps_pure _
  · exact (sendJoins_talks hsock _).bind fun _ => keeps_pure _

/-! ## The service and the commands -/

theorem httpReceive_talks (h : sock ∈ mine) (timeout size n : Nat) (used : Bytes) :
    Keeps (Talks rexx mine) (httpReceive sock timeout size n used) := by
  induction n generalizing used with
  | zero => exact keeps_pure _
  | succ n ih =>
    unfold httpReceive
    refine keeps_ite (keeps_pure _) ((quiet_talks (by decide) (netWaitSocket_keeps _ _)).bind fun r => ?_)
    obtain ⟨rc, ready⟩ := r
    refine keeps_ite ((netCloseSocket_talks _).bind fun _ => keeps_pure _) ((netRecv_talks h _).bind fun received => ?_)
    split
    · exact (netCloseSocket_talks _).bind fun _ => keeps_pure _
    · exact keeps_pure _
    · exact ih _

/-- The service is talked to on the socket that is opened for it. -/
theorem botaiChat_talks (botai : BotAi) (message : Bytes) (size : Nat) :
    Keeps (Talks rexx mine) (botaiChat botai message size) := by
  have hrequest (method endpoint : Bytes) (body : Option Bytes) (size : Nat) :
      Keeps (Talks rexx mine) (httpRequest botai method endpoint body size) := by
    unfold httpRequest
    split
    · exact keeps_pure _
    · refine netConnectIpv4_talks _ _ (fun _ => keeps_pure _) fun sock => ?_
      have hsock : sock ∈ sock :: mine := List.mem_cons_self
      refine (netSendAll_talks hsock _).bind fun rc => keeps_ite ((netCloseSocket_talks _).bind fun _ => keeps_pure _) ?_
      refine (httpReceive_talks hsock _ _ _ _).bind fun received => ?_
      split
      · exact keeps_pure _
      · refine (netCloseSocket_talks _).bind fun _ => keeps_ite (keeps_pure _) ?_
        exact keeps_ite (keeps_pure _) (keeps_pure _)
  unfold botaiChat
  split
  · exact keeps_pure _
  · refine (hrequest _ _ _ _).bind fun response => ?_
    split
    · exact keeps_pure _
    · exact keeps_pure _

theorem commandsHandleEvent_talks (botai : BotAi) (event : Event) {context : CommandContext} (h : context.sock ∈ mine) :
    Keeps (Talks rexx mine) (commandsHandleEvent botai event context) := by
  have reply (target text : Bytes) : Keeps (Talks rexx mine) (sendReply context target text) := sendFormatted_talks h _
  unfold commandsHandleEvent
  refine keeps_ite (keeps_pure _) (keeps_ite (keeps_pure _) ?_)
  split
  · exact reply _ _
  · refine keeps_ite (reply _ _) ?_
    split
    · exact reply _ _
    · exact reply _ _
    · exact reply _ _
    · refine keeps_ite (reply _ _) (keeps_ite (reply _ _) ?_)
      exact (botaiChat_talks _ _ _).bind fun _ => keeps_ite (reply _ _) (reply _ _)

/-! ## The ARexx port -/

/-- What is sent on the socket of the control block. -/
theorem shared_talks {m : M α} (hacts : Keeps (Acts [.send]) m) (h : Keeps (Talks true [sock]) m) (hsock : 0 ≤ sock)
    {env : Env} {w : World} (hw : w.control.sock = sock) : Talks true mine w (m env w).2 := by
  obtain ⟨hcontrol, t, ht, hkinds, hlaw⟩ := acts_talked hacts h env w
  refine ⟨hcontrol, t, ht, hlaw.mono fun before o _ ho honSocket fd hfd => ?_⟩
  have hsend : o.kind = .send := List.mem_singleton.1 (hkinds o ho)
  rcases honSocket fd hfd with hmine | hopen | hshared
  · obtain rfl := List.mem_singleton.1 hmine
    exact .inr (.inr ⟨hsend, by simp [World.shared, hw], hsock⟩)
  · exact .inr (.inl hopen)
  · exact .inr (.inr hshared)

/-- A line goes to the control block's socket, where it has one. -/
theorem operationSendRaw_talks (line : Bytes) : Keeps (Talks true mine) (operationSendRaw line) := by
  intro env w
  have hsend : Keeps (Talks true [w.control.sock]) (do
      let rc ← ircSendLine w.control.sock line
      if rc ≠ 0 then pure (20, setResult (ascii "SEND FAILED")) else pure (0, setResult (ascii "OK"))) :=
    (ircSendLine_talks (by simp) _).bind fun _ => keeps_ite (keeps_pure _) (keeps_pure _)
  have hacts : Keeps (Acts [.send]) (do
      let rc ← ircSendLine w.control.sock line
      if rc ≠ 0 then pure (20, setResult (ascii "SEND FAILED")) else pure (0, setResult (ascii "OK"))) :=
    (ircSendLine_keeps _ _).bind fun _ => keeps_ite (keeps_pure _) (keeps_pure _)
  show Talks true mine w ((if !w.control.connected || w.control.sock < 0 then _ else _ : M (Nat × Bytes)) env w).2
  split
  · exact refl_of (Talks true mine) w
  · rename_i hconnected
    have hsock : 0 ≤ w.control.sock := by
      simp only [Bool.or_eq_true, decide_eq_true_eq, not_or] at hconnected
      omega
    split
    · exact refl_of (Talks true mine) w
    · exact shared_talks hacts hsend hsock rfl

theorem controlOperation_talks {f : Control → Bytes × Control} (h : ∀ c, (f c).2.sock = c.sock) :
    Keeps (Talks true mine) (controlOperation f) :=
  fun _ w => ⟨h w.control, [], (List.append_nil _).symm, lawful_nil⟩

theorem operationConnect_sock (c : Control) : (operationConnect c).2.sock = c.sock := by
  unfold operationConnect
  split
  · rfl
  · rfl

theorem dispatchCommand_talks (input : Bytes) : Keeps (Talks true mine) (dispatchCommand input) := by
  rw [dispatchCommand_eq]
  cases requestOf input with
  | refuse message => exact keeps_pure _
  | status => exact (keeps_read _).bind fun _ => keeps_pure _
  | connect => exact controlOperation_talks operationConnect_sock
  | disconnect => exact controlOperation_talks fun _ => rfl
  | reload => exact controlOperation_talks fun _ => rfl
  | quit => exact controlOperation_talks fun _ => rfl
  | line text => exact operationSendRaw_talks text

theorem rexxProcess_talks : Keeps (Talks true mine) rexxProcess := by
  refine (ask_talks _).bind fun messages => keeps_each fun message _ => ?_
  unfold rexxAnswer
  refine (dispatchCommand_talks _).bind fun r env w => ?_
  obtain ⟨rc, result⟩ := r
  exact ⟨rfl, [_], rfl, (lawful_snoc (t := [])).2 ⟨lawful_nil, fun _ h => by cases h⟩⟩

/-- A hook script's commands come in while it runs. -/
theorem hooksDispatchEvent_talks (event : Event) (context : HookContext) :
    Keeps (Talks true mine) (hooksDispatchEvent event context) := by
  have hwait : Keeps (Talks true mine) scriptWaitLoop := by
    refine (keeps_read _).bind fun fuel => keeps_loop fuel (fun _ => ?_) ()
    refine (ask_talks _).bind fun r => ?_
    obtain ⟨rexx, replied⟩ := r
    exact (keeps_when rexxProcess_talks).bind fun _ => keeps_pure _
  have hscript (path : Bytes) (args : List Bytes) : Keeps (Talks true mine) (rexxRunScript path args) := by
    unfold rexxRunScript
    refine (ask_talks _).bind fun ready => keeps_ite (keeps_pure _) ?_
    split
    · exact keeps_pure _
    · refine (ask_talks _).bind fun made => keeps_ite (keeps_pure _) ?_
      exact Keeps.bind (log_talks (by simp [Obs.kind])) fun _ => hwait.bind fun _ => ask_talks _
  unfold hooksDispatchEvent
  split
  · exact keeps_pure _
  · refine keeps_ite (keeps_pure _) ((ask_talks _).bind fun found => keeps_ite (keeps_pure _) ?_)
    exact (hscript _ _).bind fun _ => keeps_pure _

/-! ## A line -/

/-- The commands of an open network go to its socket. -/
def Bound (sock : Int) (runtime : NetworkRuntime) : Prop :=
  0 ≤ runtime.sock → runtime.sock = sock ∧ runtime.commands.sock = sock

theorem multinetHandleLine_talks (botai : BotAi) (bytes : Bytes) {runtime : NetworkRuntime} (h : Bound sock runtime) :
    Keeps (Talks true [sock]) (multinetHandleLine botai bytes runtime) := by
  unfold multinetHandleLine
  split
  · exact keeps_pure _
  rename_i hopen
  obtain ⟨hsock, hcommands⟩ := h (Int.not_lt.1 hopen)
  refine (modernIrcAnswer_talks (by simp [hsock]) _ _ _).bind fun r => ?_
  obtain ⟨rc, modern⟩ := r
  refine keeps_ite ((netCloseSocket_talks _).bind fun _ => keeps_pure _)
    (keeps_ite ((sendFormatted_talks (by simp [hsock]) _).bind fun _ => keeps_pure _) ?_)
  dsimp only
  split
  · exact keeps_pure _
  · refine keeps_ite (keeps_pure _) (Keeps.bind (eventDispatchPending_keeps (fun event => ?_) _ _) fun _ => keeps_pure _)
    refine (keeps_read _).bind fun control => Keeps.bind (log_talks (by simp [Obs.kind])) fun _ => ?_
    exact (commandsHandleEvent_talks _ _ (by simp [hcommands])).bind fun _ => hooksDispatchEvent_talks _ _

theorem framerFeed_talks (botai : BotAi) (data : Bytes) (framer : IrcFramer) {runtime : NetworkRuntime}
    (h : Bound sock runtime) :
    Keeps (Talks true [sock]) (framerFeed (multinetHandleLine botai) data framer runtime) := by
  intro env w
  have hline (line : Bytes) (runtime : NetworkRuntime) :
      Triple (fun w' => Bound sock runtime ∧ Talks true [sock] w w') (multinetHandleLine botai line runtime)
        (fun r w' => Bound sock r.2 ∧ Talks true [sock] w w') (Talks true [sock] w) := by
    refine triple_fact fun hbound => ?_
    refine (Keeps.triple (multinetHandleLine_talks botai line hbound) fun _ _ => trans_of (Talks true [sock])).returns
      ((multinetHandleLine_returns botai line runtime).mono fun r hr hopen => ?_)
    -- a line leaves the runtime its socket or none
    have hsame : r.2.sock = runtime.sock := hr.sock.resolve_right (by omega)
    rw [hsame, hr.commands]
    exact hbound (hsame ▸ hopen)
  exact (framerFeed_triple hline (fun _ _ hw => hw.2) data framer runtime).all (fun _ _ hw => hw.2) (fun _ => id)
    ⟨h, refl_of (Talks true [sock]) w⟩

end

end AmBot
