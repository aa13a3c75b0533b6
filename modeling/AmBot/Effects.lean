import AmBot.Port
import AmBot.Session
/-!
# What each function can do

Everything below the session loops moves the world by actions: an answer of
the outside is used up, an observation is logged, an ARexx command is
answered. `Acts S` are the moves that log only observations of the kinds in
`S`, and every function below the loops has one lemma here saying which kinds
those are. What a function leaves alone (the control block where no ARexx
message is read, the configuration, the marks of the loops) follows from that.
-/

namespace AmBot

open RunLib RunLib.Prog

inductive Kind where
  | connect | send | recv | close | wait | rexx | script | load | delay | ctrlC | underflow | event
  | rebuild | opened | iteration | woken | retry | session | dial | register | join | turn | settled | line | negotiated
  deriving DecidableEq, Repr

def Obs.kind : Obs → Kind
  | .connect .. => .connect
  | .send .. => .send
  | .recv .. => .recv
  | .close .. => .close
  | .wait .. => .wait
  | .rexx .. => .rexx
  | .script .. => .script
  | .load .. => .load
  | .delay .. => .delay
  | .ctrlC => .ctrlC
  | .underflow => .underflow
  | .event .. => .event
  | .rebuild .. => .rebuild
  | .opened .. => .opened
  | .iteration .. => .iteration
  | .woken .. => .woken
  | .retry .. => .retry
  | .session .. => .session
  | .dial .. => .dial
  | .register .. => .register
  | .join .. => .join
  | .turn .. => .turn
  | .settled .. => .settled
  | .line .. => .line
  | .negotiated => .negotiated

/-- How an ARexx command is answered: the return code, the result string and
the control block after it. -/
inductive Answered (c : Control) (input : Bytes) : Nat → Bytes → Control → Prop
  | connect : commandWord input = ascii "CONNECT" →
      Answered c input 0 (operationConnect c).1 (operationConnect c).2
  | disconnect : commandWord input = ascii "DISCONNECT" →
      Answered c input 0 (operationDisconnect c).1 (operationDisconnect c).2
  | reload : commandWord input = ascii "RELOAD" →
      Answered c input 0 (operationReload c).1 (operationReload c).2
  | quit : commandWord input = ascii "QUIT" →
      Answered c input 0 (operationQuit c).1 (operationQuit c).2
  | other (rc : Nat) (result : Bytes) : commandWord input ≠ ascii "CONNECT" →
      commandWord input ≠ ascii "DISCONNECT" → commandWord input ≠ ascii "RELOAD" →
      commandWord input ≠ ascii "QUIT" → Answered c input rc result c

/-- One action of the code below the loops, logging kinds of `S` only. -/
inductive Act (S : List Kind) : World → World → Prop
  | tick (w : World) : Act S w { w with tick := w.tick + 1 }
  | signal (w : World) (set : Bool) : Act S w { w with breakSignal := set }
  | log (w : World) (o : Obs) : o.kind ∈ S → o.kind ≠ .rexx → Act S w (w.log o)
  | answer (w : World) (input : Bytes) (rc : Nat) (result : Bytes) (control : Control) :
      .rexx ∈ S → Answered w.control input rc result control →
      Act S w ((w.setControl control).log (.rexx input rc result))

def Acts (S : List Kind) : World → World → Prop := Relation.ReflTransGen (Act S)

instance (S : List Kind) : IsPreorder World (Acts S) where
  refl _ := .refl
  trans _ _ _ := Relation.ReflTransGen.trans

variable {α σ : Type} {S S' : List Kind} {w w' : World}

theorem Act.mono (h : S ⊆ S') (ha : Act S w w') : Act S' w w' := by
  cases ha with
  | tick => exact .tick w
  | signal set => exact .signal w set
  | log o hk hr => exact .log w o (h hk) hr
  | answer i rc r c hk ha => exact .answer w i rc r c (h hk) ha

theorem Acts.mono (h : S ⊆ S') (ha : Acts S w w') : Acts S' w w' := by
  induction ha with
  | refl => exact .refl
  | tail _ ha ih => exact .tail ih (ha.mono h)

theorem widen (h : S ⊆ S') {m : M α} (hm : Keeps (Acts S) m) : Keeps (Acts S') m :=
  Keeps.mono (fun _ _ => Acts.mono h) hm

/-! ## The trace alone -/

/-- The trace has grown by observations of kinds in `S`. -/
def Logs (S : List Kind) (w w' : World) : Prop := ∃ t, w'.trace = w.trace ++ t ∧ ∀ o ∈ t, o.kind ∈ S

instance (S : List Kind) : IsPreorder World (Logs S) where
  refl _ := ⟨[], by simp⟩
  trans := by
    rintro w₁ w₂ w₃ ⟨t, ht, hk⟩ ⟨t', ht', hk'⟩
    refine ⟨t ++ t', by simp [ht', ht], fun o ho => ?_⟩
    rcases List.mem_append.1 ho with h | h
    · exact hk o h
    · exact hk' o h

theorem Logs.mono (hS : S ⊆ S') (h : Logs S w w') : Logs S' w w' := by
  obtain ⟨t, ht, hk⟩ := h
  exact ⟨t, ht, fun o ho => hS (hk o ho)⟩

theorem Logs.snoc {w₁ w₂ : World} {o : Obs} (h : Logs S w w₁) (ht : w₂.trace = w₁.trace ++ [o])
    (ho : o.kind ∈ S) : Logs S w w₂ :=
  trans_of (Logs S) h ⟨[o], ht, by simpa using ho⟩

theorem Acts.logs (h : Acts S w w') : Logs S w w' := by
  induction h with
  | refl => exact refl_of (Logs S) w
  | tail _ ha ih =>
    cases ha with
    | tick => exact ih
    | signal => exact ih
    | log o ho => exact ih.snoc rfl ho
    | answer i rc r c hr => exact ih.snoc rfl hr

/-- `P` holds of every observation so far. -/
def AllObs (P : Obs → Prop) (w : World) : Prop := ∀ o ∈ w.trace, P o

theorem AllObs.log {P : Obs → Prop} (h : AllObs P w) {o : Obs} (ho : P o) : AllObs P (w.log o) :=
  List.forall_mem_append.2 ⟨h, List.forall_mem_singleton.2 ho⟩

theorem Logs.allObs {P : Obs → Prop} (h : Logs S w w') (hP : ∀ o, o.kind ∈ S → P o) (hw : AllObs P w) :
    AllObs P w' := by
  obtain ⟨t, ht, hk⟩ := h
  intro o ho
  rw [ht] at ho
  rcases List.mem_append.1 ho with h | h
  · exact hw o h
  · exact hP o (hk o h)

/-- A function that logs only kinds of which `P` holds keeps `P` besides what
else it does. -/
theorem with_allObs {P : Obs → Prop} {Pre : World → Prop} {Q : α → World → Prop} {m : M α}
    (h : Triple Pre m Q fun _ => True) (hl : Keeps (Logs S) m) (hP : ∀ o, o.kind ∈ S → P o) :
    Triple (fun w => Pre w ∧ AllObs P w) m (fun a w => Q a w ∧ AllObs P w) (AllObs P) := by
  have hall : Triple (AllObs P) m (fun _ => AllObs P) (AllObs P) :=
    Keeps.triple hl fun _ _ hw hlogs => hlogs.allObs hP hw
  exact triple_and (h.pre fun _ hw => hw.1) (hall.pre fun _ hw => hw.2)

/-- `G`, as long as everything logged so far meets `A`. -/
def Given (A : Obs → Prop) (G : World → Prop) (w : World) : Prop := AllObs A w → G w

theorem Given.log {A : Obs → Prop} {G G' : World → Prop} (h : Given A G w) {o : Obs}
    (ho : A o → G w → G' (w.log o)) : Given A G' (w.log o) := by
  intro hall
  have hlast : A o := hall o (List.mem_append_right _ (List.mem_singleton.2 rfl))
  have hbefore : AllObs A w := fun o' ho' => hall o' (List.mem_append_left _ ho')
  exact ho hlast (h hbefore)

theorem Given.mono {A : Obs → Prop} {G G' : World → Prop} (h : Given A G w) (hG : G w → G' w) : Given A G' w :=
  fun hall => hG (h hall)

/-- An assertion that every action of `S` keeps, while `A` holds. -/
theorem given_acts {A : Obs → Prop} {I H : World → Prop} {m : M α} (hm : Keeps (Acts S) m)
    (hI : ∀ w w', Act S w w' → I w → I w') (hH : ∀ w, I w → H w) :
    Triple (Given A I) m (fun _ => Given A I) (Given A H) := by
  have keep : ∀ w w', Acts S w w' → Given A I w → Given A I w' := by
    intro w w' hacts hw hall
    induction hacts with
    | refl => exact hw hall
    | tail _ ha ih =>
      refine hI _ _ ha (ih fun o ho => ?_)
      obtain ⟨t, ht, -⟩ := Acts.logs (.single ha)
      exact hall o (by rw [ht]; exact List.mem_append_left _ ho)
  exact (Keeps.triple hm fun w w' hw hacts => keep w w' hacts hw).conseq (fun _ => id) (fun _ _ => id)
    fun w hw => hw.mono (hH w)

/-! ## The configuration too -/

/-- The trace has grown by observations of kinds in `S`, and the configuration
is the same. The control block may be another. -/
def Moves (S : List Kind) (w w' : World) : Prop := w'.config = w.config ∧ Logs S w w'

instance (S : List Kind) : IsPreorder World (Moves S) where
  refl w := ⟨rfl, refl_of (Logs S) w⟩
  trans _ _ _ h h' := ⟨h'.1.trans h.1, trans_of (Logs S) h.2 h'.2⟩

theorem Moves.mono (hS : S ⊆ S') (h : Moves S w w') : Moves S' w w' := ⟨h.1, h.2.mono hS⟩

theorem Acts.config (h : Acts S w w') : w'.config = w.config := by
  induction h with
  | refl => rfl
  | tail _ ha ih =>
    cases ha with
    | tick => exact ih
    | signal => exact ih
    | log => exact ih
    | answer => exact ih

/-- Only an ARexx command changes the control block. -/
theorem Acts.control (hS : .rexx ∉ S) (h : Acts S w w') : w'.control = w.control := by
  induction h with
  | refl => rfl
  | tail _ ha ih =>
    cases ha with
    | tick => exact ih
    | signal => exact ih
    | log => exact ih
    | answer input rc result control hrexx => exact absurd hrexx hS

theorem moves (h : S ⊆ S') {m : M α} (hm : Keeps (Acts S) m) : Keeps (Moves S') m :=
  Keeps.mono (fun _ _ ha => ⟨ha.config, (ha.mono h).logs⟩) hm

theorem modifyControl_moves (f : Control → Control) : Keeps (Moves S) (modifyControl f) :=
  fun _ w => ⟨rfl, [], by simp [modifyControl, World.setControl]⟩

/-! ## The calls that leave the bot -/

theorem keeps_ask (f : Env → Nat → α) : Keeps (Acts S) (ask f) := fun _ w => .single (.tick w)

theorem keeps_log {o : Obs} (h : o.kind ∈ S ∧ o.kind ≠ .rexx) : Keeps (Acts S) (log o) :=
  fun _ w => .single (.log w o h.1 h.2)

theorem keeps_getControl : Keeps (Acts S) getControl := keeps_read _

theorem keeps_getConfig : Keeps (Acts S) getConfig := keeps_read _

theorem keeps_getFuel : Keeps (Acts S) getFuel := keeps_read _

theorem netConnectIpv4_keeps (host : Bytes) (port : Nat) : Keeps (Acts [.connect]) (netConnectIpv4 host port) := by
  unfold netConnectIpv4
  refine Keeps.bind (keeps_ask _) fun resolved => Keeps.bind ?_ fun result =>
    Keeps.bind (keeps_log (by simp [Obs.kind])) fun _ => keeps_pure _
  split
  · refine Keeps.bind (keeps_ask _) fun sock => ?_
    split
    · exact keeps_pure _
    · exact Keeps.bind (keeps_ask _) fun _ => keeps_pure _
  · exact keeps_pure _

/-- A connect returns, and logs the socket it returns. -/
theorem netConnectIpv4_logs (host : Bytes) (port : Nat) (env : Env) (w : World) :
    ∃ sock w', netConnectIpv4 host port env w = (.ok sock, w') ∧ w'.trace = w.trace ++ [.connect host port sock] := by
  unfold netConnectIpv4
  simp only [bind_run, ask]
  cases env.gethostbyname w.tick with
  | false => exact ⟨-1, _, rfl, rfl⟩
  | true =>
    simp only [if_true, bind_run, ask]
    by_cases hsock : env.socket (w.tick + 1) < 0
    · rw [if_pos hsock]
      exact ⟨-1, _, rfl, rfl⟩
    · rw [if_neg hsock]
      exact ⟨_, _, rfl, rfl⟩

theorem netConnectIpv4_triple {host : Bytes} {port : Nat} {P S : World → Prop} {Q : Int → World → Prop}
    (h : ∀ sock w w', P w → w'.trace = w.trace ++ [.connect host port sock] → Q sock w') :
    Triple P (netConnectIpv4 host port) Q S := by
  intro env w hw
  obtain ⟨sock, w', hconnect, htrace⟩ := netConnectIpv4_logs host port env w
  rw [hconnect]
  exact h sock w w' hw htrace

theorem netSendFrom_keeps (sock : Int) (n : Nat) (data : Bytes) : Keeps (Acts [.send]) (netSendFrom sock n data) := by
  induction n generalizing data with
  | zero => cases data <;> exact keeps_pure _
  | succ n ih =>
    cases data with
    | nil => exact keeps_pure _
    | cons c data =>
      refine Keeps.bind (keeps_ask _) fun rc =>
        Keeps.bind (keeps_log (by simp [Obs.kind])) fun _ => keeps_ite (keeps_pure _) (ih _)

theorem netSendAll_keeps (sock : Int) (data : Bytes) : Keeps (Acts [.send]) (netSendAll sock data) :=
  netSendFrom_keeps _ _ _

theorem netRecv_keeps (sock : Int) (length : Nat) : Keeps (Acts [.recv]) (netRecv sock length) :=
  Keeps.bind (keeps_ask _) fun _ => Keeps.bind (keeps_log (by simp [Obs.kind])) fun _ => keeps_pure _

theorem setBreakSignal_keeps (set : Bool) : Keeps (Acts S) (setBreakSignal set) := fun _ w => .single (.signal w set)

theorem getBreakSignal_keeps (arrived : Bool) : Keeps (Acts S) (getBreakSignal arrived) :=
  Keeps.bind (keeps_read _) fun _ => (setBreakSignal_keeps _).bind fun _ => keeps_pure _

theorem netWaitMany_keeps (socks : List Int) (timeout : Option Nat) :
    Keeps (Acts [.wait]) (netWaitMany socks timeout) := by
  refine Keeps.bind (keeps_log (by simp [Obs.kind])) fun _ => Keeps.bind (keeps_ask _) fun _ => ?_
  exact (getBreakSignal_keeps _).bind fun _ => (setBreakSignal_keeps _).bind fun _ => keeps_pure _

theorem netWaitSocket_keeps (sock : Int) (timeout : Nat) : Keeps (Acts [.wait]) (netWaitSocket sock timeout) :=
  Keeps.bind (keeps_log (by simp [Obs.kind])) fun _ =>
    Keeps.bind (keeps_ask _) fun _ => keeps_pure _

theorem netCloseSocket_keeps (sock : Int) : Keeps (Acts [.close]) (netCloseSocket sock) :=
  keeps_ite (keeps_log (by simp [Obs.kind])) (keeps_pure _)

theorem ctrlCRequested_keeps : Keeps (Acts [.ctrlC]) ctrlCRequested := by
  refine Keeps.bind (keeps_ask _) fun _ => (getBreakSignal_keeps _).bind fun set => ?_
  refine Keeps.bind (keeps_when ?_) fun _ => keeps_pure _
  exact keeps_log (by simp [Obs.kind])

theorem decrement_keeps (n : Nat) : Keeps (Acts [.underflow]) (decrement n) :=
  keeps_ite (Keeps.bind (keeps_log (by simp [Obs.kind])) fun _ => keeps_pure _) (keeps_pure _)

/-! ## Lines -/

theorem ircSendLine_keeps (sock : Int) (line : Bytes) : Keeps (Acts [.send]) (ircSendLine sock line) :=
  (netSendAll_keeps _ _).bind fun _ => keeps_ite (keeps_pure _) (netSendAll_keeps _ _)

theorem ircSendRegistration_keeps (sock : Int) (nick user pass : Bytes) :
    Keeps (Acts [.send]) (ircSendRegistration sock nick user pass) := by
  unfold ircSendRegistration
  refine Keeps.bind (keeps_ite (ircSendLine_keeps _ _) (keeps_pure _)) fun _ => keeps_ite (keeps_pure _) ?_
  refine (ircSendLine_keeps _ _).bind fun _ => keeps_ite (keeps_pure _) ?_
  exact (ircSendLine_keeps _ _).bind fun _ => keeps_ite (keeps_pure _) (keeps_pure _)

theorem sendFormatted_keeps (sock : Int) (line : Bytes) : Keeps (Acts [.send]) (sendFormatted sock line) :=
  keeps_ite ((ircSendLine_keeps _ _).bind fun _ => keeps_pure _) (keeps_pure _)

theorem sendJoins_keeps (sock : Int) (channels : List Bytes) : Keeps (Acts [.send, .join]) (sendJoins sock channels) :=
  Keeps.bind (keeps_log (by simp [Obs.kind])) fun _ => keeps_each fun _ _ => widen (by decide) (sendFormatted_keeps _ _)

theorem sendPong_keeps (sock : Int) (line : Bytes) : Keeps (Acts [.send]) (sendPong sock line) :=
  sendFormatted_keeps _ _

/-- The framer adds nothing to what its callback does. -/
theorem framerFeed_keeps {R : World → World → Prop} [IsPreorder World R] {callback : Bytes → σ → M (Int × σ)}
    (h : ∀ line user, Keeps R (callback line user)) (data : Bytes) (framer : IrcFramer) (user : σ) :
    Keeps R (framerFeed callback data framer user) := by
  induction data generalizing framer user with
  | nil => exact keeps_pure _
  | cons ch data ih =>
    unfold framerFeed
    split
    · exact keeps_halt _
    · exact ih _ _
    · exact (h _ _).bind fun _ => keeps_ite (keeps_pure _) (ih _ _)

/-- An assertion about the callback's data that the callback keeps. -/
theorem framerFeed_triple {J : σ → World → Prop} {Q : World → Prop} {callback : Bytes → σ → M (Int × σ)}
    (h : ∀ line user, Triple (J user) (callback line user) (fun r => J r.2) Q) (hQ : ∀ user w, J user w → Q w)
    (data : Bytes) (framer : IrcFramer) (user : σ) :
    Triple (J user) (framerFeed callback data framer user) (fun r => J r.2) Q := by
  induction data generalizing framer user with
  | nil => exact triple_pure fun _ => id
  | cons ch data ih =>
    unfold framerFeed
    split
    · exact triple_halt (hQ user)
    · exact ih _ _
    · exact (h _ _).bind fun r => triple_ite (fun _ => triple_pure fun _ => id) fun _ => ih _ _

/-- A callback that keeps `I` where it returns zero and makes `J` elsewhere:
the framer stops there. -/
theorem framerFeed_stops {I J : σ → World → Prop} {Q : World → Prop} {callback : Bytes → σ → M (Int × σ)}
    (h : ∀ line user, Triple (I user) (callback line user) (fun r w => if r.1 = 0 then I r.2 w else J r.2 w) Q)
    (hQ : ∀ user w, I user w → Q w) (data : Bytes) (framer : IrcFramer) (user : σ) :
    Triple (I user) (framerFeed callback data framer user) (fun r w => I r.2 w ∨ J r.2 w) Q := by
  induction data generalizing framer user with
  | nil => exact triple_pure fun _ => .inl
  | cons ch data ih =>
    unfold framerFeed
    split
    · exact triple_halt (hQ user)
    · exact ih _ _
    · refine (h _ _).bind fun r => triple_ite (fun hrc => triple_pure fun w hw => ?_) fun hrc => (ih _ _).pre fun w hw => ?_
      · rw [if_neg hrc] at hw
        exact .inr hw
      · rwa [if_pos (not_not.1 hrc)] at hw

/-! ## CAP and SASL -/

theorem sendSaslPayload_keeps (sock : Int) (config : NetworkConfig) :
    Keeps (Acts [.send]) (sendSaslPayload sock config) := by
  unfold sendSaslPayload
  refine keeps_ite (keeps_pure _) ?_
  split
  · exact keeps_pure _
  · exact keeps_ite (keeps_pure _) (ircSendLine_keeps _ _)

theorem modernIrcStart_keeps (sock : Int) (config : NetworkConfig) :
    Keeps (Acts [.send]) (modernIrcStart sock config) :=
  keeps_ite ((ircSendLine_keeps _ _).bind fun _ => keeps_pure _) (keeps_pure _)

theorem modernIrcHandleLine_keeps (sock : Int) (config : NetworkConfig) (state : ModernIrc) (line : Bytes) :
    Keeps (Acts [.send]) (modernIrcHandleLine sock config state line) := by
  have send : ∀ (m : M Int) (f : Int → Int × ModernIrc), Keeps (Acts [.send]) m →
      Keeps (Acts [.send]) (do let rc ← m; pure (f rc)) := fun m f h => h.bind fun _ => keeps_pure _
  unfold modernIrcHandleLine
  refine keeps_ite (keeps_pure _) (keeps_ite (keeps_ite ?_ ?_) (keeps_ite ?_ (keeps_ite ?_
    (keeps_ite ?_ (keeps_ite ?_ (keeps_pure _))))))
  · exact send _ _ (ircSendLine_keeps _ _)
  · exact send _ _ (ircSendLine_keeps _ _)
  · exact send _ _ (ircSendLine_keeps _ _)
  · exact send _ _ (sendSaslPayload_keeps _ _)
  · exact send _ _ (ircSendLine_keeps _ _)
  · exact send _ _ (ircSendLine_keeps _ _)

theorem modernIrcAnswer_keeps (sock : Int) (config : NetworkConfig) (state : ModernIrc) (line : Bytes) :
    Keeps (Acts [.send, .line, .negotiated]) (modernIrcAnswer sock config state line) := by
  refine Keeps.bind (keeps_log (by simp [Obs.kind])) fun _ => ?_
  refine (widen (by decide) (modernIrcHandleLine_keeps _ _ _ _)).bind fun r => ?_
  exact Keeps.bind (keeps_log (by simp [Obs.kind])) fun _ => keeps_pure _

/-! ## The ARexx port -/

theorem operationSendRaw_keeps (line : Bytes) : Keeps (Acts [.send]) (operationSendRaw line) := by
  refine keeps_getControl.bind fun _ => keeps_ite (keeps_pure _) (keeps_ite (keeps_pure _) ?_)
  exact (ircSendLine_keeps _ _).bind fun _ => keeps_ite (keeps_pure _) (keeps_pure _)

/-- A command that only sends is answered with the control block as it is. -/
theorem answer_other {input : Bytes} {m : M (Nat × Bytes)} (hm : Keeps (Acts [.send]) m)
    (h₁ : commandWord input ≠ ascii "CONNECT") (h₂ : commandWord input ≠ ascii "DISCONNECT")
    (h₃ : commandWord input ≠ ascii "RELOAD") (h₄ : commandWord input ≠ ascii "QUIT") :
    Keeps (Acts [.send, .rexx]) (do let (rc, result) ← m; log (.rexx input rc result)) := by
  refine (widen (by decide) hm).bind fun ⟨rc, result⟩ _ w => .single ?_
  exact .answer w input rc result w.control (by simp) (.other rc result h₁ h₂ h₃ h₄)

/-- A control operation and its answer are one action. -/
theorem answer_control {input : Bytes} {f : Control → Bytes × Control}
    (h : ∀ c, Answered c input 0 (f c).1 (f c).2) :
    Keeps (Acts [.send, .rexx]) (do let (rc, result) ← controlOperation f; log (.rexx input rc result)) :=
  fun _ w => .single (.answer w input 0 (f w.control).1 (f w.control).2 (by simp) (h w.control))

theorem rexxAnswer_keeps (message : Bytes) : Keeps (Acts [.send, .rexx]) (rexxAnswer message) := by
  unfold rexxAnswer
  generalize cstr message = input
  dsimp only
  rw [dispatchCommand_eq]
  have hconnect : requestOf input = .connect ↔ commandWord input = ascii "CONNECT" :=
    requestOf_control (by decide : (PortRequest.connect, ascii "CONNECT") ∈ controlCommands) input
  have hdisconnect : requestOf input = .disconnect ↔ commandWord input = ascii "DISCONNECT" :=
    requestOf_control (by decide : (PortRequest.disconnect, ascii "DISCONNECT") ∈ controlCommands) input
  have hreload : requestOf input = .reload ↔ commandWord input = ascii "RELOAD" :=
    requestOf_control (by decide : (PortRequest.reload, ascii "RELOAD") ∈ controlCommands) input
  have hquit : requestOf input = .quit ↔ commandWord input = ascii "QUIT" :=
    requestOf_control (by decide : (PortRequest.quit, ascii "QUIT") ∈ controlCommands) input
  -- four commands change the control block; every other one leaves it
  cases hrequest : requestOf input with
  | connect => exact answer_control fun c => .connect (hconnect.1 hrequest)
  | disconnect => exact answer_control fun c => .disconnect (hdisconnect.1 hrequest)
  | reload => exact answer_control fun c => .reload (hreload.1 hrequest)
  | quit => exact answer_control fun c => .quit (hquit.1 hrequest)
  | refuse message =>
    rw [hrequest] at hconnect hdisconnect hreload hquit
    exact answer_other (keeps_pure _) (by simp [← hconnect]) (by simp [← hdisconnect]) (by simp [← hreload])
      (by simp [← hquit])
  | status =>
    rw [hrequest] at hconnect hdisconnect hreload hquit
    exact answer_other (keeps_getControl.bind fun _ => keeps_pure _) (by simp [← hconnect]) (by simp [← hdisconnect])
      (by simp [← hreload]) (by simp [← hquit])
  | line text =>
    rw [hrequest] at hconnect hdisconnect hreload hquit
    exact answer_other (operationSendRaw_keeps text) (by simp [← hconnect]) (by simp [← hdisconnect])
      (by simp [← hreload]) (by simp [← hquit])

theorem rexxProcess_keeps : Keeps (Acts [.send, .rexx]) rexxProcess :=
  Keeps.bind (keeps_ask _) fun _ => keeps_each fun _ _ => rexxAnswer_keeps _

theorem scriptWaitLoop_keeps : Keeps (Acts [.send, .rexx]) scriptWaitLoop := by
  refine keeps_getFuel.bind fun _ => keeps_loop _ (fun _ => ?_) _
  refine Keeps.bind (keeps_ask _) fun r => ?_
  obtain ⟨rexx, replied⟩ := r
  refine Keeps.bind ?_ fun _ => keeps_pure _
  exact keeps_when rexxProcess_keeps

theorem rexxRunScript_keeps (path : Bytes) (args : List Bytes) :
    Keeps (Acts [.send, .rexx, .script]) (rexxRunScript path args) := by
  unfold rexxRunScript
  refine Keeps.bind (keeps_ask _) fun _ => keeps_ite (keeps_pure _) ?_
  split
  · exact keeps_pure _
  · refine Keeps.bind (keeps_ask _) fun _ => keeps_ite (keeps_pure _) ?_
    exact Keeps.bind (keeps_log (by simp [Obs.kind])) fun _ =>
      (widen (by decide) scriptWaitLoop_keeps).bind fun _ => keeps_ask _

theorem hooksDispatchEvent_keeps (event : Event) (context : HookContext) :
    Keeps (Acts [.send, .rexx, .script]) (hooksDispatchEvent event context) := by
  unfold hooksDispatchEvent
  split
  · exact keeps_pure _
  · refine keeps_ite (keeps_pure _) (Keeps.bind (keeps_ask _) fun _ => keeps_ite (keeps_pure _) ?_)
    exact (rexxRunScript_keeps _ _).bind fun _ => keeps_pure _

/-! ## BotAI and the commands -/

/-- The kinds of an exchange with the BotAI service. -/
abbrev exchange : List Kind := [.connect, .send, .recv, .wait, .close]

theorem httpReceive_keeps (sock : Int) (timeout size n : Nat) (used : Bytes) :
    Keeps (Acts [.recv, .wait, .close]) (httpReceive sock timeout size n used) := by
  induction n generalizing used with
  | zero => exact keeps_pure _
  | succ n ih =>
    unfold httpReceive
    refine keeps_ite (keeps_pure _) ((widen (by decide) (netWaitSocket_keeps _ _)).bind fun r => ?_)
    obtain ⟨rc, ready⟩ := r
    refine keeps_ite ?_ ?_
    · exact (widen (by decide) (netCloseSocket_keeps _)).bind fun _ => keeps_pure _
    · refine (widen (by decide) (netRecv_keeps _ _)).bind fun received => ?_
      split
      · exact (widen (by decide) (netCloseSocket_keeps _)).bind fun _ => keeps_pure _
      · exact keeps_pure _
      · exact ih _

theorem httpPrepare_some {botai : BotAi} {method endpoint request : Bytes} {body : Option Bytes}
    (h : httpPrepare botai method endpoint body = some request) :
    request = httpText botai method endpoint body ∧ request ≠ [] := by
  unfold httpPrepare at h
  split at h
  · cases h
  · split at h
    · cases h
    · obtain ⟨hfits, heq⟩ := Option.ite_none_right_eq_some.1 h
      obtain rfl := Option.some.inj heq
      simp only [fits, Bool.and_eq_true, decide_eq_true_eq] at hfits
      exact ⟨rfl, List.length_pos_iff.1 hfits.1⟩

/-- A request that is made is a connection and what is done with it. -/
theorem httpRequest_connects {botai : BotAi} {method endpoint request : Bytes} {body : Option Bytes} (size : Nat)
    (h : httpPrepare botai method endpoint body = some request) :
    ∃ use : Int → M (Option Bytes), httpRequest botai method endpoint body size =
        netConnectIpv4 botai.host botai.port >>= use ∧ ∀ sock, Keeps (Acts exchange) (use sock) := by
  unfold httpRequest
  rw [h]
  refine ⟨_, rfl, fun sock => keeps_ite (keeps_pure _) ?_⟩
  refine (widen (by decide) (netSendAll_keeps _ _)).bind fun rc => keeps_ite ?_ ?_
  · exact (widen (by decide) (netCloseSocket_keeps _)).bind fun _ => keeps_pure _
  · refine (widen (by decide) (httpReceive_keeps _ _ _ _ _)).bind fun received => ?_
    split
    · exact keeps_pure _
    · refine (widen (by decide) (netCloseSocket_keeps _)).bind fun _ => keeps_ite (keeps_pure _) ?_
      exact keeps_ite (keeps_pure _) (keeps_pure _)

theorem httpRequest_keeps (botai : BotAi) (method endpoint : Bytes) (body : Option Bytes) (size : Nat) :
    Keeps (Acts exchange) (httpRequest botai method endpoint body size) := by
  cases hprepare : httpPrepare botai method endpoint body with
  | none =>
    unfold httpRequest
    rw [hprepare]
    exact keeps_pure _
  | some request =>
    obtain ⟨use, heq, huse⟩ := httpRequest_connects size hprepare
    rw [heq]
    exact (widen (by decide) (netConnectIpv4_keeps _ _)).bind huse

theorem botaiChat_keeps (botai : BotAi) (message : Bytes) (size : Nat) :
    Keeps (Acts exchange) (botaiChat botai message size) := by
  unfold botaiChat
  split
  · exact keeps_pure _
  · refine (httpRequest_keeps _ _ _ _ _).bind fun response => ?_
    split <;> exact keeps_pure _

theorem botaiCheck_keeps (botai : BotAi) : Keeps (Acts exchange) (botaiCheck botai) := by
  unfold botaiCheck
  refine (httpRequest_keeps _ _ _ _ _).bind fun response => ?_
  split
  · exact keeps_pure _
  · exact keeps_ite (keeps_pure _) (keeps_pure _)

theorem sendReply_keeps (context : CommandContext) (target text : Bytes) :
    Keeps (Acts [.send]) (sendReply context target text) := sendFormatted_keeps _ _

theorem handleAi_keeps (botai : BotAi) (context : CommandContext) (target p : Bytes) :
    Keeps (Acts exchange) (handleAi botai context target p) := by
  have reply (text : Bytes) : Keeps (Acts exchange) (sendReply context target text) :=
    widen (by decide) (sendReply_keeps _ _ _)
  unfold handleAi
  refine keeps_ite (reply _) (keeps_ite (reply _) ?_)
  exact (botaiChat_keeps _ _ _).bind fun _ => keeps_ite (reply _) (reply _)

theorem commandsHandleEvent_keeps (botai : BotAi) (event : Event) (context : CommandContext) :
    Keeps (Acts exchange) (commandsHandleEvent botai event context) := by
  have reply (target text : Bytes) : Keeps (Acts exchange) (sendReply context target text) :=
    widen (by decide) (sendReply_keeps _ _ _)
  unfold commandsHandleEvent
  refine keeps_ite (keeps_pure _) (keeps_ite (keeps_pure _) ?_)
  split
  · exact reply _ _
  · refine keeps_ite (reply _ _) ?_
    split
    · exact reply _ _
    · exact reply _ _
    · exact reply _ _
    · exact handleAi_keeps _ _ _ _

/-! ## Dispatching -/

abbrev dispatching : List Kind := [.connect, .send, .recv, .wait, .close, .rexx, .script, .event]

/-- The kinds of handling received bytes. -/
abbrev handling : List Kind :=
  [.connect, .send, .recv, .wait, .close, .rexx, .script, .event, .line, .negotiated]

theorem dispatchEvent_keeps (botai : BotAi) (commands : CommandContext) (hooks : HookContext) (event : Event) :
    Keeps (Acts dispatching) (dispatchEvent botai commands hooks event) := by
  refine keeps_getControl.bind fun _ => Keeps.bind (keeps_log (by simp [Obs.kind])) fun _ => ?_
  refine (widen (by decide) (commandsHandleEvent_keeps _ _ _)).bind fun _ => ?_
  exact widen (by decide) (hooksDispatchEvent_keeps _ _)

theorem eventDispatchPending_keeps {R : World → World → Prop} [IsPreorder World R] {handler : Event → M Unit}
    (h : ∀ event, Keeps R (handler event)) (n : Nat) (queue : EventQueue) :
    Keeps R (eventDispatchPending handler n queue) := by
  induction n generalizing queue with
  | zero => exact keeps_pure _
  | succ n ih =>
    unfold eventDispatchPending
    split
    · exact keeps_pure _
    · exact (h _).bind fun _ => ih _

theorem eventDispatchPending_triple {I Q : World → Prop} {handler : Event → M Unit}
    (h : ∀ event, Triple I (handler event) (fun _ => I) Q) (n : Nat) (queue : EventQueue) :
    Triple I (eventDispatchPending handler n queue) (fun _ => I) Q := by
  induction n generalizing queue with
  | zero => exact triple_pure fun _ => id
  | succ n ih =>
    unfold eventDispatchPending
    split
    · exact triple_pure fun _ => id
    · exact (h _).bind fun _ => ih _

theorem multinetHandleLine_keeps (botai : BotAi) (bytes : Bytes) (runtime : NetworkRuntime) :
    Keeps (Acts handling) (multinetHandleLine botai bytes runtime) := by
  unfold multinetHandleLine
  refine keeps_ite (keeps_pure _) ((widen (by decide) (modernIrcAnswer_keeps _ _ _ _)).bind fun r => ?_)
  obtain ⟨rc, modern⟩ := r
  refine keeps_ite ((widen (by decide) (netCloseSocket_keeps _)).bind fun _ => keeps_pure _)
    (keeps_ite ((widen (by decide) (sendPong_keeps _ _)).bind fun _ => keeps_pure _) ?_)
  dsimp only
  split
  · exact keeps_pure _
  · refine keeps_ite (keeps_pure _) (Keeps.bind ?_ fun _ => keeps_pure _)
    exact eventDispatchPending_keeps (fun _ => widen (by decide) (dispatchEvent_keeps _ _ _ _)) _ _

theorem connectRuntime_keeps (runtime : NetworkRuntime) :
    Keeps (Acts [.dial, .connect, .send, .join, .close]) (connectRuntime runtime) := by
  unfold connectRuntime
  refine keeps_ite (keeps_pure _) (Keeps.bind (keeps_log (by simp [Obs.kind])) fun _ => ?_)
  refine (widen (by decide) (netConnectIpv4_keeps _ _)).bind fun sock => ?_
  refine keeps_ite (keeps_pure _) ?_
  refine (widen (by decide) (modernIrcStart_keeps _ _)).bind fun r => ?_
  obtain ⟨rc, modern⟩ := r
  refine Keeps.bind ?_ fun rc => keeps_ite ?_ ?_
  · exact keeps_ite (keeps_pure _) (widen (by decide) (ircSendRegistration_keeps _ _ _ _))
  · exact (widen (by decide) (netCloseSocket_keeps _)).bind fun _ => keeps_pure _
  · exact (widen (by decide) (sendJoins_keeps _ _)).bind fun _ => keeps_pure _

/-- What a turn adds to its step. -/
theorem takeTurn_triple {P Q' : World → Prop} {Q : Counters × Slot → World → Prop} {i : Nat} {slot : Slot}
    {step : M (Counters × Slot)} (hturn : Triple P (log (.turn i slot)) (fun _ => P) Q') (h : Triple P step Q Q')
    (hsettled : ∀ r, Triple (Q r) (log (.settled i r.2)) (fun _ => Q r) Q') : Triple P (takeTurn i slot step) Q Q' := by
  refine hturn.bind fun _ => h.bind fun r => ?_
  obtain ⟨c, slot'⟩ := r
  exact (hsettled (c, slot')).bind fun _ => triple_pure fun _ => id

theorem takeTurn_moves {i : Nat} {slot : Slot} {step : M (Counters × Slot)} (hS : [.turn, .settled] ⊆ S)
    (h : Keeps (Moves S) step) : Keeps (Moves S) (takeTurn i slot step) := by
  refine Keeps.bind (moves (S := [.turn]) ?_ (keeps_log (by simp [Obs.kind]))) fun _ => h.bind fun r => ?_
  · exact List.Subset.trans (by decide) hS
  obtain ⟨c, slot'⟩ := r
  refine Keeps.bind (moves (S := [.settled]) ?_ (keeps_log (by simp [Obs.kind]))) fun _ => keeps_pure _
  exact List.Subset.trans (by decide) hS

/-- The closing of a table's sockets. -/
theorem closeAll_keeps (slots : List Slot) :
    Keeps (Acts [.close])
      (each (fun slot : Slot => if 0 ≤ slot.runtime.sock then netCloseSocket slot.runtime.sock else pure ()) slots) :=
  keeps_each fun _ _ => keeps_ite (netCloseSocket_keeps _) (keeps_pure _)

/-! ## The session -/

theorem delay_keeps (ticks : Nat) : Keeps (Acts [.delay]) (delay ticks) :=
  keeps_log (by simp [Obs.kind])

theorem emitLifecycle_keeps (type : EventType) (reason : Bytes) :
    Keeps (Acts [.send, .rexx, .script]) (emitLifecycle type reason) :=
  keeps_getConfig.bind fun _ => hooksDispatchEvent_keeps _ _

/-- The kinds of waiting for ARexx commands. -/
abbrev waiting : List Kind := [.send, .rexx, .delay, .ctrlC]

theorem waitForConnect_keeps (reload : Bool) : Keeps (Acts waiting) (waitForConnect reload) := by
  refine keeps_getFuel.bind fun _ => keeps_loop _ (fun _ => keeps_getControl.bind fun control => ?_) _
  refine keeps_ite (keeps_pure _) ((widen (by decide) ctrlCRequested_keeps).bind fun ctrlC => ?_)
  refine keeps_ite (keeps_pure _) ?_
  refine (widen (by decide) rexxProcess_keeps).bind fun _ => ?_
  exact (widen (by decide) (delay_keeps 5)).bind fun _ => keeps_pure _

theorem waitToRebuild_keeps (n : Nat) : Keeps (Acts waiting) (waitToRebuild n) := by
  induction n with
  | zero => exact keeps_pure _
  | succ n ih =>
    refine keeps_getControl.bind fun control => keeps_ite (keeps_pure _) ?_
    refine (widen (by decide) ctrlCRequested_keeps).bind fun ctrlC => keeps_ite (keeps_pure _) ?_
    refine (widen (by decide) rexxProcess_keeps).bind fun _ => keeps_getControl.bind fun control => ?_
    exact keeps_ite (keeps_pure _) ((widen (by decide) (delay_keeps 5)).bind fun _ => ih)

theorem sessionHandleLine_keeps (sock : Int) (bytes : Bytes) (queue : EventQueue) :
    Keeps (Acts [.send]) (sessionHandleLine sock bytes queue) := by
  unfold sessionHandleLine
  refine keeps_ite ((sendPong_keeps _ _).bind fun _ => keeps_pure _) ?_
  split
  · exact keeps_pure _
  · exact keeps_pure _

theorem disconnectReason_keeps (rc : Int) : Keeps (Acts [.ctrlC]) (disconnectReason rc) := by
  refine keeps_getControl.bind fun control => keeps_ite (keeps_pure _) ?_
  refine Keeps.bind (keeps_ite (keeps_pure _) ctrlCRequested_keeps) fun quit => ?_
  exact keeps_ite (keeps_pure _) (keeps_ite (keeps_pure _) (keeps_pure _))

end AmBot
