import AmBot.Talks
import AmBot.Descriptors
/-!
# After a Ctrl-C

A Ctrl-C that the bot has noticed leaves either its signal or the quit flag
behind, and every loop that goes on looks at both before it does anything on
the network. What is left to be done then is to close the sockets, to run the
disconnect hook, whose commands find no connection, and to read the file of a
reload.
-/

namespace AmBot

open RunLib RunLib.Prog

variable {α σ : Type} {φ : Int → Prop} {S : List Kind} {w w' : World}

/-- What is logged on the way out. -/
abbrev leaving : List Kind := [.close, .rexx, .script, .load]

/-- After a Ctrl-C only these are logged. -/
def AfterCtrlC (before : List Obs) (o : Obs) : Prop := .ctrlC ∈ before → o.kind ∈ .ctrlC :: leaving

def Orderly (w : World) : Prop := Lawful AfterCtrlC w.trace

/-- No Ctrl-C has been noticed. -/
def Undisturbed (w : World) : Prop := .ctrlC ∉ w.trace

/-- The next look at the signal or at the quit flag ends the session. -/
def Ending (w : World) : Prop := Orderly w ∧ (w.breakSignal = true ∨ w.control.quitRequested = true)

/-- `Undisturbed`, with the control block's socket in `φ`. -/
def CalmAt (φ : Int → Prop) (w : World) : Prop := Undisturbed w ∧ φ w.control.sock

def StoppingAt (φ : Int → Prop) (w : World) : Prop := (Undisturbed w ∨ Ending w) ∧ φ w.control.sock

theorem Undisturbed.orderly (h : Undisturbed w) : Orderly w := by
  rintro before x after ht hnoticed
  refine absurd ?_ h
  rw [ht]
  exact List.mem_append_left _ hnoticed

theorem CalmAt.orderly (h : CalmAt φ w) : Orderly w := h.1.orderly

theorem CalmAt.stopping (h : CalmAt φ w) : StoppingAt φ w := ⟨.inl h.1, h.2⟩

theorem StoppingAt.orderly (h : StoppingAt φ w) : Orderly w := by
  rcases h.1 with hcalm | hending
  · exact hcalm.orderly
  · exact hending.1

/-! ## What keeps the calm -/

/-- The control block keeps its socket, and only kinds of `S` are logged. -/
def Passes (S : List Kind) (w w' : World) : Prop := w'.control.sock = w.control.sock ∧ Logs S w w'

instance (S : List Kind) : IsPreorder World (Passes S) where
  refl w := ⟨rfl, refl_of (Logs S) w⟩
  trans _ _ _ h h' := ⟨h'.1.trans h.1, trans_of (Logs S) h.2 h'.2⟩

theorem Logs.calm (hS : .ctrlC ∉ S) (h : Logs S w w') (hw : Undisturbed w) : Undisturbed w' := by
  obtain ⟨t, ht, hkinds⟩ := h
  rw [Undisturbed, ht, List.mem_append]
  rintro (hold | hnew)
  · exact hw hold
  · exact hS (hkinds _ hnew)

theorem passes_calm (hS : .ctrlC ∉ S) {m : M α} (h : Keeps (Passes S) m) :
    Triple (CalmAt φ) m (fun _ => CalmAt φ) Orderly := by
  have hkeep : Triple (CalmAt φ) m (fun _ => CalmAt φ) (CalmAt φ) := by
    apply Keeps.triple h
    rintro w w' ⟨hcalm, hφ⟩ ⟨hsock, hlogs⟩
    exact ⟨hlogs.calm hS hcalm, hsock ▸ hφ⟩
  exact hkeep.conseq (fun _ => id) (fun _ _ => id) fun _ => CalmAt.orderly

theorem acts_calm (hS : .ctrlC ∉ S) {m : M α} (h : Keeps (Acts S) m) :
    Triple (CalmAt φ) m (fun _ => CalmAt φ) Orderly :=
  passes_calm hS (h.mono fun _ _ ha => ⟨ha.sock, ha.logs⟩)

theorem moves_calm (hS : .ctrlC ∉ S) {m : M α} (h : Keeps (Moves S) m) :
    Triple (CalmAt fun _ => True) m (fun _ => CalmAt fun _ => True) Orderly := by
  have hkeep : Triple Undisturbed m (fun _ => Undisturbed) Undisturbed := by
    apply Keeps.triple h
    intro w w' hw hmoves
    exact hmoves.2.calm hS hw
  exact hkeep.conseq (fun _ hw => hw.1) (fun _ _ hw => ⟨hw, trivial⟩) fun _ => Undisturbed.orderly

theorem control_calm {f : Control → Control} (h : ∀ c, (f c).sock = c.sock) :
    Triple (CalmAt φ) (modifyControl f) (fun _ => CalmAt φ) Orderly := by
  apply triple_modify
  rintro w ⟨hcalm, hφ⟩
  refine ⟨hcalm, ?_⟩
  change φ (f w.control).sock
  rwa [h]

theorem setSocket_calm {ψ : Int → Prop} (sock : Int) (h : ψ sock) :
    Triple (CalmAt φ) (setSocket sock) (fun _ => CalmAt ψ) Orderly := triple_modify fun _ hw => ⟨hw.1, h⟩

/-! ## What keeps the end in sight -/

/-- The signal and the quit flag stay, and what is logged is on the way out. -/
structure WindsUp (w w' : World) : Prop where
  signal : w'.breakSignal = w.breakSignal
  quit : w.control.quitRequested = true → w'.control.quitRequested = true
  logs : Logs leaving w w'

instance : IsPreorder World WindsUp where
  refl w := ⟨rfl, id, refl_of (Logs leaving) w⟩
  trans _ _ _ h h' := ⟨h'.signal.trans h.signal, h'.quit ∘ h.quit, trans_of (Logs leaving) h.logs h'.logs⟩

theorem WindsUp.orderly (h : WindsUp w w') (hw : Orderly w) : Orderly w' := by
  obtain ⟨t, ht, hkinds⟩ := h.logs
  rw [Orderly, ht, lawful_append]
  refine ⟨hw, ?_⟩
  rintro before x after rfl -
  exact List.mem_cons_of_mem _ (hkinds x (by simp))

theorem WindsUp.stopping (h : WindsUp w w') (hw : Undisturbed w ∨ Ending w) : Undisturbed w' ∨ Ending w' := by
  rcases hw with hcalm | ⟨horderly, hend⟩
  · exact .inl (h.logs.calm (by decide) hcalm)
  · exact .inr ⟨h.orderly horderly, hend.imp h.signal.trans h.quit⟩

theorem control_windsUp {f : Control → Control} (h : ∀ c, c.quitRequested = true → (f c).quitRequested = true) :
    Keeps WindsUp (modifyControl f) := fun _ w => ⟨rfl, h w.control, refl_of (Logs leaving) w⟩

theorem log_windsUp {o : Obs} (h : o.kind ∈ leaving) : Keeps WindsUp (log o) := by
  intro env w
  refine ⟨rfl, id, [o], rfl, ?_⟩
  simpa using h

theorem ask_windsUp (f : Env → Nat → α) : Keeps WindsUp (ask f) := fun _ w => ⟨rfl, id, refl_of (Logs leaving) w⟩

theorem setConfig_windsUp (config : Config) : Keeps WindsUp (setConfig config) :=
  fun _ w => ⟨rfl, id, refl_of (Logs leaving) w⟩

theorem netCloseSocket_windsUp (sock : Int) : Keeps WindsUp (netCloseSocket sock) :=
  keeps_ite (log_windsUp (by simp [Obs.kind])) (keeps_pure _)

theorem loadConfig_windsUp (path : Bytes) : Keeps WindsUp (loadConfig path) := by
  refine (keeps_read _).bind fun config => (ask_windsUp _).bind fun file => ?_
  exact (log_windsUp (by simp [Obs.kind])).bind fun _ => (setConfig_windsUp _).bind fun _ => keeps_pure _

theorem reloadRequestedConfig_windsUp : Keeps WindsUp reloadRequestedConfig := by
  refine (keeps_read _).bind fun control => (keeps_read _).bind fun config => keeps_ite ?_ (keeps_pure _)
  exact Keeps.bind (control_windsUp fun _ => id) fun _ => loadConfig_windsUp _

theorem multinetStop_windsUp (s : MultinetState) : Keeps WindsUp (multinetStop s) := by
  refine (keeps_each fun slot _ => keeps_ite (netCloseSocket_windsUp _) (keeps_pure _)).bind fun _ => ?_
  exact Keeps.bind (control_windsUp fun _ => id) fun _ => keeps_pure _

theorem windsUp_stopping {m : M α} (h : Keeps WindsUp m) :
    Triple (StoppingAt fun _ => True) m (fun _ => StoppingAt fun _ => True) Orderly := by
  have hkeep : Triple (StoppingAt fun _ => True) m (fun _ => StoppingAt fun _ => True) (StoppingAt fun _ => True) :=
    Keeps.triple h fun w w' hw hwinds => ⟨hwinds.stopping hw.1, trivial⟩
  exact hkeep.conseq (fun _ => id) (fun _ _ => id) fun _ => StoppingAt.orderly

/-! ## Looking at the signal -/

theorem ctrlCRequested_eq (env : Env) (w : World) : ctrlCRequested env w =
    if w.breakSignal || env.ctrlC w.tick then
      (.ok true, ({ w with tick := w.tick + 1, breakSignal := true } : World).log .ctrlC)
    else (.ok false, { w with tick := w.tick + 1, breakSignal := false }) := by
  split <;> rename_i hset <;>
    simp [ctrlCRequested, getBreakSignal, setBreakSignal, ask, log, bind_run, Prog.read, Prog.modify, Prog.when, hset]

/-- A Ctrl-C that is not there has not been noticed either, but for the quit
flag it may have left. -/
theorem ctrlCRequested_stopping : Triple (StoppingAt φ) ctrlCRequested (fun set w =>
    StoppingAt φ w ∧ (set = false → w.control.quitRequested = false → Undisturbed w)) Orderly := by
  intro env w hw
  have horderly := hw.orderly
  obtain ⟨hstate, hφ⟩ := hw
  rw [ctrlCRequested_eq]
  by_cases hset : (w.breakSignal || env.ctrlC w.tick) = true
  · rw [if_pos hset]
    exact ⟨⟨.inr ⟨lawful_snoc.2 ⟨horderly, fun _ => List.mem_cons_self⟩, .inl rfl⟩, hφ⟩, nofun⟩
  · have hsignal : w.breakSignal = false := by
      simp only [Bool.or_eq_true, not_or, Bool.not_eq_true] at hset
      exact hset.1
    rw [if_neg hset]
    refine ⟨⟨hstate.imp_right fun hending => ⟨hending.1, .inr ?_⟩, hφ⟩, fun _ hquit => ?_⟩
    · exact hending.2.resolve_left (by simp [hsignal])
    · rcases hstate with hcalm | ⟨-, hend⟩
      · exact hcalm
      · rcases hend with hbreak | hnow
        · rw [hsignal] at hbreak
          cases hbreak
        · exact absurd hnow (by simp [show w.control.quitRequested = false from hquit])

/-- Where nothing has been noticed, the quit flag need not be looked at. -/
theorem ctrlCRequested_calm : Triple (CalmAt φ) ctrlCRequested (fun set w =>
    StoppingAt φ w ∧ (set = false → CalmAt φ w)) Orderly := by
  intro env w hw
  have hcalm := hw
  have hafter := ctrlCRequested_stopping env w hw.stopping
  rw [ctrlCRequested_eq] at hafter ⊢
  by_cases hset : (w.breakSignal || env.ctrlC w.tick) = true
  · rw [if_pos hset] at hafter ⊢
    exact ⟨hafter.1, nofun⟩
  · rw [if_neg hset] at hafter ⊢
    exact ⟨hafter.1, fun _ => hcalm⟩

/-- `while (!ctrl_c_requested() && !control->quit_requested ...)`. -/
theorem stop_test {p : Bool → Control → Bool} {m m' : Control → M α} {Q : α → World → Prop}
    (hp : ∀ ctrlC control, p ctrlC control = false → ctrlC = false ∧ control.quitRequested = false)
    (hstop : ∀ control, Triple (StoppingAt φ) (m control) Q Orderly)
    (hgo : ∀ control, Triple (CalmAt φ) (m' control) Q Orderly) :
    Triple (StoppingAt φ) (do
      let ctrlC ← ctrlCRequested
      let control ← getControl
      if p ctrlC control then m control else m' control) Q Orderly := by
  refine ctrlCRequested_stopping.bind fun ctrlC => getControl_reads.bind fun control => ?_
  refine triple_ite (fun _ => ?_) fun hno => ?_
  · exact (hstop control).pre fun w hw => hw.1.1
  · refine (hgo control).pre fun w hw => ?_
    obtain ⟨⟨⟨-, hφ⟩, hcalm⟩, rfl⟩ := hw
    obtain ⟨hset, hquit⟩ := hp ctrlC w.control (by simpa using hno)
    exact ⟨hcalm hset hquit, hφ⟩

/-- `control->quit_requested || ctrl_c_requested()`. -/
theorem stopped_test {m m' : Control → M α} {Q : α → World → Prop}
    (hstop : ∀ control, Triple (StoppingAt φ) (m control) Q Orderly)
    (hgo : ∀ control, Triple (CalmAt φ) (m' control) Q Orderly) : Triple (StoppingAt φ) (do
      let control ← getControl
      let stopped ← (if control.quitRequested then pure true else ctrlCRequested)
      if stopped then m control else m' control) Q Orderly := by
  refine getControl_reads.bind fun control => ?_
  refine Triple.bind (Q := fun stopped w => StoppingAt φ w ∧ (stopped = false → Undisturbed w)) ?_ fun stopped => ?_
  · refine triple_ite (fun _ => triple_pure fun w hw => ⟨hw.1, nofun⟩) fun hquit => ?_
    intro env w hw
    obtain ⟨hstate, rfl⟩ := hw
    have h := ctrlCRequested_stopping env w hstate
    have hkeep : (ctrlCRequested env w).2.control = w.control := (ctrlCRequested_keeps env w).control (by decide)
    split at h
    · rename_i set w' heq
      rw [heq] at hkeep
      refine ⟨h.1, fun hset => h.2 hset ?_⟩
      rw [hkeep]
      simpa using hquit
    · exact h
  · refine triple_ite (fun _ => (hstop control).pre fun w hw => hw.1) fun hno => (hgo control).pre fun w hw => ?_
    exact ⟨hw.2 (by simpa using hno), hw.1.2⟩

/-! ## Leaving the signal alone -/

def SameSignal (w w' : World) : Prop := w'.breakSignal = w.breakSignal

instance : IsPreorder World SameSignal where
  refl _ := rfl
  trans _ _ _ h h' := h'.trans h

theorem ask_signal (f : Env → Nat → α) : Keeps SameSignal (ask f) := fun _ _ => rfl

theorem log_signal (o : Obs) : Keeps SameSignal (log o) := fun _ _ => rfl

theorem netSendFrom_signal (sock : Int) (n : Nat) (data : Bytes) : Keeps SameSignal (netSendFrom sock n data) := by
  induction n generalizing data with
  | zero => cases data <;> exact keeps_pure _
  | succ n ih =>
    cases data with
    | nil => exact keeps_pure _
    | cons c data =>
      refine (ask_signal _).bind fun rc => (log_signal _).bind fun _ => keeps_ite (keeps_pure _) ?_
      exact ih _

theorem operationSendRaw_signal (line : Bytes) : Keeps SameSignal (operationSendRaw line) := by
  have send (sock : Int) (data : Bytes) : Keeps SameSignal (netSendAll sock data) := netSendFrom_signal sock _ data
  refine (keeps_read _).bind fun control => keeps_ite (keeps_pure _) (keeps_ite (keeps_pure _) ?_)
  refine Keeps.bind ?_ fun rc => keeps_ite (keeps_pure _) (keeps_pure _)
  exact (send _ _).bind fun _ => keeps_ite (keeps_pure _) (send _ _)

theorem controlOperation_signal (f : Control → Bytes × Control) : Keeps SameSignal (controlOperation f) :=
  (keeps_read _).bind fun _ => Keeps.bind (fun _ _ => rfl) fun _ => keeps_pure _

theorem rexxProcess_signal : Keeps SameSignal rexxProcess := by
  refine (ask_signal _).bind fun messages => keeps_each fun message _ => ?_
  refine Keeps.bind (m := dispatchCommand (cstr message)) ?_ fun r => log_signal _
  rw [dispatchCommand_eq]
  cases requestOf (cstr message) with
  | refuse message => exact keeps_pure _
  | status => exact (keeps_read _).bind fun _ => keeps_pure _
  | connect => exact controlOperation_signal _
  | disconnect => exact controlOperation_signal _
  | reload => exact controlOperation_signal _
  | quit => exact controlOperation_signal _
  | line text => exact operationSendRaw_signal text

theorem hooksDispatchEvent_signal (event : Event) (context : HookContext) :
    Keeps SameSignal (hooksDispatchEvent event context) := by
  have wait : Keeps SameSignal scriptWaitLoop := by
    refine (keeps_read _).bind fun fuel => keeps_loop fuel (fun _ => ?_) ()
    refine (ask_signal _).bind fun r => ?_
    obtain ⟨rexx, replied⟩ := r
    exact (keeps_when rexxProcess_signal).bind fun _ => keeps_pure _
  have run (path : Bytes) (args : List Bytes) : Keeps SameSignal (rexxRunScript path args) := by
    refine (ask_signal _).bind fun ready => keeps_ite (keeps_pure _) ?_
    split
    · exact keeps_pure _
    · refine (ask_signal _).bind fun made => keeps_ite (keeps_pure _) ?_
      exact (log_signal _).bind fun _ => wait.bind fun _ => ask_signal _
  unfold hooksDispatchEvent
  split
  · exact keeps_pure _
  · refine keeps_ite (keeps_pure _) ((ask_signal _).bind fun found => keeps_ite (keeps_pure _) ?_)
    exact (run _ _).bind fun _ => keeps_pure _

/-- No command clears the quit flag. -/
theorem Acts.quit (h : Acts S w w') (hquit : w.control.quitRequested = true) : w'.control.quitRequested = true := by
  induction h with
  | refl => exact hquit
  | tail _ ha ih =>
    cases ha with
    | tick => exact ih
    | signal => exact ih
    | log => exact ih
    | answer input rc result control _ hanswered =>
      cases hanswered with
      | connect =>
        change (operationConnect _).2.quitRequested = true
        unfold operationConnect
        split
        · exact ih
        · exact ih
      | disconnect => exact ih
      | reload => exact ih
      | quit => rfl
      | other => exact ih

/-- A hook script that finds no connection sends nothing. -/
theorem hooksDispatchEvent_windsUp (event : Event) (context : HookContext) (env : Env) (hsock : w.control.sock < 0) :
    WindsUp w (hooksDispatchEvent event context env w).2 := by
  have hacts := hooksDispatchEvent_keeps event context env w
  obtain ⟨-, t, ht, hlaw⟩ := @hooksDispatchEvent_talks [] event context env w
  obtain ⟨t', ht', hkinds⟩ := hacts.logs
  obtain rfl : t = t' := List.append_cancel_left (ht.symm.trans ht')
  refine ⟨hooksDispatchEvent_signal event context env w, hacts.quit, t, ht, fun o ho => ?_⟩
  have hkind := hkinds o ho
  obtain ⟨before, after, rfl⟩ := List.append_of_mem ho
  cases o with
  | send fd data rc =>
    rcases hlaw before _ after rfl fd rfl with hmine | ⟨-, host, port, hconnect⟩ | ⟨-, hshared, hopen⟩
    · exact absurd hmine List.not_mem_nil
    · have hconnects := hkinds _ (List.mem_append_left _ hconnect)
      simp [Obs.kind] at hconnects
    · obtain rfl : fd = w.control.sock := by simpa [World.shared] using hshared
      omega
  | rexx => simp [Obs.kind]
  | script => simp [Obs.kind]
  | _ => simp [Obs.kind] at hkind

end AmBot
