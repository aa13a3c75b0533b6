import AmBot.Bookkeeping
import AmBot.RunLib.Until
/-!
# Requests that wait for a session loop

An ARexx command that asks for something is answered at once and carried out
later, by the loop that next looks at its flag in the control block. A
`Request` is such a command with its flag. Two assertions run through the
functions below the loops: every request that is still open is noted in its
flag (`Tracked`), and no request is open (`Clear`). Where ARexx messages are
read the first is what is left of either; where none are, the second lets a
function do what a request forbids.
-/

namespace AmBot

open RunLib RunLib.Prog

/-- The answer with return code 0 to `command`. -/
def Obs.answers (command : String) : Obs → Bool
  | .rexx input rc _ => rc = 0 && commandWord input = ascii command
  | _ => false

theorem Obs.answers_rexx {command : String} {o : Obs} (h : o.answers command = true) : o.kind = .rexx := by
  cases o <;> first | rfl | cases h

theorem Obs.commandWord_of_answers {command : String} {input result : Bytes} {rc : Nat}
    (h : (Obs.rexx input rc result).answers command = true) : commandWord input = ascii command := by
  simp only [Obs.answers, Bool.and_eq_true, decide_eq_true_eq] at h
  exact h.2

section
variable {c c' : Control} {input result : Bytes} {rc : Nat}

theorem Answered.of_disconnect (h : Answered c input rc result c') (hword : commandWord input = ascii "DISCONNECT") :
    c' = (operationDisconnect c).2 := by
  cases h with
  | disconnect => rfl
  | connect hne => exact absurd (hne.symm.trans hword) (by decide)
  | reload hne => exact absurd (hne.symm.trans hword) (by decide)
  | quit hne => exact absurd (hne.symm.trans hword) (by decide)
  | other _ _ _ hne => exact absurd hword hne

theorem Answered.of_reload (h : Answered c input rc result c') (hword : commandWord input = ascii "RELOAD") :
    c' = (operationReload c).2 := by
  cases h with
  | reload => rfl
  | connect hne => exact absurd (hne.symm.trans hword) (by decide)
  | disconnect hne => exact absurd (hne.symm.trans hword) (by decide)
  | quit hne => exact absurd (hne.symm.trans hword) (by decide)
  | other _ _ _ _ hne => exact absurd hword hne

theorem Answered.of_quit (h : Answered c input rc result c') (hword : commandWord input = ascii "QUIT") :
    c' = (operationQuit c).2 := by
  cases h with
  | quit => rfl
  | connect hne => exact absurd (hne.symm.trans hword) (by decide)
  | disconnect hne => exact absurd (hne.symm.trans hword) (by decide)
  | reload hne => exact absurd (hne.symm.trans hword) (by decide)
  | other _ _ _ _ _ hne => exact absurd hword hne

end

/-- The answers that make a request, the entries that settle it and the flag
that notes it. -/
structure Request where
  asked : Obs → Prop
  settled : Obs → Prop
  flag : Control → Bool
  asked_rexx : ∀ o, asked o → o.kind = .rexx
  sets : ∀ {c c' : Control} {input result : Bytes} {rc : Nat}, Answered c input rc result c' →
    asked (.rexx input rc result) → flag c' = true
  keeps : ∀ {c c' : Control} {input result : Bytes} {rc : Nat}, Answered c input rc result c' →
    ¬ settled (.rexx input rc result) → flag c = true → flag c' = true
  setSocket : ∀ c sock, flag c = true → flag (controlSetSocket c sock) = true

namespace Request
variable (r : Request)

def IsOpen (trace : List Obs) : Prop := Owed r.asked r.settled trace

theorem isOpen_log {trace : List Obs} {o : Obs} (ho : o.kind ≠ .rexx) (h : r.IsOpen (trace ++ [o])) :
    r.IsOpen trace ∧ ¬ r.settled o := by
  rcases owed_snoc.1 h with hp | h
  · exact absurd (r.asked_rexx o hp) ho
  · exact h

end Request

/-- The requests in question, the kinds that none of them may see while it is
open, and what is known of the configuration. -/
structure Watch where
  requests : List Request
  barred : List Kind
  configured : Config → Prop

namespace Watch
variable (W : Watch)

/-- No barred entry while a request is open. -/
def Held (w : World) : Prop := ∀ r ∈ W.requests, Until r.asked r.settled (·.kind ∈ W.barred) w.trace

def Quiet (w : World) : Prop := ∀ r ∈ W.requests, ¬ r.IsOpen w.trace

def Noted (w : World) : Prop := ∀ r ∈ W.requests, r.IsOpen w.trace → r.flag w.control = true

structure Tracked (w : World) : Prop where
  held : W.Held w
  noted : W.Noted w
  configured : W.configured w.config

structure Clear (w : World) : Prop where
  held : W.Held w
  quiet : W.Quiet w
  configured : W.configured w.config

/-- Some request is noted. -/
def flag (c : Control) : Bool := W.requests.any (·.flag c)

variable {W} {w w' : World} {S : List Kind}

theorem Clear.tracked (h : W.Clear w) : W.Tracked w :=
  ⟨h.held, fun r hr hopen => absurd hopen (h.quiet r hr), h.configured⟩

theorem Tracked.clear (h : W.Tracked w) (hflag : W.flag w.control = false) : W.Clear w := by
  refine ⟨h.held, fun r hr hopen => ?_, h.configured⟩
  have hnot := List.any_eq_false.1 hflag r hr
  exact hnot (h.noted r hr hopen)

/-- One more entry, of a kind that is not barred or with no request open. -/
theorem Held.log (h : W.Held w) {o : Obs} (ho : o.kind ∈ W.barred → W.Quiet w) : W.Held (w.log o) :=
  fun r hr => until_snoc.2 ⟨h r hr, fun hk => ho hk r hr⟩

theorem Quiet.log (h : W.Quiet w) {o : Obs} (ho : o.kind ≠ .rexx) : W.Quiet (w.log o) :=
  fun r hr hopen => h r hr (r.isOpen_log ho hopen).1

theorem Clear.log (h : W.Clear w) {o : Obs} (ho : o.kind ≠ .rexx) : W.Clear (w.log o) :=
  ⟨h.held.log fun _ => h.quiet, h.quiet.log ho, h.configured⟩

theorem Tracked.log (h : W.Tracked w) {o : Obs} (ho : o.kind ≠ .rexx) (hbar : o.kind ∉ W.barred) :
    W.Tracked (w.log o) :=
  ⟨h.held.log fun hk => absurd hk hbar, fun r hr hopen => h.noted r hr (r.isOpen_log ho hopen).1, h.configured⟩

theorem Clear.act (hS : .rexx ∉ S) (h : Act S w w') (hw : W.Clear w) : W.Clear w' := by
  cases h with
  | tick => exact ⟨hw.held, hw.quiet, hw.configured⟩
  | signal => exact ⟨hw.held, hw.quiet, hw.configured⟩
  | log o _ ho => exact hw.log ho
  | answer _ _ _ _ hr => exact absurd hr hS

theorem Tracked.act (hS : ∀ k ∈ S, k ∉ W.barred) (h : Act S w w') (hw : W.Tracked w) : W.Tracked w' := by
  cases h with
  | tick => exact ⟨hw.held, hw.noted, hw.configured⟩
  | signal => exact ⟨hw.held, hw.noted, hw.configured⟩
  | log o hk ho => exact hw.log ho (hS _ hk)
  | answer input rc result control hk ha =>
    -- a request is open after the answer because it is this one, or still is
    refine ⟨Held.log (w := w.setControl control) hw.held fun hbar => absurd hbar (hS _ hk), fun r hr hopen => ?_,
      hw.configured⟩
    rcases owed_snoc.1 hopen with hasked | ⟨hopen, hnot⟩
    · exact r.sets ha hasked
    · exact r.keeps ha hnot (hw.noted r hr hopen)

/-! ## Triples -/

section
variable {α : Type} {A : Obs → Prop}

/-- The control block as it is read, with what is known of the world. -/
theorem getControl_tracked {Q : World → Prop} :
    Triple (Given A W.Tracked) getControl (fun control w => Given A W.Tracked w ∧ control = w.control) Q :=
  triple_read fun _ _ hw => ⟨hw, rfl⟩

/-- An entry that `A` has only with no request noted finds none open. -/
theorem log_clear {o : Obs} {control : Control} (hw : Given A W.Tracked w ∧ control = w.control) (ho : o.kind ≠ .rexx)
    (hbar : o.kind ∉ W.barred) (hflag : A o → W.flag control = false) : Given A W.Clear (w.log o) := by
  obtain ⟨htracked, rfl⟩ := hw
  refine htracked.log fun ha hnow => ?_
  have hlogged : W.Tracked (w.log o) := hnow.log ho hbar
  exact hlogged.clear (hflag ha)

theorem acts_clear {m : M α} (hS : .rexx ∉ S) (h : Keeps (Acts S) m) :
    Triple (Given A W.Clear) m (fun _ => Given A W.Clear) (Given A W.Held) :=
  given_acts h (fun _ _ ha hw => hw.act hS ha) fun _ hw => hw.held

theorem acts_tracked {m : M α} (hS : ∀ k ∈ S, k ∉ W.barred) (h : Keeps (Acts S) m) :
    Triple (Given A W.Tracked) m (fun _ => Given A W.Tracked) (Given A W.Held) :=
  given_acts h (fun _ _ ha hw => hw.act hS ha) fun _ hw => hw.held

/-- A change of the control block that keeps the flags of the requests. -/
theorem modifyControl_tracked {f : Control → Control}
    (hf : ∀ r ∈ W.requests, ∀ c, r.flag c = true → r.flag (f c) = true) :
    Triple (Given A W.Tracked) (modifyControl f) (fun _ => Given A W.Tracked) (Given A W.Held) :=
  triple_modify fun w hw hall => by
    obtain ⟨hheld, hnoted, hconfigured⟩ := hw hall
    exact ⟨hheld, fun r hr hopen => hf r hr _ (hnoted r hr hopen), hconfigured⟩

theorem modifyControl_clear (f : Control → Control) :
    Triple (Given A W.Clear) (modifyControl f) (fun _ => Given A W.Clear) (Given A W.Held) :=
  triple_modify fun w hw hall => by
    obtain ⟨hheld, hquiet, hconfigured⟩ := hw hall
    exact ⟨hheld, hquiet, hconfigured⟩

theorem setFirstSocket_tracked (i : Nat) (sock : Int) :
    Triple (Given A W.Tracked) (setFirstSocket i sock) (fun _ => Given A W.Tracked) (Given A W.Held) :=
  triple_ite (fun _ => modifyControl_tracked fun r _ c => r.setSocket c sock) fun _ => triple_pure fun _ => id

theorem setFirstSocket_clear (i : Nat) (sock : Int) :
    Triple (Given A W.Clear) (setFirstSocket i sock) (fun _ => Given A W.Clear) (Given A W.Held) :=
  triple_ite (fun _ => modifyControl_clear _) fun _ => triple_pure fun _ => id

end

end Watch

/-! ## Events -/

/-- The checks of `handle_ai` and of what it calls before a connection to the
BotAI service, on the text after the command word. -/
def asksBotai (botai : BotAi) (p : Bytes) : Bool :=
  skipBlanks p ≠ [] && botai.compatible &&
    ((chatPrepare botai (skipBlanks p) (botaiReplyMax + 1)).bind fun body =>
      httpPrepare botai (ascii "POST") (ascii "/v1/chat") (some body)).isSome

/-- Handling the event opens a connection to the BotAI service. -/
def opensBotai (botai : BotAi) (event : Event) : Bool :=
  isCommand event && findCommand (commandName event.text).1 = some .AI && asksBotai botai (commandName event.text).2

theorem botaiChat_quiet {botai : BotAi} {message : Bytes} {size : Nat}
    (h : ((chatPrepare botai message size).bind fun body =>
      httpPrepare botai (ascii "POST") (ascii "/v1/chat") (some body)) = none) :
    Keeps (Acts [.send]) (botaiChat botai message size) := by
  unfold botaiChat
  split
  · exact keeps_pure _
  · rename_i body hbody
    have hnone : httpPrepare botai (ascii "POST") (ascii "/v1/chat") (some body) = none := by
      simpa only [hbody, Option.bind_some] using h
    unfold httpRequest
    rw [hnone]
    exact (keeps_pure none).bind fun response => by split <;> exact keeps_pure _

theorem handleAi_quiet {botai : BotAi} {p : Bytes} (h : asksBotai botai p = false) (context : CommandContext)
    (target : Bytes) : Keeps (Acts [.send]) (handleAi botai context target p) := by
  unfold handleAi
  by_cases hmessage : skipBlanks p = []
  · simp only [hmessage, if_true]
    exact sendReply_keeps _ _ _
  cases hcompatible : botai.compatible with
  | false =>
    simp only [hmessage, if_false, Bool.not_false, if_true]
    exact sendReply_keeps _ _ _
  | true =>
    refine keeps_ite (sendReply_keeps _ _ _) (keeps_ite (sendReply_keeps _ _ _) ((botaiChat_quiet ?_).bind fun _ =>
      keeps_ite (sendReply_keeps _ _ _) (sendReply_keeps _ _ _)))
    simpa [asksBotai, hmessage, hcompatible] using h

/-- An event that asks nothing of the BotAI service is answered with lines. -/
theorem commandsHandleEvent_quiet {botai : BotAi} {event : Event} (h : opensBotai botai event = false)
    (context : CommandContext) : Keeps (Acts [.send]) (commandsHandleEvent botai event context) := by
  unfold commandsHandleEvent
  cases hcommand : isCommand event with
  | false => exact keeps_pure _
  | true =>
    refine keeps_ite (keeps_pure _) (keeps_ite (keeps_pure _) ?_)
    split
    · exact sendReply_keeps _ _ _
    · rename_i command hfound
      refine keeps_ite (sendReply_keeps _ _ _) ?_
      split
      · exact sendReply_keeps _ _ _
      · exact sendReply_keeps _ _ _
      · exact sendReply_keeps _ _ _
      · have hai : findCommand (commandName event.text).1 = some .AI := hfound
        have hquiet : asksBotai botai (commandName event.text).2 = false := by
          simpa [opensBotai, hcommand, hai] using h
        exact handleAi_quiet hquiet _ _

namespace Watch
variable {W : Watch} {A : Obs → Prop} {botai : BotAi}

/-- The kinds a watch never bars: what the bot does at any time. -/
abbrev routine : List Kind :=
  [.send, .recv, .close, .rexx, .script, .load, .delay, .ctrlC, .underflow, .event, .rebuild, .opened, .iteration, .woken,
    .retry, .session, .dial, .register, .join, .turn, .settled, .line, .negotiated]

section
variable (hbar : ∀ k ∈ routine, k ∉ W.barred)
  (hevent : ∀ event control, A (.event event control) → W.flag control = true → opensBotai botai event = false)
include hbar

theorem routine_tracked {α : Type} {S : List Kind} {m : M α} (hS : S ⊆ routine) (h : Keeps (Acts S) m) :
    Triple (Given A W.Tracked) m (fun _ => Given A W.Tracked) (Given A W.Held) :=
  acts_tracked (fun k hk => hbar k (hS hk)) h

include hevent

/-- An event is handled with its requests noted, as long as no event asks the
BotAI service while one is. -/
theorem dispatchEvent_tracked (commands : CommandContext) (hooks : HookContext) (event : Event) :
    Triple (Given A W.Tracked) (dispatchEvent botai commands hooks event) (fun _ => Given A W.Tracked)
      (Given A W.Held) := by
  refine getControl_tracked.bind fun control => ?_
  refine Triple.bind (Q := fun _ => Given A fun w => W.Tracked w ∧ (opensBotai botai event = true → W.Clear w))
    (triple_modify fun w hw => hw.1.log fun ha hnow => ?_) fun _ => ?_
  · have hlogged : W.Tracked (w.log (.event event control)) := hnow.log nofun (hbar .event (by decide))
    refine ⟨hlogged, fun hopens => hlogged.clear ?_⟩
    rw [hw.2] at ha
    by_contra hflag
    rw [hevent _ _ ha (Bool.eq_true_of_not_eq_false hflag)] at hopens
    cases hopens
  refine Triple.bind (Q := fun _ => Given A W.Tracked) ?_ fun _ =>
    routine_tracked hbar (by decide) (hooksDispatchEvent_keeps _ _)
  by_cases hopens : opensBotai botai event = true
  · -- the exchange with the service connects and waits, with no request open
    have hclear := acts_clear (W := W) (A := A) (by decide) (commandsHandleEvent_keeps botai event commands)
    exact (hclear.pre fun w hw => hw.mono fun hnow => hnow.2 hopens).post fun _ w hw => hw.mono Clear.tracked
  · have hquiet : opensBotai botai event = false := Bool.eq_false_of_not_eq_true hopens
    exact (routine_tracked hbar (by decide) (commandsHandleEvent_quiet hquiet _)).pre fun w hw => hw.mono And.left

theorem multinetHandleLine_tracked (bytes : Bytes) (runtime : NetworkRuntime) :
    Triple (Given A W.Tracked) (multinetHandleLine botai bytes runtime) (fun _ => Given A W.Tracked)
      (Given A W.Held) := by
  unfold multinetHandleLine
  refine triple_ite (fun _ => triple_pure fun _ => id) fun _ => ?_
  refine (routine_tracked hbar (by decide) (modernIrcAnswer_keeps _ _ _ _)).bind fun r => ?_
  obtain ⟨rc, modern⟩ := r
  refine triple_ite (fun _ => ?_) fun _ => triple_ite (fun _ => ?_) fun _ => ?_
  · exact (routine_tracked hbar (by decide) (netCloseSocket_keeps _)).bind fun _ => triple_pure fun _ => id
  · exact (routine_tracked hbar (by decide) (sendPong_keeps _ _)).bind fun _ => triple_pure fun _ => id
  dsimp only
  split
  · exact triple_pure fun _ => id
  · refine triple_ite (fun _ => triple_pure fun _ => id) fun _ => ?_
    refine (eventDispatchPending_triple (fun event => dispatchEvent_tracked hbar hevent _ _ event) _ _).bind fun _ => ?_
    exact triple_pure fun _ => id

theorem receiveNetwork_tracked (ready : List Bool) (i : Nat) (c : Counters) (slot : Slot) :
    Triple (Given A W.Tracked) (receiveNetwork botai ready i c slot) (fun _ => Given A W.Tracked) (Given A W.Held) := by
  have lose : Triple (Given A W.Tracked) (loseNetwork i c slot) (fun _ => Given A W.Tracked) (Given A W.Held) := by
    refine (routine_tracked hbar (by decide) (netCloseSocket_keeps _)).bind fun _ => ?_
    refine (setFirstSocket_tracked i _).bind fun _ => ?_
    exact Triple.bind (routine_tracked (S := []) hbar (by simp) (keeps_ask _)) fun _ => triple_pure fun _ => id
  unfold receiveNetwork
  refine triple_ite (fun _ => triple_pure fun _ => id) fun _ => ?_
  refine takeTurn_triple (routine_tracked (S := [.turn]) hbar (by decide) (keeps_log (by simp [Obs.kind]))) ?_ fun _ =>
    routine_tracked (S := [.settled]) hbar (by decide) (keeps_log (by simp [Obs.kind]))
  refine (routine_tracked hbar (by decide) (netRecv_keeps _ _)).bind fun received => ?_
  split
  · exact lose
  · exact lose
  · refine (framerFeed_triple (J := fun _ => Given A W.Tracked)
      (fun line user => multinetHandleLine_tracked hbar hevent line user) (fun _ _ hw => hw.mono Tracked.held) _ _ _).bind
      fun r => ?_
    obtain ⟨framer, runtime⟩ := r
    refine triple_ite (fun _ => ?_) fun _ => triple_pure fun _ => id
    exact (setFirstSocket_tracked i _).bind fun _ => triple_pure fun _ => id

theorem receive_sweep_tracked (ready : List Bool) (c : Counters) (slots : List Slot) :
    Triple (Given A W.Tracked) (sweep (receiveNetwork botai ready) 0 c slots) (fun _ => Given A W.Tracked)
      (Given A W.Held) :=
  triple_sweep (I := fun _ _ _ => Given A W.Tracked)
    (fun done c slot _ => receiveNetwork_tracked hbar hevent ready done.length c slot) c slots

end

theorem setSocket_tracked (sock : Int) :
    Triple (Given A W.Tracked) (setSocket sock) (fun _ => Given A W.Tracked) (Given A W.Held) :=
  modifyControl_tracked fun r _ c => r.setSocket c sock

/-- A whole read of the single-network session. -/
theorem sessionFeed_tracked (hbar : ∀ k ∈ routine, k ∉ W.barred)
    (hevent : ∀ event control, A (.event event control) → W.flag control = true → opensBotai botai event = false)
    (sock : Int) (data : Bytes) (s : SessionState) :
    Triple (Given A W.Tracked) (sessionFeed botai sock data s) (fun _ => Given A W.Tracked) (Given A W.Held) := by
  have hframer := framerFeed_keeps (sessionHandleLine_keeps sock) data s.framer s.events
  refine (routine_tracked hbar (by decide) hframer).bind fun r => ?_
  obtain ⟨framer, events⟩ := r
  refine Triple.bind (eventDispatchPending_triple (fun event => ?_) events.count events) fun _ => triple_pure fun _ => id
  refine triple_same.bind fun config => ?_
  exact dispatchEvent_tracked hbar hevent _ _ event

/-- Where nothing is asked of the configuration, any may be loaded. -/
theorem loadConfig_tracked (hbar : ∀ k ∈ routine, k ∉ W.barred) (hconfigured : ∀ config, W.configured config)
    (path : Bytes) : Triple (Given A W.Tracked) (loadConfig path) (fun _ => Given A W.Tracked) (Given A W.Held) := by
  refine triple_same.bind fun config => ?_
  refine Triple.bind (routine_tracked (S := []) hbar (by simp) (keeps_ask _)) fun file => ?_
  refine Triple.bind (routine_tracked (S := [.load]) hbar (by decide) (keeps_log (by simp [Obs.kind]))) fun _ => ?_
  refine Triple.bind (Q := fun _ => Given A W.Tracked) (triple_modify fun w hw hall => ?_) fun _ => triple_pure fun _ => id
  exact ⟨(hw hall).held, (hw hall).noted, hconfigured _⟩

/-- The reload of a wait, which resets the flag of RELOAD alone. -/
theorem processReload_tracked (hbar : ∀ k ∈ routine, k ∉ W.barred) (hconfigured : ∀ config, W.configured config)
    (hkeeps : ∀ r ∈ W.requests, ∀ c, r.flag c = true → r.flag { c with reloadRequested := false } = true) :
    Triple (Given A W.Tracked) processReload (fun _ => Given A W.Tracked) (Given A W.Held) := by
  unfold processReload
  refine triple_same.bind fun control => triple_ite (fun _ => ?_) fun _ => triple_pure fun _ => id
  refine Triple.bind (modifyControl_tracked hkeeps) fun _ => ?_
  refine triple_same.bind fun config => triple_ite (fun _ => triple_pure fun _ => id) fun _ => ?_
  exact (loadConfig_tracked hbar hconfigured _).bind fun _ => triple_pure fun _ => id

theorem multinetStop_tracked (hbar : ∀ k ∈ routine, k ∉ W.barred) (s : MultinetState) :
    Triple (Given A W.Tracked) (multinetStop s) (fun _ => Given A W.Tracked) (Given A W.Held) := by
  refine (routine_tracked hbar (by decide) (closeAll_keeps s.slots)).bind fun _ => ?_
  exact (setSocket_tracked (-1)).bind fun _ => triple_pure fun _ => id

/-! ## Connecting -/

theorem takeTurn_clear {i : Nat} {slot : Slot} {step : M (Counters × Slot)}
    (h : Triple (Given A W.Clear) step (fun _ => Given A W.Clear) (Given A W.Held)) :
    Triple (Given A W.Clear) (takeTurn i slot step) (fun _ => Given A W.Clear) (Given A W.Held) :=
  takeTurn_triple (acts_clear (S := [.turn]) (by decide) (keeps_log (by simp [Obs.kind]))) h fun _ =>
    acts_clear (S := [.settled]) (by decide) (keeps_log (by simp [Obs.kind]))

theorem startNetwork_clear (i : Nat) (c : Counters) (config : NetworkConfig) :
    Triple (Given A W.Clear) (startNetwork i c config) (fun _ => Given A W.Clear) (Given A W.Held) := by
  unfold startNetwork
  refine takeTurn_clear ((acts_clear (by decide) (connectRuntime_keeps _)).bind fun r => ?_)
  obtain ⟨result, runtime⟩ := r
  cases result with
  | ok => exact triple_pure fun _ => id
  | retry => exact Triple.bind (acts_clear (S := []) (by simp) (keeps_ask _)) fun _ => triple_pure fun _ => id
  | permanent => exact triple_pure fun _ => id

/-- The first connects, with no request open. -/
theorem multinetStart_clear (networks : Networks) :
    Triple (Given A W.Clear) (multinetStart networks) (fun _ => Given A W.Clear) (Given A W.Held) := by
  unfold multinetStart
  refine (triple_sweep (I := fun _ _ _ => Given A W.Clear) (fun done c config _ => startNetwork_clear done.length c config)
    _ _).bind fun r => ?_
  obtain ⟨counters, slots⟩ := r
  refine triple_same.bind fun control => ?_
  refine Triple.bind (acts_clear (S := [.opened]) (by decide) (keeps_log (by simp [Obs.kind])))
    fun _ => ?_
  refine Triple.bind (Q := fun _ => Given A W.Clear) (triple_ite (fun _ => modifyControl_clear _) fun _ =>
    triple_pure fun _ => id) fun _ => triple_pure fun _ => id

theorem retryNetwork_clear (now : Int) (i : Nat) (c : Counters) (slot : Slot) :
    Triple (Given A W.Clear) (retryNetwork now i c slot) (fun _ => Given A W.Clear) (Given A W.Held) := by
  unfold retryNetwork
  refine triple_ite (fun _ => triple_pure fun _ => id) fun _ => ?_
  refine takeTurn_clear ((acts_clear (by decide) (connectRuntime_keeps _)).bind fun r => ?_)
  obtain ⟨result, runtime⟩ := r
  cases result with
  | ok =>
    refine (acts_clear (by decide) (decrement_keeps _)).bind fun _ => ?_
    exact (setFirstSocket_clear i _).bind fun _ => triple_pure fun _ => id
  | permanent => exact (acts_clear (by decide) (decrement_keeps _)).bind fun _ => triple_pure fun _ => id
  | retry => exact triple_pure fun _ => id

theorem retry_sweep_clear (now : Int) (c : Counters) (slots : List Slot) :
    Triple (Given A W.Clear) (sweep (retryNetwork now) 0 c slots) (fun _ => Given A W.Clear) (Given A W.Held) :=
  triple_sweep (I := fun _ _ _ => Given A W.Clear) (fun done c slot _ => retryNetwork_clear now done.length c slot) c slots

/-- Nothing is due, so nothing is connected. -/
theorem retry_sweep_idle {now : Int} {slots : List Slot} (h : ∀ slot ∈ slots, due now slot.runtime = false) (i : Nat)
    (c : Counters) : sweep (retryNetwork now) i c slots = pure (c, slots) := by
  induction slots generalizing i with
  | nil => rfl
  | cons slot slots ih =>
    have hslot : retryNetwork now i c slot = pure (c, slot) := by
      rw [retryNetwork, if_pos (by simp [h slot List.mem_cons_self])]
    rw [sweep, hslot]
    funext env w
    rw [bind_run, pure_run]
    dsimp only
    rw [ih (fun slot hs => h slot (List.mem_cons_of_mem _ hs)), bind_run, pure_run]

end Watch

/-! ## Ctrl-C -/

/-- What `ctrl_c_requested` does. -/
theorem ctrlCRequested_run (env : Env) (w : World) :
    let set := w.breakSignal || env.ctrlC w.tick
    let w' : World := { w with tick := w.tick + 1, breakSignal := set }
    ctrlCRequested env w = (.ok set, if set then w'.log .ctrlC else w') := by
  have hask : ask Env.ctrlC env w = (.ok (env.ctrlC w.tick), { w with tick := w.tick + 1 }) := rfl
  have hsignal : ∀ arrived w, getBreakSignal arrived env w =
      (.ok (w.breakSignal || arrived), { w with breakSignal := w.breakSignal || arrived }) := fun _ _ => rfl
  dsimp only
  rw [ctrlCRequested, bind_ok hask, bind_ok (hsignal _ _)]
  cases w.breakSignal || env.ctrlC w.tick <;> rfl

end AmBot
