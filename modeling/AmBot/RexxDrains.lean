import AmBot.RexxReplies
import AmBot.RunLib.Agree
/-!
# The port seen from the bot

Seen from the bot alone, what the other parties do while it answers is the list
of messages that it finds, and what they do while it waits for a script is, for
each wake, whether there were messages and whether the script had ended. So
`rexxProcess` and `scriptWaitLoop`, which ask the outside for just that, do
what the port does in every interleaving.
-/

namespace AmBot

open RunLib RunLib.Prog

/-! ## What the port's code reads -/

/-- The two take the same from a socket and, where `others` is set, give the same
answers about the other parties from `w` on. -/
def SamePort (others : Bool) (w : World) (env env' : Env) : Prop :=
  env.send = env'.send ∧ (others = true →
    ∀ n, w.tick ≤ n → env.messages n = env'.messages n ∧ env.scriptWait n = env'.scriptWait n)

variable {others : Bool}

theorem SamePort.later {w w' : World} {env env' : Env} (h : SamePort others w env env') (hw : w.tick ≤ w'.tick) :
    SamePort others w' env env' := ⟨h.1, fun hh n hn => h.2 hh n (hw.trans hn)⟩

theorem ask_local {α : Type} {f : Env → Nat → α}
    (hf : ∀ w env env', SamePort others w env env' → f env w.tick = f env' w.tick) : Local (SamePort others) (ask f) := by
  intro w env env' h
  refine ⟨?_, h.later (Nat.le_succ _)⟩
  simp only [ask, hf w env env' h]

theorem log_local (o : Obs) : Local (SamePort others) (log o) := local_modify fun _ _ _ h => h.later (Nat.le_refl _)

theorem netSendFrom_local (sock : Int) (n : Nat) (data : Bytes) : Local (SamePort others) (netSendFrom sock n data) := by
  induction n generalizing data with
  | zero => cases data <;> exact local_pure _
  | succ n ih =>
    cases data with
    | nil => exact local_pure _
    | cons c data =>
      refine Local.bind (ask_local fun w env env' h => by rw [h.1]) fun rc => ?_
      exact (log_local _).bind fun _ => local_ite (local_pure _) (ih _)

theorem ircSendLine_local (sock : Int) (line : Bytes) : Local (SamePort others) (ircSendLine sock line) :=
  (netSendFrom_local _ _ _).bind fun _ => local_ite (local_pure _) (netSendFrom_local _ _ _)

theorem portRequest_local (r : PortRequest) : Local (SamePort others) r.run := by
  have control {f : Control → Bytes × Control} : Local (SamePort others) (controlOperation f) := by
    refine (local_read fun _ _ _ _ => rfl).bind fun _ => ?_
    exact (local_modify fun _ _ _ h => h.later (Nat.le_refl _)).bind fun _ => local_pure _
  cases r with
  | refuse message => exact local_pure _
  | status => exact (local_read fun _ _ _ _ => rfl).bind fun _ => local_pure _
  | connect => exact control
  | disconnect => exact control
  | reload => exact control
  | quit => exact control
  | line text =>
    refine (local_read fun _ _ _ _ => rfl).bind fun _ => local_ite (local_pure _) (local_ite (local_pure _) ?_)
    exact (ircSendLine_local _ _).bind fun _ => local_ite (local_pure _) (local_pure _)

theorem rexxAnswer_local (message : Bytes) : Local (SamePort others) (rexxAnswer message) := by
  unfold rexxAnswer
  dsimp only
  rw [dispatchCommand_eq]
  exact (portRequest_local _).bind fun r => log_local _

theorem rexxProcess_local : Local (SamePort true) rexxProcess :=
  Local.bind (ask_local fun w _ _ h => (h.2 rfl w.tick le_rfl).1) fun _ => local_each rexxAnswer_local _

/-- One round of the wait for a script. -/
def scriptRound (_ : Unit) : M (Unit ⊕ Unit) := do
  let (rexx, replied) ← ask Env.scriptWait
  Prog.when rexx rexxProcess
  pure (if replied then .inr () else .inl ())

theorem scriptWaitLoop_eq (env : Env) (w : World) :
    scriptWaitLoop env w = Prog.loop env.fuel scriptRound () env w := rfl

theorem scriptRounds_local (n : Nat) : Local (SamePort true) (Prog.loop n scriptRound ()) := by
  refine local_loop (fun _ => ?_) n ()
  refine Local.bind (ask_local fun w _ _ h => (h.2 rfl w.tick le_rfl).2) fun r => ?_
  exact (local_when rexxProcess_local).bind fun _ => local_pure _

/-! ## What is left to do -/

/-- What follows the answers, with `n` rounds of the wait for a script to go. -/
def PortCaller.rest (n : Nat) : PortCaller → M Unit
  | .session => pure ()
  | .script replySignal => if replySignal then pure () else Prog.loop n scriptRound ()

/-- What the bot has left to do from a place in `rexx.c` until it is back in the
session, if it finds `messages` before it next finds the port empty. -/
def PortPc.rest (n : Nat) (messages : List RexxMsg) : PortPc → M Unit
  | .draining caller => do
    Prog.each rexxAnswer (messages.map (·.input))
    caller.rest n
  | .answering message caller => do
    rexxAnswer message.input
    Prog.each rexxAnswer (messages.map (·.input))
    caller.rest n
  | .scriptWaiting => Prog.loop n scriptRound ()
  | .scriptWoken replySignal => (PortCaller.script replySignal).rest n
  | _ => pure ()

theorem rest_local (n : Nat) (messages : List RexxMsg) (pc : PortPc) : Local (SamePort true) (pc.rest n messages) := by
  have caller (caller : PortCaller) : Local (SamePort true) (caller.rest n) := by
    cases caller with
    | session => exact local_pure _
    | script replySignal => exact local_ite (local_pure _) (scriptRounds_local n)
  cases pc with
  | draining k => exact (local_each rexxAnswer_local _).bind fun _ => caller k
  | answering message k =>
    exact (rexxAnswer_local _).bind fun _ => (local_each rexxAnswer_local _).bind fun _ => caller k
  | scriptWaiting => exact scriptRounds_local n
  | scriptWoken replySignal => exact caller (.script replySignal)
  | idle => exact local_pure _
  | waiting => exact local_pure _
  | closing => exact local_pure _
  | closed => exact local_pure _

/-- A round of the wait for a script, and what is left after it. -/
theorem scriptRounds_eq (n : Nat) : Prog.loop (n + 1) scriptRound () = (do
    let (rexx, replied) ← ask Env.scriptWait
    Prog.when rexx rexxProcess
    (PortCaller.script replied).rest n) := by
  funext env w
  simp only [Prog.loop, scriptRound, bind_run, ask]
  rcases hdrain : Prog.when (env.scriptWait w.tick).1 rexxProcess env { w with tick := w.tick + 1 } with ⟨_ | _, w'⟩
  · rfl
  · cases (env.scriptWait w.tick).2 <;> rfl

theorem rexxProcess_run {env : Env} {w : World} {messages : List RexxMsg} {m : M Unit}
    (hmessages : env.messages w.tick = messages.map (·.input)) :
    (rexxProcess >>= fun _ => m) env w =
      (Prog.each rexxAnswer (messages.map (·.input)) >>= fun _ => m) env w.answered := by
  rw [← hmessages]
  rfl

/-- The wait for a script, woken by the port's signal. -/
theorem scriptRounds_wakes {env : Env} {w : World} {n : Nat} {replied : Bool} (found : List RexxMsg)
    (hwait : env.scriptWait w.tick = (true, replied)) (hmessages : env.messages (w.tick + 1) = found.map (·.input)) :
    Prog.loop (n + 1) scriptRound () env w =
      (PortPc.draining (.script replied)).rest n found env w.answered.answered := by
  have hask : ask Env.scriptWait env w = (.ok (true, replied), w.answered) := by
    simp only [ask, hwait]
    rfl
  rw [scriptRounds_eq, bind_ok hask]
  exact rexxProcess_run hmessages

/-- The wait for a script, woken by its reply signal alone. -/
theorem scriptRounds_replied {env : Env} {w : World} {n : Nat} {replied : Bool} (found : List RexxMsg)
    (hwait : env.scriptWait w.tick = (false, replied)) :
    Prog.loop (n + 1) scriptRound () env w = (PortPc.scriptWoken replied).rest n found env w.answered := by
  have hask : ask Env.scriptWait env w = (.ok (false, replied), w.answered) := by
    simp only [ask, hwait]
    rfl
  rw [scriptRounds_eq, bind_ok hask]
  rfl

/-! ## From a run of the port to a run of the bot -/

/-- The outside as it is, but for what the bot hears of the other parties. -/
def Env.hears (env : Env) (messages : Nat → List Bytes) (scriptWait : Nat → Bool × Bool) : Env :=
  { env with messages, scriptWait }

/-- The bot is outside the port's code, in the calls the session makes, or in
the wait for a script; it does not wait for the session's sake or close. -/
def PortPc.resumes : PortPc → Bool
  | .waiting | .closing | .closed => false
  | _ => true

/-- A call or another act of the session. -/
def PortAction.isSession : PortAction → Bool
  | .process | .wait | .runScript _ | .close | .session .. => true
  | _ => false

/-- From `s` the bot does what is left of the port's code and ends in `w`,
where it hears what `messages` and `scriptWait` say. -/
def PortState.Finishes (env : Env) (s : PortState) (w : World) : Prop :=
  ∃ n messages scriptWait found, s.pc.rest n found (env.hears messages scriptWait) s.world = (.ok (), w)

variable {env : Env} {s s' : PortState} {w : World} {before : List (Bytes × Nat × Bytes)}

/-- What was heard before a world does not matter from it on. -/
theorem rest_heard {n : Nat} {messages : Nat → List Bytes} {scriptWait : Nat → Bool × Bool} {found : List RexxMsg}
    {pc : PortPc} {w₁ : World} (h : pc.rest n found (env.hears messages scriptWait) w₁ = (.ok (), w)) {i j : Nat}
    (hi : i < w₁.tick) (hj : j < w₁.tick) (list : List Bytes) (answer : Bool × Bool) :
    ∃ messages scriptWait, messages i = list ∧ scriptWait j = answer ∧
      pc.rest n found (env.hears messages scriptWait) w₁ = (.ok (), w) := by
  refine ⟨Function.update messages i list, Function.update scriptWait j answer, Function.update_self ..,
    Function.update_self .., ?_⟩
  have hsame : SamePort true w₁ (env.hears (Function.update messages i list) (Function.update scriptWait j answer))
      (env.hears messages scriptWait) := by
    refine ⟨rfl, fun _ k hk => ?_⟩
    have hki : k ≠ i := by omega
    have hkj : k ≠ j := by omega
    exact ⟨Function.update_of_ne hki _ _, Function.update_of_ne hkj _ _⟩
  rw [(rest_local n found pc w₁ _ _ hsame).1, h]

/-- A wake in the wait for a script. -/
theorem finishes_wake {replied : Bool} (hpc : s.pc = .scriptWaiting)
    (h : (if s.signal then
        ({ s with world := s.world.answered, signal := false, replySignal := false } : PortState).enter (.script replied)
      else
        { s with world := s.world.answered, signal := false, replySignal := false, pc := .scriptWoken replied }).Finishes
      env w) : s.Finishes env w := by
  have hnow : s.world.tick < s.world.answered.tick := Nat.lt_succ_self _
  by_cases hsignal : s.signal = true
  · rw [if_pos hsignal] at h
    obtain ⟨n, messages, scriptWait, found, h⟩ := h
    -- the wake is heard first, then what the bot finds
    have hnext : s.world.tick + 1 < s.world.answered.answered.tick := Nat.lt_succ_self _
    obtain ⟨messages, scriptWait, hfound, hwoken, h⟩ :=
      rest_heard h hnext (hnow.trans hnext) (found.map (·.input)) (true, replied)
    refine ⟨n + 1, messages, scriptWait, [], ?_⟩
    rw [hpc]
    exact (scriptRounds_wakes found hwoken hfound).trans h
  · rw [if_neg hsignal] at h
    obtain ⟨n, messages, scriptWait, found, h⟩ := h
    obtain ⟨messages, scriptWait, -, hwoken, h⟩ := rest_heard h hnow hnow [] (false, replied)
    refine ⟨n + 1, messages, scriptWait, [], ?_⟩
    rw [hpc]
    exact (scriptRounds_replied found hwoken).trans h

/-- What is left to do before a move of the bot is that move and what is left
after it. -/
theorem botStep_finishes {made : Bool} (hinv : PortInv before s) (hresumes : s.pc.resumes = true)
    (hstep : botStep env s made = some s') : s'.pc.resumes = true ∧ (s'.Finishes env w → s.Finishes env w) := by
  unfold botStep at hstep
  split at hstep
  · rename_i hpc
    simp [hpc, PortPc.resumes] at hresumes
  · rename_i caller hpc
    split at hstep
    · cases hstep
      refine ⟨by cases caller <;> rfl, ?_⟩
      rintro ⟨n, messages, scriptWait, found, h⟩
      refine ⟨n, messages, scriptWait, [], ?_⟩
      rw [hpc, ← h]
      cases caller <;> rfl
    · rename_i message queue hqueue
      cases hstep
      refine ⟨rfl, ?_⟩
      rintro ⟨n, messages, scriptWait, found, h⟩
      refine ⟨n, messages, scriptWait, message :: found, ?_⟩
      rw [hpc, ← h]
      exact congrFun (congrFun (each_cons_bind rexxAnswer message.input _ _) _) _
  · rename_i message caller hpc
    obtain ⟨rc, result, world, hanswer, hrun, -⟩ := portAnswer_eq env s message caller made
    rw [hanswer] at hstep
    cases hstep
    refine ⟨rfl, ?_⟩
    rintro ⟨n, messages, scriptWait, found, h⟩
    refine ⟨n, messages, scriptWait, found, ?_⟩
    -- an answer asks the outside nothing about the other parties
    have hsame : SamePort false s.world env (env.hears messages scriptWait) := ⟨rfl, fun hothers => by cases hothers⟩
    have hrun' := (rexxAnswer_local message.input s.world _ _ hsame).1.symm.trans hrun
    rw [hpc, ← h]
    exact bind_ok hrun' _
  · rename_i hpc
    obtain ⟨-, ⟨⟩⟩ := Option.ite_none_right_eq_some.1 hstep
    refine ⟨?_, finishes_wake hpc⟩
    split <;> rfl
  · rename_i replySignal hpc
    split at hstep
    · rename_i hdone
      cases hstep
      refine ⟨rfl, ?_⟩
      rintro ⟨n, messages, scriptWait, found, h⟩
      refine ⟨n, messages, scriptWait, [], ?_⟩
      obtain rfl : replySignal = true := (Bool.and_eq_true_iff.1 hdone).1
      rw [hpc, ← h]
      rfl
    · rename_i hdone
      cases hstep
      refine ⟨rfl, ?_⟩
      rintro ⟨n, messages, scriptWait, found, h⟩
      refine ⟨n, messages, scriptWait, [], ?_⟩
      obtain rfl := hinv.untaken hpc hdone
      rw [hpc, ← h]
      rfl
  · rename_i hpc
    simp [hpc, PortPc.resumes] at hresumes
  · cases hstep
  · cases hstep

/-- Nothing but the bot moves the bot. -/
theorem portStep_finishes {action : PortAction} (hinv : PortInv before s) (hresumes : s.pc.resumes = true)
    (haction : action.isSession = false) (hstep : portStep env s action = some s') :
    s'.pc.resumes = true ∧ (s'.Finishes env w → s.Finishes env w) := by
  cases action with
  | bot made => exact botStep_finishes hinv hresumes hstep
  | post message =>
    obtain ⟨-, ⟨⟩⟩ := Option.ite_none_right_eq_some.1 hstep
    exact ⟨hresumes, id⟩
  | call message =>
    obtain ⟨-, ⟨⟩⟩ := Option.ite_none_right_eq_some.1 hstep
    exact ⟨hresumes, id⟩
  | finish =>
    obtain ⟨-, ⟨⟩⟩ := Option.ite_none_right_eq_some.1 hstep
    exact ⟨hresumes, id⟩
  | event =>
    obtain ⟨hpc, -⟩ := Option.ite_none_right_eq_some.1 hstep
    simp [hpc, PortPc.resumes] at hresumes
  | process => cases haction
  | wait => cases haction
  | runScript command => cases haction
  | close => cases haction
  | session world logged => cases haction

theorem run_finishes {actions : List PortAction} (h : Run (portStep env) s actions s') (hinv : PortInv before s)
    (hresumes : s.pc.resumes = true) (hactions : ∀ action ∈ actions, action.isSession = false)
    (hdone : s'.pc = .idle) : s.Finishes env s'.world := by
  induction h with
  | nil s =>
    refine ⟨0, fun _ => [], fun _ => (false, false), [], ?_⟩
    rw [hdone]
    rfl
  | cons hstep _ ih =>
    obtain ⟨haction, hrest⟩ := List.forall_mem_cons.1 hactions
    obtain ⟨hresumes₁, hback⟩ := portStep_finishes hinv hresumes haction hstep
    exact hback (ih (portStep_inv hstep hinv) hresumes₁ hrest hdone)

/-! ## The refinement -/

/-- Whatever clients put to the port meanwhile and whatever the script does,
until the session is at work again: `ambot_rexx_process` leaves the world that
`rexxProcess` leaves for some messages, and the wait of `ambot_rexx_run_script`
the one `scriptWaitLoop` leaves, and both return. -/
theorem port_refines {w : World} {actions : List PortAction} (h : Run (portStep env) (portOpened w) actions s) :
    (∀ later s', Run (portStep env) s (.process :: later) s' → (∀ action ∈ later, action.isSession = false) →
      s'.pc = .idle → ∃ messages, rexxProcess { env with messages } s.world = (.ok (), s'.world)) ∧
    (∀ command later s', Run (portStep env) s (.runScript command :: later) s' →
      (∀ action ∈ later, action.isSession = false) → s'.pc = .idle →
      ∃ fuel messages scriptWait, scriptWaitLoop { env with fuel, messages, scriptWait }
        (s.world.log (.script command)) = (.ok (), s'.world)) := by
  have hinv := port_inv h
  constructor
  · rintro later s' (_ | ⟨hstep, hlater⟩) hactions hdone
    have hinv₁ := portStep_inv hstep hinv
    obtain ⟨-, ⟨⟩⟩ := Option.ite_none_right_eq_some.1 hstep
    obtain ⟨n, messages, scriptWait, found, hrun⟩ := run_finishes hlater hinv₁ rfl hactions hdone
    obtain ⟨_, w₁, hdrain, hend⟩ := bind_eq_ok.1 hrun
    cases hend
    refine ⟨fun _ => found.map (·.input), ?_⟩
    have hsame : SamePort false s.world.answered { env with messages := fun _ => found.map (·.input) }
        (env.hears messages scriptWait) := ⟨rfl, fun hothers => by cases hothers⟩
    exact ((local_each rexxAnswer_local (found.map (·.input))) s.world.answered _ _ hsame).1.trans hdrain
  · rintro command later s' (_ | ⟨hstep, hlater⟩) hactions hdone
    have hinv₁ := portStep_inv hstep hinv
    obtain ⟨-, ⟨⟩⟩ := Option.ite_none_right_eq_some.1 hstep
    obtain ⟨n, messages, scriptWait, found, hrun⟩ := run_finishes hlater hinv₁ rfl hactions hdone
    refine ⟨n, messages, scriptWait, ?_⟩
    have hsame : SamePort true (s.world.log (.script command)) { env with fuel := n, messages, scriptWait }
        (env.hears messages scriptWait) := ⟨rfl, fun _ _ _ => ⟨rfl, rfl⟩⟩
    rw [scriptWaitLoop_eq]
    exact (scriptRounds_local n (s.world.log (.script command)) _ _ hsame).1.trans hrun

/-- A command of the script, answered while the bot waits for it, and its end. -/
def oneScript : List PortAction :=
  [.call { blankMessage with replyPort := scriptPort }, .bot true, .bot true, .post blankMessage, .bot true, .bot true,
    .bot true, .bot true, .bot true, .bot true, .finish, .bot true, .bot true, .bot true, .bot true]

theorem port_refines_once : ∃ s s',
    Run (portStep Env.silent) (portOpened (worldInit configInit)) [.post blankMessage] s ∧
    Run (portStep Env.silent) s (.runScript [] :: oneScript) s' ∧
    ∃ fuel messages scriptWait, scriptWaitLoop { Env.silent with fuel, messages, scriptWait }
      (s.world.log (.script [])) = (.ok (), s'.world) := by
  have hfirst : (runAll (portStep Env.silent) (portOpened (worldInit configInit)) [.post blankMessage]).any
      (fun s => (runAll (portStep Env.silent) s (.runScript [] :: oneScript)).any
        fun s' => s'.pc = .idle ∧ s'.replied.length = 3) = true := by
    decide +kernel
  obtain ⟨hs, hlater⟩ := (Option.any_eq_true_iff_get _ _).1 hfirst
  obtain ⟨hs', hdone⟩ := (Option.any_eq_true_iff_get _ _).1 hlater
  have hrun := run_iff.2 (Option.some_get hs).symm
  have hscript := run_iff.2 (Option.some_get hs').symm
  refine ⟨_, _, hrun, hscript, (port_refines hrun).2 [] oneScript _ hscript ?_ (of_decide_eq_true hdone).1⟩
  intro action haction
  simp only [oneScript, List.mem_cons, List.not_mem_nil, or_false] at haction
  rcases haction with rfl | rfl | rfl | rfl | rfl | rfl | rfl | rfl | rfl | rfl | rfl | rfl | rfl | rfl | rfl <;> rfl

end AmBot
