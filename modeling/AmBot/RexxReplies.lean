import AmBot.Dispatch
import AmBot.RexxPort
import Mathlib.Data.List.Forall2
/-!
# Every message is replied to

What holds of the port in every interleaving of the bot, the tasks that send it
commands and the hook script it waits for. Messages come back in the order
they were put, each once, with the answer the trace records; the bot never
sleeps with a message at its port; and it never waits for a script that waits
for it.
-/

namespace AmBot

open RunLib RunLib.Prog

/-! ## The invariant -/

/-- The message brings its sender this answer. The result string is left out
where it was not asked for or there was no memory for it. -/
def RexxMsg.Brings (message : RexxMsg) (answer : Bytes × Nat × Bytes) : Prop :=
  answer.1 = cstr message.input ∧ message.result1 = answer.2.1 ∧
    (message.result2 = none ∨ (message.wantsResult = true ∧ message.result2 = some answer.2.2))

/-- The bot is in the loop of `ambot_rexx_process`, which ends with the port empty. -/
def PortPc.answers : PortPc → Bool
  | .draining _ | .answering .. => true
  | _ => false

/-- The bot is in `ambot_rexx_run_script`. -/
def PortPc.inScript : PortPc → Bool
  | .scriptWaiting | .scriptWoken _ | .draining (.script _) | .answering _ (.script _) => true
  | _ => false

/-- The script's reply signal has been taken in this round of `ambot_rexx_run_script`. -/
def PortPc.tookReply : PortPc → Bool
  | .scriptWoken replySignal | .draining (.script replySignal) | .answering _ (.script replySignal) => replySignal
  | _ => false

/-- The bot is in `ambot_rexx_close`, or past it. -/
def PortPc.shut : PortPc → Bool
  | .closing | .closed => true
  | _ => false

/-- How many messages of the script the bot has not replied to. -/
def PortState.scriptPending (s : PortState) : Nat :=
  (s.inHand ++ s.queue).countP fun message => message.replyPort = scriptPort

/-- `before` are the answers on the trace when the port was opened. -/
structure PortInv (before : List (Bytes × Nat × Bytes)) (s : PortState) : Prop where
  order : s.posted.map (·.asked) = (s.replied ++ s.inHand ++ s.returned ++ s.queue).map (·.asked)
  answers : ∃ new, portAnswers s.world.trace = before ++ new ∧ List.Forall₂ RexxMsg.Brings s.replied new
  isPublic : s.isPublic = !s.pc.shut
  returned : s.pc.shut = false → s.returned = []
  closed : s.pc = .closed → s.queue = []
  awake : s.queue ≠ [] → s.signal = true ∨ s.pc.answers = true ∨ s.pc.shut = true
  absent : s.script = .absent ↔ s.pc.inScript = false
  ended : s.script = .ended ↔ s.pc.inScript = true ∧ (s.replySignal = true ∨ s.pc.tookReply = true)
  calling : s.scriptPending = if s.script = .calling then 1 else 0

variable {env : Env} {before : List (Bytes × Nat × Bytes)} {s s' : PortState}

theorem portInv_opened (w : World) : PortInv (portAnswers w.trace) (portOpened w) where
  order := rfl
  answers := ⟨[], by simp [portOpened], .nil⟩
  isPublic := rfl
  returned := fun _ => rfl
  closed := fun h => by cases h
  awake := fun h => absurd rfl h
  absent := by simp [portOpened, PortPc.inScript]
  ended := by simp [portOpened, PortPc.inScript]
  calling := rfl

/-! ## What the bot logs -/

theorem portAnswers_append (t t' : List Obs) : portAnswers (t ++ t') = portAnswers t ++ portAnswers t' :=
  List.filterMap_append

theorem portAnswers_nil {t : List Obs} (h : ∀ o ∈ t, o.kind ≠ .rexx) : portAnswers t = [] := by
  refine List.filterMap_eq_nil_iff.2 fun o ho => ?_
  have := h o ho
  cases o <;> first | rfl | exact absurd rfl this

theorem PortRequest.run_moves (r : PortRequest) : Keeps (Moves [.send]) r.run := by
  cases r with
  | refuse message => exact keeps_pure _
  | status => exact (keeps_read _).bind fun _ => keeps_pure _
  | connect => exact (keeps_read _).bind fun _ => (modifyControl_moves _).bind fun _ => keeps_pure _
  | disconnect => exact (keeps_read _).bind fun _ => (modifyControl_moves _).bind fun _ => keeps_pure _
  | reload => exact (keeps_read _).bind fun _ => (modifyControl_moves _).bind fun _ => keeps_pure _
  | quit => exact (keeps_read _).bind fun _ => (modifyControl_moves _).bind fun _ => keeps_pure _
  | line text => exact moves (List.Subset.refl _) (operationSendRaw_keeps text)

theorem dispatchCommand_moves (input : Bytes) : Keeps (Moves [.send]) (dispatchCommand input) := by
  rw [dispatchCommand_eq]
  exact (requestOf input).run_moves

/-- The answer to a message, and what it leaves on the trace. -/
theorem portAnswer_eq (env : Env) (s : PortState) (message : RexxMsg) (caller : PortCaller) (made : Bool) :
    ∃ rc result world, portAnswer env s message caller made =
        some ({ s with world, pc := .draining caller }.reply (message.fill rc result made)) ∧
      rexxAnswer message.input env s.world = (.ok (), world) ∧
      portAnswers world.trace = portAnswers s.world.trace ++ [(cstr message.input, rc, result)] := by
  obtain ⟨rc, result, w, t, hrun, -, -⟩ := dispatchCommand_outcome (cstr message.input) env s.world
  refine ⟨rc, result, w.log (.rexx (cstr message.input) rc result), ?_, ?_, ?_⟩
  · unfold portAnswer
    dsimp only
    rw [hrun]
  · unfold rexxAnswer
    dsimp only
    rw [bind_ok hrun]
    rfl
  · have hmoves := dispatchCommand_moves (cstr message.input) env s.world
    rw [hrun] at hmoves
    obtain ⟨-, t, ht, hkind⟩ := hmoves
    have hsends : portAnswers t = [] := portAnswers_nil fun o ho hrexx => by simpa [hrexx] using hkind o ho
    change portAnswers (w.trace ++ [_]) = _
    rw [ht, portAnswers_append, portAnswers_append, hsends, List.append_nil]
    rfl

/-! ## Each party's steps keep the invariant -/

theorem scriptPending_put (s : PortState) (message : RexxMsg) :
    (s.put message).scriptPending = s.scriptPending + if message.replyPort = scriptPort then 1 else 0 := by
  simp [PortState.scriptPending, PortState.put, PortState.inHand, ← List.append_assoc, List.countP_append]

theorem order_put (h : PortInv before s) (message : RexxMsg) :
    (s.put message).posted.map (·.asked) =
      ((s.put message).replied ++ (s.put message).inHand ++ (s.put message).returned ++ (s.put message).queue).map
        (·.asked) := by
  have horder := h.order
  simp only [PortState.put, PortState.inHand, List.map_append] at horder ⊢
  rw [horder]
  simp

/-- The port is open, so the bot is not closing it. -/
theorem PortInv.open (h : PortInv before s) (hpublic : s.isPublic = true) : s.pc.shut = false := by
  have := h.isPublic
  simpa [hpublic] using this

theorem PortInv.post (h : PortInv before s) (hpublic : s.isPublic = true) {message : RexxMsg}
    (hforeign : message.replyPort ≠ scriptPort) : PortInv before (s.put message) :=
  { h with
    order := order_put h message
    closed := fun hclosed => by
      have hopen := h.open hpublic
      simp [show s.pc = .closed from hclosed, PortPc.shut] at hopen
    awake := fun _ => .inl rfl
    calling := by
      rw [scriptPending_put, if_neg hforeign]
      exact h.calling }

theorem PortInv.call (h : PortInv before s) (hpublic : s.isPublic = true) (hrunning : s.script = .running)
    {message : RexxMsg} (hown : message.replyPort = scriptPort) :
    PortInv before { s.put message with script := .calling } :=
  { h with
    order := order_put h message
    closed := fun hclosed => by
      have hopen := h.open hpublic
      simp [show s.pc = .closed from hclosed, PortPc.shut] at hopen
    awake := fun _ => .inl rfl
    absent := by simpa [hrunning, PortState.put] using h.absent
    ended := by simpa [hrunning, PortState.put] using h.ended
    calling := by
      have hpending := scriptPending_put s message
      rw [if_pos hown, h.calling, hrunning] at hpending
      exact hpending }

theorem PortInv.finish (h : PortInv before s) (hrunning : s.script = .running) :
    PortInv before { s with script := .ended, replySignal := true } :=
  { h with
    absent := by simpa [hrunning] using h.absent
    ended := by simpa [hrunning] using h.absent
    calling := by
      have hcalling := h.calling
      rw [hrunning] at hcalling
      exact hcalling }

/-- The bot goes from one place to another, takes signals and uses up answers
of the outside, with no message in hand before or after. -/
theorem PortInv.goes (h : PortInv before s) {world : World} (signal replySignal : Bool) {pc : PortPc}
    (hworld : portAnswers world.trace = portAnswers s.world.trace) (hhand : s.inHand = [])
    (hhand' : ({ s with pc } : PortState).inHand = []) (hopen : s.pc.shut = false) (hopen' : pc.shut = false)
    (hawake : s.queue ≠ [] → signal = true ∨ pc.answers = true) (hscript : pc.inScript = s.pc.inScript)
    (hended : pc.inScript = true → ((replySignal = true ∨ pc.tookReply = true) ↔
      (s.replySignal = true ∨ s.pc.tookReply = true))) :
    PortInv before { s with world, signal, replySignal, pc } where
  order := by
    have horder := h.order
    rw [hhand] at horder
    change _ = (s.replied ++ ({ s with pc } : PortState).inHand ++ s.returned ++ s.queue).map (·.asked)
    rw [hhand']
    exact horder
  answers := by
    obtain ⟨new, hnew, hbrings⟩ := h.answers
    exact ⟨new, hworld.trans hnew, hbrings⟩
  isPublic := by
    have hpublic := h.isPublic
    rw [hopen] at hpublic
    rw [hopen']
    exact hpublic
  returned := fun _ => h.returned hopen
  closed := by
    rintro rfl
    cases hopen'
  awake := fun hqueue => (hawake hqueue).imp_right .inl
  absent := by rw [hscript]; exact h.absent
  ended := by
    have hboth := h.ended
    rw [← hscript] at hboth
    exact hboth.trans (and_congr_right fun hin => (hended hin).symm)
  calling := by
    have hcalling := h.calling
    unfold PortState.scriptPending at hcalling ⊢
    rw [hhand] at hcalling
    change (({ s with pc } : PortState).inHand ++ s.queue).countP _ = _
    rw [hhand']
    exact hcalling

theorem PortInv.process (h : PortInv before s) (hpc : s.pc = .idle) : PortInv before (s.enter .session) :=
  h.goes s.signal s.replySignal rfl (by simp [PortState.inHand, hpc]) rfl
    (by simp [hpc, PortPc.shut]) rfl (fun _ => .inr rfl) (by simp [hpc, PortPc.inScript]) (by simp [PortPc.inScript])

theorem PortInv.wait (h : PortInv before s) (hpc : s.pc = .idle) : PortInv before { s with pc := .waiting } :=
  h.goes s.signal s.replySignal rfl (by simp [PortState.inHand, hpc]) rfl
    (by simp [hpc, PortPc.shut]) rfl (fun hqueue => by simpa [hpc, PortPc.answers, PortPc.shut] using h.awake hqueue)
    (by simp [hpc, PortPc.inScript]) (by simp [PortPc.inScript])

theorem PortInv.wake (h : PortInv before s) (hpc : s.pc = .waiting) : PortInv before s.wake := by
  have hsleep : s.queue ≠ [] → s.signal = true := fun hqueue => by
    simpa [hpc, PortPc.answers, PortPc.shut] using h.awake hqueue
  unfold PortState.wake
  split
  · exact h.goes _ s.replySignal rfl (by simp [PortState.inHand, hpc]) rfl (by simp [hpc, PortPc.shut])
      rfl (fun _ => .inr rfl) (by simp [hpc, PortPc.inScript]) (by simp [PortPc.inScript])
  · rename_i hsignal
    exact h.goes _ s.replySignal rfl (by simp [PortState.inHand, hpc]) rfl (by simp [hpc, PortPc.shut])
      rfl (fun hqueue => absurd (hsleep hqueue) hsignal) (by simp [hpc, PortPc.inScript]) (by simp [PortPc.inScript])

/-- Outside `ambot_rexx_run_script` there is no script. -/
theorem PortInv.noScript (h : PortInv before s) (hpc : s.pc.inScript = false) : s.script = .absent ∧ s.scriptPending = 0 := by
  have habsent := h.absent.2 hpc
  have hcalling := h.calling
  rw [habsent] at hcalling
  exact ⟨habsent, hcalling⟩

theorem PortInv.runScript (h : PortInv before s) (hpc : s.pc = .idle) (command : Bytes) :
    PortInv before
      { s with world := s.world.log (.script command), pc := .scriptWaiting, script := .running, replySignal := false } where
  order := by
    have horder := h.order
    simp only [PortState.inHand, hpc] at horder
    exact horder
  answers := by
    obtain ⟨new, hnew, hbrings⟩ := h.answers
    refine ⟨new, ?_, hbrings⟩
    change portAnswers (s.world.trace ++ [.script command]) = _
    rw [portAnswers_append, hnew]
    exact List.append_nil _
  isPublic := by simpa [hpc, PortPc.shut] using h.isPublic
  returned := fun _ => h.returned (by simp [hpc, PortPc.shut])
  closed := fun hclosed => by cases hclosed
  awake := fun hqueue => .inl (by simpa [hpc, PortPc.answers, PortPc.shut] using h.awake hqueue)
  absent := by simp [PortPc.inScript]
  ended := by simp [PortPc.tookReply]
  calling := by
    have hpending := (h.noScript (by simp [hpc, PortPc.inScript])).2
    simp only [PortState.scriptPending, PortState.inHand, hpc] at hpending
    exact hpending

theorem PortInv.close (h : PortInv before s) (hpc : s.pc = .idle) :
    PortInv before { s with isPublic := false, pc := .closing } where
  order := by
    have horder := h.order
    simp only [PortState.inHand, hpc] at horder
    exact horder
  answers := h.answers
  isPublic := rfl
  returned := fun hopen => by cases hopen
  closed := fun hclosed => by cases hclosed
  awake := fun _ => .inr (.inr rfl)
  absent := by simpa [PortPc.inScript] using (h.noScript (by simp [hpc, PortPc.inScript])).1
  ended := by simp [PortPc.inScript, (h.noScript (by simp [hpc, PortPc.inScript])).1]
  calling := by
    have hnone := h.noScript (by simp [hpc, PortPc.inScript])
    have hpending := hnone.2
    simp only [PortState.scriptPending, PortState.inHand, hpc] at hpending
    simpa [PortState.scriptPending, PortState.inHand, hnone.1] using hpending

/-- What the session does in between logs no answer to a message. -/
theorem PortInv.session (h : PortInv before s) {logged : List Obs} (hlogged : portAnswers logged = []) (world : World) :
    PortInv before { s with world := { world with trace := s.world.trace ++ logged } } :=
  { h with
    answers := by
      obtain ⟨new, hnew, hbrings⟩ := h.answers
      refine ⟨new, ?_, hbrings⟩
      change portAnswers (s.world.trace ++ logged) = _
      rw [portAnswers_append, hlogged, List.append_nil, hnew] }

/-! ## The bot's moves keep it -/

theorem PortInv.drained (h : PortInv before s) {caller : PortCaller} (hpc : s.pc = .draining caller)
    (hqueue : s.queue = []) : PortInv before { s with pc := caller.pc } := by
  refine h.goes s.signal s.replySignal rfl (by simp [PortState.inHand, hpc]) ?_
    (by simp [hpc, PortPc.shut]) ?_ (fun hne => absurd hqueue hne) ?_ fun _ => ?_
  · cases caller <;> rfl
  · cases caller <;> rfl
  · rw [hpc]
    cases caller <;> rfl
  · rw [hpc]
    cases caller <;> rfl

theorem PortInv.take (h : PortInv before s) {caller : PortCaller} (hpc : s.pc = .draining caller) {message : RexxMsg}
    {queue : List RexxMsg} (hqueue : s.queue = message :: queue) :
    PortInv before { s with queue, pc := .answering message caller } where
  order := by
    have horder := h.order
    have hreturned := h.returned (by simp [hpc, PortPc.shut])
    simp only [PortState.inHand, hpc, hqueue, hreturned] at horder ⊢
    simpa using horder
  answers := h.answers
  isPublic := by simpa [hpc, PortPc.shut] using h.isPublic
  returned := fun _ => h.returned (by simp [hpc, PortPc.shut])
  closed := fun hclosed => by cases hclosed
  awake := fun _ => .inr (.inl rfl)
  absent := by
    have habsent := h.absent
    rw [hpc] at habsent
    cases caller <;> exact habsent
  ended := by
    have hended := h.ended
    rw [hpc] at hended
    cases caller <;> exact hended
  calling := by
    have hcalling := h.calling
    simp only [PortState.scriptPending, PortState.inHand, hpc, hqueue] at hcalling ⊢
    exact hcalling

/-- The reply to a message of the script lets the script go on. -/
theorem reply_calling {message : RexxMsg} {queue : List RexxMsg} {script : ScriptState}
    (h : (message :: queue).countP (fun message => message.replyPort = scriptPort) = if script = .calling then 1 else 0) :
    queue.countP (fun message => message.replyPort = scriptPort) =
      if (if message.replyPort = scriptPort ∧ script = .calling then .running else script) = ScriptState.calling
        then 1 else 0 := by
  rw [List.countP_cons] at h
  by_cases hown : message.replyPort = scriptPort <;> by_cases hcalling : script = .calling <;>
    simp [hown, hcalling] at h ⊢ <;> assumption

theorem PortInv.answer (h : PortInv before s) {message : RexxMsg} {caller : PortCaller}
    (hpc : s.pc = .answering message caller) {world : World} {rc : Nat} {result : Bytes} (made : Bool)
    (hworld : portAnswers world.trace = portAnswers s.world.trace ++ [(cstr message.input, rc, result)]) :
    PortInv before ({ s with world, pc := .draining caller }.reply (message.fill rc result made)) where
  order := by
    have horder := h.order
    have hreturned := h.returned (by simp [hpc, PortPc.shut])
    simp only [PortState.inHand, hpc, hreturned, PortState.reply] at horder ⊢
    rw [horder]
    simp [RexxMsg.fill, RexxMsg.asked]
  answers := by
    obtain ⟨new, hnew, hbrings⟩ := h.answers
    refine ⟨new ++ [(cstr message.input, rc, result)], ?_, ?_⟩
    · rw [← List.append_assoc, ← hnew]
      exact hworld
    · refine List.rel_append hbrings (.cons ⟨rfl, rfl, ?_⟩ .nil)
      by_cases hmade : (message.wantsResult && made) = true
      · exact .inr ⟨(Bool.and_eq_true_iff.1 hmade).1, if_pos hmade⟩
      · exact .inl (if_neg hmade)
  isPublic := by simpa [hpc, PortPc.shut, PortState.reply] using h.isPublic
  returned := fun _ => h.returned (by simp [hpc, PortPc.shut])
  closed := fun hclosed => by cases hclosed
  awake := fun _ => .inr (.inl rfl)
  absent := by
    have habsent := h.absent
    rw [hpc] at habsent
    cases caller <;> simp [PortState.reply, PortPc.inScript] at habsent ⊢ <;> split <;> simp_all
  ended := by
    have hended := h.ended
    rw [hpc] at hended
    cases caller <;> simp [PortState.reply, PortPc.inScript, PortPc.tookReply] at hended ⊢ <;> split <;> simp_all
  calling := by
    have hcalling := h.calling
    simp only [PortState.scriptPending, PortState.inHand, hpc] at hcalling
    simp only [PortState.scriptPending, PortState.inHand, PortState.reply, RexxMsg.fill]
    exact reply_calling hcalling

/-- The bot wakes in `ambot_rexx_run_script`. -/
theorem PortInv.scriptWake (h : PortInv before s) (hpc : s.pc = .scriptWaiting) {world : World} {pc : PortPc}
    (hworld : portAnswers world.trace = portAnswers s.world.trace) (hscript : pc.inScript = true)
    (hhand : ({ s with pc } : PortState).inHand = []) (hopen : pc.shut = false) (htook : pc.tookReply = s.replySignal)
    (hdrain : s.signal = true → pc.answers = true) :
    PortInv before { s with world, signal := false, replySignal := false, pc } := by
  have hsleep : s.queue ≠ [] → s.signal = true := fun hqueue => by
    simpa [hpc, PortPc.answers, PortPc.shut] using h.awake hqueue
  exact h.goes _ _ hworld (by simp [PortState.inHand, hpc]) hhand (by simp [hpc, PortPc.shut]) hopen
    (fun hqueue => .inr (hdrain (hsleep hqueue))) (by rw [hscript, hpc]; rfl) fun _ => by
      rw [htook, hpc]
      simp [PortPc.tookReply]

theorem PortInv.scriptDone (h : PortInv before s) (hpc : s.pc = .scriptWoken true) :
    PortInv before { s with pc := .idle, script := .absent } where
  order := by
    have horder := h.order
    simp only [PortState.inHand, hpc] at horder
    exact horder
  answers := h.answers
  isPublic := by simpa [hpc, PortPc.shut] using h.isPublic
  returned := fun _ => h.returned (by simp [hpc, PortPc.shut])
  closed := fun hclosed => by cases hclosed
  awake := fun hqueue => .inl (by simpa [hpc, PortPc.answers, PortPc.shut] using h.awake hqueue)
  absent := by simp [PortPc.inScript]
  ended := by simp [PortPc.inScript]
  calling := by
    have hended := h.ended.2 (by simp [hpc, PortPc.inScript, PortPc.tookReply])
    have hcalling := h.calling
    rw [hended] at hcalling
    simp only [PortState.scriptPending, PortState.inHand, hpc] at hcalling
    exact hcalling

theorem PortInv.scriptAgain (h : PortInv before s) (hpc : s.pc = .scriptWoken false) :
    PortInv before { s with pc := .scriptWaiting } :=
  h.goes s.signal s.replySignal rfl (by simp [PortState.inHand, hpc]) rfl
    (by simp [hpc, PortPc.shut]) rfl (fun hqueue => by simpa [hpc, PortPc.answers, PortPc.shut] using h.awake hqueue)
    (by simp [hpc, PortPc.inScript]) (by simp [hpc, PortPc.tookReply])

/-- A reply signal that was taken came with the script's message. -/
theorem PortInv.untaken (h : PortInv before s) {replySignal : Bool} (hpc : s.pc = .scriptWoken replySignal)
    (hdone : ¬ (replySignal && decide (s.script = .ended)) = true) : replySignal = false := by
  cases replySignal with
  | false => rfl
  | true =>
    have hended := h.ended.2 (by simp [hpc, PortPc.inScript, PortPc.tookReply])
    exact absurd (by simp [hended]) hdone

theorem PortInv.giveBack (h : PortInv before s) (hpc : s.pc = .closing) {message : RexxMsg} {queue : List RexxMsg}
    (hqueue : s.queue = message :: queue) :
    PortInv before { s with queue, returned := s.returned ++ [message] } :=
  { h with
    order := by
      have horder := h.order
      simp only [PortState.inHand, hpc, hqueue] at horder ⊢
      simpa using horder
    returned := fun hopen => by simp [hpc, PortPc.shut] at hopen
    closed := fun hclosed => by simp [hpc] at hclosed
    awake := fun _ => .inr (.inr (by simp [hpc, PortPc.shut]))
    calling := by
      have hnone := h.noScript (by simp [hpc, PortPc.inScript])
      have hpending := hnone.2
      simp only [PortState.scriptPending, PortState.inHand, hpc, hqueue, List.nil_append, List.countP_cons] at hpending
      simp only [PortState.scriptPending, PortState.inHand, hpc, hnone.1, List.nil_append]
      exact Nat.eq_zero_of_add_eq_zero_right hpending }

theorem PortInv.closes (h : PortInv before s) (hpc : s.pc = .closing) (hqueue : s.queue = []) :
    PortInv before { s with pc := .closed } where
  order := by
    have horder := h.order
    simp only [PortState.inHand, hpc] at horder
    exact horder
  answers := h.answers
  isPublic := by simpa [hpc, PortPc.shut] using h.isPublic
  returned := fun hopen => by cases hopen
  closed := fun _ => hqueue
  awake := fun hne => absurd hqueue hne
  absent := by simpa [PortPc.inScript, hpc] using h.absent
  ended := by simpa [PortPc.inScript, hpc] using h.ended
  calling := by
    have hcalling := h.calling
    simp only [PortState.scriptPending, PortState.inHand, hpc] at hcalling
    exact hcalling

theorem botStep_inv {made : Bool} (hstep : botStep env s made = some s') (h : PortInv before s) : PortInv before s' := by
  unfold botStep at hstep
  split at hstep
  · -- a wait of the session
    rename_i hpc
    split at hstep
    · cases hstep
      exact h.wake hpc
    · cases hstep
  · rename_i caller hpc
    split at hstep
    · rename_i hqueue
      cases hstep
      exact h.drained hpc hqueue
    · rename_i message queue hqueue
      cases hstep
      exact h.take hpc hqueue
  · rename_i message caller hpc
    obtain ⟨rc, result, world, hanswer, -, hworld⟩ := portAnswer_eq env s message caller made
    rw [hanswer] at hstep
    cases hstep
    exact h.answer hpc made hworld
  · -- the wait for the script
    rename_i hpc
    split at hstep
    · dsimp only at hstep
      split at hstep
      · cases hstep
        exact h.scriptWake hpc rfl rfl rfl rfl rfl fun _ => rfl
      · rename_i hsignal
        cases hstep
        exact h.scriptWake hpc rfl rfl rfl rfl rfl fun hs => absurd hs hsignal
    · cases hstep
  · rename_i replySignal hpc
    split at hstep
    · rename_i hdone
      cases hstep
      obtain rfl : replySignal = true := by
        simp only [Bool.and_eq_true] at hdone
        exact hdone.1
      exact h.scriptDone hpc
    · rename_i hdone
      cases hstep
      obtain rfl := h.untaken hpc hdone
      exact h.scriptAgain hpc
  · rename_i hpc
    split at hstep
    · rename_i hqueue
      cases hstep
      exact h.closes hpc hqueue
    · rename_i message queue hqueue
      cases hstep
      exact h.giveBack hpc hqueue
  · cases hstep
  · cases hstep

theorem portStep_inv {action : PortAction} (hstep : portStep env s action = some s') (h : PortInv before s) :
    PortInv before s' := by
  cases action with
  | bot made => exact botStep_inv hstep h
  | post message =>
    obtain ⟨⟨hpublic, hforeign⟩, ⟨⟩⟩ := Option.ite_none_right_eq_some.1 hstep
    exact h.post hpublic hforeign
  | call message =>
    obtain ⟨⟨hpublic, hrunning, hown⟩, ⟨⟩⟩ := Option.ite_none_right_eq_some.1 hstep
    exact h.call hpublic hrunning hown
  | finish =>
    obtain ⟨hrunning, ⟨⟩⟩ := Option.ite_none_right_eq_some.1 hstep
    exact h.finish hrunning
  | event =>
    obtain ⟨hpc, ⟨⟩⟩ := Option.ite_none_right_eq_some.1 hstep
    exact h.wake hpc
  | process =>
    obtain ⟨hpc, ⟨⟩⟩ := Option.ite_none_right_eq_some.1 hstep
    exact h.process hpc
  | wait =>
    obtain ⟨hpc, ⟨⟩⟩ := Option.ite_none_right_eq_some.1 hstep
    exact h.wait hpc
  | runScript command =>
    obtain ⟨hpc, ⟨⟩⟩ := Option.ite_none_right_eq_some.1 hstep
    exact h.runScript hpc command
  | close =>
    obtain ⟨hpc, ⟨⟩⟩ := Option.ite_none_right_eq_some.1 hstep
    exact h.close hpc
  | session world logged =>
    obtain ⟨⟨-, hlogged⟩, ⟨⟩⟩ := Option.ite_none_right_eq_some.1 hstep
    exact h.session hlogged world

/-- The invariant holds in every state any interleaving leads to. -/
theorem port_inv {w : World} {actions : List PortAction} (h : Run (portStep env) (portOpened w) actions s) :
    PortInv (portAnswers w.trace) s :=
  h.inv (fun _ _ _ hstep hinv => portStep_inv hstep hinv) (portInv_opened w)

/-! ## In order, each once -/

/-- In every interleaving the messages put to the port are, in order, those
replied to, the one in hand, those sent back by the close and those at the
port. The replies bring the answers of the trace, one each. A closed port has
none left and takes none. -/
theorem port_replies_in_order {w : World} {actions : List PortAction}
    (h : Run (portStep env) (portOpened w) actions s) :
    s.posted.map (·.asked) = (s.replied ++ s.inHand ++ s.returned ++ s.queue).map (·.asked) ∧
    (∃ new, portAnswers s.world.trace = portAnswers w.trace ++ new ∧ List.Forall₂ RexxMsg.Brings s.replied new) ∧
    (s.pc = .closed → s.inHand ++ s.queue = [] ∧ ∀ message, portStep env s (.post message) = none) := by
  have hinv := port_inv h
  refine ⟨hinv.order, hinv.answers, fun hclosed => ⟨?_, fun message => ?_⟩⟩
  · simp [PortState.inHand, hclosed, hinv.closed hclosed]
  · have hshut : s.isPublic = false := by
      rw [hinv.isPublic, hclosed]
      rfl
    simp [portStep, hshut]

/-- A message without a command, from a client. -/
def blankMessage : RexxMsg := { replyPort := 1, arg0 := none, wantsResult := true, result1 := 0, result2 := none }

/-- The bot waits, a message comes, it is answered, and the port is closed. -/
def oneMessage : List PortAction :=
  [.wait, .post blankMessage, .bot true, .bot true, .bot true, .bot true, .close, .bot true]

theorem port_replies_once : ∃ s, Run (portStep Env.silent) (portOpened (worldInit configInit)) oneMessage s ∧
    s.posted.map (·.asked) = (s.replied ++ s.inHand ++ s.returned ++ s.queue).map (·.asked) := by
  have hruns : (runAll (portStep Env.silent) (portOpened (worldInit configInit)) oneMessage).isSome = true := by
    decide +kernel
  obtain ⟨s, hs⟩ := Option.isSome_iff_exists.1 hruns
  exact ⟨s, run_iff.2 hs, (port_replies_in_order (run_iff.2 hs)).1⟩

/-! ## No sleep with work to do -/

/-- In every interleaving the bot, where it is in the code of its port, can
move, or the script it waits for can, or it sleeps in the session's wait with
no message at the port. It leaves `ambot_rexx_run_script` only when the script
has ended. -/
theorem port_never_stuck {w : World} {actions : List PortAction} (h : Run (portStep env) (portOpened w) actions s) :
    (s.pc ≠ .idle → s.pc ≠ .closed →
      (∀ made, (botStep env s made).isSome = true) ∨ s.script = .running ∨ (s.pc = .waiting ∧ s.queue = [])) ∧
    (s.queue ≠ [] → s.pc = .waiting ∨ s.pc = .scriptWaiting → s.signal = true) ∧
    (s.script ≠ .absent ↔ s.pc.inScript = true) := by
  have hinv := port_inv h
  have hawake : s.queue ≠ [] → s.pc = .waiting ∨ s.pc = .scriptWaiting → s.signal = true := by
    rintro hqueue (hpc | hpc) <;> simpa [hpc, PortPc.answers, PortPc.shut] using hinv.awake hqueue
  refine ⟨fun hidle hclosed => ?_, hawake, by rw [Ne, hinv.absent, Bool.not_eq_false]⟩
  cases hpc : s.pc with
  | idle => exact absurd hpc hidle
  | closed => exact absurd hpc hclosed
  | waiting =>
    by_cases hqueue : s.queue = []
    · exact .inr (.inr ⟨rfl, hqueue⟩)
    · have hsignal := hawake hqueue (.inl hpc)
      exact .inl fun made => by simp [botStep, hpc, hsignal]
  | draining caller =>
    refine .inl fun made => ?_
    cases hqueue : s.queue <;> simp [botStep, hpc, hqueue]
  | answering message caller =>
    refine .inl fun made => ?_
    obtain ⟨rc, result, world, hanswer, -⟩ := portAnswer_eq env s message caller made
    simp [botStep, hpc, hanswer]
  | scriptWoken replySignal => exact .inl fun made => by simp [botStep, hpc]
  | closing =>
    refine .inl fun made => ?_
    cases hqueue : s.queue <;> simp [botStep, hpc, hqueue]
  | scriptWaiting =>
    by_cases hsignals : (s.signal || s.replySignal) = true
    · exact .inl fun made => by simp [botStep, hpc, hsignals]
    · -- without a signal there is neither a message nor an end, so the script is at work
      obtain ⟨hsignal, hreply⟩ : s.signal = false ∧ s.replySignal = false := by simpa using hsignals
      have hqueue : s.queue = [] := by
        by_contra hqueue
        exact absurd (hawake hqueue (.inr hpc)) (by simp [hsignal])
      have habsent := hinv.absent
      have hended := hinv.ended
      have hcalling := hinv.calling
      cases hscript : s.script <;>
        simp [hscript, hpc, hqueue, hreply, PortPc.inScript, PortPc.tookReply, PortState.scriptPending,
          PortState.inHand] at habsent hended hcalling ⊢

/-- A message comes while the bot waits: the signal that gets it out is there. -/
theorem port_never_stuck_posted : ∃ s,
    Run (portStep Env.silent) (portOpened (worldInit configInit)) [.wait, .post blankMessage] s ∧
    s.queue = [blankMessage] ∧ s.signal = true := by
  have hruns : (runAll (portStep Env.silent) (portOpened (worldInit configInit)) [.wait, .post blankMessage]).any
      (fun s => s.pc = .waiting ∧ s.queue = [blankMessage]) = true := by
    decide +kernel
  obtain ⟨hs, hstate⟩ := (Option.any_eq_true_iff_get _ _).1 hruns
  obtain ⟨hpc, hqueue⟩ := of_decide_eq_true hstate
  have hrun := run_iff.2 (Option.some_get hs).symm
  exact ⟨_, hrun, hqueue, (port_never_stuck hrun).2.1 (by simp [hqueue]) (.inl hpc)⟩

/-! ## How soon -/

/-- The bot waits for its port's signal, or is on its way from there through
the messages. -/
def PortPc.serves : PortPc → Bool
  | .waiting | .scriptWaiting => true
  | pc => pc.answers

def PortPc.sleeps : PortPc → Bool
  | .waiting | .scriptWaiting => true
  | _ => false

/-- How far the bot is: a reply counts two, and so do a message in hand and
the wait it has left, together. -/
def PortState.progress (s : PortState) : Nat :=
  2 * s.replied.length + s.inHand.length + if s.pc.sleeps then 0 else 1

/-- The first `n` messages are replied to, or the bot is on its way to them. -/
def PortState.Will (n : Nat) (s : PortState) : Prop :=
  n ≤ s.replied.length ∨ (s.pc.serves = true ∧ n ≤ s.replied.length + s.inHand.length + s.queue.length)

def PortAction.isBot : PortAction → Bool
  | .bot _ => true
  | _ => false

/-- The moves of the bot in a run. -/
def botMoves (actions : List PortAction) : Nat := actions.countP PortAction.isBot

theorem botMoves_cons (action : PortAction) (actions : List PortAction) :
    botMoves (action :: actions) = botMoves actions + if action.isBot then 1 else 0 := List.countP_cons

theorem reply_replied (s : PortState) (message : RexxMsg) :
    (s.reply message).replied.length = s.replied.length + 1 := by simp [PortState.reply]

theorem wake_replied (s : PortState) : s.wake.replied = s.replied := by
  unfold PortState.wake
  split <;> rfl

/-- Nothing takes a reply back. -/
theorem portStep_replied {action : PortAction} (hstep : portStep env s action = some s') :
    s.replied.length ≤ s'.replied.length := by
  cases action with
  | bot made =>
    change botStep env s made = some s' at hstep
    unfold botStep at hstep
    split at hstep
    · obtain ⟨-, ⟨⟩⟩ := Option.ite_none_right_eq_some.1 hstep
      rw [wake_replied]
    · split at hstep <;> cases hstep <;> exact le_rfl
    · rename_i message caller hpc
      obtain ⟨rc, result, world, hanswer, -⟩ := portAnswer_eq env s message caller made
      rw [hanswer] at hstep
      cases hstep
      rw [reply_replied]
      exact Nat.le_succ _
    · obtain ⟨-, ⟨⟩⟩ := Option.ite_none_right_eq_some.1 hstep
      split <;> exact le_rfl
    · cases hstep
      split <;> exact le_rfl
    · split at hstep <;> cases hstep <;> exact le_rfl
    · cases hstep
    · cases hstep
  | event =>
    obtain ⟨-, ⟨⟩⟩ := Option.ite_none_right_eq_some.1 hstep
    rw [wake_replied]
  | post => obtain ⟨-, ⟨⟩⟩ := Option.ite_none_right_eq_some.1 hstep; exact le_rfl
  | call => obtain ⟨-, ⟨⟩⟩ := Option.ite_none_right_eq_some.1 hstep; exact le_rfl
  | finish => obtain ⟨-, ⟨⟩⟩ := Option.ite_none_right_eq_some.1 hstep; exact le_rfl
  | process => obtain ⟨-, ⟨⟩⟩ := Option.ite_none_right_eq_some.1 hstep; exact le_rfl
  | wait => obtain ⟨-, ⟨⟩⟩ := Option.ite_none_right_eq_some.1 hstep; exact le_rfl
  | runScript => obtain ⟨-, ⟨⟩⟩ := Option.ite_none_right_eq_some.1 hstep; exact le_rfl
  | close => obtain ⟨-, ⟨⟩⟩ := Option.ite_none_right_eq_some.1 hstep; exact le_rfl
  | session => obtain ⟨-, ⟨⟩⟩ := Option.ite_none_right_eq_some.1 hstep; exact le_rfl

/-- The bot wakes with a message at its port. -/
theorem wake_progress {n : Nat} (hinv : PortInv before s) (hpc : s.pc = .waiting) (hwill : s.Will n)
    (hless : s.replied.length < n) : s.wake.Will n ∧ s.progress + 1 ≤ s.wake.progress := by
  have hpending : n ≤ s.replied.length + s.queue.length := by
    simpa [PortState.Will, PortState.inHand, hpc, PortPc.serves, hless.not_ge] using hwill
  have hqueue : s.queue ≠ [] := by
    rintro hqueue
    simp [hqueue] at hpending
    omega
  have hsignal : s.signal = true := by simpa [hpc, PortPc.answers, PortPc.shut] using hinv.awake hqueue
  have hwake : s.wake = { s with signal := false }.enter .session := if_pos hsignal
  rw [hwake]
  refine ⟨.inr ⟨rfl, hpending⟩, ?_⟩
  simp [PortState.progress, PortState.inHand, hpc, PortState.enter, PortPc.sleeps]

/-- A move of the bot brings it on, until it has replied. -/
theorem botStep_progress {n : Nat} {made : Bool} (hinv : PortInv before s) (hstep : botStep env s made = some s')
    (hwill : s.Will n) (hless : s.replied.length < n) : s'.Will n ∧ s.progress + 1 ≤ s'.progress := by
  obtain ⟨hserves, hpending⟩ := hwill.resolve_left hless.not_ge
  unfold botStep at hstep
  split at hstep
  · rename_i hpc
    obtain ⟨-, ⟨⟩⟩ := Option.ite_none_right_eq_some.1 hstep
    exact wake_progress hinv hpc hwill hless
  · rename_i caller hpc
    simp only [PortState.inHand, hpc] at hpending
    split at hstep
    · -- the loop ends with the port empty
      rename_i hqueue
      simp [hqueue] at hpending
      omega
    · rename_i message queue hqueue
      cases hstep
      rw [hqueue] at hpending
      refine ⟨.inr ⟨rfl, ?_⟩, ?_⟩
      · simpa [PortState.inHand, Nat.add_comm, Nat.add_left_comm] using hpending
      · simp [PortState.progress, PortState.inHand, hpc, PortPc.sleeps]
  · rename_i message caller hpc
    obtain ⟨rc, result, world, hanswer, -⟩ := portAnswer_eq env s message caller made
    rw [hanswer] at hstep
    cases hstep
    simp only [PortState.inHand, hpc] at hpending
    refine ⟨.inr ⟨rfl, ?_⟩, ?_⟩
    · rw [reply_replied]
      simpa [PortState.reply, PortState.inHand] using hpending
    · simp only [PortState.progress, reply_replied]
      simp [PortState.inHand, hpc, PortState.reply, PortPc.sleeps]
      omega
  · rename_i hpc
    obtain ⟨-, ⟨⟩⟩ := Option.ite_none_right_eq_some.1 hstep
    simp only [PortState.inHand, hpc, List.length_nil, Nat.add_zero] at hpending
    have hqueue : s.queue ≠ [] := by
      rintro hqueue
      simp [hqueue] at hpending
      omega
    have hsignal : s.signal = true := by simpa [hpc, PortPc.answers, PortPc.shut] using hinv.awake hqueue
    rw [if_pos hsignal]
    refine ⟨.inr ⟨rfl, hpending⟩, ?_⟩
    simp [PortState.progress, PortState.inHand, hpc, PortState.enter, PortPc.sleeps]
  all_goals
    rename_i hpc
    simp [hpc, PortPc.serves, PortPc.answers] at hserves

theorem put_progress {n : Nat} {message : RexxMsg} {script : ScriptState} (hwill : s.Will n) :
    ({ s.put message with script } : PortState).Will n ∧
      s.progress = ({ s.put message with script } : PortState).progress := by
  refine ⟨hwill.imp_right fun ⟨hserves, hpending⟩ => ⟨hserves, ?_⟩, rfl⟩
  exact hpending.trans (by simp [PortState.inHand, PortState.put])

theorem portStep_progress {n : Nat} {action : PortAction} (hinv : PortInv before s)
    (hstep : portStep env s action = some s') (hwill : s.Will n) (hless : s.replied.length < n) :
    s'.Will n ∧ s.progress + (if action.isBot then 1 else 0) ≤ s'.progress := by
  -- the session is not at work before the bot comes out of its loop
  have hserves := (hwill.resolve_left hless.not_ge).1
  have hbusy : s.pc ≠ .idle := by
    intro hpc
    simp [hpc, PortPc.serves, PortPc.answers] at hserves
  cases action with
  | bot made => exact botStep_progress hinv hstep hwill hless
  | event =>
    obtain ⟨hpc, ⟨⟩⟩ := Option.ite_none_right_eq_some.1 hstep
    obtain ⟨hwill', hprogress⟩ := wake_progress hinv hpc hwill hless
    exact ⟨hwill', (Nat.le_succ _).trans hprogress⟩
  | post message =>
    obtain ⟨-, ⟨⟩⟩ := Option.ite_none_right_eq_some.1 hstep
    exact (put_progress hwill).imp_right Eq.le
  | call message =>
    obtain ⟨-, ⟨⟩⟩ := Option.ite_none_right_eq_some.1 hstep
    exact (put_progress hwill).imp_right Eq.le
  | finish =>
    obtain ⟨-, ⟨⟩⟩ := Option.ite_none_right_eq_some.1 hstep
    exact ⟨hwill, le_rfl⟩
  | process => exact absurd (Option.ite_none_right_eq_some.1 hstep).1 hbusy
  | wait => exact absurd (Option.ite_none_right_eq_some.1 hstep).1 hbusy
  | runScript => exact absurd (Option.ite_none_right_eq_some.1 hstep).1 hbusy
  | close => exact absurd (Option.ite_none_right_eq_some.1 hstep).1 hbusy
  | session => exact absurd (Option.ite_none_right_eq_some.1 hstep).1.1 hbusy

theorem run_progress {n : Nat} {later : List PortAction} (h : Run (portStep env) s later s') (hinv : PortInv before s)
    (hwill : s.Will n) : n ≤ s'.replied.length ∨ s.progress + botMoves later ≤ s'.progress := by
  induction h with
  | nil => exact .inr le_rfl
  | @cons s s₁ s' action later hstep hrun ih =>
    have hinv₁ := portStep_inv hstep hinv
    by_cases hdone : n ≤ s.replied.length
    · have hkeep : ∀ s a s', portStep env s a = some s' → n ≤ s.replied.length → n ≤ s'.replied.length :=
        fun _ _ _ hs hn => hn.trans (portStep_replied hs)
      exact .inl (Run.inv (I := fun s => n ≤ s.replied.length) hkeep hrun (hkeep _ _ _ hstep hdone))
    · obtain ⟨hwill₁, hprogress⟩ := portStep_progress hinv hstep hwill (by omega)
      refine (ih hinv₁ hwill₁).imp_right fun hrest => ?_
      rw [botMoves_cons]
      omega

/-- Whatever the other parties do meanwhile, the `k`-th message at the port is
replied to by the `2 k + 1`-th move the bot makes from its wait: one out of the
wait, and two for each message. -/
theorem port_replies_soon {w : World} {actions later : List PortAction}
    (h : Run (portStep env) (portOpened w) actions s) (hwait : s.pc = .waiting ∨ s.pc = .scriptWaiting)
    (hlater : Run (portStep env) s later s') {k : Nat} (hk : k ≤ s.queue.length) (hmoves : 2 * k + 1 ≤ botMoves later) :
    s.replied.length + k ≤ s'.replied.length := by
  have hsleeps : s.pc.sleeps = true ∧ s.pc.serves = true ∧ s.inHand = [] := by
    rcases hwait with hpc | hpc <;> simp [PortState.inHand, hpc, PortPc.sleeps, PortPc.serves]
  obtain ⟨hsleeps, hserves, hhand⟩ := hsleeps
  have hwill : s.Will (s.replied.length + k) := .inr ⟨hserves, by rw [hhand]; simpa using hk⟩
  rcases run_progress hlater (port_inv h) hwill with hdone | hprogress
  · exact hdone
  · -- the bot cannot have come that far on fewer replies
    have hhand' : s'.inHand.length ≤ 1 := by
      unfold PortState.inHand
      split <;> simp
    have hstart : s.progress = 2 * s.replied.length := by simp [PortState.progress, hhand, hsleeps]
    have hawake' : (if s'.pc.sleeps then 0 else 1) ≤ 1 := by split <;> omega
    rw [hstart] at hprogress
    unfold PortState.progress at hprogress
    omega

/-- A message comes while the bot waits, and three moves later it is back. -/
theorem port_replies_soon_once : ∃ s s',
    Run (portStep Env.silent) (portOpened (worldInit configInit)) [.wait, .post blankMessage] s ∧
    Run (portStep Env.silent) s [.bot true, .post blankMessage, .bot true, .bot true] s' ∧
    s.replied.length + 1 ≤ s'.replied.length := by
  have hfirst : (runAll (portStep Env.silent) (portOpened (worldInit configInit)) [.wait, .post blankMessage]).any
      (fun s => s.pc = .waiting ∧ s.queue = [blankMessage] ∧
        (runAll (portStep Env.silent) s [.bot true, .post blankMessage, .bot true, .bot true]).isSome) = true := by
    decide +kernel
  obtain ⟨hs, hlater⟩ := (Option.any_eq_true_iff_get _ _).1 hfirst
  obtain ⟨hpc, hqueue, hsome⟩ := of_decide_eq_true hlater
  obtain ⟨s', hs'⟩ := Option.isSome_iff_exists.1 hsome
  have hrun := run_iff.2 (Option.some_get hs).symm
  exact ⟨_, s', hrun, run_iff.2 hs', port_replies_soon hrun (.inl hpc) (run_iff.2 hs') (by simp [hqueue]) (by decide)⟩

end AmBot
