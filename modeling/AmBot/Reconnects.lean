import AmBot.RunLib.Backoff
import AmBot.Requests
import AmBot.Turns
/-!
# The delays between connects

Both loops wait before they connect again, each with a variable of its own: the
single-network loop doubles `backoff` after it has slept that long, and the
main loop doubles `retry_wait` when a reconnect fails, before it counts. While
nothing is asked of the session the delays are those of one backoff, given by
the attempts alone. Only a connection whose registration is not sent is a lost
one in the first loop and a failed connect in the second.
-/

namespace AmBot

open RunLib RunLib.Prog

theorem nextRetryWait_eq_nextBackoff : nextRetryWait = nextBackoff := rfl

/-- The delay after one more failure. -/
theorem nextBackoff_backoff {attempts : List Attempt} (h : attempts ≠ []) :
    nextBackoff (backoff 30 attempts) = backoff 30 (attempts ++ [.failed]) := by
  have hbounds : 1 ≤ backoff 30 attempts ∧ backoff 30 attempts ≤ 30 := backoff_bounds (by omega) attempts
  rw [backoff_failed h]
  unfold nextBackoff reconnectMaxSeconds
  split <;> [split; skip] <;> omega

/-- How an attempt ends: the connect fails, or it succeeds until the connection
is lost. -/
def attemptOf (result : Int) : Attempt := if 0 ≤ result then .lost else .failed

/-! ## The attempts of the single-network loop -/

/-- What asks the session for something. -/
def Obs.controls (o : Obs) : Bool :=
  o.kind = .ctrlC || ["CONNECT", "DISCONNECT", "RELOAD", "QUIT"].any (o.answers ·)

/-- The attempts so far, each with the ticks waited after it: those that are
over, and the last, which a connection that is up will have lost. -/
structure Course where
  dialled : Bool
  ended : List (Attempt × Nat)
  last : Option (Attempt × Nat)
  deriving DecidableEq, Repr

def Course.attempts (s : Course) : List (Attempt × Nat) := s.ended ++ s.last.toList

/-- The connect after a `dial` is the session's own. -/
def Course.add (s : Course) : Obs → Course
  | .dial .. => { s with dialled := true }
  | .connect _ _ result =>
    if s.dialled then
      { dialled := false, ended := s.attempts, last := some (attemptOf result, 0) }
    else s
  | .delay ticks => { s with last := s.last.map fun (attempt, waited) => (attempt, waited + ticks) }
  | _ => s

def courseOf (t : List Obs) : Course := t.foldl Course.add { dialled := false, ended := [], last := none }

theorem courseOf_snoc (t : List Obs) (o : Obs) : courseOf (t ++ [o]) = (courseOf t).add o := by simp [courseOf]

/-- Where no connect is on its way, the rest is not for the course. -/
theorem Course.add_other {s : Course} (hdialled : s.dialled = false) {o : Obs} (ho : o.kind ∉ [.dial, .delay]) :
    s.add o = s := by
  cases o with
  | connect => simp [Course.add, hdialled]
  | dial => simp [Obs.kind] at ho
  | delay => simp [Obs.kind] at ho
  | _ => rfl

/-- Each attempt that is over has been followed by its delay, and the last by
no more than its own, in ticks. -/
structure Course.Paced (s : Course) : Prop where
  ended : Follows 30 50 s.ended
  last : ∀ attempt waited, s.last = some (attempt, waited) →
    waited ≤ 50 * backoff 30 (s.ended.map (·.1) ++ [attempt])

/-- A connect is next. If it fails the delay is `seconds`. -/
structure Course.Ready (seconds : Nat) (s : Course) : Prop where
  follows : Follows 30 50 s.attempts
  seconds : seconds = backoff 30 (s.attempts.map (·.1) ++ [.failed])

/-- Of the delay of `seconds` after the last attempt `ticks` are left. -/
structure Course.Owes (ticks seconds : Nat) (s : Course) : Prop where
  dialled : s.dialled = false
  ended : Follows 30 50 s.ended
  last : ∃ attempt waited, s.last = some (attempt, waited) ∧ waited + ticks = 50 * seconds ∧
    seconds = backoff 30 (s.ended.map (·.1) ++ [attempt])

section
variable {s : Course} {ticks seconds : Nat}

theorem Course.Owes.paced (h : s.Owes ticks seconds) : s.Paced := by
  obtain ⟨-, hended, attempt, waited, hlast, hticks, hseconds⟩ := h
  refine ⟨hended, fun attempt' waited' heq => ?_⟩
  rw [hlast] at heq
  cases heq
  rw [← hseconds]
  omega

theorem Course.Ready.paced (h : s.Ready seconds) : s.Paced := by
  obtain ⟨hfollows, -⟩ := h
  unfold Course.attempts at hfollows
  cases hlast : s.last with
  | none =>
    rw [hlast, Option.toList_none, List.append_nil] at hfollows
    exact ⟨hfollows, by simp [hlast]⟩
  | some entry =>
    rw [hlast, Option.toList_some] at hfollows
    obtain ⟨hended, hwaited⟩ := follows_snoc.1 hfollows
    refine ⟨hended, fun attempt waited heq => ?_⟩
    rw [hlast] at heq
    cases heq
    exact hwaited.le

theorem Course.Owes.delay (h : s.Owes ticks seconds) : (s.add (.delay (min ticks 5))).Owes (ticks - 5) seconds := by
  obtain ⟨hdialled, hended, attempt, waited, hlast, hticks, hseconds⟩ := h
  refine ⟨hdialled, hended, attempt, waited + min ticks 5, by simp [Course.add, hlast], by omega, hseconds⟩

/-- The delay is over, and the next is twice as long, or the longest. -/
theorem Course.Owes.ready (h : s.Owes 0 seconds) : s.Ready (nextBackoff seconds) := by
  obtain ⟨-, hended, attempt, waited, hlast, hticks, rfl⟩ := h
  have hattempts : s.attempts = s.ended ++ [(attempt, waited)] := by simp [Course.attempts, hlast]
  refine ⟨?_, ?_⟩
  · rw [hattempts]
    exact follows_snoc.2 ⟨hended, by omega⟩
  · rw [hattempts, nextBackoff_backoff (by simp), List.map_append, List.map_singleton]

/-- A connect ends one way or the other. -/
theorem Course.Ready.connect (h : s.Ready seconds) (hdialled : s.dialled = true) (host : Bytes) (port : Nat)
    (result : Int) :
    (s.add (.connect host port result)).Owes (50 * if 0 ≤ result then 1 else seconds)
      (if 0 ≤ result then 1 else seconds) := by
  have hadd : s.add (.connect host port result) =
      { dialled := false, ended := s.attempts, last := some (attemptOf result, 0) } :=
    if_pos hdialled
  rw [hadd]
  refine ⟨rfl, h.follows, _, 0, rfl, by omega, ?_⟩
  unfold attemptOf
  split
  · exact (backoff_lost (by omega) _).symm
  · exact h.seconds

end

/-! ## Nothing is asked -/

abbrev Uncontrolled : World → Prop := AllObs fun o => o.controls = false

/-- While nothing is asked of the session, `C` stays of the control block, and
the course is as it was. -/
def Quietly (C : Control → Prop) (w w' : World) : Prop :=
  Uncontrolled w' → Uncontrolled w ∧ (C w.control → (courseOf w.trace).dialled = false →
    C w'.control ∧ courseOf w'.trace = courseOf w.trace)

instance (C : Control → Prop) : IsPreorder World (Quietly C) where
  refl _ hall := ⟨hall, fun hc _ => ⟨hc, rfl⟩⟩
  trans := by
    intro w₁ w₂ w₃ h h' hall
    obtain ⟨hall₂, hthen⟩ := h' hall
    obtain ⟨hall₁, hfirst⟩ := h hall₂
    refine ⟨hall₁, fun hc hdialled => ?_⟩
    obtain ⟨hc₂, heq⟩ := hfirst hc hdialled
    obtain ⟨hc₃, heq'⟩ := hthen hc₂ (heq ▸ hdialled)
    exact ⟨hc₃, heq'.trans heq⟩

/-- Nothing but a connection or its end is noted. -/
structure Calm (c : Control) : Prop where
  disconnectRequested : c.disconnectRequested = false
  quitRequested : c.quitRequested = false
  reloadRequested : c.reloadRequested = false

/-- The session is to connect. -/
structure Eager (c : Control) : Prop extends Calm c where
  connectRequested : c.connectRequested = true

theorem AllObs.of_log {P : Obs → Prop} {w : World} {o : Obs} (h : AllObs P (w.log o)) : AllObs P w ∧ P o :=
  ⟨fun o' ho' => h o' (List.mem_append_left _ ho'), h o (List.mem_append_right _ (List.mem_singleton.2 rfl))⟩

section
variable {C : Control → Prop} {X : Course → Prop} {α : Type} {S : List Kind} {m : M α}

theorem act_quietly (hS : Kind.dial ∉ S ∧ Kind.delay ∉ S) {w w' : World} (h : Act S w w') : Quietly C w w' := by
  have other {w : World} {o : Obs} (ho : o.kind ∈ S) (hdialled : (courseOf w.trace).dialled = false) :
      courseOf (w.log o).trace = courseOf w.trace := by
    refine (courseOf_snoc w.trace o).trans (Course.add_other hdialled fun hkind => ?_)
    rcases List.mem_cons.1 hkind with hkind | hkind
    · exact hS.1 (hkind ▸ ho)
    · exact hS.2 (List.mem_singleton.1 hkind ▸ ho)
  intro hall
  cases h with
  | tick => exact ⟨hall, fun hc _ => ⟨hc, rfl⟩⟩
  | signal => exact ⟨hall, fun hc _ => ⟨hc, rfl⟩⟩
  | log o ho => exact ⟨hall.of_log.1, fun hc hdialled => ⟨hc, other ho hdialled⟩⟩
  | answer input rc result control hrexx hanswered =>
    obtain ⟨hbefore, hnone⟩ := hall.of_log
    refine ⟨hbefore, fun hc hdialled => ⟨?_, other hrexx hdialled⟩⟩
    cases hanswered with
    | other => exact hc
    | connect hword => simp [Obs.controls, Obs.answers, hword] at hnone
    | disconnect hword => simp [Obs.controls, Obs.answers, hword] at hnone
    | reload hword => simp [Obs.controls, Obs.answers, hword] at hnone
    | quit hword => simp [Obs.controls, Obs.answers, hword] at hnone

theorem quietly (hS : Kind.dial ∉ S ∧ Kind.delay ∉ S) (h : Keeps (Acts S) m) : Keeps (Quietly C) m := by
  refine Keeps.mono (fun w w' hacts => ?_) h
  induction hacts with
  | refl => exact refl_of (Quietly C) w
  | tail _ ha ih => exact trans_of (Quietly C) ih (act_quietly hS ha)

theorem modifyControl_quietly {f : Control → Control} (hf : ∀ c, C c → C (f c)) :
    Keeps (Quietly C) (modifyControl f) :=
  fun _ w hall => ⟨hall, fun hc _ => ⟨hf w.control hc, rfl⟩⟩

theorem processReload_quietly (hC : ∀ c, C c → c.reloadRequested = false) : Keeps (Quietly C) processReload := by
  intro env w hall
  have hgrows : Keeps (Along (Adds fun _ => True)) processReload := processReload_along fun _ _ _ => adds_one trivial
  obtain ⟨u, htrace, -⟩ := hgrows env w
  refine ⟨fun o ho => hall o (by rw [htrace]; exact List.mem_append_left _ ho), fun hc _ => ?_⟩
  have hnone : processReload env w = (.ok (), w) := by
    simp [processReload, getControl, Prog.read, bind_run, hC _ hc]
  rw [hnone]
  exact ⟨hc, rfl⟩

end

/-! ## A connection -/

theorem setSocket_quietly (sock : Int) : Keeps (Quietly Calm) (setSocket sock) :=
  modifyControl_quietly fun _ hc => ⟨hc.disconnectRequested, hc.quitRequested, hc.reloadRequested⟩

theorem sessionFeed_quietly (botai : BotAi) (sock : Int) (data : Bytes) (s : SessionState) :
    Keeps (Quietly Calm) (sessionFeed botai sock data s) := by
  refine (quietly (by decide) (framerFeed_keeps (sessionHandleLine_keeps sock) _ _ _)).bind fun r => ?_
  obtain ⟨framer, events⟩ := r
  refine Keeps.bind (eventDispatchPending_keeps (fun event => ?_) _ _) fun _ => keeps_pure _
  exact (keeps_read _).bind fun config => quietly (by decide) (dispatchEvent_keeps _ _ _ _)

theorem connectedRound_quietly (botai : BotAi) (sock : Int) (s : SessionState) :
    Keeps (Quietly Calm) (connectedRound botai sock s) := by
  have ends (rc : Int) : Keeps (Quietly Calm) (do setSocket (-1); pure (.inr rc) : M (SessionState ⊕ Int)) :=
    (setSocket_quietly (-1)).bind fun _ => keeps_pure _
  -- a Ctrl-C asks for something, so what comes after it does not matter
  have quits : Keeps (Quietly Calm) (do
      log .ctrlC
      modifyControl fun control => { control with quitRequested := true }
      setSocket (-1)
      pure (.inr 0) : M (SessionState ⊕ Int)) :=
    fun env w hall => absurd (AllObs.of_log (w := w) hall).2 (by decide)
  unfold connectedRound
  refine (quietly (by decide) ctrlCRequested_keeps).bind fun ctrlC => (keeps_read _).bind fun control => ?_
  apply keeps_ite (ends 0)
  refine Keeps.bind (quietly (S := [.session]) (by decide) (keeps_log (by simp [Obs.kind]))) fun _ => ?_
  refine (quietly (by decide) (netWaitMany_keeps _ _)).bind fun result => Keeps.bind (keeps_when ?_) fun _ => ?_
  · exact (quietly (by decide) rexxProcess_keeps).bind fun _ => processReload_quietly fun _ hc => hc.reloadRequested
  apply keeps_ite quits
  refine (keeps_read _).bind fun control => keeps_ite (ends 0) (keeps_ite (ends (-1)) (keeps_ite (keeps_pure _) ?_))
  refine (quietly (by decide) (netRecv_keeps _ _)).bind fun received => ?_
  split
  · exact ends (-1)
  · exact ends (-1)
  · exact (sessionFeed_quietly _ _ _ _).bind fun s' => keeps_pure _

theorem runConnectedSession_quietly (botai : BotAi) (sock : Int) :
    Keeps (Quietly Calm) (runConnectedSession botai sock) := by
  unfold runConnectedSession
  refine (setSocket_quietly sock).bind fun _ => (keeps_read _).bind fun control => ?_
  refine Keeps.bind (quietly (S := [.register]) (by decide) (keeps_log (by simp [Obs.kind]))) fun _ => ?_
  refine (modifyControl_quietly fun _ hc => ⟨rfl, hc.quitRequested, hc.reloadRequested⟩).bind fun _ => ?_
  refine (keeps_read _).bind fun config => (quietly (by decide) (ircSendRegistration_keeps _ _ _ _)).bind fun rc => ?_
  apply keeps_ite
  · exact (setSocket_quietly (-1)).bind fun _ => keeps_pure _
  · refine (quietly (by decide) (sendJoins_keeps _ _)).bind fun _ => (keeps_read _).bind fun fuel => ?_
    exact keeps_loop fuel (connectedRound_quietly botai sock) _

/-! ## The loop -/

/-- While nothing is asked, `C` holds of the control block and `X` of the course. -/
abbrev While (C : Control → Prop) (X : Course → Prop) : World → Prop :=
  Given (fun o => o.controls = false) fun w => C w.control ∧ X (courseOf w.trace)

/-- While nothing is asked the delays are those of the backoff. -/
abbrev OnCourse : World → Prop := Given (fun o => o.controls = false) fun w => (courseOf w.trace).Paced

section
variable {C C' : Control → Prop} {X X' : Course → Prop} {α : Type} {m : M α}

theorem While.mono {w : World} (h : While C X w) (hC : ∀ c, C c → C' c) (hX : ∀ s, X s → X' s) : While C' X' w :=
  Given.mono h fun hnow => ⟨hC _ hnow.1, hX _ hnow.2⟩

theorem While.onCourse {w : World} (h : While C X w) (hX : ∀ s, X s → s.Paced) : OnCourse w :=
  Given.mono h fun hnow => hX _ hnow.2

/-- An assertion that some of what the world says rules out. -/
theorem While.absurd {w : World} {G : World → Prop} (h : While C X w) (hno : ¬ C w.control) :
    Given (fun o => o.controls = false) G w := Given.mono h fun hnow => (hno hnow.1).elim

theorem quietly_while (hX : ∀ s, X s → s.dialled = false ∧ s.Paced) (h : Keeps (Quietly C) m) :
    Triple (While C X) m (fun _ => While C X) OnCourse := by
  refine (Keeps.triple (I := While C X) h fun w w' hw hquietly hall => ?_).conseq (fun _ => id) (fun _ _ => id)
    fun w hw => hw.onCourse fun s hs => (hX s hs).2
  obtain ⟨hbefore, hkept⟩ := hquietly hall
  obtain ⟨hc, hx⟩ := hw hbefore
  obtain ⟨hc', heq⟩ := hkept hc (hX _ hx).1
  exact ⟨hc', heq ▸ hx⟩

/-- A Ctrl-C is not noticed while nothing is asked. -/
theorem ctrlCRequested_while :
    Triple (While C X) ctrlCRequested (fun ctrlC => While (fun c => ctrlC = false ∧ C c) X) OnCourse := by
  intro env w hw
  rw [ctrlCRequested_run]
  cases w.breakSignal || env.ctrlC w.tick with
  | true =>
    intro hall
    exact absurd (AllObs.of_log (w := { w with tick := w.tick + 1, breakSignal := true }) hall).2 (by decide)
  | false => exact fun hall => ⟨⟨rfl, (hw hall).1⟩, (hw hall).2⟩

theorem stopped_while {control : Control} :
    Triple (While C X) (if control.quitRequested then pure true else ctrlCRequested) (fun _ => While C X) OnCourse :=
  triple_ite (fun _ => triple_pure fun _ => id) fun _ =>
    ctrlCRequested_while.post fun _ _ hw => hw.mono (fun _ hc => hc.2) fun _ => id

end

theorem owes_owes {ticks seconds : Nat} (s : Course) (h : s.Owes ticks seconds) : s.dialled = false ∧ s.Paced :=
  ⟨h.dialled, h.paced⟩

/-- The loop of `reconnect_delay` waits all the ticks it is given. -/
theorem reconnectDelayFrom_while (seconds n ticks : Nat) (hn : ticks ≤ 5 * n) :
    Triple (While Eager (Course.Owes ticks seconds)) (reconnectDelayFrom n ticks)
      (fun _ => While Eager (Course.Owes 0 seconds)) OnCourse := by
  induction n generalizing ticks with
  | zero =>
    obtain rfl : ticks = 0 := by omega
    exact triple_pure fun _ => id
  | succ n ih =>
    refine getControl_reads.bind fun control => triple_ite (fun hends => ?_) fun _ => ?_
    · refine triple_pure fun w hw hall => ?_
      obtain ⟨heager, howes⟩ := hw.1 hall
      have hzero : ticks = 0 := by simpa [hw.2, heager.connectRequested, heager.quitRequested] using hends
      exact ⟨heager, hzero ▸ howes⟩
    refine (ctrlCRequested_while.pre fun _ hw => hw.1).bind fun ctrlC => triple_ite (fun hctrlC => ?_) fun _ => ?_
    · exact triple_pure fun w hw => hw.absurd fun hc => by simp [hc.1] at hctrlC
    refine Triple.pre (P := While Eager (Course.Owes ticks seconds)) ?_ fun _ hw => hw.mono (fun _ hc => hc.2) fun _ => id
    refine (quietly_while owes_owes (quietly (by decide) rexxProcess_keeps)).bind fun _ => ?_
    refine (quietly_while owes_owes (processReload_quietly fun _ hc => hc.reloadRequested)).bind fun _ => ?_
    refine getControl_reads.bind fun control => triple_ite (fun hends => ?_) fun _ => ?_
    · refine triple_pure fun w hw => hw.1.absurd fun hc => ?_
      simp [hw.2, hc.connectRequested, hc.quitRequested] at hends
    refine Triple.bind (Q := fun _ => While Eager (Course.Owes (ticks - 5) seconds)) (triple_modify fun w hw => ?_) fun _ =>
      ih (ticks - 5) (by omega)
    refine hw.1.log fun _ hnow => ⟨hnow.1, ?_⟩
    exact (courseOf_snoc w.trace _).symm ▸ hnow.2.delay

/-- The session is to connect, and the next delay is `seconds`. -/
abbrev Looping (seconds : Nat) : World → Prop := While Eager fun s => s.dialled = false ∧ s.Ready seconds

theorem reconnectLater_while (seconds : Nat) :
    Triple (While Eager (Course.Owes (50 * seconds) seconds)) (reconnectLater seconds) (Next Looping fun _ => OnCourse)
      OnCourse := by
  refine getControl_reads.bind fun control => triple_ite (fun _ => ?_) fun hnot => ?_
  · have hdelay := reconnectDelayFrom_while seconds (seconds * 50) (50 * seconds) (by omega)
    rw [Nat.mul_comm 50 seconds] at hdelay
    rw [Nat.mul_comm 50 seconds]
    refine (hdelay.pre fun _ hw => hw.1).bind fun _ => triple_pure fun w hw => ?_
    have hnext : Looping (nextBackoff seconds) w := hw.mono (fun _ => id) fun s howes => ⟨howes.dialled, howes.ready⟩
    exact hnext
  · refine triple_pure fun w hw hall => ?_
    have heager := (hw.1 hall).1
    rw [hw.2, heager.connectRequested] at hnot
    exact absurd rfl hnot

/-- After the connect a second is to be waited if it has succeeded, and the
whole delay otherwise. -/
theorem connect_while (host : Bytes) (port seconds : Nat) :
    Triple (While Eager fun s => s.dialled = true ∧ s.Ready seconds) (netConnectIpv4 host port)
      (fun sock => While Eager (Course.Owes (50 * if 0 ≤ sock then 1 else seconds) (if 0 ≤ sock then 1 else seconds)))
      OnCourse := by
  intro env w hw
  have hcontrol := (netConnectIpv4_keeps host port env w).control (by decide)
  obtain ⟨sock, w', hconnect, htrace⟩ := netConnectIpv4_logs host port env w
  rw [hconnect] at hcontrol ⊢
  intro hall
  obtain ⟨heager, hdialled, hready⟩ := hw fun o ho => hall o (by rw [htrace]; exact List.mem_append_left _ ho)
  rw [hcontrol, htrace, courseOf_snoc]
  exact ⟨heager, hready.connect hdialled host port sock⟩

theorem serveConnection_while (botai : BotAi) (sock : Int) :
    Triple (While Calm (Course.Owes 50 1)) (serveConnection botai sock) (Next Looping fun _ => OnCourse) OnCourse := by
  have along {α : Type} {m : M α} (h : Keeps (Quietly Calm) m) :
      Triple (While Calm (Course.Owes 50 1)) m (fun _ => While Calm (Course.Owes 50 1)) OnCourse :=
    quietly_while owes_owes h
  unfold serveConnection
  refine (along (setSocket_quietly sock)).bind fun _ => ?_
  refine (along (quietly (by decide) (emitLifecycle_keeps _ _))).bind fun _ => ?_
  refine (along (runConnectedSession_quietly botai sock)).bind fun rc => ?_
  refine (along (quietly (by decide) (netCloseSocket_keeps _))).bind fun _ => ?_
  refine (along (setSocket_quietly (-1))).bind fun _ => ?_
  refine (along (quietly (by decide) (disconnectReason_keeps rc))).bind fun reason => ?_
  refine (along (quietly (by decide) (emitLifecycle_keeps _ _))).bind fun _ => triple_same.bind fun control => ?_
  refine stopped_while.bind fun stopped => triple_ite (fun _ => ?_) fun _ => ?_
  · exact triple_pure fun w hw => hw.onCourse fun s => Course.Owes.paced
  refine getControl_reads.bind fun control => triple_ite (fun hdisconnect => ?_) fun _ => ?_
  · refine Triple.bind (Q := fun _ => Looping 1) (triple_modify fun w hw hall => ?_) fun _ => triple_pure fun _ => id
    have hcalm := (hw.1 hall).1
    rw [hw.2, hcalm.disconnectRequested] at hdisconnect
    cases hdisconnect
  · refine Triple.bind (Q := fun _ => While Eager (Course.Owes 50 1)) (triple_modify fun w hw hall => ?_) fun _ =>
      reconnectLater_while 1
    obtain ⟨⟨hdisconnect, hquit, hreload⟩, howes⟩ := hw.1 hall
    exact ⟨⟨⟨hdisconnect, hquit, hreload⟩, rfl⟩, howes⟩

theorem sessionRound_while (botai : BotAi) (seconds : Nat) :
    Triple (Looping seconds) (sessionRound botai seconds) (Next Looping fun _ => OnCourse) OnCourse := by
  have stays (s : Course) (h : s.dialled = false ∧ s.Ready seconds) : s.dialled = false ∧ s.Paced := ⟨h.1, h.2.paced⟩
  unfold sessionRound
  refine (quietly_while stays (quietly (by decide) ctrlCRequested_keeps)).bind fun ctrlC => ?_
  refine triple_same.bind fun control => triple_ite (fun _ => ?_) fun _ => ?_
  · exact triple_pure fun w hw => hw.onCourse fun s hs => (stays s hs).2
  refine (quietly_while stays (quietly (by decide) rexxProcess_keeps)).bind fun _ => ?_
  refine (quietly_while stays (processReload_quietly fun _ hc => hc.reloadRequested)).bind fun _ => ?_
  refine getControl_reads.bind fun control => triple_ite (fun hidle => ?_) fun _ => ?_
  · refine Triple.bind (Q := fun _ => Looping seconds) (triple_modify fun w hw hall => ?_) fun _ => triple_pure fun _ => id
    have heager := (hw.1 (AllObs.of_log hall).1).1
    simp [hw.2, heager.connectRequested] at hidle
  refine triple_same.bind fun config => ?_
  refine Triple.bind (Q := fun _ => While Eager fun s => s.dialled = true ∧ s.Ready seconds)
    (triple_modify fun w hw => ?_) fun _ => ?_
  · refine hw.1.log fun _ hnow => ⟨hnow.1, ?_⟩
    rw [World.log, courseOf_snoc]
    exact ⟨rfl, hnow.2.2.follows, hnow.2.2.seconds⟩
  refine (connect_while config.host config.port seconds).bind fun sock => triple_ite (fun hopen => ?_) fun hclosed => ?_
  · rw [if_pos hopen]
    exact (serveConnection_while botai sock).pre fun _ hw => hw.mono (fun _ hc => hc.toCalm) fun _ => id
  · rw [if_neg hclosed]
    exact reconnectLater_while seconds

theorem runSingleNetwork_while (botai : BotAi) :
    Triple (Looping 1) (runSingleNetwork botai) (fun _ => OnCourse) OnCourse := by
  refine triple_same.bind fun fuel => ?_
  refine Triple.bind (triple_loop fuel (sessionRound_while botai)
    (fun _ _ hw => hw.onCourse fun _ hs => hs.2.paced) 1) fun rc => ?_
  exact Triple.bind (Q := fun _ => OnCourse) (triple_modify fun _ hw => hw) fun _ => triple_pure fun _ => id

/-! ## The attempts of the main loop -/

/-- How a turn ends an attempt: the read finds an open network closed, or the
connect leaves a network without a socket. -/
def Turn.attempt (turn : Turn) : Option Attempt :=
  if 0 ≤ turn.before.runtime.sock then
    (if .calling ∈ turn.account.failures then some .lost else none)
  else if turn.after.runtime.sock < 0 then turn.account.connect.map attemptOf
  else none

/-- The attempt with the delay it is retried after. -/
def Turn.retry (turn : Turn) : Option (Attempt × Nat) :=
  turn.attempt.map fun attempt => (attempt, turn.after.runtime.retryWait)

/-- The attempts of network `i` with their delays. -/
def attemptsOf (i : Nat) (ended : List Turn) : List (Attempt × Nat) :=
  (ended.filter (·.index = i)).filterMap Turn.retry

/-- A network is connected again, and then a line of the registration is not
sent. -/
structure Turn.Unregistered (turn : Turn) : Prop where
  again : turn.before.runtime.retryEnabled = true
  connected : ∃ sock, turn.account.connect = some sock ∧ 0 ≤ sock
  unsent : .calling ∈ turn.account.failures

/-- No turn of network `i` is such. -/
def Registers (i : Nat) (ended : List Turn) : Prop := ∀ turn ∈ ended, turn.index = i → ¬ turn.Unregistered

/-- The delay a network is given after an attempt, whatever has come of it. -/
def Slot.nextWait (slot : Slot) : Nat :=
  if slot.runtime.retryEnabled then nextRetryWait slot.runtime.retryWait else 1

/-- A turn that ends an attempt leaves the network to be retried, and every
other turn does not. A network that is connected again is lost in its
registration or not at all. -/
structure Turn.Schedules (turn : Turn) : Prop where
  slot : SlotOk turn.before
  idle : turn.attempt = none → turn.after.runtime.retryEnabled = false
  delayed : ∀ attempt, turn.attempt = some attempt →
    turn.after.AwaitsRetry ∧ turn.after.runtime.retryWait = turn.before.nextWait
  lost : turn.before.runtime.retryEnabled = true → (turn.attempt = some .lost ↔ turn.Unregistered)

/-- The attempts of a network are followed by their delays exactly where it has
been registered whenever it was connected again. The delay of a network that is
to be retried is then the one after its last attempt. -/
structure Slot.Paces (past : List (Attempt × Nat)) (registers : Prop) (slot : Slot) : Prop where
  follows : Follows 30 1 past ↔ registers
  wait : slot.runtime.retryEnabled = true →
    past ≠ [] ∧ (registers → slot.runtime.retryWait = backoff 30 (past.map (·.1)))

/-- Every attempt leaves a retry to come within the bounds, and every network
goes on with its attempts. -/
structure TablePaced (slots : List Slot) (ended : List Turn) : Prop where
  waits : ∀ turn ∈ ended, ∀ attempt, turn.attempt = some attempt →
    turn.after.AwaitsRetry ∧ 1 ≤ turn.after.runtime.retryWait ∧ turn.after.runtime.retryWait ≤ 30
  entry : ∀ (j : Nat) (slot : Slot), slots[j]? = some slot → slot.Paces (attemptsOf j ended) (Registers j ended)
  others : ∀ j, slots.length ≤ j → ∀ turn ∈ ended, turn.index ≠ j

section
variable {turn : Turn} {past : List (Attempt × Nat)} {registers : Prop} {ended : List Turn} {done rest : List Slot}
  {slot slot' : Slot} {a : Account}

theorem attemptsOf_snoc {i : Nat} (h : turn.index = i) :
    attemptsOf i (ended ++ [turn]) = attemptsOf i ended ++ turn.retry.toList := by
  have hone : [turn].filter (·.index = i) = [turn] := by simp [h]
  unfold attemptsOf
  rw [List.filter_append, List.filterMap_append, hone]
  cases hretry : turn.retry <;> simp [hretry]

theorem attemptsOf_other {i : Nat} (h : turn.index ≠ i) : attemptsOf i (ended ++ [turn]) = attemptsOf i ended := by
  simp [attemptsOf, List.filter_append, h]

theorem attemptsOf_none {i : Nat} (h : ∀ turn ∈ ended, turn.index ≠ i) : attemptsOf i ended = [] := by
  have hnone : ended.filter (·.index = i) = [] := List.filter_eq_nil_iff.2 fun turn hturn => by simpa using h turn hturn
  rw [attemptsOf, hnone, List.filterMap_nil]

theorem registers_snoc {i : Nat} (h : turn.index = i) :
    Registers i (ended ++ [turn]) ↔ Registers i ended ∧ ¬ turn.Unregistered := by
  simp [Registers, or_imp, forall_and, h]

theorem registers_other {i : Nat} (h : turn.index ≠ i) : Registers i (ended ++ [turn]) ↔ Registers i ended := by
  simp [Registers, or_imp, forall_and, h]

theorem Turn.Schedules.bounds (h : turn.Schedules) : 1 ≤ turn.before.nextWait ∧ turn.before.nextWait ≤ 30 := by
  unfold Slot.nextWait
  split
  · exact nextRetryWait_bounds (h.slot.wait ‹_›)
  · omega

/-- A network that fails to connect is connected for the first time, or was to
be retried. -/
theorem Slot.Paces.nextWait_failed (hpaces : turn.before.Paces past registers) (hattempt : turn.attempt = some .failed)
    (hfirst : turn.before.runtime.retryEnabled = true ∨ 0 ≤ turn.before.runtime.sock ∨ past = []) (hregisters : registers) :
    turn.before.nextWait = backoff 30 (past.map (·.1) ++ [.failed]) := by
  have hclosed : ¬ 0 ≤ turn.before.runtime.sock := by
    intro hopen
    simp only [Turn.attempt, if_pos hopen] at hattempt
    split at hattempt <;> cases hattempt
  by_cases henabled : turn.before.runtime.retryEnabled = true
  · obtain ⟨hpast, hwait⟩ := hpaces.wait henabled
    rw [Slot.nextWait, if_pos henabled, hwait hregisters, nextRetryWait_eq_nextBackoff,
      nextBackoff_backoff (by simpa using hpast)]
  · obtain rfl : past = [] := (hfirst.resolve_left henabled).resolve_left hclosed
    rw [Slot.nextWait, if_neg henabled]
    exact (backoff_first (by omega)).symm

/-- After a loss the delay is a second, unless it is that of a network that was
to be retried. -/
theorem Turn.Schedules.nextWait_lost (h : turn.Schedules) (hattempt : turn.attempt = some .lost) :
    turn.before.nextWait = backoff 30 (past.map (·.1) ++ [.lost]) ↔ ¬ turn.Unregistered := by
  rw [backoff_lost (by omega)]
  by_cases henabled : turn.before.runtime.retryEnabled = true
  · obtain ⟨hlow, -⟩ := h.slot.wait henabled
    have hmore : nextRetryWait turn.before.runtime.retryWait ≠ 1 := by
      unfold nextRetryWait
      split <;> [split; skip] <;> omega
    rw [Slot.nextWait, if_pos henabled]
    exact iff_of_false hmore (not_not.2 ((h.lost henabled).1 hattempt))
  · rw [Slot.nextWait, if_neg henabled]
    exact iff_of_true rfl fun hunregistered => henabled hunregistered.again

/-- A turn goes on with the past of its network. -/
theorem Slot.Paces.after_turn (hpaces : turn.before.Paces past registers) (hturn : turn.Schedules)
    (hfirst : turn.before.runtime.retryEnabled = true ∨ 0 ≤ turn.before.runtime.sock ∨ past = []) :
    turn.after.Paces (past ++ turn.retry.toList) (registers ∧ ¬ turn.Unregistered) := by
  unfold Turn.retry
  cases hattempt : turn.attempt with
  | none =>
    have hregistered : ¬ turn.Unregistered := by
      intro hunregistered
      have hlost := (hturn.lost hunregistered.again).2 hunregistered
      rw [hattempt] at hlost
      cases hlost
    rw [Option.map_none, Option.toList_none, List.append_nil]
    refine ⟨hpaces.follows.trans (and_iff_left hregistered).symm, fun henabled => ?_⟩
    rw [hturn.idle hattempt] at henabled
    cases henabled
  | some attempt =>
    have hwait := (hturn.delayed attempt hattempt).2
    have hnext (hregisters : registers) :
        turn.before.nextWait = backoff 30 (past.map (·.1) ++ [attempt]) ↔ ¬ turn.Unregistered := by
      cases attempt with
      | lost => exact hturn.nextWait_lost hattempt
      | failed =>
        refine iff_of_true (hpaces.nextWait_failed hattempt hfirst hregisters) fun hunregistered => ?_
        have hlost := (hturn.lost hunregistered.again).2 hunregistered
        rw [hattempt] at hlost
        cases hlost
    rw [Option.map_some, Option.toList_some, hwait]
    refine ⟨?_, fun _ => ⟨by simp, fun hregisters => ?_⟩⟩
    · rw [follows_snoc, hpaces.follows, Nat.one_mul]
      exact and_congr_right hnext
    · rw [hwait, List.map_append, List.map_singleton]
      exact (hnext hregisters.1).2 hregisters.2

theorem TablePaced.follows {slots : List Slot} (h : TablePaced slots ended) (i : Nat) :
    Follows 30 1 (attemptsOf i ended) ↔ Registers i ended := by
  cases hslot : slots[i]? with
  | none =>
    have hnone := h.others i (List.getElem?_eq_none_iff.1 hslot)
    rw [attemptsOf_none hnone]
    exact iff_of_true (follows_nil 30 1) fun turn hturn hindex => absurd hindex (hnone turn hturn)
  | some slot => exact (h.entry i slot hslot).follows

theorem TablePaced.waits_snoc {slots : List Slot} (h : TablePaced slots ended) (hturn : turn.Schedules) :
    ∀ turn' ∈ ended ++ [turn], ∀ attempt, turn'.attempt = some attempt →
      turn'.after.AwaitsRetry ∧ 1 ≤ turn'.after.runtime.retryWait ∧ turn'.after.runtime.retryWait ≤ 30 := by
  refine List.forall_mem_append.2 ⟨h.waits, List.forall_mem_singleton.2 fun attempt hattempt => ?_⟩
  obtain ⟨hretry, hwait⟩ := hturn.delayed attempt hattempt
  exact ⟨hretry, hwait ▸ hturn.bounds⟩

/-- A turn of one network of the table. -/
theorem TablePaced.replace (h : TablePaced (done ++ turn.before :: rest) ended) (hindex : turn.index = done.length)
    (hturn : turn.Schedules) (hfirst : turn.before.runtime.retryEnabled = true ∨ 0 ≤ turn.before.runtime.sock) :
    TablePaced (done ++ turn.after :: rest) (ended ++ [turn]) where
  waits := h.waits_snoc hturn
  entry j slot hslot := by
    by_cases hj : done.length = j
    · subst hj
      obtain rfl : turn.after = slot := by simpa using hslot
      have hpaces := h.entry done.length turn.before (by simp)
      rw [attemptsOf_snoc hindex, registers_snoc hindex]
      exact hpaces.after_turn hturn (hfirst.imp_right .inl)
    · rw [getElem?_middle hj] at hslot
      rw [attemptsOf_other (hindex ▸ hj), registers_other (hindex ▸ hj)]
      exact h.entry j slot hslot
  others j hj := by
    have hlong : (done ++ turn.before :: rest).length ≤ j := by simpa using hj
    refine List.forall_mem_append.2 ⟨h.others j hlong, List.forall_mem_singleton.2 ?_⟩
    rw [List.length_append, List.length_cons] at hlong
    omega

/-- The first turn of a network. -/
theorem TablePaced.snoc (h : TablePaced done ended) (hindex : turn.index = done.length) (hturn : turn.Schedules)
    (hnew : turn.before.runtime.retryEnabled = false) : TablePaced (done ++ [turn.after]) (ended ++ [turn]) where
  waits := h.waits_snoc hturn
  entry j slot hslot := by
    by_cases hj : done.length = j
    · subst hj
      obtain rfl : turn.after = slot := by simpa using hslot
      have hnone := h.others done.length (Nat.le_refl _)
      have hregisters : Registers done.length ended := fun turn hturn heq => absurd heq (hnone turn hturn)
      have hpaces : turn.before.Paces [] (Registers done.length ended) :=
        ⟨iff_of_true (follows_nil 30 1) hregisters, fun henabled => by rw [hnew] at henabled; cases henabled⟩
      rw [attemptsOf_snoc hindex, attemptsOf_none hnone, registers_snoc hindex]
      exact hpaces.after_turn hturn (.inr (.inr rfl))
    · rw [attemptsOf_other (hindex ▸ hj), registers_other (hindex ▸ hj)]
      obtain ⟨hlt, -⟩ := List.getElem?_eq_some_iff.1 hslot
      rw [List.length_append, List.length_singleton] at hlt
      rw [List.getElem?_append_left (by omega)] at hslot
      exact h.entry j slot hslot
  others j hj := by
    rw [List.length_append, List.length_singleton] at hj
    exact List.forall_mem_append.2 ⟨h.others j (by omega), List.forall_mem_singleton.2 (by omega)⟩

/-! ## The turns -/

/-- No turn has ended. -/
def SameTurns (t t' : List Obs) : Prop := (turns t').ended = (turns t).ended

instance : IsPreorder (List Obs) SameTurns where
  refl _ := rfl
  trans _ _ _ h h' := h'.trans h

theorem sameTurns_one (t : List Obs) {o : Obs} (ho : o.kind ≠ .settled) : SameTurns t (t ++ [o]) := by
  unfold SameTurns
  rw [turns_snoc]
  cases o with
  | settled => exact absurd rfl ho
  | _ => rfl

theorem acts_sameTurns {α : Type} {S : List Kind} {m : M α} (hS : Kind.settled ∉ S) (h : Keeps (Acts S) m) :
    Keeps (Along SameTurns) m := acts_along (fun t _ ho => sameTurns_one t fun hsettled => hS (hsettled ▸ ho)) h

/-- A turn ends with an account of what it has done. -/
theorem takeTurn_ends {i : Nat} {step : M (Counters × Slot)} {Q : Counters × Slot → Account → Prop}
    (hkeeps : Keeps (Along SameTurns) step) (h : Turned (fun _ => True) i slot (· = accountInit) step Q) :
    Triple (fun w => (turns w.trace).ended = ended) (takeTurn i slot step)
      (fun r w => ∃ a, Q r a ∧
        (turns w.trace).ended = ended ++ [{ index := i, before := slot, account := a, after := r.2 }])
      fun w => (turns w.trace).ended = ended := by
  have hstep : Triple (fun w => (turns w.trace).ended = ended) step (fun _ w => (turns w.trace).ended = ended)
      fun w => (turns w.trace).ended = ended := Keeps.triple hkeeps fun _ _ hw hsame => hsame.trans hw
  unfold takeTurn
  refine Triple.bind (Q := fun _ w => (turns w.trace).ended = ended ∧
    During (fun _ => True) i slot (· = accountInit) w.trace) (triple_modify fun w hw => ?_) fun _ => ?_
  · have hjudged : Judged (fun _ => True) w.trace := fun _ _ => trivial
    exact ⟨(sameTurns_one w.trace (by simp [Obs.kind])).trans hw, hjudged.turn⟩
  refine ((hstep.both h).conseq (fun _ => id) (fun _ _ => id) fun _ hw => hw.1).bind fun r => ?_
  obtain ⟨c, slot'⟩ := r
  refine Triple.bind (Q := fun _ w => ∃ a, Q (c, slot') a ∧
    (turns w.trace).ended = ended ++ [{ index := i, before := slot, account := a, after := slot' }])
    (triple_modify fun w hw => ?_) fun _ => triple_pure fun _ => id
  obtain ⟨hended, -, a, hcurrent, ha⟩ := hw
  refine ⟨a, ha, ?_⟩
  rw [World.log, turns_snoc, ← hended]
  simp [Turns.add, hcurrent]

theorem Turn.Schedules.of_attempt {attempt : Attempt} (hslot : SlotOk turn.before) (h : turn.attempt = some attempt)
    (hretry : turn.after.AwaitsRetry) (hwait : turn.after.runtime.retryWait = turn.before.nextWait)
    (hlost : turn.before.runtime.retryEnabled = true → (attempt = .lost ↔ turn.Unregistered)) : turn.Schedules := by
  refine ⟨hslot, fun hnone => ?_, fun _ _ => ⟨hretry, hwait⟩, fun henabled => ?_⟩
  · rw [h] at hnone
    cases hnone
  · rw [h, Option.some_inj]
    exact hlost henabled

theorem Turn.Schedules.of_none (hslot : SlotOk turn.before) (h : turn.attempt = none)
    (hdisabled : turn.after.runtime.retryEnabled = false)
    (hunsent : turn.before.runtime.retryEnabled = true → .calling ∉ turn.account.failures) : turn.Schedules := by
  refine ⟨hslot, fun _ => hdisabled, fun attempt hsome => ?_, fun henabled => ?_⟩
  · rw [h] at hsome
    cases hsome
  · rw [h]
    exact iff_of_false nofun fun hunregistered => hunsent henabled hunregistered.unsent

/-- A connect of a network without a socket is to be tried again. -/
theorem Turn.Schedules.of_failed {config : NetworkConfig} (hslot : SlotOk turn.before)
    (hclosed : turn.before.runtime.sock = -1) (h : Connected config .retry turn.account)
    (hretry : turn.after.AwaitsRetry) (hwait : turn.after.runtime.retryWait = turn.before.nextWait) :
    turn.Schedules := by
  obtain ⟨-, sock, hconnect, hfailures⟩ := h
  have hattempt : turn.attempt = some (attemptOf sock) := by simp [Turn.attempt, hclosed, hretry.1, hconnect]
  refine .of_attempt hslot hattempt hretry hwait fun henabled => ?_
  by_cases hopen : 0 ≤ sock
  · rw [attemptOf, if_pos hopen]
    exact iff_of_true rfl ⟨henabled, ⟨sock, hconnect, hopen⟩, by simp [hfailures, hopen]⟩
  · rw [attemptOf, if_neg hopen]
    refine iff_of_false nofun fun hunregistered => ?_
    have hunsent := hunregistered.unsent
    rw [hfailures, if_neg hopen] at hunsent
    exact absurd hunsent List.not_mem_nil

/-- A connect has opened the network. -/
theorem Turn.Schedules.of_connected {config : NetworkConfig} (hslot : SlotOk turn.before)
    (hclosed : turn.before.runtime.sock = -1) (h : Connected config .ok turn.account) (hopen : 0 ≤ turn.after.runtime.sock)
    (hdisabled : turn.after.runtime.retryEnabled = false) : turn.Schedules := by
  have hattempt : turn.attempt = none := by simp [Turn.attempt, hclosed, not_lt.2 hopen]
  exact .of_none hslot hattempt hdisabled fun _ hunsent => absurd (h.2 _ hunsent) (by decide)

/-- A network with an invalid profile is not connected. -/
theorem Turn.Schedules.of_invalid {config : NetworkConfig} (hslot : SlotOk turn.before)
    (hclosed : turn.before.runtime.sock = -1) (h : Connected config .permanent turn.account)
    (hdisabled : turn.after.runtime.retryEnabled = false) : turn.Schedules := by
  have hattempt : turn.attempt = none := by simp [Turn.attempt, hclosed, h.2, accountInit]
  exact .of_none hslot hattempt hdisabled fun _ hunsent => by simp [h.2, accountInit] at hunsent

theorem Turn.Schedules.of_read (hslot : SlotOk turn.before) (hopen : 0 ≤ turn.before.runtime.sock)
    (h : ReadEnd turn.before.runtime.config turn.after turn.account) : turn.Schedules := by
  have hdisabled := hslot.exclusive hopen
  have never {p : Prop} (henabled : turn.before.runtime.retryEnabled = true) : p := by
    rw [hdisabled] at henabled
    cases henabled
  have goesOn (hcalling : .calling ∉ turn.account.failures) : turn.attempt = none := by
    rw [Turn.attempt, if_pos hopen, if_neg hcalling]
  cases h with
  | lost hfailures _ hretry hwait =>
    have hattempt : turn.attempt = some .lost := by simp [Turn.attempt, hopen, hfailures]
    refine .of_attempt hslot hattempt hretry ?_ never
    rw [hwait, Slot.nextWait, hdisabled]
    rfl
  | ongoing hongoing =>
    refine .of_none hslot (goesOn fun hmem => ?_) hongoing.retryEnabled never
    cases hongoing.account.failures _ hmem
  | dropped hdropped =>
    refine .of_none hslot (goesOn fun hmem => ?_) hdropped.retryEnabled never
    rcases hdropped.account.failures _ hmem with hphase | hphase <;> cases hphase

/-- Some table goes with the turns. -/
abbrev SomePaced (w : World) : Prop := ∃ slots, TablePaced slots (turns w.trace).ended

/-- A turn is added to the others, and its network to the table. -/
theorem takeTurn_paced {i : Nat} {step : M (Counters × Slot)} {slots : List Slot} {f : Slot → List Slot}
    (hkeeps : Keeps (Along SameTurns) step)
    (h : Turned (fun _ => True) i slot (· = accountInit) step
      fun r a => Turn.Schedules { index := i, before := slot, account := a, after := r.2 })
    (htable : ∀ ended turn, turn.index = i → turn.before = slot → turn.Schedules → TablePaced slots ended →
      TablePaced (f turn.after) (ended ++ [turn])) :
    Triple (fun w => TablePaced slots (turns w.trace).ended) (takeTurn i slot step)
      (fun r w => TablePaced (f r.2) (turns w.trace).ended) SomePaced := by
  intro env w hw
  have hturn := takeTurn_ends hkeeps h env w rfl
  split at hturn
  · rename_i r w' _
    obtain ⟨a, hschedules, hended⟩ := hturn
    show TablePaced (f r.2) (turns w'.trace).ended
    rw [hended]
    exact htable _ { index := i, before := slot, account := a, after := r.2 } rfl rfl hschedules hw
  · rename_i w' _
    exact ⟨slots, hturn ▸ hw⟩

theorem startNetwork_paced (done : List Slot) (c : Counters) (config : NetworkConfig) :
    Triple (fun w => TablePaced done (turns w.trace).ended) (startNetwork done.length c config)
      (fun r w => TablePaced (done ++ [r.2]) (turns w.trace).ended) SomePaced := by
  refine takeTurn_paced (f := fun slot => done ++ [slot]) ?_ ?_ fun ended turn hindex hbefore hturn h => ?_
  · refine (acts_sameTurns (by decide) (connectRuntime_keeps _)).bind fun r => ?_
    obtain ⟨result, runtime⟩ := r
    cases result with
    | ok => exact keeps_pure _
    | retry => exact Keeps.bind (acts_sameTurns (S := []) (by simp) (keeps_ask _)) fun _ => keeps_pure _
    | permanent => exact keeps_pure _
  · have hslot : SlotOk { runtime := runtimeInit config, socket := -1 } := by
      constructor <;> simp [runtimeInit]
    refine ((connectRuntime_turned _).returns (connectRuntime_returns rfl)).bind fun r => triple_fact fun hr => ?_
    obtain ⟨result, runtime⟩ := r
    obtain ⟨hok, hfailed, -, hsame, -⟩ := hr
    cases result with
    | ok => exact triple_pure fun w hw => hw.mono fun a ha => .of_connected hslot rfl ha (hok rfl) hsame
    | retry =>
      refine (ask_turned _).bind fun now => triple_pure fun w hw => hw.mono fun a ha => .of_failed hslot rfl ha ?_ rfl
      have hclosed : runtime.sock = -1 := hfailed (by simp)
      simp [Slot.awaitsRetry_iff, hclosed]
    | permanent => exact triple_pure fun w hw => hw.mono fun a ha => .of_invalid hslot rfl ha hsame
  · exact h.snoc hindex hturn (by rw [hbefore]; rfl)

theorem retryNetwork_paced (now : Int) (done rest : List Slot) (c : Counters) {slot : Slot} (hslot : SlotOk slot) :
    Triple (fun w => TablePaced (done ++ slot :: rest) (turns w.trace).ended) (retryNetwork now done.length c slot)
      (fun r w => TablePaced (done ++ r.2 :: rest) (turns w.trace).ended) SomePaced := by
  unfold retryNetwork
  refine triple_ite (fun _ => triple_pure fun _ => id) fun hdue => ?_
  have henabled := retryEnabled_of_due hdue
  have hminus := hslot.closed henabled
  refine takeTurn_paced (f := fun slot => done ++ slot :: rest) ?_ ?_ fun ended turn hindex hbefore hturn h => ?_
  · have hdecrement := acts_sameTurns (by decide) (decrement_keeps c.retrying)
    refine (acts_sameTurns (by decide) (connectRuntime_keeps _)).bind fun r => ?_
    obtain ⟨result, runtime⟩ := r
    cases result with
    | ok => exact hdecrement.bind fun _ => (setFirstSocket_along _ _).bind fun _ => keeps_pure _
    | retry => exact keeps_pure _
    | permanent => exact hdecrement.bind fun _ => keeps_pure _
  · refine ((connectRuntime_turned _).returns (connectRuntime_returns hminus)).bind fun r => triple_fact fun hr => ?_
    obtain ⟨result, runtime⟩ := r
    obtain ⟨hok, hfailed, -, hsame, hwait⟩ := hr
    cases result with
    | ok =>
      refine (untold_turned (by decide) (decrement_keeps _)).bind fun _ => ?_
      refine (setFirstSocket_turned _ _).bind fun _ => ?_
      exact triple_pure fun w hw => hw.mono fun a ha => .of_connected hslot hminus ha (hok rfl) rfl
    | permanent =>
      refine (untold_turned (by decide) (decrement_keeps _)).bind fun _ => ?_
      exact triple_pure fun w hw => hw.mono fun a ha => .of_invalid hslot hminus ha rfl
    | retry =>
      refine triple_pure fun w hw => hw.mono fun a ha => .of_failed hslot hminus ha ?_ ?_
      · have hclosed : runtime.sock = -1 := hfailed nofun
        have hsocket : slot.socket = -1 := hslot.socket.trans hminus
        have hretry : runtime.retryEnabled = true := hsame.trans henabled
        simp [Slot.awaitsRetry_iff, hclosed, hsocket, hretry]
      · rw [Slot.nextWait, if_pos henabled]
        exact congrArg nextRetryWait hwait
  · rw [← hbefore] at h henabled
    exact h.replace hindex hturn (.inl henabled)

theorem receiveNetwork_paced (botai : BotAi) (ready : List Bool) (done rest : List Slot) (c : Counters) {slot : Slot}
    (hslot : SlotOk slot) :
    Triple (fun w => TablePaced (done ++ slot :: rest) (turns w.trace).ended)
      (receiveNetwork botai ready done.length c slot)
      (fun r w => TablePaced (done ++ r.2 :: rest) (turns w.trace).ended) SomePaced := by
  unfold receiveNetwork
  refine triple_ite (fun _ => triple_pure fun _ => id) fun hready => ?_
  have hopen := isOpen_of_ready hready
  refine takeTurn_paced (f := fun slot => done ++ slot :: rest) ?_ ?_ fun ended turn hindex hbefore hturn h => ?_
  · exact receiveNetwork_step_along (fun t o ho => sameTurns_one t fun hsettled => absurd (hsettled ▸ ho) (by decide))
      botai done.length c slot
  · exact (receiveNetwork_step_turned botai _ c hslot hopen).post fun r w hw => hw.mono fun a hend => .of_read hslot hopen hend
  · rw [← hbefore] at h hopen
    exact h.replace hindex hturn (.inr hopen)

theorem paced_turnByTurn : TurnByTurn fun slots t => TablePaced slots (turns t).ended where
  plain slots t o ho ht := by
    have hsame : (turns (t ++ [o])).ended = (turns t).ended :=
      sameTurns_one t fun hsettled => absurd (hsettled ▸ ho) (by decide)
    rwa [hsame]
  start done c config := startNetwork_paced done c config
  retry now done rest c _ hslot := retryNetwork_paced now done rest c hslot
  receive botai ready done rest c _ hslot := receiveNetwork_paced botai ready done rest c hslot

end

/-! ## The clock -/

/-- A network that is to be retried is due its delay after a reading of the
clock. -/
def Slot.Clocked (env : Env) (slot : Slot) : Prop :=
  slot.runtime.retryEnabled = true → ∃ n, slot.runtime.retryAt = env.time n + slot.runtime.retryWait

section
variable {i : Nat} {c : Counters} {env : Env} {w w' : World} {r : Counters × Slot}

theorem startNetwork_clocked {config : NetworkConfig} (h : startNetwork i c config env w = (.ok r, w')) :
    r.2.Clocked env := by
  obtain ⟨-, w₁, -, h⟩ := bind_eq_ok.1 h
  obtain ⟨r', w₂, hstep, h⟩ := bind_eq_ok.1 h
  obtain ⟨-, w₃, -, h⟩ := bind_eq_ok.1 h
  cases h
  obtain ⟨⟨result, runtime⟩, w₄, hconnect, hstep⟩ := bind_eq_ok.1 hstep
  have hdisabled : runtime.retryEnabled = false := (connectRuntime_returns rfl _ _ _ _ hconnect).retryEnabled
  cases result with
  | ok =>
    cases hstep
    exact fun henabled => absurd (hdisabled.symm.trans henabled) (by decide)
  | permanent =>
    cases hstep
    exact fun henabled => absurd (hdisabled.symm.trans henabled) (by decide)
  | retry =>
    obtain ⟨now, w₅, hask, hstep⟩ := bind_eq_ok.1 hstep
    cases hask
    cases hstep
    exact fun _ => ⟨w₄.tick, rfl⟩

theorem loseNetwork_clocked {slot : Slot} (h : loseNetwork i c slot env w = (.ok r, w')) : r.2.Clocked env := by
  obtain ⟨-, w₁, -, h⟩ := bind_eq_ok.1 h
  obtain ⟨-, w₂, -, h⟩ := bind_eq_ok.1 h
  obtain ⟨now, w₃, hask, h⟩ := bind_eq_ok.1 h
  cases hask
  cases h
  exact fun _ => ⟨w₂.tick, rfl⟩

theorem retryNetwork_clocked {now : Int} {slot : Slot} (hdue : due now slot.runtime = true)
    (h : retryNetwork now i c slot env w = (.ok r, w')) (henabled : r.2.runtime.retryEnabled = true) :
    r.2.runtime.retryAt = now + r.2.runtime.retryWait := by
  have hclocked : Returns (retryNetwork now i c slot) fun r =>
      r.2.runtime.retryEnabled = true → r.2.runtime.retryAt = now + r.2.runtime.retryWait := by
    unfold retryNetwork
    refine returns_ite (fun hnot => ?_) fun _ => takeTurn_returns (returns_bind fun r => ?_)
    · simp [hdue] at hnot
    obtain ⟨result, runtime⟩ := r
    cases result with
    | ok => exact returns_bind fun _ => returns_bind fun _ => returns_pure nofun
    | permanent => exact returns_bind fun _ => returns_pure nofun
    | retry => exact returns_pure fun _ => rfl
  exact hclocked env w r w' h henabled

end

/-! ## Both loops -/

/-- The delays of a loop, in units that make a second of `second`. -/
structure BackedOff (second : Nat) (past : List (Attempt × Nat)) : Prop where
  follows : Follows 30 second past
  bounds : ∀ entry ∈ past, second ≤ entry.2 ∧ entry.2 ≤ second * 30

theorem BackedOff.of_follows {second : Nat} {past : List (Attempt × Nat)} (h : Follows 30 second past) :
    BackedOff second past := ⟨h, fun _ hentry => h.bounds (by omega) hentry⟩

theorem backedOff_iff (second : Nat) (past : List (Attempt × Nat)) : BackedOff second past ↔ Follows 30 second past :=
  ⟨BackedOff.follows, .of_follows⟩

/-- While nothing is asked of it the single-network loop waits the delay of
every attempt that is over, fifty ticks to a second, and no longer after the
last one. In the main loop every attempt leaves its network to be retried,
within the bounds and counted from the clock. The delays of a network are those
of the same backoff, and the same after the same attempts, exactly where it is
registered whenever it is connected again. -/
theorem reconnects_backOff_iff (networks : Networks) (botai : BotAi) (env env' : Env) (w w' : World) :
    let trace := (runSingleNetwork botai env (w.setControl controlInit).begin).2.trace
    let course := courseOf trace
    let ended := (turns (multinetRun networks botai env' w'.begin).2.trace).ended
    ((∀ o ∈ trace, o.controls = false) →
      BackedOff 50 course.ended ∧
        (∀ attempt waited, course.last = some (attempt, waited) →
          waited ≤ 50 * backoff 30 (course.ended.map (·.1) ++ [attempt])) ∧
        ∀ i, course.ended.map (·.1) = (attemptsOf i ended).map (·.1) →
          (course.ended.map (·.2) = (attemptsOf i ended).map (50 * ·.2) ↔ Registers i ended)) ∧
    (∀ i, BackedOff 1 (attemptsOf i ended) ↔ Registers i ended) ∧
    (∀ turn ∈ ended, ∀ attempt, turn.attempt = some attempt →
      turn.after.AwaitsRetry ∧ 1 ≤ turn.after.runtime.retryWait ∧ turn.after.runtime.retryWait ≤ 30) ∧
    (∀ i c config w r w', startNetwork i c config env' w = (.ok r, w') → r.2.Clocked env') ∧
    (∀ i c slot w r w', loseNetwork i c slot env' w = (.ok r, w') → r.2.Clocked env') ∧
    (∀ now i c slot w r w', due now slot.runtime = true → retryNetwork now i c slot env' w = (.ok r, w') →
      r.2.runtime.retryEnabled = true → r.2.runtime.retryAt = now + r.2.runtime.retryWait) := by
  intro trace course ended
  have htable : ∃ slots, TablePaced slots ended := by
    have hbegin : TablePaced [] (turns w'.begin.trace).ended :=
      ⟨fun _ hturn => absurd hturn List.not_mem_nil, by simp, fun _ _ _ hturn => absurd hturn List.not_mem_nil⟩
    exact (paced_turnByTurn.run networks botai).all (fun _ _ => id) (fun _ => id) hbegin
  obtain ⟨slots, htable⟩ := htable
  refine ⟨fun huncontrolled => ?_, fun i => (backedOff_iff 1 _).trans (htable.follows i), htable.waits,
    fun i c config w r w' => startNetwork_clocked, fun i c slot w r w' => loseNetwork_clocked,
    fun now i c slot w r w' => retryNetwork_clocked⟩
  have hinit : Looping 1 (w.setControl controlInit).begin :=
    fun _ => ⟨⟨⟨rfl, rfl, rfl⟩, rfl⟩, rfl, follows_nil 30 50, (backoff_first (by omega)).symm⟩
  have hpaced : course.Paced := (runSingleNetwork_while botai).all (fun _ _ => id) (fun _ => id) hinit huncontrolled
  refine ⟨.of_follows hpaced.ended, hpaced.last, fun i hsame => ?_⟩
  rw [← htable.follows i]
  exact follows_same (by omega) hsame hpaced.ended

/-- A server that is never there: in both loops the second attempt comes a
second after the first, the third two seconds after it. -/
theorem reconnects_backOff_silent :
    let env := { Env.silent with fuel := 3, time := fun tick => 100 * tick }
    let course := courseOf (runSingleNetwork botaiInit env ((worldInit oneServer).setControl controlInit).begin).2.trace
    let past := attemptsOf 0 (turns (multinetRun oneNetwork botaiInit env (worldInit configInit).begin).2.trace).ended
    course.attempts = [(.failed, 50), (.failed, 100), (.failed, 200)] ∧ BackedOff 50 course.ended ∧
      past.take 3 = [(.failed, 1), (.failed, 2), (.failed, 4)] ∧ BackedOff 1 past := by
  intro env course past
  have huncontrolled : (runSingleNetwork botaiInit env
      ((worldInit oneServer).setControl controlInit).begin).2.trace.all (fun o => !o.controls) = true := by decide +kernel
  have hclosed : (turns (multinetRun oneNetwork botaiInit env (worldInit configInit).begin).2.trace).ended.all
      (fun turn => turn.account.failures = []) = true := by decide +kernel
  obtain ⟨hsingle, hmain, -⟩ := reconnects_backOff_iff oneNetwork botaiInit env env (worldInit oneServer) (worldInit configInit)
  refine ⟨by decide +kernel, (hsingle fun o ho => ?_).1, by decide +kernel, (hmain 0).2 fun turn hturn _ hunregistered => ?_⟩
  · simpa using List.all_eq_true.1 huncontrolled o ho
  · have hnone : turn.account.failures = [] := by simpa using List.all_eq_true.1 hclosed turn hturn
    exact absurd (hnone ▸ hunregistered.unsent) List.not_mem_nil

/-- A server that takes connections and nothing else: every attempt is lost in
its registration. The single-network loop connects every second, and the delay
of the network in the main loop doubles. -/
theorem reconnects_backOff_unregistered :
    let env := { Env.online with fuel := 3, time := fun tick => 100 * tick, send := fun _ => -1 }
    let course := courseOf (runSingleNetwork botaiInit env ((worldInit oneServer).setControl controlInit).begin).2.trace
    let past := attemptsOf 0 (turns (multinetRun oneNetwork botaiInit env (worldInit configInit).begin).2.trace).ended
    course.attempts = [(.lost, 50), (.lost, 50), (.lost, 50)] ∧
      past.take 3 = [(.lost, 1), (.lost, 2), (.lost, 4)] ∧ ¬ BackedOff 1 past := by
  intro env course past
  have hpast : past.map (·.2) ≠ (delays 30 (past.map (·.1))).map (1 * ·) := by decide +kernel
  exact ⟨by decide +kernel, by decide +kernel, fun h => hpast h.follows⟩

end AmBot
