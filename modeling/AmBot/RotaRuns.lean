import AmBot.Machines
import AmBot.Rota
/-!
# Every run keeps the rota

What the main loop logs is a run of the scheduler: each sweep takes the
networks off the agenda in the order of the table, passing over those that are
not on it, and when the round ends nothing is left there.
-/

namespace AmBot

open RunLib RunLib.Prog

variable {α : Type} {start s s' : Rota} {t : List Obs} {o : Obs}

/-! ## In a turn and out of one -/

/-- The kinds that leave the scheduler alone in a turn. -/
abbrev inTurn : List Kind :=
  [.connect, .send, .recv, .close, .wait, .rexx, .script, .underflow, .event, .dial, .join, .line, .negotiated]

theorem rotaStep_inTurn {i : Nat} (hturn : s.turn = some i) (ho : o.kind ∈ inTurn) : rotaStep s o = some s := by
  cases o <;> simp [Obs.kind] at ho <;> simp [rotaStep, hturn]

theorem rotaStep_anywhere (ho : o.kind ∈ [.send, .rexx, .close, .ctrlC]) : rotaStep s o = some s := by
  cases o <;> simp [Obs.kind] at ho <;> rfl

theorem acts_inTurn {i : Nat} {S : List Kind} {m : M α} (hturn : s.turn = some i) (hS : S ⊆ inTurn)
    (h : Keeps (Acts S) m) : Stays rotaStep start t s m :=
  acts_stays (fun _ ho => rotaStep_inTurn hturn (hS ho)) h

theorem acts_anywhere {S : List Kind} {m : M α} (hS : S ⊆ [.send, .rexx, .close, .ctrlC]) (h : Keeps (Acts S) m) :
    Stays rotaStep start t s m :=
  acts_stays (fun _ ho => rotaStep_anywhere (hS ho)) h

theorem rotaStep_iteration (slots : List Slot) (active retrying : Nat) (control : Control) :
    rotaStep (.rest slots) (.iteration slots active retrying control) = some (.rest slots) := if_pos rfl

theorem rotaStep_opened (slots : List Slot) (control : Control) :
    rotaStep (.rest slots) (.opened slots control) = some (.rest slots) := if_pos rfl

theorem rotaStep_woken (result : WaitResult) (slots : List Slot) (control : Control) :
    rotaStep (.rest slots) (.woken result slots control) = some ((Rota.rest slots).wake result control) := if_pos rfl

theorem rotaStep_wait (slots : List Slot) (timeout : Option Nat) :
    rotaStep (.rest slots) (.wait (slots.map (·.socket)) timeout) = some (.rest slots) := if_pos (.inr ⟨rfl, rfl⟩)

/-! ## Turns -/

section Turns
variable {i : Nat} (hturn : s.turn = some i)
include hturn

theorem startNetwork_step (config : NetworkConfig) (c : Counters) : Stays rotaStep start t s (do
    let (result, runtime) ← connectRuntime (runtimeInit config)
    match result with
    | .ok => pure ({ c with active := c.active + 1 }, { runtime, socket := runtime.sock })
    | .retry => do
      let now ← ask Env.time
      let runtime := { runtime with retryEnabled := true, retryWait := 1, retryAt := now + 1 }
      pure ({ c with retrying := c.retrying + 1 }, { runtime, socket := runtime.sock })
    | .permanent => pure (c, { runtime, socket := runtime.sock }) : M (Counters × Slot)) := by
  apply acts_inTurn hturn (S := [.dial, .connect, .send, .join, .close]) (by decide)
  refine (connectRuntime_keeps _).bind fun r => ?_
  obtain ⟨result, runtime⟩ := r
  cases result with
  | ok => exact keeps_pure _
  | retry => exact (keeps_ask _).bind fun now => keeps_pure _
  | permanent => exact keeps_pure _

theorem retryNetwork_step (now : Int) (j : Nat) (c : Counters) (slot : Slot) : Stays rotaStep start t s (do
    let (result, runtime) ← connectRuntime slot.runtime
    match result with
    | .ok => do
      let retrying ← decrement c.retrying
      setFirstSocket j runtime.sock
      pure ({ active := c.active + 1, retrying },
        { runtime := { runtime with retryEnabled := false }, socket := runtime.sock })
    | .permanent => do
      let retrying ← decrement c.retrying
      pure ({ c with retrying }, { slot with runtime := { runtime with retryEnabled := false } })
    | .retry =>
      let wait := nextRetryWait runtime.retryWait
      pure (c, { slot with runtime := { runtime with retryWait := wait, retryAt := now + wait } }) :
    M (Counters × Slot)) := by
  have counts (n : Nat) : Stays rotaStep start t s (decrement n) := acts_inTurn hturn (by decide) (decrement_keeps n)
  refine Keeps.bind (acts_inTurn hturn (by decide) (connectRuntime_keeps _)) fun r => ?_
  obtain ⟨result, runtime⟩ := r
  cases result with
  | ok => exact (counts _).bind fun retrying => (setFirstSocket_along j _).bind fun _ => keeps_pure _
  | permanent => exact (counts _).bind fun retrying => keeps_pure _
  | retry => exact keeps_pure _

theorem receiveNetwork_step (botai : BotAi) (j : Nat) (c : Counters) (slot : Slot) : Stays rotaStep start t s (do
    let received ← netRecv slot.runtime.sock multinetRecvBuffer
    match received with
    | none => loseNetwork j c slot
    | some [] => loseNetwork j c slot
    | some data => feedNetwork botai j c slot data) := by
  have lose : Stays rotaStep start t s (loseNetwork j c slot) := by
    refine Keeps.bind (acts_inTurn hturn (by decide) (netCloseSocket_keeps _)) fun _ => ?_
    refine (setFirstSocket_along j _).bind fun _ => Keeps.bind ?_ fun now => keeps_pure _
    exact acts_inTurn hturn (S := []) (by simp) (keeps_ask _)
  refine Keeps.bind (acts_inTurn hturn (by decide) (netRecv_keeps _ _)) fun received => ?_
  split
  · exact lose
  · exact lose
  · have feed := framerFeed_keeps (multinetHandleLine_keeps botai)
    refine Keeps.bind (acts_inTurn hturn (by decide) (feed _ slot.runtime.framer slot.runtime)) fun r => ?_
    obtain ⟨framer, runtime⟩ := r
    exact keeps_ite ((setFirstSocket_along j _).bind fun _ => keeps_pure _) (keeps_pure _)

end Turns

/-- The first network of the agenda is served. -/
theorem takeTurn_takesTo {done rest : List Slot} {slot : Slot} {agenda : List Nat} {step : M (Counters × Slot)}
    (h : ∀ {s : Rota}, s.turn = some done.length → Stays rotaStep start t s step) :
    TakesTo rotaStep start t
      { table := done ++ slot :: rest, agenda := done.length :: agenda, turn := none, looked := true }
      (takeTurn done.length slot step)
      fun r => { table := done ++ r.2 :: rest, agenda, turn := none, looked := true } := by
  let taken : Rota := { table := done ++ slot :: rest, agenda, turn := some done.length, looked := true }
  have hturn : rotaStep { table := done ++ slot :: rest, agenda := done.length :: agenda, turn := none, looked := true }
      (.turn done.length slot) = some taken := if_pos (by simp)
  refine (log_takesTo hturn).bind fun _ => (h (s := taken) rfl).takesTo.bind fun r => ?_
  obtain ⟨c, slot'⟩ := r
  have hsettled : rotaStep taken (.settled done.length slot') =
      some { table := done ++ slot' :: rest, agenda, turn := none, looked := true } := by
    rw [rotaStep, if_pos rfl, List.set_append_right _ _ le_rfl, Nat.sub_self, List.set_cons_zero]
  exact (log_takesTo hsettled).bind fun _ => triple_pure fun _ => id

/-! ## The first connects -/

theorem start_takesTo (configs : List NetworkConfig) :
    Triple (fun w => Tells rotaStep start t
        { table := configs.map freshSlot, agenda := List.range' 0 configs.length, turn := none, looked := true } w.trace)
      (sweep startNetwork 0 { active := 0, retrying := 0 } configs)
      (fun r w => Bookkeeping r.2 r.1.active r.1.retrying ∧ Tells rotaStep start t (.rest r.2) w.trace)
      (Told rotaStep start t) := by
  have h := triple_sweep (f := startNetwork) (S := Told rotaStep start t)
    (I := fun done c rest w => Bookkeeping done c.active c.retrying ∧ Tells rotaStep start t
      { table := done ++ rest.map freshSlot, agenda := List.range' done.length rest.length, turn := none, looked := true }
      w.trace)
    (fun done c config rest => triple_fact fun hb => ?_) { active := 0, retrying := 0 } configs
  · refine h.conseq (fun w hw => ⟨⟨by simp, rfl, rfl⟩, hw⟩) (fun r w hr => ⟨hr.1, ?_⟩) fun _ => id
    simpa [Rota.rest] using hr.2
  · have hturn : TakesTo rotaStep start t
        { table := done ++ freshSlot config :: rest.map freshSlot
          agenda := done.length :: List.range' (done.length + 1) rest.length, turn := none, looked := true }
        (startNetwork done.length c config) _ := takeTurn_takesTo fun hturn => startNetwork_step hturn config c
    refine (hturn.returns (startNetwork_returns done.length c config)).post fun r w hr => ?_
    obtain ⟨⟨hslot, hactive, hretrying⟩, hw⟩ := hr
    rw [hactive, hretrying]
    exact ⟨hb.snoc hslot, by simpa using hw⟩

/-! ## A round -/

theorem netWaitMany_ready (socks : List Int) (timeout : Option Nat) :
    Returns (netWaitMany socks timeout) fun result => ∃ answer, result.ready = readyBits answer socks :=
  returns_bind fun _ => returns_bind fun answer => returns_bind fun _ => returns_bind fun _ => returns_pure ⟨answer, rfl⟩

theorem noReconnects_iff {slots : List Slot} {active retrying : Nat} (h : Bookkeeping slots active retrying) :
    noReconnects slots = true ↔ retrying = 0 := by
  rw [h.retrying, List.countP_eq_zero, noReconnects, List.all_eq_true]
  simp

/-- A network that is due has no socket, so its socket is not ready. -/
theorem agenda_nodup {slots : List Slot} {ready : List Bool} (hslots : ∀ slot ∈ slots, SlotOk slot)
    (hready : OpenWhereReady ready 0 slots) (now : Int) :
    (dueNetworks now slots ++ readyNetworks ready slots).Nodup := by
  rw [List.nodup_append]
  refine ⟨nodup_picked, nodup_picked, ?_⟩
  rintro i hdue j hopen rfl
  obtain ⟨k, slot, hk, hslot, hsdue⟩ := mem_picked.1 hdue
  obtain ⟨k', slot', hk', hslot', hsready⟩ := mem_picked.1 hopen
  obtain rfl : k = k' := by omega
  obtain rfl : slot = slot' := Option.some.inj (hslot.symm.trans hslot')
  rw [hk] at hsready
  have hsock := hready k slot hslot hsready
  simp only [isDue, due, Bool.and_eq_true] at hsdue
  have hclosed := (hslots slot (List.mem_of_getElem? hslot)).closed hsdue.1
  omega

/-- The reconnects that are due, in the order of the table. -/
theorem retry_takesTo (now : Int) (ready : List Bool) (c : Counters) {slots : List Slot}
    (hb : Bookkeeping slots c.active c.retrying) (hready : OpenWhereReady ready 0 slots) :
    Triple (fun w => Tells rotaStep start t
        { table := slots, agenda := dueNetworks now slots ++ readyNetworks ready slots, turn := none, looked := true }
        w.trace)
      (sweep (retryNetwork now) 0 c slots)
      (fun r w => Bookkeeping r.2 r.1.active r.1.retrying ∧ OpenWhereReady ready 0 r.2 ∧
        Tells rotaStep start t { table := r.2, agenda := readyNetworks ready r.2, turn := none, looked := true } w.trace)
      (Told rotaStep start t) := by
  have h := triple_sweep (f := retryNetwork now) (S := Told rotaStep start t)
    (I := fun done c rest w => Bookkeeping (done ++ rest) c.active c.retrying ∧ OpenWhereReady ready 0 (done ++ rest) ∧
      Tells rotaStep start t
        { table := done ++ rest
          agenda := picked (isDue now) done.length rest ++ readyNetworks ready (done ++ rest)
          turn := none, looked := true } w.trace)
    (fun done c slot rest => triple_fact fun hb => triple_fact fun hready => ?_) c slots
  · refine h.conseq (fun w hw => ⟨hb, hready, hw⟩) (fun r w hr => ?_) fun _ => id
    simpa [picked] using hr
  have hslot := hb.slot slot (by simp)
  rw [picked_cons]
  by_cases hdue : due now slot.runtime = true
  · have hturn : TakesTo rotaStep start t
        { table := done ++ slot :: rest
          agenda := done.length :: (picked (isDue now) (done.length + 1) rest ++ readyNetworks ready (done ++ slot :: rest))
          turn := none, looked := true }
        (retryNetwork now done.length c slot)
        fun r => { table := done ++ r.2 :: rest
                   agenda := picked (isDue now) (done.length + 1) rest ++ readyNetworks ready (done ++ slot :: rest)
                   turn := none, looked := true } := by
      unfold retryNetwork
      rw [if_neg (by simp [hdue])]
      exact takeTurn_takesTo fun hturn => retryNetwork_step hturn now done.length c slot
    rw [if_pos (show isDue now done.length slot = true from hdue), List.cons_append]
    refine (hturn.returns (retryNetwork_returns now done.length hb)).post fun r w hr => ?_
    obtain ⟨hb', hw⟩ := hr
    -- what is due has no socket, so nothing is claimed of the one it gets
    have hclosed := hslot.closed (Bool.and_eq_true_iff.1 hdue).1
    have hready' : OpenWhereReady ready 0 (done ++ r.2 :: rest) := by
      apply hready.middle
      intro hat
      have hsock := hready done.length slot (by simp) (by simpa using hat)
      omega
    dsimp only at hw
    rw [← readyNetworks_middle ready, List.append_cons] at hw
    rw [List.append_cons] at hb' hready'
    refine ⟨hb', hready', ?_⟩
    rwa [List.length_append]
  · rw [if_neg (show ¬ isDue now done.length slot = true from hdue)]
    unfold retryNetwork
    rw [if_pos (by simp [hdue])]
    refine triple_pure fun w hw => ?_
    rw [List.append_cons] at hb hready hw
    refine ⟨hb, hready, ?_⟩
    rwa [List.length_append]

/-- The sockets that are ready, in the order of the table. -/
theorem receive_takesTo (botai : BotAi) (ready : List Bool) (c : Counters) {slots : List Slot}
    (hb : Bookkeeping slots c.active c.retrying) (hready : OpenWhereReady ready 0 slots) :
    Triple (fun w => Tells rotaStep start t
        { table := slots, agenda := readyNetworks ready slots, turn := none, looked := true }
        w.trace)
      (sweep (receiveNetwork botai ready) 0 c slots)
      (fun r w => Bookkeeping r.2 r.1.active r.1.retrying ∧ Tells rotaStep start t (.rest r.2) w.trace)
      (Told rotaStep start t) := by
  have h := triple_sweep (f := receiveNetwork botai ready) (S := Told rotaStep start t)
    (I := fun done c rest w => Bookkeeping (done ++ rest) c.active c.retrying ∧ OpenWhereReady ready done.length rest ∧
      Tells rotaStep start t
        { table := done ++ rest, agenda := picked (isReady ready) done.length rest, turn := none, looked := true }
        w.trace)
    (fun done c slot rest => triple_fact fun hb => triple_fact fun hready => ?_) c slots
  · refine h.conseq (fun w hw => ⟨hb, hready, hw⟩) (fun r w hr => ?_) fun _ => id
    obtain ⟨hb', -, hw⟩ := hr
    simp only [List.append_nil] at hb' hw
    exact ⟨hb', hw⟩
  rw [picked_cons]
  by_cases hserve : ready.getD done.length false = true
  · have hsock := hready 0 slot rfl hserve
    have hturn : TakesTo rotaStep start t
        { table := done ++ slot :: rest, agenda := done.length :: picked (isReady ready) (done.length + 1) rest
          turn := none, looked := true }
        (receiveNetwork botai ready done.length c slot)
        fun r => { table := done ++ r.2 :: rest, agenda := picked (isReady ready) (done.length + 1) rest
                   turn := none, looked := true } := by
      unfold receiveNetwork
      have hgoes : ¬ (!ready.getD done.length false || decide (slot.runtime.sock < 0)) = true := by
        rw [hserve, decide_eq_false (by omega)]
        decide
      rw [if_neg hgoes]
      exact takeTurn_takesTo fun hturn => receiveNetwork_step hturn botai done.length c slot
    rw [if_pos (show isReady ready done.length slot = true from hserve)]
    refine (hturn.returns (receiveNetwork_returns botai ready done.length hb)).post fun r w hr => ?_
    obtain ⟨hb', hw⟩ := hr
    dsimp only at hw
    rw [List.append_cons] at hb' hw
    refine ⟨hb', ?_, ?_⟩
    · rw [List.length_append]
      exact hready.tail
    · rwa [List.length_append]
  · rw [if_neg (show ¬ isReady ready done.length slot = true from hserve)]
    unfold receiveNetwork
    rw [Bool.not_eq_true] at hserve
    rw [hserve, Bool.not_false, Bool.true_or, if_pos rfl]
    refine triple_pure fun w hw => ?_
    rw [List.append_cons] at hb hw
    refine ⟨hb, ?_, ?_⟩
    · rw [List.length_append]
      exact hready.tail
    · rwa [List.length_append]

theorem multinetServe_takesTo (botai : BotAi) (ready : List Bool) (m : MultinetState)
    (hb : Bookkeeping m.slots m.counters.active m.counters.retrying) (hready : OpenWhereReady ready 0 m.slots) :
    Triple (fun w => Tells rotaStep start t
        { table := m.slots, agenda := readyNetworks ready m.slots, turn := none, looked := noReconnects m.slots }
        w.trace)
      (multinetServe botai ready m)
      (fun m' w => Bookkeeping m'.slots m'.counters.active m'.counters.retrying ∧
        Tells rotaStep start t (.rest m'.slots) w.trace)
      (Told rotaStep start t) := by
  unfold multinetServe
  refine Triple.bind (Q := fun r w => Bookkeeping r.2 r.1.active r.1.retrying ∧ OpenWhereReady ready 0 r.2 ∧
    Tells rotaStep start t { table := r.2, agenda := readyNetworks ready r.2, turn := none, looked := true } w.trace)
    ?_ fun r => ?_
  · apply triple_ite
    · intro hretrying
      have hsome : noReconnects m.slots = false := by
        rw [← Bool.not_eq_true, noReconnects_iff hb]
        omega
      rw [hsome]
      refine (ask_takesTo _).bind fun now => triple_same.bind fun control => ?_
      refine (log_takesTo ?_).bind fun _ => retry_takesTo now ready m.counters hb hready
      exact if_pos ⟨rfl, rfl, rfl, agenda_nodup hb.slot hready now⟩
    · intro hretrying
      rw [(noReconnects_iff hb).2 (by omega)]
      exact triple_pure fun w hw => ⟨hb, hready, hw⟩
  · obtain ⟨counters, slots⟩ := r
    refine triple_fact fun hb => triple_fact fun hready => ?_
    exact (receive_takesTo botai ready counters hb hready).bind fun r => triple_pure fun _ => id

theorem multinetStop_takesTo (m : MultinetState) :
    TakesTo rotaStep start t (.rest m.slots) (multinetStop m) fun _ => .rest m.slots := by
  apply Stays.takesTo
  refine Keeps.bind (acts_anywhere (by decide) (closeAll_keeps m.slots)) fun _ => ?_
  exact (modifyControl_along _).bind fun _ => keeps_pure _

/-- The invariant of the main loop. -/
abbrev Rested (start : Rota) (t : List Obs) (m : MultinetState) (w : World) : Prop :=
  Bookkeeping m.slots m.counters.active m.counters.retrying ∧ Tells rotaStep start t (.rest m.slots) w.trace

theorem multinetRound_takesTo (botai : BotAi) (m : MultinetState) :
    Triple (Rested start t m) (multinetRound botai m)
      (Next (Rested start t) fun _ w => ∃ slots, Tells rotaStep start t (.rest slots) w.trace)
      (Told rotaStep start t) := by
  refine triple_fact fun hb => ?_
  have stop : Triple (fun w => Tells rotaStep start t (.rest m.slots) w.trace) (do
      let result ← multinetStop m
      pure (.inr result) : M (MultinetState ⊕ MultinetResult))
      (Next (Rested start t) fun _ w => ∃ slots, Tells rotaStep start t (.rest slots) w.trace)
      (Told rotaStep start t) :=
    (multinetStop_takesTo m).bind fun result => triple_pure fun w hw => ⟨_, hw⟩
  unfold multinetRound
  refine triple_same.bind fun control => triple_ite (fun _ => stop) fun _ => ?_
  refine (log_takesTo (rotaStep_iteration _ _ _ _)).bind fun _ => ?_
  refine triple_ite (fun _ => triple_pure fun w hw => ⟨_, hw⟩) fun _ => ?_
  -- the wait is on the whole table, with nothing left to be done
  have hwait : TakesTo rotaStep start t (.rest m.slots)
      (netWaitMany m.sockets (if 0 < m.counters.retrying then some 1 else none)) fun _ => .rest m.slots := by
    refine (log_takesTo (rotaStep_wait _ _)).bind fun _ => (ask_takesTo _).bind fun answer => ?_
    refine (acts_anywhere (S := []) (by simp) (getBreakSignal_keeps _)).takesTo.bind fun ctrlC => ?_
    refine (acts_anywhere (S := []) (by simp) (setBreakSignal_keeps _)).takesTo.bind fun _ => ?_
    exact triple_pure fun _ => id
  refine (hwait.returns (netWaitMany_ready _ _)).bind fun result => triple_fact fun hanswer => ?_
  have hready : OpenWhereReady result.ready 0 m.slots := by
    obtain ⟨answer, hbits⟩ := hanswer
    rw [hbits]
    exact readyBits_open hb.slot answer
  refine Triple.bind (Q := fun _ w => Tells rotaStep start t (.rest m.slots) w.trace) ?_ fun _ => ?_
  · exact Stays.takesTo (keeps_when (acts_anywhere (by decide) rexxProcess_keeps))
  refine triple_same.bind fun control => (log_takesTo (rotaStep_woken _ _ _)).bind fun _ => ?_
  by_cases hgoes : result.goesOn control = true
  · obtain ⟨⟨hreload, hctrlC⟩, hrc⟩ : (¬ (result.rexx && control.reloadRequested) = true ∧ ¬ result.ctrlC = true) ∧
        0 ≤ result.rc := by simpa [WaitResult.goesOn, imp_iff_not_or] using hgoes
    rw [if_neg hreload, if_neg hctrlC, if_neg (by omega), Rota.wake, if_pos hgoes]
    exact (multinetServe_takesTo botai result.ready m hb hready).bind fun m' => triple_pure fun _ => id
  · rw [Rota.wake, if_neg hgoes]
    refine triple_ite (fun _ => triple_pure fun w hw => ⟨_, hw⟩) fun hreload => triple_ite (fun _ => ?_) fun hctrlC => ?_
    · refine (log_takesTo rfl).bind fun _ => ?_
      refine Triple.bind (Q := fun _ w => Tells rotaStep start t (.rest m.slots) w.trace)
        (triple_modify fun w hw => hw) fun _ => ?_
      exact stop
    · have hrc : result.rc < 0 := by
        by_contra hnonneg
        exact hgoes (by simp [WaitResult.goesOn, hreload, hctrlC, Int.not_lt.1 hnonneg])
      rw [if_pos hrc]
      exact triple_pure fun w hw => ⟨_, hw⟩

/-! ## Runs -/

theorem multinetRun_takesTo (networks : Networks) (botai : BotAi) :
    Triple (fun w => Tells rotaStep start t (rotaInit networks) w.trace) (multinetRun networks botai)
      (fun _ w => ∃ slots, Tells rotaStep start t (.rest slots) w.trace) (Told rotaStep start t) := by
  have hstart : Triple (fun w => Tells rotaStep start t (rotaInit networks) w.trace) (multinetStart networks)
      (Rested start t)
      (Told rotaStep start t) := by
    refine (start_takesTo networks.items).bind fun r => ?_
    obtain ⟨counters, slots⟩ := r
    refine triple_fact fun hb => triple_same.bind fun control => (log_takesTo (rotaStep_opened _ _)).bind fun _ => ?_
    refine Triple.bind (Q := fun _ w => Tells rotaStep start t (.rest slots) w.trace) ?_ fun _ =>
      triple_pure fun w hw => ⟨hb, hw⟩
    exact Stays.takesTo (keeps_when (modifyControl_along _))
  refine hstart.bind fun m => triple_same.bind fun fuel => ?_
  exact triple_loop fuel (multinetRound_takesTo botai) (fun m w hw => ⟨_, hw.2⟩) m

/-- Whatever arrives and whatever fails, a run of the main loop is one of the
scheduler, and a run that returns has nothing left on its agenda. In
particular, between two waits every network whose socket was ready and every
one whose reconnect was due has had one turn. -/
theorem multinetRun_keeps_rota (networks : Networks) (botai : BotAi) (env : Env) (w : World) :
    ∃ new s, (multinetRun networks botai env w).2.trace = w.trace ++ new ∧ Run rotaStep (rotaInit networks) new s ∧
      (∀ result, (multinetRun networks botai env w).1 = .ok result → s.agenda = [] ∧ s.turn = none) ∧
      ∀ before result slots control mid slots' active retrying control' after,
        new = before ++ .woken result slots control :: (mid ++ .iteration slots' active retrying control' :: after) →
        (∀ o ∈ mid, o.kind ≠ .woken) → result.goesOn control = true →
        ∃ now, turnsOf mid = dueNetworks now slots ++ readyNetworks result.ready slots ∧ (turnsOf mid).Nodup ∧
          (noReconnects slots = false → ∃ control, .retry now slots control ∈ mid) := by
  have hinit : Tells rotaStep (rotaInit networks) w.trace (rotaInit networks) w.trace := ⟨[], by simp, .nil _⟩
  have hruns := multinetRun_takesTo networks botai env w hinit
  -- how the run ends, and the scheduler's run in either case
  obtain ⟨new, s, hnew, hrun, hends⟩ : ∃ new s, (multinetRun networks botai env w).2.trace = w.trace ++ new ∧
      Run rotaStep (rotaInit networks) new s ∧
      (∀ result, (multinetRun networks botai env w).1 = .ok result → s.agenda = [] ∧ s.turn = none) := by
    split at hruns
    · rename_i result w' heq
      obtain ⟨slots, new, hnew, hrun⟩ := hruns
      exact ⟨new, .rest slots, by rw [heq, hnew], hrun, fun _ _ => ⟨rfl, rfl⟩⟩
    · rename_i halt w' heq
      obtain ⟨s, new, hnew, hrun⟩ := hruns
      exact ⟨new, s, by rw [heq, hnew], hrun, fun result hok => by rw [heq] at hok; cases hok⟩
  refine ⟨new, s, hnew, hrun, hends, ?_⟩
  rintro before result slots control mid slots' active retrying control' after rfl hmid hgoes
  obtain ⟨s₁, -, hrest⟩ := hrun.split
  rw [show Obs.woken result slots control :: (mid ++ .iteration slots' active retrying control' :: after) =
    (.woken result slots control :: (mid ++ [.iteration slots' active retrying control'])) ++ after by simp] at hrest
  obtain ⟨s₂, hround, -⟩ := hrest.split
  exact rota_round hround hgoes hmid

end AmBot
