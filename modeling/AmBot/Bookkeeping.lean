import AmBot.Effects
/-!
# Bookkeeping of the main loop

The main loop keeps its two counters, its socket table and the flags of the
runtimes in step through every path that opens, loses or gives up a
connection. Each path replaces one entry of the table; what the sweeps and the
rounds keep follows from that.
-/

namespace AmBot

open RunLib RunLib.Prog

def Slot.isOpen (slot : Slot) : Bool := 0 ≤ slot.runtime.sock

/-- One entry of the tables. -/
structure SlotOk (slot : Slot) : Prop where
  range : -1 ≤ slot.runtime.sock
  socket : slot.socket = slot.runtime.sock
  exclusive : 0 ≤ slot.runtime.sock → slot.runtime.retryEnabled = false
  commands : 0 ≤ slot.runtime.sock → slot.runtime.commands.sock = slot.runtime.sock
  wait : slot.runtime.retryEnabled = true → 1 ≤ slot.runtime.retryWait ∧ slot.runtime.retryWait ≤ 30

/-- A network that is to be retried has no socket. -/
theorem SlotOk.closed {slot : Slot} (h : SlotOk slot) (henabled : slot.runtime.retryEnabled = true) :
    slot.runtime.sock = -1 := by
  have hrange := h.range
  by_contra hne
  have hdisabled := h.exclusive (by omega)
  rw [henabled] at hdisabled
  cases hdisabled

/-- The tables with the two counters. -/
structure Bookkeeping (slots : List Slot) (active retrying : Nat) : Prop where
  slot : ∀ slot ∈ slots, SlotOk slot
  active : active = slots.countP (·.isOpen)
  retrying : retrying = slots.countP (·.runtime.retryEnabled)

def one (b : Bool) : Nat := if b then 1 else 0

theorem one_isOpen {slot : Slot} (h : 0 ≤ slot.runtime.sock) : one slot.isOpen = 1 := by simp [one, Slot.isOpen, h]

theorem one_isOpen_closed {slot : Slot} (h : ¬ 0 ≤ slot.runtime.sock) : one slot.isOpen = 0 := by
  simp only [one, Slot.isOpen, h, decide_false, Bool.false_eq_true, if_false]

/-- What holds of every entry still does with one replaced. -/
theorem forall_replace {P : Slot → Prop} {done rest : List Slot} {slot slot' : Slot}
    (h : ∀ s ∈ done ++ slot :: rest, P s) (hslot : P slot') : ∀ s ∈ done ++ slot' :: rest, P s := by
  intro s hs
  rcases List.mem_append.1 hs with hd | hd
  · exact h s (by simp [hd])
  · rcases List.mem_cons.1 hd with rfl | hd
    · exact hslot
    · exact h s (by simp [hd])

/-- The other entries are where they were. -/
theorem getElem?_middle {done rest : List Slot} {slot slot' : Slot} {k : Nat} (h : done.length ≠ k) :
    (done ++ slot' :: rest)[k]? = (done ++ slot :: rest)[k]? := by
  rcases Nat.lt_or_gt_of_ne h with hlt | hlt
  · obtain ⟨n, rfl⟩ : ∃ n, k = done.length + (n + 1) := ⟨k - done.length - 1, by omega⟩
    simp [List.getElem?_append_right]
  · simp [List.getElem?_append_left hlt]

/-- One entry replaced, and the counters moved by what it counts for. -/
theorem Bookkeeping.replace {done rest : List Slot} {slot slot' : Slot} {active retrying active' retrying' : Nat}
    (h : Bookkeeping (done ++ slot :: rest) active retrying) (hslot : SlotOk slot')
    (ha : active' + one slot.isOpen = active + one slot'.isOpen)
    (hr : retrying' + one slot.runtime.retryEnabled = retrying + one slot'.runtime.retryEnabled) :
    Bookkeeping (done ++ slot' :: rest) active' retrying' where
  slot := forall_replace h.slot hslot
  active := by
    have := h.active
    simp only [one] at ha
    simp only [List.countP_append, List.countP_cons] at this ⊢
    omega
  retrying := by
    have := h.retrying
    simp only [one] at hr
    simp only [List.countP_append, List.countP_cons] at this ⊢
    omega

theorem Bookkeeping.snoc {done : List Slot} {slot : Slot} {active retrying : Nat} (h : Bookkeeping done active retrying)
    (hslot : SlotOk slot) :
    Bookkeeping (done ++ [slot]) (active + one slot.isOpen) (retrying + one slot.runtime.retryEnabled) where
  slot := List.forall_mem_append.2 ⟨h.slot, List.forall_mem_singleton.2 hslot⟩
  active := by simp [h.active, one, List.countP_cons]
  retrying := by simp [h.retrying, one, List.countP_cons]

/-- An entry that counts is counted. -/
theorem Bookkeeping.active_pos {done rest : List Slot} {slot : Slot} {active retrying : Nat}
    (h : Bookkeeping (done ++ slot :: rest) active retrying) (hs : slot.isOpen = true) : 0 < active := by
  rw [h.active, List.countP_append, List.countP_cons, if_pos hs]
  omega

theorem Bookkeeping.retrying_pos {done rest : List Slot} {slot : Slot} {active retrying : Nat}
    (h : Bookkeeping (done ++ slot :: rest) active retrying) (hs : slot.runtime.retryEnabled = true) : 0 < retrying := by
  rw [h.retrying, List.countP_append, List.countP_cons, if_pos hs]
  omega

/-! ## What the functions of one network return -/

theorem netConnectIpv4_returns (host : Bytes) (port : Nat) : Returns (netConnectIpv4 host port) fun r => -1 ≤ r := by
  unfold netConnectIpv4
  refine returns_bind fun resolved => Returns.bind (Q := fun r => -1 ≤ r) ?_ fun result h =>
    returns_bind fun _ => returns_pure h
  refine returns_ite (fun _ => returns_bind fun sock => ?_) fun _ => returns_pure (by omega)
  refine returns_ite (fun _ => returns_pure (by omega)) fun h => returns_bind fun rc => returns_pure ?_
  split <;> omega

/-- The runtime after a connect of a runtime without a socket. -/
structure ConnectOutcome (runtime : NetworkRuntime) (r : ConnectResult × NetworkRuntime) : Prop where
  ok : r.1 = .ok → 0 ≤ r.2.sock
  failed : r.1 ≠ .ok → r.2.sock = -1
  commands : 0 ≤ r.2.sock → r.2.commands.sock = r.2.sock
  retryEnabled : r.2.retryEnabled = runtime.retryEnabled
  retryWait : r.2.retryWait = runtime.retryWait

theorem connectRuntime_returns {runtime : NetworkRuntime} (hsock : runtime.sock = -1) :
    Returns (connectRuntime runtime) (ConnectOutcome runtime) := by
  unfold connectRuntime
  refine returns_ite (fun _ => returns_pure ⟨nofun, fun _ => hsock, fun h => ?_, rfl, rfl⟩) fun _ => ?_
  · dsimp only at h
    omega
  refine returns_bind fun _ => (netConnectIpv4_returns _ _).bind fun sock hrange => ?_
  refine returns_ite (fun hneg => ?_) fun hopen => ?_
  · refine returns_pure ⟨nofun, fun _ => ?_, fun h => ?_, rfl, rfl⟩ <;> dsimp only at * <;> omega
  refine returns_bind fun started => returns_bind fun rc => returns_ite (fun _ => ?_) fun _ => ?_
  · exact returns_bind fun _ => returns_pure ⟨nofun, fun _ => rfl, fun h => absurd h (by simp), rfl, rfl⟩
  · exact returns_bind fun _ => returns_pure ⟨fun _ => Int.not_lt.1 hopen, nofun, fun _ => rfl, rfl, rfl⟩

theorem connectRuntime_config (runtime : NetworkRuntime) :
    Returns (connectRuntime runtime) fun r => r.2.config = runtime.config := by
  unfold connectRuntime
  refine returns_ite (fun _ => returns_pure rfl) fun _ => returns_bind fun _ => returns_bind fun sock => ?_
  refine returns_ite (fun _ => returns_pure rfl) fun _ => returns_bind fun r => ?_
  obtain ⟨rc, modern⟩ := r
  refine returns_bind fun rc => returns_ite (fun _ => ?_) fun _ => ?_
  · exact returns_bind fun _ => returns_pure rfl
  · exact returns_bind fun _ => returns_pure rfl

/-- What handling a line can do to the fields of the main loop. -/
structure Handled (runtime runtime' : NetworkRuntime) : Prop where
  sock : runtime'.sock = runtime.sock ∨ runtime'.sock = -1
  commands : runtime'.commands = runtime.commands
  retryEnabled : runtime'.retryEnabled = runtime.retryEnabled
  retryWait : runtime'.retryWait = runtime.retryWait

theorem Handled.refl (runtime : NetworkRuntime) : Handled runtime runtime := ⟨.inl rfl, rfl, rfl, rfl⟩

theorem Handled.trans {r₁ r₂ r₃ : NetworkRuntime} (h : Handled r₁ r₂) (h' : Handled r₂ r₃) :
    Handled r₁ r₃ where
  sock := by
    rcases h'.sock with hs | hs
    · rw [hs]; exact h.sock
    · exact .inr hs
  commands := h'.commands.trans h.commands
  retryEnabled := h'.retryEnabled.trans h.retryEnabled
  retryWait := h'.retryWait.trans h.retryWait

theorem multinetHandleLine_returns (botai : BotAi) (bytes : Bytes) (runtime : NetworkRuntime) :
    Returns (multinetHandleLine botai bytes runtime) fun r => Handled runtime r.2 := by
  unfold multinetHandleLine
  refine returns_ite (fun _ => returns_pure (.refl _)) fun _ => returns_bind fun r => ?_
  obtain ⟨rc, modern⟩ := r
  refine returns_ite (fun _ => returns_bind fun _ => returns_pure ⟨.inr rfl, rfl, rfl, rfl⟩) fun _ => ?_
  refine returns_ite (fun _ => returns_bind fun _ => returns_pure ⟨.inl rfl, rfl, rfl, rfl⟩) fun _ => ?_
  dsimp only
  split
  · exact returns_pure ⟨.inl rfl, rfl, rfl, rfl⟩
  · refine returns_ite (fun _ => returns_pure ⟨.inl rfl, rfl, rfl, rfl⟩) fun _ => ?_
    exact returns_bind fun _ => returns_pure ⟨.inl rfl, rfl, rfl, rfl⟩

theorem framerFeed_returns {σ : Type} {callback : Bytes → σ → M (Int × σ)} {I : σ → Prop}
    (h : ∀ line user, I user → Returns (callback line user) fun r => I r.2) (data : Bytes) (framer : IrcFramer)
    {user : σ} (hu : I user) : Returns (framerFeed callback data framer user) fun r => I r.2 := by
  induction data generalizing framer user with
  | nil => exact returns_pure hu
  | cons ch data ih =>
    unfold framerFeed
    split
    · intro _ _ _ _ hr
      cases hr
    · exact ih _ hu
    · exact (h _ _ hu).bind fun r hr => returns_ite (fun _ => returns_pure hr) fun _ => ih _ hr

/-- The framer's callbacks together do no more to the runtime than one. -/
theorem framerFeed_handled (botai : BotAi) (data : Bytes) (runtime : NetworkRuntime) :
    Returns (framerFeed (multinetHandleLine botai) data runtime.framer runtime) fun r => Handled runtime r.2 :=
  framerFeed_returns (I := Handled runtime)
    (fun line user hu => (multinetHandleLine_returns botai line user).mono fun _ hr => hu.trans hr) data _ (.refl _)

/-! ## One network in the loop -/

/-- A reconnect that is due is one that was scheduled. -/
theorem retryEnabled_of_due {now : Int} {runtime : NetworkRuntime} (h : ¬ (!due now runtime) = true) :
    runtime.retryEnabled = true := by
  simp only [due, Bool.not_eq_true', Bool.not_eq_false, Bool.and_eq_true] at h
  exact h.1

/-- Only an open socket is read from. -/
theorem isOpen_of_ready {ready : List Bool} {i : Nat} {sock : Int} (h : ¬ (!ready.getD i false || sock < 0) = true) :
    0 ≤ sock := by
  simp only [Bool.or_eq_true, decide_eq_true_eq, not_or, Int.not_lt] at h
  exact h.2

theorem takeTurn_returns {i : Nat} {slot : Slot} {step : M (Counters × Slot)} {Q : Counters × Slot → Prop}
    (h : Returns step Q) : Returns (takeTurn i slot step) Q :=
  returns_bind fun _ => h.bind fun _ hr => returns_bind fun _ => returns_pure hr

theorem startNetwork_returns (i : Nat) (c : Counters) (config : NetworkConfig) :
    Returns (startNetwork i c config) fun r => SlotOk r.2 ∧ r.1.active = c.active + one r.2.isOpen ∧
      r.1.retrying = c.retrying + one r.2.runtime.retryEnabled := by
  unfold startNetwork
  -- the table entry is new, so it has no socket and no retry scheduled
  refine takeTurn_returns ((connectRuntime_returns rfl).bind fun r h => ?_)
  obtain ⟨result, runtime⟩ := r
  obtain ⟨hok, hfailed, hcommands, hsame, -⟩ := h
  have henabled : runtime.retryEnabled = false := hsame
  dsimp only at hok hfailed hcommands ⊢
  cases result with
  | ok =>
    have hnow : 0 ≤ runtime.sock := hok rfl
    refine returns_pure ⟨⟨?_, rfl, fun _ => henabled, fun _ => hcommands hnow, by simp [henabled]⟩, ?_, ?_⟩
    · dsimp only; omega
    · rw [one_isOpen hnow]
    · simp [one, henabled]
  | retry =>
    have hnow : ¬ 0 ≤ runtime.sock := by rw [hfailed nofun]; decide
    refine returns_bind fun now => returns_pure
      ⟨⟨(hfailed nofun).ge, rfl, fun h => absurd h hnow, fun h => absurd h hnow, by simp⟩, ?_, rfl⟩
    rw [one_isOpen_closed hnow]
    rfl
  | permanent =>
    have hnow : ¬ 0 ≤ runtime.sock := by rw [hfailed nofun]; decide
    refine returns_pure
      ⟨⟨(hfailed nofun).ge, rfl, fun h => absurd h hnow, fun h => absurd h hnow, by simp [henabled]⟩, ?_, ?_⟩
    · rw [one_isOpen_closed hnow]
      rfl
    · simp [one, henabled]

theorem startNetwork_config (i : Nat) (c : Counters) (config : NetworkConfig) :
    Returns (startNetwork i c config) fun r => r.2.runtime.config = config := by
  refine takeTurn_returns ((connectRuntime_config _).bind fun r hr => ?_)
  obtain ⟨result, runtime⟩ := r
  cases result with
  | ok => exact returns_pure hr
  | retry => exact returns_bind fun _ => returns_pure hr
  | permanent => exact returns_pure hr

theorem nextRetryWait_bounds {wait : Nat} (h : 1 ≤ wait ∧ wait ≤ 30) :
    1 ≤ nextRetryWait wait ∧ nextRetryWait wait ≤ 30 := by
  unfold nextRetryWait
  split <;> [split; skip] <;> omega

theorem decrement_pos {n : Nat} (h : 0 < n) : decrement n = pure (n - 1) := by
  rw [decrement, if_neg (by omega)]

section Step
variable {done rest : List Slot} {c : Counters} {slot : Slot}

theorem retryNetwork_returns (now : Int) (i : Nat) (h : Bookkeeping (done ++ slot :: rest) c.active c.retrying) :
    Returns (retryNetwork now i c slot) fun r => Bookkeeping (done ++ r.2 :: rest) r.1.active r.1.retrying := by
  have hslot := h.slot slot (by simp)
  unfold retryNetwork
  refine returns_ite (fun _ => returns_pure h) fun hdue => ?_
  have henabled := retryEnabled_of_due hdue
  have hminus := hslot.closed henabled
  have hclosed : ¬ 0 ≤ slot.runtime.sock := by omega
  have hone : one slot.runtime.retryEnabled = 1 := by simp [one, henabled]
  have hpos := h.retrying_pos henabled
  -- this network is counted in `retrying`, so the decrement does not wrap
  have hdec : Returns (decrement c.retrying) fun n => n = c.retrying - 1 := by
    rw [decrement_pos hpos]
    exact returns_pure rfl
  refine takeTurn_returns ((connectRuntime_returns hminus).bind fun r hr => ?_)
  obtain ⟨result, runtime⟩ := r
  obtain ⟨hok, hfailed, hcommands, hsame, hwait⟩ := hr
  dsimp only at hok hfailed hcommands hsame hwait ⊢
  cases result with
  | ok =>
    have hnow : 0 ≤ runtime.sock := hok rfl
    refine hdec.bind fun retrying hretrying => returns_bind fun _ => returns_pure
      (h.replace ⟨?_, rfl, fun _ => rfl, fun _ => hcommands hnow, nofun⟩ ?_ ?_)
    · dsimp only; omega
    · rw [one_isOpen_closed hclosed, one_isOpen hnow]
    · rw [hone, hretrying]
      simp only [one, Bool.false_eq_true, if_false]
      omega
  | permanent =>
    have hnow : ¬ 0 ≤ runtime.sock := by rw [hfailed nofun]; decide
    refine hdec.bind fun retrying hretrying => returns_pure
      (h.replace ⟨(hfailed nofun).ge, ?_, fun h => absurd h hnow, fun h => absurd h hnow, nofun⟩ ?_ ?_)
    · exact hslot.socket.trans (hminus.trans (hfailed nofun).symm)
    · rw [one_isOpen_closed hclosed, one_isOpen_closed hnow]
    · rw [hone, hretrying]
      simp only [one, Bool.false_eq_true, if_false]
      omega
  | retry =>
    have hnow : ¬ 0 ≤ runtime.sock := by rw [hfailed nofun]; decide
    refine returns_pure
      (h.replace ⟨(hfailed nofun).ge, ?_, fun h => absurd h hnow, fun h => absurd h hnow, fun _ => ?_⟩ ?_ ?_)
    · exact hslot.socket.trans (hminus.trans (hfailed nofun).symm)
    · dsimp only
      rw [hwait]
      exact nextRetryWait_bounds (hslot.wait henabled)
    · rw [one_isOpen_closed hclosed, one_isOpen_closed hnow]
    · rw [hsame]

theorem loseNetwork_returns (i : Nat) (h : Bookkeeping (done ++ slot :: rest) c.active c.retrying)
    (hopen : 0 ≤ slot.runtime.sock) :
    Returns (loseNetwork i c slot) fun r => Bookkeeping (done ++ r.2 :: rest) r.1.active r.1.retrying := by
  have hpos := h.active_pos (decide_eq_true hopen)
  have hdisabled := (h.slot slot (by simp)).exclusive hopen
  unfold loseNetwork
  refine returns_bind fun _ => returns_bind fun _ => returns_bind fun now => returns_pure (h.replace
    ⟨by simp, rfl, fun h => absurd h (by simp), fun h => absurd h (by simp), by simp⟩ ?_ ?_)
  · rw [one_isOpen hopen, one_isOpen_closed (by simp)]
    dsimp only
    omega
  · simp [one, hdisabled]

theorem feedNetwork_returns (botai : BotAi) (i : Nat) (data : Bytes)
    (h : Bookkeeping (done ++ slot :: rest) c.active c.retrying) (hopen : 0 ≤ slot.runtime.sock) :
    Returns (feedNetwork botai i c slot data) fun r => Bookkeeping (done ++ r.2 :: rest) r.1.active r.1.retrying := by
  have hslot := h.slot slot (by simp)
  have hpos := h.active_pos (decide_eq_true hopen)
  have hdisabled := hslot.exclusive hopen
  unfold feedNetwork
  refine (framerFeed_handled botai data slot.runtime).bind fun r hr => ?_
  obtain ⟨framer, runtime⟩ := r
  obtain ⟨hsock, hcommands, hsame, hwait⟩ := hr
  dsimp only at hsock hcommands hsame hwait ⊢
  rw [hdisabled] at hsame
  refine returns_ite (fun hneg => ?_) fun hnow => ?_
  · -- the negotiation has failed: the network is neither open nor retried
    have hminus : runtime.sock = -1 := by omega
    have hclosed : ¬ 0 ≤ runtime.sock := by omega
    refine returns_bind fun _ => returns_pure (h.replace
      ⟨hminus.ge, hminus.symm, fun h => absurd h hclosed, fun h => absurd h hclosed, by simp [hsame]⟩ ?_ ?_)
    · rw [one_isOpen hopen, one_isOpen_closed hclosed]
      dsimp only
      omega
    · rw [hdisabled, hsame]
  · have hkept : runtime.sock = slot.runtime.sock := by omega
    have hstill : 0 ≤ runtime.sock := by omega
    refine returns_pure (h.replace
      ⟨?_, hslot.socket.trans hkept.symm, fun _ => hsame, fun _ => ?_, by simp [hsame]⟩ ?_ ?_)
    · dsimp only; omega
    · dsimp only
      rw [hcommands, hkept]
      exact hslot.commands hopen
    · rw [one_isOpen hopen, one_isOpen hstill]
    · rw [hdisabled, hsame]

theorem receiveNetwork_returns (botai : BotAi) (ready : List Bool) (i : Nat)
    (h : Bookkeeping (done ++ slot :: rest) c.active c.retrying) :
    Returns (receiveNetwork botai ready i c slot) fun r => Bookkeeping (done ++ r.2 :: rest) r.1.active r.1.retrying := by
  unfold receiveNetwork
  refine returns_ite (fun _ => returns_pure h) fun hready => takeTurn_returns (returns_bind fun received => ?_)
  have hopen := isOpen_of_ready hready
  split
  · exact loseNetwork_returns i h hopen
  · exact loseNetwork_returns i h hopen
  · exact feedNetwork_returns botai i _ h hopen

end Step

/-! ## What the functions of one network log -/

/-- The kinds of the calls of one network, its counters apart. -/
abbrev serving : List Kind :=
  [.connect, .send, .recv, .wait, .close, .rexx, .script, .event, .dial, .join, .turn, .settled, .line, .negotiated]

theorem setFirstSocket_moves {S : List Kind} (i : Nat) (sock : Int) : Keeps (Moves S) (setFirstSocket i sock) :=
  keeps_when (modifyControl_moves _)

theorem startNetwork_moves (i : Nat) (c : Counters) (config : NetworkConfig) :
    Keeps (Moves serving) (startNetwork i c config) := by
  unfold startNetwork
  refine takeTurn_moves (by decide) ((moves (by decide) (connectRuntime_keeps _)).bind fun r => ?_)
  obtain ⟨result, runtime⟩ := r
  cases result with
  | ok => exact keeps_pure _
  | retry => exact Keeps.bind (moves (S := []) (by decide) (keeps_ask _)) fun _ => keeps_pure _
  | permanent => exact keeps_pure _

/-- What a reconnect logs, but for its decrement. -/
theorem retryNetwork_moves_of {S : List Kind} (hS : serving ⊆ S) (now : Int) (i : Nat) {c : Counters} {slot : Slot}
    (hdecrement : slot.runtime.retryEnabled = true → Keeps (Moves S) (decrement c.retrying)) :
    Keeps (Moves S) (retryNetwork now i c slot) := by
  have hmarks : [.turn, .settled] ⊆ S := List.Subset.trans (by decide) hS
  have hcalls : [.dial, .connect, .send, .join, .close] ⊆ S := List.Subset.trans (by decide) hS
  by_cases hdue : (!due now slot.runtime) = true
  · rw [retryNetwork, if_pos hdue]
    exact keeps_pure _
  · have hdec := hdecrement (retryEnabled_of_due hdue)
    rw [retryNetwork, if_neg hdue]
    refine takeTurn_moves hmarks ((moves hcalls (connectRuntime_keeps _)).bind fun r => ?_)
    obtain ⟨result, runtime⟩ := r
    cases result with
    | ok => exact hdec.bind fun _ => (setFirstSocket_moves _ _).bind fun _ => keeps_pure _
    | retry => exact keeps_pure _
    | permanent => exact hdec.bind fun _ => keeps_pure _

/-- A counted network's decrement does not wrap. -/
theorem retryNetwork_moves (now : Int) (i : Nat) {c : Counters} {slot : Slot}
    (hpos : slot.runtime.retryEnabled = true → 0 < c.retrying) :
    Keeps (Moves serving) (retryNetwork now i c slot) := by
  refine retryNetwork_moves_of (List.Subset.refl _) now i fun henabled => ?_
  rw [decrement_pos (hpos henabled)]
  exact keeps_pure _

theorem loseNetwork_moves (i : Nat) (c : Counters) (slot : Slot) : Keeps (Moves serving) (loseNetwork i c slot) := by
  refine (moves (by decide) (netCloseSocket_keeps _)).bind fun _ => (setFirstSocket_moves _ _).bind fun _ => ?_
  exact Keeps.bind (moves (S := []) (by decide) (keeps_ask _)) fun _ => keeps_pure _

theorem feedNetwork_moves (botai : BotAi) (i : Nat) (c : Counters) (slot : Slot) (data : Bytes) :
    Keeps (Moves serving) (feedNetwork botai i c slot data) := by
  unfold feedNetwork
  refine (framerFeed_keeps (fun _ _ => moves (by decide) (multinetHandleLine_keeps _ _ _)) _ _ _).bind
    fun r => ?_
  obtain ⟨framer, runtime⟩ := r
  exact keeps_ite ((setFirstSocket_moves _ _).bind fun _ => keeps_pure _) (keeps_pure _)

theorem receiveNetwork_moves (botai : BotAi) (ready : List Bool) (i : Nat) (c : Counters) (slot : Slot) :
    Keeps (Moves serving) (receiveNetwork botai ready i c slot) := by
  unfold receiveNetwork
  refine keeps_ite (keeps_pure _) (takeTurn_moves (by decide) ?_)
  refine (moves (by decide) (netRecv_keeps _ _)).bind fun received => ?_
  split
  · exact loseNetwork_moves _ _ _
  · exact loseNetwork_moves _ _ _
  · exact feedNetwork_moves _ _ _ _ _

theorem multinetStop_moves (s : MultinetState) : Keeps (Moves [.close]) (multinetStop s) :=
  (moves (by decide) (closeAll_keeps s.slots)).bind fun _ => (modifyControl_moves _).bind fun _ => keeps_pure _

/-! ## The run -/

/-- No network is open and none is to be retried. -/
def Idle (slots : List Slot) : Prop := ∀ slot ∈ slots, slot.isOpen = false ∧ slot.runtime.retryEnabled = false

/-- The loop's bookkeeping is right where an iteration starts, and no counter
underflows. -/
def Obs.sound : Obs → Prop
  | .iteration slots active retrying _ => Bookkeeping slots active retrying
  | .underflow => False
  | _ => True

/-- An iteration that starts with nothing left to wait for. -/
def Obs.idle : Obs → Prop
  | .iteration slots _ _ _ => Idle slots
  | _ => False

theorem Bookkeeping.idle_iff {slots : List Slot} {active retrying : Nat} (h : Bookkeeping slots active retrying) :
    active = 0 ∧ retrying = 0 ↔ Idle slots := by
  rw [h.active, h.retrying, List.countP_eq_zero, List.countP_eq_zero, ← forall₂_and]
  simp only [Idle, Bool.not_eq_true]

def Sound : World → Prop := AllObs Obs.sound

def Going : World → Prop := AllObs fun o => o.sound ∧ ¬ o.idle

theorem serving_going (o : Obs) (h : o.kind ∈ serving) : o.sound ∧ ¬ o.idle := by
  cases o <;> first | exact ⟨trivial, id⟩ | exact absurd h (by simp [serving, Obs.kind])

theorem going_moves {α : Type} {m : M α} (h : Keeps (Moves serving) m) : Triple Going m (fun _ => Going) Going :=
  Keeps.triple h fun _ _ hw hm => hm.2.allObs serving_going hw

/-- The invariant of the main loop. -/
def Kept (s : MultinetState) (w : World) : Prop := Bookkeeping s.slots s.counters.active s.counters.retrying ∧ Going w

/-- What a result says about the trace. -/
def Ended (result : MultinetResult) (w : World) : Prop :=
  Sound w ∧ (result = .noRetryableNetworks ↔ ∃ o ∈ w.trace, o.idle)

theorem Going.sound {w : World} (h : Going w) : Sound w := fun o ho => (h o ho).1

theorem Going.ended {w : World} (h : Going w) {result : MultinetResult} (hr : result ≠ .noRetryableNetworks) :
    Ended result w :=
  ⟨h.sound, fun he => absurd he hr, fun ⟨o, ho, hidle⟩ => absurd hidle (h o ho).2⟩

section Sweeps
variable {J : List Slot → World → Prop} {S : World → Prop}

/-- The first connects make a table with the bookkeeping right, and keep what
each of them keeps of the table so far. -/
theorem start_sweep (configs : List NetworkConfig)
    (hJ : ∀ done c config, Triple (J done) (startNetwork done.length c config) (fun r => J (done ++ [r.2])) S) :
    Triple (J []) (sweep startNetwork 0 { active := 0, retrying := 0 } configs)
      (fun r w => Bookkeeping r.2 r.1.active r.1.retrying ∧ J r.2 w) S := by
  have h := triple_sweep
    (I := fun done c (_ : List NetworkConfig) w => Bookkeeping done c.active c.retrying ∧ J done w)
    (f := startNetwork) (S := S)
    (fun done c config rest => triple_fact fun hb =>
      ((hJ done c config).returns (startNetwork_returns _ c config)).post fun r w hr => ?_)
    { active := 0, retrying := 0 } configs
  · exact h.pre fun w hw => ⟨⟨by simp, rfl, rfl⟩, hw⟩
  · obtain ⟨⟨hslot, ha, hr'⟩, hw⟩ := hr
    rw [ha, hr']
    exact ⟨hb.snoc hslot, hw⟩

/-- A sweep over the open table keeps the bookkeeping, and what else is said of
the table, if its body does. -/
theorem table_sweep {f : Nat → Counters → Slot → M (Counters × Slot)}
    (hr : ∀ done rest c slot i, Bookkeeping (done ++ slot :: rest) c.active c.retrying →
      Returns (f i c slot) fun r => Bookkeeping (done ++ r.2 :: rest) r.1.active r.1.retrying)
    (hJ : ∀ done rest c slot, Bookkeeping (done ++ slot :: rest) c.active c.retrying →
      Triple (J (done ++ slot :: rest)) (f done.length c slot) (fun r => J (done ++ r.2 :: rest)) S)
    (c : Counters) (slots : List Slot) :
    Triple (fun w => Bookkeeping slots c.active c.retrying ∧ J slots w) (sweep f 0 c slots)
      (fun r w => Bookkeeping r.2 r.1.active r.1.retrying ∧ J r.2 w) S := by
  -- at each entry the table is the entries made anew and the entries to come
  have h := triple_sweep
    (I := fun done c rest w => Bookkeeping (done ++ rest) c.active c.retrying ∧ J (done ++ rest) w) (f := f) (S := S)
    (fun done c slot rest => triple_fact fun hb => by
      refine ((hJ done rest c slot hb).returns (hr done rest c slot _ hb)).post fun r w hw => ?_
      rw [List.append_cons] at hw
      exact hw)
    c slots
  simpa using h

end Sweeps

theorem multinetServe_kept (botai : BotAi) (ready : List Bool) (s : MultinetState) :
    Triple (Kept s) (multinetServe botai ready s) Kept Going := by
  unfold multinetServe
  refine Triple.bind (Q := fun r w => Bookkeeping r.2 r.1.active r.1.retrying ∧ Going w)
    (triple_ite (fun _ => ?_) fun _ => ?_) fun r => ?_
  · refine Triple.bind (Q := fun _ => Kept s) (triple_fact fun hb => (going_moves (moves (S := []) (by decide)
      (keeps_ask _))).post fun _ _ hw => ⟨hb, hw⟩) fun now => ?_
    refine triple_same.bind fun control => ?_
    refine Triple.bind (Q := fun _ => Kept s)
      (triple_modify fun w hw => ⟨hw.1, AllObs.log hw.2 ⟨trivial, id⟩⟩) fun _ => ?_
    exact table_sweep (J := fun _ => Going) (fun _ _ _ _ i hb => retryNetwork_returns now i hb)
      (fun _ _ _ _ hb => going_moves (retryNetwork_moves now _ hb.retrying_pos)) s.counters s.slots
  · exact triple_pure fun _ => id
  · refine Triple.bind (table_sweep (J := fun _ => Going) (fun _ _ _ _ i hb => receiveNetwork_returns botai ready i hb)
      (fun _ _ _ _ _ => going_moves (receiveNetwork_moves _ _ _ _ _)) r.1 r.2) fun r => triple_pure fun _ => id

theorem multinetStop_ended (s : MultinetState) : Triple Going (multinetStop s) Ended Going := by
  have hstop : Returns (multinetStop s) fun result => result ≠ .noRetryableNetworks :=
    returns_bind fun _ => returns_bind fun _ => returns_pure nofun
  have hmoves : Keeps (Moves serving) (multinetStop s) := (multinetStop_moves s).mono fun _ _ => Moves.mono (by decide)
  exact ((going_moves hmoves).returns hstop).post fun _ _ h => h.2.ended h.1

theorem multinetRound_kept (botai : BotAi) (s : MultinetState) :
    Triple (Kept s) (multinetRound botai s) (Next Kept Ended) Going := by
  unfold multinetRound
  refine triple_same.bind fun control => triple_ite (fun _ => ?_) fun _ => ?_
  · exact ((multinetStop_ended s).pre fun _ hw => hw.2).bind fun result => triple_pure fun _ => id
  by_cases hidle : s.counters.active = 0 ∧ s.counters.retrying = 0
  · -- the iteration is logged, and it is an idle one
    refine Triple.bind (Q := fun _ => Ended .noRetryableNetworks) (triple_modify fun w hw => ?_) fun _ => ?_
    · have hlast : ∃ o ∈ (w.log (.iteration s.slots s.counters.active s.counters.retrying control)).trace, o.idle :=
        ⟨_, List.mem_append_right _ (List.mem_singleton.2 rfl), hw.1.idle_iff.1 hidle⟩
      refine ⟨fun o ho => ?_, fun _ => hlast, fun _ => rfl⟩
      rcases List.mem_append.1 ho with h | h
      · exact (hw.2 o h).1
      · rw [List.mem_singleton.1 h]
        exact hw.1
    · rw [if_pos hidle]
      exact triple_pure fun _ => id
  refine Triple.bind (Q := fun _ => Kept s)
    (triple_modify fun w hw => ⟨hw.1, AllObs.log hw.2 ⟨hw.1, ?_⟩⟩) fun _ => ?_
  · exact fun h => hidle (hw.1.idle_iff.2 h)
  rw [if_neg hidle]
  refine triple_fact fun hb => ?_
  refine Triple.bind (going_moves (moves (by decide) (netWaitMany_keeps _ _))) fun result => ?_
  refine Triple.bind (going_moves (keeps_when (moves (by decide) rexxProcess_keeps))) fun _ => ?_
  refine triple_same.bind fun control => ?_
  refine Triple.bind (Q := fun _ => Going) (triple_modify fun w hw => AllObs.log hw ⟨trivial, id⟩) fun _ => ?_
  refine triple_ite (fun _ => triple_pure fun _ hw => hw.ended nofun) fun _ => triple_ite (fun _ => ?_) fun _ => ?_
  · refine Triple.bind (Q := fun _ => Going) (triple_modify fun w hw => AllObs.log hw ⟨trivial, id⟩) fun _ => ?_
    refine Triple.bind (Q := fun _ => Going) (triple_modify fun w hw => hw) fun _ => ?_
    exact (multinetStop_ended s).bind fun result => triple_pure fun _ => id
  refine triple_ite (fun _ => triple_pure fun _ hw => hw.ended nofun) fun _ => ?_
  exact ((multinetServe_kept botai result.ready s).pre fun _ hw => ⟨hb, hw⟩).bind fun s' => triple_pure fun _ => id

theorem multinetStart_kept (networks : Networks) : Triple Going (multinetStart networks) Kept Going := by
  unfold multinetStart
  refine (start_sweep (J := fun _ => Going) networks.items fun _ _ _ => going_moves (startNetwork_moves _ _ _)).bind
    fun r => ?_
  obtain ⟨counters, slots⟩ := r
  refine triple_fact fun hb => ?_
  refine triple_same.bind fun control => ?_
  refine Triple.bind (Q := fun _ => Going) (triple_modify fun w hw => AllObs.log hw ⟨trivial, id⟩) fun _ => ?_
  refine Triple.bind (going_moves (keeps_when (modifyControl_moves _))) fun _ => ?_
  exact triple_pure fun w hw => ⟨hb, hw⟩

theorem multinetRun_ended (networks : Networks) (botai : BotAi) :
    Triple Going (multinetRun networks botai) Ended Going := by
  refine (multinetStart_kept networks).bind fun s => ?_
  refine triple_same.bind fun fuel => ?_
  exact triple_loop fuel (multinetRound_kept botai) (fun _ _ hw => hw.2) s

/-- The same memory with nothing logged yet. -/
def World.begin (w : World) : World := { w with trace := [] }

/-- Every iteration of every run starts with the bookkeeping right, and no
counter underflows; the run gives up exactly when an iteration starts with no
network open and none to be retried, and it does so in that iteration. -/
theorem multinetRun_bookkeeping (networks : Networks) (botai : BotAi) (env : Env) (w : World) :
    (∀ slots active retrying control,
      .iteration slots active retrying control ∈ (multinetRun networks botai env w.begin).2.trace →
        Bookkeeping slots active retrying) ∧
    .underflow ∉ (multinetRun networks botai env w.begin).2.trace ∧
    ((multinetRun networks botai env w.begin).1 = .ok .noRetryableNetworks ↔ ∃ slots active retrying control,
      .iteration slots active retrying control ∈ (multinetRun networks botai env w.begin).2.trace ∧ Idle slots) := by
  have hbegin : Going w.begin := fun o ho => absurd ho List.not_mem_nil
  have hrun := multinetRun_ended networks botai
  have hsound : Sound (multinetRun networks botai env w.begin).2 :=
    hrun.all (fun _ _ h => h.1) (fun _ h => h.sound) hbegin
  refine ⟨fun slots active retrying control ho => hsound _ ho, fun ho => hsound _ ho, ?_⟩
  rcases hr : multinetRun networks botai env w.begin with ⟨halt | result, w'⟩
  · -- a run that stops early has seen no idle iteration
    have hgoing : Going w' := hrun.error hbegin hr
    refine ⟨nofun, ?_⟩
    rintro ⟨slots, active, retrying, control, ho, hidle⟩
    exact absurd hidle (hgoing _ ho).2
  · have hended : Ended result w' := hrun.ok hbegin hr
    constructor
    · intro hresult
      obtain ⟨o, ho, hidle⟩ := hended.2.1 (Except.ok.inj hresult)
      cases o <;> first | exact absurd hidle id | exact ⟨_, _, _, _, ho, hidle⟩
    · rintro ⟨slots, active, retrying, control, ho, hidle⟩
      exact congrArg Except.ok (hended.2.2 ⟨_, ho, hidle⟩)

end AmBot
