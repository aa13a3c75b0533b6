import AmBot.Handles
/-!
# The descriptors of a session

The loops of both modes, with the descriptors that are open while they run.
The single-network loop starts every round with none; the multi-network loop
with those of its table and whatever earlier runs have left open. In both, no
call is ever given a descriptor that is not open.
-/

namespace AmBot

open RunLib RunLib.Prog

variable {α : Type} {k : Int → Nat} {c sock : Int} {S : List Kind}

/-! ## One network of several -/

theorem modernIrcAnswer_owns (hsock : Has k sock) (hc : Covers k c) (config : NetworkConfig) (state : ModernIrc)
    (line : Bytes) : Triple (Owns k c) (modernIrcAnswer sock config state line) (fun _ => Owns k c) Safe :=
  on_owns (by decide) (modernIrcAnswer_keeps _ _ _ _) (modernIrcAnswer_talks (by simp) _ _ _) hsock hc

theorem multinetHandleLine_owns (hsock : 0 ≤ sock) (hc : Covers (plus k sock) c) (botai : BotAi) (bytes : Bytes)
    {runtime : NetworkRuntime} (hbound : Bound sock runtime) :
    Triple (Owns (plus k runtime.sock) c) (multinetHandleLine botai bytes runtime) (fun r => Owns (plus k r.2.sock) c)
      Safe := by
  unfold multinetHandleLine
  refine triple_ite (fun _ => triple_pure fun _ => id) fun hopen => ?_
  obtain ⟨rfl, hcommands⟩ := hbound (Int.not_lt.1 hopen)
  have hhas := has_plus k hsock
  refine (modernIrcAnswer_owns hhas hc _ _ _).bind fun r => ?_
  obtain ⟨rc, modern⟩ := r
  refine triple_ite (fun _ => ?_) fun _ => triple_ite (fun _ => ?_) fun _ => ?_
  · exact (netCloseSocket_owns runtime.sock).bind fun _ => triple_pure fun w => (owns_plus_closed (by simp)).2
  · refine Triple.bind (on_owns (by decide) (sendPong_keeps _ _) (sendFormatted_talks (by simp) _) hhas hc) fun _ => ?_
    exact triple_pure fun _ => id
  dsimp only
  split
  · exact triple_pure fun _ => id
  · refine triple_ite (fun _ => triple_pure fun _ => id) fun _ => ?_
    have hcontext : Has (plus k runtime.sock) runtime.commands.sock := by
      rw [hcommands]
      exact hhas
    refine (eventDispatchPending_triple (fun event => dispatchEvent_owns hc botai hcontext _ event) _ _).bind
      fun queue => ?_
    exact triple_pure fun _ => id

/-- Bytes of an open network. -/
theorem framerFeed_owns (hsock : 0 ≤ sock) (hc : Covers (plus k sock) c) (botai : BotAi) (data : Bytes)
    (framer : IrcFramer) {runtime : NetworkRuntime} (hbound : Bound sock runtime) :
    Triple (Owns (plus k runtime.sock) c) (framerFeed (multinetHandleLine botai) data framer runtime)
      (fun r => Owns (plus k r.2.sock) c) Safe := by
  have hline (line : Bytes) (runtime : NetworkRuntime) :
      Triple (fun w => Bound sock runtime ∧ Owns (plus k runtime.sock) c w) (multinetHandleLine botai line runtime)
        (fun r w => Bound sock r.2 ∧ Owns (plus k r.2.sock) c w) Safe := by
    refine triple_fact fun hbound => ?_
    refine (multinetHandleLine_owns hsock hc botai line hbound).returns
      ((multinetHandleLine_returns botai line runtime).mono fun r hr hopen => ?_)
    have hsame : r.2.sock = runtime.sock := hr.sock.resolve_right (by omega)
    rw [hsame, hr.commands]
    exact hbound (hsame ▸ hopen)
  exact (framerFeed_triple hline (fun _ _ hw => hw.2.safe) data framer runtime).conseq (fun w hw => ⟨hbound, hw⟩)
    (fun _ _ hw => hw.2) fun _ => id

theorem connectRuntime_owns (hc : Covers k c) {runtime : NetworkRuntime} (hclosed : runtime.sock < 0) :
    Triple (Owns k c) (connectRuntime runtime) (fun r => Owns (plus k r.2.sock) c) Safe := by
  unfold connectRuntime
  refine triple_ite (fun _ => triple_pure fun w => (owns_plus_closed hclosed).2) fun _ => ?_
  refine (log_owns ⟨rfl, by simp [Obs.kind]⟩).bind fun _ => (netConnectIpv4_owns _ _).bind fun sock => ?_
  refine triple_ite (fun _ => triple_pure fun _ => id) fun h => ?_
  have hhas := has_plus k (Int.not_lt.1 h)
  have hc' := hc.plus sock
  refine (on_owns (by decide) (modernIrcStart_keeps _ _) (modernIrcStart_talks (by simp) _) hhas hc').bind fun r => ?_
  obtain ⟨rc, modern⟩ := r
  have hregister : Triple (Owns (plus k sock) c)
      (if rc ≠ 0 then pure (-1) else ircSendRegistration sock runtime.config.nick runtime.config.user runtime.config.pass)
      (fun _ => Owns (plus k sock) c) Safe :=
    triple_ite (fun _ => triple_pure fun _ => id) fun _ =>
      on_owns (by decide) (ircSendRegistration_keeps _ _ _ _) (ircSendRegistration_talks (by simp) _ _ _) hhas hc'
  refine hregister.bind fun rc => triple_ite (fun _ => ?_) fun _ => ?_
  · exact (netCloseSocket_owns sock).bind fun _ => triple_pure fun w => (owns_plus_closed (by simp)).2
  · exact (on_owns (by decide) (sendJoins_keeps _ _) (sendJoins_talks (by simp) _) hhas hc').bind fun _ =>
      triple_pure fun _ => id

theorem takeTurn_owns {Q : Counters × Slot → World → Prop} {i : Nat} {slot : Slot} {step : M (Counters × Slot)}
    (h : Triple (Owns k c) step Q Safe) (hQ : ∀ r, Triple (Q r) (log (.settled i r.2)) (fun _ => Q r) Safe) :
    Triple (Owns k c) (takeTurn i slot step) Q Safe :=
  takeTurn_triple (log_owns ⟨rfl, by simp [Obs.kind]⟩) h hQ

theorem startNetwork_owns (hc : Covers k c) (i : Nat) (counters : Counters) (config : NetworkConfig) :
    Triple (Owns k c) (startNetwork i counters config) (fun r => Owns (plus k r.2.runtime.sock) c) Safe := by
  unfold startNetwork
  refine takeTurn_owns ((connectRuntime_owns hc (by simp [runtimeInit])).bind fun r => ?_) fun r =>
    log_owns ⟨rfl, by simp [Obs.kind]⟩
  obtain ⟨result, runtime⟩ := r
  cases result with
  | ok => exact triple_pure fun _ => id
  | retry => exact (ask_owns _).bind fun now => triple_pure fun _ => id
  | permanent => exact triple_pure fun _ => id

/-! ## One entry of the table -/

/-- The entry's socket is open besides `k`, and the control block has it, if it
is the first, or a socket of `F`. -/
def Entry (F : Int → Prop) (k : Int → Nat) (i : Nat) (sock : Int) (w : World) : Prop :=
  Owns (plus k sock) w.control.sock w ∧
    (0 ≤ w.control.sock → F w.control.sock ∨ (i = 0 ∧ w.control.sock = sock))

section Entry
variable {F : Int → Prop} {i : Nat} {Q : α → World → Prop}

/-- The control block's socket, by name. -/
theorem triple_entry {m : M α} (h : ∀ c, (0 ≤ c → F c ∨ (i = 0 ∧ c = sock)) → Triple (Owns (plus k sock) c) m Q Safe) :
    Triple (Entry F k i sock) m Q Safe := fun e w hw => h w.control.sock hw.2 e w hw.1

theorem Owns.entry {w : World} (h : Owns (plus k sock) c w) (hc : 0 ≤ c → F c ∨ (i = 0 ∧ c = sock)) :
    Entry F k i sock w := by
  obtain rfl := h.control
  exact ⟨h, hc⟩

/-- The sockets of `F` are open besides the entry's. -/
theorem entry_covers (hF : ∀ fd, 0 ≤ fd → F fd → 0 < k fd) (hc : 0 ≤ c → F c ∨ (i = 0 ∧ c = sock)) :
    Covers (plus k sock) c := by
  intro hnonneg
  rcases hc hnonneg with h | ⟨-, rfl⟩
  · exact (Has.plus ⟨hnonneg, hF c hnonneg h⟩ sock).2
  · exact (has_plus k hnonneg).2

theorem log_entry {o : Obs} (h : o.kind.quiet = true ∧ o.kind ≠ .rexx) :
    Triple (Entry F k i sock) (log o) (fun _ => Entry F k i sock) Safe :=
  triple_entry fun _ hc => (log_owns h).post fun _ _ hw => hw.entry hc

theorem setFirstSocket_owns (i : Nat) (sock : Int) :
    Triple (Owns k c) (setFirstSocket i sock) (fun _ => Owns k (if i = 0 then sock else c)) Safe := by
  unfold setFirstSocket when
  by_cases hi : i = 0
  · simp only [hi, decide_true, if_true]
    exact triple_modify fun w hw => ⟨hw.opens, hw.safe, rfl⟩
  · simp only [hi, decide_false, if_false, Bool.false_eq_true]
    exact triple_pure fun _ => id

/-- The first entry's socket goes to the control block. -/
theorem first_entry (hc : 0 ≤ c → F c ∨ (i = 0 ∧ c = sock)) (sock' : Int) :
    0 ≤ (if i = 0 then sock' else c) → F (if i = 0 then sock' else c) ∨ (i = 0 ∧ (if i = 0 then sock' else c) = sock') := by
  by_cases hi : i = 0
  · simp [hi]
  · simpa [hi] using hc

/-- The first entry's socket is taken from the control block. -/
theorem away_entry (hc : 0 ≤ c → F c ∨ (i = 0 ∧ c = sock)) (sock' : Int) :
    0 ≤ (if i = 0 then -1 else c) → F (if i = 0 then -1 else c) ∨ (i = 0 ∧ (if i = 0 then -1 else c) = sock') := by
  by_cases hi : i = 0
  · simp [hi]
  · simpa [hi] using hc

theorem loseNetwork_entry (counters : Counters) (slot : Slot) :
    Triple (Entry F k i slot.runtime.sock) (loseNetwork i counters slot) (fun r => Entry F k i r.2.runtime.sock)
      Safe := by
  refine triple_entry fun c hc => ?_
  refine (netCloseSocket_owns slot.runtime.sock).bind fun _ => (setFirstSocket_owns i (-1)).bind fun _ => ?_
  refine (ask_owns _).bind fun now => triple_pure fun w hw => ?_
  exact ((owns_plus_closed (by simp)).2 hw).entry (away_entry hc (-1))

theorem feedNetwork_entry (hF : ∀ fd, 0 ≤ fd → F fd → 0 < k fd) (botai : BotAi) (counters : Counters) {slot : Slot}
    (hslot : SlotOk slot) (hopen : 0 ≤ slot.runtime.sock) (data : Bytes) :
    Triple (Entry F k i slot.runtime.sock) (feedNetwork botai i counters slot data)
      (fun r => Entry F k i r.2.runtime.sock) Safe := by
  refine triple_entry fun c hc => ?_
  unfold feedNetwork
  have hbound : Bound slot.runtime.sock slot.runtime := fun _ => ⟨rfl, hslot.commands hopen⟩
  have hfeed := (framerFeed_owns hopen (entry_covers hF hc) botai data slot.runtime.framer hbound).returns
    (framerFeed_handled botai data slot.runtime)
  refine hfeed.bind fun r => ?_
  obtain ⟨framer, runtime⟩ := r
  refine triple_fact fun hhandled => triple_ite (fun hclosed => ?_) fun hstill => triple_pure fun w hw => ?_
  · refine ((setFirstSocket_owns i (-1)).pre fun w => (owns_plus_closed hclosed).1).bind fun _ => triple_pure fun w hw => ?_
    exact ((owns_plus_closed hclosed).2 hw).entry (away_entry hc runtime.sock)
  · have hsame : runtime.sock = slot.runtime.sock := by
      have := hhandled.sock
      simp only at this hstill
      omega
    rw [hsame] at hw
    exact Owns.entry (by rw [hsame]; exact hw) (by rw [hsame]; exact hc)

theorem receiveNetwork_entry (hF : ∀ fd, 0 ≤ fd → F fd → 0 < k fd) (botai : BotAi) (ready : List Bool)
    (counters : Counters) {slot : Slot} (hslot : SlotOk slot) :
    Triple (Entry F k i slot.runtime.sock) (receiveNetwork botai ready i counters slot)
      (fun r => Entry F k i r.2.runtime.sock) Safe := by
  unfold receiveNetwork
  refine triple_ite (fun _ => triple_pure fun _ => id) fun hready => ?_
  have hopen := isOpen_of_ready hready
  refine takeTurn_triple (log_entry ⟨rfl, by simp [Obs.kind]⟩) ?_ fun r => log_entry ⟨rfl, by simp [Obs.kind]⟩
  refine Triple.bind (Q := fun _ => Entry F k i slot.runtime.sock) (triple_entry fun c hc => ?_) fun received => ?_
  · refine (on_owns (by decide) (netRecv_keeps _ _) (netRecv_talks (by simp) _) (has_plus k hopen)
      (entry_covers hF hc)).post fun _ w hw => hw.entry hc
  · split
    · exact loseNetwork_entry _ _
    · exact loseNetwork_entry _ _
    · exact feedNetwork_entry hF botai counters hslot hopen _

theorem retryNetwork_entry (hF : ∀ fd, 0 ≤ fd → F fd → 0 < k fd) (now : Int) (counters : Counters) {slot : Slot}
    (hslot : SlotOk slot) :
    Triple (Entry F k i slot.runtime.sock) (retryNetwork now i counters slot) (fun r => Entry F k i r.2.runtime.sock)
      Safe := by
  unfold retryNetwork
  refine triple_ite (fun _ => triple_pure fun _ => id) fun hdue => ?_
  have hclosed := hslot.closed (retryEnabled_of_due hdue)
  refine takeTurn_triple (log_entry ⟨rfl, by simp [Obs.kind]⟩) (triple_entry fun c hc => ?_) fun r =>
    log_entry ⟨rfl, by simp [Obs.kind]⟩
  rw [hclosed] at hc ⊢
  have hkept : 0 ≤ c → F c := by
    intro hnonneg
    rcases hc hnonneg with hfree | hminus
    · exact hfree
    · omega
  have hcovers : Covers k c := fun hnonneg => hF c hnonneg (hkept hnonneg)
  refine ((connectRuntime_owns hcovers (by omega)).pre fun w => (owns_plus_closed (by decide)).1).bind fun r => ?_
  obtain ⟨result, runtime⟩ := r
  cases result with
  | ok =>
    refine (quiet_owns (by decide) (decrement_keeps _)).bind fun retrying => ?_
    refine (setFirstSocket_owns i runtime.sock).bind fun _ => triple_pure fun w hw => hw.entry ?_
    exact first_entry hc runtime.sock
  | permanent =>
    refine (quiet_owns (by decide) (decrement_keeps _)).bind fun retrying => triple_pure fun w hw => ?_
    exact hw.entry fun hnonneg => .inl (hkept hnonneg)
  | retry => exact triple_pure fun w hw => hw.entry fun hnonneg => .inl (hkept hnonneg)

end Entry

/-! ## The table -/

/-- The sockets of the table, and those that earlier runs have left open. -/
def opened (left : Int → Nat) (slots : List Slot) (fd : Int) : Nat := left fd + tally slots fd

/-- The table's sockets are open, and the control block has the first network's
or one that was left open. -/
def Table (left : Int → Nat) (slots : List Slot) (w : World) : Prop :=
  Owns (opened left slots) w.control.sock w ∧
    (0 ≤ w.control.sock → 0 < left w.control.sock ∨ w.control.sock = firstSocket slots)

variable {left : Int → Nat}

theorem opened_middle (left : Int → Nat) (done rest : List Slot) (slot : Slot) :
    opened left (done ++ slot :: rest) = plus (opened left (done ++ rest)) slot.runtime.sock := by
  funext fd
  simp only [opened, tally_middle, plus, Nat.add_assoc]

theorem opened_snoc (left : Int → Nat) (done : List Slot) (slot : Slot) :
    opened left (done ++ [slot]) = plus (opened left done) slot.runtime.sock := by
  simpa using opened_middle left done [] slot

theorem tally_pos {slots : List Slot} {slot : Slot} (h : slot ∈ slots) : 0 < tally slots slot.runtime.sock :=
  List.countP_pos_iff.2 ⟨slot, h, by simp⟩

/-- The first socket of a table that has one. -/
theorem firstSocket_mem {slots : List Slot} (h : 0 ≤ firstSocket slots) : 0 < tally slots (firstSocket slots) := by
  cases slots with
  | nil => simp [firstSocket] at h
  | cons slot rest => exact tally_pos (List.mem_cons_self (a := slot))

theorem table_covers {slots : List Slot} (hc : 0 ≤ c → 0 < left c ∨ c = firstSocket slots) :
    Covers (opened left slots) c := by
  intro hnonneg
  unfold opened
  rcases hc hnonneg with h | rfl
  · omega
  · have := firstSocket_mem hnonneg
    omega

/-- The body of a sweep over the table, where only its entry's socket changes
hands. -/
theorem table_middle {m : M (Counters × Slot)} {slot : Slot} {done rest : List Slot}
    (h : ∀ F k, (∀ fd, 0 ≤ fd → F fd → 0 < k fd) →
      Triple (Entry F k done.length slot.runtime.sock) m (fun r => Entry F k done.length r.2.runtime.sock) Safe) :
    Triple (Table left (done ++ slot :: rest)) m (fun r => Table left (done ++ r.2 :: rest)) Safe := by
  -- the other entries, the first among them unless it is this one
  let F : Int → Prop := fun fd => 0 < left fd ∨ (done ≠ [] ∧ fd = firstSocket done)
  have hF : ∀ fd, 0 ≤ fd → F fd → 0 < opened left (done ++ rest) fd := by
    rintro fd hnonneg (hleft | ⟨-, rfl⟩)
    · unfold opened
      omega
    · have hfirst := firstSocket_mem hnonneg
      unfold opened
      simp only [tally, List.countP_append] at hfirst ⊢
      omega
  have hentry (slot : Slot) (w : World) :
      Table left (done ++ slot :: rest) w ↔ Entry F (opened left (done ++ rest)) done.length slot.runtime.sock w := by
    unfold Table Entry
    rw [opened_middle]
    refine and_congr_right fun _ => forall_congr' fun _ => ?_
    cases done with
    | nil => simp [F, firstSocket]
    | cons first done => simp [F, firstSocket]
  exact (h F _ hF).conseq (fun w hw => (hentry slot w).1 hw) (fun r w hw => (hentry r.2 w).2 hw) fun _ => id

/-- Between two runs: some descriptors are open, and the control block's socket
is one of them. -/
def Between (w : World) : Prop := ∃ k, Owns k w.control.sock w ∧ Covers k w.control.sock

theorem Owns.between {w : World} (h : Owns k c w) (hc : Covers k c) : Between w := by
  obtain rfl := h.control
  exact ⟨k, h, hc⟩

theorem triple_between {m : M α} (h : ∀ k c, Covers k c → Triple (Owns k c) m (fun _ => Owns k c) Safe) :
    Triple Between m (fun _ => Between) Safe := by
  rintro env w ⟨k, hw, hc⟩
  exact ((h k _ hc).post fun _ _ hw => hw.between hc) env w hw

/-- A change of the world that no descriptor is concerned in. -/
theorem modify_owns {f : World → World} (hf : ∀ w, (f w).trace = w.trace ∧ (f w).control.sock = w.control.sock) :
    Triple (Owns k c) (Prog.modify f : M Unit) (fun _ => Owns k c) Safe := by
  refine triple_modify fun w hw => ⟨fun fd hfd => ?_, ?_, (hf w).2.trans hw.control⟩
  · rw [(hf w).1]
    exact hw.opens fd hfd
  · unfold Safe
    rw [(hf w).1]
    exact hw.safe

theorem modifyControl_owns {f : Control → Control} (hf : ∀ control, (f control).sock = control.sock) :
    Triple (Owns k c) (modifyControl f) (fun _ => Owns k c) Safe :=
  modify_owns fun w => ⟨rfl, hf w.control⟩

theorem setSocket_owns (sock : Int) : Triple (Owns k c) (setSocket sock) (fun _ => Owns k sock) Safe :=
  triple_modify fun _ hw => ⟨hw.opens, hw.safe, rfl⟩

/-! ## The multi-network run -/

theorem Table.between {slots : List Slot} {w : World} (h : Table left slots w) : Between w :=
  h.1.between (table_covers h.2)

/-- What needs the table's sockets only. -/
theorem triple_table {slots : List Slot} {m : M α}
    (h : ∀ c, Covers (opened left slots) c →
      Triple (Owns (opened left slots) c) m (fun _ => Owns (opened left slots) c) Safe) :
    Triple (Table left slots) m (fun _ => Table left slots) Safe := by
  intro env w hw
  refine ((h _ (table_covers hw.2)).post fun _ w' hw' => (⟨?_, ?_⟩ : Table left slots w')) env w hw.1
  · rw [hw'.control]
    exact hw'
  · rw [hw'.control]
    exact hw.2

theorem multinetServe_table (botai : BotAi) (ready : List Bool) (s : MultinetState) :
    Triple (fun w => Bookkeeping s.slots s.counters.active s.counters.retrying ∧ Table left s.slots w)
      (multinetServe botai ready s)
      (fun s w => Bookkeeping s.slots s.counters.active s.counters.retrying ∧ Table left s.slots w) Safe := by
  unfold multinetServe
  refine Triple.bind (Q := fun r w => Bookkeeping r.2 r.1.active r.1.retrying ∧ Table left r.2 w)
    (triple_ite (fun _ => triple_fact fun hb => ?_) fun _ => triple_pure fun _ => id) fun r => ?_
  · refine Triple.bind (Q := fun _ => Table left s.slots) (triple_table fun _ _ => ask_owns _) fun now => ?_
    refine triple_same.bind fun control => ?_
    refine Triple.bind (Q := fun _ => Table left s.slots) (triple_table fun _ _ => log_owns ⟨rfl, by simp [Obs.kind]⟩)
      fun _ => ?_
    refine (table_sweep (J := fun slots => Table left slots) (fun _ _ _ _ i hb => retryNetwork_returns now i hb)
      (fun done rest c slot hb => table_middle fun F k hF => ?_) s.counters s.slots).pre fun w hw => ⟨hb, hw⟩
    exact retryNetwork_entry hF now c (hb.slot slot (by simp))
  · refine Triple.bind (table_sweep (J := fun slots => Table left slots)
      (fun _ _ _ _ i hb => receiveNetwork_returns botai ready i hb)
      (fun done rest c slot hb => table_middle fun F k hF =>
        receiveNetwork_entry hF botai ready c (hb.slot slot (by simp))) r.1 r.2) fun r => triple_pure fun _ => id

theorem multinetStop_between (s : MultinetState) :
    Triple (Table left s.slots) (multinetStop s) (fun _ => Between) Safe := by
  intro env w hw
  have hclose (c : Int) : Triple (Owns (opened left s.slots) c) (multinetStop s) (fun _ => Between) Safe := by
    unfold multinetStop
    refine Triple.bind (triple_each (I := fun rest => Owns (opened left rest) c) (fun slot rest => ?_) s.slots)
      fun _ => ?_
    · rw [show slot :: rest = [] ++ slot :: rest from rfl, opened_middle]
      exact triple_ite (fun _ => netCloseSocket_owns _) fun h => triple_pure fun w => (owns_plus_closed (by omega)).1
    · refine Triple.bind (Q := fun _ => Between) (triple_modify fun w hw => ?_) fun _ => triple_pure fun _ => id
      exact Owns.between (c := -1) ⟨hw.opens, hw.safe, rfl⟩ covers_none
  exact hclose _ env w hw.1

/-- The invariant of the main loop. -/
def Handling (left : Int → Nat) (s : MultinetState) (w : World) : Prop :=
  Bookkeeping s.slots s.counters.active s.counters.retrying ∧ Table left s.slots w

/-- The loop waits for open sockets. -/
theorem waits_open {s : MultinetState} (hb : Bookkeeping s.slots s.counters.active s.counters.retrying) :
    ∀ fd ∈ s.sockets, 0 ≤ fd → 0 < opened left s.slots fd := by
  intro fd hfd _
  obtain ⟨slot, hslot, rfl⟩ := List.mem_map.1 hfd
  rw [(hb.slot slot hslot).socket]
  have := tally_pos hslot
  unfold opened
  omega

theorem multinetRound_handling (botai : BotAi) (s : MultinetState) :
    Triple (Handling left s) (multinetRound botai s) (Next (Handling left) fun _ => Between) Safe := by
  unfold multinetRound
  refine triple_fact fun hb => triple_same.bind fun control => triple_ite (fun _ => ?_) fun _ => ?_
  · exact (multinetStop_between s).bind fun result => triple_pure fun _ => id
  refine Triple.bind (Q := fun _ => Table left s.slots) (triple_table fun _ _ => log_owns ⟨rfl, by simp [Obs.kind]⟩)
    fun _ => triple_ite (fun _ => triple_pure fun _ hw => hw.between) fun _ => ?_
  refine Triple.bind (Q := fun _ => Table left s.slots) (triple_table fun _ _ => netWaitMany_owns _ (waits_open hb))
    fun result => ?_
  refine Triple.bind (Q := fun _ => Table left s.slots)
    (triple_ite (fun _ => triple_table fun _ hc => rexxProcess_owns hc) fun _ => triple_pure fun _ => id) fun _ => ?_
  refine triple_same.bind fun control => ?_
  refine Triple.bind (Q := fun _ => Table left s.slots) (triple_table fun _ _ => log_owns ⟨rfl, by simp [Obs.kind]⟩)
    fun _ => triple_ite (fun _ => triple_pure fun _ hw => hw.between) fun _ => triple_ite (fun _ => ?_) fun _ => ?_
  · refine Triple.bind (Q := fun _ => Table left s.slots) (triple_table fun _ _ => log_owns ⟨rfl, by simp [Obs.kind]⟩)
      fun _ => ?_
    refine Triple.bind (Q := fun _ => Table left s.slots) (triple_table fun _ _ => modifyControl_owns fun _ => rfl)
      fun _ => ?_
    exact (multinetStop_between s).bind fun result => triple_pure fun _ => id
  refine triple_ite (fun _ => triple_pure fun _ hw => hw.between) fun _ => ?_
  exact ((multinetServe_table botai result.ready s).pre fun w hw => ⟨hb, hw⟩).bind fun s' => triple_pure fun _ => id

/-- The first connects, on top of what is open. -/
theorem multinetStart_handling (networks : Networks) (hc : Covers left c) :
    Triple (Owns left c) (multinetStart networks) (Handling left) Safe := by
  unfold multinetStart
  have hsweep := start_sweep (J := fun slots => Owns (opened left slots) c) (S := Safe) networks.items
    fun done counters config => by
      have hcovers : Covers (opened left done) c := fun hnonneg => Nat.add_pos_left (hc hnonneg) _
      simp only [opened_snoc]
      exact startNetwork_owns hcovers _ counters config
  have hnone : opened left [] = left := by
    funext fd
    simp [opened, tally]
  rw [hnone] at hsweep
  refine hsweep.bind fun r => ?_
  obtain ⟨counters, slots⟩ := r
  refine triple_fact fun hb => triple_same.bind fun control => (log_owns ⟨rfl, by simp [Obs.kind]⟩).bind fun _ => ?_
  refine Triple.bind (Q := fun _ => Table left slots) (triple_ite (fun hopen => triple_modify fun w hw => ?_) fun _ =>
    triple_pure fun w hw => ?_) fun _ => triple_pure fun _ hw => ⟨hb, hw⟩
  · exact ⟨⟨hw.opens, hw.safe, rfl⟩, fun _ => .inr rfl⟩
  · obtain rfl := hw.control
    exact ⟨hw, fun hnonneg => .inl (hc hnonneg)⟩

theorem multinetRun_between (networks : Networks) (botai : BotAi) :
    Triple Between (multinetRun networks botai) (fun _ => Between) Safe := by
  rintro env w ⟨left, hw, hc⟩
  have hrun : Triple (Owns left w.control.sock) (multinetRun networks botai) (fun _ => Between) Safe := by
    refine (multinetStart_handling networks hc).bind fun s => triple_same.bind fun fuel => ?_
    exact triple_loop fuel (multinetRound_handling botai) (fun _ _ hw => hw.2.1.safe) s
  exact hrun env w hw

end AmBot
