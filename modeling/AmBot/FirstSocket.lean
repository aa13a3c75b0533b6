import AmBot.Rounds
/-!
# The socket of the control block

The ARexx commands use the socket in the control block. A run sets it wherever
the first network's socket changes, so within a run the two agree once they
do; but a run starts with the socket the last one left, and sets it only where
the first network connects.
-/

namespace AmBot

open RunLib RunLib.Prog

/-- The control block addresses `sock`. -/
def Linked (sock : Int) (control : Control) : Prop := control.sock = sock ∧ (control.connected = true ↔ 0 ≤ sock)

/-- An iteration starts with the control block addressing the first network. -/
def Obs.addressed : Obs → Prop
  | .iteration slots _ _ control => Linked (firstSocket slots) control
  | _ => True

/-- A run's first connects have opened the first network, or the control block
has no socket of an earlier run. -/
def Obs.startsClear : Obs → Prop
  | .opened slots control => control.sock < 0 ∨ 0 ≤ firstSocket slots
  | _ => True

theorem controlSetSocket_linked (control : Control) (sock : Int) : Linked sock (controlSetSocket control sock) := by
  simp [Linked, controlSetSocket]

theorem controlInit_linked : Linked (-1) controlInit := by simp [Linked, controlInit]

/-- No ARexx command changes the socket. -/
theorem Answered.linked {c c' : Control} {input result : Bytes} {rc : Nat} {sock : Int}
    (h : Answered c input rc result c') (hc : Linked sock c) : Linked sock c' := by
  cases h with
  | connect =>
    unfold operationConnect
    split
    · exact hc
    · exact hc
  | disconnect => exact hc
  | reload => exact hc
  | quit => exact hc
  | other => exact hc

/-! ## Triples about the socket -/

/-- What is known between two marks. -/
def Tied (sock : Int) (w : World) : Prop := Linked sock w.control ∧ AllObs Obs.addressed w

/-- The control block addresses `sock`, as long as every run has started clear. -/
abbrev Points (sock : Int) : World → Prop := Given Obs.startsClear (Tied sock)

/-- Every iteration so far was addressed, as long as every run has started clear. -/
abbrev Addressed : World → Prop := Given Obs.startsClear (AllObs Obs.addressed)

section
variable {α : Type} {S : List Kind} {sock : Int}

theorem Points.addressed {w : World} (h : Points sock w) : Addressed w := h.mono And.right

theorem addressed_of_kind {o : Obs} (h : o.kind ≠ .iteration) : o.addressed := by
  cases o <;> trivial

theorem Tied.act {w w' : World} (hS : .iteration ∉ S) (h : Act S w w') (hw : Tied sock w) : Tied sock w' := by
  obtain ⟨hlinked, hall⟩ := hw
  cases h with
  | tick => exact ⟨hlinked, hall⟩
  | signal => exact ⟨hlinked, hall⟩
  | log o ho => exact ⟨hlinked, hall.log (addressed_of_kind fun hk => hS (hk ▸ ho))⟩
  | answer input rc result control _ ha => exact ⟨ha.linked hlinked, hall.log trivial⟩

/-- A function that starts no iteration leaves the socket as it is. -/
theorem acts_points {m : M α} (hS : .iteration ∉ S) (h : Keeps (Acts S) m) :
    Triple (Points sock) m (fun _ => Points sock) Addressed :=
  given_acts h (fun _ _ ha hw => hw.act hS ha) fun _ hw => hw.2

theorem modifyControl_points {f : Control → Control} {k : Int} (h : ∀ c, Linked sock c → Linked k (f c)) :
    Triple (Points sock) (modifyControl f) (fun _ => Points k) Addressed :=
  triple_modify fun w hw hall => by
    obtain ⟨hlinked, haddressed⟩ := hw hall
    exact ⟨h w.control hlinked, haddressed⟩

theorem setSocket_points (new : Int) : Triple (Points sock) (setSocket new) (fun _ => Points new) Addressed :=
  modifyControl_points fun _ _ => controlSetSocket_linked _ _

end

/-! ## The first network -/

/-- The first socket of a table whose entry `i` has `sock` and whose first
entry, where that is another, has `other`. -/
def headSocket (i : Nat) (sock other : Int) : Int := if i = 0 then sock else other

theorem firstSocket_middle (done rest : List Slot) (slot : Slot) :
    firstSocket (done ++ slot :: rest) = headSocket done.length slot.runtime.sock (firstSocket done) := by
  cases done with
  | nil => rfl
  | cons first done => rfl

theorem setFirstSocket_points (i : Nat) (old new other : Int) :
    Triple (Points (headSocket i old other)) (setFirstSocket i new) (fun _ => Points (headSocket i new other))
      Addressed := by
  unfold setFirstSocket headSocket Prog.when
  by_cases hi : i = 0
  · simp only [hi, decide_true, if_true]
    exact setSocket_points new
  · simp only [hi, decide_false, Bool.false_eq_true, if_false]
    exact triple_pure fun _ hw => hw

theorem takeTurn_points {sock : Int} {new : Counters × Slot → Int} {i : Nat} {slot : Slot} {step : M (Counters × Slot)}
    (h : Triple (Points sock) step (fun r => Points (new r)) Addressed) :
    Triple (Points sock) (takeTurn i slot step) (fun r => Points (new r)) Addressed :=
  takeTurn_triple (acts_points (S := [.turn]) (by decide) (keeps_log (by simp [Obs.kind]))) h fun _ =>
    acts_points (S := [.settled]) (by decide) (keeps_log (by simp [Obs.kind]))

theorem retryNetwork_points (now : Int) (i : Nat) (c : Counters) {slot : Slot} (hslot : SlotOk slot) (other : Int) :
    Triple (Points (headSocket i slot.runtime.sock other)) (retryNetwork now i c slot)
      (fun r => Points (headSocket i r.2.runtime.sock other)) Addressed := by
  unfold retryNetwork
  refine triple_ite (fun _ => triple_pure fun _ hw => hw) fun hdue => ?_
  have hminus := hslot.closed (retryEnabled_of_due hdue)
  refine takeTurn_points (((acts_points (by decide) (connectRuntime_keeps _)).returns
    (connectRuntime_returns hminus)).bind fun r => ?_)
  obtain ⟨result, runtime⟩ := r
  refine triple_fact fun hout => ?_
  -- a connect that fails leaves the runtime without a socket, as it was
  have hsame : result ≠ .ok → runtime.sock = slot.runtime.sock := fun h => (hout.failed h).trans hminus.symm
  cases result with
  | ok =>
    refine (acts_points (by decide) (decrement_keeps _)).bind fun retrying => ?_
    exact (setFirstSocket_points i _ _ other).bind fun _ => triple_pure fun _ hw => hw
  | permanent =>
    refine (acts_points (by decide) (decrement_keeps _)).bind fun retrying => triple_pure fun w hw => ?_
    dsimp only
    rw [hsame (by simp)]
    exact hw
  | retry =>
    refine triple_pure fun w hw => ?_
    dsimp only
    rw [hsame (by simp)]
    exact hw

theorem loseNetwork_points (i : Nat) (c : Counters) (slot : Slot) (other : Int) :
    Triple (Points (headSocket i slot.runtime.sock other)) (loseNetwork i c slot)
      (fun r => Points (headSocket i r.2.runtime.sock other)) Addressed := by
  refine (acts_points (by decide) (netCloseSocket_keeps _)).bind fun _ => ?_
  refine (setFirstSocket_points i _ _ other).bind fun _ => ?_
  exact Triple.bind (acts_points (S := []) (by simp) (keeps_ask _)) fun _ => triple_pure fun _ hw => hw

theorem feedNetwork_points (botai : BotAi) (i : Nat) (c : Counters) {slot : Slot} (hopen : 0 ≤ slot.runtime.sock)
    (data : Bytes) (other : Int) :
    Triple (Points (headSocket i slot.runtime.sock other)) (feedNetwork botai i c slot data)
      (fun r => Points (headSocket i r.2.runtime.sock other)) Addressed := by
  have hfeed : Triple (Points (headSocket i slot.runtime.sock other))
      (framerFeed (multinetHandleLine botai) data slot.runtime.framer slot.runtime)
      (fun _ => Points (headSocket i slot.runtime.sock other)) Addressed :=
    acts_points (by decide) (framerFeed_keeps (multinetHandleLine_keeps botai) data _ _)
  unfold feedNetwork
  refine (hfeed.returns (framerFeed_handled botai data slot.runtime)).bind fun r => ?_
  obtain ⟨framer, runtime⟩ := r
  refine triple_fact fun hr => ?_
  have hsock : runtime.sock = slot.runtime.sock ∨ runtime.sock = -1 := hr.sock
  refine triple_ite (fun hneg => ?_) fun hnow => ?_
  · -- the negotiation has failed
    have hminus : runtime.sock = -1 := by dsimp only at hneg; omega
    refine (setFirstSocket_points i _ _ other).bind fun _ => triple_pure fun w hw => ?_
    dsimp only
    rw [hminus]
    exact hw
  · have hkept : runtime.sock = slot.runtime.sock := by dsimp only at hnow; omega
    refine triple_pure fun w hw => ?_
    dsimp only
    rw [hkept]
    exact hw

theorem receiveNetwork_points (botai : BotAi) (ready : List Bool) (i : Nat) (c : Counters) (slot : Slot) (other : Int) :
    Triple (Points (headSocket i slot.runtime.sock other)) (receiveNetwork botai ready i c slot)
      (fun r => Points (headSocket i r.2.runtime.sock other)) Addressed := by
  unfold receiveNetwork
  refine triple_ite (fun _ => triple_pure fun _ hw => hw) fun hready => ?_
  have hopen := isOpen_of_ready hready
  refine takeTurn_points ((acts_points (by decide) (netRecv_keeps _ _)).bind fun received => ?_)
  split
  · exact loseNetwork_points _ _ _ other
  · exact loseNetwork_points _ _ _ other
  · exact feedNetwork_points botai i c hopen _ other

/-- The body of a sweep over the open table. -/
theorem points_middle {m : M (Counters × Slot)} {slot : Slot} {done rest : List Slot}
    (h : ∀ other, Triple (Points (headSocket done.length slot.runtime.sock other)) m
      (fun r => Points (headSocket done.length r.2.runtime.sock other)) Addressed) :
    Triple (Points (firstSocket (done ++ slot :: rest))) m (fun r => Points (firstSocket (done ++ r.2 :: rest)))
      Addressed := by
  simp only [firstSocket_middle]
  exact h _

/-! ## A run -/

/-- Between runs the control block addresses some socket, or none. -/
def Left (w : World) : Prop := ∃ sock, -1 ≤ sock ∧ Points sock w

theorem Left.addressed {w : World} (h : Left w) : Addressed w := by
  obtain ⟨sock, -, hw⟩ := h
  exact hw.addressed

theorem Bookkeeping.firstSocket_range {slots : List Slot} {active retrying : Nat}
    (h : Bookkeeping slots active retrying) : -1 ≤ firstSocket slots := by
  cases slots with
  | nil => exact Int.le_refl _
  | cons first rest => exact (h.slot first List.mem_cons_self).range

theorem multinetStop_left (s : MultinetState) : Triple Left (multinetStop s) (fun _ => Left) Addressed := by
  rintro env w ⟨sock, -, hw⟩
  have hstop : Triple (Points sock) (multinetStop s) (fun _ => Left) Addressed := by
    refine (acts_points (by decide) (closeAll_keeps s.slots)).bind fun _ => (setSocket_points (-1)).bind fun _ => ?_
    exact triple_pure fun w hw => ⟨-1, by decide, hw⟩
  exact hstop env w hw

theorem Points.left {slots : List Slot} {active retrying : Nat} {w : World} (h : Points (firstSocket slots) w)
    (hb : Bookkeeping slots active retrying) : Left w := ⟨firstSocket slots, hb.firstSocket_range, h⟩

/-- The main loop keeps the control block on the first network. -/
theorem points_rounds : RoundByRound (fun slots => Points (firstSocket slots)) Left Addressed where
  halted _ _ hw := hw.addressed
  left _ _ _ _ hb hw := hw.left hb
  tick _ _ := id
  quit _ _ := id
  mark slots w o ho hw := hw.log fun _ hnow => by
    refine ⟨hnow.1, hnow.2.log ?_⟩
    cases ho with
    | iteration => exact hnow.1
    | woken => trivial
    | retry => trivial
    | ctrlC => trivial
  wait _ _ _ := acts_points (by decide) (netWaitMany_keeps _ _)
  rexx _ := acts_points (by decide) rexxProcess_keeps
  stop s hb := (multinetStop_left s).pre fun _ hw => hw.left hb
  retry now _ _ c _ hslot := points_middle fun other => retryNetwork_points now _ c hslot other
  receive botai ready _ _ c slot _ := points_middle fun other => receiveNetwork_points botai ready _ c slot other

theorem startNetwork_points {sock : Int} (i : Nat) (c : Counters) (config : NetworkConfig) :
    Triple (Points sock) (startNetwork i c config) (fun _ => Points sock) Addressed := by
  unfold startNetwork
  refine takeTurn_points ((acts_points (by decide) (connectRuntime_keeps _)).bind fun r => ?_)
  obtain ⟨result, runtime⟩ := r
  cases result with
  | ok => exact triple_pure fun _ => id
  | retry => exact Triple.bind (acts_points (S := []) (by simp) (keeps_ask _)) fun _ => triple_pure fun _ => id
  | permanent => exact triple_pure fun _ => id

theorem multinetStart_addressing (networks : Networks) :
    Triple Left (multinetStart networks) (Sheet fun slots => Points (firstSocket slots)) Addressed := by
  rintro env w ⟨sock, hrange, hw⟩
  have hstart : Triple (Points sock) (multinetStart networks) (Sheet fun slots => Points (firstSocket slots)) Addressed := by
    unfold multinetStart
    refine (start_sweep (J := fun _ => Points sock) networks.items fun _ _ _ => startNetwork_points _ _ _).bind fun r => ?_
    obtain ⟨counters, slots⟩ := r
    refine triple_fact fun hb => ?_
    refine Triple.bind (Q := fun control w => Points sock w ∧ control = w.control)
      (triple_read fun _ w hw => ⟨hw, rfl⟩) fun control => ?_
    -- past the mark, the first network is open or the control block has no socket
    refine Triple.bind (Q := fun _ => Given Obs.startsClear fun w => Tied sock w ∧ (sock < 0 ∨ 0 ≤ firstSocket slots))
      (triple_modify fun w hw => hw.1.log fun hclear hnow => ?_) fun _ => ?_
    · refine ⟨⟨hnow.1, hnow.2.log trivial⟩, ?_⟩
      have hsock : control.sock = sock := by rw [hw.2]; exact hnow.1.1
      rw [← hsock]
      exact hclear
    refine Triple.bind (Q := fun _ => Points (firstSocket slots))
      (triple_ite (fun hopen => ?_) fun hclosed => ?_) fun _ => triple_pure fun _ hw => ⟨hb, hw⟩
    · exact (setSocket_points _).pre fun w hw => hw.mono And.left
    · refine triple_pure fun w hw => hw.mono fun ⟨htied, hclear⟩ => ?_
      have hfirst : -1 ≤ firstSocket slots := hb.firstSocket_range
      simp only [decide_eq_true_eq] at hclosed
      have hsame : firstSocket slots = sock := by omega
      rw [hsame]
      exact htied
  exact hstart env w hw

theorem multinetRun_left (networks : Networks) (botai : BotAi) :
    Triple Left (multinetRun networks botai) (fun _ => Left) Addressed :=
  points_rounds.run networks botai (multinetStart_addressing networks)

/-! ## Between runs -/

section
variable {sock : Int}

theorem loadConfig_points (path : Bytes) : Triple (Points sock) (loadConfig path) (fun _ => Points sock) Addressed := by
  refine triple_same.bind fun config => ?_
  refine Triple.bind (acts_points (S := []) (by simp) (keeps_ask _)) fun file => ?_
  refine Triple.bind (acts_points (S := [.load]) (by decide) (keeps_log (by simp [Obs.kind])))
    fun _ => ?_
  exact Triple.bind (Q := fun _ => Points sock) (triple_modify fun _ hw => hw) fun _ => triple_pure fun _ hw => hw

theorem reloadRequestedConfig_points :
    Triple (Points sock) reloadRequestedConfig (fun _ => Points sock) Addressed := by
  refine triple_same.bind fun control => ?_
  refine triple_same.bind fun config => ?_
  refine triple_ite (fun _ => ?_) fun _ => triple_pure fun _ hw => hw
  exact (modifyControl_points fun _ hc => hc).bind fun _ => loadConfig_points _

theorem afterMultinet_points (result : MultinetResult) :
    Triple (Points sock) (afterMultinet result) (fun _ => Points sock) Addressed := by
  unfold afterMultinet
  refine triple_same.bind fun control => ?_
  refine Triple.bind (acts_points (S := [.ctrlC]) (by decide) (keeps_ite (keeps_pure _) ctrlCRequested_keeps))
    fun stopped => ?_
  refine triple_ite (fun _ => triple_pure fun _ hw => hw) fun _ => triple_ite (fun _ => ?_) fun _ => ?_
  · refine Triple.bind (modifyControl_points fun _ hc => hc) fun _ => ?_
    refine triple_same.bind fun config => ?_
    refine triple_ite (fun _ => triple_pure fun _ hw => hw) fun _ => ?_
    exact (loadConfig_points _).bind fun rc => triple_pure fun _ hw => hw
  refine triple_ite (fun _ => ?_) fun _ => triple_ite (fun _ => ?_) fun _ => triple_ite (fun _ => ?_) fun _ => ?_
  · refine Triple.bind (modifyControl_points fun _ hc => hc) fun _ => ?_
    exact (acts_points (by decide) (waitForConnect_keeps false)).bind fun _ => triple_pure fun _ hw => hw
  · refine Triple.bind (modifyControl_points fun _ hc => hc) fun _ => ?_
    refine (acts_points (by decide) (waitForConnect_keeps true)).bind fun _ => ?_
    exact reloadRequestedConfig_points.bind fun rc => triple_pure fun _ hw => hw
  · refine (acts_points (by decide) (waitToRebuild_keeps 50)).bind fun _ => ?_
    exact reloadRequestedConfig_points.bind fun rc => triple_pure fun _ hw => hw
  · exact triple_pure fun _ hw => hw

end

/-- A triple for each socket is one for whichever socket was left. -/
theorem left_triple {α : Type} {m : M α} (h : ∀ sock, Triple (Points sock) m (fun _ => Points sock) Addressed) :
    Triple Left m (fun _ => Left) Addressed := by
  rintro env w ⟨sock, hrange, hw⟩
  exact ((h sock).post fun _ w hw => (⟨sock, hrange, hw⟩ : Left w)) env w hw

theorem m7Round_left (botai : BotAi) (s : Unit) :
    Triple Left (m7Round botai s) (Next (fun _ => Left) fun _ => Left) Addressed := by
  unfold m7Round
  refine (left_triple fun _ => acts_points (by decide) ctrlCRequested_keeps).bind fun ctrlC => ?_
  refine triple_same.bind fun control => ?_
  refine triple_ite (fun _ => triple_pure fun _ hw => hw) fun _ => ?_
  refine triple_same.bind fun config => ?_
  refine triple_ite (fun _ => triple_pure fun _ hw => hw) fun _ => ?_
  refine Triple.bind (left_triple fun _ => acts_points (S := [.rebuild]) (by decide)
    (keeps_log (by simp [Obs.kind]))) fun _ => ?_
  refine Triple.bind (left_triple fun _ => modifyControl_points fun _ hc => hc) fun _ => ?_
  refine (multinetRun_left _ botai).bind fun result => (left_triple fun _ => afterMultinet_points result).post ?_
  intro r w hw
  cases r with
  | inl _ => exact hw
  | inr _ => exact hw

theorem runM7Networks_left (botai : BotAi) : Triple Left (runM7Networks botai) (fun _ => Left) Addressed := by
  refine triple_same.bind fun fuel => ?_
  exact triple_loop fuel (m7Round_left botai) (fun _ _ hw => hw.addressed) ()

/-- Every iteration starts with the control block addressing the first network
of the current set, connected exactly where that network is open. -/
def AddressesFirst (trace : List Obs) : Prop :=
  ∀ slots active retrying control, .iteration slots active retrying control ∈ trace →
    control.sock = firstSocket slots ∧ (control.connected = true ↔ 0 ≤ firstSocket slots)

/-- The ARexx commands address the first network throughout a session whose
every run connects it at the start, or starts with no socket in the control
block. -/
theorem runM7Networks_addresses (botai : BotAi) (config : Config) (env : Env)
    (hclear : ∀ slots control, .opened slots control ∈ (runM7Networks botai env (worldInit config)).2.trace →
      control.sock < 0 ∨ 0 ≤ firstSocket slots) :
    AddressesFirst (runM7Networks botai env (worldInit config)).2.trace := by
  have hinit : Left (worldInit config) :=
    ⟨-1, by decide, fun _ => ⟨controlInit_linked, fun _ ho => absurd ho List.not_mem_nil⟩⟩
  have haddressed : Addressed (runM7Networks botai env (worldInit config)).2 :=
    (runM7Networks_left botai).all (fun _ _ hw => hw.addressed) (fun _ hw => hw) hinit
  have hall : AllObs Obs.addressed (runM7Networks botai env (worldInit config)).2 := haddressed fun o ho => by
    cases o <;> first | trivial | exact hclear _ _ ho
  intro slots active retrying control ho
  exact hall _ ho

/-- One server that connects every time, and a RELOAD after each connect. -/
theorem runM7Networks_addresses_reloads :
    AddressesFirst (runM7Networks botaiInit
      { Env.online with fuel := 2, messages := fun _ => [ascii "RELOAD"], file := fun _ => some [] }
      (worldInit oneServer)).2.trace := by
  refine runM7Networks_addresses botaiInit oneServer _ fun slots control ho => ?_
  have hopened : (runM7Networks botaiInit
      { Env.online with fuel := 2, messages := fun _ => [ascii "RELOAD"], file := fun _ => some [] }
      (worldInit oneServer)).2.trace.all (fun o => match o with
        | .opened slots _ => 0 ≤ firstSocket slots
        | _ => true) = true := by decide +kernel
  exact .inr (by simpa using List.all_eq_true.1 hopened _ ho)

/-- The server connects once; after the RELOAD it does not, and the iteration
of the new run starts with the descriptor of the old one. -/
theorem runM7Networks_addresses_stale :
    ¬ AddressesFirst (runM7Networks botaiInit
      { Env.online with
        fuel := 2, messages := fun _ => [ascii "RELOAD"], file := fun _ => some [], gethostbyname := fun n => n = 1 }
      (worldInit oneServer)).2.trace := by
  have hstale : (runM7Networks botaiInit
      { Env.online with
        fuel := 2, messages := fun _ => [ascii "RELOAD"], file := fun _ => some [], gethostbyname := fun n => n = 1 }
      (worldInit oneServer)).2.trace.any (fun o => match o with
        | .iteration slots _ _ control => control.sock = 3 && firstSocket slots = -1
        | _ => false) = true := by decide +kernel
  intro haddresses
  obtain ⟨o, ho, hsock⟩ := List.any_eq_true.1 hstale
  cases o with
  | iteration slots active retrying control =>
    simp only [Bool.and_eq_true, decide_eq_true_eq] at hsock
    have hsame := (haddresses slots active retrying control ho).1
    omega
  | _ => cases hsock

end AmBot
