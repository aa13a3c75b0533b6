import AmBot.Bookkeeping
/-!
# Descriptors

A ledger of the trace: how often each descriptor is open. Every function gives
back what it takes except through the socket it returns, so a run closes what
it opened exactly where it leaves with no network open; two of its exits do
not close anything.
-/

namespace AmBot

open RunLib RunLib.Prog

/-! ## The ledger -/

/-- How often `fd` is open after one more observation, having been open `n`
times; `none` where it is closed without being open. -/
def Obs.ledger (fd : Int) (n : Nat) (o : Obs) : Option Nat :=
  match o with
  | .connect _ _ result => some (n + one (result = fd))
  | .close sock => if sock = fd then (if n = 0 then none else some (n - 1)) else some n
  | _ => some n

/-- How often `fd` is open after a trace. -/
def held (fd : Int) (trace : List Obs) : Option Nat := trace.foldlM (Obs.ledger fd) 0

/-- Every descriptor that was opened has been closed, each opening once and
after it. -/
def ClosedOnce (trace : List Obs) : Prop := ∀ fd, 0 ≤ fd → held fd trace = some 0

/-- Each descriptor `fd` is open `k fd` times. -/
def Opens (k : Int → Nat) (w : World) : Prop := ∀ fd, 0 ≤ fd → held fd w.trace = some (k fd)

theorem held_snoc {fd : Int} {trace : List Obs} {n : Nat} (h : held fd trace = some n) (o : Obs) :
    held fd (trace ++ [o]) = o.ledger fd n := by
  simp only [held, List.foldlM_append] at h ⊢
  simp [h]

theorem Opens.log {k k' : Int → Nat} {w : World} (h : Opens k w) {o : Obs}
    (ho : ∀ fd, 0 ≤ fd → o.ledger fd (k fd) = some (k' fd)) : Opens k' (w.log o) := by
  intro fd hfd
  rw [World.log, held_snoc (h fd hfd), ho fd hfd]

/-- The kinds that open or close nothing. -/
def Kind.neutral : Kind → Bool
  | .connect | .close => false
  | _ => true

theorem Obs.ledger_neutral {o : Obs} (h : o.kind.neutral) (fd : Int) (n : Nat) : o.ledger fd n = some n := by
  cases o <;> first | rfl | cases h

theorem Logs.opens {S : List Kind} {k : Int → Nat} {w w' : World} (hS : ∀ kind ∈ S, kind.neutral) (h : Logs S w w')
    (hw : Opens k w) : Opens k w' := by
  obtain ⟨t, ht, hk⟩ := h
  intro fd hfd
  rw [ht]
  have hgo : ∀ (t : List Obs) (trace : List Obs), (∀ o ∈ t, o.kind ∈ S) → held fd trace = some (k fd) →
      held fd (trace ++ t) = some (k fd) := by
    intro t
    induction t with
    | nil => intro trace _ h; simpa using h
    | cons o t ih =>
      intro trace hk h
      rw [← List.singleton_append, ← List.append_assoc]
      refine ih _ (fun o' ho' => hk o' (List.mem_cons_of_mem _ ho')) ?_
      rw [held_snoc h, Obs.ledger_neutral (hS _ (hk o List.mem_cons_self))]
  exact hgo t w.trace hk (hw fd hfd)

section
variable {α : Type} {k : Int → Nat} {S : List Kind}

/-- A function that opens and closes nothing. -/
theorem neutral_opens {m : M α} (hS : ∀ kind ∈ S, kind.neutral) (h : Keeps (Moves S) m) :
    Triple (Opens k) m (fun _ => Opens k) fun _ => True :=
  (Keeps.triple h fun _ _ hw hm => hm.2.opens hS hw).conseq (fun _ => id) (fun _ _ => id) fun _ _ => trivial

theorem acts_opens {m : M α} (hS : ∀ kind ∈ S, kind.neutral) (h : Keeps (Acts S) m) :
    Triple (Opens k) m (fun _ => Opens k) fun _ => True :=
  neutral_opens hS (moves (List.Subset.refl S) h)

/-- One more opening of `sock`. -/
def plus (k : Int → Nat) (sock : Int) (fd : Int) : Nat := k fd + one (sock = fd)

theorem plus_closed {sock : Int} (h : sock < 0) {w : World} : Opens (plus k sock) w ↔ Opens k w := by
  refine forall₂_congr fun fd hfd => ?_
  have hne : sock ≠ fd := by omega
  simp [plus, one, hne]

theorem netCloseSocket_opens (sock : Int) :
    Triple (Opens (plus k sock)) (netCloseSocket sock) (fun _ => Opens k) fun _ => True := by
  unfold netCloseSocket
  refine triple_ite (fun _ => triple_modify fun w hw => hw.log fun fd _ => ?_) fun h => triple_pure fun w hw => ?_
  · by_cases hfd : sock = fd <;> simp [Obs.ledger, plus, one, hfd]
  · exact (plus_closed (by omega)).1 hw

theorem netConnectIpv4_opens (host : Bytes) (port : Nat) :
    Triple (Opens k) (netConnectIpv4 host port) (fun sock => Opens (plus k sock)) fun _ => True := by
  refine netConnectIpv4_triple fun sock w w' hw htrace => ?_
  have hopens : Opens (plus k sock) (w.log (.connect host port sock)) := hw.log fun fd _ => rfl
  unfold Opens
  rw [htrace]
  exact hopens

/-! ## BotAI -/

theorem httpReceive_opens (sock : Int) (timeout size n : Nat) (used : Bytes) :
    Triple (Opens (plus k sock)) (httpReceive sock timeout size n used)
      (fun received => Opens (if received.isSome then plus k sock else k)) fun _ => True := by
  -- the loop itself closes the socket where it gives up, and leaves it to its caller elsewhere
  induction n generalizing used with
  | zero => exact triple_pure fun _ => id
  | succ n ih =>
    unfold httpReceive
    refine triple_ite (fun _ => triple_pure fun _ => id) fun _ => ?_
    refine (acts_opens (by decide) (netWaitSocket_keeps _ _)).bind fun r => ?_
    obtain ⟨rc, ready⟩ := r
    refine triple_ite (fun _ => ?_) fun _ => ?_
    · exact (netCloseSocket_opens sock).bind fun _ => triple_pure fun _ => id
    · refine (acts_opens (by decide) (netRecv_keeps _ _)).bind fun received => ?_
      split
      · exact (netCloseSocket_opens sock).bind fun _ => triple_pure fun _ => id
      · exact triple_pure fun _ => id
      · exact ih _

theorem httpRequest_opens (botai : BotAi) (method endpoint : Bytes) (body : Option Bytes) (size : Nat) :
    Triple (Opens k) (httpRequest botai method endpoint body size) (fun _ => Opens k) fun _ => True := by
  unfold httpRequest
  split
  · exact triple_pure fun _ => id
  · refine (netConnectIpv4_opens _ _).bind fun sock =>
      triple_ite (fun h => triple_pure fun w => (plus_closed h).1) fun _ => ?_
    refine (acts_opens (by decide) (netSendAll_keeps _ _)).bind fun rc => triple_ite (fun _ => ?_) fun _ => ?_
    · exact (netCloseSocket_opens sock).bind fun _ => triple_pure fun _ => id
    · refine (httpReceive_opens sock _ _ _ _).bind fun received => ?_
      cases received with
      | none => exact triple_pure fun _ => id
      | some used =>
        refine (netCloseSocket_opens sock).bind fun _ => triple_ite (fun _ => triple_pure fun _ => id) fun _ => ?_
        exact triple_ite (fun _ => triple_pure fun _ => id) fun _ => triple_pure fun _ => id

theorem handleAi_opens (botai : BotAi) (context : CommandContext) (target p : Bytes) :
    Triple (Opens k) (handleAi botai context target p) (fun _ => Opens k) fun _ => True := by
  have reply (text : Bytes) : Triple (Opens k) (sendReply context target text) (fun _ => Opens k) fun _ => True :=
    acts_opens (by decide) (sendReply_keeps _ _ _)
  unfold handleAi botaiChat
  refine triple_ite (fun _ => reply _) fun _ => triple_ite (fun _ => reply _) fun _ => ?_
  refine Triple.bind (Q := fun _ => Opens k) ?_ fun _ => triple_ite (fun _ => reply _) fun _ => reply _
  split
  · exact triple_pure fun _ => id
  · refine (httpRequest_opens _ _ _ _ _).bind fun response => ?_
    split <;> exact triple_pure fun _ => id

theorem commandsHandleEvent_opens (botai : BotAi) (event : Event) (context : CommandContext) :
    Triple (Opens k) (commandsHandleEvent botai event context) (fun _ => Opens k) fun _ => True := by
  have reply (target text : Bytes) : Triple (Opens k) (sendReply context target text) (fun _ => Opens k) fun _ => True :=
    acts_opens (by decide) (sendReply_keeps _ _ _)
  unfold commandsHandleEvent
  refine triple_ite (fun _ => triple_pure fun _ => id) fun _ => triple_ite (fun _ => triple_pure fun _ => id) fun _ => ?_
  split
  · exact reply _ _
  · refine triple_ite (fun _ => reply _ _) fun _ => ?_
    split
    · exact reply _ _
    · exact reply _ _
    · exact reply _ _
    · exact handleAi_opens _ _ _ _

theorem dispatchEvent_opens (botai : BotAi) (commands : CommandContext) (hooks : HookContext) (event : Event) :
    Triple (Opens k) (dispatchEvent botai commands hooks event) (fun _ => Opens k) fun _ => True := by
  refine triple_same.bind fun control => ?_
  refine Triple.bind (acts_opens (S := [.event]) (by decide) (keeps_log (by simp [Obs.kind]))) fun _ => ?_
  exact (commandsHandleEvent_opens _ _ _).bind fun _ => acts_opens (by decide) (hooksDispatchEvent_keeps _ _)

/-! ## The functions of one network -/

theorem multinetHandleLine_opens (botai : BotAi) (bytes : Bytes) (runtime : NetworkRuntime) :
    Triple (Opens (plus k runtime.sock)) (multinetHandleLine botai bytes runtime) (fun r => Opens (plus k r.2.sock))
      fun _ => True := by
  unfold multinetHandleLine
  refine triple_ite (fun _ => triple_pure fun _ => id) fun _ => ?_
  refine (acts_opens (by decide) (modernIrcAnswer_keeps _ _ _ _)).bind fun r => ?_
  obtain ⟨rc, modern⟩ := r
  refine triple_ite (fun _ => ?_) fun _ => ?_
  · refine (netCloseSocket_opens runtime.sock).bind fun _ => triple_pure fun w => (plus_closed (by simp)).2
  refine triple_ite (fun _ => ?_) fun _ => ?_
  · exact (acts_opens (by decide) (sendPong_keeps _ _)).bind fun _ => triple_pure fun _ => id
  dsimp only
  split
  · exact triple_pure fun _ => id
  · refine triple_ite (fun _ => triple_pure fun _ => id) fun _ => ?_
    refine (eventDispatchPending_triple (fun event => dispatchEvent_opens _ _ _ event) _ _).bind fun queue => ?_
    exact triple_pure fun _ => id

theorem connectRuntime_opens {runtime : NetworkRuntime} (hsock : runtime.sock < 0) :
    Triple (Opens k) (connectRuntime runtime) (fun r => Opens (plus k r.2.sock)) fun _ => True := by
  unfold connectRuntime
  refine triple_ite (fun _ => triple_pure fun w => (plus_closed hsock).2) fun _ => ?_
  refine Triple.bind (acts_opens (S := [.dial]) (by decide) (keeps_log (by simp [Obs.kind]))) fun _ => ?_
  refine (netConnectIpv4_opens _ _).bind fun sock => triple_ite (fun _ => triple_pure fun _ => id) fun _ => ?_
  refine (acts_opens (by decide) (modernIrcStart_keeps _ _)).bind fun r => ?_
  obtain ⟨rc, modern⟩ := r
  refine (acts_opens (S := [.send]) (by decide) (keeps_ite (keeps_pure _) (ircSendRegistration_keeps _ _ _ _))).bind
    fun rc => triple_ite (fun _ => ?_) fun _ => ?_
  · exact (netCloseSocket_opens sock).bind fun _ => triple_pure fun w => (plus_closed (by simp)).2
  · exact (acts_opens (by decide) (sendJoins_keeps _ _)).bind fun _ => triple_pure fun _ => id

theorem takeTurn_opens {k' : Counters × Slot → Int → Nat} {i : Nat} {slot : Slot} {step : M (Counters × Slot)}
    (h : Triple (Opens k) step (fun r => Opens (k' r)) fun _ => True) :
    Triple (Opens k) (takeTurn i slot step) (fun r => Opens (k' r)) fun _ => True :=
  takeTurn_triple (acts_opens (S := [.turn]) (by decide) (keeps_log (by simp [Obs.kind]))) h fun _ =>
    acts_opens (S := [.settled]) (by decide) (keeps_log (by simp [Obs.kind]))

theorem startNetwork_opens (i : Nat) (c : Counters) (config : NetworkConfig) :
    Triple (Opens k) (startNetwork i c config) (fun r => Opens (plus k r.2.runtime.sock)) fun _ => True := by
  unfold startNetwork
  refine takeTurn_opens ((connectRuntime_opens (by simp [runtimeInit])).bind fun r => ?_)
  obtain ⟨result, runtime⟩ := r
  cases result with
  | ok => exact triple_pure fun _ => id
  | retry => exact (acts_opens (S := []) (by simp) (keeps_ask _)).bind fun now => triple_pure fun _ => id
  | permanent => exact triple_pure fun _ => id

theorem setFirstSocket_opens (i : Nat) (sock : Int) :
    Triple (Opens k) (setFirstSocket i sock) (fun _ => Opens k) fun _ => True :=
  neutral_opens (S := []) (by simp) (setFirstSocket_moves _ _)

theorem retryNetwork_opens (now : Int) (i : Nat) (c : Counters) {slot : Slot}
    (hsock : slot.runtime.retryEnabled = true → slot.runtime.sock < 0) :
    Triple (Opens (plus k slot.runtime.sock)) (retryNetwork now i c slot) (fun r => Opens (plus k r.2.runtime.sock))
      fun _ => True := by
  unfold retryNetwork
  refine triple_ite (fun _ => triple_pure fun _ => id) fun hdue => ?_
  have hclosed := hsock (retryEnabled_of_due hdue)
  refine takeTurn_opens (((connectRuntime_opens hclosed).pre fun w => (plus_closed hclosed).1).bind fun r => ?_)
  obtain ⟨result, runtime⟩ := r
  cases result with
  | ok =>
    refine (acts_opens (by decide) (decrement_keeps _)).bind fun retrying => ?_
    exact (setFirstSocket_opens _ _).bind fun _ => triple_pure fun _ => id
  | permanent => exact (acts_opens (by decide) (decrement_keeps _)).bind fun retrying => triple_pure fun _ => id
  | retry => exact triple_pure fun _ => id

theorem loseNetwork_opens (i : Nat) (c : Counters) (slot : Slot) :
    Triple (Opens (plus k slot.runtime.sock)) (loseNetwork i c slot) (fun r => Opens (plus k r.2.runtime.sock))
      fun _ => True := by
  refine (netCloseSocket_opens slot.runtime.sock).bind fun _ => (setFirstSocket_opens _ _).bind fun _ => ?_
  refine Triple.bind (acts_opens (S := []) (by simp) (keeps_ask _)) fun now => ?_
  exact triple_pure fun w => (plus_closed (by simp)).2

theorem feedNetwork_opens (botai : BotAi) (i : Nat) (c : Counters) (slot : Slot) (data : Bytes) :
    Triple (Opens (plus k slot.runtime.sock)) (feedNetwork botai i c slot data)
      (fun r => Opens (plus k r.2.runtime.sock)) fun _ => True := by
  unfold feedNetwork
  refine (framerFeed_triple (J := fun runtime => Opens (plus k runtime.sock))
    (fun line user => multinetHandleLine_opens botai line user) (fun _ _ _ => trivial) data _ slot.runtime).bind
    fun r => ?_
  obtain ⟨framer, runtime⟩ := r
  refine triple_ite (fun _ => ?_) fun _ => ?_
  · exact (setFirstSocket_opens _ _).bind fun _ => triple_pure fun _ => id
  · exact triple_pure fun _ => id

theorem receiveNetwork_opens (botai : BotAi) (ready : List Bool) (i : Nat) (c : Counters) (slot : Slot) :
    Triple (Opens (plus k slot.runtime.sock)) (receiveNetwork botai ready i c slot)
      (fun r => Opens (plus k r.2.runtime.sock)) fun _ => True := by
  unfold receiveNetwork
  refine triple_ite (fun _ => triple_pure fun _ => id) fun _ => takeTurn_opens ?_
  refine (acts_opens (by decide) (netRecv_keeps _ _)).bind fun received => ?_
  split
  · exact loseNetwork_opens _ _ _
  · exact loseNetwork_opens _ _ _
  · exact feedNetwork_opens _ _ _ _ _

end

/-! ## The table -/

/-- How many networks have `fd` as their socket. -/
def tally (slots : List Slot) (fd : Int) : Nat := slots.countP fun slot => slot.runtime.sock = fd

theorem tally_middle (done rest : List Slot) (slot : Slot) :
    tally (done ++ slot :: rest) = plus (tally (done ++ rest)) slot.runtime.sock := by
  funext fd
  simp only [tally, plus, one, List.countP_append, List.countP_cons]
  omega

theorem tally_cons (rest : List Slot) (slot : Slot) : tally (slot :: rest) = plus (tally rest) slot.runtime.sock :=
  tally_middle [] rest slot

theorem tally_snoc (done : List Slot) (slot : Slot) : tally (done ++ [slot]) = plus (tally done) slot.runtime.sock := by
  simpa using tally_middle done [] slot

/-- With only the table's sockets open, nothing is left open exactly where no
network is. -/
theorem closedOnce_iff {slots : List Slot} {w : World} (h : Opens (tally slots) w) :
    ClosedOnce w.trace ↔ ∀ slot ∈ slots, slot.isOpen = false := by
  constructor
  · intro hc slot hs
    by_contra hopen
    have hsock : 0 ≤ slot.runtime.sock := by simpa [Slot.isOpen] using hopen
    have hzero := (h _ hsock).symm.trans (hc _ hsock)
    simp only [tally, Option.some.injEq, List.countP_eq_zero] at hzero
    exact hzero slot hs (by simp)
  · intro hclosed fd hfd
    rw [h fd hfd]
    refine congrArg some (List.countP_eq_zero.2 fun slot hs => ?_)
    have := hclosed slot hs
    simp only [Slot.isOpen, decide_eq_false_iff_not] at this
    simp
    omega

/-- The body of a sweep over the open table, where only its entry's socket
changes hands. -/
theorem opens_middle {m : M (Counters × Slot)} {slot : Slot} {done rest : List Slot}
    (h : ∀ k, Triple (Opens (plus k slot.runtime.sock)) m (fun r => Opens (plus k r.2.runtime.sock)) fun _ => True) :
    Triple (Opens (tally (done ++ slot :: rest))) m (fun r => Opens (tally (done ++ r.2 :: rest))) fun _ => True := by
  simp only [tally_middle]
  exact h _

theorem start_sweep_opens (configs : List NetworkConfig) :
    Triple (Opens fun _ => 0) (sweep startNetwork 0 { active := 0, retrying := 0 } configs)
      (fun r w => Bookkeeping r.2 r.1.active r.1.retrying ∧ Opens (tally r.2) w) fun _ => True :=
  start_sweep (J := fun slots => Opens (tally slots)) configs fun done c config => by
    simp only [tally_snoc]
    exact startNetwork_opens _ c config

theorem multinetStop_opens (s : MultinetState) :
    Triple (Opens (tally s.slots)) (multinetStop s) (fun _ w => ClosedOnce w.trace) fun _ => True := by
  unfold multinetStop
  refine Triple.bind (triple_each (I := fun rest => Opens (tally rest)) (fun slot rest => ?_) s.slots) fun _ => ?_
  · rw [tally_cons]
    exact triple_ite (fun _ => netCloseSocket_opens _) fun h => triple_pure fun w => (plus_closed (by omega)).1
  · refine Triple.bind (Q := fun _ w => ClosedOnce w.trace) (triple_modify fun w hw => ?_) fun _ =>
      triple_pure fun _ => id
    have hnone : ∀ slot ∈ ([] : List Slot), slot.isOpen = false := by simp
    have hclosed : ClosedOnce w.trace := (closedOnce_iff hw).2 hnone
    exact hclosed

/-! ## The run -/

/-- The loop returns RELOAD or RECONNECT after this wait. -/
def Leaves (result : WaitResult) (control : Control) : Bool :=
  (result.rexx && control.reloadRequested) || (!result.ctrlC && decide (result.rc < 0))

/-- Where the loop returns RELOAD or RECONNECT, no network is open. -/
def Obs.leavesNone : Obs → Prop
  | .woken result slots control => Leaves result control → ∀ slot ∈ slots, slot.isOpen = false
  | _ => True

def LeftNone : World → Prop := AllObs Obs.leavesNone

theorem leavesNone_of_kind {o : Obs} (h : o.kind ≠ .woken) : o.leavesNone := by
  cases o <;> trivial

/-- Functions without the mark in question keep what is said of it. -/
theorem with_leftNone {α : Type} {S : List Kind} {P : World → Prop} {Q : α → World → Prop} {m : M α}
    (h : Triple P m Q fun _ => True) (hm : Keeps (Moves S) m) (hS : .woken ∉ S) :
    Triple (fun w => P w ∧ LeftNone w) m (fun a w => Q a w ∧ LeftNone w) fun _ => True := by
  have hmarks : ∀ o : Obs, o.kind ∈ S → o.leavesNone := fun o ho => leavesNone_of_kind fun hk => hS (hk ▸ ho)
  exact (with_allObs h (hm.mono fun _ _ => And.right) hmarks).conseq (fun _ => id) (fun _ _ => id) fun _ _ => trivial

abbrev roundKinds : List Kind := serving ++ [.underflow, .retry]

theorem retryNetwork_kinds (now : Int) (i : Nat) (c : Counters) (slot : Slot) :
    Keeps (Moves roundKinds) (retryNetwork now i c slot) :=
  retryNetwork_moves_of (by decide) now i fun _ => moves (by decide) (decrement_keeps _)

theorem multinetServe_kinds (botai : BotAi) (ready : List Bool) (s : MultinetState) :
    Keeps (Moves roundKinds) (multinetServe botai ready s) := by
  unfold multinetServe
  refine Keeps.bind (keeps_ite ?_ (keeps_pure _)) fun r => ?_
  · refine Keeps.bind (moves (S := []) (by decide) (keeps_ask _)) fun now => Keeps.bind (keeps_read _) fun control => ?_
    refine Keeps.bind (moves (S := [.retry]) (by decide) (keeps_log (by simp [Obs.kind]))) fun _ => ?_
    exact keeps_sweep (fun _ _ _ => retryNetwork_kinds _ _ _ _) _ _ _
  · refine Keeps.bind (keeps_sweep (fun _ _ _ => ?_) _ _ _) fun _ => keeps_pure _
    exact (receiveNetwork_moves _ _ _ _ _).mono fun _ _ => Moves.mono (by decide)

theorem multinetServe_opens (botai : BotAi) (ready : List Bool) (s : MultinetState) :
    Triple (fun w => Bookkeeping s.slots s.counters.active s.counters.retrying ∧ Opens (tally s.slots) w)
      (multinetServe botai ready s)
      (fun s w => Bookkeeping s.slots s.counters.active s.counters.retrying ∧ Opens (tally s.slots) w)
      fun _ => True := by
  unfold multinetServe
  refine Triple.bind (Q := fun r w => Bookkeeping r.2 r.1.active r.1.retrying ∧ Opens (tally r.2) w)
    (triple_ite (fun _ => triple_fact fun hb => ?_) fun _ => triple_pure fun _ => id) fun r => ?_
  · refine Triple.bind (acts_opens (S := []) (by simp) (keeps_ask _)) fun now => ?_
    refine triple_same.bind fun control => ?_
    refine Triple.bind (acts_opens (S := [.retry]) (by decide) (keeps_log (by simp [Obs.kind]))) fun _ => ?_
    refine (table_sweep (J := fun slots => Opens (tally slots)) (fun _ _ _ _ i hb => retryNetwork_returns now i hb)
      (fun done rest c slot hb => opens_middle fun k => ?_) s.counters s.slots).pre fun w hw => ⟨hb, hw⟩
    refine retryNetwork_opens now _ c fun henabled => ?_
    have hminus := (hb.slot slot (by simp)).closed henabled
    omega
  · refine Triple.bind (table_sweep (J := fun slots => Opens (tally slots))
      (fun _ _ _ _ i hb => receiveNetwork_returns botai ready i hb)
      (fun _ _ c slot _ => opens_middle fun k => receiveNetwork_opens botai ready _ c slot) r.1 r.2) fun r =>
      triple_pure fun _ => id

/-- The invariant of the main loop. -/
def InStep (s : MultinetState) (w : World) : Prop :=
  (Bookkeeping s.slots s.counters.active s.counters.retrying ∧ Opens (tally s.slots) w) ∧ LeftNone w

/-- What holds where the run returns. -/
def Settled (w : World) : Prop := ClosedOnce w.trace ↔ LeftNone w

theorem multinetStop_settled (s : MultinetState) :
    Triple (fun w => Opens (tally s.slots) w ∧ LeftNone w) (multinetStop s) (fun _ => Settled) fun _ => True :=
  (with_leftNone (multinetStop_opens s) (multinetStop_moves s) (by decide)).post fun _ _ hw =>
    ⟨fun _ => hw.2, fun _ => hw.1⟩

theorem multinetRound_inStep (botai : BotAi) (s : MultinetState) :
    Triple (InStep s) (multinetRound botai s) (Next InStep fun _ => Settled) fun _ => True := by
  unfold multinetRound
  refine triple_same.bind fun control => triple_ite (fun _ => ?_) fun _ => ?_
  · exact ((multinetStop_settled s).pre fun _ hw => ⟨hw.1.2, hw.2⟩).bind fun result => triple_pure fun _ => id
  refine Triple.bind (Q := fun _ => InStep s) (triple_modify fun w hw =>
    ⟨⟨hw.1.1, hw.1.2.log fun _ _ => rfl⟩, AllObs.log hw.2 trivial⟩) fun _ => triple_ite (fun hidle => ?_) fun _ => ?_
  · refine triple_pure fun w hw => ⟨fun _ => hw.2, fun _ => (closedOnce_iff hw.1.2).2 fun slot hs => ?_⟩
    exact (hw.1.1.idle_iff.1 hidle slot hs).1
  refine (triple_fact (P := fun w => Opens (tally s.slots) w ∧ LeftNone w) fun hb => ?_).pre fun w hw =>
    ⟨hw.1.1, hw.1.2, hw.2⟩
  refine Triple.bind (with_leftNone (acts_opens (by decide) (netWaitMany_keeps _ _))
    (moves (List.Subset.refl _) (netWaitMany_keeps _ _)) (by decide)) fun result => ?_
  refine Triple.bind (with_leftNone (acts_opens (by decide) (keeps_when rexxProcess_keeps))
    (moves (List.Subset.refl _) (keeps_when rexxProcess_keeps)) (by decide)) fun _ => ?_
  refine triple_same.bind fun control => ?_
  -- the wait's mark: the run leaves here, or the mark asks for nothing
  refine Triple.bind (Q := fun _ w => Opens (tally s.slots) w ∧
    (Leaves result control = true → Settled w) ∧ (Leaves result control = false → LeftNone w))
    (triple_modify fun w hw => ?_) fun _ => ?_
  · have hopens : Opens (tally s.slots) (w.log (.woken result s.slots control)) := hw.1.log fun _ _ => rfl
    refine ⟨hopens, fun hleaves => ?_, fun hstays => AllObs.log hw.2 fun hleaves => ?_⟩
    · rw [Settled, closedOnce_iff hopens]
      refine ⟨fun hclosed => AllObs.log hw.2 fun _ => hclosed, fun hleft => ?_⟩
      exact hleft _ (List.mem_append_right _ (List.mem_singleton.2 rfl)) hleaves
    · rw [hstays] at hleaves
      cases hleaves
  refine triple_ite (fun hreload => triple_pure fun w hw => hw.2.1 ?_) fun hreload =>
    triple_ite (fun hctrlC => ?_) fun hctrlC => ?_
  · simp [Leaves, hreload]
  · -- Ctrl-C leaves through the code after the loop, which closes the sockets
    have hstays : Leaves result control = false := by simpa [Leaves, hctrlC] using hreload
    refine Triple.bind (Q := fun _ w => Opens (tally s.slots) w ∧ LeftNone w) (triple_modify fun w hw =>
      ⟨hw.1.log fun _ _ => rfl, AllObs.log (hw.2.2 hstays) trivial⟩) fun _ => ?_
    refine Triple.bind (Q := fun _ w => Opens (tally s.slots) w ∧ LeftNone w)
      (triple_modify fun w hw => hw) fun _ => ?_
    exact (multinetStop_settled s).bind fun result => triple_pure fun _ => id
  refine triple_ite (fun hfailed => triple_pure fun w hw => hw.2.1 ?_) fun hfailed => ?_
  · simp [Leaves, hctrlC, hfailed]
  · have hstays : Leaves result control = false := by
      simp only [Leaves, hctrlC, hfailed, decide_false, Bool.and_false, Bool.or_false]
      simpa using hreload
    have hserve := with_leftNone (multinetServe_opens botai result.ready s) (multinetServe_kinds _ _ _) (by decide)
    exact (hserve.pre fun w hw => ⟨⟨hb, hw.1⟩, hw.2.2 hstays⟩).bind fun s' => triple_pure fun _ => id

theorem multinetStart_inStep (networks : Networks) :
    Triple (fun w => Opens (fun _ => 0) w ∧ LeftNone w) (multinetStart networks) InStep fun _ => True := by
  unfold multinetStart
  refine Triple.bind (with_leftNone (start_sweep_opens networks.items)
    (keeps_sweep (fun i c config => startNetwork_moves i c config) _ _ _) (by decide)) fun r => ?_
  obtain ⟨counters, slots⟩ := r
  refine triple_same.bind fun control => ?_
  refine Triple.bind (Q := fun _ => InStep { slots, counters }) (triple_modify fun w hw =>
    ⟨⟨hw.1.1, hw.1.2.log fun _ _ => rfl⟩, AllObs.log hw.2 trivial⟩) fun _ => ?_
  refine Triple.bind (Q := fun _ => InStep { slots, counters }) (triple_ite (fun _ => triple_modify fun _ hw => hw)
    fun _ => triple_pure fun _ => id) fun _ => triple_pure fun _ => id

theorem multinetRun_settled (networks : Networks) (botai : BotAi) :
    Triple (fun w => Opens (fun _ => 0) w ∧ LeftNone w) (multinetRun networks botai) (fun _ => Settled) fun _ => True := by
  refine (multinetStart_inStep networks).bind fun s => ?_
  refine triple_same.bind fun fuel => ?_
  exact triple_loop fuel (multinetRound_inStep botai) (fun _ _ _ => trivial) s

/-- A run that returns has closed every descriptor it opened, once and after
its opening, exactly where no network was open when it left the loop with
RELOAD or RECONNECT. -/
theorem multinetRun_closes_iff (networks : Networks) (botai : BotAi) (env : Env) (w : World) (result : MultinetResult)
    (h : (multinetRun networks botai env w.begin).1 = .ok result) :
    ClosedOnce (multinetRun networks botai env w.begin).2.trace ↔
      ∀ wait slots control, .woken wait slots control ∈ (multinetRun networks botai env w.begin).2.trace →
        Leaves wait control → ∀ slot ∈ slots, slot.isOpen = false := by
  have hsettled : Settled (multinetRun networks botai env w.begin).2 :=
    (multinetRun_settled networks botai).ok ⟨fun _ _ => rfl, fun o ho => absurd ho List.not_mem_nil⟩
      (Prod.ext h rfl)
  refine Iff.trans hsettled ⟨fun hleft wait slots control ho => hleft _ ho, fun hleft o ho => ?_⟩
  cases o <;> first | trivial | exact hleft _ _ _ ho

/-- One network, connected, and a QUIT. -/
theorem multinetRun_closes_after_quit :
    ClosedOnce (multinetRun oneNetwork botaiInit { Env.online with messages := fun _ => [ascii "QUIT"] }
      (worldInit configInit).begin).2.trace := by
  refine (multinetRun_closes_iff oneNetwork botaiInit { Env.online with messages := fun _ => [ascii "QUIT"] }
    (worldInit configInit) .stop (by decide +kernel)).2 fun wait slots control ho hleaves => ?_
  have hstays : (multinetRun oneNetwork botaiInit { Env.online with messages := fun _ => [ascii "QUIT"] }
      (worldInit configInit).begin).2.trace.all (fun o => match o with
        | .woken wait _ control => !Leaves wait control
        | _ => true) = true := by decide +kernel
  simpa [hleaves] using List.all_eq_true.1 hstays _ ho

/-- One network, connected, and a RELOAD: the run returns with its descriptor
open. -/
theorem multinetRun_leaves_open :
    let run := multinetRun oneNetwork botaiInit { Env.online with messages := fun _ => [ascii "RELOAD"] }
      (worldInit configInit).begin
    run.1 = .ok .reload ∧ ¬ ClosedOnce run.2.trace := by
  refine ⟨by decide +kernel, fun h => ?_⟩
  have hzero := h 3 (by decide)
  revert hzero
  decide +kernel

end AmBot
