import AmBot.Rounds
import AmBot.SaslOrder
/-!
# What a turn does about a failure

In its turn a network is connected or read from, and it leaves the turn with a
socket, with a retry to come, or with neither. An account of the turn says what
its connect returned, what it was at when a later call of the transport failed,
and which line it handled last; how the turn ends follows from these.
-/

namespace AmBot

open RunLib RunLib.Prog

/-! ## Turns in a trace -/

/-- What a turn is at: the connect and the registration, or the read; after
that the joins, the answer to a line of the negotiation, or anything else. -/
inductive Phase where
  | calling
  | joining
  | answering
  | serving
  deriving DecidableEq, Repr

/-- What a turn is at, what its connect has returned, the last line it has
handled, and what it was at each time a later call of the transport failed. -/
structure Account where
  phase : Phase
  connect : Option Int
  line : Option (Bytes × ModernIrc)
  failures : List Phase
  deriving DecidableEq, Repr

def accountInit : Account := { phase := .calling, connect := none, line := none, failures := [] }

def Account.fail (a : Account) : Account := { a with failures := a.failures ++ [a.phase] }

def Account.add (a : Account) : Obs → Account
  | .connect _ _ result => { a with connect := some result }
  | .send _ _ rc => if rc ≤ 0 then a.fail else a
  | .recv _ data => { (if data.getD [] = [] then a.fail else a) with phase := .serving }
  | .join .. => { a with phase := .joining }
  | .line text modern => { a with phase := .answering, line := some (text, modern) }
  | .negotiated => { a with phase := .serving }
  | _ => a

structure Turn where
  index : Nat
  before : Slot
  account : Account
  after : Slot
  deriving DecidableEq, Repr

/-- The turns that have ended, and the one that has not. -/
structure Turns where
  ended : List Turn
  current : Option (Nat × Slot × Account)

def Turns.add (s : Turns) (o : Obs) : Turns :=
  match o, s.current with
  | .turn i slot, _ => { s with current := some (i, slot, accountInit) }
  | .settled _ slot', some (i, slot, a) =>
    { ended := s.ended ++ [{ index := i, before := slot, account := a, after := slot' }], current := none }
  | o, current => { s with current := current.map fun (i, slot, a) => (i, slot, a.add o) }

def turns (t : List Obs) : Turns := t.foldl Turns.add { ended := [], current := none }

theorem turns_snoc (t : List Obs) (o : Obs) : turns (t ++ [o]) = (turns t).add o := by simp [turns]

/-- The kinds an account does not tell of. -/
abbrev untold : List Kind := [.close, .dial, .underflow]

theorem Account.add_untold (a : Account) {o : Obs} (h : o.kind ∈ untold) : a.add o = a := by
  cases o <;> first | rfl | exact absurd h (by simp [Obs.kind])

section
variable {good : Turn → Prop} {i : Nat} {slot : Slot} {P Q : Account → Prop} {t : List Obs} {o : Obs}

/-- Every turn that has ended is `good`. -/
def Judged (good : Turn → Prop) (t : List Obs) : Prop := ∀ turn ∈ (turns t).ended, good turn

/-- So far, and network `i` has its turn, with an account in `P`. -/
def During (good : Turn → Prop) (i : Nat) (slot : Slot) (P : Account → Prop) (t : List Obs) : Prop :=
  Judged good t ∧ ∃ a, (turns t).current = some (i, slot, a) ∧ P a

theorem Judged.snoc (h : Judged good t) (ho : o.kind ≠ .settled) : Judged good (t ++ [o]) := by
  intro turn hturn
  rw [turns_snoc] at hturn
  cases o with
  | settled => exact absurd rfl ho
  | _ => exact h turn hturn

theorem During.snoc (h : During good i slot P t) (ho : o.kind ∉ [.turn, .settled]) (hQ : ∀ a, P a → Q (a.add o)) :
    During good i slot Q (t ++ [o]) := by
  obtain ⟨hjudged, a, hcurrent, ha⟩ := h
  have hkinds : o.kind ≠ .turn ∧ o.kind ≠ .settled := by simpa using ho
  refine ⟨hjudged.snoc hkinds.2, a.add o, ?_, hQ a ha⟩
  rw [turns_snoc]
  cases o with
  | turn => exact absurd rfl hkinds.1
  | settled => exact absurd rfl hkinds.2
  | _ => simp [Turns.add, hcurrent]

theorem During.mono (h : During good i slot P t) (hQ : ∀ a, P a → Q a) : During good i slot Q t := by
  obtain ⟨hjudged, a, hcurrent, ha⟩ := h
  exact ⟨hjudged, a, hcurrent, hQ a ha⟩

/-- The turn begins. -/
theorem Judged.turn (h : Judged good t) : During good i slot (· = accountInit) (t ++ [.turn i slot]) :=
  ⟨h.snoc (by simp [Obs.kind]), accountInit, by rw [turns_snoc]; rfl, rfl⟩

/-- The turn ends. -/
theorem During.settled {slot' : Slot} (h : During good i slot P t)
    (hgood : ∀ a, P a → good { index := i, before := slot, account := a, after := slot' }) :
    Judged good (t ++ [.settled i slot']) := by
  obtain ⟨hjudged, a, hcurrent, ha⟩ := h
  simp only [Judged, turns_snoc, Turns.add, hcurrent]
  exact List.forall_mem_append.2 ⟨hjudged, List.forall_mem_singleton.2 (hgood a ha)⟩

variable {α : Type} {S : List Kind}

/-- A triple from one assertion on the turn to another. -/
abbrev Turned (good : Turn → Prop) (i : Nat) (slot : Slot) (P : Account → Prop) (m : M α) (Q : α → Account → Prop) : Prop :=
  Triple (fun w => During good i slot P w.trace) m (fun a w => During good i slot (Q a) w.trace)
    fun w => Judged good w.trace

theorem acts_turned (hS : Kind.turn ∉ S ∧ Kind.settled ∉ S) (hP : ∀ a o, o.kind ∈ S → P a → P (a.add o)) {m : M α}
    (h : Keeps (Acts S) m) : Turned good i slot P m fun _ => P := by
  refine (triple_along (J := During good i slot P) (acts_along (fun t o ho ht => ?_) h)).conseq (fun _ => id)
    (fun _ _ => id) fun _ => And.left
  refine ht.snoc (fun hmark => ?_) fun a => hP a o ho
  rcases List.mem_cons.1 hmark with hmark | hmark
  · exact hS.1 (hmark ▸ ho)
  · exact hS.2 (List.mem_singleton.1 hmark ▸ ho)

theorem untold_turned (hS : S ⊆ untold) {m : M α} (h : Keeps (Acts S) m) : Turned good i slot P m fun _ => P := by
  refine acts_turned ⟨fun hmem => ?_, fun hmem => ?_⟩ (fun a o ho ha => ?_) h
  · exact absurd (hS hmem) (by decide)
  · exact absurd (hS hmem) (by decide)
  · rwa [a.add_untold (hS ho)]

theorem setFirstSocket_turned (i' : Nat) (sock : Int) : Turned good i slot P (setFirstSocket i' sock) fun _ => P :=
  triple_ite (fun _ => triple_modify fun _ => id) fun _ => triple_pure fun _ => id

theorem ask_turned (f : Env → Nat → α) : Turned good i slot P (ask f) fun _ => P := fun _ _ => id

theorem log_turned {o : Obs} (ho : o.kind ∉ [.turn, .settled]) (hQ : ∀ a, P a → Q (a.add o)) :
    Turned good i slot P (log o) fun _ => Q :=
  triple_modify fun _ hw => hw.snoc ho hQ

/-- An assertion on the account, for each account that meets it. -/
theorem turned_each {m : M α} {R : α → Account → Prop} (h : ∀ a, P a → Turned good i slot (· = a) m R) :
    Turned good i slot P m R := by
  rintro env w ⟨hjudged, a, hcurrent, ha⟩
  exact h a ha env w ⟨hjudged, a, hcurrent, rfl⟩

theorem takeTurn_judged {step : M (Counters × Slot)} {Q : Counters × Slot → Account → Prop}
    (h : Turned good i slot (· = accountInit) step Q)
    (hgood : ∀ r a, Q r a → good { index := i, before := slot, account := a, after := r.2 }) :
    Triple (fun w => Judged good w.trace) (takeTurn i slot step) (fun _ w => Judged good w.trace)
      fun w => Judged good w.trace := by
  refine Triple.bind (triple_modify fun _ hw => hw.turn) fun _ => h.bind fun r => ?_
  obtain ⟨c, slot'⟩ := r
  refine Triple.bind (Q := fun _ w => Judged good w.trace) (triple_modify fun w hw => ?_) fun _ => triple_pure fun _ => id
  exact hw.settled fun a => hgood (c, slot') a

/-! ## Connecting -/

/-- The account after calls of `send` that together return `rc`. -/
def Account.sent (a : Account) (rc : Int) : Account := if rc = 0 then a else a.fail

theorem netSendFrom_turned (a : Account) (sock : Int) (n : Nat) (data : Bytes) :
    Turned good i slot (· = a) (netSendFrom sock n data) fun rc => (· = a.sent rc) := by
  induction n generalizing data with
  | zero => cases data <;> exact triple_pure fun _ => id
  | succ n ih =>
    cases data with
    | nil => exact triple_pure fun _ => id
    | cons c rest =>
      unfold netSendFrom
      refine (ask_turned _).bind fun rc => ?_
      by_cases hrc : rc ≤ 0
      · refine Triple.bind (Q := fun _ w => During good i slot (· = a.fail) w.trace)
          (log_turned (by simp [Obs.kind]) ?_) fun _ => ?_
        · rintro _ rfl
          simp [Account.add, hrc]
        · rw [if_pos hrc]
          exact triple_pure fun _ => id
      · refine Triple.bind (Q := fun _ w => During good i slot (· = a) w.trace)
          (log_turned (by simp [Obs.kind]) ?_) fun _ => ?_
        · rintro _ rfl
          simp [Account.add, hrc]
        · rw [if_neg hrc]
          exact ih _

theorem ircSendLine_turned (a : Account) (sock : Int) (line : Bytes) :
    Turned good i slot (· = a) (ircSendLine sock line) fun rc => (· = a.sent rc) := by
  refine (netSendFrom_turned a sock _ line).bind fun rc => triple_ite (fun hrc => ?_) fun hrc => ?_
  · refine triple_pure fun w hw => ?_
    simpa [Account.sent, hrc] using hw
  · have hsent : a.sent rc = a := if_pos (not_not.1 hrc)
    exact (netSendFrom_turned a sock _ _).pre fun _ hw => hw.mono fun _ ha => ha.trans hsent

theorem ircSendRegistration_turned (a : Account) (sock : Int) (nick user pass : Bytes) :
    Turned good i slot (· = a) (ircSendRegistration sock nick user pass) fun rc => (· = a.sent rc) := by
  -- each line is sent only where those before it have been
  have next {rc : Int} {m : M Int} (h : Turned good i slot (· = a) m fun rc => (· = a.sent rc)) :
      Turned good i slot (· = a.sent rc) (if rc ≠ 0 then pure (-1) else m) fun rc => (· = a.sent rc) := by
    by_cases hrc : rc = 0
    · simpa [Account.sent, hrc] using h
    · rw [if_pos hrc]
      refine triple_pure fun w hw => ?_
      simpa [Account.sent, hrc] using hw
  unfold ircSendRegistration
  refine Triple.bind (Q := fun rc w => During good i slot (· = a.sent rc) w.trace)
    (triple_ite (fun _ => ircSendLine_turned a sock _) fun _ => triple_pure fun _ => id) fun rc => next ?_
  refine (ircSendLine_turned a sock _).bind fun rc => next ?_
  refine (ircSendLine_turned a sock _).bind fun rc => next ?_
  exact triple_pure fun _ => id

theorem modernIrcStart_turned (a : Account) (sock : Int) (config : NetworkConfig) :
    Turned good i slot (· = a) (modernIrcStart sock config) fun r => (· = a.sent r.1) := by
  refine triple_ite (fun _ => ?_) fun _ => triple_pure fun _ => id
  exact (ircSendLine_turned a sock _).bind fun rc => triple_pure fun _ => id

/-- What a connect has done where it ends with a result. It is to be tried
again where the call has failed, or a line of the registration after it. -/
def Connected (config : NetworkConfig) : ConnectResult → Account → Prop
  | .ok, a => a.line = none ∧ ∀ p ∈ a.failures, p = .joining
  | .retry, a => a.line = none ∧ ∃ sock, a.connect = some sock ∧ a.failures = if 0 ≤ sock then [.calling] else []
  | .permanent, a => networkValidateSecurity config ≠ 0 ∧ a = accountInit

theorem netConnectIpv4_turned (a : Account) (host : Bytes) (port : Nat) :
    Turned good i slot (· = a) (netConnectIpv4 host port) fun sock => (· = { a with connect := some sock }) := by
  intro env w hw
  obtain ⟨sock, w', hconnect, htrace⟩ := netConnectIpv4_logs host port env w
  rw [hconnect]
  show During good i slot (· = { a with connect := some sock }) w'.trace
  rw [htrace]
  exact hw.snoc (by simp [Obs.kind]) fun b hb => by rw [hb]; rfl

theorem sendJoins_turned (sock : Int) (channels : List Bytes) :
    Turned good i slot (fun a => a.line = none ∧ a.failures = []) (sendJoins sock channels)
      fun _ a => a.line = none ∧ ∀ p ∈ a.failures, p = .joining := by
  have hsend : ∀ (a : Account) (o : Obs), o.kind ∈ [.send] →
      (a.phase = .joining ∧ a.line = none ∧ ∀ p ∈ a.failures, p = .joining) →
      (a.add o).phase = .joining ∧ (a.add o).line = none ∧ ∀ p ∈ (a.add o).failures, p = .joining := by
    rintro a o ho ⟨hphase, hline, hfailures⟩
    cases o with
    | send sock data rc =>
      by_cases hrc : rc ≤ 0
      · simp only [Account.add, hrc, if_true, Account.fail, hphase, List.mem_append, List.mem_singleton]
        exact ⟨trivial, hline, fun p hp => hp.elim (hfailures p) id⟩
      · simpa [Account.add, hrc] using ⟨hphase, hline, hfailures⟩
    | _ => simp [Obs.kind] at ho
  refine Triple.bind (Q := fun _ w => During good i slot
    (fun a => a.phase = .joining ∧ a.line = none ∧ ∀ p ∈ a.failures, p = .joining) w.trace)
    (log_turned (by simp [Obs.kind]) ?_) fun _ => ?_
  · rintro a ⟨hline, hfailures⟩
    simp [Account.add, hline, hfailures]
  · exact (acts_turned (by decide) hsend (keeps_each fun _ _ => sendFormatted_keeps _ _)).post
      fun _ _ hw => hw.mono fun _ ha => ha.2

theorem connectRuntime_turned (runtime : NetworkRuntime) :
    Turned good i slot (· = accountInit) (connectRuntime runtime) fun r => Connected runtime.config r.1 := by
  unfold connectRuntime
  refine triple_ite (fun hinvalid => ?_) fun _ => ?_
  · exact triple_pure fun _ hw => hw.mono fun _ ha => ⟨hinvalid, ha⟩
  refine Triple.bind (untold_turned (S := [.dial]) (by decide) (keeps_log (by simp [Obs.kind]))) fun _ => ?_
  refine (netConnectIpv4_turned _ _ _).bind fun sock => triple_ite (fun hclosed => ?_) fun hopen => ?_
  · refine triple_pure fun _ hw => hw.mono ?_
    rintro _ rfl
    exact ⟨rfl, sock, rfl, (if_neg (not_le.2 hclosed)).symm⟩
  let called : Account := { accountInit with connect := some sock }
  refine (modernIrcStart_turned called _ _).bind fun r => ?_
  obtain ⟨rc, modern⟩ := r
  refine Triple.bind (Q := fun rc w => During good i slot (· = called.sent rc) w.trace) ?_ fun rc => ?_
  · by_cases hrc : rc = 0
    · simpa [Account.sent, hrc] using ircSendRegistration_turned called _ _ _ _
    · rw [if_pos hrc]
      refine triple_pure fun w hw => ?_
      simpa [Account.sent, hrc] using hw
  · refine triple_ite (fun hrc => ?_) fun hrc => ?_
    · refine (untold_turned (by decide) (netCloseSocket_keeps _)).bind fun _ => triple_pure fun w hw => hw.mono ?_
      rintro _ rfl
      rw [Account.sent, if_neg hrc]
      exact ⟨rfl, sock, rfl, (if_pos (not_lt.1 hopen)).symm⟩
    · have hsent : called.sent rc = called := if_pos (not_not.1 hrc)
      rw [hsent]
      refine ((sendJoins_turned _ _).pre fun w hw => hw.mono ?_).bind fun _ => triple_pure fun _ => id
      rintro _ rfl
      exact ⟨rfl, rfl⟩

/-! ## Handling lines -/

/-- No call to the server has failed, and the handler has taken every line. -/
structure Account.Open (config : NetworkConfig) (a : Account) : Prop where
  phase : a.phase = .serving
  failures : ∀ p ∈ a.failures, p = .serving
  line : ∀ text modern, a.line = some (text, modern) → (reading config modern text).fails config = false

/-- The last line has been refused, or its answer has not gone out. -/
structure Account.GivenUp (config : NetworkConfig) (a : Account) : Prop where
  failures : ∀ p ∈ a.failures, p = .serving ∨ p = .answering
  line : ∃ text modern, a.line = some (text, modern) ∧
    (.answering ∈ a.failures ∨ (reading config modern text).fails config = true)

theorem carryOut_turned (a : Account) (sock : Int) (config : NetworkConfig) (state : ModernIrc) (r : Reading) :
    Turned good i slot (· = a) (carryOut sock config state r)
      fun res b => ∃ rc, b = a.sent rc ∧ (res.1 = 0 ↔ r.fails config = false ∧ rc = 0) := by
  unfold carryOut
  refine Triple.bind (Q := fun rc w => During good i slot (· = a.sent rc) w.trace) ?_ fun rc =>
    triple_pure fun w hw => hw.mono fun b hb => ⟨rc, hb, ?_⟩
  · split
    · exact triple_pure fun _ => id
    · exact ircSendLine_turned a sock _
  · cases r.fails config <;> simp

/-- A line is handled: the network goes on with it, or is given up. -/
theorem modernIrcAnswer_turned (sock : Int) (config : NetworkConfig) (state : ModernIrc) (line : Bytes) :
    Turned good i slot (Account.Open config) (modernIrcAnswer sock config state line)
      fun r a => (r.1 = 0 → a.Open config) ∧ (r.1 ≠ 0 → a.GivenUp config) := by
  refine turned_each fun a ha => ?_
  unfold modernIrcAnswer
  rw [modernIrcHandleLine_eq]
  let b : Account := { a with phase := .answering, line := some (line, state) }
  refine Triple.bind (Q := fun _ w => During good i slot (· = b) w.trace)
    (log_turned (by simp [Obs.kind]) fun _ heq => by rw [heq]; rfl) fun _ => ?_
  refine (carryOut_turned b sock config state _).bind fun r => ?_
  refine Triple.bind (log_turned (by simp [Obs.kind]) fun b' hb => ?_) fun _ => triple_pure fun _ => id
  obtain ⟨rc, rfl, hzero⟩ := hb
  have hserving : ∀ p ∈ a.failures, p = .serving := ha.failures
  by_cases hrc : rc = 0
  · rw [Account.sent, if_pos hrc]
    refine ⟨fun h => ⟨rfl, hserving, ?_⟩, fun h => ⟨fun p hp => .inl (hserving p hp), line, state, rfl, .inr ?_⟩⟩
    · rintro text modern heq
      cases heq
      exact (hzero.1 h).1
    · simpa [hzero, hrc] using h
  · rw [Account.sent, if_neg hrc]
    refine ⟨fun h => absurd (hzero.1 h).2 hrc, fun _ => ⟨fun p hp => ?_, line, state, rfl, .inl ?_⟩⟩
    · rcases List.mem_append.1 hp with hp | hp
      · exact .inl (hserving p hp)
      · exact .inr (List.mem_singleton.1 hp)
    · simp [Account.fail, Account.add, b]

/-- Serving an open network leaves it open. -/
theorem Account.Open.add {config : NetworkConfig} {a : Account} (h : a.Open config) {o : Obs}
    (ho : o.kind ∈ dispatching) : (a.add o).Open config := by
  obtain ⟨hphase, hfailures, hline⟩ := h
  have hfail : a.fail.Open config :=
    ⟨hphase, List.forall_mem_append.2 ⟨hfailures, List.forall_mem_singleton.2 hphase⟩, hline⟩
  cases o with
  | send sock data rc =>
    simp only [Account.add]
    split
    · exact hfail
    · exact ⟨hphase, hfailures, hline⟩
  | recv sock data =>
    simp only [Account.add]
    split
    · exact ⟨rfl, hfail.failures, hline⟩
    · exact ⟨rfl, hfailures, hline⟩
  | _ => first | exact ⟨hphase, hfailures, hline⟩ | simp [Obs.kind] at ho

theorem serving_turned {config : NetworkConfig} (hS : S ⊆ dispatching) {m : M α} (h : Keeps (Acts S) m) :
    Turned good i slot (Account.Open config) m fun _ => Account.Open config := by
  refine acts_turned ⟨fun hmem => ?_, fun hmem => ?_⟩ (fun a o ho ha => ha.add (hS ho)) h
  · exact absurd (hS hmem) (by decide)
  · exact absurd (hS hmem) (by decide)

/-- The runtime of an open network in its turn. -/
structure Ongoing (config : NetworkConfig) (runtime : NetworkRuntime) (a : Account) : Prop where
  sock : 0 ≤ runtime.sock
  retryEnabled : runtime.retryEnabled = false
  same : runtime.config = config
  account : a.Open config

/-- The runtime of a network whose turn has closed it. -/
structure Dropped (config : NetworkConfig) (runtime : NetworkRuntime) (a : Account) : Prop where
  sock : runtime.sock < 0
  retryEnabled : runtime.retryEnabled = false
  account : a.GivenUp config

theorem multinetHandleLine_turned (botai : BotAi) (config : NetworkConfig) (bytes : Bytes) (runtime : NetworkRuntime) :
    Turned good i slot (Ongoing config runtime) (multinetHandleLine botai bytes runtime)
      fun r a => (r.1 = 0 → Ongoing config r.2 a) ∧ (r.1 ≠ 0 → Dropped config r.2 a) := by
  refine turned_each fun a ha => ?_
  obtain ⟨hsock, henabled, rfl, hopen⟩ := ha
  have hnot : ¬ runtime.sock < 0 := by omega
  unfold multinetHandleLine
  rw [if_neg hnot]
  refine ((modernIrcAnswer_turned _ _ _ _).pre fun w hw => hw.mono fun b hb => hb ▸ hopen).bind fun r => ?_
  obtain ⟨rc, modern⟩ := r
  refine triple_ite (fun hrc => ?_) fun hrc => ?_
  · refine (untold_turned (by decide) (netCloseSocket_keeps _)).bind fun _ => triple_pure fun w hw => hw.mono fun b hb => ?_
    exact ⟨fun h => absurd h (by simp), fun _ => ⟨by simp, henabled, hb.2 hrc⟩⟩
  -- what is left only serves the network
  refine Triple.pre (P := fun w => During good i slot (Account.Open runtime.config) w.trace) ?_ fun w hw =>
    hw.mono fun b hb => hb.1 (not_not.1 hrc)
  have goes (events : EventQueue) (b : Account) (hb : b.Open runtime.config) :
      Ongoing runtime.config { runtime with modern, events } b := ⟨hsock, henabled, rfl, hb⟩
  refine triple_ite (fun _ => ?_) fun _ => ?_
  · refine (serving_turned (by decide) (sendPong_keeps _ _)).bind fun _ => triple_pure fun w hw => hw.mono fun b hb => ?_
    exact ⟨fun _ => goes _ b hb, fun h => absurd rfl h⟩
  · simp only [hnot, if_false]
    split
    · exact triple_pure fun w hw => hw.mono fun b hb => ⟨fun _ => goes _ b hb, fun h => absurd rfl h⟩
    · refine triple_ite (fun _ => ?_) fun _ => ?_
      · exact triple_pure fun w hw => hw.mono fun b hb => ⟨fun _ => goes _ b hb, fun h => absurd rfl h⟩
      · refine Triple.bind (Q := fun _ w => During good i slot (Account.Open runtime.config) w.trace) ?_ fun events => ?_
        · exact serving_turned (List.Subset.refl _)
            (eventDispatchPending_keeps (fun event => dispatchEvent_keeps _ _ _ event) _ _)
        · exact triple_pure fun w hw => hw.mono fun b hb => ⟨fun _ => goes _ b hb, fun h => absurd rfl h⟩

/-! ## The turns -/

theorem feedNetwork_turned (botai : BotAi) (i' : Nat) (c : Counters) (slot' : Slot) (data : Bytes) (config : NetworkConfig) :
    Turned good i slot (Ongoing config slot'.runtime) (feedNetwork botai i' c slot' data)
      fun r a => Ongoing config r.2.runtime a ∨ Dropped config r.2.runtime a := by
  have hfeed := framerFeed_stops
    (I := fun runtime w => During good i slot (Ongoing config runtime) w.trace)
    (J := fun runtime w => During good i slot (Dropped config runtime) w.trace)
    (Q := fun w => Judged good w.trace)
    (fun line runtime => (multinetHandleLine_turned botai config line runtime).post fun r w hw => by
      split
      · exact hw.mono fun a ha => ha.1 ‹_›
      · exact hw.mono fun a ha => ha.2 ‹_›)
    (fun _ _ hw => hw.1) data slot'.runtime.framer slot'.runtime
  unfold feedNetwork
  refine hfeed.bind fun r => ?_
  obtain ⟨framer, runtime⟩ := r
  refine triple_ite (fun hclosed => ?_) fun hopen => ?_
  · refine Triple.bind (Q := fun _ w => During good i slot (Dropped config runtime) w.trace) ?_ fun _ =>
      triple_pure fun w hw => hw.mono fun a ha => .inr ⟨ha.sock, ha.retryEnabled, ha.account⟩
    refine (setFirstSocket_turned i' (-1)).pre fun w hw => ?_
    rcases hw with hw | hw
    · exact hw.mono fun a ha => absurd ha.sock (not_le.2 hclosed)
    · exact hw
  · refine triple_pure fun w hw => ?_
    rcases hw with hw | hw
    · exact hw.mono fun a ha => .inl ⟨ha.sock, ha.retryEnabled, ha.same, ha.account⟩
    · exact hw.mono fun a ha => absurd ha.sock hopen

end

/-! ## The law -/

/-- Without a socket, and retried once its time has come. -/
def Slot.AwaitsRetry (slot : Slot) : Prop :=
  slot.runtime.sock < 0 ∧ slot.socket < 0 ∧ ∀ now, slot.runtime.retryAt ≤ now → due now slot.runtime = true

/-- With neither a socket nor a retry. -/
def Slot.Disabled (slot : Slot) : Prop := slot.runtime.sock < 0 ∧ slot.runtime.retryEnabled = false

/-- The transport has failed in the connect, the registration, the joins, the
read, or an answer to the negotiation. -/
def Account.Lost (a : Account) : Prop := ∃ p ∈ a.failures, p ≠ .serving

/-- The last line handled is one of the server's failure numerics. -/
def Account.Refused (a : Account) : Prop := ∃ l ∈ a.line, concludes l.1 = some .failure

/-- The law of a turn: a failure of the transport leaves the network to be
retried, and only an invalid profile or a refusal disables it. -/
structure Turn.Retries (turn : Turn) : Prop where
  lost : turn.account.Lost → turn.after.AwaitsRetry
  disabled : turn.after.Disabled → networkValidateSecurity turn.before.runtime.config ≠ 0 ∨ turn.account.Refused

/-- A send has failed in the joins or in an answer, or the handler has failed
on a line that is no failure numeric. -/
def Turn.Mistaken (turn : Turn) : Prop :=
  .joining ∈ turn.account.failures ∨ .answering ∈ turn.account.failures ∨
    ∃ l ∈ turn.account.line, (reading turn.before.runtime.config l.2 l.1).fails turn.before.runtime.config = true ∧
      concludes l.1 ≠ some .failure

def Turn.Exact (turn : Turn) : Prop := turn.Retries ↔ ¬ turn.Mistaken

theorem Slot.awaitsRetry_iff {slot : Slot} :
    slot.AwaitsRetry ↔ slot.runtime.sock < 0 ∧ slot.socket < 0 ∧ slot.runtime.retryEnabled = true := by
  constructor
  · rintro ⟨hsock, hsocket, hdue⟩
    have hnow := hdue slot.runtime.retryAt (Int.le_refl _)
    simp only [due, Bool.and_eq_true] at hnow
    exact ⟨hsock, hsocket, hnow.1⟩
  · rintro ⟨hsock, hsocket, henabled⟩
    exact ⟨hsock, hsocket, fun now hnow => by simp [due, henabled, hnow]⟩

section
variable {turn : Turn}

/-- A network that is left open has not been retried, and is not disabled. -/
theorem Turn.Exact.of_open (hopen : 0 ≤ turn.after.runtime.sock) (h : turn.account.Lost ↔ turn.Mistaken) : turn.Exact := by
  refine ⟨fun hretries hmistaken => ?_, fun hnot => ⟨fun hlost => absurd (h.1 hlost) hnot, fun hdisabled => ?_⟩⟩
  · have hclosed := (hretries.lost (h.2 hmistaken)).1
    omega
  · have hclosed := hdisabled.1
    omega

theorem Turn.Exact.of_retry (hretry : turn.after.AwaitsRetry) (h : ¬ turn.Mistaken) : turn.Exact := by
  refine ⟨fun _ => h, fun _ => ⟨fun _ => hretry, fun hdisabled => ?_⟩⟩
  have henabled := (Slot.awaitsRetry_iff.1 hretry).2.2
  rw [hdisabled.2] at henabled
  cases henabled

/-- A network that is given up is disabled: rightly so where no answer has
failed and the line is a failure numeric. -/
theorem Turn.Exact.of_givenUp (hsecure : networkValidateSecurity turn.before.runtime.config = 0)
    (hdisabled : turn.after.Disabled) (h : turn.account.GivenUp turn.before.runtime.config) : turn.Exact := by
  obtain ⟨hfailures, text, modern, hline, hwhy⟩ := h
  have hnever : ¬ turn.after.AwaitsRetry := by
    rw [Slot.awaitsRetry_iff, hdisabled.2]
    simp
  constructor
  · rintro hretries (hjoining | hanswering | ⟨l, hl, -, hnumeric⟩)
    · exact absurd (hfailures _ hjoining) (by decide)
    · exact hnever (hretries.lost ⟨_, hanswering, by decide⟩)
    · rcases hretries.disabled hdisabled with hinvalid | ⟨l', hl', hrefused⟩
      · exact hinvalid hsecure
      · rw [Option.mem_unique hl' hl] at hrefused
        exact hnumeric hrefused
  · intro hnot
    have hanswered : .answering ∉ turn.account.failures := fun hmem => hnot (.inr (.inl hmem))
    refine ⟨fun ⟨p, hp, hne⟩ => ?_, fun _ => .inr ⟨_, hline, ?_⟩⟩
    · rcases hfailures p hp with rfl | rfl
      · exact absurd rfl hne
      · exact absurd hp hanswered
    · by_contra hnumeric
      exact hnot (.inr (.inr ⟨_, hline, hwhy.resolve_left hanswered, hnumeric⟩))

/-- An invalid profile disables the network before anything is called. -/
theorem Turn.Exact.of_invalid (hinvalid : networkValidateSecurity turn.before.runtime.config ≠ 0)
    (h : turn.account = accountInit) : turn.Exact := by
  have hnot : ¬ turn.Mistaken := by simp [Turn.Mistaken, h, accountInit]
  refine ⟨fun _ => hnot, fun _ => ⟨?_, fun _ => .inl hinvalid⟩⟩
  rintro ⟨p, hp, -⟩
  rw [h] at hp
  exact absurd hp List.not_mem_nil

/-- A connect that has succeeded has lost nothing but JOIN lines. -/
theorem Turn.Exact.of_connected {config : NetworkConfig} (hopen : 0 ≤ turn.after.runtime.sock)
    (h : Connected config .ok turn.account) : turn.Exact := by
  obtain ⟨hline, hfailures⟩ := h
  refine .of_open hopen ⟨?_, ?_⟩
  · rintro ⟨p, hp, -⟩
    exact .inl (hfailures p hp ▸ hp)
  · rintro (hjoining | hanswering | ⟨l, hl, -⟩)
    · exact ⟨_, hjoining, by decide⟩
    · exact ⟨_, hanswering, by decide⟩
    · rw [hline] at hl
      cases hl

theorem Turn.Exact.of_failed {config : NetworkConfig} (hretry : turn.after.AwaitsRetry)
    (h : Connected config .retry turn.account) : turn.Exact := by
  obtain ⟨hline, sock, -, hfailures⟩ := h
  have hcalling : ∀ p ∈ turn.account.failures, p = .calling := by
    rw [hfailures]
    split <;> simp
  refine .of_retry hretry ?_
  rintro (hjoining | hanswering | ⟨l, hl, -⟩)
  · exact absurd (hcalling _ hjoining) (by decide)
  · exact absurd (hcalling _ hanswering) (by decide)
  · rw [hline] at hl
    cases hl

theorem Turn.Exact.of_ongoing {config : NetworkConfig} (hbefore : turn.before.runtime.config = config)
    (h : Ongoing config turn.after.runtime turn.account) : turn.Exact := by
  obtain ⟨hsock, -, -, -, hfailures, hline⟩ := h
  refine .of_open hsock ⟨?_, ?_⟩
  · rintro ⟨p, hp, hne⟩
    exact absurd (hfailures p hp) hne
  · rintro (hjoining | hanswering | ⟨l, hl, hfails, -⟩)
    · exact absurd (hfailures _ hjoining) (by decide)
    · exact absurd (hfailures _ hanswering) (by decide)
    · rw [hbefore, hline l.1 l.2 hl] at hfails
      cases hfails

end

/-! ## Open networks have a valid profile -/

def NetworkRuntime.Secure (runtime : NetworkRuntime) : Prop :=
  0 ≤ runtime.sock → networkValidateSecurity runtime.config = 0

def Slot.Secure (slot : Slot) : Prop := slot.runtime.Secure

theorem NetworkRuntime.Secure.of_closed {runtime : NetworkRuntime} (h : runtime.sock < 0) : runtime.Secure :=
  fun hopen => absurd hopen (by omega)

theorem connectRuntime_secure {runtime : NetworkRuntime} (h : runtime.Secure) :
    Returns (connectRuntime runtime) fun r => r.2.Secure := by
  unfold connectRuntime
  refine returns_ite (fun _ => returns_pure h) fun hvalid => returns_bind fun _ => returns_bind fun sock => ?_
  refine returns_ite (fun hneg => returns_pure (.of_closed hneg)) fun _ => returns_bind fun r => ?_
  obtain ⟨rc, modern⟩ := r
  refine returns_bind fun rc => returns_ite (fun _ => ?_) fun _ => ?_
  · exact returns_bind fun _ => returns_pure (.of_closed (by simp))
  · exact returns_bind fun _ => returns_pure fun _ => not_not.1 hvalid

theorem startNetwork_secure (i : Nat) (c : Counters) (config : NetworkConfig) :
    Returns (startNetwork i c config) fun r => r.2.Secure := by
  refine takeTurn_returns ((connectRuntime_secure (.of_closed (by simp [runtimeInit]))).bind fun r hr => ?_)
  obtain ⟨result, runtime⟩ := r
  cases result with
  | ok => exact returns_pure hr
  | retry => exact returns_bind fun _ => returns_pure hr
  | permanent => exact returns_pure hr

theorem retryNetwork_secure (now : Int) (i : Nat) (c : Counters) {slot : Slot} (h : slot.Secure) :
    Returns (retryNetwork now i c slot) fun r => r.2.Secure := by
  unfold retryNetwork
  refine returns_ite (fun _ => returns_pure h) fun _ => takeTurn_returns ((connectRuntime_secure h).bind fun r hr => ?_)
  obtain ⟨result, runtime⟩ := r
  cases result with
  | ok => exact returns_bind fun _ => returns_bind fun _ => returns_pure hr
  | retry => exact returns_pure hr
  | permanent => exact returns_bind fun _ => returns_pure hr

theorem multinetHandleLine_secure (botai : BotAi) (bytes : Bytes) {runtime : NetworkRuntime} (h : runtime.Secure) :
    Returns (multinetHandleLine botai bytes runtime) fun r => r.2.Secure := by
  unfold multinetHandleLine
  refine returns_ite (fun _ => returns_pure h) fun _ => returns_bind fun r => ?_
  obtain ⟨rc, modern⟩ := r
  refine returns_ite (fun _ => returns_bind fun _ => returns_pure (.of_closed (by simp))) fun _ => ?_
  refine returns_ite (fun _ => returns_bind fun _ => returns_pure h) fun _ => ?_
  dsimp only
  split
  · exact returns_pure h
  · exact returns_ite (fun _ => returns_pure h) fun _ => returns_bind fun _ => returns_pure h

theorem receiveNetwork_secure (botai : BotAi) (ready : List Bool) (i : Nat) (c : Counters) {slot : Slot} (h : slot.Secure) :
    Returns (receiveNetwork botai ready i c slot) fun r => r.2.Secure := by
  have hlose : Returns (loseNetwork i c slot) fun r => r.2.Secure :=
    returns_bind fun _ => returns_bind fun _ => returns_bind fun _ => returns_pure (.of_closed (by simp))
  refine returns_ite (fun _ => returns_pure h) fun _ => takeTurn_returns (returns_bind fun received => ?_)
  split
  · exact hlose
  · exact hlose
  · refine (framerFeed_returns (I := NetworkRuntime.Secure)
      (fun line runtime => multinetHandleLine_secure botai line) _ _ h).bind fun r hr => ?_
    obtain ⟨framer, runtime⟩ := r
    exact returns_ite (fun _ => returns_bind fun _ => returns_pure hr) fun _ => returns_pure hr

/-! ## Each turn -/

/-- The turns so far are as the law's condition says. -/
abbrev Exactly : List Obs → Prop := Judged Turn.Exact

theorem startNetwork_judged (i : Nat) (c : Counters) (config : NetworkConfig) :
    Triple (fun w => Exactly w.trace) (startNetwork i c config) (fun _ w => Exactly w.trace) fun w => Exactly w.trace := by
  refine takeTurn_judged (Q := fun r a => Turn.Exact { index := i, before := _, account := a, after := r.2 })
    (((connectRuntime_turned _).returns (connectRuntime_returns rfl)).bind fun r => triple_fact fun hr => ?_)
    fun _ _ => id
  obtain ⟨result, runtime⟩ := r
  obtain ⟨hok, hfailed, -, -, -⟩ := hr
  cases result with
  | ok => exact triple_pure fun w hw => hw.mono fun a ha => .of_connected (hok rfl) ha
  | retry =>
    refine (ask_turned _).bind fun now => triple_pure fun w hw => hw.mono fun a ha => .of_failed ?_ ha
    have hclosed : runtime.sock = -1 := hfailed nofun
    simp [Slot.awaitsRetry_iff, hclosed]
  | permanent => exact triple_pure fun w hw => hw.mono fun a ha => .of_invalid ha.1 ha.2

theorem retryNetwork_judged (now : Int) (i : Nat) (c : Counters) {slot : Slot} (hslot : SlotOk slot) :
    Triple (fun w => Exactly w.trace) (retryNetwork now i c slot) (fun _ w => Exactly w.trace) fun w => Exactly w.trace := by
  unfold retryNetwork
  refine triple_ite (fun _ => triple_pure fun _ => id) fun hdue => ?_
  have henabled := retryEnabled_of_due hdue
  have hminus := hslot.closed henabled
  refine takeTurn_judged (Q := fun r a => Turn.Exact { index := i, before := slot, account := a, after := r.2 })
    (((connectRuntime_turned _).returns (connectRuntime_returns hminus)).bind fun r => triple_fact fun hr => ?_)
    fun _ _ => id
  obtain ⟨result, runtime⟩ := r
  obtain ⟨hok, hfailed, -, hsame, -⟩ := hr
  cases result with
  | ok =>
    refine (untold_turned (by decide) (decrement_keeps _)).bind fun _ => ?_
    refine (setFirstSocket_turned _ _).bind fun _ => ?_
    exact triple_pure fun w hw => hw.mono fun a ha => .of_connected (hok rfl) ha
  | permanent =>
    refine (untold_turned (by decide) (decrement_keeps _)).bind fun _ => ?_
    exact triple_pure fun w hw => hw.mono fun a ha => .of_invalid ha.1 ha.2
  | retry =>
    refine triple_pure fun w hw => hw.mono fun a ha => .of_failed ?_ ha
    have hclosed : runtime.sock = -1 := hfailed nofun
    have hsocket : slot.socket = -1 := hslot.socket.trans hminus
    have hretry : runtime.retryEnabled = true := hsame.trans henabled
    simp [Slot.awaitsRetry_iff, hclosed, hsocket, hretry]

/-- How a read leaves an open network. -/
inductive ReadEnd (config : NetworkConfig) (slot : Slot) (a : Account) : Prop
  | lost : a.failures = [.calling] → a.line = none → slot.AwaitsRetry → slot.runtime.retryWait = 1 → ReadEnd config slot a
  | ongoing : Ongoing config slot.runtime a → ReadEnd config slot a
  | dropped : Dropped config slot.runtime a → ReadEnd config slot a

theorem receiveNetwork_step_turned {good : Turn → Prop} (botai : BotAi) (i : Nat) (c : Counters) {slot : Slot}
    (hslot : SlotOk slot) (hopen : 0 ≤ slot.runtime.sock) :
    Turned good i slot (· = accountInit) (do
      let received ← netRecv slot.runtime.sock multinetRecvBuffer
      match received with
      | none => loseNetwork i c slot
      | some [] => loseNetwork i c slot
      | some data => feedNetwork botai i c slot data) fun r a => ReadEnd slot.runtime.config r.2 a := by
  -- the read alone: nothing has failed before it
  have hrecv : Turned good i slot (· = accountInit) (netRecv slot.runtime.sock multinetRecvBuffer)
      fun received => (· = accountInit.add (.recv slot.runtime.sock received)) := by
    refine (ask_turned _).bind fun received => Triple.bind (log_turned (by simp [Obs.kind]) fun a ha => ?_) fun _ =>
      triple_pure fun _ => id
    rw [ha]
  have hlose {received : Option Bytes} (hempty : received.getD [] = []) :
      Turned good i slot (· = accountInit.add (.recv slot.runtime.sock received)) (loseNetwork i c slot)
        fun r a => ReadEnd slot.runtime.config r.2 a := by
    refine (untold_turned (by decide) (netCloseSocket_keeps _)).bind fun _ => (setFirstSocket_turned _ _).bind fun _ => ?_
    refine (ask_turned _).bind fun now => triple_pure fun w hw => hw.mono fun a ha => .lost ?_ ?_ ?_ rfl
    · simp [ha, Account.add, hempty, accountInit, Account.fail]
    · simp [ha, Account.add, hempty, accountInit, Account.fail]
    · simp [Slot.awaitsRetry_iff]
  refine hrecv.bind fun received => ?_
  split
  · exact hlose rfl
  · exact hlose rfl
  · rename_i data hne
    refine (feedNetwork_turned botai i c slot data slot.runtime.config).conseq (fun w hw => hw.mono fun a ha => ?_)
      (fun r w hw => hw.mono fun a ha => ?_) fun _ => id
    · subst ha
      have hdata : data ≠ [] := fun heq => hne (by rw [heq])
      refine ⟨hopen, hslot.exclusive hopen, rfl, ?_, ?_, ?_⟩ <;> simp [Account.add, accountInit, hdata]
    · exact ha.elim .ongoing .dropped

theorem receiveNetwork_judged (botai : BotAi) (ready : List Bool) (i : Nat) (c : Counters) {slot : Slot}
    (hslot : SlotOk slot) (hsecure : slot.Secure) :
    Triple (fun w => Exactly w.trace) (receiveNetwork botai ready i c slot) (fun _ w => Exactly w.trace)
      fun w => Exactly w.trace := by
  unfold receiveNetwork
  refine triple_ite (fun _ => triple_pure fun _ => id) fun hready => ?_
  have hopen := isOpen_of_ready hready
  refine takeTurn_judged (receiveNetwork_step_turned botai i c hslot hopen) fun r a hend => ?_
  cases hend with
  | lost hfailures hline hretry => exact .of_retry hretry (by simp [Turn.Mistaken, hfailures, hline])
  | ongoing h => exact .of_ongoing rfl h
  | dropped h => exact .of_givenUp (hsecure hopen) ⟨h.sock, h.retryEnabled⟩ h.account

/-! ## A whole run -/

theorem exactly_turnByTurn : TurnByTurn fun slots t => (∀ slot ∈ slots, slot.Secure) ∧ Exactly t where
  plain slots t o ho ht := ⟨ht.1, ht.2.snoc fun hsettled => absurd (hsettled ▸ ho) (by decide)⟩
  start done c config := triple_fact fun hdone => by
    refine ((startNetwork_judged done.length c config).returns (startNetwork_secure _ c config)).conseq (fun _ => id)
      (fun r w hw => ⟨?_, hw.2⟩) fun w hw => ⟨[], by simp, hw⟩
    exact List.forall_mem_append.2 ⟨hdone, List.forall_mem_singleton.2 hw.1⟩
  retry now done rest c slot hok := triple_fact fun hsecure =>
    ((retryNetwork_judged now done.length c hok).returns (retryNetwork_secure now _ c (hsecure slot (by simp)))).conseq
      (fun _ => id) (fun _ _ hw => ⟨forall_replace hsecure hw.1, hw.2⟩) fun w hw => ⟨[], by simp, hw⟩
  receive botai ready done rest c slot hok := triple_fact fun hsecure => by
    have hslot : slot.Secure := hsecure slot (by simp)
    exact ((receiveNetwork_judged botai ready done.length c hok hslot).returns
      (receiveNetwork_secure botai ready _ c hslot)).conseq (fun _ => id)
      (fun _ _ hw => ⟨forall_replace hsecure hw.1, hw.2⟩) fun w hw => ⟨[], by simp, hw⟩

/-- In every run, a failure of the transport leaves its network to be retried,
and only an invalid profile or a failure numeric disables one, exactly where no
send fails in the joins or in an answer to the negotiation and no line is
refused that is not such a numeric. -/
theorem multinetRun_retries_iff (networks : Networks) (botai : BotAi) (env : Env) (w : World) :
    (∀ turn ∈ (turns (multinetRun networks botai env w.begin).2.trace).ended, turn.Retries) ↔
      ∀ turn ∈ (turns (multinetRun networks botai env w.begin).2.trace).ended, ¬ turn.Mistaken := by
  have hbegin : (∀ slot ∈ ([] : List Slot), slot.Secure) ∧ Exactly w.begin.trace :=
    ⟨by simp, fun _ hturn => absurd hturn List.not_mem_nil⟩
  have hrun : Exactly (multinetRun networks botai env w.begin).2.trace := by
    obtain ⟨slots, -, hexactly⟩ := (exactly_turnByTurn.run networks botai).all (fun _ _ => id) (fun _ => id) hbegin
    exact hexactly
  exact forall₂_congr hrun

/-- A network with SASL and one channel. -/
def channelNetwork : Networks :=
  { items := [{ saslNetwork with nick := ascii "bot", user := ascii "bot", channels := [ascii "#c"] }]
    skipped := 0
    bound := by decide }

/-- An outside whose server says `line`, and takes no more from its `n`th
answer on. -/
def Env.cutOff (line : String) (n : Nat) : Env :=
  { Env.online with
    fuel := 1
    send := fun tick => if tick < n then 512 else 0
    recv := fun _ => some (ascii line ++ [LF])
    waitSelect := fun _ => { rc := 1, rexx := false, ctrlC := false, readable := fun _ => true } }

/-- A network is not retried after CAP END has not gone out, and its socket is
kept after the JOIN has not; a message with the words of a failure numeric
disables it. -/
theorem multinetRun_disables :
    let run (line : String) (n : Nat) :=
      (turns (multinetRun channelNetwork botaiInit (Env.cutOff line n) (worldInit configInit).begin).2.trace).ended
    (∃ turn ∈ run ":irc CAP * LS :multi-prefix" 11, turn.account.failures = [.answering] ∧ ¬ turn.Retries) ∧
    (∃ turn ∈ run "PING :x" 9, turn.account.failures = [.joining] ∧ ¬ turn.Retries) ∧
    ∃ turn ∈ run ":n!u@h PRIVMSG #c :a 904 b" 100, turn.account.failures = [] ∧ ¬ turn.Retries := by
  have lost {turn : Turn} (hlost : ∃ p ∈ turn.account.failures, p ≠ .serving)
      (hretry : turn.after.runtime.retryEnabled = false) : ¬ turn.Retries := by
    intro h
    have henabled := (Slot.awaitsRetry_iff.1 (h.lost hlost)).2.2
    rw [hretry] at henabled
    cases henabled
  have refused {turn : Turn} (hsock : turn.after.runtime.sock < 0) (hretry : turn.after.runtime.retryEnabled = false)
      (hvalid : networkValidateSecurity turn.before.runtime.config = 0)
      (hline : ¬ ∃ l ∈ turn.account.line, concludes l.1 = some .failure) : ¬ turn.Retries := fun h =>
    (h.disabled ⟨hsock, hretry⟩).elim (fun hinvalid => hinvalid hvalid) hline
  have run₁ : ∃ turn ∈ (turns (multinetRun channelNetwork botaiInit (Env.cutOff ":irc CAP * LS :multi-prefix" 11)
      (worldInit configInit).begin).2.trace).ended, turn.account.failures = [.answering] ∧
      turn.after.runtime.retryEnabled = false := by decide +kernel
  have run₂ : ∃ turn ∈ (turns (multinetRun channelNetwork botaiInit (Env.cutOff "PING :x" 9)
      (worldInit configInit).begin).2.trace).ended, turn.account.failures = [.joining] ∧
      turn.after.runtime.retryEnabled = false := by decide +kernel
  have run₃ : ∃ turn ∈ (turns (multinetRun channelNetwork botaiInit (Env.cutOff ":n!u@h PRIVMSG #c :a 904 b" 100)
      (worldInit configInit).begin).2.trace).ended, turn.account.failures = [] ∧ turn.after.runtime.sock < 0 ∧
      turn.after.runtime.retryEnabled = false ∧ networkValidateSecurity turn.before.runtime.config = 0 ∧
      ¬ ∃ l ∈ turn.account.line, concludes l.1 = some .failure := by decide +kernel
  refine ⟨?_, ?_, ?_⟩
  · obtain ⟨turn, hturn, hfailures, hretry⟩ := run₁
    exact ⟨turn, hturn, hfailures, lost (by simp [hfailures]) hretry⟩
  · obtain ⟨turn, hturn, hfailures, hretry⟩ := run₂
    exact ⟨turn, hturn, hfailures, lost (by simp [hfailures]) hretry⟩
  · obtain ⟨turn, hturn, hfailures, hsock, hretry, hvalid, hline⟩ := run₃
    exact ⟨turn, hturn, hfailures, refused hsock hretry hvalid hline⟩

end AmBot
