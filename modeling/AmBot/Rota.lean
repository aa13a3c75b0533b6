import AmBot.Rounds
import AmBot.RunLib.Runs
/-!
# Whose turn it is

The main loop as a scheduler of its networks: `rotaStep` reads the trace and
refuses an entry that comes out of turn. A wait that goes on puts on the agenda
the networks whose sockets are ready, a look at the reconnects those that are
due, and the loop waits again only with the agenda empty. Nothing is dialled or
read but in the turn of a network, and only a turn changes its table entry.
-/

namespace AmBot

open RunLib RunLib.Prog

/-! ## The scheduler -/

/-- The indices of the entries `serve` picks; the first entry has index `i`. -/
def picked (serve : Nat → Slot → Bool) : Nat → List Slot → List Nat
  | _, [] => []
  | i, slot :: slots => if serve i slot then i :: picked serve (i + 1) slots else picked serve (i + 1) slots

def isDue (now : Int) (_ : Nat) (slot : Slot) : Bool := due now slot.runtime

def isReady (ready : List Bool) (i : Nat) (_ : Slot) : Bool := ready.getD i false

def dueNetworks (now : Int) (slots : List Slot) : List Nat := picked (isDue now) 0 slots

def readyNetworks (ready : List Bool) (slots : List Slot) : List Nat := picked (isReady ready) 0 slots

/-- The loop goes on after a wait. -/
def WaitResult.goesOn (result : WaitResult) (control : Control) : Bool :=
  !(result.rexx && control.reloadRequested) && !result.ctrlC && decide (0 ≤ result.rc)

/-- The table, the networks that are still to be served, the one that is being
served, and whether the reconnects have been looked at where there are any. -/
structure Rota where
  table : List Slot
  agenda : List Nat
  turn : Option Nat
  looked : Bool
  deriving DecidableEq

/-- Nothing is left to be done. -/
def Rota.rest (slots : List Slot) : Rota := { table := slots, agenda := [], turn := none, looked := true }

def noReconnects (slots : List Slot) : Bool := slots.all fun slot => !slot.runtime.retryEnabled

/-- What a wait gives to do. -/
def Rota.wake (s : Rota) (result : WaitResult) (control : Control) : Rota :=
  if result.goesOn control then { s with agenda := readyNetworks result.ready s.table, looked := noReconnects s.table }
  else s

def rotaStep (s : Rota) : Obs → Option Rota
  | .turn i slot =>
    if s.turn = none ∧ s.looked = true ∧ s.agenda.head? = some i ∧ s.table[i]? = some slot then
      some { s with agenda := s.agenda.tail, turn := some i }
    else none
  | .settled i slot => if s.turn = some i then some { s with table := s.table.set i slot, turn := none } else none
  | .opened slots _ => if s = .rest slots then some s else none
  | .iteration slots _ _ _ => if s = .rest slots then some s else none
  | .woken result slots control => if s = .rest slots then some (s.wake result control) else none
  | .retry now slots _ =>
    if s.turn = none ∧ s.looked = false ∧ s.table = slots ∧ (dueNetworks now slots ++ s.agenda).Nodup then
      some { s with agenda := dueNetworks now slots ++ s.agenda, looked := true }
    else none
  | .wait socks _ =>
    -- BotAI waits for its answer within a turn
    if s.turn.isSome ∨ (s = .rest s.table ∧ socks = s.table.map (·.socket)) then some s else none
  | .dial .. | .connect .. | .recv .. | .join .. | .line .. | .negotiated | .event .. | .script .. | .underflow =>
    if s.turn.isSome then some s else none
  | .send .. | .rexx .. | .close .. | .ctrlC => some s
  | .load .. | .delay .. | .rebuild .. | .session .. | .register .. => none

/-- A network before its first connect. -/
def freshSlot (config : NetworkConfig) : Slot := { runtime := runtimeInit config, socket := -1 }

/-- At first every network is to be connected. -/
def rotaInit (networks : Networks) : Rota :=
  { table := networks.items.map freshSlot, agenda := List.range' 0 networks.items.length, turn := none, looked := true }

/-! ## Agendas -/

section Agendas
variable {serve : Nat → Slot → Bool} {i j : Nat} {slot : Slot} {slots : List Slot}

theorem picked_cons : picked serve i (slot :: slots) =
    if serve i slot then i :: picked serve (i + 1) slots else picked serve (i + 1) slots := rfl

theorem mem_picked : j ∈ picked serve i slots ↔ ∃ k slot, j = i + k ∧ slots[k]? = some slot ∧ serve j slot = true := by
  induction slots generalizing i with
  | nil => simp [picked]
  | cons first slots ih =>
    have hrest : j ∈ picked serve (i + 1) slots ↔
        ∃ k slot, j = i + (k + 1) ∧ slots[k]? = some slot ∧ serve j slot = true := by
      rw [ih]
      simp only [Nat.add_assoc, Nat.add_comm 1]
    rw [picked_cons]
    constructor
    · intro hj
      have hcases : (j = i ∧ serve i first = true) ∨ j ∈ picked serve (i + 1) slots := by
        split at hj
        · rename_i hserve
          exact (List.mem_cons.1 hj).imp_left fun h => ⟨h, hserve⟩
        · exact .inr hj
      rcases hcases with ⟨rfl, hserve⟩ | hlater
      · exact ⟨0, first, rfl, rfl, hserve⟩
      · obtain ⟨k, slot, hk, hslot, hserve⟩ := hrest.1 hlater
        exact ⟨k + 1, slot, hk, hslot, hserve⟩
    · rintro ⟨k, slot, hk, hslot, hserve⟩
      cases k with
      | zero =>
        cases hslot
        obtain rfl : j = i := hk
        rw [if_pos hserve]
        exact List.mem_cons_self
      | succ k =>
        have hlater := hrest.2 ⟨k, slot, hk, hslot, hserve⟩
        split
        · exact List.mem_cons_of_mem _ hlater
        · exact hlater

theorem nodup_picked : (picked serve i slots).Nodup := by
  induction slots generalizing i with
  | nil => exact List.nodup_nil
  | cons slot slots ih =>
    rw [picked_cons]
    split
    · refine List.nodup_cons.2 ⟨fun hmem => ?_, ih⟩
      obtain ⟨k, -, hk, -⟩ := mem_picked.1 hmem
      omega
    · exact ih

/-- Readiness does not depend on the entries. -/
theorem readyNetworks_middle (ready : List Bool) {done rest : List Slot} {slot slot' : Slot} :
    readyNetworks ready (done ++ slot' :: rest) = readyNetworks ready (done ++ slot :: rest) := by
  have main : ∀ i,
      picked (isReady ready) i (done ++ slot' :: rest) = picked (isReady ready) i (done ++ slot :: rest) := by
    induction done with
    | nil => intro i; rfl
    | cons first done ih =>
      intro i
      rw [List.cons_append, List.cons_append, picked_cons, picked_cons, ih]
  exact main 0

theorem dueNetworks_none (now : Int) (h : noReconnects slots = true) : dueNetworks now slots = [] := by
  rw [List.eq_nil_iff_forall_not_mem]
  intro j hj
  obtain ⟨k, slot, -, hslot, hdue⟩ := mem_picked.1 hj
  have hdisabled := List.all_eq_true.1 h slot (List.mem_of_getElem? hslot)
  simp only [Bool.not_eq_true'] at hdisabled
  simp [isDue, due, hdisabled] at hdue

end Agendas

/-! ## A round of the scheduler -/

def Obs.turned : Obs → Option Nat
  | .turn i _ => some i
  | _ => none

/-- The networks served, in their order. -/
def turnsOf (t : List Obs) : List Nat := t.filterMap Obs.turned

section Rounds
variable {s s' : Rota} {o : Obs} {mid : List Obs} {slots slots' : List Slot} {result : WaitResult}
  {control control' : Control} {active retrying : Nat}

/-- What a step does to the agenda: a turn takes its first network, a look at
the reconnects puts some before it, and everything else leaves it alone. -/
theorem rotaStep_agenda (h : rotaStep s o = some s') (ho : o.kind ≠ .woken) :
    (∃ i, o.turned = some i ∧ s.looked = true ∧ s.agenda = i :: s'.agenda ∧ s'.looked = true) ∨
    (∃ now control, o = .retry now s.table control ∧ s.turn = none ∧ s.looked = false ∧
      (dueNetworks now s.table ++ s.agenda).Nodup ∧
      s' = { s with agenda := dueNetworks now s.table ++ s.agenda, looked := true }) ∨
    (o.turned = none ∧ s'.agenda = s.agenda ∧ s'.looked = s.looked ∧ (s.turn = none → s' = s)) := by
  cases o with
  | turn i slot =>
    obtain ⟨⟨-, hlooked, hhead, -⟩, ⟨⟩⟩ := Option.ite_none_right_eq_some.1 h
    exact .inl ⟨i, rfl, hlooked, (List.cons_head?_tail hhead).symm, hlooked⟩
  | settled i slot =>
    obtain ⟨hturn, ⟨⟩⟩ := Option.ite_none_right_eq_some.1 h
    exact .inr (.inr ⟨rfl, rfl, rfl, fun hnone => by rw [hnone] at hturn; cases hturn⟩)
  | retry now slots control =>
    obtain ⟨⟨hturn, hlooked, rfl, hnodup⟩, ⟨⟩⟩ := Option.ite_none_right_eq_some.1 h
    exact .inr (.inl ⟨now, control, rfl, hturn, hlooked, hnodup, rfl⟩)
  | woken => exact absurd rfl ho
  | send | rexx | close | ctrlC =>
    cases h
    exact .inr (.inr ⟨rfl, rfl, rfl, fun _ => rfl⟩)
  | load | delay | rebuild | session | register => cases h
  | _ =>
    obtain ⟨-, ⟨⟩⟩ := Option.ite_none_right_eq_some.1 h
    exact .inr (.inr ⟨rfl, rfl, rfl, fun _ => rfl⟩)

/-- With the reconnects looked at, the turns are those on the agenda. -/
theorem run_agenda (h : Run rotaStep s mid s') (hmid : ∀ o ∈ mid, o.kind ≠ .woken) (hlooked : s.looked = true) :
    turnsOf mid ++ s'.agenda = s.agenda := by
  induction h with
  | nil => rfl
  | @cons s s₁ s' o mid hstep _ ih =>
    have hlater := ih fun o ho => hmid o (List.mem_cons_of_mem _ ho)
    rcases rotaStep_agenda hstep (hmid o List.mem_cons_self) with
      ⟨i, hturned, -, hagenda, hlooked₁⟩ | ⟨now, control, -, -, hnot, -⟩ | ⟨hturned, hagenda, hlooked₁, -⟩
    · rw [turnsOf, List.filterMap_cons_some hturned, hagenda, List.cons_append, ← hlater hlooked₁, turnsOf]
    · rw [hlooked] at hnot
      cases hnot
    · rw [turnsOf, List.filterMap_cons_none hturned, ← hagenda, ← hlater (hlooked₁.trans hlooked), turnsOf]

/-- Before they are looked at there are no turns. -/
theorem run_looks (h : Run rotaStep s mid s') (hmid : ∀ o ∈ mid, o.kind ≠ .woken) (hturn : s.turn = none)
    (hlooked : s.looked = false) (hdone : s'.looked = true) : ∃ now control, .retry now s.table control ∈ mid ∧
      turnsOf mid ++ s'.agenda = dueNetworks now s.table ++ s.agenda ∧ (dueNetworks now s.table ++ s.agenda).Nodup := by
  induction h with
  | nil =>
    rw [hlooked] at hdone
    cases hdone
  | @cons s s₁ s' o mid hstep hrun ih =>
    have hmid₁ : ∀ o ∈ mid, o.kind ≠ .woken := fun o ho => hmid o (List.mem_cons_of_mem _ ho)
    rcases rotaStep_agenda hstep (hmid o List.mem_cons_self) with
      ⟨i, -, hlooked₁, -⟩ | ⟨now, control, rfl, -, -, hnodup, rfl⟩ | ⟨hturned, -, -, hsame⟩
    · rw [hlooked] at hlooked₁
      cases hlooked₁
    · refine ⟨now, control, List.mem_cons_self, ?_, hnodup⟩
      rw [turnsOf, List.filterMap_cons_none rfl]
      exact run_agenda hrun hmid₁ rfl
    · obtain rfl := hsame hturn
      obtain ⟨now, control, hmem, hturns, hnodup⟩ := ih hmid₁ hturn hlooked hdone
      refine ⟨now, control, List.mem_cons_of_mem _ hmem, ?_, hnodup⟩
      rw [turnsOf, List.filterMap_cons_none hturned]
      exact hturns

/-- Between a wait that goes on and the next iteration each network that is due
and then each whose socket is ready gets one turn, in the order of the table,
and no other network gets any. -/
theorem rota_round
    (h : Run rotaStep s (.woken result slots control :: (mid ++ [.iteration slots' active retrying control'])) s')
    (hgoes : result.goesOn control = true) (hmid : ∀ o ∈ mid, o.kind ≠ .woken) :
    ∃ now, turnsOf mid = dueNetworks now slots ++ readyNetworks result.ready slots ∧ (turnsOf mid).Nodup ∧
      (noReconnects slots = false → ∃ control, .retry now slots control ∈ mid) := by
  cases h with
  | @cons _ s₁ _ _ _ hwoken hrest =>
    obtain ⟨rfl, ⟨⟩⟩ := Option.ite_none_right_eq_some.1 hwoken
    obtain ⟨s₂, hrun, hlast⟩ := hrest.split
    -- the iteration finds nothing left to be done
    have hrested : s₂ = .rest slots' := by
      cases hlast with
      | cons hiteration _ => exact (Option.ite_none_right_eq_some.1 hiteration).1
    have hwake : (Rota.rest slots).wake result control =
        { Rota.rest slots with agenda := readyNetworks result.ready slots, looked := noReconnects slots } := if_pos hgoes
    rw [hwake, hrested] at hrun
    cases hnone : noReconnects slots with
    | true =>
      rw [hnone] at hrun
      have hturns := run_agenda hrun hmid rfl
      refine ⟨0, ?_, ?_, nofun⟩
      · rw [dueNetworks_none 0 hnone]
        simpa [Rota.rest] using hturns
      · have hturns' : turnsOf mid = readyNetworks result.ready slots := by simpa [Rota.rest] using hturns
        rw [hturns']
        exact nodup_picked
    | false =>
      rw [hnone] at hrun
      obtain ⟨now, control, hmem, hturns, hnodup⟩ := run_looks hrun hmid rfl rfl rfl
      have hturns' : turnsOf mid = dueNetworks now slots ++ readyNetworks result.ready slots := by
        simpa [Rota.rest] using hturns
      exact ⟨now, hturns', hturns' ▸ hnodup, fun _ => ⟨control, hmem⟩⟩

end Rounds

/-! ## Sockets that are ready -/

/-- From index `i` on, what is ready is open. -/
def OpenWhereReady (ready : List Bool) (i : Nat) (slots : List Slot) : Prop :=
  ∀ k slot, slots[k]? = some slot → ready.getD (i + k) false = true → 0 ≤ slot.runtime.sock

theorem readyBits_open {slots : List Slot} (hslots : ∀ slot ∈ slots, SlotOk slot) (answer : WaitAnswer) :
    OpenWhereReady (readyBits answer (slots.map (·.socket))) 0 slots := by
  intro k slot hk hready
  rw [Nat.zero_add] at hready
  have hsocket : (slots.map (·.socket))[k]? = some slot.runtime.sock := by
    rw [List.getElem?_map, hk, Option.map_some, (hslots slot (List.mem_of_getElem? hk)).socket]
  unfold readyBits at hready
  split at hready
  · rw [List.getD_eq_getElem?_getD, List.getElem?_map, hsocket] at hready
    cases hready
  · rw [List.getD_eq_getElem?_getD, List.getElem?_map, hsocket] at hready
    have hboth : 0 ≤ slot.runtime.sock ∧ answer.readable slot.runtime.sock = true := by simpa using hready
    exact hboth.1

theorem OpenWhereReady.tail {ready : List Bool} {i : Nat} {slot : Slot} {slots : List Slot}
    (h : OpenWhereReady ready i (slot :: slots)) : OpenWhereReady ready (i + 1) slots := by
  intro k slot' hk hready
  apply h (k + 1) slot' hk
  rwa [Nat.add_comm k, ← Nat.add_assoc]

theorem OpenWhereReady.middle {ready : List Bool} {done rest : List Slot} {slot slot' : Slot}
    (h : OpenWhereReady ready 0 (done ++ slot :: rest))
    (hslot : ready.getD done.length false = true → 0 ≤ slot'.runtime.sock) :
    OpenWhereReady ready 0 (done ++ slot' :: rest) := by
  intro k other hk hready
  by_cases hpos : done.length = k
  · subst hpos
    rw [List.getElem?_append_right le_rfl, Nat.sub_self] at hk
    cases hk
    exact hslot (by simpa using hready)
  · rw [@getElem?_middle done rest slot _ k hpos] at hk
    exact h k other hk hready

end AmBot
