import AmBot.Talks
import AmBot.Turns
/-!
# Networks apart

The networks share one loop, one control block and one trace. A turn is about
one of them: the others are in the next round as they were left, and a network
left without a socket and without a retry gets no turn again. What is sent in
the meantime is sent in other turns on their sockets, or by ARexx commands on
the first network's.
-/

namespace AmBot

open RunLib RunLib.Prog

/-! ## Networks in a trace -/

/-- The state in which network `i` leaves a turn. -/
def Obs.leaves (i : Nat) : Obs → Option Slot
  | .settled k slot => if k = i then some slot else none
  | _ => none

/-- The states in which each network has left its turns. -/
def outcomes (t : List Obs) (i : Nat) : List Slot := t.filterMap (·.leaves i)

/-- The state of network `i` that an entry shows. -/
def Obs.shows (i : Nat) : Obs → Option Slot
  | .turn k slot => if k = i then some slot else none
  | .opened slots _ => slots[i]?
  | .iteration slots _ _ _ => slots[i]?
  | .woken _ slots _ => slots[i]?
  | .retry _ slots _ => slots[i]?
  | _ => none

/-- Network `i` is in its turn, which it began as `slot`, and has logged `since`. -/
def InTurn (i : Nat) (slot : Slot) (since t : List Obs) : Prop :=
  ∃ before, t = before ++ .turn i slot :: since ∧ ∀ o ∈ since, o.kind ∉ [.turn, .settled]

/-- The socket of the ARexx commands, by what the first network has been left
as: its socket, or, as long as it has had none, the one from before the run. -/
def RexxSocket (earlier : Int) (past : List Slot) (fd : Int) : Prop :=
  past.getLast?.map (·.runtime.sock) = some fd ∨ fd = earlier ∧ ∀ slot ∈ past, slot.runtime.sock < 0

/-- A call is not made for network `i`: it is another's turn, and the socket is
that network's or has been opened in the turn, or it is an ARexx command on the
socket of another first network or on one from before the run. -/
inductive Elsewhere (earlier : Int) (i : Nat) (before : List Obs) (o : Obs) : Prop
  | turn (j : Nat) (slot : Slot) (since : List Obs) (hne : j ≠ i) (hturn : InTurn j slot since before)
      (huses : ∀ fd, o.uses = some fd → fd = slot.runtime.sock ∨ ∃ host port, .connect host port fd ∈ since)
  | first (fd : Int) (hne : i ≠ 0) (hkind : o.kind = .send) (huses : o.uses = some fd)
      (hfirst : (outcomes before 0).getLast?.map (·.runtime.sock) = some fd)
  | earlier (hopen : 0 ≤ earlier) (hkind : o.kind = .send) (huses : o.uses = some earlier)
      (hnone : ∀ slot ∈ outcomes before 0, slot.runtime.sock < 0)

/-- What an entry can be after those before it: a network is shown as it was
left, and one that was left disabled has no turn and no call is made for it. -/
structure Separate (earlier : Int) (before : List Obs) (o : Obs) : Prop where
  shown : ∀ i slot slot', (outcomes before i).getLast? = some slot → o.shows i = some slot' → slot' = slot
  turn : ∀ i, (∃ slot ∈ outcomes before i, slot.Disabled) → ∀ slot, o ≠ .turn i slot
  call : ∀ i, (∃ slot ∈ outcomes before i, slot.Disabled) → o.kind ∈ [.connect, .send, .recv] →
    Elsewhere earlier i before o

section
variable {i k : Nat} {slot slot' : Slot} {t u : List Obs}

theorem outcomes_quiet (h : ∀ o ∈ u, o.kind ≠ .settled) : outcomes (t ++ u) = outcomes t := by
  funext i
  have hnone : u.filterMap (·.leaves i) = [] := by
    refine List.filterMap_eq_nil_iff.2 fun o ho => ?_
    cases o with
    | settled => exact absurd rfl (h _ ho)
    | _ => rfl
  simp [outcomes, List.filterMap_append, hnone]

theorem outcomes_snoc {o : Obs} (h : o.kind ≠ .settled) : outcomes (t ++ [o]) = outcomes t :=
  outcomes_quiet (by simpa using h)

theorem outcomes_settled : outcomes (t ++ [.settled i slot]) i = outcomes t i ++ [slot] := by
  simp [outcomes, List.filterMap_append, Obs.leaves]

theorem outcomes_other (h : i ≠ k) : outcomes (t ++ [.settled i slot]) k = outcomes t k := by
  simp [outcomes, List.filterMap_append, Obs.leaves, h]

theorem InTurn.append {since : List Obs} (h : InTurn i slot since t) (hu : ∀ o ∈ u, o.kind ∉ [.turn, .settled]) :
    InTurn i slot (since ++ u) (t ++ u) := by
  obtain ⟨before, rfl, hsince⟩ := h
  exact ⟨before, by simp, List.forall_mem_append.2 ⟨hsince, hu⟩⟩

/-! ## The table -/

/-- The table holds the networks as they were last left, and one that was ever
left disabled is in it as it was. -/
structure Tabulated (slots : List Slot) (past : Nat → List Slot) : Prop where
  last : ∀ i, (past i).getLast? = slots[i]?
  disabled : ∀ i, ∀ slot ∈ past i, slot.Disabled → slots[i]? = some slot

theorem Tabulated.settled {done rest : List Slot} (h : Tabulated (done ++ slot :: rest) (outcomes t))
    (hslot : ¬ slot.Disabled) :
    Tabulated (done ++ slot' :: rest) (outcomes (t ++ [.settled done.length slot'])) where
  last k := by
    by_cases hk : done.length = k
    · subst hk
      simp [outcomes_settled]
    · rw [outcomes_other hk, h.last, getElem?_middle hk]
  disabled k s hs hdisabled := by
    by_cases hk : done.length = k
    · subst hk
      rw [outcomes_settled] at hs
      rcases List.mem_append.1 hs with hs | hs
      · -- the network had its turn, so it was not left disabled before
        have hsame := h.disabled _ s hs hdisabled
        simp only [List.getElem?_append_right (Nat.le_refl _), Nat.sub_self, List.getElem?_cons_zero,
          Option.some.injEq] at hsame
        exact absurd (hsame ▸ hdisabled) hslot
      · simp [List.mem_singleton.1 hs]
    · rw [outcomes_other hk] at hs
      rw [getElem?_middle hk]
      exact h.disabled k s hs hdisabled

/-! ## Entries between the marks -/

/-- The kinds that show networks or leave them. -/
abbrev marks : List Kind := [.turn, .settled, .opened, .iteration, .woken, .retry]

variable {earlier : Int} {slots : List Slot} {before : List Obs} {o : Obs}

theorem Separate.of_unmarked (ho : o.kind ∉ marks)
    (hcall : ∀ i, (∃ slot ∈ outcomes before i, slot.Disabled) → o.kind ∈ [.connect, .send, .recv] →
      Elsewhere earlier i before o) : Separate earlier before o where
  shown i slot slot' _ hshows := by
    cases o <;> first | cases hshows | exact absurd (by simp [Obs.kind]) ho
  turn i _ slot heq := ho (heq ▸ by simp [Obs.kind])
  call := hcall

/-- An ARexx command is not for a disabled network. -/
theorem RexxSocket.elsewhere {fd : Int} (h : RexxSocket earlier (outcomes before 0) fd) (hfd : 0 ≤ fd)
    (htable : Tabulated slots (outcomes before)) (hdisabled : ∃ slot ∈ outcomes before i, slot.Disabled)
    (hkind : o.kind = .send) (huses : o.uses = some fd) : Elsewhere earlier i before o := by
  rcases h with hfirst | ⟨rfl, hnone⟩
  · refine .first fd (fun hi => ?_) hkind huses hfirst
    subst hi
    obtain ⟨slot, hslot, hclosed, henabled⟩ := hdisabled
    rw [htable.last, htable.disabled 0 slot hslot ⟨hclosed, henabled⟩, Option.map_some, Option.some.injEq] at hfirst
    omega
  · exact .earlier hfd hkind huses hnone

/-- What a network's turn logs between its marks is not for a disabled one. -/
theorem talks_in_turn {since : List Obs} {shared : List Int} (htable : Tabulated slots (outcomes t))
    (hturn : InTurn i slot since t) (henabled : ∀ s ∈ outcomes t i, ¬ s.Disabled)
    (hshared : ∀ fd ∈ shared, 0 ≤ fd → RexxSocket earlier (outcomes t 0) fd) (hu : ∀ o ∈ u, o.kind ∉ marks)
    (htalks : Lawful (OnSocket [slot.runtime.sock] shared) u) (hlaw : Lawful (Separate earlier) t) :
    Lawful (Separate earlier) (t ++ u) := by
  refine lawful_append.2 ⟨hlaw, htalks.mono fun before o hbefore ho honSocket => ?_⟩
  have hquiet : ∀ o ∈ before, o.kind ∉ [.turn, .settled] := fun o ho hmark =>
    hu o (hbefore.subset ho) (List.mem_of_mem_take (i := 2) hmark)
  have hsame : outcomes (t ++ before) = outcomes t :=
    outcomes_quiet fun o ho hsettled => hquiet o ho (by simp [hsettled])
  refine .of_unmarked (hu o ho) fun k hdisabled hkind => ?_
  have hne : i ≠ k := by
    rintro rfl
    obtain ⟨s, hs, hs'⟩ := hdisabled
    exact henabled s (hsame ▸ hs) hs'
  have inTurn (huses : ∀ fd, o.uses = some fd → fd = slot.runtime.sock ∨ ∃ host port, .connect host port fd ∈ before) :
      Elsewhere earlier k (t ++ before) o := by
    refine .turn i slot (since ++ before) hne (hturn.append hquiet) fun fd hfd => ?_
    rcases huses fd hfd with hown | ⟨host, port, hopen⟩
    · exact .inl hown
    · exact .inr ⟨host, port, List.mem_append_right _ hopen⟩
  cases huses : o.uses with
  | none => exact inTurn (by simp [huses])
  | some fd =>
    rcases honSocket fd huses with hown | ⟨-, hopen⟩ | ⟨hsend, hmem, hfd⟩
    · refine inTurn fun fd' hfd' => .inl ?_
      rw [Option.some.inj (hfd'.symm.trans huses)]
      exact List.mem_singleton.1 hown
    · refine inTurn fun fd' hfd' => .inr ?_
      rw [Option.some.inj (hfd'.symm.trans huses)]
      exact hopen
    · rw [← hsame] at htable hshared
      exact (hshared fd hmem hfd).elsewhere hfd htable hdisabled hsend huses

/-- Outside the turns only ARexx commands are sent. -/
theorem talks_outside {shared : List Int} (htable : Tabulated slots (outcomes t))
    (hshared : ∀ fd ∈ shared, 0 ≤ fd → RexxSocket earlier (outcomes t 0) fd)
    (hu : ∀ o ∈ u, o.kind ∉ .connect :: marks) (htalks : Lawful (OnSocket [] shared) u)
    (hlaw : Lawful (Separate earlier) t) : Lawful (Separate earlier) (t ++ u) := by
  refine lawful_append.2 ⟨hlaw, htalks.mono fun before o hbefore ho honSocket => ?_⟩
  have hsame : outcomes (t ++ before) = outcomes t :=
    outcomes_quiet fun o ho hsettled => hu o (hbefore.subset ho) (by simp [hsettled])
  refine .of_unmarked (fun hmark => hu o ho (List.mem_cons_of_mem _ hmark)) fun k hdisabled hkind => ?_
  obtain ⟨fd, huses⟩ : ∃ fd, o.uses = some fd := by
    cases o with
    | connect => exact absurd (by simp [Obs.kind]) (hu _ ho)
    | send fd => exact ⟨fd, rfl⟩
    | recv fd => exact ⟨fd, rfl⟩
    | _ => simp [Obs.kind] at hkind
  rcases honSocket fd huses with hown | ⟨-, host, port, hopen⟩ | ⟨hsend, hmem, hfd⟩
  · exact absurd hown List.not_mem_nil
  · exact absurd (by simp [Obs.kind]) (hu _ (hbefore.subset hopen))
  · rw [← hsame] at htable hshared
    exact (hshared fd hmem hfd).elsewhere hfd htable hdisabled hsend huses

end

/-! ## A turn -/

/-- The trace so far is lawful. -/
abbrev Separately (earlier : Int) (w : World) : Prop := Lawful (Separate earlier) w.trace

/-- Network `i` is in its turn, and the networks have been left as `past`
says. `rexx` is whether ARexx commands can come in; until then the control
block is as it was before the run. -/
structure Taking (earlier : Int) (rexx : Bool) (past : Nat → List Slot) (i : Nat) (slot : Slot) (w : World) : Prop where
  law : Separately earlier w
  same : outcomes w.trace = past
  turn : ∃ since, InTurn i slot since w.trace
  commands : rexx = true → 0 ≤ w.control.sock → RexxSocket earlier (past 0) w.control.sock
  before : rexx = false → w.control.sock = earlier

/-- What the first network has been left as, once network `i` is left as `slot`. -/
def firstPast (past : Nat → List Slot) (i : Nat) (slot : Slot) : List Slot :=
  if i = 0 then past 0 ++ [slot] else past 0

/-- Network `i` is about to be left as `slot`. -/
structure Leaving (earlier : Int) (past : Nat → List Slot) (i : Nat) (slot : Slot) (w : World) : Prop where
  law : Separately earlier w
  same : outcomes w.trace = past
  commands : 0 ≤ w.control.sock → RexxSocket earlier (firstPast past i slot) w.control.sock

section
variable {α : Type} {S : List Kind} {earlier : Int} {rexx : Bool} {slots : List Slot} {past : Nat → List Slot} {i : Nat}
  {slot slot' : Slot} {before : List Obs} {o : Obs}

/-- What a turn does between its marks. -/
theorem taking_talks (htable : Tabulated slots past) (henabled : ∀ s ∈ past i, ¬ s.Disabled) {m : M α}
    (hacts : Keeps (Acts S) m) (hS : ∀ k ∈ S, k ∉ marks) (h : Keeps (Talks rexx [slot.runtime.sock]) m) :
    Triple (Taking earlier rexx past i slot) m (fun _ => Taking earlier rexx past i slot) (Separately earlier) := by
  have hkeeps : Keeps (fun w w' => Taking earlier rexx past i slot w → Taking earlier rexx past i slot w') m := by
    intro env w hw
    obtain ⟨hlaw, rfl, ⟨since, hturn⟩, hcommands, hearlier⟩ := hw
    obtain ⟨hsock, u, hu, hkinds, htalks⟩ := acts_talked hacts h env w
    have hunmarked : ∀ o ∈ u, o.kind ∉ marks := fun o ho => hS _ (hkinds o ho)
    have hshared : ∀ fd ∈ w.shared rexx, 0 ≤ fd → RexxSocket earlier (outcomes w.trace 0) fd := by
      intro fd hfd
      cases rexx with
      | false => exact absurd hfd List.not_mem_nil
      | true =>
        obtain rfl := List.mem_singleton.1 hfd
        exact hcommands rfl
    have hsame : outcomes (w.trace ++ u) = outcomes w.trace :=
      outcomes_quiet fun o ho hsettled => hunmarked o ho (by simp [hsettled])
    refine ⟨?_, by rw [hu, hsame], ⟨since ++ u, ?_⟩, ?_, fun hr => hsock.trans (hearlier hr)⟩
    · rw [Separately, hu]
      exact talks_in_turn htable hturn henabled hshared hunmarked htalks hlaw
    · rw [hu]
      exact hturn.append fun o ho hmark => hunmarked o ho (List.mem_of_mem_take (i := 2) hmark)
    · rw [hsock]
      exact hcommands
  exact (Keeps.triple hkeeps fun _ _ hw hkept => hkept hw).conseq (fun _ => id) (fun _ _ => id) fun _ hw => hw.law

/-- The ARexx commands find the same socket where the network keeps it. -/
theorem Taking.leaving {w : World} (h : Taking earlier true past i slot w) (htable : Tabulated slots past)
    (hslot : slots[i]? = some slot) (hsame : slot'.runtime.sock = slot.runtime.sock) : Leaving earlier past i slot' w := by
  refine ⟨h.law, h.same, fun hsock => ?_⟩
  unfold firstPast
  split
  · subst i
    have hlast : (past 0).getLast? = some slot := (htable.last 0).trans hslot
    rcases h.commands rfl hsock with hfirst | ⟨hearlier, hnone⟩
    · rw [hlast, Option.map_some, ← hsame] at hfirst
      exact .inl (by simpa using hfirst)
    · refine .inr ⟨hearlier, List.forall_mem_append.2 ⟨hnone, List.forall_mem_singleton.2 ?_⟩⟩
      rw [hsame]
      exact hnone slot (List.mem_of_getLast? hlast)
  · exact h.commands rfl hsock

/-- They find the new one where it has another, or none. -/
theorem setFirstSocket_leaving (sock : Int) :
    Triple (Taking earlier true past i slot) (setFirstSocket i sock)
      (fun _ w => ∀ slot', (0 ≤ sock → slot'.runtime.sock = sock) → Leaving earlier past i slot' w)
      (Separately earlier) := by
  unfold setFirstSocket Prog.when
  by_cases hi : i = 0
  · simp only [hi, decide_true, if_true]
    refine triple_modify fun w hw slot' hsock => ⟨hw.law, hw.same, fun hopen => .inl ?_⟩
    have hsame : slot'.runtime.sock = sock := hsock hopen
    simp [firstPast, hsame, World.setControl, controlSetSocket]
  · simp only [hi, decide_false, Bool.false_eq_true, if_false]
    refine triple_pure fun w hw slot' _ => ⟨hw.law, hw.same, fun hopen => ?_⟩
    rw [firstPast, if_neg hi]
    exact hw.commands rfl hopen

/-! ## The marks -/

theorem separate_mark (htable : Tabulated slots (outcomes before)) (hshows : ∀ i, o.shows i = slots[i]? ∨ o.shows i = none)
    (ho : o.kind ∉ [.turn, .connect, .send, .recv]) : Separate earlier before o where
  shown i slot slot' hlast hshown := by
    rw [htable.last] at hlast
    rcases hshows i with hsame | hnone
    · rw [hsame, hlast] at hshown
      exact (Option.some.inj hshown).symm
    · rw [hnone] at hshown
      cases hshown
  turn i _ slot heq := ho (heq ▸ by simp [Obs.kind])
  call i _ hkind := absurd (List.mem_cons_of_mem _ hkind) ho

theorem separate_turn (hlast : ∀ s, (outcomes before i).getLast? = some s → slot = s)
    (henabled : ∀ s ∈ outcomes before i, ¬ s.Disabled) : Separate earlier before (.turn i slot) where
  shown k s s' hs hshown := by
    by_cases hk : i = k
    · subst hk
      simp only [Obs.shows, if_true, Option.some.injEq] at hshown
      rw [← hshown]
      exact hlast s hs
    · simp [Obs.shows, hk] at hshown
  turn k hdisabled s heq := by
    obtain ⟨rfl, -⟩ := Obs.turn.injEq .. ▸ heq
    obtain ⟨s', hs', hdisabled⟩ := hdisabled
    exact henabled s' hs' hdisabled
  call k _ hkind := absurd hkind (by simp [Obs.kind])

/-- The networks are apart so far, and the control block has the socket that
the first network has been left with, or one from before the run. -/
structure Separated (earlier : Int) (slots : List Slot) (w : World) : Prop where
  law : Separately earlier w
  table : Tabulated slots (outcomes w.trace)
  commands : 0 ≤ w.control.sock → RexxSocket earlier (outcomes w.trace 0) w.control.sock

theorem Separated.log {w : World} (h : Separated earlier slots w) (ho : o.kind ≠ .settled)
    (hlaw : Separate earlier w.trace o) : Separated earlier slots (w.log o) := by
  have hsame : outcomes (w.log o).trace = outcomes w.trace := outcomes_snoc ho
  exact ⟨lawful_snoc.2 ⟨h.law, hlaw⟩, hsame ▸ h.table, by rw [hsame]; exact h.commands⟩

theorem Separated.turn {w : World} (h : Separated earlier slots w) (hslot : slots[i]? = some slot)
    (henabled : ¬ slot.Disabled) :
    Taking earlier true (outcomes w.trace) i slot (w.log (.turn i slot)) ∧ ∀ s ∈ outcomes w.trace i, ¬ s.Disabled := by
  have hnone : ∀ s ∈ outcomes w.trace i, ¬ s.Disabled := fun s hs hdisabled => by
    have hsame := h.table.disabled i s hs hdisabled
    rw [hslot, Option.some.injEq] at hsame
    exact henabled (hsame ▸ hdisabled)
  refine ⟨⟨lawful_snoc.2 ⟨h.law, separate_turn (fun s hs => ?_) hnone⟩, outcomes_snoc (by simp [Obs.kind]), ?_, ?_, ?_⟩, hnone⟩
  · rw [h.table.last, hslot] at hs
    exact Option.some.inj hs
  · exact ⟨[], w.trace, rfl, fun o ho => absurd ho List.not_mem_nil⟩
  · exact fun _ => h.commands
  · exact fun hfalse => by cases hfalse

theorem Leaving.settled {done rest : List Slot} {w : World} (h : Leaving earlier past done.length slot' w)
    (htable : Tabulated (done ++ slot :: rest) past) (henabled : ¬ slot.Disabled) :
    Separated earlier (done ++ slot' :: rest) (w.log (.settled done.length slot')) := by
  obtain ⟨hlaw, rfl, hcommands⟩ := h
  refine ⟨lawful_snoc.2 ⟨hlaw, separate_mark htable (fun _ => .inr rfl) (by simp [Obs.kind])⟩, htable.settled henabled, ?_⟩
  intro hsock
  have hpast : outcomes (w.log (.settled done.length slot')).trace 0 = firstPast (outcomes w.trace) done.length slot' := by
    unfold firstPast
    split
    · rename_i hzero
      rw [hzero]
      exact outcomes_settled
    · rename_i hne
      exact outcomes_other hne
  rw [hpast]
  exact hcommands hsock

/-- A turn of the main loop, by its step. -/
theorem takeTurn_separated {done rest : List Slot} {step : M (Counters × Slot)} (henabled : ¬ slot.Disabled)
    (hstep : ∀ past, Tabulated (done ++ slot :: rest) past → (∀ s ∈ past done.length, ¬ s.Disabled) →
      Triple (Taking earlier true past done.length slot) step (fun r => Leaving earlier past done.length r.2)
        (Separately earlier)) :
    Triple (Separated earlier (done ++ slot :: rest)) (takeTurn done.length slot step)
      (fun r => Separated earlier (done ++ r.2 :: rest)) (Separately earlier) := by
  intro env w hw
  have hslot : (done ++ slot :: rest)[done.length]? = some slot := by simp
  obtain ⟨htaking, hnone⟩ := hw.turn hslot henabled
  have hturn : Triple (· = w) (takeTurn done.length slot step) (fun r => Separated earlier (done ++ r.2 :: rest))
      (Separately earlier) := by
    refine Triple.bind (Q := fun _ => Taking earlier true (outcomes w.trace) done.length slot)
      (triple_modify fun w' hw' => hw' ▸ htaking) fun _ => (hstep _ hw.table hnone).bind fun r => ?_
    obtain ⟨c, slot'⟩ := r
    refine Triple.bind (Q := fun _ => Separated earlier (done ++ slot' :: rest))
      (triple_modify fun w' hw' => hw'.settled hw.table henabled) fun _ => triple_pure fun _ => id
  exact hturn env w rfl

/-! ## The turns -/

theorem retryNetwork_separated (now : Int) (done rest : List Slot) (c : Counters) (slot : Slot) (hslot : SlotOk slot) :
    Triple (Separated earlier (done ++ slot :: rest)) (retryNetwork now done.length c slot)
      (fun r => Separated earlier (done ++ r.2 :: rest)) (Separately earlier) := by
  unfold retryNetwork
  refine triple_ite (fun _ => triple_pure fun _ => id) fun hdue => ?_
  have henabled := retryEnabled_of_due hdue
  have hminus := hslot.closed henabled
  refine takeTurn_separated (fun hdisabled => by simp [hdisabled.2] at henabled) fun past htable hnone => ?_
  refine ((taking_talks htable hnone (connectRuntime_keeps _) (by decide) (connectRuntime_talks _)).returns
    (connectRuntime_returns hminus)).bind fun r => triple_fact fun hr => ?_
  obtain ⟨result, runtime⟩ := r
  obtain ⟨hok, hfailed, -, -, -⟩ := hr
  have hdecrement : Triple (Taking earlier true past done.length slot) (decrement c.retrying)
      (fun _ => Taking earlier true past done.length slot) (Separately earlier) :=
    taking_talks htable hnone (decrement_keeps _) (by decide) (quiet_talks (by decide) (decrement_keeps _))
  have hkept (hne : result ≠ .ok) : runtime.sock = slot.runtime.sock := (hfailed hne).trans hminus.symm
  cases result with
  | ok =>
    refine hdecrement.bind fun retrying => ?_
    exact (setFirstSocket_leaving _).bind fun _ => triple_pure fun _ hw => hw _ fun _ => rfl
  | permanent => exact hdecrement.bind fun retrying => triple_pure fun w hw => hw.leaving htable (by simp) (hkept (by simp))
  | retry => exact triple_pure fun w hw => hw.leaving htable (by simp) (hkept (by simp))

/-- What is done outside the turns. -/
theorem outside_separated (hS : ∀ k ∈ S, k ∉ .connect :: marks) {m : M α} (hacts : Keeps (Acts S) m)
    (h : Keeps (Talks true []) m) :
    Triple (Separated earlier slots) m (fun _ => Separated earlier slots) (Separately earlier) := by
  have hkeeps : Keeps (fun w w' => Separated earlier slots w → Separated earlier slots w') m := by
    intro env w hw
    obtain ⟨hsock, u, hu, hkinds, htalks⟩ := acts_talked hacts h env w
    have hunmarked : ∀ o ∈ u, o.kind ∉ .connect :: marks := fun o ho => hS _ (hkinds o ho)
    have hshared : ∀ fd ∈ w.shared true, 0 ≤ fd → RexxSocket earlier (outcomes w.trace 0) fd := by
      intro fd hfd
      obtain rfl := List.mem_singleton.1 hfd
      exact hw.commands
    have hsame : outcomes (w.trace ++ u) = outcomes w.trace :=
      outcomes_quiet fun o ho hsettled => hunmarked o ho (by simp [hsettled])
    refine ⟨?_, by rw [hu, hsame]; exact hw.table, by rw [hu, hsame, hsock]; exact hw.commands⟩
    rw [Separately, hu]
    exact talks_outside hw.table hshared hunmarked htalks hw.law
  exact (Keeps.triple hkeeps fun _ _ hw hkept => hkept hw).conseq (fun _ => id) (fun _ _ => id) fun _ hw => hw.law

theorem Leaving.tick {w : World} (h : Leaving earlier past i slot w) :
    Leaving earlier past i slot { w with tick := w.tick + 1 } := ⟨h.law, h.same, h.commands⟩

theorem receiveNetwork_separated (botai : BotAi) (ready : List Bool) (done rest : List Slot) (c : Counters) (slot : Slot)
    (hslot : SlotOk slot) :
    Triple (Separated earlier (done ++ slot :: rest)) (receiveNetwork botai ready done.length c slot)
      (fun r => Separated earlier (done ++ r.2 :: rest)) (Separately earlier) := by
  unfold receiveNetwork
  refine triple_ite (fun _ => triple_pure fun _ => id) fun hready => ?_
  have hopen := isOpen_of_ready hready
  refine takeTurn_separated (fun hdisabled => absurd hdisabled.1 (by omega)) fun past htable hnone => ?_
  have hlose : Triple (Taking earlier true past done.length slot) (loseNetwork done.length c slot)
      (fun r => Leaving earlier past done.length r.2) (Separately earlier) := by
    refine (taking_talks htable hnone (netCloseSocket_keeps _) (by decide) (netCloseSocket_talks _)).bind fun _ => ?_
    refine (setFirstSocket_leaving _).bind fun _ => ?_
    refine Triple.bind (Q := fun _ w => ∀ slot', Leaving earlier past done.length slot' w)
      (fun _ w hw slot' => (hw slot' fun hneg => absurd hneg (by decide)).tick) fun now => triple_pure fun _ hw => hw _
  refine (taking_talks htable hnone (netRecv_keeps _ _) (by decide) (netRecv_talks (by simp) _)).bind fun received => ?_
  split
  · exact hlose
  · exact hlose
  · rename_i data hdata
    have hbound : Bound slot.runtime.sock slot.runtime := fun _ => ⟨rfl, hslot.commands hopen⟩
    refine ((taking_talks htable hnone (framerFeed_keeps (multinetHandleLine_keeps botai) data _ _) (by decide)
      (framerFeed_talks botai data _ hbound)).returns (framerFeed_handled botai data slot.runtime)).bind fun r => ?_
    obtain ⟨framer, runtime⟩ := r
    refine triple_fact fun hr => triple_ite (fun _ => ?_) fun hnow => triple_pure fun w hw => ?_
    · -- the negotiation has failed
      exact (setFirstSocket_leaving _).bind fun _ => triple_pure fun _ hw => hw _ fun hneg => absurd hneg (by decide)
    · refine hw.leaving htable (by simp) (hr.sock.resolve_right fun hminus => ?_)
      dsimp only at hnow hminus
      omega

/-! ## The first connects -/

/-- Each network so far has had one turn, and the control block is as it was. -/
structure Starting (earlier : Int) (done : List Slot) (w : World) : Prop where
  law : Separately earlier w
  once : ∀ i, outcomes w.trace i = done[i]?.toList
  before : w.control.sock = earlier

theorem Starting.table {done : List Slot} {w : World} (h : Starting earlier done w) : Tabulated done (outcomes w.trace) where
  last i := by
    rw [h.once]
    cases done[i]? <;> rfl
  disabled i slot hslot _ := by
    rw [h.once] at hslot
    exact Option.mem_toList.1 hslot

theorem Starting.fresh {done : List Slot} {w : World} (h : Starting earlier done w) : outcomes w.trace done.length = [] := by
  simp [h.once]

theorem Starting.turn {done : List Slot} {w : World} (h : Starting earlier done w) (slot : Slot) :
    Taking earlier false (outcomes w.trace) done.length slot (w.log (.turn done.length slot)) where
  law := by
    refine lawful_snoc.2 ⟨h.law, separate_turn (fun s hs => ?_) fun s hs => ?_⟩
    · rw [h.fresh] at hs
      cases hs
    · rw [h.fresh] at hs
      exact absurd hs List.not_mem_nil
  same := outcomes_snoc (by simp [Obs.kind])
  turn := ⟨[], w.trace, rfl, fun _ ho => absurd ho List.not_mem_nil⟩
  commands hfalse := absurd hfalse (by decide)
  before _ := h.before

theorem Starting.settled {done : List Slot} {w w' : World} (h : Starting earlier done w)
    (h' : Taking earlier false (outcomes w.trace) done.length slot w') (slot' : Slot) :
    Starting earlier (done ++ [slot']) (w'.log (.settled done.length slot')) where
  law := lawful_snoc.2 ⟨h'.law, separate_mark (h'.same ▸ h.table) (fun _ => .inr rfl) (by simp [Obs.kind])⟩
  once i := by
    show outcomes (w'.trace ++ [.settled done.length slot']) i = (done ++ [slot'])[i]?.toList
    by_cases hi : done.length = i
    · subst hi
      rw [outcomes_settled, h'.same, h.fresh]
      simp
    · rw [outcomes_other hi, h'.same, h.once]
      rcases Nat.lt_or_gt_of_ne hi with hlt | hlt
      · have hlong : (done ++ [slot']).length ≤ i := by
          rw [List.length_append, List.length_singleton]
          exact hlt
        rw [List.getElem?_eq_none (Nat.le_of_lt hlt), List.getElem?_eq_none hlong]
      · simp [List.getElem?_append_left hlt]
  before := h'.before rfl

theorem startNetwork_starting (done : List Slot) (c : Counters) (config : NetworkConfig) :
    Triple (Starting earlier done) (startNetwork done.length c config) (fun r => Starting earlier (done ++ [r.2]))
      (Separately earlier) := by
  intro env w hw
  have hnever : ∀ s ∈ outcomes w.trace done.length, ¬ s.Disabled := by simp [hw.fresh]
  have hstart : Triple (· = w) (startNetwork done.length c config) (fun r => Starting earlier (done ++ [r.2]))
      (Separately earlier) := by
    unfold startNetwork takeTurn
    refine Triple.bind (Q := fun _ => Taking earlier false (outcomes w.trace) done.length
      { runtime := runtimeInit config, socket := -1 }) (triple_modify fun w' hw' => hw' ▸ hw.turn _) fun _ => ?_
    refine Triple.bind (Q := fun _ => Taking earlier false (outcomes w.trace) done.length
      { runtime := runtimeInit config, socket := -1 }) ?_ fun r => ?_
    · refine (taking_talks hw.table hnever (connectRuntime_keeps _) (by decide) (connectRuntime_talks _)).bind fun r => ?_
      obtain ⟨result, runtime⟩ := r
      cases result with
      | ok => exact triple_pure fun _ => id
      | permanent => exact triple_pure fun _ => id
      | retry =>
        refine Triple.bind (taking_talks (S := []) hw.table hnever (keeps_ask _) (by decide) (ask_talks _)) fun now => ?_
        exact triple_pure fun _ => id
    · obtain ⟨c, slot⟩ := r
      refine Triple.bind (Q := fun _ => Starting earlier (done ++ [slot])) (triple_modify fun w' hw' => ?_) fun _ =>
        triple_pure fun _ => id
      exact hw.settled hw' slot
  exact hstart env w rfl

theorem multinetStart_separated (networks : Networks) :
    Triple (Starting earlier []) (multinetStart networks) (Sheet (Separated earlier)) (Separately earlier) := by
  unfold multinetStart
  refine (start_sweep networks.items startNetwork_starting).bind fun r => ?_
  obtain ⟨counters, slots⟩ := r
  refine triple_fact fun hb => triple_same.bind fun control => ?_
  refine Triple.bind (Q := fun _ => Starting earlier slots) (triple_modify fun w hw => ?_) fun _ => ?_
  · have hsame : outcomes (w.log (.opened slots control)).trace = outcomes w.trace := outcomes_snoc (by simp [Obs.kind])
    refine ⟨lawful_snoc.2 ⟨hw.law, separate_mark hw.table (fun _ => .inl rfl) (by simp [Obs.kind])⟩, ?_, hw.before⟩
    rw [hsame]
    exact hw.once
  have hfirst : firstSocket slots = (slots[0]?.map (·.runtime.sock)).getD (-1) := by
    rw [firstSocket, List.head?_eq_getElem?]
  refine Triple.bind (Q := fun _ => Separated earlier slots) (triple_ite (fun hopen => ?_) fun hclosed => ?_) fun _ =>
    triple_pure fun w hw => ⟨hb, hw⟩
  · refine triple_modify fun w hw => ⟨hw.law, hw.table, fun _ => .inl ?_⟩
    have hnow : 0 ≤ firstSocket slots := of_decide_eq_true hopen
    show (outcomes w.trace 0).getLast?.map (·.runtime.sock) = some (firstSocket slots)
    rw [hw.table.last, hfirst]
    cases hslot : slots[0]? with
    | none =>
      rw [hfirst, hslot] at hnow
      exact absurd hnow (by decide)
    | some slot => rfl
  · refine triple_pure fun w hw => ⟨hw.law, hw.table, fun _ => .inr ⟨hw.before, fun slot hslot => ?_⟩⟩
    rw [hw.once, Option.mem_toList] at hslot
    rw [hfirst, Option.mem_def.1 hslot] at hclosed
    simpa using hclosed

/-! ## A run -/

theorem separated_rounds : RoundByRound (Separated earlier) (Separately earlier) (Separately earlier) where
  halted _ _ hw := hw.law
  left _ _ _ _ _ hw := hw.law
  tick _ _ hw := ⟨hw.law, hw.table, hw.commands⟩
  quit _ _ hw := ⟨hw.law, hw.table, hw.commands⟩
  mark slots w o ho hw := by
    refine hw.log (by cases ho <;> simp [Obs.kind]) (separate_mark hw.table ?_ (by cases ho <;> simp [Obs.kind]))
    cases ho with
    | iteration => exact fun _ => .inl rfl
    | woken => exact fun _ => .inl rfl
    | retry => exact fun _ => .inl rfl
    | ctrlC => exact fun _ => .inr rfl
  wait slots socks timeout := outside_separated (by decide) (netWaitMany_keeps socks timeout)
    (quiet_talks (by decide) (netWaitMany_keeps socks timeout))
  rexx slots := outside_separated (by decide) rexxProcess_keeps rexxProcess_talks
  stop s _ := by
    refine (outside_separated (by decide) (closeAll_keeps s.slots) (quiet_talks (by decide) (closeAll_keeps s.slots))).bind
      fun _ => ?_
    refine Triple.bind (Q := fun _ => Separately earlier) (triple_modify fun w hw => hw.law) fun _ => triple_pure fun _ => id
  retry now done rest c slot hslot := retryNetwork_separated now done rest c slot hslot
  receive botai ready done rest c slot hslot := receiveNetwork_separated botai ready done rest c slot hslot

/-- In every run, whatever the turns of the others do, a network is as its own
last turn left it; and once it is disabled it has no turn again, and no
connect, send or receive is made for it. -/
theorem multinetRun_separate (networks : Networks) (botai : BotAi) (env : Env) (w : World) :
    Lawful (Separate w.control.sock) (multinetRun networks botai env w.begin).2.trace := by
  have hbegin : Starting w.control.sock [] w.begin := ⟨lawful_nil, fun _ => rfl, rfl⟩
  exact (separated_rounds.run networks botai (multinetStart_separated networks)).all (fun _ _ => id) (fun _ => id) hbegin

/-- The first of two networks has a password and no user for SASL. -/
def halfConfigured : Networks :=
  { items := [{ saslNetwork with saslUser := [] }, copyNetwork (networkDefaults configInit)], skipped := 0, bound := by decide }

/-- It is disabled before the second is connected. -/
example :
    let t := (multinetRun halfConfigured botaiInit Env.online (worldInit configInit).begin).2.trace
    ((outcomes t 0).map fun slot => (slot.runtime.sock, slot.runtime.retryEnabled)) = [(-1, false)] ∧
      (outcomes t 1).map (·.runtime.sock) = [3] := by
  decide +kernel

end

end AmBot
