import AmBot.Bookkeeping
import AmBot.Growth
/-!
# What a run keeps, round by round

The main loop works on one table, and everything it does to the table is done
in the turns. What each kind of turn keeps, and the loop's other steps, is kept
by the rounds, and so by a whole run; the bookkeeping comes along. Where only
the table and the trace matter, the turns are all there is to show.
-/

namespace AmBot

open RunLib RunLib.Prog

/-! ## Rounds -/

/-- What a round logs itself, with the table and the control block. -/
inductive RoundMark (slots : List Slot) (control : Control) : Obs → Prop
  | iteration (active retrying : Nat) : RoundMark slots control (.iteration slots active retrying control)
  | woken (result : WaitResult) : RoundMark slots control (.woken result slots control)
  | retry (now : Int) : RoundMark slots control (.retry now slots control)
  | ctrlC : RoundMark slots control .ctrlC

/-- `J` holds of the table and the world throughout the loop, `Q` where the
run returns, and `S` where it halts. -/
structure RoundByRound (J : List Slot → World → Prop) (Q S : World → Prop) : Prop where
  halted : ∀ slots w, J slots w → S w
  left : ∀ slots active retrying w, Bookkeeping slots active retrying → J slots w → Q w
  tick : ∀ slots w, J slots w → J slots { w with tick := w.tick + 1 }
  quit : ∀ slots w, J slots w → J slots (w.setControl { w.control with quitRequested := true })
  mark : ∀ slots w o, RoundMark slots w.control o → J slots w → J slots (w.log o)
  wait : ∀ slots socks timeout, Triple (J slots) (netWaitMany socks timeout) (fun _ => J slots) S
  rexx : ∀ slots, Triple (J slots) rexxProcess (fun _ => J slots) S
  stop : ∀ s : MultinetState, Bookkeeping s.slots s.counters.active s.counters.retrying →
    Triple (J s.slots) (multinetStop s) (fun _ => Q) S
  retry : ∀ now done rest c slot, SlotOk slot → Triple (J (done ++ slot :: rest))
    (retryNetwork now done.length c slot) (fun r => J (done ++ r.2 :: rest)) S
  receive : ∀ botai ready done rest c slot, SlotOk slot → Triple (J (done ++ slot :: rest))
    (receiveNetwork botai ready done.length c slot) (fun r => J (done ++ r.2 :: rest)) S

/-- The invariant of the main loop. -/
abbrev Sheet (J : List Slot → World → Prop) (s : MultinetState) (w : World) : Prop :=
  Bookkeeping s.slots s.counters.active s.counters.retrying ∧ J s.slots w

/-- The control block that is read is the one of the world. -/
theorem getControl_reads {P S : World → Prop} :
    Triple P getControl (fun control w => P w ∧ control = w.control) S :=
  triple_read fun _ _ hw => ⟨hw, rfl⟩

namespace RoundByRound
variable {J : List Slot → World → Prop} {Q S : World → Prop} (h : RoundByRound J Q S)
include h

theorem logs {slots : List Slot} {control : Control} {o : Obs} (ho : RoundMark slots control o) :
    Triple (fun w => J slots w ∧ control = w.control) (log o) (fun _ => J slots) S :=
  triple_modify fun w hw => h.mark slots w o (hw.2 ▸ ho) hw.1

theorem serve (botai : BotAi) (ready : List Bool) (s : MultinetState) :
    Triple (Sheet J s) (multinetServe botai ready s) (Sheet J) S := by
  unfold multinetServe
  refine Triple.bind (Q := fun r w => Bookkeeping r.2 r.1.active r.1.retrying ∧ J r.2 w)
    (triple_ite (fun _ => triple_fact fun hb => ?_) fun _ => triple_pure fun _ => id) fun r => ?_
  · refine Triple.bind (Q := fun _ => J s.slots) (fun _ w hw => h.tick s.slots w hw) fun now => ?_
    refine getControl_reads.bind fun control => (h.logs (.retry now)).bind fun _ => ?_
    exact (table_sweep (fun _ _ _ _ i hb => retryNetwork_returns now i hb)
      (fun done rest c slot hb => h.retry now done rest c slot (hb.slot slot (by simp))) s.counters s.slots).pre
      fun w hw => ⟨hb, hw⟩
  · exact (table_sweep (fun _ _ _ _ i hb => receiveNetwork_returns botai ready i hb)
      (fun done rest c slot hb => h.receive botai ready done rest c slot (hb.slot slot (by simp))) r.1 r.2).bind
      fun r => triple_pure fun _ => id

theorem round (botai : BotAi) (s : MultinetState) :
    Triple (Sheet J s) (multinetRound botai s) (Next (Sheet J) fun _ => Q) S := by
  refine triple_fact fun hb => ?_
  unfold multinetRound
  refine getControl_reads.bind fun control => triple_ite (fun _ => ?_) fun _ => ?_
  · exact ((h.stop s hb).pre fun _ hw => hw.1).bind fun result => triple_pure fun _ => id
  refine (h.logs (.iteration _ _)).bind fun _ => ?_
  refine triple_ite (fun _ => triple_pure fun w => h.left _ _ _ w hb) fun _ => ?_
  refine (h.wait s.slots _ _).bind fun result => ?_
  refine Triple.bind (triple_ite (fun _ => h.rexx s.slots) fun _ => triple_pure fun _ => id) fun _ => ?_
  refine getControl_reads.bind fun control => (h.logs (.woken result)).bind fun _ => ?_
  refine triple_ite (fun _ => triple_pure fun w => h.left _ _ _ w hb) fun _ => triple_ite (fun _ => ?_) fun _ => ?_
  · refine Triple.bind (Q := fun _ => J s.slots) (triple_modify fun w => h.mark s.slots w .ctrlC .ctrlC) fun _ => ?_
    refine Triple.bind (Q := fun _ => J s.slots) (triple_modify (h.quit s.slots)) fun _ => ?_
    exact (h.stop s hb).bind fun result => triple_pure fun _ => id
  refine triple_ite (fun _ => triple_pure fun w => h.left _ _ _ w hb) fun _ => ?_
  exact ((h.serve botai result.ready s).pre fun w hw => ⟨hb, hw⟩).bind fun s' => triple_pure fun _ => id

/-- A whole run, from the first connects. -/
theorem run (networks : Networks) (botai : BotAi) {P : World → Prop}
    (hstart : Triple P (multinetStart networks) (Sheet J) S) : Triple P (multinetRun networks botai) (fun _ => Q) S := by
  refine hstart.bind fun s => triple_same.bind fun fuel => ?_
  exact triple_loop fuel (h.round botai) (fun s w hw => h.halted s.slots w hw.2) s

end RoundByRound

/-! ## Turns -/

/-- Some table goes with the trace. -/
def Tabled (J : List Slot → List Obs → Prop) (w : World) : Prop := ∃ slots, J slots w.trace

/-- What the turns keep of the table and the trace, and so does every other
entry. -/
structure TurnByTurn (J : List Slot → List Obs → Prop) : Prop where
  plain : ∀ slots t o, o.kind ∈ plain → J slots t → J slots (t ++ [o])
  start : ∀ done c config, Triple (fun w => J done w.trace) (startNetwork done.length c config)
    (fun r w => J (done ++ [r.2]) w.trace) (Tabled J)
  retry : ∀ now done rest c slot, SlotOk slot → Triple (fun w => J (done ++ slot :: rest) w.trace)
    (retryNetwork now done.length c slot) (fun r w => J (done ++ r.2 :: rest) w.trace) (Tabled J)
  receive : ∀ botai ready done rest c slot, SlotOk slot → Triple (fun w => J (done ++ slot :: rest) w.trace)
    (receiveNetwork botai ready done.length c slot) (fun r w => J (done ++ r.2 :: rest) w.trace) (Tabled J)

namespace TurnByTurn
variable {J : List Slot → List Obs → Prop} (h : TurnByTurn J) {α : Type} {S : List Kind} {slots : List Slot}
include h

theorem acts (hS : S ⊆ AmBot.plain) {m : M α} (hm : Keeps (Acts S) m) :
    Triple (fun w => J slots w.trace) m (fun _ w => J slots w.trace) (Tabled J) :=
  (triple_along (plain_along (h.plain slots) hS hm)).conseq (fun _ => id) (fun _ _ => id) fun _ hw => ⟨slots, hw⟩

/-- What the turns keep the rounds keep. -/
theorem rounds : RoundByRound (fun slots w => J slots w.trace) (Tabled J) (Tabled J) where
  halted slots _ hw := ⟨slots, hw⟩
  left slots _ _ _ _ hw := ⟨slots, hw⟩
  tick _ _ := id
  quit _ _ := id
  mark slots w o ho hw := h.plain slots w.trace o (by cases ho <;> simp [Obs.kind]) hw
  wait _ _ _ := h.acts (by decide) (netWaitMany_keeps _ _)
  rexx _ := h.acts (by decide) rexxProcess_keeps
  stop s _ := (triple_along (multinetStop_along (h.plain s.slots) s)).conseq (fun _ => id) (fun _ _ hw => ⟨s.slots, hw⟩)
    fun _ hw => ⟨s.slots, hw⟩
  retry := h.retry
  receive := h.receive

theorem start_table (networks : Networks) :
    Triple (fun w => J [] w.trace) (multinetStart networks) (Sheet fun slots w => J slots w.trace) (Tabled J) := by
  refine (start_sweep (J := fun slots w => J slots w.trace) networks.items h.start).bind fun r => ?_
  obtain ⟨counters, slots⟩ := r
  refine triple_fact fun hb => triple_same.bind fun control => ?_
  refine (h.acts (S := [.opened]) (by decide) (keeps_log (by simp [Obs.kind]))).bind fun _ => ?_
  refine Triple.bind (Q := fun _ w => J slots w.trace)
    (triple_ite (fun _ => triple_modify fun _ => id) fun _ => triple_pure fun _ => id) fun _ => ?_
  exact triple_pure fun w hw => ⟨hb, hw⟩

/-- A whole run keeps what its turns keep. -/
theorem run (networks : Networks) (botai : BotAi) :
    Triple (fun w => J [] w.trace) (multinetRun networks botai) (fun _ => Tabled J) (Tabled J) :=
  h.rounds.run networks botai (h.start_table networks)

end TurnByTurn

end AmBot
