import AmBot.Multinet
import AmBot.Queue
import AmBot.RunLib.Fifo
/-!
# Runs of the event queue

Whatever pushes and pops it is given, the ring of sixteen slots answers as a
bounded queue does. Its three indices and its counter of dropped events are
those of the events held and refused.
-/

namespace AmBot

open RunLib RunLib.Prog

/-- One push or one pop, and what its caller sees. -/
def queueStep (queue : EventQueue) : QueueOp Event → QueueAnswer Event × EventQueue
  | .push event =>
    if (eventQueuePush queue event).1 = 0 then (.accepted event, (eventQueuePush queue event).2)
    else (.refused event, (eventQueuePush queue event).2)
  | .pop =>
    match eventQueuePop queue with
    | none => (.empty, queue)
    | some (event, queue') => (.popped event, queue')

def queueRun (ops : List (QueueOp Event)) : List (QueueAnswer Event) × EventQueue := answers queueStep eventQueueInit ops

/-- The bounded queue on the same operations. -/
def fifoRun (ops : List (QueueOp Event)) : List (QueueAnswer Event) × Fifo Event :=
  answers (Fifo.step eventQueueCapacity) Fifo.new ops

/-- The ring stands for a bounded queue. -/
structure Simulates (queue : EventQueue) (fifo : Fifo Event) : Prop where
  holds : Holds queue fifo.held
  dropped : queue.dropped = fifo.refusals % 2 ^ 32

theorem init_simulates : Simulates eventQueueInit Fifo.new where
  holds := init_holds
  dropped := rfl

variable {queue : EventQueue} {fifo : Fifo Event}

theorem push_dropped (h : Holds queue fifo.held) (event : Event) :
    (eventQueuePush queue event).2.dropped =
      if fifo.held.length < eventQueueCapacity then queue.dropped else increment queue.dropped := by
  unfold eventQueuePush
  rw [h.count]
  by_cases hroom : fifo.held.length < eventQueueCapacity
  · rw [if_pos hroom, if_neg (not_le.2 hroom)]
  · rw [if_neg hroom, if_pos (not_lt.1 hroom)]

theorem increment_mod (n : Nat) : increment (n % 2 ^ 32) = (n + 1) % 2 ^ 32 := by
  unfold increment
  rw [Nat.mod_add_mod]

/-- Each operation is answered as the bounded queue answers it. -/
theorem queueStep_simulates (queue : EventQueue) (fifo : Fifo Event) (op : QueueOp Event) (h : Simulates queue fifo) :
    (queueStep queue op).1 = (fifo.step eventQueueCapacity op).1 ∧
      Simulates (queueStep queue op).2 (fifo.step eventQueueCapacity op).2 := by
  cases op with
  | push event =>
    have hdropped := push_dropped h.holds event
    unfold queueStep Fifo.step
    dsimp only
    by_cases hroom : fifo.held.length < eventQueueCapacity
    · obtain ⟨hrc, hholds⟩ := push_holds h.holds hroom event
      rw [if_pos hroom] at hdropped
      rw [if_pos hroom, if_pos hrc]
      exact ⟨rfl, hholds, hdropped.trans h.dropped⟩
    · have hfull : fifo.held.length = eventQueueCapacity := le_antisymm h.holds.bound (not_lt.1 hroom)
      obtain ⟨hrc, hholds⟩ := push_full h.holds hfull event
      rw [if_neg hroom, h.dropped, increment_mod] at hdropped
      rw [if_neg hroom, if_neg (by rw [hrc]; decide)]
      exact ⟨rfl, hholds, hdropped⟩
  | pop =>
    cases hheld : fifo.held with
    | nil =>
      have hholds : Holds queue [] := hheld ▸ h.holds
      simp only [queueStep, Fifo.step, hheld, pop_nil hholds]
      exact ⟨trivial, h⟩
    | cons event held =>
      have hholds : Holds queue (event :: held) := hheld ▸ h.holds
      obtain ⟨queue', hpop, hholds'⟩ := pop_cons hholds
      have hdropped : queue'.dropped = queue.dropped := by
        unfold eventQueuePop at hpop
        split at hpop
        · cases hpop
        · obtain ⟨-, rfl⟩ := Prod.mk.inj (Option.some.inj hpop)
          rfl
      simp only [queueStep, Fifo.step, hheld, hpop]
      exact ⟨trivial, hholds', hdropped.trans h.dropped⟩

theorem queueRun_simulates (ops : List (QueueOp Event)) :
    (queueRun ops).1 = (fifoRun ops).1 ∧ Simulates (queueRun ops).2 (fifoRun ops).2 :=
  answers_simulate queueStep_simulates init_simulates ops

/-! ## What a run leaves -/

/-- A full queue refuses a push and keeps all but the counter; any other takes it. -/
theorem push_refused_iff (h : Holds queue fifo.held) (event : Event) :
    ((eventQueuePush queue event).1 ≠ 0 ↔ queue.count = eventQueueCapacity) ∧
      (queue.count = eventQueueCapacity →
        (eventQueuePush queue event).2 = { queue with dropped := increment queue.dropped }) := by
  have hbound := h.bound
  rw [← h.count] at hbound
  unfold eventQueuePush
  by_cases hfull : eventQueueCapacity ≤ queue.count
  · rw [if_pos hfull]
    have hrefused : ((-1 : Int), { queue with dropped := increment queue.dropped }).1 ≠ 0 := Int.negSucc_ne_zero 0
    exact ⟨iff_of_true hrefused (le_antisymm hbound hfull), fun _ => rfl⟩
  · rw [if_neg hfull]
    exact ⟨iff_of_false (not_not.2 rfl) (by omega), fun heq => absurd heq.ge hfull⟩

/-- The dispatcher runs its handler on what the queue holds, in order, and
leaves it empty. -/
theorem eventDispatchPending_each (handler : Event → M Unit) {queue : EventQueue} {es : List Event} (h : Holds queue es)
    {n : Nat} (hn : queue.count ≤ n) :
    ∃ queue', Holds queue' [] ∧ eventDispatchPending handler n queue = each handler es >>= fun _ => pure queue' := by
  induction n generalizing queue es with
  | zero =>
    have hnil : es = [] := List.length_eq_zero_iff.1 (by rw [← h.count]; exact Nat.le_zero.1 hn)
    subst hnil
    exact ⟨queue, h, rfl⟩
  | succ n ih =>
    cases es with
    | nil =>
      refine ⟨queue, h, ?_⟩
      unfold eventDispatchPending
      rw [pop_nil h]
      rfl
    | cons event es =>
      obtain ⟨queue', hpop, hholds⟩ := pop_cons h
      have hcount : queue'.count ≤ n := by
        rw [h.count, List.length_cons] at hn
        rw [hholds.count]
        omega
      obtain ⟨queue'', hempty, hrest⟩ := ih hholds hcount
      refine ⟨queue'', hempty, ?_⟩
      unfold eventDispatchPending
      rw [hpop, each_cons_bind]
      dsimp only
      rw [hrest]

/-- The event queue is a bounded FIFO, whatever it is asked to do. -/
theorem queueRun_fifo (ops : List (QueueOp Event)) :
    let queue := (queueRun ops).2
    let held := (fifoRun ops).2.held
    (queueRun ops).1 = (fifoRun ops).1 ∧ Holds queue held ∧ queue.count ≤ eventQueueCapacity ∧
      queue.tail.val = (queue.head.val + queue.count) % eventQueueCapacity ∧
      queue.dropped = (refused (queueRun ops).1).length % 2 ^ 32 ∧
      accepted (queueRun ops).1 = popped (queueRun ops).1 ++ held ∧
      (∀ event, ((eventQueuePush queue event).1 ≠ 0 ↔ queue.count = eventQueueCapacity) ∧
        (queue.count = eventQueueCapacity →
          (eventQueuePush queue event).2 = { queue with dropped := increment queue.dropped })) ∧
      ∀ handler n, queue.count ≤ n → ∃ queue', Holds queue' [] ∧
        eventDispatchPending handler n queue = each handler held >>= fun _ => pure queue' := by
  obtain ⟨hanswers, hholds, hdropped⟩ := queueRun_simulates ops
  intro queue held
  refine ⟨hanswers, hholds, ?_, ?_, ?_, ?_, push_refused_iff hholds, fun handler n hn => ?_⟩
  · rw [hholds.count]
    exact hholds.bound
  · rw [hholds.tail, hholds.count]
    rfl
  · have hrefusals := answers_refusals eventQueueCapacity Fifo.new ops
    rw [hdropped, hanswers]
    unfold fifoRun
    rw [hrefusals]
    simp [Fifo.new]
  · rw [hanswers]
    exact answers_conserve eventQueueCapacity Fifo.new ops
  · exact eventDispatchPending_each handler hholds hn

end AmBot
