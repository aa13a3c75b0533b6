import AmBot.Events
/-!
# The event queue is a bounded FIFO

`Holds queue es`: the ring holds the events `es`, oldest first. A push appends
while fewer than sixteen are held and is refused otherwise; a pop takes the
oldest.
-/

namespace AmBot

/-- The slot of the `k`-th oldest event. -/
def slotAt (head : Fin eventQueueCapacity) (k : Nat) : Fin eventQueueCapacity :=
  ⟨(head.val + k) % eventQueueCapacity, Nat.mod_lt _ (by decide)⟩

structure Holds (queue : EventQueue) (es : List Event) : Prop where
  count : queue.count = es.length
  bound : es.length ≤ eventQueueCapacity
  tail : queue.tail = slotAt queue.head es.length
  slot : ∀ k < es.length, es[k]? = some (queue.items.get (slotAt queue.head k))

theorem init_holds : Holds eventQueueInit [] where
  count := rfl
  bound := by decide
  tail := by decide
  slot := by simp

theorem slotAt_zero (head : Fin eventQueueCapacity) : slotAt head 0 = head :=
  Fin.ext (by simp [slotAt, Nat.mod_eq_of_lt head.isLt])

theorem nextSlot_slotAt (head : Fin eventQueueCapacity) (k : Nat) : nextSlot (slotAt head k) = slotAt head (k + 1) := by
  refine Fin.ext ?_
  simp [nextSlot, slotAt, Nat.add_assoc]

theorem slotAt_nextSlot (head : Fin eventQueueCapacity) (k : Nat) : slotAt (nextSlot head) k = slotAt head (k + 1) := by
  refine Fin.ext ?_
  simp only [nextSlot, slotAt, eventQueueCapacity]
  omega

/-- Fewer than sixteen events lie in different slots. -/
theorem slotAt_ne {head : Fin eventQueueCapacity} {j k : Nat} (hjk : j < k) (hk : k < eventQueueCapacity) :
    (slotAt head k).val ≠ (slotAt head j).val := by
  have := head.isLt
  simp only [slotAt, ne_eq, eventQueueCapacity] at *
  omega

theorem get_eq (items : Vector Event eventQueueCapacity) (i : Fin eventQueueCapacity) : items.get i = items[i.val] := rfl

/-- A push with room appends. -/
theorem push_holds {queue : EventQueue} {es : List Event} (h : Holds queue es) (hroom : es.length < eventQueueCapacity)
    (event : Event) :
    (eventQueuePush queue event).1 = 0 ∧ Holds (eventQueuePush queue event).2 (es ++ [event]) := by
  obtain ⟨items, head, tail, count, dropped⟩ := queue
  obtain ⟨hcount, -, htail, hslot⟩ := h
  dsimp only at hcount htail hslot
  subst hcount htail
  have hcount : ¬ eventQueueCapacity ≤ es.length := by omega
  simp only [eventQueuePush, hcount, if_false, true_and]
  refine ⟨by simp, by simp; omega, ?_, fun k hk => ?_⟩
  · simp [nextSlot_slotAt]
  · rcases Nat.lt_or_ge k es.length with hlt | hge
    · -- an older event is in another slot
      rw [List.getElem?_append_left hlt, hslot k hlt, get_eq, get_eq]
      exact congrArg some (Vector.getElem_set_ne (slotAt head es.length).isLt _ (slotAt_ne hlt hroom)).symm
    · obtain rfl : k = es.length := by simp at hk; omega
      rw [List.getElem?_append_right (Nat.le_refl _), get_eq]
      simp

/-- A push into a full queue is refused, and leaves the events as they are. -/
theorem push_full {queue : EventQueue} {es : List Event} (h : Holds queue es) (hfull : es.length = eventQueueCapacity)
    (event : Event) :
    (eventQueuePush queue event).1 = -1 ∧ Holds (eventQueuePush queue event).2 es := by
  have hcount : eventQueueCapacity ≤ queue.count := by rw [h.count]; omega
  simp only [eventQueuePush, hcount, if_true, true_and]
  exact ⟨h.count, h.bound, h.tail, h.slot⟩

/-- Both pushes: the queue keeps the first sixteen. -/
theorem push_holds_take {queue : EventQueue} {es : List Event} (h : Holds queue (es.take eventQueueCapacity))
    (event : Event) : Holds (eventQueuePush queue event).2 ((es ++ [event]).take eventQueueCapacity) := by
  rcases Nat.lt_or_ge es.length eventQueueCapacity with hlt | hge
  · rw [List.take_of_length_le hlt.le] at h
    rw [List.take_of_length_le (by simp; omega)]
    exact (push_holds h hlt event).2
  · rw [List.take_append_of_le_length hge]
    exact (push_full h (by simpa using hge) event).2

theorem pop_nil {queue : EventQueue} (h : Holds queue []) : eventQueuePop queue = none := by
  simp [eventQueuePop, h.count]

/-- A pop takes the oldest event. -/
theorem pop_cons {queue : EventQueue} {event : Event} {es : List Event} (h : Holds queue (event :: es)) :
    ∃ queue', eventQueuePop queue = some (event, queue') ∧ Holds queue' es := by
  have hcount := h.count
  have hbound := h.bound
  simp only [List.length_cons] at hcount hbound
  have hevent : event = queue.items[queue.head] := by simpa [slotAt_zero, get_eq] using h.slot 0
  refine ⟨{ queue with head := nextSlot queue.head, count := queue.count - 1 },
    by simp [eventQueuePop, hcount, hevent], ?_⟩
  -- the next slot counts from the new head
  refine ⟨by simp [hcount], by omega, ?_, fun k hk => ?_⟩
  · rw [slotAt_nextSlot]
    exact h.tail
  · rw [slotAt_nextSlot]
    exact h.slot (k + 1) (by simpa using hk)

end AmBot
