import AmBot.CString
/-!
# Normalized IRC events

`ambot_event_from_irc_line` turns a framed line into an event, and a ring of
sixteen slots holds the events between the framer and the dispatcher.
-/

namespace AmBot

inductive EventType where
  | none
  | privmsg
  | notice
  | join
  | part
  | quit
  | kick
  | topic
  | nick
  | connect
  | disconnect
  deriving DecidableEq, Repr

/-- `struct ambot_event`. The fields hold at most 31, 63 and 255 bytes. -/
structure Event where
  type : EventType
  nick : Bytes
  target : Bytes
  text : Bytes
  deriving DecidableEq, Repr

def eventNickSize : Nat := 32
def eventTargetSize : Nat := 64
def eventTextSize : Nat := 256

def typeFromCommand (command : Bytes) : EventType :=
  if command = ascii "PRIVMSG" then .privmsg
  else if command = ascii "NOTICE" then .notice
  else if command = ascii "JOIN" then .join
  else if command = ascii "PART" then .part
  else if command = ascii "QUIT" then .quit
  else if command = ascii "KICK" then .kick
  else if command = ascii "TOPIC" then .topic
  else if command = ascii "NICK" then .nick
  else .none

def eventTypeName : EventType → Bytes
  | .privmsg => ascii "PRIVMSG"
  | .notice => ascii "NOTICE"
  | .join => ascii "JOIN"
  | .part => ascii "PART"
  | .quit => ascii "QUIT"
  | .kick => ascii "KICK"
  | .topic => ascii "TOPIC"
  | .nick => ascii "NICK"
  | .connect => ascii "CONNECT"
  | .disconnect => ascii "DISCONNECT"
  | .none => ascii "NONE"

/-! ## Parsing a line -/

/-- The optional `:prefix ` and what follows it; `none` for a `:` with no
space after it, where the parser gives up. -/
def splitPrefix : Bytes → Option (Option Bytes × Bytes)
  | 58 :: p =>
    match strchr SP p with
    | none => none
    | some q => some (some (upTo SP p), q.drop 1)
  | p => some (none, p)

/-- The text after the command and the first parameter, if any. -/
def trailingOf (p : Bytes) : Option Bytes :=
  match skipBlanks p with
  | [] => none
  | 58 :: t => some t
  | t => some t

/-- The first parameter, unless the parameters start with `:` or are absent,
and the rest of the line. -/
def firstParam (p : Bytes) : Bytes × Bytes :=
  match skipBlanks p with
  | [] => ([], [])
  | 58 :: t => ([], 58 :: t)
  | t => (upTo SP t, t.drop (upTo SP t).length)

/-- `ambot_event_from_irc_line`: the event, or `none` where it returns 0. -/
def eventFromIrcLine (line : Bytes) : Option Event := do
  let (sender, p) ← splitPrefix line
  let p := skipBlanks p
  let command := upTo SP p
  -- `command[16]` keeps fifteen bytes
  let type := typeFromCommand (copyValue 16 command)
  if type = .none then none
  let nick := copyValue eventNickSize (upTo BANG (sender.getD []))
  let (param, p) := firstParam (p.drop command.length)
  let target := copyValue eventTargetSize param
  let trailing := trailingOf p
  match type with
  | .nick => some { type, nick, target := copyValue eventTargetSize (trailing.getD target), text := [] }
  | _ => some { type, nick, target, text := copyValue eventTextSize (trailing.getD []) }

/-- The event of a line with this command and sender, from what follows the
command. -/
def eventOf (type : EventType) (nick params : Bytes) : Event :=
  let target := copyValue eventTargetSize (firstParam params).1
  let trailing := trailingOf (firstParam params).2
  match type with
  | .nick => { type, nick, target := copyValue eventTargetSize (trailing.getD target), text := [] }
  | _ => { type, nick, target, text := copyValue eventTextSize (trailing.getD []) }

theorem eventOf_nick (nick params : Bytes) :
    eventOf .nick nick params =
      { type := .nick, nick, text := []
        target := copyValue eventTargetSize
          ((trailingOf (firstParam params).2).getD (copyValue eventTargetSize (firstParam params).1)) } := rfl

theorem eventOf_text {type : EventType} (h : type ≠ .nick) (nick params : Bytes) :
    eventOf type nick params =
      { type, nick, target := copyValue eventTargetSize (firstParam params).1
        text := copyValue eventTextSize ((trailingOf (firstParam params).2).getD []) } := by
  unfold eventOf
  split
  · exact absurd rfl h
  · rfl

theorem eventOf_type (type : EventType) (nick params : Bytes) : (eventOf type nick params).type = type := by
  cases type <;> rfl

theorem eventOf_sender (type : EventType) (nick params : Bytes) : (eventOf type nick params).nick = nick := by
  cases type <;> rfl

theorem eventFromIrcLine_none {line : Bytes} (h : splitPrefix line = none) : eventFromIrcLine line = none := by
  unfold eventFromIrcLine
  rw [h]
  rfl

theorem eventFromIrcLine_split {line p : Bytes} {sender : Option Bytes} (h : splitPrefix line = some (sender, p)) :
    eventFromIrcLine line =
      if typeFromCommand (copyValue 16 (upTo SP (skipBlanks p))) = .none then none
      else
        some (eventOf (typeFromCommand (copyValue 16 (upTo SP (skipBlanks p))))
          (copyValue eventNickSize (upTo BANG (sender.getD [])))
          ((skipBlanks p).drop (upTo SP (skipBlanks p)).length)) := by
  unfold eventFromIrcLine
  rw [h]
  simp only [Option.bind_eq_bind, Option.bind_some]
  split
  · rfl
  · unfold eventOf
    split <;> simp_all

theorem eventOf_length (type : EventType) (nick params : Bytes) :
    (eventOf type nick params).target.length ≤ 63 ∧ (eventOf type nick params).text.length ≤ 255 := by
  by_cases htype : type = .nick
  · subst htype
    exact ⟨List.length_take_le _ _, Nat.zero_le _⟩
  · rw [eventOf_text htype]
    exact ⟨List.length_take_le _ _, List.length_take_le _ _⟩

/-- The fields of an event hold what they are declared to hold. -/
theorem eventFromIrcLine_length {line : Bytes} {event : Event} (h : eventFromIrcLine line = some event) :
    event.nick.length ≤ 31 ∧ event.target.length ≤ 63 ∧ event.text.length ≤ 255 := by
  cases hsplit : splitPrefix line with
  | none =>
    rw [eventFromIrcLine_none hsplit] at h
    cases h
  | some r =>
    obtain ⟨sender, p⟩ := r
    rw [eventFromIrcLine_split hsplit] at h
    split at h
    · cases h
    · rw [← Option.some.inj h, eventOf_sender]
      exact ⟨List.length_take_le _ _, eventOf_length _ _ _⟩

/-! ## The queue -/

def eventQueueCapacity : Nat := 16

/-- `struct ambot_event_queue`. -/
structure EventQueue where
  items : Vector Event eventQueueCapacity
  head : Fin eventQueueCapacity
  tail : Fin eventQueueCapacity
  count : Nat
  dropped : Nat
  deriving DecidableEq, Repr

def emptyEvent : Event := { type := .none, nick := [], target := [], text := [] }

def eventQueueInit : EventQueue :=
  { items := Vector.replicate eventQueueCapacity emptyEvent, head := ⟨0, by decide⟩, tail := ⟨0, by decide⟩,
    count := 0, dropped := 0 }

def nextSlot (i : Fin eventQueueCapacity) : Fin eventQueueCapacity :=
  ⟨(i.val + 1) % eventQueueCapacity, Nat.mod_lt _ (by decide)⟩

/-- `ambot_event_queue_push`: its return code and the queue after it. -/
def eventQueuePush (queue : EventQueue) (event : Event) : Int × EventQueue :=
  if eventQueueCapacity ≤ queue.count then
    (-1, { queue with dropped := increment queue.dropped })
  else
    (0, { queue with items := queue.items.set queue.tail event, tail := nextSlot queue.tail,
                     count := queue.count + 1 })

/-- `ambot_event_queue_pop`: the oldest event and the queue without it. -/
def eventQueuePop (queue : EventQueue) : Option (Event × EventQueue) :=
  if queue.count = 0 then none
  else some (queue.items[queue.head], { queue with head := nextSlot queue.head, count := queue.count - 1 })

end AmBot
