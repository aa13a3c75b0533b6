import AmBot.Effects
import AmBot.Framing
import AmBot.Queue
/-!
# Delivery of events

What the two sessions hand to the command and hook handlers for the bytes of
one connection. Both read every framed line as the same event or none; the
multi-network session hands it on at once, the single-network session keeps
the events of a whole read in the queue first, which holds sixteen.
-/

namespace AmBot

open RunLib RunLib.Prog

/-- The event a session reads a framed line as, if any. -/
def lineEvent (line : Bytes) : Option Event := if isPing (cstr line) then none else eventFromIrcLine (cstr line)

def acceptedEvents (lines : List Bytes) : List Event := lines.filterMap lineEvent

theorem acceptedEvents_append (a b : List Bytes) :
    acceptedEvents (a ++ b) = acceptedEvents a ++ acceptedEvents b := List.filterMap_append

def Obs.handed : Obs → Option Event
  | .event e _ => some e
  | _ => none

/-- The events handed to the handlers so far. -/
def handed (w : World) : List Event := w.trace.filterMap Obs.handed

/-! ## The handlers -/

theorem Logs.handed_eq {S : List Kind} {w w' : World} (hS : .event ∉ S) (h : Logs S w w') : handed w' = handed w := by
  obtain ⟨t, ht, hk⟩ := h
  have hnone : t.filterMap Obs.handed = [] := by
    refine List.filterMap_eq_nil_iff.2 fun o ho => ?_
    have hkind := hk o ho
    cases o <;> first | rfl | exact absurd hkind hS
  simp [handed, ht, hnone]

/-- A function that hands on no event. -/
theorem emits_none {α : Type} {S : List Kind} {m : M α} (hS : .event ∉ S) (h : Keeps (Acts S) m) :
    Emits handed [] m fun _ => True := h.emits fun _ _ hacts => hacts.logs.handed_eq hS

theorem log_event_emits (event : Event) (control : Control) :
    Emits handed [event] (log (.event event control)) fun _ => True :=
  fun _ w => ⟨trivial, by simp [handed, World.log, Obs.handed]⟩

theorem dispatchEvent_emits (botai : BotAi) (commands : CommandContext) (hooks : HookContext) (event : Event) :
    Emits handed [event] (dispatchEvent botai commands hooks event) fun _ => True := by
  refine Emits.nil_bind (emits_none (S := []) (by decide) keeps_getControl) fun control _ => ?_
  refine (log_event_emits event control).bind_nil fun _ _ => ?_
  refine (emits_none (by decide) (commandsHandleEvent_keeps _ _ _)).nil_bind fun _ _ => ?_
  exact emits_none (by decide) (hooksDispatchEvent_keeps _ _)

/-- The dispatcher hands on what the queue holds and empties it. -/
theorem eventDispatchPending_emits {handler : Event → M Unit}
    (h : ∀ event, Emits handed [event] (handler event) fun _ => True) {queue : EventQueue} {es : List Event}
    (hq : Holds queue es) :
    Emits handed es (eventDispatchPending handler queue.count queue) fun queue => Holds queue [] := by
  rw [hq.count]
  -- the rounds and the events held run out together
  induction es generalizing queue with
  | nil => exact emits_pure hq
  | cons event es ih =>
    obtain ⟨queue', hpop, hq'⟩ := pop_cons hq
    simp only [List.length_cons, eventDispatchPending, hpop]
    exact (h event).bind fun _ _ => ih hq'

/-! ## The single-network session -/

theorem sessionHandleLine_emits (sock : Int) (line : Bytes) {queue : EventQueue} {es : List Event}
    (hq : Holds queue (es.take eventQueueCapacity)) :
    Emits handed [] (sessionHandleLine sock line queue) fun r =>
      r.1 = 0 ∧ Holds r.2 ((es ++ acceptedEvents [line]).take eventQueueCapacity) := by
  unfold sessionHandleLine
  by_cases hping : isPing (cstr line)
  · simp only [hping, if_true]
    refine (emits_none (by decide) (sendPong_keeps _ _)).nil_bind fun _ _ => emits_pure ⟨rfl, ?_⟩
    simpa [acceptedEvents, lineEvent, hping] using hq
  · simp only [hping, if_false, Bool.false_eq_true]
    split
    · rename_i hnone
      exact emits_pure ⟨rfl, by simpa [acceptedEvents, lineEvent, hping, hnone] using hq⟩
    · rename_i event hsome
      refine emits_pure ⟨rfl, ?_⟩
      simpa [acceptedEvents, lineEvent, hping, hsome] using push_holds_take hq event

theorem deliver_session_emits (sock : Int) (lines : List Bytes) {queue : EventQueue} {es : List Event}
    (hq : Holds queue (es.take eventQueueCapacity)) :
    Emits handed [] (deliver (sessionHandleLine sock) lines queue) fun queue =>
      Holds queue ((es ++ acceptedEvents lines).take eventQueueCapacity) := by
  induction lines generalizing queue es with
  | nil => exact emits_pure (by simpa [acceptedEvents] using hq)
  | cons line lines ih =>
    refine (sessionHandleLine_emits sock line hq).nil_bind fun r hr => ?_
    have h := ih hr.2
    rwa [List.append_assoc, ← acceptedEvents_append] at h

theorem sessionHandleLine_returnsZero (sock : Int) :
    ReturnsZero (fun queue => ∃ es : List Event, Holds queue (es.take eventQueueCapacity)) (sessionHandleLine sock) := by
  rintro line queue ⟨es, hq⟩ env w r w' hr
  obtain ⟨hrc, hq'⟩ := ((sessionHandleLine_emits sock line hq).ok hr).1
  exact ⟨hrc, _, hq'⟩

/-- One read hands on the first sixteen of the events it completes. -/
theorem sessionFeed_emits (botai : BotAi) (sock : Int) (p data : Bytes) {s : SessionState}
    (hframer : s.framer = absFramer p) (hq : Holds s.events []) :
    Emits handed ((acceptedEvents (framedLines (cut LF p data).1)).take eventQueueCapacity)
      (sessionFeed botai sock data s) fun s => s.framer = absFramer (cut LF p data).2 ∧ Holds s.events [] := by
  unfold sessionFeed
  rw [hframer, framerFeed_eq_deliver (sessionHandleLine_returnsZero sock) p data ⟨[], hq⟩]
  -- the lines of the read fill the queue without handing anything on; then it is emptied
  refine Emits.nil_bind (Q := fun r => r.1 = absFramer (cut LF p data).2 ∧
    Holds r.2 ((acceptedEvents (framedLines (cut LF p data).1)).take eventQueueCapacity)) ?_ fun r hr => ?_
  · have hempty : Holds s.events (([] : List Event).take eventQueueCapacity) := hq
    refine (deliver_session_emits sock _ hempty).nil_bind fun queue hq' => emits_pure ⟨rfl, ?_⟩
    simpa using hq'
  · refine (eventDispatchPending_emits (fun event => ?_) hr.2).bind_nil fun queue hq' => emits_pure ⟨hr.1, hq'⟩
    unfold sessionDispatchEvent
    exact Emits.nil_bind (emits_none (S := []) (by decide) keeps_getConfig) fun _ _ => dispatchEvent_emits _ _ _ _

/-- The reads of a connection, fed as `run_connected_session` feeds them. -/
def sessionFeeds (botai : BotAi) (sock : Int) : List Bytes → SessionState → M SessionState
  | [], s => pure s
  | data :: reads, s => do
    let s ← sessionFeed botai sock data s
    sessionFeeds botai sock reads s

/-- The events each read completes. -/
def readEvents (p : Bytes) (reads : List Bytes) : List (List Event) :=
  (cuts LF p reads).map fun segments => acceptedEvents (framedLines segments)

theorem sessionFeeds_emits (botai : BotAi) (sock : Int) (p : Bytes) (reads : List Bytes) {s : SessionState}
    (hframer : s.framer = absFramer p) (hq : Holds s.events []) :
    Emits handed ((readEvents p reads).map (List.take eventQueueCapacity)).flatten (sessionFeeds botai sock reads s)
      fun _ => True := by
  induction reads generalizing p s with
  | nil => exact emits_pure trivial
  | cons data reads ih =>
    simp only [readEvents, cuts, List.map_cons, List.flatten_cons]
    exact (sessionFeed_emits botai sock p data hframer hq).bind fun s hs => ih _ hs.1 hs.2

/-- What the single-network session hands on for the reads of a connection. -/
def sessionEvents (reads : List Bytes) : List Event :=
  ((readEvents [] reads).map (List.take eventQueueCapacity)).flatten

/-! ## The multi-network session -/

/-- An open connection without CAP negotiation and with nothing queued. -/
structure Plain (runtime : NetworkRuntime) : Prop where
  sock : 0 ≤ runtime.sock
  modern : runtime.modern.capActive = false
  events : Holds runtime.events []

theorem multinetHandleLine_emits (botai : BotAi) (line : Bytes) {runtime : NetworkRuntime} (h : Plain runtime) :
    Emits handed (acceptedEvents [line]) (multinetHandleLine botai line runtime) fun r => r.1 = 0 ∧ Plain r.2 := by
  obtain ⟨hsock, hmodern, hq⟩ := h
  have hopen : ¬ runtime.sock < 0 := by omega
  unfold multinetHandleLine modernIrcAnswer modernIrcHandleLine
  simp only [hopen, hmodern, if_false, Bool.not_false, Bool.true_or, if_true]
  refine Emits.nil_bind (Q := fun r => r = (0, runtime.modern)) ?_ ?_
  · refine (emits_none (S := [.line]) (by decide) (keeps_log (by simp [Obs.kind]))).nil_bind fun _ _ => ?_
    refine Emits.bind_nil (Q := fun r => r = (0, runtime.modern)) (emits_pure rfl) fun r hr => ?_
    exact (emits_none (S := [.negotiated]) (by decide) (keeps_log (by simp [Obs.kind]))).nil_bind fun _ _ => emits_pure hr
  rintro _ rfl
  by_cases hping : isPing (cstr line)
  · simp only [hping, ne_eq, not_true_eq_false, if_false, if_true, acceptedEvents, List.filterMap_cons, lineEvent,
      List.filterMap_nil]
    exact (emits_none (by decide) (sendPong_keeps _ _)).nil_bind fun _ _ => emits_pure ⟨rfl, hsock, hmodern, hq⟩
  · simp only [hping, ne_eq, not_true_eq_false, if_false, Bool.false_eq_true]
    cases hevent : eventFromIrcLine (cstr line) with
    | none =>
      simp only [acceptedEvents, List.filterMap_cons, lineEvent, hping, Bool.false_eq_true, if_false, hevent]
      exact emits_pure ⟨rfl, hsock, hmodern, hq⟩
    | some event =>
      -- the queue was empty, so the event is alone in it when it is dispatched
      obtain ⟨hrc, hq'⟩ := push_holds hq (by decide) event
      simp only [acceptedEvents, List.filterMap_cons, lineEvent, hping, Bool.false_eq_true, if_false, hevent, hrc,
        not_true_eq_false, List.filterMap_nil]
      refine (eventDispatchPending_emits (fun event => dispatchEvent_emits _ _ _ event) hq').bind_nil fun queue hq'' => ?_
      exact emits_pure ⟨rfl, hsock, hmodern, hq''⟩

theorem deliver_multinet_emits (botai : BotAi) (lines : List Bytes) {runtime : NetworkRuntime} (h : Plain runtime) :
    Emits handed (acceptedEvents lines) (deliver (multinetHandleLine botai) lines runtime) Plain := by
  induction lines generalizing runtime with
  | nil => exact emits_pure h
  | cons line lines ih =>
    rw [← List.singleton_append, acceptedEvents_append]
    exact (multinetHandleLine_emits botai line h).bind fun r hr => ih hr.2

theorem multinetHandleLine_returnsZero (botai : BotAi) : ReturnsZero Plain (multinetHandleLine botai) :=
  fun line _ h _ _ _ _ hr => ((multinetHandleLine_emits botai line h).ok hr).1

/-- One read hands on the events it completes. -/
theorem feedNetwork_emits (botai : BotAi) (i : Nat) (c : Counters) (p data : Bytes) {slot : Slot}
    (hframer : slot.runtime.framer = absFramer p) (h : Plain slot.runtime) :
    Emits handed (acceptedEvents (framedLines (cut LF p data).1)) (feedNetwork botai i c slot data) fun r =>
      r.2.runtime.framer = absFramer (cut LF p data).2 ∧ Plain r.2.runtime := by
  unfold feedNetwork
  rw [hframer, framerFeed_eq_deliver (multinetHandleLine_returnsZero botai) p data h]
  refine Emits.bind_nil (Q := fun r => r.1 = absFramer (cut LF p data).2 ∧ Plain r.2) ?_ fun r hr => ?_
  · exact (deliver_multinet_emits botai _ h).bind_nil fun runtime h' => emits_pure ⟨rfl, h'⟩
  · have hopen : ¬ r.2.sock < 0 := by have := hr.2.sock; omega
    simp only [hopen, if_false]
    exact emits_pure ⟨hr.1, hr.2.sock, hr.2.modern, hr.2.events⟩

/-- The reads of a connection, fed as the main loop of `ambot_multinet_run`
feeds them. -/
def feedNetworks (botai : BotAi) (i : Nat) : List Bytes → Counters → Slot → M (Counters × Slot)
  | [], c, slot => pure (c, slot)
  | data :: reads, c, slot => do
    let (c, slot) ← feedNetwork botai i c slot data
    feedNetworks botai i reads c slot

theorem feedNetworks_emits (botai : BotAi) (i : Nat) (c : Counters) (p : Bytes) (reads : List Bytes) {slot : Slot}
    (hframer : slot.runtime.framer = absFramer p) (h : Plain slot.runtime) :
    Emits handed (readEvents p reads).flatten (feedNetworks botai i reads c slot) fun _ => True := by
  induction reads generalizing p c slot with
  | nil => exact emits_pure trivial
  | cons data reads ih =>
    simp only [readEvents, cuts, List.map_cons, List.flatten_cons]
    exact (feedNetwork_emits botai i c p data hframer h).bind fun r hr => ih _ _ hr.1 hr.2

/-! ## Both sessions -/

/-- The events of a stream: one per framed line that is not a PING and that
`ambot_event_from_irc_line` accepts. -/
def streamEvents (stream : Bytes) : List Event := acceptedEvents (framesOf stream)

theorem readEvents_flatten (reads : List Bytes) : (readEvents [] reads).flatten = streamEvents reads.flatten := by
  have hcuts : ∀ parts : List (List Bytes), (parts.map fun segments => acceptedEvents (framedLines segments)).flatten =
      acceptedEvents (framedLines parts.flatten) := by
    intro parts
    induction parts with
    | nil => rfl
    | cons segments parts ih =>
      rw [List.map_cons, List.flatten_cons, ih, ← acceptedEvents_append, ← framedLines_append, List.flatten_cons]
  rw [readEvents, hcuts, cuts_flatten, cut_framesOf, streamEvents]

/-- Where no read overfills the queue, nothing is lost. -/
theorem sessionEvents_short {reads : List Bytes} (h : ∀ es ∈ readEvents [] reads, es.length ≤ eventQueueCapacity) :
    sessionEvents reads = streamEvents reads.flatten := by
  have hall : (readEvents [] reads).map (List.take eventQueueCapacity) = (readEvents [] reads).map id :=
    List.map_congr_left fun es hes => List.take_of_length_le (h es hes)
  rw [sessionEvents, hall, List.map_id, readEvents_flatten]

/-- The state of a session that has just connected. -/
def sessionInit : SessionState := { framer := ircFramerInit, events := eventQueueInit }

/-- The slot of a network that has just connected without CAP negotiation. -/
def plainSlot (config : NetworkConfig) (sock : Int) : Slot :=
  { runtime := (runtimeInit config).connected sock, socket := sock }

/-- The reads of a connection in both sessions. The multi-network session hands
on every event of the stream, however the stream is cut; the single-network
session hands on the first sixteen of each read. So both hand on every event
where no read completes more than sixteen. -/
theorem sessions_deliver (botai : BotAi) (config : NetworkConfig) (sock : Int) (hsock : 0 ≤ sock) (i : Nat)
    (c : Counters) (reads : List Bytes) :
    Emits handed (streamEvents reads.flatten) (feedNetworks botai i reads c (plainSlot config sock)) (fun _ => True) ∧
    Emits handed (sessionEvents reads) (sessionFeeds botai sock reads sessionInit) (fun _ => True) ∧
    ((∀ es ∈ readEvents [] reads, es.length ≤ eventQueueCapacity) →
      sessionEvents reads = streamEvents reads.flatten) := by
  refine ⟨?_, ?_, fun hshort => ?_⟩
  · rw [← readEvents_flatten]
    exact feedNetworks_emits botai i c [] reads rfl ⟨hsock, rfl, init_holds⟩
  · exact sessionFeeds_emits botai sock [] reads rfl init_holds
  · exact sessionEvents_short hshort

/-- A PING cut in two, between two events. -/
theorem sessions_deliver_two_reads :
    sessionEvents [ascii "JOIN #a\nPI", ascii "NG x\nPART #a\n"] = streamEvents (ascii "JOIN #a\nPING x\nPART #a\n") :=
  (sessions_deliver botaiInit (copyNetwork (networkDefaults configInit)) 3 (by decide) 0 { active := 1, retrying := 0 }
    [ascii "JOIN #a\nPI", ascii "NG x\nPART #a\n"]).2.2 (by decide +kernel)

/-- One read of 85 bytes with seventeen events in it: the multi-network session
hands on all of them, the single-network session drops the last. -/
theorem sessions_deliver_seventeen :
    let read := (List.replicate 17 (ascii "JOIN\n")).flatten
    let multi := feedNetworks botaiInit 0 [read] { active := 1, retrying := 0 }
      (plainSlot (copyNetwork (networkDefaults configInit)) 3) Env.silent (worldInit configInit)
    let single := sessionFeeds botaiInit 3 [read] sessionInit Env.silent (worldInit configInit)
    read.length ≤ recvBuffer ∧ multi.1.isOk ∧ single.1.isOk ∧
      (handed multi.2).length = 17 ∧ (handed single.2).length = 16 := by
  decide +kernel

end AmBot
