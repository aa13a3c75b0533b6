import AmBot.Addressee
import AmBot.Delivery
import AmBot.FailedReloads
/-!
# The nick of a live connection

The single-network session registers with the nick of the configuration and
recognises a private message by it, through a pointer. A RELOAD writes to what
it points to, so a connection answers to the nick it registered with only as
long as the files that are read name that one.
-/

namespace AmBot

open RunLib RunLib.Prog

/-! ## The nick in a file -/

/-- What the last NICK line sets that is in none of the sections kept. -/
def fileNick (text : Bytes) : Option Val :=
  (lastAssigned .NICK (skippedLines (fileLines text))).or (lastAssigned .NICK (preamble (fileLines text)))

/-- A file with no such line, or with this nick in it. -/
def KeepsNick (nick text : Bytes) : Prop := ∀ v, fileNick text = some (.text v) → equalIgnoreCase v nick = true

/-- The nick after a load is that of the file, if it has one. -/
theorem configLoad_nick (config : Config) {path : Bytes} (hpath : path ≠ []) (text : Bytes) :
    fileNick text = some (.text (configLoad config path (some text)).2.nick) ∨
      (configLoad config path (some text)).2.nick = config.nick := by
  have hvalue : Val.text (configLoad config path (some text)).2.nick =
      (lastAssigned .NICK (skippedLines (fileLines text))).getD (preambleValue config (fileLines text) .NICK) :=
    configLoad_value config hpath text (k := .NICK) (by decide)
  unfold fileNick
  cases hskipped : lastAssigned .NICK (skippedLines (fileLines text)) with
  | some v =>
    rw [hskipped, Option.getD_some] at hvalue
    exact .inl (congrArg some hvalue.symm)
  | none =>
    rw [hskipped, Option.getD_none, preambleValue] at hvalue
    cases hpreamble : lastAssigned .NICK (preamble (fileLines text)) with
    | some v =>
      rw [hpreamble, Option.getD_some] at hvalue
      exact .inl (congrArg some hvalue.symm)
    | none =>
      rw [hpreamble, Option.getD_none] at hvalue
      exact .inr (Val.text.inj hvalue)

/-- Such files leave a configuration with that nick. -/
theorem KeepsNick.configLoad {nick text path : Bytes} (h : KeepsNick nick text) {config : Config}
    (hnick : equalIgnoreCase config.nick nick = true) (hpath : path ≠ []) :
    equalIgnoreCase (configLoad config path (some text)).2.nick nick = true := by
  rcases configLoad_nick config hpath text with hfile | hsame
  · exact h _ hfile
  · rwa [hsame]

/-! ## What a connection reads -/

/-- The bytes that have come from `sock`. -/
def Obs.heard (sock : Int) : Obs → Option Bytes
  | .recv fd data => if fd = sock then data else none
  | _ => none

def sessionReads (sock : Int) (t : List Obs) : List Bytes := t.filterMap (·.heard sock)

theorem sessionReads_append (sock : Int) (t u : List Obs) :
    sessionReads sock (t ++ u) = sessionReads sock t ++ sessionReads sock u := List.filterMap_append

theorem sessionReads_eq_nil {sock : Int} {u : List Obs} (h : ∀ o ∈ u, o.uses ≠ some sock) : sessionReads sock u = [] := by
  apply List.filterMap_eq_nil_iff.2
  intro o ho
  cases o with
  | recv fd data =>
    have hfd : fd ≠ sock := fun heq => h _ ho (congrArg some heq)
    exact if_neg hfd
  | _ => rfl

theorem Apart.append {sock : Int} {t u : List Obs} (h : Apart sock (t ++ u)) : Apart sock t ∧ Apart sock u :=
  ⟨fun host port fd hd => h host port fd (List.mem_append_left _ hd),
    fun host port fd hd => h host port fd (List.mem_append_right _ hd)⟩

/-- Nothing is read from `sock`, which no other connection gets. -/
def Deaf (sock : Int) (w w' : World) : Prop :=
  ∃ u, w'.trace = w.trace ++ u ∧ (Apart sock u → sessionReads sock u = [])

instance (sock : Int) : IsPreorder World (Deaf sock) where
  refl _ := ⟨[], by simp, fun _ => rfl⟩
  trans := by
    rintro w₁ w₂ w₃ ⟨u, hu, hnone⟩ ⟨v, hv, hnone'⟩
    refine ⟨u ++ v, by rw [hv, hu, List.append_assoc], ?_⟩
    intro hapart
    rw [sessionReads_append, hnone hapart.append.1, hnone' hapart.append.2, List.append_nil]

section
variable {α : Type} {S : List Kind} {sock : Int}

theorem Logs.deaf {w w' : World} (hS : .recv ∉ S) (h : Logs S w w') : Deaf sock w w' := by
  obtain ⟨u, hu, hkinds⟩ := h
  refine ⟨u, hu, ?_⟩
  intro _
  apply List.filterMap_eq_nil_iff.2
  intro o ho
  have hkind := hkinds o ho
  cases o with
  | recv => exact absurd hkind hS
  | _ => rfl

theorem acts_deaf (hS : .recv ∉ S) {m : M α} (h : Keeps (Acts S) m) : Keeps (Deaf sock) m :=
  h.mono fun _ _ hacts => hacts.logs.deaf hS

theorem botaiChat_deaf (botai : BotAi) (message : Bytes) (size : Nat) : Keeps (Deaf sock) (botaiChat botai message size) := by
  intro env w
  have htalks : Talks false [] w (botaiChat botai message size env w).2 := botaiChat_talks botai message size env w
  obtain ⟨-, u, hu, hown⟩ := htalks
  exact ⟨u, hu, fun hapart => sessionReads_eq_nil (OwnSockets.unused hown hapart)⟩

theorem commandsHandleEvent_deaf (botai : BotAi) (event : Event) (context : CommandContext) :
    Keeps (Deaf sock) (commandsHandleEvent botai event context) := by
  have reply (target text : Bytes) : Keeps (Deaf sock) (sendReply context target text) :=
    acts_deaf (by decide) (sendReply_keeps _ _ _)
  unfold commandsHandleEvent
  refine keeps_ite (keeps_pure _) (keeps_ite (keeps_pure _) ?_)
  split
  · exact reply _ _
  · refine keeps_ite (reply _ _) ?_
    split
    · exact reply _ _
    · exact reply _ _
    · exact reply _ _
    · unfold handleAi
      refine keeps_ite (reply _ _) (keeps_ite (reply _ _) ?_)
      exact (botaiChat_deaf _ _ _).bind fun _ => keeps_ite (reply _ _) (reply _ _)

theorem sessionDispatchEvent_deaf (botai : BotAi) (fd : Int) (event : Event) :
    Keeps (Deaf sock) (sessionDispatchEvent botai fd event) := by
  refine (keeps_read _).bind fun config => (keeps_read _).bind fun control => ?_
  refine (acts_deaf (S := [.event]) (by decide) (keeps_log (by simp [Obs.kind]))).bind fun _ => ?_
  exact (commandsHandleEvent_deaf _ _ _).bind fun _ => acts_deaf (by decide) (hooksDispatchEvent_keeps _ _)

theorem sessionFeed_deaf (botai : BotAi) (fd : Int) (data : Bytes) (s : SessionState) :
    Keeps (Deaf sock) (sessionFeed botai fd data s) := by
  have hlines := framerFeed_keeps (R := Deaf sock) (fun line queue => acts_deaf (by decide) (sessionHandleLine_keeps fd line queue))
    data s.framer s.events
  refine hlines.bind fun r => Keeps.bind ?_ fun _ => keeps_pure _
  exact eventDispatchPending_keeps (sessionDispatchEvent_deaf botai fd) _ _

end

/-! ## What a session hands on -/

/-- Since `start`, `reads` have come from `sock` and `es` have been handed on. -/
structure Delivered (sock : Int) (start : World) (reads : List Bytes) (es : List Event) (w : World) : Prop where
  reads : ∃ t, w.trace = start.trace ++ t ∧ (Apart sock t → sessionReads sock t = reads)
  events : handed w = handed start ++ es

/-- Between two rounds everything that was read is handed on, less what the
queue dropped, or waits in the framer for the end of its line. -/
structure Ready (sock : Int) (start : World) (s : SessionState) (w : World) : Prop where
  framer : ∃ reads, s.framer = absFramer (cut LF [] reads.flatten).2 ∧ Delivered sock start reads (sessionEvents reads) w
  events : Holds s.events []

/-- A session that has ended has handed all of it on. -/
def DeliveredAll (sock : Int) (start w : World) : Prop := ∃ reads, Delivered sock start reads (sessionEvents reads) w

/-- One that is cut short has handed on a first part. -/
def DeliveredPart (sock : Int) (start w : World) : Prop := ∃ reads es, es <+: sessionEvents reads ∧ Delivered sock start reads es w

theorem DeliveredAll.part {sock : Int} {start w : World} (h : DeliveredAll sock start w) : DeliveredPart sock start w := by
  obtain ⟨reads, hdelivered⟩ := h
  exact ⟨reads, _, List.prefix_rfl, hdelivered⟩

theorem Ready.all {sock : Int} {start w : World} {s : SessionState} (h : Ready sock start s w) : DeliveredAll sock start w := by
  obtain ⟨⟨reads, -, hdelivered⟩, -⟩ := h
  exact ⟨reads, hdelivered⟩

/-- One read more hands on the first sixteen events it completes. -/
theorem sessionEvents_append (reads : List Bytes) (data : Bytes) :
    sessionEvents (reads ++ [data]) = sessionEvents reads ++
      (acceptedEvents (framedLines (cut LF (cut LF [] reads.flatten).2 data).1)).take eventQueueCapacity := by
  simp [sessionEvents, readEvents, cuts_append]

section
variable {α : Type} {S : List Kind} {sock : Int} {start w w' : World} {reads : List Bytes} {es xs : List Event}

theorem Delivered.deaf (h : Delivered sock start reads es w) (hdeaf : Deaf sock w w') (hevents : handed w' = handed w ++ xs) :
    Delivered sock start reads (es ++ xs) w' := by
  obtain ⟨⟨t, ht, hreads⟩, hes⟩ := h
  obtain ⟨u, hu, hnone⟩ := hdeaf
  refine ⟨⟨t ++ u, by rw [hu, ht, List.append_assoc], ?_⟩, by rw [hevents, hes, List.append_assoc]⟩
  intro hapart
  rw [sessionReads_append, hreads hapart.append.1, hnone hapart.append.2, List.append_nil]

/-- What neither reads nor hands on. -/
theorem Delivered.logs (h : Delivered sock start reads es w) (hrecv : .recv ∉ S) (hevent : .event ∉ S)
    (hlogs : Logs S w w') : Delivered sock start reads es w' := by
  have hsame : handed w' = handed w ++ [] := by rw [hlogs.handed_eq hevent, List.append_nil]
  have hall := h.deaf (hlogs.deaf hrecv) hsame
  rwa [List.append_nil] at hall

theorem Ready.logs {s : SessionState} (h : Ready sock start s w) (hrecv : .recv ∉ S) (hevent : .event ∉ S)
    (hlogs : Logs S w w') : Ready sock start s w' := by
  obtain ⟨⟨reads, hframer, hdelivered⟩, hqueue⟩ := h
  exact ⟨⟨reads, hframer, hdelivered.logs hrecv hevent hlogs⟩, hqueue⟩

theorem DeliveredAll.logs (h : DeliveredAll sock start w) (hrecv : .recv ∉ S) (hevent : .event ∉ S) (hlogs : Logs S w w') :
    DeliveredAll sock start w' := by
  obtain ⟨reads, hdelivered⟩ := h
  exact ⟨reads, hdelivered.logs hrecv hevent hlogs⟩

theorem netRecv_delivered (size : Nat) :
    Triple (Delivered sock start reads es) (netRecv sock size) (fun r => Delivered sock start (reads ++ r.toList) es)
      (DeliveredPart sock start) := by
  intro env w h
  obtain ⟨⟨t, ht, hreads⟩, hes⟩ := h
  let data := (env.recv w.tick).map (List.take size)
  show Delivered sock start (reads ++ data.toList) es (World.log { w with tick := w.tick + 1 } (.recv sock data))
  refine ⟨⟨t ++ [.recv sock data], by simp [World.log, ht], ?_⟩, ?_⟩
  · intro hapart
    have hlast : sessionReads sock [.recv sock data] = data.toList := by
      cases data with
      | none => simp [sessionReads, Obs.heard]
      | some bytes => simp [sessionReads, Obs.heard]
    rw [sessionReads_append, hreads hapart.append.1, hlast]
  · rw [← hes]
    simp [handed, World.log, Obs.handed]

/-- A read goes through the framer and the queue to the handlers. -/
theorem sessionFeed_delivered (botai : BotAi) (data : Bytes) {s : SessionState}
    (hframer : s.framer = absFramer (cut LF [] reads.flatten).2) (hqueue : Holds s.events []) :
    Triple (Delivered sock start (reads ++ [data]) (sessionEvents reads)) (sessionFeed botai sock data s) (Ready sock start)
      (DeliveredPart sock start) := by
  intro env w h
  have hemits := sessionFeed_emits botai sock _ data hframer hqueue env w
  have hdeaf : Deaf sock w (sessionFeed botai sock data s env w).2 := sessionFeed_deaf botai sock data s env w
  rcases hrun : sessionFeed botai sock data s env w with ⟨_ | s', w'⟩
  · rw [hrun] at hemits hdeaf
    obtain ⟨ys, hys, hevents⟩ := hemits
    refine ⟨reads ++ [data], sessionEvents reads ++ ys, ?_, h.deaf hdeaf hevents⟩
    rw [sessionEvents_append]
    exact (List.prefix_append_right_inj _).2 hys
  · rw [hrun] at hemits hdeaf
    obtain ⟨⟨hframer', hqueue'⟩, hevents⟩ := hemits
    refine ⟨⟨reads ++ [data], ?_, ?_⟩, hqueue'⟩
    · rw [hframer', List.flatten_append, cut_append]
      simp
    · rw [sessionEvents_append]
      exact h.deaf hdeaf hevents

end

/-! ## Whose nick it is -/

/-- The command context of the session. -/
def sessionContext (sock : Int) (config : Config) : CommandContext :=
  { sock, botNick := config.nick, ownerNick := config.owner }

/-- From `w`, where the configuration has this nick, the command handler does `s`. -/
structure HandlesAs (env : Env) (botai : BotAi) (sock : Int) (nick : Bytes) (event : Event) (w : World) (s : List Obs) :
    Prop where
  named : equalIgnoreCase w.config.nick nick = true
  ran : (commandsHandleEvent botai event (sessionContext sock w.config) env w).2.trace = w.trace ++ s

/-- Every event of `t` was handled with the nick of `start`. -/
def AllHandledAs (env : Env) (botai : BotAi) (sock : Int) (start : World) (t : List Obs) : Prop :=
  ∀ before event control after, t = before ++ .event event control :: after →
    ∃ w s, HandlesAs env botai sock start.config.nick event w s ∧ w.trace = start.trace ++ (before ++ [.event event control]) ∧ s <+: after

/-- The configuration has the nick of `start`, and has had it wherever an event
was handled. -/
structure KnownAs (env : Env) (botai : BotAi) (sock : Int) (start w : World) : Prop where
  named : equalIgnoreCase w.config.nick start.config.nick = true
  handled : ∃ t, w.trace = start.trace ++ t ∧ AllHandledAs env botai sock start t

section
variable {α : Type} {S : List Kind} {env : Env} {botai : BotAi} {sock : Int} {start w w' : World}

theorem AllHandledAs.append {t u : List Obs} (h : AllHandledAs env botai sock start t)
    (hu : ∀ o ∈ u, o.kind ≠ .event) : AllHandledAs env botai sock start (t ++ u) := by
  intro before event control after ht
  rcases append_eq_append_cons ht with ⟨mid, -, rfl⟩ | ⟨mid, rfl, ht'⟩
  · exact absurd rfl (hu (.event event control) (by simp))
  · obtain ⟨w, s, hhandles, hw, hs⟩ := h before event control mid ht'
    exact ⟨w, s, hhandles, hw, hs.trans (List.prefix_append mid u)⟩

theorem KnownAs.logs (h : KnownAs env botai sock start w) (hevent : .event ∉ S) (hlogs : Logs S w w')
    (hnick : equalIgnoreCase w'.config.nick start.config.nick = true) : KnownAs env botai sock start w' := by
  obtain ⟨-, t, ht, hall⟩ := h
  obtain ⟨u, hu, hkinds⟩ := hlogs
  refine ⟨hnick, t ++ u, by rw [hu, ht, List.append_assoc], hall.append ?_⟩
  intro o ho hkind
  exact hevent (hkind ▸ hkinds o ho)

/-- What hands on no event and leaves the configuration alone. -/
theorem knownAs_moves (hevent : .event ∉ S) {m : M α} (h : Keeps (Moves S) m) :
    Triple (KnownAs env botai sock start) m (fun _ => KnownAs env botai sock start)
      (KnownAs env botai sock start) := by
  apply h.triple
  intro w w' hw hmoves
  exact hw.logs hevent hmoves.2 (by rw [hmoves.1]; exact hw.named)

/-- The event is logged, and the command handler does what it does from there. -/
theorem KnownAs.handle (h : KnownAs env botai sock start w) (event : Event) :
    KnownAs env botai sock start
      (commandsHandleEvent botai event (sessionContext sock w.config) env (w.log (.event event w.control))).2 := by
  have hacts := commandsHandleEvent_keeps botai event (sessionContext sock w.config) env (w.log (.event event w.control))
  obtain ⟨s, hs, hkinds⟩ := hacts.logs
  obtain ⟨hnick, t, ht, hall⟩ := h
  have hlog : (w.log (.event event w.control)).trace = start.trace ++ (t ++ [.event event w.control]) := by
    simp [World.log, ht]
  refine ⟨by rw [hacts.config]; exact hnick, t ++ [.event event w.control] ++ s, by rw [hs, hlog, List.append_assoc], ?_⟩
  intro before event' control' after heq
  rw [List.append_assoc] at heq
  rcases append_eq_append_cons heq with ⟨mid, rfl, hmid⟩ | ⟨mid, rfl, ht'⟩
  · -- it is this event, since the handler hands on none
    cases mid with
    | nil =>
      cases hmid
      refine ⟨w.log (.event event w.control), s, ⟨hnick, hs⟩, ?_, List.prefix_rfl⟩
      rw [hlog, List.append_nil]
    | cons o mid =>
      obtain ⟨rfl, rfl⟩ := List.cons.inj hmid
      have hkind : Kind.event ∈ exchange := hkinds (.event event' control') (by simp)
      exact absurd hkind (by decide)
  · obtain ⟨w₁, s', hhandles, hw₁, hs'⟩ := hall before event' control' mid ht'
    exact ⟨w₁, s', hhandles, hw₁, hs'.trans (List.prefix_append mid _)⟩

theorem sessionDispatchEvent_knownAs (event : Event) :
    Triple (KnownAs env botai sock start) ((sessionDispatchEvent botai sock event).under env)
      (fun _ => KnownAs env botai sock start) (KnownAs env botai sock start) := by
  refine Triple.bind_under (Q := fun config w => KnownAs env botai sock start w ∧ config = w.config)
    (triple_read fun _ _ hw => ⟨hw, rfl⟩) fun config => ?_
  refine Triple.bind_under (Q := fun control w => (KnownAs env botai sock start w ∧ config = w.config) ∧
    control = w.control) (triple_read fun _ _ hw => ⟨hw, rfl⟩) fun control => ?_
  refine Triple.bind_under (Q := fun _ w' => ∃ w, KnownAs env botai sock start w ∧ config = w.config ∧
    w' = w.log (.event event w.control)) (triple_modify fun w hw => ?_) fun _ => ?_
  · obtain ⟨⟨hw, hconfig⟩, rfl⟩ := hw
    exact ⟨w, hw, hconfig, rfl⟩
  refine Triple.bind_under (triple_world fun w' hw' => ?_) fun _ => ?_
  · obtain ⟨w, hw, rfl, rfl⟩ := hw'
    exact hw.handle event
  · exact (knownAs_moves (by decide) (moves (List.Subset.refl _) (hooksDispatchEvent_keeps _ _))).under

theorem sessionFeed_knownAs (data : Bytes) (s : SessionState) :
    Triple (KnownAs env botai sock start) ((sessionFeed botai sock data s).under env)
      (fun _ => KnownAs env botai sock start) (KnownAs env botai sock start) := by
  have hdispatch (n : Nat) (queue : EventQueue) : Triple (KnownAs env botai sock start)
      ((eventDispatchPending (sessionDispatchEvent botai sock) n queue).under env)
      (fun _ => KnownAs env botai sock start) (KnownAs env botai sock start) := by
    induction n generalizing queue with
    | zero => exact triple_pure fun _ => id
    | succ n ih =>
      unfold eventDispatchPending
      split
      · exact triple_pure fun _ => id
      · exact (sessionDispatchEvent_knownAs _).bind_under fun _ => ih _
  have hlines := framerFeed_keeps (sessionHandleLine_keeps sock) data s.framer s.events
  apply Triple.bind_under (knownAs_moves (by decide) (moves (List.Subset.refl _) hlines)).under
  intro r
  exact (hdispatch _ _).bind_under fun _ => triple_pure fun _ => id

/-- Reading a file that keeps the nick. -/
theorem loadConfig_knownAs (hfiles : ∀ tick text, env.file tick = some text → KeepsNick start.config.nick text) {path : Bytes}
    (hpath : path ≠ []) :
    Triple (KnownAs env botai sock start) ((loadConfig path).under env) (fun _ => KnownAs env botai sock start)
      (KnownAs env botai sock start) := by
  apply triple_world
  intro w hw
  rw [loadConfig_run]
  have hnick : equalIgnoreCase (configLoad w.config path (env.file w.tick)).2.nick start.config.nick = true := by
    cases hfile : env.file w.tick with
    | none =>
      rw [configLoad_none]
      exact hw.named
    | some text => exact (hfiles w.tick text hfile).configLoad hw.named hpath
  exact hw.logs (S := [.load]) (by decide) ⟨_, rfl, by simp [Obs.kind]⟩ hnick

theorem processReload_knownAs (hfiles : ∀ tick text, env.file tick = some text → KeepsNick start.config.nick text) :
    Triple (KnownAs env botai sock start) (processReload.under env) (fun _ => KnownAs env botai sock start)
      (KnownAs env botai sock start) := by
  have hclear : Triple (KnownAs env botai sock start) clearReload (fun _ => KnownAs env botai sock start)
      (KnownAs env botai sock start) := knownAs_moves (S := []) (by decide) (modifyControl_moves _)
  apply Triple.bind_under triple_same.under
  intro control
  apply triple_ite_under
  · intro _
    apply Triple.bind_under hclear.under
    intro _
    apply Triple.bind_under triple_same.under
    intro config
    apply triple_ite_under
    · intro _
      exact triple_pure fun _ => id
    · intro hpath
      exact (loadConfig_knownAs hfiles hpath).bind_under fun _ => triple_pure fun _ => id
  · intro _
    exact triple_pure fun _ => id

end

/-! ## Rounds and runs -/

/-- Between two rounds of the session. -/
def Serving (env : Env) (botai : BotAi) (sock : Int) (start : World) (s : SessionState) (w : World) : Prop :=
  Ready sock start s w ∧ KnownAs env botai sock start w

def Over (env : Env) (botai : BotAi) (sock : Int) (start w : World) : Prop :=
  DeliveredAll sock start w ∧ KnownAs env botai sock start w

def Stopped (env : Env) (botai : BotAi) (sock : Int) (start w : World) : Prop :=
  DeliveredPart sock start w ∧ KnownAs env botai sock start w

section
variable {α : Type} {S : List Kind} {env : Env} {botai : BotAi} {sock : Int} {start w w' : World} {s : SessionState}

theorem Over.stopped (h : Over env botai sock start w) : Stopped env botai sock start w := ⟨h.1.part, h.2⟩

theorem Serving.over (h : Serving env botai sock start s w) : Over env botai sock start w := ⟨h.1.all, h.2⟩

/-- What neither reads, hands on nor loads leaves the session as it is. -/
theorem serving_moves (hrecv : .recv ∉ S) (hevent : .event ∉ S) {m : M α} (h : Keeps (Moves S) m) :
    Triple (Serving env botai sock start s) (m.under env) (fun _ => Serving env botai sock start s)
      (Stopped env botai sock start) := by
  have hready : Triple (Ready sock start s) m (fun _ => Ready sock start s) (Ready sock start s) :=
    h.triple fun _ _ hw hmoves => hw.logs hrecv hevent hmoves.2
  exact (hready.both (knownAs_moves hevent h)).under.conseq (fun _ => id) (fun _ _ => id) fun _ hw => ⟨hw.1.all.part, hw.2⟩

theorem over_moves (hrecv : .recv ∉ S) (hevent : .event ∉ S) {m : M α} (h : Keeps (Moves S) m) :
    Triple (Over env botai sock start) (m.under env) (fun _ => Over env botai sock start) (Stopped env botai sock start) := by
  have hall : Triple (DeliveredAll sock start) m (fun _ => DeliveredAll sock start) (DeliveredAll sock start) :=
    h.triple fun _ _ hw hmoves => hw.logs hrecv hevent hmoves.2
  exact (hall.both (knownAs_moves hevent h)).under.conseq (fun _ => id) (fun _ _ => id) fun _ => Over.stopped

theorem processReload_logs : Keeps (Logs [.load]) processReload := by
  have hclear : Keeps (Logs [.load]) clearReload := (modifyControl_moves _).mono fun _ _ h => h.2
  have hload (path : Bytes) : Keeps (Logs [.load]) (loadConfig path) := by
    intro env w
    rw [loadConfig_run]
    exact ⟨_, rfl, by simp [Obs.kind]⟩
  refine (keeps_read _).bind fun control => keeps_ite ?_ (keeps_pure _)
  exact hclear.bind fun _ => (keeps_read _).bind fun config => keeps_ite (keeps_pure _) ((hload _).bind fun _ => keeps_pure _)

theorem processReload_serving (hfiles : ∀ tick text, env.file tick = some text → KeepsNick start.config.nick text) :
    Triple (Serving env botai sock start s) (processReload.under env) (fun _ => Serving env botai sock start s)
      (Stopped env botai sock start) := by
  have hready : Triple (Ready sock start s) processReload (fun _ => Ready sock start s) (Ready sock start s) :=
    processReload_logs.triple fun _ _ hw hlogs => hw.logs (by decide) (by decide) hlogs
  refine (hready.under.both (processReload_knownAs hfiles)).conseq (fun _ => id) (fun _ _ => id) ?_
  exact fun _ hw => ⟨hw.1.all.part, hw.2⟩

/-- What a read finds of the session. -/
def Got (env : Env) (botai : BotAi) (sock : Int) (start : World) (s : SessionState) (received : Option Bytes) (w : World) :
    Prop :=
  (∃ reads, s.framer = absFramer (cut LF [] reads.flatten).2 ∧ Holds s.events [] ∧
    Delivered sock start (reads ++ received.toList) (sessionEvents reads) w) ∧ KnownAs env botai sock start w

theorem netRecv_got (size : Nat) :
    Triple (Serving env botai sock start s) ((netRecv sock size).under env) (Got env botai sock start s)
      (Stopped env botai sock start) := by
  have hknown : Triple (KnownAs env botai sock start) (netRecv sock size) (fun _ => KnownAs env botai sock start)
      (KnownAs env botai sock start) := knownAs_moves (by decide) (moves (List.Subset.refl _) (netRecv_keeps sock size))
  intro e w hw
  obtain ⟨⟨⟨reads, hframer, hdelivered⟩, hqueue⟩, hnick⟩ := hw
  have hread : Triple (Delivered sock start reads (sessionEvents reads)) (netRecv sock size)
      (fun r => Delivered sock start (reads ++ r.toList) (sessionEvents reads)) (DeliveredPart sock start) :=
    netRecv_delivered size
  exact (hread.both hknown).under.post (fun _ _ h => ⟨⟨reads, hframer, hqueue, h.1⟩, h.2⟩) e w ⟨hdelivered, hnick⟩

/-- A connection that is lost has nothing left to hand on. -/
theorem Got.over {received : Option Bytes} (h : Got env botai sock start s received w)
    (hlost : received = none ∨ received = some []) : Over env botai sock start w := by
  obtain ⟨⟨reads, -, -, hdelivered⟩, hnick⟩ := h
  refine ⟨?_, hnick⟩
  rcases hlost with rfl | rfl
  · rw [Option.toList_none, List.append_nil] at hdelivered
    exact ⟨reads, hdelivered⟩
  · refine ⟨reads ++ [[]], ?_⟩
    rw [sessionEvents_append]
    simpa [cut, framedLines, acceptedEvents] using hdelivered

theorem sessionFeed_serving (data : Bytes) :
    Triple (Got env botai sock start s (some data)) ((sessionFeed botai sock data s).under env)
      (Serving env botai sock start) (Stopped env botai sock start) := by
  intro e w hw
  obtain ⟨⟨reads, hframer, hqueue, hdelivered⟩, hnick⟩ := hw
  have hfeed : Triple (Delivered sock start (reads ++ [data]) (sessionEvents reads)) (sessionFeed botai sock data s)
      (Ready sock start) (DeliveredPart sock start) := sessionFeed_delivered botai data hframer hqueue
  have hknown : Triple (KnownAs env botai sock start) ((sessionFeed botai sock data s).under env)
      (fun _ => KnownAs env botai sock start) (KnownAs env botai sock start) := sessionFeed_knownAs data s
  exact (hfeed.under.both hknown) e w ⟨hdelivered, hnick⟩

/-- What a session does besides: it neither reads, hands on nor loads. -/
theorem serving_acts (hrecv : .recv ∉ S) (hevent : .event ∉ S) {m : M α} (h : Keeps (Acts S) m) :
    Triple (Serving env botai sock start s) (m.under env) (fun _ => Serving env botai sock start s)
      (Stopped env botai sock start) := serving_moves hrecv hevent (moves (List.Subset.refl S) h)

theorem connectedRound_serving (hfiles : ∀ tick text, env.file tick = some text → KeepsNick start.config.nick text)
    (s : SessionState) :
    Triple (Serving env botai sock start s) ((connectedRound botai sock s).under env)
      (Next (Serving env botai sock start) fun _ => Over env botai sock start) (Stopped env botai sock start) := by
  have lost (rc : Int) : Triple (Over env botai sock start) ((do setSocket (-1); pure (.inr rc) : M (SessionState ⊕ Int)).under env)
      (Next (Serving env botai sock start) fun _ => Over env botai sock start) (Stopped env botai sock start) := by
    have hset : Keeps (Moves []) (setSocket (-1)) := modifyControl_moves _
    exact (over_moves (by decide) (by decide) hset).bind_under fun _ => triple_pure fun _ => id
  have ends (rc : Int) : Triple (Serving env botai sock start s) ((do setSocket (-1); pure (.inr rc) : M (SessionState ⊕ Int)).under env)
      (Next (Serving env botai sock start) fun _ => Over env botai sock start) (Stopped env botai sock start) :=
    (lost rc).pre fun _ => Serving.over
  unfold connectedRound
  apply Triple.bind_under (serving_acts (by decide) (by decide) ctrlCRequested_keeps)
  intro ctrlC
  apply Triple.bind_under triple_same.under
  intro control
  refine triple_ite_under (fun _ => ends 0) fun _ => ?_
  apply Triple.bind_under (serving_acts (S := [.session]) (by decide) (by decide) (keeps_log (by simp [Obs.kind])))
  intro _
  apply Triple.bind_under (serving_acts (by decide) (by decide) (netWaitMany_keeps _ _))
  intro result
  apply Triple.bind_under (Q := fun _ => Serving env botai sock start s)
  · apply triple_ite_under
    · intro _
      apply Triple.bind_under (serving_acts (by decide) (by decide) rexxProcess_keeps)
      intro _
      exact processReload_serving hfiles
    · intro _
      exact triple_pure fun _ => id
  intro _
  apply triple_ite_under
  · intro _
    apply Triple.bind_under (serving_acts (S := [.ctrlC]) (by decide) (by decide) (keeps_log (by simp [Obs.kind])))
    intro _
    apply Triple.bind_under (serving_moves (S := []) (by decide) (by decide) (modifyControl_moves _))
    intro _
    exact ends 0
  intro _
  apply Triple.bind_under triple_same.under
  intro control
  refine triple_ite_under (fun _ => ends 0) fun _ => triple_ite_under (fun _ => ends (-1)) fun _ => ?_
  refine triple_ite_under (fun _ => triple_pure fun _ => id) fun _ => ?_
  apply Triple.bind_under (netRecv_got _)
  intro received
  split
  · exact (lost (-1)).pre fun _ h => h.over (.inl rfl)
  · exact (lost (-1)).pre fun _ h => h.over (.inr rfl)
  · exact (sessionFeed_serving _).bind_under fun s' => triple_pure fun _ => id

theorem Serving.init (env : Env) (botai : BotAi) (sock : Int) (start : World) :
    Serving env botai sock start sessionInit start := by
  have hself (a : Bytes) : equalIgnoreCase a a = true := (equalIgnoreCase_iff a a).2 rfl
  refine ⟨⟨⟨[], rfl, ⟨[], by simp, fun _ => rfl⟩, (List.append_nil _).symm⟩, init_holds⟩, hself _, [], by simp, ?_⟩
  intro before event control after h
  cases before <;> cases h

theorem runConnectedSession_serving (hfiles : ∀ tick text, env.file tick = some text → KeepsNick start.config.nick text) :
    Triple (Serving env botai sock start sessionInit) ((runConnectedSession botai sock).under env)
      (fun _ => Over env botai sock start) (Stopped env botai sock start) := by
  have hset (fd : Int) : Keeps (Moves []) (setSocket fd) := modifyControl_moves _
  unfold runConnectedSession
  apply Triple.bind_under (serving_moves (by decide) (by decide) (hset sock))
  intro _
  apply Triple.bind_under triple_same.under
  intro control
  apply Triple.bind_under (serving_acts (S := [.register]) (by decide) (by decide) (keeps_log (by simp [Obs.kind])))
  intro _
  apply Triple.bind_under (serving_moves (S := []) (by decide) (by decide) (modifyControl_moves _))
  intro _
  apply Triple.bind_under triple_same.under
  intro config
  apply Triple.bind_under (serving_acts (by decide) (by decide) (ircSendRegistration_keeps _ _ _ _))
  intro rc
  apply triple_ite_under
  · intro _
    apply Triple.bind_under (serving_moves (by decide) (by decide) (hset (-1)))
    intro _
    exact triple_pure fun _ => Serving.over
  intro _
  apply Triple.bind_under (serving_acts (by decide) (by decide) (sendJoins_keeps _ _))
  intro _
  apply Triple.bind_under triple_same.under
  intro fuel
  exact triple_loop_under fuel (connectedRound_serving hfiles) (fun _ _ h => h.over.stopped) _

end

/-! ## Who is answered -/

/-- Who an answer is for on a connection with this nick. -/
def answerTo (nick : Bytes) (event : Event) : Bytes :=
  if equalIgnoreCase event.target nick then event.nick else event.target

theorem equalIgnoreCase_congr {a b : Bytes} (h : equalIgnoreCase a b = true) (c : Bytes) :
    equalIgnoreCase c a = equalIgnoreCase c b := by
  rw [Bool.eq_iff_iff, equalIgnoreCase_iff, equalIgnoreCase_iff, (equalIgnoreCase_iff a b).1 h]

/-- No answer is for the nick itself, unless it is the sender's. -/
theorem answerTo_other {nick : Bytes} {event : Event} (h : equalIgnoreCase event.nick nick = false) :
    equalIgnoreCase (answerTo nick event) nick = false := by
  unfold answerTo
  split
  · exact h
  · rename_i hother
    exact Bool.eq_false_iff.2 hother

/-- What the handler does for `event` is one line to `target` with its reply,
or nothing where the text of the service is too long for that. -/
structure AnswersTo (env : Env) (botai : BotAi) (sock : Int) (event : Event) (target : Bytes) (w : World) (s : List Obs) :
    Prop where
  ran : (commandsHandleEvent botai event (sessionContext sock w.config) env w).2.trace = w.trace ++ s
  line : (∀ text, AiSays env w botai event text → (replyLine target text).length ≤ ircLineMax) →
    ∃ reply, ReplyIs env w botai event fixedReplies reply ∧ Transmits sock (replyLine target reply) s
  silent : ∀ text, AiSays env w botai event text → ircLineMax < (replyLine target text).length →
    ∀ data rc, .send sock data rc ∉ s

/-- A connection that goes by the nick it has in `w`, where it begins: the
lines that have come are handed on, and each command in them is answered, to
the sender where it came in private and never to that nick itself. -/
structure Recognises (env : Env) (botai : BotAi) (sock : Int) (w : World) (rc : Except Halt Int) (t : List Obs) : Prop where
  heard : t.filterMap Obs.handed <+: sessionEvents (sessionReads sock t)
  whole : rc.isOk = true → (∀ es ∈ readEvents [] (sessionReads sock t), es.length ≤ eventQueueCapacity) →
    t.filterMap Obs.handed = streamEvents (sessionReads sock t).flatten
  answered : ∀ before event control after, t = before ++ .event event control :: after → isCommand event = true →
    (commandName event.text).1 ≠ [] → ∃ w' s target, w'.trace = w.trace ++ (before ++ [.event event control]) ∧
      s <+: after ∧ AnswersTo env botai sock event target w' s ∧
      (equalIgnoreCase event.target w.config.nick = true → target = event.nick) ∧
      (equalIgnoreCase event.nick w.config.nick = false → equalIgnoreCase target w.config.nick = false)

section
variable {env : Env} {botai : BotAi} {sock : Int} {nick : Bytes} {start w w' : World} {event : Event} {s t : List Obs}

theorem HandlesAs.target (h : HandlesAs env botai sock nick event w s) :
    replyTarget event (sessionContext sock w.config) = answerTo nick event := by
  show (if equalIgnoreCase event.target w.config.nick then event.nick else event.target) = answerTo nick event
  rw [equalIgnoreCase_congr h.named]
  rfl

theorem HandlesAs.answersTo (h : HandlesAs env botai sock nick event w s) (hcommand : isCommand event = true)
    (hname : (commandName event.text).1 ≠ []) (hshort : (answerTo nick event).length ≤ 63) (hapart : Apart sock s) :
    AnswersTo env botai sock event (answerTo nick event) w s := by
  obtain ⟨w', u, v, reply, hrun, huv, hown, hreply, hsent⟩ :=
    commandsHandleEvent_replied env w botai (sessionContext sock w.config) hcommand hname
  rw [h.target] at hsent
  have hran := h.ran
  rw [hrun] at hran
  obtain rfl : u ++ v = s := List.append_cancel_left (huv.symm.trans hran)
  have hquiet := hown.quiet hapart
  have hfits := hreply.fits_iff hshort
  refine ⟨h.ran, ?_, ?_⟩
  · intro hall
    rcases hsent with ⟨-, htransmits⟩ | ⟨hno, -⟩
    · exact ⟨reply, hreply, htransmits.after hquiet⟩
    · rw [hfits.2 hall] at hno
      cases hno
  · intro text htext hlong data rc hmem
    rcases hsent with ⟨hyes, -⟩ | ⟨-, rfl⟩
    · exact absurd (hfits.1 hyes text htext) (Nat.not_le.2 hlong)
    · exact hquiet data rc (by simpa using hmem)

theorem answerTo_length {line : Bytes} (h : eventFromIrcLine line = some event) : (answerTo nick event).length ≤ 63 := by
  obtain ⟨hnick, htarget, -⟩ := eventFromIrcLine_length h
  unfold answerTo
  split
  · omega
  · exact htarget

/-- Whatever a session hands on comes from a line. -/
theorem sessionEvents_line {reads : List Bytes} (h : event ∈ sessionEvents reads) :
    ∃ line, eventFromIrcLine line = some event := by
  obtain ⟨es, hes, hmem⟩ := List.mem_flatten.1 h
  obtain ⟨all, hall, rfl⟩ := List.mem_map.1 hes
  obtain ⟨segments, -, rfl⟩ := List.mem_map.1 hall
  obtain ⟨line, -, hline⟩ := List.mem_filterMap.1 (List.mem_of_mem_take hmem)
  unfold lineEvent at hline
  split at hline
  · cases hline
  · exact ⟨cstr line, hline⟩

theorem Delivered.eq {reads : List Bytes} {es : List Event} (h : Delivered sock start reads es w)
    (ht : w.trace = start.trace ++ t) (hapart : Apart sock t) :
    sessionReads sock t = reads ∧ t.filterMap Obs.handed = es := by
  obtain ⟨⟨t', ht', hreads⟩, hes⟩ := h
  obtain rfl : t' = t := List.append_cancel_left (ht'.symm.trans ht)
  refine ⟨hreads hapart, ?_⟩
  rw [handed, handed, ht, List.filterMap_append] at hes
  exact List.append_cancel_left hes

theorem DeliveredPart.heard (h : DeliveredPart sock start w) (ht : w.trace = start.trace ++ t) (hapart : Apart sock t) :
    t.filterMap Obs.handed <+: sessionEvents (sessionReads sock t) := by
  obtain ⟨reads, es, hes, hdelivered⟩ := h
  obtain ⟨rfl, rfl⟩ := hdelivered.eq ht hapart
  exact hes

theorem DeliveredAll.whole (h : DeliveredAll sock start w) (ht : w.trace = start.trace ++ t) (hapart : Apart sock t)
    (hshort : ∀ es ∈ readEvents [] (sessionReads sock t), es.length ≤ eventQueueCapacity) :
    t.filterMap Obs.handed = streamEvents (sessionReads sock t).flatten := by
  obtain ⟨reads, hdelivered⟩ := h
  obtain ⟨rfl, hevents⟩ := hdelivered.eq ht hapart
  rw [hevents, sessionEvents_short hshort]

theorem KnownAs.answered (h : KnownAs env botai sock start w) (ht : w.trace = start.trace ++ t) (hapart : Apart sock t)
    (hheard : t.filterMap Obs.handed <+: sessionEvents (sessionReads sock t)) {before after : List Obs} {control : Control}
    (heq : t = before ++ .event event control :: after) (hcommand : isCommand event = true)
    (hname : (commandName event.text).1 ≠ []) :
    ∃ w' s, w'.trace = start.trace ++ (before ++ [.event event control]) ∧ s <+: after ∧
      AnswersTo env botai sock event (answerTo start.config.nick event) w' s := by
  obtain ⟨-, t', ht', hall⟩ := h
  obtain rfl : t' = t := List.append_cancel_left (ht'.symm.trans ht)
  obtain ⟨w', s, hhandles, hw', hs⟩ := hall before event control after heq
  have hmem : event ∈ t'.filterMap Obs.handed := List.mem_filterMap.2 ⟨.event event control, by simp [heq], rfl⟩
  obtain ⟨line, hline⟩ := sessionEvents_line (hheard.subset hmem)
  have hapart' : Apart sock s := by
    intro host port fd hd
    apply hapart host port fd
    rw [heq]
    exact List.mem_append_right _ (List.mem_cons_of_mem _ (hs.subset hd))
  exact ⟨w', s, hw', hs, hhandles.answersTo hcommand hname (answerTo_length hline) hapart'⟩

end

/-- Where every file that can be read names the nick the connection registered
with, the connection goes by that nick in every run. -/
theorem session_recognises {env : Env} {botai : BotAi} {sock : Int} {w : World} {t : List Obs}
    (hfiles : ∀ tick text, env.file tick = some text → KeepsNick w.config.nick text)
    (htrace : (runConnectedSession botai sock env w).2.trace = w.trace ++ t) (hapart : Apart sock t) :
    Recognises env botai sock w (runConnectedSession botai sock env w).1 t := by
  have hrun := runConnectedSession_serving hfiles env w (Serving.init env botai sock w)
  have houtcome : Stopped env botai sock w (runConnectedSession botai sock env w).2 ∧
      ((runConnectedSession botai sock env w).1.isOk = true →
        DeliveredAll sock w (runConnectedSession botai sock env w).2) := by
    rcases hr : runConnectedSession botai sock env w with ⟨_ | rc, w'⟩
    · rw [show (runConnectedSession botai sock).under env env w = _ from hr] at hrun
      exact ⟨hrun, nofun⟩
    · rw [show (runConnectedSession botai sock).under env env w = _ from hr] at hrun
      exact ⟨hrun.stopped, fun _ => hrun.1⟩
  obtain ⟨⟨hpart, hknown⟩, hall⟩ := houtcome
  have hheard := hpart.heard htrace hapart
  refine ⟨hheard, fun hok hshort => (hall hok).whole htrace hapart hshort, ?_⟩
  intro before event control after heq hcommand hname
  obtain ⟨w', s, hw', hs, hanswers⟩ := hknown.answered htrace hapart hheard heq hcommand hname
  refine ⟨w', s, answerTo w.config.nick event, hw', hs, hanswers, ?_, answerTo_other⟩
  intro hprivate
  exact if_pos hprivate

/-- An outside where each wait ends with a RELOAD of `file` and with bytes to
read: this line first, and then the end of the connection. -/
def Env.rereading (file line : Bytes) : Env :=
  { Env.online with
    waitSelect := fun _ => { rc := 1, rexx := true, ctrlC := false, readable := fun _ => true }
    messages := fun _ => [ascii "RELOAD"]
    file := fun _ => some file
    recv := fun tick => if tick < 12 then some line else some [] }

/-- A question in private to the bot, which has registered as `bot`. -/
def privateLine : Bytes := ascii ":bob!u@h PRIVMSG BOT :!HELP\n"

def rereadRun (file : Bytes) : Except Halt Int × World :=
  runConnectedSession botaiInit 3 (Env.rereading file privateLine) (worldInit oneServer)

theorem rereadRun_trace (file : Bytes) :
    (runConnectedSession botaiInit 3 (Env.rereading file privateLine) (worldInit oneServer)).2.trace =
      (worldInit oneServer).trace ++ (rereadRun file).2.trace := by
  rw [rereadRun]
  exact (List.nil_append _).symm

theorem session_recognises_bot :
    Recognises (Env.rereading (ascii "NICK=BOT\n") privateLine) botaiInit 3 (worldInit oneServer)
      (rereadRun (ascii "NICK=BOT\n")).1 (rereadRun (ascii "NICK=BOT\n")).2.trace := by
  have hnick : fileNick (ascii "NICK=BOT\n") = some (.text (ascii "BOT")) := by decide +kernel
  have hkinds : ∀ o ∈ (rereadRun (ascii "NICK=BOT\n")).2.trace, o.kind ≠ .connect := by decide +kernel
  refine session_recognises ?_ (rereadRun_trace (ascii "NICK=BOT\n")) (apart_of_kinds hkinds)
  intro tick text htext v hv
  obtain rfl := Option.some.inj htext
  obtain rfl := Val.text.inj (Option.some.inj (hnick.symm.trans hv))
  decide +kernel

/-- There the question is answered to the one who asked. -/
example : takenOn 3 ((rereadRun (ascii "NICK=BOT\n")).2.trace.drop 12) =
    replyLine (ascii "bob") (ascii "Commands: !HELP !STATUS !VERSION !AI") ++ CRLF := by decide +kernel

def renamedTrace : List Obs := (rereadRun (ascii "NICK=other\n")).2.trace

/-- A RELOAD with another nick in the file makes the connection answer to the
nick it registered with. -/
theorem reload_renames :
    Apart 3 renamedTrace ∧
      takenOn 3 (renamedTrace.drop 12) = replyLine (ascii "BOT") (ascii "Commands: !HELP !STATUS !VERSION !AI") ++ CRLF ∧
      ¬ Recognises (Env.rereading (ascii "NICK=other\n") privateLine) botaiInit 3 (worldInit oneServer)
        (rereadRun (ascii "NICK=other\n")).1 renamedTrace := by
  let event : Event := { type := .privmsg, nick := ascii "bob", target := ascii "BOT", text := ascii "!HELP" }
  have hkinds : ∀ o ∈ renamedTrace, o.kind ≠ .connect := by decide +kernel
  have haccepted : ∀ o ∈ renamedTrace, o.accepted = true := by decide +kernel
  have hsplit : renamedTrace =
      renamedTrace.take 11 ++ .event event (controlSetSocket controlInit 3) :: renamedTrace.drop 12 := by
    decide +kernel
  have htaken : takenOn 3 (renamedTrace.drop 12) =
      replyLine (ascii "BOT") (ascii "Commands: !HELP !STATUS !VERSION !AI") ++ CRLF := by decide +kernel
  refine ⟨apart_of_kinds hkinds, htaken, ?_⟩
  intro h
  obtain ⟨w', s, target, -, ⟨rest, hs⟩, hanswers, hprivate, -⟩ :=
    h.answered _ event _ _ hsplit (by decide +kernel) (by decide +kernel)
  obtain rfl : target = ascii "bob" := hprivate (by decide +kernel)
  have hhelp : findCommand (commandName event.text).1 ≠ some .AI := by decide +kernel
  obtain ⟨reply, -, htransmits⟩ := hanswers.line fun text hsaid => absurd hsaid.1 hhelp
  have hwhole : takenOn 3 s = replyLine (ascii "bob") reply ++ CRLF := by
    apply htransmits.whole
    apply takesSends_of_accepted
    intro o ho
    exact haccepted o (List.mem_of_mem_drop (hs ▸ List.mem_append_left rest ho))
  rw [← hs, takenOn_append, hwhole] at htaken
  -- the line would have to begin with another name
  have hbob : ascii "PRIVMSG bob" <+: replyLine (ascii "BOT") (ascii "Commands: !HELP !STATUS !VERSION !AI") ++ CRLF := by
    rw [← htaken]
    exact ⟨ascii " :" ++ reply ++ CRLF ++ takenOn 3 rest, by simp [replyLine, ascii]⟩
  exact absurd hbob (by decide +kernel)

end AmBot
