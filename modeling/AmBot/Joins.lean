import AmBot.Growth
import AmBot.Framing
import AmBot.Handshake
import AmBot.RunLib.Until
/-!
# Joining the configured channels

The configured channels are to be joined once the server has registered the
client. Both sessions send the JOIN lines right after the registration lines
instead, before anything has been received.
-/

namespace AmBot

open RunLib RunLib.Prog

/-- The line that joins a channel, where it fits. -/
def joinLine (channel : Bytes) : Option Bytes :=
  if fits (ircLineMax + 1) (ascii "JOIN " ++ channel) then some (ascii "JOIN " ++ channel) else none

/-! ## What a connection has seen -/

/-- What has been logged since `sock` was opened. -/
def sinceConnect (sock : Int) (t : List Obs) : List Obs :=
  t.foldl (fun since o => match o with
    | .connect _ _ fd => if fd = sock then [] else since ++ [o]
    | _ => since ++ [o]) []

def Obs.receivedOn (sock : Int) : Obs → Bytes
  | .recv fd (some data) => if fd = sock then data else []
  | _ => []

def Obs.beginsOn (sock : Int) (line : Bytes) : Obs → Bool
  | .send fd data _ => fd = sock && data = line
  | _ => false

/-- A 001 is among the lines received. -/
def welcomed (sock : Int) (t : List Obs) : Bool :=
  (framedLines (cut LF [] (t.flatMap (·.receivedOn sock))).1).any fun line => ircCommand (cstr line) = ascii "001"

/-- The connection is registered: its 001 has been received, and its CAP
negotiation, if it has one, has been ended. -/
def registered (sock : Int) (t : List Obs) : Bool :=
  let since := sinceConnect sock t
  welcomed sock since && (!since.any (·.beginsOn sock capLs) || since.any (·.beginsOn sock capEnd))

/-- The channels that are being joined: nothing but sends has been logged since. -/
def joining (t : List Obs) : Option (Int × List Bytes) :=
  t.foldl (fun last o => match o with
    | .join sock channels => some (sock, channels)
    | .send .. => last
    | _ => none) none

/-- A configured channel is joined on a registered connection. -/
def JoinsLate (before : List Obs) (o : Obs) : Prop :=
  ∀ sock channels channel line rc, joining before = some (sock, channels) → channel ∈ channels →
    joinLine channel = some line → o = .send sock line rc → registered sock before = true

/-- No channel has been configured where the code joins them. -/
def NoneJoined (t : List Obs) : Prop :=
  ∀ sock channels, .join sock channels ∈ t → ∀ channel ∈ channels, joinLine channel = none

/-! ## One more entry -/

theorem joining_mem {t : List Obs} {sock : Int} {channels : List Bytes} (h : joining t = some (sock, channels)) :
    .join sock channels ∈ t := by
  induction t using List.reverseRecOn with
  | nil => cases h
  | append_singleton t o ih =>
    rw [joining, List.foldl_append] at h
    cases o with
    | join =>
      cases h
      exact List.mem_append_right _ (List.mem_singleton.2 rfl)
    | send => exact List.mem_append_left _ (ih h)
    | _ => cases h

/-- Where nothing is joined, nothing is joined too early. -/
theorem NoneJoined.lawful {t : List Obs} (h : NoneJoined t) : Lawful JoinsLate t := by
  rintro before o after rfl sock channels channel line rc hjoining hchannel hline -
  have hmem : .join sock channels ∈ before ++ o :: after := List.mem_append_left _ (joining_mem hjoining)
  rw [h sock channels hmem channel hchannel] at hline
  cases hline

/-- Nothing has been joined, or something too early. -/
def Early (t : List Obs) : Prop := NoneJoined t ∨ ¬ Lawful JoinsLate t

theorem Early.snoc {t : List Obs} (h : Early t) {o : Obs} (ho : o.kind ≠ .join) : Early (t ++ [o]) := by
  rcases h with hnone | hearly
  · refine .inl fun sock channels hmem => hnone sock channels ?_
    rcases List.mem_append.1 hmem with hmem | hmem
    · exact hmem
    · rw [← List.mem_singleton.1 hmem] at ho
      exact absurd rfl ho
  · exact .inr fun hlaw => hearly (lawful_snoc.1 hlaw).1

/-- The kinds between the opening of a connection and its joins. -/
abbrev silentKinds : List Kind := [.send, .rexx, .script, .register, .join]

/-- `sock` has just been opened. -/
def Fresh (sock : Int) (t : List Obs) : Prop :=
  ∃ host port before after, t = before ++ .connect host port sock :: after ∧ ∀ o ∈ after, o.kind ∈ silentKinds

theorem Fresh.snoc {sock : Int} {t : List Obs} (h : Fresh sock t) {o : Obs} (ho : o.kind ∈ silentKinds) :
    Fresh sock (t ++ [o]) := by
  obtain ⟨host, port, before, after, rfl, hafter⟩ := h
  exact ⟨host, port, before, after ++ [o], by simp, List.forall_mem_append.2 ⟨hafter, List.forall_mem_singleton.2 ho⟩⟩

theorem sinceConnect_append (sock : Int) (t : List Obs) {after : List Obs} (h : ∀ o ∈ after, o.kind ∈ silentKinds) :
    sinceConnect sock (t ++ after) = sinceConnect sock t ++ after := by
  induction after using List.reverseRecOn with
  | nil => simp
  | append_singleton after o ih =>
    have hbefore := ih fun o' ho' => h o' (List.mem_append_left _ ho')
    have ho : o.kind ∈ silentKinds := h o (by simp)
    rw [← List.append_assoc, ← List.append_assoc, ← hbefore]
    cases o with
    | connect => simp [Obs.kind] at ho
    | _ => simp [sinceConnect]

/-- Nothing has been received on a connection that has just been opened. -/
theorem Fresh.not_registered {sock : Int} {t : List Obs} (h : Fresh sock t) : registered sock t = false := by
  obtain ⟨host, port, before, after, rfl, hafter⟩ := h
  have hsince : sinceConnect sock (before ++ .connect host port sock :: after) = after := by
    rw [List.append_cons, sinceConnect_append sock _ hafter]
    simp [sinceConnect]
  have hreceived : after.flatMap (·.receivedOn sock) = [] := by
    refine List.flatMap_eq_nil_iff.2 fun o ho => ?_
    have hkind := hafter o ho
    cases o with
    | recv => simp [Obs.kind] at hkind
    | _ => rfl
  simp [registered, hsince, welcomed, hreceived, cut, framedLines]

/-! ## The JOIN lines -/

/-- Whatever holds once the first send of a line is logged, and is kept by the
sends after it. -/
theorem ircSendLine_first {J : List Obs → Prop} (hJ : ∀ t o, o.kind ∈ [.send] → J t → J (t ++ [o])) (sock : Int)
    {line : Bytes} (hline : line ≠ []) :
    Triple (fun w => ∀ rc, J (w.trace ++ [.send sock line rc])) (ircSendLine sock line) (fun _ w => J w.trace)
      fun w => J w.trace := by
  obtain ⟨c, rest, rfl⟩ := List.exists_cons_of_ne_nil hline
  have hfirst : Triple (fun w => ∀ rc, J (w.trace ++ [.send sock (c :: rest) rc])) (netSendAll sock (c :: rest))
      (fun _ w => J w.trace) fun w => J w.trace := by
    have hask : Triple (fun w => ∀ rc, J (w.trace ++ [.send sock (c :: rest) rc])) (ask Env.send)
        (fun _ w => ∀ rc, J (w.trace ++ [.send sock (c :: rest) rc])) fun w => J w.trace := fun _ _ hw => hw
    unfold netSendAll netSendFrom
    refine hask.bind fun rc => ?_
    refine Triple.bind (Q := fun _ w => J w.trace) (triple_modify fun w hw => hw rc) fun _ => ?_
    exact triple_along (acts_along hJ (keeps_ite (keeps_pure _) (netSendFrom_keeps _ _ _)))
  refine hfirst.bind fun rc => ?_
  exact triple_along (acts_along hJ (keeps_ite (keeps_pure _) (netSendAll_keeps _ _)))

theorem sendFormatted_join {channel line : Bytes} (h : joinLine channel = some line) (sock : Int) :
    sendFormatted sock (ascii "JOIN " ++ channel) = (do let _ ← ircSendLine sock line; pure ()) := by
  unfold joinLine at h
  split at h
  · rename_i hfits
    cases h
    exact if_pos hfits
  · cases h

theorem sendFormatted_none {channel : Bytes} (h : joinLine channel = none) (sock : Int) :
    sendFormatted sock (ascii "JOIN " ++ channel) = pure () := by
  unfold joinLine at h
  split at h
  · cases h
  · rename_i hfits
    exact if_neg hfits

theorem joinLine_ne_nil {channel line : Bytes} (h : joinLine channel = some line) : line ≠ [] := by
  unfold joinLine at h
  split at h
  · cases h
    exact nofun
  · cases h

/-- A JOIN line on a connection that has just been opened is too early. -/
theorem early_of_join {sock : Int} {channels : List Bytes} {t : List Obs} (hjoining : joining t = some (sock, channels))
    (hfresh : Fresh sock t) {channel line : Bytes} (hchannel : channel ∈ channels) (hline : joinLine channel = some line)
    (rc : Int) : Early (t ++ [.send sock line rc]) := by
  refine .inr fun hlaw => ?_
  have hregistered := (lawful_snoc.1 hlaw).2 sock channels channel line rc hjoining hchannel hline rfl
  rw [hfresh.not_registered] at hregistered
  cases hregistered

theorem joins_early {sock : Int} {channels rest : List Bytes} (hrest : rest ⊆ channels)
    (h : ∃ channel ∈ rest, joinLine channel ≠ none) :
    Triple (fun w => joining w.trace = some (sock, channels) ∧ Fresh sock w.trace)
      (each (fun channel => sendFormatted sock (ascii "JOIN " ++ channel)) rest)
      (fun _ w => Early w.trace) fun w => Early w.trace := by
  have hsends : ∀ t o, o.kind ∈ [.send] → Early t → Early (t ++ [o]) := by
    intro t o ho ht
    exact ht.snoc fun hjoin => absurd (hjoin ▸ ho) (by decide)
  induction rest with
  | nil =>
    obtain ⟨channel, hmem, -⟩ := h
    exact absurd hmem List.not_mem_nil
  | cons channel rest ih =>
    cases hline : joinLine channel with
    | some line =>
      simp only [each, sendFormatted_join hline]
      have hfirst : Triple (fun w => joining w.trace = some (sock, channels) ∧ Fresh sock w.trace) (ircSendLine sock line)
          (fun _ w => Early w.trace) fun w => Early w.trace :=
        (ircSendLine_first hsends sock (joinLine_ne_nil hline)).pre fun w hw rc =>
          early_of_join hw.1 hw.2 (hrest List.mem_cons_self) hline rc
      refine Triple.bind (Q := fun _ w => Early w.trace) (hfirst.bind fun _ => triple_pure fun _ => id) fun _ => ?_
      exact triple_along (acts_along hsends (keeps_each fun _ _ => sendFormatted_keeps _ _))
    | none =>
      simp only [each, sendFormatted_none hline]
      refine Triple.bind (triple_pure fun _ => id) fun _ => ih (fun _ hc => hrest (List.mem_cons_of_mem _ hc)) ?_
      obtain ⟨channel', hmem, hsome⟩ := h
      rcases List.mem_cons.1 hmem with rfl | hmem
      · exact absurd hline hsome
      · exact ⟨channel', hmem, hsome⟩

/-- The joins of a connection that has just been opened. -/
theorem sendJoins_early (sock : Int) (channels : List Bytes) :
    Triple (fun w => Early w.trace ∧ Fresh sock w.trace) (sendJoins sock channels) (fun _ w => Early w.trace)
      fun w => Early w.trace := by
  unfold sendJoins
  by_cases hnone : ∀ channel ∈ channels, joinLine channel = none
  · refine Triple.bind (Q := fun _ w => Early w.trace) (triple_modify fun w hw => ?_) fun _ => ?_
    · rcases hw.1 with hbefore | hearly
      · refine .inl fun sock' channels' hmem => ?_
        rcases List.mem_append.1 hmem with hmem | hmem
        · exact hbefore sock' channels' hmem
        · cases List.mem_singleton.1 hmem
          exact hnone
      · exact .inr fun hlaw => hearly (lawful_snoc.1 hlaw).1
    · refine triple_along (acts_along (fun t o ho ht => ht.snoc fun hjoin => ?_)
        (keeps_each fun _ _ => sendFormatted_keeps _ _))
      exact absurd (hjoin ▸ ho) (by decide)
  · have hsome : ∃ channel ∈ channels, joinLine channel ≠ none := by simpa using hnone
    refine Triple.bind (triple_modify fun w hw => ⟨?_, ?_⟩) fun _ => joins_early (List.Subset.refl _) hsome
    · simp [World.log, joining]
    · exact hw.2.snoc (by simp [Obs.kind])

/-! ## The connections -/

/-- Early, and `sock` has just been opened. -/
abbrev Opened (sock : Int) (t : List Obs) : Prop := Early t ∧ Fresh sock t

theorem early_snoc (t : List Obs) (o : Obs) (ho : o.kind ≠ .join) (h : Early t) : Early (t ++ [o]) := h.snoc ho

theorem early_plain (t : List Obs) (o : Obs) (ho : o.kind ∈ plain) : Early t → Early (t ++ [o]) :=
  early_snoc t o fun hjoin => absurd (hjoin ▸ ho) (by decide)

theorem early_lone (t : List Obs) (o : Obs) (ho : o.kind ∈ lone) : Early t → Early (t ++ [o]) :=
  early_plain t o (List.mem_append_left _ ho)

theorem netConnectIpv4_opened (host : Bytes) (port : Nat) :
    Triple (fun w => Early w.trace) (netConnectIpv4 host port) (fun sock w => Opened sock w.trace)
      fun w => Early w.trace := by
  refine netConnectIpv4_triple fun sock w w' hw htrace => ?_
  rw [htrace]
  exact ⟨hw.snoc (by simp [Obs.kind]), host, port, w.trace, [], rfl, fun _ ho => absurd ho List.not_mem_nil⟩

theorem acts_opened {α : Type} {S : List Kind} {m : M α} {sock : Int} (hS : S ⊆ [.send, .rexx, .script, .register])
    (h : Keeps (Acts S) m) :
    Triple (fun w => Opened sock w.trace) m (fun _ w => Opened sock w.trace) fun w => Early w.trace := by
  have hkinds : ∀ k ∈ [Kind.send, .rexx, .script, .register], k ∈ silentKinds ∧ k ≠ .join := by decide
  refine (triple_along (J := Opened sock) (acts_along (fun t o ho ht => ?_) h)).conseq (fun _ => id) (fun _ _ => id)
    fun _ => And.left
  obtain ⟨hsilent, hjoin⟩ := hkinds _ (hS ho)
  exact ⟨ht.1.snoc hjoin, ht.2.snoc hsilent⟩

/-- A connect of the several-networks session, with its joins. -/
theorem connectRuntime_early (runtime : NetworkRuntime) :
    Triple (fun w => Early w.trace) (connectRuntime runtime) (fun _ w => Early w.trace) fun w => Early w.trace := by
  unfold connectRuntime
  refine triple_ite (fun _ => triple_pure fun _ => id) fun _ => ?_
  refine Triple.bind (Q := fun _ w => Early w.trace) (triple_modify fun w hw => hw.snoc (by simp [Obs.kind])) fun _ => ?_
  refine (netConnectIpv4_opened _ _).bind fun sock => triple_ite (fun _ => triple_pure fun _ hw => hw.1) fun _ => ?_
  refine (acts_opened (by decide) (modernIrcStart_keeps _ _)).bind fun r => ?_
  obtain ⟨rc, modern⟩ := r
  refine Triple.bind (acts_opened (S := [.send]) (by decide) (keeps_ite (keeps_pure _) (ircSendRegistration_keeps _ _ _ _)))
    fun rc => triple_ite (fun _ => ?_) fun _ => ?_
  · refine Triple.bind (Q := fun _ w => Early w.trace) ?_ fun _ => triple_pure fun _ => id
    refine (triple_along (acts_along (fun t o ho => early_snoc t o fun hjoin => ?_) (netCloseSocket_keeps sock))).pre
      fun w hw => hw.1
    exact absurd (hjoin ▸ ho) (by decide)
  · exact (sendJoins_early _ _).bind fun _ => triple_pure fun _ => id

/-- A connection of the single-network session. -/
theorem serveConnection_early (botai : BotAi) (sock : Int) :
    Triple (fun w => Opened sock w.trace) (serveConnection botai sock) (fun _ w => Early w.trace)
      fun w => Early w.trace := by
  have hcontrol (f : Control → Control) : Triple (fun w => Opened sock w.trace) (modifyControl f)
      (fun _ w => Opened sock w.trace) fun w => Early w.trace := triple_modify fun _ => id
  refine (hcontrol _).bind fun _ => (acts_opened (by decide) (emitLifecycle_keeps _ _)).bind fun _ => ?_
  refine Triple.bind (Q := fun _ w => Early w.trace) ?_ fun rc => triple_along (afterConnection_along early_lone rc sock)
  unfold runConnectedSession
  refine (hcontrol _).bind fun _ => triple_same.bind fun control => ?_
  refine Triple.bind (acts_opened (S := [.register]) (by decide) (keeps_log (by simp [Obs.kind]))) fun _ => ?_
  refine (hcontrol _).bind fun _ => triple_same.bind fun config => ?_
  refine (acts_opened (by decide) (ircSendRegistration_keeps _ _ _ _)).bind fun rc => triple_ite (fun _ => ?_) fun _ => ?_
  · exact (hcontrol _).bind fun _ => triple_pure fun _ hw => hw.1
  · refine (sendJoins_early _ _).bind fun _ => triple_same.bind fun fuel => ?_
    exact triple_along (keeps_loop fuel (connectedRound_along early_lone botai sock) _)

theorem early_followed : Followed fun t t' => Early t → Early t' := by
  refine .of_connects early_plain (fun t o ho => early_snoc t o fun hjoin => absurd (hjoin ▸ ho) (by decide))
    (fun runtime => along_triple (connectRuntime_early runtime)) fun botai config backoff => along_triple ?_
  refine Triple.bind (Q := fun _ w => Early w.trace) (triple_modify fun w hw => hw.snoc (by simp [Obs.kind])) fun _ => ?_
  refine (netConnectIpv4_opened _ _).bind fun sock => triple_ite (fun _ => serveConnection_early botai sock) fun _ => ?_
  exact (triple_along (reconnectLater_along early_lone backoff)).pre fun w hw => hw.1

/-- In every session, the configured channels are joined on registered
connections only, exactly where none is configured wherever they are joined. -/
theorem sessionRun_joinsLate_iff (startup : SessionConfig) (env : Env) :
    Lawful JoinsLate (sessionRun startup env (worldInit configInit)).2.trace ↔
      NoneJoined (sessionRun startup env (worldInit configInit)).2.trace := by
  refine ⟨fun hlaw => ?_, NoneJoined.lawful⟩
  have hnil : Early (worldInit configInit).trace := .inl fun _ _ hmem => absurd hmem List.not_mem_nil
  have hearly : Early (sessionRun startup env (worldInit configInit)).2.trace :=
    sessionRun_along early_followed startup env (worldInit configInit) hnil
  rcases hearly with hnone | hearly
  · exact hnone
  · exact absurd hlaw hearly

/-- A session with a configuration file. -/
def fromFile : SessionConfig :=
  { host := ascii "irc", port := 6667, nick := ascii "bot", user := [], pass := [], ownerNick := [],
    configPath := ascii "bot.conf" }

/-- The outside of a session that finds `file` and connects. -/
def Env.withFile (file : String) : Env :=
  { Env.online with fuel := 1, rexxOpen := fun _ => true, netOpen := fun _ => true, file := fun _ => some (ascii file) }

/-- One configured channel, in the global form and in a section: it is joined
before anything has been received. -/
theorem sessionRun_joins_early :
    ¬ Lawful JoinsLate (sessionRun fromFile (Env.withFile "CHANNEL = #c\n") (worldInit configInit)).2.trace ∧
    ¬ Lawful JoinsLate
      (sessionRun fromFile (Env.withFile "[NETWORK n]\nHOST = irc\nCHANNEL = #c\n") (worldInit configInit)).2.trace := by
  have early (t : List Obs) (n : Nat) (ht : t[n]? = some (.send 3 (ascii "JOIN #c") 512))
      (hjoining : joining (t.take n) = some (3, [ascii "#c"])) (hnot : registered 3 (t.take n) = false) :
      ¬ Lawful JoinsLate t := by
    intro hlaw
    obtain ⟨hn, hsend⟩ := List.getElem?_eq_some_iff.1 ht
    have hregistered := lawful_iff.1 hlaw n hn 3 [ascii "#c"] (ascii "#c") (ascii "JOIN #c") 512 hjoining
      (by decide) (by decide) hsend
    rw [hnot] at hregistered
    cases hregistered
  constructor
  · exact early _ 9 (by decide +kernel) (by decide +kernel) (by decide +kernel)
  · exact early _ 12 (by decide +kernel) (by decide +kernel) (by decide +kernel)

end AmBot
