import AmBot.Growth
import AmBot.Sections
/-!
# Where the bot connects

Credentials go to the endpoint of a network's profile. A profile for AmBNC is
made up of two pairs of a host and a port, each with its own fallback.
-/

namespace AmBot

open RunLib RunLib.Prog

/-! ## The configurations of a session -/

/-- The configurations a session can have: the one it starts from, and what a
load makes of one. -/
inductive Configured : Config → Prop
  | seed (host : Bytes) (port : Nat) (nick user pass owner : Bytes) :
      Configured (configSeed host port nick user pass owner)
  | load {config : Config} (path : Bytes) (file : Option Bytes) : Configured config →
      Configured (configLoad config path file).2

/-- Every AMBNC_PORT is one. -/
structure Ported (config : Config) : Prop where
  globals : config.ambncPort ≠ 0
  networks : ∀ network ∈ config.networks, network.ambncPort ≠ 0

theorem parsePort_ne_zero {value : Bytes} {fallback : Nat} (h : fallback ≠ 0) : parsePort value fallback ≠ 0 := by
  unfold parsePort portOf
  split
  · simp only [Option.getD_some]
    omega
  · exact h

theorem assign_ported {s : Settings} (h : s.ambncPort ≠ 0) (k : Key) (value : Bytes) : (s.assign k value).ambncPort ≠ 0 := by
  cases k with
  | AMBNC_PORT => exact parsePort_ne_zero h
  | CHANNEL =>
    simp only [Settings.assign]
    split
    · exact h
    · exact h
  | _ => exact h

theorem applyNetworkKey_ported {network : ConfigNetwork} (h : network.ambncPort ≠ 0) (key value : Bytes) :
    (applyNetworkKey network key value).ambncPort ≠ 0 := by
  unfold applyNetworkKey
  cases keyOf key with
  | none => exact h
  | some k => exact assign_ported h k value

theorem applyGlobalKey_ported {config : Config} (h : config.ambncPort ≠ 0) (key value : Bytes) :
    (applyGlobalKey config key value).ambncPort ≠ 0 := by
  unfold applyGlobalKey
  split
  · exact h
  · exact h
  · exact h
  · exact assign_ported (s := config.toSettings) h _ value
  · exact h

theorem loadLine_ported {s : Loading} (h : Ported s.config) (line : ConfigLine) : Ported (loadLine s line).config := by
  obtain ⟨hglobals, hnetworks⟩ := h
  cases line with
  | ignored => exact ⟨hglobals, hnetworks⟩
  | network name =>
    unfold loadLine
    dsimp only
    split
    · refine ⟨hglobals, fun network hmem => ?_⟩
      rcases List.mem_append.1 hmem with hmem | hmem
      · exact hnetworks network hmem
      · -- a new section inherits the global port
        rw [List.mem_singleton.1 hmem]
        exact hglobals
    · exact ⟨hglobals, hnetworks⟩
  | setting key value =>
    unfold loadLine
    cases s.current with
    | none =>
      refine ⟨applyGlobalKey_ported hglobals key value, fun network hmem => ?_⟩
      rw [(applyGlobalKey_sameTable s.config key value).networks] at hmem
      exact hnetworks network hmem
    | some i =>
      refine ⟨hglobals, fun network hmem => ?_⟩
      obtain ⟨j, hj, rfl⟩ := List.getElem_of_mem hmem
      dsimp only
      rw [List.getElem_modify]
      split
      · exact applyNetworkKey_ported (hnetworks _ (List.getElem_mem _)) key value
      · exact hnetworks _ (List.getElem_mem _)

theorem configLoad_ported {config : Config} (h : Ported config) (path : Bytes) (file : Option Bytes) :
    Ported (configLoad config path file).2 := by
  unfold configLoad
  split
  · exact h
  cases file with
  | none => exact h
  | some text =>
    have lines (s : Loading) (hs : Ported s.config) (ls : List ConfigLine) : Ported (ls.foldl loadLine s).config := by
      induction ls generalizing s with
      | nil => exact hs
      | cons line ls ih => exact ih _ (loadLine_ported hs line)
    exact lines _ ⟨h.globals, fun _ hmem => absurd hmem List.not_mem_nil⟩ _

theorem Configured.ported {config : Config} (h : Configured config) : Ported config := by
  induction h with
  | seed => exact ⟨show 6667 ≠ 0 by decide, fun _ hmem => absurd hmem List.not_mem_nil⟩
  | load path file _ ih => exact configLoad_ported ih path file

/-! ## The endpoint of a network -/

/-- A network that is accepted passes `networkValidateSecurity` and has a port
for AmBNC. -/
theorem accepted {config : Config} (h : Configured config) (hrc : (networksFromConfig config).1 = 0) {n : NetworkConfig}
    (hn : n ∈ (networksFromConfig config).2.items) : networkValidateSecurity n = 0 ∧ n.ambncPort ≠ 0 := by
  obtain ⟨hglobals, hnetworks⟩ := h.ported
  unfold networksFromConfig at hrc hn
  split at hrc
  · rename_i hsections
    rw [if_pos hsections] at hn
    simp only [acceptedNetworks, List.mem_filter, List.mem_map, decide_eq_true_eq] at hn
    obtain ⟨⟨network, hmem, rfl⟩, hvalid⟩ := hn
    exact ⟨hvalid, hnetworks network (List.mem_of_mem_take hmem)⟩
  · rename_i hsections
    rw [if_neg hsections] at hn
    split at hrc
    · cases hrc
    · rename_i hglobal
      rw [if_neg hglobal] at hn
      rw [List.mem_singleton.1 hn]
      exact ⟨hrc, hglobals⟩

theorem kinds_add {α : Type} {P : Obs → Prop} {S S' : List Kind} {m : M α} (hP : ∀ o, o.kind ∈ S' → P o) (hS : S ⊆ S')
    (h : Keeps (Acts S) m) : Keeps (Along (Adds P)) m :=
  acts_along (fun _ o ho => adds_one (hP o (hS ho))) h

theorem netConnectIpv4_adds {P : Obs → Prop} {host : Bytes} {port : Nat} (h : ∀ rc, P (.connect host port rc)) :
    Keeps (Along (Adds P)) (netConnectIpv4 host port) := by
  intro env w
  obtain ⟨sock, w', hconnect, htrace⟩ := netConnectIpv4_logs host port env w
  rw [hconnect, Along, htrace]
  exact adds_one (h sock)

/-- What a connect of a network adds to the trace, from what it dials and the
endpoint it connects to. -/
theorem connectRuntime_adds {P : Obs → Prop} {runtime : NetworkRuntime}
    (hdial : networkValidateSecurity runtime.config = 0 → P (.dial .multi runtime.config))
    (hconnect : ∀ rc, P (.connect (networkEndpointHost runtime.config) (networkEndpointPort runtime.config) rc))
    (hP : ∀ o, o.kind ∈ [.send, .join, .close] → P o) : Keeps (Along (Adds P)) (connectRuntime runtime) := by
  unfold connectRuntime
  by_cases hvalid : networkValidateSecurity runtime.config ≠ 0
  · rw [if_pos hvalid]
    exact keeps_pure _
  rw [if_neg hvalid]
  refine Keeps.bind (fun _ _ => adds_one (hdial (not_not.1 hvalid))) fun _ => ?_
  refine (netConnectIpv4_adds hconnect).bind fun sock => ?_
  refine keeps_ite (keeps_pure _) ((kinds_add hP (by decide) (modernIrcStart_keeps _ _)).bind fun r => ?_)
  obtain ⟨rc, modern⟩ := r
  refine Keeps.bind (keeps_ite (keeps_pure _) (kinds_add hP (by decide) (ircSendRegistration_keeps _ _ _ _))) fun rc => ?_
  refine keeps_ite ?_ ?_
  · exact (kinds_add hP (by decide) (netCloseSocket_keeps _)).bind fun _ => keeps_pure _
  · exact (kinds_add hP (by decide) (sendJoins_keeps _ _)).bind fun _ => keeps_pure _

/-- A connection is to AMBNC_HOST and AMBNC_PORT, and the host is not empty. -/
def Obs.toAmbnc (n : NetworkConfig) : Obs → Bool
  | .connect host port _ => host = n.ambncHost && port = n.ambncPort && host ≠ []
  | _ => true

/-- A network for AmBNC is connected to AMBNC_HOST and AMBNC_PORT, and so never
to its own HOST, exactly where it has an AMBNC_HOST. -/
theorem connectRuntime_toAmbnc_iff {config : Config} (h : Configured config) (hrc : (networksFromConfig config).1 = 0)
    {runtime : NetworkRuntime} (hn : runtime.config ∈ (networksFromConfig config).2.items)
    (hambnc : runtime.config.upstream = .ambnc ∨ runtime.config.tlsUpstream = true) :
    (∀ env w t, (connectRuntime runtime env w).2.trace = w.trace ++ t → ∀ o ∈ t, o.toAmbnc runtime.config = true) ↔
      runtime.config.ambncHost ≠ [] := by
  obtain ⟨hvalid, hport⟩ := accepted h hrc hn
  have hupstream : runtime.config.upstream = .ambnc := by
    rcases hambnc with hambnc | htls
    · exact hambnc
    · by_contra hne
      simp [networkValidateSecurity, htls, hne] at hvalid
  constructor
  · -- the host is looked up and not found
    intro hall hnone
    have htrace : (connectRuntime runtime Env.silent (worldInit config)).2.trace = (worldInit config).trace ++
        [.dial .multi runtime.config,
          .connect (networkEndpointHost runtime.config) (networkEndpointPort runtime.config) (-1)] := by
      unfold connectRuntime
      rw [if_neg (not_not.2 hvalid)]
      rfl
    have hconnect := hall _ _ _ htrace
      (.connect (networkEndpointHost runtime.config) (networkEndpointPort runtime.config) (-1)) (by simp)
    simp only [Obs.toAmbnc, hnone, Bool.and_eq_true, decide_eq_true_eq] at hconnect
    exact hconnect.2 hconnect.1.1
  · intro hhost env w t ht o ho
    have hendpoint : networkEndpointHost runtime.config = runtime.config.ambncHost ∧
        networkEndpointPort runtime.config = runtime.config.ambncPort := by
      simp [networkEndpointHost, networkEndpointPort, hupstream, hhost, hport]
    have hadds : Keeps (Along (Adds (·.toAmbnc runtime.config = true))) (connectRuntime runtime) := by
      refine connectRuntime_adds (fun _ => rfl) (fun rc => ?_) fun o ho => ?_
      · simp [Obs.toAmbnc, hendpoint, hhost]
      · cases o <;> first | rfl | simp [Obs.kind] at ho
    obtain ⟨u, hu, hall⟩ := hadds env w
    cases List.append_cancel_left (ht.symm.trans hu)
    exact hall o ho

/-- A section that takes TLS from AmBNC. -/
def tlsSection (more : String) : Bytes :=
  ascii "[NETWORK n]\nHOST = irc\nUPSTREAM = AMBNC\nTLS = UPSTREAM\nAMBNC_PORT = 7000\n" ++ ascii more

/-- The configuration of a nick and that section. -/
def tlsConfig (more : String) : Config :=
  (configLoad (configSeed [] 0 (ascii "bot") [] [] []) (ascii "bot.conf") (some (tlsSection more))).2

/-- The section with an AMBNC_HOST. -/
theorem connectRuntime_toAmbnc_host :
    (networksFromConfig (tlsConfig "AMBNC_HOST = bnc\n")).2.items ≠ [] ∧
    ∀ n ∈ (networksFromConfig (tlsConfig "AMBNC_HOST = bnc\n")).2.items, ∀ env w t,
      (connectRuntime (runtimeInit n) env w).2.trace = w.trace ++ t → ∀ o ∈ t, o.toAmbnc n = true := by
  refine ⟨by decide +kernel, fun n hn => ?_⟩
  have hconfigured : Configured (tlsConfig "AMBNC_HOST = bnc\n") := .load _ _ (.seed _ _ _ _ _ _)
  have hambnc : ∀ n ∈ (networksFromConfig (tlsConfig "AMBNC_HOST = bnc\n")).2.items,
      n.upstream = .ambnc ∧ n.ambncHost ≠ [] := by decide +kernel
  have haccepted : (networksFromConfig (tlsConfig "AMBNC_HOST = bnc\n")).1 = 0 := by decide +kernel
  have hmem : (runtimeInit n).config ∈ (networksFromConfig (tlsConfig "AMBNC_HOST = bnc\n")).2.items := hn
  exact (connectRuntime_toAmbnc_iff hconfigured haccepted hmem (.inl (hambnc n hn).1)).2 (hambnc n hn).2

/-- Without one, HOST is connected on AMBNC_PORT, in the clear. -/
theorem connectRuntime_mixes :
    Configured (tlsConfig "") ∧ (networksFromConfig (tlsConfig "")).1 = 0 ∧
    ∃ n ∈ (networksFromConfig (tlsConfig "")).2.items, n.upstream = .ambnc ∧ n.tlsUpstream = true ∧
      .connect (ascii "irc") 7000 (-1) ∈ (connectRuntime (runtimeInit n) Env.silent (worldInit configInit)).2.trace ∧
      (Obs.connect (ascii "irc") 7000 (-1)).toAmbnc n = false :=
  ⟨.load _ _ (.seed _ _ _ _ _ _), by decide +kernel⟩

/-! ## The profiles of the two modes -/

/-- The single-network loop takes up no profile here. -/
def Obs.other (o : Obs) : Prop := ∀ n, o ≠ .dial .single n

theorem other_of_kind {o : Obs} (h : o.kind ≠ .dial) : o.other := by
  rintro n rfl
  exact h rfl

/-- The several-networks mode takes up profiles of its own. -/
theorem turns_other : FollowedTurns (Adds Obs.other) := by
  have hother : ∀ t o, o.kind ≠ .dial → Adds Obs.other t (t ++ [o]) := fun t o ho => adds_one (other_of_kind ho)
  refine .of_connects (fun t o ho => hother t o fun hdial => absurd (hdial ▸ ho) (by decide))
    (fun t o ho => hother t o fun hdial => absurd (hdial ▸ ho) (by decide)) fun runtime => ?_
  refine connectRuntime_adds (fun _ => nofun) (fun _ => nofun) fun o ho => other_of_kind fun hdial => ?_
  exact absurd (hdial ▸ ho) (by decide)

end AmBot
