import AmBot.Forms
/-!
# The list of networks

What `ambot_networks_from_config` makes of a loaded file: a section is either in
the list, with all it was loaded with, or counted as skipped.
-/

namespace AmBot

/-- The profile with the fields of a record as they are. -/
def profileOf (src : ConfigNetwork) : NetworkConfig :=
  { name := src.name
    host := src.host
    port := src.port
    nick := src.nick
    user := src.user
    pass := src.pass
    owner := src.owner
    hookDir := src.hookDir
    moduleDir := src.moduleDir
    channels := src.channels
    upstream := if src.useAmbnc then .ambnc else .direct
    ambncHost := src.ambncHost
    ambncPort := src.ambncPort
    capEnabled := src.capEnabled
    saslPlain := src.saslPlain
    saslUser := src.saslUser
    saslPass := src.saslPass
    tlsUpstream := src.tlsUpstream }

/-! ## Nothing is cut -/

/-- Every text of the record fits its field. -/
structure Clipped (network : ConfigNetwork) : Prop where
  settings : network.toSettings.clip = network.toSettings
  name : copyValue 32 network.name = network.name

theorem Clipped.copyNetwork {network : ConfigNetwork} (h : Clipped network) : copyNetwork network = profileOf network := by
  obtain ⟨settings, name⟩ := network
  obtain ⟨hsettings, hname⟩ := h
  have hcopy : AmBot.copyNetwork ⟨settings, name⟩ = profileOf ⟨settings.clip, copyValue 32 name⟩ := rfl
  rw [hcopy, show settings.clip = settings from hsettings, show copyValue 32 name = name from hname]

theorem networkDefaults_clipped (config : Config) (name : Bytes) :
    Clipped { networkDefaults config with name := copyValue 32 name } where
  settings := by simp [networkDefaults, Settings.clip, copyValue]
  name := copyValue_copyValue 32 name

/-- A value is cut as it is assigned. -/
theorem clip_assign (s : Settings) (k : Key) (value : Bytes) : (s.assign k value).clip = s.clip.assign k value := by
  cases k with
  | CHANNEL =>
    have hlength : s.clip.channels.length = s.channels.length := List.length_map _
    unfold Settings.assign
    dsimp only
    rw [hlength]
    split
    · simp [Settings.clip, copyValue_copyValue]
    · rfl
  | _ => simp [Settings.assign, Settings.clip, copyValue_copyValue]

theorem applyNetworkLine_clipped {network : ConfigNetwork} (h : Clipped network) (line : ConfigLine) :
    Clipped (applyNetworkLine network line) := by
  cases line with
  | setting key value =>
    simp only [applyNetworkLine, applyNetworkKey]
    cases keyOf key with
    | none => exact h
    | some k =>
      refine ⟨?_, h.name⟩
      dsimp only
      rw [clip_assign, h.settings]
  | ignored => exact h
  | network name => exact h

theorem record_clipped (config : Config) (section_ : Bytes × List ConfigLine) : Clipped (record config section_) := by
  unfold record
  have hstart := networkDefaults_clipped config section_.1
  generalize { networkDefaults config with name := copyValue 32 section_.1 } = network at hstart
  induction section_.2 generalizing network with
  | nil => exact hstart
  | cons line lines ih => exact ih _ (applyNetworkLine_clipped hstart line)

/-! ## Nothing is lost -/

theorem sections_length (lines : List ConfigLine) : (sections lines).length = lines.countP (·.isHeader) := by
  induction lines with
  | nil => rfl
  | cons line lines ih =>
    cases line with
    | network name =>
      rw [sections, List.length_cons, ih, List.countP_cons_of_pos (by rfl)]
    | ignored => exact ih
    | setting key value => exact ih

theorem acceptedNetworks_eq {config : Config} (hcount : config.networks.length ≤ networksMax)
    (hclipped : ∀ network ∈ config.networks, Clipped network) :
    acceptedNetworks config =
      (config.networks.filter fun network => networkValidateSecurity (profileOf network) = 0).map profileOf := by
  have hcopy : config.networks.map copyNetwork = config.networks.map profileOf :=
    List.map_congr_left fun network hmem => (hclipped network hmem).copyNetwork
  unfold acceptedNetworks
  rw [List.take_of_length_le hcount, hcopy, List.filter_map]
  rfl

/-- Each section of a file is in the list as it was loaded, or it is counted. -/
theorem networks_conserved (seed : Config) {path : Bytes} (hpath : path ≠ []) (text : Bytes)
    (hheader : ∃ line ∈ fileLines text, line.isHeader = true) :
    let config := (configLoad seed path (some text)).2
    let networks := (networksFromConfig config).2
    config.networks = ((sections (fileLines text)).take networksMax).map
        (record (preambleGlobals seed path (fileLines text))) ∧
      networks.items =
        (config.networks.filter fun network => networkValidateSecurity (profileOf network) = 0).map profileOf ∧
      (networks.items.length + networks.skipped) % 2 ^ 32 = (fileLines text).countP (·.isHeader) % 2 ^ 32 ∧
      ((networksFromConfig config).1 = 0 ↔ networks.items.length ≠ 0) := by
  dsimp only
  have hnetworks := configLoad_networks seed hpath text
  have hskipped := configLoad_networksSkipped seed hpath text
  generalize (configLoad seed path (some text)).2 = config at hnetworks hskipped
  have hcount : config.networks.length ≤ networksMax := by
    rw [hnetworks, List.length_map]
    exact List.length_take_le _ _
  have hclipped : ∀ network ∈ config.networks, Clipped network := by
    intro network hmem
    rw [hnetworks] at hmem
    obtain ⟨section_, -, rfl⟩ := List.mem_map.1 hmem
    exact record_clipped _ section_
  have hkept : config.networks.length = min networksMax (sections (fileLines text)).length := by
    rw [hnetworks, List.length_map, keptSections, List.length_take]
  have hheaders : 0 < (sections (fileLines text)).length := by
    rw [sections_length]
    exact List.countP_pos_iff.2 hheader
  have hsome : config.networks ≠ [] := by
    intro hnil
    rw [hnil, networksMax, List.length_nil] at hkept
    omega
  have hitems := acceptedNetworks_eq hcount hclipped
  have haccepted : (acceptedNetworks config).length ≤ (config.networks.take networksMax).length := by
    unfold acceptedNetworks
    exact (List.length_filter_le _ _).trans (List.length_map _).le
  unfold networksFromConfig
  rw [if_pos hsome]
  refine ⟨hnetworks, hitems, ?_, ?_⟩
  · -- the kept sections are the accepted and the rejected ones; the others were counted in the load
    dsimp only
    rw [List.length_take, hkept] at haccepted
    rw [hskipped, List.length_take, hkept, ← sections_length]
    unfold networksMax at haccepted ⊢
    omega
  · dsimp only
    by_cases hnone : acceptedNetworks config = []
    · rw [if_neg (not_not.2 hnone)]
      exact iff_of_false (Int.negSucc_ne_zero 0) (not_not.2 (List.length_eq_zero_iff.2 hnone))
    · rw [if_pos hnone]
      exact iff_of_true rfl (mt List.length_eq_zero_iff.1 hnone)

/-- A file of five sections, the second of which has an invalid profile. -/
def mixedSections : Bytes :=
  ascii "NICK = bot\n[NETWORK a]\nHOST = irc.a\n[NETWORK b]\nHOST = irc.b\nTLS = UPSTREAM\n" ++
    ascii "[NETWORK c]\nHOST = irc.c\n[NETWORK d]\nHOST = irc.d\n[NETWORK e]\nHOST = irc.e\n"

/-- The invalid section and the fifth are counted. -/
theorem networks_conserved_sections :
    let config := (configLoad configInit (ascii "bot.conf") (some mixedSections)).2
    let networks := (networksFromConfig config).2
    (fileLines mixedSections).countP (·.isHeader) = 5 ∧
      networks.items.map (·.name) = [ascii "a", ascii "c", ascii "d"] ∧ networks.skipped = 2 ∧
      config.networks = ((sections (fileLines mixedSections)).take networksMax).map
        (record (preambleGlobals configInit (ascii "bot.conf") (fileLines mixedSections))) ∧
      networks.items =
        (config.networks.filter fun network => networkValidateSecurity (profileOf network) = 0).map profileOf ∧
      (networks.items.length + networks.skipped) % 2 ^ 32 = (fileLines mixedSections).countP (·.isHeader) % 2 ^ 32 ∧
      ((networksFromConfig config).1 = 0 ↔ networks.items.length ≠ 0) :=
  ⟨by decide +kernel, by decide +kernel, by decide +kernel,
    networks_conserved configInit (by decide) mixedSections (by decide +kernel)⟩

end AmBot
