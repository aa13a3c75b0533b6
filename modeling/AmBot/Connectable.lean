import AmBot.NetworkList
/-!
# Networks that can be connected

The list of networks against what a connection needs: a host, a port and a
nick. The ports are always there. The global form is checked for the other two,
the sections are not.
-/

namespace AmBot

/-- There is a server to connect to and a nick to register. -/
structure Connectable (n : NetworkConfig) : Prop where
  host : networkEndpointHost n ≠ []
  port : 1 ≤ networkEndpointPort n ∧ networkEndpointPort n ≤ 65535
  nick : n.nick ≠ []

/-- The profiles a list is made from. -/
def candidates (config : Config) : List NetworkConfig :=
  if config.networks ≠ [] then (config.networks.take networksMax).map copyNetwork
  else [copyNetwork (legacyNetwork config)]

/-- What is in the list can be connected, and any other profile is left out and
counted. -/
structure OnlyConnectable (config : Config) : Prop where
  accepted : (networksFromConfig config).1 = 0 → ∀ n ∈ (networksFromConfig config).2.items, Connectable n
  rejected : ∀ n ∈ candidates config, ¬ Connectable n → n ∉ (networksFromConfig config).2.items ∧
    ((networksFromConfig config).2.items.length + (networksFromConfig config).2.skipped) % 2 ^ 32 =
      ((candidates config).length + config.networksSkipped) % 2 ^ 32

/-- The settings name a server and a nick. -/
def NamesServer (value : Key → Val) : Prop :=
  (value .HOST ≠ .text [] ∨ value .UPSTREAM = .flag true ∧ value .AMBNC_HOST ≠ .text []) ∧ value .NICK ≠ .text []

/-- What a file without sections makes of a key. -/
def fileValue (seed : Config) (lines : List ConfigLine) (k : Key) : Val := (lastAssigned k lines).getD (seed.value k)

/-- What a section makes of a key: its last assignment, or what it inherits. -/
def sectionValue (seed : Config) (lines : List ConfigLine) (section_ : Bytes × List ConfigLine) (k : Key) : Val :=
  (lastAssigned k section_.2).getD (inherited k (preambleValue seed lines k))

/-! ## Ports -/

def Val.isPort : Val → Prop
  | .number n => 1 ≤ n ∧ n ≤ 65535
  | _ => True

theorem storedValue_isPort {k : Key} {value : Bytes} {v : Val} (h : storedValue k value = some v) : v.isPort := by
  have hport : (portOf value).map Val.number = some v → v.isPort := by
    intro h
    obtain ⟨n, hn, rfl⟩ := Option.map_eq_some_iff.1 h
    unfold portOf at hn
    obtain ⟨hrange, rfl⟩ := Option.ite_none_right_eq_some.1 hn |>.imp_right Option.some.inj
    exact ⟨by omega, by omega⟩
  cases k with
  | PORT | AMBNC_PORT | BOTAI_TIMEOUT => exact hport h
  | CHANNEL => cases h
  | _ =>
    obtain rfl := Option.some.inj h
    trivial

theorem lastAssigned_isPort {k : Key} {lines : List ConfigLine} {v : Val} (h : lastAssigned k lines = some v) :
    v.isPort := by
  obtain ⟨line, -, hline⟩ := List.mem_filterMap.1 (List.mem_of_getLast? h)
  cases line with
  | setting key value =>
    unfold assigned at hline
    exact storedValue_isPort (Option.ite_none_right_eq_some.1 hline).2
  | ignored => cases hline
  | network name => cases hline

theorem getD_isPort {k : Key} {lines : List ConfigLine} {v : Val} (h : v.isPort) :
    ((lastAssigned k lines).getD v).isPort := by
  cases hlast : lastAssigned k lines with
  | none => exact h
  | some v' => exact lastAssigned_isPort hlast

theorem inherited_isPort {k : Key} {v : Val} (h : v.isPort) : (inherited k v).isPort := by
  cases k <;> cases v <;> first | exact h | trivial

/-! ## One profile -/

theorem copyValue_eq_nil {size : Nat} (hsize : 1 < size) (t : Bytes) : copyValue size t = [] ↔ t = [] := by
  unfold copyValue
  rw [List.take_eq_nil_iff, or_iff_right (by omega)]

/-- A profile can be connected where its settings name a server and a nick. -/
theorem connectable_copyNetwork {network : ConfigNetwork} (hport : (network.toSettings.value .PORT).isPort)
    (hambnc : (network.toSettings.value .AMBNC_PORT).isPort) :
    Connectable (copyNetwork network) ↔ NamesServer network.toSettings.value := by
  have hnick : (copyNetwork network).nick ≠ [] ↔ network.nick ≠ [] := not_congr (copyValue_eq_nil (by decide) _)
  have hhost : (copyNetwork network).host = [] ↔ network.host = [] := copyValue_eq_nil (by decide) _
  have hupstream : (copyNetwork network).ambncHost = [] ↔ network.ambncHost = [] := copyValue_eq_nil (by decide) _
  have hendpoint : networkEndpointHost (copyNetwork network) ≠ [] ↔
      network.host ≠ [] ∨ network.useAmbnc = true ∧ network.ambncHost ≠ [] := by
    unfold networkEndpointHost
    cases hambnc : network.useAmbnc with
    | false =>
      have hdirect : (copyNetwork network).upstream = .direct := by simp [copyNetwork, hambnc]
      simp [hdirect, hhost]
    | true =>
      have hvia : (copyNetwork network).upstream = .ambnc := by simp [copyNetwork, hambnc]
      by_cases hnone : network.ambncHost = []
      · simp [hvia, hupstream, hhost, hnone]
      · simp [hvia, hupstream, hnone]
  have hnames : NamesServer network.toSettings.value ↔
      (network.host ≠ [] ∨ network.useAmbnc = true ∧ network.ambncHost ≠ []) ∧ network.nick ≠ [] := by
    simp [NamesServer, Settings.value]
  have hports : 1 ≤ networkEndpointPort (copyNetwork network) ∧ networkEndpointPort (copyNetwork network) ≤ 65535 := by
    unfold networkEndpointPort
    split
    · exact hambnc
    · exact hport
  rw [hnames, ← hendpoint, ← hnick]
  exact ⟨fun h => ⟨h.host, h.nick⟩, fun h => ⟨h.1, hports, h.2⟩⟩

/-! ## The list -/

/-- Every section is in the list or counted, by its security alone. -/
theorem onlyConnectable_sections {config : Config} (h : config.networks ≠ []) :
    OnlyConnectable config ↔ ∀ n ∈ candidates config, networkValidateSecurity n = 0 → Connectable n := by
  have hcandidates : candidates config = (config.networks.take networksMax).map copyNetwork := if_pos h
  have hitems : (networksFromConfig config).2.items = acceptedNetworks config := by
    unfold networksFromConfig
    rw [if_pos h]
  have hmem (n : NetworkConfig) :
      n ∈ (networksFromConfig config).2.items ↔ n ∈ candidates config ∧ networkValidateSecurity n = 0 := by
    rw [hitems, hcandidates, acceptedNetworks, List.mem_filter, decide_eq_true_iff]
  have hcounted : ((networksFromConfig config).2.items.length + (networksFromConfig config).2.skipped) % 2 ^ 32 =
      ((candidates config).length + config.networksSkipped) % 2 ^ 32 := by
    have hlength : (acceptedNetworks config).length ≤ (config.networks.take networksMax).length := by
      unfold acceptedNetworks
      exact (List.length_filter_le _ _).trans (List.length_map _).le
    unfold networksFromConfig
    rw [if_pos h, hcandidates, List.length_map]
    dsimp only
    omega
  constructor
  · intro honly n hn hvalid
    by_contra hconnectable
    exact (honly.rejected n hn hconnectable).1 ((hmem n).2 ⟨hn, hvalid⟩)
  · intro hall
    refine ⟨fun _ n hn => hall n ((hmem n).1 hn).1 ((hmem n).1 hn).2, fun n hn hconnectable => ⟨?_, hcounted⟩⟩
    intro hin
    exact hconnectable (hall n hn ((hmem n).1 hin).2)

/-- The one network of the global form is in the list, or nothing is counted. -/
theorem onlyConnectable_global {config : Config} (h : config.networks = []) (hskipped : config.networksSkipped = 0) :
    OnlyConnectable config ↔ Connectable (copyNetwork (legacyNetwork config)) := by
  have hcandidates : candidates config = [copyNetwork (legacyNetwork config)] := if_neg (not_not.2 h)
  constructor
  · intro honly
    by_contra hconnectable
    obtain ⟨hout, hcounted⟩ := honly.rejected _ (hcandidates ▸ List.mem_singleton_self _) hconnectable
    rw [hcandidates, hskipped] at hcounted
    unfold networksFromConfig at hout hcounted
    rw [if_neg (not_not.2 h)] at hout hcounted
    by_cases hglobal : config.host = [] ∨ config.nick = []
    · rw [if_pos hglobal] at hcounted
      cases hcounted
    · rw [if_neg hglobal] at hout
      exact hout (List.mem_singleton_self _)
  · intro hconnectable
    refine ⟨fun _ n hn => ?_, fun n hn hnot => ?_⟩
    · unfold networksFromConfig at hn
      rw [if_neg (not_not.2 h)] at hn
      by_cases hglobal : config.host = [] ∨ config.nick = []
      · rw [if_pos hglobal] at hn
        cases hn
      · rw [if_neg hglobal] at hn
        rw [List.mem_singleton.1 hn]
        exact hconnectable
    · rw [hcandidates] at hn
      rw [List.mem_singleton.1 hn] at hnot
      exact absurd hconnectable hnot

/-! ## The file -/

/-- The lines `ambot_config_load` reads. -/
def loadedLines (path : Bytes) (file : Option Bytes) : List ConfigLine :=
  if path = [] then [] else (file.map fileLines).getD []

theorem namesServer_congr {value value' : Key → Val} (h : ∀ k : Key, k.shared → value k = value' k) :
    NamesServer value ↔ NamesServer value' := by
  unfold NamesServer
  rw [h .HOST rfl, h .UPSTREAM rfl, h .AMBNC_HOST rfl, h .NICK rfl]

theorem configSeed_isPort (host : Bytes) {port : Nat} (hport : port ≤ 65535) (nick user pass owner : Bytes) (k : Key) :
    ((configSeed host port nick user pass owner).value k).isPort := by
  cases k with
  | PORT =>
    show 1 ≤ (if port ≠ 0 then port else 6667) ∧ (if port ≠ 0 then port else 6667) ≤ 65535
    split <;> omega
  | AMBNC_PORT => exact (by decide : 1 ≤ 6667 ∧ 6667 ≤ 65535)
  | BOTAI_TIMEOUT => exact (by decide : 1 ≤ 30 ∧ 30 ≤ 65535)
  | _ => trivial

section
variable {seed : Config} (hseed : ∀ k, (seed.value k).isPort) (path : Bytes) (file : Option Bytes)
include hseed

theorem record_connectable (lines : List ConfigLine) (section_ : Bytes × List ConfigLine) :
    Connectable (copyNetwork (record (preambleGlobals seed path lines) section_)) ↔
      NamesServer (sectionValue seed lines section_) := by
  have hvalue (k : Key) (hk : k.shared) :
      (record (preambleGlobals seed path lines) section_).toSettings.value k = sectionValue seed lines section_ k := by
    rw [record_value _ _ hk, preambleGlobals_value _ _ _ (Key.shared_ne_channel hk)]
    rfl
  have hport (k : Key) (hk : k.shared) :
      ((record (preambleGlobals seed path lines) section_).toSettings.value k).isPort := by
    rw [hvalue k hk]
    exact getD_isPort (inherited_isPort (getD_isPort (hseed k)))
  rw [connectable_copyNetwork (hport .PORT rfl) (hport .AMBNC_PORT rfl)]
  exact namesServer_congr hvalue

theorem legacy_connectable {config : Config} (lines : List ConfigLine)
    (hvalue : ∀ k : Key, k.shared → config.value k = fileValue seed lines k) :
    Connectable (copyNetwork (legacyNetwork config)) ↔ NamesServer (fileValue seed lines) := by
  have hcopy : copyNetwork (legacyNetwork config) = copyNetwork { toSettings := config.toSettings, name := ascii "default" } :=
    copyNetwork_congr rfl (clip_clip _)
  have hsettings (k : Key) (hk : k.shared) : config.toSettings.value k = fileValue seed lines k := by
    rw [← Config.value_shared config hk]
    exact hvalue k hk
  have hport (k : Key) (hk : k.shared) : (config.toSettings.value k).isPort := by
    rw [hsettings k hk]
    exact getD_isPort (hseed k)
  rw [hcopy, connectable_copyNetwork (hport .PORT rfl) (hport .AMBNC_PORT rfl)]
  exact namesServer_congr hsettings

end

theorem no_header_of_sections {lines : List ConfigLine} (h : sections lines = []) :
    ∀ line ∈ lines, line.isHeader = false := by
  have hcount : lines.countP (·.isHeader) = 0 := by rw [← sections_length, h]; rfl
  intro line hmem
  exact Bool.eq_false_iff.2 (List.countP_eq_zero.1 hcount line hmem)

/-- A load of a file with headers. -/
theorem configLoad_sections (seed : Config) {path : Bytes} {file : Option Bytes}
    (h : sections (loadedLines path file) ≠ []) :
    (configLoad seed path file).2.networks =
      (keptSections (loadedLines path file)).map (record (preambleGlobals seed path (loadedLines path file))) := by
  unfold loadedLines at h ⊢
  by_cases hpath : path = []
  · rw [if_pos hpath] at h
    exact absurd rfl h
  · rw [if_neg hpath] at h ⊢
    cases file with
    | none => exact absurd rfl h
    | some text => exact configLoad_networks seed hpath text

/-- A load of a file without headers, or of none. -/
theorem configLoad_globals (seed : Config) (hseed : seed.networks = [] ∧ seed.networksSkipped = 0) {path : Bytes}
    {file : Option Bytes} (h : sections (loadedLines path file) = []) :
    (configLoad seed path file).2.networks = [] ∧ (configLoad seed path file).2.networksSkipped = 0 ∧
      ∀ k : Key, k.shared → (configLoad seed path file).2.value k = fileValue seed (loadedLines path file) k := by
  unfold loadedLines at h ⊢
  by_cases hpath : path = []
  · have hload : (configLoad seed path file).2 = seed := by
      unfold configLoad
      rw [if_pos hpath]
    rw [hload, if_pos hpath]
    exact ⟨hseed.1, hseed.2, fun _ _ => rfl⟩
  · rw [if_neg hpath] at h ⊢
    cases file with
    | none =>
      have hload : (configLoad seed path none).2 = seed := by
        unfold configLoad
        rw [if_neg hpath]
      rw [hload]
      exact ⟨hseed.1, hseed.2, fun _ _ => rfl⟩
    | some text =>
      have hlines := no_header_of_sections h
      refine ⟨globalForm_networks seed hpath hlines, ?_, fun k hk => ?_⟩
      · rw [configLoad_networksSkipped seed hpath]
        dsimp only [Option.map_some, Option.getD_some] at h
        rw [h]
        rfl
      · exact globalForm_value seed hpath hlines (Key.shared_ne_channel hk)

/-- The list holds only networks that can be connected where the file and the
arguments name a server and a nick: for the one network of the global form, and
for every section that passes the check of its security. -/
theorem networksFromConfig_connectable_iff (host : Bytes) {port : Nat} (hport : port ≤ 65535)
    (nick user pass owner path : Bytes) (file : Option Bytes) :
    let seed := configSeed host port nick user pass owner
    let lines := loadedLines path file
    OnlyConnectable (configLoad seed path file).2 ↔
      if sections lines = [] then NamesServer (fileValue seed lines)
      else ∀ section_ ∈ keptSections lines,
        networkValidateSecurity (copyNetwork (record (preambleGlobals seed path lines) section_)) = 0 →
        NamesServer (sectionValue seed lines section_) := by
  intro seed lines
  have hseed (k : Key) : (seed.value k).isPort := configSeed_isPort host hport nick user pass owner k
  by_cases hsections : sections lines = []
  · obtain ⟨hnetworks, hskipped, hvalue⟩ := configLoad_globals seed ⟨rfl, rfl⟩ hsections
    rw [if_pos hsections, onlyConnectable_global hnetworks hskipped]
    exact legacy_connectable hseed lines hvalue
  · have hnetworks := configLoad_sections seed hsections
    have hkept : keptSections lines ≠ [] := by
      unfold keptSections networksMax
      exact mt List.take_eq_nil_iff.1 (not_or.2 ⟨by decide, hsections⟩)
    have hsome : (configLoad seed path file).2.networks ≠ [] := by
      rw [hnetworks]
      exact mt List.map_eq_nil_iff.1 hkept
    have hcount : (keptSections lines).length ≤ networksMax := List.length_take_le _ _
    have hcandidates : candidates (configLoad seed path file).2 =
        (keptSections lines).map fun section_ => copyNetwork (record (preambleGlobals seed path lines) section_) := by
      unfold candidates
      rw [if_pos hsome, hnetworks, List.take_of_length_le (by rw [List.length_map]; exact hcount), List.map_map]
      rfl
    rw [if_neg hsections, onlyConnectable_sections hsome, hcandidates, List.forall_mem_map]
    constructor
    · intro hall section_ hmem hvalid
      exact (record_connectable hseed path lines section_).1 (hall section_ hmem hvalid)
    · intro hall section_ hmem hvalid
      exact (record_connectable hseed path lines section_).2 (hall section_ hmem hvalid)

/-- A file whose sections name their servers, but for one with an invalid
profile. -/
theorem networksFromConfig_connectable_sections :
    let file := ascii "NICK = bot\n[NETWORK a]\nHOST = irc.a\n[NETWORK b]\nTLS = UPSTREAM\n" ++
      ascii "[NETWORK c]\nUPSTREAM = AMBNC\nAMBNC_HOST = bnc\n"
    let config := (configLoad (configSeed [] 6667 [] [] [] []) (ascii "bot.conf") (some file)).2
    (networksFromConfig config).2.items.map (·.name) = [ascii "a", ascii "c"] ∧ OnlyConnectable config := by
  intro file config
  refine ⟨by decide +kernel, (networksFromConfig_connectable_iff [] (by decide) [] [] [] [] (ascii "bot.conf") (some file)).2 ?_⟩
  unfold NamesServer
  decide +kernel

/-- What a file with a section and no HOST is loaded as. -/
def noHost : Config :=
  (configLoad (configSeed (ascii "irc") 6667 (ascii "bot") [] [] []) (ascii "bot.conf") (some (ascii "[NETWORK n]\n"))).2

/-- The section is accepted. -/
theorem networksFromConfig_no_host : ¬ OnlyConnectable noHost := by
  have haccepted : (networksFromConfig noHost).1 = 0 ∧
      ∃ n ∈ (networksFromConfig noHost).2.items, networkEndpointHost n = [] := by decide +kernel
  obtain ⟨hrc, n, hmem, hhost⟩ := haccepted
  intro h
  exact (h.accepted hrc n hmem).host hhost

end AmBot
