import AmBot.Sections
/-!
# Isolation of sections, and reloading

Every setting of a loaded configuration is the last valid assignment among the
lines that set it. Sections after the fourth set globals: they are isolated
from the globals, and a second load changes nothing, only where what they
assign makes no difference.
-/

namespace AmBot

/-! ## Settings by key -/

inductive Val where
  | text (t : Bytes)
  | number (n : Nat)
  | flag (b : Bool)
  deriving DecidableEq, Repr

/-- The keys with one value that sections share with the globals. -/
def Key.shared : Key → Bool
  | .BOTAI_URL | .BOTAI_EXPERT | .BOTAI_TIMEOUT | .CHANNEL => false
  | _ => true

def Settings.value (s : Settings) : Key → Val
  | .HOST => .text s.host
  | .PORT => .number s.port
  | .NICK => .text s.nick
  | .USER => .text s.user
  | .PASS => .text s.pass
  | .OWNER => .text s.owner
  | .HOOK_DIR => .text s.hookDir
  | .MODULE_DIR => .text s.moduleDir
  | .UPSTREAM => .flag s.useAmbnc
  | .AMBNC_HOST => .text s.ambncHost
  | .AMBNC_PORT => .number s.ambncPort
  | .CAP => .flag s.capEnabled
  | .SASL => .flag s.saslPlain
  | .SASL_USER => .text s.saslUser
  | .SASL_PASS => .text s.saslPass
  | .TLS => .flag s.tlsUpstream
  | .BOTAI_URL | .BOTAI_EXPERT | .BOTAI_TIMEOUT | .CHANNEL => .text []

def Config.value (config : Config) : Key → Val
  | .BOTAI_URL => .text config.botaiUrl
  | .BOTAI_EXPERT => .text config.botaiExpert
  | .BOTAI_TIMEOUT => .number config.botaiTimeoutSeconds
  | k => config.toSettings.value k

/-- What a valid value of `k` is stored as; a port out of range is not valid. -/
def storedValue (k : Key) (value : Bytes) : Option Val :=
  match k with
  | .HOST | .HOOK_DIR | .MODULE_DIR | .AMBNC_HOST => some (.text (copyValue 128 value))
  | .NICK | .USER | .OWNER | .SASL_USER | .BOTAI_EXPERT => some (.text (copyValue 32 value))
  | .PASS | .SASL_PASS => some (.text (copyValue 64 value))
  | .BOTAI_URL => some (.text (copyValue 256 value))
  | .PORT | .AMBNC_PORT | .BOTAI_TIMEOUT => (portOf value).map .number
  | .UPSTREAM => some (.flag (equalIgnoreCase value (ascii "AMBNC")))
  | .CAP => some (.flag (enabled value))
  | .SASL => some (.flag (equalIgnoreCase value (ascii "PLAIN")))
  | .TLS => some (.flag (equalIgnoreCase value (ascii "UPSTREAM")))
  | .CHANNEL => none

/-- The value a line validly assigns to `k`. -/
def assigned (k : Key) : ConfigLine → Option Val
  | .setting key value => if keyOf key = some k then storedValue k value else none
  | _ => none

/-- The last valid assignment to `k`. -/
def lastAssigned (k : Key) (lines : List ConfigLine) : Option Val := (lines.filterMap (assigned k)).getLast?

def channelOf : ConfigLine → Option Bytes
  | .setting key value => if keyOf key = some .CHANNEL then some (copyValue 64 value) else none
  | _ => none

/-- The values of the CHANNEL lines, in order. -/
def channelsOf (lines : List ConfigLine) : List Bytes := lines.filterMap channelOf

/-- Two settings with the same values and channels are the same. -/
theorem Settings.ext_value {s s' : Settings} (h : ∀ k, k.shared → s.value k = s'.value k)
    (hchannels : s.channels = s'.channels) : s = s' := by
  have text {k : Key} {a b : Bytes} (hk : k.shared) (ha : s.value k = .text a) (hb : s'.value k = .text b) : a = b := by
    simpa [ha, hb] using h k hk
  have number {k : Key} {a b : Nat} (hk : k.shared) (ha : s.value k = .number a) (hb : s'.value k = .number b) :
      a = b := by
    simpa [ha, hb] using h k hk
  have flag {k : Key} {a b : Bool} (hk : k.shared) (ha : s.value k = .flag a) (hb : s'.value k = .flag b) : a = b := by
    simpa [ha, hb] using h k hk
  cases s
  cases s'
  simp only [Settings.mk.injEq]
  exact ⟨text (k := .HOST) rfl rfl rfl, number (k := .PORT) rfl rfl rfl, text (k := .NICK) rfl rfl rfl,
    text (k := .USER) rfl rfl rfl, text (k := .PASS) rfl rfl rfl, text (k := .OWNER) rfl rfl rfl,
    text (k := .HOOK_DIR) rfl rfl rfl, text (k := .MODULE_DIR) rfl rfl rfl, hchannels,
    flag (k := .UPSTREAM) rfl rfl rfl, text (k := .AMBNC_HOST) rfl rfl rfl, number (k := .AMBNC_PORT) rfl rfl rfl,
    flag (k := .CAP) rfl rfl rfl, flag (k := .SASL) rfl rfl rfl, text (k := .SASL_USER) rfl rfl rfl,
    text (k := .SASL_PASS) rfl rfl rfl, flag (k := .TLS) rfl rfl rfl⟩

/-! ## One assignment -/

theorem assign_value_same (s : Settings) {k : Key} (hk : k.shared) (value : Bytes) :
    (s.assign k value).value k = (storedValue k value).getD (s.value k) := by
  have port (o : Option Nat) (n : Nat) : Val.number (o.getD n) = (o.map .number).getD (.number n) := by cases o <;> rfl
  cases k with
  | PORT => exact port _ _
  | AMBNC_PORT => exact port _ _
  | BOTAI_URL | BOTAI_EXPERT | BOTAI_TIMEOUT | CHANNEL => cases hk
  | _ => rfl

theorem assign_value_other (s : Settings) {k k' : Key} (h : k' ≠ k) (value : Bytes) :
    (s.assign k' value).value k = s.value k := by
  cases k' with
  | CHANNEL =>
    simp only [Settings.assign]
    split
    · cases k <;> rfl
    · rfl
  | _ => cases k <;> first | rfl | exact absurd rfl h

theorem assign_channels (s : Settings) (k : Key) (value : Bytes) (hs : s.channels.length ≤ channelsMax) :
    (s.assign k value).channels =
      (s.channels ++ (if k = .CHANNEL then [copyValue 64 value] else [])).take channelsMax := by
  cases k with
  | CHANNEL =>
    simp only [Settings.assign, if_true]
    split
    · rw [List.take_of_length_le (by simp; omega)]
    · rw [List.take_append_of_le_length (by omega), List.take_of_length_le hs]
  | _ => simp [Settings.assign, List.take_of_length_le hs]

theorem applyNetworkLine_value (network : ConfigNetwork) {k : Key} (hk : k.shared) (line : ConfigLine) :
    (applyNetworkLine network line).toSettings.value k = (assigned k line).getD (network.toSettings.value k) := by
  cases line with
  | setting key value =>
    simp only [applyNetworkLine, applyNetworkKey, assigned]
    cases hkey : keyOf key with
    | none => rfl
    | some k' =>
      by_cases h : k' = k
      · subst h
        simpa using assign_value_same network.toSettings hk value
      · simpa [h] using assign_value_other network.toSettings h value
  | _ => rfl

theorem Config.value_shared (config : Config) {k : Key} (hk : k.shared) : config.value k = config.toSettings.value k := by
  cases k <;> first | rfl | cases hk

theorem assign_global_value (config : Config) {k k' : Key} (hk : k ≠ .CHANNEL) (hk' : k'.shared ∨ k' = .CHANNEL)
    (value : Bytes) :
    ({ config with toSettings := config.toSettings.assign k' value } : Config).value k =
      (if k' = k then storedValue k value else none).getD (config.value k) := by
  by_cases hs : k.shared
  · rw [Config.value_shared _ hs, Config.value_shared _ hs]
    by_cases h : k' = k
    · subst h
      simpa using assign_value_same config.toSettings hs value
    · simpa [h] using assign_value_other config.toSettings h value
  · -- a BOTAI key, which no shared key sets
    have hne : k' ≠ k := by
      rintro rfl
      rcases hk' with h | h
      · exact hs h
      · exact hk h
    rw [if_neg hne]
    cases k <;> first | exact absurd rfl hs | exact absurd rfl hk | rfl

theorem applyGlobalLine_value (config : Config) {k : Key} (hk : k ≠ .CHANNEL) (line : ConfigLine) :
    (applyGlobalLine config line).value k = (assigned k line).getD (config.value k) := by
  cases line with
  | setting key value =>
    simp only [applyGlobalLine, applyGlobalKey, assigned]
    cases hkey : keyOf key with
    | none => rfl
    | some k' =>
      cases k' with
      | BOTAI_URL => cases k <;> rfl
      | BOTAI_EXPERT => cases k <;> rfl
      | BOTAI_TIMEOUT =>
        cases k with
        | BOTAI_TIMEOUT => cases hp : portOf value <;> simp [Config.value, parsePort, storedValue, hp]
        | CHANNEL => exact absurd rfl hk
        | _ => rfl
      | CHANNEL => simpa using assign_global_value config hk (.inr rfl) value
      | _ => simpa using assign_global_value config hk (.inl rfl) value
  | _ => rfl

theorem applyGlobalLine_channels (config : Config) (hc : config.channels.length ≤ channelsMax) (line : ConfigLine) :
    (applyGlobalLine config line).channels = (config.channels ++ (channelOf line).toList).take channelsMax := by
  have hsame : config.channels = (config.channels ++ []).take channelsMax := by simp [List.take_of_length_le hc]
  cases line with
  | setting key value =>
    simp only [applyGlobalLine, applyGlobalKey, channelOf]
    cases hkey : keyOf key with
    | none => exact hsame
    | some k' =>
      cases k' with
      | BOTAI_URL | BOTAI_EXPERT | BOTAI_TIMEOUT => exact hsame
      | _ => exact assign_channels config.toSettings _ value hc
  | _ => exact hsame

theorem applyNetworkLine_channels (network : ConfigNetwork) (hc : network.channels.length ≤ channelsMax)
    (line : ConfigLine) :
    (applyNetworkLine network line).channels = (network.channels ++ (channelOf line).toList).take channelsMax := by
  have hsame : network.channels = (network.channels ++ []).take channelsMax := by simp [List.take_of_length_le hc]
  cases line with
  | setting key value =>
    simp only [applyNetworkLine, applyNetworkKey, channelOf]
    cases hkey : keyOf key with
    | none => exact hsame
    | some k' =>
      have h := assign_channels network.toSettings k' value hc
      by_cases hk' : k' = .CHANNEL <;> simpa [hk'] using h
  | _ => exact hsame

/-! ## A run of lines -/

/-- Lines that each assign leave the last valid assignment. -/
theorem foldl_value {β : Type} {apply : β → ConfigLine → β} (value : β → Val) {k : Key}
    (h : ∀ b line, value (apply b line) = (assigned k line).getD (value b)) (lines : List ConfigLine) (b : β) :
    value (lines.foldl apply b) = (lastAssigned k lines).getD (value b) := by
  induction lines generalizing b with
  | nil => rfl
  | cons line lines ih =>
    rw [List.foldl_cons, ih, h, lastAssigned, lastAssigned, List.filterMap_cons]
    cases assigned k line with
    | none => rfl
    | some v => simp [List.getLast?_cons]

theorem take_take_append {α : Type} (n : Nat) (a b : List α) : (a.take n ++ b).take n = (a ++ b).take n := by
  rw [List.take_append, List.take_append, List.take_take, Nat.min_self, List.length_take]
  congr 2
  omega

/-- Lines that each add a channel leave the first sixteen. -/
theorem foldl_channels {β : Type} {apply : β → ConfigLine → β} (channels : β → List Bytes)
    (h : ∀ b line, (channels b).length ≤ channelsMax →
      channels (apply b line) = (channels b ++ (channelOf line).toList).take channelsMax)
    (lines : List ConfigLine) (b : β) (hb : (channels b).length ≤ channelsMax) :
    channels (lines.foldl apply b) = (channels b ++ channelsOf lines).take channelsMax := by
  induction lines generalizing b with
  | nil => simp [channelsOf, List.take_of_length_le hb]
  | cons line lines ih =>
    have hcons : channelsOf (line :: lines) = (channelOf line).toList ++ channelsOf lines := by
      cases hl : channelOf line <;> simp [channelsOf, hl]
    rw [List.foldl_cons, ih _ (by rw [h _ _ hb]; exact List.length_take_le _ _), h _ _ hb, take_take_append, hcons,
      List.append_assoc]

theorem foldl_global_value (lines : List ConfigLine) (config : Config) {k : Key} (hk : k ≠ .CHANNEL) :
    (lines.foldl applyGlobalLine config).value k = (lastAssigned k lines).getD (config.value k) :=
  foldl_value (fun config : Config => config.value k) (fun config => applyGlobalLine_value config hk) lines config

theorem foldl_global_channels (lines : List ConfigLine) (config : Config) (hc : config.channels.length ≤ channelsMax) :
    (lines.foldl applyGlobalLine config).channels = (config.channels ++ channelsOf lines).take channelsMax :=
  foldl_channels (fun config : Config => config.channels)
    (fun config line hc => applyGlobalLine_channels config hc line) lines config hc

/-! ## A loaded configuration -/

/-- What a section inherits of the global value `v` of `k`. -/
def inherited (k : Key) (v : Val) : Val :=
  match k, v with
  | .HOST, _ => .text []
  | .NICK, .text t | .USER, .text t | .OWNER, .text t | .SASL_USER, .text t => .text (copyValue 32 t)
  | .PASS, .text t | .SASL_PASS, .text t => .text (copyValue 64 t)
  | .HOOK_DIR, .text t | .MODULE_DIR, .text t | .AMBNC_HOST, .text t => .text (copyValue 128 t)
  | _, v => v

/-- The global value of `k` by the preamble alone. -/
def preambleValue (seed : Config) (lines : List ConfigLine) (k : Key) : Val :=
  (lastAssigned k (preamble lines)).getD (seed.value k)

theorem preambleGlobals_value (seed : Config) (path : Bytes) (lines : List ConfigLine) {k : Key} (hk : k ≠ .CHANNEL) :
    (preambleGlobals seed path lines).value k = preambleValue seed lines k := by
  have hstart : (loadStart seed path).config.value k = seed.value k := by cases k <;> rfl
  rw [preambleGlobals, foldl_global_value _ _ hk, hstart, preambleValue]

theorem preambleGlobals_channels (seed : Config) (path : Bytes) (lines : List ConfigLine) :
    (preambleGlobals seed path lines).channels = (channelsOf (preamble lines)).take channelsMax := by
  rw [preambleGlobals, foldl_global_channels _ _ (Nat.zero_le _)]
  rfl

section Loaded
variable (seed : Config) {path : Bytes} (hpath : path ≠ []) (text : Bytes)
include hpath

theorem configLoad_value {k : Key} (hk : k ≠ .CHANNEL) :
    (configLoad seed path (some text)).2.value k =
      (lastAssigned k (skippedLines (fileLines text))).getD (preambleValue seed (fileLines text) k) := by
  rw [configLoad_eq seed hpath, ← preambleGlobals_value seed path _ hk, ← foldl_global_value _ _ hk]
  cases k <;> rfl

theorem configLoad_channels :
    (configLoad seed path (some text)).2.channels =
      (channelsOf (preamble (fileLines text)) ++ channelsOf (skippedLines (fileLines text))).take channelsMax := by
  rw [configLoad_eq seed hpath]
  have h := foldl_global_channels (skippedLines (fileLines text)) (preambleGlobals seed path (fileLines text))
    (by rw [preambleGlobals_channels]; exact List.length_take_le _ _)
  rw [preambleGlobals_channels, take_take_append] at h
  exact h

theorem configLoad_networks :
    (configLoad seed path (some text)).2.networks =
      (keptSections (fileLines text)).map (record (preambleGlobals seed path (fileLines text))) := by
  rw [configLoad_eq seed hpath]

theorem configLoad_networksSkipped :
    (configLoad seed path (some text)).2.networksSkipped =
      ((sections (fileLines text)).length - networksMax) % 2 ^ 32 := by
  rw [configLoad_eq seed hpath]

end Loaded

/-! ## Records -/

theorem record_value (config : Config) (section_ : Bytes × List ConfigLine) {k : Key} (hk : k.shared) :
    (record config section_).toSettings.value k =
      (lastAssigned k section_.2).getD (inherited k (config.value k)) := by
  rw [record, foldl_value (fun network : ConfigNetwork => network.toSettings.value k)
    (fun network => applyNetworkLine_value network hk)]
  congr 1
  cases k <;> first | rfl | cases hk

theorem record_channels (config : Config) (section_ : Bytes × List ConfigLine) :
    (record config section_).channels = (channelsOf section_.2).take channelsMax := by
  have h := foldl_channels (fun network : ConfigNetwork => network.channels)
    (fun network line hc => applyNetworkLine_channels network hc line)
    section_.2 { networkDefaults config with name := copyValue 32 section_.1 } (Nat.zero_le _)
  simpa [record, networkDefaults] using h

theorem record_name (config : Config) (section_ : Bytes × List ConfigLine) :
    (record config section_).name = copyValue 32 section_.1 := by
  have hname : ∀ (lines : List ConfigLine) (network : ConfigNetwork),
      (lines.foldl applyNetworkLine network).name = network.name := by
    intro lines
    induction lines with
    | nil => exact fun _ => rfl
    | cons line lines ih =>
      intro network
      rw [List.foldl_cons, ih]
      cases line with
      | setting key value =>
        simp only [applyNetworkLine, applyNetworkKey]
        split <;> rfl
      | _ => rfl
  exact hname _ _

/-! ## Isolation -/

/-- What a configuration is when sections are isolated: globals by the seed and
the preamble alone, and each record by those globals and its own lines. -/
structure Isolated (seed : Config) (lines : List ConfigLine) (config : Config) : Prop where
  globals : ∀ k ≠ .CHANNEL, config.value k = preambleValue seed lines k
  channels : config.channels = (channelsOf (preamble lines)).take channelsMax
  count : config.networks.length = (keptSections lines).length
  records : ∀ (i : Nat) (section_ : Bytes × List ConfigLine) (network : ConfigNetwork),
    (keptSections lines)[i]? = some section_ → config.networks[i]? = some network →
    network.name = copyValue 32 section_.1 ∧
    network.channels = (channelsOf section_.2).take channelsMax ∧
    ∀ k, k.shared → network.toSettings.value k =
      (lastAssigned k section_.2).getD (inherited k (preambleValue seed lines k))

/-- The sections after the fourth assign the globals nothing new. -/
def SkippedAgree (seed : Config) (lines : List ConfigLine) : Prop :=
  (∀ k ≠ .CHANNEL, ∀ v, lastAssigned k (skippedLines lines) = some v → v = preambleValue seed lines k) ∧
  (channelsOf (skippedLines lines) = [] ∨ channelsMax ≤ (channelsOf (preamble lines)).length)

theorem Key.shared_ne_channel {k : Key} (hk : k.shared) : k ≠ .CHANNEL := by
  rintro rfl
  cases hk

theorem take_append_eq_take {α : Type} {n : Nat} {a b : List α} :
    (a ++ b).take n = a.take n ↔ b = [] ∨ n ≤ a.length := by
  rw [List.take_append]
  constructor
  · intro h
    rw [List.append_right_eq_self, List.take_eq_nil_iff] at h
    rcases h with h | h
    · exact .inr (by omega)
    · exact .inl h
  · rintro (rfl | h)
    · simp
    · simp [Nat.sub_eq_zero_of_le h]

/-- A loaded configuration has its sections isolated exactly where the lines of
the skipped sections make no difference to the globals. -/
theorem configLoad_isolated_iff (seed : Config) {path : Bytes} (hpath : path ≠ []) (text : Bytes) :
    Isolated seed (fileLines text) (configLoad seed path (some text)).2 ↔ SkippedAgree seed (fileLines text) := by
  constructor
  · intro h
    refine ⟨fun k hk v hv => ?_, ?_⟩
    · have := h.globals k hk
      rwa [configLoad_value seed hpath text hk, hv] at this
    · have := h.channels
      rwa [configLoad_channels seed hpath, take_append_eq_take] at this
  · rintro ⟨hvalues, hchannels⟩
    refine ⟨fun k hk => ?_, ?_, ?_, fun i section_ network hs hn => ?_⟩
    · rw [configLoad_value seed hpath text hk]
      cases hv : lastAssigned k (skippedLines (fileLines text)) with
      | none => rfl
      | some v => exact hvalues k hk v hv
    · rw [configLoad_channels seed hpath, take_append_eq_take.2 hchannels]
    · rw [configLoad_networks seed hpath, List.length_map]
    · rw [configLoad_networks seed hpath, List.getElem?_map, hs] at hn
      obtain rfl : record _ section_ = network := by simpa using hn
      refine ⟨record_name _ _, record_channels _ _, fun k hk => ?_⟩
      rw [record_value _ _ hk, preambleGlobals_value _ _ _ (Key.shared_ne_channel hk)]

/-- A file with one section, which inherits the preamble's nick. -/
theorem configLoad_isolated_one_section :
    Isolated (configSeed [] 0 [] [] [] []) (fileLines (ascii "NICK = bot\n[NETWORK a]\nHOST = h\n"))
      (configLoad (configSeed [] 0 [] [] [] []) (ascii "c") (some (ascii "NICK = bot\n[NETWORK a]\nHOST = h\n"))).2 := by
  refine (configLoad_isolated_iff _ (by decide) _).2 ?_
  have hskipped : skippedLines (fileLines (ascii "NICK = bot\n[NETWORK a]\nHOST = h\n")) = [] := by decide +kernel
  exact ⟨fun k _ v hv => by simp [hskipped, lastAssigned] at hv, .inl (by rw [hskipped]; rfl)⟩

/-- Five sections, the last of which sets a nick. -/
def fiveSections : Bytes :=
  ascii "[NETWORK a]\n[NETWORK b]\n[NETWORK c]\n[NETWORK d]\n[NETWORK e]\nNICK = x\n"

/-- The nick of the fifth section becomes the global one. -/
theorem configLoad_not_isolated :
    ¬ Isolated (configSeed [] 0 (ascii "bot") [] [] []) (fileLines fiveSections)
      (configLoad (configSeed [] 0 (ascii "bot") [] [] []) (ascii "c") (some fiveSections)).2 := by
  intro h
  have hnick := h.globals .NICK (by decide)
  revert hnick
  decide +kernel

/-! ## Reloading -/

theorem Config.ext_value {config config' : Config} (hvalues : ∀ k ≠ .CHANNEL, config.value k = config'.value k)
    (hchannels : config.channels = config'.channels) (hpath : config.path = config'.path)
    (hnetworks : config.networks = config'.networks) (hskipped : config.networksSkipped = config'.networksSkipped) :
    config = config' := by
  have hsettings : config.toSettings = config'.toSettings := by
    refine Settings.ext_value (fun k hk => ?_) hchannels
    rw [← Config.value_shared _ hk, ← Config.value_shared _ hk, hvalues k (Key.shared_ne_channel hk)]
  have hurl := hvalues .BOTAI_URL (by decide)
  have hexpert := hvalues .BOTAI_EXPERT (by decide)
  have htimeout := hvalues .BOTAI_TIMEOUT (by decide)
  cases config
  cases config'
  simp only [Config.value, Val.text.injEq, Val.number.injEq] at hurl hexpert htimeout
  simp only [Config.mk.injEq]
  exact ⟨hsettings, hpath, hurl, hexpert, htimeout, hnetworks, hskipped⟩

theorem ConfigNetwork.ext_value {network network' : ConfigNetwork} (hname : network.name = network'.name)
    (hvalues : ∀ k, k.shared → network.toSettings.value k = network'.toSettings.value k)
    (hchannels : network.channels = network'.channels) : network = network' := by
  have hsettings : network.toSettings = network'.toSettings := Settings.ext_value hvalues hchannels
  cases network
  cases network'
  simp only [ConfigNetwork.mk.injEq]
  exact ⟨hsettings, hname⟩

/-- Whatever a kept section inherits from the seed, no skipped section changes. -/
def RecordsSettled (seed : Config) (lines : List ConfigLine) : Prop :=
  ∀ section_ ∈ keptSections lines, ∀ k, k.shared → lastAssigned k section_.2 = none →
    lastAssigned k (preamble lines) = none → ∀ v, lastAssigned k (skippedLines lines) = some v →
      inherited k v = inherited k (seed.value k)

theorem record_eq_iff (config config' : Config) (section_ : Bytes × List ConfigLine) :
    record config section_ = record config' section_ ↔
      ∀ k, k.shared → (record config section_).toSettings.value k = (record config' section_).toSettings.value k := by
  constructor
  · intro h k _
    rw [h]
  · intro h
    exact ConfigNetwork.ext_value (by rw [record_name, record_name]) h (by rw [record_channels, record_channels])

section Twice
variable (seed : Config) {path : Bytes} (hpath : path ≠ []) (text : Bytes)
include hpath

/-- The preamble of the second load starts from what the first load left. -/
theorem preambleValue_twice {k : Key} (hk : k ≠ .CHANNEL) :
    preambleValue (configLoad seed path (some text)).2 (fileLines text) k =
      (lastAssigned k (preamble (fileLines text))).getD
        ((lastAssigned k (skippedLines (fileLines text))).getD (seed.value k)) := by
  rw [preambleValue, configLoad_value seed hpath text hk, preambleValue]
  cases lastAssigned k (preamble (fileLines text)) <;> rfl

/-- The globals are settled after the first load. -/
theorem configLoad_twice_globals :
    (configLoad (configLoad seed path (some text)).2 path (some text)).2 = (configLoad seed path (some text)).2 ↔
      (configLoad (configLoad seed path (some text)).2 path (some text)).2.networks =
        (configLoad seed path (some text)).2.networks := by
  refine ⟨fun h => by rw [h], fun hnetworks => Config.ext_value (fun k hk => ?_) ?_ ?_ hnetworks ?_⟩
  · rw [configLoad_value _ hpath text hk, preambleValue_twice seed hpath text hk, configLoad_value seed hpath text hk,
      preambleValue]
    cases lastAssigned k (skippedLines (fileLines text)) <;>
      cases lastAssigned k (preamble (fileLines text)) <;> rfl
  · rw [configLoad_channels _ hpath, configLoad_channels _ hpath]
  · rw [configLoad_path _ hpath, configLoad_path _ hpath]
  · rw [configLoad_networksSkipped _ hpath, configLoad_networksSkipped _ hpath]

end Twice

/-- A second load of the same file changes nothing exactly where no record
inherits a setting from the seed that a skipped section has set since. -/
theorem configLoad_twice_iff (seed : Config) {path : Bytes} (hpath : path ≠ []) (text : Bytes) :
    (configLoad (configLoad seed path (some text)).2 path (some text)).2 = (configLoad seed path (some text)).2 ↔
      RecordsSettled seed (fileLines text) := by
  rw [configLoad_twice_globals seed hpath, configLoad_networks _ hpath, configLoad_networks _ hpath, List.map_inj_left]
  refine forall₂_congr fun section_ _ => ?_
  rw [record_eq_iff]
  refine forall₂_congr fun k hk => ?_
  have hch := Key.shared_ne_channel hk
  rw [record_value _ _ hk, record_value _ _ hk, preambleGlobals_value _ _ _ hch, preambleGlobals_value _ _ _ hch,
    preambleValue_twice seed hpath text hch, preambleValue]
  -- only where neither the section nor the preamble assigns does the first value show
  cases lastAssigned k section_.2 <;> cases lastAssigned k (preamble (fileLines text)) <;>
    cases lastAssigned k (skippedLines (fileLines text)) <;> simp

/-- A file with one section loads twice as it loads once. -/
theorem configLoad_twice_one_section :
    (configLoad (configLoad (configSeed [] 0 [] [] [] []) (ascii "c")
      (some (ascii "NICK = bot\n[NETWORK a]\nHOST = h\n"))).2 (ascii "c")
      (some (ascii "NICK = bot\n[NETWORK a]\nHOST = h\n"))).2 =
    (configLoad (configSeed [] 0 [] [] [] []) (ascii "c") (some (ascii "NICK = bot\n[NETWORK a]\nHOST = h\n"))).2 := by
  refine (configLoad_twice_iff _ (by decide) _).2 fun _ _ k _ _ _ v hv => ?_
  have hskipped : skippedLines (fileLines (ascii "NICK = bot\n[NETWORK a]\nHOST = h\n")) = [] := by decide +kernel
  simp [hskipped, lastAssigned] at hv

/-- The second load hands the nick of the fifth section to the first. -/
theorem configLoad_twice_differs :
    (configLoad (configLoad (configSeed [] 0 (ascii "bot") [] [] []) (ascii "c") (some fiveSections)).2 (ascii "c")
      (some fiveSections)).2 ≠
    (configLoad (configSeed [] 0 (ascii "bot") [] [] []) (ascii "c") (some fiveSections)).2 := by
  decide +kernel

end AmBot
