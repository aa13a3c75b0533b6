import AmBot.Isolation
import AmBot.Networks
/-!
# The two forms of a configuration

A file without sections and the same file under one header make the same
network: a setting that no line assigns comes from the seed on both ways, and
every copy on the way cuts a text where the field of the profile does.
-/

namespace AmBot

/-! ## One more line in front -/

theorem fgets_line {n : Nat} {line : Bytes} (hlf : LF ∉ line) (hn : line.length < n) (file : Bytes) :
    fgets n (line ++ LF :: file) = (line ++ [LF], file) := by
  induction line generalizing n with
  | nil =>
    obtain ⟨n, rfl⟩ : ∃ m, n = m + 1 := ⟨n - 1, by omega⟩
    simp [fgets]
  | cons c line ih =>
    obtain ⟨n, rfl⟩ : ∃ m, n = m + 1 := ⟨n - 1, by omega⟩
    simp only [List.mem_cons, not_or] at hlf
    have hrest := ih hlf.2 (n := n) (by simpa using hn)
    simp [fgets, Ne.symm hlf.1, hrest]

/-- The rounds beyond the length of the file make no difference. -/
theorem fgetsLines_rounds {n k k' : Nat} (hn : 0 < n) {file : Bytes} (hk : file.length ≤ k) (hk' : file.length ≤ k') :
    fgetsLines n k file = fgetsLines n k' file := by
  induction k generalizing file k' with
  | zero =>
    obtain rfl := List.length_eq_zero_iff.1 (Nat.le_zero.1 hk)
    cases k' <;> rfl
  | succ k ih =>
    cases file with
    | nil => cases k' <;> rfl
    | cons c file =>
      obtain ⟨k', rfl⟩ : ∃ m, k' = m + 1 := ⟨k' - 1, by simp at hk'; omega⟩
      have happend := congrArg List.length (fgets_append n (c :: file))
      have hline := List.length_pos_iff.2 (fgets_ne_nil hn c file)
      rw [List.length_append] at happend
      exact congrArg _ (ih (by omega) (by omega))

/-- A line that fits the buffer is read as it is, and then the rest. -/
theorem configLines_cons {line : Bytes} (hlf : LF ∉ line) (hfits : line.length + 1 < configLineSize) (file : Bytes) :
    configLines (line ++ LF :: file) = cstr (line ++ [LF]) :: configLines file := by
  have hlength : (line ++ LF :: file).length = (line.length + file.length) + 1 := by simp; omega
  unfold configLines
  rw [hlength]
  cases hfile : line ++ LF :: file with
  | nil => simp at hfile
  | cons c rest =>
    simp only [fgetsLines]
    rw [← hfile, fgets_line hlf (by simp only [configLineSize] at hfits ⊢; omega)]
    simp only [List.map_cons]
    rw [fgetsLines_rounds (by decide) (Nat.le_add_left _ _) le_rfl]

def defaultHeader : Bytes := ascii "[NETWORK default]\n"

theorem fileLines_defaultHeader (file : Bytes) :
    fileLines (defaultHeader ++ file) = .network (ascii "default") :: fileLines file := by
  have hheader : defaultHeader = ascii "[NETWORK default]" ++ [LF] := by decide
  have hsplit : defaultHeader ++ file = ascii "[NETWORK default]" ++ LF :: file := by
    rw [hheader, List.append_assoc, List.singleton_append]
  have hline : parseLine (cstr (ascii "[NETWORK default]" ++ [LF])) = .network (ascii "default") := by decide +kernel
  unfold fileLines
  rw [hsplit, configLines_cons (by decide) (by decide), List.map_cons, hline]

/-! ## A file without headers -/

theorem preamble_of_no_header {lines : List ConfigLine} (h : ∀ line ∈ lines, line.isHeader = false) :
    preamble lines = lines := by
  refine List.takeWhile_eq_self_iff.2 fun line hline => ?_
  rw [h line hline]
  rfl

theorem sections_of_no_header {lines : List ConfigLine} (h : ∀ line ∈ lines, line.isHeader = false) :
    sections lines = [] := by
  induction lines with
  | nil => rfl
  | cons line lines ih =>
    have htail := ih fun l hl => h l (List.mem_cons_of_mem _ hl)
    cases line with
    | network name => simp [ConfigLine.isHeader] at h
    | ignored => exact htail
    | setting key value => exact htail

section
variable (seed : Config) {path : Bytes} (hpath : path ≠ []) {text : Bytes}
  (hheaders : ∀ line ∈ fileLines text, line.isHeader = false)
include hpath hheaders

theorem globalForm_networks : (configLoad seed path (some text)).2.networks = [] := by
  rw [configLoad_networks seed hpath, keptSections, sections_of_no_header hheaders]
  rfl

/-- In the global form a setting is the last one assigned, or that of the seed. -/
theorem globalForm_value {k : Key} (hk : k ≠ .CHANNEL) :
    (configLoad seed path (some text)).2.value k = (lastAssigned k (fileLines text)).getD (seed.value k) := by
  rw [configLoad_value seed hpath text hk, preambleValue, preamble_of_no_header hheaders, skippedLines,
    sections_of_no_header hheaders]
  rfl

theorem globalForm_channels :
    (configLoad seed path (some text)).2.channels = (channelsOf (fileLines text)).take channelsMax := by
  rw [configLoad_channels seed hpath, preamble_of_no_header hheaders, skippedLines, sections_of_no_header hheaders]
  simp [channelsOf]

/-- Under a header all lines make one record, which inherits from the seed. -/
theorem sectionForm_networks :
    (configLoad seed path (some (defaultHeader ++ text))).2.networks =
      [record (loadStart seed path).config (ascii "default", fileLines text)] := by
  have hsections : sections (fileLines (defaultHeader ++ text)) = [(ascii "default", fileLines text)] := by
    rw [fileLines_defaultHeader, sections, sections_of_no_header hheaders, preamble_of_no_header hheaders]
  have hpreamble : preambleGlobals seed path (fileLines (defaultHeader ++ text)) = (loadStart seed path).config := by
    rw [fileLines_defaultHeader]
    rfl
  rw [configLoad_networks seed hpath, keptSections, hsections, hpreamble]
  rfl

end

/-! ## What is copied -/

/-- A value as the profile of a network holds it. -/
def clipped (k : Key) (v : Val) : Val :=
  match k, v with
  | .NICK, .text t | .USER, .text t | .OWNER, .text t | .SASL_USER, .text t => .text (copyValue 32 t)
  | .PASS, .text t | .SASL_PASS, .text t => .text (copyValue 64 t)
  | .HOST, .text t | .HOOK_DIR, .text t | .MODULE_DIR, .text t | .AMBNC_HOST, .text t => .text (copyValue 128 t)
  | _, v => v

def Settings.clip (s : Settings) : Settings :=
  { s with
    host := copyValue 128 s.host
    nick := copyValue 32 s.nick
    user := copyValue 32 s.user
    pass := copyValue 64 s.pass
    owner := copyValue 32 s.owner
    hookDir := copyValue 128 s.hookDir
    moduleDir := copyValue 128 s.moduleDir
    channels := s.channels.map (copyValue 64)
    ambncHost := copyValue 128 s.ambncHost
    saslUser := copyValue 32 s.saslUser
    saslPass := copyValue 64 s.saslPass }

theorem clip_value (s : Settings) (k : Key) : s.clip.value k = clipped k (s.value k) := by
  cases k <;> rfl

/-- Cutting what is cut already changes nothing, nor does inheriting. -/
theorem clipped_inherited (s : Settings) {k : Key} (hk : k.shared) (hhost : k ≠ .HOST) :
    clipped k (inherited k (s.value k)) = clipped k (s.value k) := by
  cases k with
  | HOST => exact absurd rfl hhost
  | BOTAI_URL | BOTAI_EXPERT | BOTAI_TIMEOUT | CHANNEL => cases hk
  | _ => simp [clipped, inherited, Settings.value, copyValue_copyValue]

/-- A profile depends on what is left of the settings when they are cut. -/
theorem copyNetwork_congr {n n' : ConfigNetwork} (hname : n.name = n'.name)
    (hclip : n.toSettings.clip = n'.toSettings.clip) : copyNetwork n = copyNetwork n' := by
  simp only [Settings.clip, Settings.mk.injEq] at hclip
  obtain ⟨h₁, h₂, h₃, h₄, h₅, h₆, h₇, h₈, h₉, h₁₀, h₁₁, h₁₂, h₁₃, h₁₄, h₁₅, h₁₆, h₁₇⟩ := hclip
  simp only [copyNetwork, hname, h₁, h₂, h₃, h₄, h₅, h₆, h₇, h₈, h₉, h₁₀, h₁₁, h₁₂, h₁₃, h₁₄, h₁₅, h₁₆, h₁₇]

theorem clip_clip (s : Settings) : s.clip.clip = s.clip := by
  simp [Settings.clip, copyValue_copyValue, List.map_map, Function.comp_def]

theorem legacyNetwork_toSettings (config : Config) : (legacyNetwork config).toSettings = config.toSettings.clip := rfl

/-! ## Both forms -/

section
variable (seed : Config) {path : Bytes} (hpath : path ≠ []) {text : Bytes}
  (hheaders : ∀ line ∈ fileLines text, line.isHeader = false) {host : Bytes}
  (hhost : lastAssigned .HOST (fileLines text) = some (.text host))
include hpath hheaders hhost

/-- The profile of the global form is that of the record under the header. -/
theorem forms_network :
    copyNetwork (legacyNetwork (configLoad seed path (some text)).2) =
      copyNetwork (record (loadStart seed path).config (ascii "default", fileLines text)) := by
  refine copyNetwork_congr (by rw [record_name]; rfl) ?_
  rw [legacyNetwork_toSettings, clip_clip]
  refine Settings.ext_value (fun k hk => ?_) ?_
  · rw [clip_value, clip_value, ← Config.value_shared _ hk,
      globalForm_value seed hpath hheaders (Key.shared_ne_channel hk), record_value _ _ hk]
    cases hassigned : lastAssigned k (fileLines text) with
    | some v => rfl
    | none =>
      have hk' : k ≠ .HOST := by
        rintro rfl
        rw [hhost] at hassigned
        cases hassigned
      have hstart : (loadStart seed path).config.value k = seed.value k := by cases k <;> rfl
      simp only [Option.getD_none, hstart]
      rw [Config.value_shared _ hk, clipped_inherited _ hk hk']
  · show (configLoad seed path (some text)).2.channels.map _ = (record _ _).channels.map _
    rw [globalForm_channels seed hpath hheaders, record_channels]

end

theorem networkValidateSecurity_cases (n : NetworkConfig) :
    networkValidateSecurity n = 0 ∨ networkValidateSecurity n = -1 := by
  unfold networkValidateSecurity
  split
  · exact .inr rfl
  · split
    · exact .inr rfl
    · exact .inl rfl

/-- A file without headers, with a host and a nick, makes the same networks as
the file under the header `[NETWORK default]`. -/
theorem forms_agree (seed : Config) {path : Bytes} (hpath : path ≠ []) {text : Bytes}
    (hheaders : ∀ line ∈ fileLines text, line.isHeader = false) {host : Bytes}
    (hhost : lastAssigned .HOST (fileLines text) = some (.text host)) (hne : host ≠ [])
    (hnick : (configLoad seed path (some text)).2.nick ≠ []) :
    (networksFromConfig (configLoad seed path (some text)).2).1 =
        (networksFromConfig (configLoad seed path (some (defaultHeader ++ text))).2).1 ∧
      ((networksFromConfig (configLoad seed path (some text)).2).1 = 0 →
        ∃ network, (networksFromConfig (configLoad seed path (some text)).2).2.items = [network] ∧
          (networksFromConfig (configLoad seed path (some (defaultHeader ++ text))).2).2.items = [network]) := by
  have hnetwork := forms_network seed hpath hheaders hhost
  have hglobal := globalForm_networks seed hpath hheaders
  have hsection := sectionForm_networks seed hpath hheaders
  have hstored : (configLoad seed path (some text)).2.host = host := by
    have hvalue := globalForm_value seed hpath hheaders (k := .HOST) (by decide)
    rw [hhost] at hvalue
    exact Val.text.inj hvalue
  generalize (configLoad seed path (some text)).2 = old at *
  generalize (configLoad seed path (some (defaultHeader ++ text))).2 = new at *
  generalize record (loadStart seed path).config (ascii "default", fileLines text) = network at *
  have hold : networksFromConfig old = (networkValidateSecurity (copyNetwork network),
      { items := [copyNetwork network], skipped := 0, bound := by simp [networksMax] }) := by
    simp [networksFromConfig, hglobal, hstored, hne, hnick, hnetwork]
  have haccepted : acceptedNetworks new = [copyNetwork network].filter fun n => networkValidateSecurity n = 0 := by
    rw [acceptedNetworks, hsection]
    rfl
  rw [hold]
  rcases networkValidateSecurity_cases (copyNetwork network) with hvalid | hinvalid
  · have hone : acceptedNetworks new = [copyNetwork network] := by simp [haccepted, hvalid]
    refine ⟨?_, fun _ => ⟨copyNetwork network, rfl, ?_⟩⟩
    · simp [networksFromConfig, hsection, hone, hvalid]
    · simp [networksFromConfig, hsection, hone]
  · have hnone : acceptedNetworks new = [] := by simp [haccepted, hinvalid]
    refine ⟨?_, fun h => ?_⟩
    · simp [networksFromConfig, hsection, hnone, hinvalid]
    · rw [hinvalid] at h
      cases h

def plainFile : Bytes := ascii "HOST = irc.net\nNICK = bot\nCHANNEL = #a\n"

theorem forms_agree_plain :
    (networksFromConfig (configLoad configInit (ascii "c") (some plainFile)).2).1 =
        (networksFromConfig (configLoad configInit (ascii "c") (some (defaultHeader ++ plainFile))).2).1 ∧
      ((networksFromConfig (configLoad configInit (ascii "c") (some plainFile)).2).1 = 0 →
        ∃ network, (networksFromConfig (configLoad configInit (ascii "c") (some plainFile)).2).2.items = [network] ∧
          (networksFromConfig (configLoad configInit (ascii "c") (some (defaultHeader ++ plainFile))).2).2.items =
            [network]) := by
  have hheaders : ∀ line ∈ fileLines plainFile, line.isHeader = false := by decide +kernel
  have hhost : lastAssigned .HOST (fileLines plainFile) = some (.text (ascii "irc.net")) := by decide +kernel
  exact forms_agree configInit (by decide) hheaders hhost (by decide) (by decide +kernel)

example : (networksFromConfig (configLoad configInit (ascii "c") (some plainFile)).2).1 = 0 := by decide +kernel

end AmBot
