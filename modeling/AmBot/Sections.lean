import AmBot.Config
/-!
# The sections of a configuration file

A file is its lines before the first NETWORK header and one section per
header. `load_eq` computes what the reading loop makes of them: the globals of
the preamble, a record for each of the first four sections and, because a
skipped section leaves no section pointer, the globals once more for the lines
of the sections after the fourth. Each setting is then read off as the last
valid assignment.
-/

namespace AmBot

/-! ## Lines and sections -/

def ConfigLine.isHeader : ConfigLine → Bool
  | .network _ => true
  | _ => false

/-- The lines before the next header. -/
def preamble (lines : List ConfigLine) : List ConfigLine := lines.takeWhile (!·.isHeader)

/-- The name and the lines of each section. -/
def sections : List ConfigLine → List (Bytes × List ConfigLine)
  | [] => []
  | .network name :: lines => (name, preamble lines) :: sections lines
  | _ :: lines => sections lines

/-- The sections that get a record. -/
def keptSections (lines : List ConfigLine) : List (Bytes × List ConfigLine) := (sections lines).take networksMax

/-- The lines of the sections that are counted as skipped. -/
def skippedLines (lines : List ConfigLine) : List ConfigLine := ((sections lines).drop networksMax).flatMap (·.2)

theorem lines_eq (lines : List ConfigLine) :
    lines = preamble lines ++ (sections lines).flatMap fun section_ => .network section_.1 :: section_.2 := by
  induction lines with
  | nil => rfl
  | cons line lines ih =>
    cases line with
    | network name => simpa [preamble, sections, ConfigLine.isHeader] using ih
    | ignored => simpa [preamble, sections, ConfigLine.isHeader] using ih
    | setting key value => simpa [preamble, sections, ConfigLine.isHeader] using ih

theorem preamble_no_header {lines : List ConfigLine} {line : ConfigLine} (h : line ∈ preamble lines) :
    line.isHeader = false := by
  simpa using List.mem_takeWhile_imp h

theorem sections_no_header {lines body : List ConfigLine} {name : Bytes} (h : (name, body) ∈ sections lines) :
    ∀ line ∈ body, line.isHeader = false := by
  induction lines with
  | nil => simp [sections] at h
  | cons line lines ih =>
    cases line with
    | network name' =>
      rcases List.mem_cons.1 h with h | h
      · cases h
        exact fun _ => preamble_no_header
      · exact ih h
    | ignored => exact ih h
    | setting key value => exact ih h

/-! ## Folding the lines -/

def applyGlobalLine (config : Config) (line : ConfigLine) : Config :=
  match line with
  | .setting key value => applyGlobalKey config key value
  | _ => config

def applyNetworkLine (network : ConfigNetwork) (line : ConfigLine) : ConfigNetwork :=
  match line with
  | .setting key value => applyNetworkKey network key value
  | _ => network

theorem foldl_global {lines : List ConfigLine} (h : ∀ line ∈ lines, line.isHeader = false) (config : Config) :
    lines.foldl loadLine { config, current := none } =
      { config := lines.foldl applyGlobalLine config, current := none } := by
  induction lines generalizing config with
  | nil => rfl
  | cons line lines ih =>
    have htail : ∀ line ∈ lines, line.isHeader = false := fun l hl => h l (List.mem_cons_of_mem _ hl)
    cases line with
    | network name => simp [ConfigLine.isHeader] at h
    | ignored => exact ih htail _
    | setting key value => exact ih htail _

theorem modify_last {α : Type} (f : α → α) (l : List α) (x : α) : (l ++ [x]).modify l.length f = l ++ [f x] := by
  induction l with
  | nil => rfl
  | cons y l ih => simp [ih]

theorem foldl_network {lines : List ConfigLine} (h : ∀ line ∈ lines, line.isHeader = false) (config : Config)
    (networks : List ConfigNetwork) (network : ConfigNetwork) :
    lines.foldl loadLine { config := { config with networks := networks ++ [network] }, current := some networks.length } =
      { config := { config with networks := networks ++ [lines.foldl applyNetworkLine network] },
        current := some networks.length } := by
  induction lines generalizing network with
  | nil => rfl
  | cons line lines ih =>
    have htail : ∀ line ∈ lines, line.isHeader = false := fun l hl => h l (List.mem_cons_of_mem _ hl)
    cases line with
    | network name => simp [ConfigLine.isHeader] at h
    | ignored => exact ih htail _
    | setting key value =>
      simp only [List.foldl_cons, loadLine, modify_last]
      exact ih htail _

/-- The record of a section under the globals of `config`. -/
def record (config : Config) (section_ : Bytes × List ConfigLine) : ConfigNetwork :=
  section_.2.foldl applyNetworkLine { networkDefaults config with name := copyValue 32 section_.1 }

/-- The reading loop over one section. -/
def loadSection (s : Loading) (section_ : Bytes × List ConfigLine) : Loading :=
  section_.2.foldl loadLine (loadLine s (.network section_.1))

theorem loadSection_kept {s : Loading} {section_ : Bytes × List ConfigLine}
    (h : ∀ line ∈ section_.2, line.isHeader = false) (hroom : s.config.networks.length < networksMax) :
    loadSection s section_ =
      { config := { s.config with networks := s.config.networks ++ [record s.config section_] },
        current := some s.config.networks.length } := by
  simp only [loadSection, loadLine, hroom, if_true]
  exact foldl_network h _ _ _

theorem loadSection_skipped {s : Loading} {section_ : Bytes × List ConfigLine}
    (h : ∀ line ∈ section_.2, line.isHeader = false) (hfull : networksMax ≤ s.config.networks.length) :
    loadSection s section_ =
      { config := section_.2.foldl applyGlobalLine
          { s.config with networksSkipped := increment s.config.networksSkipped },
        current := none } := by
  simp only [loadSection, loadLine, Nat.not_lt.2 hfull, if_false]
  exact foldl_global h _

theorem foldl_sections (sections : List (Bytes × List ConfigLine)) (s : Loading) :
    (sections.flatMap fun section_ => .network section_.1 :: section_.2).foldl loadLine s =
      sections.foldl loadSection s := by
  induction sections generalizing s with
  | nil => rfl
  | cons section_ sections ih =>
    rw [List.flatMap_cons, List.foldl_append, List.foldl_cons, List.foldl_cons, ih, loadSection]

/-! ## What a global line leaves alone -/

/-- The fields no key sets. -/
structure SameTable (config config' : Config) : Prop where
  path : config'.path = config.path
  networks : config'.networks = config.networks
  networksSkipped : config'.networksSkipped = config.networksSkipped

theorem applyGlobalKey_sameTable (config : Config) (key value : Bytes) :
    SameTable config (applyGlobalKey config key value) := by
  unfold applyGlobalKey
  split <;> exact ⟨rfl, rfl, rfl⟩

theorem foldl_global_sameTable (lines : List ConfigLine) (config : Config) :
    SameTable config (lines.foldl applyGlobalLine config) := by
  induction lines generalizing config with
  | nil => exact ⟨rfl, rfl, rfl⟩
  | cons line lines ih =>
    have h : SameTable config (applyGlobalLine config line) := by
      cases line with
      | setting key value => exact applyGlobalKey_sameTable config key value
      | _ => exact ⟨rfl, rfl, rfl⟩
    obtain ⟨h₁, h₂, h₃⟩ := ih (applyGlobalLine config line)
    exact ⟨h₁.trans h.path, h₂.trans h.networks, h₃.trans h.networksSkipped⟩

theorem foldl_global_skipped (lines : List ConfigLine) (config : Config) (n : Nat) :
    lines.foldl applyGlobalLine { config with networksSkipped := n } =
      { lines.foldl applyGlobalLine config with networksSkipped := n } := by
  refine List.foldl_hom (fun config : Config => { config with networksSkipped := n }) fun config line => ?_
  cases line with
  | setting key value =>
    simp only [applyGlobalLine, applyGlobalKey]
    split <;> rfl
  | _ => rfl

theorem foldl_global_networks (lines : List ConfigLine) (config : Config) (networks : List ConfigNetwork) :
    lines.foldl applyGlobalLine { config with networks } = { lines.foldl applyGlobalLine config with networks } := by
  refine List.foldl_hom (fun config : Config => { config with networks }) fun config line => ?_
  cases line with
  | setting key value =>
    simp only [applyGlobalLine, applyGlobalKey]
    split <;> rfl
  | _ => rfl

/-! ## The whole file -/

theorem record_networks (config : Config) (networks : List ConfigNetwork) :
    record { config with networks } = record config := rfl

/-- Sections while there is room get records under the same globals. -/
theorem foldl_kept {sections : List (Bytes × List ConfigLine)}
    (h : ∀ section_ ∈ sections, ∀ line ∈ section_.2, line.isHeader = false) {s : Loading}
    (hroom : s.config.networks.length + sections.length ≤ networksMax) :
    (sections.foldl loadSection s).config =
      { s.config with networks := s.config.networks ++ sections.map (record s.config) } := by
  induction sections generalizing s with
  | nil => simp
  | cons section_ sections ih =>
    simp only [List.length_cons] at hroom
    rw [List.foldl_cons, loadSection_kept (h _ List.mem_cons_self) (by omega),
      ih (fun _ hs => h _ (List.mem_cons_of_mem _ hs)) (by simp; omega)]
    simp [record_networks]

/-- Sections without room are counted, and their lines set the globals. -/
theorem foldl_skipped {sections : List (Bytes × List ConfigLine)}
    (h : ∀ section_ ∈ sections, ∀ line ∈ section_.2, line.isHeader = false) {s : Loading}
    (hfull : networksMax ≤ s.config.networks.length) (hs : s.config.networksSkipped < 2 ^ 32) :
    (sections.foldl loadSection s).config =
      { (sections.flatMap (·.2)).foldl applyGlobalLine s.config with
        networksSkipped := (s.config.networksSkipped + sections.length) % 2 ^ 32 } := by
  induction sections generalizing s with
  | nil =>
    show s.config = { s.config with networksSkipped := (s.config.networksSkipped + 0) % 2 ^ 32 }
    rw [Nat.add_zero, Nat.mod_eq_of_lt hs]
  | cons section_ sections ih =>
    have hsame := foldl_global_sameTable section_.2 { s.config with networksSkipped := increment s.config.networksSkipped }
    rw [List.foldl_cons, loadSection_skipped (h _ List.mem_cons_self) hfull,
      ih (fun _ hs => h _ (List.mem_cons_of_mem _ hs)) (by rw [hsame.networks]; exact hfull)
        (by rw [hsame.networksSkipped]; exact Nat.mod_lt _ (by decide))]
    simp only [List.flatMap_cons, List.foldl_append, foldl_global_skipped, List.length_cons]
    simp only [increment, Config.mk.injEq, true_and]
    omega

/-- The globals the preamble leaves. -/
def preambleGlobals (seed : Config) (path : Bytes) (lines : List ConfigLine) : Config :=
  (preamble lines).foldl applyGlobalLine (loadStart seed path).config

/-- What `ambot_config_load` makes of the lines of a file. -/
theorem load_eq (seed : Config) (path : Bytes) (lines : List ConfigLine) :
    (lines.foldl loadLine (loadStart seed path)).config =
      { (skippedLines lines).foldl applyGlobalLine (preambleGlobals seed path lines) with
        networks := (keptSections lines).map (record (preambleGlobals seed path lines))
        networksSkipped := ((sections lines).length - networksMax) % 2 ^ 32 } := by
  have hsame : SameTable (loadStart seed path).config (preambleGlobals seed path lines) :=
    foldl_global_sameTable (preamble lines) (loadStart seed path).config
  have hbody : ∀ section_ ∈ sections lines, ∀ line ∈ section_.2, line.isHeader = false :=
    fun _ h => sections_no_header h
  have hskipped : (preambleGlobals seed path lines).networksSkipped = 0 := hsame.networksSkipped
  have hnetworks : (preambleGlobals seed path lines).networks = [] := hsame.networks
  conv_lhs => rw [lines_eq lines]
  rw [List.foldl_append, loadStart, foldl_global (fun _ => preamble_no_header), foldl_sections,
    ← List.take_append_drop networksMax (sections lines), List.foldl_append]
  change (List.foldl loadSection (List.foldl loadSection { config := preambleGlobals seed path lines, current := none }
    (keptSections lines)) _).config = _
  have hmem : ∀ section_ ∈ keptSections lines, ∀ line ∈ section_.2, line.isHeader = false :=
    fun section_ hs => hbody section_ (List.mem_of_mem_take hs)
  have hkept := foldl_kept hmem (s := { config := preambleGlobals seed path lines, current := none })
    (by simp [hnetworks, keptSections])
  rw [hnetworks, List.nil_append] at hkept
  rcases Nat.lt_or_ge networksMax (sections lines).length with hlt | hge
  · -- four records, then the skipped sections
    rw [foldl_skipped (fun _ hs => hbody _ (List.mem_of_mem_drop hs))
      (by rw [hkept]; simp [keptSections]; omega) (by rw [hkept, hskipped]; decide), hkept, foldl_global_networks]
    simp [skippedLines, hskipped]
  · rw [List.drop_of_length_le hge, List.foldl_nil, hkept]
    simp [skippedLines, List.drop_of_length_le hge, hskipped]

/-- What the lines of a file are to `ambot_config_load`. -/
def fileLines (text : Bytes) : List ConfigLine := (configLines text).map parseLine

section Loaded
variable (seed : Config) {path : Bytes} (hpath : path ≠ []) (text : Bytes)
include hpath

theorem configLoad_eq :
    configLoad seed path (some text) =
      (0, { (skippedLines (fileLines text)).foldl applyGlobalLine (preambleGlobals seed path (fileLines text)) with
        networks := (keptSections (fileLines text)).map (record (preambleGlobals seed path (fileLines text)))
        networksSkipped := ((sections (fileLines text)).length - networksMax) % 2 ^ 32 }) := by
  rw [configLoad, if_neg hpath, ← load_eq]
  rfl

theorem configLoad_path : (configLoad seed path (some text)).2.path = copyValue 128 path := by
  rw [configLoad_eq seed hpath]
  exact (foldl_global_sameTable _ _).path.trans (foldl_global_sameTable _ _).path

end Loaded

end AmBot
