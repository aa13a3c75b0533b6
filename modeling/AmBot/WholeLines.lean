import Mathlib.Data.List.Forall2
import AmBot.Forms
import AmBot.RunLib.Stream
/-!
# Lines longer than the buffer

`ambot_config_load` takes what one `fgets` reads for a line. Two lists of lines
load the same whatever they are loaded into where they have the same sections
and, part by part, the same last assignments; the lines of the buffer and the
lines of the file are two such lists.
-/

namespace AmBot

open RunLib

/-- The lines of a file, whatever their length. -/
def wholeLines (text : Bytes) : List ConfigLine := (text.splitOn LF).map fun line => parseLine (cstr line)

/-- The configuration by these lines. -/
def wholeLoad (config : Config) (path text : Bytes) : Config :=
  ((wholeLines text).foldl loadLine (loadStart config path)).config

/-- The file is read as its lines, whatever it is loaded into. -/
def ReadsWholeLines (text : Bytes) : Prop :=
  ∀ config path, path ≠ [] → (configLoad config path (some text)).2 = wholeLoad config path text

/-! ## The last assignments -/

/-- The lines outside the sections that get a record. -/
def outsideLines (lines : List ConfigLine) : List ConfigLine := preamble lines ++ skippedLines lines

/-- The assignment a section goes by: its own last one or, except for HOST, the
preamble's. -/
def sectionAssigned (lines : List ConfigLine) (section_ : Bytes × List ConfigLine) (k : Key) : Option Val :=
  if k = .HOST then some ((lastAssigned k section_.2).getD (.text []))
  else (lastAssigned k section_.2).or (lastAssigned k (preamble lines))

structure SameSection (lines lines' : List ConfigLine) (section_ section' : Bytes × List ConfigLine) : Prop where
  name : copyValue 32 section_.1 = copyValue 32 section'.1
  assigned : ∀ k, k.shared → sectionAssigned lines section_ k = sectionAssigned lines' section' k
  channels : (channelsOf section_.2).take channelsMax = (channelsOf section'.2).take channelsMax

/-- The same sections and, in each part, the same last assignments. -/
structure SameAssignments (lines lines' : List ConfigLine) : Prop where
  outside : ∀ k ≠ .CHANNEL, lastAssigned k (outsideLines lines) = lastAssigned k (outsideLines lines')
  channels : (channelsOf (outsideLines lines)).take channelsMax = (channelsOf (outsideLines lines')).take channelsMax
  kept : List.Forall₂ (SameSection lines lines') (keptSections lines) (keptSections lines')
  skipped : ((sections lines).length - networksMax) % 2 ^ 32 = ((sections lines').length - networksMax) % 2 ^ 32

theorem lastAssigned_append (k : Key) (a b : List ConfigLine) :
    lastAssigned k (a ++ b) = (lastAssigned k b).or (lastAssigned k a) := by
  unfold lastAssigned
  rw [List.filterMap_append, List.getLast?_append]

/-- A stored value is not cut when it is inherited. -/
theorem inherited_stored {k : Key} (hk : k ≠ .HOST) {lines : List ConfigLine} {v : Val}
    (h : lastAssigned k lines = some v) :
    inherited k v = v := by
  obtain ⟨line, -, hline⟩ := List.mem_filterMap.1 (List.mem_of_getLast? h)
  cases line with
  | setting key value =>
    unfold assigned at hline
    have hstored := (Option.ite_none_right_eq_some.1 hline).2
    cases k with
    | HOST => exact absurd rfl hk
    | CHANNEL => cases hstored
    | PORT | AMBNC_PORT | BOTAI_TIMEOUT =>
      obtain ⟨n, -, rfl⟩ := Option.map_eq_some_iff.1 hstored
      rfl
    | _ =>
      obtain rfl := Option.some.inj hstored
      first | rfl | exact congrArg Val.text (copyValue_copyValue _ _)
  | ignored => cases hline
  | network name => cases hline

/-! ## What the lines load -/

section
variable (seed : Config) (path : Bytes) (lines : List ConfigLine)

theorem load_value {k : Key} (hk : k ≠ .CHANNEL) :
    (lines.foldl loadLine (loadStart seed path)).config.value k =
      (lastAssigned k (outsideLines lines)).getD (seed.value k) := by
  have hvalue : (lines.foldl loadLine (loadStart seed path)).config.value k =
      (lastAssigned k (skippedLines lines)).getD (preambleValue seed lines k) := by
    rw [load_eq, ← preambleGlobals_value seed path _ hk, ← foldl_global_value _ _ hk]
    cases k <;> rfl
  rw [hvalue, outsideLines, lastAssigned_append, preambleValue]
  cases lastAssigned k (skippedLines lines) <;> rfl

theorem load_channels :
    (lines.foldl loadLine (loadStart seed path)).config.channels = (channelsOf (outsideLines lines)).take channelsMax := by
  rw [load_eq]
  have h := foldl_global_channels (skippedLines lines) (preambleGlobals seed path lines)
    (by rw [preambleGlobals_channels]; exact List.length_take_le _ _)
  rw [preambleGlobals_channels, take_take_append] at h
  rw [outsideLines, channelsOf, List.filterMap_append]
  exact h

theorem load_path : (lines.foldl loadLine (loadStart seed path)).config.path = copyValue 128 path := by
  rw [load_eq]
  exact (foldl_global_sameTable _ _).path.trans (foldl_global_sameTable _ _).path

theorem load_networks :
    (lines.foldl loadLine (loadStart seed path)).config.networks =
      (keptSections lines).map (record (preambleGlobals seed path lines)) := by
  rw [load_eq]

theorem load_skipped :
    (lines.foldl loadLine (loadStart seed path)).config.networksSkipped =
      ((sections lines).length - networksMax) % 2 ^ 32 := by
  rw [load_eq]

theorem record_value_assigned (section_ : Bytes × List ConfigLine) {k : Key} (hk : k.shared) :
    (record (preambleGlobals seed path lines) section_).toSettings.value k =
      (sectionAssigned lines section_ k).getD (inherited k (seed.value k)) := by
  rw [record_value _ _ hk, preambleGlobals_value _ _ _ (Key.shared_ne_channel hk), preambleValue]
  unfold sectionAssigned
  by_cases hhost : k = .HOST
  · subst hhost
    rw [if_pos rfl]
    rfl
  · rw [if_neg hhost]
    cases lastAssigned k section_.2 with
    | some v => rfl
    | none =>
      cases hpreamble : lastAssigned k (preamble lines) with
      | none => rfl
      | some v => exact inherited_stored hhost hpreamble

end

/-! ## Two lists of lines -/

section
variable {lines lines' : List ConfigLine}

theorem SameSection.record_eq {section_ section' : Bytes × List ConfigLine}
    (h : SameSection lines lines' section_ section') (seed : Config) (path : Bytes) :
    record (preambleGlobals seed path lines) section_ = record (preambleGlobals seed path lines') section' := by
  apply ConfigNetwork.ext_value
  · rw [record_name, record_name, h.name]
  · intro k hk
    rw [record_value_assigned _ _ _ _ hk, record_value_assigned _ _ _ _ hk, h.assigned k hk]
  · rw [record_channels, record_channels, h.channels]

theorem SameAssignments.load_eq (h : SameAssignments lines lines') (seed : Config) (path : Bytes) :
    (lines.foldl loadLine (loadStart seed path)).config = (lines'.foldl loadLine (loadStart seed path)).config := by
  apply Config.ext_value
  · intro k hk
    rw [load_value _ _ _ hk, load_value _ _ _ hk, h.outside k hk]
  · rw [load_channels, load_channels, h.channels]
  · rw [load_path, load_path]
  · rw [load_networks, load_networks, ← List.forall₂_eq_eq_eq, List.forall₂_map_left_iff, List.forall₂_map_right_iff]
    exact h.kept.imp fun _ _ hsection => hsection.record_eq seed path
  · rw [load_skipped, load_skipped, h.skipped]

/-- A configuration with the same short value for every key of one type. -/
def uniform (t : Bytes) (n : Nat) (b : Bool) : Config :=
  { host := t, port := n, nick := t, user := t, pass := t, owner := t, hookDir := t, moduleDir := t, channels := []
    useAmbnc := b, ambncHost := t, ambncPort := n, capEnabled := b, saslPlain := b, saslUser := t, saslPass := t
    tlsUpstream := b, path := [], botaiUrl := t, botaiExpert := t, botaiTimeoutSeconds := n, networks := []
    networksSkipped := 0 }

/-- Two configurations that differ in every key, also as a section inherits it. -/
def seedA : Config := uniform [65] 1 false
def seedB : Config := uniform [66] 2 true

theorem seeds_differ {k : Key} (hk : k ≠ .CHANNEL) : seedA.value k ≠ seedB.value k := by
  cases k with
  | CHANNEL => exact absurd rfl hk
  | _ => decide

theorem seeds_inherited_differ {k : Key} (hk : k.shared) (hhost : k ≠ .HOST) :
    inherited k (seedA.value k) ≠ inherited k (seedB.value k) := by
  cases k with
  | HOST => exact absurd rfl hhost
  | BOTAI_URL | BOTAI_EXPERT | BOTAI_TIMEOUT | CHANNEL => cases hk
  | _ => decide

/-- With two defaults the option shows. -/
theorem eq_of_getD {α : Type} {o o' : Option α} {a b : α} (hab : a ≠ b) (ha : o.getD a = o'.getD a)
    (hb : o.getD b = o'.getD b) : o = o' := by
  cases o with
  | none =>
    cases o' with
    | none => rfl
    | some v => exact absurd (ha.trans hb.symm) hab
  | some v =>
    cases o' with
    | none => exact absurd (ha.symm.trans hb) hab
    | some v' => exact congrArg some ha

theorem sameSection_of_record {path : Bytes} {section_ section' : Bytes × List ConfigLine}
    (h : ∀ seed, record (preambleGlobals seed path lines) section_ = record (preambleGlobals seed path lines') section') :
    SameSection lines lines' section_ section' := by
  have hvalue (seed : Config) {k : Key} (hk : k.shared) :
      (sectionAssigned lines section_ k).getD (inherited k (seed.value k)) =
        (sectionAssigned lines' section' k).getD (inherited k (seed.value k)) := by
    rw [← record_value_assigned seed path lines section_ hk, ← record_value_assigned seed path lines' section' hk, h seed]
  apply SameSection.mk
  · rw [← record_name (preambleGlobals seedA path lines), ← record_name (preambleGlobals seedA path lines'), h seedA]
  · intro k hk
    by_cases hhost : k = .HOST
    · have hsome := hvalue seedA hk
      simp only [sectionAssigned, if_pos hhost, Option.getD_some] at hsome ⊢
      exact congrArg some hsome
    · exact eq_of_getD (seeds_inherited_differ hk hhost) (hvalue seedA hk) (hvalue seedB hk)
  · rw [← record_channels (preambleGlobals seedA path lines), ← record_channels (preambleGlobals seedA path lines'),
      h seedA]

theorem sameAssignments_of_load {path : Bytes} (h : ∀ seed,
    (lines.foldl loadLine (loadStart seed path)).config = (lines'.foldl loadLine (loadStart seed path)).config) :
    SameAssignments lines lines' := by
  have hnetworks (seed : Config) :
      (keptSections lines).map (record (preambleGlobals seed path lines)) =
        (keptSections lines').map (record (preambleGlobals seed path lines')) := by
    rw [← load_networks, ← load_networks, h seed]
  have hvalue (seed : Config) {k : Key} (hk : k ≠ .CHANNEL) :
      (lastAssigned k (outsideLines lines)).getD (seed.value k) =
        (lastAssigned k (outsideLines lines')).getD (seed.value k) := by
    rw [← load_value seed path lines hk, ← load_value seed path lines' hk, h seed]
  have hlength : (keptSections lines).length = (keptSections lines').length := by
    simpa using congrArg List.length (hnetworks seedA)
  apply SameAssignments.mk
  · intro k hk
    exact eq_of_getD (seeds_differ hk) (hvalue seedA hk) (hvalue seedB hk)
  · rw [← load_channels seedA path, ← load_channels seedA path, h seedA]
  · apply List.forall₂_of_length_eq_of_get hlength
    intro i hi hi'
    apply sameSection_of_record
    intro seed
    have hrecord := congrArg (·[i]?) (hnetworks seed)
    simpa [List.getElem?_map, List.getElem?_eq_getElem hi, List.getElem?_eq_getElem hi'] using hrecord
  · rw [← load_skipped seedA path, ← load_skipped seedA path, h seedA]

end

/-! ## The cuts -/

/-- The lines that have an effect. -/
def spoken (lines : List ConfigLine) : List ConfigLine := lines.filter (· ≠ .ignored)

/-- The pieces the buffer cuts of a line say what the line says. -/
def ReadAsOne (line : Bytes) : Prop := spoken (fileLines line) = spoken [parseLine (cstr line)]

theorem foldl_spoken (lines : List ConfigLine) (s : Loading) :
    (spoken lines).foldl loadLine s = lines.foldl loadLine s := by
  rw [spoken, List.foldl_filter]
  congr 1
  funext s line
  cases line <;> rfl

theorem spoken_cons (line : ConfigLine) (lines : List ConfigLine) :
    spoken (line :: lines) = spoken [line] ++ spoken lines := List.filter_append [line] lines

/-- One `fgets`, then the rest of the file. -/
theorem fileLines_fgets {file : Bytes} (hfile : file ≠ []) :
    fileLines file = parseLine (cstr (fgets (configLineSize - 1) file).1) ::
      fileLines (fgets (configLineSize - 1) file).2 := by
  have happend := congrArg List.length (fgets_append (configLineSize - 1) file)
  rw [List.length_append] at happend
  cases file with
  | nil => exact absurd rfl hfile
  | cons c file =>
    have hline := List.length_pos_iff.2 (fgets_ne_nil (n := configLineSize - 1) (by decide) c file)
    simp only [fileLines, configLines, List.length_cons, fgetsLines, List.map_cons]
    rw [fgetsLines_rounds (by decide) (by simp at happend; omega) le_rfl]

/-- `n` bytes fill the buffer. -/
theorem fgets_full {n : Nat} {line : Bytes} (hlf : LF ∉ line) (hn : n ≤ line.length) (file : Bytes) :
    fgets n (line ++ file) = (line.take n, line.drop n ++ file) := by
  induction line generalizing n with
  | nil =>
    obtain rfl : n = 0 := Nat.le_zero.1 hn
    rfl
  | cons c line ih =>
    cases n with
    | zero => rfl
    | succ n =>
      simp only [List.mem_cons, not_or] at hlf
      have hrest := ih hlf.2 (Nat.le_of_succ_le_succ hn)
      simp [fgets, Ne.symm hlf.1, hrest]

/-- The end of the file ends a line too. -/
theorem fgets_last {n : Nat} {line : Bytes} (hlf : LF ∉ line) (hn : line.length ≤ n) : fgets n line = (line, []) := by
  induction line generalizing n with
  | nil => cases n <;> rfl
  | cons c line ih =>
    obtain ⟨n, rfl⟩ : ∃ m, n = m + 1 := ⟨n - 1, by simp at hn; omega⟩
    simp only [List.mem_cons, not_or] at hlf
    have hrest := ih hlf.2 (n := n) (by simpa using hn)
    simp [fgets, Ne.symm hlf.1, hrest]

theorem trim_append_lf (text : Bytes) : trim (text ++ [LF]) = trim text := by
  unfold trim trimLeft
  rw [List.dropWhile_append]
  split
  · rename_i hblank
    rw [List.isEmpty_iff.1 hblank]
    rfl
  · rw [List.reverse_append]
    rfl

/-- The newline of a line says nothing. -/
theorem parseLine_lf (line : Bytes) : parseLine (cstr (line ++ [LF])) = parseLine (cstr line) := by
  have htrim : trim (cstr (line ++ [LF])) = trim (cstr line) := by
    unfold cstr
    rw [List.takeWhile_append]
    split
    · rename_i hall
      rw [(List.takeWhile_prefix _).eq_of_length hall]
      exact trim_append_lf line
    · rfl
  unfold parseLine
  rw [htrim]

/-- A file is its first line and the rest. -/
theorem spoken_line {line : Bytes} (hlf : LF ∉ line) (file : Bytes) :
    spoken (fileLines (line ++ LF :: file)) = spoken (fileLines line) ++ spoken (fileLines file) := by
  have hne : line ++ LF :: file ≠ [] := by simp
  induction hn : line.length using Nat.strong_induction_on generalizing line with
  | _ n ih =>
    rw [fileLines_fgets hne]
    rcases Nat.lt_or_ge line.length (configLineSize - 1) with hshort | hlong
    · rw [fgets_line hlf hshort, parseLine_lf]
      by_cases hline : line = []
      · subst hline
        rfl
      · rw [fileLines_fgets hline, fgets_last hlf hshort.le]
        exact spoken_cons _ _
    · -- the first buffer is full in the middle of the line, or just before its newline
      have hline : line ≠ [] := List.ne_nil_of_length_pos (lt_of_lt_of_le (by decide) hlong)
      have halone := fgets_full hlf hlong []
      rw [List.append_nil, List.append_nil] at halone
      have hshorter : (line.drop (configLineSize - 1)).length < n := by
        rw [List.length_drop, hn]
        exact Nat.sub_lt (hn ▸ List.length_pos_iff.2 hline) (by decide)
      have hrest := ih _ hshorter (mt List.mem_of_mem_drop hlf) (by simp) rfl
      rw [fgets_full hlf hlong, fileLines_fgets hline, halone, spoken_cons, hrest, ← List.append_assoc, ← spoken_cons]

theorem spoken_fileLines (text : Bytes) :
    spoken (fileLines text) = (text.splitOn LF).flatMap fun line => spoken (fileLines line) := by
  refine segments_induction LF (fun line hlf => ?_) (fun line file hlf ih => ?_) text
  · rw [List.splitOn_eq_singleton hlf, List.flatMap_singleton]
  · rw [List.splitOn_append_cons_self_of_not_mem hlf, List.flatMap_cons, spoken_line hlf, ih]

theorem spoken_wholeLines (text : Bytes) :
    spoken (wholeLines text) = (text.splitOn LF).flatMap fun line => spoken [parseLine (cstr line)] := by
  unfold wholeLines
  induction text.splitOn LF with
  | nil => rfl
  | cons line lines ih =>
    rw [List.map_cons, List.flatMap_cons, ← ih]
    exact spoken_cons _ _

/-- Lines that fit the buffer, with or without their newline, are read as they are. -/
theorem readAsOne_of_length {line : Bytes} (hlf : LF ∉ line) (hfits : line.length < configLineSize) : ReadAsOne line := by
  unfold ReadAsOne
  by_cases hline : line = []
  · subst hline
    rfl
  · rw [fileLines_fgets hline, fgets_last hlf (Nat.le_sub_one_of_lt hfits)]
    rfl

theorem spoken_eq_of_readAsOne {text : Bytes} (h : ∀ line ∈ text.splitOn LF, ReadAsOne line) :
    spoken (fileLines text) = spoken (wholeLines text) := by
  rw [spoken_fileLines, spoken_wholeLines]
  exact List.flatMap_congr h

/-! ## What is read -/

theorem readsWholeLines_of_spoken {text : Bytes} (h : spoken (fileLines text) = spoken (wholeLines text)) :
    ReadsWholeLines text := by
  intro config path hpath
  rw [configLoad, if_neg hpath, wholeLoad, ← foldl_spoken (wholeLines text), ← h, foldl_spoken]
  rfl

theorem readsWholeLines_iff (text : Bytes) :
    ReadsWholeLines text ↔ SameAssignments (fileLines text) (wholeLines text) := by
  have hload (config : Config) {path : Bytes} (hpath : path ≠ []) :
      (configLoad config path (some text)).2 = ((fileLines text).foldl loadLine (loadStart config path)).config := by
    rw [configLoad, if_neg hpath]
    rfl
  constructor
  · intro h
    have hpath : ascii "a" ≠ [] := by decide
    apply sameAssignments_of_load
    intro seed
    rw [← hload seed hpath]
    exact h seed _ hpath
  · intro h config path hpath
    rw [hload config hpath]
    exact h.load_eq config path

/-- A file is read as its lines if and only if the buffer's lines have the same
sections and the same last assignments; that is so where the pieces of every
line say what the line says, as they do where every line fits the buffer. -/
theorem configLoad_whole_iff (text : Bytes) :
    (ReadsWholeLines text ↔ SameAssignments (fileLines text) (wholeLines text)) ∧
      ((∀ line ∈ text.splitOn LF, ReadAsOne line) → ReadsWholeLines text) ∧
      ((∀ line ∈ text.splitOn LF, line.length < configLineSize) → ReadsWholeLines text) := by
  have hpieces (h : ∀ line ∈ text.splitOn LF, ReadAsOne line) : ReadsWholeLines text :=
    readsWholeLines_of_spoken (spoken_eq_of_readAsOne h)
  refine ⟨readsWholeLines_iff text, hpieces, fun hfits => hpieces fun line hline => ?_⟩
  exact readAsOne_of_length (not_mem_of_mem_splitOn LF text line hline) (hfits line hline)

/-- A comment of 319 bytes and more on its line. -/
def longComment : Bytes := 35 :: List.replicate 318 97 ++ ascii "HOST=evil\n"

theorem configLoad_longComment : ¬ ReadsWholeLines longComment := by
  intro h
  have hhost := congrArg (fun config => config.host) (h configInit (ascii "a") (List.cons_ne_nil _ _))
  revert hhost
  decide +kernel

end AmBot
