import AmBot.CString
/-!
# The ARexx modules

`modules.c`: the scripts of one directory, found when the bot starts, when it
reloads and when a network connects. A directory is what `Lock`, `Examine` and
`ExNext` say about it; the calls are kept to see that the lock is given back.
-/

namespace AmBot

def modulesMax : Nat := 16
def moduleNameMax : Nat := 63
def modulePathMax : Nat := 127
def moduleStateMax : Nat := 63

/-- `struct ambot_module`. -/
structure Module where
  name : Bytes
  path : Bytes
  state : Bytes
  deriving DecidableEq, Repr

/-- `struct ambot_modules`; `count` is the length of `items`. -/
structure Modules where
  items : List Module
  skipped : Nat
  deriving DecidableEq, Repr

def modulesInit : Modules := { items := [], skipped := 0 }

/-- What `ExNext` fills in of a `FileInfoBlock`. -/
structure DirEntry where
  dirEntryType : Int
  fileName : Bytes
  deriving DecidableEq, Repr

structure Directory where
  lock : Bool
  examine : Bool
  entries : List DirEntry
  deriving DecidableEq, Repr

inductive DosCall where
  | lock (found : Bool)
  | examine
  | exNext (entry : Option DirEntry)
  | unLock
  deriving DecidableEq, Repr

def hasRexxSuffix (name : Bytes) : Bool :=
  5 ≤ name.length && (name.drop (name.length - 5) = ascii ".rexx" || name.drop (name.length - 5) = ascii ".REXX")

/-- A file with the suffix of a script. -/
def DirEntry.isScript (entry : DirEntry) : Bool := entry.dirEntryType < 0 && hasRexxSuffix entry.fileName

def modulePath (directory fileName : Bytes) : Bytes := directory ++ ascii "/" ++ fileName

/-- The body of the `while (ExNext(lock, &fib))`. -/
def discoverEntry (directory : Bytes) (modules : Modules) (entry : DirEntry) : Modules :=
  if 0 ≤ entry.dirEntryType || !hasRexxSuffix entry.fileName then modules
  else if modulesMax ≤ modules.items.length then { modules with skipped := increment modules.skipped }
  else
    let path := modulePath directory entry.fileName
    if !fits (modulePathMax + 1) path then { modules with skipped := increment modules.skipped }
    else
      { modules with
        items := modules.items ++
          [{ name := copyValue (moduleNameMax + 1) entry.fileName, path := copyValue (modulePathMax + 1) path, state := [] }] }

/-- `ambot_modules_discover`: its return code, the modules, and what it called. -/
def modulesDiscover (dir : Directory) (directory : Bytes) : Int × Modules × List DosCall :=
  if directory = [] then (0, modulesInit, [])
  else if !dir.lock then (-1, modulesInit, [.lock false])
  else if !dir.examine then (-1, modulesInit, [.lock true, .examine, .unLock])
  else
    (0, dir.entries.foldl (discoverEntry directory) modulesInit,
      .lock true :: .examine :: (dir.entries.map (.exNext ∘ some) ++ [.exNext none, .unLock]))

/-- `ambot_modules_find`: the index of the entry it points to. -/
def modulesFind (modules : Modules) (name : Bytes) : Option Nat := modules.items.findIdx? fun module => module.name = name

/-- `ambot_module_set_state`: its return code and the module. -/
def moduleSetState (module : Module) (state : Bytes) : Int × Module :=
  if moduleStateMax < state.length then (-1, module)
  else (0, { module with state := copyValue (moduleStateMax + 1) state })

/-! ## What is discovered -/

/-- The module of a file; none where the path does not fit. -/
def moduleOf (directory : Bytes) (entry : DirEntry) : Option Module :=
  let path := modulePath directory entry.fileName
  if path.length ≤ modulePathMax then
    some { name := entry.fileName.take moduleNameMax, path, state := [] }
  else none

variable {directory : Bytes} {modules : Modules} {entry : DirEntry} {entries : List DirEntry}

/-- One entry of the directory: not a script, kept, or skipped. -/
theorem discoverEntry_cases (directory : Bytes) (modules : Modules) (entry : DirEntry) :
    (entry.isScript = false ∧ discoverEntry directory modules entry = modules) ∨
    (entry.isScript = true ∧ ∃ module, moduleOf directory entry = some module ∧ modules.items.length < modulesMax ∧
      discoverEntry directory modules entry = { modules with items := modules.items ++ [module] }) ∨
    (entry.isScript = true ∧ (moduleOf directory entry = none ∨ modulesMax ≤ modules.items.length) ∧
      discoverEntry directory modules entry = { modules with skipped := increment modules.skipped }) := by
  unfold discoverEntry
  by_cases hscript : entry.isScript = true
  · have hkept : ¬ (0 ≤ entry.dirEntryType || !hasRexxSuffix entry.fileName) = true := by
      simpa [DirEntry.isScript] using hscript
    rw [if_neg hkept]
    by_cases hfull : modulesMax ≤ modules.items.length
    · rw [if_pos hfull]
      exact .inr (.inr ⟨hscript, .inr hfull, rfl⟩)
    rw [if_neg hfull]
    by_cases hlong : (modulePath directory entry.fileName).length ≤ modulePathMax
    · have hfits : fits (modulePathMax + 1) (modulePath directory entry.fileName) = true := by
        simp [fits, modulePath, modulePathMax, ascii] at hlong ⊢
        omega
      have hpath : copyValue (modulePathMax + 1) (modulePath directory entry.fileName) =
          modulePath directory entry.fileName := copyValue_of_short (by omega)
      refine .inr (.inl ⟨hscript, _, if_pos hlong, by omega, ?_⟩)
      simp only [hfits, hpath, Bool.not_true, Bool.false_eq_true, if_false]
      rfl
    · have hfits : fits (modulePathMax + 1) (modulePath directory entry.fileName) = false := by
        simp only [fits, Bool.and_eq_false_iff, decide_eq_false_iff_not]
        omega
      refine .inr (.inr ⟨hscript, .inl (if_neg hlong), ?_⟩)
      simp only [hfits, Bool.not_false, if_true]
  · have hother : (0 ≤ entry.dirEntryType || !hasRexxSuffix entry.fileName) = true := by
      by_contra hno
      exact hscript (by simpa [DirEntry.isScript] using hno)
    rw [if_pos hother]
    exact .inl ⟨by simpa using hscript, rfl⟩

/-- The modules of the scripts in a directory, in its order. -/
def moduleFiles (directory : Bytes) (entries : List DirEntry) : List Module :=
  (entries.filter DirEntry.isScript).filterMap (moduleOf directory)

/-- From any table on: as many modules as there is room for, and every script
that is not kept is counted, as far as the counter's word goes. -/
theorem foldl_discoverEntry (directory : Bytes) (entries : List DirEntry) (hroom : modules.items.length ≤ modulesMax)
    (hword : modules.skipped < 2 ^ 32) :
    (entries.foldl (discoverEntry directory) modules).items =
      modules.items ++ (moduleFiles directory entries).take (modulesMax - modules.items.length) ∧
    (entries.foldl (discoverEntry directory) modules).skipped < 2 ^ 32 ∧
    ((entries.foldl (discoverEntry directory) modules).items.length +
      (entries.foldl (discoverEntry directory) modules).skipped) % 2 ^ 32 =
        (modules.items.length + modules.skipped + entries.countP DirEntry.isScript) % 2 ^ 32 := by
  induction entries generalizing modules with
  | nil => exact ⟨by simp [moduleFiles], hword, by simp⟩
  | cons entry entries ih =>
    rw [List.foldl_cons]
    rcases discoverEntry_cases directory modules entry with
      ⟨hother, heq⟩ | ⟨hscript, module, hmodule, hless, heq⟩ | ⟨hscript, hnone, heq⟩
    · rw [heq, moduleFiles, List.filter_cons_of_neg (by simp [hother]), List.countP_cons_of_neg (by simp [hother])]
      exact ih hroom hword
    · have hroom' : (modules.items ++ [module]).length ≤ modulesMax := by
        rw [List.length_append]
        exact hless
      obtain ⟨hitems, hless', hcount⟩ := @ih { modules with items := modules.items ++ [module] } hroom' hword
      rw [heq]
      refine ⟨?_, hless', ?_⟩
      · rw [hitems, moduleFiles, moduleFiles, List.filter_cons_of_pos hscript, List.filterMap_cons_some hmodule,
          List.length_append, List.length_singleton, List.append_assoc]
        obtain ⟨room, hleft⟩ : ∃ room, modulesMax - modules.items.length = room + 1 :=
          ⟨modulesMax - modules.items.length - 1, by omega⟩
        rw [hleft, List.take_succ_cons, show modulesMax - (modules.items.length + 1) = room by omega]
        rfl
      · rw [hcount, List.countP_cons_of_pos hscript]
        simp only [List.length_append, List.length_singleton]
        congr 1
        omega
    · obtain ⟨hitems, hless', hcount⟩ :=
        @ih { modules with skipped := increment modules.skipped } hroom (Nat.mod_lt _ (by decide))
      rw [heq]
      refine ⟨?_, hless', ?_⟩
      · rw [hitems, moduleFiles, moduleFiles, List.filter_cons_of_pos hscript]
        rcases hnone with hlong | hfull
        · rw [List.filterMap_cons_none hlong]
        · rw [show modulesMax - modules.items.length = 0 by omega, List.take_zero, List.take_zero]
      · rw [hcount, List.countP_cons_of_pos hscript]
        dsimp only [increment]
        omega

/-- The calls that were given a lock, and the calls that give it back. -/
def locksTaken (calls : List DosCall) : Nat := calls.count (.lock true)

def locksGivenBack (calls : List DosCall) : Nat := calls.count .unLock

/-- For every directory: what is kept are the first sixteen scripts whose path
fits, in the order of the directory and each under its path there; what is
kept and what is skipped are together all the scripts, counted in the word of
the counter; where the directory cannot be read there is no module; and a lock
that was taken is given back. -/
theorem modulesDiscover_spec (dir : Directory) (directory : Bytes) :
    let (rc, modules, calls) := modulesDiscover dir directory
    modules.items.length ≤ modulesMax ∧ locksTaken calls = locksGivenBack calls ∧
    (rc = 0 → directory ≠ [] → modules.items = (moduleFiles directory dir.entries).take modulesMax ∧
      modules.skipped < 2 ^ 32 ∧
      (modules.items.length + modules.skipped) % 2 ^ 32 = dir.entries.countP DirEntry.isScript % 2 ^ 32) ∧
    (rc ≠ 0 ↔ directory ≠ [] ∧ (dir.lock = false ∨ dir.examine = false)) ∧ (rc ≠ 0 → modules = modulesInit) := by
  unfold modulesDiscover
  by_cases hdirectory : directory = []
  · simp [hdirectory, modulesInit, locksTaken, locksGivenBack]
  rw [if_neg hdirectory]
  cases hlock : dir.lock with
  | false => simp [hdirectory, modulesInit, locksTaken, locksGivenBack]
  | true =>
    cases hexamine : dir.examine with
    | false => simp [hdirectory, modulesInit, locksTaken, locksGivenBack]
    | true =>
      obtain ⟨hitems, hword, hcount⟩ :=
        @foldl_discoverEntry modulesInit directory dir.entries (Nat.zero_le _) (by decide)
      simp only [modulesInit, List.nil_append, List.length_nil, Nat.sub_zero, Nat.zero_add] at hitems hword hcount
      have hnexts : ∀ call : DosCall, (∀ entry, call ≠ .exNext entry) →
          (dir.entries.map (DosCall.exNext ∘ some)).count call = 0 := by
        intro call hcall
        rw [List.count_eq_zero]
        intro hmem
        obtain ⟨entry, -, heq⟩ := List.mem_map.1 hmem
        exact hcall _ heq.symm
      have htaken := hnexts (.lock true) fun _ => nofun
      have hback := hnexts .unLock fun _ => nofun
      refine ⟨?_, ?_, fun _ _ => ⟨hitems, hword, hcount⟩, by simp [hdirectory], fun h => absurd rfl h⟩
      · rw [modulesInit, hitems, List.length_take]
        exact Nat.min_le_left _ _
      · simp [locksTaken, locksGivenBack, htaken, hback]

/-! ## Modules by name -/

/-- The state of the module found under a name. -/
def stateOf (modules : Modules) (name : Bytes) : Option Bytes :=
  (modulesFind modules name).bind fun i => (modules.items[i]?).map (·.state)

/-- `ambot_module_set_state(ambot_modules_find(modules, name), state)`. -/
def setStateOf (modules : Modules) (name state : Bytes) : Int × Modules :=
  match modulesFind modules name with
  | none => (-1, modules)
  | some i =>
    (if moduleStateMax < state.length then -1 else 0,
      { modules with items := modules.items.modify i fun module => (moduleSetState module state).2 })

theorem moduleSetState_name (module : Module) (state : Bytes) : (moduleSetState module state).2.name = module.name := by
  unfold moduleSetState
  split
  · rfl
  · rfl

theorem moduleSetState_state (module : Module) (state : Bytes) : (moduleSetState module state).2.state =
    if moduleStateMax < state.length then module.state else state := by
  unfold moduleSetState
  split
  · rfl
  · exact copyValue_of_short (by omega)

theorem findIdx?_modify {p : Module → Bool} {f : Module → Module} (hf : ∀ module, p (f module) = p module) :
    ∀ (items : List Module) (i : Nat), (items.modify i f).findIdx? p = items.findIdx? p
  | [], _ => by simp
  | module :: items, 0 => by simp [List.findIdx?_cons, hf]
  | module :: items, i + 1 => by simp [List.findIdx?_cons, findIdx?_modify hf items i]

/-- A state can be read back under its name, the states under other names stay
as they were, and a text that is too long changes none. -/
theorem stateOf_setStateOf (modules : Modules) (name state name' : Bytes) :
    stateOf (setStateOf modules name state).2 name' =
      (if name' = name ∧ (setStateOf modules name state).1 = 0 then some state else stateOf modules name') ∧
    ((setStateOf modules name state).1 = 0 ↔ (modulesFind modules name).isSome = true ∧ state.length ≤ moduleStateMax) := by
  cases hfind : modulesFind modules name with
  | none => simp [setStateOf, hfind]
  | some i =>
    obtain ⟨hi, hname, -⟩ := List.findIdx?_eq_some_iff_getElem.1 hfind
    -- the names are untouched, so every name is found where it was
    have hitems : (setStateOf modules name state).2.items =
        modules.items.modify i fun module => (moduleSetState module state).2 := by
      simp only [setStateOf, hfind]
    have hfound : modulesFind (setStateOf modules name state).2 name' = modulesFind modules name' := by
      unfold modulesFind
      rw [hitems]
      apply findIdx?_modify
      intro module
      rw [moduleSetState_name]
    have hrc : (setStateOf modules name state).1 = 0 ↔ state.length ≤ moduleStateMax := by
      simp only [setStateOf, hfind]
      split
      · simp
        omega
      · simp
        omega
    refine ⟨?_, by simp [hrc]⟩
    unfold stateOf
    simp only [hfound, hitems, hrc]
    cases hfind' : modulesFind modules name' with
    | none =>
      rw [if_neg]
      · rfl
      · rintro ⟨rfl, -⟩
        rw [hfind] at hfind'
        cases hfind'
    | some j =>
      obtain ⟨hj, hname', -⟩ := List.findIdx?_eq_some_iff_getElem.1 hfind'
      simp only [Option.bind_some]
      by_cases hij : i = j
      · have hsame : name' = name := by
          subst hij
          simpa using (of_decide_eq_true hname').symm.trans (of_decide_eq_true hname)
        subst hij
        rw [List.getElem?_modify_eq, List.getElem?_eq_getElem hi]
        simp only [Option.map_some, Option.map_eq_map, moduleSetState_state, hsame, true_and]
        by_cases hlong : moduleStateMax < state.length
        · rw [if_pos hlong, if_neg (by omega)]
        · rw [if_neg hlong, if_pos (by omega)]
      · have hother : name' ≠ name := by
          rintro rfl
          rw [hfind] at hfind'
          exact hij (Option.some.inj hfind')
        rw [List.getElem?_modify_ne _ _ hij, if_neg (fun h => hother h.1)]

end AmBot
