import AmBot.CString
/-!
# The configuration file

`ambot_config_load` reads lines through a 320-byte buffer and folds them into
the configuration, with a pointer to the NETWORK section the lines belong to.
The settings a section shares with the globals are one structure, `Settings`,
and the two if-chains over key names are one table, `Key`.
-/

namespace AmBot

def channelsMax : Nat := 16
def networksMax : Nat := 4

/-- The fields `struct ambot_config` and `struct ambot_config_network` share.
`channels` holds the first `channel_count` entries. -/
structure Settings where
  host : Bytes
  port : Nat
  nick : Bytes
  user : Bytes
  pass : Bytes
  owner : Bytes
  hookDir : Bytes
  moduleDir : Bytes
  channels : List Bytes
  useAmbnc : Bool
  ambncHost : Bytes
  ambncPort : Nat
  capEnabled : Bool
  saslPlain : Bool
  saslUser : Bytes
  saslPass : Bytes
  tlsUpstream : Bool
  deriving DecidableEq, Repr

/-- `struct ambot_config_network`. -/
structure ConfigNetwork extends Settings where
  name : Bytes
  deriving DecidableEq, Repr

/-- `struct ambot_config`. `networks` holds the first `network_count` entries. -/
structure Config extends Settings where
  path : Bytes
  botaiUrl : Bytes
  botaiExpert : Bytes
  botaiTimeoutSeconds : Nat
  networks : List ConfigNetwork
  networksSkipped : Nat
  deriving DecidableEq, Repr

/-- The keys of the two if-chains, in their order. The BOTAI keys are in the
global chain only. -/
inductive Key where
  | HOST | PORT | NICK | USER | PASS | OWNER | HOOK_DIR | MODULE_DIR | UPSTREAM | AMBNC_HOST | AMBNC_PORT
  | CAP | SASL | SASL_USER | SASL_PASS | TLS | BOTAI_URL | BOTAI_EXPERT | BOTAI_TIMEOUT | CHANNEL
  deriving DecidableEq, Repr

def Key.all : List Key :=
  [.HOST, .PORT, .NICK, .USER, .PASS, .OWNER, .HOOK_DIR, .MODULE_DIR, .UPSTREAM, .AMBNC_HOST, .AMBNC_PORT,
   .CAP, .SASL, .SASL_USER, .SASL_PASS, .TLS, .BOTAI_URL, .BOTAI_EXPERT, .BOTAI_TIMEOUT, .CHANNEL]

def Key.name : Key → Bytes
  | .HOST => ascii "HOST"
  | .PORT => ascii "PORT"
  | .NICK => ascii "NICK"
  | .USER => ascii "USER"
  | .PASS => ascii "PASS"
  | .OWNER => ascii "OWNER"
  | .HOOK_DIR => ascii "HOOK_DIR"
  | .MODULE_DIR => ascii "MODULE_DIR"
  | .UPSTREAM => ascii "UPSTREAM"
  | .AMBNC_HOST => ascii "AMBNC_HOST"
  | .AMBNC_PORT => ascii "AMBNC_PORT"
  | .CAP => ascii "CAP"
  | .SASL => ascii "SASL"
  | .SASL_USER => ascii "SASL_USER"
  | .SASL_PASS => ascii "SASL_PASS"
  | .TLS => ascii "TLS"
  | .BOTAI_URL => ascii "BOTAI_URL"
  | .BOTAI_EXPERT => ascii "BOTAI_EXPERT"
  | .BOTAI_TIMEOUT => ascii "BOTAI_TIMEOUT"
  | .CHANNEL => ascii "CHANNEL"

/-- The first key of the chain that `key_equal` accepts. -/
def keyOf (key : Bytes) : Option Key := Key.all.find? fun k => equalIgnoreCase key k.name

/-! ## Values -/

def trimLeft (text : Bytes) : Bytes := text.dropWhile isSpace

def trim (text : Bytes) : Bytes := ((trimLeft text).reverse.dropWhile isSpace).reverse

def enabled (value : Bytes) : Bool :=
  equalIgnoreCase value (ascii "ON") || equalIgnoreCase value (ascii "YES") ||
    equalIgnoreCase value (ascii "TRUE") || value = ascii "1"

def digitsValue (digits : Bytes) : Nat := digits.foldl (fun n d => 10 * n + (d.toNat - 48)) 0

/-- `strtol(value, 0, 10)`. A value out of range of a long saturates, which
`parsePort` treats like any other value above 65535 or below 1. -/
def strtol (value : Bytes) : Int :=
  match value.dropWhile isSpace with
  | 45 :: rest => - (digitsValue (rest.takeWhile isDigit) : Int)
  | 43 :: rest => digitsValue (rest.takeWhile isDigit)
  | rest => digitsValue (rest.takeWhile isDigit)

/-- The port a value denotes, if it denotes one. -/
def portOf (value : Bytes) : Option Nat :=
  if 0 < strtol value ∧ strtol value ≤ 65535 then some (strtol value).toNat else none

def parsePort (value : Bytes) (fallback : Nat) : Nat := (portOf value).getD fallback

/-! ## Assigning a key -/

/-- One branch of the chain for the shared settings. -/
def Settings.assign (s : Settings) (key : Key) (value : Bytes) : Settings :=
  match key with
  | .HOST => { s with host := copyValue 128 value }
  | .PORT => { s with port := parsePort value s.port }
  | .NICK => { s with nick := copyValue 32 value }
  | .USER => { s with user := copyValue 32 value }
  | .PASS => { s with pass := copyValue 64 value }
  | .OWNER => { s with owner := copyValue 32 value }
  | .HOOK_DIR => { s with hookDir := copyValue 128 value }
  | .MODULE_DIR => { s with moduleDir := copyValue 128 value }
  | .UPSTREAM => { s with useAmbnc := equalIgnoreCase value (ascii "AMBNC") }
  | .AMBNC_HOST => { s with ambncHost := copyValue 128 value }
  | .AMBNC_PORT => { s with ambncPort := parsePort value s.ambncPort }
  | .CAP => { s with capEnabled := enabled value }
  | .SASL => { s with saslPlain := equalIgnoreCase value (ascii "PLAIN") }
  | .SASL_USER => { s with saslUser := copyValue 32 value }
  | .SASL_PASS => { s with saslPass := copyValue 64 value }
  | .TLS => { s with tlsUpstream := equalIgnoreCase value (ascii "UPSTREAM") }
  | .CHANNEL =>
    if s.channels.length < channelsMax then { s with channels := s.channels ++ [copyValue 64 value] } else s
  | .BOTAI_URL | .BOTAI_EXPERT | .BOTAI_TIMEOUT => s

def applyNetworkKey (network : ConfigNetwork) (key value : Bytes) : ConfigNetwork :=
  match keyOf key with
  | some k => { network with toSettings := network.toSettings.assign k value }
  | none => network

/-- The chain `ambot_config_load` runs outside every section. -/
def applyGlobalKey (config : Config) (key value : Bytes) : Config :=
  match keyOf key with
  | some .BOTAI_URL => { config with botaiUrl := copyValue 256 value }
  | some .BOTAI_EXPERT => { config with botaiExpert := copyValue 32 value }
  | some .BOTAI_TIMEOUT => { config with botaiTimeoutSeconds := parsePort value config.botaiTimeoutSeconds }
  | some k => { config with toSettings := config.toSettings.assign k value }
  | none => config

/-! ## Defaults -/

def configInit : Config :=
  { host := [], port := 6667, nick := [], user := [], pass := [], owner := [],
    hookDir := ascii "REXX:AmBot", moduleDir := ascii "REXX:AmBot/Modules", channels := [],
    useAmbnc := false, ambncHost := [], ambncPort := 6667, capEnabled := true, saslPlain := false,
    saslUser := [], saslPass := [], tlsUpstream := false,
    path := [], botaiUrl := [], botaiExpert := ascii "auto", botaiTimeoutSeconds := 30,
    networks := [], networksSkipped := 0 }

/-- `ambot_config_seed`. A null string argument is the empty one. -/
def configSeed (host : Bytes) (port : Nat) (nick user pass owner : Bytes) : Config :=
  { configInit with
    host := copyValue 128 host
    port := if port ≠ 0 then port else 6667
    nick := copyValue 32 nick
    user := copyValue 32 (if user ≠ [] then user else nick)
    pass := copyValue 64 pass
    owner := copyValue 32 owner }

/-- `network_defaults`: what a section inherits when its header is read. -/
def networkDefaults (config : Config) : ConfigNetwork :=
  { host := [], port := config.port
    nick := copyValue 32 config.nick
    user := copyValue 32 config.user
    pass := copyValue 64 config.pass
    owner := copyValue 32 config.owner
    hookDir := copyValue 128 config.hookDir
    moduleDir := copyValue 128 config.moduleDir
    channels := []
    useAmbnc := config.useAmbnc
    ambncHost := copyValue 128 config.ambncHost
    ambncPort := config.ambncPort
    capEnabled := config.capEnabled
    saslPlain := config.saslPlain
    saslUser := copyValue 32 config.saslUser
    saslPass := copyValue 64 config.saslPass
    tlsUpstream := config.tlsUpstream
    name := [] }

/-! ## Lines -/

/-- The next line `fgets(line, n + 1, file)` reads, newline included, and the
rest of the file: at most `n` bytes. -/
def fgets : Nat → Bytes → Bytes × Bytes
  | 0, file => ([], file)
  | _ + 1, [] => ([], [])
  | n + 1, c :: file =>
    if c = LF then ([c], file)
    else
      let (line, rest) := fgets n file
      (c :: line, rest)

/-- The lines of a file as a buffer of `n + 1` bytes reads them. The first
argument bounds the rounds: every line takes at least one byte. -/
def fgetsLines (n : Nat) : Nat → Bytes → List Bytes
  | 0, _ => []
  | _ + 1, [] => []
  | k + 1, file =>
    let (line, rest) := fgets n file
    line :: fgetsLines n k rest

theorem fgets_append (n : Nat) (file : Bytes) : (fgets n file).1 ++ (fgets n file).2 = file := by
  induction n generalizing file with
  | zero => rfl
  | succ n ih =>
    cases file with
    | nil => rfl
    | cons c file =>
      simp only [fgets]
      split
      · rfl
      · rw [List.cons_append, ih]

theorem fgets_ne_nil {n : Nat} (hn : 0 < n) (c : UInt8) (file : Bytes) : (fgets n (c :: file)).1 ≠ [] := by
  obtain ⟨n, rfl⟩ : ∃ m, n = m + 1 := ⟨n - 1, by omega⟩
  simp only [fgets]
  split
  · exact List.cons_ne_nil _ _
  · exact List.cons_ne_nil _ _

/-- The rounds suffice: the lines make up the whole file. -/
theorem fgetsLines_flatten {n : Nat} (hn : 0 < n) {k : Nat} {file : Bytes} (hk : file.length ≤ k) :
    (fgetsLines n k file).flatten = file := by
  induction k generalizing file with
  | zero =>
    obtain rfl : file = [] := List.length_eq_zero_iff.1 (by omega)
    rfl
  | succ k ih =>
    cases file with
    | nil => rfl
    | cons c file =>
      have happend := fgets_append n (c :: file)
      have hline : 0 < (fgets n (c :: file)).1.length := List.length_pos_iff.2 (fgets_ne_nil hn c file)
      have hrest : (fgets n (c :: file)).2.length ≤ k := by
        have hlength := congrArg List.length happend
        rw [List.length_append] at hlength
        omega
      simp only [fgetsLines, List.flatten_cons, ih hrest, happend]

def configLineSize : Nat := 320

/-- The C strings `ambot_config_load` sees in its buffer. -/
def configLines (file : Bytes) : List Bytes := (fgetsLines (configLineSize - 1) file.length file).map cstr

/-- What a line is to `ambot_config_load`. -/
inductive ConfigLine where
  | ignored
  | network (name : Bytes)
  | setting (key value : Bytes)
  deriving DecidableEq, Repr

def networkPrefix : Bytes := ascii "NETWORK "

/-- A line that starts with `[`: a NETWORK header, or ignored. -/
def parseHeader (inner : Bytes) : ConfigLine :=
  match strchr 93 inner with
  | none => .ignored
  | some _ =>
    let name := trim (upTo 93 inner)
    if 8 < name.length ∧ networkPrefix.isPrefixOf name then .network (trim (name.drop 8)) else .ignored

def parseLine (line : Bytes) : ConfigLine :=
  match trim line with
  | [] => .ignored
  | 35 :: _ => .ignored
  | 59 :: _ => .ignored
  | 91 :: inner => parseHeader inner
  | key =>
    match strchr 61 key with
    | none => .ignored
    | some rest => .setting (trim (upTo 61 key)) (trim (rest.drop 1))

/-! ## Loading -/

/-- The configuration and the section pointer `current` of the reading loop. -/
structure Loading where
  config : Config
  current : Option Nat
  deriving DecidableEq, Repr

def loadLine (s : Loading) (line : ConfigLine) : Loading :=
  match line with
  | .ignored => s
  | .network name =>
    if s.config.networks.length < networksMax then
      { config := { s.config with
          networks := s.config.networks ++ [{ networkDefaults s.config with name := copyValue 32 name }] }
        current := some s.config.networks.length }
    else
      -- `current = 0`: the keys of a skipped section are global ones
      { config := { s.config with networksSkipped := increment s.config.networksSkipped }, current := none }
  | .setting key value =>
    match s.current with
    | some i =>
      { s with config := { s.config with
          networks := s.config.networks.modify i fun network => applyNetworkKey network key value } }
    | none => { s with config := applyGlobalKey s.config key value }

/-- The state in which the reading loop starts. -/
def loadStart (config : Config) (path : Bytes) : Loading :=
  { config := { config with path := copyValue 128 path, channels := [], networks := [], networksSkipped := 0 }
    current := none }

/-- `ambot_config_load`; `file` is what `fopen` finds, `none` if it fails. -/
def configLoad (config : Config) (path : Bytes) (file : Option Bytes) : Int × Config :=
  if path = [] then (0, config)
  else
    match file with
    | none => (-1, config)
    | some text => (0, (((configLines text).map parseLine).foldl loadLine (loadStart config path)).config)

end AmBot
