import AmBot.Config
/-!
# Network profiles

`ambot_networks_from_config` copies the loaded sections, or the global form as
one network called "default", into the profiles the runtime connects.
-/

namespace AmBot

inductive UpstreamType where
  | direct
  | ambnc
  deriving DecidableEq, Repr

/-- `struct ambot_network_config`. -/
structure NetworkConfig where
  name : Bytes
  host : Bytes
  port : Nat
  nick : Bytes
  user : Bytes
  pass : Bytes
  owner : Bytes
  hookDir : Bytes
  moduleDir : Bytes
  channels : List Bytes
  upstream : UpstreamType
  ambncHost : Bytes
  ambncPort : Nat
  capEnabled : Bool
  saslPlain : Bool
  saslUser : Bytes
  saslPass : Bytes
  tlsUpstream : Bool
  deriving DecidableEq, Repr

def copyNetwork (src : ConfigNetwork) : NetworkConfig :=
  { name := copyValue 32 src.name
    host := copyValue 128 src.host
    port := src.port
    nick := copyValue 32 src.nick
    user := copyValue 32 src.user
    pass := copyValue 64 src.pass
    owner := copyValue 32 src.owner
    hookDir := copyValue 128 src.hookDir
    moduleDir := copyValue 128 src.moduleDir
    channels := src.channels.map (copyValue 64)
    upstream := if src.useAmbnc then .ambnc else .direct
    ambncHost := copyValue 128 src.ambncHost
    ambncPort := src.ambncPort
    capEnabled := src.capEnabled
    saslPlain := src.saslPlain
    saslUser := copyValue 32 src.saslUser
    saslPass := copyValue 64 src.saslPass
    tlsUpstream := src.tlsUpstream }

/-- `ambot_network_endpoint_host`. -/
def networkEndpointHost (network : NetworkConfig) : Bytes :=
  if network.upstream = .ambnc ∧ network.ambncHost ≠ [] then network.ambncHost else network.host

/-- `ambot_network_endpoint_port`. -/
def networkEndpointPort (network : NetworkConfig) : Nat :=
  if network.upstream = .ambnc ∧ network.ambncPort ≠ 0 then network.ambncPort else network.port

/-- `ambot_network_validate_security`. -/
def networkValidateSecurity (network : NetworkConfig) : Int :=
  if network.tlsUpstream ∧ network.upstream ≠ .ambnc then -1
  else if network.saslPlain ∧ (network.saslUser = [] ∨ network.saslPass = []) then -1
  else 0

/-- `struct ambot_networks`: its array has room for four. -/
structure Networks where
  items : List NetworkConfig
  skipped : Nat
  bound : items.length ≤ networksMax
  deriving DecidableEq, Repr

/-- The first network with the global settings, for a file without sections. -/
def legacyNetwork (config : Config) : ConfigNetwork :=
  { name := ascii "default"
    host := copyValue 128 config.host
    port := config.port
    nick := copyValue 32 config.nick
    user := copyValue 32 config.user
    pass := copyValue 64 config.pass
    owner := copyValue 32 config.owner
    hookDir := copyValue 128 config.hookDir
    moduleDir := copyValue 128 config.moduleDir
    channels := config.channels.map (copyValue 64)
    useAmbnc := config.useAmbnc
    ambncHost := copyValue 128 config.ambncHost
    ambncPort := config.ambncPort
    capEnabled := config.capEnabled
    saslPlain := config.saslPlain
    saslUser := copyValue 32 config.saslUser
    saslPass := copyValue 64 config.saslPass
    tlsUpstream := config.tlsUpstream }

/-- The candidates that pass `ambot_network_validate_security`, in order. -/
def acceptedNetworks (config : Config) : List NetworkConfig :=
  ((config.networks.take networksMax).map copyNetwork).filter fun n => networkValidateSecurity n = 0

theorem acceptedNetworks_length (config : Config) : (acceptedNetworks config).length ≤ networksMax := by
  refine (List.length_filter_le _ _).trans ?_
  simp

/-- `ambot_networks_from_config`: its return code and the list it builds. -/
def networksFromConfig (config : Config) : Int × Networks :=
  if config.networks ≠ [] then
    let accepted := acceptedNetworks config
    let rejected := (config.networks.take networksMax).length - accepted.length
    (if accepted ≠ [] then 0 else -1,
      { items := accepted, skipped := (config.networksSkipped + rejected) % 2 ^ 32,
        bound := acceptedNetworks_length config })
  else if config.host = [] ∨ config.nick = [] then
    (-1, { items := [], skipped := 0, bound := by simp })
  else
    let network := copyNetwork (legacyNetwork config)
    (networkValidateSecurity network, { items := [network], skipped := 0, bound := by simp [networksMax] })

end AmBot
