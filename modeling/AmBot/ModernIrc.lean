import AmBot.Irc
/-!
# CAP and SASL negotiation

`modernirc.c`. The handler recognises a server's answers by searching the
whole line for tokens.
-/

namespace AmBot

open RunLib

def containsToken (line : Bytes) (token : String) : Bool := (strstr (ascii token) line).isSome

/-! ## Base64 -/

def b64Table : Bytes := ascii "ABCDEFGHIJKLMNOPQRSTUVWXYZabcdefghijklmnopqrstuvwxyz0123456789+/"

def b64Char (v : Nat) : UInt8 := b64Table.getD (v % 64) 0

/-- The four characters of one round, and the source bytes left. -/
def b64Quad : Bytes → Bytes × Bytes
  | [] => ([], [])
  | [a] =>
    let v := a.toNat * 65536
    ([b64Char (v / 262144), b64Char (v / 4096), 61, 61], [])
  | [a, b] =>
    let v := a.toNat * 65536 + b.toNat * 256
    ([b64Char (v / 262144), b64Char (v / 4096), b64Char (v / 64), 61], [])
  | a :: b :: c :: rest =>
    let v := a.toNat * 65536 + b.toNat * 256 + c.toNat
    ([b64Char (v / 262144), b64Char (v / 4096), b64Char (v / 64), b64Char v], rest)

/-- The `while (i < length)` of `b64_encode`, with the output so far; `none`
where it returns -1. -/
def b64Rounds (size : Nat) : Nat → Bytes → Bytes → Option Bytes
  | _, [], out => if size ≤ out.length then none else some out
  | 0, _ :: _, _ => none
  | n + 1, src, out =>
    if size ≤ out.length + 4 then none else b64Rounds size n (b64Quad src).2 (out ++ (b64Quad src).1)

def b64Encode (src : Bytes) (size : Nat) : Option Bytes := b64Rounds size src.length src []

/-! ## The handshake -/

def sendSaslPayload (sock : Int) (config : NetworkConfig) : M Int :=
  if 160 < config.saslUser.length * 2 + config.saslPass.length + 2 then pure (-1)
  else
    match b64Encode (config.saslUser ++ [0] ++ config.saslUser ++ [0] ++ config.saslPass) 224 with
    | none => pure (-1)
    | some encoded =>
      let line := ascii "AUTHENTICATE " ++ encoded
      if 240 ≤ line.length then pure (-1) else ircSendLine sock line

/-- `ambot_modernirc_start`: its return code and the new state. -/
def modernIrcStart (sock : Int) (config : NetworkConfig) : M (Int × ModernIrc) :=
  if config.capEnabled then do
    let rc ← ircSendLine sock (ascii "CAP LS 302")
    pure (rc, { modernIrcInit with capActive := true })
  else pure (0, modernIrcInit)

/-- `ambot_modernirc_handle_line`: its return code and the new state. -/
def modernIrcHandleLine (sock : Int) (config : NetworkConfig) (state : ModernIrc) (line : Bytes) :
    M (Int × ModernIrc) :=
  if !state.capActive || state.capEnded then pure (0, state)
  else if containsToken line " CAP " && containsToken line " LS " then
    if config.saslPlain && containsToken line "sasl" then do
      let rc ← ircSendLine sock (ascii "CAP REQ :sasl")
      pure (rc, { state with saslRequested := true })
    else do
      let rc ← ircSendLine sock (ascii "CAP END")
      pure (rc, { state with capEnded := true })
  else if state.saslRequested && containsToken line " CAP " && containsToken line " ACK " &&
      containsToken line "sasl" then do
    let rc ← ircSendLine sock (ascii "AUTHENTICATE PLAIN")
    pure (rc, state)
  else if state.saslRequested && (ascii "AUTHENTICATE +").isPrefixOf line then do
    let rc ← sendSaslPayload sock config
    pure (rc, state)
  else if containsToken line " 903 " then do
    let rc ← ircSendLine sock (ascii "CAP END")
    pure (rc, { state with saslComplete := true, capEnded := true })
  else if containsToken line " 904 " || containsToken line " 905 " || containsToken line " 906 " ||
      containsToken line " 907 " then do
    -- the result of this send is ignored
    let _ ← ircSendLine sock (ascii "CAP END")
    pure (-1, { state with capEnded := true })
  else pure (0, state)

/-- The handler on a line of a connection, with the line in the trace. -/
def modernIrcAnswer (sock : Int) (config : NetworkConfig) (state : ModernIrc) (line : Bytes) : M (Int × ModernIrc) := do
  log (.line line state)
  let result ← modernIrcHandleLine sock config state line
  log .negotiated
  pure result

end AmBot
