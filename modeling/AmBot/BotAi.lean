import AmBot.Irc
/-!
# The BotAI client

`botai.c`: a URL parser, one HTTP exchange per request, and a JSON writer and
reader for exactly the two bodies the service uses.
-/

namespace AmBot

open RunLib

def botaiHostMax : Nat := 127
def botaiPathMax : Nat := 127
def botaiExpertMax : Nat := 31
def botaiReplyMax : Nat := 1024
def botaiResponseMax : Nat := 4096

def botaiInit : BotAi :=
  { host := [], path := [], expert := ascii "auto", port := 8090, timeoutSeconds := 30,
    enabled := false, compatible := false }

/-! ## The URL -/

/-- The digits of `parse_port`, with the value so far. -/
def botaiPortFrom : Nat → Bytes → Option Nat
  | value, [] => if value = 0 then none else some value
  | value, c :: rest =>
    if !isDigit c then none
    else if 65535 < value * 10 + (c.toNat - 48) then none
    else botaiPortFrom (value * 10 + (c.toNat - 48)) rest

/-- `parse_port` of `botai.c`. -/
def botaiParsePort (text : Bytes) : Option Nat := if text = [] then none else botaiPortFrom 0 text

/-- The last `:` of the authority: what is before and after it. -/
def splitAuthority (authority : Bytes) : Option (Bytes × Bytes) :=
  match strchr COLON authority.reverse with
  | none => none
  | some before => some ((before.drop 1).reverse, (upTo COLON authority.reverse).reverse)

/-- The host and the port of an authority; `none` for a bad port. -/
def parseAuthority (authority : Bytes) : Option (Bytes × Nat) :=
  match splitAuthority authority with
  | none => some (authority, botaiInit.port)
  | some (host, port) =>
    if port = [] ∨ 6 ≤ port.length then none else (botaiParsePort port).map fun n => (host, n)

/-- `ambot_botai_configure`: its return code and the new state. -/
def botaiConfigure (url expert : Bytes) (timeoutSeconds : Nat) : Int × BotAi :=
  if url = [] then (-1, botaiInit)
  else if !(ascii "http://").isPrefixOf url then (-1, botaiInit)
  else
    let p := url.drop 7
    let authority := upTo 47 p
    let slash := p.drop authority.length
    if authority = [] ∨ botaiHostMax + 8 ≤ authority.length then (-1, botaiInit)
    else
      match parseAuthority authority with
      | none => (-1, botaiInit)
      | some (host, port) =>
        if host = [] then (-1, { botaiInit with port })
        else
          let botai := { botaiInit with host := copyValue (botaiHostMax + 1) host, port }
          let path := if 2 ≤ slash.length then slash else []
          if botaiPathMax + 1 ≤ path.length then (-1, botai)
          else
            (0, { botai with
              path := path
              expert := copyValue (botaiExpertMax + 1) (if expert ≠ [] then expert else ascii "auto")
              timeoutSeconds := if timeoutSeconds ≠ 0 then timeoutSeconds else 30
              enabled := true })

/-! ## HTTP -/

def httpTarget (botai : BotAi) (endpoint : Bytes) : Bytes := botai.path ++ endpoint

def CRLF : Bytes := [CR, LF]

/-- The request `http_request` formats; `body` is absent for GET. -/
def httpText (botai : BotAi) (method endpoint : Bytes) (body : Option Bytes) : Bytes :=
  let start := method ++ ascii " " ++ httpTarget botai endpoint ++ ascii " HTTP/1.0" ++ CRLF ++
    ascii "Host: " ++ botai.host ++ CRLF
  match body with
  | some body =>
    start ++ ascii "Content-Type: application/json" ++ CRLF ++ ascii "Content-Length: " ++
      decimal body.length ++ CRLF ++ ascii "Connection: close" ++ CRLF ++ CRLF ++ body
  | none => start ++ ascii "Connection: close" ++ CRLF ++ CRLF

/-- The checks of `http_request` before it connects: the request, if it is
made at all. -/
def httpPrepare (botai : BotAi) (method endpoint : Bytes) (body : Option Bytes) : Option Bytes :=
  if !botai.enabled then none
  else if !fits (botaiPathMax + 64) (httpTarget botai endpoint) then none
  else
    let request := httpText botai method endpoint body
    if fits 1536 request then some request else none

/-- The receive loop of `http_request` with the bytes used so far; `none`
after an error, where the socket is already closed. -/
def httpReceive (sock : Int) (timeout size : Nat) : Nat → Bytes → M (Option Bytes)
  | 0, used => pure (some used)
  | n + 1, used =>
    if size ≤ used.length + 1 then pure (some used)
    else do
      let (rc, ready) ← netWaitSocket sock timeout
      if rc ≤ 0 || !ready then do
        netCloseSocket sock
        pure none
      else do
        let received ← netRecv sock (size - used.length - 1)
        match received with
        | none => do
          netCloseSocket sock
          pure none
        | some [] => pure (some used)
        | some data => httpReceive sock timeout size n (used ++ data)

def statusOk (response : Bytes) : Bool :=
  (ascii "HTTP/1.0 200 ").isPrefixOf response || (ascii "HTTP/1.1 200 ").isPrefixOf response

/-- `http_request` into a buffer of `size` bytes: the response as a C string,
or `none` where it returns -1. -/
def httpRequest (botai : BotAi) (method endpoint : Bytes) (body : Option Bytes) (size : Nat) : M (Option Bytes) :=
  match httpPrepare botai method endpoint body with
  | none => pure none
  | some request => do
    let sock ← netConnectIpv4 botai.host botai.port
    if sock < 0 then pure none
    else do
      let rc ← netSendAll sock request
      if rc ≠ 0 then do
        netCloseSocket sock
        pure none
      else do
        let received ← httpReceive sock botai.timeoutSeconds size size []
        match received with
        | none => pure none
        | some used => do
          netCloseSocket sock
          if used.length + 1 = size then pure none
          else if statusOk (cstr used) then pure (some (cstr used)) else pure none

/-- `http_body`. -/
def httpBody (response : Bytes) : Option Bytes := (strstr (CRLF ++ CRLF) response).map (List.drop 4)

def isJsonSpace (c : UInt8) : Bool := c = SP || c = TAB || c = CR || c = LF

def versionBody : Bytes := ascii "\x7b\"api_version\":\"1.0.0\"\x7d"

/-- `ambot_botai_check`: its return code and the new state. -/
def botaiCheck (botai : BotAi) : M (Int × BotAi) := do
  let response ← httpRequest botai (ascii "GET") (ascii "/v1/version") none botaiResponseMax
  match response.bind httpBody with
  | none => pure (-1, { botai with compatible := false })
  | some body =>
    if (body.reverse.dropWhile isJsonSpace).reverse = versionBody then pure (0, { botai with compatible := true })
    else pure (-1, { botai with compatible := false })

/-! ## JSON -/

/-- `json_escape` with the bytes written so far; `none` where it returns -1. -/
def jsonEscapeFrom (size : Nat) : Bytes → Bytes → Option Bytes
  | [], used => some used
  | c :: src, used =>
    if c < 32 then none
    else if c = QUOTE ∨ c = BACKSLASH then
      if size ≤ used.length + 2 then none else jsonEscapeFrom size src (used ++ [BACKSLASH, c])
    else if size ≤ used.length + 1 then none
    else jsonEscapeFrom size src (used ++ [c])

def jsonEscape (src : Bytes) (size : Nat) : Option Bytes := if size = 0 then none else jsonEscapeFrom size src []

def skipJsonSpace (p : Bytes) : Bytes := p.dropWhile isJsonSpace

/-- What an escaped byte stands for. -/
def unescape (c : UInt8) : Option UInt8 :=
  if c = 110 ∨ c = 114 ∨ c = 116 then some SP
  else if c = QUOTE ∨ c = BACKSLASH ∨ c = 47 then some c
  else none

/-- A byte stored at `dst[used]`, where there is a `dst` and room for it. -/
def storeByte (dst : Option Nat) (used : Bytes) (c : UInt8) : Option Bytes :=
  match dst with
  | none => some used
  | some size => if size ≤ used.length + 1 then none else some (used ++ [c])

/-- `parse_json_string` after the opening quote. The result is what it stored
in `dst`, also where it fails, and the rest of the text where it succeeds. -/
def jsonStringFrom (dst : Option Nat) : Bytes → Bytes → Bytes × Option Bytes
  | [], used => (used, none)
  | c :: rest, used =>
    if c = QUOTE then (used, if dst = some 0 then none else some rest)
    else if c < 32 then (used, none)
    else if c = BACKSLASH then
      match rest with
      | [] => (used, none)
      | d :: rest =>
        match (unescape d).bind (storeByte dst used) with
        | none => (used, none)
        | some used' => jsonStringFrom dst rest used'
    else
      match storeByte dst used c with
      | none => (used, none)
      | some used' => jsonStringFrom dst rest used'

/-- `parse_json_string` into a buffer of `dst` bytes, or into none. -/
def parseJsonString (dst : Option Nat) (p : Bytes) : Bytes × Option Bytes :=
  match p with
  | [] => ([], none)
  | c :: rest => if c = QUOTE then jsonStringFrom dst rest [] else ([], none)

/-- One member of the object: what is in `reply` after it and, unless it is
refused, the rest of the text and whether `text` was seen. -/
def textMember (replySize : Nat) (p reply : Bytes) (haveText : Bool) : Bytes × Option (Bytes × Bool) :=
  match parseJsonString (some 32) p with
  | (_, none) => (reply, none)
  | (key, some p) =>
    match skipJsonSpace p with
    | 58 :: p =>
      if key = ascii "text" then
        if haveText then (reply, none)
        else
          match parseJsonString (some replySize) (skipJsonSpace p) with
          | (reply, none) => (reply, none)
          | (reply, some p) => (reply, if reply = [] then none else some (p, true))
      else
        match parseJsonString none (skipJsonSpace p) with
        | (_, none) => (reply, none)
        | (_, some p) => (reply, some (p, haveText))
    | _ => (reply, none)

/-- The `for (;;)` of `parse_text_response`. Every round reads at least one
byte, which bounds the rounds. -/
def textMembers (replySize : Nat) : Nat → Bytes → Bytes → Bool → Bytes × Bool
  | 0, _, reply, _ => (reply, false)
  | n + 1, p, reply, haveText =>
    match textMember replySize p reply haveText with
    | (reply, none) => (reply, false)
    | (reply, some (p, haveText)) =>
      match skipJsonSpace p with
      | 125 :: p => (reply, haveText && skipJsonSpace p = [])
      | 44 :: p => textMembers replySize n (skipJsonSpace p) reply haveText
      | _ => (reply, false)

/-- `parse_text_response`: what it leaves in `reply`, and whether it returns 0. -/
def parseTextResponse (body : Option Bytes) (replySize : Nat) : Bytes × Bool :=
  match body with
  | none => ([], false)
  | some body =>
    match skipJsonSpace body with
    | 123 :: p =>
      match skipJsonSpace p with
      | 125 :: _ => ([], false)
      | p => textMembers replySize (p.length + 1) p [] false
    | _ => ([], false)

def chatBody (botai : BotAi) (escaped : Bytes) : Bytes :=
  ascii "\x7b\"expert\":\"" ++ botai.expert ++ ascii "\",\"message\":\"" ++ escaped ++ ascii "\"\x7d"

/-- The steps of `ambot_botai_chat` before `http_request`: the body, if it
gets that far. -/
def chatPrepare (botai : BotAi) (message : Bytes) (replySize : Nat) : Option Bytes :=
  if !botai.compatible || replySize = 0 then none
  else
    match jsonEscape message 768 with
    | none => none
    | some escaped => if fits 1024 (chatBody botai escaped) then some (chatBody botai escaped) else none

/-- `ambot_botai_chat`: its return code and what it leaves in `reply`. -/
def botaiChat (botai : BotAi) (message : Bytes) (replySize : Nat) : M (Int × Bytes) :=
  match chatPrepare botai message replySize with
  | none => pure (-1, [])
  | some body => do
    let response ← httpRequest botai (ascii "POST") (ascii "/v1/chat") (some body) botaiResponseMax
    match response with
    | none => pure (-1, [])
    | some response =>
      let (reply, done) := parseTextResponse (httpBody response) replySize
      pure (if done then 0 else -1, reply)

end AmBot
