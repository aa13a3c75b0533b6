import AmBot.CString
/-!
# PBMP requests

`pbmp.c`: a request is searched for a few fixed texts, and answered by one of
six templates.
-/

namespace AmBot

def ambotVersion : Bytes := ascii "0.8.0-m8"

def intMax : Nat := 2 ^ 31 - 1

/-- `struct ambot_pbmp_state`; a string is `none` where the pointer is null. -/
structure PbmpState where
  nick : Option Bytes
  networkId : Option Bytes
  networkName : Option Bytes
  connected : Bool
  deriving DecidableEq, Repr

/-- `snprintf` into a response of `size` bytes and the check of its result: the
return code, and what is written, if there is room for anything. -/
def writeResponse (size : Nat) (text : Bytes) : Int × Option Bytes :=
  (if text.length ≤ intMax ∧ text.length < size then 0 else -1, if size = 0 then none else some (snprintf size text))

/-- `request_id` into a buffer of `size` bytes. -/
def requestId (request : Bytes) (size : Nat) : Option Bytes :=
  match strstr (ascii "\"id\":") request with
  | none => none
  | some p =>
    match p.drop 5 with
    | [] => none
    | c :: p =>
      if c ≠ QUOTE then none
      else
        match strchr QUOTE p with
        | none => none
        | some _ =>
          let id := upTo QUOTE p
          if id.length = 0 ∨ size ≤ id.length then none else some id

/-- `request_has`. -/
def requestHas (request method : Bytes) : Bool :=
  (strstr (snprintf 96 (ascii "\"method\":\"" ++ method ++ ascii "\"")) request).isSome

/-! ## The locals of `ambot_pbmp_response` -/

def pbmpNick (state : Option PbmpState) : Bytes := (state.bind PbmpState.nick).getD (ascii "AmBot")

def pbmpNetworkId (state : Option PbmpState) : Bytes := (state.bind PbmpState.networkId).getD (ascii "default")

def pbmpNetworkName (state : Option PbmpState) : Bytes := (state.bind PbmpState.networkName).getD (pbmpNetworkId state)

def pbmpConnected (state : Option PbmpState) : Bool := (state.map PbmpState.connected).getD false

def pbmpConnection (state : Option PbmpState) : Bytes :=
  if pbmpConnected state then ascii "connected" else ascii "disconnected"

def pbmpBotState (state : Option PbmpState) : Bytes := if pbmpConnected state then ascii "running" else ascii "stopped"

/-! ## The templates -/

def invalidRequestText : Bytes :=
  ascii "\x7b\"pbmp\":1,\"type\":\"response\",\"id\":\"0\",\"ok\":false,\"error\":\x7b\"code\":\"invalid_request\"\x7d\x7d"

def pbmpInfoText (id : Bytes) : Bytes :=
  ascii "\x7b\"pbmp\":1,\"type\":\"response\",\"id\":\"" ++ id ++
    ascii "\",\"ok\":true,\"result\":\x7b\"version\":1,\"implementation\":\x7b\"name\":\"ambot\",\"version\":\"" ++
    ambotVersion ++ ascii "\"\x7d\x7d\x7d"

def capabilitiesListText (id : Bytes) : Bytes :=
  ascii "\x7b\"pbmp\":1,\"type\":\"response\",\"id\":\"" ++ id ++
    ascii "\",\"ok\":true,\"result\":\x7b\"capabilities\":[\"pbmp.info\",\"capabilities.list\",\"bot.info\",\"networks.list\"]\x7d\x7d"

def botInfoText (id nick botState : Bytes) : Bytes :=
  ascii "\x7b\"pbmp\":1,\"type\":\"response\",\"id\":\"" ++ id ++
    ascii "\",\"ok\":true,\"result\":\x7b\"bot\":\x7b\"id\":\"ambot\",\"nick\":\"" ++ nick ++ ascii "\",\"state\":\"" ++ botState ++
    ascii "\",\"implementation\":\x7b\"name\":\"ambot\",\"version\":\"" ++ ambotVersion ++ ascii "\"\x7d\x7d\x7d\x7d"

def networksListText (id networkId networkName connection : Bytes) : Bytes :=
  ascii "\x7b\"pbmp\":1,\"type\":\"response\",\"id\":\"" ++ id ++
    ascii "\",\"ok\":true,\"result\":\x7b\"networks\":[\x7b\"id\":\"" ++ networkId ++ ascii "\",\"name\":\"" ++ networkName ++
    ascii "\",\"state\":\"" ++ connection ++ ascii "\"\x7d]\x7d\x7d"

def notSupportedText (id : Bytes) : Bytes :=
  ascii "\x7b\"pbmp\":1,\"type\":\"response\",\"id\":\"" ++ id ++
    ascii "\",\"ok\":false,\"error\":\x7b\"code\":\"not_supported\"\x7d\x7d"

/-- `ambot_pbmp_response` into a response of `size` bytes: the return code and
what is written there, if anything. -/
def pbmpResponse (state : Option PbmpState) (request : Option Bytes) (size : Nat) : Int × Option Bytes :=
  match request with
  | none => writeResponse size invalidRequestText
  | some request =>
    if (strstr (ascii "\"pbmp\":1") request).isNone ∨ (strstr (ascii "\"type\":\"request\"") request).isNone then
      writeResponse size invalidRequestText
    else
      match requestId request 96 with
      | none => (-1, none)
      | some id =>
        if requestHas request (ascii "pbmp.info") then writeResponse size (pbmpInfoText id)
        else if requestHas request (ascii "capabilities.list") then writeResponse size (capabilitiesListText id)
        else if requestHas request (ascii "bot.info") then
          writeResponse size (botInfoText id (pbmpNick state) (pbmpBotState state))
        else if requestHas request (ascii "networks.list") then
          writeResponse size (networksListText id (pbmpNetworkId state) (pbmpNetworkName state) (pbmpConnection state))
        else writeResponse size (notSupportedText id)

/-! ## What is answered -/

inductive PbmpMethod where
  | pbmpInfo
  | capabilitiesList
  | botInfo
  | networksList
  deriving DecidableEq, Repr

def PbmpMethod.name : PbmpMethod → Bytes
  | .pbmpInfo => ascii "pbmp.info"
  | .capabilitiesList => ascii "capabilities.list"
  | .botInfo => ascii "bot.info"
  | .networksList => ascii "networks.list"

/-- The methods in the order they are looked for. -/
def pbmpMethods : List PbmpMethod := [.pbmpInfo, .capabilitiesList, .botInfo, .networksList]

/-- The answer to `method`, or to one that is not supported. -/
def answerText (state : Option PbmpState) (id : Bytes) : Option PbmpMethod → Bytes
  | some .pbmpInfo => pbmpInfoText id
  | some .capabilitiesList => capabilitiesListText id
  | some .botInfo => botInfoText id (pbmpNick state) (pbmpBotState state)
  | some .networksList => networksListText id (pbmpNetworkId state) (pbmpNetworkName state) (pbmpConnection state)
  | none => notSupportedText id

/-- What a request comes to. -/
inductive Route where
  | invalid
  | noId
  | ask (id : Bytes) (method : Option PbmpMethod)
  deriving DecidableEq, Repr

/-- The two texts that mark a request. -/
def textMarked (request : Bytes) : Bool :=
  (strstr (ascii "\"pbmp\":1") request).isSome && (strstr (ascii "\"type\":\"request\"") request).isSome

/-- The first method whose text is in the request. -/
def requestMethod (request : Bytes) : Option PbmpMethod := pbmpMethods.find? fun m => requestHas request m.name

/-- The routing of `ambot_pbmp_response`. -/
def searchRoute (request : Bytes) : Route :=
  if textMarked request then
    match requestId request 96 with
    | none => .noId
    | some id => .ask id (requestMethod request)
  else .invalid

/-- The answer to what a request comes to. -/
def respond (state : Option PbmpState) (size : Nat) : Route → Int × Option Bytes
  | .invalid => writeResponse size invalidRequestText
  | .noId => (-1, none)
  | .ask id method => writeResponse size (answerText state id method)

theorem pbmpResponse_eq (state : Option PbmpState) (request : Bytes) (size : Nat) :
    pbmpResponse state (some request) size = respond state size (searchRoute request) := by
  have hmarked : (textMarked request = true) ↔
      ¬ ((strstr (ascii "\"pbmp\":1") request).isNone ∨ (strstr (ascii "\"type\":\"request\"") request).isNone) := by
    simp [textMarked, Option.isSome_iff_ne_none]
  unfold pbmpResponse searchRoute
  by_cases h : textMarked request = true
  · rw [if_pos h]
    simp only
    rw [if_neg (hmarked.1 h)]
    cases requestId request 96 with
    | none => rfl
    | some id =>
      simp only [requestMethod, pbmpMethods, List.find?_cons, List.find?_nil, PbmpMethod.name]
      cases requestHas request (ascii "pbmp.info") with
      | true => rfl
      | false =>
        cases requestHas request (ascii "capabilities.list") with
        | true => rfl
        | false =>
          cases requestHas request (ascii "bot.info") with
          | true => rfl
          | false =>
            cases requestHas request (ascii "networks.list") with
            | true => rfl
            | false => rfl
  · rw [if_neg h]
    simp only
    rw [if_pos (not_not.1 fun hno => h (hmarked.2 hno))]
    rfl

end AmBot
