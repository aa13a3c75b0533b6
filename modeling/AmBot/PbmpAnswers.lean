import AmBot.Pbmp
import AmBot.RunLib.JsonValue
/-!
# What PBMP answers say

Each template is the text of one JSON object, if the strings put into it need
no escapes.
-/

namespace AmBot

open RunLib RunLib.Json

/-! ## The answers as values -/

def implementation : Value :=
  .object [(ascii "name", .string (ascii "ambot")), (ascii "version", .string ambotVersion)]

/-- The members that every answer begins with. -/
def answerHead (id : Bytes) (ok : Bool) : List (Bytes × Value) :=
  [(ascii "pbmp", .number 1), (ascii "type", .string (ascii "response")), (ascii "id", .string id), (ascii "ok", .bool ok)]

def resultEntries (id : Bytes) (result : List (Bytes × Value)) : List (Bytes × Value) :=
  answerHead id true ++ [(ascii "result", .object result)]

def errorEntries (id code : Bytes) : List (Bytes × Value) :=
  answerHead id false ++ [(ascii "error", .object [(ascii "code", .string code)])]

/-- What the answer to a request with this id says. -/
def answerEntries (state : Option PbmpState) (id : Bytes) : Option PbmpMethod → List (Bytes × Value)
  | some .pbmpInfo => resultEntries id [(ascii "version", .number 1), (ascii "implementation", implementation)]
  | some .capabilitiesList =>
    resultEntries id [(ascii "capabilities", .array (pbmpMethods.map fun method => .string method.name))]
  | some .botInfo =>
    resultEntries id [(ascii "bot", .object
      [(ascii "id", .string (ascii "ambot")), (ascii "nick", .string (pbmpNick state)),
        (ascii "state", .string (pbmpBotState state)), (ascii "implementation", implementation)])]
  | some .networksList =>
    resultEntries id [(ascii "networks", .array [.object
      [(ascii "id", .string (pbmpNetworkId state)), (ascii "name", .string (pbmpNetworkName state)),
        (ascii "state", .string (pbmpConnection state))]])]
  | none => errorEntries id (ascii "not_supported")

/-- The strings of the state that an answer takes over as they are. -/
def pastedStrings (state : Option PbmpState) : Option PbmpMethod → List Bytes
  | some .botInfo => [pbmpNick state]
  | some .networksList => [pbmpNetworkId state, pbmpNetworkName state]
  | _ => []

/-! ## The members in the texts -/

/-- A member that is a string, written as `t`. -/
def stringMember (key t v : Bytes) : Member := { key, text := quoted t, value := .string v }

def objectMember (key : Bytes) (ms : List Member) : Member :=
  { key, text := objectText ms, value := .object (ms.map Member.entry) }

def arrayMember (key : Bytes) (ts : List (Bytes × Value)) : Member :=
  { key, text := arrayText ts, value := .array (ts.map Prod.snd) }

def oneMember (key : Bytes) : Member := { key, text := ascii "1", value := .number 1 }

def okMember (b : Bool) : Member :=
  { key := ascii "ok", text := if b then ascii "true" else ascii "false", value := .bool b }

def implementationMembers : List Member :=
  [stringMember (ascii "name") (ascii "ambot") (ascii "ambot"), stringMember (ascii "version") ambotVersion ambotVersion]

/-- An answer whose id is written `t` and stands for `v`. -/
def answerMembers (t v : Bytes) (ok : Bool) (last : Member) : List Member :=
  [oneMember (ascii "pbmp"), stringMember (ascii "type") (ascii "response") (ascii "response"),
    stringMember (ascii "id") t v, okMember ok, last]

def pbmpInfoMembers : List Member :=
  [oneMember (ascii "version"), objectMember (ascii "implementation") implementationMembers]

def capabilitiesMembers : List Member :=
  [arrayMember (ascii "capabilities") (pbmpMethods.map fun method => (quoted method.name, .string method.name))]

def botMembers (nick botState : Bytes) : List Member :=
  [stringMember (ascii "id") (ascii "ambot") (ascii "ambot"), stringMember (ascii "nick") nick nick,
    stringMember (ascii "state") botState botState, objectMember (ascii "implementation") implementationMembers]

def networkMembers (networkId networkName connection : Bytes) : List Member :=
  [stringMember (ascii "id") networkId networkId, stringMember (ascii "name") networkName networkName,
    stringMember (ascii "state") connection connection]

def networksMembers (networkId networkName connection : Bytes) : List Member :=
  let ms := networkMembers networkId networkName connection
  [arrayMember (ascii "networks") [(objectText ms, .object (ms.map Member.entry))]]

def errorMembers (code : Bytes) : List Member := [stringMember (ascii "code") code code]

/-! ## Which members can be written -/

/-- A member that can stand in an object without blanks. -/
def Writable (m : Member) : Prop := m.Compact ∧ Text m.text m.value

theorem stringMember_writable {key t v : Bytes} (hkey : ∀ c ∈ key, Unescaped c) (h : json.Spells t v) :
    Writable (stringMember key t v) := ⟨⟨hkey, rfl⟩, .string h⟩

theorem plainMember_writable {key v : Bytes} (hkey : ∀ c ∈ key, Unescaped c) (h : ∀ c ∈ v, Unescaped c) :
    Writable (stringMember key v v) := stringMember_writable hkey (plain_spells h)

theorem oneMember_writable {key : Bytes} (hkey : ∀ c ∈ key, Unescaped c) : Writable (oneMember key) :=
  ⟨⟨hkey, rfl⟩, .number number_one⟩

theorem okMember_writable (b : Bool) : Writable (okMember b) := by
  have hkey : ∀ c ∈ ascii "ok", Unescaped c := unescaped_of_all rfl
  cases b with
  | true => exact ⟨⟨hkey, rfl⟩, .true⟩
  | false => exact ⟨⟨hkey, rfl⟩, .false⟩

theorem objectMember_writable {key : Bytes} {ms : List Member} (hkey : ∀ c ∈ key, Unescaped c) (h : Written ms) :
    Writable (objectMember key ms) := ⟨⟨hkey, rfl⟩, h.text⟩

theorem arrayMember_writable {key : Bytes} {ts : List (Bytes × Value)} (hkey : ∀ c ∈ key, Unescaped c)
    (hne : ts ≠ []) (h : ∀ t ∈ ts, Text t.1 t.2) : Writable (arrayMember key ts) := ⟨⟨hkey, rfl⟩, array_text hne h⟩

theorem implementation_written : Written implementationMembers := by
  refine ⟨by simp [implementationMembers], ?_⟩
  simp only [implementationMembers, List.forall_mem_cons]
  exact ⟨plainMember_writable (unescaped_of_all rfl) (unescaped_of_all rfl),
    plainMember_writable (unescaped_of_all rfl) (unescaped_of_all rfl), by simp⟩

theorem answer_written {t v : Bytes} (hid : json.Spells t v) (ok : Bool) {last : Member} (hlast : Writable last) :
    Written (answerMembers t v ok last) := by
  refine ⟨by simp [answerMembers], ?_⟩
  simp only [answerMembers, List.forall_mem_cons]
  exact ⟨oneMember_writable (unescaped_of_all rfl),
    plainMember_writable (unescaped_of_all rfl) (unescaped_of_all rfl),
    stringMember_writable (unescaped_of_all rfl) hid, okMember_writable ok, hlast, by simp⟩

theorem pbmpInfo_written : Written pbmpInfoMembers := by
  refine ⟨by simp [pbmpInfoMembers], ?_⟩
  simp only [pbmpInfoMembers, List.forall_mem_cons]
  exact ⟨oneMember_writable (unescaped_of_all rfl),
    objectMember_writable (unescaped_of_all rfl) implementation_written, by simp⟩

theorem method_plain (method : PbmpMethod) : ∀ c ∈ method.name, Unescaped c := by
  cases method <;> exact unescaped_of_all rfl

theorem capabilities_written : Written capabilitiesMembers := by
  refine ⟨by simp [capabilitiesMembers], ?_⟩
  simp only [capabilitiesMembers, List.forall_mem_cons]
  refine ⟨arrayMember_writable (unescaped_of_all rfl) (by simp [pbmpMethods]) fun t ht => ?_, by simp⟩
  obtain ⟨method, -, rfl⟩ := List.mem_map.1 ht
  exact plain_text (method_plain method)

theorem bot_written {nick botState : Bytes} (hnick : ∀ c ∈ nick, Unescaped c)
    (hstate : ∀ c ∈ botState, Unescaped c) : Written (botMembers nick botState) := by
  refine ⟨by simp [botMembers], ?_⟩
  simp only [botMembers, List.forall_mem_cons]
  exact ⟨plainMember_writable (unescaped_of_all rfl) (unescaped_of_all rfl),
    plainMember_writable (unescaped_of_all rfl) hnick, plainMember_writable (unescaped_of_all rfl) hstate,
    objectMember_writable (unescaped_of_all rfl) implementation_written, by simp⟩

theorem networks_written {networkId networkName connection : Bytes} (hid : ∀ c ∈ networkId, Unescaped c)
    (hname : ∀ c ∈ networkName, Unescaped c) (hstate : ∀ c ∈ connection, Unescaped c) :
    Written (networksMembers networkId networkName connection) := by
  have hnetwork : Written (networkMembers networkId networkName connection) := by
    refine ⟨by simp [networkMembers], ?_⟩
    simp only [networkMembers, List.forall_mem_cons]
    exact ⟨plainMember_writable (unescaped_of_all rfl) hid, plainMember_writable (unescaped_of_all rfl) hname,
      plainMember_writable (unescaped_of_all rfl) hstate, by simp⟩
  refine ⟨by simp [networksMembers], ?_⟩
  simp only [networksMembers, List.forall_mem_cons]
  refine ⟨arrayMember_writable (unescaped_of_all rfl) (by simp) fun t ht => ?_, by simp⟩
  obtain rfl := List.mem_singleton.1 ht
  exact hnetwork.text

theorem error_written {code : Bytes} (h : ∀ c ∈ code, Unescaped c) : Written (errorMembers code) := by
  refine ⟨by simp [errorMembers], ?_⟩
  simp only [errorMembers, List.forall_mem_cons]
  exact ⟨plainMember_writable (unescaped_of_all rfl) h, by simp⟩

/-! ## The templates -/

/-- What follows the id in an answer. -/
def answerTail (ok : Bool) (last : Member) : Bytes :=
  ascii "\"," ++ (okMember ok).write ++ ascii "," ++ last.write ++ ascii "\x7d"

theorem answerMembers_text (id v : Bytes) (ok : Bool) (last : Member) :
    objectText (answerMembers id v ok last) =
      ascii "\x7b\"pbmp\":1,\"type\":\"response\",\"id\":\"" ++ (id ++ answerTail ok last) := by
  simp only [objectText, answerMembers, answerTail, List.map_cons, List.map_nil, List.intercalate_cons_cons,
    List.intercalate_singleton, List.append_assoc]
  simp only [Member.write, stringMember, quoted, List.nil_append, List.append_assoc, List.cons_append]
  rfl

/-- The last member of an answer. -/
def resultMember (state : Option PbmpState) : Option PbmpMethod → Member
  | some .pbmpInfo => objectMember (ascii "result") pbmpInfoMembers
  | some .capabilitiesList => objectMember (ascii "result") capabilitiesMembers
  | some .botInfo =>
    objectMember (ascii "result") [objectMember (ascii "bot") (botMembers (pbmpNick state) (pbmpBotState state))]
  | some .networksList =>
    objectMember (ascii "result")
      (networksMembers (pbmpNetworkId state) (pbmpNetworkName state) (pbmpConnection state))
  | none => objectMember (ascii "error") (errorMembers (ascii "not_supported"))

theorem botInfo_tail (nick botState : Bytes) :
    ascii "\",\"ok\":true,\"result\":\x7b\"bot\":\x7b\"id\":\"ambot\",\"nick\":\"" ++ (nick ++ (ascii "\",\"state\":\"" ++
      (botState ++ (ascii "\",\"implementation\":\x7b\"name\":\"ambot\",\"version\":\"" ++
        (ambotVersion ++ ascii "\"\x7d\x7d\x7d\x7d"))))) =
      answerTail true (objectMember (ascii "result") [objectMember (ascii "bot") (botMembers nick botState)]) := by
  simp only [answerTail, objectText, objectMember, botMembers, List.map_cons, List.map_nil, List.intercalate_cons_cons,
    List.intercalate_singleton, Member.write, stringMember, quoted, List.nil_append, List.append_assoc, List.cons_append]
  rfl

theorem networksList_tail (networkId networkName connection : Bytes) :
    ascii "\",\"ok\":true,\"result\":\x7b\"networks\":[\x7b\"id\":\"" ++ (networkId ++ (ascii "\",\"name\":\"" ++
      (networkName ++ (ascii "\",\"state\":\"" ++ (connection ++ ascii "\"\x7d]\x7d\x7d"))))) =
      answerTail true (objectMember (ascii "result") (networksMembers networkId networkName connection)) := by
  simp only [answerTail, objectText, objectMember, networksMembers, networkMembers, arrayMember, arrayText, List.map_cons,
    List.map_nil, List.intercalate_cons_cons, List.intercalate_singleton, Member.write, stringMember, quoted,
    List.nil_append, List.append_assoc, List.cons_append]
  rfl

/-- The answers differ in what follows the id. -/
theorem answerText_eq (state : Option PbmpState) (id v : Bytes) (method : Option PbmpMethod) :
    answerText state id method = objectText (answerMembers id v method.isSome (resultMember state method)) := by
  rw [answerMembers_text]
  cases method with
  | none =>
    have htail : ascii "\",\"ok\":false,\"error\":\x7b\"code\":\"not_supported\"\x7d\x7d" =
        answerTail false (objectMember (ascii "error") (errorMembers (ascii "not_supported"))) := by decide +kernel
    rw [answerText, notSupportedText, List.append_assoc, htail]
    rfl
  | some method =>
    cases method with
    | pbmpInfo =>
      have htail : ascii "\",\"ok\":true,\"result\":\x7b\"version\":1,\"implementation\":\x7b\"name\":\"ambot\",\"version\":\"" ++
          (ambotVersion ++ ascii "\"\x7d\x7d\x7d") = answerTail true (objectMember (ascii "result") pbmpInfoMembers) := by
        decide +kernel
      rw [answerText, pbmpInfoText, List.append_assoc, List.append_assoc, List.append_assoc, htail]
      rfl
    | capabilitiesList =>
      have htail : ascii "\",\"ok\":true,\"result\":\x7b\"capabilities\":[\"pbmp.info\",\"capabilities.list\",\"bot.info\",\"networks.list\"]\x7d\x7d" =
          answerTail true (objectMember (ascii "result") capabilitiesMembers) := by
        decide +kernel
      rw [answerText, capabilitiesListText, List.append_assoc, htail]
      rfl
    | botInfo =>
      have htail := botInfo_tail (pbmpNick state) (pbmpBotState state)
      simp only [answerText, botInfoText, List.append_assoc]
      rw [htail]
      rfl
    | networksList =>
      have htail := networksList_tail (pbmpNetworkId state) (pbmpNetworkName state) (pbmpConnection state)
      simp only [answerText, networksListText, List.append_assoc]
      rw [htail]
      rfl

theorem invalidRequestText_eq :
    invalidRequestText = objectText (answerMembers (ascii "0") (ascii "0") false
      (objectMember (ascii "error") (errorMembers (ascii "invalid_request")))) := by
  decide +kernel

/-! ## What they stand for -/

/-- A text is one object, and these are its members. -/
def Means (text : Bytes) (entries : List (Bytes × Value)) : Prop := ∃ ms, Object text ms ∧ ms.map Member.entry = entries

theorem invalidRequest_means : Means invalidRequestText (errorEntries (ascii "0") (ascii "invalid_request")) := by
  rw [invalidRequestText_eq]
  exact ⟨_, (answer_written (plain_spells (unescaped_of_all rfl)) false
    (objectMember_writable (unescaped_of_all rfl) (error_written (unescaped_of_all rfl)))).object, rfl⟩

theorem botState_plain (state : Option PbmpState) : ∀ c ∈ pbmpBotState state, Unescaped c := by
  unfold pbmpBotState
  split <;> exact unescaped_of_all rfl

theorem connection_plain (state : Option PbmpState) : ∀ c ∈ pbmpConnection state, Unescaped c := by
  unfold pbmpConnection
  split <;> exact unescaped_of_all rfl

theorem resultMember_writable (state : Option PbmpState) (method : Option PbmpMethod)
    (hplain : ∀ s ∈ pastedStrings state method, ∀ c ∈ s, Unescaped c) : Writable (resultMember state method) := by
  cases method with
  | none => exact objectMember_writable (unescaped_of_all rfl) (error_written (unescaped_of_all rfl))
  | some method =>
    cases method with
    | pbmpInfo => exact objectMember_writable (unescaped_of_all rfl) pbmpInfo_written
    | capabilitiesList => exact objectMember_writable (unescaped_of_all rfl) capabilities_written
    | botInfo =>
      refine objectMember_writable (unescaped_of_all rfl) ⟨by simp, fun m hm => ?_⟩
      obtain rfl := List.mem_singleton.1 hm
      exact objectMember_writable (unescaped_of_all rfl)
        (bot_written (hplain _ (by simp [pastedStrings])) (botState_plain state))
    | networksList =>
      exact objectMember_writable (unescaped_of_all rfl) (networks_written (hplain _ (by simp [pastedStrings]))
        (hplain _ (by simp [pastedStrings])) (connection_plain state))

theorem answerEntries_eq (state : Option PbmpState) (id v : Bytes) (method : Option PbmpMethod) :
    (answerMembers id v method.isSome (resultMember state method)).map Member.entry = answerEntries state v method := by
  cases method with
  | none => rfl
  | some method => cases method <;> rfl

/-- An answer says what it should, if what is put into it needs no escapes. -/
theorem answerText_means {id v : Bytes} (hid : json.Spells id v) (state : Option PbmpState) (method : Option PbmpMethod)
    (hplain : ∀ s ∈ pastedStrings state method, ∀ c ∈ s, Unescaped c) :
    Means (answerText state id method) (answerEntries state v method) := by
  rw [answerText_eq state id v]
  exact ⟨_, (answer_written hid _ (resultMember_writable state method hplain)).object,
    answerEntries_eq state id v method⟩

end AmBot
