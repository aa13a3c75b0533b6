import AmBot.PbmpAnswers
/-!
# How PBMP requests are routed

`ambot_pbmp_response` searches the text of a request. What the request says is
in its top-level members.
-/

namespace AmBot

open RunLib RunLib.Json

/-- A text that is one JSON object. -/
structure JsonRequest where
  text : Bytes
  members : List Member
  isObject : Object text members

/-! ## The top-level members -/

def stringField (ms : List Member) (key : Bytes) : Option Bytes := (field ms key).bind Value.string?

/-- `pbmp` is 1 and `type` is `request`. -/
def marked (ms : List Member) : Bool :=
  (field ms (ascii "pbmp")).bind Value.number? = some 1 && stringField ms (ascii "type") = some (ascii "request")

/-- How `id` is written, if it is a string that can be echoed. -/
def idText (ms : List Member) : Option Bytes :=
  match member ms (ascii "id") with
  | none => none
  | some m =>
    if m.value.string? = none then none
    else
      let t := (m.text.drop 1).dropLast
      if t.length = 0 ∨ 96 ≤ t.length then none else some t

/-- The method, if it is one of the four. -/
def methodOf (ms : List Member) : Option PbmpMethod :=
  pbmpMethods.find? fun method => stringField ms (ascii "method") = some method.name

/-- What the top-level members ask for. -/
def topRoute (ms : List Member) : Route :=
  if marked ms then
    match idText ms with
    | none => .noId
    | some id => .ask id (methodOf ms)
  else .invalid

/-- The searches for the marks and the id find the top-level members. -/
structure FindsId (request : JsonRequest) : Prop where
  marks : textMarked request.text = marked request.members
  id : marked request.members = true → requestId request.text 96 = idText request.members

/-- So does the search for the method. -/
structure Finds (request : JsonRequest) : Prop extends FindsId request where
  method : marked request.members = true → idText request.members ≠ none →
    requestMethod request.text = methodOf request.members

theorem searchRoute_iff (request : JsonRequest) :
    searchRoute request.text = topRoute request.members ↔ Finds request := by
  unfold searchRoute topRoute
  constructor
  · intro h
    cases htext : textMarked request.text with
    | false =>
      cases htop : marked request.members with
      | false => exact ⟨⟨htext.trans htop.symm, by simp [htop]⟩, by simp [htop]⟩
      | true =>
        rw [htext, htop, if_neg Bool.false_ne_true, if_pos rfl] at h
        cases hid : idText request.members <;> rw [hid] at h <;> cases h
    | true =>
      cases htop : marked request.members with
      | false =>
        rw [htext, htop, if_neg Bool.false_ne_true, if_pos rfl] at h
        cases hid : requestId request.text 96 <;> rw [hid] at h <;> cases h
      | true =>
        rw [htext, htop, if_pos rfl, if_pos rfl] at h
        cases hfound : requestId request.text 96 with
        | none =>
          rw [hfound] at h
          cases hid : idText request.members with
          | none => exact ⟨⟨htext.trans htop.symm, fun _ => hfound.trans hid.symm⟩, fun _ hne => absurd hid hne⟩
          | some id => rw [hid] at h; cases h
        | some found =>
          rw [hfound] at h
          cases hid : idText request.members with
          | none => rw [hid] at h; cases h
          | some id =>
            rw [hid] at h
            obtain ⟨rfl, hmethod⟩ := Route.ask.injEq .. ▸ h
            exact ⟨⟨htext.trans htop.symm, fun _ => hfound.trans hid.symm⟩, fun _ _ => hmethod⟩
  · rintro ⟨⟨hmarked, hid⟩, hmethod⟩
    rw [hmarked]
    cases htop : marked request.members with
    | false => rfl
    | true =>
      rw [hid htop]
      cases hidText : idText request.members with
      | none => rfl
      | some id =>
        rw [hmethod htop (by simp [hidText])]

/-! ## Different routes have different answers -/

/-- The ends of two texts. -/
def lastBytes (text : Bytes) : Bytes := text.reverse.take 4

theorem lastBytes_append (a : Bytes) {b : Bytes} (h : 4 ≤ b.length) : lastBytes (a ++ b) = lastBytes b := by
  unfold lastBytes
  rw [List.reverse_append, List.take_append_of_le_length (by simpa using h)]

def allMethods : List (Option PbmpMethod) := none :: pbmpMethods.map some

theorem mem_allMethods (method : Option PbmpMethod) : method ∈ allMethods := by
  cases method with
  | none => decide
  | some method => cases method <;> decide

/-- What follows the id where there is no state. -/
def plainTail (method : Option PbmpMethod) : Bytes := answerTail method.isSome (resultMember none method)

theorem plainTail_length (method : Option PbmpMethod) :
    4 ≤ (plainTail method).length ∧ (plainTail method).length < 400 := by
  have hall : ∀ method ∈ allMethods, 4 ≤ (plainTail method).length ∧ (plainTail method).length < 400 := by
    decide +kernel
  exact hall method (mem_allMethods method)

theorem plainTail_inj {method method' : Option PbmpMethod}
    (h : lastBytes (plainTail method) = lastBytes (plainTail method')) :
    method = method' := by
  have hall : ∀ m ∈ allMethods, ∀ m' ∈ allMethods, lastBytes (plainTail m) = lastBytes (plainTail m') → m = m' := by
    decide +kernel
  exact hall method (mem_allMethods method) method' (mem_allMethods method') h

theorem plainTail_invalid (method : Option PbmpMethod) : lastBytes (plainTail method) ≠ lastBytes invalidRequestText := by
  have hall : ∀ m ∈ allMethods, lastBytes (plainTail m) ≠ lastBytes invalidRequestText := by decide +kernel
  exact hall method (mem_allMethods method)

theorem plainAnswer_eq (id : Bytes) (method : Option PbmpMethod) :
    answerText none id method =
      ascii "\x7b\"pbmp\":1,\"type\":\"response\",\"id\":\"" ++ (id ++ plainTail method) := by
  rw [answerText_eq none id id, answerMembers_text]
  rfl

theorem plainAnswer_last (id : Bytes) (method : Option PbmpMethod) :
    lastBytes (answerText none id method) = lastBytes (plainTail method) := by
  rw [plainAnswer_eq, ← List.append_assoc, lastBytes_append _ (plainTail_length method).1]

theorem plainAnswer_inj {id id' : Bytes} {method method' : Option PbmpMethod}
    (h : answerText none id method = answerText none id' method') : id = id' ∧ method = method' := by
  have hlast := congrArg lastBytes h
  rw [plainAnswer_last, plainAnswer_last] at hlast
  obtain rfl := plainTail_inj hlast
  rw [plainAnswer_eq, plainAnswer_eq] at h
  exact ⟨List.append_cancel_right (List.append_cancel_left h), rfl⟩

/-- The id of a route is one that can be echoed. -/
def Route.Short : Route → Prop
  | .ask id _ => id.length < 96
  | _ => True

theorem writeResponse_whole {size : Nat} {text : Bytes} (h : text.length < size) (hmax : size ≤ intMax) :
    writeResponse size text = (0, some text) := by
  unfold writeResponse snprintf
  rw [if_pos ⟨(h.trans_le hmax).le, h⟩, if_neg (by omega), List.take_of_length_le (by omega)]

theorem respond_ask {id : Bytes} (h : id.length < 96) (method : Option PbmpMethod) :
    respond none 1024 (.ask id method) = (0, some (answerText none id method)) := by
  refine writeResponse_whole ?_ (by decide)
  have htail := (plainTail_length method).2
  have hhead : (ascii "\x7b\"pbmp\":1,\"type\":\"response\",\"id\":\"").length ≤ 40 := by decide
  rw [plainAnswer_eq, List.length_append, List.length_append]
  omega

theorem respond_invalid : respond none 1024 .invalid = (0, some invalidRequestText) :=
  writeResponse_whole (by decide +kernel) (by decide)

theorem respond_noId : respond none 1024 .noId = (-1, none) := rfl

/-- Routes with the same answers are the same. -/
theorem respond_inj {r r' : Route} (hr : r.Short) (hr' : r'.Short) (h : respond none 1024 r = respond none 1024 r') :
    r = r' := by
  have hinvalid {id : Bytes} {method : Option PbmpMethod} : invalidRequestText ≠ answerText none id method := by
    intro heq
    have hlast := congrArg lastBytes heq
    rw [plainAnswer_last] at hlast
    exact plainTail_invalid method hlast.symm
  cases r with
  | invalid =>
    rw [respond_invalid] at h
    cases r' with
    | invalid => rfl
    | noId => cases h
    | ask id method =>
      rw [respond_ask hr', Prod.mk.injEq, Option.some.injEq] at h
      exact absurd h.2 hinvalid
  | noId =>
    rw [respond_noId] at h
    cases r' with
    | invalid => rw [respond_invalid] at h; cases h
    | noId => rfl
    | ask id method => rw [respond_ask hr'] at h; cases h
  | ask id method =>
    rw [respond_ask hr] at h
    cases r' with
    | invalid =>
      rw [respond_invalid, Prod.mk.injEq, Option.some.injEq] at h
      exact absurd h.2.symm hinvalid
    | noId => cases h
    | ask id' method' =>
      rw [respond_ask hr', Prod.mk.injEq, Option.some.injEq] at h
      obtain ⟨rfl, rfl⟩ := plainAnswer_inj h.2
      rfl

theorem requestId_length {request : Bytes} {size : Nat} {id : Bytes} (h : requestId request size = some id) :
    id.length < size := by
  unfold requestId at h
  split at h
  · cases h
  · split at h
    · cases h
    · split at h
      · cases h
      · split at h
        · cases h
        · rw [Option.ite_none_left_eq_some] at h
          obtain ⟨hlength, hid⟩ := h
          rw [← Option.some.inj hid]
          omega

theorem idText_length {ms : List Member} {id : Bytes} (h : idText ms = some id) : id.length < 96 := by
  unfold idText at h
  split at h
  · cases h
  · dsimp only at h
    rw [Option.ite_none_left_eq_some, Option.ite_none_left_eq_some] at h
    obtain ⟨-, hlength, hid⟩ := h
    rw [← Option.some.inj hid]
    omega

theorem searchRoute_short (request : Bytes) : (searchRoute request).Short := by
  unfold searchRoute
  split
  · cases hid : requestId request 96 with
    | none => trivial
    | some id => exact requestId_length hid
  · trivial

theorem topRoute_short (ms : List Member) : (topRoute ms).Short := by
  unfold topRoute
  split
  · cases hid : idText ms with
    | none => trivial
    | some id => exact idText_length hid
  · trivial

/-- The answers tell how a request was routed. -/
theorem answered_iff (request : Bytes) {r : Route} (hr : r.Short) :
    (∀ state size, pbmpResponse state (some request) size = respond state size r) ↔ searchRoute request = r := by
  constructor
  · intro h
    have hanswer := h none 1024
    rw [pbmpResponse_eq] at hanswer
    exact respond_inj (searchRoute_short request) hr hanswer
  · rintro rfl state size
    exact pbmpResponse_eq state request size

/-! ## Requests that say the same -/

/-- The top-level members that matter have the same values. -/
def SameTop (ms ms' : List Member) : Prop :=
  ∀ key ∈ [ascii "pbmp", ascii "type", ascii "id", ascii "method"], field ms key = field ms' key

theorem SameTop.marked {ms ms' : List Member} (h : SameTop ms ms') : AmBot.marked ms = AmBot.marked ms' := by
  unfold AmBot.marked stringField
  rw [h (ascii "pbmp") (by decide), h (ascii "type") (by decide)]

theorem SameTop.methodOf {ms ms' : List Member} (h : SameTop ms ms') : AmBot.methodOf ms = AmBot.methodOf ms' := by
  unfold AmBot.methodOf stringField
  rw [h (ascii "method") (by decide)]

/-- Two requests have the same answers, and these go to the top-level method
and echo the top-level id. -/
def RoutedAlike (request request' : JsonRequest) : Prop :=
  ∀ state size,
    pbmpResponse state (some request.text) size = pbmpResponse state (some request'.text) size ∧
      pbmpResponse state (some request.text) size = respond state size (topRoute request.members) ∧
      pbmpResponse state (some request'.text) size = respond state size (topRoute request'.members)

theorem routedAlike_iff (request request' : JsonRequest) :
    RoutedAlike request request' ↔
      searchRoute request.text = topRoute request.members ∧ searchRoute request'.text = topRoute request'.members ∧
        topRoute request.members = topRoute request'.members := by
  rw [← answered_iff request.text (topRoute_short request.members),
    ← answered_iff request'.text (topRoute_short request'.members)]
  constructor
  · intro h
    have h₁ : ∀ state size, pbmpResponse state (some request.text) size = respond state size (topRoute request.members) :=
      fun state size => (h state size).2.1
    refine ⟨h₁, fun state size => (h state size).2.2, ?_⟩
    refine respond_inj (topRoute_short _) (topRoute_short _) ?_
    rw [← h₁ none 1024, ← (h none 1024).2.2]
    exact (h none 1024).1
  · rintro ⟨h, h', htop⟩ state size
    exact ⟨by rw [h, h', htop], h state size, h' state size⟩

/-- Requests with the same top-level values are answered alike exactly where
the searches find the top-level members of both, and the id is written the same
way in both. -/
theorem pbmp_routing_iff {request request' : JsonRequest} (hsame : SameTop request.members request'.members) :
    RoutedAlike request request' ↔
      Finds request ∧ Finds request' ∧
        (marked request.members = true → idText request.members = idText request'.members) := by
  rw [routedAlike_iff, searchRoute_iff, searchRoute_iff]
  refine and_congr_right fun _ => and_congr_right fun _ => ?_
  unfold topRoute
  rw [← hsame.marked, ← hsame.methodOf]
  cases marked request.members with
  | false => simp
  | true =>
    cases hid : idText request.members with
    | none => cases hid' : idText request'.members <;> simp
    | some id => cases hid' : idText request'.members <;> simp

/-! ## The answers and the requests -/

/-- The id is written as a text of its value. -/
theorem idText_spells {request : JsonRequest} {v id : Bytes}
    (hfield : field request.members (ascii "id") = some (.string v))
    (hid : idText request.members = some id) : json.Spells id v := by
  obtain ⟨m, hm, hvalue⟩ := Option.map_eq_some_iff.1 hfield
  have htext := request.isObject.text m (member_mem hm)
  rw [hvalue] at htext
  obtain ⟨t, hquoted, hspells⟩ := htext.string_inv
  unfold idText at hid
  rw [hm] at hid
  dsimp only at hid
  rw [hvalue, hquoted, if_neg (by simp [Value.string?]), Option.ite_none_left_eq_some] at hid
  have ht : ((quoted t).drop 1).dropLast = t := by simp [quoted]
  rw [ht] at hid
  rw [← Option.some.inj hid.2]
  exact hspells

/-- What is answered is one JSON object; a request that is not marked as one is
told so under the id `0`, and every other answer has the id of the request and
the names of the state, if these need no escapes. -/
theorem pbmp_answer_means {request : JsonRequest} {v text : Bytes} {state : Option PbmpState} {size : Nat}
    (hid : field request.members (ascii "id") = some (.string v)) (hfinds : FindsId request)
    (hplain : marked request.members = true →
      ∀ s ∈ pastedStrings state (requestMethod request.text), ∀ c ∈ s, Unescaped c)
    (hanswer : pbmpResponse state (some request.text) size = (0, some text)) :
    Means text (if marked request.members then answerEntries state v (requestMethod request.text)
      else errorEntries (ascii "0") (ascii "invalid_request")) := by
  have hwritten {whole : Bytes} (h : writeResponse size whole = (0, some text)) : text = whole := by
    unfold writeResponse snprintf at h
    rw [Prod.mk.injEq] at h
    split_ifs at h with hfits hsize
    · cases h.2
    · rw [List.take_of_length_le (by omega)] at h
      exact (Option.some.inj h.2).symm
    · cases h.1
    · cases h.1
  rw [pbmpResponse_eq] at hanswer
  unfold searchRoute at hanswer
  rw [hfinds.marks] at hanswer
  cases hmarked : marked request.members with
  | false =>
    rw [hmarked] at hanswer
    rw [hwritten hanswer]
    exact invalidRequest_means
  | true =>
    rw [hmarked, if_pos rfl, hfinds.id hmarked] at hanswer
    cases htext : idText request.members with
    | none =>
      rw [htext] at hanswer
      cases hanswer
    | some id =>
      rw [htext] at hanswer
      rw [hwritten hanswer]
      exact answerText_means (idText_spells hid htext) state _ (hplain hmarked)

/-! ## Some requests -/

/-- An object without blanks, as a request. -/
def writtenRequest (ms : List Member) (h : Written ms) : JsonRequest := ⟨objectText ms, ms, h.object⟩

def idMember (id : Bytes) : Member := stringMember (ascii "id") id id

theorem idMembers_written : Written [idMember (ascii "7")] := by
  refine ⟨by simp, fun m hm => ?_⟩
  obtain rfl := List.mem_singleton.1 hm
  exact plainMember_writable (unescaped_of_all rfl) (unescaped_of_all rfl)

/-- An object with an id that is no request. -/
def idRequest : JsonRequest := writtenRequest [idMember (ascii "7")] idMembers_written

/-- What is no request is answered under another id. -/
theorem pbmp_invalid_answer :
    idRequest.text = ascii "\x7b\"id\":\"7\"\x7d" ∧ field idRequest.members (ascii "id") = some (.string (ascii "7")) ∧
      pbmpResponse none (some idRequest.text) 256 = (0, some invalidRequestText) ∧
      ∀ ms, Object invalidRequestText ms → field ms (ascii "id") ≠ some (.string (ascii "7")) := by
  refine ⟨by decide +kernel, rfl, by decide +kernel, fun ms hobject hfield => ?_⟩
  obtain ⟨m, hm, hvalue⟩ := Option.map_eq_some_iff.1 hfield
  have htext := hobject.text m (member_mem hm)
  rw [hvalue] at htext
  obtain ⟨t, hquoted, hspells⟩ := htext.string_inv
  -- no byte of the answer is a 7, and none is a backslash
  have hsubset : ∀ c ∈ t, c ∈ invalidRequestText := by
    intro c hc
    refine (hobject.within (member_mem hm)).subset ?_
    rw [hquoted]
    simp [quoted, hc]
  have hplain : (92 : UInt8) ∉ t := fun hmem => absurd (hsubset 92 hmem) (by decide +kernel)
  obtain rfl := json_unescaped hspells hplain
  exact absurd (hsubset 55 (by decide)) (by decide +kernel)

/-- The members of a request without parameters. -/
def requestMembers (id method : Bytes) : List Member :=
  [oneMember (ascii "pbmp"), stringMember (ascii "type") (ascii "request") (ascii "request"), idMember id,
    stringMember (ascii "method") method method]

theorem request_written {id method : Bytes} (hid : ∀ c ∈ id, Unescaped c) (hmethod : ∀ c ∈ method, Unescaped c) :
    Written (requestMembers id method) := by
  refine ⟨by simp [requestMembers], ?_⟩
  simp only [requestMembers, List.forall_mem_cons]
  exact ⟨oneMember_writable (unescaped_of_all rfl),
    plainMember_writable (unescaped_of_all rfl) (unescaped_of_all rfl),
    plainMember_writable (unescaped_of_all rfl) hid, plainMember_writable (unescaped_of_all rfl) hmethod, by simp⟩

theorem infoRequest_written : Written (requestMembers (ascii "1") (ascii "bot.info")) :=
  request_written (unescaped_of_all rfl) (unescaped_of_all rfl)

def infoRequest : JsonRequest := writtenRequest (requestMembers (ascii "1") (ascii "bot.info")) infoRequest_written

def botState : PbmpState :=
  { nick := some (ascii "AmBot-Q"), networkId := some (ascii "irc-example"), networkName := none, connected := true }

theorem pbmp_answer_bot :
    Means (botInfoText (ascii "1") (ascii "AmBot-Q") (ascii "running"))
      (if marked infoRequest.members then answerEntries (some botState) (ascii "1") (requestMethod infoRequest.text)
        else errorEntries (ascii "0") (ascii "invalid_request")) := by
  have hid : field infoRequest.members (ascii "id") = some (.string (ascii "1")) := rfl
  have hfinds : FindsId infoRequest := ⟨by decide +kernel, by decide +kernel⟩
  have hplain : ∀ s ∈ pastedStrings (some botState) (requestMethod infoRequest.text), ∀ c ∈ s, Unescaped c := by
    decide +kernel
  have hanswer : pbmpResponse (some botState) (some infoRequest.text) 1024 =
      (0, some (botInfoText (ascii "1") (ascii "AmBot-Q") (ascii "running"))) := by
    decide +kernel
  exact pbmp_answer_means hid hfinds (fun _ => hplain) hanswer

/-- The same request with parameters in front of it. -/
def shadowMembers (params : Bytes) : List Member :=
  objectMember (ascii "params") [idMember params] :: requestMembers (ascii "1") (ascii "bot.info")

theorem shadow_written {params : Bytes} (hparams : ∀ c ∈ params, Unescaped c) : Written (shadowMembers params) := by
  refine ⟨by simp [shadowMembers], ?_⟩
  simp only [shadowMembers, List.forall_mem_cons]
  refine ⟨objectMember_writable (unescaped_of_all rfl) ⟨by simp, fun m hm => ?_⟩,
    infoRequest_written.2⟩
  obtain rfl := List.mem_singleton.1 hm
  exact plainMember_writable (unescaped_of_all rfl) hparams

def shadowRequest : JsonRequest := writtenRequest (shadowMembers (ascii "2")) (shadow_written (unescaped_of_all rfl))

theorem sameTop_of {ms ms' : List Member} (hpbmp : field ms (ascii "pbmp") = field ms' (ascii "pbmp"))
    (htype : field ms (ascii "type") = field ms' (ascii "type")) (hid : field ms (ascii "id") = field ms' (ascii "id"))
    (hmethod : field ms (ascii "method") = field ms' (ascii "method")) : SameTop ms ms' := by
  intro key hkey
  simp only [List.mem_cons, List.not_mem_nil, or_false] at hkey
  rcases hkey with rfl | rfl | rfl | rfl
  · exact hpbmp
  · exact htype
  · exact hid
  · exact hmethod

/-- The request with its members in the other order. -/
def reversedRequest : JsonRequest :=
  writtenRequest (requestMembers (ascii "1") (ascii "bot.info")).reverse
    ⟨by simp [requestMembers], fun m hm => infoRequest_written.2 m (List.mem_reverse.1 hm)⟩

theorem pbmp_routing_order :
    RoutedAlike infoRequest reversedRequest ↔
      Finds infoRequest ∧ Finds reversedRequest ∧
        (marked infoRequest.members = true → idText infoRequest.members = idText reversedRequest.members) := by
  have hsame : SameTop infoRequest.members reversedRequest.members := sameTop_of rfl rfl rfl rfl
  exact pbmp_routing_iff hsame

/-- An id in the parameters is taken for the id of the request. -/
theorem pbmp_shadowed :
    infoRequest.text =
        ascii "\x7b\"pbmp\":1,\"type\":\"request\",\"id\":\"1\",\"method\":\"bot.info\"\x7d" ∧
      shadowRequest.text = ascii "\x7b\"params\":\x7b\"id\":\"2\"\x7d,\"pbmp\":1,\"type\":\"request\"," ++
        ascii "\"id\":\"1\",\"method\":\"bot.info\"\x7d" ∧
      SameTop infoRequest.members shadowRequest.members ∧
      pbmpResponse none (some infoRequest.text) 1024 =
        (0, some (botInfoText (ascii "1") (ascii "AmBot") (ascii "stopped"))) ∧
      pbmpResponse none (some shadowRequest.text) 1024 =
        (0, some (botInfoText (ascii "2") (ascii "AmBot") (ascii "stopped"))) ∧
      ¬ RoutedAlike infoRequest shadowRequest := by
  have hinfo : pbmpResponse none (some infoRequest.text) 1024 =
      (0, some (botInfoText (ascii "1") (ascii "AmBot") (ascii "stopped"))) := by decide +kernel
  have hshadow : pbmpResponse none (some shadowRequest.text) 1024 =
      (0, some (botInfoText (ascii "2") (ascii "AmBot") (ascii "stopped"))) := by decide +kernel
  have hsame : SameTop infoRequest.members shadowRequest.members := by
    intro key hkey
    have hparams : ascii "params" ≠ key := by
      rintro rfl
      exact absurd hkey (by decide)
    exact (field_cons_ne hparams).symm
  refine ⟨by decide +kernel, by decide +kernel, hsame, hinfo, hshadow, fun halike => ?_⟩
  have heq := (halike none 1024).1
  rw [hinfo, hshadow] at heq
  exact absurd heq (by decide +kernel)

end AmBot
