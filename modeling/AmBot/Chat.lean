import AmBot.Exchange
import AmBot.Scanner
/-!
# A chat with the service

`ambot_botai_chat` from the request to the reply: which responses it accepts,
and what it leaves in the caller's buffer where it fails.
-/

namespace AmBot

open RunLib RunLib.Prog

/-- The first blank line of `text` is before `body`. -/
def HeaderEnds (text body : Bytes) : Prop :=
  ∃ head, text = head ++ CRLF ++ CRLF ++ body ∧ ∀ k < head.length, ¬ CRLF ++ CRLF <+: text.drop k

theorem httpBody_iff {text body : Bytes} : httpBody text = some body ↔ HeaderEnds text body := by
  rw [httpBody, Option.map_eq_some_iff]
  constructor
  · rintro ⟨rest, hrest, rfl⟩
    obtain ⟨⟨body, rfl⟩, head, rfl, hbefore⟩ := strstr_eq_some.1 hrest
    exact ⟨head, by simp [CRLF], hbefore⟩
  · rintro ⟨head, rfl, hbefore⟩
    refine ⟨CRLF ++ CRLF ++ body, strstr_eq_some.2 ⟨List.prefix_append _ _, head, by simp, hbefore⟩, by simp [CRLF]⟩

/-- The exchange of one chat: `stream` is the answer to `message`. -/
def Chatted (env : Env) (w : World) (botai : BotAi) (message : Bytes) (replySize : Nat) (stream : Bytes) : Prop :=
  ∃ body, chatPrepare botai message replySize = some body ∧
    Exchanged env w botai (ascii "POST") (ascii "/v1/chat") (some body) stream

theorem Chatted.unique {env : Env} {w : World} {botai : BotAi} {message stream stream' : Bytes} {replySize : Nat}
    (h : Chatted env w botai message replySize stream) (h' : Chatted env w botai message replySize stream') :
    stream = stream' := by
  obtain ⟨body, hbody, hexchanged⟩ := h
  obtain ⟨body', hbody', hexchanged'⟩ := h'
  obtain rfl := Option.some.inj (hbody.symm.trans hbody')
  exact hexchanged.unique hexchanged'

/-- A response that answers with `value`. -/
def ChatResponse (replySize : Nat) (stream value : Bytes) : Prop :=
  Accepted botaiResponseMax stream ∧ ∃ body, HeaderEnds (cstr stream) body ∧ ChatAnswer replySize body value

variable {env : Env} {w : World} {botai : BotAi} {message stream : Bytes} {replySize : Nat}

theorem botaiChat_total (botai : BotAi) (message : Bytes) (replySize : Nat) :
    Total (botaiChat botai message replySize) := by
  unfold botaiChat
  split
  · exact total_pure _
  · refine (httpRequest_total _ _ _ _ _).bind fun response => ?_
    cases response with
    | none => exact total_pure _
    | some _ => exact total_pure _

/-- A chat whose response is taken: the text parser decides. -/
theorem botaiChat_accepted (h : Chatted env w botai message replySize stream) (hstream : Accepted botaiResponseMax stream) :
    ∃ w', botaiChat botai message replySize env w =
      (.ok (if (parseTextResponse (httpBody (cstr stream)) replySize).2 then 0 else -1,
        (parseTextResponse (httpBody (cstr stream)) replySize).1), w') := by
  obtain ⟨body, hbody, hexchanged⟩ := h
  obtain ⟨w', hrequest⟩ := (httpRequest_iff (by decide)).2 ⟨stream, hexchanged, hstream, rfl⟩
  refine ⟨w', ?_⟩
  unfold botaiChat
  rw [hbody]
  exact bind_ok hrequest _

/-- A chat that ends without a response leaves nothing. -/
theorem botaiChat_refused (h : ∀ stream, Chatted env w botai message replySize stream → ¬ Accepted botaiResponseMax stream) :
    ∃ w', botaiChat botai message replySize env w = (.ok (-1, []), w') := by
  unfold botaiChat
  cases hbody : chatPrepare botai message replySize with
  | none => exact ⟨w, rfl⟩
  | some body =>
    obtain ⟨response, w', hrequest⟩ := httpRequest_total botai (ascii "POST") (ascii "/v1/chat")
      (some body) botaiResponseMax env w
    refine ⟨w', ?_⟩
    dsimp only
    rw [bind_ok hrequest]
    cases response with
    | none => rfl
    | some response =>
      obtain ⟨stream, hexchanged, hstream, -⟩ := (httpRequest_iff (by decide)).1 ⟨w', hrequest⟩
      exact absurd hstream (h stream ⟨body, hbody, hexchanged⟩)

/-! ## The grammar -/

theorem nul_not_mem_cstr (buffer : Bytes) : NUL ∉ cstr buffer := fun h => by
  simpa [NUL] using List.mem_takeWhile_imp h

theorem HeaderEnds.subset {text body : Bytes} (h : HeaderEnds text body) : body ⊆ text := by
  obtain ⟨head, rfl, -⟩ := h
  exact List.subset_append_right _ _

/-- The text parser takes the body exactly where the grammar does. -/
theorem parseTextResponse_response (hstream : Accepted botaiResponseMax stream) (reply : Bytes) :
    parseTextResponse (httpBody (cstr stream)) replySize = (reply, true) ↔ ChatResponse replySize stream reply := by
  constructor
  · intro h
    cases hbody : httpBody (cstr stream) with
    | none => simp [hbody, parseTextResponse] at h
    | some body =>
      rw [hbody] at h
      exact ⟨hstream, body, httpBody_iff.1 hbody, parseTextResponse_iff.1 h⟩
  · rintro ⟨-, body, hbody, hanswer⟩
    rw [httpBody_iff.2 hbody, parseTextResponse_iff.2 hanswer]

/-- For every answer to a request that was sent, in any reads, the chat returns
0 exactly where the response is in the grammar, and then the reply is the value
of its text; the scanner reads no byte past the terminator of the body. -/
theorem botaiChat_response (h : Chatted env w botai message replySize stream) :
    ∃ rc reply w', botaiChat botai message replySize env w = (.ok (rc, reply), w') ∧
      (rc = 0 ↔ ∃ value, ChatResponse replySize stream value) ∧
      (∀ value, ChatResponse replySize stream value → reply = value) ∧
      ∀ body, HeaderEnds (cstr stream) body → ∃ out done, scanTextResponse replySize (terminated body) = .ok (out, done) ∧
        (Accepted botaiResponseMax stream → reply = out ∧ (rc = 0 ↔ done = true)) := by
  by_cases hstream : Accepted botaiResponseMax stream
  · obtain ⟨w', hrun⟩ := botaiChat_accepted h hstream
    rcases hparse : parseTextResponse (httpBody (cstr stream)) replySize with ⟨reply, done⟩
    rw [hparse] at hrun
    have hdone : (if done = true then (0 : Int) else -1) = 0 ↔ done = true := by cases done <;> decide
    refine ⟨_, _, _, hrun, ?_, ?_, ?_⟩
    · rw [hdone]
      constructor
      · rintro rfl
        exact ⟨reply, (parseTextResponse_response hstream reply).1 hparse⟩
      · rintro ⟨value, hvalue⟩
        have := (parseTextResponse_response hstream value).2 hvalue
        rw [hparse] at this
        exact congrArg Prod.snd this
    · intro value hvalue
      have := (parseTextResponse_response hstream value).2 hvalue
      rw [hparse] at this
      exact congrArg Prod.fst this
    · intro body hbody
      have hnul : NUL ∉ body := fun hmem => nul_not_mem_cstr stream (hbody.subset hmem)
      rw [httpBody_iff.2 hbody] at hparse
      exact ⟨reply, done, by rw [scanTextResponse_terminated replySize hnul, hparse], fun _ => ⟨rfl, hdone⟩⟩
  · have hnone : ∀ stream', Chatted env w botai message replySize stream' → ¬ Accepted botaiResponseMax stream' :=
      fun stream' h' => by rwa [h'.unique h]
    obtain ⟨w', hrun⟩ := botaiChat_refused hnone
    refine ⟨_, _, _, hrun, ?_, ?_, ?_⟩
    · exact ⟨fun h0 => by simp at h0, fun ⟨_, hvalue⟩ => absurd hvalue.1 hstream⟩
    · rintro value ⟨hvalue, -⟩
      exact absurd hvalue hstream
    · intro body hbody
      have hnul : NUL ∉ body := fun hmem => nul_not_mem_cstr stream (hbody.subset hmem)
      rcases hscan : parseTextResponse (some body) replySize with ⟨out, done⟩
      exact ⟨out, done, by rw [scanTextResponse_terminated replySize hnul, hscan], fun hacc => absurd hacc hstream⟩

/-- An outside where the service takes a request and answers with `response`. -/
def Env.replying (response : Bytes) : Env :=
  { Env.online with
    waitSelect := fun _ => { rc := 1, rexx := false, ctrlC := false, readable := fun _ => true }
    recv := fun tick => if tick = 5 then some response else some [] }

theorem replying_sends (response : Bytes) {request : Bytes} (hlen : request.length ≤ 512) (w : World) (hne : request ≠ []) :
    ∃ w', netSendAll 3 request (Env.replying response) w = (.ok 0, w') ∧ w'.tick = w.tick + 1 := by
  obtain ⟨c, rest, rfl⟩ := List.exists_cons_of_ne_nil hne
  have hall : (c :: rest).drop 512 = [] := List.drop_eq_nil_of_le hlen
  refine ⟨{ w with tick := w.tick + 1 }.log (.send 3 (c :: rest) 512), ?_, rfl⟩
  have hrest : netSendFrom 3 rest.length ((c :: rest).drop 512) (Env.replying response) =
      fun w => (.ok 0, w) := by
    rw [hall]
    cases rest <;> rfl
  exact congrFun hrest _

theorem replying_exchanged {response request : Bytes} {method endpoint : Bytes} {body : Option Bytes}
    (hprepare : httpPrepare botai method endpoint body = some request) (hlen : request.length ≤ 512)
    (hne : request ≠ []) (hresponse : response ≠ []) :
    Exchanged (Env.replying response) (worldInit configInit) botai method endpoint body response := by
  obtain ⟨w₁, hconnect, ht₁⟩ : ∃ w₁, netConnectIpv4 botai.host botai.port (Env.replying response) (worldInit configInit) =
      (.ok 3, w₁) ∧ w₁.tick = 3 := ⟨_, rfl, rfl⟩
  obtain ⟨w₂, hsend, ht₂⟩ := replying_sends response hlen w₁ hne
  have hready : ∀ tick, (Env.replying response).ReadyAt 3 tick := fun tick => ⟨Int.one_pos, rfl⟩
  have ht : w₂.tick = 4 := by omega
  refine ⟨request, 3, w₁, w₂, [response], hprepare, hconnect, by decide, hsend, ?_, by simp⟩
  rw [ht]
  exact ⟨hready 4, rfl, hresponse, hready 6, rfl⟩

/-- A BotAI that was found compatible. -/
def botaiReady : BotAi := { (botaiConfigure (ascii "http://ai") [] 0).2 with compatible := true }

theorem replying_chatted {response : Bytes} (hresponse : response ≠ []) :
    Chatted (Env.replying response) (worldInit configInit) botaiReady (ascii "hi") 1025 response := by
  have hbody : chatPrepare botaiReady (ascii "hi") 1025 = some (chatBody botaiReady (ascii "hi")) := by decide +kernel
  have hprepare : httpPrepare botaiReady (ascii "POST") (ascii "/v1/chat") (some (chatBody botaiReady (ascii "hi"))) =
      some (httpText botaiReady (ascii "POST") (ascii "/v1/chat") (some (chatBody botaiReady (ascii "hi")))) := by
    decide +kernel
  exact ⟨_, hbody, replying_exchanged hprepare (by decide +kernel) (by decide +kernel) hresponse⟩

def helloResponse : Bytes := ascii "HTTP/1.0 200 OK\r\n\r\n\x7b\"text\":\"hello\"\x7d"

theorem botaiChat_response_hello :
    ∃ rc reply w', botaiChat botaiReady (ascii "hi") 1025 (Env.replying helloResponse) (worldInit configInit) =
        (.ok (rc, reply), w') ∧
      (rc = 0 ↔ ∃ value, ChatResponse 1025 helloResponse value) ∧
      (∀ value, ChatResponse 1025 helloResponse value → reply = value) ∧
      ∀ body, HeaderEnds (cstr helloResponse) body → ∃ out done, scanTextResponse 1025 (terminated body) = .ok (out, done) ∧
        (Accepted botaiResponseMax helloResponse → reply = out ∧ (rc = 0 ↔ done = true)) :=
  botaiChat_response (replying_chatted (by decide))

example : (botaiChat botaiReady (ascii "hi") 1025 (Env.replying helloResponse) (worldInit configInit)).1 =
    .ok (0, ascii "hello") := by
  decide +kernel

/-! ## Failures -/

/-- A failed chat leaves the reply empty, whatever the outside does, unless a
response that is taken has a body that gets to a byte of a text without being
in the grammar. -/
theorem botaiChat_failure_empty_iff (botai : BotAi) (message : Bytes) (replySize : Nat) (env : Env) (w : World) :
    (∀ rc reply w', botaiChat botai message replySize env w = (.ok (rc, reply), w') → rc ≠ 0 → reply = []) ↔
      ∀ stream body, Chatted env w botai message replySize stream → Accepted botaiResponseMax stream →
        HeaderEnds (cstr stream) body → ReachesText replySize body → ∃ value, ChatAnswer replySize body value := by
  constructor
  · intro h stream body hchat hstream hbody hreaches
    obtain ⟨w', hrun⟩ := botaiChat_accepted hchat hstream
    rw [httpBody_iff.2 hbody] at hrun
    rcases hparse : parseTextResponse (some body) replySize with ⟨reply, done⟩
    have hstores : reply ≠ [] := by simpa [hparse] using parseTextResponse_stores.2 hreaches
    rw [hparse] at hrun
    cases done with
    | true => exact ⟨reply, parseTextResponse_iff.1 hparse⟩
    | false => exact absurd (h _ _ _ hrun (by simp)) hstores
  · intro h rc reply w' hrun hrc
    by_cases htaken : ∃ stream, Chatted env w botai message replySize stream ∧ Accepted botaiResponseMax stream
    · obtain ⟨stream, hchat, hstream⟩ := htaken
      obtain ⟨w₁, hrun₁⟩ := botaiChat_accepted hchat hstream
      rw [hrun] at hrun₁
      obtain ⟨hresult, -⟩ := Prod.mk.inj hrun₁
      obtain ⟨hrc', hreply⟩ := Prod.mk.inj (Except.ok.inj hresult)
      cases hbody : httpBody (cstr stream) with
      | none => simpa [hbody, parseTextResponse] using hreply
      | some body =>
        rw [hbody] at hrc' hreply
        by_contra hne
        rw [hreply] at hne
        obtain ⟨value, hvalue⟩ := h stream body hchat hstream (httpBody_iff.1 hbody) (parseTextResponse_stores.1 hne)
        rw [parseTextResponse_iff.2 hvalue] at hrc'
        exact hrc hrc'
    · obtain ⟨w₁, hrun₁⟩ := botaiChat_refused fun stream hchat hstream => htaken ⟨stream, hchat, hstream⟩
      rw [hrun] at hrun₁
      exact congrArg Prod.snd (Except.ok.inj (congrArg Prod.fst hrun₁))

def twiceResponse : Bytes :=
  ascii "HTTP/1.0 200 OK\r\n\r\n\x7b\"text\":\"first\",\"text\":\"second\"\x7d"

/-- An answer with two texts is refused, with the first one in the reply. -/
theorem botaiChat_failure_not_empty :
    ¬ ∀ botai message replySize env w rc reply w', 0 < replySize →
      botaiChat botai message replySize env w = (.ok (rc, reply), w') → rc ≠ 0 → reply = [] := by
  intro h
  have hrun : (botaiChat botaiReady (ascii "hi") 1025 (Env.replying twiceResponse) (worldInit configInit)).1 =
      .ok (-1, ascii "first") := by decide +kernel
  rcases hw : botaiChat botaiReady (ascii "hi") 1025 (Env.replying twiceResponse) (worldInit configInit) with ⟨r, w'⟩
  rw [hw] at hrun
  subst hrun
  have hempty := h _ _ _ _ _ _ _ _ (by decide) hw (by decide)
  exact absurd hempty (by decide)

end AmBot
