import Mathlib.Data.Bool.AllAny
import AmBot.ChatRequest
import AmBot.Gate
import AmBot.JsonStrings
import AmBot.Replies
/-!
# The buffers of a chat

An event's text is short enough for every buffer on the way from the command to
the request, whatever the service is configured to be.
-/

namespace AmBot

open RunLib RunLib.Prog

/-- The fields of the client hold what they are declared to hold. -/
structure Sized (botai : BotAi) : Prop where
  host : botai.host.length ≤ botaiHostMax
  path : botai.path.length ≤ botaiPathMax
  expert : botai.expert.length ≤ botaiExpertMax

/-! ## The client -/

theorem botaiInit_sized : Sized botaiInit where
  host := by decide
  path := by decide
  expert := by decide

theorem botaiConfigure_sized (url expert : Bytes) (timeoutSeconds : Nat) :
    Sized (botaiConfigure url expert timeoutSeconds).2 := by
  have hport (port : Nat) : Sized { botaiInit with port } := ⟨botaiInit_sized.host, botaiInit_sized.path, botaiInit_sized.expert⟩
  have hcopy (size : Nat) (text : Bytes) : (copyValue (size + 1) text).length ≤ size := List.length_take_le _ _
  unfold botaiConfigure
  split
  · exact botaiInit_sized
  · split
    · exact botaiInit_sized
    · dsimp only
      split
      · exact botaiInit_sized
      · split
        · exact botaiInit_sized
        · split
          · exact hport _
          · generalize (if 2 ≤ ((url.drop 7).drop (upTo 47 (url.drop 7)).length).length then
              (url.drop 7).drop (upTo 47 (url.drop 7)).length else []) = path
            split
            · exact ⟨hcopy _ _, botaiInit_sized.path, botaiInit_sized.expert⟩
            · rename_i hpath
              exact ⟨hcopy _ _, Nat.le_of_lt_succ (not_le.1 hpath), hcopy _ _⟩

theorem botaiCall_sized {botai botai' : BotAi} (h : Sized botai) {call : BotaiCall} {env : Env} {w w' : World}
    (hrun : botaiCall botai call env w = (.ok botai', w')) : Sized botai' := by
  cases call with
  | configure url expert timeoutSeconds =>
    obtain ⟨hbotai, -⟩ := Prod.mk.inj hrun
    rw [← Except.ok.inj hbotai]
    exact botaiConfigure_sized url expert timeoutSeconds
  | check =>
    obtain ⟨⟨rc, botai₁⟩, w₁, hcheck, hrun⟩ := bind_eq_ok.1 hrun
    obtain ⟨hbotai, -⟩ := Prod.mk.inj hrun
    obtain ⟨hflag, -⟩ := botaiCheck_compatible hcheck
    rw [← Except.ok.inj hbotai, hflag]
    exact ⟨h.host, h.path, h.expert⟩
  | chat message replySize =>
    obtain ⟨r, w₁, -, hrun⟩ := bind_eq_ok.1 hrun
    obtain ⟨hbotai, -⟩ := Prod.mk.inj hrun
    rw [← Except.ok.inj hbotai]
    exact h

theorem botaiCalls_sized {botai botai' : BotAi} (h : Sized botai) {calls : List BotaiCall} {env : Env} {w w' : World}
    (hrun : botaiCalls calls botai env w = (.ok botai', w')) : Sized botai' := by
  induction calls generalizing botai w with
  | nil =>
    obtain ⟨hbotai, -⟩ := Prod.mk.inj hrun
    rw [← Except.ok.inj hbotai]
    exact h
  | cons call calls ih =>
    obtain ⟨botai₁, w₁, hcall, hrest⟩ := bind_eq_ok.1 hrun
    exact ih (botaiCall_sized h hcall) hrest

/-! ## The message -/

/-- The message of a command is a part of the event's text. -/
theorem message_length (text : Bytes) : (skipBlanks (commandName text).2).length ≤ text.length := by
  have hblanks : (skipBlanks (commandName text).2).length ≤ (commandName text).2.length :=
    (List.dropWhile_suffix _).length_le
  have hrest : (commandName text).2.length ≤ text.length := by
    simp only [commandName, List.length_drop]
    omega
  exact hblanks.trans hrest

theorem escapes_le (src : Bytes) : escapes src ≤ src.length := List.countP_le_length

theorem jsonEscape_short {message : Bytes} (hprintable : ∀ c ∈ message, 32 ≤ c) (hlength : message.length ≤ 255) :
    ∃ escaped, jsonEscape message 768 = some escaped ∧ escaped.length ≤ 510 := by
  have hescapes := escapes_le message
  refine ⟨message.flatMap escapeByte, ?_, ?_⟩
  · exact jsonEscape_iff.2 ⟨⟨hprintable, by omega⟩, rfl⟩
  · rw [flatMap_escapeByte_length]
    omega

/-! ## The request -/

theorem decimal_length {k n : Nat} (h : n < 10 ^ (k + 1)) : (decimal n).length ≤ k + 1 := by
  induction k generalizing n with
  | zero =>
    have hdigit : n < 10 := by simpa using h
    simp [decimal, Nat.toDigits_of_lt_base hdigit]
  | succ k ih =>
    by_cases hn : n < 10
    · simp [decimal, Nat.toDigits_of_lt_base hn]
    · have hrest := ih (n := n / 10) (by rw [Nat.pow_succ] at h; omega)
      rw [decimal_append (by omega), List.length_append]
      simpa using hrest

theorem chatBody_length (botai : BotAi) (escaped : Bytes) :
    (chatBody botai escaped).length = 26 + botai.expert.length + escaped.length := by
  have h₁ : (ascii "\x7b\"expert\":\"").length = 11 := rfl
  have h₂ : (ascii "\",\"message\":\"").length = 13 := rfl
  have h₃ : (ascii "\"\x7d").length = 2 := rfl
  unfold chatBody
  simp only [List.length_append, h₁, h₂, h₃]
  omega

theorem httpText_chat_length (botai : BotAi) (body : Bytes) :
    (httpText botai (ascii "POST") (ascii "/v1/chat") (some body)).length =
      103 + botai.path.length + botai.host.length + (decimal body.length).length + body.length := by
  have h₁ : (ascii "POST").length = 4 := rfl
  have h₂ : (ascii " ").length = 1 := rfl
  have h₃ : (ascii "/v1/chat").length = 8 := rfl
  have h₄ : (ascii " HTTP/1.0").length = 9 := rfl
  have h₅ : (ascii "Host: ").length = 6 := rfl
  have h₆ : (ascii "Content-Type: application/json").length = 30 := rfl
  have h₇ : (ascii "Content-Length: ").length = 16 := rfl
  have h₈ : (ascii "Connection: close").length = 17 := rfl
  have h₉ : CRLF.length = 2 := rfl
  unfold httpText httpTarget
  simp only [List.length_append, h₁, h₂, h₃, h₄, h₅, h₆, h₇, h₈, h₉]
  omega

theorem fits_of_length {size : Nat} {text : Bytes} (hpos : 0 < text.length) (hlength : text.length < size) :
    fits size text = true := by
  simp only [fits, Bool.and_eq_true, decide_eq_true_eq]
  exact ⟨hpos, hlength⟩

/-- What is formatted for a chat is there in full. -/
structure ChatFits (botai : BotAi) (escaped : Bytes) : Prop where
  body : fits 1024 (chatBody botai escaped) = true
  target : fits (botaiPathMax + 64) (httpTarget botai (ascii "/v1/chat")) = true
  request : fits 1536 (httpText botai (ascii "POST") (ascii "/v1/chat") (some (chatBody botai escaped))) = true

theorem Sized.chatFits {botai : BotAi} (h : Sized botai) {escaped : Bytes} (hescaped : escaped.length ≤ 510) :
    ChatFits botai escaped := by
  obtain ⟨hhost, hpath, hexpert⟩ := h
  unfold botaiHostMax at hhost
  unfold botaiPathMax at hpath
  unfold botaiExpertMax at hexpert
  have hbody := chatBody_length botai escaped
  have hdigits : (decimal (chatBody botai escaped).length).length ≤ 3 := decimal_length (by rw [hbody]; omega)
  have hrequest := httpText_chat_length botai (chatBody botai escaped)
  have hendpoint : (ascii "/v1/chat").length = 8 := rfl
  refine ⟨fits_of_length (by omega) (by omega), fits_of_length ?_ ?_, fits_of_length (by omega) (by omega)⟩
  · rw [httpTarget, List.length_append, hendpoint]
    omega
  · rw [httpTarget, List.length_append, hendpoint, botaiPathMax]
    omega

/-! ## The connection -/

/-- Since the trace `before`, the service was the first thing to be connected. -/
def Dialled (before : List Obs) (botai : BotAi) (w : World) : Prop :=
  ∃ sock t, w.trace = before ++ .connect botai.host botai.port sock :: t

section
variable {α : Type} {before : List Obs} {botai : BotAi} {S : List Kind} {m : M α}

theorem dialled_keeps (hm : Keeps (Acts S) m) :
    Triple (Dialled before botai) m (fun _ => Dialled before botai) (Dialled before botai) := by
  refine Keeps.triple hm fun w w' hw hacts => ?_
  obtain ⟨sock, t, ht⟩ := hw
  obtain ⟨t', ht', -⟩ := hacts.logs
  exact ⟨sock, t ++ t', by rw [ht', ht, List.append_assoc, List.cons_append]⟩

theorem httpRequest_connected {method endpoint request : Bytes} {body : Option Bytes} {size : Nat}
    (h : httpPrepare botai method endpoint body = some request) :
    Triple (fun w => w.trace = before) (httpRequest botai method endpoint body size)
      (fun _ => Dialled before botai) (Dialled before botai) := by
  obtain ⟨use, heq, huse⟩ := httpRequest_connects size h
  rw [heq]
  refine (netConnectIpv4_triple fun sock w w' hw ht => ?_).bind fun sock => dialled_keeps (huse sock)
  exact ⟨sock, [], by rw [ht, hw]⟩

theorem botaiChat_connected {message escaped : Bytes} {replySize : Nat} (hcompatible : botai.compatible = true)
    (henabled : botai.enabled = true) (hsize : replySize ≠ 0) (hescaped : jsonEscape message 768 = some escaped)
    (hfits : ChatFits botai escaped) :
    Triple (fun w => w.trace = before) (botaiChat botai message replySize)
      (fun _ => Dialled before botai) (Dialled before botai) := by
  have hbody : chatPrepare botai message replySize = some (chatBody botai escaped) := by
    unfold chatPrepare
    rw [if_neg (by simp [hcompatible, hsize]), hescaped]
    exact if_pos hfits.body
  have hprepare : httpPrepare botai (ascii "POST") (ascii "/v1/chat") (some (chatBody botai escaped)) =
      some (httpText botai (ascii "POST") (ascii "/v1/chat") (some (chatBody botai escaped))) := by
    unfold httpPrepare
    rw [if_neg (by simp [henabled]), if_neg (by simp [hfits.target])]
    exact if_pos hfits.request
  unfold botaiChat
  rw [hbody]
  refine (httpRequest_connected hprepare).bind fun response => dialled_keeps (S := []) ?_
  split
  · exact keeps_pure _
  · exact keeps_pure _

end

/-- Every command whose message can be sent is sent to the service in full, as
far as its buffers go. -/
theorem ai_request_fits {line : Bytes} {event : Event} (hevent : eventFromIrcLine line = some event)
    (hcommand : isCommand event = true) (hai : findCommand (commandName event.text).1 = some .AI)
    (hmessage : skipBlanks (commandName event.text).2 ≠ [])
    (hprintable : ∀ c ∈ skipBlanks (commandName event.text).2, 32 ≤ c) {calls : List BotaiCall} {env : Env}
    {w w' : World} {botai : BotAi} (hrun : botaiCalls calls botaiInit env w = (.ok botai, w'))
    (hcompatible : botai.compatible = true) (context : CommandContext) (env' : Env) (w₁ : World) :
    ∃ escaped, jsonEscape (skipBlanks (commandName event.text).2) 768 = some escaped ∧ ChatFits botai escaped ∧
      ∃ sock t, (commandsHandleEvent botai event context env' w₁).2.trace =
        w₁.trace ++ .connect botai.host botai.port sock :: t := by
  obtain ⟨-, -, htext⟩ := eventFromIrcLine_length hevent
  obtain ⟨escaped, hescaped, hlength⟩ := jsonEscape_short hprintable ((message_length event.text).trans htext)
  have hfits := (botaiCalls_sized botaiInit_sized hrun).chatFits hlength
  have henabled : botai.enabled = true := (botaiCalls_compatible hrun).2 hcompatible
  refine ⟨escaped, hescaped, hfits, ?_⟩
  have hchat : Triple (fun w => w.trace = w₁.trace)
      (botaiChat botai (skipBlanks (commandName event.text).2) (botaiReplyMax + 1))
      (fun _ => Dialled w₁.trace botai) (Dialled w₁.trace botai) :=
    botaiChat_connected hcompatible henabled (Nat.succ_ne_zero botaiReplyMax) hescaped hfits
  have hall : Triple (fun w => w.trace = w₁.trace) (commandsHandleEvent botai event context)
      (fun _ => Dialled w₁.trace botai) (Dialled w₁.trace botai) := by
    rw [commandsHandleEvent_ai hcommand hai]
    unfold handleAi
    dsimp only
    rw [if_neg hmessage, if_neg (by simp [hcompatible])]
    refine hchat.bind fun r => ?_
    obtain ⟨rc, reply⟩ := r
    exact dialled_keeps (keeps_ite (sendReply_keeps _ _ _) (sendReply_keeps _ _ _))
  exact hall.all (fun _ _ h => h) (fun _ h => h) rfl

/-- The service is configured and found compatible. -/
def compatibleCalls : List BotaiCall := [.configure (ascii "http://ai") [] 0, .check]

def compatibleEnv : Env := Env.replying (ascii "HTTP/1.0 200 OK\r\n\r\n" ++ versionBody)

theorem ai_request_fits_hello :
    ∃ botai w', botaiCalls compatibleCalls botaiInit compatibleEnv (worldInit configInit) = (.ok botai, w') ∧
      botai.compatible = true ∧
      ∃ escaped, jsonEscape (skipBlanks (commandName helloEvent.text).2) 768 = some escaped ∧ ChatFits botai escaped ∧
        ∃ sock t, (commandsHandleEvent botai helloEvent helloContext Env.silent (worldInit configInit)).2.trace =
          (worldInit configInit).trace ++ .connect botai.host botai.port sock :: t := by
  obtain ⟨botai, w', hrun⟩ := botaiCalls_total compatibleCalls botaiInit compatibleEnv (worldInit configInit)
  have hflag : (botaiCalls compatibleCalls botaiInit compatibleEnv (worldInit configInit)).1.map (·.compatible) =
      .ok true := by decide +kernel
  have hcompatible : botai.compatible = true := by
    rw [hrun] at hflag
    exact Except.ok.inj hflag
  have hevent : eventFromIrcLine (ascii ":bob!u@h PRIVMSG #c :!AI hi") = some helloEvent := by decide
  have hprintable : ∀ c ∈ skipBlanks (commandName helloEvent.text).2, 32 ≤ c := List.all_iff_forall_prop.1 rfl
  exact ⟨botai, w', hrun, hcompatible, ai_request_fits hevent (by decide) (by decide) (by decide) hprintable hrun
    hcompatible helloContext Env.silent (worldInit configInit)⟩

end AmBot
