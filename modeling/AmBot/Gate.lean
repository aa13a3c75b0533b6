import AmBot.Chat
import AmBot.Url
/-!
# When the bot talks to the service

The BotAI state over a whole history of calls. Only a check sets `compatible`,
and only for one response; the last configure or check therefore decides, and a
chat that is not allowed makes no connection.
-/

namespace AmBot

open RunLib RunLib.Prog

inductive BotaiCall where
  | configure (url expert : Bytes) (timeoutSeconds : Nat)
  | check
  | chat (message : Bytes) (replySize : Nat)
  deriving DecidableEq, Repr

def BotaiCall.isChat : BotaiCall → Bool
  | .chat .. => true
  | .configure .. | .check => false

/-- One call, and the state after it. -/
def botaiCall (botai : BotAi) : BotaiCall → M BotAi
  | .configure url expert timeoutSeconds => pure (botaiConfigure url expert timeoutSeconds).2
  | .check => do
    let (_, botai) ← botaiCheck botai
    pure botai
  | .chat message replySize => do
    let _ ← botaiChat botai message replySize
    pure botai

def botaiCalls : List BotaiCall → BotAi → M BotAi
  | [], botai => pure botai
  | call :: calls, botai => do
    let botai ← botaiCall botai call
    botaiCalls calls botai

/-- The response of a compatible service. -/
def VersionResponse (stream : Bytes) : Prop :=
  Accepted botaiResponseMax stream ∧ ∃ blanks, HeaderEnds (cstr stream) (versionBody ++ blanks) ∧
    ∀ c ∈ blanks, c = SP ∨ c = TAB ∨ c = CR ∨ c = LF

/-- A check of `botai` that gets such a response. -/
def Checked (env : Env) (w : World) (botai : BotAi) : Prop :=
  ∃ stream, Exchanged env w botai (ascii "GET") (ascii "/v1/version") none stream ∧ VersionResponse stream

variable {env : Env} {w w' : World} {botai botai' : BotAi} {calls : List BotaiCall}

/-! ## Each call -/

theorem isJsonSpace_iff {c : UInt8} : isJsonSpace c = true ↔ c = SP ∨ c = TAB ∨ c = CR ∨ c = LF := by
  simp [isJsonSpace, or_assoc]

/-- The body without its blanks at the end. -/
theorem trimmed_iff {body : Bytes} :
    (body.reverse.dropWhile isJsonSpace).reverse = versionBody ↔
      ∃ blanks, body = versionBody ++ blanks ∧ ∀ c ∈ blanks, c = SP ∨ c = TAB ∨ c = CR ∨ c = LF := by
  constructor
  · intro h
    refine ⟨(body.reverse.takeWhile isJsonSpace).reverse, ?_, fun c hc => ?_⟩
    · rw [← h, ← List.reverse_append, List.takeWhile_append_dropWhile, List.reverse_reverse]
    · exact isJsonSpace_iff.1 (List.mem_takeWhile_imp (List.mem_reverse.1 hc))
  · rintro ⟨blanks, rfl, hblanks⟩
    have hall : ∀ c ∈ blanks.reverse, isJsonSpace c = true :=
      fun c hc => isJsonSpace_iff.2 (hblanks c (List.mem_reverse.1 hc))
    rw [List.reverse_append, List.dropWhile_append_of_pos hall]
    decide

theorem botaiCheck_total (botai : BotAi) : Total (botaiCheck botai) := by
  unfold botaiCheck
  refine (httpRequest_total _ _ _ _ _).bind fun response => ?_
  split
  · exact total_pure _
  · exact total_ite (total_pure _) (total_pure _)

/-- A check changes the flag only, and sets it for one response. -/
theorem botaiCheck_compatible {rc : Int} (h : botaiCheck botai env w = (.ok (rc, botai'), w')) :
    botai' = { botai with compatible := botai'.compatible } ∧ (botai'.compatible = true ↔ Checked env w botai) := by
  obtain ⟨response, w₁, hrequest, h⟩ := bind_eq_ok.1 h
  have hresponse : ∀ text, response = some text ↔ ∃ stream, Exchanged env w botai (ascii "GET") (ascii "/v1/version")
      none stream ∧ Accepted botaiResponseMax stream ∧ text = cstr stream := by
    intro text
    rw [← httpRequest_iff (by decide)]
    constructor
    · rintro rfl
      exact ⟨w₁, hrequest⟩
    · rintro ⟨w₂, hrequest'⟩
      rw [hrequest] at hrequest'
      simpa using congrArg Prod.fst hrequest'
  have hchecked : Checked env w botai ↔ ∃ body, response.bind httpBody = some body ∧
      (body.reverse.dropWhile isJsonSpace).reverse = versionBody := by
    constructor
    · rintro ⟨stream, hexchanged, haccepted, blanks, hbody, hblanks⟩
      refine ⟨_, ?_, trimmed_iff.2 ⟨blanks, rfl, hblanks⟩⟩
      rw [(hresponse _).2 ⟨stream, hexchanged, haccepted, rfl⟩]
      exact httpBody_iff.2 hbody
    · rintro ⟨body, hbody, htrim⟩
      obtain ⟨text, htext, hbody⟩ := Option.bind_eq_some_iff.1 hbody
      obtain ⟨stream, hexchanged, haccepted, rfl⟩ := (hresponse text).1 htext
      obtain ⟨blanks, rfl, hblanks⟩ := trimmed_iff.1 htrim
      exact ⟨stream, hexchanged, haccepted, blanks, httpBody_iff.1 hbody, hblanks⟩
  rw [hchecked]
  cases hbody : response.bind httpBody with
  | none =>
    rw [hbody] at h
    obtain ⟨⟨-, rfl⟩, -⟩ : (-1 = rc ∧ { botai with compatible := false } = botai') ∧ w₁ = w' := by simpa using h
    exact ⟨rfl, by simp⟩
  | some body =>
    rw [hbody] at h
    by_cases htrim : (body.reverse.dropWhile isJsonSpace).reverse = versionBody
    · obtain ⟨⟨-, rfl⟩, -⟩ : (0 = rc ∧ { botai with compatible := true } = botai') ∧ w₁ = w' := by simpa [htrim] using h
      exact ⟨rfl, by simp [htrim]⟩
    · obtain ⟨⟨-, rfl⟩, -⟩ : (-1 = rc ∧ { botai with compatible := false } = botai') ∧ w₁ = w' := by simpa [htrim] using h
      exact ⟨rfl, by simp [htrim]⟩

theorem Checked.enabled (h : Checked env w botai) : botai.enabled = true := by
  obtain ⟨stream, ⟨request, -, -, -, -, hprepare, -⟩, -⟩ := h
  by_contra hoff
  simp [httpPrepare, hoff] at hprepare

/-- A chat that is not allowed does nothing. -/
theorem botaiChat_incompatible (h : botai.compatible = false) (message : Bytes) (replySize : Nat) :
    botaiChat botai message replySize = pure (-1, []) := by
  simp [botaiChat, chatPrepare, h]

/-! ## Histories -/

theorem botaiCall_total (botai : BotAi) (call : BotaiCall) : Total (botaiCall botai call) := by
  cases call with
  | configure => exact total_pure _
  | check => exact (botaiCheck_total _).bind fun _ => total_pure _
  | chat message replySize => exact (botaiChat_total _ _ _).bind fun _ => total_pure _

theorem botaiCalls_total (calls : List BotaiCall) (botai : BotAi) : Total (botaiCalls calls botai) := by
  induction calls generalizing botai with
  | nil => exact total_pure _
  | cons call calls ih => exact (botaiCall_total _ _).bind fun _ => ih _

/-- A longer history is the shorter one and then the rest. -/
theorem botaiCalls_append (before after : List BotaiCall) (botai : BotAi) (env : Env) (w : World) :
    botaiCalls (before ++ after) botai env w =
      (do let botai ← botaiCalls before botai
          botaiCalls after botai : M BotAi) env w := by
  induction before generalizing botai w with
  | nil => rfl
  | cons call before ih =>
    simp only [List.cons_append, botaiCalls, bind_run]
    rcases botaiCall botai call env w with ⟨_ | botai', w'⟩
    · rfl
    · exact (ih _ _).trans (bind_run _ _ _ _)

/-- The last call that can change the flag is a check that succeeds. -/
def LastChecked (env : Env) (w : World) (calls : List BotaiCall) : Prop :=
  ∃ before after botai w₁, calls = before ++ .check :: after ∧ (∀ call ∈ after, call.isChat = true) ∧
    botaiCalls before botaiInit env w = (.ok botai, w₁) ∧ Checked env w₁ botai

theorem lastChecked_chat (message : Bytes) (replySize : Nat) :
    LastChecked env w (calls ++ [.chat message replySize]) ↔ LastChecked env w calls := by
  constructor
  · rintro ⟨before, after, botai, w₁, heq, hchats, hrun, hchecked⟩
    rcases List.eq_nil_or_concat after with rfl | ⟨after, call, rfl⟩
    · simp at heq
    · rw [List.concat_eq_append, ← List.cons_append, ← List.append_assoc] at heq
      obtain ⟨rfl, -⟩ := List.append_inj' heq rfl
      exact ⟨before, after, botai, w₁, rfl, fun c hc => hchats c (by simp [hc]), hrun, hchecked⟩
  · rintro ⟨before, after, botai, w₁, rfl, hchats, hrun, hchecked⟩
    refine ⟨before, after ++ [.chat message replySize], botai, w₁, by simp, fun c hc => ?_, hrun, hchecked⟩
    rcases List.mem_append.1 hc with hc | hc
    · exact hchats c hc
    · rw [List.mem_singleton.1 hc]
      rfl

/-- What the last call says of itself, unless it is a chat. -/
theorem lastChecked_last {call : BotaiCall} (hcall : call.isChat = false) :
    LastChecked env w (calls ++ [call]) ↔
      call = .check ∧ ∃ botai w₁, botaiCalls calls botaiInit env w = (.ok botai, w₁) ∧ Checked env w₁ botai := by
  constructor
  · rintro ⟨before, after, botai, w₁, heq, hchats, hrun, hchecked⟩
    rcases List.eq_nil_or_concat after with rfl | ⟨after, last, rfl⟩
    · obtain ⟨rfl, hlast⟩ := List.append_inj' heq rfl
      exact ⟨by simpa using hlast, botai, w₁, hrun, hchecked⟩
    · rw [List.concat_eq_append, ← List.cons_append, ← List.append_assoc] at heq
      obtain ⟨-, hlast⟩ := List.append_inj' heq rfl
      obtain rfl : call = last := by simpa using hlast
      have := hchats call (by simp)
      simp [hcall] at this
  · rintro ⟨rfl, botai, w₁, hrun, hchecked⟩
    exact ⟨calls, [], botai, w₁, rfl, by simp, hrun, hchecked⟩

/-- The flag after a history. -/
theorem botaiCalls_compatible (h : botaiCalls calls botaiInit env w = (.ok botai, w')) :
    (botai.compatible = true ↔ LastChecked env w calls) ∧ (botai.compatible = true → botai.enabled = true) := by
  induction calls using List.reverseRecOn generalizing botai w' with
  | nil =>
    obtain ⟨rfl, -⟩ : botaiInit = botai ∧ w = w' := by simpa [botaiCalls] using h
    refine ⟨⟨fun h0 => by simp [botaiInit] at h0, ?_⟩, by simp [botaiInit]⟩
    rintro ⟨before, after, -, -, heq, -⟩
    simp at heq
  | append_singleton calls call ih =>
    rw [botaiCalls_append] at h
    obtain ⟨botai₁, w₁, hrun, h⟩ := bind_eq_ok.1 h
    obtain ⟨botai₂, w₂, hcall, h⟩ := bind_eq_ok.1 h
    obtain ⟨rfl, -⟩ : botai₂ = botai ∧ w₂ = w' := by simpa [botaiCalls] using h
    cases call with
    | configure url expert timeoutSeconds =>
      obtain ⟨rfl, -⟩ : (botaiConfigure url expert timeoutSeconds).2 = botai₂ ∧ w₁ = w₂ := by simpa [botaiCall] using hcall
      rw [lastChecked_last rfl, botaiConfigure_compatible]
      simp
    | check =>
      obtain ⟨⟨rc, botai₃⟩, w₃, hcheck, hcall⟩ := bind_eq_ok.1 hcall
      obtain ⟨rfl, -⟩ : botai₃ = botai₂ ∧ w₃ = w₂ := by simpa using hcall
      obtain ⟨hflag, hchecked⟩ := botaiCheck_compatible hcheck
      rw [lastChecked_last rfl, hchecked]
      refine ⟨⟨fun h0 => ⟨rfl, botai₁, w₁, hrun, h0⟩, ?_⟩, fun h0 => by rw [hflag]; exact h0.enabled⟩
      rintro ⟨-, botai, w₄, hrun', h0⟩
      obtain ⟨hb, rfl⟩ := Prod.mk.inj (hrun.symm.trans hrun')
      rwa [Except.ok.inj hb]
    | chat message replySize =>
      obtain ⟨-, w₃, -, hcall⟩ := bind_eq_ok.1 hcall
      obtain ⟨rfl, -⟩ : botai₁ = botai₂ ∧ w₃ = w₂ := by simpa using hcall
      rw [lastChecked_chat]
      exact ih hrun

/-- For every history of calls and everything the outside does: the run
returns; the flag is set exactly when the last configure or check is a check
that got the response of a compatible service; then the client is enabled too;
and a chat that connects finds the flag set. -/
theorem botai_gating (calls : List BotaiCall) (env : Env) (w : World) :
    ∃ botai w', botaiCalls calls botaiInit env w = (.ok botai, w') ∧
      (botai.compatible = true ↔ LastChecked env w calls) ∧
      (botai.compatible = true → botai.enabled = true) ∧
      ∀ message replySize, ∃ t, (botaiChat botai message replySize env w').2.trace = w'.trace ++ t ∧
        ((∃ o ∈ t, o.kind = .connect) → botai.compatible = true) := by
  obtain ⟨botai, w', hrun⟩ := botaiCalls_total calls botaiInit env w
  obtain ⟨hflag, henabled⟩ := botaiCalls_compatible hrun
  refine ⟨botai, w', hrun, hflag, henabled, fun message replySize => ?_⟩
  obtain ⟨t, ht, -⟩ := (botaiChat_keeps botai message replySize env w').logs
  refine ⟨t, ht, fun ⟨o, ho, _⟩ => ?_⟩
  by_contra hoff
  rw [botaiChat_incompatible (by simpa using hoff), pure_run] at ht
  rw [List.self_eq_append_right.1 ht] at ho
  simp at ho

end AmBot
