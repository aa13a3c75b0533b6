import AmBot.Effects
/-!
# User text in the negotiation

The negotiation looks for its tokens anywhere in a line. `Quiet` is what a
state and a line must meet for the handler to do nothing; a line that is
neither CAP, AUTHENTICATE nor a numeric is left alone exactly there.
-/

namespace AmBot

open RunLib RunLib.Prog

/-- The first token after the optional `:prefix `. -/
def ircCommand (line : Bytes) : Bytes :=
  match line with
  | 58 :: p => upTo SP (skipBlanks (p.drop (upTo SP p).length))
  | p => upTo SP p

/-- A line no server answer of the negotiation has: its command is neither CAP,
nor AUTHENTICATE, nor three digits. -/
def OtherCommand (line : Bytes) : Prop :=
  ircCommand line ≠ ascii "CAP" ∧ ircCommand line ≠ ascii "AUTHENTICATE" ∧
    ¬ ((ircCommand line).length = 3 ∧ (ircCommand line).all isDigit)

/-- The line is taken for the server's CAP LS. -/
def isCapLs (line : Bytes) : Bool := containsToken line " CAP " && containsToken line " LS "

/-- The line is taken for the server's CAP ACK of sasl. -/
def isCapAck (state : ModernIrc) (line : Bytes) : Bool :=
  state.saslRequested && containsToken line " CAP " && containsToken line " ACK " && containsToken line "sasl"

/-- The line is taken for a failed authentication. -/
def isSaslFailure (line : Bytes) : Bool :=
  containsToken line " 904 " || containsToken line " 905 " || containsToken line " 906 " || containsToken line " 907 "

/-- No token that the handler looks for in this state is in the line. -/
def Quiet (state : ModernIrc) (line : Bytes) : Prop :=
  state.capActive = false ∨ state.capEnded = true ∨
  (isCapLs line = false ∧ isCapAck state line = false ∧ containsToken line " 903 " = false ∧
    isSaslFailure line = false)

theorem authenticate_command {line : Bytes} (h : (ascii "AUTHENTICATE +").isPrefixOf line) :
    ircCommand line = ascii "AUTHENTICATE" := by
  obtain ⟨rest, rfl⟩ := List.isPrefixOf_iff_prefix.1 h
  rfl

/-! ## Sending is seen -/

section
variable {S : List Kind} {α β : Type}

theorem Acts.tick_le {w w' : World} (h : Acts S w w') : w.tick ≤ w'.tick := by
  induction h with
  | refl => exact Nat.le_refl _
  | tail _ ha ih => cases ha <;> first | exact ih | exact Nat.le_succ_of_le ih

/-- A program whose first part uses up an answer does so too. -/
theorem bind_tick {m : M α} {f : α → M β} {env : Env} {w : World} (hm : w.tick < (m env w).2.tick)
    (hf : ∀ a, Keeps (Acts S) (f a)) : w.tick < ((m >>= f) env w).2.tick := by
  rw [bind_run]
  rcases hr : m env w with ⟨_ | a, w₁⟩ <;> rw [hr] at hm
  · exact hm
  · exact Nat.lt_of_lt_of_le hm (hf a env w₁).tick_le

end

/-- Sending a line uses up an answer of the outside. -/
theorem ircSendLine_tick (sock : Int) (c : UInt8) (line : Bytes) (env : Env) (w : World) :
    w.tick < (ircSendLine sock (c :: line) env w).2.tick := by
  have hsend : w.tick < (netSendAll sock (c :: line) env w).2.tick := by
    refine bind_tick (S := [.send]) (Nat.lt_succ_self _) fun rc => ?_
    refine Keeps.bind (keeps_log (by simp [Obs.kind])) fun _ => ?_
    exact keeps_ite (keeps_pure _) (netSendFrom_keeps _ _ _)
  exact bind_tick hsend fun _ => keeps_ite (keeps_pure _) (netSendAll_keeps _ _)

/-- Nor is a program that sends a line first ever the one that does nothing. -/
theorem send_ne {α : Type} (sock : Int) (c : UInt8) (line : Bytes) (f : Int → α) (env : Env) (w : World)
    (r : Except Halt α) : (do let rc ← ircSendLine sock (c :: line); pure (f rc) : M α) env w ≠ (r, w) := by
  intro h
  have ht := bind_tick (f := fun rc => pure (f rc)) (ircSendLine_tick sock c line env w) fun _ =>
    keeps_pure (R := Acts []) _
  rw [h] at ht
  exact Nat.lt_irrefl _ ht

/-! ## The handler -/

/-- On a line with another command the handler returns zero, sends nothing and
leaves the state alone exactly where the tokens it looks for are absent. -/
theorem modernIrcHandleLine_other (sock : Int) (config : NetworkConfig) (state : ModernIrc) {line : Bytes}
    (h : OtherCommand line) (env : Env) (w : World) :
    modernIrcHandleLine sock config state line env w = (.ok (0, state), w) ↔ Quiet state line := by
  unfold modernIrcHandleLine Quiet
  by_cases hclosed : (!state.capActive || state.capEnded) = true
  · simp only [hclosed, if_true]
    have hor : state.capActive = false ∨ state.capEnded = true := by simpa using hclosed
    exact ⟨fun _ => or_assoc.1 (.inl hor), fun _ => rfl⟩
  have hopen : state.capActive = true ∧ state.capEnded = false := by simpa using hclosed
  have hauth : (ascii "AUTHENTICATE +").isPrefixOf line = false := by
    cases hp : (ascii "AUTHENTICATE +").isPrefixOf line
    · rfl
    · exact absurd (authenticate_command hp) h.2.1
  rw [if_neg hclosed]
  simp only [hopen.1, hopen.2, hauth, Bool.and_false, Bool.false_eq_true, if_false, Bool.true_eq_false, false_or]
  -- one case for each branch of the handler, in its order: a branch that is taken sends a line
  by_cases hls : isCapLs line = true
  · simp only [hls, show (containsToken line " CAP " && containsToken line " LS ") = true from hls, if_true,
      Bool.true_eq_false, false_and, iff_false]
    split
    · exact send_ne _ _ _ _ _ _ _
    · exact send_ne _ _ _ _ _ _ _
  rw [Bool.not_eq_true] at hls
  simp only [hls, show (containsToken line " CAP " && containsToken line " LS ") = false from hls, Bool.false_eq_true,
    if_false, true_and]
  by_cases hack : isCapAck state line = true
  · simp only [hack, show (state.saslRequested && containsToken line " CAP " && containsToken line " ACK " &&
      containsToken line "sasl") = true from hack, if_true, Bool.true_eq_false, false_and, iff_false]
    exact send_ne _ _ _ _ _ _ _
  rw [Bool.not_eq_true] at hack
  simp only [hack, show (state.saslRequested && containsToken line " CAP " && containsToken line " ACK " &&
    containsToken line "sasl") = false from hack, Bool.false_eq_true, if_false, true_and]
  by_cases hdone : containsToken line " 903 " = true
  · simp only [hdone, if_true, Bool.true_eq_false, false_and, iff_false]
    exact send_ne _ _ _ _ _ _ _
  rw [if_neg hdone]
  by_cases hfailed : isSaslFailure line = true
  · simp only [hfailed, show (containsToken line " 904 " || containsToken line " 905 " || containsToken line " 906 " ||
      containsToken line " 907 ") = true from hfailed, if_true, Bool.true_eq_false, and_false, iff_false]
    exact send_ne _ _ _ _ _ _ _
  rw [Bool.not_eq_true] at hdone hfailed
  simp only [hdone, hfailed, show (containsToken line " 904 " || containsToken line " 905 " ||
    containsToken line " 906 " || containsToken line " 907 ") = false from hfailed, Bool.false_eq_true, if_false,
    and_self, iff_true]
  rfl

/-- The handler between its two marks. -/
theorem modernIrcAnswer_run {sock : Int} {config : NetworkConfig} {state : ModernIrc} {line : Bytes} {env : Env}
    {w w' : World} {r : Int × ModernIrc}
    (h : modernIrcHandleLine sock config state line env (w.log (.line line state)) = (.ok r, w')) :
    modernIrcAnswer sock config state line env w = (.ok r, w'.log .negotiated) := by
  have hline : log (.line line state) env w = (.ok (), w.log (.line line state)) := rfl
  rw [modernIrcAnswer, bind_ok hline, bind_ok h]
  rfl

/-! ## The handler of the multi-network session -/

/-- Where the negotiation leaves a line alone, the line is read as an event at
most: the connection stays. -/
theorem multinetHandleLine_quiet (botai : BotAi) {bytes : Bytes} {runtime : NetworkRuntime} (hsock : 0 ≤ runtime.sock)
    {env : Env} (hquiet : ∀ w, modernIrcHandleLine runtime.sock runtime.config runtime.modern (cstr bytes) env w =
      (.ok (0, runtime.modern), w)) {r : Int × NetworkRuntime} {w w' : World}
    (hr : multinetHandleLine botai bytes runtime env w = (.ok r, w')) : r.1 = 0 ∧ r.2.sock = runtime.sock := by
  have hopen : ¬ runtime.sock < 0 := by omega
  unfold multinetHandleLine at hr
  rw [if_neg hopen, bind_ok (modernIrcAnswer_run (hquiet _))] at hr
  simp only [ne_eq, not_true_eq_false, if_false, hopen] at hr
  by_cases hping : isPing (cstr bytes)
  · rw [if_pos hping] at hr
    obtain ⟨_, _, _, h⟩ := bind_eq_ok.1 hr
    cases h
    exact ⟨rfl, rfl⟩
  rw [if_neg hping] at hr
  cases hevent : eventFromIrcLine (cstr bytes) with
  | none =>
    rw [hevent] at hr
    cases hr
    exact ⟨rfl, rfl⟩
  | some event =>
    simp only [hevent] at hr
    by_cases hpush : (eventQueuePush runtime.events event).1 = 0
    · simp only [hpush, not_true_eq_false, if_false] at hr
      obtain ⟨_, _, _, h⟩ := bind_eq_ok.1 hr
      cases h
      exact ⟨rfl, rfl⟩
    · simp only [hpush, not_false_eq_true, if_true] at hr
      cases hr
      exact ⟨rfl, rfl⟩

/-- A line whose command is neither CAP, AUTHENTICATE nor a numeric leaves the
negotiation and the connection alone exactly where none of the tokens that the
negotiation looks for in its state is anywhere in the line. -/
theorem negotiation_ignores_iff (botai : BotAi) (bytes : Bytes) (runtime : NetworkRuntime) (hsock : 0 ≤ runtime.sock)
    (h : OtherCommand (cstr bytes)) (env : Env) (w : World) :
    (modernIrcHandleLine runtime.sock runtime.config runtime.modern (cstr bytes) env w =
        (.ok (0, runtime.modern), w) ∧
      ∀ r w', multinetHandleLine botai bytes runtime env w = (.ok r, w') → r.1 = 0 ∧ r.2.sock = runtime.sock) ↔
    Quiet runtime.modern (cstr bytes) := by
  have hother := modernIrcHandleLine_other runtime.sock runtime.config runtime.modern h env
  refine ⟨fun hq => (hother w).1 hq.1, fun hq => ⟨(hother w).2 hq, fun _ _ hr => ?_⟩⟩
  exact multinetHandleLine_quiet botai hsock (fun w => (hother w).2 hq) hr

/-- A network that has connected with CAP negotiation, whose server has not
answered. -/
def negotiating : NetworkRuntime :=
  { (runtimeInit (copyNetwork (networkDefaults configInit))).connected 3 with
    modern := { modernIrcInit with capActive := true } }

/-- A message without tokens. -/
theorem negotiation_ignores_hello :
    (modernIrcHandleLine negotiating.sock negotiating.config negotiating.modern (ascii ":n!u@h PRIVMSG #c :hello")
      Env.online (worldInit configInit)).1 = .ok (0, negotiating.modern) :=
  congrArg Prod.fst ((negotiation_ignores_iff botaiInit (ascii ":n!u@h PRIVMSG #c :hello") negotiating (by decide)
    (by unfold OtherCommand; decide +kernel) Env.online (worldInit configInit)).2 (by unfold Quiet; decide +kernel)).1

/-- A message with ` 904 ` in its text closes the connection. -/
theorem negotiation_steered :
    (modernIrcStart 3 negotiating.config Env.online (worldInit configInit)).1 = .ok (0, negotiating.modern) ∧
    OtherCommand (ascii ":n!u@h PRIVMSG #c :x 904 y") ∧
    (modernIrcHandleLine negotiating.sock negotiating.config negotiating.modern (ascii ":n!u@h PRIVMSG #c :x 904 y")
      Env.online (worldInit configInit)).1 ≠ .ok (0, negotiating.modern) ∧
    (multinetHandleLine botaiInit (ascii ":n!u@h PRIVMSG #c :x 904 y") negotiating Env.online
      (worldInit configInit)).1.map (fun r => (r.1, r.2.sock)) = .ok (1, -1) := by
  unfold OtherCommand
  decide +kernel

end AmBot
