import AmBot.Transmit
/-!
# What an ARexx command does

A command that is turned down does nothing, one that changes the control block
sends nothing, and a line is sent or not, whichever the return code says.
-/

namespace AmBot

open RunLib RunLib.Prog

/-- `connected` and a socket: what `ambot_operation_send_raw` asks for. -/
def Control.Online (control : Control) : Prop := control.connected = true ∧ 0 ≤ control.sock

/-- What becomes of a request: the return code, the control block after it and
what is logged. -/
inductive Outcome (c : Control) : PortRequest → Nat → Control → List Obs → Prop
  | refuse (message : Bytes) : Outcome c (.refuse message) 10 c []
  | status : Outcome c .status 0 c []
  | connect : Outcome c .connect 0 (operationConnect c).2 []
  | disconnect : Outcome c .disconnect 0 (operationDisconnect c).2 []
  | reload : Outcome c .reload 0 (operationReload c).2 []
  | quit : Outcome c .quit 0 (operationQuit c).2 []
  | offline (text : Bytes) : ¬ c.Online → Outcome c (.line text) 10 c []
  | missing : Outcome c (.line []) 10 c []
  | sent (text : Bytes) (t : List Obs) : c.Online → text ≠ [] → LineSent c.sock text 0 t → Outcome c (.line text) 0 c t
  | failed (text : Bytes) (t : List Obs) (rc : Int) : c.Online → text ≠ [] → rc ≠ 0 → LineSent c.sock text rc t →
      Outcome c (.line text) 20 c t

variable {input : Bytes} {env : Env} {w : World}

theorem operationSendRaw_offline (h : ¬ w.control.Online) (text : Bytes) (env : Env) :
    operationSendRaw text env w = (.ok (10, setResult (ascii "NOT CONNECTED")), w) := by
  have hoffline : (!w.control.connected || decide (w.control.sock < 0)) = true := by
    simpa [Control.Online, or_iff_not_imp_left] using h
  unfold operationSendRaw
  rw [bind_ok (show getControl env w = (.ok w.control, w) from rfl), if_pos hoffline]
  rfl

theorem operationSendRaw_online (h : w.control.Online) {text : Bytes} (htext : text ≠ []) {env : Env} {rc : Int} {w' : World}
    (hline : ircSendLine w.control.sock text env w = (.ok rc, w')) :
    operationSendRaw text env w =
      (.ok (if rc ≠ 0 then (20, setResult (ascii "SEND FAILED")) else (0, setResult (ascii "OK"))), w') := by
  obtain ⟨hconnected, hsock⟩ := h
  have hgoes : ¬ (!w.control.connected || decide (w.control.sock < 0)) = true := by simp [hconnected, hsock]
  unfold operationSendRaw
  rw [bind_ok (show getControl env w = (.ok w.control, w) from rfl), if_neg hgoes, if_neg htext, bind_ok hline]
  by_cases hrc : rc ≠ 0
  · rw [if_pos hrc, if_pos hrc]; rfl
  · rw [if_neg hrc, if_neg hrc]; rfl

theorem operationSendRaw_outcome (text : Bytes) (env : Env) (w : World) :
    ∃ rc result w' t, operationSendRaw text env w = (.ok (rc, result), w') ∧ w'.trace = w.trace ++ t ∧
      Outcome w.control (.line text) rc w'.control t := by
  by_cases honline : w.control.Online
  · by_cases htext : text = []
    · subst htext
      obtain ⟨hconnected, hsock⟩ := honline
      have hgoes : ¬ (!w.control.connected || decide (w.control.sock < 0)) = true := by simp [hconnected, hsock]
      refine ⟨10, setResult (ascii "MISSING LINE"), w, [], ?_, by simp, .missing⟩
      unfold operationSendRaw
      rw [bind_ok (show getControl env w = (.ok w.control, w) from rfl), if_neg hgoes, if_pos rfl]
      rfl
    · obtain ⟨rc, w', t, hrun, ht, hsent⟩ := ircSendLine_sent w.control.sock text env w
      have hcontrol : w'.control = w.control := by
        have hacts := ircSendLine_keeps w.control.sock text env w
        rw [hrun] at hacts
        exact hacts.control (by decide)
      have hline := operationSendRaw_online honline htext hrun
      by_cases hrc : rc ≠ 0
      · rw [if_pos hrc] at hline
        exact ⟨_, _, w', t, hline, ht, by rw [hcontrol]; exact .failed text t rc honline htext hrc hsent⟩
      · rw [if_neg hrc] at hline
        obtain rfl := not_not.1 hrc
        exact ⟨_, _, w', t, hline, ht, by rw [hcontrol]; exact .sent text t honline htext hsent⟩
  · exact ⟨_, _, w, [], operationSendRaw_offline honline text env, by simp, .offline text honline⟩

/-- Every request comes to one of its outcomes. -/
theorem PortRequest.run_outcome (r : PortRequest) (env : Env) (w : World) :
    ∃ rc result w' t, r.run env w = (.ok (rc, result), w') ∧ w'.trace = w.trace ++ t ∧
      Outcome w.control r rc w'.control t := by
  cases r with
  | refuse message => exact ⟨_, _, w, [], rfl, by simp, .refuse message⟩
  | status => exact ⟨_, _, w, [], rfl, by simp, .status⟩
  | connect => exact ⟨_, _, w.setControl _, [], rfl, by simp [World.setControl], .connect⟩
  | disconnect => exact ⟨_, _, w.setControl _, [], rfl, by simp [World.setControl], .disconnect⟩
  | reload => exact ⟨_, _, w.setControl _, [], rfl, by simp [World.setControl], .reload⟩
  | quit => exact ⟨_, _, w.setControl _, [], rfl, by simp [World.setControl], .quit⟩
  | line text => exact operationSendRaw_outcome text env w

theorem dispatchCommand_outcome (input : Bytes) (env : Env) (w : World) :
    ∃ rc result w' t, dispatchCommand input env w = (.ok (rc, result), w') ∧ w'.trace = w.trace ++ t ∧
      Outcome w.control (requestOf input) rc w'.control t := by
  rw [dispatchCommand_eq]
  exact (requestOf input).run_outcome env w

/-! ## The words of a command -/

/-- The first word of a string. -/
def firstWord (p : Bytes) : Bytes := (skipSpace p).takeWhile (!isSpace ·)

/-- What follows the first word and the space after it. -/
def afterWord (p : Bytes) : Bytes := skipSpace ((skipSpace p).dropWhile (!isSpace ·))

theorem nextWord_eq (p : Bytes) (size : Nat) : nextWord p size = (copyValue size (firstWord p), afterWord p) := rfl

/-- The buffer of the command word is long enough for every command. -/
theorem commandWord_iff {known : Bytes} (hknown : known.length < 15) (input : Bytes) :
    commandWord input = known ↔ uppercase (firstWord input) = known := by
  have htake : commandWord input = (uppercase (firstWord input)).take 15 := List.map_take
  rw [htake]
  constructor
  · intro h
    have hlength := congrArg List.length h
    rw [List.length_take] at hlength
    rwa [List.take_of_length_le (by omega)] at h
  · rintro rfl
    exact List.take_of_length_le hknown.le

/-! ## The control block -/

section
variable {c c' : Control} {r : PortRequest} {rc : Nat} {t : List Obs}

theorem Outcome.code (h : Outcome c r rc c' t) : rc = 0 ∨ rc = 10 ∨ rc = 20 := by cases h <;> simp

theorem Outcome.unchanged (h : Outcome c r rc c' t) (hrc : rc ≠ 0) : c' = c := by
  cases h with
  | connect => exact absurd rfl hrc
  | disconnect => exact absurd rfl hrc
  | reload => exact absurd rfl hrc
  | quit => exact absurd rfl hrc
  | _ => rfl

/-- A command that is turned down has sent nothing. -/
theorem Outcome.silent (h : Outcome c r rc c' t) (hrc : rc = 10) : t = [] := by
  cases h with
  | sent => cases hrc
  | failed => cases hrc
  | _ => rfl

/-- A line that has been sent. -/
theorem Outcome.line {text : Bytes} (h : Outcome c (.line text) 0 c' t) :
    c.Online ∧ text ≠ [] ∧ LineSent c.sock text 0 t := by
  cases h with
  | sent _ _ honline htext hsent => exact ⟨honline, htext, hsent⟩

/-- Without a connection, no line is sent. -/
theorem Outcome.offline_line {text : Bytes} (h : Outcome c (.line text) rc c' t) (hoffline : ¬ c.Online) : rc = 10 := by
  cases h with
  | offline => rfl
  | missing => rfl
  | sent _ _ honline => exact absurd honline hoffline
  | failed _ _ _ honline => exact absurd honline hoffline

theorem Outcome.missing_line (h : Outcome c (.line []) rc c' t) : rc = 10 := by
  cases h with
  | offline => rfl
  | missing => rfl
  | sent _ _ _ htext => exact absurd rfl htext
  | failed _ _ _ _ htext => exact absurd rfl htext

theorem Outcome.changes (h : Outcome c r rc c' t) (hne : c' ≠ c) : ∃ known ∈ controlCommands, r = known.1 := by
  cases h with
  | connect => exact ⟨(.connect, ascii "CONNECT"), by decide, rfl⟩
  | disconnect => exact ⟨(.disconnect, ascii "DISCONNECT"), by decide, rfl⟩
  | reload => exact ⟨(.reload, ascii "RELOAD"), by decide, rfl⟩
  | quit => exact ⟨(.quit, ascii "QUIT"), by decide, rfl⟩
  | _ => exact absurd rfl hne

/-- `connected` says whether there is a socket, and at most one of `connected`,
a connect asked for and a disconnect asked for stands against the next. -/
structure Control.Consistent (c : Control) : Prop where
  connected : c.connected = decide (0 ≤ c.sock)
  settled : c.connected = true → c.connectRequested = false
  oneWay : c.connectRequested = true → c.disconnectRequested = false

theorem controlInit_consistent : controlInit.Consistent := ⟨rfl, by simp [controlInit], by simp [controlInit]⟩

theorem Control.Consistent.setSocket (h : c.Consistent) (sock : Int) : (controlSetSocket c sock).Consistent := by
  unfold controlSetSocket
  by_cases hsock : 0 ≤ sock
  · exact ⟨rfl, by simp [hsock], by simp [hsock]⟩
  · exact ⟨rfl, by simp [hsock], by simpa [hsock] using h.oneWay⟩

theorem Control.Consistent.outcome (h : c.Consistent) (ho : Outcome c r rc c' t) : c'.Consistent := by
  cases ho with
  | connect =>
    unfold operationConnect
    by_cases hconnected : c.connected
    · rw [if_pos hconnected]
      exact h
    · rw [if_neg hconnected]
      exact ⟨h.connected, fun hset => absurd hset hconnected, fun _ => rfl⟩
  | disconnect => exact ⟨h.connected, fun _ => rfl, fun hset => Bool.noConfusion hset⟩
  | reload => exact ⟨h.connected, h.settled, h.oneWay⟩
  | quit => exact ⟨h.connected, fun _ => rfl, fun hset => Bool.noConfusion hset⟩
  | _ => exact h

end

/-- A call that may change the control block. -/
inductive ControlCall where
  | dispatch (input : Bytes)
  | socket (sock : Int)

def ControlCall.run : ControlCall → M Unit
  | .dispatch input => do
    let _ ← dispatchCommand input
    pure ()
  | .socket sock => setSocket sock

/-- A world whose control block is consistent. -/
def World.Consistent (w : World) : Prop := w.control.Consistent

theorem dispatchCommand_consistent (input : Bytes) :
    Triple World.Consistent (dispatchCommand input) (fun _ => World.Consistent) World.Consistent := by
  intro env w hw
  obtain ⟨rc, result, w', t, hrun, -, houtcome⟩ := dispatchCommand_outcome input env w
  rw [hrun]
  exact hw.outcome houtcome

theorem ControlCall.run_consistent (call : ControlCall) : Triple World.Consistent call.run (fun _ => World.Consistent) World.Consistent := by
  cases call with
  | dispatch input => exact (dispatchCommand_consistent input).bind fun _ => triple_pure fun _ => id
  | socket sock => exact triple_modify fun w hw => hw.setSocket sock

theorem controlCalls_consistent (calls : List ControlCall) :
    Triple World.Consistent (each ControlCall.run calls) (fun _ => World.Consistent) World.Consistent :=
  @triple_each _ _ _ World.Consistent (fun _ => World.Consistent) _ (fun call _ => call.run_consistent) calls

/-- A command that fails leaves the control block, one that is turned down
sends nothing, four commands change the block, and it is consistent whatever
calls came before. -/
theorem dispatchCommand_control :
    (∀ input env w, ∃ rc result w' t, dispatchCommand input env w = (.ok (rc, result), w') ∧ w'.trace = w.trace ++ t ∧
      (rc = 0 ∨ rc = 10 ∨ rc = 20) ∧
      (rc ≠ 0 → w'.control = w.control) ∧
      (rc = 10 → ∀ sock data n, .send sock data n ∉ t) ∧
      (w'.control ≠ w.control →
        uppercase (firstWord input) ∈ [ascii "CONNECT", ascii "DISCONNECT", ascii "RELOAD", ascii "QUIT"])) ∧
    ∀ calls env (w : World), (each ControlCall.run calls env (w.setControl controlInit)).2.control.Consistent := by
  constructor
  · intro input env w
    obtain ⟨rc, result, w', t, hrun, ht, houtcome⟩ := dispatchCommand_outcome input env w
    refine ⟨rc, result, w', t, hrun, ht, houtcome.code, houtcome.unchanged, ?_, ?_⟩
    · intro hrc sock data n hsend
      rw [houtcome.silent hrc] at hsend
      exact absurd hsend List.not_mem_nil
    · intro hchanged
      obtain ⟨known, hknown, hrequest⟩ := houtcome.changes hchanged
      have hshort : ∀ known ∈ controlCommands, known.2.length < 15 := by decide
      have hword := (commandWord_iff (hshort known hknown) input).1 ((requestOf_control hknown input).1 hrequest)
      rw [hword]
      exact List.mem_map_of_mem hknown
  · intro calls env w
    exact (controlCalls_consistent calls).all (fun _ _ => id) (fun _ => id) controlInit_consistent

end AmBot
