import AmBot.Rexx
import Mathlib.Data.List.DropRight
/-!
# What an ARexx command asks for

`dispatch_command` first reads its command, and then does one thing: it turns
the command down, changes or shows the control block, or sends a line. The
reading is a function of the command alone.
-/

namespace AmBot

open RunLib

/-- The one thing a command asks for. -/
inductive PortRequest where
  | refuse (message : Bytes)
  | status
  | connect
  | disconnect
  | reload
  | quit
  | line (text : Bytes)
  deriving DecidableEq, Repr

/-- What is done about it. -/
def PortRequest.run : PortRequest → M (Nat × Bytes)
  | .refuse message => pure (10, setResult message)
  | .status => do
    let control ← getControl
    pure (0, operationStatus control)
  | .connect => controlOperation operationConnect
  | .disconnect => controlOperation operationDisconnect
  | .reload => controlOperation operationReload
  | .quit => controlOperation operationQuit
  | .line text => operationSendRaw text

/-- A line that was put together, if it fits its buffer. -/
def formattedRequest (line : Bytes) : PortRequest :=
  if fits (ircLineMax + 1) line then .line line else .refuse (ascii "LINE TOO LONG")

/-- JOIN, WHOIS and MODE. -/
def argsRequest (command args : Bytes) : PortRequest :=
  if args = [] then .refuse (ascii "MISSING ARGUMENTS") else formattedRequest (command ++ ascii " " ++ args)

/-- The IRC command of a message command. -/
def messageVerb (command : Bytes) : Bytes := if command = ascii "MSG" then ascii "PRIVMSG" else command

/-- The line a message command stands for. -/
def messageLine (command target text : Bytes) : Bytes :=
  if command = ascii "ACTION" then ascii "PRIVMSG " ++ target ++ ascii " :" ++ [1] ++ ascii "ACTION " ++ text ++ [1]
  else if text ≠ [] then messageVerb command ++ ascii " " ++ target ++ ascii " :" ++ text
  else messageVerb command ++ ascii " " ++ target

/-- PART, TOPIC, MSG, NOTICE and ACTION. -/
def messageRequest (command args : Bytes) : PortRequest :=
  let (target, text) := nextWord args 64
  if target = [] then .refuse (ascii "MISSING TARGET") else formattedRequest (messageLine command target text)

def messageCommands : List Bytes := [ascii "PART", ascii "TOPIC", ascii "MSG", ascii "NOTICE", ascii "ACTION"]

/-- The reading of `dispatch_command`. -/
def requestOf (input : Bytes) : PortRequest :=
  let command := commandWord input
  let args := (nextWord input 16).2
  if command = [] then .refuse (ascii "EMPTY COMMAND")
  else if command = ascii "STATUS" then .status
  else if command = ascii "CONNECT" then .connect
  else if command = ascii "DISCONNECT" then .disconnect
  else if command = ascii "RELOAD" then .reload
  else if command = ascii "QUIT" then .quit
  else if command = ascii "RAW" then .line args
  else if command = ascii "JOIN" ∨ command = ascii "WHOIS" ∨ command = ascii "MODE" then argsRequest command args
  else if command ∈ messageCommands then messageRequest command args
  else .refuse (ascii "UNKNOWN COMMAND")

/-! ## The reading and the code -/

theorem skipSpace_skipSpace (p : Bytes) : skipSpace (skipSpace p) = skipSpace p := List.dropWhile_idempotent _ _

theorem skipSpace_nextWord (p : Bytes) (size : Nat) : skipSpace (nextWord p size).2 = (nextWord p size).2 :=
  skipSpace_skipSpace _

theorem formattedRequest_run (line : Bytes) :
    (formattedRequest line).run =
      if fits (ircLineMax + 1) line then operationSendRaw line else pure (10, setResult (ascii "LINE TOO LONG")) := by
  unfold formattedRequest
  split <;> rfl

theorem sendCommand_eq (command p : Bytes) (size : Nat) :
    sendCommand command (nextWord p size).2 = (argsRequest command (nextWord p size).2).run := by
  unfold sendCommand argsRequest
  rw [skipSpace_nextWord]
  dsimp only
  split
  · rfl
  · rw [formattedRequest_run]

theorem dispatchTarget_eq {command : Bytes} (h : command ∈ messageCommands) (p : Bytes) :
    dispatchTarget command p = (messageRequest command p).run := by
  have hverb : command ≠ ascii "MSG" → messageVerb command = command := fun hne => if_neg hne
  have htarget (target text verb : Bytes) (hne : target ≠ []) (hcommand : command ≠ ascii "ACTION")
      (hword : messageVerb command = verb) :
      operationSendTarget verb target text = (formattedRequest (messageLine command target text)).run := by
    unfold operationSendTarget messageLine
    rw [if_neg hne, if_neg hcommand, hword, formattedRequest_run]
  unfold dispatchTarget messageRequest
  dsimp only
  rw [skipSpace_nextWord]
  split
  · rfl
  · rename_i hne
    simp only [messageCommands, List.mem_cons, List.not_mem_nil, or_false] at h
    rcases h with rfl | rfl | rfl | rfl | rfl
    · exact htarget _ _ (ascii "PART") hne (by decide) (by decide)
    · exact htarget _ _ (ascii "TOPIC") hne (by decide) (by decide)
    · exact htarget _ _ (ascii "PRIVMSG") hne (by decide) (by decide)
    · exact htarget _ _ (ascii "NOTICE") hne (by decide) (by decide)
    · exact (formattedRequest_run _).symm

/-- `dispatch_command` does what the command asks for. -/
theorem dispatchCommand_eq (input : Bytes) : dispatchCommand input = (requestOf input).run := by
  unfold dispatchCommand requestOf
  dsimp only
  rw [skipSpace_nextWord]
  generalize commandWord input = command
  simp only [apply_ite PortRequest.run]
  refine ite_congr rfl (fun _ => rfl) fun _ => ite_congr rfl (fun _ => rfl) fun _ => ?_
  refine ite_congr rfl (fun _ => rfl) fun _ => ite_congr rfl (fun _ => rfl) fun _ => ?_
  refine ite_congr rfl (fun _ => rfl) fun _ => ite_congr rfl (fun _ => rfl) fun _ => ?_
  refine ite_congr rfl (fun _ => rfl) fun _ => ?_
  by_cases hargs : command = ascii "JOIN" ∨ command = ascii "WHOIS" ∨ command = ascii "MODE"
  · rw [if_pos hargs, ← sendCommand_eq]
    rcases hargs with rfl | rfl | rfl
    · rfl
    · rfl
    · rfl
  · obtain ⟨hjoin, hwhois, hmode⟩ : command ≠ ascii "JOIN" ∧ command ≠ ascii "WHOIS" ∧ command ≠ ascii "MODE" := by
      simpa only [not_or] using hargs
    rw [if_neg hjoin, if_neg hwhois, if_neg hmode, if_neg hargs]
    have hmessage : (command = ascii "PART" ∨ command = ascii "TOPIC" ∨ command = ascii "MSG" ∨ command = ascii "NOTICE" ∨
        command = ascii "ACTION") ↔ command ∈ messageCommands := by simp [messageCommands]
    by_cases hmem : command ∈ messageCommands
    · rw [if_pos (hmessage.2 hmem), if_pos hmem, dispatchTarget_eq hmem]
    · rw [if_neg fun h => hmem (hmessage.1 h), if_neg hmem]
      rfl

/-- The requests that change the control block, and their commands. -/
def controlCommands : List (PortRequest × Bytes) :=
  [(.connect, ascii "CONNECT"), (.disconnect, ascii "DISCONNECT"), (.reload, ascii "RELOAD"), (.quit, ascii "QUIT")]

theorem formattedRequest_cases (line : Bytes) :
    formattedRequest line = .line line ∨ ∃ message, formattedRequest line = .refuse message := by
  unfold formattedRequest
  split
  · exact .inl rfl
  · exact .inr ⟨_, rfl⟩

/-- A command that formats a line asks for a line, or is refused. -/
theorem formatted_cases (command args : Bytes) {r : PortRequest}
    (h : r = argsRequest command args ∨ r = messageRequest command args) :
    (∃ line, r = .line line) ∨ ∃ message, r = .refuse message := by
  have hformatted (line : Bytes) : (∃ text, formattedRequest line = .line text) ∨
      ∃ message, formattedRequest line = .refuse message :=
    (formattedRequest_cases line).imp_left fun h => ⟨line, h⟩
  rcases h with rfl | rfl
  · unfold argsRequest
    split
    · exact .inr ⟨_, rfl⟩
    · exact hformatted _
  · unfold messageRequest
    dsimp only
    split
    · exact .inr ⟨_, rfl⟩
    · exact hformatted _

theorem controlCommands_inj : ∀ known ∈ controlCommands, ∀ known' ∈ controlCommands, known.1 = known'.1 → known = known' := by
  decide

theorem controlCommands_ne {known : PortRequest × Bytes} (h : known ∈ controlCommands) :
    known.1 ≠ .status ∧ (∀ message, known.1 ≠ .refuse message) ∧ ∀ text, known.1 ≠ .line text := by
  simp only [controlCommands, List.mem_cons, List.not_mem_nil, or_false] at h
  rcases h with rfl | rfl | rfl | rfl
  all_goals exact ⟨by simp, by simp, by simp⟩

/-- The four commands are read as what they are, and nothing else is. -/
theorem requestOf_control {known : PortRequest × Bytes} (hknown : known ∈ controlCommands) (input : Bytes) :
    requestOf input = known.1 ↔ commandWord input = known.2 := by
  unfold requestOf
  dsimp only
  generalize commandWord input = command
  constructor
  · intro hrequest
    obtain ⟨hstatus, hrefuse, hline⟩ := controlCommands_ne hknown
    have hread {request : PortRequest} {word : Bytes} (hin : (request, word) ∈ controlCommands) (heq : request = known.1) :
        word = known.2 := congrArg Prod.snd (controlCommands_inj _ hin _ hknown heq)
    have hformatted {r : PortRequest} (hr : r = argsRequest command (nextWord input 16).2 ∨
        r = messageRequest command (nextWord input 16).2) : r ≠ known.1 := by
      rcases formatted_cases _ _ hr with ⟨text, rfl⟩ | ⟨message, rfl⟩
      · exact (hline text).symm
      · exact (hrefuse message).symm
    split_ifs at hrequest with h₁ h₂ h₃ h₄ h₅ h₆
    · exact absurd hrequest.symm (hrefuse _)
    · exact absurd hrequest.symm hstatus
    · exact h₃.trans (hread (by decide) hrequest)
    · exact h₄.trans (hread (by decide) hrequest)
    · exact h₅.trans (hread (by decide) hrequest)
    · exact h₆.trans (hread (by decide) hrequest)
    · exact absurd hrequest.symm (hline _)
    · exact absurd hrequest (hformatted (.inl rfl))
    · exact absurd hrequest (hformatted (.inr rfl))
    · exact absurd hrequest.symm (hrefuse _)
  · rintro rfl
    simp only [controlCommands, List.mem_cons, List.not_mem_nil, or_false] at hknown
    rcases hknown with rfl | rfl | rfl | rfl <;> rfl

end AmBot
