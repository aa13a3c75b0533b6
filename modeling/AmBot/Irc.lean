import AmBot.World
/-!
# Lines in and out

The framer cuts received bytes into lines of at most 512 bytes; lines go out
with CR LF.
-/

namespace AmBot

open RunLib

def ircLineMax : Nat := 512

/-- A store to `line[i]` is within `char line[AMBOT_IRC_LINE_MAX + 1]`. -/
def inLine (i : Nat) : Bool := i < ircLineMax + 1

/-- The line without one trailing CR. -/
def dropCr (line : Bytes) : Bytes := if line.getLast? = some CR then line.dropLast else line

/-- One byte of `ambot_irc_framer_feed`: the framer after it, and the line to
hand to the callback where the byte ends one. A store outside the array is a
fault. -/
def framerByte (framer : IrcFramer) (ch : UInt8) : Except Halt (IrcFramer × Option Bytes) :=
  if ch = LF then
    if framer.dropping then .ok (ircFramerInit, none)
    else if inLine (dropCr framer.line).length then .ok (ircFramerInit, some (dropCr framer.line))
    else .error .fault
  else if framer.dropping then .ok (framer, none)
  else if ircLineMax ≤ framer.length then .ok ({ line := [], dropping := true }, none)
  else if inLine framer.length then .ok ({ framer with line := framer.line ++ [ch] }, none)
  else .error .fault

/-- `ambot_irc_framer_feed`: `callback` gets the bytes `line[0..length)` and
the user data. A non-zero result drops the rest of the data. -/
def framerFeed {σ : Type} (callback : Bytes → σ → M (Int × σ)) : Bytes → IrcFramer → σ → M (IrcFramer × σ)
  | [], framer, user => pure (framer, user)
  | ch :: data, framer, user =>
    match framerByte framer ch with
    | .error h => Prog.halt h
    | .ok (framer', none) => framerFeed callback data framer' user
    | .ok (framer', some line) => do
      let (rc, user') ← callback line user
      if rc ≠ 0 then pure (framer', user') else framerFeed callback data framer' user'

/-- `ambot_irc_send_line`. -/
def ircSendLine (sock : Int) (line : Bytes) : M Int := do
  let rc ← netSendAll sock line
  if rc ≠ 0 then pure (-1) else netSendAll sock [CR, LF]

/-! ### Where every send takes something -/

section
variable {env : Env} (henv : ∀ n, 0 < env.send n)

include henv

theorem netSendFrom_online (sock : Int) (n : Nat) (data : Bytes) (w : World) :
    ∃ w', netSendFrom sock n data env w = (.ok 0, w') := by
  induction n generalizing data w with
  | zero => cases data <;> exact ⟨w, rfl⟩
  | succ n ih =>
    cases data with
    | nil => exact ⟨w, rfl⟩
    | cons c cs =>
      have hstep : netSendFrom sock (n + 1) (c :: cs) env w =
          (if env.send w.tick ≤ 0 then pure (-1) else netSendFrom sock n ((c :: cs).drop (env.send w.tick).toNat)) env
            (World.log { w with tick := w.tick + 1 } (.send sock (c :: cs) (env.send w.tick))) := rfl
      rw [hstep, if_neg (not_le.2 (henv w.tick))]
      exact ih _ _

theorem ircSendLine_online (sock : Int) (line : Bytes) (w : World) :
    ∃ w', ircSendLine sock line env w = (.ok 0, w') := by
  obtain ⟨w₁, hline⟩ := netSendFrom_online henv sock line.length line w
  obtain ⟨w₂, hend⟩ := netSendFrom_online henv sock [CR, LF].length [CR, LF] w₁
  refine ⟨w₂, ?_⟩
  unfold ircSendLine netSendAll
  rw [Prog.bind_ok hline]
  exact hend

end

theorem online_sends (n : Nat) : 0 < Env.online.send n := (by decide : (0 : Int) < 512)

/-! ### Registration and replies -/

/-- `ambot_irc_send_registration`; `pass` is empty where the caller passes 0. -/
def ircSendRegistration (sock : Int) (nick user pass : Bytes) : M Int := do
  let rc ←
    (if pass ≠ [] then ircSendLine sock (snprintf (ircLineMax + 1) (ascii "PASS " ++ pass))
    else pure 0)
  if rc ≠ 0 then pure (-1)
  else do
    let rc ← ircSendLine sock (snprintf (ircLineMax + 1) (ascii "NICK " ++ nick))
    if rc ≠ 0 then pure (-1)
    else do
      let rc ← ircSendLine sock (snprintf (ircLineMax + 1) (ascii "USER " ++ user ++ ascii " 0 * :AmBot"))
      if rc ≠ 0 then pure (-1) else pure 0

/-- `written > 0 && written < sizeof(line)`, then send and ignore the result. -/
def sendFormatted (sock : Int) (line : Bytes) : M Unit :=
  if fits (ircLineMax + 1) line then do
    let _ ← ircSendLine sock line
    pure ()
  else pure ()

/-- The `JOIN` lines both sessions send for the configured channels. -/
def sendJoins (sock : Int) (channels : List Bytes) : M Unit := do
  log (.join sock channels)
  Prog.each (fun channel => sendFormatted sock (ascii "JOIN " ++ channel)) channels

/-- The answer both sessions give to a line that starts with `PING `. -/
def sendPong (sock : Int) (line : Bytes) : M Unit := sendFormatted sock (ascii "PONG " ++ line.drop 5)

def isPing (line : Bytes) : Bool := (ascii "PING ").isPrefixOf line

end AmBot
