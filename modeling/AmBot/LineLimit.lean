import AmBot.Framing
import AmBot.Dispatch
/-!
# The longest line

The formatters accept lines of at most 512 bytes and send them with a CRLF. The
framer counts the CR as a byte of the line.
-/

namespace AmBot

open RunLib RunLib.Prog

/-! ## What the framer makes of a line -/

/-- Fed to a fresh framer in any reads, `bytes` is one line for the callback:
`line`, and nothing else. -/
def HeardAs (bytes line : Bytes) : Prop :=
  ∀ {σ : Type} (callback : Bytes → σ → M (Int × σ)), ReturnsZero (fun _ => True) callback →
    ∀ reads, reads.flatten = bytes → ∀ user env w,
      framerFeeds callback reads ircFramerInit user env w =
        (do let (_, user) ← callback line user
            pure (ircFramerInit, user) : M (IrcFramer × σ)) env w

theorem cut_line {line : Bytes} (hlf : LF ∉ line) : cut LF [] (line ++ CRLF) = ([line ++ [CR]], []) := by
  have hcr : LF ∉ line ++ [CR] := by
    simp only [List.mem_append, List.mem_singleton, not_or]
    exact ⟨hlf, by decide⟩
  have hsplit : (line ++ CRLF).splitOn LF = [line ++ [CR], []] := by
    rw [show line ++ CRLF = (line ++ [CR]) ++ LF :: [] by simp [CRLF], List.splitOn_append_cons_self_of_not_mem hcr]
    rfl
  have hcut := splitOn_eq_cut LF List.not_mem_nil (line ++ CRLF)
  rw [List.nil_append, hsplit] at hcut
  obtain ⟨hlines, hrest⟩ := List.append_inj' (show [line ++ [CR]] ++ [[]] = _ from hcut) rfl
  exact Prod.ext hlines.symm (List.singleton_inj.1 hrest).symm

theorem dropCr_snoc (line : Bytes) : dropCr (line ++ [CR]) = line := by simp [dropCr]

/-- A transmitted line is heard as it was meant if the framer holds its CR too. -/
theorem heardAs_iff {line : Bytes} (hlf : LF ∉ line) : HeardAs (line ++ CRLF) line ↔ line.length < ircLineMax := by
  have hfeeds {σ : Type} (callback : Bytes → σ → M (Int × σ)) (h : ReturnsZero (fun _ => True) callback)
      (reads : List Bytes) (hreads : reads.flatten = line ++ CRLF) (user : σ) (env : Env) (w : World) :
      framerFeeds callback reads ircFramerInit user env w =
        (do let user ← deliver callback (framedLines [line ++ [CR]]) user
            pure (ircFramerInit, user) : M (IrcFramer × σ)) env w := by
    have hrun := @framerFeeds_eq σ (fun _ => True) callback h [] reads user trivial env w
    rwa [absFramer_nil, hreads, cut_line hlf, absFramer_nil] at hrun
  constructor
  · intro hheard
    by_contra hlong
    have hnone : framedLines [line ++ [CR]] = [] := by
      simp only [framedLines, List.map_eq_nil_iff, List.filter_eq_nil_iff, List.mem_singleton, decide_eq_true_eq]
      rintro segment rfl
      simp only [List.length_append, List.length_singleton]
      omega
    have hcollect := hfeeds collect collect_returnsZero [line ++ CRLF] (by simp) [] Env.silent (worldInit configInit)
    rw [hheard collect collect_returnsZero _ (by simp), hnone] at hcollect
    cases hcollect
  · intro hshort σ callback h reads hreads user env w
    have hone : framedLines [line ++ [CR]] = [line] := by
      have hlength : (line ++ [CR]).length ≤ ircLineMax := by
        rw [List.length_append]
        exact hshort
      rw [framedLines, List.filter_cons_of_pos (by simpa using hlength), List.filter_nil, List.map_singleton, dropCr_snoc]
    rw [hfeeds callback h reads hreads, hone]
    simp only [deliver, bind_run]
    rcases callback line user env w with ⟨_ | r, w'⟩
    · rfl
    · rfl

/-! ## The formatters -/

/-- A formatter, the socket it sends on and the line it makes. -/
inductive Formats (control : Control) : {α : Type} → M α → Int → Bytes → Prop
  | reply (context : CommandContext) (target text : Bytes) :
      Formats control (sendReply context target text) context.sock (ascii "PRIVMSG " ++ target ++ ascii " :" ++ text)
  | pong (sock : Int) (ping : Bytes) : Formats control (sendPong sock ping) sock (ascii "PONG " ++ ping.drop 5)
  | join (sock : Int) (channel : Bytes) :
      Formats control (sendFormatted sock (ascii "JOIN " ++ channel)) sock (ascii "JOIN " ++ channel)
  | command (command : Bytes) {args : Bytes} : control.Online → skipSpace args ≠ [] →
      Formats control (sendCommand command args) control.sock (command ++ ascii " " ++ skipSpace args)
  | target (command : Bytes) {target text : Bytes} : control.Online → target ≠ [] →
      Formats control (operationSendTarget command target text) control.sock
        (if text ≠ [] then command ++ ascii " " ++ target ++ ascii " :" ++ text else command ++ ascii " " ++ target)
  | action {args : Bytes} : control.Online → (nextWord args 64).1 ≠ [] →
      Formats control (dispatchTarget (ascii "ACTION") args) control.sock
        (ascii "PRIVMSG " ++ (nextWord args 64).1 ++ ascii " :" ++ [1] ++ ascii "ACTION " ++
          skipSpace (nextWord args 64).2 ++ [1])

variable {env : Env} {w : World} {sock : Int} {line : Bytes} {t : List Obs}

theorem operationSendRaw_transmits (hcontrol : w.control.Online) (hline : line ≠ []) (env : Env) :
    ∃ a w' t, operationSendRaw line env w = (.ok a, w') ∧ w'.trace = w.trace ++ t ∧ Transmits w.control.sock line t := by
  obtain ⟨rc, w', t, hrun, ht, hsent⟩ := ircSendLine_sent w.control.sock line env w
  exact ⟨_, w', t, operationSendRaw_online hcontrol hline hrun, ht, hsent.transmits⟩

/-- A command formatted in an operation goes out if it fits the buffer. -/
theorem sendRaw_fitting (hcontrol : w.control.Online) (line : Bytes) (env : Env) :
    ∃ a w' t, (if fits (ircLineMax + 1) line then operationSendRaw line
        else pure (10, setResult (ascii "LINE TOO LONG"))) env w = (.ok a, w') ∧ w'.trace = w.trace ++ t ∧
      (fits (ircLineMax + 1) line = true ∧ Transmits w.control.sock line t ∨
        fits (ircLineMax + 1) line = false ∧ t = []) := by
  cases hfits : fits (ircLineMax + 1) line with
  | true =>
    have hline : line ≠ [] := by rintro rfl; cases hfits
    obtain ⟨a, w', t, hrun, ht, htransmits⟩ := operationSendRaw_transmits hcontrol hline env
    exact ⟨a, w', t, hrun, ht, .inl ⟨rfl, htransmits⟩⟩
  | false => exact ⟨_, w, [], rfl, by simp, .inr ⟨rfl, rfl⟩⟩

/-- A formatter sends the line it makes if that fits the buffer, and nothing
otherwise. -/
theorem Formats.transmits {α : Type} {m : M α} (h : Formats w.control m sock line) (env : Env) :
    ∃ a w' t, m env w = (.ok a, w') ∧ w'.trace = w.trace ++ t ∧
      (fits (ircLineMax + 1) line = true ∧ Transmits sock line t ∨ fits (ircLineMax + 1) line = false ∧ t = []) := by
  cases h with
  | reply context target text => exact ⟨(), sendFormatted_transmits _ _ env w⟩
  | pong ping => exact ⟨(), sendFormatted_transmits _ _ env w⟩
  | join channel => exact ⟨(), sendFormatted_transmits _ _ env w⟩
  | command command hcontrol hargs =>
    unfold sendCommand
    rw [if_neg hargs]
    exact sendRaw_fitting hcontrol _ env
  | target command hcontrol htarget =>
    unfold operationSendTarget
    rw [if_neg htarget]
    exact sendRaw_fitting hcontrol _ env
  | action hcontrol htarget =>
    unfold dispatchTarget
    dsimp only
    rw [if_neg htarget, if_neg (by decide), if_neg (by decide), if_neg (by decide), if_neg (by decide)]
    exact sendRaw_fitting hcontrol _ env

/-- What a formatter has transmitted is heard as its line, and is within the
512 bytes of an IRC message, if and only if the line is at most 510 bytes long. -/
theorem formatted_line_heard_iff {α : Type} {m : M α} (hm : Formats w.control m sock line)
    (haccepted : fits (ircLineMax + 1) line = true) (hlf : LF ∉ line)
    (htrace : (m env w).2.trace = w.trace ++ t) (htakes : TakesSends sock t) :
    HeardAs (takenOn sock t) line ∧ (takenOn sock t).length ≤ 512 ↔ line.length ≤ 510 := by
  obtain ⟨a, w', u, hrun, hu, ⟨-, htransmits⟩ | ⟨hlong, -⟩⟩ := hm.transmits env
  · rw [hrun] at htrace
    obtain rfl : u = t := List.append_cancel_left (hu.symm.trans htrace)
    rw [htransmits.whole htakes, heardAs_iff hlf]
    simp only [List.length_append, CRLF, List.length_cons, List.length_nil, ircLineMax]
    omega
  · rw [haccepted] at hlong
    cases hlong

def onlineWorld : World := { worldInit configInit with control := { controlInit with connected := true, sock := 3 } }

def joinTrace (args : Bytes) : List Obs := (sendCommand (ascii "JOIN") args Env.online onlineWorld).2.trace

theorem formatted_line_heard_join :
    HeardAs (takenOn 3 (joinTrace (ascii "#c"))) (ascii "JOIN #c") ∧ (takenOn 3 (joinTrace (ascii "#c"))).length ≤ 512 ↔
      (ascii "JOIN #c").length ≤ 510 := by
  have hm : Formats onlineWorld.control (sendCommand (ascii "JOIN") (ascii "#c")) 3 (ascii "JOIN #c") :=
    .command (ascii "JOIN") ⟨rfl, by decide⟩ (by decide)
  have htrace : joinTrace (ascii "#c") = [.send 3 (ascii "JOIN #c") 512, .send 3 CRLF 512] := rfl
  refine formatted_line_heard_iff hm (by decide) (by decide) (List.nil_append (joinTrace (ascii "#c"))).symm ?_
  intro data rc hmem
  rw [htrace] at hmem
  simp only [List.mem_cons, Obs.send.injEq, List.not_mem_nil, or_false] at hmem
  rcases hmem with ⟨-, -, rfl⟩ | ⟨-, -, rfl⟩ <;> decide

/-- A JOIN of 512 bytes, from the ARexx port. -/
def longJoin : Bytes := ascii "JOIN " ++ List.replicate 507 97

theorem formatted_line_not_heard :
    fits (ircLineMax + 1) longJoin = true ∧ LF ∉ longJoin ∧ longJoin.getLast? ≠ some CR ∧
      takenOn 3 (joinTrace (List.replicate 507 97)) = longJoin ++ CRLF ∧
      ¬ HeardAs (takenOn 3 (joinTrace (List.replicate 507 97))) longJoin ∧
      ¬ (takenOn 3 (joinTrace (List.replicate 507 97))).length ≤ 512 := by
  have htaken : takenOn 3 (joinTrace (List.replicate 507 97)) = longJoin ++ CRLF := by decide +kernel
  have hlf : LF ∉ longJoin := by decide +kernel
  refine ⟨by decide +kernel, hlf, by decide +kernel, htaken, ?_, by rw [htaken]; decide +kernel⟩
  rw [htaken, heardAs_iff hlf]
  decide +kernel

end AmBot
