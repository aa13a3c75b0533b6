import Mathlib.Data.Bool.AllAny
import AmBot.Growth
import AmBot.RunLib.Quoted
/-!
# The command of a hook script

`ambot_rexx_run_script` appends the path and four quoted arguments byte by
byte to a buffer of 1024 bytes. The arguments come from whoever is on IRC.
-/

namespace AmBot

open RunLib RunLib.Prog

/-! ## The appending loops -/

/-- `append_text`, on what stands in the buffer of `size` bytes; `none` where
it returns -1. -/
def appendText (size : Nat) (dst : Bytes) : Bytes → Option Bytes
  | [] => some dst
  | c :: src => if size ≤ dst.length + 1 then none else appendText size (dst ++ [c]) src

/-- The loop of `append_quoted_arg`. -/
def appendQuotedBytes (size : Nat) (dst : Bytes) : Bytes → Option Bytes
  | [] => some dst
  | c :: src =>
    let ch := if c = CR ∨ c = LF then SP else c
    let ch := if ch = QUOTE then 39 else ch
    if size ≤ dst.length + 1 then none else appendQuotedBytes size (dst ++ [ch]) src

/-- `append_quoted_arg`. -/
def appendQuotedArg (size : Nat) (dst src : Bytes) : Option Bytes := do
  let dst ← appendText size dst (ascii " \"")
  let dst ← appendQuotedBytes size dst src
  appendText size dst (ascii "\"")

/-- The five appends of `ambot_rexx_run_script`. -/
def buildCommand (path event nick target text : Bytes) : Option Bytes := do
  let command ← appendText rexxScriptCommandMax [] path
  let command ← appendQuotedArg rexxScriptCommandMax command event
  let command ← appendQuotedArg rexxScriptCommandMax command nick
  let command ← appendQuotedArg rexxScriptCommandMax command target
  appendQuotedArg rexxScriptCommandMax command text

/-- A text that the buffer still holds, with its NUL. -/
def inBuffer (size : Nat) (text : Bytes) : Option Bytes := if text.length < size then some text else none

theorem appendText_inBuffer {size : Nat} {dst : Bytes} (src : Bytes) (h : dst.length < size) :
    appendText size dst src = inBuffer size (dst ++ src) := by
  induction src generalizing dst with
  | nil => simp [appendText, inBuffer, h]
  | cons c src ih =>
    unfold appendText
    split
    · rename_i hfull
      have hlong : ¬ (dst ++ c :: src).length < size := by
        rw [List.length_append, List.length_cons]
        omega
      rw [inBuffer, if_neg hlong]
    · rw [ih (by rw [List.length_append, List.length_singleton]; omega)]
      simp

theorem appendQuotedBytes_eq (size : Nat) (dst src : Bytes) :
    appendQuotedBytes size dst src = appendText size dst (src.map quotedByte) := by
  induction src generalizing dst with
  | nil => rfl
  | cons c src ih =>
    have hbyte : (if (if c = CR ∨ c = LF then SP else c) = QUOTE then (39 : UInt8) else if c = CR ∨ c = LF then SP else c) =
        quotedByte c := by
      unfold quotedByte
      split
      · rfl
      · rfl
    rw [List.map_cons, appendQuotedBytes, appendText, ih, hbyte]

/-- What has not fit once does not fit with more after it. -/
theorem inBuffer_bind {size : Nat} {dst : Bytes} {f : Bytes → Option Bytes} {src : Bytes}
    (hf : dst.length < size → f dst = inBuffer size (dst ++ src)) : (inBuffer size dst).bind f = inBuffer size (dst ++ src) := by
  unfold inBuffer at *
  split
  · rename_i h
    exact hf h
  · rename_i h
    have hlong : ¬ (dst ++ src).length < size := by
      rw [List.length_append]
      omega
    rw [if_neg hlong]
    rfl

theorem appendQuotedArg_inBuffer {size : Nat} {dst : Bytes} (src : Bytes) (h : dst.length < size) :
    appendQuotedArg size dst src = inBuffer size (dst ++ quotedArg src) := by
  have hsplit : dst ++ quotedArg src = dst ++ ascii " \"" ++ src.map quotedByte ++ ascii "\"" := by
    simp [quotedArg]
  unfold appendQuotedArg
  simp only [Option.bind_eq_bind]
  rw [hsplit, appendText_inBuffer _ h, List.append_assoc (dst ++ ascii " \"")]
  refine inBuffer_bind fun h₁ => ?_
  rw [appendQuotedBytes_eq, appendText_inBuffer _ h₁, ← List.append_assoc]
  exact inBuffer_bind fun h₂ => appendText_inBuffer _ h₂

/-- The appends build the path with the quoted arguments after it, if that fits. -/
theorem buildCommand_eq (path event nick target text : Bytes) :
    buildCommand path event nick target text = scriptCommand path [event, nick, target, text] := by
  have hempty : ([] : Bytes).length < rexxScriptCommandMax := by decide
  have hcommand : scriptCommand path [event, nick, target, text] =
      inBuffer rexxScriptCommandMax (path ++ quotedArg event ++ quotedArg nick ++ quotedArg target ++ quotedArg text) := by
    simp [scriptCommand, inBuffer]
  unfold buildCommand
  simp only [Option.bind_eq_bind]
  rw [hcommand, appendText_inBuffer _ hempty, List.nil_append, List.append_assoc, List.append_assoc, List.append_assoc]
  refine inBuffer_bind fun h₁ => ?_
  rw [appendQuotedArg_inBuffer _ h₁, ← List.append_assoc path]
  refine inBuffer_bind fun h₂ => ?_
  rw [appendQuotedArg_inBuffer _ h₂, ← List.append_assoc (path ++ quotedArg event)]
  refine inBuffer_bind fun h₃ => ?_
  rw [appendQuotedArg_inBuffer _ h₃, ← List.append_assoc (path ++ quotedArg event ++ quotedArg nick)]
  exact inBuffer_bind fun h₄ => appendQuotedArg_inBuffer _ h₄

/-! ## Reading it back -/

theorem quotedArg_eq (src : Bytes) : quotedArg src = quoted SP QUOTE (src.map quotedByte) := by
  have hopen : ascii " \"" = [SP, QUOTE] := by decide
  have hclose : ascii "\"" = [QUOTE] := by decide
  rw [quotedArg, hopen, hclose]
  rfl

theorem quotedByte_clean (c : UInt8) : quotedByte c ≠ QUOTE ∧ quotedByte c ≠ CR ∧ quotedByte c ≠ LF := by
  unfold quotedByte
  split
  · decide
  · rename_i hbreak
    obtain ⟨hcr, hlf⟩ := not_or.1 hbreak
    split
    · decide
    · rename_i hquote
      exact ⟨hquote, hcr, hlf⟩

theorem quotedArg_one_line (src : Bytes) : ∀ c ∈ quotedArg src, c ≠ CR ∧ c ≠ LF := by
  have hopen : ∀ c ∈ ascii " \"", c ≠ CR ∧ c ≠ LF := List.all_iff_forall_prop.1 rfl
  have hclose : ∀ c ∈ ascii "\"", c ≠ CR ∧ c ≠ LF := List.all_iff_forall_prop.1 rfl
  intro c hc
  rcases List.mem_append.1 hc with hc | hc
  · rcases List.mem_append.1 hc with hc | hc
    · exact hopen c hc
    · obtain ⟨b, -, rfl⟩ := List.mem_map.1 hc
      exact (quotedByte_clean b).2
  · exact hclose c hc

/-- What follows the path: four arguments to a reader, without a line break. -/
theorem quotedArgs_read (args : List Bytes) :
    readQuoted SP QUOTE .between (args.map quotedArg).flatten = some (args.map (·.map quotedByte)) := by
  have hquoted : args.map quotedArg = (args.map (·.map quotedByte)).map (quoted SP QUOTE) := by
    rw [List.map_map]
    exact List.map_congr_left fun src _ => quotedArg_eq src
  rw [hquoted]
  refine readQuoted_quoted fun arg harg hmem => ?_
  obtain ⟨src, -, rfl⟩ := List.mem_map.1 harg
  obtain ⟨c, -, hc⟩ := List.mem_map.1 hmem
  exact (quotedByte_clean c).1 hc

theorem quotedArg_length (src : Bytes) : (quotedArg src).length = src.length + 3 := by
  have hopen : (ascii " \"").length = 2 := by decide
  have hclose : (ascii "\"").length = 1 := by decide
  simp only [quotedArg, List.length_append, List.length_map, hopen, hclose]
  omega

theorem scriptCommand_inBuffer (path : Bytes) (args : List Bytes) :
    scriptCommand path args = inBuffer rexxScriptCommandMax (path ++ (args.map quotedArg).flatten) := rfl

theorem scriptCommand_some {path command : Bytes} {args : List Bytes} (h : scriptCommand path args = some command) :
    command = path ++ (args.map quotedArg).flatten := by
  rw [scriptCommand_inBuffer, inBuffer] at h
  split at h
  · exact (Option.some.inj h).symm
  · cases h

theorem scriptCommand_none (path event nick target text : Bytes) :
    scriptCommand path [event, nick, target, text] = none ↔
      1023 < path.length + (event.length + 3) + (nick.length + 3) + (target.length + 3) + (text.length + 3) := by
  rw [scriptCommand_inBuffer, inBuffer, ite_eq_right_iff]
  simp only [rexxScriptCommandMax, List.map_cons, List.map_nil, List.flatten_cons, List.flatten_nil,
    List.append_nil, List.length_append, quotedArg_length, reduceCtorEq, imp_false]
  omega

/-! ## What RexxMast gets -/

/-- Whatever is sent as a script is the command that was built. -/
theorem rexxRunScript_scripts (path : Bytes) (args : List Bytes) :
    Keeps (Along (Adds fun o => ∀ command, o = .script command → scriptCommand path args = some command))
      (rexxRunScript path args) := by
  have hquiet : ∀ t o, o.kind ∈ [Kind.send, .rexx] →
      Adds (fun o => ∀ command, o = .script command → scriptCommand path args = some command) t (t ++ [o]) := by
    rintro t o ho
    refine adds_one ?_
    rintro command rfl
    simp [Obs.kind] at ho
  have hask {α : Type} (f : Env → Nat → α) := acts_along hquiet (keeps_ask f)
  unfold rexxRunScript
  refine (hask _).bind fun _ => keeps_ite (keeps_pure _) ?_
  split
  · exact keeps_pure _
  · rename_i command hbuilt
    refine (hask _).bind fun _ => keeps_ite (keeps_pure _) ?_
    refine Keeps.bind (fun env w => adds_one ?_) fun _ =>
      (acts_along hquiet scriptWaitLoop_keeps).bind fun _ => hask _
    rintro command' heq
    rw [hbuilt, Obs.script.inj heq]

/-- A command that does not fit is given up before anything is sent. -/
theorem rexxRunScript_unbuilt {path : Bytes} {args : List Bytes} {env : Env} {w : World}
    (hmaster : env.rexxMaster w.tick = true) (h : scriptCommand path args = none) :
    rexxRunScript path args env w = (.ok 10, { w with tick := w.tick + 1 }) := by
  unfold rexxRunScript
  simp only [bind_run, ask, hmaster, h]
  rfl

/-! ## Events -/

theorem eventTypeName_length (type : EventType) : (eventTypeName type).length ≤ 10 := by cases type <;> decide

/-- The command of a hook is its path and four arguments that read back as
they were, less their quotes and line breaks. It is given up only where it is
longer than 1023 bytes, which that of no event from a line is. -/
theorem buildCommand_quotes (path event nick target text : Bytes) :
    (∀ command, buildCommand path event nick target text = some command →
      ∃ args, command = path ++ args ∧ (∀ c ∈ args, c ≠ CR ∧ c ≠ LF) ∧
        readQuoted SP QUOTE .between args =
          some [event.map quotedByte, nick.map quotedByte, target.map quotedByte, text.map quotedByte]) ∧
    (buildCommand path event nick target text = none ↔
      1023 < path.length + (event.length + 3) + (nick.length + 3) + (target.length + 3) + (text.length + 3)) ∧
    (∀ env w, env.rexxMaster w.tick = true → buildCommand path event nick target text = none →
      rexxRunScript path [event, nick, target, text] env w = (.ok 10, { w with tick := w.tick + 1 })) ∧
    (∀ env w, ∃ t, (rexxRunScript path [event, nick, target, text] env w).2.trace = w.trace ++ t ∧
      ∀ command, .script command ∈ t → buildCommand path event nick target text = some command) ∧
    ∀ line e, eventFromIrcLine line = some e → path.length ≤ 127 →
      buildCommand path (eventTypeName e.type) e.nick e.target e.text ≠ none := by
  simp only [buildCommand_eq]
  refine ⟨fun command hcommand => ?_, scriptCommand_none path event nick target text,
    fun env w => rexxRunScript_unbuilt, fun env w => ?_, fun line e he hpath => ?_⟩
  · refine ⟨_, scriptCommand_some hcommand, fun c hc => ?_, quotedArgs_read [event, nick, target, text]⟩
    obtain ⟨arg, harg, hmem⟩ := List.mem_flatten.1 hc
    obtain ⟨src, -, rfl⟩ := List.mem_map.1 harg
    exact quotedArg_one_line src c hmem
  · obtain ⟨t, ht, hall⟩ := rexxRunScript_scripts path [event, nick, target, text] env w
    exact ⟨t, ht, fun command hmem => hall _ hmem command rfl⟩
  · obtain ⟨hnick, htarget, htext⟩ := eventFromIrcLine_length he
    have htype := eventTypeName_length e.type
    rw [Ne, scriptCommand_none]
    omega

/-- A text with a quote and a line break in it stays one argument. -/
theorem buildCommand_quotes_break :
    ∃ command, buildCommand (ascii "H.rexx") (ascii "TOPIC") (ascii "amy") (ascii "#c") (ascii "a\" b\nc") = some command ∧
      ∃ args, command = ascii "H.rexx" ++ args ∧ (∀ c ∈ args, c ≠ CR ∧ c ≠ LF) ∧
        readQuoted SP QUOTE .between args =
          some [(ascii "TOPIC").map quotedByte, (ascii "amy").map quotedByte, (ascii "#c").map quotedByte,
            (ascii "a\" b\nc").map quotedByte] := by
  have hbuilt : buildCommand (ascii "H.rexx") (ascii "TOPIC") (ascii "amy") (ascii "#c") (ascii "a\" b\nc") =
      some (ascii "H.rexx \"TOPIC\" \"amy\" \"#c\" \"a' b c\"") := by decide
  exact ⟨_, hbuilt, (buildCommand_quotes _ _ _ _ _).1 _ hbuilt⟩

end AmBot
