import Mathlib.Data.Bool.AllAny
import AmBot.Owner
/-!
# Lines and their events

What `ambot_event_from_irc_line` reads in a line that is written from its
parts, and which messages it reads alike with and without the colon of their
last parameter.
-/

namespace AmBot

/-! ## The parts of a line -/

/-- The commands that have an event. -/
def commandTypes : List (Bytes × EventType) :=
  [(ascii "PRIVMSG", .privmsg), (ascii "NOTICE", .notice), (ascii "JOIN", .join), (ascii "PART", .part),
   (ascii "QUIT", .quit), (ascii "KICK", .kick), (ascii "TOPIC", .topic), (ascii "NICK", .nick)]

/-- One or more spaces. -/
def Gap (gap : Bytes) : Prop := gap ≠ [] ∧ ∀ c ∈ gap, c = SP

/-- A parameter of one word, with the spaces before it. -/
structure Middle where
  gap : Bytes
  word : Bytes
  gap_spaces : Gap gap
  word_ne_nil : word ≠ []
  word_no_space : SP ∉ word
  word_no_colon : word.head? ≠ some COLON

def Middle.text (m : Middle) : Bytes := m.gap ++ m.word

/-- The optional prefix and the space that ends it. -/
def lineStart : Option Bytes → Bytes
  | none => []
  | some p => COLON :: (p ++ [SP])

/-- `c` is the first word of the line after its prefix. -/
def CommandToken (line c : Bytes) : Prop :=
  ∃ sender blanks rest, line = lineStart sender ++ (blanks ++ (c ++ rest)) ∧ (∀ p ∈ sender, SP ∉ p) ∧
    (sender = none → line.head? ≠ some COLON) ∧ (∀ b ∈ blanks, b = SP) ∧ SP ∉ c ∧ ∀ b ∈ rest.head?, b = SP

theorem Gap.head? {gap : Bytes} (h : Gap gap) (rest : Bytes) : ∀ b ∈ (gap ++ rest).head?, b = SP := by
  obtain ⟨d, gap, rfl⟩ := List.exists_cons_of_ne_nil h.1
  intro b hb
  rw [← Option.some.inj hb]
  exact h.2 d List.mem_cons_self

theorem Middle.head?_text (m : Middle) (rest : Bytes) : ∀ b ∈ (m.text ++ rest).head?, b = SP := by
  rw [Middle.text, List.append_assoc]
  exact m.gap_spaces.head? _

/-! ## Scanning them -/

theorem skipBlanks_until {blanks rest : Bytes} (hblanks : ∀ b ∈ blanks, b = SP) (hrest : rest.head? ≠ some SP) :
    skipBlanks (blanks ++ rest) = rest := by
  refine dropWhile_until (fun b hb => by simpa using hblanks b hb) fun b hb => ?_
  have hne : b ≠ SP := by
    rintro rfl
    exact hrest hb
  simpa using hne

theorem splitPrefix_none {line : Bytes} (h : line.head? ≠ some COLON) : splitPrefix line = some (none, line) := by
  unfold splitPrefix
  split
  · exact absurd rfl h
  · rfl

theorem splitPrefix_colon (p : Bytes) :
    splitPrefix (COLON :: p) = (strchr SP p).map fun q => (some (upTo SP p), q.drop 1) := by
  show (match strchr SP p with
    | none => none
    | some q => some (some (upTo SP p), q.drop 1)) = _
  cases strchr SP p <;> rfl

theorem splitPrefix_start {sender : Option Bytes} {rest : Bytes} (hsender : ∀ p ∈ sender, SP ∉ p)
    (hrest : sender = none → rest.head? ≠ some COLON) : splitPrefix (lineStart sender ++ rest) = some (sender, rest) := by
  cases sender with
  | none => exact splitPrefix_none (hrest rfl)
  | some p =>
    have hp : SP ∉ p := hsender p rfl
    have hstop : ∀ b ∈ (SP :: rest).head?, b = SP := fun b hb => (Option.some.inj hb).symm
    have hline : lineStart (some p) ++ rest = COLON :: (p ++ SP :: rest) := by simp [lineStart]
    rw [hline, splitPrefix_colon, strchr_until hp, upTo_until hp hstop]
    rfl

/-- What the parser takes for a prefix is one. -/
theorem start_of_splitPrefix {line p : Bytes} {sender : Option Bytes} (h : splitPrefix line = some (sender, p)) :
    line = lineStart sender ++ p ∧ (∀ q ∈ sender, SP ∉ q) ∧ (sender = none → line.head? ≠ some COLON) := by
  by_cases hcolon : line.head? = some COLON
  · obtain ⟨line, rfl⟩ : ∃ rest, line = COLON :: rest := ⟨line.tail, List.eq_cons_of_mem_head? hcolon⟩
    rw [splitPrefix_colon] at h
    obtain ⟨q, hchr, hq⟩ := Option.map_eq_some_iff.1 h
    obtain ⟨rest, rfl, hline⟩ := strchr_eq_some.1 hchr
    obtain ⟨rfl, rfl⟩ := Prod.mk.injEq .. ▸ hq
    refine ⟨?_, fun q hq => ?_, fun hnone => absurd hnone (Option.some_ne_none _)⟩
    · rw [lineStart, List.cons_append, List.append_assoc]
      exact congrArg _ hline
    · rw [← Option.some.inj hq]
      exact not_mem_upTo SP line
  · rw [splitPrefix_none hcolon] at h
    obtain ⟨rfl, rfl⟩ := Prod.mk.injEq .. ▸ Option.some.inj h
    exact ⟨rfl, fun q hq => absurd hq (Option.not_mem_none q), fun _ => hcolon⟩

/-! ## The command -/

theorem typeFromCommand_known : ∀ known ∈ commandTypes, typeFromCommand (copyValue 16 known.1) = known.2 := by decide

theorem commandTypes_word : ∀ known ∈ commandTypes,
    SP ∉ known.1 ∧ known.1.head? ≠ some SP ∧ known.1.head? ≠ some COLON ∧ known.1 ≠ [] ∧ known.2 ≠ .none ∧
      known.1.length < 15 := by
  decide

theorem known_of_typeFromCommand {command : Bytes} (h : typeFromCommand command ≠ .none) :
    (command, typeFromCommand command) ∈ commandTypes := by
  unfold typeFromCommand at h ⊢
  split_ifs at h ⊢ <;> simp_all [commandTypes]

/-- A line with a known command has an event. -/
theorem eventFromIrcLine_command {sender : Option Bytes} {blanks c params : Bytes} {type : EventType}
    (hsender : ∀ p ∈ sender, SP ∉ p) (hblanks : ∀ b ∈ blanks, b = SP) (hknown : (c, type) ∈ commandTypes)
    (hparams : ∀ b ∈ params.head?, b = SP) :
    eventFromIrcLine (lineStart sender ++ (blanks ++ (c ++ params))) =
      some (eventOf type (copyValue eventNickSize (upTo BANG (sender.getD []))) params) := by
  obtain ⟨hspace, hfirst, hcolon, hne, htype, -⟩ := commandTypes_word _ hknown
  obtain ⟨d, ds, rfl⟩ := List.exists_cons_of_ne_nil hne
  have hrest : sender = none → (blanks ++ (d :: ds ++ params)).head? ≠ some COLON := by
    intro _ hhead
    cases blanks with
    | nil => exact hcolon hhead
    | cons b blanks =>
      have hb := hblanks b List.mem_cons_self
      rw [Option.some.inj hhead] at hb
      exact absurd hb (by decide)
  have hskip : skipBlanks (blanks ++ (d :: ds ++ params)) = d :: ds ++ params := skipBlanks_until hblanks hfirst
  have hcommand : upTo SP (d :: ds ++ params) = d :: ds := upTo_until hspace hparams
  have hfound : typeFromCommand (copyValue 16 (d :: ds)) = type := typeFromCommand_known _ hknown
  rw [eventFromIrcLine_split (splitPrefix_start hsender hrest), hskip, hcommand, hfound, if_neg htype, List.drop_left]

/-- Any other line has none. -/
theorem eventFromIrcLine_unknown {line : Bytes} (h : ∀ known ∈ commandTypes, ¬ CommandToken line known.1) :
    eventFromIrcLine line = none := by
  cases hsplit : splitPrefix line with
  | none => exact eventFromIrcLine_none hsplit
  | some r =>
    obtain ⟨sender, p⟩ := r
    obtain ⟨hline, hsender, hhead⟩ := start_of_splitPrefix hsplit
    rw [eventFromIrcLine_split hsplit]
    by_contra hsome
    have htype : typeFromCommand (copyValue 16 (upTo SP (skipBlanks p))) ≠ .none := fun hnone => hsome (if_pos hnone)
    have hknown := known_of_typeFromCommand htype
    -- a word cut to fifteen bytes is none of the commands
    have hcommand : copyValue 16 (upTo SP (skipBlanks p)) = upTo SP (skipBlanks p) := by
      have hshort := (commandTypes_word _ hknown).2.2.2.2.2
      rw [copyValue, List.length_take] at hshort
      exact copyValue_of_short (by omega)
    rw [hcommand] at hknown
    refine h _ hknown ⟨sender, p.takeWhile (· = SP), (skipBlanks p).dropWhile (· ≠ SP), ?_, hsender, hhead, ?_, ?_, ?_⟩
    · rw [hline, upTo, List.takeWhile_append_dropWhile, skipBlanks, List.takeWhile_append_dropWhile]
    · exact fun b hb => by simpa using List.mem_takeWhile_imp hb
    · exact not_mem_upTo SP _
    · exact fun b hb => by simpa using head?_dropWhile _ b hb

/-! ## The parameters -/

theorem Middle.skipBlanks (m : Middle) (rest : Bytes) : skipBlanks (m.text ++ rest) = m.word ++ rest := by
  obtain ⟨c, word, hword⟩ := List.exists_cons_of_ne_nil m.word_ne_nil
  rw [Middle.text, List.append_assoc, skipBlanks_until m.gap_spaces.2]
  rw [hword]
  rintro hhead
  exact m.word_no_space (by simp [hword, Option.some.inj hhead])

theorem firstParam_word (m : Middle) {rest : Bytes} (hrest : ∀ b ∈ rest.head?, b = SP) :
    firstParam (m.text ++ rest) = (m.word, rest) := by
  have htake : upTo SP (m.word ++ rest) = m.word := upTo_until m.word_no_space hrest
  obtain ⟨c, word, hword⟩ := List.exists_cons_of_ne_nil m.word_ne_nil
  unfold firstParam
  rw [m.skipBlanks]
  split
  · rename_i hnil
    exact absurd (List.append_eq_nil_iff.1 hnil).1 m.word_ne_nil
  · rename_i t ht
    rw [hword] at ht
    exact absurd (congrArg List.head? hword) (by rw [(List.cons.inj ht).1]; exact m.word_no_colon)
  · rw [htake, List.drop_left]

theorem trailingOf_word (m : Middle) (rest : Bytes) : trailingOf (m.text ++ rest) = some (m.word ++ rest) := by
  obtain ⟨c, word, hword⟩ := List.exists_cons_of_ne_nil m.word_ne_nil
  unfold trailingOf
  rw [m.skipBlanks]
  split
  · rename_i hnil
    exact absurd (List.append_eq_nil_iff.1 hnil).1 m.word_ne_nil
  · rename_i t ht
    rw [hword] at ht
    exact absurd (congrArg List.head? hword) (by rw [(List.cons.inj ht).1]; exact m.word_no_colon)
  · rfl

theorem skipBlanks_colon {gap : Bytes} (hgap : ∀ b ∈ gap, b = SP) (text : Bytes) :
    skipBlanks (gap ++ COLON :: text) = COLON :: text :=
  skipBlanks_until hgap (fun h => absurd (Option.some.inj h) (by decide))

theorem firstParam_colon {gap : Bytes} (hgap : ∀ b ∈ gap, b = SP) (text : Bytes) :
    firstParam (gap ++ COLON :: text) = ([], COLON :: text) := by
  unfold firstParam
  rw [skipBlanks_colon hgap]
  rfl

theorem trailingOf_colon {gap : Bytes} (hgap : ∀ b ∈ gap, b = SP) (text : Bytes) :
    trailingOf (gap ++ COLON :: text) = some text := by
  unfold trailingOf
  rw [skipBlanks_colon hgap]
  rfl

/-- The parser inverts the format of a message: the fields are what was
written, as far as they hold it, and other commands have no event. -/
theorem eventFromIrcLine_inverts :
    (∀ {p gap c gap' x : Bytes} {type : EventType} (target : Middle), SP ∉ p → Gap gap →
      (c, type) ∈ commandTypes → type ≠ .nick → Gap gap' →
      eventFromIrcLine (COLON :: p ++ gap ++ c ++ target.text ++ gap' ++ COLON :: x) =
        some { type, nick := (upTo BANG p).take 31, target := target.word.take 63, text := x.take 255 }) ∧
    ∀ line, (∀ known ∈ commandTypes, ¬ CommandToken line known.1) → eventFromIrcLine line = none := by
  refine ⟨?_, fun line => eventFromIrcLine_unknown⟩
  intro p gap c gap' x type target hp hgap hknown htype hgap'
  obtain ⟨b, blanks, rfl⟩ := List.exists_cons_of_ne_nil hgap.1
  obtain rfl : b = SP := hgap.2 b List.mem_cons_self
  have hblanks : ∀ b ∈ blanks, b = SP := fun b hb => hgap.2 b (List.mem_cons_of_mem _ hb)
  have hparams : ∀ b ∈ (target.text ++ (gap' ++ COLON :: x)).head?, b = SP := target.head?_text _
  have hrest : ∀ b ∈ (gap' ++ COLON :: x).head?, b = SP := hgap'.head? _
  have hline : COLON :: p ++ SP :: blanks ++ c ++ target.text ++ gap' ++ COLON :: x =
      lineStart (some p) ++ (blanks ++ (c ++ (target.text ++ (gap' ++ COLON :: x)))) := by
    simp [lineStart]
  have hsender : ∀ q ∈ some p, SP ∉ q := fun q hq => Option.some.inj hq ▸ hp
  rw [hline, eventFromIrcLine_command hsender hblanks hknown hparams, eventOf_text htype, firstParam_word target hrest,
    trailingOf_colon hgap'.2]
  rfl

/-- `:amy!a@h  KICK #c   :out: now`. -/
theorem eventFromIrcLine_inverts_kick :
    eventFromIrcLine (ascii ":amy!a@h  KICK #c   :out: now") =
      some { type := .kick, nick := ascii "amy", target := ascii "#c", text := ascii "out: now" } := by
  let target : Middle := ⟨ascii " ", ascii "#c", ⟨by decide, List.all_iff_forall_prop.1 rfl⟩, by decide, by decide, by decide⟩
  have hgap : Gap (ascii "  ") := ⟨by decide, List.all_iff_forall_prop.1 rfl⟩
  have hgap' : Gap (ascii "   ") := ⟨by decide, List.all_iff_forall_prop.1 rfl⟩
  have hline : ascii ":amy!a@h  KICK #c   :out: now" =
      COLON :: ascii "amy!a@h" ++ ascii "  " ++ ascii "KICK" ++ target.text ++ ascii "   " ++ COLON :: ascii "out: now" := by
    decide
  have hnick : (upTo BANG (ascii "amy!a@h")).take 31 = ascii "amy" := by decide
  have htarget : target.word.take 63 = ascii "#c" := by decide
  have htext : (ascii "out: now").take 255 = ascii "out: now" := by decide
  rw [hline, ← hnick, ← htarget, ← htext]
  exact eventFromIrcLine_inverts.1 target (by decide) hgap (by decide) (by decide) hgap'

/-! ## The colon of the last parameter -/

def middlesText (middles : List Middle) : Bytes := middles.flatMap Middle.text

/-- A message whose last parameter may be written with or without a colon. -/
structure Message where
  sender : Option Bytes
  blanks : Bytes
  command : Bytes
  type : EventType
  middles : List Middle
  last : Middle
  sender_no_space : ∀ p ∈ sender, SP ∉ p
  blanks_spaces : ∀ b ∈ blanks, b = SP
  known : (command, type) ∈ commandTypes

/-- The message with `colon` before the last parameter. -/
def Message.line (m : Message) (colon : Bytes) : Bytes :=
  lineStart m.sender ++ (m.blanks ++ (m.command ++ (middlesText m.middles ++ (m.last.gap ++ (colon ++ m.last.word)))))

def Message.bare (m : Message) : Bytes := m.line []

def Message.coloned (m : Message) : Bytes := m.line [COLON]

/-- How many bytes of the text after the first parameter an event keeps. -/
def keptBytes (type : EventType) : Nat := if type = .nick then 63 else 255

/-- The last parameter is the new nick, or the second one, or begins where the
event keeps nothing any more. -/
def Message.ReadAlike (m : Message) : Prop :=
  match m.middles with
  | [] => m.type = .nick
  | [_] => True
  | _ :: second :: rest => keptBytes m.type ≤ (second.word ++ (middlesText rest ++ m.last.gap)).length

theorem take_colon_iff {n : Nat} {before word : Bytes} (hword : word.head? ≠ some COLON) :
    (before ++ word).take n = (before ++ COLON :: word).take n ↔ n ≤ before.length := by
  constructor
  · intro h
    by_contra hlong
    have hat := congrArg (fun t => t[before.length]?) h
    simp only [List.getElem?_take, if_pos (Nat.lt_of_not_le hlong), List.getElem?_append_right (Nat.le_refl _),
      Nat.sub_self, List.getElem?_cons_zero] at hat
    exact hword (by rw [List.head?_eq_getElem?, hat])
  · intro h
    rw [List.take_append_of_le_length h, List.take_append_of_le_length h]

/-- What the event keeps of the text after the first parameter. -/
theorem eventOf_eq_iff {type : EventType} {nick target rest rest' text text' : Bytes} {params params' : Bytes}
    (h : firstParam params = (target, rest)) (htext : trailingOf rest = some text)
    (h' : firstParam params' = (target, rest')) (htext' : trailingOf rest' = some text') :
    eventOf type nick params = eventOf type nick params' ↔ text.take (keptBytes type) = text'.take (keptBytes type) := by
  by_cases htype : type = .nick
  · subst htype
    rw [eventOf_nick, eventOf_nick, h, h', htext, htext']
    simp [copyValue, keptBytes, eventTargetSize]
  · rw [eventOf_text htype, eventOf_text htype, h, h', htext, htext']
    simp [copyValue, keptBytes, eventTextSize, htype]

/-- A parameter alone: bare it is the target, after a colon the text. -/
theorem eventOf_alone_iff (type : EventType) (nick : Bytes) (last : Middle) :
    eventOf type nick (last.gap ++ last.word) = eventOf type nick (last.gap ++ COLON :: last.word) ↔ type = .nick := by
  have hbare : firstParam (last.gap ++ last.word) = (last.word, []) := by
    have hword : firstParam (last.text ++ []) = (last.word, []) := firstParam_word last (by simp)
    simpa [Middle.text] using hword
  have hcolon := firstParam_colon last.gap_spaces.2 last.word
  have htrailing : trailingOf ([] ++ COLON :: last.word) = some last.word := trailingOf_colon (by simp) last.word
  by_cases htype : type = .nick
  · subst htype
    rw [List.nil_append] at htrailing
    rw [eventOf_nick, eventOf_nick, hbare, hcolon, htrailing]
    simp [trailingOf, skipBlanks, copyValue, List.take_take]
  · rw [List.nil_append] at htrailing
    rw [eventOf_text htype, eventOf_text htype, hbare, hcolon, htrailing]
    have hne : copyValue eventTextSize last.word ≠ [] := by
      simp [copyValue, eventTextSize, last.word_ne_nil]
    simp only [htype, iff_false]
    intro heq
    exact hne (congrArg Event.text heq).symm

/-- A last parameter means the same with and without its colon exactly where
it is the new nick, or the second parameter, or beyond what is kept. -/
theorem message_colon_iff (m : Message) : eventFromIrcLine m.bare = eventFromIrcLine m.coloned ↔ m.ReadAlike := by
  have hhead (colon : Bytes) : ∀ b ∈ (middlesText m.middles ++ (m.last.gap ++ (colon ++ m.last.word))).head?, b = SP := by
    cases hmiddles : m.middles with
    | nil => exact m.last.gap_spaces.head? _
    | cons first rest =>
      rw [middlesText, List.flatMap_cons, List.append_assoc]
      exact first.head?_text _
  have hevent (colon : Bytes) := eventFromIrcLine_command m.sender_no_space m.blanks_spaces m.known (hhead colon)
  rw [Message.bare, Message.coloned, Message.line, Message.line, hevent, hevent, Option.some.injEq, Message.ReadAlike]
  cases hmiddles : m.middles with
  | nil => exact eventOf_alone_iff m.type _ m.last
  | cons first rest =>
    cases rest with
    | nil =>
      have hgap (colon : Bytes) := firstParam_word first (m.last.gap_spaces.head? (colon ++ m.last.word))
      have hbare : trailingOf (m.last.gap ++ ([] ++ m.last.word)) = some m.last.word := by
        simpa [Middle.text] using trailingOf_word m.last []
      have hcolon := trailingOf_colon m.last.gap_spaces.2 m.last.word
      simp only [middlesText, List.flatMap_cons, List.flatMap_nil, List.append_nil, iff_true]
      exact (eventOf_eq_iff (hgap []) hbare (hgap [COLON]) hcolon).2 rfl
    | cons second rest =>
      have hsplit (colon : Bytes) : middlesText (first :: second :: rest) ++ (m.last.gap ++ (colon ++ m.last.word)) =
          first.text ++ (second.text ++ (middlesText rest ++ m.last.gap ++ (colon ++ m.last.word))) := by
        simp [middlesText]
      have hparam (colon : Bytes) :=
        firstParam_word first (second.head?_text (middlesText rest ++ m.last.gap ++ (colon ++ m.last.word)))
      have htext (colon : Bytes) := trailingOf_word second (middlesText rest ++ m.last.gap ++ (colon ++ m.last.word))
      rw [hsplit, hsplit, eventOf_eq_iff (hparam []) (htext []) (hparam [COLON]) (htext [COLON])]
      have hkept : ((second.word ++ (middlesText rest ++ m.last.gap)) ++ m.last.word).take (keptBytes m.type) =
          ((second.word ++ (middlesText rest ++ m.last.gap)) ++ COLON :: m.last.word).take (keptBytes m.type) ↔
            keptBytes m.type ≤ (second.word ++ (middlesText rest ++ m.last.gap)).length :=
        take_colon_iff m.last.word_no_colon
      simpa using hkept

/-- A JOIN as clients write it. -/
def joinMessage : Message :=
  { sender := some (ascii "n!u@h"), blanks := [], command := ascii "JOIN", type := .join, middles := []
    last := { gap := ascii " ", word := ascii "#c", gap_spaces := ⟨by decide, List.all_iff_forall_prop.1 rfl⟩, word_ne_nil := by decide
              word_no_space := by decide, word_no_colon := by decide }
    sender_no_space := fun p hp => Option.some.inj hp ▸ by decide
    blanks_spaces := List.all_iff_forall_prop.1 rfl
    known := by decide }

theorem join_colon_differs :
    joinMessage.bare = ascii ":n!u@h JOIN #c" ∧ joinMessage.coloned = ascii ":n!u@h JOIN :#c" ∧
      eventFromIrcLine joinMessage.bare =
        some { type := .join, nick := ascii "n", target := ascii "#c", text := [] } ∧
      eventFromIrcLine joinMessage.coloned =
        some { type := .join, nick := ascii "n", target := [], text := ascii "#c" } :=
  ⟨by decide, by decide, by decide, by decide⟩

end AmBot
