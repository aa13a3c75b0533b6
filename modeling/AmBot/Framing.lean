import AmBot.RunLib.Stream
import AmBot.Irc
/-!
# The framer as a line splitter

The framer after the bytes `p` of an unfinished line is `absFramer p`, a
function of `p` alone. One byte takes it to the framer of the longer line, or
ends the line; from that, feeding any reads hands on the lines of the stream.
-/

namespace AmBot

open RunLib RunLib.Prog

/-- The framer with the unfinished line `p`: the line, or that it is too long. -/
def absFramer (p : Bytes) : IrcFramer :=
  if p.length ≤ ircLineMax then { line := p, dropping := false } else { line := [], dropping := true }

theorem absFramer_nil : absFramer [] = ircFramerInit := rfl

theorem absFramer_length (p : Bytes) : (absFramer p).length ≤ ircLineMax := by
  unfold absFramer
  split
  · assumption
  · exact Nat.zero_le _

theorem dropCr_length (line : Bytes) : (dropCr line).length ≤ line.length := by
  unfold dropCr
  split
  · simp
  · exact Nat.le_refl _

/-- What the framer hands on for the complete segments of a stream. -/
def framedLines (segments : List Bytes) : List Bytes := (segments.filter (·.length ≤ ircLineMax)).map dropCr

theorem framedLines_append (a b : List Bytes) : framedLines (a ++ b) = framedLines a ++ framedLines b := by
  simp [framedLines]

/-! ## One byte -/

theorem framerByte_other (p : Bytes) {ch : UInt8} (h : ch ≠ LF) :
    framerByte (absFramer p) ch = .ok (absFramer (p ++ [ch]), none) := by
  by_cases hlt : p.length < ircLineMax
  · have hroom : inLine p.length = true := by simp [inLine]; omega
    simp [framerByte, h, absFramer, IrcFramer.length, hlt.le, Nat.succ_le_of_lt hlt, Nat.not_le.2 hlt, hroom]
  · have hlong : ¬ p.length + 1 ≤ ircLineMax := by omega
    -- the 513th byte starts the dropping; later ones find it set
    by_cases heq : p.length ≤ ircLineMax <;>
      simp [framerByte, h, absFramer, IrcFramer.length, heq, hlong, Nat.not_lt.1 hlt]

theorem framerByte_lf (p : Bytes) :
    framerByte (absFramer p) LF =
      .ok (ircFramerInit, if p.length ≤ ircLineMax then some (dropCr p) else none) := by
  by_cases h : p.length ≤ ircLineMax
  · have hroom : inLine (dropCr p).length = true := by
      have := dropCr_length p
      simp [inLine]; omega
    simp [framerByte, absFramer, h, hroom]
  · simp [framerByte, absFramer, h]

/-! ## Feeding -/

variable {σ : Type}

/-- The callback on each line in turn, its return codes aside. -/
def deliver (callback : Bytes → σ → M (Int × σ)) : List Bytes → σ → M σ
  | [], user => pure user
  | line :: lines, user => do
    let (_, user) ← callback line user
    deliver callback lines user

/-- Consecutive calls of `ambot_irc_framer_feed`. -/
def framerFeeds (callback : Bytes → σ → M (Int × σ)) : List Bytes → IrcFramer → σ → M (IrcFramer × σ)
  | [], framer, user => pure (framer, user)
  | data :: reads, framer, user => do
    let (framer, user) ← framerFeed callback data framer user
    framerFeeds callback reads framer user

/-- The callback returns zero whenever it returns, and keeps `I` of its data. -/
def ReturnsZero (I : σ → Prop) (callback : Bytes → σ → M (Int × σ)) : Prop :=
  ∀ line user, I user → ∀ env w r w', callback line user env w = (.ok r, w') → r.1 = 0 ∧ I r.2

/-- Feeding one read delivers the lines it completes. -/
theorem framerFeed_eq {I : σ → Prop} {callback : Bytes → σ → M (Int × σ)} (h : ReturnsZero I callback)
    (p data : Bytes) {user : σ} (hu : I user) (env : Env) (w : World) :
    framerFeed callback data (absFramer p) user env w =
      (do let user ← deliver callback (framedLines (cut LF p data).1) user
          pure (absFramer (cut LF p data).2, user) : M (IrcFramer × σ)) env w := by
  induction data generalizing p user w with
  | nil => rfl
  | cons ch data ih =>
    by_cases hch : ch = LF
    · subst ch
      simp only [framerFeed, framerByte_lf, cut, if_true]
      by_cases hp : p.length ≤ ircLineMax
      · -- the line is handed on, and the callback's zero lets the rest go on
        simp only [hp, if_true, framedLines, List.filter_cons, decide_true, List.map_cons, deliver]
        simp only [bind_run]
        rcases hr : callback (dropCr p) user env w with ⟨_ | ⟨rc, user'⟩, w'⟩
        · rfl
        · obtain ⟨h0, hu'⟩ := h _ _ hu _ _ _ _ hr
          have hrc : rc = 0 := h0
          subst hrc
          simpa [absFramer_nil, bind_run, framedLines] using ih [] hu' w'
      · simpa [hp, absFramer_nil, framedLines] using ih [] hu w
    · simp only [framerFeed, framerByte_other p hch, cut, hch, if_false]
      exact ih _ hu w

/-- Both sides of `framerFeed_eq` as programs. -/
theorem framerFeed_eq_deliver {I : σ → Prop} {callback : Bytes → σ → M (Int × σ)} (h : ReturnsZero I callback)
    (p data : Bytes) {user : σ} (hu : I user) :
    framerFeed callback data (absFramer p) user =
      (do let user ← deliver callback (framedLines (cut LF p data).1) user
          pure (absFramer (cut LF p data).2, user)) := by
  funext env w
  exact framerFeed_eq h p data hu env w

/-- Delivering returns data in `I`. -/
theorem deliver_keeps_data {I : σ → Prop} {callback : Bytes → σ → M (Int × σ)} (h : ReturnsZero I callback)
    (lines : List Bytes) {user user' : σ} (hu : I user) {env : Env} {w w' : World}
    (hr : deliver callback lines user env w = (.ok user', w')) : I user' := by
  induction lines generalizing user w with
  | nil =>
    obtain ⟨rfl, -⟩ : user = user' ∧ w = w' := by simpa [deliver] using hr
    exact hu
  | cons line lines ih =>
    obtain ⟨⟨rc, user₁⟩, w₁, h₁, h₂⟩ := bind_eq_ok.1 hr
    exact ih (h _ _ hu _ _ _ _ h₁).2 h₂

theorem deliver_append (callback : Bytes → σ → M (Int × σ)) (a b : List Bytes) (user : σ) (env : Env) (w : World) :
    deliver callback (a ++ b) user env w =
      (do let user ← deliver callback a user
          deliver callback b user : M σ) env w := by
  induction a generalizing user w with
  | nil => rfl
  | cons line a ih =>
    simp only [List.cons_append, deliver, bind_run]
    rcases callback line user env w with ⟨_ | r, w'⟩
    · rfl
    · exact (ih _ _).trans (bind_run _ _ _ _)

/-- Feeding reads one after the other delivers the lines they complete
together. -/
theorem framerFeeds_eq {I : σ → Prop} {callback : Bytes → σ → M (Int × σ)} (h : ReturnsZero I callback)
    (p : Bytes) (reads : List Bytes) {user : σ} (hu : I user) (env : Env) (w : World) :
    framerFeeds callback reads (absFramer p) user env w =
      (do let user ← deliver callback (framedLines (cut LF p reads.flatten).1) user
          pure (absFramer (cut LF p reads.flatten).2, user) : M (IrcFramer × σ)) env w := by
  induction reads generalizing p user w with
  | nil => rfl
  | cons data reads ih =>
    have hsplit : framedLines (cut LF p (data ++ reads.flatten)).1 =
        framedLines (cut LF p data).1 ++ framedLines (cut LF (cut LF p data).2 reads.flatten).1 := by
      rw [cut_append, framedLines_append]
    simp only [framerFeeds, List.flatten_cons, framerFeed_eq_deliver h p data hu, bind_run, hsplit, deliver_append]
    rcases hr : deliver callback (framedLines (cut LF p data).1) user env w with ⟨_ | user', w'⟩
    · rfl
    · have hu' := deliver_keeps_data h _ hu hr
      simp only [pure_run, ih _ hu', bind_run, cut_append]

/-! ## The reference splitter -/

/-- The lines of a stream: its newline-terminated segments of at most 512
bytes, each without one trailing CR. -/
def framesOf (stream : Bytes) : List Bytes := framedLines (stream.splitOn LF).dropLast

/-- What follows the last newline of a stream. -/
def unfinished (stream : Bytes) : Bytes := (stream.splitOn LF).getLastD []

theorem cut_framesOf (stream : Bytes) : framedLines (cut LF [] stream).1 = framesOf stream := by
  rw [framesOf, cut_nil_fst]

theorem cut_unfinished (stream : Bytes) : (cut LF [] stream).2 = unfinished stream := by
  have h := splitOn_eq_cut LF (List.not_mem_nil) stream
  rw [List.nil_append] at h
  simp [unfinished, h]

/-- For every stream, every way of cutting it into reads and every callback
that returns zero, the callback gets the lines of the stream, in order. The
framer never holds more than 512 bytes, and at every point of the stream the
next byte is stored within the array or not at all. -/
theorem framer_splits_stream (callback : Bytes → σ → M (Int × σ)) (h : ReturnsZero (fun _ => True) callback)
    (reads : List Bytes) (user : σ) (env : Env) (w : World) :
    framerFeeds callback reads ircFramerInit user env w =
      (do let user ← deliver callback (framesOf reads.flatten) user
          pure (absFramer (unfinished reads.flatten), user) : M (IrcFramer × σ)) env w ∧
    (absFramer (unfinished reads.flatten)).length ≤ ircLineMax ∧
    ∀ ch, framerByte (absFramer (unfinished reads.flatten)) ch ≠ .error .fault := by
  refine ⟨?_, absFramer_length _, fun ch => ?_⟩
  · rw [← absFramer_nil, framerFeeds_eq h [] reads trivial, cut_framesOf, cut_unfinished]
  · by_cases hch : ch = LF
    · subst ch
      simp [framerByte_lf]
    · simp [framerByte_other _ hch]

/-- A callback that collects its lines. -/
def collect (line : Bytes) (lines : List Bytes) : M (Int × List Bytes) := pure (0, lines ++ [line])

theorem collect_returnsZero : ReturnsZero (fun _ => True) collect := by
  intro line lines _ env w r w' hr
  cases hr
  exact ⟨rfl, trivial⟩

/-- The CR and the LF of a line in two reads. -/
theorem framer_splits_stream_split_crlf :
    (framerFeeds collect [ascii "PING x\r", ascii "\nJOIN"] ircFramerInit [] Env.silent (worldInit configInit)).1 =
      .ok (absFramer (ascii "JOIN"), [ascii "PING x"]) := by
  rw [(framer_splits_stream collect collect_returnsZero _ [] _ _).1, ← cut_framesOf, ← cut_unfinished]
  rfl

end AmBot
