import AmBot.Lines
import AmBot.Port
import AmBot.Transmit
/-!
# The texts a run sends

`sentTexts` reads off the trace which texts were handed to
`ambot_net_send_all`, whatever part of them each `send` took. It is used to
say which PONGs a run sends: the handlers of an event send none of their own.
-/

namespace AmBot

open RunLib RunLib.Prog

/-- What is left of a text after this observation. -/
def leftAfter (left : Bytes) : Obs → Bytes
  | .send _ data rc => if rc ≤ 0 then [] else data.drop rc.toNat
  | _ => left

/-- A `send` starts a text where nothing is left of the one before. -/
def textStarted (left : Bytes) : Obs → List (Int × Bytes)
  | .send sock data _ => if left = [] then [(sock, data)] else []
  | _ => []

/-- The texts handed to `ambot_net_send_all`, with their sockets. -/
def sentTexts : Bytes → List Obs → List (Int × Bytes)
  | _, [] => []
  | left, o :: t => textStarted left o ++ sentTexts (leftAfter left o) t

/-- The bytes of the texts for `sock`. -/
def textsOn (sock : Int) (texts : List (Int × Bytes)) : Bytes :=
  texts.flatMap fun text => if text.1 = sock then text.2 else []

/-- Every send takes something. -/
def SendsSucceed (t : List Obs) : Prop := ∀ sock data rc, .send sock data rc ∈ t → 0 < rc

/-- These are the texts sent, the last of them to its end. -/
structure Hands (texts : List (Int × Bytes)) (t : List Obs) : Prop where
  read : sentTexts [] t = texts
  left : t.foldl leftAfter [] = []
  taken : SendsSucceed t → ∀ sock, takenOn sock t = textsOn sock texts

theorem sentTexts_append (left : Bytes) (t u : List Obs) :
    sentTexts left (t ++ u) = sentTexts left t ++ sentTexts (t.foldl leftAfter left) u := by
  induction t generalizing left with
  | nil => rfl
  | cons o t ih =>
    rw [List.cons_append, sentTexts, sentTexts, ih, List.append_assoc]
    rfl

theorem hands_nil : Hands [] [] := ⟨rfl, rfl, fun _ _ => rfl⟩

theorem Hands.append {texts texts' : List (Int × Bytes)} {t u : List Obs} (h : Hands texts t) (h' : Hands texts' u) :
    Hands (texts ++ texts') (t ++ u) := by
  apply Hands.mk
  · rw [sentTexts_append, h.read, h.left, h'.read]
  · rw [List.foldl_append, h.left, h'.left]
  · intro hsucceed sock
    rw [takenOn_append, h.taken fun fd data rc hmem => hsucceed fd data rc (List.mem_append_left _ hmem),
      h'.taken fun fd data rc hmem => hsucceed fd data rc (List.mem_append_right _ hmem)]
    exact List.flatMap_append.symm

/-- Without a send, nothing. -/
theorem hands_quiet {t : List Obs} (h : ∀ o ∈ t, o.kind ≠ .send) : Hands [] t := by
  induction t with
  | nil => exact hands_nil
  | cons o t ih =>
    have hrest := ih fun x hx => h x (List.mem_cons_of_mem _ hx)
    have hone : Hands [] [o] := by
      cases o with
      | send => exact absurd rfl (h _ List.mem_cons_self)
      | _ => exact ⟨rfl, rfl, fun _ _ => rfl⟩
    exact hone.append hrest

/-! ## One text -/

/-- What is left of a text is no new one. -/
theorem SendLoop.rest {sock rc : Int} {data : Bytes} {sent : Nat} {t : List Obs} (h : SendLoop sock data sent t rc) :
    sentTexts (data.drop sent) t = [] ∧ t.foldl leftAfter (data.drop sent) = [] := by
  induction h with
  | done sent hle => exact ⟨rfl, List.drop_of_length_le hle⟩
  | refused sent rc hlt hrc =>
    have hleft : data.drop sent ≠ [] := mt List.drop_eq_nil_iff.1 (Nat.not_le.2 hlt)
    simp [sentTexts, textStarted, leftAfter, hleft, hrc]
  | more sent rc result t hlt hrc _ ih =>
    have hleft : data.drop sent ≠ [] := mt List.drop_eq_nil_iff.1 (Nat.not_le.2 hlt)
    simpa [sentTexts, textStarted, leftAfter, hleft, not_le.2 hrc, List.drop_drop] using ih

theorem SendLoop.succeeds {sock rc : Int} {data : Bytes} {sent : Nat} {t : List Obs} (h : SendLoop sock data sent t rc)
    (hsucceed : SendsSucceed t) : rc = 0 := by
  induction h with
  | done => rfl
  | refused sent rc _ hrc => exact absurd (hsucceed _ _ _ List.mem_cons_self) (not_lt.2 hrc)
  | more sent rc result t _ _ _ ih => exact ih fun fd data rc hmem => hsucceed fd data rc (List.mem_cons_of_mem _ hmem)

theorem SendLoop.sends {sock rc : Int} {data : Bytes} {sent : Nat} {t : List Obs} (h : SendLoop sock data sent t rc) :
    ∀ o ∈ t, ∃ rest n, o = .send sock rest n := by
  induction h with
  | done => exact fun _ ho => absurd ho List.not_mem_nil
  | refused sent rc => exact fun o ho => ⟨_, _, List.mem_singleton.1 ho⟩
  | more sent rc result t _ _ _ ih =>
    intro o ho
    rcases List.mem_cons.1 ho with rfl | ho
    · exact ⟨_, _, rfl⟩
    · exact ih o ho

/-- A text handed to `ambot_net_send_all`; an empty one makes no call. -/
def oneText (sock : Int) (data : Bytes) : List (Int × Bytes) := if data = [] then [] else [(sock, data)]

theorem textsOn_oneText (fd sock : Int) (data : Bytes) :
    textsOn fd (oneText sock data) = if sock = fd then data else [] := by
  unfold oneText
  split
  · rename_i hdata
    subst hdata
    split <;> rfl
  · simp [textsOn]

theorem SendLoop.hands {sock rc : Int} {data : Bytes} {t : List Obs} (h : SendLoop sock data 0 t rc) :
    Hands (oneText sock data) t := by
  apply Hands.mk
  · cases h with
    | done _ hle =>
      obtain rfl := List.length_eq_zero_iff.1 (Nat.le_zero.1 hle)
      rfl
    | refused _ _ hlt =>
      rw [oneText, if_neg (List.ne_nil_of_length_pos hlt)]
      rfl
    | more _ rc _ t hlt hrc hloop =>
      have hrest := hloop.rest.1
      rw [Nat.zero_add] at hrest
      rw [oneText, if_neg (List.ne_nil_of_length_pos hlt)]
      simp [sentTexts, textStarted, leftAfter, not_le.2 hrc, hrest]
  · cases h with
    | done => rfl
    | refused _ _ _ hrc => simp [leftAfter, hrc]
    | more _ rc _ t hlt hrc hloop =>
      have hrest := hloop.rest.2
      rw [Nat.zero_add] at hrest
      simp [leftAfter, not_le.2 hrc, hrest]
  · intro hsucceed fd
    rw [textsOn_oneText]
    split
    · rename_i hfd
      subst hfd
      exact h.taken.2.1 (h.succeeds hsucceed)
    · rename_i hfd
      apply takenOn_eq_nil
      intro rest n hmem
      obtain ⟨rest', n', heq⟩ := h.sends _ hmem
      exact hfd (Obs.send.inj heq).1.symm

theorem netSendAll_hands (sock : Int) (data : Bytes) (env : Env) (w : World) :
    ∃ rc w' t, netSendAll sock data env w = (.ok rc, w') ∧ w'.trace = w.trace ++ t ∧ Hands (oneText sock data) t ∧
      ∀ o ∈ t, o.kind = .send := by
  obtain ⟨rc, w', t, hrun, ht, hloop⟩ := netSendFrom_loop sock data 0 (Nat.le_add_left _ 0) env w
  refine ⟨rc, w', t, hrun, ht, hloop.hands, ?_⟩
  intro o ho
  obtain ⟨rest, n, rfl⟩ := hloop.sends o ho
  rfl

end AmBot
