import AmBot.Effects
/-!
# Lines on a socket

What `ambot_irc_send_line` hands to the network, whatever part of it each
`send` takes.
-/

namespace AmBot

open RunLib RunLib.Prog

/-- What the network has taken of the bytes handed to `sock`. -/
def Obs.takenOn (sock : Int) : Obs → Bytes
  | .send fd data rc => if fd = sock then data.take rc.toNat else []
  | _ => []

def takenOn (sock : Int) (t : List Obs) : Bytes := t.flatMap (·.takenOn sock)

theorem takenOn_cons (sock : Int) (o : Obs) (t : List Obs) : takenOn sock (o :: t) = o.takenOn sock ++ takenOn sock t :=
  List.flatMap_cons

theorem takenOn_append (sock : Int) (t t' : List Obs) : takenOn sock (t ++ t') = takenOn sock t ++ takenOn sock t' :=
  List.flatMap_append

theorem takenOn_send (sock rc : Int) (data : Bytes) (t : List Obs) :
    takenOn sock (.send sock data rc :: t) = data.take rc.toNat ++ takenOn sock t := by
  rw [takenOn_cons]
  simp [Obs.takenOn]

/-- Every send on `sock` takes something. -/
def TakesSends (sock : Int) (t : List Obs) : Prop := ∀ data rc, .send sock data rc ∈ t → 0 < rc

/-- `line` is what goes out on `sock`: nothing but what is left of it and of
its CRLF is handed to the network, which takes these bytes in order, and all
of them unless it refuses some. -/
structure Transmits (sock : Int) (line : Bytes) (t : List Obs) : Prop where
  handed : ∀ data rc, .send sock data rc ∈ t → data <:+ line ∨ data <:+ CRLF
  taken : takenOn sock t <+: line ++ CRLF
  whole : TakesSends sock t → takenOn sock t = line ++ CRLF

/-! ## One string -/

/-- The sends of `data` with this result. -/
structure Sends (sock : Int) (data : Bytes) (rc : Int) (t : List Obs) : Prop where
  handed : ∀ o ∈ t, ∃ rest n, o = .send sock rest n ∧ rest <:+ data
  taken : takenOn sock t <+: data
  result : rc = 0 ∧ takenOn sock t = data ∨ rc ≠ 0 ∧ ¬ TakesSends sock t

theorem sends_nil (sock : Int) : Sends sock [] 0 [] :=
  ⟨fun _ h => absurd h List.not_mem_nil, List.prefix_refl _, .inl ⟨rfl, rfl⟩⟩

/-- The network takes nothing of what is left. -/
theorem sends_refused {sock rc : Int} {data : Bytes} (hrc : rc ≤ 0) : Sends sock data (-1) [.send sock data rc] := by
  have hnone : takenOn sock [.send sock data rc] = [] := by
    simp [takenOn, Obs.takenOn, Int.toNat_of_nonpos hrc]
  refine ⟨fun o ho => ?_, by rw [hnone]; exact List.nil_prefix, .inr ⟨by decide, fun h => ?_⟩⟩
  · obtain rfl := List.mem_singleton.1 ho
    exact ⟨data, rc, rfl, List.suffix_refl _⟩
  · have := h data rc (List.mem_singleton_self _)
    omega

/-- The network takes some of it, and the rest goes on. -/
theorem sends_more {sock rc rc' : Int} {data : Bytes} {t : List Obs} (h : Sends sock (data.drop rc.toNat) rc' t) :
    Sends sock data rc' (.send sock data rc :: t) := by
  have htaken := takenOn_send sock rc data t
  refine ⟨fun o ho => ?_, ?_, ?_⟩
  · rcases List.mem_cons.1 ho with rfl | ho
    · exact ⟨data, rc, rfl, List.suffix_refl _⟩
    · obtain ⟨rest, n, rfl, hrest⟩ := h.handed o ho
      exact ⟨rest, n, rfl, hrest.trans (List.drop_suffix _ _)⟩
  · have hprefix := (List.prefix_append_right_inj (data.take rc.toNat)).2 h.taken
    rwa [List.take_append_drop, ← htaken] at hprefix
  · rcases h.result with ⟨hzero, hall⟩ | ⟨hne, hrefused⟩
    · exact .inl ⟨hzero, by rw [htaken, hall, List.take_append_drop]⟩
    · exact .inr ⟨hne, fun htakes => hrefused fun d n hd => htakes d n (List.mem_cons_of_mem _ hd)⟩

theorem netSendFrom_sends (sock : Int) (n : Nat) {data : Bytes} (hn : data.length ≤ n) (env : Env) (w : World) :
    ∃ rc w' t, netSendFrom sock n data env w = (.ok rc, w') ∧ w'.trace = w.trace ++ t ∧ Sends sock data rc t := by
  induction n generalizing data w with
  | zero =>
    obtain rfl := List.length_eq_zero_iff.1 (Nat.le_zero.1 hn)
    exact ⟨0, w, [], rfl, by simp, sends_nil sock⟩
  | succ n ih =>
    cases data with
    | nil => exact ⟨0, w, [], rfl, by simp, sends_nil sock⟩
    | cons c cs =>
      have hstep : netSendFrom sock (n + 1) (c :: cs) env w =
          (if env.send w.tick ≤ 0 then pure (-1) else netSendFrom sock n ((c :: cs).drop (env.send w.tick).toNat)) env
            (World.log { w with tick := w.tick + 1 } (.send sock (c :: cs) (env.send w.tick))) := rfl
      rw [hstep]
      by_cases hrc : env.send w.tick ≤ 0
      · rw [if_pos hrc]
        exact ⟨-1, _, _, rfl, rfl, sends_refused hrc⟩
      · rw [if_neg hrc]
        have hrest : ((c :: cs).drop (env.send w.tick).toNat).length ≤ n := by
          simp only [List.length_drop, List.length_cons] at hn ⊢
          omega
        obtain ⟨rc, w', t, hrun, htrace, hsends⟩ :=
          ih hrest (World.log { w with tick := w.tick + 1 } (.send sock (c :: cs) (env.send w.tick)))
        exact ⟨rc, w', _, hrun, by simp [htrace, World.log], sends_more hsends⟩

theorem netSendAll_sends (sock : Int) (data : Bytes) (env : Env) (w : World) :
    ∃ rc w' t, netSendAll sock data env w = (.ok rc, w') ∧ w'.trace = w.trace ++ t ∧ Sends sock data rc t :=
  netSendFrom_sends sock _ le_rfl env w

theorem takenOn_eq_nil {sock : Int} {t : List Obs} (h : ∀ data rc, .send sock data rc ∉ t) : takenOn sock t = [] := by
  refine List.flatMap_eq_nil_iff.2 fun o ho => ?_
  cases o with
  | send fd data rc =>
    have hfd : fd ≠ sock := fun heq => h data rc (heq ▸ ho)
    simp [Obs.takenOn, hfd]
  | _ => rfl

/-- What is logged before, without a send on the socket, makes no difference. -/
theorem Transmits.after {sock : Int} {line : Bytes} {u t : List Obs} (h : Transmits sock line t)
    (hu : ∀ data rc, .send sock data rc ∉ u) : Transmits sock line (u ++ t) := by
  have htaken : takenOn sock (u ++ t) = takenOn sock t := by rw [takenOn_append, takenOn_eq_nil hu, List.nil_append]
  refine ⟨fun data rc hd => ?_, by rw [htaken]; exact h.taken, fun htakes => ?_⟩
  · rcases List.mem_append.1 hd with hd | hd
    · exact absurd hd (hu data rc)
    · exact h.handed data rc hd
  · rw [htaken]
    exact h.whole fun data rc hd => htakes data rc (List.mem_append_right _ hd)

/-! ## One line -/

theorem Sends.mem {sock rc : Int} {data d : Bytes} {n : Int} {t : List Obs} (h : Sends sock data rc t)
    (hd : .send sock d n ∈ t) : d <:+ data := by
  obtain ⟨rest, n', heq, hrest⟩ := h.handed _ hd
  obtain ⟨-, rfl, -⟩ := Obs.send.injEq .. ▸ heq
  exact hrest

/-- `line` goes out on `sock` and on no other socket, and the result says
whether all of it did. -/
structure LineSent (sock : Int) (line : Bytes) (rc : Int) (t : List Obs) : Prop where
  transmits : Transmits sock line t
  only : ∀ o ∈ t, ∃ data n, o = .send sock data n
  result : rc = 0 ∧ takenOn sock t = line ++ CRLF ∨ rc ≠ 0 ∧ ¬ TakesSends sock t

/-- A line the network refuses a part of. -/
theorem Sends.refused {sock rc : Int} {line : Bytes} {t : List Obs} (h : Sends sock line rc t) (hrc : rc ≠ 0) :
    LineSent sock line (-1) t := by
  have hrefused : ¬ TakesSends sock t := by
    rcases h.result with ⟨hzero, -⟩ | ⟨-, hrefused⟩
    · exact absurd hzero hrc
    · exact hrefused
  refine ⟨⟨fun d n hd => .inl (h.mem hd), h.taken.trans (List.prefix_append _ _), fun htakes => ?_⟩, fun o ho => ?_,
    .inr ⟨by decide, hrefused⟩⟩
  · exact absurd htakes hrefused
  · obtain ⟨rest, n, rfl, -⟩ := h.handed o ho
    exact ⟨rest, n, rfl⟩

/-- A line that is taken, and its CRLF. -/
theorem Sends.line_crlf {sock rc rc' : Int} {line : Bytes} {t t' : List Obs} (h : Sends sock line rc t) (hrc : rc = 0)
    (h' : Sends sock CRLF rc' t') : LineSent sock line rc' (t ++ t') := by
  have hline : takenOn sock t = line := by
    rcases h.result with ⟨-, hall⟩ | ⟨hne, -⟩
    · exact hall
    · exact absurd hrc hne
  have hresult : rc' = 0 ∧ takenOn sock (t ++ t') = line ++ CRLF ∨ rc' ≠ 0 ∧ ¬ TakesSends sock (t ++ t') := by
    rw [takenOn_append, hline]
    rcases h'.result with ⟨hzero, hall⟩ | ⟨hne, hrefused⟩
    · exact .inl ⟨hzero, by rw [hall]⟩
    · exact .inr ⟨hne, fun htakes => hrefused fun d n hd => htakes d n (List.mem_append_right _ hd)⟩
  refine ⟨⟨fun d n hd => ?_, ?_, fun htakes => ?_⟩, fun o ho => ?_, hresult⟩
  · rcases List.mem_append.1 hd with hd | hd
    · exact .inl (h.mem hd)
    · exact .inr (h'.mem hd)
  · rw [takenOn_append, hline]
    exact (List.prefix_append_right_inj line).2 h'.taken
  · rcases hresult with ⟨-, hall⟩ | ⟨-, hrefused⟩
    · exact hall
    · exact absurd htakes hrefused
  · rcases List.mem_append.1 ho with ho | ho
    · obtain ⟨rest, n, rfl, -⟩ := h.handed o ho
      exact ⟨rest, n, rfl⟩
    · obtain ⟨rest, n, rfl, -⟩ := h'.handed o ho
      exact ⟨rest, n, rfl⟩

/-- `ambot_irc_send_line` sends its line and nothing else. -/
theorem ircSendLine_sent (sock : Int) (line : Bytes) (env : Env) (w : World) :
    ∃ rc w' t, ircSendLine sock line env w = (.ok rc, w') ∧ w'.trace = w.trace ++ t ∧ LineSent sock line rc t := by
  obtain ⟨rc, w₁, t, hline, ht, hsends⟩ := netSendAll_sends sock line env w
  unfold ircSendLine
  rw [bind_ok hline]
  by_cases hrc : rc = 0
  · rw [if_neg (not_not.2 hrc)]
    obtain ⟨rc', w₂, t', hcrlf, ht', hsends'⟩ := netSendAll_sends sock CRLF env w₁
    exact ⟨rc', w₂, t ++ t', hcrlf, by rw [ht', ht, List.append_assoc], hsends.line_crlf hrc hsends'⟩
  · rw [if_pos hrc]
    exact ⟨-1, w₁, t, rfl, ht, hsends.refused hrc⟩

/-- A formatted line goes out if it fits the buffer; otherwise nothing does. -/
theorem sendFormatted_transmits (sock : Int) (line : Bytes) (env : Env) (w : World) :
    ∃ w' t, sendFormatted sock line env w = (.ok (), w') ∧ w'.trace = w.trace ++ t ∧
      (fits (ircLineMax + 1) line = true ∧ Transmits sock line t ∨ fits (ircLineMax + 1) line = false ∧ t = []) := by
  unfold sendFormatted
  cases hfits : fits (ircLineMax + 1) line with
  | true =>
    obtain ⟨rc, w', t, hrun, ht, hsent⟩ := ircSendLine_sent sock line env w
    exact ⟨w', t, by rw [if_pos rfl, bind_ok hrun]; rfl, ht, .inl ⟨rfl, hsent.transmits⟩⟩
  | false => exact ⟨w, [], rfl, by simp, .inr ⟨rfl, rfl⟩⟩

/-! ## The loop -/

/-- The runs of the loop of `ambot_net_send_all` over `data` from the offset
`sent`: the calls of `send` they make, and what they return. -/
inductive SendLoop (sock : Int) (data : Bytes) : Nat → List Obs → Int → Prop
  | done (sent : Nat) : data.length ≤ sent → SendLoop sock data sent [] 0
  | refused (sent : Nat) (rc : Int) :
    sent < data.length → rc ≤ 0 → SendLoop sock data sent [.send sock (data.drop sent) rc] (-1)
  | more (sent : Nat) (rc result : Int) (t : List Obs) :
    sent < data.length → 0 < rc → SendLoop sock data (sent + rc.toNat) t result →
    SendLoop sock data sent (.send sock (data.drop sent) rc :: t) result

theorem netSendFrom_nil (sock : Int) (n : Nat) : netSendFrom sock n [] = pure 0 := by
  unfold netSendFrom
  rfl

/-- The loop comes to its end, as a round that goes on moves the offset. -/
theorem netSendFrom_loop (sock : Int) (data : Bytes) {n : Nat} (sent : Nat) (hn : data.length ≤ sent + n) (env : Env) (w : World) :
    ∃ rc w' t, netSendFrom sock n (data.drop sent) env w = (.ok rc, w') ∧ w'.trace = w.trace ++ t ∧
      SendLoop sock data sent t rc := by
  induction n generalizing sent w with
  | zero =>
    have hle : data.length ≤ sent := hn
    rw [List.drop_of_length_le hle, netSendFrom_nil]
    exact ⟨0, w, [], rfl, by simp, .done sent hle⟩
  | succ n ih =>
    rcases Nat.lt_or_ge sent data.length with hlt | hge
    · have hstep : netSendFrom sock (n + 1) (data.drop sent) env w =
          (if env.send w.tick ≤ 0 then pure (-1) else netSendFrom sock n ((data.drop sent).drop (env.send w.tick).toNat)) env
            (World.log { w with tick := w.tick + 1 } (.send sock (data.drop sent) (env.send w.tick))) := by
        rw [List.drop_eq_getElem_cons hlt]
        rfl
      rw [hstep]
      by_cases hrc : env.send w.tick ≤ 0
      · rw [if_pos hrc]
        exact ⟨-1, _, _, rfl, rfl, .refused sent _ hlt hrc⟩
      · rw [if_neg hrc, List.drop_drop]
        have hpos : 0 < env.send w.tick := not_le.1 hrc
        obtain ⟨rc, w', t, hrun, htrace, hloop⟩ := ih (sent + (env.send w.tick).toNat) (by omega)
          (World.log { w with tick := w.tick + 1 } (.send sock (data.drop sent) (env.send w.tick)))
        exact ⟨rc, w', _, hrun, by simp [htrace, World.log], .more sent _ rc t hlt hpos hloop⟩
    · rw [List.drop_of_length_le hge, netSendFrom_nil]
      exact ⟨0, w, [], rfl, by simp, .done sent hge⟩

/-- What the loop sends is what is left from the offset on. -/
theorem SendLoop.taken {sock result : Int} {data : Bytes} {sent : Nat} {t : List Obs} (h : SendLoop sock data sent t result) :
    takenOn sock t <+: data.drop sent ∧ (result = 0 ↔ takenOn sock t = data.drop sent) := by
  induction h with
  | done sent hle =>
    rw [List.drop_of_length_le hle]
    exact ⟨List.prefix_refl _, iff_of_true rfl rfl⟩
  | refused sent rc hlt hrc =>
    rw [takenOn_send, Int.toNat_of_nonpos hrc]
    refine ⟨List.nil_prefix, iff_of_false (by decide) ?_⟩
    intro hall
    have hlength := congrArg List.length hall
    rw [List.length_drop] at hlength
    simp [takenOn] at hlength
    omega
  | more sent rc result t hlt hrc _ ih =>
    have hsplit : (data.drop sent).take rc.toNat ++ data.drop (sent + rc.toNat) = data.drop sent := by
      rw [← List.drop_drop, List.take_append_drop]
    have htaken := (List.prefix_append_right_inj ((data.drop sent).take rc.toNat)).2 ih.1
    have hall : (data.drop sent).take rc.toNat ++ takenOn sock t =
        (data.drop sent).take rc.toNat ++ data.drop (sent + rc.toNat) ↔
        takenOn sock t = data.drop (sent + rc.toNat) := List.append_right_inj _
    rw [hsplit] at htaken hall
    rw [takenOn_send, ih.2, hall]
    exact ⟨htaken, Iff.rfl⟩

/-- The runs of `ambot_irc_send_line`: the line, and after all of it its CRLF. -/
inductive LineLoop (sock : Int) (line : Bytes) : List Obs → Int → Prop
  | refused (t : List Obs) (rc : Int) : SendLoop sock line 0 t rc → rc ≠ 0 → LineLoop sock line t (-1)
  | ended (t t' : List Obs) (rc : Int) :
    SendLoop sock line 0 t 0 → SendLoop sock CRLF 0 t' rc → LineLoop sock line (t ++ t') rc

theorem LineLoop.taken {sock result : Int} {line : Bytes} {t : List Obs} (h : LineLoop sock line t result) :
    takenOn sock t <+: line ++ CRLF ∧ (result = 0 ↔ takenOn sock t = line ++ CRLF) := by
  cases h with
  | refused t rc hline hrc =>
    have htaken : takenOn sock t <+: line := hline.taken.1
    refine ⟨htaken.trans (List.prefix_append _ _), iff_of_false (by decide) ?_⟩
    intro hall
    have hlength := htaken.length_le
    rw [hall, List.length_append, show CRLF.length = 2 from rfl] at hlength
    omega
  | ended t t' rc hline hcrlf =>
    have htaken : takenOn sock t = line := hline.taken.2.1 rfl
    rw [takenOn_append, htaken, List.append_right_inj]
    exact ⟨(List.prefix_append_right_inj line).2 hcrlf.taken.1, hcrlf.taken.2⟩

/-- Whatever part of its bytes each `send` takes, `ambot_irc_send_line` comes
to its end, and its result says whether the network took all of them. -/
theorem ircSendLine_exact (sock : Int) (line : Bytes) (env : Env) (w : World) :
    ∃ rc w' t, ircSendLine sock line env w = (.ok rc, w') ∧ w'.trace = w.trace ++ t ∧ LineLoop sock line t rc ∧
      takenOn sock t <+: line ++ CRLF ∧ (rc = 0 ↔ takenOn sock t = line ++ CRLF) := by
  obtain ⟨rc, w₁, t, hline, ht, hloop⟩ := netSendFrom_loop sock line 0 (Nat.le_add_left _ 0) env w
  have hfirst : netSendAll sock line env w = (.ok rc, w₁) := hline
  unfold ircSendLine
  rw [bind_ok hfirst]
  by_cases hrc : rc = 0
  · subst hrc
    obtain ⟨rc', w₂, t', hcrlf, ht', hloop'⟩ := netSendFrom_loop sock CRLF 0 (Nat.le_add_left _ 0) env w₁
    have hboth := LineLoop.ended t t' rc' hloop hloop'
    exact ⟨rc', w₂, t ++ t', hcrlf, by rw [ht', ht, List.append_assoc], hboth, hboth.taken⟩
  · have hrefused := LineLoop.refused t rc hloop hrc
    exact ⟨-1, w₁, t, by rw [if_pos hrc]; rfl, ht, hrefused, hrefused.taken⟩

end AmBot
