import AmBot.Descriptors
import AmBot.Talks
/-!
# No descriptor is used after it is closed

The functions of one connection, with the descriptors that are open while they
run. Each hands back the descriptors it was given, but for the one it opens or
closes, and gives the network stack open ones only. The ARexx commands go to
the socket in the control block, which has to be open too.
-/

namespace AmBot

open RunLib RunLib.Prog

/-! ## Open descriptors -/

/-- The descriptors a call is given. `wait_many` leaves those below zero out. -/
def Obs.given : Obs → List Int
  | .send sock _ _ => [sock]
  | .recv sock _ => [sock]
  | .close sock => [sock]
  | .wait socks _ => socks.filter (0 ≤ ·)
  | _ => []

/-- Every descriptor that is given to a call has been opened and not closed since. -/
def GivenOpen (before : List Obs) (o : Obs) : Prop := ∀ fd ∈ o.given, 0 ≤ fd ∧ ∃ n, held fd before = some (n + 1)

/-- No call so far was given a descriptor that was not open. -/
def Safe (w : World) : Prop := Lawful GivenOpen w.trace

/-- `fd` is among the open descriptors `k`. -/
def Has (k : Int → Nat) (fd : Int) : Prop := 0 ≤ fd ∧ 0 < k fd

/-- The socket of the control block is open, where there is one. -/
def Covers (k : Int → Nat) (c : Int) : Prop := 0 ≤ c → 0 < k c

/-- Each `fd` is open `k fd` times, no call was given a closed one, and `c` is
the socket of the control block. -/
structure Owns (k : Int → Nat) (c : Int) (w : World) : Prop where
  opens : Opens k w
  safe : Safe w
  control : w.control.sock = c

variable {α σ : Type} {k k' : Int → Nat} {c sock : Int} {S : List Kind} {w : World}

theorem Owns.log (h : Owns k c w) {o : Obs} (hgiven : ∀ fd ∈ o.given, Has k fd)
    (hledger : ∀ fd, 0 ≤ fd → o.ledger fd (k fd) = some (k' fd)) : Owns k' c (w.log o) where
  opens := h.opens.log hledger
  safe := by
    refine lawful_snoc.2 ⟨h.safe, fun fd hfd => ?_⟩
    obtain ⟨hnonneg, hopen⟩ := hgiven fd hfd
    exact ⟨hnonneg, k fd - 1, by rw [h.opens fd hnonneg, Nat.sub_add_cancel hopen]⟩
  control := h.control

theorem has_plus (k : Int → Nat) {sock : Int} (h : 0 ≤ sock) : Has (plus k sock) sock :=
  ⟨h, by simp [plus, one]⟩

theorem Has.plus (h : Has k c) (sock : Int) : Has (plus k sock) c := ⟨h.1, Nat.lt_of_lt_of_le h.2 (Nat.le_add_right _ _)⟩

theorem Covers.plus (h : Covers k c) (sock : Int) : Covers (plus k sock) c :=
  fun hc => (Has.plus ⟨hc, h hc⟩ sock).2

theorem covers_none {k : Int → Nat} : Covers k (-1) := fun h => absurd h (by decide)

theorem owns_plus_closed (h : sock < 0) : Owns (plus k sock) c w ↔ Owns k c w :=
  ⟨fun hw => ⟨(plus_closed h).1 hw.opens, hw.safe, hw.control⟩,
    fun hw => ⟨(plus_closed h).2 hw.opens, hw.safe, hw.control⟩⟩

/-! ## The calls -/

/-- Kinds that neither open, close nor wait. -/
def Kind.talks : Kind → Bool
  | .connect | .close | .wait => false
  | _ => true

theorem talks_neutral {kind : Kind} (h : kind.talks = true) : kind.neutral = true := by
  cases kind <;> first | rfl | cases h

/-- A call that talks is given the socket it uses. -/
theorem given_uses {o : Obs} (h : o.kind.talks = true) {fd : Int} (hfd : fd ∈ o.given) : o.uses = some fd := by
  cases o with
  | send => exact congrArg some (List.mem_singleton.1 hfd).symm
  | recv => exact congrArg some (List.mem_singleton.1 hfd).symm
  | close => cases h
  | wait => cases h
  | _ => cases hfd

/-- What talks on open sockets only, the control block's among them. -/
theorem talks_owns (mine : List Int) {m : M α} (hS : ∀ kind ∈ S, kind.talks = true) (hacts : Keeps (Acts S) m)
    (htalks : Keeps (Talks true mine) m) (hmine : ∀ fd ∈ mine, Has k fd) (hc : Covers k c) :
    Triple (Owns k c) m (fun _ => Owns k c) Safe := by
  have hkeeps (env : Env) (w : World) (hw : Owns k c w) : Owns k c (m env w).2 := by
    obtain ⟨hsock, t, ht, hkinds, hlaw⟩ := acts_talked hacts htalks env w
    have hneutral : ∀ kind ∈ S, kind.neutral = true := fun kind hkind => talks_neutral (hS kind hkind)
    refine ⟨(hacts env w).logs.opens hneutral hw.opens, ?_, hsock.trans hw.control⟩
    unfold Safe
    rw [ht]
    refine lawful_append.2 ⟨hw.safe, ?_⟩
    rintro before o after rfl fd hfd
    have huses := given_uses (hS _ (hkinds o (by simp))) hfd
    -- nothing was opened or closed on the way here
    have hopens : Opens k { w with trace := w.trace ++ before } :=
      Logs.opens hneutral ⟨before, rfl, fun o ho => hkinds o (by simp [ho])⟩ hw.opens
    have hhas : Has k fd := by
      rcases hlaw before o after rfl fd huses with hfd | ⟨-, host, port, hconnect⟩ | ⟨-, hshared, hnonneg⟩
      · exact hmine fd hfd
      · have hconnects := hS _ (hkinds (.connect host port fd) (List.mem_append_left _ hconnect))
        cases hconnects
      · obtain rfl : fd = w.control.sock := by simpa [World.shared] using hshared
        rw [hw.control] at hnonneg ⊢
        exact ⟨hnonneg, hc hnonneg⟩
    exact ⟨hhas.1, k fd - 1, by rw [hopens fd hhas.1, Nat.sub_add_cancel hhas.2]⟩
  intro env w hw
  have := hkeeps env w hw
  split <;> rename_i heq <;> rw [heq] at this
  · exact this
  · exact this.safe

/-- Kinds that are given no descriptor. -/
def Kind.quiet : Kind → Bool
  | .connect | .close | .wait | .send | .recv => false
  | _ => true

theorem given_quiet {o : Obs} (h : o.kind.quiet = true) : o.given = [] := by
  cases o <;> first | rfl | cases h

theorem quiet_neutral {kind : Kind} (h : kind.quiet = true) : kind.neutral = true := by
  cases kind <;> first | rfl | cases h

theorem quiet_owns {m : M α} (hS : ∀ kind ∈ S, kind.quiet = true) (hacts : Keeps (Acts S) m) :
    Triple (Owns k c) m (fun _ => Owns k c) Safe := by
  intro env w hw
  have hlogs := (hacts env w).logs
  have hneutral : ∀ kind ∈ S, kind.neutral = true := fun kind hkind => quiet_neutral (hS kind hkind)
  have hafter : Owns k c (m env w).2 := by
    refine ⟨hlogs.opens hneutral hw.opens, ?_, (hacts env w).sock.trans hw.control⟩
    obtain ⟨t, ht, hkinds⟩ := hlogs
    unfold Safe
    rw [ht]
    refine lawful_append.2 ⟨hw.safe, ?_⟩
    rintro before o after rfl fd hfd
    rw [given_quiet (hS _ (hkinds o (by simp)))] at hfd
    cases hfd
  split <;> rename_i heq <;> rw [heq] at hafter
  · exact hafter
  · exact hafter.safe

theorem ask_owns (f : Env → Nat → α) : Triple (Owns k c) (ask f) (fun _ => Owns k c) Safe :=
  quiet_owns (S := []) (by simp) (keeps_ask f)

theorem log_owns {o : Obs} (h : o.kind.quiet = true ∧ o.kind ≠ .rexx) :
    Triple (Owns k c) (log o) (fun _ => Owns k c) Safe :=
  quiet_owns (S := [o.kind]) (by simpa using h.1) (keeps_log ⟨by simp, h.2⟩)

theorem netConnectIpv4_owns (host : Bytes) (port : Nat) :
    Triple (Owns k c) (netConnectIpv4 host port) (fun sock => Owns (plus k sock) c) Safe := by
  intro env w hw
  obtain ⟨sock, w', hconnect, htrace⟩ := netConnectIpv4_logs host port env w
  have hsock : w'.control.sock = w.control.sock := by
    have hacts := netConnectIpv4_keeps host port env w
    rw [hconnect] at hacts
    exact hacts.sock
  have hlog : Owns (plus k sock) c (w.log (.connect host port sock)) :=
    hw.log (fun fd hfd => absurd hfd List.not_mem_nil) fun fd _ => rfl
  rw [hconnect]
  refine ⟨fun fd hfd => ?_, ?_, hsock.trans hw.control⟩
  · rw [htrace]
    exact hlog.opens fd hfd
  · unfold Safe
    rw [htrace]
    exact hlog.safe

theorem netCloseSocket_owns (sock : Int) :
    Triple (Owns (plus k sock) c) (netCloseSocket sock) (fun _ => Owns k c) Safe := by
  unfold netCloseSocket
  refine triple_ite (fun h => triple_modify fun w hw => hw.log ?_ fun fd _ => ?_) fun h => triple_pure fun w hw => ?_
  · intro fd hfd
    obtain rfl := List.mem_singleton.1 hfd
    exact has_plus k h
  · by_cases hfd : sock = fd <;> simp [Obs.ledger, plus, one, hfd]
  · exact (owns_plus_closed (by omega)).1 hw

theorem log_wait_owns {socks : List Int} {timeout : Option Nat} (h : ∀ fd ∈ socks, 0 ≤ fd → 0 < k fd) :
    Triple (Owns k c) (log (.wait socks timeout)) (fun _ => Owns k c) Safe := by
  refine triple_modify fun w hw => hw.log (fun fd hfd => ?_) fun fd _ => rfl
  obtain ⟨hmem, hnonneg⟩ := List.mem_filter.1 hfd
  exact ⟨of_decide_eq_true hnonneg, h fd hmem (of_decide_eq_true hnonneg)⟩

theorem netWaitMany_owns {socks : List Int} (timeout : Option Nat) (h : ∀ fd ∈ socks, 0 ≤ fd → 0 < k fd) :
    Triple (Owns k c) (netWaitMany socks timeout) (fun _ => Owns k c) Safe := by
  refine (log_wait_owns h).bind fun _ => (ask_owns _).bind fun answer => ?_
  refine (quiet_owns (S := []) (by simp) (getBreakSignal_keeps _)).bind fun _ => ?_
  exact (quiet_owns (S := []) (by simp) (setBreakSignal_keeps _)).bind fun _ => triple_pure fun _ => id

theorem netWaitSocket_owns {sock : Int} (timeout : Nat) (h : 0 ≤ sock → 0 < k sock) :
    Triple (Owns k c) (netWaitSocket sock timeout) (fun _ => Owns k c) Safe := by
  refine (log_wait_owns (by simpa using h)).bind fun _ => ?_
  exact (ask_owns _).bind fun _ => triple_pure fun _ => id

/-! ## The service -/

/-- What is sent on or received from one open socket. -/
theorem on_owns {m : M α} (hS : ∀ kind ∈ S, kind.talks = true) (hacts : Keeps (Acts S) m)
    (htalks : Keeps (Talks true [sock]) m) (hsock : Has k sock) (hc : Covers k c) :
    Triple (Owns k c) m (fun _ => Owns k c) Safe :=
  talks_owns [sock] hS hacts htalks (by simpa using hsock) hc

theorem httpReceive_owns {sock : Int} (hsock : 0 ≤ sock) (hc : Covers k c) (timeout size n : Nat) (used : Bytes) :
    Triple (Owns (plus k sock) c) (httpReceive sock timeout size n used)
      (fun received => Owns (if received.isSome then plus k sock else k) c) Safe := by
  have hhas := has_plus k hsock
  -- as in the ledger: the loop closes the socket where it gives up
  induction n generalizing used with
  | zero => exact triple_pure fun _ => id
  | succ n ih =>
    unfold httpReceive
    refine triple_ite (fun _ => triple_pure fun _ => id) fun _ => ?_
    refine (netWaitSocket_owns timeout fun _ => hhas.2).bind fun r => ?_
    obtain ⟨rc, ready⟩ := r
    refine triple_ite (fun _ => ?_) fun _ => ?_
    · exact (netCloseSocket_owns sock).bind fun _ => triple_pure fun _ => id
    · refine (on_owns (by decide) (netRecv_keeps _ _) (netRecv_talks (by simp) _) hhas (hc.plus sock)).bind
        fun received => ?_
      split
      · exact (netCloseSocket_owns sock).bind fun _ => triple_pure fun _ => id
      · exact triple_pure fun _ => id
      · exact ih _

theorem httpRequest_owns (hc : Covers k c) (botai : BotAi) (method endpoint : Bytes) (body : Option Bytes) (size : Nat) :
    Triple (Owns k c) (httpRequest botai method endpoint body size) (fun _ => Owns k c) Safe := by
  unfold httpRequest
  split
  · exact triple_pure fun _ => id
  · refine (netConnectIpv4_owns _ _).bind fun sock =>
      triple_ite (fun h => triple_pure fun w => (owns_plus_closed h).1) fun h => ?_
    have hsock : 0 ≤ sock := Int.not_lt.1 h
    refine (on_owns (by decide) (netSendAll_keeps _ _) (netSendAll_talks (by simp) _) (has_plus k hsock)
      (hc.plus sock)).bind fun rc => triple_ite (fun _ => ?_) fun _ => ?_
    · exact (netCloseSocket_owns sock).bind fun _ => triple_pure fun _ => id
    · refine (httpReceive_owns hsock hc _ _ _ _).bind fun received => ?_
      cases received with
      | none => exact triple_pure fun _ => id
      | some used =>
        refine (netCloseSocket_owns sock).bind fun _ => triple_ite (fun _ => triple_pure fun _ => id) fun _ => ?_
        exact triple_ite (fun _ => triple_pure fun _ => id) fun _ => triple_pure fun _ => id

theorem botaiCheck_owns (hc : Covers k c) (botai : BotAi) :
    Triple (Owns k c) (botaiCheck botai) (fun _ => Owns k c) Safe := by
  unfold botaiCheck
  refine (httpRequest_owns hc _ _ _ _ _).bind fun response => ?_
  split
  · exact triple_pure fun _ => id
  · exact triple_ite (fun _ => triple_pure fun _ => id) fun _ => triple_pure fun _ => id

/-! ## Events -/

theorem commandsHandleEvent_owns (hc : Covers k c) (botai : BotAi) (event : Event) {context : CommandContext}
    (hcontext : Has k context.sock) :
    Triple (Owns k c) (commandsHandleEvent botai event context) (fun _ => Owns k c) Safe := by
  have reply (target text : Bytes) : Triple (Owns k c) (sendReply context target text) (fun _ => Owns k c) Safe :=
    on_owns (by decide) (sendReply_keeps _ _ _) (sendFormatted_talks (by simp) _) hcontext hc
  unfold commandsHandleEvent
  refine triple_ite (fun _ => triple_pure fun _ => id) fun _ => triple_ite (fun _ => triple_pure fun _ => id) fun _ => ?_
  split
  · exact reply _ _
  · refine triple_ite (fun _ => reply _ _) fun _ => ?_
    split
    · exact reply _ _
    · exact reply _ _
    · exact reply _ _
    · unfold handleAi botaiChat
      refine triple_ite (fun _ => reply _ _) fun _ => triple_ite (fun _ => reply _ _) fun _ => ?_
      refine Triple.bind (Q := fun _ => Owns k c) ?_ fun _ => triple_ite (fun _ => reply _ _) fun _ => reply _ _
      split
      · exact triple_pure fun _ => id
      · refine (httpRequest_owns hc _ _ _ _ _).bind fun response => ?_
        split <;> exact triple_pure fun _ => id

theorem hooksDispatchEvent_owns (hc : Covers k c) (event : Event) (context : HookContext) :
    Triple (Owns k c) (hooksDispatchEvent event context) (fun _ => Owns k c) Safe :=
  talks_owns [] (by decide) (hooksDispatchEvent_keeps event context) (hooksDispatchEvent_talks event context)
    (by simp) hc

theorem rexxProcess_owns (hc : Covers k c) : Triple (Owns k c) rexxProcess (fun _ => Owns k c) Safe :=
  talks_owns [] (by decide) rexxProcess_keeps rexxProcess_talks (by simp) hc

theorem dispatchEvent_owns (hc : Covers k c) (botai : BotAi) {commands : CommandContext} (hcontext : Has k commands.sock)
    (hooks : HookContext) (event : Event) :
    Triple (Owns k c) (dispatchEvent botai commands hooks event) (fun _ => Owns k c) Safe := by
  refine triple_same.bind fun control => (log_owns ⟨rfl, by simp [Obs.kind]⟩).bind fun _ => ?_
  exact (commandsHandleEvent_owns hc _ _ hcontext).bind fun _ => hooksDispatchEvent_owns hc _ _

end AmBot
