import AmBot.Effects
/-!
# One HTTP exchange

`http_request` as a relation between the outside and the response: what the
request and the answers to it are, in any reads, and which streams of bytes it
takes for a response.
-/

namespace AmBot

open RunLib RunLib.Prog

/-- The wait for `sock` at a tick ends with the socket ready. -/
def Env.ReadyAt (env : Env) (sock : Int) (tick : Nat) : Prop :=
  0 < (env.waitSelect tick).rc ∧ (env.waitSelect tick).readable sock = true

/-- From a tick on, the reads of `sock` get these chunks and then the end of
the stream, each after a wait. -/
def Env.Streams (env : Env) (sock : Int) : Nat → List Bytes → Prop
  | tick, [] => env.ReadyAt sock tick ∧ env.recv (tick + 1) = some []
  | tick, chunk :: chunks =>
    env.ReadyAt sock tick ∧ env.recv (tick + 1) = some chunk ∧ chunk ≠ [] ∧ env.Streams sock (tick + 2) chunks

/-- The request is made and sent whole, and `stream` is everything the service
sends before it ends the connection. -/
def Exchanged (env : Env) (w : World) (botai : BotAi) (method endpoint : Bytes) (body : Option Bytes)
    (stream : Bytes) : Prop :=
  ∃ request sock w₁ w₂ chunks, httpPrepare botai method endpoint body = some request ∧
    netConnectIpv4 botai.host botai.port env w = (.ok sock, w₁) ∧ 0 ≤ sock ∧
    netSendAll sock request env w₁ = (.ok 0, w₂) ∧ env.Streams sock w₂.tick chunks ∧ chunks.flatten = stream

/-- The outside answers in one way. -/
theorem Env.Streams.unique {env : Env} {sock : Int} {tick : Nat} {chunks chunks' : List Bytes}
    (h : env.Streams sock tick chunks) (h' : env.Streams sock tick chunks') : chunks = chunks' := by
  induction chunks generalizing tick chunks' with
  | nil =>
    cases chunks' with
    | nil => rfl
    | cons chunk' _ =>
      obtain ⟨-, hend⟩ := h
      obtain ⟨-, hchunk, hne, -⟩ := h'
      rw [hend] at hchunk
      exact absurd (Option.some.inj hchunk).symm hne
  | cons chunk chunks ih =>
    obtain ⟨-, hchunk, hne, hrest⟩ := h
    cases chunks' with
    | nil =>
      obtain ⟨-, hend⟩ := h'
      rw [hend] at hchunk
      exact absurd (Option.some.inj hchunk).symm hne
    | cons chunk' chunks' =>
      obtain ⟨-, hchunk', -, hrest'⟩ := h'
      rw [hchunk] at hchunk'
      rw [Option.some.inj hchunk', ih hrest hrest']

theorem Exchanged.unique {env : Env} {w : World} {botai : BotAi} {method endpoint stream stream' : Bytes}
    {body : Option Bytes} (h : Exchanged env w botai method endpoint body stream)
    (h' : Exchanged env w botai method endpoint body stream') : stream = stream' := by
  obtain ⟨request, sock, w₁, w₂, chunks, hprepare, hconnect, -, hsend, hstreams, rfl⟩ := h
  obtain ⟨request', sock', w₁', w₂', chunks', hprepare', hconnect', -, hsend', hstreams', rfl⟩ := h'
  obtain rfl := Option.some.inj (hprepare.symm.trans hprepare')
  obtain ⟨hsock, rfl⟩ := Prod.mk.inj (hconnect.symm.trans hconnect')
  cases hsock
  obtain ⟨-, rfl⟩ := Prod.mk.inj (hsend.symm.trans hsend')
  rw [hstreams.unique hstreams']

/-! ## One round of the receive loop -/

variable {env : Env} {w w' : World} {sock : Int} {timeout size n : Nat} {used r : Bytes}

theorem netWaitSocket_ready (timeout : Nat) (hsock : 0 ≤ sock) (h : env.ReadyAt sock w.tick) :
    ∃ rc w', netWaitSocket sock timeout env w = (.ok (rc, true), w') ∧ 0 < rc ∧ w'.tick = w.tick + 1 := by
  obtain ⟨hrc, hready⟩ := h
  have hlt : ¬ (env.waitSelect w.tick).rc < 0 := by omega
  refine ⟨(env.waitSelect w.tick).rc, { w.log (.wait [sock] (some timeout)) with tick := w.tick + 1 }, ?_, hrc, rfl⟩
  simp [netWaitSocket, bind_run, log, ask, readyBits, hlt, hsock, hready, World.log]

theorem netWaitSocket_ok {rc : Int} {ready : Bool} (h : netWaitSocket sock timeout env w = (.ok (rc, ready), w')) :
    w'.tick = w.tick + 1 ∧ (0 < rc → ready = true → env.ReadyAt sock w.tick) := by
  simp only [netWaitSocket, bind_run, log, ask, modify_run, pure_run, World.log, Prod.mk.injEq, Except.ok.injEq] at h
  obtain ⟨⟨rfl, hready⟩, rfl⟩ := h
  refine ⟨rfl, fun hrc ht => ⟨hrc, ?_⟩⟩
  have hlt : ¬ (env.waitSelect w.tick).rc < 0 := by omega
  subst ht
  simp [readyBits, hlt] at hready
  exact hready.2

theorem netRecv_run (env : Env) (w : World) (sock : Int) (length : Nat) :
    ∃ w', netRecv sock length env w = (.ok ((env.recv w.tick).map (List.take length)), w') ∧ w'.tick = w.tick + 1 := by
  exact ⟨_, rfl, rfl⟩

/-- Cutting a chunk to the room that is left changes nothing of what fits. -/
theorem take_chunk (used chunk rest : Bytes) (size : Nat) :
    ((used ++ chunk.take (size - used.length)) ++ rest).take size = (used ++ (chunk ++ rest)).take size := by
  by_cases h : chunk.length ≤ size - used.length
  · rw [List.take_of_length_le h, List.append_assoc]
  · have hlen : (chunk.take (size - used.length)).length = size - used.length := by simp; omega
    simp only [List.append_assoc, List.take_append, hlen, Nat.sub_self, List.take_zero, List.append_nil, List.take_take, Nat.min_self]
    rw [show size - used.length - chunk.length = 0 by omega, List.take_zero, List.append_nil]

/-- A stream that ends is received up to what the buffer holds. -/
theorem httpReceive_streams {chunks : List Bytes} (timeout : Nat) (hsock : 0 ≤ sock) (h : env.Streams sock w.tick chunks)
    (hfuel : size ≤ used.length + 1 + n) (hused : used.length < size) :
    ∃ w', httpReceive sock timeout size n used env w = (.ok (some ((used ++ chunks.flatten).take (size - 1))), w') := by
  induction n generalizing used chunks w with
  | zero =>
    have hfull : used.length = size - 1 := by omega
    exact ⟨w, by simp [httpReceive, ← hfull]⟩
  | succ n ih =>
    unfold httpReceive
    by_cases hfull : size ≤ used.length + 1
    · have hfull' : used.length = size - 1 := by omega
      exact ⟨w, by simp [hfull, ← hfull']⟩
    · rw [if_neg hfull]
      cases chunks with
      | nil =>
        obtain ⟨hready, hend⟩ := h
        obtain ⟨rc, w₁, hwait, hrc, ht⟩ := netWaitSocket_ready timeout hsock hready
        obtain ⟨w₂, hrecv, -⟩ := netRecv_run env w₁ sock (size - used.length - 1)
        rw [ht, hend] at hrecv
        refine ⟨w₂, ?_⟩
        simp [bind_ok hwait, Int.not_le.2 hrc, bind_ok hrecv]
        omega
      | cons chunk chunks =>
        obtain ⟨hready, hchunk, hne, hrest⟩ := h
        obtain ⟨rc, w₁, hwait, hrc, ht⟩ := netWaitSocket_ready timeout hsock hready
        obtain ⟨w₂, hrecv, ht₂⟩ := netRecv_run env w₁ sock (size - used.length - 1)
        rw [ht, hchunk] at hrecv
        have hpos : 0 < (chunk.take (size - used.length - 1)).length := by
          have := List.length_pos_iff.2 hne
          simp only [List.length_take]
          omega
        obtain ⟨c, cs, hdata⟩ := List.exists_cons_of_length_pos hpos
        have hshort : (used ++ c :: cs).length < size := by
          rw [← hdata, List.length_append, List.length_take]
          omega
        rw [← show w₂.tick = w.tick + 2 by omega] at hrest
        obtain ⟨w', hrun⟩ := ih hrest (by rw [List.length_append, List.length_cons]; omega) hshort
        refine ⟨w', ?_⟩
        have htake := take_chunk used chunk chunks.flatten (size - 1)
        rw [show size - 1 - used.length = size - used.length - 1 by omega, hdata] at htake
        rw [htake] at hrun
        simpa [bind_ok hwait, Int.not_le.2 hrc, bind_ok hrecv, hdata] using hrun

/-- What is received with room to spare is a stream that ended. -/
theorem streams_httpReceive (hfuel : size ≤ used.length + 1 + n)
    (h : httpReceive sock timeout size n used env w = (.ok (some r), w')) (hr : r.length + 1 < size) :
    ∃ chunks, env.Streams sock w.tick chunks ∧ r = used ++ chunks.flatten := by
  induction n generalizing used w with
  | zero =>
    obtain ⟨rfl, -⟩ : used = r ∧ w = w' := by simpa [httpReceive] using h
    omega
  | succ n ih =>
    unfold httpReceive at h
    split at h
    · obtain ⟨rfl, -⟩ : used = r ∧ w = w' := by simpa using h
      omega
    · obtain ⟨⟨rc, ready⟩, w₁, hwait, h⟩ := bind_eq_ok.1 h
      obtain ⟨ht, hready⟩ := netWaitSocket_ok hwait
      by_cases hwoken : (decide (rc ≤ 0) || !ready) = true
      · simp only [hwoken, if_true] at h
        obtain ⟨-, w₂, -, h⟩ := bind_eq_ok.1 h
        simp at h
      · simp only [hwoken] at h
        simp only [Bool.or_eq_true, decide_eq_true_eq, Bool.not_eq_true', not_or, Int.not_le, Bool.not_eq_false] at hwoken
        have hat := hready hwoken.1 hwoken.2
        obtain ⟨data, w₂, hrecv, h⟩ := bind_eq_ok.1 h
        obtain ⟨w₂', hrecv', ht₂⟩ := netRecv_run env w₁ sock (size - used.length - 1)
        obtain ⟨hdata, rfl⟩ := Prod.mk.injEq .. ▸ hrecv'.symm.trans hrecv
        rw [ht] at hdata ht₂
        injection hdata with hdata
        cases hanswer : env.recv (w.tick + 1) with
        | none =>
          obtain rfl : data = none := by simpa [hanswer] using hdata.symm
          obtain ⟨-, w₃, -, h⟩ := bind_eq_ok.1 h
          simp at h
        | some chunk =>
          obtain rfl : data = some (chunk.take (size - used.length - 1)) := by simpa [hanswer] using hdata.symm
          cases hchunk : chunk.take (size - used.length - 1) with
          | nil =>
            have hnil : chunk = [] := by
              rcases List.take_eq_nil_iff.1 hchunk with h0 | h0
              · omega
              · exact h0
            subst hnil
            simp only [List.take_nil, pure_run, Prod.mk.injEq, Except.ok.injEq, Option.some.injEq] at h
            exact ⟨[], ⟨hat, hanswer⟩, by simp [h.1]⟩
          | cons c cs =>
            simp only [hchunk] at h
            obtain ⟨chunks, hrest, rfl⟩ := ih (by rw [List.length_append, List.length_cons]; omega) h
            -- a chunk that was cut would have filled the buffer
            have hwhole : chunk.length ≤ size - used.length - 1 := by
              have hlen := congrArg List.length hchunk
              rw [List.length_take] at hlen
              simp only [List.length_append, List.length_cons] at hr hlen
              omega
            rw [List.take_of_length_le hwhole] at hchunk
            subst hchunk
            refine ⟨(c :: cs) :: chunks, ⟨hat, hanswer, List.cons_ne_nil _ _, ?_⟩, by simp⟩
            rwa [ht₂] at hrest

/-- No more is received than the buffer holds. -/
theorem httpReceive_length (hused : used.length < size) :
    Returns (httpReceive sock timeout size n used) fun received => ∀ r, received = some r → r.length < size := by
  induction n generalizing used with
  | zero => exact returns_pure fun r hr => by cases hr; exact hused
  | succ n ih =>
    unfold httpReceive
    refine returns_ite (fun _ => returns_pure fun r hr => by cases hr; exact hused) fun hroom => returns_bind fun _ => ?_
    refine returns_ite (fun _ => returns_bind fun _ => returns_pure fun r hr => by cases hr) fun _ => ?_
    refine Returns.bind (Q := fun data => ∀ r, data = some r → r.length ≤ size - used.length - 1) ?_ fun data hdata => ?_
    · refine returns_bind fun received => returns_bind fun _ => returns_pure fun r hr => ?_
      obtain ⟨chunk, -, rfl⟩ := Option.map_eq_some_iff.1 hr
      exact List.length_take_le _ _
    · cases data with
      | none => exact returns_bind fun _ => returns_pure fun r hr => by cases hr
      | some data =>
        have hlen := hdata data rfl
        cases data with
        | nil => exact returns_pure fun r hr => by cases hr; exact hused
        | cons c cs => exact ih (by rw [List.length_append]; omega)

/-! ## The request -/

/-- The stream is short enough and begins with the status of a success. -/
def Accepted (size : Nat) (stream : Bytes) : Prop :=
  stream.length + 1 < size ∧ (ascii "HTTP/1.0 200 " <+: stream ∨ ascii "HTTP/1.1 200 " <+: stream)

/-- A text without a NUL begins a buffer when it begins the C string in it. -/
theorem isPrefixOf_cstr {text : Bytes} (htext : NUL ∉ text) (buffer : Bytes) :
    text.isPrefixOf (cstr buffer) = true ↔ text <+: buffer := by
  rw [List.isPrefixOf_iff_prefix]
  constructor
  · intro h
    exact h.trans (List.takeWhile_prefix _)
  · rintro ⟨rest, rfl⟩
    refine ⟨cstr rest, ?_⟩
    unfold cstr
    rw [List.takeWhile_append_of_pos]
    intro c hc
    have hne : c ≠ NUL := fun h0 => htext (h0 ▸ hc)
    simpa [NUL] using hne

theorem statusOk_cstr (stream : Bytes) :
    statusOk (cstr stream) = true ↔ ascii "HTTP/1.0 200 " <+: stream ∨ ascii "HTTP/1.1 200 " <+: stream := by
  have h₀ : NUL ∉ ascii "HTTP/1.0 200 " := by decide
  have h₁ : NUL ∉ ascii "HTTP/1.1 200 " := by decide
  rw [statusOk, Bool.or_eq_true, isPrefixOf_cstr h₀, isPrefixOf_cstr h₁]

/-- `http_request` returns a response exactly when the exchange yields a stream
it accepts, and then it is that stream as a C string. -/
theorem httpRequest_iff (hsize : 0 < size) {botai : BotAi} {method endpoint response : Bytes} {body : Option Bytes} :
    (∃ w', httpRequest botai method endpoint body size env w = (.ok (some response), w')) ↔
      ∃ stream, Exchanged env w botai method endpoint body stream ∧ Accepted size stream ∧ response = cstr stream := by
  constructor
  · rintro ⟨w', h⟩
    unfold httpRequest at h
    cases hprepare : httpPrepare botai method endpoint body with
    | none => simp [hprepare] at h
    | some request =>
      rw [hprepare] at h
      dsimp only at h
      obtain ⟨sock, w₁, hconnect, h⟩ := bind_eq_ok.1 h
      split at h
      · simp at h
      · rename_i hsock
        obtain ⟨rc, w₂, hsend, h⟩ := bind_eq_ok.1 h
        split at h
        · obtain ⟨-, w₃, -, h⟩ := bind_eq_ok.1 h
          simp at h
        · rename_i hrc
          obtain ⟨received, w₃, hreceive, h⟩ := bind_eq_ok.1 h
          cases received with
          | none => simp at h
          | some used =>
            obtain ⟨-, w₄, -, h⟩ := bind_eq_ok.1 h
            split at h
            · simp at h
            · rename_i hroom
              split at h
              · rename_i hstatus
                obtain ⟨rfl, -⟩ : cstr used = response ∧ w₄ = w' := by simpa using h
                have hshort : used.length + 1 < size := by
                  have := httpReceive_length (by simpa using hsize) _ _ _ _ hreceive used rfl
                  omega
                obtain ⟨chunks, hstreams, hused⟩ := streams_httpReceive (by simp) hreceive hshort
                rw [List.nil_append] at hused
                refine ⟨used, ⟨request, sock, w₁, w₂, chunks, hprepare, hconnect, by omega, ?_, hstreams, hused.symm⟩,
                  ⟨hshort, (statusOk_cstr used).1 hstatus⟩, rfl⟩
                rwa [not_not.1 hrc] at hsend
              · simp at h
  · rintro ⟨stream, ⟨request, sock, w₁, w₂, chunks, hprepare, hconnect, hsock, hsend, hstreams, rfl⟩,
      ⟨hshort, hstatus⟩, rfl⟩
    have hfuel : size ≤ ([] : Bytes).length + 1 + size := by simp
    obtain ⟨w₃, hreceive⟩ :=
      httpReceive_streams botai.timeoutSeconds hsock hstreams hfuel (by simpa using hsize)
    rw [List.nil_append, List.take_of_length_le (by omega)] at hreceive
    obtain ⟨w₄, hclose⟩ : ∃ w₄, netCloseSocket sock env w₃ = (.ok (), w₄) :=
      ⟨w₃.log (.close sock), by simp [netCloseSocket, hsock, log]⟩
    refine ⟨w₄, ?_⟩
    have hne : chunks.flatten.length + 1 ≠ size := by omega
    unfold httpRequest
    rw [hprepare]
    simp only [bind_ok hconnect, Int.not_lt.2 hsock, if_false, bind_ok hsend, ne_eq, not_true_eq_false,
      bind_ok hreceive, bind_ok hclose, hne, (statusOk_cstr _).2 hstatus, if_true, pure_run]

/-! ## It returns -/

theorem ask_total {α : Type} (f : Env → Nat → α) : Total (ask f) := fun _ _ => ⟨_, _, rfl⟩

theorem log_total (o : Obs) : Total (log o) := total_modify _

theorem netConnectIpv4_total (host : Bytes) (port : Nat) : Total (netConnectIpv4 host port) := by
  intro env w
  obtain ⟨sock, w', hconnect, -⟩ := netConnectIpv4_logs host port env w
  exact ⟨sock, w', hconnect⟩

theorem netSendFrom_total (sock : Int) (n : Nat) (data : Bytes) : Total (netSendFrom sock n data) := by
  induction n generalizing data with
  | zero => cases data <;> exact total_pure _
  | succ n ih =>
    cases data with
    | nil => exact total_pure _
    | cons c data =>
      exact (ask_total _).bind fun _ => (log_total _).bind fun _ => total_ite (total_pure _) (ih _)

theorem netSendAll_total (sock : Int) (data : Bytes) : Total (netSendAll sock data) := netSendFrom_total _ _ _

theorem ircSendLine_total (sock : Int) (line : Bytes) : Total (ircSendLine sock line) :=
  (netSendAll_total _ _).bind fun _ => total_ite (total_pure _) (netSendAll_total _ _)

theorem sendFormatted_total (sock : Int) (line : Bytes) : Total (sendFormatted sock line) :=
  total_ite ((ircSendLine_total _ _).bind fun _ => total_pure _) (total_pure _)

theorem netCloseSocket_total (sock : Int) : Total (netCloseSocket sock) := total_ite (log_total _) (total_pure _)

theorem netWaitSocket_total (sock : Int) (timeout : Nat) : Total (netWaitSocket sock timeout) :=
  (log_total _).bind fun _ => (ask_total _).bind fun _ => total_pure _

theorem netRecv_total (sock : Int) (length : Nat) : Total (netRecv sock length) :=
  (ask_total _).bind fun _ => (log_total _).bind fun _ => total_pure _

theorem httpReceive_total (sock : Int) (timeout size n : Nat) (used : Bytes) :
    Total (httpReceive sock timeout size n used) := by
  induction n generalizing used with
  | zero => exact total_pure _
  | succ n ih =>
    unfold httpReceive
    have hgiveUp : Total (do netCloseSocket sock; pure none : M (Option Bytes)) :=
      (netCloseSocket_total _).bind fun _ => total_pure _
    refine total_ite (total_pure _) ((netWaitSocket_total _ _).bind fun r => total_ite hgiveUp ?_)
    refine (netRecv_total _ _).bind fun received => ?_
    cases received with
    | none => exact hgiveUp
    | some data =>
      cases data with
      | nil => exact total_pure _
      | cons c cs => exact ih _

theorem httpRequest_total (botai : BotAi) (method endpoint : Bytes) (body : Option Bytes) (size : Nat) :
    Total (httpRequest botai method endpoint body size) := by
  unfold httpRequest
  split
  · exact total_pure _
  · refine (netConnectIpv4_total _ _).bind fun sock => total_ite (total_pure _) ((netSendAll_total _ _).bind fun rc => ?_)
    refine total_ite ((netCloseSocket_total _).bind fun _ => total_pure _) ?_
    refine (httpReceive_total _ _ _ _ _).bind fun received => ?_
    cases received with
    | none => exact total_pure _
    | some used =>
      exact (netCloseSocket_total _).bind fun _ => total_ite (total_pure _) (total_ite (total_pure _) (total_pure _))

end AmBot
