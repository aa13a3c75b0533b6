import AmBot.Handshake
import AmBot.RunLib.Base64
import AmBot.RunLib.Buffer
import AmBot.Transmit
/-!
# The credentials

`b64_encode` is the standard encoding, within its buffer, and the line that
`send_sasl_payload` sends decodes to the credentials.
-/

namespace AmBot

open RunLib RunLib.Prog

/-- The loop of `b64_encode` on the buffer: what it leaves there, and what it
returns. -/
def b64Loop : Nat → Bytes → Bytes → Nat → Except Halt (Bytes × Int)
  | _, dst, [], o =>
    if dst.length ≤ o then pure (dst, -1)
    else do
      let dst ← store dst o NUL
      pure (dst, 0)
  | 0, _, _ :: _, _ => .error .outOfFuel
  | n + 1, dst, src, o =>
    if dst.length ≤ o + 4 then pure (dst, -1)
    else do
      let dst ← storeAll dst o (b64Quad src).1
      b64Loop n dst (b64Quad src).2 (o + 4)

/-- `b64_encode` into `dst`. -/
def b64Into (dst src : Bytes) : Except Halt (Bytes × Int) := b64Loop src.length dst src 0

/-! ## The rounds -/

theorem b64Quad_shorter {src : Bytes} {n : Nat} (h : src ≠ []) (hn : src.length ≤ n + 1) :
    (b64Quad src).2.length ≤ n := by
  unfold b64Quad
  split
  · exact absurd rfl h
  · exact Nat.zero_le n
  · exact Nat.zero_le n
  · dsimp only
    simp only [List.length_cons] at hn
    omega

theorem b64Loop_round {src : Bytes} (h : src ≠ []) (n : Nat) (dst : Bytes) (o : Nat) :
    b64Loop (n + 1) dst src o =
      if dst.length ≤ o + 4 then pure (dst, -1)
      else storeAll dst o (b64Quad src).1 >>= fun dst => b64Loop n dst (b64Quad src).2 (o + 4) := by
  cases src with
  | nil => exact absurd rfl h
  | cons c src =>
    rw [b64Loop]
    exact h

theorem b64Rounds_round {src : Bytes} (h : src ≠ []) (size n : Nat) (out : Bytes) :
    b64Rounds size (n + 1) src out =
      if size ≤ out.length + 4 then none else b64Rounds size n (b64Quad src).2 (out ++ (b64Quad src).1) := by
  cases src with
  | nil => exact absurd rfl h
  | cons c src =>
    rw [b64Rounds]
    exact h

/-- After the last round the NUL goes into the next entry, if there is one. -/
theorem b64Loop_end (n : Nat) {buffer old written rest : Bytes} (hbuffer : buffer = old ++ rest)
    (hold : old.length = written.length) :
    ∃ r, b64Loop n (written ++ rest) [] written.length = .ok r ∧
      WrittenAs NUL buffer (b64Rounds buffer.length n [] written) r := by
  have hlength : (written ++ rest).length = buffer.length := by simp [hbuffer, hold]
  rw [b64Loop, b64Rounds, hlength]
  by_cases hfull : buffer.length ≤ written.length
  · rw [if_pos hfull, if_pos hfull]
    exact ⟨_, rfl, .stopped old rest written hbuffer hold⟩
  · rw [if_neg hfull, if_neg hfull]
    cases rest with
    | nil =>
      rw [List.append_nil] at hlength
      exact absurd hlength.ge hfull
    | cons o rest =>
      refine ⟨(written ++ [NUL] ++ rest, 0), ?_, ?_⟩
      · rw [store_next]
        rfl
      · exact .whole (old ++ [o]) rest written (by simp [hbuffer]) (by simp [hold])

theorem b64Loop_written {n : Nat} {src : Bytes} (hn : src.length ≤ n) {buffer old written rest : Bytes}
    (hbuffer : buffer = old ++ rest) (hold : old.length = written.length) :
    ∃ r, b64Loop n (written ++ rest) src written.length = .ok r ∧
      WrittenAs NUL buffer (b64Rounds buffer.length n src written) r := by
  induction n generalizing src old written rest with
  | zero =>
    obtain rfl := List.length_eq_zero_iff.1 (Nat.le_zero.1 hn)
    exact b64Loop_end 0 hbuffer hold
  | succ n ih =>
    by_cases hsrc : src = []
    · subst hsrc
      exact b64Loop_end (n + 1) hbuffer hold
    · have hlength : (written ++ rest).length = buffer.length := by simp [hbuffer, hold]
      have hquad := b64Quad_length hsrc
      rw [b64Loop_round hsrc, b64Rounds_round hsrc, hlength]
      by_cases hfull : buffer.length ≤ written.length + 4
      · rw [if_pos hfull, if_pos hfull]
        exact ⟨_, rfl, .stopped old rest written hbuffer hold⟩
      · -- the four characters go into the next entries
        rw [if_neg hfull, if_neg hfull]
        obtain ⟨next, rest', rfl, hnext⟩ : ∃ next rest', rest = next ++ rest' ∧ next.length = 4 :=
          room_split written (by rw [hlength]; omega)
        have hstore := storeAll_next written rest' (hnext.trans hquad.symm)
        have hbuffer' : buffer = (old ++ next) ++ rest' := by rw [hbuffer, List.append_assoc]
        have hold' : (old ++ next).length = (written ++ (b64Quad src).1).length := by simp [hold, hnext, hquad]
        obtain ⟨r, hloop, hwritten⟩ := ih (b64Quad_shorter hsrc hn) hbuffer' hold'
        refine ⟨r, ?_, hwritten⟩
        rw [← List.append_assoc, hstore, ← hloop, List.length_append, hquad]
        rfl

/-- `b64_encode` stays within its buffer, which holds the characters and the
NUL where it succeeds. -/
theorem b64Into_written (dst src : Bytes) :
    ∃ r, b64Into dst src = .ok r ∧ WrittenAs NUL dst (b64Encode src dst.length) r := by
  have hwhole : dst = [] ++ dst := rfl
  have hnone : ([] : Bytes).length = ([] : Bytes).length := rfl
  exact b64Loop_written (le_refl src.length) hwhole hnone

/-! ## The standard encoding -/

theorem b64Char_eq (v : Nat) : b64Char v = digit64 (v % 64) := by
  have hall : ∀ i < 64, b64Table.getD i 0 = digit64 i := by decide +kernel
  exact hall _ (Nat.mod_lt _ (by decide))

/-- A round writes the characters of the bytes it reads. -/
theorem encode64_quad {src : Bytes} (h : src ≠ []) : encode64 src = (b64Quad src).1 ++ encode64 (b64Quad src).2 := by
  unfold b64Quad
  split
  · exact absurd rfl h
  · rename_i a
    have ha := a.toNat_lt
    have h₀ : a.toNat * 65536 / 262144 % 64 = a.toNat / 4 := by omega
    have h₁ : a.toNat * 65536 / 4096 % 64 = a.toNat % 4 * 16 := by omega
    simp only [b64Char_eq, h₀, h₁]
    rfl
  · rename_i a b
    have ha := a.toNat_lt
    have hb := b.toNat_lt
    have h₀ : (a.toNat * 65536 + b.toNat * 256) / 262144 % 64 = a.toNat / 4 := by omega
    have h₁ : (a.toNat * 65536 + b.toNat * 256) / 4096 % 64 = a.toNat % 4 * 16 + b.toNat / 16 := by omega
    have h₂ : (a.toNat * 65536 + b.toNat * 256) / 64 % 64 = b.toNat % 16 * 4 := by omega
    simp only [b64Char_eq, h₀, h₁, h₂]
    rfl
  · rename_i a b c rest
    have ha := a.toNat_lt
    have hb := b.toNat_lt
    have hc := c.toNat_lt
    have h₀ : (a.toNat * 65536 + b.toNat * 256 + c.toNat) / 262144 % 64 = a.toNat / 4 := by omega
    have h₁ : (a.toNat * 65536 + b.toNat * 256 + c.toNat) / 4096 % 64 = a.toNat % 4 * 16 + b.toNat / 16 := by omega
    have h₂ : (a.toNat * 65536 + b.toNat * 256 + c.toNat) / 64 % 64 = b.toNat % 16 * 4 + c.toNat / 64 := by omega
    have h₃ : (a.toNat * 65536 + b.toNat * 256 + c.toNat) % 64 = c.toNat % 64 := by omega
    simp only [b64Char_eq, h₀, h₁, h₂, h₃]
    rfl

theorem b64Rounds_end (size n : Nat) (out : Bytes) :
    b64Rounds size n [] out = if out.length < size then some out else none := by
  rw [b64Rounds]
  by_cases hfits : out.length < size
  · rw [if_pos hfits, if_neg (not_le.2 hfits)]
  · rw [if_neg hfits, if_pos (not_lt.1 hfits)]

theorem b64Rounds_eq (size : Nat) {n : Nat} {src : Bytes} (hn : src.length ≤ n) (out : Bytes) :
    b64Rounds size n src out = if (out ++ encode64 src).length < size then some (out ++ encode64 src) else none := by
  induction n generalizing src out with
  | zero =>
    obtain rfl := List.length_eq_zero_iff.1 (Nat.le_zero.1 hn)
    rw [b64Rounds_end, encode64, List.append_nil]
  | succ n ih =>
    by_cases hsrc : src = []
    · subst hsrc
      rw [b64Rounds_end, encode64, List.append_nil]
    · have hquad := b64Quad_length hsrc
      rw [b64Rounds_round hsrc, encode64_quad hsrc, ih (b64Quad_shorter hsrc hn), List.append_assoc]
      by_cases hfull : size ≤ out.length + 4
      · have hlong : ¬ (out ++ ((b64Quad src).1 ++ encode64 (b64Quad src).2)).length < size := by
          simp only [List.length_append, hquad]
          omega
        rw [if_pos hfull, if_neg hlong]
      · rw [if_neg hfull]

theorem b64Encode_eq (src : Bytes) (size : Nat) :
    b64Encode src size = if 4 * ((src.length + 2) / 3) < size then some (encode64 src) else none := by
  have h := b64Rounds_eq size (le_refl src.length) []
  rwa [List.nil_append, encode64_length] at h

/-! ## The line -/

/-- What the line with the credentials decodes to. -/
def credentials (config : NetworkConfig) : Bytes := config.saslUser ++ [NUL] ++ config.saslUser ++ [NUL] ++ config.saslPass

/-- The credentials of a record fit every buffer on the way. -/
theorem payloadLine_eq {config : NetworkConfig} (huser : config.saslUser.length ≤ 31) (hpass : config.saslPass.length ≤ 63) :
    payloadLine config = some (authenticate ++ encode64 (credentials config)) := by
  have hlength : (credentials config).length = config.saslUser.length * 2 + config.saslPass.length + 2 := by
    simp only [credentials, List.length_append, List.length_singleton]
    omega
  have hencoded := encode64_length (credentials config)
  have hencode : b64Encode (credentials config) 224 = some (encode64 (credentials config)) := by
    rw [b64Encode_eq, if_pos]
    omega
  have hline : ¬ 240 ≤ (authenticate ++ encode64 (credentials config)).length := by
    have hword : authenticate.length = 13 := rfl
    rw [List.length_append, hword, hencoded]
    omega
  have hplain : config.saslUser ++ [0] ++ config.saslUser ++ [0] ++ config.saslPass = credentials config := rfl
  rw [payloadLine, if_neg (by omega), hplain, hencode]
  exact if_neg hline

theorem b64Into_exact (src dst : Bytes) :
    ∃ r, b64Into dst src = .ok r ∧ WrittenAs NUL dst (b64Encode src dst.length) r ∧
      (r.2 = 0 ↔ 4 * ((src.length + 2) / 3) < dst.length) := by
  obtain ⟨r, hrun, hwritten⟩ := b64Into_written dst src
  refine ⟨r, hrun, hwritten, ?_⟩
  rw [hwritten.result_iff, b64Encode_eq]
  split
  · rename_i hfits
    exact iff_of_true rfl hfits
  · rename_i hfits
    exact iff_of_false Bool.false_ne_true hfits

theorem b64Encode_decodes {src encoded : Bytes} {size : Nat} (h : b64Encode src size = some encoded) :
    decode64 encoded = some src := by
  rw [b64Encode_eq] at h
  obtain ⟨-, heq⟩ := Option.ite_none_right_eq_some.1 h
  rw [← Option.some.inj heq]
  exact decode64_encode64 src

/-- One line goes out, and all of it where the network takes what it is given. -/
theorem sendSaslPayload_line (sock : Int) {config : NetworkConfig} (huser : config.saslUser.length ≤ 31)
    (hpass : config.saslPass.length ≤ 63) (env : Env) (w : World) :
    ∃ rc w' t, sendSaslPayload sock config env w = (.ok rc, w') ∧ w'.trace = w.trace ++ t ∧
      LineSent sock (authenticate ++ encode64 (credentials config)) rc t ∧ (TakesSends sock t → rc = 0) := by
  rw [sendSaslPayload_eq, payloadLine_eq huser hpass]
  obtain ⟨rc, w', t, hrun, ht, hsent⟩ := ircSendLine_sent sock (authenticate ++ encode64 (credentials config)) env w
  refine ⟨rc, w', t, hrun, ht, hsent, ?_⟩
  intro htakes
  rcases hsent.result with ⟨hzero, -⟩ | ⟨-, hrefused⟩
  · exact hzero
  · exact absurd htakes hrefused

/-- The payload of SASL PLAIN is exact and fits. -/
theorem saslPayload_exact :
    (∀ src dst : Bytes, (∃ r, b64Into dst src = .ok r ∧ WrittenAs NUL dst (b64Encode src dst.length) r ∧
        (r.2 = 0 ↔ 4 * ((src.length + 2) / 3) < dst.length)) ∧
      ∀ encoded, b64Encode src dst.length = some encoded → decode64 encoded = some src) ∧
    ∀ (sock : Int) (config : NetworkConfig) (env : Env) (w : World),
      config.saslUser.length ≤ 31 → config.saslPass.length ≤ 63 →
      ∃ encoded rc w' t, sendSaslPayload sock config env w = (.ok rc, w') ∧ w'.trace = w.trace ++ t ∧
        LineSent sock (authenticate ++ encoded) rc t ∧ (TakesSends sock t → rc = 0) ∧
        decode64 encoded = some (config.saslUser ++ [NUL] ++ config.saslUser ++ [NUL] ++ config.saslPass) := by
  refine ⟨fun src dst => ⟨b64Into_exact src dst, fun _ hencoded => b64Encode_decodes hencoded⟩, ?_⟩
  intro sock config env w huser hpass
  obtain ⟨rc, w', t, hrun, ht, hsent, hzero⟩ := sendSaslPayload_line sock huser hpass env w
  exact ⟨_, rc, w', t, hrun, ht, hsent, hzero, decode64_encode64 (credentials config)⟩

end AmBot
