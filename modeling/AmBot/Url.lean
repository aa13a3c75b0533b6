import AmBot.BotAi
/-!
# The service's URL

What `ambot_botai_configure` makes of a URL: the parts of the text it accepts,
the bounds on them, and the state they are stored in.
-/

namespace AmBot

/-! ## Digits -/

def digitStep (n : Nat) (d : UInt8) : Nat := 10 * n + (d.toNat - 48)

theorem le_digits (digits : Bytes) (value : Nat) : value ≤ digits.foldl digitStep value := by
  induction digits generalizing value with
  | nil => exact Nat.le_refl _
  | cons d digits ih =>
    have h := ih (digitStep value d)
    rw [List.foldl_cons]
    unfold digitStep at h ⊢
    omega

/-- The value is checked after each digit, which is as good as at the end. -/
theorem botaiPortFrom_iff {digits : Bytes} {value n : Nat} (hv : value ≤ 65535) :
    botaiPortFrom value digits = some n ↔
      (∀ d ∈ digits, isDigit d = true) ∧ digits.foldl digitStep value = n ∧ 1 ≤ n ∧ n ≤ 65535 := by
  induction digits generalizing value with
  | nil =>
    simp only [botaiPortFrom, List.not_mem_nil, false_imp_iff, implies_true, List.foldl_nil, true_and]
    split
    · simp; omega
    · simp; omega
  | cons d digits ih =>
    have hstep : value * 10 + (d.toNat - 48) = digitStep value d := by unfold digitStep; omega
    simp only [botaiPortFrom, hstep, List.forall_mem_cons, List.foldl_cons]
    by_cases hd : isDigit d = true
    · by_cases hlarge : 65535 < digitStep value d
      · have := le_digits digits (digitStep value d)
        simp [hd, hlarge]
        omega
      · simp [hd, hlarge, ih (Nat.not_lt.1 hlarge)]
    · simp [hd]

theorem botaiParsePort_iff {text : Bytes} {n : Nat} :
    botaiParsePort text = some n ↔
      text ≠ [] ∧ (∀ d ∈ text, isDigit d = true) ∧ digitsValue text = n ∧ 1 ≤ n ∧ n ≤ 65535 := by
  unfold botaiParsePort
  split
  · simp_all
  · rename_i h
    rw [botaiPortFrom_iff (Nat.zero_le _)]
    simp only [ne_eq, h, not_false_eq_true, true_and]
    rfl

/-! ## The authority -/

/-- The host and the port of an authority: no port, where there is no colon, or
one to five digits after the last one. -/
def PortOf (host portText : Bytes) (port : Nat) : Prop :=
  portText = [] ∧ COLON ∉ host ∧ port = 8090 ∨
    ∃ digits, portText = COLON :: digits ∧ 1 ≤ digits.length ∧ digits.length ≤ 5 ∧
      (∀ d ∈ digits, isDigit d = true) ∧ digitsValue digits = port ∧ 1 ≤ port ∧ port ≤ 65535

/-- The last colon is the first one from the end. -/
theorem splitAuthority_eq (authority : Bytes) :
    splitAuthority authority = none ∧ COLON ∉ authority ∨
      ∃ host port, splitAuthority authority = some (host, port) ∧ authority = host ++ COLON :: port ∧ COLON ∉ port := by
  have hrev := upTo_append_dropWhile COLON authority.reverse
  unfold splitAuthority strchr
  rcases dropWhile_byte COLON authority.reverse with hd | ⟨rest, hd⟩
  · rw [hd, List.append_nil] at hrev
    refine .inl ⟨by rw [hd], fun h => not_mem_upTo COLON authority.reverse ?_⟩
    rwa [hrev, List.mem_reverse]
  · refine .inr ⟨rest.reverse, (upTo COLON authority.reverse).reverse, by rw [hd]; rfl, ?_, fun h => ?_⟩
    · rw [hd] at hrev
      have := congrArg List.reverse hrev
      simpa using this.symm
    · exact not_mem_upTo _ _ (List.mem_reverse.1 h)

/-- There is one way to cut at the last colon. -/
theorem colon_unique {host host' port port' : Bytes} (h : host ++ COLON :: port = host' ++ COLON :: port')
    (hp : COLON ∉ port) (hp' : COLON ∉ port') : host = host' ∧ port = port' := by
  have hrev : ∀ {host port : Bytes}, COLON ∉ port → upTo COLON (host ++ COLON :: port).reverse = port.reverse := by
    intro host port hp
    rw [List.reverse_append, List.reverse_cons, List.append_assoc]
    exact upTo_until (by simpa using hp) (by simp)
  have hport : port = port' := List.reverse_injective (by rw [← @hrev host _ hp, h, hrev hp'])
  subst hport
  exact ⟨List.append_cancel_right h, rfl⟩

theorem parseAuthority_iff {authority host : Bytes} {port : Nat} :
    parseAuthority authority = some (host, port) ↔
      ∃ portText, authority = host ++ portText ∧ PortOf host portText port := by
  unfold parseAuthority
  rcases splitAuthority_eq authority with ⟨hsplit, hcolon⟩ | ⟨host', digits, hsplit, rfl, hcolon⟩
  · rw [hsplit]
    constructor
    · intro h
      obtain ⟨rfl, rfl⟩ : authority = host ∧ botaiInit.port = port := by simpa using h
      exact ⟨[], by simp, .inl ⟨rfl, hcolon, rfl⟩⟩
    · rintro ⟨portText, rfl, ⟨rfl, -, rfl⟩ | ⟨digits, rfl, -⟩⟩
      · simp [botaiInit]
      · exact absurd (by simp) hcolon
  · rw [hsplit]
    dsimp only
    constructor
    · intro h
      split at h
      · cases h
      · rename_i hlen
        obtain ⟨n, hn, heq⟩ := Option.map_eq_some_iff.1 h
        obtain ⟨rfl, rfl⟩ := Prod.mk.inj heq
        obtain ⟨hne, hdigits, hvalue, hpos, hmax⟩ := botaiParsePort_iff.1 hn
        have hpos' := List.length_pos_iff.2 hne
        exact ⟨COLON :: digits, rfl, .inr ⟨digits, rfl, hpos', by omega, hdigits, hvalue, hpos, hmax⟩⟩
    · rintro ⟨portText, heq, ⟨rfl, hno, -⟩ | ⟨digits', rfl, hpos', hlen, hdigits, hvalue, hpos, hmax⟩⟩
      · rw [List.append_nil] at heq
        exact absurd (by simp [← heq]) hno
      · have hcolon' : COLON ∉ digits' := fun h => by simpa [isDigit, COLON] using hdigits _ h
        obtain ⟨rfl, rfl⟩ := colon_unique heq hcolon hcolon'
        have hport : botaiParsePort digits = some port :=
          botaiParsePort_iff.2 ⟨List.length_pos_iff.1 hpos', hdigits, hvalue, hpos, hmax⟩
        have hne : digits ≠ [] := List.length_pos_iff.1 hpos'
        have hshort : ¬ 6 ≤ digits.length := by omega
        simp [hport, hne, hshort]

/-! ## The URL -/

/-- A URL and its parts: a host without a slash, an optional port, and a path
from the first slash on. -/
structure UrlParts (url host portText : Bytes) (port : Nat) (path : Bytes) : Prop where
  url_eq : url = ascii "http://" ++ (host ++ portText ++ path)
  host_ne : host ≠ []
  no_slash : 47 ∉ host
  path_slash : path = [] ∨ ∃ rest, path = 47 :: rest
  port_of : PortOf host portText port

variable {url expert host portText path : Bytes} {port timeoutSeconds : Nat}

theorem PortOf.no_slash (h : PortOf host portText port) : 47 ∉ portText := by
  rcases h with ⟨rfl, -, -⟩ | ⟨digits, rfl, -, -, hdigits, -⟩
  · simp
  · intro hmem
    rcases List.mem_cons.1 hmem with h | h
    · cases h
    · have := hdigits _ h
      revert this
      decide

/-- The authority and the path of a URL are cut at the first slash. -/
theorem UrlParts.authority (h : UrlParts url host portText port path) :
    upTo 47 (url.drop 7) = host ++ portText ∧ (url.drop 7).dropWhile (· ≠ 47) = path := by
  have hdrop : url.drop 7 = host ++ portText ++ path := by
    rw [h.url_eq]
    exact List.drop_left' (by decide)
  have hslash : 47 ∉ host ++ portText := by simp [h.no_slash, h.port_of.no_slash]
  have hup : upTo 47 (url.drop 7) = host ++ portText := by
    rw [hdrop]
    refine upTo_until hslash fun b hb => ?_
    rcases h.path_slash with hnil | ⟨rest, hcons⟩
    · simp [hnil] at hb
    · simpa [hcons, eq_comm] using hb
  refine ⟨hup, ?_⟩
  have happend := upTo_append_dropWhile 47 (url.drop 7)
  rw [hup, hdrop] at happend
  rw [hdrop]
  exact List.append_cancel_left happend

/-- The parts of a URL are its own. -/
theorem UrlParts.unique {host' portText' path' : Bytes} {port' : Nat} (h : UrlParts url host portText port path)
    (h' : UrlParts url host' portText' port' path') : host = host' ∧ port = port' ∧ path = path' := by
  have hparse := parseAuthority_iff.2 ⟨portText, h.authority.1, h.port_of⟩
  have hparse' := parseAuthority_iff.2 ⟨portText', h'.authority.1, h'.port_of⟩
  rw [hparse] at hparse'
  obtain ⟨hhost, hport⟩ := Prod.mk.inj (Option.some.inj hparse')
  exact ⟨hhost, hport, h.authority.2.symm.trans h'.authority.2⟩

/-- The state a URL with these parts is stored in. -/
def configured (host : Bytes) (port : Nat) (path expert : Bytes) (timeoutSeconds : Nat) : BotAi :=
  { host := copyValue (botaiHostMax + 1) host
    path := if 2 ≤ path.length then path else []
    expert := copyValue (botaiExpertMax + 1) (if expert ≠ [] then expert else ascii "auto")
    port := port
    timeoutSeconds := if timeoutSeconds ≠ 0 then timeoutSeconds else 30
    enabled := true
    compatible := false }

/-- The bounds of the two buffers that make a URL fail. -/
def Bounded (host portText path : Bytes) : Prop := (host ++ portText).length < 135 ∧ path.length < 128

theorem botaiConfigure_parts (h : UrlParts url host portText port path) (hb : Bounded host portText path) :
    botaiConfigure url expert timeoutSeconds = (0, configured host port path expert timeoutSeconds) := by
  obtain ⟨hup, hpath⟩ := h.authority
  have hparse : parseAuthority (host ++ portText) = some (host, port) := parseAuthority_iff.2 ⟨portText, rfl, h.port_of⟩
  have hscheme : (ascii "http://").isPrefixOf url = true := by
    rw [List.isPrefixOf_iff_prefix, h.url_eq]
    exact List.prefix_append _ _
  have hurl : url ≠ [] := by
    rintro rfl
    cases hscheme
  have hauthority : host ++ portText ≠ [] := by simp [h.host_ne]
  have hslash := drop_upTo 47 (url.drop 7)
  rw [hup, hpath] at hslash
  have hfits : ¬ 127 + 8 ≤ (host ++ portText).length := Nat.not_le.2 hb.1
  have hpathFits : ¬ 127 + 1 ≤ (if 2 ≤ path.length then path else []).length := by
    have := hb.2
    split
    · omega
    · simp
  unfold botaiConfigure
  rw [if_neg hurl, if_neg (by simp [hscheme])]
  dsimp only
  rw [hup, if_neg (by simp only [botaiHostMax, not_or]; exact ⟨hauthority, hfits⟩), hparse]
  dsimp only
  rw [if_neg h.host_ne, hslash, if_neg (by simpa only [botaiPathMax] using hpathFits)]
  rfl

theorem parts_botaiConfigure (h : (botaiConfigure url expert timeoutSeconds).1 = 0) :
    ∃ host portText port path, UrlParts url host portText port path ∧ Bounded host portText path := by
  unfold botaiConfigure at h
  split at h
  · simp at h
  · split at h
    · simp at h
    · rename_i hscheme
      dsimp only at h
      split at h
      · simp at h
      · rename_i hauthority
        split at h
        · simp at h
        · rename_i host port hparse
          split at h
          · simp at h
          · rename_i hhost
            rw [drop_upTo] at h
            by_cases hlong : botaiPathMax + 1 ≤
                (if 2 ≤ ((url.drop 7).dropWhile (· ≠ 47)).length then (url.drop 7).dropWhile (· ≠ 47) else []).length
            · rw [if_pos hlong] at h
              simp at h
            · obtain ⟨portText, happend, hport⟩ := parseAuthority_iff.1 hparse
              have hprefix : ascii "http://" <+: url := by simpa using hscheme
              obtain ⟨rest, rfl⟩ := hprefix
              have hrest : (ascii "http://" ++ rest).drop 7 = rest := List.drop_left' (by decide)
              rw [hrest] at happend hlong hauthority
              have hurl := upTo_append_dropWhile 47 rest
              rw [happend] at hurl
              have hno : 47 ∉ host := fun hmem => not_mem_upTo 47 rest (by simp [happend, hmem])
              refine ⟨host, portText, port, _, ⟨by rw [hurl], hhost, hno, dropWhile_byte 47 rest, hport⟩, ?_, ?_⟩
              · rw [← happend]
                simp only [botaiHostMax, not_or] at hauthority
                omega
              · simp only [botaiPathMax] at hlong
                split at hlong <;> omega

/-- Configuring always clears `compatible`. -/
theorem botaiConfigure_compatible (url expert : Bytes) (timeoutSeconds : Nat) :
    (botaiConfigure url expert timeoutSeconds).2.compatible = false := by
  unfold botaiConfigure
  split
  · rfl
  · split
    · rfl
    · dsimp only
      split
      · rfl
      · split
        · rfl
        · split
          · rfl
          · split
            · split <;> rfl
            · rfl

theorem botaiConfigure_disabled (h : (botaiConfigure url expert timeoutSeconds).1 ≠ 0) :
    (botaiConfigure url expert timeoutSeconds).2.enabled = false := by
  by_contra hon
  refine h ?_
  revert hon
  unfold botaiConfigure
  dsimp only
  repeat' split
  all_goals simp [botaiInit]

/-- What configuring is for: the stored parts are those of the URL, in full,
and after a failure the client is off. -/
def UrlStored (url expert : Bytes) (timeoutSeconds : Nat) : Prop :=
  ((botaiConfigure url expert timeoutSeconds).1 = 0 → ∃ host portText port path,
    UrlParts url host portText port path ∧
    (botaiConfigure url expert timeoutSeconds).2.host = host ∧
    (botaiConfigure url expert timeoutSeconds).2.port = port ∧
    (botaiConfigure url expert timeoutSeconds).2.path = if path = [47] then [] else path) ∧
  ((botaiConfigure url expert timeoutSeconds).1 ≠ 0 →
    (botaiConfigure url expert timeoutSeconds).2.enabled = false ∧
    (botaiConfigure url expert timeoutSeconds).2.compatible = false)

/-- A path of one byte is the slash alone. -/
theorem UrlParts.short_path (h : UrlParts url host portText port path) :
    (if 2 ≤ path.length then path else []) = if path = [47] then [] else path := by
  rcases h.path_slash with rfl | ⟨rest, rfl⟩
  · simp
  · cases rest <;> simp

/-- It does that for every URL but those it accepts with a host of more than
127 bytes, which the authority buffer has room for and the field has not. -/
theorem urlStored_iff (url expert : Bytes) (timeoutSeconds : Nat) :
    UrlStored url expert timeoutSeconds ↔
      ∀ host portText port path, UrlParts url host portText port path → (host ++ portText).length ≤ 134 →
        path.length ≤ 127 → host.length ≤ 127 := by
  constructor
  · rintro ⟨hok, -⟩ host portText port path hparts hauthority hpath
    have hb : Bounded host portText path := ⟨by omega, by omega⟩
    rw [botaiConfigure_parts hparts hb] at hok
    obtain ⟨host', portText', port', path', hparts', hhost, -⟩ := hok rfl
    obtain ⟨rfl, -, -⟩ := hparts.unique hparts'
    have hlen := congrArg List.length hhost
    simp only [configured, copyValue, botaiHostMax, List.length_take] at hlen
    omega
  · intro h
    refine ⟨fun hrc => ?_, fun hrc => ⟨botaiConfigure_disabled hrc, botaiConfigure_compatible _ _ _⟩⟩
    obtain ⟨host, portText, port, path, hparts, hb⟩ := parts_botaiConfigure hrc
    have hhost : host.length ≤ 127 := h host portText port path hparts (by have := hb.1; omega) (by have := hb.2; omega)
    have hfull : copyValue (botaiHostMax + 1) host = host := copyValue_of_short (by simp only [botaiHostMax]; omega)
    rw [botaiConfigure_parts hparts hb]
    exact ⟨host, portText, port, path, hparts, hfull, rfl, hparts.short_path⟩

def longHostUrl : Bytes := ascii "http://" ++ List.replicate 128 97

/-- A host of 128 bytes is accepted and loses its last byte. -/
theorem urlStored_long_host : ¬ ∀ url expert timeoutSeconds, UrlStored url expert timeoutSeconds := by
  intro h
  have hparts : UrlParts longHostUrl (List.replicate 128 97) [] 8090 [] :=
    ⟨by simp [longHostUrl], by simp, by simp, .inl rfl, .inl ⟨rfl, by simp [COLON], rfl⟩⟩
  have hshort := (h longHostUrl [] 0).1
  rw [botaiConfigure_parts hparts ⟨by simp, by simp⟩] at hshort
  obtain ⟨host, portText, port, path, hparts', hhost, -⟩ := hshort rfl
  obtain ⟨rfl, -, -⟩ := hparts.unique hparts'
  exact absurd (congrArg List.length hhost) (by simp [configured, copyValue, botaiHostMax])

end AmBot
