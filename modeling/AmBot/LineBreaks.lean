import AmBot.Addressee
import AmBot.ChatRequest
import AmBot.Fields
import AmBot.SaslPayload
/-!
# What may be sent

A line of the bot's own is one IRC line: it has no line break in it and is no
longer than a line may be. Its parts are words of the program, values of the
configuration file, which is read line by line, and parts of the lines that the
framer has cut out. What an ARexx command says to send is sent as it says.
-/

namespace AmBot

open RunLib

/-- No line break in the arguments the bot registers with. -/
structure SessionConfig.Unbroken (startup : SessionConfig) : Prop where
  nick : LF ∉ startup.nick
  user : LF ∉ startup.user
  pass : LF ∉ startup.pass

/-- No line break in the settings that are sent. -/
structure Settings.Unbroken (s : Settings) : Prop where
  nick : LF ∉ s.nick
  user : LF ∉ s.user
  pass : LF ∉ s.pass
  channel : ∀ channel ∈ s.channels, LF ∉ channel

structure Config.Unbroken (config : Config) : Prop where
  settings : config.toSettings.Unbroken
  network : ∀ network ∈ config.networks, network.toSettings.Unbroken

structure NetworkConfig.Unbroken (n : NetworkConfig) : Prop where
  nick : LF ∉ n.nick
  user : LF ∉ n.user
  pass : LF ∉ n.pass
  channel : ∀ channel ∈ n.channels, LF ∉ channel

/-! ## The configuration -/

theorem copyValue_unbroken {text : Bytes} (h : LF ∉ text) (size : Nat) : LF ∉ copyValue size text :=
  fun hlf => h (copyValue_subset size text hlf)

theorem copies_unbroken {channels : List Bytes} (h : ∀ channel ∈ channels, LF ∉ channel) (size : Nat) :
    ∀ channel ∈ channels.map (copyValue size), LF ∉ channel := by
  intro channel hchannel
  obtain ⟨text, htext, rfl⟩ := List.mem_map.1 hchannel
  exact copyValue_unbroken (h text htext) size

theorem Settings.Unbroken.assign {s : Settings} (h : s.Unbroken) (k : Key) {value : Bytes} (hvalue : LF ∉ value) :
    (s.assign k value).Unbroken := by
  cases k with
  | NICK => exact { h with nick := copyValue_unbroken hvalue 32 }
  | USER => exact { h with user := copyValue_unbroken hvalue 32 }
  | PASS => exact { h with pass := copyValue_unbroken hvalue 64 }
  | CHANNEL =>
    unfold Settings.assign
    dsimp only
    split
    · refine { h with channel := ?_ }
      intro channel hchannel
      rcases List.mem_append.1 hchannel with hold | hnew
      · exact h.channel channel hold
      · rw [List.mem_singleton.1 hnew]
        exact copyValue_unbroken hvalue 64
    · exact h
  | _ => exact { h with }

theorem applyNetworkKey_unbroken {network : ConfigNetwork} (h : network.toSettings.Unbroken) (key : Bytes)
    {value : Bytes} (hvalue : LF ∉ value) : (applyNetworkKey network key value).toSettings.Unbroken := by
  unfold applyNetworkKey
  cases keyOf key with
  | none => exact h
  | some k => exact h.assign k hvalue

theorem applyGlobalKey_unbroken {config : Config} (h : config.Unbroken) (key : Bytes) {value : Bytes}
    (hvalue : LF ∉ value) : (applyGlobalKey config key value).Unbroken := by
  unfold applyGlobalKey
  split
  · exact { h with }
  · exact { h with }
  · exact { h with }
  · exact { h with settings := h.settings.assign _ hvalue }
  · exact h

theorem networkDefaults_unbroken {config : Config} (h : config.Unbroken) :
    (networkDefaults config).toSettings.Unbroken where
  nick := copyValue_unbroken h.settings.nick 32
  user := copyValue_unbroken h.settings.user 32
  pass := copyValue_unbroken h.settings.pass 64
  channel := nofun

theorem loadLine_unbroken {s : Loading} (h : s.config.Unbroken) {line : ConfigLine}
    (hline : ∀ key value, line = .setting key value → LF ∉ value) : (loadLine s line).config.Unbroken := by
  cases line with
  | ignored => exact h
  | network name =>
    simp only [loadLine]
    split
    · refine { h with network := ?_ }
      intro network hnetwork
      rcases List.mem_append.1 hnetwork with hold | hnew
      · exact h.network network hold
      · rw [List.mem_singleton.1 hnew]
        exact networkDefaults_unbroken h
    · exact { h with }
  | setting key value =>
    have hvalue := hline key value rfl
    simp only [loadLine]
    split
    · refine { h with network := ?_ }
      intro network hnetwork
      obtain ⟨j, hj, rfl⟩ := List.getElem_of_mem hnetwork
      rw [List.getElem_modify]
      split
      · exact applyNetworkKey_unbroken (h.network _ (List.getElem_mem _)) key hvalue
      · exact h.network _ (List.getElem_mem _)
    · exact applyGlobalKey_unbroken h key hvalue

/-- The file is read line by line. -/
theorem configLoad_unbroken {config : Config} (h : config.Unbroken) (path : Bytes) (file : Option Bytes) :
    (configLoad config path file).2.Unbroken := by
  unfold configLoad
  split
  · exact h
  cases file with
  | none => exact h
  | some text =>
    have hstart : (loadStart config path).config.Unbroken :=
      { h with settings := { h.settings with channel := nofun }, network := nofun }
    have hlines : ∀ line ∈ (configLines text).map parseLine, ∀ key value, line = .setting key value → LF ∉ value := by
      rintro line hline key value rfl
      exact fileLines_noLf hline
    dsimp only
    generalize loadStart config path = s at hstart
    generalize (configLines text).map parseLine = lines at hlines
    induction lines generalizing s with
    | nil => exact hstart
    | cons line lines ih =>
      obtain ⟨hfirst, hrest⟩ := List.forall_mem_cons.1 hlines
      exact ih _ (loadLine_unbroken hstart hfirst) hrest

theorem configSeed_unbroken {startup : SessionConfig} (h : startup.Unbroken) :
    (configSeed startup.host startup.port startup.nick startup.user startup.pass startup.ownerNick).Unbroken where
  settings := {
    nick := copyValue_unbroken h.nick 32
    user := by
      apply copyValue_unbroken
      split
      · exact h.user
      · exact h.nick
    pass := copyValue_unbroken h.pass 64
    channel := nofun }
  network := nofun

theorem copyNetwork_unbroken {src : ConfigNetwork} (h : src.toSettings.Unbroken) : (copyNetwork src).Unbroken where
  nick := copyValue_unbroken h.nick 32
  user := copyValue_unbroken h.user 32
  pass := copyValue_unbroken h.pass 64
  channel := copies_unbroken h.channel 64

theorem legacyNetwork_unbroken {config : Config} (h : config.Unbroken) :
    (legacyNetwork config).toSettings.Unbroken where
  nick := copyValue_unbroken h.settings.nick 32
  user := copyValue_unbroken h.settings.user 32
  pass := copyValue_unbroken h.settings.pass 64
  channel := copies_unbroken h.settings.channel 64

theorem networksFromConfig_unbroken {config : Config} (h : config.Unbroken) {n : NetworkConfig}
    (hn : n ∈ (networksFromConfig config).2.items) : n.Unbroken := by
  unfold networksFromConfig at hn
  split at hn
  · obtain ⟨hmem, -⟩ := List.mem_filter.1 hn
    obtain ⟨network, hnetwork, rfl⟩ := List.mem_map.1 hmem
    exact copyNetwork_unbroken (h.network network (List.mem_of_mem_take hnetwork))
  · split at hn
    · cases hn
    · rw [List.mem_singleton.1 hn]
      exact copyNetwork_unbroken (legacyNetwork_unbroken h)

/-! ## The credentials -/

theorem digit64_ne_lf (v : Nat) : digit64 v ≠ LF := by
  by_cases hv : v < 64
  · have hall : ∀ i < 64, digit64 i ≠ LF := by decide +kernel
    exact hall v hv
  · have hlast : digit64 v = 47 := by
      unfold digit64
      rw [if_neg (by omega), if_neg (by omega), if_neg (by omega), if_neg (by omega)]
    rw [hlast]
    decide

theorem encode64_unbroken (src : Bytes) : LF ∉ encode64 src := by
  have hpad : LF ≠ pad := by decide
  induction src using encode64.induct with
  | case1 => exact List.not_mem_nil
  | case2 a => simp [encode64, hpad, (digit64_ne_lf _).symm]
  | case3 a b => simp [encode64, hpad, (digit64_ne_lf _).symm]
  | case4 a b c rest ih => simp [encode64, ih, (digit64_ne_lf _).symm]

/-- Every line of the negotiation is one IRC line. -/
theorem sends_lineFits {config : NetworkConfig} {r : Reading} {line : Bytes} (h : r.sends config = some line) :
    LineFits line := by
  have hwords : ∀ fixed ∈ [capReq, authPlain, capEnd], fixed.length ≤ ircLineMax ∧ LF ∉ fixed := by decide
  have hfixed (fixed : Bytes) (hmem : fixed ∈ [capReq, authPlain, capEnd]) : LineFits fixed :=
    ⟨(hwords fixed hmem).1, (hwords fixed hmem).2⟩
  cases r with
  | offer => exact Option.some.inj h ▸ hfixed capReq (by decide)
  | ack => exact Option.some.inj h ▸ hfixed authPlain (by decide)
  | refusal => exact Option.some.inj h ▸ hfixed capEnd (by decide)
  | success => exact Option.some.inj h ▸ hfixed capEnd (by decide)
  | failure => exact Option.some.inj h ▸ hfixed capEnd (by decide)
  | nothing => cases h
  | challenge =>
    have hpayload : payloadLine config = some line := h
    unfold payloadLine at hpayload
    split at hpayload
    · cases hpayload
    rw [b64Encode_eq] at hpayload
    split at hpayload
    · cases hpayload
    · rename_i encoded hencoded
      obtain ⟨-, hsame⟩ := Option.ite_none_right_eq_some.1 hencoded
      obtain ⟨hshort, hwhole⟩ := Option.ite_none_left_eq_some.1 hpayload
      obtain rfl := Option.some.inj hsame
      obtain rfl := Option.some.inj hwhole
      have hword : LF ∉ authenticate := by decide
      refine ⟨by unfold ircLineMax; omega, ?_⟩
      rw [List.mem_append, not_or]
      exact ⟨hword, encode64_unbroken _⟩

end AmBot
