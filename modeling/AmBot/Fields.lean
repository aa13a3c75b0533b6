import AmBot.NetworkList
import AmBot.Replies
import AmBot.Session
/-!
# What the arrays of the structures hold

The model has lists where the C structures have arrays. `Fits` says of each
structure that its texts and tables are no longer than the arrays they are kept
in; here it is shown of everything that fills in one of them.
-/

namespace AmBot

open RunLib

/-- The texts of the settings, each with its NUL in its array. -/
structure Settings.Fits (s : Settings) : Prop where
  host : s.host.length < 128
  nick : s.nick.length < 32
  user : s.user.length < 32
  pass : s.pass.length < 64
  owner : s.owner.length < 32
  hookDir : s.hookDir.length < 128
  moduleDir : s.moduleDir.length < 128
  ambncHost : s.ambncHost.length < 128
  saslUser : s.saslUser.length < 32
  saslPass : s.saslPass.length < 64
  channel : ∀ channel ∈ s.channels, channel.length < 64
  channels : s.channels.length ≤ channelsMax

structure ConfigNetwork.Fits (network : ConfigNetwork) : Prop where
  settings : network.toSettings.Fits
  name : network.name.length < 32

structure Config.Fits (config : Config) : Prop where
  settings : config.toSettings.Fits
  path : config.path.length < 128
  botaiUrl : config.botaiUrl.length < 256
  botaiExpert : config.botaiExpert.length < 32
  network : ∀ network ∈ config.networks, network.Fits
  networks : config.networks.length ≤ networksMax

structure NetworkConfig.Fits (n : NetworkConfig) : Prop where
  name : n.name.length < 32
  host : n.host.length < 128
  nick : n.nick.length < 32
  user : n.user.length < 32
  pass : n.pass.length < 64
  owner : n.owner.length < 32
  hookDir : n.hookDir.length < 128
  moduleDir : n.moduleDir.length < 128
  ambncHost : n.ambncHost.length < 128
  saslUser : n.saslUser.length < 32
  saslPass : n.saslPass.length < 64
  channel : ∀ channel ∈ n.channels, channel.length < 64
  channels : n.channels.length ≤ channelsMax

/-- Of an event it also says that its names come from one line. -/
structure Event.Fits (event : Event) : Prop where
  nick : event.nick.length < eventNickSize
  target : event.target.length < eventTargetSize
  text : event.text.length < eventTextSize
  nickLine : LF ∉ event.nick
  targetLine : LF ∉ event.target

/-- Every slot of the ring, in use or not. -/
def EventQueue.All (P : Event → Prop) (queue : EventQueue) : Prop := ∀ event ∈ queue.items, P event

structure EventQueue.Fits (queue : EventQueue) : Prop where
  event : queue.All Event.Fits
  count : queue.count ≤ eventQueueCapacity

/-- One IRC line: its length, and no line break in it. -/
structure LineFits (line : Bytes) : Prop where
  length : line.length ≤ ircLineMax
  unbroken : LF ∉ line

/-- `char line[AMBOT_IRC_LINE_MAX + 1]`, with no more than one line in it. -/
def IrcFramer.Fits (framer : IrcFramer) : Prop := LineFits framer.line

structure NetworkRuntime.Fits (runtime : NetworkRuntime) : Prop where
  config : runtime.config.Fits
  framer : runtime.framer.Fits
  events : runtime.events.Fits

/-! ## The configuration -/

theorem copyValue_lt {size : Nat} (h : 0 < size) (text : Bytes) : (copyValue size text).length < size := by
  have hcut : (copyValue size text).length ≤ size - 1 := List.length_take_le _ _
  omega

theorem copyValue_eq_self {size : Nat} (h : 0 < size) {text : Bytes} :
    copyValue size text = text ↔ text.length < size := by
  unfold copyValue
  rw [List.take_eq_self_iff]
  omega

/-- Settings fit where there is nothing to cut. -/
theorem settings_fits_iff (s : Settings) : s.Fits ↔ s.clip = s ∧ s.channels.length ≤ channelsMax := by
  have hchannels : s.channels.map (copyValue 64) = s.channels ↔ ∀ channel ∈ s.channels, channel.length < 64 := by
    conv_lhs => rhs; rw [← List.map_id s.channels]
    rw [List.map_inj_left]
    exact forall₂_congr fun channel _ => copyValue_eq_self (by decide)
  constructor
  · intro h
    refine ⟨?_, h.channels⟩
    simp only [Settings.clip, hchannels.2 h.channel, copyValue_of_short h.host, copyValue_of_short h.nick,
      copyValue_of_short h.user, copyValue_of_short h.pass, copyValue_of_short h.owner, copyValue_of_short h.hookDir,
      copyValue_of_short h.moduleDir, copyValue_of_short h.ambncHost, copyValue_of_short h.saslUser,
      copyValue_of_short h.saslPass]
  · rintro ⟨hclip, hcount⟩
    have hcut (f : Settings → Bytes) (size : Nat) (hsize : 0 < size) (hf : f s.clip = copyValue size (f s)) :
        (f s).length < size := (copyValue_eq_self hsize).1 (hf.symm.trans (congrArg f hclip))
    exact {
      host := hcut (·.host) 128 (by decide) rfl
      nick := hcut (·.nick) 32 (by decide) rfl
      user := hcut (·.user) 32 (by decide) rfl
      pass := hcut (·.pass) 64 (by decide) rfl
      owner := hcut (·.owner) 32 (by decide) rfl
      hookDir := hcut (·.hookDir) 128 (by decide) rfl
      moduleDir := hcut (·.moduleDir) 128 (by decide) rfl
      ambncHost := hcut (·.ambncHost) 128 (by decide) rfl
      saslUser := hcut (·.saslUser) 32 (by decide) rfl
      saslPass := hcut (·.saslPass) 64 (by decide) rfl
      channel := hchannels.1 (congrArg Settings.channels hclip)
      channels := hcount }

theorem Settings.Fits.assign {s : Settings} (h : s.Fits) (k : Key) (value : Bytes) : (s.assign k value).Fits := by
  obtain ⟨hclip, hcount⟩ := (settings_fits_iff s).1 h
  apply (settings_fits_iff _).2
  constructor
  · rw [clip_assign, hclip]
  · rw [assign_channels s k value hcount]
    exact List.length_take_le _ _

theorem applyNetworkKey_fits {network : ConfigNetwork} (h : network.Fits) (key value : Bytes) :
    (applyNetworkKey network key value).Fits := by
  unfold applyNetworkKey
  cases keyOf key with
  | none => exact h
  | some k => exact ⟨h.settings.assign k value, h.name⟩

theorem applyGlobalKey_fits {config : Config} (h : config.Fits) (key value : Bytes) :
    (applyGlobalKey config key value).Fits := by
  unfold applyGlobalKey
  split
  · exact { h with botaiUrl := copyValue_lt (by decide) value }
  · exact { h with botaiExpert := copyValue_lt (by decide) value }
  · exact { h with }
  · exact { h with settings := h.settings.assign _ value }
  · exact h

theorem networkDefaults_fits (config : Config) (name : Bytes) :
    ({ networkDefaults config with name := copyValue 32 name } : ConfigNetwork).Fits where
  settings := (settings_fits_iff _).2 ⟨(networkDefaults_clipped config name).settings, Nat.zero_le _⟩
  name := copyValue_lt (by decide) name

theorem loadLine_fits {s : Loading} (h : s.config.Fits) (line : ConfigLine) : (loadLine s line).config.Fits := by
  cases line with
  | ignored => exact h
  | network name =>
    simp only [loadLine]
    split
    · rename_i hroom
      refine { h with network := ?_, networks := ?_ }
      · intro network hnetwork
        rcases List.mem_append.1 hnetwork with hold | hnew
        · exact h.network network hold
        · rw [List.mem_singleton.1 hnew]
          exact networkDefaults_fits s.config name
      · rw [List.length_append]
        exact hroom
    · exact { h with }
  | setting key value =>
    simp only [loadLine]
    split
    · rename_i i _
      refine { h with network := ?_, networks := ?_ }
      · intro network hnetwork
        obtain ⟨j, hj, rfl⟩ := List.getElem_of_mem hnetwork
        rw [List.getElem_modify]
        split
        · exact applyNetworkKey_fits (h.network _ (List.getElem_mem _)) key value
        · exact h.network _ (List.getElem_mem _)
      · rw [List.length_modify]
        exact h.networks
    · exact applyGlobalKey_fits h key value

/-- Whatever the file, what is loaded fits. -/
theorem configLoad_fits {config : Config} (h : config.Fits) (path : Bytes) (file : Option Bytes) :
    (configLoad config path file).2.Fits := by
  unfold configLoad
  split
  · exact h
  cases file with
  | none => exact h
  | some text =>
    have hstart : (loadStart config path).config.Fits :=
      { h with
        settings := { h.settings with channel := nofun, channels := Nat.zero_le _ }
        path := copyValue_lt (by decide) path
        network := nofun
        networks := Nat.zero_le _ }
    dsimp only
    generalize loadStart config path = s at hstart
    induction (configLines text).map parseLine generalizing s with
    | nil => exact hstart
    | cons line lines ih => exact ih _ (loadLine_fits hstart line)

theorem configInit_fits : configInit.Fits where
  settings := (settings_fits_iff _).2 ⟨by decide, by decide⟩
  path := by decide
  botaiUrl := by decide
  botaiExpert := by decide
  network := nofun
  networks := by decide

theorem configSeed_fits (host : Bytes) (port : Nat) (nick user pass owner : Bytes) :
    (configSeed host port nick user pass owner).Fits :=
  { configInit_fits with
    settings := { configInit_fits.settings with
      host := copyValue_lt (by decide) host
      nick := copyValue_lt (by decide) nick
      user := copyValue_lt (by decide) _
      pass := copyValue_lt (by decide) pass
      owner := copyValue_lt (by decide) owner } }

/-! ## The networks -/

theorem copyNetwork_fits {src : ConfigNetwork} (h : src.channels.length ≤ channelsMax) : (copyNetwork src).Fits where
  name := copyValue_lt (by decide) _
  host := copyValue_lt (by decide) _
  nick := copyValue_lt (by decide) _
  user := copyValue_lt (by decide) _
  pass := copyValue_lt (by decide) _
  owner := copyValue_lt (by decide) _
  hookDir := copyValue_lt (by decide) _
  moduleDir := copyValue_lt (by decide) _
  ambncHost := copyValue_lt (by decide) _
  saslUser := copyValue_lt (by decide) _
  saslPass := copyValue_lt (by decide) _
  channel channel hchannel := by
    obtain ⟨text, -, rfl⟩ := List.mem_map.1 hchannel
    exact copyValue_lt (by decide) text
  channels := by
    rw [copyNetwork, List.length_map]
    exact h

theorem legacyNetwork_fits {config : Config} (h : config.Fits) : (copyNetwork (legacyNetwork config)).Fits := by
  apply copyNetwork_fits
  rw [legacyNetwork, List.length_map]
  exact h.settings.channels

theorem networksFromConfig_fits {config : Config} (h : config.Fits) {n : NetworkConfig}
    (hn : n ∈ (networksFromConfig config).2.items) : n.Fits := by
  unfold networksFromConfig at hn
  split at hn
  · obtain ⟨hmem, -⟩ := List.mem_filter.1 hn
    obtain ⟨network, hnetwork, rfl⟩ := List.mem_map.1 hmem
    exact copyNetwork_fits (h.network network (List.mem_of_mem_take hnetwork)).settings.channels
  · split at hn
    · cases hn
    · rw [List.mem_singleton.1 hn]
      exact legacyNetwork_fits h

/-! ## The lines and the events -/

theorem ircFramerInit_fits : ircFramerInit.Fits := ⟨Nat.zero_le _, List.not_mem_nil⟩

theorem inLine_of_le {i : Nat} (h : i ≤ ircLineMax) : inLine i = true := decide_eq_true (Nat.lt_succ_of_le h)

/-- One byte never leaves the array of the framer, and a line that is handed
on has come from there. -/
theorem framerByte_fits {framer : IrcFramer} (h : framer.Fits) (ch : UInt8) :
    ∃ framer' line, framerByte framer ch = .ok (framer', line) ∧ framer'.Fits ∧
      ∀ text, line = some text → LineFits text := by
  have hdrop : LineFits (dropCr framer.line) := by
    unfold dropCr
    split
    · have hlength : framer.line.dropLast.length ≤ ircLineMax := by
        rw [List.length_dropLast]
        exact (Nat.sub_le _ _).trans h.length
      exact ⟨hlength, fun hlf => h.unbroken (List.mem_of_mem_dropLast hlf)⟩
    · exact h
  unfold framerByte
  split
  · split
    · exact ⟨_, _, rfl, ircFramerInit_fits, nofun⟩
    · rw [if_pos (inLine_of_le hdrop.length)]
      refine ⟨_, _, rfl, ircFramerInit_fits, ?_⟩
      rintro text ⟨⟩
      exact hdrop
  · rename_i hbyte
    split
    · exact ⟨_, _, rfl, h, nofun⟩
    · split
      · exact ⟨_, _, rfl, ⟨Nat.zero_le _, List.not_mem_nil⟩, nofun⟩
      · rename_i hroom
        have hin : inLine framer.length = true := inLine_of_le h.length
        rw [if_pos hin]
        refine ⟨_, _, rfl, ⟨?_, ?_⟩, nofun⟩
        · rw [List.length_append]
          exact not_le.1 hroom
        · intro hlf
          rcases List.mem_append.1 hlf with hold | hnew
          · exact h.unbroken hold
          · exact hbyte (List.mem_singleton.1 hnew).symm

theorem LineFits.cstr {line : Bytes} (h : LineFits line) : LineFits (cstr line) where
  length := (List.takeWhile_prefix _).length_le.trans h.length
  unbroken hlf := h.unbroken ((List.takeWhile_prefix _).subset hlf)

theorem eventFromIrcLine_fits {line : Bytes} {event : Event} (hline : LF ∉ line)
    (h : eventFromIrcLine line = some event) : event.Fits := by
  obtain ⟨hnick, htarget, htext⟩ := eventFromIrcLine_length h
  obtain ⟨hnickLine, htargetLine⟩ := eventFromIrcLine_subset h
  exact ⟨Nat.lt_succ_of_le hnick, Nat.lt_succ_of_le htarget, Nat.lt_succ_of_le htext, fun hlf => hline (hnickLine hlf),
    fun hlf => hline (htargetLine hlf)⟩

/-! ### The ring -/

section Ring
variable {P : Event → Prop} {queue queue' : EventQueue} {event : Event}

theorem eventQueueInit_all (h : P emptyEvent) : eventQueueInit.All P := by
  intro event hevent
  obtain ⟨i, hi, rfl⟩ := Vector.getElem_of_mem hevent
  have hempty : eventQueueInit.items[i] = emptyEvent := Vector.getElem_replicate hi
  rw [hempty]
  exact h

theorem eventQueuePush_all (h : queue.All P) (hevent : P event) : (eventQueuePush queue event).2.All P := by
  unfold eventQueuePush
  split
  · exact h
  · intro other hother
    rcases @Vector.mem_or_eq_of_mem_set _ _ _ _ _ _ queue.tail.isLt hother with hold | hnew
    · exact h other hold
    · rw [hnew]
      exact hevent

theorem eventQueuePop_all (h : queue.All P) (hpop : eventQueuePop queue = some (event, queue')) :
    P event ∧ queue'.All P := by
  unfold eventQueuePop at hpop
  split at hpop
  · cases hpop
  · cases hpop
    exact ⟨h _ (Vector.getElem_mem _), h⟩

end Ring

theorem eventQueueInit_fits : eventQueueInit.Fits where
  event := eventQueueInit_all ⟨by decide, by decide, by decide, by decide, by decide⟩
  count := Nat.zero_le _

theorem eventQueuePush_fits {queue : EventQueue} (h : queue.Fits) {event : Event} (hevent : event.Fits) :
    (eventQueuePush queue event).2.Fits where
  event := eventQueuePush_all h.event hevent
  count := by
    unfold eventQueuePush
    split
    · exact h.count
    · exact not_le.1 ‹_›

theorem eventQueuePop_fits {queue queue' : EventQueue} (h : queue.Fits) {event : Event}
    (hpop : eventQueuePop queue = some (event, queue')) : event.Fits ∧ queue'.Fits := by
  obtain ⟨hevent, hqueue⟩ := eventQueuePop_all h.event hpop
  refine ⟨hevent, hqueue, ?_⟩
  unfold eventQueuePop at hpop
  split at hpop
  · cases hpop
  · cases hpop
    exact (Nat.sub_le _ _).trans h.count

end AmBot
