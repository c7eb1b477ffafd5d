import Mathlib.Algebra.Group.Nat.Defs
import Mixdown.Audio.Tone
import Mixdown.Host.Memory
import Mixdown.Proofs.Mixer.Sources
import Mixdown.Proofs.Rendering.Routing

/-!
# Which tracks of a scene are added

Adding a track takes seven calls and more, each with checks of its own. They come down to a few
conditions on the track and the mixer (`Admits`): where these hold every call succeeds, and the
track is as its scene says; where one of them fails, some call is refused. A tone is computed before
the first of these calls, and one that no memory can hold ends the program there, whatever the
checks of its scene let through (`loadTrack_tone`).
-/

namespace Mixdown

namespace ToneSpec

/-- A recording of a tone: as many frames as its length comes to at its rate, and in each of them on
every channel the sine at the angle of the frame, from zero on, times the amplitude, computed in
double precision and rounded to a single once. -/
structure Heard (tone : ToneSpec) (recording : Recording) : Prop where
  channels : recording.channels = tone.channels
  sampleRate : recording.sampleRate = tone.sampleRate
  length : recording.samples.length =
    Double.toCount (Double.ofSingle tone.seconds * Float.ofNat tone.sampleRate.toNat) *
      tone.channels
  sample : ∀ frame channel, frame * tone.channels + channel < recording.samples.length →
    channel < tone.channels → recording.samples[frame * tone.channels + channel]? =
      some (Double.toSingle (Double.ofSingle tone.amplitude *
        Float.sin (fullTurn * Double.ofSingle tone.frequency /
          Float.ofNat (max tone.sampleRate.toNat 1) * Float.ofNat frame)))

/-- A sample on every channel for each frame. -/
theorem length_perFrame (count channels : Nat) (value : Nat → Float32) :
    ((List.range count).flatMap fun frame => List.replicate channels (value frame)).length =
      count * channels := by
  rw [List.length_flatMap]
  simp only [List.length_replicate, List.map_const', List.length_range, List.sum_replicate_nat]

/-- The samples of a frame lie together, one for each channel. -/
theorem getElem?_perFrame {count channels frame channel : Nat} (value : Nat → Float32)
    (frames : frame < count) (inside : channel < channels) :
    ((List.range count).flatMap fun frame => List.replicate channels (value frame))[
      frame * channels + channel]? = some (value frame) := by
  induction count with
  | zero => exact absurd frames (Nat.not_lt_zero _)
  | succ n ih =>
    have before := length_perFrame n channels value
    rw [List.range_succ, List.flatMap_append, List.flatMap_singleton]
    rcases Nat.lt_succ_iff_lt_or_eq.mp frames with early | rfl
    · have within : frame * channels + channel < n * channels := by
        have whole := Nat.mul_le_mul_right channels early
        rw [Nat.succ_mul] at whole
        omega
      rw [List.getElem?_append_left (by rwa [before])]
      exact ih early
    · rw [List.getElem?_append_right (by omega), before, Nat.add_sub_cancel_left,
        List.getElem?_replicate, if_pos inside]

section

variable {tone : ToneSpec}

theorem length_samples : tone.samples.length = tone.frameCount * tone.channels :=
  length_perFrame _ _ _

/-- A tone is recorded where its samples fit into a block of memory. -/
theorem recording?_eq_some {recording : Recording} : tone.recording? = some recording ↔
    tone.frameCount * tone.channels * 4 < 2 ^ 63 ∧
      ⟨tone.channels, tone.sampleRate, tone.samples⟩ = recording := by
  have last : 2 ^ 63 = maxBlockBytes + 1 := by decide
  rw [recording?, Option.ite_none_right_eq_some, Option.some.injEq, last, Nat.lt_add_one_iff]

theorem heard_recording (some_length : 0 < tone.seconds) :
    tone.Heard ⟨tone.channels, tone.sampleRate, tone.samples⟩ := by
  have count : tone.frameCount =
      Double.toCount (Double.ofSingle tone.seconds * Float.ofNat tone.sampleRate.toNat) :=
    if_pos some_length
  refine ⟨rfl, rfl, count ▸ length_samples, fun frame channel inside lt => ?_⟩
  refine getElem?_perFrame (sine _ tone.angleStep) ?_ lt
  rw [length_samples] at inside
  exact Nat.lt_of_mul_lt_mul_right (Nat.lt_of_le_of_lt (Nat.le_add_right _ _) inside)

end

end ToneSpec

/-- A tone of a sound scene has channels, a rate and a length. -/
theorem TrackSpec.tone_of_sound {spec : TrackSpec} {tone : ToneSpec}
    (plays : spec.source = .tone tone) {index : Nat} (sound : spec.fault? index = none) :
    tone.channels ≠ 0 ∧ tone.sampleRate ≠ 0 ∧ 0 < tone.seconds := by
  unfold fault? at sound
  simp only [plays] at sound
  split at sound
  · nomatch sound
  · rename_i given
    split at sound
    · rename_i lasts
      simp only [Bool.and_eq_true, decide_eq_true_eq] at lasts
      obtain ⟨some_channels, some_rate⟩ := not_or.mp given
      exact ⟨some_channels, some_rate, lasts.2⟩
    · nomatch sound

namespace ChannelMask

/-- One to eight channels have a usual layout. -/
theorem isSome_ofChannelCount? (count : Nat) :
    (ofChannelCount? count).isSome = true ↔ count ≠ 0 ∧ count ≤ maxDownmixChannels := by
  rcases count with _ | _ | _ | _ | _ | _ | _ | _ | _ | more
  iterate 9 decide
  refine iff_of_false nofun ?_
  unfold maxDownmixChannels
  omega

section

variable {count : Nat} {mask : ChannelMask} (usual : ofChannelCount? count = some mask)

include usual

theorem isValid_of_usual : mask.isValid = true := by
  unfold ofChannelCount? at usual
  split at usual <;> cases usual <;> decide

theorem channelCount_of_usual : mask.channelCount = count := by
  unfold ofChannelCount? at usual
  split at usual <;> cases usual <;> decide

/-- The usual layouts have the front pair as soon as they have two channels. -/
theorem standardDownmix_of_usual (many : maxMixChannels < count) (mode : DownmixMode) :
    standardDownmix mask mode = true := by
  unfold ofChannelCount? at usual
  split at usual <;> cases usual <;> first
    | exact absurd many (by decide)
    | cases mode <;> decide

end

end ChannelMask

namespace TrackSetting

/-- A setting that leaves the chain of a track alone. -/
def Plain : TrackSetting → Prop
  | .mask _ | .format _ | .downmix _ => False
  | .mainBus _ | .auxBus _ | .busFormat _ | .sampleRate _ | .restart | .mixRate
  | .gain _ _ _ => True

end TrackSetting

/-- The track with a plain setting written. -/
def Track.given {σ : Type} (settings : Settings) (t : Track σ) : TrackSetting → Track σ
  | .mainBus bus => { t with mainBus := bus }
  | .auxBus bus => { t with auxBus := bus }
  | .busFormat format => { t with busFormat := format }
  | .sampleRate rate => if t.sampleRate = rate then t else Mixer.withRate settings t rate
  | .restart => { t with resampler := t.resampler.map Resampler.reset }
  | .mixRate => { t with sampleRate := settings.sampleRate, resampler := none }
  | .gain name value ramped =>
    { t with
      volume := t.volume.modify name
        (.steer (Single.clamp 0 1 value) (if ramped then settings.rampFrames else 0)) }
  | .mask _ | .format _ | .downmix _ => t

namespace Mixer

variable {σ : Type}

/-- The mixer accepts a plain setting for its tracks. -/
def Allows (m : Mixer σ) : TrackSetting → Prop
  | .mainBus bus => bus < m.mainBuses.length
  | .auxBus bus => ∀ b, bus = some b → b < m.auxBuses.length
  | .sampleRate rate => rate ≠ 0 ∧ rate ≤ m.settings.maxTrackRate
  | .gain _ value _ => value.isFinite = true
  | .busFormat _ | .restart | .mixRate => True
  | .mask _ | .format _ | .downmix _ => False

/-- Only the last of two tracks that are written to a slot stays. -/
theorem Writes.trans {m m' m'' : Mixer σ} {slot : Slot} {t t' : Option (Track σ)}
    {keeps keeps' : Bool} (first : Writes m m' slot t keeps)
    (second : Writes m' m'' slot t' keeps') : Writes m m'' slot t' (keeps && keeps') := by
  refine ⟨second.settings.trans first.settings, second.factory.trans first.factory,
    second.mainBuses.trans first.mainBuses, second.auxBuses.trans first.auxBuses,
    second.underruns.trans first.underruns, ?_, ?_⟩
  · rw [second.plan, first.plan]
    cases keeps <;> cases keeps' <;> rfl
  · rw [second.tracks, first.tracks, Vector.set_set]

/-- `m'` is `m` with a track put into a slot, and the plan may be dropped. -/
def Puts (m m' : Mixer σ) (slot : Slot) (t : Track σ) : Prop :=
  ∃ keeps, Writes m m' slot (some t) keeps

namespace Puts

variable {m m' m'' : Mixer σ} {slot : Slot} {t t' : Track σ}

theorem found (puts : Puts m m' slot t) : m'.track? slot = some t := by
  obtain ⟨_, writes⟩ := puts
  exact writes.track?_self

theorem settings (puts : Puts m m' slot t) : m'.settings = m.settings := by
  obtain ⟨_, writes⟩ := puts
  exact writes.settings

theorem trans (first : Puts m m' slot t) (second : Puts m' m'' slot t') : Puts m m'' slot t' := by
  obtain ⟨keeps, first⟩ := first
  obtain ⟨keeps', second⟩ := second
  exact ⟨_, first.trans second⟩

theorem allows_iff (puts : Puts m m' slot t) (setting : TrackSetting) :
    m'.Allows setting ↔ m.Allows setting := by
  obtain ⟨_, writes⟩ := puts
  unfold Allows
  rw [writes.mainBuses, writes.auxBuses, writes.settings]

end Puts

/-- A slot that a new track may take. -/
def Free (m : Mixer σ) (slot : Slot) : Prop :=
  slot.val < m.settings.maxTracks ∧ m.track? slot = none

/-- The lowest slot that a new track may take. -/
def LowestFree (m : Mixer σ) (slot : Slot) : Prop :=
  m.Free slot ∧ ∀ other < slot, ¬ m.Free other

theorem find_free_eq_some {m : Mixer σ} {slot : Slot} :
    (Slot.all.find? fun slot => slot.val < m.settings.maxTracks && (m.track? slot).isNone) =
      some slot ↔ m.LowestFree slot := by
  have free_iff (other : Slot) : (decide (other.val < m.settings.maxTracks) &&
      (m.track? other).isNone) = true ↔ m.Free other := by
    simp [Free]
  rw [List.find?_eq_some_iff_append, free_iff]
  constructor
  · rintro ⟨free, before, after, split, none_before⟩
    refine ⟨free, fun other below taken => ?_⟩
    have listed : other ∈ before ++ slot :: after := split ▸ Slot.mem_all other
    have ascending : (before ++ slot :: after).Pairwise (· < ·) :=
      split ▸ List.pairwise_lt_finRange maxSlots
    rcases List.mem_append.mp listed with early | late
    · have refused := none_before other early
      rw [(free_iff other).mpr taken] at refused
      nomatch refused
    · obtain ⟨-, ascending, -⟩ := List.pairwise_append.mp ascending
      rcases List.mem_cons.mp late with rfl | later
      · exact absurd below (Nat.lt_irrefl _)
      · exact absurd below (Nat.lt_asymm (List.rel_of_pairwise_cons ascending later))
  · rintro ⟨free, lowest⟩
    obtain ⟨before, after, split⟩ := List.append_of_mem (Slot.mem_all slot)
    refine ⟨free, before, after, split, fun other early => ?_⟩
    have ascending : (before ++ slot :: after).Pairwise (· < ·) :=
      split ▸ List.pairwise_lt_finRange maxSlots
    have below := (List.pairwise_append.mp ascending).2.2 other early slot List.mem_cons_self
    rw [Bool.not_eq_true', ← Bool.not_eq_true, free_iff]
    exact lowest other below

/-- A new track takes the lowest free slot. -/
theorem allocate_eq_ok {m m' : Mixer σ} {mask : ChannelMask} {format : SampleFormat}
    {session : Int32} {slot : Slot} (accepted : m.maskRefusal? mask .standard = none) :
    m.allocate mask format session = (.ok slot, m') ↔
      m.LowestFree slot ∧ m' = m.setTrack slot (some (.new m.settings mask format session)) := by
  unfold allocate
  rw [accepted, ← find_free_eq_some]
  cases found : Slot.all.find? fun slot =>
      decide (slot.val < m.settings.maxTracks) && (m.track? slot).isNone with
  | none => simp
  | some first =>
    simp only [Prod.mk.injEq, Except.ok.injEq, Option.some.injEq]
    constructor
    · rintro ⟨rfl, rfl⟩
      exact ⟨rfl, rfl⟩
    · rintro ⟨rfl, rfl⟩
      exact ⟨rfl, rfl⟩

theorem exists_lowestFree {m : Mixer σ} {slot : Slot} (free : m.Free slot) :
    ∃ lowest, m.LowestFree lowest := by
  cases found : Slot.all.find? fun slot =>
      decide (slot.val < m.settings.maxTracks) && (m.track? slot).isNone with
  | some lowest => exact ⟨lowest, find_free_eq_some.mp found⟩
  | none =>
    have taken := List.find?_eq_none.mp found slot (Slot.mem_all slot)
    simp [free.1, free.2] at taken

variable [Provider σ]

section Plain

variable {m : Mixer σ} {slot : Slot} {t : Track σ} {setting : TrackSetting}

theorem write_of_allows (found : m.track? slot = some t) (allowed : m.Allows setting) :
    ∃ changed, m.write slot t setting =
      (.ok changed, m.setTrack slot (some (t.given m.settings setting))) := by
  cases setting with
  | mask _ | format _ | downmix _ => exact allowed.elim
  | mainBus bus => exact ⟨_, if_pos allowed⟩
  | auxBus bus =>
    cases bus with
    | none => exact ⟨_, rfl⟩
    | some bus => exact ⟨_, if_pos (allowed bus rfl)⟩
  | busFormat _ | restart | mixRate => exact ⟨_, rfl⟩
  | sampleRate rate =>
    have inside : ¬ (rate = 0 ∨ m.settings.maxTrackRate < rate) :=
      not_or.mpr ⟨allowed.1, UInt32.not_lt.mpr allowed.2⟩
    simp only [write, if_neg inside, Track.given]
    by_cases same : t.sampleRate = rate
    · rw [if_pos same, if_pos same, setTrack_self m found]
      exact ⟨false, rfl⟩
    · rw [if_neg same, if_neg same]
      exact ⟨true, rfl⟩
  | gain name value ramped =>
    have clamped : clampTrackGain? value = some (Single.clamp 0 1 value) := if_pos allowed
    simp only [write, clamped]
    exact ⟨_, rfl⟩

theorem write_of_not_allows (plain : setting.Plain) (refused : ¬ m.Allows setting) :
    ∃ why, m.write slot t setting = (.error why, m) := by
  cases setting with
  | mask _ | format _ | downmix _ => exact plain.elim
  | mainBus bus => exact ⟨_, if_neg refused⟩
  | auxBus bus =>
    cases bus with
    | none => exact absurd nofun refused
    | some bus =>
      have unknown : ¬ bus < m.auxBuses.length :=
        fun known => refused fun _ same => Option.some.inj same ▸ known
      exact ⟨_, if_neg unknown⟩
  | busFormat _ | restart | mixRate => exact absurd trivial refused
  | sampleRate rate =>
    have outside : rate = 0 ∨ m.settings.maxTrackRate < rate := by
      by_contra inside
      obtain ⟨some_rate, le⟩ := not_or.mp inside
      exact refused ⟨some_rate, UInt32.not_lt.mp le⟩
    exact ⟨_, if_pos outside⟩
  | gain name value ramped =>
    have none_left : clampTrackGain? value = none := if_neg refused
    simp only [write, none_left]
    exact ⟨_, rfl⟩

/-- A plain setting that is allowed is written. -/
theorem done_set_of_allows (found : m.track? slot = some t) (allowed : m.Allows setting) :
    ∃ m', Answer.done (m.set slot setting) = .ok m' ∧
      m.Puts m' slot (t.given m.settings setting) := by
  obtain ⟨changed, written⟩ := write_of_allows found allowed
  simp only [set, withTrack, found, written]
  cases changed with
  | false => exact ⟨_, rfl, true, writes_setTrack m slot _⟩
  | true => exact ⟨_, rfl, false, (writes_setTrack m slot _).invalidated⟩

/-- A plain setting that is written is allowed. -/
theorem allows_of_done_set {m' : Mixer σ} (plain : setting.Plain)
    (done : Answer.done (m.set slot setting) = .ok m') : m.Allows setting := by
  by_contra refused
  unfold set withTrack at done
  cases found : m.track? slot with
  | none =>
    rw [found] at done
    nomatch done
  | some t =>
    obtain ⟨why, failed⟩ : ∃ why, m.write slot t setting = (.error why, m) :=
      write_of_not_allows plain refused
    simp only [found, failed] at done
    nomatch done

/-- Plain settings that are allowed are written one after another. -/
theorem setAll_of_allows (found : m.track? slot = some t) {settings : List TrackSetting}
    (allowed : ∀ setting ∈ settings, m.Allows setting) :
    ∃ m', m.setAll slot settings = .ok m' ∧
      m.Puts m' slot (settings.foldl (Track.given m.settings) t) := by
  induction settings generalizing m t with
  | nil => exact ⟨m, rfl, true, found ▸ writes_same m slot⟩
  | cons setting rest ih =>
    obtain ⟨m₁, done, put⟩ := done_set_of_allows found (allowed setting List.mem_cons_self)
    obtain ⟨m', all, puts⟩ := ih put.found fun later listed =>
      (put.allows_iff later).mpr (allowed later (List.mem_cons_of_mem _ listed))
    rw [put.settings] at puts
    refine ⟨m', ?_, put.trans puts⟩
    rw [setAll, done]
    exact all

/-- Plain settings that are all written are allowed. -/
theorem allows_of_setAll (found : m.track? slot = some t) {settings : List TrackSetting}
    (plain : ∀ setting ∈ settings, setting.Plain) {m' : Mixer σ}
    (done : m.setAll slot settings = .ok m') : ∀ setting ∈ settings, m.Allows setting := by
  induction settings generalizing m t with
  | nil => exact nofun
  | cons setting rest ih =>
    obtain ⟨m₁, written, others⟩ := bind_eq_ok.mp done
    have allowed := allows_of_done_set (plain setting List.mem_cons_self) written
    obtain ⟨m₂, written', put⟩ := done_set_of_allows found allowed
    obtain rfl : m₁ = m₂ := Except.ok.inj (written.symm.trans written')
    have later := ih put.found (fun later listed => plain later (List.mem_cons_of_mem _ listed))
      others
    rintro setting' (_ | ⟨_, listed⟩)
    · exact allowed
    · exact (put.allows_iff setting').mp (later setting' listed)

end Plain

section Standard

variable {m : Mixer σ} (standard : m.factory = some .standard)

include standard

omit [Provider σ] in
/-- The standard factory covers the usual layouts. -/
theorem maskRefusal?_of_usual {count : Nat} {mask : ChannelMask}
    (usual : ChannelMask.ofChannelCount? count = some mask) (mode : DownmixMode) :
    m.maskRefusal? mask mode = none := by
  have few : count ≤ maxDownmixChannels :=
    ((ChannelMask.isSome_ofChannelCount? count).mp (Option.isSome_of_eq_some usual)).2
  have layout : ¬ ((!mask.isValid || decide (maxDownmixChannels < mask.channelCount)) = true) := by
    simp [ChannelMask.isValid_of_usual usual, ChannelMask.channelCount_of_usual usual, few]
  unfold maskRefusal? supportsDownmix
  rw [if_neg layout, standard, ChannelMask.channelCount_of_usual usual]
  by_cases many : maxMixChannels < count
  · simp [DownmixFactory.standard, ChannelMask.standardDownmix_of_usual usual many]
  · simp [many]

/-- A provider that fits a usual layout is attached. -/
theorem done_attach {slot : Slot} {t : Track σ} (found : m.track? slot = some t) {count : Nat}
    (usual : ChannelMask.ofChannelCount? count = some t.mask) {source : σ}
    (channels : Provider.channels source = count) (format : Provider.format source = t.format) :
    ∃ m' chain, Answer.done (m.attach slot (some source)) = .ok m' ∧
      chain.BuiltFor (t.layout m.settings.frameCount) t.downmix ∧ chain.source = source ∧
      m.Writes m' slot (some { t with chain := some chain }) false := by
  have fits : misfit? (t.layout m.settings.frameCount) source = none :=
    misfit?_eq_none (channels.trans (ChannelMask.channelCount_of_usual usual).symm) format
  obtain ⟨⟨attempts, counted⟩, built⟩ :=
    m.buildChain_spec source (t.layout m.settings.frameCount) t.downmix
  simp only [attach, withTrack, found]
  rcases result : m.buildChain source (t.layout m.settings.frameCount) t.downmix with
    ⟨why | chain, m'⟩
  · have failed := buildChain_error (congrArg Prod.fst result)
    rw [fits] at failed
    rcases failed with failed | ⟨many, -, fails⟩
    · cases failed
    · rw [show (t.layout m.settings.frameCount).mask = t.mask from rfl] at many fails
      rw [ChannelMask.channelCount_of_usual usual] at many
      have lost : true = false :=
        fails _ standard (ChannelMask.standardDownmix_of_usual usual many t.downmix)
      cases lost
  · rw [result] at counted built
    obtain rfl : m' = { m with attempts } := counted
    obtain ⟨built, same⟩ := built chain rfl
    exact ⟨_, chain, rfl, built, same, rfl, rfl, rfl, rfl, rfl, rfl, rfl⟩

end Standard

/-- A downmix that the mixer accepts is written to a track without a provider. -/
theorem done_set_downmix {m : Mixer σ} {slot : Slot} {t : Track σ}
    (found : m.track? slot = some t) (bare : t.chain = none) {mode : DownmixMode}
    (accepted : m.maskRefusal? t.mask mode = none) :
    ∃ m', Answer.done (m.set slot (.downmix mode)) = .ok m' ∧
      m.Puts m' slot { t with downmix := mode } := by
  simp only [set, withTrack, found, write]
  by_cases same : t.downmix = mode
  · subst same
    simp only [if_true]
    exact ⟨m, rfl, true, found ▸ writes_same m slot⟩
  · simp only [if_neg same, accepted]
    have unfed : ({ t with downmix := mode } : Track σ).source? = none := by
      simp [Track.source?, bare]
    by_cases many : maxMixChannels < t.mask.channelCount
    · simp only [many, if_true, rebuild, unfed]
      exact ⟨_, rfl, false, (writes_setTrack m slot _).invalidated⟩
    · simp only [many, if_false]
      exact ⟨_, rfl, false, (writes_setTrack m slot _).invalidated⟩

/-- What a track of a scene needs to be added with what it plays. -/
structure Admits (m : Mixer σ) (spec : TrackSpec) (channels : Nat) (rate : UInt32) : Prop where
  channels : channels ≤ 8
  free : ∃ slot, m.Free slot
  rate : rate.toNat ≤ min (2 * m.settings.sampleRate.toNat) (2 ^ 32 - 1)
  bus : spec.bus < m.mainBuses.length
  auxBus : ∀ bus, spec.auxBus = some bus → bus < m.auxBuses.length
  gain : spec.gain.isFinite = true
  auxLevel : spec.auxLevel.isFinite = true

end Mixer

namespace TrackSpec

/-- The track that a track of a scene becomes, with its chain. -/
def track (spec : TrackSpec) (settings : Settings) (index : Nat) (mask : ChannelMask)
    (rate : UInt32) (chain : Chain Clip) : Track Clip :=
  { session := .ofNat index, mask
    format := spec.format
    downmix := spec.downmix
    mixInput := settings.mixInput
    busFormat := spec.busFormat.getD settings.outputFormat
    sampleRate := rate
    mainBus := spec.bus
    auxBus := spec.auxBus
    enabled := false
    volume :=
      { left := .settled (Single.clamp 0 1 spec.gain)
        right := .settled (Single.clamp 0 1 spec.gain)
        aux := .settled (Single.clamp 0 1 spec.auxLevel) }
    resampler :=
      if rate = settings.sampleRate then none
      else some (.new settings.interpolation (min mask.channelCount maxMixChannels) rate
        settings.sampleRate settings.frameCount)
    chain := some chain }

/-- The track as it is when its chain has been attached, with the last settings still to be
written. -/
def draft (spec : TrackSpec) (settings : Settings) (index : Nat) (mask : ChannelMask)
    (chain : Option (Chain Clip)) : Track Clip :=
  { (Track.new settings mask spec.format (.ofNat index) : Track Clip) with
    downmix := spec.downmix, chain }

/-- The last settings of a track turn its draft into what its scene says. -/
theorem given_trackSettings (spec : TrackSpec) (settings : Settings) (index : Nat)
    (mask : ChannelMask) (rate : UInt32) (chain : Chain Clip) :
    (Mixer.trackSettings settings spec rate).foldl (Track.given settings)
        (spec.draft settings index mask (some chain)) =
      spec.track settings index mask rate chain := by
  unfold Mixer.trackSettings track
  by_cases same : rate = settings.sampleRate
  · subst same
    simp only [if_true]
    cases spec.busFormat <;> rfl
  · have retuned : (spec.draft settings index mask (some chain)).given settings
        (.sampleRate rate) = Mixer.withRate settings (spec.draft settings index mask (some chain))
          rate := if_neg fun h => same h.symm
    simp only [if_neg same, List.cons_append, List.nil_append, List.foldl_cons, retuned]
    cases spec.busFormat <;> rfl

end TrackSpec

namespace Mixer

/-- The last settings of a track: its rate, where it is another than that of the mix, its buses, its
bus format and its gains. -/
theorem mem_trackSettings {settings : Settings} {spec : TrackSpec} {rate : UInt32}
    {setting : TrackSetting} : setting ∈ trackSettings settings spec rate ↔
      rate ≠ settings.sampleRate ∧ setting = .sampleRate rate ∨ setting = .mainBus spec.bus ∨
      setting = .auxBus spec.auxBus ∨ (∃ format ∈ spec.busFormat, setting = .busFormat format) ∨
      setting = .gain .left spec.gain false ∨ setting = .gain .right spec.gain false ∨
      setting = .gain .aux spec.auxLevel false := by
  unfold trackSettings TrackEvent.gainSettings
  by_cases same : rate = settings.sampleRate <;> cases spec.busFormat <;> simp [same]

theorem plain_trackSettings (settings : Settings) (spec : TrackSpec) (rate : UInt32) :
    ∀ setting ∈ trackSettings settings spec rate, setting.Plain := by
  intro setting listed
  rcases mem_trackSettings.mp listed with
    ⟨-, rfl⟩ | rfl | rfl | ⟨format, -, rfl⟩ | rfl | rfl | rfl <;> trivial

/-- The mix rate is allowed in any case. -/
theorem rate_le_iff {settings : Settings} {rate : UInt32} :
    rate.toNat ≤ min (2 * settings.sampleRate.toNat) (UInt32.size - 1) ↔
      (rate ≠ settings.sampleRate → rate ≤ settings.maxTrackRate) := by
  have bound : rate ≤ settings.maxTrackRate ↔
      rate.toNat ≤ min (2 * settings.sampleRate.toNat) (UInt32.size - 1) := by
    rw [UInt32.le_iff_toNat_le, Settings.toNat_maxTrackRate, Nat.mul_comm]
    rfl
  rw [← bound]
  refine ⟨fun le _ => le, fun le => ?_⟩
  by_cases same : rate = settings.sampleRate
  · exact same ▸ settings.sampleRate_le_max
  · exact le same

/-- What the last settings of a track need. -/
theorem allows_trackSettings {m : Mixer σ} {spec : TrackSpec} {rate : UInt32}
    (some_rate : rate ≠ 0) : (∀ setting ∈ trackSettings m.settings spec rate, m.Allows setting) ↔
      rate.toNat ≤ min (2 * m.settings.sampleRate.toNat) (UInt32.size - 1) ∧
      spec.bus < m.mainBuses.length ∧
      (∀ bus, spec.auxBus = some bus → bus < m.auxBuses.length) ∧
      spec.gain.isFinite = true ∧ spec.auxLevel.isFinite = true := by
  rw [rate_le_iff]
  constructor
  · intro allowed
    have allows {setting : TrackSetting} (listed) := allowed setting (mem_trackSettings.mpr listed)
    exact ⟨fun other => (allows (.inl ⟨other, rfl⟩)).2, allows (.inr (.inl rfl)),
      allows (.inr (.inr (.inl rfl))), allows (.inr (.inr (.inr (.inr (.inl rfl))))),
      allows (.inr (.inr (.inr (.inr (.inr (.inr rfl))))))⟩
  · rintro ⟨inside, bus, auxBus, gain, auxLevel⟩ setting listed
    rcases mem_trackSettings.mp listed with
      ⟨other, rfl⟩ | rfl | rfl | ⟨format, -, rfl⟩ | rfl | rfl | rfl
    · exact ⟨some_rate, inside other⟩
    · exact bus
    · exact auxBus
    · trivial
    · exact gain
    · exact gain
    · exact auxLevel

/-- What adding a track leaves in a mixer: the lowest free slot holds the track of the scene, at
rest, with its recording at the first frame, and all else is as it was, except that a new plan has
to be made. -/
structure Seats (m m' : Mixer Clip) (slot : Slot) (index : Nat) (spec : TrackSpec)
    (recording : Recording) : Prop where
  lowest : m.LowestFree slot
  track : ∃ mask chain, ChannelMask.ofChannelCount? recording.channels = some mask ∧
    chain.BuiltFor ⟨mask, spec.format, m.settings.mixInput, m.settings.frameCount⟩ spec.downmix ∧
    chain.source = recording.toClip spec.format spec.looping ∧
    m.Writes m' slot (some (spec.track m.settings index mask recording.sampleRate chain)) false

section Added

variable {m : Mixer Clip} (standard : m.factory = some .standard) (index : Nat) (spec : TrackSpec)
  {recording : Recording}

include standard

/-- The calls up to the attaching of the recording succeed where the recording has a usual layout
and a slot is free. -/
theorem attach_recording (some_channels : recording.channels ≠ 0) {mask : ChannelMask}
    {slot : Slot} (usual : ChannelMask.ofChannelCount? recording.channels = some mask)
    (lowest : m.LowestFree slot) :
    ∃ m₁ m₂ m₃ chain, m.allocate mask spec.format (.ofNat index) = (.ok slot, m₁) ∧
      Answer.done (m₁.set slot (.downmix spec.downmix)) = .ok m₂ ∧
      Answer.done (m₂.attach slot (some (recording.toClip spec.format spec.looping))) = .ok m₃ ∧
      chain.BuiltFor ⟨mask, spec.format, m.settings.mixInput, m.settings.frameCount⟩
        spec.downmix ∧
      chain.source = recording.toClip spec.format spec.looping ∧
      m.Writes m₃ slot (some (spec.draft m.settings index mask (some chain))) false := by
  have accepted (mode : DownmixMode) := maskRefusal?_of_usual standard usual mode
  have allocated : m.allocate mask spec.format (.ofNat index) = (.ok slot,
      m.setTrack slot (some (.new m.settings mask spec.format (.ofNat index)))) :=
    (allocate_eq_ok (accepted .standard)).mpr ⟨lowest, rfl⟩
  have first := writes_setTrack m slot
    (some (.new m.settings mask spec.format (.ofNat index) : Track Clip))
  generalize m.setTrack slot (some (.new m.settings mask spec.format (.ofNat index))) = m₁
    at allocated first
  have accepted₁ : m₁.maskRefusal? mask spec.downmix = none :=
    maskRefusal?_of_usual (first.factory.trans standard) usual _
  obtain ⟨m₂, downmixed, _, second⟩ := done_set_downmix first.track?_self rfl accepted₁
  have channels : Provider.channels (recording.toClip spec.format spec.looping) =
      recording.channels := Nat.max_eq_left (Nat.pos_of_ne_zero some_channels)
  obtain ⟨m₃, chain, attached, built, same, third⟩ :=
    done_attach (second.factory.trans (first.factory.trans standard)) second.track?_self usual
      channels (recording.format_toClip spec.format spec.looping)
  rw [second.settings, first.settings] at built
  have drafted := (first.trans second).trans third
  rw [Bool.and_false] at drafted
  exact ⟨m₁, m₂, m₃, chain, allocated, downmixed, attached, built, same, drafted⟩

/-- A track of a scene is added where the mixer admits it. -/
theorem exists_addTrack (some_channels : recording.channels ≠ 0)
    (some_rate : recording.sampleRate ≠ 0)
    (admitted : m.Admits spec recording.channels recording.sampleRate) :
    ∃ slot m', m.addTrack index spec recording = .ok (slot, m') := by
  obtain ⟨few, ⟨slot, free⟩, rate, bus, auxBus, gain, auxLevel⟩ := admitted
  obtain ⟨mask, usual⟩ := Option.isSome_iff_exists.mp
    ((ChannelMask.isSome_ofChannelCount? _).mpr ⟨some_channels, few⟩)
  obtain ⟨lowest, lowest_free⟩ := exists_lowestFree free
  obtain ⟨m₁, m₂, m₃, chain, allocated, downmixed, attached, -, -, drafted⟩ :=
    attach_recording standard index spec some_channels usual lowest_free
  have allowed : ∀ setting ∈ trackSettings m₃.settings spec recording.sampleRate,
      m₃.Allows setting := by
    rw [allows_trackSettings some_rate, drafted.settings, drafted.mainBuses, drafted.auxBuses]
    exact ⟨rate, bus, auxBus, gain, auxLevel⟩
  obtain ⟨m', written, -⟩ := setAll_of_allows drafted.track?_self allowed
  exact ⟨lowest, m', addTrack_eq_ok.mpr
    ⟨mask, m₁, m₂, m₃, usual, allocated, downmixed, attached, written⟩⟩

/-- A track of a scene that is added is admitted, and seated as its scene says. -/
theorem admits_of_addTrack (some_channels : recording.channels ≠ 0)
    (some_rate : recording.sampleRate ≠ 0) {slot : Slot} {m' : Mixer Clip}
    (added : m.addTrack index spec recording = .ok (slot, m')) :
    m.Admits spec recording.channels recording.sampleRate ∧
      m.Seats m' slot index spec recording := by
  obtain ⟨mask, m₁, m₂, m₃, usual, allocated, downmixed, attached, written⟩ :=
    addTrack_eq_ok.mp added
  have few := ((ChannelMask.isSome_ofChannelCount? _).mp (Option.isSome_of_eq_some usual)).2
  obtain ⟨lowest, -⟩ :=
    (allocate_eq_ok (maskRefusal?_of_usual standard usual _)).mp allocated
  obtain ⟨n₁, n₂, n₃, chain, allocated', downmixed', attached', built, source, drafted⟩ :=
    attach_recording standard index spec some_channels usual lowest
  obtain rfl : m₁ = n₁ := (Prod.mk.inj (allocated.symm.trans allocated')).2
  obtain rfl : m₂ = n₂ := Except.ok.inj (downmixed.symm.trans downmixed')
  obtain rfl : m₃ = n₃ := Except.ok.inj (attached.symm.trans attached')
  have allowed := allows_of_setAll drafted.track?_self (plain_trackSettings _ _ _) written
  obtain ⟨n', written', put⟩ := setAll_of_allows drafted.track?_self allowed
  obtain rfl : m' = n' := Except.ok.inj (written.symm.trans written')
  rw [drafted.settings] at put
  rw [TrackSpec.given_trackSettings] at put
  obtain ⟨rate, bus, auxBus, gain, auxLevel⟩ := (allows_trackSettings some_rate).mp allowed
  rw [drafted.settings] at rate
  rw [drafted.mainBuses] at bus
  rw [drafted.auxBuses] at auxBus
  obtain ⟨_, writes⟩ := put
  exact ⟨⟨few, ⟨slot, lowest.1⟩, rate, bus, auxBus, gain, auxLevel⟩, lowest, mask, chain, usual,
    built, source, drafted.trans writes⟩

end Added

end Mixer

section Tone

variable {S : Type} (host : Host (StateM S)) (scenePath : String) {index : Nat} {m : Mixer Clip}
  {spec : TrackSpec} {tone : ToneSpec} (s : S)

variable {host scenePath s} in
/-- A tone is computed, not read. -/
theorem succeeds_loadSource_tone {recording : Recording} {s' : S} :
    Succeeds (loadSource host scenePath (.tone tone)) s recording s' ↔
      tone.recording? = some recording ∧ s = s' := by
  simp only [loadSource]
  cases tone.recording? with
  | none => exact iff_of_false not_succeeds_throw nofun
  | some found =>
    constructor
    · intro loaded
      obtain ⟨same, stays⟩ := succeeds_pure loaded
      exact ⟨congrArg some same, stays⟩
    · rintro ⟨same, rfl⟩
      obtain rfl := Option.some.inj same
      rfl

/-- A track of a scene that plays a tone is added exactly where the tone has no more than eight
channels, a slot is free, its rate is at most twice that of the mix and fits a rate, its buses are
there and its gains are finite, and its samples fit into a block of memory. It takes the lowest free
slot, disabled, with the tone at its first frame and with all that its scene says of it. Where the
samples do not fit, the program ends. -/
theorem loadTrack_tone (standard : m.factory = some .standard) (plays : spec.source = .tone tone)
    (sound : spec.fault? index = none) :
    ((∃ timeline m' s', Succeeds (loadTrack host scenePath index m spec) s (timeline, m') s') ↔
      tone.frameCount * tone.channels * 4 < 2 ^ 63 ∧
        m.Admits spec tone.channels tone.sampleRate) ∧
    (∀ timeline m' s', Succeeds (loadTrack host scenePath index m spec) s (timeline, m') s' →
      ∃ slot recording, timeline = .ofSpec slot spec m.settings.sampleRate ∧ s = s' ∧
        tone.Heard recording ∧ m.Seats m' slot index spec recording) ∧
    (2 ^ 63 ≤ tone.frameCount * tone.channels * 4 →
      (loadTrack host scenePath index m spec).run.run s = (.error .endless, s)) := by
  obtain ⟨some_channels, some_rate, some_length⟩ := TrackSpec.tone_of_sound plays sound
  have parts {timeline : Timeline} {m' : Mixer Clip} {s' : S}
      (loaded : Succeeds (loadTrack host scenePath index m spec) s (timeline, m') s') :
      ∃ recording slot, tone.recording? = some recording ∧ s = s' ∧
        m.addTrack index spec recording = .ok (slot, m') ∧
        timeline = .ofSpec slot spec m'.settings.sampleRate := by
    obtain ⟨recording, slot, source, added, timed⟩ := succeeds_loadTrack.mp loaded
    rw [plays, succeeds_loadSource_tone] at source
    exact ⟨recording, slot, source.1, source.2, added, timed⟩
  refine ⟨⟨?_, ?_⟩, ?_, ?_⟩
  · rintro ⟨timeline, m', s', loaded⟩
    obtain ⟨recording, slot, recorded, -, added, -⟩ := parts loaded
    obtain ⟨fits, rfl⟩ := ToneSpec.recording?_eq_some.mp recorded
    exact ⟨fits, (Mixer.admits_of_addTrack standard index spec some_channels some_rate added).1⟩
  · rintro ⟨fits, admitted⟩
    let recording : Recording := ⟨tone.channels, tone.sampleRate, tone.samples⟩
    have recorded : tone.recording? = some recording :=
      ToneSpec.recording?_eq_some.mpr ⟨fits, rfl⟩
    obtain ⟨slot, m', added⟩ : ∃ slot m', m.addTrack index spec recording = .ok (slot, m') :=
      Mixer.exists_addTrack standard index spec some_channels some_rate admitted
    refine ⟨_, m', s, succeeds_loadTrack.mpr ⟨recording, slot, ?_, added, rfl⟩⟩
    rw [plays]
    exact succeeds_loadSource_tone.mpr ⟨recorded, rfl⟩
  · intro timeline m' s' loaded
    obtain ⟨recording, slot, recorded, stays, added, timed⟩ := parts loaded
    obtain ⟨fits, rfl⟩ := ToneSpec.recording?_eq_some.mp recorded
    obtain ⟨-, seats⟩ := Mixer.admits_of_addTrack standard index spec some_channels some_rate added
    obtain ⟨_, _, _, _, _, writes⟩ := seats.track
    rw [writes.settings] at timed
    exact ⟨slot, _, timed, stays, ToneSpec.heard_recording some_length, seats⟩
  · intro overlong
    have none_recorded : tone.recording? = none := by
      cases recorded : tone.recording? with
      | none => rfl
      | some recording =>
        exact absurd (ToneSpec.recording?_eq_some.mp recorded).1 (Nat.not_lt.mpr overlong)
    have source : loadSource host scenePath spec.source = throw .endless := by
      rw [plays]
      simp only [loadSource, none_recorded]
    rw [loadTrack, source]
    rfl

/-- Six channels at the rate of a disc, sent to a mixer whose first slot was used and freed again:
the track is added there. On a bus that is missing it is refused. -/
theorem loadTrack_tone_surround :
    let tone : ToneSpec := { frequency := 440, channels := 6, sampleRate := 44100 }
    let spec : TrackSpec :=
      { source := .tone tone, format := .pcm24Packed, gain := 2, auxLevel := 0.5, auxBus := some 0
        busFormat := some .float, downmix := .strip }
    let elsewhere : TrackSpec := { spec with bus := 1 }
    let used : List (Action Clip) :=
      [.allocate .mono .float 7, .allocate .stereo .float 8, .free ⟨0, by decide⟩]
    ∃ start, Mixer.new {} (some .standard) = .ok start ∧
      (start.run used).factory = some .standard ∧ spec.fault? 3 = none ∧
      (∃ timeline m' s', Succeeds (loadTrack Memory.host "scene.json" 3 (start.run used) spec) {}
          (timeline, m') s' ∧
        ∃ slot recording, tone.Heard recording ∧
          (start.run used).Seats m' slot 3 spec recording) ∧
      ¬ ∃ timeline m' s', Succeeds
        (loadTrack Memory.host "scene.json" 3 (start.run used) elsewhere) {} (timeline, m') s' := by
  intro tone spec elsewhere used
  obtain ⟨start, built, standard, sound, free, mainBuses, auxBuses, settings⟩ :
      ∃ start, Mixer.new {} (some .standard) = .ok start ∧
        (start.run used).factory = some .standard ∧ spec.fault? 3 = none ∧
        ((start.run used).track? ⟨0, by decide⟩).isNone = true ∧
        (start.run used).mainBuses.length = 1 ∧ (start.run used).auxBuses.length = 1 ∧
        (start.run used).settings = {} :=
    ⟨_, rfl, rfl, by decide +kernel, by decide +kernel, rfl, rfl, rfl⟩
  have free : (start.run used).Free ⟨0, by decide⟩ :=
    ⟨by rw [settings]; decide, Option.isNone_iff_eq_none.mp free⟩
  have admitted : (start.run used).Admits spec tone.channels tone.sampleRate :=
    { channels := by decide
      free := ⟨_, free⟩
      rate := by rw [settings]; decide
      bus := by rw [mainBuses]; decide
      auxBus := by
        intro bus routed
        cases routed
        rw [auxBuses]
        decide
      gain := by decide +kernel
      auxLevel := by decide +kernel }
  have fits : tone.frameCount * tone.channels * 4 < 2 ^ 63 := by decide +kernel
  obtain ⟨admits, loads, -⟩ := loadTrack_tone Memory.host "scene.json" {} standard
    (rfl : spec.source = .tone tone) sound
  obtain ⟨timeline, m', s', loaded⟩ := admits.mpr ⟨fits, admitted⟩
  obtain ⟨slot, recording, -, -, heard, seats⟩ := loads timeline m' s' loaded
  have refused := (loadTrack_tone Memory.host "scene.json" {} standard
    (rfl : elsewhere.source = .tone tone) sound).1
  refine ⟨start, built, standard, sound,
    ⟨timeline, m', s', loaded, slot, recording, heard, seats⟩, fun accepted => ?_⟩
  have missing := (refused.mp accepted).2.bus
  rw [mainBuses] at missing
  exact absurd missing (by decide)

/-- A tone of `10 ^ 30` seconds is sound to its scene, and the mixer would take it: it has one
channel at the rate of the mix, a slot is free and its buses are there. The program ends all the
same, since no block of memory holds its samples. -/
theorem loadTrack_endless :
    let tone : ToneSpec := { frequency := 440, seconds := 1e30 }
    let spec : TrackSpec := { source := .tone tone }
    ∃ start : Mixer Clip, Mixer.new {} (some .standard) = .ok start ∧ spec.fault? 0 = none ∧
      start.Admits spec tone.channels tone.sampleRate ∧
      (loadTrack Memory.host "scene.json" 0 start spec).run.run {} = (.error .endless, {}) := by
  intro tone spec
  obtain ⟨start, built, free, mainBuses, settings⟩ :
      ∃ start : Mixer Clip, Mixer.new {} (some .standard) = .ok start ∧
        (start.track? ⟨0, by decide⟩).isNone = true ∧ start.mainBuses.length = 1 ∧
        start.settings = {} :=
    ⟨_, rfl, by decide +kernel, rfl, rfl⟩
  have overlong : tone.recording? = none := if_neg (by decide +kernel)
  refine ⟨start, built, by decide +kernel, ?_, ?_⟩
  · exact
      { channels := by decide
        free := ⟨⟨0, by decide⟩, by rw [settings]; decide, Option.isNone_iff_eq_none.mp free⟩
        rate := by rw [settings]; decide
        bus := by rw [mainBuses]; decide
        auxBus := nofun
        gain := by decide +kernel
        auxLevel := by decide +kernel }
  · have source : loadSource Memory.host "scene.json" spec.source = throw .endless := by
      show loadSource Memory.host "scene.json" (.tone tone) = _
      simp only [loadSource, overlong]
    rw [loadTrack, source]
    rfl

end Tone

end Mixdown
