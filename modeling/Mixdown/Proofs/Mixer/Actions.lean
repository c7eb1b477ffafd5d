import Mixdown.Mixer.Configure
import Mixdown.Proofs.Gain.Settled
import Mixdown.Proofs.Mixer.Slots

/-!
# What callers do to a mixer

The calls that a mixer can get, and the mixers that can be reached by them. `act_edit` says once
what a call other than `render` can do: it writes one slot, and the rest of the mixer stays, but
for the plan, which may be dropped.
-/

namespace Mixdown

/-- Something that is done to a mixer. -/
inductive Action (σ : Type) where
  | allocate (mask : ChannelMask) (format : SampleFormat) (session : Int32)
  | free (slot : Slot)
  | setEnabled (slot : Slot) (enabled : Bool)
  | set (slot : Slot) (setting : TrackSetting)
  | attach (slot : Slot) (source : Option σ)
  /-- The provider of a slot changes from outside, as a queue does when it is filled. -/
  | outside (slot : Slot) (change : σ → σ)
  | render (pts : Option Int)

namespace Action

variable {σ : Type}

def isRender : Action σ → Bool
  | .render _ => true
  | _ => false

/-- The blocks among actions. -/
def blocks (actions : List (Action σ)) : Nat := actions.countP isRender

theorem blocks_snoc (actions : List (Action σ)) (action : Action σ) :
    blocks (actions ++ [action]) = blocks actions + if action.isRender then 1 else 0 := by
  unfold blocks
  rw [List.countP_append, List.countP_singleton]

end Action

namespace Chain

variable {σ : Type} [Provider σ]

/-- The chain that is built around its provider for a layout. -/
def BuiltFor (layout : ChainLayout) (mode : DownmixMode) (chain : Chain σ) : Prop :=
  Mixer.misfit? layout chain.source = none ∧
    chain = if layout.needsDownmix then
        throughMatrix chain.source layout (.ofMask layout.mask mode)
      else plain chain.source layout

end Chain

namespace Mixer

variable {σ : Type}

/-- `m'` is `m` with one slot written. The plan is kept or dropped, and the attempts to build a
downmix may have gone on. -/
structure Writes (m m' : Mixer σ) (slot : Slot) (t : Option (Track σ)) (keeps : Bool) :
    Prop where
  settings : m'.settings = m.settings
  factory : m'.factory = m.factory
  mainBuses : m'.mainBuses = m.mainBuses
  auxBuses : m'.auxBuses = m.auxBuses
  underruns : m'.underruns = m.underruns
  plan : m'.plan = if keeps then m.plan else none
  tracks : m'.tracks = m.tracks.set slot t

theorem writes_same (m : Mixer σ) (slot : Slot) : Writes m m slot (m.track? slot) true :=
  ⟨rfl, rfl, rfl, rfl, rfl, rfl, (congrArg Mixer.tracks (setTrack_self m rfl)).symm⟩

theorem writes_setTrack (m : Mixer σ) (slot : Slot) (t : Option (Track σ)) :
    Writes m (m.setTrack slot t) slot t true :=
  ⟨rfl, rfl, rfl, rfl, rfl, rfl, rfl⟩

theorem Writes.invalidated {m m' : Mixer σ} {slot : Slot} {t : Option (Track σ)} {keeps : Bool}
    (writes : Writes m m' slot t keeps) : Writes m m'.invalidated slot t false :=
  ⟨writes.settings, writes.factory, writes.mainBuses, writes.auxBuses, writes.underruns, rfl,
    writes.tracks⟩

theorem Writes.track?_self {m m' : Mixer σ} {slot : Slot} {t : Option (Track σ)} {keeps : Bool}
    (writes : Writes m m' slot t keeps) : m'.track? slot = t := by
  unfold track?
  rw [writes.tracks]
  exact track?_setTrack_self m slot t

theorem Writes.track?_ne {m m' : Mixer σ} {slot other : Slot} {t : Option (Track σ)}
    {keeps : Bool} (writes : Writes m m' slot t keeps) (h : other ≠ slot) :
    m'.track? other = m.track? other := by
  unfold track?
  rw [writes.tracks]
  exact track?_setTrack_ne m t h

/-- Trying to build a downmix only counts the attempt. -/
theorem buildDownmix_spec (m : Mixer σ) (mask : ChannelMask) (mode : DownmixMode) :
    (∃ attempts, (m.buildDownmix mask mode).2 = { m with attempts }) ∧
    ∀ matrix, (m.buildDownmix mask mode).1 = some matrix → matrix = .ofMask mask mode := by
  obtain ⟨settings, factory, attempts, tracks, plan, mainBuses, auxBuses, underruns⟩ := m
  cases factory with
  | none => exact ⟨⟨attempts, rfl⟩, fun _ built => nomatch built⟩
  | some f =>
    refine ⟨⟨attempts + 1, rfl⟩, fun matrix built => ?_⟩
    simp only [buildDownmix] at built
    split at built
    · exact (Option.some.inj built).symm
    · nomatch built

variable [Provider σ]

/-- The mixer after something was done to it. -/
def act (m : Mixer σ) : Action σ → Mixer σ
  | .allocate mask format session => (m.allocate mask format session).2
  | .free slot => (m.free slot).2
  | .setEnabled slot enabled => (m.setEnabled slot enabled).2
  | .set slot setting => (m.set slot setting).2
  | .attach slot source => (m.attach slot source).2
  | .outside slot change => m.mapSource slot change
  | .render pts => m.render pts

/-- The mixer after one thing after another was done to it. -/
def run (m : Mixer σ) (actions : List (Action σ)) : Mixer σ := actions.foldl act m

theorem run_snoc (m : Mixer σ) (actions : List (Action σ)) (action : Action σ) :
    m.run (actions ++ [action]) = (m.run actions).act action := by
  simp [run]

/-- A mixer that is built from settings and used in any way. -/
inductive Reachable : Mixer σ → Prop
  | new {settings : Settings} {factory : Option DownmixFactory} {m : Mixer σ} :
      Mixer.new settings factory = .ok m → Reachable m
  | act {m : Mixer σ} (action : Action σ) : Reachable m → Reachable (m.act action)

theorem Reachable.run {m : Mixer σ} (reachable : Reachable m) (actions : List (Action σ)) :
    Reachable (m.run actions) := by
  induction actions generalizing m with
  | nil => exact reachable
  | cons action rest ih => exact ih (.act action reachable)

/-- The track of a slot, of which `chain` is the new chain, is left without a provider, or with
a chain that was built for it. -/
def Rebuilt (m : Mixer σ) (t : Track σ) (chain : Option (Chain σ)) : Prop :=
  ∀ c, chain = some c → c.BuiltFor (t.layout m.settings.frameCount) t.downmix

/-- What writing a setting makes of a track, and whether the plan is kept. -/
inductive Written (m : Mixer σ) (t : Track σ) : TrackSetting → Track σ → (keeps : Bool) → Prop
  | same (setting : TrackSetting) (keeps : Bool) : setting ≠ .mixRate →
      Written m t setting t keeps
  | mask (mask : ChannelMask) (chain : Option (Chain σ)) :
      m.maskRefusal? mask t.downmix = none →
      m.Rebuilt (withMask m.settings t mask) chain →
      Written m t (.mask mask) { withMask m.settings t mask with chain } false
  | format (format : SampleFormat) (chain : Option (Chain σ)) :
      m.Rebuilt { t with format } chain →
      Written m t (.format format) { t with format, chain } false
  | mainBus (bus : Nat) : bus < m.mainBuses.length →
      Written m t (.mainBus bus) { t with mainBus := bus } false
  | auxBus (bus : Option Nat) : (∀ b, bus = some b → b < m.auxBuses.length) →
      Written m t (.auxBus bus) { t with auxBus := bus } false
  | downmix (mode : DownmixMode) (chain : Option (Chain σ)) :
      m.maskRefusal? t.mask mode = none →
      (maxMixChannels < t.mask.channelCount → m.Rebuilt { t with downmix := mode } chain) →
      (t.mask.channelCount ≤ maxMixChannels → chain = t.chain) →
      Written m t (.downmix mode) { t with downmix := mode, chain } false
  | busFormat (format : MixFormat) :
      Written m t (.busFormat format) { t with busFormat := format } false
  | sampleRate (rate : UInt32) : rate ≠ 0 → rate ≤ m.settings.maxTrackRate →
      t.sampleRate ≠ rate → Written m t (.sampleRate rate) (withRate m.settings t rate) false
  | restart : Written m t .restart { t with resampler := t.resampler.map Resampler.reset } true
  | mixRate : Written m t .mixRate
      { t with sampleRate := m.settings.sampleRate, resampler := none } t.resampler.isNone
  | gain (name : GainName) (value : Float32) (ramped : Bool) (gain : Float32) (frames : Nat)
      (keeps : Bool) : clampTrackGain? value = some gain →
      (keeps = true →
        { t with volume := t.volume.modify name (Ramp.steer gain frames) }.demands = t.demands) →
      Written m t (.gain name value ramped)
        { t with volume := t.volume.modify name (Ramp.steer gain frames) } keeps

/-- What a call other than `render` makes of a slot, and whether the plan is kept. -/
inductive Edit (m : Mixer σ) (slot : Slot) :
    Action σ → Option (Track σ) → Option (Track σ) → (keeps : Bool) → Prop
  | same (action : Action σ) (t : Option (Track σ)) (keeps : Bool) :
      (∀ s, action = .set s .mixRate → m.track? s = none) → Edit m slot action t t keeps
  | allocated (mask : ChannelMask) (format : SampleFormat) (session : Int32) :
      m.maskRefusal? mask .standard = none → slot.val < m.settings.maxTracks →
      Edit m slot (.allocate mask format session) none
        (some (.new m.settings mask format session)) true
  | freed (t : Track σ) : Edit m slot (.free slot) (some t) none false
  | switched (t : Track σ) (enabled : Bool) :
      Edit m slot (.setEnabled slot enabled) (some t) (some { t with enabled }) false
  | attached (t : Track σ) (source : Option σ) (chain : Option (Chain σ)) :
      m.Rebuilt t chain → Edit m slot (.attach slot source) (some t) (some { t with chain }) false
  | outside (t : Track σ) (change : σ → σ) :
      Edit m slot (.outside slot change) (some t)
        (some { t with chain := t.chain.map (Chain.mapSource change) }) true
  | written (t t' : Track σ) (setting : TrackSetting) (keeps : Bool) :
      Written m t setting t' keeps → Edit m slot (.set slot setting) (some t) (some t') keeps

/-- Building a chain only counts attempts, and a chain that is built is built for its layout. -/
theorem buildChain_spec (m : Mixer σ) (source : σ) (layout : ChainLayout) (mode : DownmixMode) :
    (∃ attempts, (m.buildChain source layout mode).2 = { m with attempts }) ∧
    ∀ chain, (m.buildChain source layout mode).1 = .ok chain →
      chain.BuiltFor layout mode ∧ chain.source = source := by
  unfold buildChain
  cases fits : misfit? layout source with
  | some why => exact ⟨⟨_, rfl⟩, fun _ built => nomatch built⟩
  | none =>
    by_cases many : layout.needsDownmix = true
    · simp only [many, if_true]
      obtain ⟨⟨attempts, counted⟩, found⟩ := m.buildDownmix_spec layout.mask mode
      rcases result : m.buildDownmix layout.mask mode with ⟨_ | matrix, m'⟩
      · rw [result] at counted
        exact ⟨⟨attempts, counted⟩, fun _ built => nomatch built⟩
      · rw [result] at counted found
        refine ⟨⟨attempts, counted⟩, ?_⟩
        rintro _ ⟨⟩
        rw [found matrix rfl]
        simp [Chain.BuiltFor, fits, many]
    · simp only [many]
      refine ⟨⟨_, rfl⟩, ?_⟩
      rintro _ ⟨⟩
      simp [Chain.BuiltFor, fits, many]

/-- A rebuilt track differs from what it was built from in its chain at most. -/
theorem rebuild_spec (m : Mixer σ) (slot : Slot) (t : Track σ) :
    ∃ chain, Writes m (m.rebuild slot t).2 slot (some { t with chain }) true ∧
      m.Rebuilt t chain := by
  unfold rebuild
  cases fed : t.source? with
  | none =>
    have no_chain : t.chain = none := by simpa [Track.source?] using fed
    have same : { t with chain := none } = t := by rw [← no_chain]
    refine ⟨none, ?_, fun _ h => nomatch h⟩
    rw [same]
    exact writes_setTrack m slot _
  | some source =>
    obtain ⟨⟨attempts, counted⟩, built⟩ :=
      m.buildChain_spec source (t.layout m.settings.frameCount) t.downmix
    simp only
    rcases result : m.buildChain source (t.layout m.settings.frameCount) t.downmix with
      ⟨why | chain, m'⟩
    · rw [result] at counted
      obtain rfl : m' = { m with attempts } := counted
      exact ⟨none, ⟨rfl, rfl, rfl, rfl, rfl, rfl, rfl⟩, fun _ h => nomatch h⟩
    · rw [result] at counted built
      obtain rfl : m' = { m with attempts } := counted
      refine ⟨some chain, ⟨rfl, rfl, rfl, rfl, rfl, rfl, rfl⟩, ?_⟩
      rintro _ ⟨⟩
      exact (built chain rfl).1

/-- The answer of a write and the mixer after it: only the track of the slot is written, in no
other way than listed, and the answer says whether the plan may be kept. -/
def Wrote (m : Mixer σ) (slot : Slot) (t : Track σ) (setting : TrackSetting)
    (answer : Except Refusal Bool × Mixer σ) : Prop :=
  ∃ t' keeps, Written m t setting t' keeps ∧ (answer.1 = .ok false ↔ keeps = true) ∧
    Writes m answer.2 slot (some t') true

section Wrote

variable {m : Mixer σ} {slot : Slot} {t : Track σ} {setting : TrackSetting}

theorem wrote_refused (found : m.track? slot = some t) (other : setting ≠ .mixRate)
    (why : Refusal) : m.Wrote slot t setting (.error why, m) :=
  ⟨t, false, .same setting false other, ⟨nofun, nofun⟩, found ▸ writes_same m slot⟩

theorem wrote_same (found : m.track? slot = some t) (other : setting ≠ .mixRate) :
    m.Wrote slot t setting (.ok false, m) :=
  ⟨t, true, .same setting true other, ⟨fun _ => rfl, fun _ => rfl⟩, found ▸ writes_same m slot⟩

theorem wrote_put {t' : Track σ} {changed : Bool} (written : Written m t setting t' (!changed)) :
    m.Wrote slot t setting (.ok changed, m.setTrack slot (some t')) :=
  ⟨t', !changed, written, by simp, writes_setTrack m slot _⟩

/-- A write that needs the chain to be rebuilt never lets the plan be kept. -/
theorem wrote_rebuilt {t' : Track σ}
    (written : ∀ chain, m.Rebuilt t' chain → Written m t setting { t' with chain } false) :
    m.Wrote slot t setting (match m.rebuild slot t' with
      | (.ok (), m) => (.ok true, m)
      | (.error why, m) => (.error why, m)) := by
  obtain ⟨chain, writes, built⟩ := m.rebuild_spec slot t'
  refine ⟨_, false, written chain built, ?_⟩
  rcases result : m.rebuild slot t' with ⟨_ | _, m'⟩
  · rw [result] at writes
    exact ⟨⟨nofun, nofun⟩, writes⟩
  · rw [result] at writes
    exact ⟨⟨nofun, nofun⟩, writes⟩

end Wrote

/-- Writing a setting changes the track of the slot only, and in no other way than listed. -/
theorem write_written (m : Mixer σ) {slot : Slot} {t : Track σ} (found : m.track? slot = some t)
    (setting : TrackSetting) : m.Wrote slot t setting (m.write slot t setting) := by
  cases setting with
  | mask mask =>
    simp only [write]
    cases refusal : m.maskRefusal? mask t.downmix with
    | some why => exact wrote_refused found (by simp) why
    | none =>
      by_cases same : t.mask = mask
      · rw [if_pos same]
        exact wrote_same found (by simp)
      · rw [if_neg same]
        cases misfitAfter? t mask t.format with
        | some why => exact wrote_refused found (by simp) why
        | none => exact wrote_rebuilt fun chain built => .mask mask chain refusal built
  | format format =>
    simp only [write]
    by_cases same : t.format = format
    · rw [if_pos same]
      exact wrote_same found (by simp)
    · rw [if_neg same]
      cases misfitAfter? t t.mask format with
      | some why => exact wrote_refused found (by simp) why
      | none => exact wrote_rebuilt fun chain built => .format format chain built
  | mainBus bus =>
    simp only [write]
    by_cases known : bus < m.mainBuses.length
    · rw [if_pos known]
      apply wrote_put
      by_cases same : t.mainBus = bus
      · subst same
        exact .same _ _ nofun
      · rw [bne_iff_ne.mpr same]
        exact .mainBus bus known
    · rw [if_neg known]
      exact wrote_refused found (by simp) _
  | auxBus bus =>
    have write_known (known : ∀ b, bus = some b → b < m.auxBuses.length) :
        Written m t (.auxBus bus) { t with auxBus := bus } (!(t.auxBus != bus)) := by
      by_cases same : t.auxBus = bus
      · subst same
        exact .same _ _ nofun
      · rw [bne_iff_ne.mpr same]
        exact .auxBus bus known
    cases bus with
    | none =>
      simp only [write]
      exact wrote_put (write_known nofun)
    | some bus =>
      simp only [write]
      by_cases known : bus < m.auxBuses.length
      · rw [if_pos known]
        exact wrote_put (write_known fun b same => Option.some.inj same ▸ known)
      · rw [if_neg known]
        exact wrote_refused found (by simp) _
  | downmix mode =>
    simp only [write]
    by_cases same : t.downmix = mode
    · rw [if_pos same]
      exact wrote_same found (by simp)
    · rw [if_neg same]
      cases refusal : m.maskRefusal? t.mask mode with
      | some why => exact wrote_refused found (by simp) why
      | none =>
        by_cases many : maxMixChannels < t.mask.channelCount
        · simp only [many, if_true]
          exact wrote_rebuilt fun chain built => .downmix mode chain refusal (fun _ => built)
            (fun few => absurd many (Nat.not_lt_of_le few))
        · simp only [many]
          exact wrote_put (.downmix mode t.chain refusal (fun h => absurd h many) (fun _ => rfl))
  | busFormat format =>
    simp only [write]
    apply wrote_put
    by_cases same : t.busFormat = format
    · subst same
      exact .same _ _ nofun
    · rw [bne_iff_ne.mpr same]
      exact .busFormat format
  | sampleRate rate =>
    simp only [write]
    by_cases outside : rate = 0 ∨ m.settings.maxTrackRate < rate
    · rw [if_pos outside]
      exact wrote_refused found (by simp) _
    · rw [if_neg outside]
      by_cases same : t.sampleRate = rate
      · rw [if_pos same]
        exact wrote_same found (by simp)
      · rw [if_neg same]
        rw [not_or] at outside
        exact wrote_put (.sampleRate rate outside.1 (UInt32.not_lt.mp outside.2) same)
  | restart => exact wrote_put .restart
  | mixRate =>
    apply wrote_put
    rw [Option.not_isSome]
    exact .mixRate
  | gain name value ramped =>
    simp only [write]
    cases clamped : clampTrackGain? value with
    | none => exact wrote_refused found (by simp) _
    | some gain =>
      refine wrote_put (.gain name value ramped gain
        (if ramped then m.settings.rampFrames else 0) _ clamped ?_)
      intro kept
      exact bne_eq_false_iff_eq.mp ((Bool.not_eq_true' _).mp kept)

/-- Writing a setting of a track in use. -/
theorem set_written (m : Mixer σ) {slot : Slot} {t : Track σ} (found : m.track? slot = some t)
    (setting : TrackSetting) :
    ∃ t' keeps, Written m t setting t' keeps ∧
      Writes m (m.set slot setting).2 slot (some t') keeps := by
  obtain ⟨t', keeps, written, kept, writes⟩ := m.write_written found setting
  refine ⟨t', keeps, written, ?_⟩
  unfold set withTrack
  simp only [found]
  rcases result : m.write slot t setting with ⟨why | changed, m'⟩
  · rw [result] at kept writes
    obtain rfl : keeps = false := by simpa using kept
    exact writes.invalidated
  · rw [result] at kept writes
    cases changed with
    | false =>
      obtain rfl : keeps = true := by simpa using kept
      exact writes
    | true =>
      obtain rfl : keeps = false := by simpa using kept
      exact writes.invalidated

/-- A call other than `render` writes one slot, in no other way than listed. -/
theorem act_edit (m : Mixer σ) (action : Action σ) (quiet : ∀ pts, action ≠ .render pts) :
    ∃ slot t keeps, Writes m (m.act action) slot t keeps ∧
      Edit m slot action (m.track? slot) t keeps := by
  have unchanged : ∀ slot, (∀ s, action = .set s .mixRate → m.track? s = none) →
      Writes m m slot (m.track? slot) true ∧
      Edit m slot action (m.track? slot) (m.track? slot) true :=
    fun slot harmless => ⟨writes_same m slot, .same _ _ _ harmless⟩
  cases action with
  | allocate mask format session =>
    simp only [act]
    unfold allocate
    cases refusal : m.maskRefusal? mask .standard with
    | some why => exact ⟨⟨0, by decide⟩, _, true, unchanged _ (by simp)⟩
    | none =>
      simp only
      cases free : Slot.all.find? fun slot =>
        decide (slot.val < m.settings.maxTracks) && (m.track? slot).isNone with
      | none => exact ⟨⟨0, by decide⟩, _, true, unchanged _ (by simp)⟩
      | some slot =>
        have fits := List.find?_some free
        simp only [Bool.and_eq_true, decide_eq_true_eq, Option.isNone_iff_eq_none] at fits
        refine ⟨slot, _, true, writes_setTrack m slot _, ?_⟩
        rw [fits.2]
        exact .allocated mask format session refusal fits.1
  | free slot =>
    simp only [act, free, withTrack]
    cases found : m.track? slot with
    | none => exact ⟨slot, m.track? slot, true, unchanged slot (by simp)⟩
    | some t =>
      exact ⟨slot, none, false, (writes_setTrack m slot none).invalidated, found ▸ .freed t⟩
  | setEnabled slot enabled =>
    simp only [act, setEnabled, withTrack]
    cases found : m.track? slot with
    | none => exact ⟨slot, m.track? slot, true, unchanged slot (by simp)⟩
    | some t =>
      by_cases same : t.enabled = enabled
      · simp only [if_pos same]
        exact ⟨slot, m.track? slot, true, unchanged slot (by simp)⟩
      · simp only [if_neg same]
        exact ⟨slot, _, false, (writes_setTrack m slot _).invalidated,
          found ▸ .switched t enabled⟩
  | set slot setting =>
    simp only [act]
    cases found : m.track? slot with
    | none =>
      have nothing : (m.set slot setting).2 = m := by simp [set, withTrack, found]
      rw [nothing]
      refine ⟨slot, m.track? slot, true, unchanged slot ?_⟩
      rintro _ ⟨⟩
      exact found
    | some t =>
      obtain ⟨t', keeps, written, writes⟩ := m.set_written found setting
      exact ⟨slot, some t', keeps, writes, found ▸ .written t t' setting keeps written⟩
  | attach slot source =>
    simp only [act, attach, withTrack]
    cases found : m.track? slot with
    | none => exact ⟨slot, m.track? slot, true, unchanged slot (by simp)⟩
    | some t =>
      cases source with
      | none =>
        exact ⟨slot, _, false, (writes_setTrack m slot _).invalidated,
          found ▸ .attached t none none fun _ h => nomatch h⟩
      | some source =>
        obtain ⟨⟨attempts, counted⟩, built⟩ :=
          m.buildChain_spec source (t.layout m.settings.frameCount) t.downmix
        simp only
        rcases result : m.buildChain source (t.layout m.settings.frameCount) t.downmix with
          ⟨why | chain, m'⟩
        · rw [result] at counted
          obtain rfl : m' = { m with attempts } := counted
          obtain ⟨writes, same⟩ := unchanged slot (by simp)
          exact ⟨slot, _, true, ⟨rfl, rfl, rfl, rfl, rfl, rfl, writes.tracks⟩, same⟩
        · rw [result] at counted built
          obtain rfl : m' = { m with attempts } := counted
          refine ⟨slot, some { t with chain := some chain }, false,
            ⟨rfl, rfl, rfl, rfl, rfl, rfl, rfl⟩, found ▸ .attached t _ (some chain) ?_⟩
          rintro _ ⟨⟩
          exact (built chain rfl).1
  | outside slot change =>
    simp only [act, mapSource]
    cases found : m.track? slot with
    | none => exact ⟨slot, m.track? slot, true, unchanged slot (by simp)⟩
    | some t => exact ⟨slot, _, true, writes_setTrack m slot _, found ▸ .outside t change⟩
  | render pts => exact absurd rfl (quiet pts)

end Mixer

end Mixdown
