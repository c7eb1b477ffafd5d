import Mixdown.Proofs.Mixer.Actions
import Mixdown.Proofs.Mixer.Rendering
import Mixdown.Proofs.Provider.Stages

/-!
# Well-formed mixers

What holds of every mixer that is built from settings, whatever is done to it. `Track.Sound` is
about one track and does not depend on what its provider does; `Mixer.Fed` is about the
providers, and needs their declarations to stay.
-/

namespace Mixdown

/-- A valid mask has a position. -/
theorem ChannelMask.channelCount_pos {mask : ChannelMask} (valid : mask.isValid = true) :
    0 < mask.channelCount := by
  unfold isValid at valid
  simp only [Bool.and_eq_true, bne_iff_ne, ne_eq] at valid
  apply List.length_pos_iff.mpr
  intro none_left
  apply valid.1
  apply UInt32.toBitVec_inj.mp
  apply BitVec.eq_of_getLsbD_eq
  intro i inside
  have absent := List.filter_eq_nil_iff.mp none_left ((1 : UInt32) <<< .ofNat i)
    (List.mem_map_of_mem (List.mem_range.mpr inside))
  simp only [bne_iff_ne, ne_eq, Decidable.not_not] at absent
  have bit := congrArg (fun b : UInt32 => b.toBitVec.getLsbD i) absent
  simp at bit
  cases set : mask.bits.toBitVec.getLsbD i with
  | false => simp
  | true => exact absurd (by omega) (bit set inside (Nat.mod_le _ _))

theorem Settings.toNat_maxTrackRate (s : Settings) :
    s.maxTrackRate.toNat = min (s.sampleRate.toNat * maxRateRatio) (UInt32.size - 1) := by
  unfold maxTrackRate
  rw [UInt32.toNat_ofNat', Nat.mod_eq_of_lt]
  exact Nat.lt_of_le_of_lt (Nat.min_le_right _ _) (by decide)

theorem Settings.fault?_eq_none {s : Settings} : s.fault? = none ↔
    s.frameCount ≠ 0 ∧ s.sampleRate ≠ 0 ∧ (s.maxTracks ≠ 0 ∧ s.maxTracks ≤ maxSlots) ∧
      s.mainBuses ≠ 0 := by
  unfold fault?
  split
  · simp [*]
  · split
    · simp [*]
    · split
      · rename_i outside
        simp only [reduceCtorEq, false_iff]
        omega
      · rename_i inside
        split
        · simp [*]
        · rename_i frames rate buses
          simp only [true_iff]
          exact ⟨frames, rate, by omega, buses⟩

theorem Settings.sampleRate_le_max (s : Settings) : s.sampleRate ≤ s.maxTrackRate := by
  rw [UInt32.le_iff_toNat_le, toNat_maxTrackRate]
  have := s.sampleRate.toNat_lt
  simp only [maxRateRatio, UInt32.size]
  omega

namespace Chain

variable {σ : Type} [Provider σ] {layout : ChainLayout} {mode : DownmixMode} {chain : Chain σ}

theorem BuiltFor.suits (built : chain.BuiltFor layout mode) : chain.Suits layout mode := by
  rw [built.2]
  by_cases many : layout.needsDownmix = true
  · rw [if_pos many]
    exact suits_throughMatrix _ (by simpa [ChainLayout.needsDownmix] using many)
  · rw [if_neg many]
    exact suits_plain _ (by simpa [ChainLayout.needsDownmix] using many)

theorem BuiltFor.fed (built : chain.BuiltFor layout mode) : chain.Fed layout := by
  have fits := built.1
  unfold Mixer.misfit? at fits
  by_cases ok : layout.fits (Provider.channels chain.source) (Provider.format chain.source) = true
  · simpa [ChainLayout.fits, Fed] using ok
  · simp [ok] at fits

end Chain

namespace Track

variable {σ : Type}

/-- A track that fits a mixer with these settings and this factory. -/
structure Sound (settings : Settings) (factory : Option DownmixFactory) (t : Track σ) : Prop where
  valid : t.mask.isValid = true
  few : t.mask.channelCount ≤ maxDownmixChannels
  supported : maxMixChannels < t.mask.channelCount →
    ∃ f, factory = some f ∧ f.supports t.mask t.downmix = true
  mainBus : t.mainBus < settings.mainBuses
  auxBus : ∀ bus, t.auxBus = some bus → bus < settings.auxBuses
  rate_pos : t.sampleRate ≠ 0
  rate_le : t.sampleRate ≤ settings.maxTrackRate
  mixRate : t.resampler = none → t.sampleRate = settings.sampleRate
  resampler : ∀ r, t.resampler = some r →
    Resampler.SameSettings (.new settings.interpolation t.mixChannelCount t.sampleRate
      settings.sampleRate settings.frameCount) r
  mixInput : t.mixInput = settings.mixInput
  chain : ∀ c, t.chain = some c → c.Suits (t.layout settings.frameCount) t.downmix
  volume : t.volume.Landed

end Track

namespace Mixer

variable {σ : Type}

theorem maskRefusal?_eq_none {m : Mixer σ} {mask : ChannelMask} {mode : DownmixMode}
    (accepted : m.maskRefusal? mask mode = none) :
    mask.isValid = true ∧ mask.channelCount ≤ maxDownmixChannels ∧
      (maxMixChannels < mask.channelCount →
        ∃ f, m.factory = some f ∧ f.supports mask mode = true) := by
  unfold maskRefusal? at accepted
  split at accepted
  · nomatch accepted
  · rename_i layout
    split at accepted
    · nomatch accepted
    · rename_i downmix
      simp only [Bool.or_eq_true, Bool.not_eq_true', decide_eq_true_eq, not_or,
        Bool.not_eq_false, Nat.not_lt] at layout
      refine ⟨layout.1, layout.2, ?_⟩
      intro many
      simp only [many, decide_true, Bool.true_and, Bool.not_eq_true', Bool.not_eq_false] at downmix
      unfold supportsDownmix at downmix
      cases factory : m.factory with
      | none => simp [factory] at downmix
      | some f => exact ⟨f, rfl, by simpa [factory] using downmix⟩

open Track (Sound)

theorem sound_new {m : Mixer σ} (settings : m.settings.fault? = none) {mask : ChannelMask}
    (accepted : m.maskRefusal? mask .standard = none) (format : SampleFormat) (session : Int32) :
    Sound m.settings m.factory (.new (σ := σ) m.settings mask format session) where
  valid := (maskRefusal?_eq_none accepted).1
  few := (maskRefusal?_eq_none accepted).2.1
  supported := (maskRefusal?_eq_none accepted).2.2
  mainBus := Nat.pos_of_ne_zero (Settings.fault?_eq_none.mp settings).2.2.2
  auxBus _ none := nomatch none
  rate_pos := (Settings.fault?_eq_none.mp settings).2.1
  rate_le := m.settings.sampleRate_le_max
  mixRate _ := rfl
  resampler _ none := nomatch none
  mixInput := rfl
  chain _ none := nomatch none
  volume := Volume.landed_unity

theorem sound_withRate {m : Mixer σ} {t : Track σ} (sound : Sound m.settings m.factory t)
    {rate : UInt32} (pos : rate ≠ 0) (le : rate ≤ m.settings.maxTrackRate) :
    Sound m.settings m.factory (withRate m.settings t rate) :=
  { sound with
    rate_pos := pos
    rate_le := le
    mixRate := fun none_left => nomatch none_left
    resampler := fun r found => by
      obtain rfl := Option.some.inj found
      cases had : t.resampler with
      | none => exact .refl _
      | some old =>
        have settings := sound.resampler old had
        have increment : phaseIncrement rate old.outputRate =
            phaseIncrement rate m.settings.sampleRate := by rw [settings.outputRate]; rfl
        exact ⟨settings.quality, settings.channels, rfl, settings.outputRate, increment,
          settings.capacity⟩ }

variable [Provider σ]

theorem sound_withMask {m : Mixer σ} {t : Track σ} (sound : Sound m.settings m.factory t)
    {mask : ChannelMask} {chain : Option (Chain σ)}
    (accepted : m.maskRefusal? mask t.downmix = none)
    (built : m.Rebuilt (withMask m.settings t mask) chain) :
    Sound m.settings m.factory { withMask m.settings t mask with chain } := by
  obtain ⟨valid, few, supported⟩ := maskRefusal?_eq_none accepted
  by_cases same : min mask.channelCount maxMixChannels = t.mixChannelCount
  · have changed : withMask m.settings t mask = { t with mask } := if_pos same
    rw [changed] at built ⊢
    exact { sound with
      valid, few, supported
      resampler := fun r found => by
        have settings := sound.resampler r found
        rw [← same] at settings
        exact settings
      chain := fun c found => (built c found).suits }
  · have changed : withMask m.settings t mask = { t with
        mask
        resampler := t.resampler.map fun r =>
          .new r.quality (min mask.channelCount maxMixChannels) r.inputRate r.outputRate
            m.settings.frameCount } := if_neg same
    rw [changed] at built ⊢
    exact { sound with
      valid, few, supported
      mixRate := fun none_left => sound.mixRate (by simpa using none_left)
      resampler := fun r found => by
        obtain ⟨old, had, rfl⟩ := Option.map_eq_some_iff.mp found
        have settings := sound.resampler old had
        rw [settings.quality, settings.inputRate, settings.outputRate]
        exact .refl _
      chain := fun c found => (built c found).suits }

/-- Writing a setting of a sound track leaves it sound. -/
theorem Written.sound {m : Mixer σ} {t t' : Track σ} {setting : TrackSetting} {keeps : Bool}
    (settings : m.settings.fault? = none) (mainBuses : m.mainBuses.length = m.settings.mainBuses)
    (auxBuses : m.auxBuses.length = m.settings.auxBuses)
    (sound : Sound m.settings m.factory t) (written : Written m t setting t' keeps) :
    Sound m.settings m.factory t' := by
  cases written with
  | same _ _ _ => exact sound
  | mask mask chain accepted built => exact sound_withMask sound accepted built
  | format format chain built =>
    exact { sound with chain := fun c found => (built c found).suits }
  | mainBus bus known => exact { sound with mainBus := mainBuses ▸ known }
  | auxBus bus known => exact { sound with auxBus := fun b found => auxBuses ▸ known b found }
  | downmix mode chain accepted built kept =>
    obtain ⟨valid, few, supported⟩ := maskRefusal?_eq_none accepted
    refine { sound with supported, chain := fun c found => ?_ }
    by_cases many : maxMixChannels < t.mask.channelCount
    · exact (built many c found).suits
    · have few : t.mask.channelCount ≤ maxMixChannels := Nat.le_of_not_lt many
      exact (sound.chain c (kept few ▸ found)).any_mode few mode
  | busFormat format => exact { sound with }
  | sampleRate rate pos le _ => exact sound_withRate sound pos le
  | restart =>
    exact { sound with
      mixRate := fun none_left => sound.mixRate (by simpa using none_left)
      resampler := fun r found => by
        obtain ⟨old, had, rfl⟩ := Option.map_eq_some_iff.mp found
        have settings := sound.resampler old had
        exact ⟨settings.quality, settings.channels, settings.inputRate, settings.outputRate,
          settings.increment, settings.capacity⟩ }
  | mixRate =>
    exact { sound with
      rate_pos := (Settings.fault?_eq_none.mp settings).2.1
      rate_le := m.settings.sampleRate_le_max
      mixRate := fun _ => rfl
      resampler := fun _ none_left => nomatch none_left }
  | gain name value ramped gain frames _ _ _ =>
    exact { sound with volume := sound.volume.modify name fun _ landed => landed.steer gain frames }

omit [Provider σ] in
/-- A new mixer has the settings and the factory that it was given, silent buses, no track and no
plan. -/
theorem new_spec {settings : Settings} {factory : Option DownmixFactory} {m : Mixer σ}
    (built : Mixer.new settings factory = .ok m) :
    settings.fault? = none ∧ m.settings = settings ∧ m.factory = factory ∧ m.plan = none ∧
      (∀ slot, m.track? slot = none) ∧ m.mainBuses.length = settings.mainBuses ∧
      m.auxBuses.length = settings.auxBuses := by
  unfold Mixer.new at built
  cases fault : settings.fault? with
  | some why =>
    rw [fault] at built
    nomatch built
  | none =>
    rw [fault] at built
    obtain rfl := Except.ok.inj built
    exact ⟨rfl, rfl, rfl, rfl, fun slot => Vector.getElem_replicate slot.isLt,
      List.length_replicate, List.length_replicate⟩

/-- A mixer as it should be, whatever the providers do. -/
structure WellFormed (m : Mixer σ) : Prop where
  settings : m.settings.fault? = none
  mainBuses : m.mainBuses.length = m.settings.mainBuses
  auxBuses : m.auxBuses.length = m.settings.auxBuses
  formats : ∀ p, m.plan = some p → p.formats.length = m.mainBuses.length
  slots : ∀ slot t, m.track? slot = some t → slot.val < m.settings.maxTracks
  sound : ∀ slot t, m.track? slot = some t → Sound m.settings m.factory t

namespace WellFormed

omit [Provider σ] in
theorem new {settings : Settings} {factory : Option DownmixFactory} {m : Mixer σ}
    (built : Mixer.new settings factory = .ok m) : WellFormed m := by
  obtain ⟨fault, same, -, plan, empty, main, aux⟩ := new_spec built
  refine ⟨same ▸ fault, same ▸ main, same ▸ aux, ?_, ?_, ?_⟩
  · intro p kept
    rw [plan] at kept
    nomatch kept
  · intro slot t found
    rw [empty slot] at found
    nomatch found
  · intro slot t found
    rw [empty slot] at found
    nomatch found

variable {m m' : Mixer σ}

omit [Provider σ] in
theorem length_formats (wf : WellFormed m) : m.currentPlan.formats.length = m.mainBuses.length := by
  unfold currentPlan
  cases kept : m.plan with
  | none => simp [makePlan, Plan.ofTracks]
  | some p => exact wf.formats p kept

theorem edit (wf : WellFormed m) {action : Action σ} {slot : Slot} {t : Option (Track σ)}
    {keeps : Bool} (edit : Edit m slot action (m.track? slot) t keeps)
    (writes : Writes m m' slot t keeps) : WellFormed m' := by
  have here : ∀ t', t = some t' →
      slot.val < m.settings.maxTracks ∧ Sound m.settings m.factory t' := by
    rintro t' rfl
    generalize found : m.track? slot = before at edit
    cases edit with
    | same _ _ _ _ => exact ⟨wf.slots slot t' found, wf.sound slot t' found⟩
    | allocated mask format session accepted inside =>
      exact ⟨inside, sound_new wf.settings accepted format session⟩
    | switched t enabled => exact ⟨wf.slots slot t found, { wf.sound slot t found with }⟩
    | attached t source chain built =>
      exact ⟨wf.slots slot t found,
        { wf.sound slot t found with chain := fun c given => (built c given).suits }⟩
    | outside t change =>
      refine ⟨wf.slots slot t found, { wf.sound slot t found with chain := ?_ }⟩
      intro c given
      obtain ⟨old, had, rfl⟩ := Option.map_eq_some_iff.mp given
      exact ((wf.sound slot t found).chain old had).mapSource change
    | written t _ setting _ written =>
      exact ⟨wf.slots slot t found,
        written.sound wf.settings wf.mainBuses wf.auxBuses (wf.sound slot t found)⟩
  have tracks : ∀ other t', m'.track? other = some t' →
      other.val < m.settings.maxTracks ∧ Sound m.settings m.factory t' := by
    intro other t' found
    by_cases same : other = slot
    · subst same
      exact here t' (writes.track?_self ▸ found)
    · rw [writes.track?_ne same] at found
      exact ⟨wf.slots other t' found, wf.sound other t' found⟩
  refine ⟨writes.settings ▸ wf.settings, ?_, ?_, ?_, ?_, ?_⟩
  · rw [writes.mainBuses, writes.settings]
    exact wf.mainBuses
  · rw [writes.auxBuses, writes.settings]
    exact wf.auxBuses
  · intro p kept
    rw [writes.plan] at kept
    rw [writes.mainBuses]
    cases keeps with
    | true => exact wf.formats p kept
    | false => nomatch kept
  · rw [writes.settings]
    exact fun other t' found => (tracks other t' found).1
  · rw [writes.settings, writes.factory]
    exact fun other t' found => (tracks other t' found).2

theorem sound_moved {settings : Settings} {factory : Option DownmixFactory} {t t' : Track σ}
    (sound : Sound settings factory t) (moved : Track.Moved t t') : Sound settings factory t' := by
  have chain : ∀ c, t'.chain = some c → c.Suits (t.layout settings.frameCount) t.downmix := by
    intro c found
    obtain ⟨old, had, moves⟩ := exists_before moved.chain found
    exact (sound.chain old had).moves moves
  have resampler : ∀ r, t'.resampler = some r →
      Resampler.SameSettings (.new settings.interpolation t.mixChannelCount t.sampleRate
        settings.sampleRate settings.frameCount) r := by
    intro r found
    obtain ⟨old, had, same⟩ := exists_before moved.resampler found
    exact (sound.resampler old had).trans same
  have mixRate : t'.resampler = none → t.sampleRate = settings.sampleRate := by
    intro none_left
    apply sound.mixRate
    have same := moved.isSome_resampler
    rw [none_left] at same
    simpa using same.symm
  have volume := moved.volume sound.volume
  rw [moved.rest]
  exact { sound with chain, resampler, mixRate, volume }

theorem rendered (wf : WellFormed m) (rendered : Rendered m m') : WellFormed m' := by
  have tracks : ∀ slot t', m'.track? slot = some t' →
      slot.val < m.settings.maxTracks ∧ Sound m.settings m.factory t' := by
    intro slot t' found
    obtain ⟨t, had, moved⟩ := exists_before (rendered.tracks slot) found
    exact ⟨wf.slots slot t had, sound_moved (wf.sound slot t had) moved⟩
  refine ⟨rendered.settings ▸ wf.settings, ?_, ?_, ?_, ?_, ?_⟩
  · rw [rendered.mainBuses, rendered.settings]
    exact wf.mainBuses
  · rw [rendered.auxBuses, rendered.settings]
    exact wf.auxBuses
  · intro p kept
    rw [rendered.mainBuses]
    rcases rendered.plan with same | dropped
    · exact wf.formats p (same ▸ kept)
    · rw [dropped] at kept
      nomatch kept
  · rw [rendered.settings]
    exact fun slot t' found => (tracks slot t' found).1
  · rw [rendered.settings, rendered.factory]
    exact fun slot t' found => (tracks slot t' found).2

/-- What is done to a mixer mixes a block, or writes one slot. -/
theorem act_cases (wf : WellFormed m) (action : Action σ) :
    (∃ pts, action = .render pts ∧
      Rendered { m with plan := some m.currentPlan } (m.act action)) ∨
    ∃ slot t keeps, Writes m (m.act action) slot t keeps ∧
      Edit m slot action (m.track? slot) t keeps := by
  by_cases render : ∃ pts, action = .render pts
  · obtain ⟨pts, rfl⟩ := render
    exact .inl ⟨pts, rfl, rendered_renderBy m m.currentPlan pts wf.length_formats⟩
  · exact .inr (m.act_edit action fun pts same => render ⟨pts, same⟩)

/-- Well-formedness is kept by whatever is done to a mixer. -/
theorem act (wf : WellFormed m) (action : Action σ) : WellFormed (m.act action) := by
  rcases wf.act_cases action with ⟨pts, rfl, rendered⟩ | ⟨slot, t, keeps, writes, edit⟩
  · have planned : WellFormed { m with plan := some m.currentPlan } := by
      refine ⟨wf.settings, wf.mainBuses, wf.auxBuses, ?_, wf.slots, wf.sound⟩
      rintro _ ⟨⟩
      exact wf.length_formats
    exact planned.rendered rendered
  · exact wf.edit edit writes

theorem run (wf : WellFormed m) (actions : List (Action σ)) : WellFormed (m.run actions) := by
  induction actions generalizing m with
  | nil => exact wf
  | cons action rest ih => exact ih (wf.act action)

/-- The settings never change. -/
theorem settings_act (wf : WellFormed m) (action : Action σ) :
    (m.act action).settings = m.settings := by
  rcases wf.act_cases action with ⟨pts, rfl, rendered⟩ | ⟨slot, t, keeps, writes, edit⟩
  · exact rendered.settings
  · exact writes.settings

theorem settings_run (wf : WellFormed m) (actions : List (Action σ)) :
    (m.run actions).settings = m.settings := by
  induction actions generalizing m with
  | nil => rfl
  | cons action rest ih => exact (ih (wf.act action)).trans (wf.settings_act action)

/-- The factory of a mixer is the one that it was built with. -/
theorem factory_act (wf : WellFormed m) (action : Action σ) :
    (m.act action).factory = m.factory := by
  rcases wf.act_cases action with ⟨pts, rfl, rendered⟩ | ⟨slot, t, keeps, writes, edit⟩
  · exact rendered.factory
  · exact writes.factory

theorem factory_run (wf : WellFormed m) (actions : List (Action σ)) :
    (m.run actions).factory = m.factory := by
  induction actions generalizing m with
  | nil => rfl
  | cons action rest ih => exact (ih (wf.act action)).trans (wf.factory_act action)

end WellFormed

theorem Reachable.wellFormed {m : Mixer σ} (reachable : Reachable m) : WellFormed m := by
  induction reachable with
  | new built => exact .new built
  | act action _ ih => exact ih.act action

end Mixer

end Mixdown
