import Mixdown.Proofs.Mixer.WellFormed

/-!
# Calls that fail

A call that answers an error leaves the mixer as it was, but for the plan, with one exception: a
write of a mask, a format or a downmix that passed all checks stays written when the chain cannot
be built anew around the provider, and the track is left without a provider. `act_of_error` says
exactly when that happens.
-/

namespace Mixdown

namespace Mixer

variable {σ : Type}

/-- The error of an answer. -/
def Answer.error? {α : Type} (answer : Answer σ α) : Option MixerError :=
  match answer.1 with
  | .ok _ => none
  | .error why => some why

/-- `m'` is `m`, except that the plan may be dropped and that attempts to build a downmix may be
counted. -/
def Untouched (m m' : Mixer σ) : Prop :=
  ∃ attempts plan, (plan = m.plan ∨ plan = none) ∧ m' = { m with attempts, plan }

theorem untouched_refl (m : Mixer σ) : m.Untouched m := ⟨m.attempts, m.plan, .inl rfl, rfl⟩

theorem Untouched.invalidated {m m' : Mixer σ} (same : m.Untouched m') :
    m.Untouched m'.invalidated := by
  obtain ⟨attempts, plan, -, rfl⟩ := same
  exact ⟨attempts, none, .inr rfl, rfl⟩

theorem untouched_attempts (m : Mixer σ) (attempts : Nat) : m.Untouched { m with attempts } :=
  ⟨attempts, m.plan, .inl rfl, rfl⟩

variable [Provider σ]

/-- The error that is answered to what is done to a mixer. Mixing a block and a change from outside
answer nothing. -/
def error? (m : Mixer σ) : Action σ → Option MixerError
  | .allocate mask format session => (m.allocate mask format session).error?
  | .free slot => (m.free slot).error?
  | .setEnabled slot enabled => (m.setEnabled slot enabled).error?
  | .set slot setting => (m.set slot setting).error?
  | .attach slot source => (m.attach slot source).error?
  | .outside _ _ | .render _ => none

/-- The write of a setting to a track passes the checks of its own and needs the chain of the track
to be built anew; `t'` is the track with the setting written. -/
inductive Admitted (m : Mixer σ) (t : Track σ) : TrackSetting → (t' : Track σ) → Prop
  | mask (mask : ChannelMask) : m.maskRefusal? mask t.downmix = none → t.mask ≠ mask →
      misfitAfter? t mask t.format = none →
      Admitted m t (.mask mask) (withMask m.settings t mask)
  | format (format : SampleFormat) : t.format ≠ format → misfitAfter? t t.mask format = none →
      Admitted m t (.format format) { t with format }
  | downmix (mode : DownmixMode) : t.downmix ≠ mode → m.maskRefusal? t.mask mode = none →
      maxMixChannels < t.mask.channelCount →
      Admitted m t (.downmix mode) { t with downmix := mode }

/-- Why the chain of a written track cannot be built anew around its provider: the factory fails to
create a downmix that it supports, or, when another downmix is chosen, the provider declares other
frames by now. -/
inductive Unbuildable (m : Mixer σ) (t' : Track σ) (source : σ) : TrackSetting → Refusal → Prop
  | create (setting : TrackSetting) (f : DownmixFactory) : m.factory = some f →
      f.supports t'.mask t'.downmix = true → f.succeeds m.attempts = false →
      Unbuildable m t' source setting (.noDownmix t'.mask)
  | misfit (mode : DownmixMode) (why : Refusal) :
      misfit? (t'.layout m.settings.frameCount) source = some why →
      Unbuildable m t' source (.downmix mode) why

/-- The write of a setting stays, but its chain cannot be built anew: `m'` is `m` with the track
written and left without a provider. -/
structure HalfWritten (m m' : Mixer σ) (slot : Slot) (setting : TrackSetting) (refusal : Refusal)
    (t t' : Track σ) (source : σ) : Prop where
  found : m.track? slot = some t
  fed : t.source? = some source
  admitted : Admitted m t setting t'
  many : maxMixChannels < t'.mask.channelCount
  unbuildable : Unbuildable m t' source setting refusal
  after : ∃ attempts, m' = { m.setTrack slot (some { t' with chain := none }) with
    attempts, plan := none }

omit [Provider σ] in
theorem source?_setTrack (m : Mixer σ) (slot : Slot) (t : Track σ) :
    (m.setTrack slot (some t)).source? slot = t.source? := by
  unfold source?
  rw [track?_setTrack_self]
  rfl

theorem HalfWritten.source?_eq_none {m m' : Mixer σ} {slot : Slot} {setting : TrackSetting}
    {refusal : Refusal} {t t' : Track σ} {source : σ}
    (half : HalfWritten m m' slot setting refusal t t' source) : m'.source? slot = none := by
  obtain ⟨attempts, rfl⟩ := half.after
  exact source?_setTrack m slot _

/-- Whether the provider of a track fits depends on the mask and the format of a layout only. -/
theorem misfitAfter?_eq {t : Track σ} {source : σ} (fed : t.source? = some source)
    (layout : ChainLayout) : misfitAfter? t layout.mask layout.format = misfit? layout source := by
  unfold misfitAfter?
  rw [fed]
  rfl

/-- Why a chain cannot be built. -/
theorem buildChain_error {m : Mixer σ} {source : σ} {layout : ChainLayout} {mode : DownmixMode}
    {why : Refusal} (failed : (m.buildChain source layout mode).1 = .error why) :
    misfit? layout source = some why ∨
      maxMixChannels < layout.mask.channelCount ∧ why = .noDownmix layout.mask ∧
        ∀ f, m.factory = some f → f.supports layout.mask mode = true →
          f.succeeds m.attempts = false := by
  unfold buildChain at failed
  cases fits : misfit? layout source with
  | some other =>
    rw [fits] at failed
    exact .inl (congrArg some (Except.error.inj failed))
  | none =>
    rw [fits] at failed
    by_cases many : layout.needsDownmix = true
    · simp only [many, if_true] at failed
      refine .inr ⟨by simpa [ChainLayout.needsDownmix] using many, ?_⟩
      rcases result : m.buildDownmix layout.mask mode with ⟨_ | matrix, m'⟩
      · rw [result] at failed
        refine ⟨(Except.error.inj failed).symm, ?_⟩
        intro f factory supports
        have none_built := congrArg Prod.fst result
        simpa [buildDownmix, factory, supports] using none_built
      · rw [result] at failed
        cases failed
    · simp only [many] at failed
      cases failed

omit [Provider σ] in
theorem withMask_eq (settings : Settings) (t : Track σ) (mask : ChannelMask) :
    ∃ resampler, withMask settings t mask = { t with mask, resampler } := by
  unfold withMask
  simp only
  split
  · exact ⟨t.resampler, rfl⟩
  · exact ⟨_, rfl⟩

/-- A written track whose chain cannot be built anew. -/
theorem Admitted.unbuildable {m : Mixer σ} {t t' : Track σ} {setting : TrackSetting}
    (sound : t.Sound m.settings m.factory) (admitted : Admitted m t setting t') {source : σ}
    (fed : t.source? = some source) {why : Refusal}
    (failed : (m.buildChain source (t'.layout m.settings.frameCount) t'.downmix).1 =
      .error why) :
    maxMixChannels < t'.mask.channelCount ∧ Unbuildable m t' source setting why := by
  -- the factory supports the layout of every track that is written
  have supported : maxMixChannels < t'.mask.channelCount →
      ∃ f, m.factory = some f ∧ f.supports t'.mask t'.downmix = true := by
    cases admitted with
    | mask mask accepted _ _ =>
      obtain ⟨resampler, written⟩ := withMask_eq m.settings t mask
      rw [written]
      exact (maskRefusal?_eq_none accepted).2.2
    | format _ _ _ => exact sound.supported
    | downmix mode _ accepted _ => exact (maskRefusal?_eq_none accepted).2.2
  rcases buildChain_error failed with misfit | ⟨many, rfl, fails⟩
  · cases admitted with
    | mask mask _ _ fits =>
      obtain ⟨resampler, written⟩ := withMask_eq m.settings t mask
      rw [written, ← misfitAfter?_eq fed] at misfit
      nomatch misfit.symm.trans fits
    | format format _ fits =>
      rw [← misfitAfter?_eq fed] at misfit
      nomatch misfit.symm.trans fits
    | downmix mode _ _ many => exact ⟨many, .misfit mode why misfit⟩
  · obtain ⟨f, factory, supports⟩ := supported many
    exact ⟨many, .create setting f factory supports (fails f factory supports)⟩

/-- Building the chain of a written track anew leaves the mixer as it was, or half written, when
it fails. -/
theorem rebuild_error {m : Mixer σ} {slot : Slot} {t t' : Track σ} {setting : TrackSetting}
    (found : m.track? slot = some t) (sound : t.Sound m.settings m.factory)
    (admitted : Admitted m t setting t') {why : Refusal}
    (failed : (m.rebuild slot t').1 = .error why) :
    ∃ source, HalfWritten m (m.rebuild slot t').2.invalidated slot setting why t t' source := by
  have chain : t'.source? = t.source? := by
    cases admitted with
    | mask mask _ _ _ =>
      obtain ⟨resampler, written⟩ := withMask_eq m.settings t mask
      rw [written]
      rfl
    | format _ _ _ => rfl
    | downmix _ _ _ _ => rfl
  unfold rebuild at failed ⊢
  cases fed : t'.source? with
  | none =>
    rw [fed] at failed
    nomatch failed
  | some source =>
    rw [fed] at failed
    simp only at failed ⊢
    obtain ⟨⟨attempts, counted⟩, -⟩ :=
      m.buildChain_spec source (t'.layout m.settings.frameCount) t'.downmix
    rcases result : m.buildChain source (t'.layout m.settings.frameCount) t'.downmix with
      ⟨refusal | chain, m'⟩
    · rw [result] at failed counted
      obtain rfl : refusal = why := Except.error.inj failed
      obtain rfl : m' = { m with attempts } := counted
      have given := chain.symm.trans fed
      obtain ⟨many, unbuildable⟩ :=
        admitted.unbuildable sound given (congrArg Prod.fst result)
      exact ⟨source, found, given, admitted, many, unbuildable, attempts, rfl⟩
    · rw [result] at failed
      nomatch failed

/-- Where the mixer stands after a refused write, before the plan is dropped. -/
def RefusedWrite (m : Mixer σ) (slot : Slot) (t : Track σ) (setting : TrackSetting)
    (answer : Except Refusal Bool × Mixer σ) : Prop :=
  ∀ why, answer.1 = .error why → answer.2 = m ∨
    ∃ t' source, HalfWritten m answer.2.invalidated slot setting why t t' source

theorem refusedWrite_rebuilt {m : Mixer σ} {slot : Slot} {t t' : Track σ} {setting : TrackSetting}
    (found : m.track? slot = some t) (sound : t.Sound m.settings m.factory)
    (admitted : Admitted m t setting t') :
    RefusedWrite m slot t setting (match m.rebuild slot t' with
      | (.ok (), m) => (.ok true, m)
      | (.error why, m) => (.error why, m)) := by
  intro why failed
  have half : (m.rebuild slot t').1 = .error why → _ := rebuild_error found sound admitted
  rcases result : m.rebuild slot t' with ⟨refusal | _, m'⟩
  · rw [result] at failed half
    exact .inr ⟨t', half (congrArg Except.error (Except.error.inj failed))⟩
  · rw [result] at failed
    nomatch failed

theorem refusedWrite_same {m m' : Mixer σ} {slot : Slot} {t : Track σ} {setting : TrackSetting}
    (result : Except Refusal Bool) (same : m' = m) :
    RefusedWrite m slot t setting (result, m') := fun _ _ => .inl same

theorem refusedWrite_ok {m m' : Mixer σ} {slot : Slot} {t : Track σ} {setting : TrackSetting}
    (changed : Bool) : RefusedWrite m slot t setting (.ok changed, m') :=
  fun _ failed => nomatch failed

/-- A refused write leaves the mixer as it was, unless the track is half written. -/
theorem write_refused {m : Mixer σ} {slot : Slot} {t : Track σ} (found : m.track? slot = some t)
    (sound : t.Sound m.settings m.factory) (setting : TrackSetting) :
    RefusedWrite m slot t setting (m.write slot t setting) := by
  cases setting with
  | mask mask =>
    simp only [write]
    cases accepted : m.maskRefusal? mask t.downmix with
    | some why => exact refusedWrite_same _ rfl
    | none =>
      by_cases same : t.mask = mask
      · rw [if_pos same]
        exact refusedWrite_ok false
      · rw [if_neg same]
        cases fits : misfitAfter? t mask t.format with
        | some why => exact refusedWrite_same _ rfl
        | none => exact refusedWrite_rebuilt found sound (.mask mask accepted same fits)
  | format format =>
    simp only [write]
    by_cases same : t.format = format
    · rw [if_pos same]
      exact refusedWrite_ok false
    · rw [if_neg same]
      cases fits : misfitAfter? t t.mask format with
      | some why => exact refusedWrite_same _ rfl
      | none => exact refusedWrite_rebuilt found sound (.format format same fits)
  | downmix mode =>
    simp only [write]
    by_cases same : t.downmix = mode
    · rw [if_pos same]
      exact refusedWrite_ok false
    · rw [if_neg same]
      cases accepted : m.maskRefusal? t.mask mode with
      | some why => exact refusedWrite_same _ rfl
      | none =>
        by_cases many : maxMixChannels < t.mask.channelCount
        · simp only [many, if_true]
          exact refusedWrite_rebuilt found sound (.downmix mode same accepted many)
        · simp only [many]
          exact refusedWrite_ok true
  | mainBus bus =>
    simp only [write]
    split
    · exact refusedWrite_ok _
    · exact refusedWrite_same _ rfl
  | auxBus bus =>
    cases bus with
    | none => exact refusedWrite_ok _
    | some bus =>
      simp only [write]
      split
      · exact refusedWrite_ok _
      · exact refusedWrite_same _ rfl
  | busFormat format => exact refusedWrite_ok _
  | sampleRate rate =>
    simp only [write]
    split
    · exact refusedWrite_same _ rfl
    · split
      · exact refusedWrite_ok _
      · exact refusedWrite_ok _
  | restart => exact refusedWrite_ok _
  | mixRate => exact refusedWrite_ok _
  | gain name value ramped =>
    simp only [write]
    cases clampTrackGain? value with
    | none => exact refusedWrite_same _ rfl
    | some gain => exact refusedWrite_ok _

/-- A call that answers an error leaves the mixer as it was, but for the plan, unless it writes a
setting half: the write passed all checks, and the chain of a track of more than two channels could
not be built anew. Then the setting stays written, the track is left without a provider, and the
rest of the mixer is as it was. -/
theorem Reachable.act_of_error {m : Mixer σ} (reachable : Reachable m) {action : Action σ}
    {why : MixerError} (failed : m.error? action = some why) :
    m.Untouched (m.act action) ∨
      ∃ slot setting refusal t t' source, action = .set slot setting ∧ why = .refused refusal ∧
        HalfWritten m (m.act action) slot setting refusal t t' source := by
  cases action with
  | allocate mask format session =>
    refine .inl ?_
    simp only [error?, Mixer.act, allocate] at failed ⊢
    cases accepted : m.maskRefusal? mask .standard with
    | some why => exact m.untouched_refl
    | none =>
      simp only [accepted] at failed ⊢
      cases free : Slot.all.find? fun slot =>
        decide (slot.val < m.settings.maxTracks) && (m.track? slot).isNone with
      | none => exact m.untouched_refl
      | some slot =>
        rw [free] at failed
        cases failed
  | free slot =>
    refine .inl ?_
    simp only [error?, Mixer.act, free, withTrack] at failed ⊢
    cases found : m.track? slot with
    | none => exact m.untouched_refl
    | some t => simp [Answer.error?, found] at failed
  | setEnabled slot enabled =>
    refine .inl ?_
    simp only [error?, Mixer.act, setEnabled, withTrack] at failed ⊢
    cases found : m.track? slot with
    | none => exact m.untouched_refl
    | some t =>
      simp only [found] at failed
      split at failed <;> cases failed
  | set slot setting =>
    simp only [error?, Mixer.act, set, withTrack] at failed ⊢
    cases found : m.track? slot with
    | none => exact .inl m.untouched_refl
    | some t =>
      have refused := write_refused found (reachable.wellFormed.sound slot t found) setting
      simp only [found] at failed ⊢
      rcases result : m.write slot t setting with ⟨refusal | changed, m'⟩
      · rw [result] at failed refused
        obtain rfl : MixerError.refused refusal = why := Option.some.inj failed
        rcases refused refusal rfl with rfl | ⟨t', source, half⟩
        · exact .inl m'.untouched_refl.invalidated
        · exact .inr ⟨slot, setting, refusal, t, t', source, rfl, rfl, half⟩
      · rw [result] at failed
        cases changed <;> cases failed
  | attach slot source =>
    refine .inl ?_
    simp only [error?, Mixer.act, attach, withTrack] at failed ⊢
    cases found : m.track? slot with
    | none => exact m.untouched_refl
    | some t =>
      simp only [found] at failed
      cases source with
      | none => cases failed
      | some source =>
        simp only at failed ⊢
        obtain ⟨⟨attempts, counted⟩, -⟩ :=
          m.buildChain_spec source (t.layout m.settings.frameCount) t.downmix
        rcases result : m.buildChain source (t.layout m.settings.frameCount) t.downmix with
          ⟨refusal | chain, m'⟩
        · rw [result] at counted
          obtain rfl : m' = { m with attempts } := counted
          exact m.untouched_attempts attempts
        · rw [result] at failed
          cases failed
  | outside slot change => cases failed
  | render pts => cases failed

/-- A stereo mask is refused while a provider of six channels is attached, and the provider
stays. -/
theorem Reachable.act_of_error_stereo :
    let slot : Slot := ⟨0, by decide⟩
    let narrow : Action Clip := .set slot (.mask .stereo)
    ∃ m : Mixer Clip, Reachable m ∧
      (m.error? narrow).map MixerError.message = some
        "configuration error: provider delivers 6 channel float frames, track expects 2 channel float" ∧
      m.Untouched (m.act narrow) := by
  intro slot narrow
  let clip := Clip.ofSamples 6 (.float (Array.replicate 12 1)) true
  obtain ⟨m, reachable, failed, kept⟩ : ∃ m : Mixer Clip, Reachable m ∧
      (m.error? narrow).map MixerError.message = some
        "configuration error: provider delivers 6 channel float frames, track expects 2 channel float" ∧
      ((m.act narrow).source? slot).isSome = true :=
    ⟨_, .run (.new (rfl : Mixer.new { frameCount := 2 } (some .standard) = .ok _))
      [.allocate .fivePointOne .float 0, .attach slot (some clip)],
      by decide +kernel, by decide +kernel⟩
  refine ⟨m, reachable, failed, ?_⟩
  obtain ⟨why, refused, -⟩ := Option.map_eq_some_iff.mp failed
  rcases Reachable.act_of_error reachable refused with same | ⟨_, _, _, _, _, _, written, -, half⟩
  · exact same
  · obtain ⟨rfl, -⟩ := Action.set.inj written
    rw [half.source?_eq_none] at kept
    nomatch kept

/-- Where the factory creates a single downmix, another downmix is chosen for a track of six
channels: the call fails, the choice stays, and the provider is lost. -/
theorem set_downmix_loses_provider :
    let slot : Slot := ⟨0, by decide⟩
    let strip : Action Clip := .set slot (.downmix .strip)
    ∃ m : Mixer Clip, Reachable m ∧
      (m.error? strip).map MixerError.message = some
        "configuration error: no downmixer available for channel mask 0x3f" ∧
      (m.track? slot).map Track.downmix = some .standard ∧
      ((m.act strip).track? slot).map Track.downmix = some .strip ∧
      (m.source? slot).isSome = true ∧ ((m.act strip).source? slot).isSome = false ∧
      ¬ m.Untouched (m.act strip) := by
  intro slot strip
  let clip := Clip.ofSamples 6 (.float (Array.replicate 12 1)) true
  obtain ⟨m, reachable, failed, before, after, fed, lost⟩ : ∃ m : Mixer Clip, Reachable m ∧
      (m.error? strip).map MixerError.message = some
        "configuration error: no downmixer available for channel mask 0x3f" ∧
      (m.track? slot).map Track.downmix = some .standard ∧
      ((m.act strip).track? slot).map Track.downmix = some .strip ∧
      (m.source? slot).isSome = true ∧ ((m.act strip).source? slot).isSome = false :=
    ⟨_, .run (.new (rfl : Mixer.new { frameCount := 2 } (some (.exhaustedAfter 1)) = .ok _))
      [.allocate .fivePointOne .float 0, .attach slot (some clip)],
      by decide +kernel, by decide +kernel, by decide +kernel, by decide +kernel, by decide +kernel⟩
  refine ⟨m, reachable, failed, before, after, fed, lost, ?_⟩
  rintro ⟨attempts, plan, -, same⟩
  rw [same] at lost
  exact absurd (fed.symm.trans lost) (by decide)

end Mixer

end Mixdown
