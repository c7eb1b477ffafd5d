import Mixdown.Proofs.Mixer.RateHistory

/-!
# What every use of a mixer keeps up

Where the declarations of the providers stay, each chain is fed what its layout expects. Together
with the well-formedness of the mixer and the history of the rates this says what holds of every
track, resampler and chain after any run.
-/

namespace Mixdown

variable {σ : Type} [Provider σ]

/-- A change from outside keeps what the provider declares. -/
def Action.KeepsDeclarations : Action σ → Prop
  | .outside _ change => ∀ s, Provider.channels (change s) = Provider.channels s ∧
      Provider.format (change s) = Provider.format s
  | _ => True

/-- The provider of a track declares what its chain was built for. -/
def Track.Fed (t : Track σ) (maxFrames : Nat) : Prop :=
  ∀ c, t.chain = some c → c.Fed (t.layout maxFrames)

namespace Mixer

/-- Every chain is fed what its layout expects. -/
def Fed (m : Mixer σ) : Prop :=
  ∀ slot t, m.track? slot = some t → t.Fed m.settings.frameCount

theorem Written.fed {m : Mixer σ} {t t' : Track σ} {setting : TrackSetting} {keeps : Bool}
    (fed : t.Fed m.settings.frameCount) (written : Written m t setting t' keeps) :
    t'.Fed m.settings.frameCount := by
  cases written with
  | same _ _ _ => exact fed
  | mask mask chain _ built => exact fun c found => (built c found).fed
  | format format chain built => exact fun c found => (built c found).fed
  | mainBus _ _ => exact fed
  | auxBus _ _ => exact fed
  | downmix mode chain _ built kept =>
    intro c found
    by_cases many : maxMixChannels < t.mask.channelCount
    · exact (built many c found).fed
    · exact fed c (kept (Nat.le_of_not_lt many) ▸ found)
  | busFormat _ => exact fed
  | sampleRate _ _ _ _ => exact fed
  | restart => exact fed
  | mixRate => exact fed
  | gain _ _ _ _ _ _ _ _ => exact fed

theorem Edit.fed {m : Mixer σ} (fed : m.Fed) {action : Action σ} {slot : Slot}
    (keeps : action.KeepsDeclarations) {t' : Track σ} {kept : Bool}
    (edit : Edit m slot action (m.track? slot) (some t') kept) :
    t'.Fed m.settings.frameCount := by
  generalize found : m.track? slot = before at edit
  cases edit with
  | same _ _ _ _ => exact fed slot t' found
  | allocated _ _ _ _ _ => exact fun _ none => nomatch none
  | switched t _ => exact fed slot t found
  | attached t source chain built => exact fun c given => (built c given).fed
  | outside t change =>
    intro c given
    obtain ⟨old, had, rfl⟩ := Option.map_eq_some_iff.mp given
    obtain ⟨channels, format⟩ := fed slot t found old had
    unfold Chain.Fed
    rw [Chain.source_mapSource, (keeps old.source).1, (keeps old.source).2]
    exact ⟨channels, format⟩
  | written t _ setting _ written => exact written.fed (fed slot t found)

theorem fed_moved (steady : Provider.Steady σ) {maxFrames : Nat} {t t' : Track σ}
    (fed : t.Fed maxFrames) (moved : Track.Moved t t') : t'.Fed maxFrames := by
  have chain : ∀ c, t'.chain = some c → c.Fed (t.layout maxFrames) := by
    intro c found
    obtain ⟨old, had, moves⟩ := exists_before moved.chain found
    exact (fed old had).moves steady moves
  rw [moved.rest]
  exact chain

/-- Chains stay fed, and the settings and the factory stay, whatever is done to a mixer. -/
theorem Fed.act (steady : Provider.Steady σ) {m : Mixer σ} (wf : WellFormed m) (fed : m.Fed)
    {action : Action σ} (keeps : action.KeepsDeclarations) :
    (m.act action).Fed ∧ (m.act action).settings = m.settings ∧
      (m.act action).factory = m.factory := by
  rcases wf.act_cases action with ⟨pts, rfl, rendered⟩ | ⟨place, t, kept, writes, edit⟩
  · refine ⟨?_, rendered.settings, rendered.factory⟩
    intro slot t' found
    obtain ⟨t, had, moved⟩ := exists_before (rendered.tracks slot) found
    rw [show (m.act (.render pts)).settings = m.settings from rendered.settings]
    exact fed_moved steady (fed slot t had) moved
  · refine ⟨?_, writes.settings, writes.factory⟩
    intro slot t' found
    rw [writes.settings]
    by_cases here : slot = place
    · subst here
      obtain rfl : t = some t' := writes.track?_self.symm.trans found
      exact edit.fed fed keeps
    · exact fed slot t' ((writes.track?_ne here).symm.trans found)

theorem fed_run (steady : Provider.Steady σ) {m : Mixer σ} (wf : WellFormed m) (fed : m.Fed)
    (actions : List (Action σ)) (keeps : ∀ action ∈ actions, action.KeepsDeclarations) :
    (m.run actions).Fed ∧ (m.run actions).settings = m.settings ∧
      (m.run actions).factory = m.factory := by
  induction actions generalizing m with
  | nil => exact ⟨fed, rfl, rfl⟩
  | cons action rest ih =>
    obtain ⟨here, settings, factory⟩ := fed.act steady wf (keeps action (by simp))
    obtain ⟨there, settings', factory'⟩ := ih (wf.act action) here
      fun later member => keeps later (List.mem_cons_of_mem _ member)
    exact ⟨there, settings'.trans settings, factory'.trans factory⟩

end Mixer

/-- What is kept up of a track; `retuned` says that its rate was changed. -/
structure Track.InOrder (settings : Settings) (factory : Option DownmixFactory) (retuned : Prop)
    (t : Track σ) : Prop where
  mask : t.mask.isValid = true ∧ 1 ≤ t.mask.channelCount ∧ t.mask.channelCount ≤ 8
  supported : 2 < t.mask.channelCount →
    ∃ f, factory = some f ∧ f.supports t.mask t.downmix = true
  mainBus : t.mainBus < settings.mainBuses
  auxBus : ∀ bus, t.auxBus = some bus → bus < settings.auxBuses
  rate : 1 ≤ t.sampleRate.toNat ∧
    t.sampleRate.toNat ≤ min (2 * settings.sampleRate.toNat) (UInt32.size - 1)
  resampler_iff : t.resampler.isSome = true ↔ retuned
  resampler : ∀ r, t.resampler = some r → r.channels = min t.mask.channelCount 2 ∧
    r.inputRate = t.sampleRate ∧ r.outputRate = settings.sampleRate ∧
    r.quality = settings.interpolation ∧
    r.increment = phaseIncrement t.sampleRate settings.sampleRate
  /-- The stages are those of the layout that the track has now, and they are fed by a provider
  that declares the channels and the format of the track. -/
  chain : ∀ c, t.chain = some c → c.Suits (t.layout settings.frameCount) t.downmix ∧
    Provider.channels c.source = t.mask.channelCount ∧ Provider.format c.source = t.format ∧
    Provider.channels c = min t.mask.channelCount 2 ∧
    Provider.format c = settings.mixInput.toSample

namespace Mixer

theorem inOrder_track {m : Mixer σ} {t : Track σ} (sound : t.Sound m.settings m.factory)
    (fed : t.Fed m.settings.frameCount) {retuned : Prop}
    (history : t.resampler.isSome = true ↔ retuned) :
    t.InOrder m.settings m.factory retuned where
  mask := ⟨sound.valid, ChannelMask.channelCount_pos sound.valid, sound.few⟩
  supported := sound.supported
  mainBus := sound.mainBus
  auxBus := sound.auxBus
  rate := by
    have pos : t.sampleRate.toNat ≠ 0 := fun zero => sound.rate_pos (UInt32.toNat_inj.mp zero)
    have le := UInt32.le_iff_toNat_le.mp sound.rate_le
    rw [Settings.toNat_maxTrackRate] at le
    simp only [maxRateRatio, UInt32.size] at le ⊢
    omega
  resampler_iff := history
  resampler r found := by
    have settings := sound.resampler r found
    have pos : 0 < t.mixChannelCount :=
      Nat.lt_min.mpr ⟨ChannelMask.channelCount_pos sound.valid, by decide⟩
    exact ⟨settings.channels.trans (Nat.max_eq_left pos), settings.inputRate,
      settings.outputRate, settings.quality, settings.increment⟩
  chain c found := by
    have suits := sound.chain c found
    obtain ⟨channels, format⟩ := fed c found
    obtain ⟨channels', format'⟩ :=
      suits.declares (fed c found) (ChannelMask.channelCount_pos sound.valid)
    exact ⟨suits, channels, format, channels', format'.trans (congrArg _ sound.mixInput)⟩

/-- After any run of a mixer that was built from settings, by calls that succeed or fail and by
blocks, with providers whose declarations stay, the tracks are in order, and those whose rate was
changed have a resampler. -/
theorem tracks_run (steady : Provider.Steady σ) {settings : Settings}
    {factory : Option DownmixFactory} {m : Mixer σ} (built : Mixer.new settings factory = .ok m)
    (actions : List (Action σ)) (keeps : ∀ action ∈ actions, action.KeepsDeclarations) {slot : Slot}
    {t : Track σ} (found : (m.run actions).track? slot = some t) :
    t.InOrder settings factory (m.Retuned actions slot) := by
  obtain ⟨-, settings, factory, -, empty, -, -⟩ := new_spec built
  have unfed : m.Fed := fun slot t found => absurd found (by simp [empty])
  obtain ⟨wf, history⟩ := isSome_resampler_run (.new built) empty actions
  obtain ⟨fed, settings', factory'⟩ := fed_run steady (.new built) unfed actions keeps
  rw [← settings, ← factory, ← settings', ← factory']
  exact inOrder_track (wf.sound slot t found) (fed slot t found) (history slot t found)

end Mixer

end Mixdown
