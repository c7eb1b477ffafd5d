import Mixdown.Proofs.Gain.Bounds
import Mixdown.Proofs.Mixer.RampTime

/-!
# Settings that are written again

A setting that was written stays with its track whatever is done to the mixer, as long as no call
configures the track: blocks move a gain towards its target, and the target stays. A track that has
a setting is left as it is by another write of it, and so is all else (`Reachable.set_again`). Only
the request to start afresh is carried out each time.
-/

namespace Mixdown

variable {σ : Type}

/-- A call that configures the track of a slot, or frees the slot. -/
def Action.Configure (slot : Slot) : Action σ → Prop
  | .free other | .setEnabled other _ | .set other _ | .attach other _ => other = slot
  | .allocate _ _ _ | .outside _ _ | .render _ => False

namespace Ramp

/-- A gain that was steered to `gain` in so many frames: it is heading there, and one that was to
jump has arrived. -/
def Headed (gain : Float32) (frames : Nat) (r : Ramp) : Prop :=
  if frames = 0 then r = settled gain else (gain == r.target) = true

/-- A gain that is heading somewhere already is not steered there again. -/
theorem Headed.steer_eq {gain : Float32} {frames : Nat} {r : Ramp} (headed : r.Headed gain frames) :
    r.steer gain frames = r := by
  unfold Headed at headed
  unfold steer
  by_cases jumps : frames = 0
  · rw [if_pos jumps] at headed ⊢
    exact headed.symm
  · rw [if_neg jumps] at headed ⊢
    exact if_pos headed

theorem headed_steer {gain : Float32} (number : (gain == gain) = true) (frames : Nat) (r : Ramp) :
    (r.steer gain frames).Headed gain frames := by
  unfold Headed steer
  by_cases jumps : frames = 0
  · rw [if_pos jumps, if_pos jumps]
    rfl
  · rw [if_neg jumps, if_neg jumps]
    unfold moveTo
    split
    · assumption
    · split
      · exact number
      · exact number

theorem Headed.step {gain : Float32} {frames : Nat} {r : Ramp} (headed : r.Headed gain frames) :
    r.step.Headed gain frames := by
  unfold Headed at headed ⊢
  by_cases jumps : frames = 0
  · rw [if_pos jumps] at headed ⊢
    subst headed
    rfl
  · rw [if_neg jumps] at headed ⊢
    rw [target_step]
    exact headed

theorem Headed.skip {gain : Float32} {frames : Nat} {r : Ramp} (headed : r.Headed gain frames)
    (count : Nat) : (r.skip count).Headed gain frames := by
  unfold Headed at headed ⊢
  by_cases jumps : frames = 0
  · rw [if_pos jumps] at headed ⊢
    subst headed
    exact skip_of_rest (landed_settled gain) rfl count
  · rw [if_neg jumps] at headed ⊢
    rw [target_skip]
    exact headed

theorem Headed.after {gain : Float32} {frames : Nat} {r : Ramp} (headed : r.Headed gain frames)
    (count : Nat) : (r.after count).Headed gain frames := by
  induction count generalizing r with
  | zero => exact headed
  | succ count ih => exact ih headed.step

end Ramp

namespace Volume

/-- A gain that is changed to what it is. -/
theorem modify_eq {v : Volume} {name : GainName} {f : Ramp → Ramp}
    (same : f (v.ramp name) = v.ramp name) : v.modify name f = v := by
  cases name with
  | left => exact congrArg (fun r => { v with left := r }) same
  | right => exact congrArg (fun r => { v with right := r }) same
  | aux => exact congrArg (fun r => { v with aux := r }) same

theorem headed_afterBlock {v : Volume} {name : GainName} {gain : Float32} {frames : Nat}
    (headed : (v.ramp name).Headed gain frames) (block heard : Nat) :
    ((v.afterBlock block heard).ramp name).Headed gain frames := by
  unfold afterBlock
  split
  · rw [ramp_after]
    exact headed.after heard
  · rw [ramp_skip, ramp_after]
    exact (headed.after heard).skip (block - heard)

end Volume

namespace Track

/-- The track has what a setting writes. A gain may still be on its way, and nothing has been
started afresh for good. -/
inductive Has (settings : Settings) (t : Track σ) : TrackSetting → Prop
  | mask : Has settings t (.mask t.mask)
  | format : Has settings t (.format t.format)
  | mainBus : Has settings t (.mainBus t.mainBus)
  | auxBus : Has settings t (.auxBus t.auxBus)
  | downmix : Has settings t (.downmix t.downmix)
  | busFormat : Has settings t (.busFormat t.busFormat)
  | sampleRate : Has settings t (.sampleRate t.sampleRate)
  | mixRate : t.sampleRate = settings.sampleRate → t.resampler = none → Has settings t .mixRate
  | gain {name : GainName} {value gain : Float32} {ramped : Bool} :
      clampTrackGain? value = some gain →
      (t.volume.ramp name).Headed gain (if ramped then settings.rampFrames else 0) →
      Has settings t (.gain name value ramped)

/-- What a track has does not depend on its chain, nor on how far its gains and its resampler
are. -/
theorem Has.renewed {settings : Settings} {t : Track σ} {setting : TrackSetting}
    (has : t.Has settings setting) (chain : Option (Chain σ)) {resampler : Option Resampler}
    {volume : Volume} (unresampled : t.resampler = none → resampler = none)
    (heads : ∀ name gain frames, (t.volume.ramp name).Headed gain frames →
      (volume.ramp name).Headed gain frames) :
    ({ t with chain, resampler, volume } : Track σ).Has settings setting := by
  cases has with
  | mask => exact .mask
  | format => exact .format
  | mainBus => exact .mainBus
  | auxBus => exact .auxBus
  | downmix => exact .downmix
  | busFormat => exact .busFormat
  | sampleRate => exact .sampleRate
  | mixRate rate none_left => exact .mixRate rate (unresampled none_left)
  | gain clamped headed => exact .gain clamped (heads _ _ _ headed)

/-- A block leaves a track what it has. -/
theorem Has.moved [Provider σ] {settings : Settings} {t t' : Track σ} {setting : TrackSetting}
    (has : t.Has settings setting) (moved : Track.Moved t t')
    (volume : t'.volume = t.volume ∨ ∃ block heard, t'.volume = t.volume.afterBlock block heard) :
    t'.Has settings setting := by
  rw [moved.rest]
  refine has.renewed t'.chain ?_ ?_
  · intro none_left
    have same := moved.isSome_resampler
    rw [none_left] at same
    simpa using same
  · intro name gain frames headed
    rcases volume with same | ⟨block, heard, later⟩
    · rw [same]
      exact headed
    · rw [later]
      exact Volume.headed_afterBlock headed block heard

end Track

namespace Mixer

/-- A sound track has a layout that the mixer accepts. -/
theorem maskRefusal?_of_sound {m : Mixer σ} {t : Track σ} [Provider σ]
    (sound : t.Sound m.settings m.factory) : m.maskRefusal? t.mask t.downmix = none := by
  have layout :
      ¬ ((!t.mask.isValid || decide (maxDownmixChannels < t.mask.channelCount)) = true) := by
    simp [sound.valid, sound.few]
  unfold maskRefusal?
  rw [if_neg layout]
  by_cases many : maxMixChannels < t.mask.channelCount
  · obtain ⟨f, factory, supports⟩ := sound.supported many
    simp [supportsDownmix, factory, supports]
  · simp [many]

@[simp] theorem mask_withMask (settings : Settings) (t : Track σ) (mask : ChannelMask) :
    (withMask settings t mask).mask = mask := by
  simp only [withMask]
  split
  · rfl
  · rfl

/-- If a write succeeds, the track of the slot has the setting after it. -/
def Took (m : Mixer σ) (slot : Slot) (setting : TrackSetting)
    (answer : Except Refusal Bool × Mixer σ) : Prop :=
  ∀ changed, answer.1 = .ok changed →
    ∃ t, answer.2.track? slot = some t ∧ t.Has m.settings setting

section Took

variable {m : Mixer σ} {slot : Slot} {setting : TrackSetting}

theorem took_refused (why : Refusal) (m' : Mixer σ) : m.Took slot setting (.error why, m') :=
  nofun

theorem took_put {t : Track σ} (has : t.Has m.settings setting) (changed : Bool) :
    m.Took slot setting (.ok changed, m.setTrack slot (some t)) :=
  fun _ _ => ⟨t, track?_setTrack_self .., has⟩

theorem took_same {t : Track σ} (found : m.track? slot = some t) (has : t.Has m.settings setting) :
    m.Took slot setting (.ok false, m) :=
  fun _ _ => ⟨t, found, has⟩

theorem took_rebuilt [Provider σ] {t : Track σ}
    (has : ∀ chain, ({ t with chain } : Track σ).Has m.settings setting) :
    m.Took slot setting (match m.rebuild slot t with
      | (.ok (), m) => (.ok true, m)
      | (.error why, m) => (.error why, m)) := by
  obtain ⟨chain, writes, -⟩ := m.rebuild_spec slot t
  rcases result : m.rebuild slot t with ⟨_ | _, m'⟩
  · exact took_refused _ _
  · rw [result] at writes
    exact fun _ _ => ⟨_, writes.track?_self, has chain⟩

end Took

variable [Provider σ]

/-- A setting that is written is what the track has from then on. -/
theorem took_write (m : Mixer σ) {slot : Slot} {t : Track σ} (found : m.track? slot = some t)
    {setting : TrackSetting} (lasting : setting ≠ .restart) :
    m.Took slot setting (m.write slot t setting) := by
  cases setting with
  | mask mask =>
    simp only [write]
    cases m.maskRefusal? mask t.downmix with
    | some why => exact took_refused why m
    | none =>
      by_cases same : t.mask = mask
      · rw [if_pos same]
        exact took_same found (same ▸ .mask)
      · rw [if_neg same]
        cases misfitAfter? t mask t.format with
        | some why => exact took_refused why m
        | none =>
          have masked := mask_withMask m.settings t mask
          generalize withMask m.settings t mask = t' at masked ⊢
          subst masked
          exact took_rebuilt fun _ => .mask
  | format format =>
    simp only [write]
    by_cases same : t.format = format
    · rw [if_pos same]
      exact took_same found (same ▸ .format)
    · rw [if_neg same]
      cases misfitAfter? t t.mask format with
      | some why => exact took_refused why m
      | none => exact took_rebuilt fun _ => .format
  | mainBus bus =>
    simp only [write]
    by_cases known : bus < m.mainBuses.length
    · rw [if_pos known]
      exact took_put (t := { t with mainBus := bus }) .mainBus _
    · rw [if_neg known]
      exact took_refused _ m
  | auxBus bus =>
    cases bus with
    | none => exact took_put (t := { t with auxBus := none }) .auxBus _
    | some bus =>
      simp only [write]
      by_cases known : bus < m.auxBuses.length
      · rw [if_pos known]
        exact took_put (t := { t with auxBus := some bus }) .auxBus _
      · rw [if_neg known]
        exact took_refused _ m
  | downmix mode =>
    simp only [write]
    by_cases same : t.downmix = mode
    · rw [if_pos same]
      exact took_same found (same ▸ .downmix)
    · rw [if_neg same]
      cases m.maskRefusal? t.mask mode with
      | some why => exact took_refused why m
      | none =>
        by_cases many : maxMixChannels < t.mask.channelCount
        · simp only [many, if_true]
          exact took_rebuilt fun _ => .downmix
        · simp only [many]
          exact took_put (t := { t with downmix := mode }) .downmix _
  | busFormat format => exact took_put (t := { t with busFormat := format }) .busFormat _
  | sampleRate rate =>
    simp only [write]
    by_cases outside : rate = 0 ∨ m.settings.maxTrackRate < rate
    · rw [if_pos outside]
      exact took_refused _ m
    · rw [if_neg outside]
      by_cases same : t.sampleRate = rate
      · rw [if_pos same]
        exact took_same found (same ▸ .sampleRate)
      · rw [if_neg same]
        exact took_put (t := withRate m.settings t rate) .sampleRate _
  | restart => exact absurd rfl lasting
  | mixRate =>
    exact took_put (t := { t with sampleRate := m.settings.sampleRate, resampler := none })
      (.mixRate rfl rfl) _
  | gain name value ramped =>
    simp only [write]
    cases clamped : clampTrackGain? value with
    | none => exact took_refused _ m
    | some gain =>
      obtain ⟨v, there, -⟩ := isGain_of_clamp clamped
      have headed := Ramp.headed_steer ((Single.beq_iff there there).mpr rfl)
        (if ramped then m.settings.rampFrames else 0) (t.volume.ramp name)
      rw [← t.volume.ramp_modify_self name (Ramp.steer gain _)] at headed
      exact took_put (t := { t with volume := t.volume.modify name (Ramp.steer gain _) })
        (.gain clamped headed) _

/-- A track that has a setting is left alone by another write of it, and the plan may be kept. -/
theorem write_of_has {m : Mixer σ} (wf : WellFormed m) {slot : Slot} {t : Track σ}
    (found : m.track? slot = some t) {setting : TrackSetting} (has : t.Has m.settings setting) :
    m.write slot t setting = (.ok false, m) := by
  have sound := wf.sound slot t found
  have back : m.setTrack slot (some t) = m := setTrack_self m found
  cases has with
  | mask => simp only [write, maskRefusal?_of_sound sound, if_true]
  | format => exact if_pos rfl
  | mainBus =>
    have known : t.mainBus < m.mainBuses.length := wf.mainBuses ▸ sound.mainBus
    simp only [write, if_pos known, bne_self_eq_false, back]
  | auxBus =>
    obtain ⟨bus, routed⟩ : ∃ bus, t.auxBus = bus := ⟨_, rfl⟩
    have same : { t with auxBus := bus } = t := by rw [← routed]
    rw [routed]
    cases bus with
    | none => simp only [write, routed, bne_self_eq_false, same, back]
    | some bus =>
      have known : bus < m.auxBuses.length := wf.auxBuses ▸ sound.auxBus bus routed
      simp only [write, if_pos known, routed, bne_self_eq_false, same, back]
  | downmix => exact if_pos rfl
  | busFormat => simp only [write, bne_self_eq_false, back]
  | sampleRate =>
    have inside : ¬ (t.sampleRate = 0 ∨ m.settings.maxTrackRate < t.sampleRate) :=
      not_or.mpr ⟨sound.rate_pos, UInt32.not_lt.mpr sound.rate_le⟩
    simp only [write, if_neg inside, if_true]
  | mixRate rate unresampled =>
    have same : { t with sampleRate := m.settings.sampleRate, resampler := none } = t := by
      rw [← rate, ← unresampled]
    simp only [write, same, unresampled, Option.isSome_none, back]
  | @gain name value gain ramped clamped headed =>
    have same : t.volume.modify name
        (Ramp.steer gain (if ramped then m.settings.rampFrames else 0)) = t.volume :=
      Volume.modify_eq headed.steer_eq
    simp only [write, clamped]
    show (Except.ok
        (({ t with volume := t.volume.modify name (Ramp.steer gain _) } : Track σ).demands
          != t.demands), m.setTrack slot (some { t with
        volume := t.volume.modify name (Ramp.steer gain _) })) = _
    rw [same, bne_self_eq_false, back]

/-- The track of a slot has a setting. -/
def Holds (m : Mixer σ) (slot : Slot) (setting : TrackSetting) : Prop :=
  ∃ t, m.track? slot = some t ∧ t.Has m.settings setting

/-- A setting that is written successfully is held. -/
theorem holds_set {m : Mixer σ} {slot : Slot} {setting : TrackSetting}
    (lasting : setting ≠ .restart) (written : (m.set slot setting).1 = .ok ()) :
    ∃ t, (m.set slot setting).2.track? slot = some t ∧ t.Has m.settings setting := by
  unfold set withTrack at written ⊢
  cases found : m.track? slot with
  | none =>
    rw [found] at written
    nomatch written
  | some t =>
    have took := took_write m found lasting
    simp only [found] at written ⊢
    rcases result : m.write slot t setting with ⟨why | _ | _, m'⟩
    · rw [result] at written
      nomatch written
    · rw [result] at took
      exact took _ rfl
    · rw [result] at took
      exact took _ rfl

/-- Writing a setting that is held changes nothing. -/
theorem set_of_holds {m : Mixer σ} (wf : WellFormed m) {slot : Slot} {setting : TrackSetting}
    (holds : m.Holds slot setting) : m.set slot setting = (.ok (), m) := by
  obtain ⟨t, found, has⟩ := holds
  simp only [set, withTrack, found, write_of_has wf found has]

/-- A setting that is held stays, as long as no call configures the track. -/
theorem Reachable.holds_act {m : Mixer σ} (reachable : Reachable m) {slot : Slot}
    {setting : TrackSetting} (holds : m.Holds slot setting) {action : Action σ}
    (apart : ¬ action.Configure slot) : (m.act action).Holds slot setting := by
  have wf := reachable.wellFormed
  obtain ⟨t, found, has⟩ := holds
  unfold Holds
  rw [wf.settings_act action]
  rcases wf.act_cases action with ⟨pts, rfl, rendered⟩ | ⟨place, after, keeps, writes, edit⟩
  · obtain ⟨t', there, volume⟩ := reachable.volume_render found pts
    have moved : Track.Moved t t' := by
      obtain ⟨u, had, moved⟩ := exists_before (rendered.tracks slot) there
      obtain rfl : u = t := Option.some.inj (had.symm.trans found)
      exact moved
    refine ⟨t', there, has.moved moved ?_⟩
    rcases volume with ⟨same, -⟩ | ⟨heard, -, later⟩
    · exact .inl same
    · exact .inr ⟨_, heard, later⟩
  · by_cases here : slot = place
    · subst here
      rw [writes.track?_self]
      rw [found] at edit
      generalize before : some t = was at edit
      cases edit with
      | same _ _ _ _ => exact ⟨t, before.symm, has⟩
      | allocated _ _ _ _ _ => nomatch before
      | freed _ => exact absurd rfl apart
      | switched _ _ => exact absurd rfl apart
      | attached _ _ _ _ => exact absurd rfl apart
      | outside u _ =>
        obtain rfl := Option.some.inj before
        exact ⟨_, rfl, has.renewed _ id fun _ _ _ => id⟩
      | written _ _ _ _ _ => exact absurd rfl apart
    · exact ⟨t, (writes.track?_ne here).trans found, has⟩

theorem Reachable.holds_run {m : Mixer σ} (reachable : Reachable m) {slot : Slot}
    {setting : TrackSetting} (holds : m.Holds slot setting) {actions : List (Action σ)}
    (apart : ∀ action ∈ actions, ¬ action.Configure slot) : (m.run actions).Holds slot setting := by
  induction actions generalizing m with
  | nil => exact holds
  | cons action rest ih =>
    exact ih (.act action reachable) (reachable.holds_act holds (apart action List.mem_cons_self))
      fun later member => apart later (List.mem_cons_of_mem _ member)

/-- Once a setting of a track was written, writing it again succeeds and changes nothing at all, not
even the plan that is kept, whatever was done to the mixer in between except for configuring the
track. -/
theorem Reachable.set_again {m : Mixer σ} (reachable : Reachable m) {slot : Slot}
    {setting : TrackSetting} (lasting : setting ≠ .restart)
    (written : (m.set slot setting).1 = .ok ()) {between : List (Action σ)}
    (apart : ∀ action ∈ between, ¬ action.Configure slot) :
    ((m.set slot setting).2.run between).set slot setting =
      (.ok (), (m.set slot setting).2.run between) := by
  have reached : Reachable (m.set slot setting).2 := .act (.set slot setting) reachable
  have held : (m.set slot setting).2.Holds slot setting := by
    obtain ⟨t, there, has⟩ := holds_set lasting written
    refine ⟨t, there, ?_⟩
    rw [show (m.set slot setting).2.settings = m.settings from
      reachable.wellFormed.settings_act (.set slot setting)]
    exact has
  exact set_of_holds (reached.run between).wellFormed (reached.holds_run held apart)

/-- A gain is ramped to silence, another track is added, and blocks are mixed until half of the ramp
has gone by: ramping the gain to silence again leaves it on its way. -/
theorem Reachable.set_again_halfway :
    let slot : Slot := ⟨0, by decide⟩
    let other : Slot := ⟨1, by decide⟩
    let clip : Clip := .ofSamples 1 (.float (Array.replicate 6 0.5)) true
    let setup : List (Action Clip) := [.allocate .mono .float 0, .attach slot (some clip),
      .setEnabled slot true, .render none]
    let setting : TrackSetting := .gain .left 0 true
    let between : List (Action Clip) := [.render none, .allocate .stereo .pcm16 1,
      .set other (.sampleRate 44100), .outside slot (Provider.release · 1), .setEnabled other true,
      .render none]
    ∃ start, Mixer.new { frameCount := 4, rampFrames? := some 16 } none = .ok start ∧
      ((start.run setup).set slot setting).1 = .ok () ∧
      (∀ action ∈ between, ¬ action.Configure slot) ∧
      ((((start.run setup).set slot setting).2.run between).track? slot).map
        (fun t => (t.volume.left.current, t.volume.left.remaining)) = some (0.5, 8) ∧
      (((start.run setup).set slot setting).2.run between).set slot setting =
        (.ok (), ((start.run setup).set slot setting).2.run between) := by
  intro slot other clip setup setting between
  have apart : ∀ action ∈ between, ¬ action.Configure slot := by
    intro action member
    simp only [between, List.mem_cons, List.not_mem_nil, or_false] at member
    rcases member with rfl | rfl | rfl | rfl | rfl | rfl <;> simp [Action.Configure, slot, other]
  have lasting : setting ≠ .restart := by simp [setting]
  obtain ⟨start, built, written, halfway⟩ :
      ∃ start, Mixer.new { frameCount := 4, rampFrames? := some 16 } none = .ok start ∧
        ((start.run setup).set slot setting).1.isOk = true ∧
        ((((start.run setup).set slot setting).2.run between).track? slot).map
          (fun t => (t.volume.left.current, t.volume.left.remaining)) = some (0.5, 8) :=
    ⟨_, rfl, by decide +kernel, by decide +kernel⟩
  have written : ((start.run setup).set slot setting).1 = .ok () := by
    generalize ((start.run setup).set slot setting).1 = answer at written
    cases answer with
    | error _ => cases written
    | ok _ => rfl
  exact ⟨start, built, written, apart, halfway,
    Reachable.set_again ((Reachable.new built).run setup) lasting written apart⟩

end Mixer

end Mixdown
