import Mixdown.Proofs.Gain.Frames
import Mixdown.Proofs.Mixer.Actions

/-!
# Gains that are written

The calls that write a gain, and what they make of its ramp. A call leaves the ramps of a track as
they are, or allocates the track with its gains at unity, or steers one of them to a gain that was
accepted (`Writes.ramp_cases`).
-/

namespace Mixdown

variable {σ : Type}

namespace Action

/-- The action writes a gain of a slot, or empties the slot. -/
def Rewrites (slot : Slot) (name : GainName) : Action σ → Prop
  | .set other (.gain gain _ _) => other = slot ∧ gain = name
  | .free other => other = slot
  | _ => False

end Action

namespace Mixer

variable [Provider σ]

/-- A setting that is written leaves a gain alone, unless it is that gain. -/
theorem Written.ramp_eq {m : Mixer σ} {t t' : Track σ} {setting : TrackSetting} {keeps : Bool}
    (written : Written m t setting t' keeps) {name : GainName}
    (other : ∀ value ramped, setting ≠ .gain name value ramped) :
    t'.volume.ramp name = t.volume.ramp name := by
  cases written with
  | same _ _ _ => rfl
  | mask mask chain _ _ =>
    simp only [withMask]
    split
    · rfl
    · rfl
  | format _ _ _ => rfl
  | mainBus _ _ => rfl
  | auxBus _ _ => rfl
  | downmix _ _ _ _ _ => rfl
  | busFormat _ => rfl
  | sampleRate _ _ _ _ => rfl
  | restart => rfl
  | mixRate => rfl
  | gain written value ramped _ _ _ _ _ =>
    refine Volume.ramp_modify_ne _ ?_ _
    rintro rfl
    exact other value ramped rfl

/-- A call that neither writes a gain of a track nor frees its slot leaves the gain alone. -/
theorem Edit.ramp_eq {m : Mixer σ} {slot : Slot} {action : Action σ} {t : Track σ}
    {after : Option (Track σ)} {keeps : Bool} (edit : Edit m slot action (some t) after keeps)
    {name : GainName} (leaves : ¬ action.Rewrites slot name) :
    ∃ t', after = some t' ∧ t'.volume.ramp name = t.volume.ramp name := by
  cases edit with
  | same _ _ _ _ => exact ⟨t, rfl, rfl⟩
  | freed _ => exact absurd rfl leaves
  | switched _ _ => exact ⟨_, rfl, rfl⟩
  | attached _ _ _ _ => exact ⟨_, rfl, rfl⟩
  | outside _ _ => exact ⟨_, rfl, rfl⟩
  | written _ t' setting _ written =>
    refine ⟨t', rfl, written.ramp_eq ?_⟩
    rintro value ramped rfl
    exact leaves ⟨rfl, rfl⟩

/-- The track after one of its gains was written. -/
theorem track?_set_gain {m : Mixer σ} {slot : Slot} {t : Track σ} (found : m.track? slot = some t)
    (name : GainName) {value gain : Float32} (clamped : clampTrackGain? value = some gain)
    (ramped : Bool) :
    (m.set slot (.gain name value ramped)).2.track? slot = some { t with
      volume := t.volume.modify name
        (Ramp.steer gain (if ramped then m.settings.rampFrames else 0)) } := by
  simp only [set, withTrack, found, write, clamped]
  split
  · rename_i written
    obtain ⟨-, rfl⟩ := Prod.mk.inj written
    exact track?_setTrack_self ..
  · rename_i written
    obtain ⟨-, rfl⟩ := Prod.mk.inj written
    exact track?_setTrack_self ..
  · rename_i refused
    cases (Prod.mk.inj refused).1

/-- What a call other than `render` makes of a gain of a track. -/
theorem Writes.ramp_cases {m : Mixer σ} {action : Action σ} {place slot : Slot}
    {after : Option (Track σ)} {keeps : Bool} (writes : Writes m (m.act action) place after keeps)
    (edit : Edit m place action (m.track? place) after keeps) {t : Track σ}
    (found : (m.act action).track? slot = some t) (name : GainName) :
    t.volume = .unity ∨ ∃ u, m.track? slot = some u ∧
      (t.volume.ramp name = u.volume.ramp name ∨
        ∃ value ramped gain, action = .set slot (.gain name value ramped) ∧
          clampTrackGain? value = some gain ∧ t.volume.ramp name =
            (u.volume.ramp name).steer gain (if ramped then m.settings.rampFrames else 0)) := by
  by_cases here : slot = place
  · subst here
    obtain rfl : after = some t := writes.track?_self.symm.trans found
    generalize before : m.track? slot = had at edit
    cases edit with
    | same _ _ _ _ => exact .inr ⟨t, rfl, .inl rfl⟩
    | allocated _ _ _ _ _ => exact .inl rfl
    | switched u _ => exact .inr ⟨u, rfl, .inl rfl⟩
    | attached u _ _ _ => exact .inr ⟨u, rfl, .inl rfl⟩
    | outside u _ => exact .inr ⟨u, rfl, .inl rfl⟩
    | written u _ setting _ written =>
      refine .inr ⟨u, rfl, ?_⟩
      by_cases gains : ∃ value ramped, setting = .gain name value ramped
      · obtain ⟨value, ramped, rfl⟩ := gains
        cases written with
        | same _ _ _ => exact .inl rfl
        | gain _ _ _ gain _ _ clamped _ =>
          have there := track?_set_gain before name clamped ramped
          rw [Option.some.inj (found.symm.trans there)]
          exact .inr ⟨value, ramped, gain, rfl, clamped, Volume.ramp_modify_self _ _ _⟩
      · exact .inl (written.ramp_eq fun value ramped same => gains ⟨value, ramped, same⟩)
  · exact .inr ⟨t, (writes.track?_ne here).symm.trans found, .inl rfl⟩

end Mixer

end Mixdown
