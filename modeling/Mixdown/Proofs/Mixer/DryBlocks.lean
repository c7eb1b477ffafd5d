import Mixdown.Proofs.Gain.Skipping
import Mixdown.Proofs.Mixer.RampTime

/-!
# Blocks that run dry

The gains of a track that is resampled are stepped through the silence that ends a block, and those
of a track that is not skip it (`Reachable.dry_block`). Either way a gain has the same target and as
many frames left, and a gain that has come to rest is the same. On its way it may differ in the last
places (`skip_differs`).
-/

namespace Mixdown

/-- Frames are read whatever the gains are. -/
theorem Track.read_withVolume {σ : Type} [Provider σ] (input : MixFormat) (channels : Channels)
    (frames : Nat) (rate : UInt32) (pts : Option Int) (t : Track σ) (volume : Volume) :
    (Track.read input channels frames rate pts { t with volume }).1 =
      (t.read input channels frames rate pts).1 := by
  unfold Track.read
  cases t.chain with
  | none => rfl
  | some chain => rfl

namespace Mixer

variable {σ : Type} [Provider σ] {m : Mixer σ}

/-- What skipping has in common with stepping holds of every ramp of a track, and at the end of a
block that ran dry the gains differ by that from those after silence, which is what a resampled
track has. -/
theorem Reachable.dry_block (reachable : Reachable m) {slot : Slot} {t : Track σ}
    (found : m.track? slot = some t) :
    (∀ heard name n, ((t.volume.after heard).ramp name).Skips n) ∧
      ∀ input channels rate pts,
        let frames := m.settings.frameCount
        let heard := (t.read input channels frames rate pts).1
        let missing := frames - heard.length
        let dry := (t.playDirect input channels frames rate pts).track.volume
        let full := (t.volume.play channels (heard ++ List.replicate missing (.both 0))).2
        (t.playResampled channels frames pts).track.volume = full ∧
          heard.length ≤ frames ∧ (missing = 0 → dry = full) ∧
          (0 < missing → ∀ name,
            dry.ramp name = ((t.volume.after heard.length).ramp name).skip missing ∧
            full.ramp name = ((t.volume.after heard.length).ramp name).after missing) := by
  have landed := (reachable.wellFormed.sound slot t found).volume
  refine ⟨fun heard name n => ((landed.after heard).ramp name).skips n, ?_⟩
  intro input channels rate pts frames heard missing dry full
  have few : heard.length ≤ frames := t.length_read input channels frames rate pts
  have whole : full = t.volume.after frames := by
    simp only [full, missing, Volume.play_snd, List.length_append, List.length_replicate,
      Nat.add_sub_cancel' few]
  have short : dry = t.volume.afterBlock frames heard.length :=
    t.playDirect_volume input channels frames rate pts
  refine ⟨(t.playResampled_volume channels frames pts).trans whole.symm, few, ?_, ?_⟩
  · intro none
    obtain all : heard.length = frames := Nat.le_antisymm few (Nat.le_of_sub_eq_zero none)
    rw [short, whole, all, Volume.afterBlock_full]
  · intro some_missing name
    refine ⟨?_, ?_⟩
    · rw [short, Volume.afterBlock_short _ (Nat.lt_of_sub_pos some_missing), Volume.ramp_skip]
    · rw [whole, Volume.ramp_after, Volume.ramp_after, ← Ramp.after_add, Nat.add_sub_cancel' few]

/-- A clip of two frames runs dry in a block of four, while a gain is faded out in eight. -/
theorem Reachable.dry_block_eighths :
    let slot : Slot := ⟨0, by decide⟩
    ∃ m : Mixer Clip, Reachable m ∧ m.settings.frameCount = 4 ∧ ∃ t, m.track? slot = some t ∧
      (t.read .float .mono 4 48000 none).1.length = 2 ∧
      t.volume.left = (Ramp.settled 1).moveTo 0 8 ∧
      let dry := (t.playDirect .float .mono 4 48000 none).track.volume.left
      let full := (t.playResampled .mono 4 none).track.volume.left
      dry.isMoving = true ∧ dry.target = full.target ∧ dry.remaining = full.remaining ∧
        (dry.current == full.current) = true := by
  intro slot
  let clip := Clip.ofSamples 1 (.float #[1, 1]) false
  have clamped : clampTrackGain? 0 = some 0 := by decide +kernel
  obtain ⟨m, reachable, frames, ramp, t, found, volume, short⟩ : ∃ m : Mixer Clip, Reachable m ∧
      m.settings.frameCount = 4 ∧ m.settings.rampFrames = 8 ∧ ∃ t, m.track? slot = some t ∧
      t.volume = .unity ∧ (t.read .float .mono 4 48000 none).1.length = 2 :=
    ⟨_, .run (.new (rfl : Mixer.new { frameCount := 4, rampFrames? := some 8 } none = .ok _))
      [.allocate .mono .float 0, .attach slot (some clip), .setEnabled slot true], rfl, rfl,
      _, rfl, rfl, by decide +kernel⟩
  have moved := track?_set_gain found .left clamped true
  rw [if_pos rfl, ramp, volume] at moved
  have left : (Volume.unity.modify .left (Ramp.steer 0 8)).left = (Ramp.settled 1).moveTo 0 8 := rfl
  have started : Reachable (m.run [.set slot (.gain .left 0 true)]) := reachable.run _
  have block : (m.run [.set slot (.gain .left 0 true)]).settings.frameCount = 4 := by
    rw [reachable.wellFormed.settings_run, frames]
  obtain ⟨u, had, same, heard⟩ : ∃ u : Track Clip,
      (m.run [.set slot (.gain .left 0 true)]).track? slot = some u ∧
      u.volume.left = (Ramp.settled 1).moveTo 0 8 ∧
      (u.read .float .mono 4 48000 none).1.length = 2 :=
    ⟨_, moved, left, by rw [Track.read_withVolume, short]⟩
  refine ⟨_, started, block, u, had, heard, same, ?_⟩
  have skips := (Reachable.dry_block started had).1 2 .left 2
  have blocks := (Reachable.dry_block started had).2 .float .mono 48000 none
  simp only [block, heard] at blocks
  obtain ⟨resampled, -, -, ends⟩ := blocks
  obtain ⟨dry, full⟩ := ends (by decide) .left
  have fade : (u.volume.after 2).ramp .left = ((Ramp.settled 1).moveTo 0 8).after 2 := by
    rw [Volume.ramp_after]
    exact congrArg (Ramp.after · 2) same
  rw [fade] at skips dry full
  have moderate : (((Ramp.settled 1).moveTo 0 8).after 2).Moderate 2 ((6 : ℤ) * 2 ^ (-3 : ℤ))
      ((-1 : ℤ) * 2 ^ (-3 : ℤ)) := by
    have current := Single.value?_nearest (n := 6) (e := -3) (by decide) (by decide) (by decide)
    have increment := Single.value?_nearest (n := -1) (e := -3) (by decide) (by decide) (by decide)
    rw [show Single.nearest 6 (-3) = (((Ramp.settled 1).moveTo 0 8).after 2).current by
      decide +kernel] at current
    rw [show Single.nearest (-1) (-3) = (((Ramp.settled 1).moveTo 0 8).after 2).increment by
      decide +kernel] at increment
    exact ⟨current, increment, by norm_num [abs_of_pos], by norm_num, by decide⟩
  have eighths : Ramp.Unrounded 2 ((6 : ℤ) * 2 ^ (-3 : ℤ)) ((-1 : ℤ) * 2 ^ (-3 : ℤ)) :=
    Ramp.unrounded_of_grid (by decide) (by decide)
  obtain ⟨a, b, skipped, stepped, -, equal⟩ := skips.near _ _ (by decide +kernel) moderate
  have dry : (u.playDirect .float .mono 4 48000 none).track.volume.left = _ := dry
  have full : (u.playResampled .mono 4 none).track.volume.left = _ :=
    (congrArg Volume.left resampled).trans full
  rw [dry, full]
  exact ⟨by decide +kernel, skips.target, skips.remaining,
    (Single.beq_iff skipped stepped).mpr (equal eighths)⟩

/-- A gain that is faded out in three frames is not the same after a block of two frames that were
missing as after silence. -/
theorem skip_differs :
    let slot : Slot := ⟨0, by decide⟩
    ∃ m : Mixer Clip, Reachable m ∧ m.settings.frameCount = 2 ∧ ∃ t, m.track? slot = some t ∧
      t.enabled = true ∧ (t.read .float .mono 2 48000 none).1 = [] ∧
      t.volume.left = (Ramp.settled 1).moveTo 0 3 ∧
      let dry := (t.playDirect .float .mono 2 48000 none).track.volume.left
      let full := (t.volume.play .mono [.both 0, .both 0]).2.left
      dry = t.volume.left.skip 2 ∧ full = t.volume.left.after 2 ∧
        (dry.current == full.current) = false := by
  intro slot
  let clip := Clip.ofSamples 1 (.float #[]) false
  have clamped : clampTrackGain? 0 = some 0 := by decide +kernel
  obtain ⟨m, reachable, frames, ramp, t, found, volume, on, dry⟩ : ∃ m : Mixer Clip, Reachable m ∧
      m.settings.frameCount = 2 ∧ m.settings.rampFrames = 3 ∧ ∃ t, m.track? slot = some t ∧
      t.volume = .unity ∧ t.enabled = true ∧
      (t.read .float .mono 2 48000 none).1.length = 0 :=
    ⟨_, .run (.new (rfl : Mixer.new { frameCount := 2, rampFrames? := some 3 } none = .ok _))
      [.allocate .mono .float 0, .attach slot (some clip), .setEnabled slot true], rfl, rfl,
      _, rfl, rfl, rfl, by decide +kernel⟩
  have moved := track?_set_gain found .left clamped true
  rw [if_pos rfl, ramp, volume] at moved
  have left : (Volume.unity.modify .left (Ramp.steer 0 3)).left = (Ramp.settled 1).moveTo 0 3 := rfl
  have silent : (t.read .float .mono 2 48000 none).1 = [] := List.eq_nil_of_length_eq_zero dry
  refine ⟨m.run [.set slot (.gain .left 0 true)], reachable.run _, ?_, _, moved, on, ?_, left, ?_⟩
  · rw [reachable.wellFormed.settings_run, frames]
  · rw [Track.read_withVolume, silent]
  · have skipped (v : Volume) : (v.afterBlock 2 0).left = v.left.skip 2 := rfl
    have stepped (v : Volume) : (v.play .mono [.both 0, .both 0]).2.left = v.left.after 2 := rfl
    rw [Track.playDirect_volume, Track.read_withVolume, silent, List.length_nil, skipped, stepped,
      left]
    exact ⟨rfl, rfl, by decide +kernel⟩

end Mixer

end Mixdown
