import Mixdown.Proofs.Gain.Bounds
import Mixdown.Proofs.Gain.Monotone
import Mixdown.Proofs.Mixer.RampTime

/-!
# The gains of a mixer

A gain that is ramped ends exactly on the new gain, and the gains before never turn back. Rounding
may carry them past the new gain for as long as the ramp lasts (`gain_passes_unity`). They stay
between the two gains if the last of them does, which is so for every gentle way; and if every ramp
is asked to go a gentle way, no gain that any track ever has lies outside of silence and unity
(`run_gains_inside`).
-/

namespace Mixdown

open Single (value?)

variable {σ : Type}

/-- A gain that the action ramps has a gentle way to go, or none. -/
def Action.Eases (m : Mixer σ) : Action σ → Prop
  | .set slot (.gain name value true) => ∀ t gain, m.track? slot = some t →
      clampTrackGain? value = some gain → (t.volume.ramp name).Eases gain m.settings.rampFrames
  | _ => True

namespace Mixer

variable [Provider σ] {m : Mixer σ}

/-- Every ramp of every track is on course. -/
def OnCourse (m : Mixer σ) : Prop := ∀ slot t, m.track? slot = some t → t.volume.OnCourse

/-- What is done to a mixer keeps the ramps on course, if it does not send one along a way that is
too steep for its frames. -/
theorem Reachable.onCourse_act (reachable : Reachable m) (onCourse : m.OnCourse)
    {action : Action σ} (eases : action.Eases m) : (m.act action).OnCourse := by
  intro slot t after
  rcases reachable.wellFormed.act_cases action with ⟨pts, rfl, rendered⟩ |
    ⟨place, after', keeps, writes, edit⟩
  · obtain ⟨u, found⟩ : ∃ u, m.track? slot = some u := by
      have tracks : Option.Rel Track.Moved (m.track? slot) ((m.act (.render pts)).track? slot) :=
        rendered.tracks slot
      rw [after] at tracks
      cases found : m.track? slot with
      | some u => exact ⟨u, rfl⟩
      | none =>
        rw [found] at tracks
        cases tracks
    obtain ⟨t', there, ⟨same, -⟩ | ⟨heard, few, moved⟩⟩ := reachable.volume_render found pts
    · obtain rfl := Option.some.inj (there.symm.trans after)
      rw [same]
      exact onCourse slot u found
    · obtain rfl := Option.some.inj (there.symm.trans after)
      rw [moved]
      exact (onCourse slot u found).afterBlock few
  · intro name
    rcases writes.ramp_cases edit after name with
      fresh | ⟨u, found, same | ⟨value, ramped, gain, rfl, clamped, steered⟩⟩
    · rw [fresh]
      exact Volume.onCourse_unity name
    · rw [same]
      exact onCourse slot u found name
    · rw [steered]
      refine (onCourse slot u found name).steer (isGain_of_clamp clamped) ?_
      cases ramped with
      | true => exact eases u gain found clamped
      | false => exact .inl rfl

/-- In a run whose ramps all go gentle ways, every ramp stays on course. -/
theorem onCourse_run {settings : Settings} {factory : Option DownmixFactory}
    (made : Mixer.new settings factory = .ok m) (actions : List (Action σ))
    (eases : ∀ earlier action later, actions = earlier ++ action :: later →
      action.Eases (m.run earlier)) : (m.run actions).OnCourse := by
  induction actions using List.reverseRecOn with
  | nil =>
    obtain ⟨-, -, -, -, empty, -⟩ := new_spec made
    intro slot t found
    cases (empty slot).symm.trans found
  | append_singleton before action ih =>
    rw [run_snoc]
    have reachable : Reachable (m.run before) := (Reachable.new made).run before
    refine reachable.onCourse_act (ih ?_) (eases before action [] rfl)
    intro earlier action' later same
    exact eases earlier action' (later ++ [action]) (by simp [same])

/-- A gain that is moved to another in so many frames ends on it exactly, and never turns back
before. It stays between the two gains if its last value before the end does, and it does so on a
gentle way. In a run in which every gain that is ramped has a gentle way to go, all gains that a
track has at any frame are between silence and unity. -/
theorem run_gains_inside :
    (∀ (r : Ramp) (gain : Float32) (frames : ℕ) (v₀ v₁ : ℚ), value? r.current = some v₀ →
      value? gain = some v₁ → 0 ≤ v₀ ∧ v₀ ≤ 1 → 0 ≤ v₁ ∧ v₁ ≤ 1 → 0 < frames →
      (gain == r.target) = false → (gain == r.current) = false →
      (r.moveTo gain frames).Travels v₀ v₁ gain frames) ∧
    ∀ (settings : Settings) (factory : Option DownmixFactory) (m : Mixer σ),
      Mixer.new settings factory = .ok m → ∀ actions : List (Action σ),
      (∀ earlier action later, actions = earlier ++ action :: later →
        action.Eases (m.run earlier)) →
      ∀ slot t, (m.run actions).track? slot = some t →
        ∀ name i, IsGain ((t.volume.after i).ramp name).current := by
  refine ⟨fun r gain frames v₀ v₁ from_here to_there start_inside goal_inside pos target current =>
    Ramp.travels_moveTo from_here to_there start_inside goal_inside pos target current, ?_⟩
  intro settings factory m made actions eases slot t found name i
  exact ((onCourse_run made actions eases slot t found).after i name).current

/-- A gain that is moved from silence to unity in eight frames, and a send that is ramped in five
while a clip of three frames runs dry in the second block of two. -/
theorem run_gains_inside_dry :
    let slot : Slot := ⟨0, by decide⟩
    let clip := Clip.ofSamples 1 (.float #[1, 1, 1]) false
    let actions : List (Action Clip) := [.allocate .mono .float 0, .set slot (.gain .aux 0.5 true),
      .attach slot (some clip), .setEnabled slot true, .render none, .render none]
    ((Ramp.settled 0).moveTo 1 8).StaysBetween 0 1 ∧
      ∃ m : Mixer Clip, Mixer.new { frameCount := 2, rampFrames? := some 5 } none = .ok m ∧
        (m.run actions).underruns = 1 ∧
        ∃ t, (m.run actions).track? slot = some t ∧ (t.volume.ramp .aux).isMoving = true ∧
          ∀ name i, IsGain ((t.volume.after i).ramp name).current := by
  intro slot clip actions
  have gentle : Gentle 0 1 8 := by
    unfold Gentle
    norm_num
  have gentle_half : Gentle 0 (1 * 2 ^ (-1 : ℤ)) 5 := by
    unfold Gentle
    norm_num [abs_of_pos]
  have half : value? 0.5 = some (1 * 2 ^ (-1 : ℤ)) := by
    have value := Single.value?_nearest (n := 1) (e := -1) (by decide) (by decide) (by decide)
    rwa [show Single.nearest 1 (-1) = 0.5 by decide +kernel, Int.cast_one] at value
  have half_clamped : clampTrackGain? 0.5 = some 0.5 := by decide +kernel
  refine ⟨((run_gains_inside (σ := Clip)).1 (.settled 0) 1 8 0 1 Single.value?_zero
    Single.value?_one (by norm_num) (by norm_num) (by decide) (by decide +kernel)
    (by decide +kernel)).inside gentle, ?_⟩
  obtain ⟨m, made, frames, dry, moving, fresh⟩ : ∃ m : Mixer Clip,
      Mixer.new { frameCount := 2, rampFrames? := some 5 } none = .ok m ∧
      (m.run [.allocate .mono .float 0]).settings.rampFrames = 5 ∧
      (m.run actions).underruns = 1 ∧
      (((m.run actions).track? slot).any fun t => (t.volume.ramp .aux).isMoving) = true ∧
      ∀ t, (m.run [.allocate .mono .float 0]).track? slot = some t → t.volume = .unity := by
    refine ⟨_, rfl, rfl, by decide +kernel, by decide +kernel, ?_⟩
    intro t found
    obtain rfl := Option.some.inj found
    rfl
  obtain ⟨t, found, moving⟩ := (Option.any_eq_true _ _).mp moving
  refine ⟨m, made, dry, t, found, moving, ?_⟩
  refine (run_gains_inside (σ := Clip)).2 _ _ m made actions ?_ slot t found
  intro earlier action later same
  rcases earlier with _ | ⟨first, _ | ⟨second, rest⟩⟩
  · obtain ⟨rfl, -⟩ := List.cons.inj same
    trivial
  · obtain ⟨rfl, others⟩ := List.cons.inj same
    obtain ⟨rfl, -⟩ := List.cons.inj others
    intro u gain had clamped
    rw [fresh u had, ← Option.some.inj (half_clamped.symm.trans clamped), frames]
    exact .inr (.inr (.inr ⟨0, _, Single.value?_zero, half, gentle_half⟩))
  · have others := (List.cons.inj (List.cons.inj same).2).2
    have member : action ∈ [.attach slot (some clip), .setEnabled slot true, .render none,
        .render none] := others ▸ List.mem_append_right rest List.mem_cons_self
    simp only [List.mem_cons, List.not_mem_nil, or_false] at member
    rcases member with rfl | rfl | rfl | rfl
    · trivial
    · trivial
    · trivial
    · trivial

/-- A gain of twelve units of the last place below unity that is moved to unity in eight frames is
greater than unity at the last of them. -/
theorem gain_passes_unity :
    let near := Float32.ofBits 0x3F7FFFF4
    let slot : Slot := ⟨0, by decide⟩
    clampTrackGain? near = some near ∧ near < 1 ∧
      ((((Ramp.settled near).moveTo 1 8).after 8).current == 1) = true ∧
      ∃ m : Mixer Clip, Reachable m ∧ m.settings.rampFrames = 8 ∧ m.settings.frameCount = 8 ∧
        ∃ t, m.track? slot = some t ∧ t.enabled = true ∧ t.chain.isSome = true ∧
          t.volume.left = (Ramp.settled near).moveTo 1 8 ∧
          1 < ((t.volume.after 7).ramp .left).current := by
  intro near slot
  let clip := Clip.ofSamples 1 (.float #[1]) true
  have near_clamped : clampTrackGain? near = some near := by decide +kernel
  have one_clamped : clampTrackGain? 1 = some 1 := by decide +kernel
  refine ⟨near_clamped, by decide +kernel, by decide +kernel, ?_⟩
  obtain ⟨m, reachable, frames, block, t, found, on, fed⟩ : ∃ m : Mixer Clip, Reachable m ∧
      m.settings.rampFrames = 8 ∧ m.settings.frameCount = 8 ∧ ∃ t, m.track? slot = some t ∧
        t.enabled = true ∧ t.chain.isSome = true :=
    ⟨_, .run (.new (rfl : Mixer.new { frameCount := 8 } none = .ok _))
      [.allocate .mono .float 0, .attach slot (some clip), .setEnabled slot true], rfl, rfl,
      _, rfl, rfl, rfl⟩
  have first := track?_set_gain found .left near_clamped false
  have second := track?_set_gain first .left one_clamped true
  have settings := reachable.wellFormed.settings_act (.set slot (.gain .left near false))
  have same : (m.set slot (.gain .left near false)).2.settings.rampFrames = 8 := by
    rw [show (m.set slot (.gain .left near false)).2.settings = m.settings from settings, frames]
  have left : ((t.volume.modify .left (Ramp.steer near 0)).modify .left (Ramp.steer 1 8)).left =
      (Ramp.settled near).moveTo 1 8 := rfl
  rw [if_pos rfl, same, if_neg Bool.false_ne_true] at second
  refine ⟨m.run [.set slot (.gain .left near false), .set slot (.gain .left 1 true)],
    reachable.run _, ?_, ?_, _, second, on, fed, left, ?_⟩
  · rw [reachable.wellFormed.settings_run, frames]
  · rw [reachable.wellFormed.settings_run, block]
  · rw [Volume.ramp_after]
    show 1 < (((Ramp.settled near).moveTo 1 8).after 7).current
    decide +kernel

end Mixer

end Mixdown
