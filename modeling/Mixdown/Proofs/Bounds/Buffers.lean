import Mixdown.Proofs.Bounds.Kernels
import Mixdown.Proofs.Mixer.FrameLedger
import Mixdown.Proofs.Rendering.Streaming

/-!
# The buffers of a mixer

The buses of a mixer hold whole blocks at any time, and the resamplers of its tracks stay within
their staging buffers, whatever is done to the mixer, also by calls that are refused or fail half
way. With a block that fits into memory, every track is `Bounded`.
-/

namespace Mixdown

variable {σ : Type} [Provider σ]

namespace Resampler

/-- The resampler has its staging buffer, and its position is within it. -/
structure Intact (r : Resampler) : Prop where
  poised : r.Poised
  size : r.staging.size = r.capacity * r.channels

theorem intact_new (quality : Interpolation) (channels : Nat) (inputRate outputRate : UInt32)
    (maxFrames : Nat) : (new quality channels inputRate outputRate maxFrames).Intact :=
  ⟨poised_new .., Array.size_replicate⟩

variable {r r' : Resampler}

theorem Intact.reset (intact : r.Intact) : r.reset.Intact where
  poised := intact.poised.reset
  size := by
    rw [Resampler.reset, List.size_toArray, length_overlay, Array.length_toList]
    exact intact.size

theorem Intact.setInputRate (intact : r.Intact) (rate : UInt32) : (r.setInputRate rate).Intact :=
  ⟨intact.poised.setInputRate rate, intact.size⟩

/-- A run of frames leaves a resampler within its bounds. -/
theorem Produces.bounded {pts : Option Int} {left done : Nat} {s s' : σ}
    {frames : List (List Float32)} (produces : Produces pts left done r s frames r' s')
    (bounded : r.Bounded) : r'.Bounded := by
  induction produces with
  | finished _ _ _ => exact bounded
  | frame ready _ ih => exact ih (bounded.step ready)
  | @filled _ done r _ _ s _ _ _ _ filled _ ih =>
    have kept := bounded.fill s (stampAfter pts r.outputRate done)
    rw [filled] at kept
    exact ih kept
  | @dry _ done r _ s _ _ filled =>
    have kept := bounded.fill s (stampAfter pts r.outputRate done)
    rw [filled] at kept
    exact kept

end Resampler

namespace Track

variable {settings : Settings} {factory : Option DownmixFactory} {t : Track σ} {r : Resampler}

omit [Provider σ] in
/-- The resampler of a sound track is within its bounds, if its staging buffer is in place. -/
theorem Sound.bounded_resampler (sound : t.Sound settings factory)
    (memory : 8 * settings.frameCount < 0x8000_0000_0000_0000) (has : t.resampler = some r)
    (intact : r.Intact) : r.Bounded := by
  have same := sound.resampler r has
  have width := Mixer.channels_resampler sound has
  have capacity : r.capacity = max settings.frameCount 1 * maxRateRatio +
      settings.interpolation.history + settings.interpolation.lookahead + 1 := same.capacity
  have few : r.channels ≤ 2 := by
    rw [width]
    cases Channels.ofCount t.mixChannelCount <;> decide
  refine ⟨intact.poised, sound.slow has, width ▸ Channels.count_pos _, intact.size, ?_⟩
  refine Nat.lt_of_le_of_lt (Nat.mul_le_mul_left _ few) ?_
  have behind : settings.interpolation.history ≤ 1 := by
    cases settings.interpolation <;> decide
  have ahead : settings.interpolation.lookahead ≤ 2 := by
    cases settings.interpolation <;> decide
  simp only [maxRateRatio] at capacity
  simp only [UInt64.size]
  omega

omit [Provider σ] in
/-- A sound track is within its bounds, if its resampler has its staging buffer and a block fits
into memory. -/
theorem Sound.bounded (sound : t.Sound settings factory)
    (memory : 8 * settings.frameCount < 0x8000_0000_0000_0000)
    (intact : ∀ r, t.resampler = some r → r.Intact) :
    t.Bounded settings.frameCount settings.sampleRate where
  chain c given := by
    refine ⟨t.layout settings.frameCount, t.downmix, ⟨sound.few, ?_⟩, sound.chain c given⟩
    show max settings.frameCount 1 * maxDownmixChannels < UInt64.size
    simp only [maxDownmixChannels, UInt64.size]
    omega
  resampler r has :=
    ⟨sound.bounded_resampler memory has (intact r has), (sound.resampler r has).outputRate,
      Mixer.channels_resampler sound has⟩

/-- Resampling a block leaves the staging buffer in place. -/
theorem intact_resample (sound : t.Sound settings factory)
    (memory : 8 * settings.frameCount < 0x8000_0000_0000_0000) (has : t.resampler = some r)
    (intact : r.Intact) (pts : Option Int) {r' : Resampler}
    (has' : (t.resample settings pts).2.resampler = some r') : r'.Intact := by
  by_cases idle : t.enabled = false ∨ t.chain = none
  · rw [t.resample_idle idle] at has'
    obtain rfl : r' = r := Option.some.inj (has'.symm.trans has)
    exact intact
  · obtain ⟨on, fed⟩ := not_or.mp idle
    obtain ⟨chain, given⟩ := Option.ne_none_iff_exists'.mp fed
    obtain ⟨frames, after, chain', produces, -, left⟩ :=
      resample_fed sound (eq_true_of_ne_false on) given has pts
    rw [left] at has'
    obtain rfl : after = r' := Option.some.inj has'
    have kept := produces.bounded (sound.bounded_resampler memory has intact)
    exact ⟨kept.poised, kept.size⟩

end Track

namespace Mixer

variable {m : Mixer σ}

/-- The resamplers of a mixer keep their staging buffers, whatever is done to the mixer. -/
theorem Reachable.intact (reachable : Reachable m)
    (memory : 8 * m.settings.frameCount < 0x8000_0000_0000_0000) {slot : Slot} {t : Track σ}
    {r : Resampler} (found : m.track? slot = some t) (has : t.resampler = some r) : r.Intact := by
  induction reachable generalizing slot t r with
  | new built =>
    obtain ⟨-, -, -, -, empty, -⟩ := new_spec built
    rw [empty slot] at found
    nomatch found
  | @act m action reachable ih =>
    have wf := reachable.wellFormed
    rw [wf.settings_act] at memory
    by_cases render : ∃ pts, action = .render pts
    · obtain ⟨pts, rfl⟩ := render
      have rendered := rendered_renderBy m m.currentPlan pts wf.length_formats
      obtain ⟨before, had, moved⟩ := exists_before (rendered.tracks slot) found
      have had : m.track? slot = some before := had
      obtain ⟨r₀, has₀, -⟩ := exists_before moved.resampler has
      have stands := stands_currentPlan wf reachable.standing
      obtain ⟨after, found', -, resampler⟩ := resampled_renderBy stands had has₀
        (fun on fed => reachable.hears had on fed has₀) pts
      obtain rfl : after = t := Option.some.inj (found'.symm.trans found)
      exact Track.intact_resample (wf.sound slot before had) memory has₀ (ih memory had has₀) pts
        (resampler.symm.trans has)
    · have quiet (pts : Option Int) : action ≠ .render pts := fun same => render ⟨pts, same⟩
      cases refitted_act quiet found has with
      | new _ _ _ _ _ _ => exact Resampler.intact_new ..
      | reset _ had has₀ => exact (ih memory had has₀).reset
      | kept _ had has₀ => exact ih memory had has₀
      | retuned rate _ had has₀ => exact (ih memory had has₀).setInputRate rate

/-- The tracks of a mixer are within their bounds, if a block fits into memory. -/
theorem Reachable.bounded (reachable : Reachable m)
    (memory : 8 * m.settings.frameCount < 0x8000_0000_0000_0000) {slot : Slot} {t : Track σ}
    (found : m.track? slot = some t) : t.Bounded m.settings.frameCount m.settings.sampleRate :=
  (reachable.wellFormed.sound slot t found).bounded memory
    fun _ has => reachable.intact memory found has

/-- What a task leaves on an auxiliary bus is a whole block, if what was there before is one. -/
theorem length_aux_runTask {pts : Option Int} {sums : Sums} {m : Mixer σ} {task : Task} {bus : Nat}
    {samples : List Float32}
    (full : ∀ before, sums.aux[bus]? = some (some before) → before.length = m.settings.frameCount)
    (written : (runTask pts sums m task).1.aux[bus]? = some (some samples)) :
    samples.length = m.settings.frameCount := by
  cases found : m.track? task.slot with
  | none =>
    have same : (runTask pts sums m task).1 = sums := by
      unfold runTask
      rw [found]
    rw [same] at written
    exact full samples written
  | some t =>
    rcases result : runKernel m.settings task pts t with ⟨_ | played, t'⟩
    · have same : (runTask pts sums m task).1 = sums := by
        unfold runTask
        simp only [found, result]
      rw [same] at written
      exact full samples written
    · rw [runTask_write pts sums found result] at written
      cases sends : (if task.aux then t'.auxBus else none) with
      | none =>
        simp only [Sums.write, sends] at written
        exact full samples written
      | some place =>
        simp only [Sums.write, sends, List.getElem?_modify, Option.map_eq_map,
          Option.map_eq_some_iff] at written
        obtain ⟨sum, before, after⟩ := written
        by_cases here : place = bus
        · rw [if_pos here] at after
          obtain rfl := Option.some.inj after
          refine length_layer _ _ ?_ fun frames same => full frames (same ▸ before)
          rw [List.length_map]
          exact runKernel_short (by rw [result])
        · rw [if_neg here] at after
          obtain rfl : sum = some samples := after
          exact full samples before

theorem length_aux_runTasks (pts : Option Int) {bus : Nat} {tasks : List Task} {sums : Sums}
    {m : Mixer σ}
    (full : ∀ samples, sums.aux[bus]? = some (some samples) →
      samples.length = m.settings.frameCount) :
    ∀ samples, (runTasks pts tasks sums m).1.aux[bus]? = some (some samples) →
      samples.length = m.settings.frameCount := by
  induction tasks generalizing sums m with
  | nil => exact full
  | cons task rest ih =>
    have settings := (rendered_runTask pts sums m task).settings
    rw [runTasks_cons, ← settings]
    refine ih fun samples written => ?_
    rw [settings]
    exact length_aux_runTask full written

/-- After a block, an auxiliary bus holds a whole block. -/
theorem length_auxBus?_renderBy (m : Mixer σ) (plan : Plan) (pts : Option Int) {bus : Nat}
    {samples : List Float32} (stands : plan.Stands m)
    (held : (m.renderBy plan pts).auxBus? bus = some samples) :
    samples.length = m.settings.frameCount := by
  have silent (found : (m.auxBuses.map fun _ =>
      List.replicate m.settings.frameCount (0 : Float32))[bus]? = some samples) :
      samples.length = m.settings.frameCount := by
    rw [List.getElem?_map, Option.map_eq_some_iff] at found
    obtain ⟨_, -, rfl⟩ := found
    exact List.length_replicate
  unfold Plan.Stands at stands
  unfold renderBy at held
  cases strategy : plan.strategy with
  | silent =>
    rw [strategy] at held
    exact silent held
  | fused slot channels input output =>
    rw [strategy] at held stands
    cases stands with
    | fused _ _ _ _ t _ found _ _ =>
      have found : ({ m with plan := some plan } : Mixer σ).track? slot = some t := found
      simp only [renderFused, found] at held
      exact silent held
  | general tasks =>
    rw [strategy] at held
    let planned : Mixer σ := { m with plan := some plan }
    have settings := (rendered_runTasks pts tasks
      (.empty m.mainBuses.length m.auxBuses.length) planned).settings
    have unwritten (before : List Float32) :
        (Sums.empty m.mainBuses.length m.auxBuses.length).aux[bus]? ≠ some (some before) := by
      intro written
      obtain ⟨_, same⟩ := List.getElem?_eq_some_iff.mp written
      simp [Sums.empty] at same
    have held : ((runTasks pts tasks (.empty m.mainBuses.length m.auxBuses.length)
        planned).1.auxBlocks (runTasks pts tasks (.empty m.mainBuses.length m.auxBuses.length)
          planned).2.settings.frameCount)[bus]? = some samples := held
    rw [show (runTasks pts tasks (.empty m.mainBuses.length m.auxBuses.length)
      planned).2.settings = m.settings from settings, Sums.auxBlocks, List.getElem?_map,
      Option.map_eq_some_iff] at held
    obtain ⟨_ | block, written, rfl⟩ := held
    · exact List.length_replicate
    · exact length_aux_runTasks (m := planned) pts
        (fun before there => absurd there (unwritten before)) block written

/-- An auxiliary bus holds a whole block at any time. -/
theorem Reachable.length_auxBus? (reachable : Reachable m) {bus : Nat} {samples : List Float32}
    (held : m.auxBus? bus = some samples) : samples.length = m.settings.frameCount := by
  induction reachable with
  | new built =>
    unfold Mixer.new at built
    split at built
    · nomatch built
    · obtain rfl := Except.ok.inj built
      obtain rfl := List.eq_of_mem_replicate (List.mem_of_getElem? held)
      exact List.length_replicate
  | @act m action reachable ih =>
    have wf := reachable.wellFormed
    rcases wf.act_cases action with ⟨pts, rfl, rendered⟩ | ⟨_, _, _, writes, -⟩
    · rw [rendered.settings]
      exact length_auxBus?_renderBy m m.currentPlan pts
        (stands_currentPlan wf reachable.standing) held
    · rw [writes.settings]
      unfold auxBus? at held ih
      rw [writes.auxBuses] at held
      exact ih held

end Mixer

end Mixdown
