import Mixdown.Proofs.Mixer.Standing
import Mixdown.Provider.Recorded

/-!
# One track written straight to its bus

A single track under resting gains is written straight to its bus, in the representation of the
bus. The result is what the general mix of its one task gives.
-/

namespace Mixdown

theorem int16OfSingle_zero : int16OfSingle 0 = 0 := rfl

/-- What resting gains make of frames. -/
theorem map_main_of_rest (channels : Channels) {volume : Volume} (rest : volume.isMoving = false)
    (frames : List (Stereo Float32)) :
    (frames.mapIdx fun i frame => (volume.after i).contribution channels frame).map
      Contribution.main =
      frames.map fun f => ⟨f.left * volume.left.current, f.right * volume.right.current⟩ := by
  apply List.ext_getElem?
  intro i
  simp only [List.getElem?_map, List.getElem?_mapIdx, Option.map_map, Volume.after_of_rest rest]
  rfl

/-- A single track under resting gains is written to its bus as the general mix writes it. -/
theorem fusedBlock_eq_ofMix (output : MixFormat) (frameCount : Nat) (channels : Channels)
    {volume : Volume} (rest : volume.isMoving = false) (frames : List (Stereo Float32)) :
    Mixer.fusedBlock output frameCount volume frames =
      .ofMix output (layer Sums.addStereo (.both 0) frameCount none
        ((frames.mapIdx fun i frame => (volume.after i).contribution channels frame).map
          Contribution.main)) := by
  rw [map_main_of_rest channels rest]
  unfold Mixer.fusedBlock layer Block.ofMix
  cases output with
  | pcm16 =>
    -- the silence is narrowed, too
    have silence : (Stereo.both (0 : Float32)).map int16OfSingle = Stereo.both 0 := by
      unfold Stereo.map Stereo.both
      rw [int16OfSingle_zero]
    simp only [List.map_append, List.map_map, List.map_replicate, List.length_map, silence]
    rfl
  | float => simp only [List.length_map]

namespace Mixer

variable {σ : Type} [Provider σ]

/-- The provider of a track in a mix of one task, and what is read from it. -/
theorem playDirect_of_rest (input : MixFormat) (channels : Channels) (frameCount : Nat)
    (rate : UInt32) (pts : Option Int) {t : Track σ} (landed : t.volume.Landed)
    (rest : t.volume.isMoving = false) :
    t.playDirect input channels frameCount rate pts =
      let frames := (t.read input channels frameCount rate pts).1
      { contributions := frames.mapIdx fun i frame =>
          (t.volume.after i).contribution channels frame
        track := (t.read input channels frameCount rate pts).2
        complete := frames.length == frameCount } := by
  obtain ⟨chain, read⟩ := t.read_snd input channels frameCount rate pts
  rw [Track.playDirect_eq, read]
  simp only [Volume.after_of_rest rest, Volume.skip_of_rest landed rest, ite_self]

omit [Provider σ] in
/-- The blocks after a single write to one of the main buses. -/
theorem mainBlocks_write_empty {formats : List MixFormat} {bus : Nat} {output : MixFormat}
    (format : formats[bus]? = some output) (frameCount auxBuses : Nat)
    (contributions : List Contribution) :
    ((Sums.empty formats.length auxBuses).write frameCount bus none contributions).mainBlocks
        frameCount formats =
      (formats.map fun format => .silence format frameCount).set bus
        (.ofMix output (layer Sums.addStereo (.both 0) frameCount none
          (contributions.map Contribution.main))) := by
  obtain ⟨inside, value⟩ := List.getElem?_eq_some_iff.mp format
  unfold Sums.mainBlocks Sums.write Sums.empty
  apply List.ext_getElem
  · simp
  · intro i _ _
    simp only [List.getElem_zipWith, List.getElem_modify, List.getElem_replicate,
      List.getElem_set, List.getElem_map]
    by_cases here : bus = i
    · subst here
      simp only [if_true, value]
    · simp only [here, if_false]

/-- Under a plan that writes a single track straight to its bus, the general mix of its task
gives the same mixer: the same blocks, providers, gains and underruns. -/
theorem renderFused_eq_renderGeneral {m : Mixer σ} {slot : Slot} {channels : Channels}
    {input output : MixFormat} {formats : List MixFormat} {t : Track σ}
    (found : m.track? slot = some t) (landed : t.volume.Landed)
    (rest : t.volume.isMoving = false) (format : formats[t.mainBus]? = some output)
    (lengths : formats.length = m.mainBuses.length) (pts : Option Int) :
    m.renderFused slot channels input output formats pts =
      m.renderGeneral [⟨slot, channels, .direct input, false, false⟩] formats pts := by
  unfold renderFused renderGeneral
  simp only [found, List.foldl_cons, List.foldl_nil, runTask, runKernel,
    playDirect_of_rest input channels _ _ pts landed rest]
  obtain ⟨chain, read⟩ := t.read_snd input channels m.settings.frameCount m.settings.sampleRate pts
  simp only [read, Bool.false_and, Bool.false_eq_true, if_false]
  generalize (t.read input channels m.settings.frameCount m.settings.sampleRate pts).1 = frames
  have main := mainBlocks_write_empty format m.settings.frameCount m.auxBuses.length
    (frames.mapIdx fun i frame => (t.volume.after i).contribution channels frame)
  rw [← fusedBlock_eq_ofMix output m.settings.frameCount channels rest, lengths] at main
  have aux : m.auxBuses.map (fun _ => List.replicate m.settings.frameCount (0 : Float32)) =
      (Sums.write (.empty m.mainBuses.length m.auxBuses.length) m.settings.frameCount t.mainBus
        none (frames.mapIdx fun i frame => (t.volume.after i).contribution channels
          frame)).auxBlocks m.settings.frameCount := by
    simp [Sums.auxBlocks, Sums.write, Sums.empty, List.map_const']
  by_cases complete : frames.length = m.settings.frameCount
  · simp only [complete, beq_self_eq_true, if_true, Mixer.mk.injEq]
    exact ⟨rfl, rfl, rfl, rfl, rfl, main.symm, aux, rfl⟩
  · have incomplete : (frames.length == m.settings.frameCount) = false := by simpa using complete
    simp only [complete, incomplete, if_false, Bool.false_eq_true, Mixer.mk.injEq]
    exact ⟨rfl, rfl, rfl, rfl, rfl, main.symm, aux, rfl⟩

/-- The mixer with the calls to its providers recorded from now on. -/
def recorded (m : Mixer σ) : Mixer (Recorded σ) :=
  { settings := m.settings
    factory := m.factory
    attempts := m.attempts
    tracks := m.tracks.map fun track => track.map fun t =>
      { session := t.session
        mask := t.mask
        format := t.format
        downmix := t.downmix
        mixInput := t.mixInput
        busFormat := t.busFormat
        sampleRate := t.sampleRate
        mainBus := t.mainBus
        auxBus := t.auxBus
        enabled := t.enabled
        volume := t.volume
        resampler := t.resampler
        chain := t.chain.map (Chain.mapSource Recorded.fresh) }
    plan := m.plan
    mainBuses := m.mainBuses
    auxBuses := m.auxBuses
    underruns := m.underruns }

omit [Provider σ] in
theorem track?_recorded {m : Mixer σ} {slot : Slot} {t : Track σ} (found : m.track? slot = some t) :
    ∃ t', m.recorded.track? slot = some t' ∧ t'.volume = t.volume ∧ t'.mainBus = t.mainBus := by
  have mapped : m.recorded.track? slot = (m.track? slot).map _ := Vector.getElem_map ..
  rw [found] at mapped
  exact ⟨_, mapped, rfl, rfl⟩

/-- The provider calls that a recorded mixer has seen in a slot. -/
def calls? (m : Mixer (Recorded σ)) (slot : Slot) : Option (List Call) :=
  (m.source? slot).map Recorded.calls

omit [Provider σ] in
theorem enabledTracks_singleton {m : Mixer σ} {slot : Slot} {t : Track σ}
    (only : Slot.all.filter m.isEnabled = [slot]) (found : m.track? slot = some t) :
    m.enabledTracks = [(slot, t)] := by
  rw [← map_fst_enabledTracks] at only
  obtain ⟨⟨slot', u⟩, enabled, rfl⟩ := List.map_eq_singleton_iff.mp only
  have had := (mem_enabledTracks.mp (show (slot', u) ∈ m.enabledTracks by rw [enabled]; simp)).1
  obtain rfl : u = t := Option.some.inj (had.symm.trans found)
  exact enabled

/-- When the plan of a block writes a single track straight to its bus, the general mix of the
tasks of the enabled tracks gives the same mixer: the same blocks on all buses, the same
underruns, and the same gains and provider of the track, which sees the same calls. -/
theorem Reachable.render_eq_renderGeneral {m : Mixer σ} (reachable : Reachable m) {slot : Slot}
    {channels : Channels} {input output : MixFormat}
    (fused : m.currentPlan.strategy = .fused slot channels input output) (pts : Option Int) :
    let plan := m.currentPlan
    let tasks := m.enabledTracks.map fun (slot, t) => Task.ofTrack slot t
    let general := ({ m with plan := some plan } : Mixer σ).renderGeneral tasks plan.formats pts
    let generalRecorded :=
      ({ m.recorded with plan := some plan } : Mixer (Recorded σ)).renderGeneral tasks plan.formats
        pts
    tasks = [⟨slot, channels, .direct input, false, false⟩] ∧
      m.render pts = general ∧
      ∀ other, (m.recorded.renderBy plan pts).calls? other = generalRecorded.calls? other := by
  intro plan tasks general generalRecorded
  have wf := reachable.wellFormed
  have stands : plan.strategy.Stands m plan.formats := stands_currentPlan wf reachable.standing
  have lengths : plan.formats.length = m.mainBuses.length := wf.length_formats
  rw [show plan.strategy = _ from fused] at stands
  cases stands with
  | fused _ _ _ _ t only found task format =>
    have rest : t.volume.isMoving = false := congrArg Task.ramp task
    have landed := (wf.sound slot t found).volume
    have single : tasks = [⟨slot, channels, .direct input, false, false⟩] := by
      simp only [tasks, enabledTracks_singleton only found, List.map_cons, List.map_nil, task]
    refine ⟨single, ?_, ?_⟩
    · simp only [render, renderBy, fused, general, single]
      exact renderFused_eq_renderGeneral
        (show ({ m with plan := some plan } : Mixer σ).track? slot = some t from found)
        landed rest format lengths pts
    · intro other
      obtain ⟨t', found', volume, bus⟩ := track?_recorded found
      simp only [renderBy, show plan.strategy = _ from fused, generalRecorded, single]
      rw [← volume] at landed rest
      rw [← bus] at format
      exact congrArg (fun m => calls? m other)
        (renderFused_eq_renderGeneral
          (show ({ m.recorded with plan := some plan } : Mixer (Recorded σ)).track? slot = some t'
            from found') landed rest format lengths pts)

/-- A stereo clip of three frames at half the gain on its left channel, written straight to a
16-bit bus in a block of four frames. -/
theorem Reachable.render_eq_renderGeneral_short :
    let slot : Slot := ⟨0, by decide⟩
    ∃ m : Mixer Clip, Reachable m ∧
      m.currentPlan.strategy = .fused slot .stereo .float .pcm16 ∧
      m.render none = ({ m with plan := some m.currentPlan } : Mixer Clip).renderGeneral
        [⟨slot, .stereo, .direct .float, false, false⟩] m.currentPlan.formats none ∧
      (m.render none).underruns = 1 ∧
      (m.recorded.renderBy m.currentPlan none).calls? slot =
        some [.request 4 none (some 3), .release 3, .request 1 none none] := by
  intro slot
  let clip := Clip.ofSamples 2 (.float #[1, 1, 0.5, 0.5, 0.25, 2]) false
  obtain ⟨m, reachable, fused, underruns, calls⟩ : ∃ m : Mixer Clip, Reachable m ∧
      m.currentPlan.strategy = .fused slot .stereo .float .pcm16 ∧
      (m.render none).underruns = 1 ∧
      (m.recorded.renderBy m.currentPlan none).calls? slot =
        some [.request 4 none (some 3), .release 3, .request 1 none none] :=
    ⟨_, .run (.new (rfl : Mixer.new { frameCount := 4 } none = .ok _))
      [.allocate .stereo .float 0, .attach slot (some clip), .setEnabled slot true,
        .set slot (.gain .left 0.5 false)],
      by decide +kernel, by decide +kernel, by decide +kernel⟩
  obtain ⟨tasks, same, -⟩ := Reachable.render_eq_renderGeneral reachable fused none
  rw [tasks] at same
  exact ⟨m, reachable, fused, same, underruns, calls⟩

end Mixer

end Mixdown
