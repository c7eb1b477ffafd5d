import Mixdown.Proofs.Mixer.BusBlocks
import Mixdown.Proofs.Mixer.GainWrites
import Mixdown.Proofs.Mixer.ProviderCalls

/-!
# Ramps complete on time

A block moves the gains of a track that is mixed on by its frames, however many of them its provider
had (`Reachable.volume_render`). So a gain that is ramped is on its way until as many frames have
gone by as it was given, and has arrived from then on, whatever is done to the mixer in the meantime
(`Reachable.ramp_on_time`). Only the send of a track that is passed over, as nothing can be heard of
it and it is routed to no auxiliary bus, stands still (`ramp_stalled`).
-/

namespace Mixdown

variable {σ : Type}

/-- The gain of a track is moved on by a block: the track is enabled and has a provider, and while
it is the gain of the send, the track is not passed over. -/
structure Track.Runs (name : GainName) (t : Track σ) : Prop where
  enabled : t.enabled = true
  fed : t.chain.isSome = true
  audible : name = .aux → t.demands.mute = false

/-- A track of which a gain is moving is mixed. -/
theorem Track.Runs.unmuted {name : GainName} {t : Track σ} (runs : t.Runs name)
    (moving : (t.volume.ramp name).isMoving = true) : t.demands.mute = false := by
  by_cases send : name = .aux
  · exact runs.audible send
  · simp [Track.demands, Volume.isSilent_of_ramp send moving]

namespace Track

variable [Provider σ]

/-- Frames that are missing at the end of a block are skipped. -/
theorem playDirect_volume (input : MixFormat) (channels : Channels) (frames : Nat) (rate : UInt32)
    (pts : Option Int) (t : Track σ) :
    (t.playDirect input channels frames rate pts).track.volume =
      t.volume.afterBlock frames (t.read input channels frames rate pts).1.length := by
  obtain ⟨chain, read⟩ := t.read_snd input channels frames rate pts
  simp only [playDirect_eq, read, Volume.afterBlock]

/-- Frames that are missing at the end of a resampled block are stepped through, as silence. -/
theorem playResampled_volume (channels : Channels) (frames : Nat) (pts : Option Int)
    (t : Track σ) :
    (t.playResampled channels frames pts).track.volume = t.volume.after frames := by
  have few := t.length_readResampled channels frames pts
  simp only [playResampled_eq, Mixer.readResampled_volume, List.length_append,
    List.length_replicate, Nat.add_sub_cancel' few]

end Track

namespace Mixer

variable [Provider σ]

/-- A task that is heard moves the gains of its track on by a block. -/
theorem volume_runKernel (settings : Settings) {task : Task} (heard : task.heard = true)
    (pts : Option Int) (t : Track σ) :
    ∃ there ≤ settings.frameCount, (runKernel settings task pts t).2.volume =
      t.volume.afterBlock settings.frameCount there := by
  unfold runKernel
  cases kernel : task.kernel with
  | idle => simp [Task.heard, kernel] at heard
  | direct input =>
    exact ⟨_, t.length_read input task.channels settings.frameCount settings.sampleRate pts,
      t.playDirect_volume input task.channels settings.frameCount settings.sampleRate pts⟩
  | resampled =>
    refine ⟨settings.frameCount, Nat.le_refl _, ?_⟩
    rw [Volume.afterBlock_full]
    exact t.playResampled_volume task.channels settings.frameCount pts

/-- What a block makes of the gains of a track. They stay, and then the track is passed over or none
of them is moving, or they move on by the frames of the block. -/
theorem Reachable.volume_render {m : Mixer σ} (reachable : Reachable m) {slot : Slot} {t : Track σ}
    (found : m.track? slot = some t) (pts : Option Int) :
    ∃ t', (m.render pts).track? slot = some t' ∧
      (t'.volume = t.volume ∧ (t.enabled = false ∨ t.chain = none ∨ t.demands.mute = true ∨
          t.volume.isMoving = false) ∨
        ∃ there ≤ m.settings.frameCount,
          t'.volume = t.volume.afterBlock m.settings.frameCount there) := by
  have follows := (follows_currentPlan reachable.following).strategy
  obtain ⟨t', after, visited⟩ :=
    visited_renderBy (stands_currentPlan reachable.wellFormed reachable.standing) pts found
  refine ⟨t', after, ?_⟩
  cases visited with
  | alone off => exact .inl ⟨rfl, .inl off⟩
  | passedOver silent on =>
    rw [silent] at follows
    have unheard := follows.unheard _ (mem_enabledTracks.mpr ⟨found, on⟩)
    rw [← Bool.not_eq_true, Task.heard_ofTrack, not_and_or] at unheard
    refine .inl ⟨passOver_volume .., .inr ?_⟩
    rcases unheard with unfed | mute
    · exact .inl (by simpa using unfed)
    · exact .inr (.inl (by simpa using mute))
  | @read channels input _ _ _ task =>
    obtain ⟨chain, read⟩ :=
      t.read_snd input channels m.settings.frameCount m.settings.sampleRate pts
    exact .inl ⟨by rw [read], .inr (.inr (.inr (congrArg Task.ramp task)))⟩
  | @run tasks task general member here _ _ =>
    cases heard : task.heard with
    | true => exact .inr (volume_runKernel m.settings heard pts t)
    | false =>
      have landed := (reachable.wellFormed.sound slot t found).volume
      refine .inl ⟨(runKernel_advances m.settings task pts landed).2 heard, .inr ?_⟩
      rw [general] at follows
      obtain ⟨⟨place, u⟩, enabled, same, d, aged, made⟩ := exists_of_forall₂ follows.tasks member
      obtain rfl : place = slot := same.symm.trans here
      obtain rfl : u = t := Option.some.inj ((mem_enabledTracks.mp enabled).1.symm.trans found)
      rw [made, ← Bool.not_eq_true, Task.heard_made, not_and_or] at heard
      rcases heard with unfed | mute
      · exact .inl (by simpa using unfed)
      · exact .inr (.inl (aged.mute (by simpa using mute)))

/-- While a gain is not written, its ramp goes on by the frames of each block, and by nothing else
that is done. -/
theorem Reachable.ramp_act {m : Mixer σ} (reachable : Reachable m) {slot : Slot} {t : Track σ}
    (found : m.track? slot = some t) {name : GainName} {action : Action σ}
    (leaves : ¬ action.Rewrites slot name)
    (runs : ∀ pts, action = .render pts → t.Runs name) :
    ∃ t', (m.act action).track? slot = some t' ∧
      (t'.volume.ramp name).target = (t.volume.ramp name).target ∧
      (t'.volume.ramp name).remaining = (t.volume.ramp name).remaining -
        if action.isRender then m.settings.frameCount else 0 := by
  by_cases render : ∃ pts, action = .render pts
  · obtain ⟨pts, rfl⟩ := render
    obtain ⟨t', after, ⟨same, idle⟩ | ⟨there, few, moved⟩⟩ := reachable.volume_render found pts
    · -- the gain is at rest, as the track would be mixed otherwise
      have running := runs pts rfl
      have rest : (t.volume.ramp name).isMoving = false := by
        rw [Bool.eq_false_iff]
        intro moving
        rcases idle with off | unfed | mute | rest
        · nomatch off.symm.trans running.enabled
        · nomatch (congrArg Option.isSome unfed).symm.trans running.fed
        · nomatch mute.symm.trans (running.unmuted moving)
        · nomatch rest.symm.trans (Volume.isMoving_of_ramp moving)
      refine ⟨t', after, by rw [same], ?_⟩
      rw [same, Ramp.isMoving_eq_false.mp rest, Nat.zero_sub]
    · obtain ⟨target, remaining⟩ := t.volume.ramp_afterBlock few name
      exact ⟨t', after, moved ▸ target, moved ▸ remaining⟩
  · have quiet : action.isRender = false := by
      cases action with
      | render pts => exact absurd ⟨pts, rfl⟩ render
      | _ => rfl
    obtain ⟨place, after, keeps, writes, edit⟩ :=
      m.act_edit action fun pts same => render ⟨pts, same⟩
    rw [quiet, if_neg Bool.false_ne_true, Nat.sub_zero]
    by_cases here : slot = place
    · subst here
      rw [found] at edit
      obtain ⟨t', rfl, same⟩ := edit.ramp_eq leaves
      exact ⟨t', writes.track?_self, by rw [same], by rw [same]⟩
    · exact ⟨t, (writes.track?_ne here).trans found, rfl, rfl⟩

/-- While a gain is not written, the frames that are left of its ramp go down by those of the blocks
so far. -/
theorem Reachable.ramp_run {m : Mixer σ} (reachable : Reachable m) {slot : Slot} {t : Track σ}
    (found : m.track? slot = some t) {name : GainName} (later : List (Action σ))
    (unwritten : ∀ action ∈ later, ¬ action.Rewrites slot name)
    (runs : ∀ earlier pts rest, later = earlier ++ .render pts :: rest →
      ∃ t, (m.run earlier).track? slot = some t ∧ t.Runs name) :
    ∃ t', (m.run later).track? slot = some t' ∧
      (t'.volume.ramp name).target = (t.volume.ramp name).target ∧
      (t'.volume.ramp name).remaining =
        (t.volume.ramp name).remaining - Action.blocks later * m.settings.frameCount := by
  induction later using List.reverseRecOn with
  | nil =>
    refine ⟨t, found, rfl, ?_⟩
    rw [show Action.blocks ([] : List (Action σ)) = 0 from rfl, Nat.zero_mul, Nat.sub_zero]
  | append_singleton before action ih =>
    obtain ⟨u, had, target, remaining⟩ := ih
      (fun earlier member => unwritten earlier (List.mem_append_left _ member))
      fun earlier pts rest same => runs earlier pts (rest ++ [action]) (by simp [same])
    have running : ∀ pts, action = .render pts → u.Runs name := by
      rintro pts rfl
      obtain ⟨v, had', running⟩ := runs before pts [] rfl
      exact Option.some.inj (had'.symm.trans had) ▸ running
    obtain ⟨t', after, target', remaining'⟩ := (reachable.run before).ramp_act had
      (unwritten action (List.mem_append_right _ List.mem_cons_self)) running
    rw [reachable.wellFormed.settings_run] at remaining'
    rw [run_snoc, Action.blocks_snoc]
    refine ⟨t', after, target'.trans target, ?_⟩
    rw [remaining', remaining, Nat.sub_sub, Nat.add_mul]
    cases action.isRender with
    | true => rw [if_pos rfl, if_pos rfl, Nat.one_mul]
    | false => rw [if_neg Bool.false_ne_true, if_neg Bool.false_ne_true, Nat.zero_mul]

/-- A gain of a track that is moved to another than those it has and is heading for, in so many
frames, is on its way until as many frames have gone by, and from then on it is the new gain
exactly. The track has to be enabled and fed at each block, and must not be passed over while it is
the gain of the send; whatever else is done in the meantime to the track or to others makes no
difference. -/
theorem Reachable.ramp_on_time {m : Mixer σ} (reachable : Reachable m) {slot : Slot} {t : Track σ}
    (found : m.track? slot = some t) {name : GainName} {value gain : Float32}
    (clamped : clampTrackGain? value = some gain)
    (target : (gain == (t.volume.ramp name).target) = false)
    (current : (gain == (t.volume.ramp name).current) = false)
    (some_frames : 0 < m.settings.rampFrames) (later : List (Action σ))
    (unwritten : ∀ action ∈ later, ¬ action.Rewrites slot name)
    (runs : ∀ earlier pts rest, later = earlier ++ .render pts :: rest →
      ∃ t, (m.run (.set slot (.gain name value true) :: earlier)).track? slot = some t ∧
        t.Runs name) :
    let frames := Action.blocks later * m.settings.frameCount
    ∃ t', (m.run (.set slot (.gain name value true) :: later)).track? slot = some t' ∧
      (t'.volume.ramp name).target = gain ∧
      (t'.volume.ramp name).remaining = m.settings.rampFrames - frames ∧
      (frames < m.settings.rampFrames → (t'.volume.ramp name).isMoving = true) ∧
      (m.settings.rampFrames ≤ frames → (t'.volume.ramp name).isMoving = false ∧
        (t'.volume.ramp name).current = gain) := by
  intro frames
  have started : Reachable (m.act (.set slot (.gain name value true))) := .act _ reachable
  have moved := track?_set_gain found name clamped true
  obtain ⟨t', after, heading, left⟩ := started.ramp_run moved later unwritten runs
  have settings : (m.act (.set slot (.gain name value true))).settings = m.settings :=
    reachable.wellFormed.settings_act _
  have start : Ramp.steer gain m.settings.rampFrames (t.volume.ramp name) =
      (t.volume.ramp name).moveTo gain m.settings.rampFrames := if_neg (Nat.ne_of_gt some_frames)
  simp only [Volume.ramp_modify_self, if_true, start, Ramp.moveTo_fresh some_frames target current,
    settings] at heading left
  have landed : (t'.volume.ramp name).Landed :=
    (((started.run later).wellFormed.sound slot t' after).volume).ramp name
  refine ⟨t', after, heading, left, ?_, ?_⟩
  · intro short
    rw [Ramp.isMoving_eq_true, left]
    exact Nat.sub_pos_of_lt short
  · intro enough
    have rest := Ramp.isMoving_eq_false.mpr (left.trans (Nat.sub_eq_zero_of_le enough))
    exact ⟨rest, (landed.current_eq rest).trans heading⟩

/-- The send of a clip of three frames is ramped in five, while a block has two: it is on its way
after two blocks, of which the second runs dry and has a channel muted, and there after three. -/
theorem Reachable.ramp_on_time_dry :
    let slot : Slot := ⟨0, by decide⟩
    let ramped : Action Clip := .set slot (.gain .aux 0.5 true)
    let later : List (Action Clip) := [.render none, .set slot (.gain .left 0 false), .render none]
    ∃ m : Mixer Clip, Reachable m ∧ m.settings.rampFrames = 5 ∧
      (m.run (ramped :: later)).underruns = 1 ∧
      (∃ t, (m.run (ramped :: later)).track? slot = some t ∧
        (t.volume.ramp .aux).isMoving = true) ∧
      ∃ t, (m.run (ramped :: (later ++ [.render none]))).track? slot = some t ∧
        (t.volume.ramp .aux).isMoving = false ∧ (t.volume.ramp .aux).current = 0.5 := by
  intro slot ramped later
  let clip := Clip.ofSamples 1 (.float #[1, 1, 1]) false
  let whole := later ++ [.render none]
  let mixed (t : Track Clip) : Bool := t.enabled && t.chain.isSome && !t.demands.mute
  let fresh (t : Track Clip) : Bool :=
    !(0.5 == (t.volume.ramp .aux).target) && !(0.5 == (t.volume.ramp .aux).current)
  obtain ⟨m, reachable, frames, blocks, underruns, start, runs⟩ : ∃ m : Mixer Clip, Reachable m ∧
      m.settings.rampFrames = 5 ∧ m.settings.frameCount = 2 ∧
      (m.run (ramped :: later)).underruns = 1 ∧ (m.track? slot).any fresh = true ∧
      ∀ n < 5, ((m.run (ramped :: whole.take n)).track? slot).any mixed = true :=
    ⟨_, .run (.new (rfl : Mixer.new { frameCount := 2, rampFrames? := some 5 } none = .ok _))
      [.allocate .mono .float 0, .attach slot (some clip), .setEnabled slot true],
      by decide +kernel⟩
  obtain ⟨t, found, apart⟩ := (Option.any_eq_true _ _).mp start
  simp only [fresh, Bool.and_eq_true, Bool.not_eq_true'] at apart
  have plays : ∀ earlier rest, whole = earlier ++ rest →
      ∃ t, (m.run (ramped :: earlier)).track? slot = some t ∧ t.Runs .aux := by
    intro earlier rest same
    have short : earlier.length < 5 := by
      have lengths := congrArg List.length same
      simp only [whole, later, List.length_append, List.length_cons, List.length_nil] at lengths
      omega
    obtain ⟨t, there, mixes⟩ := (Option.any_eq_true _ _).mp (runs _ short)
    rw [same, List.take_left] at there
    simp only [mixed, Bool.and_eq_true, Bool.not_eq_true'] at mixes
    exact ⟨t, there, mixes.1.1, mixes.1.2, fun _ => mixes.2⟩
  have clamped : clampTrackGain? 0.5 = some 0.5 := by decide +kernel
  have some_frames : 0 < m.settings.rampFrames := by rw [frames]; decide
  obtain ⟨t₁, early, -, -, moving, -⟩ := Reachable.ramp_on_time reachable found clamped apart.1
    apart.2 some_frames later (by simp [later, Action.Rewrites])
    fun earlier pts rest same => plays earlier (.render pts :: rest ++ [.render none])
      (by simp [whole, same])
  obtain ⟨t₂, late, -, -, -, there⟩ := Reachable.ramp_on_time reachable found clamped apart.1
    apart.2 some_frames whole (by simp [whole, later, Action.Rewrites])
    fun earlier pts rest same => plays earlier (.render pts :: rest) same
  refine ⟨m, reachable, frames, underruns, ⟨t₁, early, moving ?_⟩, t₂, late, there ?_⟩
  · rw [frames, blocks]
    decide
  · rw [frames, blocks]
    decide

/-- The send of a silent track that is routed to no auxiliary bus is ramped in four frames: it has
not moved after two blocks of four frames. -/
theorem ramp_stalled :
    let slot : Slot := ⟨0, by decide⟩
    let ramped : Action Clip := .set slot (.gain .aux 1 true)
    ∃ m : Mixer Clip, Reachable m ∧ m.settings.rampFrames = 4 ∧ m.settings.frameCount = 4 ∧
      clampTrackGain? 1 = some 1 ∧
      ((m.track? slot).any fun t => t.enabled && t.chain.isSome &&
        !(1 == (t.volume.ramp .aux).target) && !(1 == (t.volume.ramp .aux).current)) = true ∧
      ((m.run [ramped, .render none, .render none]).track? slot).any (fun t =>
        t.enabled && t.chain.isSome && (t.volume.ramp .aux).isMoving &&
          (t.volume.ramp .aux).current == 0) = true := by
  intro slot ramped
  let clip := Clip.ofSamples 1 (.float #[1, 1]) true
  exact ⟨_, .run (.new (rfl : Mixer.new { frameCount := 4, rampFrames? := some 4 } none = .ok _))
    [.allocate .mono .float 0, .attach slot (some clip), .setEnabled slot true,
      .set slot (.gain .left 0 false), .set slot (.gain .right 0 false)],
    by decide +kernel⟩

end Mixer

end Mixdown
