import Mathlib.Data.List.Basic
import Mixdown.Proofs.Mixer.Layers
import Mixdown.Proofs.Mixer.SingleTrack
import Mixdown.Proofs.Mixer.Upkeep
import Mixdown.Proofs.Provider.Supply

/-!
# What a block adds up to

Each task that is heard in a block gives a voice, whatever buffers its provider hands out, and
the buses hold the voices piled up in the order of the tasks. How the block is mixed does not
matter.
-/

namespace Mixdown

namespace Channels

/-- A frame of samples as a stereo frame; one channel is heard on both sides. -/
def hear (channels : Channels) (frame : List Float32) : Stereo Float32 :=
  match channels with
  | mono => .both (frame.getD 0 0)
  | stereo => ⟨frame.getD 0 0, frame.getD 1 0⟩

theorem map_both_flatten {frames : List (List Float32)} (whole : ∀ f ∈ frames, f.length = 1) :
    frames.flatten.map Stereo.both = frames.map mono.hear := by
  induction frames with
  | nil => rfl
  | cons frame rest ih =>
    obtain ⟨x, rfl⟩ := List.length_eq_one_iff.mp (whole frame (by simp))
    have tail := ih fun f member => whole f (List.mem_cons_of_mem _ member)
    rw [List.flatten_cons, List.map_append, tail]
    rfl

theorem deinterleave_flatten {frames : List (List Float32)} (whole : ∀ f ∈ frames, f.length = 2) :
    deinterleave frames.flatten = frames.map stereo.hear := by
  induction frames with
  | nil => rfl
  | cons frame rest ih =>
    obtain ⟨x, y, rfl⟩ := List.length_eq_two.mp (whole frame (by simp))
    have tail := ih fun f member => whole f (List.mem_cons_of_mem _ member)
    rw [List.flatten_cons, List.cons_append, List.cons_append, List.nil_append, deinterleave, tail]
    rfl

end Channels

/-- Something of the track is mixed. -/
def Task.heard (task : Task) : Bool := task.kernel != .idle

/-- The tasks of a block that are heard, in the order in which they are mixed. -/
def Strategy.contributing : Strategy → List Task
  | silent => []
  | fused slot channels input _ => [⟨slot, channels, .direct input, false, false⟩]
  | general tasks => tasks.filter Task.heard

/-- In a new strategy, these are the tasks of the enabled tracks without the idle ones. -/
theorem Strategy.contributing_ofTracks {σ : Type} (enabled : List (Slot × Track σ)) :
    (ofTracks enabled).contributing =
      (enabled.map fun (slot, t) => Task.ofTrack slot t).filter Task.heard := by
  unfold ofTracks
  simp only
  split
  · rename_i unheard
    symm
    apply List.filter_eq_nil_iff.mpr
    intro task member
    have idle := List.all_eq_true.mp unheard task member
    simpa [Task.heard] using idle
  · split
    · rename_i slot t _
      unfold ofTrack
      simp only
      split
      · rename_i input direct
        split
        · rfl
        · rename_i plain
          have heard : (Task.ofTrack slot t).heard = true := by simp [Task.heard, direct]
          rw [List.map_cons, List.map_nil, List.filter_cons_of_pos heard, List.filter_nil,
            Task.ofTrack_plain direct (by simpa using plain)]
          rfl
      · rfl
    · rfl

namespace Mixer

variable {σ : Type} [Provider σ]

/-- What a task is to be heard as in a block. The frames of a track that is mixed as it comes are
those that its provider supplies, buffer after buffer; those of a resampled track are what its
resampler produces, filled up with silence. -/
inductive Voiced (m : Mixer σ) (pts : Option Int) (task : Task) : Voice → Prop
  | direct {t : Track σ} {chain chain' : Chain σ} {input : MixFormat}
      {frames : List (Stereo Float32)} :
      m.track? task.slot = some t → task.kernel = .direct input → t.chain = some chain →
      Provider.Supply (.ofCount t.mixChannelCount) (stampAfter pts m.settings.sampleRate)
        m.settings.frameCount 0 chain frames chain' →
      Voiced m pts task
        { mainBus := t.mainBus
          auxBus := if task.aux then t.auxBus else none
          channels := .ofCount t.mixChannelCount
          frames
          playsOn := false
          volume := t.volume }
  | resampled {t : Track σ} {chain : Chain σ} {r : Resampler} :
      m.track? task.slot = some t → task.kernel = .resampled → t.chain = some chain →
      t.resampler = some r →
      Voiced m pts task
        { mainBus := t.mainBus
          auxBus := if task.aux then t.auxBus else none
          channels := .ofCount t.mixChannelCount
          frames := (r.resample m.settings.frameCount
            (m.settings.frameCount * (Channels.ofCount t.mixChannelCount).count) chain pts).1.map
              (Channels.ofCount t.mixChannelCount).hear
          playsOn := true
          volume := t.volume }

/-- A task is heard as one voice only. -/
theorem Voiced.unique {m : Mixer σ} {pts : Option Int} {task : Task} {v v' : Voice}
    (first : m.Voiced pts task v) (second : m.Voiced pts task v') : v = v' := by
  cases first with
  | direct found direct chained supply =>
    cases second with
    | direct found' _ chained' supply' =>
      obtain rfl := Option.some.inj (found.symm.trans found')
      obtain rfl := Option.some.inj (chained.symm.trans chained')
      obtain ⟨rfl, -⟩ := supply.unique supply'
      rfl
    | resampled _ resampled => nomatch direct.symm.trans resampled
  | resampled found resampled chained has =>
    cases second with
    | direct _ direct => nomatch direct.symm.trans resampled
    | resampled found' _ chained' has' =>
      obtain rfl := Option.some.inj (found.symm.trans found')
      obtain rfl := Option.some.inj (chained.symm.trans chained')
      obtain rfl := Option.some.inj (has.symm.trans has')
      rfl

omit [Provider σ] in
/-- The channels of a sound track are as many as it is mixed from. -/
theorem count_channels {settings : Settings} {factory : Option DownmixFactory} {t : Track σ}
    (sound : t.Sound settings factory) :
    (Channels.ofCount t.mixChannelCount).count = t.mixChannelCount :=
  Channels.count_ofCount
    (Nat.le_min.mpr ⟨ChannelMask.channelCount_pos sound.valid, by decide⟩) (Nat.min_le_right _ _)

omit [Provider σ] in
/-- The resampler of a sound track works on the channels that the track is mixed from. -/
theorem channels_resampler {settings : Settings} {factory : Option DownmixFactory} {t : Track σ}
    (sound : t.Sound settings factory) {r : Resampler} (has : t.resampler = some r) :
    r.channels = (Channels.ofCount t.mixChannelCount).count := by
  rw [count_channels sound, (sound.resampler r has).channels]
  exact Nat.max_eq_left (Nat.le_min.mpr ⟨ChannelMask.channelCount_pos sound.valid, by decide⟩)

/-- The chain of a sound track grants what the mixer reads, whatever was asked of it before. -/
theorem grants_chain (honest : Provider.Honest σ) {settings : Settings}
    {factory : Option DownmixFactory} {t : Track σ} (sound : t.Sound settings factory)
    (fed : t.Fed settings.frameCount) {chain chain' : Chain σ} (chained : t.chain = some chain)
    (moves : Provider.Moves chain chain') :
    Provider.Grants chain' t.mixChannelCount t.mixInput.toSample := by
  have suits := (sound.chain chain chained).moves moves
  have fed := (fed chain chained).moves honest.toSteady moves
  have grants := suits.grants (honest.grants _) fed (ChannelMask.channelCount_pos sound.valid)
  exact grants

/-- A track that is mixed as it comes is heard as what its provider supplies. -/
theorem playDirect_voiced (honest : Provider.Honest σ) {m : Mixer σ} {task : Task} {t : Track σ}
    (found : m.track? task.slot = some t) (sound : t.Sound m.settings m.factory)
    (fed : t.Fed m.settings.frameCount) (fits : task.Fits t) {input : MixFormat}
    (direct : task.kernel = .direct input) (pts : Option Int) :
    ∃ v, m.Voiced pts task v ∧ v.mainBus = t.mainBus ∧
      v.auxBus = (if task.aux then t.auxBus else none) ∧
      v.Plays m.settings.frameCount (t.playDirect input task.channels m.settings.frameCount
        m.settings.sampleRate pts).contributions := by
  obtain ⟨given, -, rfl⟩ := fits.direct input direct
  obtain ⟨chain, chained⟩ := Option.isSome_iff_exists.mp given
  have grants : ∀ chain', Provider.Moves chain chain' →
      Provider.Grants chain' (Channels.ofCount t.mixChannelCount).count t.mixInput.toSample := by
    intro chain' moves
    rw [count_channels sound]
    exact grants_chain honest sound fed chained moves
  have supply := Provider.pull_supplies t.mixInput (.ofCount t.mixChannelCount)
    (stampAfter pts m.settings.sampleRate) m.settings.frameCount chain grants
  rw [Track.playDirect_eq, fits.channels]
  simp only [Track.read, chained]
  generalize Provider.pull (listen t.mixInput (.ofCount t.mixChannelCount))
    (stampAfter pts m.settings.sampleRate) m.settings.frameCount chain = result at supply ⊢
  obtain ⟨frames, chain'⟩ := result
  refine ⟨_, .direct found direct chained supply, rfl, rfl,
    Voice.plays_frames (supply.length_le grants) ?_⟩
  intro i inside
  unfold Voice.frame?
  simp only
  cases frames[i]? with
  | some frame => rfl
  | none => rfl

/-- What is read of a resampled track are the frames that its resampler produces. -/
theorem readResampled_fst {t : Track σ} {chain : Chain σ} {r : Resampler}
    (chained : t.chain = some chain) (has : t.resampler = some r) {channels : Channels}
    (frameCount : Nat) (pts : Option Int)
    (whole : ∀ f ∈ (r.resample frameCount (frameCount * channels.count) chain pts).1,
      f.length = channels.count) :
    (t.readResampled channels frameCount pts).1 =
      (r.resample frameCount (frameCount * channels.count) chain pts).1.map channels.hear := by
  simp only [Track.readResampled, chained, has]
  cases channels with
  | mono => exact Channels.map_both_flatten whole
  | stereo => exact Channels.deinterleave_flatten whole

/-- Resampling leaves the gains. -/
theorem readResampled_volume (channels : Channels) (frameCount : Nat) (pts : Option Int)
    (t : Track σ) : (t.readResampled channels frameCount pts).2.volume = t.volume := by
  unfold Track.readResampled
  split
  · rfl
  · rfl

/-- A resampled track is heard as what its resampler produces. -/
theorem playResampled_voiced {m : Mixer σ} {task : Task} {t : Track σ}
    (found : m.track? task.slot = some t) (sound : t.Sound m.settings m.factory)
    (fits : task.Fits t) (resampled : task.kernel = .resampled) (pts : Option Int) :
    ∃ v, m.Voiced pts task v ∧ v.mainBus = t.mainBus ∧
      v.auxBus = (if task.aux then t.auxBus else none) ∧
      v.Plays m.settings.frameCount
        (t.playResampled task.channels m.settings.frameCount pts).contributions := by
  obtain ⟨given, has⟩ := fits.resampled resampled
  obtain ⟨chain, chained⟩ := Option.isSome_iff_exists.mp given
  obtain ⟨r, has⟩ := Option.isSome_iff_exists.mp has
  have channels := channels_resampler sound has
  obtain ⟨short, whole⟩ := r.resample_frames m.settings.frameCount
    (m.settings.frameCount * (Channels.ofCount t.mixChannelCount).count) chain pts
  rw [channels] at whole
  refine ⟨_, .resampled found resampled chained has, rfl, rfl, ?_⟩
  rw [Track.playResampled_eq, fits.channels, readResampled_fst chained has _ _ whole]
  simp only [readResampled_volume]
  generalize r.resample m.settings.frameCount
    (m.settings.frameCount * (Channels.ofCount t.mixChannelCount).count) chain pts = result
    at short ⊢
  refine Voice.plays_frames ?_ ?_
  · simp only [List.length_append, List.length_replicate, List.length_map]
    omega
  · intro i inside
    rw [getElem?_filled _ _ inside]
    unfold Voice.frame?
    cases (result.1.map (Channels.ofCount t.mixChannelCount).hear)[i]? with
    | some frame => rfl
    | none => rfl

/-- What is heard of a task that is not idle. -/
theorem runKernel_voiced (honest : Provider.Honest σ) {m : Mixer σ} {task : Task} {t : Track σ}
    (found : m.track? task.slot = some t) (sound : t.Sound m.settings m.factory)
    (fed : t.Fed m.settings.frameCount) (fits : task.Fits t) (pts : Option Int) :
    (task.heard = false ∧ (runKernel m.settings task pts t).1 = none) ∨
    (task.heard = true ∧ ∃ v played, (runKernel m.settings task pts t).1 = some played ∧
      m.Voiced pts task v ∧ v.mainBus = t.mainBus ∧
      v.auxBus = (if task.aux then t.auxBus else none) ∧
      v.Plays m.settings.frameCount played.contributions) := by
  unfold Task.heard runKernel
  cases kernel : task.kernel with
  | idle => exact .inl ⟨rfl, rfl⟩
  | direct input =>
    obtain ⟨v, voiced⟩ := playDirect_voiced honest found sound fed fits kernel pts
    exact .inr ⟨rfl, v, _, rfl, voiced⟩
  | resampled =>
    obtain ⟨v, voiced⟩ := playResampled_voiced found sound fits kernel pts
    exact .inr ⟨rfl, v, _, rfl, voiced⟩

/-- A task leaves the settings and every other slot. -/
theorem runTask_rest (pts : Option Int) (sums : Sums) (m : Mixer σ) (task : Task) :
    (runTask pts sums m task).2.settings = m.settings ∧
      ∀ slot, slot ≠ task.slot → (runTask pts sums m task).2.track? slot = m.track? slot := by
  refine ⟨(rendered_runTask pts sums m task).settings, ?_⟩
  intro slot other
  unfold runTask
  cases found : m.track? task.slot with
  | none => rfl
  | some t =>
    simp only
    rcases runKernel m.settings task pts t with ⟨_ | played, t'⟩
    · exact track?_setTrack_ne m _ other
    · simp only
      split
      · split
        · exact track?_setTrack_ne m _ other
        · exact track?_setTrack_ne m _ other
      · split
        · exact track?_setTrack_ne m _ other
        · exact track?_setTrack_ne m _ other

/-- A task writes what its kernel gives. -/
theorem runTask_write (pts : Option Int) (sums : Sums) {m : Mixer σ} {task : Task}
    {t t' : Track σ} {played : Played σ} (found : m.track? task.slot = some t)
    (result : runKernel m.settings task pts t = (some played, t')) :
    (runTask pts sums m task).1 = sums.write m.settings.frameCount t'.mainBus
      (if task.aux then t'.auxBus else none) played.contributions := by
  unfold runTask
  simp only [found, result]
  cases played.complete with
  | true =>
    split
    · rfl
    · rfl
  | false =>
    split
    · rfl
    · rfl

/-- One task adds its voice to the sums, if it is heard. -/
theorem runTask_hold (honest : Provider.Honest σ) {m m' : Mixer σ} {task : Task} {t : Track σ}
    (settings : m'.settings = m.settings) (same : m'.track? task.slot = m.track? task.slot)
    (found : m.track? task.slot = some t) (sound : t.Sound m.settings m.factory)
    (fed : t.Fed m.settings.frameCount) (fits : task.Fits t) (pts : Option Int) {sums : Sums}
    {voices : List Voice} (hold : sums.Hold m.settings.frameCount voices) :
    (task.heard = false ∧
      (runTask pts sums m' task).1.Hold m.settings.frameCount voices) ∨
    (task.heard = true ∧ ∃ v, m.Voiced pts task v ∧
      (runTask pts sums m' task).1.Hold m.settings.frameCount (voices ++ [v])) := by
  have there : m'.track? task.slot = some t := same.trans found
  have moved := runKernel_moved m.settings task pts t
  rcases runKernel_voiced honest found sound fed fits pts with
    ⟨idle, silent⟩ | ⟨heard, v, played, some_played, voiced, main, aux, plays⟩
  · refine .inl ⟨idle, ?_⟩
    rcases result : runKernel m.settings task pts t with ⟨played, t'⟩
    rw [result] at silent
    obtain rfl : played = none := silent
    unfold runTask
    rw [← settings] at result
    simp only [there, result]
    exact hold
  · refine .inr ⟨heard, v, voiced, ?_⟩
    rcases result : runKernel m.settings task pts t with ⟨given, t'⟩
    rw [result] at moved some_played
    obtain rfl : given = some played := some_played
    have mainBus : t'.mainBus = t.mainBus := moved.mainBus_eq
    have auxBus : t'.auxBus = t.auxBus := moved.auxBus_eq
    have write := hold.write plays
    rw [main, aux, ← mainBus, ← auxBus] at write
    rw [← settings] at result write ⊢
    rw [runTask_write pts sums there result]
    exact write

/-- The tasks of a block add their voices to the sums in their order. -/
theorem runTasks_hold (honest : Provider.Honest σ) {m : Mixer σ} (wf : WellFormed m)
    (fed : m.Fed) (pts : Option Int) {tasks : List Task} (distinct : (tasks.map Task.slot).Nodup)
    (fits : ∀ task ∈ tasks, ∃ t, m.track? task.slot = some t ∧ task.Fits t) {m' : Mixer σ}
    (settings : m'.settings = m.settings)
    (same : ∀ task ∈ tasks, m'.track? task.slot = m.track? task.slot) {sums : Sums}
    {voices : List Voice} (hold : sums.Hold m.settings.frameCount voices) :
    ∃ more, List.Forall₂ (m.Voiced pts) (tasks.filter Task.heard) more ∧
      (tasks.foldl (fun (sums, m) task => runTask pts sums m task) (sums, m')).1.Hold
        m.settings.frameCount (voices ++ more) := by
  -- the tracks of the tasks still to come are those of `m`, since no two tasks share a slot
  induction tasks generalizing sums m' voices with
  | nil => exact ⟨[], .nil, by simpa using hold⟩
  | cons task rest ih =>
    rw [List.map_cons, List.nodup_cons] at distinct
    obtain ⟨t, found, here⟩ := fits task (by simp)
    obtain ⟨settings', other⟩ := runTask_rest pts sums m' task
    have step := runTask_hold honest settings (same task (by simp)) found (wf.sound _ _ found)
      (fed _ _ found) here pts hold
    have untouched : ∀ later ∈ rest,
        (runTask pts sums m' task).2.track? later.slot = m.track? later.slot := by
      intro later member
      have apart : later.slot ≠ task.slot := fun equal =>
        distinct.1 (equal ▸ List.mem_map_of_mem member)
      rw [other _ apart]
      exact same later (List.mem_cons_of_mem _ member)
    have restFits := fun later member => fits later (List.mem_cons_of_mem _ member)
    rw [List.foldl_cons]
    have later := @ih distinct.2 restFits _ (settings'.trans settings) untouched
    rcases step with ⟨idle, hold⟩ | ⟨heard, v, voiced, hold⟩
    · obtain ⟨more, voiced, held⟩ := later hold
      refine ⟨more, ?_, held⟩
      rw [List.filter_cons_of_neg (by simp [idle])]
      exact voiced
    · obtain ⟨more, voiced', held⟩ := later hold
      refine ⟨v :: more, ?_, by simpa using held⟩
      rw [List.filter_cons_of_pos heard]
      exact .cons voiced voiced'

/-- The general mix of tasks that fit is the mix of their voices. -/
theorem renderGeneral_mix (honest : Provider.Honest σ) {m : Mixer σ} (wf : WellFormed m)
    (fed : m.Fed) (pts : Option Int) (plan : Plan) {tasks : List Task}
    (distinct : (tasks.map Task.slot).Nodup)
    (fits : ∀ task ∈ tasks, ∃ t, m.track? task.slot = some t ∧ task.Fits t)
    {formats : List MixFormat} (lengths : formats.length = m.mainBuses.length) :
    let after := ({ m with plan := some plan } : Mixer σ).renderGeneral tasks formats pts
    ∃ voices, List.Forall₂ (m.Voiced pts) (tasks.filter Task.heard) voices ∧
      after.mainBuses = Voice.mainBlocks voices m.settings.frameCount formats ∧
      after.auxBuses = Voice.auxBlocks voices m.settings.frameCount m.auxBuses.length := by
  intro after
  let planned : Mixer σ := { m with plan := some plan }
  let sums : Sums := .empty m.mainBuses.length m.auxBuses.length
  obtain ⟨voices, voiced, hold⟩ := runTasks_hold honest wf fed pts distinct fits
    (show planned.settings = m.settings from rfl) (fun _ _ => rfl)
    (Sums.hold_empty m.mainBuses.length m.auxBuses.length m.settings.frameCount)
  rw [List.nil_append] at hold
  have settings := (rendered_runTasks pts tasks sums planned).settings
  obtain ⟨main, aux⟩ := length_runTasks pts tasks sums planned
  have mainLength : sums.main.length = m.mainBuses.length := List.length_replicate
  have auxLength : sums.aux.length = m.auxBuses.length := List.length_replicate
  refine ⟨voices, voiced, ?_, ?_⟩
  · simp only [after, renderGeneral]
    rw [settings, hold.mainBlocks (main.trans (mainLength.trans lengths.symm))]
  · simp only [after, renderGeneral]
    rw [settings, hold.auxBlocks, aux, auxLength]

/-- A block is the mix of the voices of its contributing tasks, however it is mixed. -/
theorem renderBy_mix (honest : Provider.Honest σ) {m : Mixer σ} (wf : WellFormed m)
    (fed : m.Fed) (pts : Option Int) {plan : Plan} (stands : plan.Stands m)
    (lengths : plan.formats.length = m.mainBuses.length) :
    ∃ voices, List.Forall₂ (m.Voiced pts) plan.strategy.contributing voices ∧
      (m.renderBy plan pts).mainBuses =
        Voice.mainBlocks voices m.settings.frameCount plan.formats ∧
      (m.renderBy plan pts).auxBuses =
        Voice.auxBlocks voices m.settings.frameCount m.auxBuses.length := by
  unfold Plan.Stands at stands
  unfold renderBy
  generalize plan.strategy = strategy at stands ⊢
  cases stands with
  | silent =>
    refine ⟨[], .nil, ?_, ?_⟩
    · rw [Voice.mainBlocks_nil]
      rfl
    · rw [Voice.auxBlocks_nil]
      exact List.map_const'
  | fused slot channels input output t only found task format =>
    have rest : t.volume.isMoving = false := congrArg Task.ramp task
    have fits := Task.ofTrack_fits slot t
    rw [task] at fits
    let planned : Mixer σ := { m with plan := some plan }
    have same : planned.renderFused slot channels input output plan.formats pts =
        planned.renderGeneral [⟨slot, channels, .direct input, false, false⟩] plan.formats pts :=
      renderFused_eq_renderGeneral (show planned.track? slot = some t from found)
        (wf.sound slot t found).volume rest format lengths pts
    have single : (Strategy.fused slot channels input output).contributing =
        [⟨slot, channels, .direct input, false, false⟩].filter Task.heard := rfl
    simp only
    rw [same, single]
    apply renderGeneral_mix honest wf fed pts plan _ _ lengths
    · simp
    · intro task member
      obtain rfl := List.mem_singleton.mp member
      exact ⟨t, found, fits⟩
  | general tasks slots fits =>
    apply renderGeneral_mix honest wf fed pts plan _ _ lengths
    · rw [slots]
      exact Slot.nodup_all.filter _
    · intro task member
      have listed : task.slot ∈ Slot.all.filter m.isEnabled := slots ▸ List.mem_map_of_mem member
      obtain ⟨t, found, -⟩ := isEnabled_eq_true.mp (List.mem_filter.mp listed).2
      exact ⟨t, found, fits task member t found⟩

/-- After any run of a mixer with honest providers, the next block is the mix of the voices of
the contributing tasks, in the order of their slots. These are the tasks of the enabled tracks,
as they were when the plan was made, without the idle ones. -/
theorem run_render_mix (honest : Provider.Honest σ) {settings : Settings}
    {factory : Option DownmixFactory} {start : Mixer σ}
    (built : Mixer.new settings factory = .ok start) (actions : List (Action σ))
    (keeps : ∀ action ∈ actions, action.KeepsDeclarations) (pts : Option Int) :
    let m := start.run actions
    let tasks := m.currentPlan.strategy.contributing
    let formats := m.currentPlan.formats
    (∃ earlier later, actions = earlier ++ later ∧
      m.isEnabled = (start.run earlier).isEnabled ∧
      tasks = ((start.run earlier).enabledTracks.map fun (slot, t) =>
        Task.ofTrack slot t).filter Task.heard) ∧
    (tasks.map Task.slot).Sublist (Slot.all.filter m.isEnabled) ∧
    ∃ voices, List.Forall₂ (m.Voiced pts) tasks voices ∧
      formats.length = settings.mainBuses ∧
      (m.render pts).mainBuses = Voice.mainBlocks voices settings.frameCount formats ∧
      (m.render pts).auxBuses =
        Voice.auxBlocks voices settings.frameCount settings.auxBuses := by
  intro m tasks formats
  obtain ⟨-, same, -, unplanned, empty, -, -⟩ := new_spec built
  have unfed : start.Fed := fun slot t found => absurd found (by simp [empty])
  have reachable : Reachable m := Reachable.run (.new built) actions
  have wf := reachable.wellFormed
  obtain ⟨fed, settings', -⟩ := fed_run honest.toSteady (.new built) unfed actions keeps
  obtain ⟨earlier, later, split, made, enabled⟩ := currentPlan_run (.new built) unplanned actions
  have listed : tasks = ((start.run earlier).enabledTracks.map fun (slot, t) =>
      Task.ofTrack slot t).filter Task.heard := by
    simp only [tasks, m, made]
    exact Strategy.contributing_ofTracks _
  refine ⟨⟨earlier, later, split, enabled, listed⟩, ?_, ?_⟩
  · have slots : ((start.run earlier).enabledTracks.map fun (slot, t) =>
        Task.ofTrack slot t).map Task.slot = Slot.all.filter m.isEnabled := by
      rw [enabled, ← map_fst_enabledTracks, List.map_map]
      rfl
    rw [listed, ← slots]
    exact List.filter_sublist.map Task.slot
  · obtain ⟨voices, voiced, main, aux⟩ := renderBy_mix honest wf fed pts
      (stands_currentPlan wf reachable.standing) wf.length_formats
    have length : formats.length = m.mainBuses.length := wf.length_formats
    rw [settings'.trans same] at main aux
    have mainLength : m.mainBuses.length = settings.mainBuses := by
      rw [wf.mainBuses, settings'.trans same]
    have auxLength : m.auxBuses.length = settings.auxBuses := by
      rw [wf.auxBuses, settings'.trans same]
    rw [auxLength] at aux
    exact ⟨voices, voiced, length.trans mainLength, main, aux⟩

/-- Three tracks on two main buses: two frames of stereo, a looping mono clip under a moving gain
that is also sent to the auxiliary bus, and a resampled clip. The first track adds nothing to the
last two frames. -/
theorem run_render_mix_threeTracks :
    let first : Slot := ⟨0, by decide⟩
    let second : Slot := ⟨1, by decide⟩
    let third : Slot := ⟨2, by decide⟩
    let settings : Settings := { frameCount := 4, mainBuses := 2, outputFormat := .float }
    let actions : List (Action Clip) :=
      [.allocate .stereo .float 0, .allocate .mono .float 0, .allocate .mono .float 0,
        .attach first (some (.ofSamples 2 (.float #[0.5, 0.25, 1, 0.5]) false)),
        .attach second (some (.ofSamples 1 (.float #[0.5, 0.25, 0.125]) true)),
        .attach third (some (.ofSamples 1 (.float #[0, 0.5, 1, 0.5, 0]) false)),
        .set second (.auxBus (some 0)), .set second (.gain .aux 0.5 false),
        .set second (.gain .left 0.5 true), .set third (.mainBus 1),
        .set third (.sampleRate 24000), .setEnabled first true, .setEnabled second true,
        .setEnabled third true]
    ∃ start, Mixer.new settings none = .ok start ∧
      (∀ action ∈ actions, action.KeepsDeclarations) ∧
      let m := start.run actions
      let tasks := m.currentPlan.strategy.contributing
      tasks.map Task.slot = [first, second, third] ∧
      (∃ voices, List.Forall₂ (m.Voiced none) tasks voices ∧
        (m.render none).mainBuses = Voice.mainBlocks voices 4 [.float, .float] ∧
        (m.render none).auxBuses = Voice.auxBlocks voices 4 1) ∧
      (m.render none).mainBuses.map Block.singles =
        ([[1, 0.75, 1.21875, 0.75, 0.09375, 0.125, 0.3125, 0.5],
          [0, 0, 0.25, 0.25, 0.5, 0.5, 0.75, 0.75]] : List (List Float32)) ∧
      (m.render none).auxBuses = ([[0.25, 0.125, 0.0625, 0.25]] : List (List Float32)) := by
  intro first second third settings actions
  have keeps : ∀ action ∈ actions, action.KeepsDeclarations := by
    intro action member
    simp only [actions, List.mem_cons, List.not_mem_nil, or_false] at member
    rcases member with rfl | rfl | rfl | rfl | rfl | rfl | rfl | rfl | rfl | rfl | rfl | rfl | rfl |
      rfl <;> trivial
  obtain ⟨start, built, slots, formats, main, aux⟩ : ∃ start, Mixer.new settings none = .ok start ∧
      (start.run actions).currentPlan.strategy.contributing.map Task.slot = [first, second, third] ∧
      (start.run actions).currentPlan.formats = [.float, .float] ∧
      ((start.run actions).render none).mainBuses.map Block.singles =
        ([[1, 0.75, 1.21875, 0.75, 0.09375, 0.125, 0.3125, 0.5],
          [0, 0, 0.25, 0.25, 0.5, 0.5, 0.75, 0.75]] : List (List Float32)) ∧
      ((start.run actions).render none).auxBuses =
        ([[0.25, 0.125, 0.0625, 0.25]] : List (List Float32)) :=
    ⟨_, rfl, by decide +kernel⟩
  obtain ⟨-, -, voices, voiced, -, mix, sends⟩ :=
    run_render_mix Clip.honest built actions keeps none
  rw [formats] at mix
  exact ⟨start, built, keeps, slots, ⟨voices, voiced, mix, sends⟩, main, aux⟩

end Mixer

end Mixdown
