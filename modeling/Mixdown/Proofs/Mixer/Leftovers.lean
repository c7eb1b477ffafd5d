import Mixdown.Proofs.Mixer.Following
import Mixdown.Proofs.Mixer.Parallel
import Mixdown.Proofs.Mixer.Upkeep
import Mixdown.Proofs.Resampler.Leftovers
import Mixdown.Provider.Source

/-!
# What is left over in a mixer

The buffers inside a mixer keep what an earlier block left in them. Two mixers that differ there
only (`SameButScratch`) mix the same blocks and go on so, where nothing that is left over can be
heard of the tracks of the block (`Covered`). That is the case where a provider delivers the samples
of the frames that it claims, or where its buffers are mixed as they are. Where a conversion stands
between a provider that claims too much and the mix, samples that were left over are heard.
-/

namespace Mixdown

variable {σ : Type}

/-- Chains and resamplers may differ in what their buffers were left with. -/
def Leeway.scratch : Leeway σ where
  chain := Chain.Like
  resampler := Resampler.Like
  chain_refl := .refl
  chain_source like := like.source
  chain_mapSource f like := like.mapSource f
  resampler_refl := .refl
  resampler_settings like := by
    obtain ⟨_, _, _, rfl⟩ := like.parts
    exact ⟨rfl, rfl, rfl⟩
  setInputRate rate like := like.setInputRate rate
  reset like := like.reset

namespace Track

variable [Provider σ] {t t' : Track σ}

/-- Nothing that was left over can be heard of a track: the provider delivers the samples of the
frames that it claims, or its buffers are mixed as they are. -/
def Covered (t : Track σ) : Prop :=
  ∀ c, t.chain = some c → Provider.Covers c.source t.mask.channelCount ∨
    c = .direct c.source ∧ t.resampler = none

namespace Within

theorem passOver (within : Within .scratch t t') (frameCount : Nat) (rate : UInt32)
    (pts : Option Int) :
    Within .scratch (t.passOver frameCount rate pts) (t'.passOver frameCount rate pts) := by
  have claims (left : Nat) (b b' : Buffer) (same : b'.frames = b.frames) :
      discard left b' = discard left b := by
    unfold discard
    rw [same]
  have chains := within.chain
  generalize had : t.chain = before, had' : t'.chain = after at chains
  unfold Track.passOver
  cases chains with
  | none =>
    simp only [had, had']
    exact within
  | some like =>
    simp only [had, had']
    exact within.withChain (.some (like.pull claims (stampAfter pts rate) frameCount).2)

variable {settings : Settings} {factory : Option DownmixFactory}

/-- The same frames are read from two such tracks, where nothing left over can be heard. -/
theorem read (within : Within .scratch t t') (sound : t.Sound settings factory)
    (covered : t.Covered) (input : MixFormat) (channels : Channels) (frameCount : Nat)
    (rate : UInt32) (pts : Option Int) :
    (t'.read input channels frameCount rate pts).1 =
        (t.read input channels frameCount rate pts).1 ∧
      Within .scratch (t.read input channels frameCount rate pts).2
        (t'.read input channels frameCount rate pts).2 := by
  have chains := within.chain
  generalize had : t.chain = before, had' : t'.chain = after at chains
  unfold Track.read
  cases chains with
  | none =>
    simp only [had, had']
    exact ⟨trivial, within⟩
  | @some c c' like =>
    simp only [had, had']
    rcases covered c had with covers | ⟨direct, -⟩
    · have clean : Chain.Clean (t.layout settings.frameCount) t.downmix c c' :=
        ⟨like, sound.chain c had, covers⟩
      obtain ⟨frames, after⟩ := clean.pull (ChannelMask.channelCount_pos sound.valid)
        (listen input channels) (stampAfter pts rate) frameCount
      exact ⟨frames, within.withChain (.some after.like)⟩
    · obtain rfl : c' = c := by
        rw [direct] at like ⊢
        cases like
        rfl
      exact ⟨rfl, within.withChain (rel_refl Chain.Like.refl _)⟩

/-- The same frames are resampled from two such tracks. -/
theorem readResampled (within : Within .scratch t t') (sound : t.Sound settings factory)
    (covered : t.Covered) (channels : Channels) (frameCount : Nat) (pts : Option Int) :
    (t'.readResampled channels frameCount pts).1 = (t.readResampled channels frameCount pts).1 ∧
      Within .scratch (t.readResampled channels frameCount pts).2
        (t'.readResampled channels frameCount pts).2 := by
  have chains := within.chain
  have resamplers := within.resampler
  have pos := ChannelMask.channelCount_pos sound.valid
  generalize had : t.chain = before, had' : t'.chain = after at chains
  generalize has : t.resampler = before, has' : t'.resampler = after at resamplers
  unfold Track.readResampled
  cases chains with
  | none =>
    simp only [had, had']
    exact ⟨trivial, within⟩
  | @some c c' like =>
    cases resamplers with
    | none =>
      simp only [had, had', has, has']
      exact ⟨trivial, within⟩
    | @some r r' here =>
      simp only [had, had', has, has']
      have covers := (covered c had).resolve_right fun ⟨_, unresampled⟩ =>
        Option.some_ne_none r (has.symm.trans unresampled)
      have clean : Chain.Clean (t.layout settings.frameCount) t.downmix c c' :=
        ⟨like, sound.chain c had, covers⟩
      have count : r.channels = min t.mask.channelCount maxMixChannels :=
        (sound.resampler r has).channels.trans
          (Nat.max_eq_left (Nat.lt_min.mpr ⟨pos, by decide⟩))
      obtain ⟨frames, after, onward⟩ := here.resample clean pos count frameCount
        (frameCount * channels.count) pts
      rw [frames]
      exact ⟨rfl, (within.withChain (.some onward.like)).withResampler (.some after)⟩

end Within

end Track

namespace Mixer

theorem plansAs_within {leeway : Leeway σ} {t t' : Track σ} (within : Track.Within leeway t t') :
    t.PlansAs t' := by
  have demands := demands_within within
  have chain := isSome_of_rel within.chain
  obtain ⟨_, _, -, -, rfl⟩ := within.parts
  exact ⟨chain, rfl, rfl, rfl, demands⟩

/-- Two mixers that differ in what their buffers were left with at most: in the stages of the
chains, behind the staged frames of the resamplers, and on the buses. The other buffers of a mixer
are filled before they are read in each block: the output of a downmix, the frames that come out of
a resampler, the sums of the buses and their 16-bit words. They are not part of a `Mixer`, so that
nothing depends on what they were left with by its definition, and not by what is proved here. -/
structure SameButScratch (m m' : Mixer σ) : Prop where
  along : Alongside .scratch (fun _ => False) m m'
  attempts : m'.attempts = m.attempts
  plan : m'.plan = m.plan
  formats : m'.mainBuses.map Block.format = m.mainBuses.map Block.format
  underruns : m'.underruns = m.underruns

/-- Two mixers whose last blocks are the same, and which differ in what their buffers were left with
at most. -/
structure SameBlock (m m' : Mixer σ) : Prop extends SameButScratch m m' where
  mainBuses : m'.mainBuses = m.mainBuses
  auxBuses : m'.auxBuses = m.auxBuses

namespace SameButScratch

variable {m m' : Mixer σ}

theorem track (same : SameButScratch m m') (slot : Slot) :
    Option.Rel (Track.Within .scratch) (m.track? slot) (m'.track? slot) :=
  same.along.tracks slot id

/-- The next block is mixed by the same plan. -/
theorem currentPlan_eq (same : SameButScratch m m') : m'.currentPlan = m.currentPlan := by
  have made : m'.makePlan = m.makePlan := by
    refine makePlan_congr (forall₂_enabledTracks fun slot => rel_filter_enabled ?_) same.formats
    refine rel_imp (same.track slot) fun t t' _ _ within => ⟨?_, fun _ => plansAs_within within⟩
    rw [within.rest]
  unfold currentPlan
  rw [same.plan, made]

theorem writes {n n' : Mixer σ} (same : SameButScratch m m') {slot : Slot}
    {t t' : Option (Track σ)} {keeps : Bool} (here : Writes m n slot t keeps)
    (there : Writes m' n' slot t' keeps) (within : Option.Rel (Track.Within .scratch) t t')
    (attempts : n'.attempts = n.attempts) : SameButScratch n n' := by
  refine ⟨(same.along.writes here there within).mono fun _ far => far.1, attempts, ?_, ?_, ?_⟩
  · rw [here.plan, there.plan, same.plan]
  · rw [here.mainBuses, there.mainBuses, same.formats]
  · rw [here.underruns, there.underruns, same.underruns]

theorem setTrack (same : SameButScratch m m') (slot : Slot) {t t' : Track σ}
    (within : Track.Within .scratch t t') :
    SameButScratch (m.setTrack slot (some t)) (m'.setTrack slot (some t')) :=
  same.writes (writes_setTrack m slot _) (writes_setTrack m' slot _) (.some within) same.attempts

theorem withPlan (same : SameButScratch m m') (plan : Option Plan) :
    SameButScratch { m with plan } { m' with plan } :=
  ⟨{ same.along with }, same.attempts, rfl, same.formats, same.underruns⟩

theorem underrun (same : SameButScratch m m') :
    SameButScratch { m with underruns := m.underruns + 1 }
      { m' with underruns := m'.underruns + 1 } :=
  ⟨{ same.along with }, same.attempts, same.plan, same.formats, congrArg (· + 1) same.underruns⟩

theorem withBuses (same : SameButScratch m m') (mainBuses : List Block)
    (auxBuses : List (List Float32)) :
    SameBlock { m with mainBuses, auxBuses } { m' with mainBuses, auxBuses } :=
  ⟨⟨{ same.along with mainBuses := rfl, auxBuses := rfl }, same.attempts, same.plan, rfl,
    same.underruns⟩, rfl, rfl⟩

end SameButScratch

/-- The mixer with `x` all over its buffers: in the stages of the chains, behind the staged frames
of the resamplers, and on the buses. -/
def filled (x : Float32) (m : Mixer σ) : Mixer σ :=
  { m with
    tracks := m.tracks.map fun track => track.map fun t =>
      { t with chain := t.chain.map (.filled x), resampler := t.resampler.map (.filled x) }
    mainBuses := m.mainBuses.map fun block =>
      .ofMix block.format (List.replicate m.settings.frameCount (.both x))
    auxBuses := m.auxBuses.map fun _ => List.replicate m.settings.frameCount x }

theorem sameButScratch_filled (x : Float32) (m : Mixer σ) : SameButScratch m (m.filled x) := by
  have tracks (slot : Slot) : Option.Rel (Track.Within .scratch) (m.track? slot)
      ((m.filled x).track? slot) := by
    have mapped : (m.filled x).track? slot = (m.track? slot).map _ := Vector.getElem_map ..
    rw [mapped]
    cases m.track? slot with
    | none => exact .none
    | some t =>
      refine .some ⟨?_, ?_, rfl⟩
      · show Option.Rel Chain.Like t.chain (t.chain.map (.filled x))
        cases t.chain with
        | none => exact .none
        | some c => exact .some (c.like_filled x)
      · show Option.Rel Resampler.Like t.resampler (t.resampler.map (.filled x))
        cases t.resampler with
        | none => exact .none
        | some r => exact .some (r.like_filled x)
  refine ⟨⟨rfl, rfl, List.length_map .., List.length_map ..,
    fun slot => isSome_of_rel (tracks slot), fun slot _ => tracks slot⟩, rfl, rfl, ?_, rfl⟩
  simp [filled, Block.format_ofMix]

theorem silenced_alike {m m' : Mixer σ} (same : SameButScratch m m') (formats : List MixFormat) :
    (m'.silenced formats).mainBuses = (m.silenced formats).mainBuses ∧
      (m'.silenced formats).auxBuses = (m.silenced formats).auxBuses := by
  unfold silenced
  simp only [same.along.settings, List.map_const', same.along.auxBuses]
  exact ⟨trivial, trivial⟩

/-- What two kernels made of a block that sounds the same. -/
structure PlaysAlike (p p' : Played σ) : Prop where
  contributions : p'.contributions = p.contributions
  complete : p'.complete = p.complete

variable [Provider σ]

section Kernel

variable {settings : Settings} {factory : Option DownmixFactory} {t t' : Track σ} {task : Task}

/-- Two tracks that differ in what was left over go through a kernel alike. -/
theorem runKernel_alike (within : Track.Within .scratch t t') (sound : t.Sound settings factory)
    (covered : task.heard = true → t.Covered) (pts : Option Int) :
    Option.Rel PlaysAlike (runKernel settings task pts t).1 (runKernel settings task pts t').1 ∧
      Track.Within .scratch (runKernel settings task pts t).2
        (runKernel settings task pts t').2 := by
  unfold Task.heard at covered
  unfold runKernel
  cases kernel : task.kernel with
  | idle => exact ⟨.none, within.passOver ..⟩
  | direct input =>
    rw [kernel] at covered
    obtain ⟨frames, read⟩ := within.read sound (covered rfl) input task.channels
      settings.frameCount settings.sampleRate pts
    simp only [Track.playDirect_eq, frames, read.volume_eq]
    exact ⟨.some ⟨rfl, rfl⟩, read.withVolume _⟩
  | resampled =>
    rw [kernel] at covered
    obtain ⟨frames, read⟩ := within.readResampled sound (covered rfl) task.channels
      settings.frameCount pts
    simp only [Track.playResampled_eq, frames, read.volume_eq]
    exact ⟨.some ⟨rfl, rfl⟩, read.withVolume _⟩

end Kernel

/-- Any call but that for a block keeps two such mixers so. -/
theorem SameButScratch.call {m m' : Mixer σ} (same : SameButScratch m m') {action : Action σ}
    (quiet : ∀ pts, action ≠ .render pts) :
    SameButScratch (m.act action) (m'.act action) := by
  have even := buildsAlike_of_attempts same.along.factory same.attempts
  cases act_twin same.along quiet (fun _ _ => id) (.inl even) with
  | same _ here there =>
    rw [here, there]
    exact same
  | writes slot t t' keeps _ here there within attempts =>
    exact same.writes here there within (attempts same.attempts)

/-- Nothing that was left over can be heard in the next block. -/
def Covered (m : Mixer σ) : Prop :=
  ∀ task ∈ m.currentPlan.strategy.contributing, ∀ t, m.track? task.slot = some t → t.Covered

section Tasks

variable {m m' : Mixer σ}

/-- What is needed of the track of a task for nothing left over to be heard. -/
def Clear (m : Mixer σ) (task : Task) : Prop :=
  ∀ t, m.track? task.slot = some t →
    t.Sound m.settings m.factory ∧ (task.heard = true → t.Covered)

/-- One task adds the same to the sums. -/
theorem runTask_alike (same : SameButScratch m m') {task : Task} (clear : m.Clear task)
    (pts : Option Int) (sums : Sums) :
    (runTask pts sums m' task).1 = (runTask pts sums m task).1 ∧
      SameButScratch (runTask pts sums m task).2 (runTask pts sums m' task).2 := by
  have here := same.track task.slot
  generalize found : m.track? task.slot = before, found' : m'.track? task.slot = after at here
  cases here with
  | none =>
    unfold runTask
    simp only [found, found']
    exact ⟨trivial, same⟩
  | @some t t' within =>
    obtain ⟨sound, covered⟩ := clear t found
    obtain ⟨played, moved⟩ := runKernel_alike within sound covered pts
    rcases result : runKernel m.settings task pts t with ⟨p, u⟩
    rcases result' : runKernel m.settings task pts t' with ⟨p', u'⟩
    rw [result, result'] at played moved
    replace moved : Track.Within .scratch u u' := moved
    rw [← same.along.settings] at result'
    have written := same.setTrack task.slot moved
    cases played with
    | none =>
      unfold runTask
      simp only [found, found', result, result']
      exact ⟨trivial, written⟩
    | @some p p' alike =>
      refine ⟨?_, ?_⟩
      · rw [runTask_write pts sums found result, runTask_write pts sums found' result',
          same.along.settings, alike.contributions, moved.mainBus_eq, moved.auxBus_eq]
      · unfold runTask
        simp only [found, found', result, result', alike.complete, moved.volume_eq]
        cases p.complete with
        | true =>
          split
          · exact written.withPlan none
          · exact written
        | false =>
          split
          · exact written.underrun.withPlan none
          · exact written.underrun

/-- The tasks of a block add up to the same sums. -/
theorem runTasks_alike (same : SameButScratch m m') {tasks : List Task}
    (distinct : (tasks.map Task.slot).Nodup) (clear : ∀ task ∈ tasks, m.Clear task)
    (pts : Option Int) (sums : Sums) :
    (runTasks pts tasks sums m').1 = (runTasks pts tasks sums m).1 ∧
      SameButScratch (runTasks pts tasks sums m).2 (runTasks pts tasks sums m').2 := by
  induction tasks generalizing m m' sums with
  | nil => exact ⟨rfl, same⟩
  | cons task rest ih =>
    rw [List.map_cons, List.nodup_cons] at distinct
    rw [runTasks_cons, runTasks_cons]
    have rendered := rendered_runTask pts sums m task
    have others := (runTask_rest pts sums m task).2
    obtain ⟨added, after⟩ := runTask_alike same (clear task List.mem_cons_self) pts sums
    rw [added]
    refine ih after distinct.2 ?_ _
    -- the track of a later task is still as it was, since no two tasks share a slot
    intro later member t found
    have apart : later.slot ≠ task.slot := fun equal =>
      distinct.1 (equal ▸ List.mem_map_of_mem member)
    rw [rendered.settings, rendered.factory]
    exact clear later (List.mem_cons_of_mem _ member) t ((others _ apart).symm.trans found)

end Tasks

section Block

variable {m m' : Mixer σ}

theorem renderSilent_alike (same : SameButScratch m m') (formats : List MixFormat)
    (pts : Option Int) : SameBlock (m.renderSilent formats pts) (m'.renderSilent formats pts) := by
  obtain ⟨main, aux⟩ := silenced_alike same formats
  have tracks (slot : Slot) : Option.Rel (Track.Within .scratch)
      ((m.renderSilent formats pts).track? slot) ((m'.renderSilent formats pts).track? slot) := by
    have here := same.track slot
    rw [track?_renderSilent, track?_renderSilent, same.along.settings]
    generalize m.track? slot = before, m'.track? slot = after at here
    cases here with
    | none => exact .none
    | @some t t' within =>
      simp only [Option.map_some]
      rw [within.enabled_eq]
      split
      · exact .some (within.passOver ..)
      · exact .some within
  have formats' := congrArg (List.map Block.format) main
  exact ⟨⟨⟨same.along.settings, same.along.factory, congrArg List.length main,
    congrArg List.length aux, fun slot => isSome_of_rel (tracks slot), fun slot _ => tracks slot⟩,
    same.attempts, same.plan, formats', same.underruns⟩, main, aux⟩

/-- What a block of a single track makes of the mixer. -/
theorem renderFused_eq {slot : Slot} {t : Track σ} (found : m.track? slot = some t)
    (channels : Channels) (input output : MixFormat) (formats : List MixFormat)
    (pts : Option Int) :
    let frameCount := m.settings.frameCount
    let read := t.read input channels frameCount m.settings.sampleRate pts
    m.renderFused slot channels input output formats pts = { m.setTrack slot (some read.2) with
      mainBuses := (m.silenced formats).mainBuses.set read.2.mainBus
        (fusedBlock output frameCount read.2.volume read.1)
      auxBuses := (m.silenced formats).auxBuses
      underruns := if read.1.length = frameCount then m.underruns else m.underruns + 1 } := by
  unfold renderFused
  simp only [found]
  rfl

theorem renderFused_alike (same : SameButScratch m m') {slot : Slot} {t : Track σ}
    (found : m.track? slot = some t) (sound : t.Sound m.settings m.factory) (covered : t.Covered)
    (channels : Channels) (input output : MixFormat) (formats : List MixFormat)
    (pts : Option Int) :
    SameBlock (m.renderFused slot channels input output formats pts)
      (m'.renderFused slot channels input output formats pts) := by
  obtain ⟨main, aux⟩ := silenced_alike same formats
  have here := same.track slot
  rw [found] at here
  generalize found' : m'.track? slot = after at here
  cases here with
  | @some _ t' within =>
    obtain ⟨frames, read⟩ := within.read sound covered input channels m.settings.frameCount
      m.settings.sampleRate pts
    have written := same.setTrack slot read
    rw [renderFused_eq found, renderFused_eq found']
    simp only [same.along.settings, frames, read.volume_eq, read.mainBus_eq, main, aux]
    split
    · exact written.withBuses _ _
    · exact written.underrun.withBuses _ _

theorem renderGeneral_alike (same : SameButScratch m m') {tasks : List Task}
    (distinct : (tasks.map Task.slot).Nodup) (clear : ∀ task ∈ tasks, m.Clear task)
    (formats : List MixFormat) (pts : Option Int) :
    SameBlock (m.renderGeneral tasks formats pts) (m'.renderGeneral tasks formats pts) := by
  obtain ⟨sums, after⟩ := runTasks_alike same distinct clear pts
    (.empty m.mainBuses.length m.auxBuses.length)
  rw [renderGeneral_eq, renderGeneral_eq]
  simp only [same.along.mainBuses, same.along.auxBuses, sums]
  generalize runTasks pts tasks (.empty m.mainBuses.length m.auxBuses.length) m = result,
    runTasks pts tasks (.empty m.mainBuses.length m.auxBuses.length) m' = result' at after ⊢
  have frames : result'.2.settings.frameCount = result.2.settings.frameCount :=
    congrArg Settings.frameCount after.along.settings
  rw [frames]
  exact after.withBuses _ _

/-- The next block is the same where nothing left over can be heard. -/
theorem render_alike (wf : WellFormed m) (standing : m.Standing) (same : SameButScratch m m')
    (covered : m.Covered) (pts : Option Int) : SameBlock (m.render pts) (m'.render pts) := by
  have stands := stands_currentPlan wf standing
  have planned := same.withPlan (some m.currentPlan)
  unfold Plan.Stands at stands
  unfold Mixer.Covered at covered
  unfold render renderBy
  rw [same.currentPlan_eq]
  cases strategy : m.currentPlan.strategy with
  | silent => exact renderSilent_alike planned m.currentPlan.formats pts
  | fused slot channels input output =>
    rw [strategy] at stands covered
    cases stands with
    | fused _ _ _ _ t only found task format =>
      exact renderFused_alike planned found (wf.sound slot t found)
        (covered _ List.mem_cons_self t found) channels input output m.currentPlan.formats pts
  | general tasks =>
    rw [strategy] at stands covered
    refine renderGeneral_alike planned stands.nodup_slots ?_ m.currentPlan.formats pts
    intro task member t found
    exact ⟨wf.sound task.slot t found, fun heard =>
      covered task (List.mem_filter.mpr ⟨member, heard⟩) t found⟩

end Block

/-- Nothing that was left over can be heard in any block of a run. -/
def CoveredThroughout (m : Mixer σ) (actions : List (Action σ)) : Prop :=
  ∀ earlier pts later, actions = earlier ++ .render pts :: later → (m.run earlier).Covered

section Run

variable {m m' : Mixer σ}

theorem SameButScratch.run (reachable : Reachable m) (same : SameButScratch m m')
    {actions : List (Action σ)}
    (covered : m.CoveredThroughout actions) : SameButScratch (m.run actions) (m'.run actions) := by
  induction actions using List.reverseRecOn with
  | nil => exact same
  | append_singleton before action ih =>
    have here := ih fun earlier pts later parts =>
      covered earlier pts (later ++ [action]) (by rw [parts]; simp)
    rw [run_snoc, run_snoc]
    by_cases render : ∃ pts, action = .render pts
    · obtain ⟨pts, rfl⟩ := render
      exact (render_alike (reachable.run before).wellFormed (reachable.run before).standing here
        (covered before pts [] rfl) pts).toSameButScratch
    · exact here.call fun pts same => render ⟨pts, same⟩

/-- Nothing left over is heard of providers whose buffers hold the whole frames that they claim. -/
theorem coveredThroughout_of_faithful (faithful : Provider.Faithful σ) {settings : Settings}
    {factory : Option DownmixFactory} {start : Mixer σ}
    (built : Mixer.new settings factory = .ok start) {before actions : List (Action σ)}
    (keeps : ∀ action ∈ before ++ actions, action.KeepsDeclarations) :
    (start.run before).CoveredThroughout actions := by
  rintro earlier pts later rfl task - t found c chained
  have unfed : start.Fed := by
    intro slot t found
    cases ((new_spec built).2.2.2.2.1 slot).symm.trans found
  have run : (start.run before).run earlier = start.run (before ++ earlier) :=
    (List.foldl_append ..).symm
  rw [run] at found
  have fed := (fed_run faithful.toSteady (.new built) unfed (before ++ earlier)
    fun action member => keeps action (by
      rw [← List.append_assoc]
      exact List.mem_append_left _ member)).1
  have declared : Provider.channels c.source = t.mask.channelCount :=
    (fed task.slot t found c chained).1
  have covers := faithful.covers c.source
  rw [declared] at covers
  exact .inl covers

end Run

/-- What was left in the buffers of a mixer is not heard, as long as every provider that is heard
through a conversion, a downmix or a resampler delivers the samples of the frames that it claims.
Take two mixers that differ in what their buffers were left with at most, and do the same to both:
every block is the same on every bus. -/
theorem Reachable.run_scratch {m m' : Mixer σ} (reachable : Reachable m)
    (same : SameButScratch m m') (actions : List (Action σ)) (pts : Option Int)
    (covered : m.CoveredThroughout (actions ++ [.render pts])) :
    ((m'.run actions).render pts).mainBuses = ((m.run actions).render pts).mainBuses ∧
      ((m'.run actions).render pts).auxBuses = ((m.run actions).render pts).auxBuses := by
  have earlier : m.CoveredThroughout actions := by
    intro before pts' later parts
    refine covered before pts' (later ++ [.render pts]) ?_
    rw [parts, List.append_assoc, List.cons_append]
  have before := same.run reachable earlier
  have after := render_alike (reachable.run actions).wellFormed (reachable.run actions).standing
    before (covered actions pts [] rfl) pts
  exact ⟨after.mainBuses, after.auxBuses⟩

/-- A mono clip of words at half the mix rate, which is converted and resampled. After the first
block the buffers are filled, also behind the two staged frames, and two blocks later nothing of it
is heard. -/
theorem Reachable.run_scratch_halfRate :
    let slot : Slot := ⟨0, by decide⟩
    let clip := Clip.ofSamples 1 (.pcm16 #[8192, 16384, -8192, 4096, 0, 2048]) true
    let before : List (Action Clip) :=
      [.allocate .mono .pcm16 0, .attach slot (some clip), .set slot (.sampleRate 24000),
        .setEnabled slot true, .render none]
    let settings : Settings := { frameCount := 2, outputFormat := .float }
    ∃ start : Mixer Clip, Mixer.new settings none = .ok start ∧
      let m := start.run before
      Reachable m ∧ m.CoveredThroughout ([.render none] ++ [.render none]) ∧
      SameButScratch m (m.filled 1) ∧
      ((m.filled 1).track? slot).map (fun t => t.resampler.map Resampler.staging) =
        some (some #[0.25, 0.5, 1, 1, 1, 1]) ∧
      ((((m.filled 1).run [.render none]).render none).mainBuses).map Block.singles =
        ([[-0.25, -0.25, -0.0625, -0.0625]] : List (List Float32)) := by
  intro slot clip before settings
  have keeps : ∀ action ∈ before ++ ([.render none] ++ [.render none]),
      action.KeepsDeclarations := by
    intro action member
    simp only [before, List.cons_append, List.nil_append, List.mem_cons, List.not_mem_nil, or_false]
      at member
    rcases member with rfl | rfl | rfl | rfl | rfl | rfl | rfl <;> trivial
  obtain ⟨start, built, staging, heard⟩ : ∃ start : Mixer Clip,
      Mixer.new settings none = .ok start ∧
      (((start.run before).filled 1).track? slot).map
        (fun t => t.resampler.map Resampler.staging) = some (some #[0.25, 0.5, 1, 1, 1, 1]) ∧
      (((start.run before).run [.render none]).render none).mainBuses.map Block.singles =
        ([[-0.25, -0.25, -0.0625, -0.0625]] : List (List Float32)) :=
    ⟨_, rfl, by decide +kernel⟩
  have reachable : Reachable (start.run before) := .run (.new built) before
  have covered := coveredThroughout_of_faithful Clip.honest.toFaithful built keeps
  have same := sameButScratch_filled 1 (start.run before)
  obtain ⟨main, -⟩ := Reachable.run_scratch reachable same [.render none] none covered
  exact ⟨start, built, reachable, covered, same, staging, by rw [main, heard]⟩

/-- A converted clip whose last two frames are claimed to be four. The block ends with the two
frames that the block before left in the conversion, or with whatever else its buffer is filled
with. -/
theorem render_stale :
    let slot : Slot := ⟨0, by decide⟩
    let source : Source := .scripted { Script.plain with claim := 2 }
      (.clip (.ofSamples 1 (.pcm16 #[8192, 16384, 24576, 4096, 2048, 1024]) false))
    let before : List (Action Source) :=
      [.allocate .mono .pcm16 0, .attach slot (some source), .setEnabled slot true, .render none]
    let settings : Settings := { frameCount := 4, outputFormat := .float }
    ∃ start : Mixer Source, Mixer.new settings none = .ok start ∧
      let m := start.run before
      Reachable m ∧ SameButScratch m (m.filled 1) ∧
      (m.mainBus? 0).map Block.singles = some [0.25, 0.25, 0.5, 0.5, 0.75, 0.75, 0.125, 0.125] ∧
      ((m.render none).mainBus? 0).map Block.singles =
        some [0.0625, 0.0625, 0.03125, 0.03125, 0.75, 0.75, 0.125, 0.125] ∧
      (((m.filled 1).render none).mainBus? 0).map Block.singles =
        some [0.0625, 0.0625, 0.03125, 0.03125, 1, 1, 1, 1] := by
  intro slot source before settings
  exact ⟨_, rfl, .run (.new (rfl : Mixer.new settings none = .ok _)) before,
    sameButScratch_filled 1 _, by decide +kernel⟩

end Mixer

end Mixdown
