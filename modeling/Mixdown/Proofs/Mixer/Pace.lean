import Mixdown.Proofs.Mixer.BusBlocks
import Mixdown.Proofs.Mixer.ProviderCalls
import Mixdown.Proofs.Provider.Streams

/-!
# Tracks keep time

However a block is rendered, an honest provider at the mix rate gets the same calls in it, and none
of them depends on gains, routes or other tracks, whatever the providers of these do. So while it
does not run dry, a block takes the next frames of what the provider plays, whether they are heard
or not (`Reachable.keeps_time`).
-/

namespace Mixdown

open Provider (Paced Streams rawFrames)

variable {σ : Type} [Provider σ]

/-- An enabled track at the mix rate. Its provider is honest and declares what the track expects. -/
structure Track.AtWork (maxFrames : Nat) (t : Track σ) (chain : Chain σ) : Prop where
  enabled : t.enabled = true
  given : t.chain = some chain
  unresampled : t.resampler = none
  fed : chain.Fed (t.layout maxFrames)
  honest : Provider.HonestFrom chain.source

namespace Track

variable {settings : Settings} {factory : Option DownmixFactory} {t : Track σ} {chain : Chain σ}

/-- A track stays at work while it keeps its chain, its layout and no resampler. -/
theorem AtWork.of_same {maxFrames : Nat} (works : t.AtWork maxFrames chain) {t' : Track σ}
    (enabled : t'.enabled = true) (chains : t'.chain = t.chain) (unresampled : t'.resampler = none)
    (layouts : t'.layout maxFrames = t.layout maxFrames) : t'.AtWork maxFrames chain :=
  ⟨enabled, chains.trans works.given, unresampled, layouts ▸ works.fed, works.honest⟩

theorem AtWork.recorded {maxFrames : Nat} (works : t.AtWork maxFrames chain) :
    (t.mapSource Recorded.fresh).AtWork maxFrames (chain.mapSource Recorded.fresh) := by
  refine ⟨works.enabled, congrArg (Option.map (Chain.mapSource Recorded.fresh)) works.given,
    works.unresampled, ?_, ?_⟩
  · unfold Chain.Fed
    rw [Chain.source_mapSource]
    exact works.fed
  · rw [Chain.source_mapSource]
    exact Recorded.honestFrom works.honest

/-- The chain of a track at work grants what the track reads. -/
theorem AtWork.grants (works : t.AtWork settings.frameCount chain)
    (sound : t.Sound settings factory) :
    ∀ chain', Provider.Moves chain chain' →
      Provider.Grants chain' (Channels.ofCount t.mixChannelCount).count t.mixInput.toSample := by
  intro chain' moves
  have suits := (sound.chain chain works.given).moves moves
  have fed := works.fed.moves_honest works.honest moves
  have honest := works.honest.moves (Chain.moves_source moves)
  rw [Mixer.count_channels sound]
  exact suits.grants honest.grants fed (ChannelMask.channelCount_pos sound.valid)

/-- However a track at work is served in a block, its provider gets the calls of a block. -/
theorem Served.paced {after : Option (Chain σ)} {pts : Option Int}
    (served : t.Served settings pts after) (sound : t.Sound settings factory)
    (works : t.AtWork settings.frameCount chain) :
    ∃ chain' calls, after = some chain' ∧
      Paced (stampAfter pts settings.sampleRate) settings.frameCount 0 chain.source calls
        chain'.source := by
  have suits := sound.chain chain works.given
  have grants := works.grants sound
  cases served with
  | alone idle =>
    rcases idle with off | unfed
    · nomatch off.symm.trans works.enabled
    · nomatch unfed.symm.trans works.given
  | passedOver _ given pulls =>
    obtain rfl := Option.some.inj (given.symm.trans works.given)
    obtain ⟨calls, paced⟩ := pulls.paced (Provider.thorough_discard _ _) grants
    exact ⟨_, calls, rfl, Chain.Suits.paced_source paced works.honest suits (Nat.le_refl _)⟩
  | heard _ given _ pulls =>
    obtain rfl := Option.some.inj (given.symm.trans works.given)
    obtain ⟨calls, paced⟩ := pulls.paced (Provider.thorough_listen _ _) grants
    exact ⟨_, calls, rfl, Chain.Suits.paced_source paced works.honest suits (Nat.le_refl _)⟩
  | resampled _ _ has _ => nomatch has.symm.trans works.unresampled

/-- The calls that a recorded provider of a track at work gets in a block. -/
theorem Served.calls_eq {after : Option (Chain (Recorded σ))} {pts : Option Int}
    (served : (t.mapSource Recorded.fresh).Served settings pts after)
    (sound : t.Sound settings factory) (works : t.AtWork settings.frameCount chain)
    {calls : List Call} {source' : σ}
    (paced : Paced (stampAfter pts settings.sampleRate) settings.frameCount 0 chain.source calls
      source') :
    (after.map Chain.source).map Recorded.calls = some calls := by
  obtain ⟨chain', calls', rfl, recorded⟩ :=
    served.paced (sound_mapSource Recorded.fresh sound) works.recorded
  rw [Chain.source_mapSource] at recorded
  obtain ⟨saw, same⟩ := Recorded.calls_paced recorded
  obtain ⟨rfl, -⟩ := Paced.unique same paced
  exact congrArg some saw

end Track

namespace Mixer

section

variable {m : Mixer σ} {slot : Slot} {t : Track σ} {chain : Chain σ}

/-- A kernel that passes a track over, or reads it, serves it. -/
theorem served_kernel {settings : Settings} {task : Task} (enabled : t.enabled = true)
    (unresampled : t.resampler = none)
    (kernel : task.kernel = .idle ∨
      task.kernel = .direct t.mixInput ∧ task.channels = .ofCount t.mixChannelCount)
    (pts : Option Int) : t.Served settings pts (runKernel settings task pts t).2.chain := by
  unfold runKernel
  rcases kernel with idle | ⟨direct, channels⟩
  · rw [idle]
    exact Track.served_passOver enabled pts
  · rw [direct, channels]
    simp only [Track.playDirect_eq]
    exact Track.served_read enabled unresampled pts

omit [Provider σ] in
theorem track?_fresh (found : m.track? slot = some t) :
    m.recorded.track? slot = some (t.mapSource Recorded.fresh) := by
  refine (track?_mapSources Recorded.fresh m slot).trans ?_
  rw [found]
  rfl

/-- The calls that the provider of a track at work gets in a block, whichever way it is rendered:
silently, straight to the bus, or by tasks of which one passes the track over or reads it, along
with any others. -/
structure SeesCalls (m : Mixer σ) (slot : Slot) (t : Track σ) (pts : Option Int)
    (calls : List Call) : Prop where
  silent : ∀ formats, (m.recorded.renderSilent formats pts).calls? slot = some calls
  fused : ∀ output formats,
    (m.recorded.renderFused slot (.ofCount t.mixChannelCount) t.mixInput output formats
      pts).calls? slot = some calls
  general : ∀ tasks formats, (tasks.map Task.slot).Nodup →
    (∃ task ∈ tasks, task.slot = slot ∧ (task.kernel = .idle ∨
      task.kernel = .direct t.mixInput ∧ task.channels = .ofCount t.mixChannelCount)) →
    (m.recorded.renderGeneral tasks formats pts).calls? slot = some calls
  render : (m.recorded.render pts).calls? slot = some calls

theorem calls?_of_served {m' : Mixer (Recorded σ)} {settings : Settings}
    {factory : Option DownmixFactory} {pts : Option Int}
    (served : ∃ t', m'.track? slot = some t' ∧
      (t.mapSource Recorded.fresh).Served settings pts t'.chain)
    (sound : t.Sound settings factory) (works : t.AtWork settings.frameCount chain)
    {calls : List Call} {source' : σ}
    (paced : Paced (stampAfter pts settings.sampleRate) settings.frameCount 0 chain.source calls
      source') : m'.calls? slot = some calls := by
  obtain ⟨t', after, served⟩ := served
  unfold calls? source?
  rw [after]
  exact served.calls_eq sound works paced

/-- The calls of a block depend on the answers of the provider only. -/
theorem Reachable.seesCalls (reachable : Reachable m) (found : m.track? slot = some t)
    (works : t.AtWork m.settings.frameCount chain)
    {pts : Option Int} {calls : List Call} {source' : σ}
    (paced : Paced (stampAfter pts m.settings.sampleRate) m.settings.frameCount 0 chain.source
      calls source') : m.SeesCalls slot t pts calls := by
  have wf := reachable.wellFormed
  have sound := wf.sound slot t found
  have there := track?_fresh found
  have enabled : (t.mapSource Recorded.fresh).enabled = true := works.enabled
  have unresampled : (t.mapSource Recorded.fresh).resampler = none := works.unresampled
  refine ⟨fun formats => ?_, fun output formats => ?_, fun tasks formats distinct listed => ?_, ?_⟩
  · refine calls?_of_served ⟨_, ?_, Track.served_passOver enabled pts⟩ sound works paced
    rw [track?_renderSilent, there]
    exact congrArg some (if_pos enabled)
  · refine calls?_of_served ⟨_, ?_, Track.served_read enabled unresampled pts⟩ sound works paced
    simp only [renderFused, there]
    exact track?_setTrack_self ..
  · obtain ⟨task, member, rfl, kernel⟩ := listed
    obtain ⟨-, touched, -⟩ := runTasks_tracks pts distinct
      (.empty m.recorded.mainBuses.length m.recorded.auxBuses.length) m.recorded
    have after := touched task member
    rw [there] at after
    exact calls?_of_served ⟨_, after, served_kernel enabled unresampled kernel pts⟩ sound works
      paced
  · refine calls?_of_served ?_ sound works paced
    have stands := stands_currentPlan wf reachable.standing
    have plan : m.recorded.currentPlan = m.currentPlan := currentPlan_mapSources Recorded.fresh m
    unfold Mixer.render
    rw [plan]
    refine served_renderBy ?_ (stands_mapSources Recorded.fresh stands) pts there
    intro slot t' found'
    obtain ⟨t, found, rfl⟩ :=
      Option.map_eq_some_iff.mp ((track?_mapSources Recorded.fresh m slot).symm.trans found')
    exact Track.sound_mapSource Recorded.fresh (wf.sound slot t found)

end

end Mixer

end Mixdown
