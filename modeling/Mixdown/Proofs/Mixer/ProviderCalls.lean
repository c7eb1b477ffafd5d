import Mixdown.Proofs.Mixer.Mapping
import Mixdown.Proofs.Mixer.Standing
import Mixdown.Proofs.Provider.Protocol
import Mixdown.Provider.Source

/-!
# The calls to the providers in a block

In a block, each enabled track goes through one of three loops: its provider is kept moving, or
read, or resampled. Whatever the provider answers, the loop ends, and the provider sees calls in the
order of the protocol only.
-/

namespace Mixdown

open Provider (Pulls)
open Resampler (Produces)
open Call (Orderly released)

namespace Track

variable {σ τ : Type}

theorem sound_mapSource (f : σ → τ) {settings : Settings} {factory : Option DownmixFactory}
    {t : Track σ} (sound : t.Sound settings factory) :
    (t.mapSource f).Sound settings factory := by
  refine ⟨sound.valid, sound.few, sound.supported, sound.mainBus, sound.auxBus, sound.rate_pos,
    sound.rate_le, sound.mixRate, sound.resampler, sound.mixInput, ?_, sound.volume⟩
  intro c' given'
  obtain ⟨c, given, rfl⟩ := Option.map_eq_some_iff.mp given'
  exact (sound.chain c given).mapSource f

variable [Provider σ]

/-- What a block makes of the chain of a track: one of the loops that call its provider, which is
run until the loop ends. -/
inductive Served (settings : Settings) (pts : Option Int) (t : Track σ) :
    Option (Chain σ) → Prop
  | alone : t.enabled = false ∨ t.chain = none → Served settings pts t t.chain
  | passedOver {chain chain' : Chain σ} {frames : List (Stereo Float32)} : t.enabled = true →
      t.chain = some chain →
      Pulls discard (stampAfter pts settings.sampleRate) settings.frameCount 0 chain frames chain' →
      Served settings pts t (some chain')
  | heard {chain chain' : Chain σ} {frames : List (Stereo Float32)} : t.enabled = true →
      t.chain = some chain → t.resampler = none →
      Pulls (listen t.mixInput (.ofCount t.mixChannelCount)) (stampAfter pts settings.sampleRate)
        settings.frameCount 0 chain frames chain' →
      Served settings pts t (some chain')
  | resampled {chain chain' : Chain σ} {r r' : Resampler} {frames : List (List Float32)} :
      t.enabled = true → t.chain = some chain → t.resampler = some r →
      Produces pts settings.frameCount 0 r chain frames r' chain' →
      Served settings pts t (some chain')

variable {settings : Settings} {factory : Option DownmixFactory} {t : Track σ}

theorem served_passOver (enabled : t.enabled = true) (pts : Option Int) :
    t.Served settings pts (t.passOver settings.frameCount settings.sampleRate pts).chain := by
  unfold passOver
  cases given : t.chain with
  | none => exact .alone (.inr given)
  | some chain =>
    exact .passedOver enabled given
      (Provider.pull_pulls discard (stampAfter pts settings.sampleRate) settings.frameCount chain)

theorem served_read (enabled : t.enabled = true) (unresampled : t.resampler = none)
    (pts : Option Int) :
    t.Served settings pts (t.read t.mixInput (.ofCount t.mixChannelCount) settings.frameCount
      settings.sampleRate pts).2.chain := by
  unfold read
  cases given : t.chain with
  | none => exact .alone (.inr given)
  | some chain => exact .heard enabled given unresampled (Provider.pull_pulls ..)

theorem served_readResampled (sound : t.Sound settings factory) (enabled : t.enabled = true)
    (resamples : t.resampler.isSome = true) (pts : Option Int) :
    t.Served settings pts
      (t.readResampled (.ofCount t.mixChannelCount) settings.frameCount pts).2.chain := by
  obtain ⟨r, has⟩ := Option.isSome_iff_exists.mp resamples
  unfold readResampled
  cases given : t.chain with
  | none => exact .alone (.inr given)
  | some chain =>
    have channels := Mixer.channels_resampler sound has
    have pos : 0 < (Channels.ofCount t.mixChannelCount).count := by
      cases Channels.ofCount t.mixChannelCount <;> decide
    have produces := r.resample_produces settings.frameCount
      (settings.frameCount * (Channels.ofCount t.mixChannelCount).count) chain pts
    rw [channels, Nat.mul_div_cancel _ pos, Nat.min_self] at produces
    simp only [has]
    exact .resampled enabled given has produces

/-- Whatever the provider of a track answers in a block, its calls are in order. It is asked for no
more frames than the block has, unless the track is resampled. -/
theorem Served.orderly {t : Track (Recorded σ)} {after : Option (Chain (Recorded σ))}
    {pts : Option Int} (served : t.Served settings pts after) (sound : t.Sound settings factory)
    {chain : Chain (Recorded σ)} (given : t.chain = some chain) :
    ∃ chain' calls, after = some chain' ∧ chain.Sees calls chain' ∧ Orderly calls ∧
      (t.resampler = none → released calls ≤ settings.frameCount) := by
  have suits := sound.chain chain given
  cases served with
  | alone idle => exact ⟨chain, [], given, .refl chain, .nil, fun _ => Nat.zero_le _⟩
  | passedOver enabled given' pulls =>
    obtain rfl := Option.some.inj (given'.symm.trans given)
    obtain ⟨calls, saw, orderly, few⟩ := pulls.orderly Provider.modest_discard suits
    exact ⟨_, calls, rfl, saw, orderly, fun _ => few⟩
  | heard enabled given' unresampled pulls =>
    obtain rfl := Option.some.inj (given'.symm.trans given)
    obtain ⟨calls, saw, orderly, few⟩ := pulls.orderly (Provider.modest_listen _ _) suits
    exact ⟨_, calls, rfl, saw, orderly, fun _ => few⟩
  | resampled enabled given' has produces =>
    obtain rfl := Option.some.inj (given'.symm.trans given)
    obtain ⟨calls, saw, orderly⟩ := produces.orderly
      ((sound.resampler _ has).roomy (Resampler.roomy_new ..)) suits
    exact ⟨_, calls, rfl, saw, orderly, fun unresampled => nomatch has.symm.trans unresampled⟩

end Track

namespace Mixer

variable {σ : Type} [Provider σ]

theorem served_runKernel {settings : Settings} {factory : Option DownmixFactory} {t : Track σ}
    (sound : t.Sound settings factory) (enabled : t.enabled = true) {task : Task}
    (fits : task.Fits t) (pts : Option Int) :
    t.Served settings pts (runKernel settings task pts t).2.chain := by
  unfold runKernel
  cases kernel : task.kernel with
  | idle => exact Track.served_passOver enabled pts
  | direct input =>
    obtain ⟨-, unresampled, rfl⟩ := fits.direct input kernel
    simp only [Track.playDirect_eq, fits.channels]
    exact Track.served_read enabled (by simpa using unresampled) pts
  | resampled =>
    simp only [Track.playResampled_eq, fits.channels]
    exact Track.served_readResampled sound enabled (fits.resampled kernel).2 pts

section

variable {m : Mixer σ} {slot : Slot} {t : Track σ}

/-- In a block, every track in use is served. -/
theorem served_renderBy
    (sound : ∀ slot t, m.track? slot = some t → t.Sound m.settings m.factory) {plan : Plan}
    (stands : plan.Stands m) (pts : Option Int) (found : m.track? slot = some t) :
    ∃ t', (m.renderBy plan pts).track? slot = some t' ∧ t.Served m.settings pts t'.chain := by
  obtain ⟨t', after, visited⟩ := visited_renderBy stands pts found
  refine ⟨t', after, ?_⟩
  cases visited with
  | alone off => exact .alone (.inl off)
  | passedOver _ on => exact Track.served_passOver on pts
  | @read channels input _ _ on task =>
    have fits := Task.ofTrack_fits slot t
    rw [task] at fits
    obtain ⟨-, unresampled, rfl⟩ := fits.direct input rfl
    obtain rfl : channels = _ := fits.channels
    exact Track.served_read on (by simpa using unresampled) pts
  | run _ _ _ on fits => exact served_runKernel (sound slot t found) on fits pts

end

/-- In a block of any mixer, every loop that calls a provider ends, and whatever the provider
answers, its calls are in order: it is asked for a frame at least, what it grants is released once,
before anything else is asked, and what it refuses is not. A provider that is not resampled is asked
for no more frames than the block has. -/
theorem Reachable.render_orderly {m : Mixer σ} (reachable : Reachable m) (pts : Option Int)
    {slot : Slot} {t : Track σ} {chain : Chain σ} (found : m.track? slot = some t)
    (given : t.chain = some chain) :
    (∃ t', (m.render pts).track? slot = some t' ∧ t.Served m.settings pts t'.chain) ∧
    (m.recorded.render pts).mapSources Recorded.source = m.render pts ∧
    ∃ calls, (m.recorded.render pts).calls? slot = some calls ∧ Orderly calls ∧
      (t.resampler = none → released calls ≤ m.settings.frameCount) := by
  have wf := reachable.wellFormed
  have stands := stands_currentPlan wf reachable.standing
  refine ⟨served_renderBy wf.sound stands pts found, ?_, ?_⟩
  · rw [← render_map Recorded.hom_source, show m.recorded = m.mapSources Recorded.fresh from rfl,
      mapSources_cancel fun _ => rfl]
  · have sound : ∀ slot t, m.recorded.track? slot = some t →
        t.Sound m.recorded.settings m.recorded.factory := by
      intro slot t' found'
      obtain ⟨t, found, rfl⟩ :=
        Option.map_eq_some_iff.mp ((track?_mapSources Recorded.fresh m slot).symm.trans found')
      exact Track.sound_mapSource Recorded.fresh (wf.sound slot t found)
    have found' : m.recorded.track? slot = some (t.mapSource Recorded.fresh) := by
      refine (track?_mapSources Recorded.fresh m slot).trans ?_
      rw [found]
      rfl
    have given' : (t.mapSource Recorded.fresh).chain = some (chain.mapSource Recorded.fresh) :=
      congrArg (Option.map (Chain.mapSource Recorded.fresh)) given
    obtain ⟨t', after, served⟩ :=
      served_renderBy sound (stands_mapSources Recorded.fresh stands) pts found'
    obtain ⟨chain', calls, chained, saw, orderly, few⟩ :=
      served.orderly (sound slot _ found') given'
    refine ⟨calls, ?_, orderly, few⟩
    have plan : m.recorded.currentPlan = m.currentPlan := currentPlan_mapSources Recorded.fresh m
    unfold calls? source? render
    rw [plan, after]
    show (t'.chain.map Chain.source).map Recorded.calls = _
    rw [chained]
    show some chain'.source.calls = _
    rw [saw, Chain.source_mapSource]
    rfl

/-- A block of four frames with three uneven providers: one that claims a frame more than it hands
out and then grants an empty buffer, one that is resampled and refuses its second request, and one
that hands out words where it declares singles. -/
theorem Reachable.render_orderly_uneven :
    let slot (n : Fin 3) : Slot := n.castLE (by decide)
    ∃ m : Mixer Source, Reachable m ∧
      (∃ calls, (m.recorded.render none).calls? (slot 0) = some calls ∧
        calls = [.request 4 none (some 3), .release 2, .request 2 none (some 0), .release 0] ∧
        Orderly calls) ∧
      (∃ calls, (m.recorded.render none).calls? (slot 1) = some calls ∧
        calls = [.request 4 none (some 2), .release 2, .request 4 none none] ∧ Orderly calls) ∧
      (∃ calls, (m.recorded.render none).calls? (slot 2) = some calls ∧
        calls = [.request 4 none (some 2), .release 2] ∧ Orderly calls) := by
  intro slot
  let stereo : Clip := .ofSamples 2 (.float #[1, 1, 0.5, 0.5, 0.25, 2, 1, 1, 1, 1]) true
  let mono : Clip := .ofSamples 1 (.pcm16 #[5, 10000, 10000, 6, 7, 8, 9]) false
  let words : Clip := .ofSamples 2 (.pcm16 #[1, 1, 2, 2]) true
  let actions : List (Action Source) :=
    [.allocate .stereo .float 0, .allocate .mono .pcm16 0, .allocate .stereo .float 0,
      .attach (slot 0)
        (some (.scripted { Script.plain with chunk := some 2, claim := 1, empties := [1] }
          (.clip stereo))),
      .attach (slot 1)
        (some (.scripted { Script.plain with chunk := some 1, claim := 1, stalls := [1] }
          (.clip mono))),
      .attach (slot 2) (some (.scripted { Script.plain with format := some .float } (.clip words))),
      .set (slot 1) (.sampleRate 24000), .setEnabled (slot 0) true, .setEnabled (slot 1) true,
      .setEnabled (slot 2) true]
  obtain ⟨start, built, fed, first, second, third⟩ : ∃ start : Mixer Source,
      Mixer.new { frameCount := 4 } none = .ok start ∧
      (∀ n, (((start.run actions).track? (slot n)).bind Track.chain).isSome = true) ∧
      ((start.run actions).recorded.render none).calls? (slot 0) =
        some [.request 4 none (some 3), .release 2, .request 2 none (some 0), .release 0] ∧
      ((start.run actions).recorded.render none).calls? (slot 1) =
        some [.request 4 none (some 2), .release 2, .request 4 none none] ∧
      ((start.run actions).recorded.render none).calls? (slot 2) =
        some [.request 4 none (some 2), .release 2] :=
    ⟨_, rfl, by decide +kernel, by decide +kernel, by decide +kernel, by decide +kernel⟩
  have reachable : Reachable (start.run actions) := .run (.new built) actions
  have orderly (n : Fin 3) : ∃ calls,
      ((start.run actions).recorded.render none).calls? (slot n) = some calls ∧ Orderly calls := by
    obtain ⟨chain, given⟩ := Option.isSome_iff_exists.mp (fed n)
    obtain ⟨t, found, given⟩ := Option.bind_eq_some_iff.mp given
    obtain ⟨-, -, calls, seen, orderly, -⟩ := reachable.render_orderly none found given
    exact ⟨calls, seen, orderly⟩
  refine ⟨_, reachable, ?_, ?_, ?_⟩
  · obtain ⟨calls, seen, orderly⟩ := orderly 0
    exact ⟨calls, seen, Option.some.inj (seen.symm.trans first), orderly⟩
  · obtain ⟨calls, seen, orderly⟩ := orderly 1
    exact ⟨calls, seen, Option.some.inj (seen.symm.trans second), orderly⟩
  · obtain ⟨calls, seen, orderly⟩ := orderly 2
    exact ⟨calls, seen, Option.some.inj (seen.symm.trans third), orderly⟩

end Mixer

end Mixdown
