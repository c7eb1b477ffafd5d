import Mixdown.Proofs.Gain.Settled
import Mixdown.Proofs.Mixer.Slots
import Mixdown.Proofs.Provider.Moves

/-!
# What a block leaves alone

Mixing a block moves the providers, the resamplers and the gains of the tracks and writes the
buses. `Mixer.Rendered` lists what is the same after it.
-/

namespace Mixdown

section Rel

variable {α : Type} {r : α → α → Prop}

theorem rel_refl (refl : ∀ a, r a a) (o : Option α) : Option.Rel r o o := by
  cases o with
  | none => exact .none
  | some a => exact .some (refl a)

theorem rel_trans (trans : ∀ {a b c}, r a b → r b c → r a c) {o o' o'' : Option α}
    (first : Option.Rel r o o') (second : Option.Rel r o' o'') : Option.Rel r o o'' := by
  cases first with
  | none => exact second
  | some here =>
    cases second with
    | some there => exact .some (trans here there)

theorem exists_before {o o' : Option α} {b : α} (rel : Option.Rel r o o') (found : o' = some b) :
    ∃ a, o = some a ∧ r a b := by
  cases rel with
  | none => nomatch found
  | some here => exact ⟨_, rfl, Option.some.inj found ▸ here⟩

theorem isSome_of_rel {o o' : Option α} (rel : Option.Rel r o o') : o'.isSome = o.isSome := by
  cases rel with
  | none => rfl
  | some _ => rfl

end Rel

namespace Track

variable {σ : Type} [Provider σ]

/-- A track before and after a block. -/
structure Moved (t t' : Track σ) : Prop where
  chain : Option.Rel Provider.Moves t.chain t'.chain
  resampler : Option.Rel Resampler.SameSettings t.resampler t'.resampler
  volume : t.volume.Landed → t'.volume.Landed
  rest : t' = { t with chain := t'.chain, resampler := t'.resampler, volume := t'.volume }

namespace Moved

theorem refl (t : Track σ) : Moved t t :=
  ⟨rel_refl (fun _ => .refl) _, rel_refl .refl _, id, rfl⟩

theorem trans {t t' t'' : Track σ} (first : Moved t t') (second : Moved t' t'') :
    Moved t t'' := by
  refine ⟨rel_trans .trans first.chain second.chain,
    rel_trans .trans first.resampler second.resampler, second.volume ∘ first.volume, ?_⟩
  rw [second.rest, first.rest]

variable {t t' : Track σ}

theorem isSome_chain (moved : Moved t t') : t'.chain.isSome = t.chain.isSome :=
  isSome_of_rel moved.chain

theorem isSome_resampler (moved : Moved t t') : t'.resampler.isSome = t.resampler.isSome :=
  isSome_of_rel moved.resampler

theorem mask_eq (moved : Moved t t') : t'.mask = t.mask := by rw [moved.rest]

theorem mixInput_eq (moved : Moved t t') : t'.mixInput = t.mixInput := by rw [moved.rest]

theorem mainBus_eq (moved : Moved t t') : t'.mainBus = t.mainBus := by rw [moved.rest]

theorem auxBus_eq (moved : Moved t t') : t'.auxBus = t.auxBus := by rw [moved.rest]

theorem enabled_eq (moved : Moved t t') : t'.enabled = t.enabled := by rw [moved.rest]

theorem sampleRate_eq (moved : Moved t t') : t'.sampleRate = t.sampleRate := by rw [moved.rest]

end Moved

theorem passOver_moved (frameCount : Nat) (rate : UInt32) (pts : Option Int) (t : Track σ) :
    Moved t (t.passOver frameCount rate pts) := by
  unfold passOver
  cases found : t.chain with
  | none => exact .refl t
  | some chain =>
    refine ⟨?_, rel_refl .refl _, id, rfl⟩
    rw [found]
    exact .some (Provider.pull_moves ..)

theorem read_moved (input : MixFormat) (channels : Channels) (frameCount : Nat) (rate : UInt32)
    (pts : Option Int) (t : Track σ) :
    Moved t (t.read input channels frameCount rate pts).2 := by
  unfold read
  cases found : t.chain with
  | none => exact .refl t
  | some chain =>
    refine ⟨?_, rel_refl .refl _, id, rfl⟩
    rw [found]
    exact .some (Provider.pull_moves ..)

/-- Reading changes the chain only. -/
theorem read_snd (input : MixFormat) (channels : Channels) (frameCount : Nat) (rate : UInt32)
    (pts : Option Int) (t : Track σ) :
    ∃ chain, (t.read input channels frameCount rate pts).2 = { t with chain } := by
  unfold read
  cases found : t.chain with
  | none => exact ⟨t.chain, rfl⟩
  | some chain => exact ⟨_, rfl⟩

theorem readResampled_moved (channels : Channels) (frameCount : Nat) (pts : Option Int)
    (t : Track σ) : Moved t (t.readResampled channels frameCount pts).2 := by
  unfold readResampled
  cases found : t.chain with
  | none => exact .refl t
  | some chain =>
    cases has : t.resampler with
    | none => exact .refl t
    | some r =>
      refine ⟨?_, ?_, id, rfl⟩
      · rw [found]
        exact .some (r.resample_moves ..)
      · rw [has]
        exact .some (r.sameSettings_resample ..)

/-- A track with another volume that has landed where the one before it had. -/
theorem Moved.withVolume {t t' : Track σ} (moved : Moved t t') {v : Volume}
    (landed : t.volume.Landed → v.Landed) : Moved t { t' with volume := v } :=
  ⟨moved.chain, moved.resampler, landed, by rw [moved.rest]⟩

theorem playDirect_eq (input : MixFormat) (channels : Channels) (frameCount : Nat)
    (rate : UInt32) (pts : Option Int) (t : Track σ) :
    t.playDirect input channels frameCount rate pts =
      let frames := (t.read input channels frameCount rate pts).1
      let t' := (t.read input channels frameCount rate pts).2
      let complete := frames.length == frameCount
      let volume := t'.volume.after frames.length
      { contributions := frames.mapIdx fun i frame =>
          (t'.volume.after i).contribution channels frame
        track := { t' with
          volume := if complete then volume else volume.skip (frameCount - frames.length) }
        complete } := by
  simp only [playDirect, Volume.play_fst, Volume.play_snd]

theorem playResampled_eq (channels : Channels) (frameCount : Nat) (pts : Option Int)
    (t : Track σ) :
    t.playResampled channels frameCount pts =
      let frames := (t.readResampled channels frameCount pts).1
      let t' := (t.readResampled channels frameCount pts).2
      let all := frames ++ List.replicate (frameCount - frames.length) (Stereo.both 0)
      { contributions := all.mapIdx fun i frame =>
          (t'.volume.after i).contribution channels frame
        track := { t' with volume := t'.volume.after all.length }
        complete := frames.length == frameCount } := by
  simp only [playResampled, Volume.play_fst, Volume.play_snd]

theorem playDirect_moved (input : MixFormat) (channels : Channels) (frameCount : Nat)
    (rate : UInt32) (pts : Option Int) (t : Track σ) :
    Moved t (t.playDirect input channels frameCount rate pts).track := by
  have moved := read_moved input channels frameCount rate pts t
  rw [playDirect_eq]
  refine moved.withVolume fun landed => ?_
  split
  · exact (moved.volume landed).after _
  · exact Volume.landed_skip _ _

theorem playResampled_moved (channels : Channels) (frameCount : Nat) (pts : Option Int)
    (t : Track σ) : Moved t (t.playResampled channels frameCount pts).track := by
  have moved := readResampled_moved channels frameCount pts t
  rw [playResampled_eq]
  exact moved.withVolume fun landed => (moved.volume landed).after _

end Track

namespace Mixer

variable {σ : Type} [Provider σ]

theorem runKernel_moved (settings : Settings) (task : Task) (pts : Option Int) (t : Track σ) :
    Track.Moved t (runKernel settings task pts t).2 := by
  unfold runKernel
  split
  · exact t.passOver_moved ..
  · exact t.playDirect_moved ..
  · exact t.playResampled_moved ..

/-- A mixer before and after a block, or a part of it. -/
structure Rendered (m m' : Mixer σ) : Prop where
  settings : m'.settings = m.settings
  factory : m'.factory = m.factory
  mainBuses : m'.mainBuses.length = m.mainBuses.length
  auxBuses : m'.auxBuses.length = m.auxBuses.length
  plan : m'.plan = m.plan ∨ m'.plan = none
  tracks : ∀ slot, Option.Rel Track.Moved (m.track? slot) (m'.track? slot)

namespace Rendered

theorem refl (m : Mixer σ) : Rendered m m :=
  ⟨rfl, rfl, rfl, rfl, .inl rfl, fun _ => rel_refl .refl _⟩

theorem trans {m m' m'' : Mixer σ} (first : Rendered m m') (second : Rendered m' m'') :
    Rendered m m'' := by
  refine ⟨second.settings.trans first.settings, second.factory.trans first.factory,
    second.mainBuses.trans first.mainBuses, second.auxBuses.trans first.auxBuses, ?_,
    fun slot => rel_trans .trans (first.tracks slot) (second.tracks slot)⟩
  rcases second.plan with kept | dropped
  · rw [kept]
    exact first.plan
  · exact .inr dropped

/-- Writing a track that has moved. -/
theorem setTrack {m : Mixer σ} {slot : Slot} {t t' : Track σ} (found : m.track? slot = some t)
    (moved : Track.Moved t t') : Rendered m (m.setTrack slot (some t')) := by
  refine ⟨rfl, rfl, rfl, rfl, .inl rfl, ?_⟩
  intro other
  by_cases here : other = slot
  · subst here
    rw [track?_setTrack_self, found]
    exact .some moved
  · rw [track?_setTrack_ne m _ here]
    exact rel_refl .refl _

theorem invalidated {m m' : Mixer σ} (rendered : Rendered m m') : Rendered m m'.invalidated :=
  ⟨rendered.settings, rendered.factory, rendered.mainBuses, rendered.auxBuses, .inr rfl,
    rendered.tracks⟩

theorem withUnderruns {m m' : Mixer σ} (rendered : Rendered m m') (underruns : Nat) :
    Rendered m { m' with underruns } :=
  ⟨rendered.settings, rendered.factory, rendered.mainBuses, rendered.auxBuses, rendered.plan,
    rendered.tracks⟩

end Rendered

theorem rendered_runTask (pts : Option Int) (sums : Sums) (m : Mixer σ) (task : Task) :
    Rendered m (runTask pts sums m task).2 := by
  unfold runTask
  cases found : m.track? task.slot with
  | none => exact .refl m
  | some t =>
    have moved := runKernel_moved m.settings task pts t
    simp only
    rcases result : runKernel m.settings task pts t with ⟨_ | played, t'⟩
    · rw [result] at moved
      exact .setTrack found moved
    · rw [result] at moved
      have written := Rendered.setTrack found moved
      simp only
      cases played.complete with
      | true =>
        split
        · exact written.invalidated
        · exact written
      | false =>
        split
        · exact (written.withUnderruns _).invalidated
        · exact written.withUnderruns _

theorem rendered_runTasks (pts : Option Int) (tasks : List Task) (sums : Sums) (m : Mixer σ) :
    Rendered m (tasks.foldl (fun (sums, m) task => runTask pts sums m task) (sums, m)).2 := by
  induction tasks generalizing sums m with
  | nil => exact .refl m
  | cons task rest ih =>
    rw [List.foldl_cons]
    exact (rendered_runTask pts sums m task).trans (ih _ _)

theorem length_runTasks (pts : Option Int) (tasks : List Task) (sums : Sums) (m : Mixer σ) :
    let after := (tasks.foldl (fun (sums, m) task => runTask pts sums m task) (sums, m)).1
    after.main.length = sums.main.length ∧ after.aux.length = sums.aux.length := by
  induction tasks generalizing sums m with
  | nil => exact ⟨rfl, rfl⟩
  | cons task rest ih =>
    have step : (runTask pts sums m task).1.main.length = sums.main.length ∧
        (runTask pts sums m task).1.aux.length = sums.aux.length := by
      unfold runTask
      cases m.track? task.slot with
      | none => exact ⟨rfl, rfl⟩
      | some t =>
        simp only
        rcases runKernel m.settings task pts t with ⟨_ | played, t'⟩
        · exact ⟨rfl, rfl⟩
        · exact ⟨List.length_modify .., by simp only [Sums.write]; split <;> simp⟩
    rw [List.foldl_cons]
    exact ⟨(ih _ _).1.trans step.1, (ih _ _).2.trans step.2⟩

theorem track?_renderSilent (m : Mixer σ) (formats : List MixFormat) (pts : Option Int)
    (slot : Slot) :
    (m.renderSilent formats pts).track? slot = (m.track? slot).map fun t =>
      if t.enabled then t.passOver m.settings.frameCount m.settings.sampleRate pts else t :=
  Vector.getElem_map ..

/-- A block leaves alone what is listed. -/
theorem rendered_renderBy (m : Mixer σ) (plan : Plan) (pts : Option Int)
    (formats : plan.formats.length = m.mainBuses.length) :
    Rendered { m with plan := some plan } (m.renderBy plan pts) := by
  unfold renderBy
  cases plan.strategy with
  | silent =>
    refine ⟨rfl, rfl, by simpa [renderSilent, silenced] using formats,
      by simp [renderSilent, silenced], .inl rfl, ?_⟩
    intro slot
    simp only [track?_renderSilent]
    cases ({ m with plan := some plan } : Mixer σ).track? slot with
    | none => exact .none
    | some t =>
      refine .some ?_
      simp only
      split
      · exact t.passOver_moved ..
      · exact .refl t
  | fused slot channels input output =>
    simp only [renderFused]
    cases found : ({ m with plan := some plan } : Mixer σ).track? slot with
    | none => exact .refl _
    | some t =>
      have written := Rendered.setTrack found
        (t.read_moved input channels m.settings.frameCount m.settings.sampleRate pts)
      exact ⟨rfl, rfl, by simpa [silenced, setTrack] using formats, by simp [silenced, setTrack],
        .inl rfl, written.tracks⟩
  | general tasks =>
    simp only [renderGeneral]
    have run := rendered_runTasks pts tasks
      (.empty m.mainBuses.length m.auxBuses.length) { m with plan := some plan }
    obtain ⟨main, aux⟩ := length_runTasks pts tasks
      (.empty m.mainBuses.length m.auxBuses.length) { m with plan := some plan }
    refine ⟨run.settings, run.factory, ?_, ?_, run.plan, run.tracks⟩
    · simp only [Sums.mainBlocks, List.length_zipWith, main, formats]
      simp [Sums.empty]
    · simp only [Sums.auxBlocks, List.length_map, aux]
      simp [Sums.empty]

end Mixer

end Mixdown
