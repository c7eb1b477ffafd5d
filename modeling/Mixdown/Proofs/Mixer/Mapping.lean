import Mixdown.Proofs.Mixer.Planning
import Mixdown.Proofs.Mixer.Tasks

/-!
# Mixers over providers that answer alike

A mixer sees of its providers only how they answer. Where a map between providers keeps that, as
forgetting a record of the calls does, a block of the mapped mixer is the mapped block.
-/

namespace Mixdown

variable {σ τ : Type}

theorem Task.ofTrack_mapSource (f : σ → τ) (slot : Slot) (t : Track σ) :
    ofTrack slot (t.mapSource f) = ofTrack slot t := by
  have chain : (t.mapSource f).chain.isNone = t.chain.isNone := Option.isNone_map
  unfold ofTrack
  rw [chain]
  rfl

theorem Track.mapSource_cancel {f : σ → τ} {g : τ → σ} (cancel : ∀ s, g (f s) = s) (t : Track σ) :
    (t.mapSource f).mapSource g = t := by
  have chains : Chain.mapSource g ∘ Chain.mapSource f = id := by
    funext c
    cases c <;> simp only [Function.comp_apply, Chain.mapSource, cancel, id]
  show { t with chain := (t.chain.map (Chain.mapSource f)).map (Chain.mapSource g) } = t
  rw [Option.map_map, chains, Option.map_id]
  rfl

namespace Mixer

theorem setTrack_mapSources (f : σ → τ) (m : Mixer σ) (slot : Slot) (t : Option (Track σ)) :
    (m.mapSources f).setTrack slot (t.map (Track.mapSource f)) =
      (m.setTrack slot t).mapSources f := by
  unfold setTrack mapSources
  simp only [Vector.map_set]

theorem currentPlan_mapSources (f : σ → τ) (m : Mixer σ) :
    (m.mapSources f).currentPlan = m.currentPlan := by
  unfold currentPlan
  rw [makePlan_mapSources]
  rfl

theorem isEnabled_mapSources (f : σ → τ) (m : Mixer σ) :
    (m.mapSources f).isEnabled = m.isEnabled := by
  funext slot
  unfold isEnabled
  rw [track?_mapSources]
  cases m.track? slot <;> rfl

theorem mapSources_cancel {f : σ → τ} {g : τ → σ} (cancel : ∀ s, g (f s) = s) (m : Mixer σ) :
    (m.mapSources f).mapSources g = m := by
  have same : Track.mapSource g ∘ Track.mapSource f = id :=
    funext fun t => t.mapSource_cancel cancel
  have tracks : ((m.mapSources f).mapSources g).tracks = m.tracks := by
    refine tracks_ext fun slot => ?_
    rw [track?_mapSources, track?_mapSources, Option.map_map, same, Option.map_id]
    rfl
  show { m with tracks := ((m.mapSources f).mapSources g).tracks } = m
  rw [tracks]

/-- A plan can be used with the mapped mixer where it can be used with the other one. -/
theorem stands_mapSources (f : σ → τ) {m : Mixer σ} {plan : Plan} (stands : plan.Stands m) :
    plan.Stands (m.mapSources f) := by
  unfold Plan.Stands at stands ⊢
  cases strategy : plan.strategy with
  | silent => exact .silent
  | fused slot channels input output =>
    rw [strategy] at stands
    cases stands with
    | fused _ _ _ _ t only found task format =>
      refine .fused slot channels input output (t.mapSource f) ?_ ?_ ?_ format
      · rw [isEnabled_mapSources]
        exact only
      · rw [track?_mapSources, found]
        rfl
      · rw [Task.ofTrack_mapSource]
        exact task
  | general tasks =>
    rw [strategy] at stands
    cases stands with
    | general _ slots fits =>
      refine .general tasks ?_ ?_
      · rw [isEnabled_mapSources]
        exact slots
      · intro task member t' found
        rw [track?_mapSources, Option.map_eq_some_iff] at found
        obtain ⟨t, had, rfl⟩ := found
        obtain ⟨channels, direct, resampled⟩ := fits task member t had
        have chain : (t.mapSource f).chain.isSome = t.chain.isSome := Option.isSome_map
        refine ⟨channels, ?_, ?_⟩
        · rw [chain]
          exact direct
        · rw [chain]
          exact resampled

end Mixer

theorem Recorded.hom_source [Provider σ] : Provider.Hom (Recorded.source : Recorded σ → σ) where
  channels _ := rfl
  format _ := rfl
  request _ _ _ := rfl
  release _ _ := rfl

variable [Provider σ] [Provider τ] {f : σ → τ}

theorem Chain.hom_mapSource (hom : Provider.Hom f) :
    Provider.Hom (Chain.mapSource f : Chain σ → Chain τ) where
  channels c := by
    cases c with
    | direct s => exact hom.channels s
    | reformatted => rfl
    | downmixed => rfl
    | downmixedReformatted => rfl
  format c := by
    cases c with
    | direct s => exact hom.format s
    | reformatted => rfl
    | downmixed => rfl
    | downmixedReformatted => rfl
  request c frames pts := by
    show Chain.request _ _ _ =
      ((Chain.request c frames pts).1, (Chain.request c frames pts).2.mapSource f)
    cases c <;> simp only [Chain.mapSource, Chain.request, hom.request]
  release c frames := by
    show Chain.release _ _ = (Chain.release c frames).mapSource f
    cases c <;> simp only [Chain.release, Chain.mapSource, hom.release]

/-- A reader cannot tell providers apart that answer alike. -/
theorem Provider.pullFrom_map {α : Type} (hom : Provider.Hom f) (reader : Reader α)
    (stamp : Nat → Option Int) (fuel left done : Nat) (s : σ) :
    pullFrom reader stamp fuel left done (f s) =
      ((pullFrom reader stamp fuel left done s).1,
        f (pullFrom reader stamp fuel left done s).2) := by
  induction fuel generalizing left done s with
  | zero => rfl
  | succ fuel ih =>
    unfold pullFrom
    by_cases none_left : left = 0
    · rw [if_pos none_left, if_pos none_left]
    · rw [if_neg none_left, if_neg none_left, hom.request]
      rcases Provider.request s left (stamp done) with ⟨_ | b, s'⟩
      · rfl
      · simp only
        rcases reader left b with ⟨released, _ | values⟩
        · simp only [hom.release]
        · simp only [hom.release]
          split
          · rfl
          · rw [ih]

namespace Track

theorem passOver_map (hom : Provider.Hom f) (frameCount : Nat) (rate : UInt32)
    (pts : Option Int) (t : Track σ) :
    (t.mapSource f).passOver frameCount rate pts =
      (t.passOver frameCount rate pts).mapSource f := by
  unfold passOver
  cases given : t.chain with
  | none => simp only [mapSource, given, Option.map_none]
  | some c =>
    simp only [mapSource, given, Option.map_some, Provider.pull,
      Provider.pullFrom_map (Chain.hom_mapSource hom)]

theorem read_map (hom : Provider.Hom f) (input : MixFormat) (channels : Channels)
    (frameCount : Nat) (rate : UInt32) (pts : Option Int) (t : Track σ) :
    (t.mapSource f).read input channels frameCount rate pts =
      ((t.read input channels frameCount rate pts).1,
        (t.read input channels frameCount rate pts).2.mapSource f) := by
  unfold read
  cases given : t.chain with
  | none => simp only [mapSource, given, Option.map_none]
  | some c =>
    simp only [mapSource, given, Option.map_some, Provider.pull,
      Provider.pullFrom_map (Chain.hom_mapSource hom)]

theorem readResampled_map (hom : Provider.Hom f) (channels : Channels) (frameCount : Nat)
    (pts : Option Int) (t : Track σ) :
    (t.mapSource f).readResampled channels frameCount pts =
      ((t.readResampled channels frameCount pts).1,
        (t.readResampled channels frameCount pts).2.mapSource f) := by
  unfold readResampled
  cases given : t.chain with
  | none => simp only [mapSource, given, Option.map_none]
  | some c =>
    cases resamples : t.resampler with
    | none => simp only [mapSource, given, resamples, Option.map_some]
    | some r =>
      simp only [mapSource, given, resamples, Option.map_some,
        Resampler.resample_map (Chain.hom_mapSource hom)]

end Track

/-- What a kernel made of a block, with the provider replaced by `f` of it. -/
def Played.mapSource (f : σ → τ) (played : Played σ) : Played τ :=
  ⟨played.contributions, played.track.mapSource f, played.complete⟩

namespace Mixer

theorem runKernel_map (hom : Provider.Hom f) (settings : Settings) (task : Task)
    (pts : Option Int) (t : Track σ) :
    runKernel settings task pts (t.mapSource f) =
      ((runKernel settings task pts t).1.map (Played.mapSource f),
        (runKernel settings task pts t).2.mapSource f) := by
  unfold runKernel
  cases task.kernel with
  | idle => simp only [Track.passOver_map hom, Option.map_none]
  | direct input =>
    simp only [Track.playDirect, Track.read_map hom, Option.map_some, Played.mapSource]
    rfl
  | resampled =>
    simp only [Track.playResampled, Track.readResampled_map hom, Option.map_some,
      Played.mapSource]
    rfl

theorem runTask_map (hom : Provider.Hom f) (pts : Option Int) (sums : Sums) (m : Mixer σ)
    (task : Task) :
    runTask pts sums (m.mapSources f) task =
      ((runTask pts sums m task).1, (runTask pts sums m task).2.mapSources f) := by
  unfold runTask
  rw [track?_mapSources]
  cases m.track? task.slot with
  | none => rfl
  | some t =>
    simp only [Option.map_some]
    rw [show (m.mapSources f).settings = m.settings from rfl, runKernel_map hom]
    have written (t' : Track σ) : (m.mapSources f).setTrack task.slot (some (t'.mapSource f)) =
        (m.setTrack task.slot (some t')).mapSources f := setTrack_mapSources f m task.slot (some t')
    rcases runKernel m.settings task pts t with ⟨_ | played, t'⟩
    · simp only [Option.map_none, written]
    · simp only [Option.map_some, written]
      rw [show (t'.mapSource f).volume = t'.volume from rfl,
        show (played.mapSource f).complete = played.complete from rfl]
      cases task.ramp && !t'.volume.isMoving <;> cases played.complete <;> rfl

theorem runTasks_map (hom : Provider.Hom f) (pts : Option Int) (tasks : List Task) (sums : Sums)
    (m : Mixer σ) :
    runTasks pts tasks sums (m.mapSources f) =
      ((runTasks pts tasks sums m).1, (runTasks pts tasks sums m).2.mapSources f) := by
  induction tasks generalizing sums m with
  | nil => rfl
  | cons task rest ih => rw [runTasks_cons, runTasks_cons, runTask_map hom, ih]

theorem renderSilent_map (hom : Provider.Hom f) (m : Mixer σ) (formats : List MixFormat)
    (pts : Option Int) :
    (m.mapSources f).renderSilent formats pts = (m.renderSilent formats pts).mapSources f := by
  have passed (t : Track σ) :
      (if (t.mapSource f).enabled then
        (t.mapSource f).passOver m.settings.frameCount m.settings.sampleRate pts
      else t.mapSource f) =
        (if t.enabled then t.passOver m.settings.frameCount m.settings.sampleRate pts
          else t).mapSource f := by
    rw [Track.passOver_map hom, show (t.mapSource f).enabled = t.enabled from rfl]
    split <;> rfl
  simp only [renderSilent, silenced, mapSources, Vector.map_map, Function.comp_def, Option.map_map,
    passed]

theorem renderFused_map (hom : Provider.Hom f) (m : Mixer σ) (slot : Slot) (channels : Channels)
    (input output : MixFormat) (formats : List MixFormat) (pts : Option Int) :
    (m.mapSources f).renderFused slot channels input output formats pts =
      (m.renderFused slot channels input output formats pts).mapSources f := by
  unfold renderFused
  rw [track?_mapSources]
  cases m.track? slot with
  | none => rfl
  | some t =>
    simp only [Option.map_some, Track.read_map hom]
    have written := setTrack_mapSources f (m.silenced formats) slot
      (some (t.read input channels m.settings.frameCount m.settings.sampleRate pts).2)
    simp only [Option.map_some] at written
    rw [show (m.mapSources f).silenced formats = (m.silenced formats).mapSources f from rfl]
    simp only [written, show (m.mapSources f).settings = m.settings from rfl]
    rfl

/-- A block of the mapped mixer is the mapped block. -/
theorem render_map (hom : Provider.Hom f) (m : Mixer σ) (pts : Option Int) :
    (m.mapSources f).render pts = (m.render pts).mapSources f := by
  unfold render
  rw [currentPlan_mapSources]
  generalize m.currentPlan = plan
  unfold renderBy
  rw [show ({ m.mapSources f with plan := some plan } : Mixer τ) =
    ({ m with plan := some plan } : Mixer σ).mapSources f from rfl]
  generalize ({ m with plan := some plan } : Mixer σ) = planned
  cases plan.strategy with
  | silent => exact renderSilent_map hom planned plan.formats pts
  | fused slot channels input output => exact renderFused_map hom planned ..
  | general tasks =>
    have run := runTasks_map hom pts tasks
      (.empty planned.mainBuses.length planned.auxBuses.length) planned
    unfold runTasks at run
    simp only [renderGeneral]
    rw [show (planned.mapSources f).mainBuses = planned.mainBuses from rfl,
      show (planned.mapSources f).auxBuses = planned.auxBuses from rfl, run]
    rfl

end Mixer

end Mixdown
