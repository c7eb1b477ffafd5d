import Mixdown.Mixer.Console
import Mixdown.Proofs.Mixer.Tasks

/-!
# Disabled tracks stand by

A block goes by the enabled tracks. Tracks that are disabled may be there or not: the block is the
same, and they are left as they are (`Mixer.render_joined`).
-/

namespace Mixdown

theorem Slot.get_table {α : Type} (entry : Slot → α) (slot : Slot) :
    (table entry).get slot = entry slot := by
  unfold table
  exact Vector.getElem_ofFn slot.isLt

namespace Mixer

variable {σ : Type}

/-- Mixers with the same tracks that are otherwise the same, too. -/
theorem eq_of_tracks {m m' : Mixer σ} (settings : m.settings = m'.settings)
    (factory : m.factory = m'.factory) (attempts : m.attempts = m'.attempts)
    (plan : m.plan = m'.plan) (mainBuses : m.mainBuses = m'.mainBuses)
    (auxBuses : m.auxBuses = m'.auxBuses) (underruns : m.underruns = m'.underruns)
    (tracks : ∀ slot, m.track? slot = m'.track? slot) : m = m' := by
  have same := tracks_ext tracks
  cases m
  cases m'
  simp_all only

/-- The mixer with more tracks, in slots that are free. -/
def joined (m : Mixer σ) (more : Slot → Option (Track σ)) : Mixer σ :=
  { m with tracks := Slot.table fun slot => (m.track? slot).or (more slot) }

variable {m : Mixer σ} {more : Slot → Option (Track σ)} {slot : Slot}

theorem track?_joined : (m.joined more).track? slot = (m.track? slot).or (more slot) :=
  Slot.get_table _ slot

theorem track?_joined_some {t : Track σ} (found : m.track? slot = some t) :
    (m.joined more).track? slot = some t := by
  rw [track?_joined, found, Option.some_or]

theorem track?_setTrack_joined (slot other : Slot) (t : Track σ) :
    ((m.joined more).setTrack slot (some t)).track? other =
      ((m.setTrack slot (some t)).track? other).or (more other) := by
  by_cases here : other = slot
  · subst here
    rw [track?_setTrack_self, track?_setTrack_self, Option.some_or]
  · rw [track?_setTrack_ne _ _ here, track?_setTrack_ne _ _ here, track?_joined]

theorem setTrack_joined (slot : Slot) (t : Track σ) :
    (m.joined more).setTrack slot (some t) = (m.setTrack slot (some t)).joined more := by
  refine eq_of_tracks rfl rfl rfl rfl rfl rfl rfl fun other => ?_
  rw [track?_setTrack_joined, track?_joined]

section Idle

variable (idle : ∀ slot t, more slot = some t → t.enabled = false)

include idle

theorem enabledTracks_joined : (m.joined more).enabledTracks = m.enabledTracks := by
  unfold enabledTracks occupied
  simp only [track?_joined]
  generalize Slot.all = slots
  induction slots with
  | nil => rfl
  | cons slot rest ih =>
    rw [List.filterMap_cons, List.filterMap_cons]
    cases found : m.track? slot with
    | some t =>
      simp only [Option.some_or, Option.map_some, List.filter_cons]
      rw [ih]
    | none =>
      rw [Option.none_or, Option.map_none]
      cases spare : more slot with
      | none => exact ih
      | some t =>
        rw [Option.map_some, List.filter_cons_of_neg (by simp [idle slot t spare])]
        exact ih

theorem currentPlan_joined : (m.joined more).currentPlan = m.currentPlan := by
  unfold currentPlan makePlan
  rw [enabledTracks_joined idle]
  rfl

end Idle

variable [Provider σ] {pts : Option Int}

theorem renderSilent_joined (idle : ∀ slot t, more slot = some t → t.enabled = false)
    (formats : List MixFormat) :
    (m.joined more).renderSilent formats pts = (m.renderSilent formats pts).joined more := by
  refine eq_of_tracks rfl rfl rfl rfl rfl rfl rfl fun slot => ?_
  rw [track?_joined, track?_renderSilent, track?_renderSilent, track?_joined]
  cases m.track? slot with
  | some t => rfl
  | none =>
    rw [Option.none_or, Option.map_none, Option.none_or]
    cases spare : more slot with
    | none => rfl
    | some t => simp [idle slot t spare]

theorem renderFused_joined {t : Track σ} (found : m.track? slot = some t) (channels : Channels)
    (input output : MixFormat) (formats : List MixFormat) :
    (m.joined more).renderFused slot channels input output formats pts =
      (m.renderFused slot channels input output formats pts).joined more := by
  have there : (m.joined more).track? slot = some t := track?_joined_some found
  unfold renderFused
  simp only [found, there]
  refine eq_of_tracks rfl rfl rfl rfl rfl rfl rfl fun other => ?_
  rw [track?_joined]
  exact track?_setTrack_joined slot other _

theorem runTask_joined {task : Task} {sums : Sums} (there : (m.track? task.slot).isSome = true) :
    runTask pts sums (m.joined more) task =
      ((runTask pts sums m task).1, (runTask pts sums m task).2.joined more) := by
  obtain ⟨t, found⟩ := Option.isSome_iff_exists.mp there
  unfold runTask
  simp only [found, track?_joined_some found]
  have settings : (m.joined more).settings = m.settings := rfl
  rw [settings]
  rcases runKernel m.settings task pts t with ⟨_ | played, t'⟩
  · exact congrArg (Prod.mk sums) (setTrack_joined task.slot t')
  · simp only
    rw [setTrack_joined]
    cases played.complete with
    | true =>
      split
      · rfl
      · rfl
    | false =>
      split
      · rfl
      · rfl

/-- The tasks of a block run alike with disabled tracks around. -/
theorem runTasks_joined {tasks : List Task}
    (there : ∀ task ∈ tasks, (m.track? task.slot).isSome = true) (sums : Sums) :
    runTasks pts tasks sums (m.joined more) =
      ((runTasks pts tasks sums m).1, (runTasks pts tasks sums m).2.joined more) := by
  induction tasks generalizing sums m with
  | nil => rfl
  | cons task rest ih =>
    rw [runTasks_cons, runTasks_cons, runTask_joined (there task List.mem_cons_self)]
    refine ih (fun later member => ?_) _
    rw [isSome_of_rel ((rendered_runTask pts sums m task).tracks later.slot)]
    exact there later (List.mem_cons_of_mem _ member)

theorem renderGeneral_joined {tasks : List Task}
    (there : ∀ task ∈ tasks, (m.track? task.slot).isSome = true) (formats : List MixFormat) :
    (m.joined more).renderGeneral tasks formats pts =
      (m.renderGeneral tasks formats pts).joined more := by
  have buses : (m.joined more).mainBuses = m.mainBuses ∧ (m.joined more).auxBuses = m.auxBuses :=
    ⟨rfl, rfl⟩
  rw [renderGeneral_eq, renderGeneral_eq, buses.1, buses.2, runTasks_joined there]
  rfl

/-- Disabled tracks do not take part in a block. -/
theorem render_joined (idle : ∀ slot t, more slot = some t → t.enabled = false)
    (stands : m.currentPlan.Stands m) (pts : Option Int) :
    (m.joined more).render pts = (m.render pts).joined more := by
  unfold render
  rw [currentPlan_joined idle]
  generalize m.currentPlan = plan at stands
  unfold Plan.Stands at stands
  unfold renderBy
  cases strategy : plan.strategy with
  | silent => exact renderSilent_joined (m := { m with plan := some plan }) idle plan.formats
  | fused slot channels input output =>
    rw [strategy] at stands
    cases stands with
    | fused _ _ _ _ t _ found _ _ =>
      exact renderFused_joined (m := { m with plan := some plan }) found channels input output
        plan.formats
  | general tasks =>
    rw [strategy] at stands
    cases stands with
    | general _ slots _ =>
      have there : ∀ task ∈ tasks, (m.track? task.slot).isSome = true := by
        intro task member
        have listed : task.slot ∈ Slot.all.filter m.isEnabled :=
          slots ▸ List.mem_map_of_mem member
        obtain ⟨t, found, -⟩ := isEnabled_eq_true.mp (List.mem_filter.mp listed).2
        rw [found]
        rfl
      exact renderGeneral_joined (m := { m with plan := some plan }) there plan.formats

end Mixer

end Mixdown
