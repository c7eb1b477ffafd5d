import Mixdown.Proofs.Mixer.Following

/-!
# A block as the sum of its tasks

Whatever plan a block is mixed by, its main buses hold what tasks add up to that follow the enabled
tracks: none of them is heard in a silent block, and a track that is written straight to its bus is
the one task of its block.
-/

namespace Mixdown

/-- No track that a silent strategy was made for is heard. -/
theorem Strategy.Follows.unheard {σ : Type} {enabled : List (Slot × Track σ)}
    (follows : Strategy.Follows enabled .silent) :
    ∀ entry ∈ enabled, (Task.ofTrack entry.1 entry.2).heard = false := by
  cases follows with
  | silent unheard => exact unheard

namespace Mixer

variable {σ : Type} [Provider σ]

/-- A task that is not heard adds nothing. -/
theorem runTask_unheard (pts : Option Int) (sums : Sums) (m : Mixer σ) {task : Task}
    (unheard : task.heard = false) : (runTask pts sums m task).1 = sums := by
  unfold runTask
  cases found : m.track? task.slot with
  | none => rfl
  | some t =>
    have silent := heard_eq_isSome m.settings task pts t
    rcases result : runKernel m.settings task pts t with ⟨_ | played, t'⟩
    · simp only [result]
    · rw [result] at silent
      nomatch unheard.symm.trans silent

theorem runTasks_unheard (pts : Option Int) {tasks : List Task}
    (unheard : ∀ task ∈ tasks, task.heard = false) (sums : Sums) (m : Mixer σ) :
    (runTasks pts tasks sums m).1 = sums := by
  induction tasks generalizing sums m with
  | nil => rfl
  | cons task rest ih =>
    have here := runTask_unheard pts sums m (unheard task List.mem_cons_self)
    rw [runTasks_cons, here]
    exact ih (fun later member => unheard later (List.mem_cons_of_mem _ member)) _ _

omit [Provider σ] in
/-- The buses to which nothing was written are silent. -/
theorem mainBlocks_empty {buses : Nat} (auxBuses frameCount : Nat) {formats : List MixFormat}
    (lengths : formats.length = buses) :
    (Sums.empty buses auxBuses).mainBlocks frameCount formats =
      formats.map fun format => .silence format frameCount := by
  unfold Sums.mainBlocks Sums.empty
  apply List.ext_getElem
  · simp [lengths]
  · intro bus _ _
    simp only [List.getElem_zipWith, List.getElem_replicate, List.getElem_map]

/-- The main buses hold what the tasks of a general mix add up to. -/
theorem mainBuses_renderGeneral (m : Mixer σ) (tasks : List Task) (formats : List MixFormat)
    (pts : Option Int) : (m.renderGeneral tasks formats pts).mainBuses =
      (runTasks pts tasks (.empty m.mainBuses.length m.auxBuses.length) m).1.mainBlocks
        m.settings.frameCount formats := by
  have settings := (rendered_runTasks pts tasks
    (.empty m.mainBuses.length m.auxBuses.length) m).settings
  rw [← settings]
  rfl

/-- The main buses hold what tasks add up to that follow the enabled tracks, by whatever plan the
block is mixed. -/
theorem Reachable.mainBuses_render {m : Mixer σ} (reachable : Reachable m) (pts : Option Int) :
    ∃ tasks, List.Forall₂ (fun entry task => task.slot = entry.1 ∧ task.Follows entry.2)
        m.enabledTracks tasks ∧
      (m.render pts).mainBuses = (runTasks pts tasks
        (.empty m.mainBuses.length m.auxBuses.length)
        { m with plan := some m.currentPlan }).1.mainBlocks m.settings.frameCount
          m.currentPlan.formats := by
  have wf := reachable.wellFormed
  have stands : m.currentPlan.strategy.Stands m m.currentPlan.formats :=
    stands_currentPlan wf reachable.standing
  have follows := (follows_currentPlan reachable.following).strategy
  have lengths := wf.length_formats
  unfold render renderBy
  cases strategy : m.currentPlan.strategy with
  | silent =>
    rw [strategy] at follows
    refine ⟨m.enabledTracks.map fun entry => Task.ofTrack entry.1 entry.2, ?_, ?_⟩
    · rw [List.forall₂_map_right_iff]
      exact List.forall₂_same.mpr fun entry _ => ⟨rfl, Task.ofTrack_follows _ _⟩
    · have unheard : ∀ task ∈ m.enabledTracks.map fun entry => Task.ofTrack entry.1 entry.2,
          task.heard = false := by
        intro task member
        obtain ⟨entry, listed, rfl⟩ := List.mem_map.mp member
        exact follows.unheard entry listed
      rw [runTasks_unheard pts unheard, mainBlocks_empty _ _ lengths]
      rfl
  | fused slot channels input output =>
    rw [strategy] at follows stands
    cases stands with
    | fused _ _ _ _ t only found task format =>
      refine ⟨[Task.ofTrack slot t], ?_, ?_⟩
      · rw [enabledTracks_singleton only found]
        exact .cons ⟨rfl, Task.ofTrack_follows slot t⟩ .nil
      · have rest : t.volume.isMoving = false := congrArg Task.ramp task
        let planned : Mixer σ := { m with plan := some m.currentPlan }
        have same : planned.renderFused slot channels input output m.currentPlan.formats pts =
            planned.renderGeneral [⟨slot, channels, .direct input, false, false⟩]
              m.currentPlan.formats pts :=
          renderFused_eq_renderGeneral (show planned.track? slot = some t from found)
            (wf.sound slot t found).volume rest format lengths pts
        rw [← task] at same
        exact (congrArg Mixer.mainBuses same).trans (mainBuses_renderGeneral _ _ _ pts)
  | general tasks =>
    rw [strategy] at follows
    exact ⟨tasks, follows.tasks, mainBuses_renderGeneral _ _ _ pts⟩

end Mixer

end Mixdown
