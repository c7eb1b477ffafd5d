import Mixdown.Proofs.Mixer.ReferenceMix

/-!
# A block task by task

What the tasks of a block make of the tracks and of the plan: each task moves its own track, and the
plan is kept only if no gain that a task was made to move has come to rest.
-/

namespace Mixdown

namespace Block

theorem format_silence (format : MixFormat) (frames : Nat) :
    (silence format frames).format = format := by
  cases format <;> rfl

theorem format_ofMix (format : MixFormat) (frames : List (Stereo Float32)) :
    (ofMix format frames).format = format := by
  cases format <;> rfl

end Block

theorem Sums.format_mainBlocks {sums : Sums} (frameCount : Nat) (formats : List MixFormat)
    (length : sums.main.length = formats.length) :
    (sums.mainBlocks frameCount formats).map Block.format = formats := by
  apply List.ext_getElem
  · simp [mainBlocks, length]
  · intro i _ _
    simp only [mainBlocks, List.getElem_map, List.getElem_zipWith]
    cases sums.main[i] with
    | none => exact Block.format_silence ..
    | some frames => exact Block.format_ofMix ..

namespace Mixer

variable {σ : Type} [Provider σ]

theorem heard_eq_isSome (settings : Settings) (task : Task) (pts : Option Int)
    (t : Track σ) : task.heard = (runKernel settings task pts t).1.isSome := by
  unfold Task.heard runKernel
  cases task.kernel <;> rfl

theorem passOver_volume (frameCount : Nat) (rate : UInt32) (pts : Option Int) (t : Track σ) :
    (t.passOver frameCount rate pts).volume = t.volume := by
  unfold Track.passOver
  split <;> rfl

/-- The gains of a track go on with a block, and rest while it is passed over. -/
theorem runKernel_advances (settings : Settings) (task : Task) (pts : Option Int) {t : Track σ}
    (landed : t.volume.Landed) :
    t.volume.Advances (runKernel settings task pts t).2.volume ∧
      (task.heard = false → (runKernel settings task pts t).2.volume = t.volume) := by
  unfold runKernel Task.heard
  cases task.kernel with
  | idle =>
    simp only [passOver_volume]
    exact ⟨.refl _, fun _ => trivial⟩
  | direct input =>
    refine ⟨?_, nofun⟩
    obtain ⟨chain, read⟩ := t.read_snd input task.channels settings.frameCount settings.sampleRate
      pts
    simp only [Track.playDirect_eq, read]
    have played := t.volume.advances_after
      (t.read input task.channels settings.frameCount settings.sampleRate pts).1.length
    split
    · exact played
    · exact played.trans ((landed.after _).advances_skip _)
  | resampled =>
    refine ⟨?_, nofun⟩
    simp only [Track.playResampled_eq, readResampled_volume]
    exact t.volume.advances_after _

/-- A task leaves its track as its kernel does. -/
theorem runTask_self (pts : Option Int) (sums : Sums) (m : Mixer σ) (task : Task) :
    (runTask pts sums m task).2.track? task.slot =
      (m.track? task.slot).map fun t => (runKernel m.settings task pts t).2 := by
  unfold runTask
  cases found : m.track? task.slot with
  | none => exact found
  | some t =>
    simp only [Option.map_some]
    rcases runKernel m.settings task pts t with ⟨_ | played, t'⟩
    · exact track?_setTrack_self m _ _
    · simp only
      split
      · split
        · exact track?_setTrack_self m _ _
        · exact track?_setTrack_self m _ _
      · split
        · exact track?_setTrack_self m _ _
        · exact track?_setTrack_self m _ _

/-- Where a task keeps the plan, a gain that it moves is still moving. -/
theorem runTask_plan {pts : Option Int} {sums : Sums} {m : Mixer σ} {task : Task} {p : Plan}
    (kept : (runTask pts sums m task).2.plan = some p) :
    m.plan = some p ∧ ∀ t, m.track? task.slot = some t → task.heard = true → task.ramp = true →
      (runKernel m.settings task pts t).2.volume.isMoving = true := by
  unfold runTask at kept
  cases found : m.track? task.slot with
  | none =>
    rw [found] at kept
    refine ⟨kept, ?_⟩
    intro t absent
    nomatch absent
  | some t =>
    have heard := heard_eq_isSome m.settings task pts t
    simp only [found] at kept
    rcases result : runKernel m.settings task pts t with ⟨_ | played, t'⟩
    · rw [result] at kept heard
      refine ⟨kept, ?_⟩
      rintro _ ⟨⟩ audible
      nomatch heard.symm.trans audible
    · rw [result] at kept
      have landed : (task.ramp && !t'.volume.isMoving) = false := by
        cases lands : task.ramp && !t'.volume.isMoving with
        | false => rfl
        | true =>
          simp only [lands, if_true] at kept
          nomatch kept
      simp only [landed] at kept
      refine ⟨?_, ?_⟩
      · revert kept
        cases played.complete with
        | true => exact id
        | false => exact id
      · rintro _ ⟨⟩ - ramp
        rw [ramp] at landed
        rw [result]
        simpa using landed

/-- One task adds to the sum on the bus of its track, and to no other. -/
theorem main_runTask (pts : Option Int) (sums : Sums) {m : Mixer σ} {task : Task} {t : Track σ}
    (found : m.track? task.slot = some t) (bus : Nat) :
    (runTask pts sums m task).1.main[bus]? = sums.main[bus]?.map fun sum =>
      if t.mainBus == bus then match (runKernel m.settings task pts t).1 with
        | some played => some (layer Sums.addStereo (.both 0) m.settings.frameCount sum
            (played.contributions.map Contribution.main))
        | none => sum
      else sum := by
  have moved := runKernel_moved m.settings task pts t
  rcases result : runKernel m.settings task pts t with ⟨_ | played, t'⟩
  · unfold runTask
    simp only [found, result, ite_self, Option.map_id']
  · rw [result] at moved
    have mainBus : t'.mainBus = t.mainBus := moved.mainBus_eq
    rw [runTask_write pts sums found result]
    simp only [Sums.write, List.getElem?_modify, mainBus]
    by_cases here : t.mainBus = bus
    · simp [here]
    · simp [here]

/-- The sums and the mixer after tasks of a block. -/
def runTasks (pts : Option Int) (tasks : List Task) (sums : Sums) (m : Mixer σ) :
    Sums × Mixer σ :=
  tasks.foldl (fun (sums, m) task => runTask pts sums m task) (sums, m)

theorem runTasks_cons (pts : Option Int) (task : Task) (rest : List Task) (sums : Sums)
    (m : Mixer σ) : runTasks pts (task :: rest) sums m =
      runTasks pts rest (runTask pts sums m task).1 (runTask pts sums m task).2 := rfl

theorem renderGeneral_eq (m : Mixer σ) (tasks : List Task) (formats : List MixFormat)
    (pts : Option Int) :
    let after := runTasks pts tasks (.empty m.mainBuses.length m.auxBuses.length) m
    m.renderGeneral tasks formats pts = { after.2 with
      mainBuses := after.1.mainBlocks after.2.settings.frameCount formats
      auxBuses := after.1.auxBlocks after.2.settings.frameCount } := rfl

/-- The tracks after the tasks of a block, and what a kept plan says of them. -/
theorem runTasks_tracks (pts : Option Int) {tasks : List Task}
    (distinct : (tasks.map Task.slot).Nodup) (sums : Sums) (m : Mixer σ) :
    let after := (runTasks pts tasks sums m).2
    (∀ slot, slot ∉ tasks.map Task.slot → after.track? slot = m.track? slot) ∧
    (∀ task ∈ tasks, after.track? task.slot =
      (m.track? task.slot).map fun t => (runKernel m.settings task pts t).2) ∧
    ∀ p, after.plan = some p → m.plan = some p ∧
      ∀ task ∈ tasks, ∀ t, m.track? task.slot = some t → task.heard = true → task.ramp = true →
        (runKernel m.settings task pts t).2.volume.isMoving = true := by
  -- the tracks of the tasks still to come are those of `m`, since no two tasks share a slot
  induction tasks generalizing sums m with
  | nil =>
    refine ⟨fun _ _ => rfl, ?_, ?_⟩
    · intro task absent
      exact absurd absent List.not_mem_nil
    · intro p kept
      refine ⟨kept, ?_⟩
      intro task absent
      exact absurd absent List.not_mem_nil
  | cons task rest ih =>
    rw [List.map_cons, List.nodup_cons] at distinct
    rw [runTasks_cons]
    obtain ⟨settings, others⟩ := runTask_rest pts sums m task
    obtain ⟨untouched, touched, plan⟩ :=
      ih distinct.2 (runTask pts sums m task).1 (runTask pts sums m task).2
    have apart : ∀ later ∈ rest, later.slot ≠ task.slot := fun later member equal =>
      distinct.1 (equal ▸ List.mem_map_of_mem member)
    refine ⟨?_, ?_, ?_⟩
    · intro slot absent
      rw [List.map_cons, List.mem_cons, not_or] at absent
      exact (untouched slot absent.2).trans (others slot absent.1)
    · intro task' member
      rcases List.mem_cons.mp member with rfl | later
      · exact (untouched _ distinct.1).trans (runTask_self pts sums m task')
      · rw [← others _ (apart task' later), ← settings]
        exact touched task' later
    · intro p kept
      obtain ⟨kept, moving⟩ := plan p kept
      obtain ⟨kept, here⟩ := runTask_plan kept
      refine ⟨kept, ?_⟩
      intro task' member
      rcases List.mem_cons.mp member with rfl | later
      · exact here
      · rw [← others _ (apart task' later), ← settings]
        exact moving task' later

/-- What a block by a plan makes of a track. -/
inductive Visited (m : Mixer σ) (plan : Plan) (pts : Option Int) (slot : Slot) (t : Track σ) :
    Track σ → Prop
  | alone : t.enabled = false → Visited m plan pts slot t t
  | passedOver : plan.strategy = .silent → t.enabled = true →
      Visited m plan pts slot t (t.passOver m.settings.frameCount m.settings.sampleRate pts)
  | read {channels : Channels} {input output : MixFormat} :
      plan.strategy = .fused slot channels input output → t.enabled = true →
      Task.ofTrack slot t = ⟨slot, channels, .direct input, false, false⟩ →
      Visited m plan pts slot t
        (t.read input channels m.settings.frameCount m.settings.sampleRate pts).2
  | run {tasks : List Task} {task : Task} : plan.strategy = .general tasks → task ∈ tasks →
      task.slot = slot → t.enabled = true → task.Fits t →
      Visited m plan pts slot t (runKernel m.settings task pts t).2

/-- In a block by a plan that stands, each enabled track has its part, and the others are left
alone. -/
theorem visited_renderBy {m : Mixer σ} {plan : Plan} (stands : plan.Stands m) (pts : Option Int)
    {slot : Slot} {t : Track σ} (found : m.track? slot = some t) :
    ∃ t', (m.renderBy plan pts).track? slot = some t' ∧ Visited m plan pts slot t t' := by
  have planned : ({ m with plan := some plan } : Mixer σ).track? slot = some t := found
  unfold Plan.Stands at stands
  unfold renderBy
  cases strategy : plan.strategy with
  | silent =>
    simp only [track?_renderSilent, planned, Option.map_some]
    refine ⟨_, rfl, ?_⟩
    by_cases on : t.enabled = true
    · rw [if_pos on]
      exact .passedOver strategy on
    · rw [if_neg on]
      exact .alone (Bool.eq_false_iff.mpr on)
  | fused place channels input output =>
    rw [strategy] at stands
    cases stands with
    | fused _ _ _ _ u only had task format =>
      have there : ({ m with plan := some plan } : Mixer σ).track? place = some u := had
      have listed : ∀ other, m.isEnabled other = true ↔ other = place := by
        intro other
        have same : other ∈ Slot.all.filter m.isEnabled ↔ other ∈ [place] := by rw [only]
        simpa [Slot.mem_all] using same
      simp only [renderFused, there]
      by_cases here : slot = place
      · subst here
        obtain rfl : u = t := Option.some.inj (had.symm.trans found)
        obtain ⟨v, had', on⟩ := isEnabled_eq_true.mp ((listed slot).mpr rfl)
        obtain rfl : v = u := Option.some.inj (had'.symm.trans had)
        exact ⟨_, track?_setTrack_self .., .read strategy on task⟩
      · have off : t.enabled = false := by
          rw [Bool.eq_false_iff]
          intro on
          exact here ((listed slot).mp (isEnabled_eq_true.mpr ⟨t, found, on⟩))
        exact ⟨t, (track?_setTrack_ne _ _ here).trans planned, .alone off⟩
  | general tasks =>
    rw [strategy] at stands
    have distinct := stands.nodup_slots
    cases stands with
    | general _ slots fits =>
      have listed : slot ∈ tasks.map Task.slot ↔ t.enabled = true := by
        rw [slots, List.mem_filter, isEnabled_eq_true]
        refine ⟨?_, fun on => ⟨Slot.mem_all slot, t, found, on⟩⟩
        rintro ⟨-, u, had, on⟩
        exact Option.some.inj (had.symm.trans found) ▸ on
      obtain ⟨untouched, touched, -⟩ := runTasks_tracks pts distinct
        (.empty m.mainBuses.length m.auxBuses.length) { m with plan := some plan }
      by_cases on : t.enabled = true
      · obtain ⟨task, member, rfl⟩ := List.mem_map.mp (listed.mpr on)
        have after := touched task member
        rw [planned] at after
        exact ⟨_, after, .run strategy member rfl on (fits task member t found)⟩
      · exact ⟨t, (untouched slot (mt listed.mp on)).trans planned,
          .alone (Bool.eq_false_iff.mpr on)⟩

/-- The main buses have the formats of the plan after a block. -/
theorem format_renderBy {m : Mixer σ} {plan : Plan} (stands : plan.Stands m)
    (lengths : plan.formats.length = m.mainBuses.length) (pts : Option Int) :
    (m.renderBy plan pts).mainBuses.map Block.format = plan.formats := by
  have silence : (plan.formats.map fun format => Block.silence format m.settings.frameCount).map
      Block.format = plan.formats := by
    simp only [List.map_map, Function.comp_def, Block.format_silence, List.map_id']
  unfold Plan.Stands at stands
  unfold Mixer.renderBy
  cases strategy : plan.strategy with
  | silent => exact silence
  | fused slot channels input output =>
    rw [strategy] at stands
    cases stands with
    | fused _ _ _ _ t only found task format =>
      obtain ⟨inside, value⟩ := List.getElem?_eq_some_iff.mp format
      have same : ({ m with plan := some plan } : Mixer σ).track? slot = some t := found
      obtain ⟨chain, read⟩ := t.read_snd input channels m.settings.frameCount m.settings.sampleRate
        pts
      simp only [renderFused, same, read, silenced, List.map_set, silence]
      have output : (fusedBlock output m.settings.frameCount t.volume
          (t.read input channels m.settings.frameCount m.settings.sampleRate pts).1).format =
          plan.formats[t.mainBus] := by
        rw [value]
        unfold fusedBlock
        cases output <;> rfl
      rw [output, List.set_getElem_self]
  | general tasks =>
    have length := (length_runTasks pts tasks (.empty m.mainBuses.length m.auxBuses.length)
      { m with plan := some plan }).1
    simp only [renderGeneral]
    exact Sums.format_mainBlocks _ _ (length.trans (List.length_replicate.trans lengths.symm))

end Mixer

end Mixdown
