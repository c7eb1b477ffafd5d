import Mixdown.Proofs.Mixer.Following
import Mixdown.Proofs.Mixer.GainWrites

/-!
# Plans that are up to date

As long as no send is ever ramped, nothing that a plan relies on lapses: the plan that is kept is
the one that would be made anew. Then a block can be told from the enabled tracks alone. Each goes
through the kernel that is chosen for it (`track?_render`), and a main bus holds what the tracks
routed to it add up to (`mainBus?_render`).
-/

namespace Mixdown

variable {σ : Type}

/-- The gain of a send is ramped. -/
def Action.RampsSend : Action σ → Prop
  | .set _ (.gain .aux _ true) => True
  | _ => False

namespace Mixer

/-- No send is moving. -/
def SendsRest (m : Mixer σ) : Prop :=
  ∀ slot t, m.track? slot = some t → t.volume.aux.isMoving = false

/-- The plan that is kept is the one that would be made anew. -/
def UpToDate (m : Mixer σ) : Prop := ∀ p, m.plan = some p → p = m.makePlan

theorem UpToDate.currentPlan_eq {m : Mixer σ} (current : m.UpToDate) :
    m.currentPlan = m.makePlan := by
  unfold currentPlan
  cases kept : m.plan with
  | none => rfl
  | some p => exact current p kept

variable [Provider σ]

/-- Sends stay at rest in a call that does not ramp one. -/
theorem SendsRest.edit {m : Mixer σ} (rest : m.SendsRest) {action : Action σ}
    (unramped : ¬ action.RampsSend) {slot : Slot} {after : Option (Track σ)} {keeps : Bool}
    (edit : Edit m slot action (m.track? slot) after keeps)
    (writes : Writes m (m.act action) slot after keeps) : (m.act action).SendsRest := by
  intro other t found
  show (t.volume.ramp .aux).isMoving = false
  rcases writes.ramp_cases edit found .aux with
    fresh | ⟨u, had, same | ⟨value, ramped, gain, rfl, -, steered⟩⟩
  · rw [fresh]
    rfl
  · rw [same]
    exact rest other u had
  · cases ramped with
    | true => exact absurd trivial unramped
    | false =>
      rw [steered]
      rfl

/-- A call that keeps the plan keeps it up to date. -/
theorem UpToDate.edit {m m' : Mixer σ} (current : m.UpToDate) {action : Action σ} {slot : Slot}
    {after : Option (Track σ)} {keeps : Bool}
    (edit : Edit m slot action (m.track? slot) after keeps)
    (writes : Writes m m' slot after keeps) : m'.UpToDate := by
  intro p kept
  rw [writes.plan] at kept
  cases keeps with
  | false => nomatch kept
  | true =>
    have same : m'.makePlan = m.makePlan := by
      refine makePlan_congr ((writes.plansAs edit).imp ?_) (by rw [writes.mainBuses])
      exact fun _ _ plans => ⟨plans.1, plans.2.2⟩
    rw [same]
    exact current p kept

/-- While the sends are at rest, a block that keeps the plan keeps it up to date. -/
theorem UpToDate.renderBy {m : Mixer σ} (wf : WellFormed m) (rest : m.SendsRest)
    (stands : m.makePlan.Stands m) (lengths : m.makePlan.formats.length = m.mainBuses.length)
    (pts : Option Int) : (m.renderBy m.makePlan pts).UpToDate := by
  intro p kept
  have follows := Plan.follows_makePlan m
  have after := Following.renderBy wf stands follows lengths pts p kept
  have same : m.makePlan = p := by
    rcases (rendered_renderBy m m.makePlan pts lengths).plan with same | dropped
    · exact Option.some.inj (same.symm.trans kept)
    · nomatch dropped.symm.trans kept
  subst same
  have plans : List.Forall₂ (Slotwise Track.PlansAs) m.enabledTracks
      (m.renderBy m.makePlan pts).enabledTracks := by
    have ages := renderBy_ages wf stands follows lengths pts kept
    rw [List.forall₂_iff_zip] at ages ⊢
    refine ⟨ages.1, fun {entry entry'} paired => ?_⟩
    obtain ⟨slot, aged, demands⟩ := ages.2 paired
    have listed := (mem_enabledTracks.mp (List.of_mem_zip paired).1).1
    exact ⟨slot, aged.alike.chain, aged.alike.mixInput, aged.alike.mainBus, aged.busFormat,
      demands (rest _ _ listed)⟩
  have strategy := Strategy.ofTracks_congr plans
  show (⟨m.makePlan.strategy, m.makePlan.formats⟩ : Plan) = _
  rw [after.formats]
  exact congrArg (Plan.mk · _) strategy.symm

/-- What is done to a mixer leaves its sends at rest and its plan up to date, unless it ramps a
send. -/
theorem UpToDate.act {m : Mixer σ} (wf : WellFormed m) (standing : m.Standing) (rest : m.SendsRest)
    (current : m.UpToDate) {action : Action σ} (unramped : ¬ action.RampsSend) :
    (m.act action).SendsRest ∧ (m.act action).UpToDate := by
  rcases wf.act_cases action with ⟨pts, rfl, -⟩ | ⟨slot, t, keeps, writes, edit⟩
  · have stands := stands_currentPlan wf standing
    have lengths := wf.length_formats
    rw [current.currentPlan_eq] at stands lengths
    simp only [Mixer.act, render, current.currentPlan_eq]
    refine ⟨?_, .renderBy wf rest stands lengths pts⟩
    intro slot t' found
    obtain ⟨t, had, -⟩ := exists_before
      ((rendered_renderBy m m.makePlan pts lengths).tracks slot) found
    have advances := (renderBy_volume wf stands (Plan.follows_makePlan m) pts had found).1
    rw [advances.aux (rest slot t had)]
    exact rest slot t had
  · exact ⟨rest.edit unramped edit writes, current.edit edit writes⟩

/-- After any run of a new mixer in which no send is ramped, the plan that is kept is the one that
would be made anew. -/
theorem upToDate_run {settings : Settings} {factory : Option DownmixFactory} {start : Mixer σ}
    (built : Mixer.new settings factory = .ok start) (actions : List (Action σ))
    (unramped : ∀ action ∈ actions, ¬ action.RampsSend) :
    (start.run actions).SendsRest ∧ (start.run actions).UpToDate := by
  induction actions using List.reverseRecOn with
  | nil =>
    obtain ⟨-, -, -, unplanned, empty, -, -⟩ := new_spec built
    refine ⟨?_, ?_⟩
    · intro slot t found
      nomatch (empty slot).symm.trans found
    · intro p kept
      nomatch unplanned.symm.trans kept
  | append_singleton before action ih =>
    obtain ⟨rest, current⟩ := ih fun earlier member =>
      unramped earlier (List.mem_append_left _ member)
    have reachable : Reachable (start.run before) := .run (.new built) before
    rw [run_snoc]
    exact current.act reachable.wellFormed reachable.standing rest
      (unramped action (List.mem_append_right _ List.mem_cons_self))

/-- A block by a new plan is silent, and then no enabled track would be heard, or it is the general
mix of the enabled tracks. -/
theorem renderBy_makePlan {m : Mixer σ} (wf : WellFormed m) (stands : m.makePlan.Stands m)
    (lengths : m.makePlan.formats.length = m.mainBuses.length) (pts : Option Int) :
    let planned : Mixer σ := { m with plan := some m.makePlan }
    ((∀ entry ∈ m.enabledTracks, (Task.ofTrack entry.1 entry.2).heard = false) ∧
      m.renderBy m.makePlan pts = planned.renderSilent m.makePlan.formats pts) ∨
    m.renderBy m.makePlan pts = planned.renderGeneral
      (m.enabledTracks.map fun entry => Task.ofTrack entry.1 entry.2) m.makePlan.formats pts := by
  intro planned
  have strategy : m.makePlan.strategy = Strategy.ofTracks m.enabledTracks := rfl
  unfold Plan.Stands at stands
  rcases Strategy.ofTracks_cases m.enabledTracks with ⟨unheard, made⟩ |
    ⟨slot, t, channels, input, output, single, -, made⟩ | ⟨-, made, -⟩
  · refine .inl ⟨unheard, ?_⟩
    simp only [Mixer.renderBy, strategy, made]
    rfl
  · refine .inr ?_
    rw [strategy, made] at stands
    simp only [Mixer.renderBy, strategy, made]
    simp only [single, List.map_cons, List.map_nil]
    cases stands with
    | fused _ _ _ _ u only found task format =>
      obtain ⟨had, -⟩ := mem_enabledTracks.mp
        (show (slot, t) ∈ m.enabledTracks by rw [single]; exact List.mem_cons_self)
      obtain rfl : u = t := Option.some.inj (found.symm.trans had)
      rw [task]
      exact renderFused_eq_renderGeneral (show planned.track? slot = some u from found)
        (wf.sound slot u found).volume (congrArg Task.ramp task) format lengths pts
  · refine .inr ?_
    simp only [Mixer.renderBy, strategy, made]
    rfl

/-- In a block, each enabled track goes through the kernel that is chosen for it, and the other
tracks are left alone. -/
theorem track?_render {m : Mixer σ} (wf : WellFormed m) (standing : m.Standing)
    (current : m.UpToDate) (pts : Option Int) (slot : Slot) :
    (m.render pts).track? slot = (m.track? slot).map fun t =>
      if t.enabled then (runKernel m.settings (Task.ofTrack slot t) pts t).2 else t := by
  have stands := stands_currentPlan wf standing
  have lengths := wf.length_formats
  rw [current.currentPlan_eq] at stands lengths
  unfold render
  rw [current.currentPlan_eq]
  rcases renderBy_makePlan wf stands lengths pts with ⟨unheard, silent⟩ | general
  · rw [silent, track?_renderSilent]
    show (m.track? slot).map _ = _
    cases found : m.track? slot with
    | none => rfl
    | some t =>
      simp only [Option.map_some]
      by_cases enabled : t.enabled = true
      · have idle := unheard (slot, t) (mem_enabledTracks.mpr ⟨found, enabled⟩)
        have kernel : (Task.ofTrack slot t).kernel = .idle := by simpa [Task.heard] using idle
        simp only [enabled, if_true, runKernel, kernel]
      · simp only [enabled, Bool.false_eq_true, if_false]
  · have distinct : ((m.enabledTracks.map fun entry => Task.ofTrack entry.1 entry.2).map
        Task.slot).Nodup := by
      rw [List.map_map]
      exact m.nodup_enabledTracks
    obtain ⟨untouched, touched, -⟩ := runTasks_tracks pts distinct
      (.empty m.mainBuses.length m.auxBuses.length) { m with plan := some m.makePlan }
    rw [general]
    show (runTasks pts _ _ _).2.track? slot = _
    cases found : m.track? slot with
    | none =>
      rw [untouched slot]
      · exact found
      · intro listed
        obtain ⟨task, member, rfl⟩ := List.mem_map.mp listed
        obtain ⟨⟨slot, t⟩, enabled, rfl⟩ := List.mem_map.mp member
        cases found.symm.trans (mem_enabledTracks.mp enabled).1
    | some t =>
      simp only [Option.map_some]
      by_cases enabled : t.enabled = true
      · have member : Task.ofTrack slot t ∈
            m.enabledTracks.map fun entry => Task.ofTrack entry.1 entry.2 :=
          List.mem_map.mpr ⟨(slot, t), mem_enabledTracks.mpr ⟨found, enabled⟩, rfl⟩
        have after := touched _ member
        rw [show ({ m with plan := some m.makePlan } : Mixer σ).track?
          (Task.ofTrack slot t).slot = some t from found] at after
        simp only [enabled, if_true]
        exact after
      · rw [untouched slot]
        · simp only [enabled]
          exact found
        · intro listed
          obtain ⟨task, member, same⟩ := List.mem_map.mp listed
          obtain ⟨⟨slot', u⟩, had, rfl⟩ := List.mem_map.mp member
          obtain rfl : slot' = slot := same
          obtain ⟨there, on⟩ := mem_enabledTracks.mp had
          exact enabled (Option.some.inj (there.symm.trans found) ▸ on)

/-- What a track adds to the sum on its main bus in a block. -/
def mixIn (settings : Settings) (pts : Option Int) (sum : Option (List (Stereo Float32)))
    (entry : Slot × Track σ) : Option (List (Stereo Float32)) :=
  match (runKernel settings (Task.ofTrack entry.1 entry.2) pts entry.2).1 with
  | some played => some (layer Sums.addStereo (.both 0) settings.frameCount sum
      (played.contributions.map Contribution.main))
  | none => sum

omit [Provider σ] in
/-- The enabled tracks that are routed to a main bus, in ascending order of their slots. -/
def routedTo (m : Mixer σ) (bus : Nat) : List (Slot × Track σ) :=
  m.enabledTracks.filter (·.2.mainBus == bus)

/-- What the tracks routed to a main bus make of it in a block, where it has the format `current`
before. -/
def busBlock (m : Mixer σ) (pts : Option Int) (bus : Nat) (current : MixFormat) : Block :=
  let format := Plan.busFormat (m.routedTo bus) bus current
  match (m.routedTo bus).foldl (mixIn m.settings pts) none with
  | none => .silence format m.settings.frameCount
  | some frames => .ofMix format frames

/-- The tasks of tracks add to the sum on a bus what those of the tracks that are routed to it
add. -/
theorem main_runTasks (pts : Option Int) {entries : List (Slot × Track σ)}
    (distinct : (entries.map Prod.fst).Nodup) {m : Mixer σ}
    (found : ∀ entry ∈ entries, m.track? entry.1 = some entry.2) (sums : Sums) (bus : Nat) :
    (runTasks pts (entries.map fun entry => Task.ofTrack entry.1 entry.2) sums m).1.main[bus]? =
      sums.main[bus]?.map fun sum =>
        (entries.filter (·.2.mainBus == bus)).foldl (mixIn m.settings pts) sum := by
  induction entries generalizing sums m with
  | nil => simp only [List.map_nil, runTasks, List.foldl_nil, List.filter_nil, Option.map_id']
  | cons entry rest ih =>
    obtain ⟨slot, t⟩ := entry
    rw [List.map_cons, List.nodup_cons] at distinct
    have here : m.track? (Task.ofTrack slot t).slot = some t := found (slot, t) List.mem_cons_self
    obtain ⟨settings, others⟩ := runTask_rest pts sums m (.ofTrack slot t)
    have later : ∀ entry ∈ rest,
        (runTask pts sums m (.ofTrack slot t)).2.track? entry.1 = some entry.2 := by
      intro entry member
      have apart : entry.1 ≠ slot := by
        intro same
        apply distinct.1
        exact List.mem_map.mpr ⟨entry, member, same⟩
      rw [others entry.1 apart]
      exact found entry (List.mem_cons_of_mem _ member)
    rw [List.map_cons, runTasks_cons, ih distinct.2 later, main_runTask pts sums here,
      Option.map_map, settings, List.filter_cons]
    congr
    funext sum
    by_cases routed : (t.mainBus == bus) = true
    · simp only [Function.comp_apply, routed, if_true, List.foldl_cons]
      rfl
    · simp only [Function.comp_apply, routed]
      rfl

omit [Provider σ] in
/-- A new plan writes a main bus in the format that the tracks routed to it ask for. -/
theorem formats_makePlan (m : Mixer σ) (bus : Nat) :
    m.makePlan.formats[bus]? = m.mainBuses[bus]?.map fun held =>
      Plan.busFormat (m.routedTo bus) bus held.format := by
  have routed (current : MixFormat) : Plan.busFormat m.enabledTracks bus current =
      Plan.busFormat (m.routedTo bus) bus current := by
    unfold Plan.busFormat routedTo
    rw [List.find?_filter]
    simp only [and_self, Bool.decide_eq_true]
  simp only [makePlan, Plan.ofTracks, List.getElem?_mapIdx, List.getElem?_map, Option.map_map,
    Function.comp_def, routed]

/-- Tracks that are not heard add nothing. -/
theorem foldl_mixIn_unheard (settings : Settings) (pts : Option Int)
    {entries : List (Slot × Track σ)}
    (unheard : ∀ entry ∈ entries, (Task.ofTrack entry.1 entry.2).heard = false)
    (sum : Option (List (Stereo Float32))) : entries.foldl (mixIn settings pts) sum = sum := by
  induction entries with
  | nil => rfl
  | cons entry rest ih =>
    have idle : mixIn settings pts sum entry = sum := by
      have silent := unheard entry List.mem_cons_self
      rw [heard_eq_isSome settings _ pts entry.2, Option.isSome_eq_false_iff,
        Option.isNone_iff_eq_none] at silent
      unfold mixIn
      rw [silent]
    rw [List.foldl_cons, idle]
    exact ih fun later member => unheard later (List.mem_cons_of_mem _ member)

/-- A main bus holds after a block what the tracks that are routed to it add up to. -/
theorem mainBus?_render {m : Mixer σ} (wf : WellFormed m) (standing : m.Standing)
    (current : m.UpToDate) (pts : Option Int) (bus : Nat) :
    (m.render pts).mainBus? bus = (m.mainBus? bus).map fun held =>
      m.busBlock pts bus held.format := by
  have stands := stands_currentPlan wf standing
  have lengths := wf.length_formats
  rw [current.currentPlan_eq] at stands lengths
  have format := m.formats_makePlan bus
  unfold render
  rw [current.currentPlan_eq]
  unfold mainBus? busBlock
  rcases renderBy_makePlan wf stands lengths pts with ⟨unheard, silent⟩ | general
  · have nothing : (m.routedTo bus).foldl (mixIn m.settings pts) none = none :=
      foldl_mixIn_unheard m.settings pts
        (fun entry member => unheard entry (List.mem_filter.mp member).1) none
    rw [silent]
    simp only [renderSilent, silenced, List.getElem?_map, format, nothing, Option.map_map]
    rfl
  · have found : ∀ entry ∈ m.enabledTracks,
        ({ m with plan := some m.makePlan } : Mixer σ).track? entry.1 = some entry.2 :=
      fun entry member => (mem_enabledTracks.mp member).1
    have sum := main_runTasks pts m.nodup_enabledTracks found
      (.empty m.mainBuses.length m.auxBuses.length) bus
    have settings := (rendered_runTasks pts
      (m.enabledTracks.map fun entry => .ofTrack entry.1 entry.2)
      (.empty m.mainBuses.length m.auxBuses.length) { m with plan := some m.makePlan }).settings
    rw [general]
    show (Sums.mainBlocks (runTasks pts _ _ _).1 _ _)[bus]? = _
    rw [settings]
    simp only [Sums.mainBlocks, List.getElem?_zipWith]
    rw [sum, format]
    cases held : m.mainBuses[bus]? with
    | none => simp
    | some block =>
      obtain ⟨inside, -⟩ := List.getElem?_eq_some_iff.mp held
      have empty : (Sums.empty m.mainBuses.length m.auxBuses.length).main[bus]? = some none := by
        simp [Sums.empty, inside]
      simp only [empty, Option.map_some]
      rfl

end Mixer

end Mixdown
