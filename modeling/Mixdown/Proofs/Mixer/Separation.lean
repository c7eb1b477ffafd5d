import Mixdown.Proofs.Mixer.Parallel
import Mixdown.Proofs.Mixer.UpToDate

/-!
# Tracks on different main buses

Two runs of a mixer that differ only in calls on tracks which are never enabled on a main bus make
the same of that bus and of all the other tracks. `SideBySide` builds such a pair of runs call by
call, and `Agree` is what the mixers of the two runs have in common at every point.
-/

namespace Mixdown

variable {σ : Type}

/-- Whether a downmix is created does not depend on what was created before. -/
def DownmixFactory.Steady (f : DownmixFactory) : Prop := ∀ i j, f.succeeds i = f.succeeds j

namespace Mixer

theorem buildsAlike_of_steady {m m' : Mixer σ} (factory : m'.factory = m.factory)
    (steady : ∀ f, m.factory = some f → f.Steady) : m.BuildsAlike m' := by
  intro mask mode
  unfold buildDownmix
  rw [factory]
  cases given : m.factory with
  | none => rfl
  | some f => simp only [steady f given m'.attempts m.attempts]

/-- The slot holds a track that is not enabled on the main bus. -/
def Aside (m : Mixer σ) (bus : Nat) (slot : Slot) : Prop :=
  ∃ t, m.track? slot = some t ∧ (t.enabled = true → t.mainBus ≠ bus)

theorem Aside.isSome {m : Mixer σ} {bus : Nat} {slot : Slot} (aside : m.Aside bus slot) :
    (m.track? slot).isSome = true := by
  obtain ⟨t, found, -⟩ := aside
  rw [found]
  rfl

theorem routedTo_eq_filterMap (m : Mixer σ) (bus : Nat) :
    m.routedTo bus = Slot.all.filterMap fun slot =>
      ((m.enabledTrack? slot).filter (·.mainBus == bus)).map (slot, ·) := by
  unfold routedTo
  rw [enabledTracks_eq_filterMap, List.filter_filterMap]
  congr
  funext slot
  cases m.enabledTrack? slot with
  | none => rfl
  | some t => by_cases routed : (t.mainBus == bus) = true <;> simp [Option.filter, routed]

/-- Tracks that are not enabled on a bus make no difference to it. -/
theorem routedTo_congr {m m' : Mixer σ} {bus : Nat}
    (same : ∀ slot, m'.track? slot = m.track? slot ∨ m.Aside bus slot ∧ m'.Aside bus slot) :
    m'.routedTo bus = m.routedTo bus := by
  have unheard {n : Mixer σ} {slot : Slot} (aside : n.Aside bus slot) :
      (n.enabledTrack? slot).filter (·.mainBus == bus) = none := by
    obtain ⟨t, found, apart⟩ := aside
    unfold enabledTrack?
    rw [found]
    by_cases enabled : t.enabled = true
    · simp [Option.filter, enabled, apart enabled]
    · simp [Option.filter, enabled]
  rw [routedTo_eq_filterMap, routedTo_eq_filterMap]
  congr
  funext slot
  rcases same slot with same | ⟨here, there⟩
  · unfold enabledTrack?
    rw [same]
  · rw [unheard here, unheard there]

variable [Provider σ]

/-- A call other than `render` writes the slot that it changes or frees or takes, or it changes no
track. -/
theorem act_place (m : Mixer σ) {action : Action σ} (quiet : ∀ pts, action ≠ .render pts) :
    ∃ slot t keeps, Writes m (m.act action) slot t keeps ∧
      (t = m.track? slot ∨ action.changed? = some slot ∨ action.freed? = some slot ∨
        action.changed? = none ∧ m.track? slot = none) := by
  obtain ⟨slot, t, keeps, writes, edit⟩ := m.act_edit action quiet
  refine ⟨slot, t, keeps, writes, ?_⟩
  generalize m.track? slot = before at edit
  cases edit with
  | same _ _ _ _ => exact .inl rfl
  | allocated _ _ _ _ _ => exact .inr (.inr (.inr ⟨rfl, rfl⟩))
  | freed _ => exact .inr (.inr (.inl rfl))
  | switched _ _ => exact .inr (.inl rfl)
  | attached _ _ _ _ => exact .inr (.inl rfl)
  | outside _ _ => exact .inr (.inl rfl)
  | written _ _ _ _ _ => exact .inr (.inl rfl)

/-- A track is left alone by calls that neither change nor free its slot. -/
theorem track?_act_of_used {m : Mixer σ} {action : Action σ} {slot : Slot}
    (quiet : ∀ pts, action ≠ .render pts) (used : (m.track? slot).isSome = true)
    (unchanged : action.changed? ≠ some slot) (kept : action.freed? ≠ some slot) :
    (m.act action).track? slot = m.track? slot := by
  obtain ⟨place, t, keeps, writes, about⟩ := m.act_place quiet
  by_cases here : slot = place
  · subst here
    rw [writes.track?_self]
    rcases about with same | changed | freed | ⟨-, empty⟩
    · exact same
    · exact absurd changed unchanged
    · exact absurd freed kept
    · rw [empty] at used
      nomatch used
  · exact writes.track?_ne here

/-- A call that changes the track of a slot leaves the other slots and the main buses. -/
theorem act_changed {m : Mixer σ} {action : Action σ} {place : Slot}
    (changed : action.changed? = some place) :
    (∀ slot, slot ≠ place → (m.act action).track? slot = m.track? slot) ∧
      (m.act action).mainBuses = m.mainBuses ∧ (m.act action).settings = m.settings ∧
      (m.act action).factory = m.factory ∧
      (m.act action).auxBuses = m.auxBuses := by
  have quiet : ∀ pts, action ≠ .render pts := by
    rintro pts rfl
    nomatch changed
  have unfreed : action.freed? = none := by
    cases action <;> first | rfl | nomatch changed
  obtain ⟨slot, t, keeps, writes, about⟩ := m.act_place quiet
  refine ⟨?_, writes.mainBuses, writes.settings, writes.factory, writes.auxBuses⟩
  intro other apart
  by_cases here : other = slot
  · subst here
    rw [writes.track?_self]
    rcases about with same | there | freed | ⟨nothing, -⟩
    · exact same
    · exact absurd (Option.some.inj (there.symm.trans changed)) apart
    · nomatch freed.symm.trans unfreed
    · nomatch nothing.symm.trans changed
  · exact writes.track?_ne here

/-- Two runs of a mixer side by side, of which each call is made in both runs or in one of them
only. The calls of one run only are made on tracks that are not enabled on the main bus in either
run; the slots of these tracks are `apart` until they are freed, and no call of both runs changes a
track of them. A call of both runs succeeds in both or in neither, unless the factory is steady. -/
inductive SideBySide (start : Mixer σ) (bus : Nat) :
    (left right : List (Action σ)) → (apart : Slot → Prop) → Prop
  | start : SideBySide start bus [] [] fun _ => False
  | both {left right : List (Action σ)} {apart : Slot → Prop} (action : Action σ) :
      SideBySide start bus left right apart →
      (∀ slot, action.changed? = some slot → ¬ apart slot) →
      ((∀ f, start.factory = some f → f.Steady) ∨
        ((start.run right).error? action).isSome = ((start.run left).error? action).isSome) →
      SideBySide start bus (left ++ [action]) (right ++ [action])
        fun slot => apart slot ∧ action.freed? ≠ some slot
  | left {left right : List (Action σ)} {apart : Slot → Prop} (action : Action σ) (slot : Slot) :
      SideBySide start bus left right apart → action.changed? = some slot →
      (start.run (left ++ [action])).Aside bus slot → (start.run right).Aside bus slot →
      SideBySide start bus (left ++ [action]) right fun other => apart other ∨ other = slot
  | right {left right : List (Action σ)} {apart : Slot → Prop} (action : Action σ) (slot : Slot) :
      SideBySide start bus left right apart → action.changed? = some slot →
      (start.run left).Aside bus slot → (start.run (right ++ [action])).Aside bus slot →
      SideBySide start bus left (right ++ [action]) fun other => apart other ∨ other = slot

/-- What two mixers have in common that were used alike but for tracks that are not enabled on a
main bus: the bus, and all tracks that are not apart. -/
structure Agree (bus : Nat) (apart : Slot → Prop) (m m' : Mixer σ) : Prop where
  along : Alongside Leeway.nil apart m m'
  held : m'.mainBus? bus = m.mainBus? bus
  aside : ∀ slot, apart slot → m.Aside bus slot ∧ m'.Aside bus slot

namespace Agree

variable {bus : Nat} {apart : Slot → Prop} {m m' : Mixer σ}

omit [Provider σ] in
theorem track?_eq (agree : Agree bus apart m m') {slot : Slot} (together : ¬ apart slot) :
    m'.track? slot = m.track? slot := by
  have within := agree.along.tracks slot together
  generalize m.track? slot = before, m'.track? slot = after at within
  cases within with
  | none => rfl
  | some within => rw [within.eq_of_nil]

omit [Provider σ] in
theorem symm (agree : Agree bus apart m m') : Agree bus apart m' m := by
  refine ⟨⟨agree.along.settings.symm, agree.along.factory.symm, agree.along.mainBuses.symm,
    agree.along.auxBuses.symm, fun slot => (agree.along.used slot).symm, ?_⟩, agree.held.symm,
    fun slot far => (agree.aside slot far).symm⟩
  intro slot together
  rw [agree.track?_eq together]
  exact rel_refl .refl _

/-- Two mixers agree after the same call. -/
theorem call (agree : Agree bus apart m m') {action : Action σ}
    (quiet : ∀ pts, action ≠ .render pts)
    (together : ∀ slot, action.changed? = some slot → ¬ apart slot) (even : EvenAt m m' action) :
    Agree bus (fun slot => apart slot ∧ action.freed? ≠ some slot) (m.act action)
      (m'.act action) := by
  refine ⟨agree.along.twin (act_twin agree.along quiet together even), ?_, ?_⟩
  · obtain ⟨_, _, _, here, -⟩ := m.act_place quiet
    obtain ⟨_, _, _, there, -⟩ := m'.act_place quiet
    unfold mainBus?
    rw [here.mainBuses, there.mainBuses]
    exact agree.held
  · rintro slot ⟨far, kept⟩
    have unchanged : action.changed? ≠ some slot := fun changed => together slot changed far
    obtain ⟨here, there⟩ := agree.aside slot far
    unfold Aside
    rw [track?_act_of_used quiet here.isSome unchanged kept,
      track?_act_of_used quiet there.isSome unchanged kept]
    exact ⟨here, there⟩

/-- Two mixers agree after a block. -/
theorem render (agree : Agree bus apart m m') (wf : WellFormed m) (wf' : WellFormed m')
    (standing : m.Standing) (standing' : m'.Standing) (current : m.UpToDate)
    (current' : m'.UpToDate) (pts : Option Int) :
    Agree bus apart (m.render pts) (m'.render pts) := by
  have here := rendered_renderBy m m.currentPlan pts wf.length_formats
  have there := rendered_renderBy m' m'.currentPlan pts wf'.length_formats
  have aside {n : Mixer σ} (wf : WellFormed n) {slot : Slot} (aside : n.Aside bus slot) :
      (n.render pts).Aside bus slot := by
    obtain ⟨t, found, apart⟩ := aside
    have rendered := rendered_renderBy n n.currentPlan pts wf.length_formats
    have moved := rendered.tracks slot
    rw [show ({ n with plan := some n.currentPlan } : Mixer σ).track? slot = some t from found]
      at moved
    unfold Aside Mixer.render
    generalize (n.renderBy n.currentPlan pts).track? slot = after at moved
    cases moved with
    | some moved => exact ⟨_, rfl, by rw [moved.enabled_eq, moved.mainBus_eq]; exact apart⟩
  refine ⟨⟨?_, ?_, ?_, ?_, ?_, ?_⟩, ?_, ?_⟩
  · exact there.settings.trans (agree.along.settings.trans here.settings.symm)
  · exact there.factory.trans (agree.along.factory.trans here.factory.symm)
  · exact there.mainBuses.trans (agree.along.mainBuses.trans here.mainBuses.symm)
  · exact there.auxBuses.trans (agree.along.auxBuses.trans here.auxBuses.symm)
  · intro slot
    rw [track?_render wf standing current, track?_render wf' standing' current',
      Option.isSome_map, Option.isSome_map]
    exact agree.along.used slot
  · intro slot together
    rw [track?_render wf standing current, track?_render wf' standing' current',
      agree.track?_eq together, agree.along.settings]
    exact rel_refl .refl _
  · have routed : m'.routedTo bus = m.routedTo bus := by
      refine routedTo_congr fun slot => ?_
      by_cases far : apart slot
      · exact .inr (agree.aside slot far)
      · exact .inl (agree.track?_eq far)
    rw [mainBus?_render wf standing current, mainBus?_render wf' standing' current', agree.held]
    unfold busBlock
    rw [routed, agree.along.settings]
  · exact fun slot far => ⟨aside wf (agree.aside slot far).1, aside wf' (agree.aside slot far).2⟩

/-- Two mixers agree after one of them got a call on a track that is not enabled on the bus. -/
theorem alone (agree : Agree bus apart m m') {action : Action σ} {slot : Slot}
    (changed : action.changed? = some slot) (here : (m.act action).Aside bus slot)
    (there : m'.Aside bus slot) :
    Agree bus (fun other => apart other ∨ other = slot) (m.act action) m' := by
  obtain ⟨others, mainBuses, settings, factory, auxBuses⟩ := act_changed (m := m) changed
  refine ⟨⟨?_, ?_, ?_, ?_, ?_, ?_⟩, ?_, ?_⟩
  · rw [settings, agree.along.settings]
  · rw [factory, agree.along.factory]
  · rw [mainBuses, agree.along.mainBuses]
  · rw [auxBuses, agree.along.auxBuses]
  · intro other
    by_cases same : other = slot
    · subst same
      rw [here.isSome, there.isSome]
    · rw [others other same]
      exact agree.along.used other
  · intro other together
    rw [not_or] at together
    rw [others other together.2]
    exact agree.along.tracks other together.1
  · unfold mainBus?
    rw [mainBuses]
    exact agree.held
  · intro other far
    by_cases same : other = slot
    · subst same
      exact ⟨here, there⟩
    · obtain ⟨before, after⟩ := agree.aside other (far.resolve_right same)
      refine ⟨?_, after⟩
      unfold Aside
      rw [others other same]
      exact before

end Agree

/-- Two runs side by side in which no send is ramped agree at every point. -/
theorem SideBySide.agree {settings : Settings} {factory : Option DownmixFactory} {start : Mixer σ}
    (built : Mixer.new settings factory = .ok start) {bus : Nat} {left right : List (Action σ)}
    {apart : Slot → Prop} (side : SideBySide start bus left right apart)
    (unramped : ∀ action ∈ left ++ right, ¬ action.RampsSend) :
    Agree bus apart (start.run left) (start.run right) := by
  have reachable : Reachable start := .new built
  induction side with
  | start =>
    exact ⟨⟨rfl, rfl, rfl, rfl, fun _ => rfl, fun _ _ => rel_refl .refl _⟩, rfl,
      fun _ far => far.elim⟩
  | @both left right apart action _ together even ih =>
    have earlier : ∀ action ∈ left ++ right, ¬ action.RampsSend := by
      intro earlier member
      apply unramped
      simp only [List.mem_append] at member ⊢
      exact member.imp .inl .inl
    have agree := ih earlier
    rw [run_snoc, run_snoc]
    by_cases render : ∃ pts, action = .render pts
    · obtain ⟨pts, rfl⟩ := render
      have here := upToDate_run built left fun action member =>
        earlier action (List.mem_append_left _ member)
      have there := upToDate_run built right fun action member =>
        earlier action (List.mem_append_right _ member)
      have agreed := agree.render (reachable.run left).wellFormed (reachable.run right).wellFormed
        (reachable.run left).standing (reachable.run right).standing here.2 there.2 pts
      exact ⟨agreed.along.mono fun slot far => ⟨far, (Option.some_ne_none slot).symm⟩,
        agreed.held, fun slot far => agreed.aside slot far.1⟩
    · refine agree.call (fun pts same => render ⟨pts, same⟩) together ?_
      rcases even with steady | same
      · refine .inl (buildsAlike_of_steady agree.along.factory ?_)
        rw [reachable.wellFormed.factory_run]
        exact steady
      · exact .inr same
  | @left left right apart action slot _ changed here there ih =>
    have agree := ih fun earlier member => by
      apply unramped
      simp only [List.mem_append] at member ⊢
      exact member.imp .inl id
    rw [run_snoc] at here ⊢
    exact agree.alone changed here there
  | @right left right apart action slot _ changed here there ih =>
    have agree := ih fun earlier member => by
      apply unramped
      simp only [List.mem_append] at member ⊢
      exact member.imp id .inl
    rw [run_snoc] at there ⊢
    exact (agree.symm.alone changed there here).symm

/-- Tracks on different main buses do not interfere. Take two runs of a mixer in which no send is
ramped and which differ only in calls on tracks that are never enabled on the bus, and in which each
call that both make succeeds in both or in neither, as it does wherever the factory creates alike
whatever it created before. At every point the bus holds the same in both runs, and every other
track has the same gains, the same resampler and the same chain above the same provider, which got
the same calls. -/
theorem run_separate {settings : Settings} {factory : Option DownmixFactory}
    {start : Mixer (Recorded σ)} (built : Mixer.new settings factory = .ok start) {bus : Nat}
    {left right : List (Action (Recorded σ))} {apart : Slot → Prop}
    (side : SideBySide start bus left right apart)
    (unramped : ∀ action ∈ left ++ right, ¬ action.RampsSend) :
    (start.run right).mainBus? bus = (start.run left).mainBus? bus ∧
    ∀ slot, ¬ apart slot → (start.run right).track? slot = (start.run left).track? slot ∧
      (start.run right).calls? slot = (start.run left).calls? slot := by
  have agree := side.agree built unramped
  refine ⟨agree.held, fun slot together => ?_⟩
  have track := agree.track?_eq together
  refine ⟨track, ?_⟩
  unfold calls? source?
  rw [track]

omit [Provider σ] in
theorem aside_of_map {m : Mixer σ} {bus : Nat} {slot : Slot}
    (off : (m.track? slot).map (fun t => t.enabled && t.mainBus == bus) = some false) :
    m.Aside bus slot := by
  obtain ⟨t, found, off⟩ := Option.map_eq_some_iff.mp off
  refine ⟨t, found, ?_⟩
  rintro enabled rfl
  simp [enabled] at off

/-- Two runs without a difference, where the factory is steady. -/
theorem sideBySide_same {start : Mixer σ} (steady : ∀ f, start.factory = some f → f.Steady)
    (bus : Nat) (actions : List (Action σ)) :
    ∃ apart, SideBySide start bus actions actions apart ∧ ∀ slot, ¬ apart slot := by
  induction actions using List.reverseRecOn with
  | nil => exact ⟨_, .start, fun _ far => far⟩
  | append_singleton before action ih =>
    obtain ⟨apart, side, together⟩ := ih
    exact ⟨_, side.both action (fun slot _ => together slot) (.inl steady),
      fun slot far => together slot far.1⟩

/-- A stereo clip on the first main bus. In one run a mono clip plays on the second main bus at the
same time, in the other it stays disabled and gets another rate, so that the first clip is written
straight to its bus. -/
theorem run_separate_pair :
    let first : Slot := ⟨0, by decide⟩
    let second : Slot := ⟨1, by decide⟩
    let before : List (Action (Recorded Clip)) :=
      [.allocate .stereo .float 0, .allocate .mono .float 1,
        .attach first (some (.fresh (.ofSamples 2 (.float #[0.5, 0.25, 1, 0.5]) false))),
        .attach second (some (.fresh (.ofSamples 1 (.float #[0.5, 0.25, 0.125]) true))),
        .set second (.mainBus 1), .setEnabled first true]
    let left := before ++ [.setEnabled second true] ++ [.render none]
    let right := before ++ [.set second (.sampleRate 24000)] ++ [.render none]
    ∃ start apart, Mixer.new { frameCount := 2, mainBuses := 2, outputFormat := .float } none =
        .ok start ∧ SideBySide start 0 left right apart ∧
      (∀ action ∈ left ++ right, ¬ action.RampsSend) ∧ ¬ apart first ∧
      (start.run right).mainBus? 0 = (start.run left).mainBus? 0 ∧
      (start.run right).calls? first = (start.run left).calls? first ∧
      ((start.run left).mainBus? 0).map Block.singles = some [0.5, 0.25, 1, 0.5] ∧
      ((start.run left).mainBus? 1).map Block.singles = some [0.5, 0.5, 0.25, 0.25] ∧
      ((start.run right).mainBus? 1).map Block.singles = some [0, 0, 0, 0] := by
  intro first second before left right
  obtain ⟨start, built, on, off, retuned, main, other, silent⟩ : ∃ start : Mixer (Recorded Clip),
      Mixer.new { frameCount := 2, mainBuses := 2, outputFormat := .float } none = .ok start ∧
      ((start.run (before ++ [.setEnabled second true])).track? second).map
        (fun t => t.enabled && t.mainBus == 0) = some false ∧
      ((start.run before).track? second).map (fun t => t.enabled && t.mainBus == 0) = some false ∧
      ((start.run (before ++ [.set second (.sampleRate 24000)])).track? second).map
        (fun t => t.enabled && t.mainBus == 0) = some false ∧
      ((start.run left).mainBus? 0).map Block.singles = some [0.5, 0.25, 1, 0.5] ∧
      ((start.run left).mainBus? 1).map Block.singles = some [0.5, 0.5, 0.25, 0.25] ∧
      ((start.run right).mainBus? 1).map Block.singles = some [0, 0, 0, 0] :=
    ⟨_, rfl, by decide +kernel⟩
  have steady : ∀ f, start.factory = some f → f.Steady := by
    intro f given
    rw [(new_spec built).2.2.1] at given
    cases given
  obtain ⟨apart, same, together⟩ := sideBySide_same steady 0 before
  have switched := same.left (.setEnabled second true) second rfl (aside_of_map on)
    (aside_of_map off)
  have differ := switched.right (.set second (.sampleRate 24000)) second rfl (aside_of_map on)
    (aside_of_map retuned)
  have untouched : ∀ slot, (Action.render none : Action (Recorded Clip)).changed? = some slot →
      ¬ ((apart slot ∨ slot = second) ∨ slot = second) := by
    intro slot changed
    cases changed
  have side := differ.both (.render none) untouched (.inl steady)
  have unramped : ∀ action ∈ left ++ right, ¬ action.RampsSend := by
    intro action member
    simp only [left, right, before, List.mem_append, List.mem_cons, List.not_mem_nil, or_false]
      at member
    rcases member with (((rfl | rfl | rfl | rfl | rfl | rfl) | rfl) | rfl) |
      (((rfl | rfl | rfl | rfl | rfl | rfl) | rfl) | rfl) <;> exact id
  have kept : ¬ ((apart first ∨ first = second) ∨ first = second) := by
    rintro ((far | same) | same)
    · exact together first far
    · exact absurd same (by decide)
    · exact absurd same (by decide)
  obtain ⟨bus, tracks⟩ := run_separate built side unramped
  have unaffected := tracks first fun far => kept far.1
  exact ⟨start, _, built, side, unramped, fun far => kept far.1, bus, unaffected.2, main, other,
    silent⟩

/-- Where the factory creates a single downmix, a provider of six channels that is attached to a
disabled track of the second main bus takes it away from the enabled track of the first main bus,
which is silent then. -/
theorem attach_takes_downmix :
    let first : Slot := ⟨0, by decide⟩
    let second : Slot := ⟨1, by decide⟩
    let clip := Clip.ofSamples 6 (.float (Array.replicate 12 0.5)) true
    let before : List (Action Clip) :=
      [.allocate .fivePointOne .float 0, .allocate .fivePointOne .float 1, .set second (.mainBus 1)]
    let after : List (Action Clip) :=
      [.attach first (some clip), .setEnabled first true, .render none]
    let alone := before ++ after
    let both := before ++ .attach second (some clip) :: after
    ∃ start, Mixer.new { frameCount := 2, mainBuses := 2, outputFormat := .float }
        (some (.exhaustedAfter 1)) = .ok start ∧
      (∀ action ∈ alone ++ both, ¬ action.RampsSend) ∧
      (∀ n < 8, (start.run (alone.take n)).isEnabled second = false ∧
        (start.run (both.take n)).isEnabled second = false) ∧
      (start.run both).mainBus? 0 ≠ (start.run alone).mainBus? 0 := by
  intro first second clip before after alone both
  have unramped : ∀ action ∈ alone ++ both, ¬ action.RampsSend := by
    intro action member
    simp only [alone, both, before, after, List.mem_append, List.mem_cons, List.not_mem_nil,
      or_false] at member
    rcases member with ((rfl | rfl | rfl) | rfl | rfl | rfl) |
      (rfl | rfl | rfl) | rfl | rfl | rfl | rfl <;> exact id
  obtain ⟨start, built, disabled, silent, heard⟩ : ∃ start : Mixer Clip,
      Mixer.new { frameCount := 2, mainBuses := 2, outputFormat := .float }
        (some (.exhaustedAfter 1)) = .ok start ∧
      (∀ n < 8, (start.run (alone.take n)).isEnabled second = false ∧
        (start.run (both.take n)).isEnabled second = false) ∧
      ((start.run both).mainBus? 0).map Block.singles = some [0, 0, 0, 0] ∧
      ((start.run alone).mainBus? 0).map Block.singles ≠ some [0, 0, 0, 0] :=
    ⟨_, rfl, by decide +kernel⟩
  refine ⟨start, built, unramped, disabled, ?_⟩
  intro same
  rw [same] at silent
  exact heard silent

end Mixer

end Mixdown
