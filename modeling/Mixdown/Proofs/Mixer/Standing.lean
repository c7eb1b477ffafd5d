import Mathlib.Data.List.Induction
import Mixdown.Proofs.Mixer.WellFormed

/-!
# Plans that are kept

A plan is made from the enabled tracks and then kept. Calls and blocks may change the tracks
under it, but not what it relies on: `Plan.Stands` lists that.
-/

namespace Mixdown

variable {σ : Type}

/-- Two tracks that look alike to a kernel. -/
structure Track.Alike (t t' : Track σ) : Prop where
  enabled : t'.enabled = t.enabled
  mainBus : t'.mainBus = t.mainBus
  mixInput : t'.mixInput = t.mixInput
  mixChannelCount : t'.mixChannelCount = t.mixChannelCount
  chain : t'.chain.isSome = t.chain.isSome
  resampler : t'.resampler.isSome = t.resampler.isSome

namespace Task

/-- A task can be run with a track: the kernel finds what it reads. -/
structure Fits (task : Task) (t : Track σ) : Prop where
  channels : task.channels = .ofCount t.mixChannelCount
  direct : ∀ input, task.kernel = .direct input →
    t.chain.isSome = true ∧ t.resampler.isSome = false ∧ input = t.mixInput
  resampled : task.kernel = .resampled → t.chain.isSome = true ∧ t.resampler.isSome = true

theorem Fits.alike {task : Task} {t t' : Track σ} (fits : task.Fits t) (alike : t.Alike t') :
    task.Fits t' := by
  refine ⟨?_, ?_, ?_⟩
  · rw [alike.mixChannelCount]
    exact fits.channels
  · intro input direct
    rw [alike.chain, alike.resampler, alike.mixInput]
    exact fits.direct input direct
  · intro resampled
    rw [alike.chain, alike.resampler]
    exact fits.resampled resampled

theorem kernel_ofTrack (slot : Slot) (t : Track σ) :
    (ofTrack slot t).kernel =
      if t.chain.isNone || t.demands.mute then .idle
      else if t.resampler.isSome then .resampled
      else .direct t.mixInput := rfl

/-- The task that a plan has for a track fits it. -/
theorem ofTrack_fits (slot : Slot) (t : Track σ) : (ofTrack slot t).Fits t := by
  have kernel := kernel_ofTrack slot t
  by_cases unheard : (t.chain.isNone || t.demands.mute) = true
  · rw [if_pos unheard] at kernel
    refine ⟨rfl, ?_, ?_⟩
    · intro input direct
      rw [kernel] at direct
      nomatch direct
    · intro resampled
      rw [kernel] at resampled
      nomatch resampled
  · rw [if_neg unheard] at kernel
    have fed : t.chain.isSome = true := by
      cases given : t.chain with
      | none => simp [given] at unheard
      | some c => rfl
    by_cases resamples : t.resampler.isSome = true
    · rw [if_pos resamples] at kernel
      refine ⟨rfl, ?_, fun _ => ⟨fed, resamples⟩⟩
      intro input direct
      rw [kernel] at direct
      nomatch direct
    · rw [if_neg resamples] at kernel
      refine ⟨rfl, ?_, ?_⟩
      · intro input direct
        rw [kernel] at direct
        exact ⟨fed, by simpa using resamples, (Kernel.direct.inj direct).symm⟩
      · intro resampled
        rw [kernel] at resampled
        nomatch resampled

/-- The task of a track without a rate, a moving gain or a send of its own. -/
theorem ofTrack_plain {slot : Slot} {t : Track σ} {input : MixFormat}
    (direct : (ofTrack slot t).kernel = .direct input) (plain : Strategy.isComplex t = false) :
    ofTrack slot t = ⟨slot, (ofTrack slot t).channels, .direct input, false, false⟩ := by
  simp only [Strategy.isComplex, Bool.or_eq_false_iff] at plain
  have aux : (ofTrack slot t).aux = false := plain.2
  have ramp : (ofTrack slot t).ramp = false := plain.1.2
  have shape : ofTrack slot t = ⟨slot, (ofTrack slot t).channels, (ofTrack slot t).kernel,
      (ofTrack slot t).aux, (ofTrack slot t).ramp⟩ := rfl
  exact shape.trans (by rw [direct, aux, ramp])

theorem ofTrack_alike {slot : Slot} {t t' : Track σ} (alike : t.Alike t')
    (demands : t'.demands = t.demands) : ofTrack slot t' = ofTrack slot t := by
  have chain : t'.chain.isNone = t.chain.isNone := by
    rw [← Option.not_isSome, ← Option.not_isSome, alike.chain]
  simp only [ofTrack, demands, alike.mixInput, chain]

end Task

/-- What a strategy relies on in the tracks of a mixer, where the main buses are written in
`formats`. -/
inductive Strategy.Stands (m : Mixer σ) (formats : List MixFormat) : Strategy → Prop
  | silent : Stands m formats .silent
  | fused (slot : Slot) (channels : Channels) (input output : MixFormat) (t : Track σ) :
      Slot.all.filter m.isEnabled = [slot] → m.track? slot = some t →
      Task.ofTrack slot t = ⟨slot, channels, .direct input, false, false⟩ →
      formats[t.mainBus]? = some output → Stands m formats (.fused slot channels input output)
  | general (tasks : List Task) : tasks.map Task.slot = Slot.all.filter m.isEnabled →
      (∀ task ∈ tasks, ∀ t, m.track? task.slot = some t → task.Fits t) →
      Stands m formats (.general tasks)

/-- No two tasks of a mix share a slot. -/
theorem Strategy.Stands.nodup_slots {m : Mixer σ} {formats : List MixFormat} {tasks : List Task}
    (stands : Strategy.Stands m formats (.general tasks)) : (tasks.map Task.slot).Nodup := by
  cases stands with
  | general _ slots _ =>
    rw [slots]
    exact Slot.nodup_all.filter _

/-- What a plan relies on. -/
def Plan.Stands (m : Mixer σ) (p : Plan) : Prop := p.strategy.Stands m p.formats

namespace Mixer

/-- The plan that is kept can still be used. -/
def Standing (m : Mixer σ) : Prop := ∀ p, m.plan = some p → p.Stands m

/-- Every slot holds what it held before as far as a kernel can see. -/
def Alike (m m' : Mixer σ) : Prop :=
  ∀ slot t, (m.track? slot = some t → t.enabled = true →
      ∃ t', m'.track? slot = some t' ∧ t.Alike t') ∧
    (m'.track? slot = some t → t.enabled = true → ∃ t', m.track? slot = some t' ∧ t'.Alike t)

theorem Alike.isEnabled {m m' : Mixer σ} (alike : m.Alike m') : m'.isEnabled = m.isEnabled := by
  funext slot
  rw [Bool.eq_iff_iff, isEnabled_eq_true, isEnabled_eq_true]
  constructor
  · rintro ⟨t, found, enabled⟩
    obtain ⟨t', found', same⟩ := (alike slot t).2 found enabled
    exact ⟨t', found', same.enabled ▸ enabled⟩
  · rintro ⟨t, found, enabled⟩
    obtain ⟨t', found', same⟩ := (alike slot t).1 found enabled
    exact ⟨t', found', same.enabled ▸ enabled⟩

/-- The tasks of a mix still fit when every track looks alike. -/
theorem stands_general {m m' : Mixer σ} (alike : m.Alike m') {formats : List MixFormat}
    {tasks : List Task} (stands : Strategy.Stands m formats (.general tasks)) :
    Strategy.Stands m' formats (.general tasks) := by
  cases stands with
  | general _ slots fits =>
    refine .general tasks (by rw [alike.isEnabled]; exact slots) ?_
    intro task member t' found
    have listed : task.slot ∈ Slot.all.filter m.isEnabled :=
      slots ▸ List.mem_map_of_mem member
    have enabled := (List.mem_filter.mp listed).2
    rw [← alike.isEnabled, isEnabled_eq_true] at enabled
    obtain ⟨u, found', enabled⟩ := enabled
    rw [found] at found'
    obtain rfl := Option.some.inj found'
    obtain ⟨t, had, same⟩ := (alike task.slot t').2 found enabled
    exact (fits task member t had).alike same

/-- Any plan still stands when every track looks alike and asks for the same. -/
theorem stands_of_alike {m m' : Mixer σ} (alike : m.Alike m')
    (demands : ∀ slot t t', m.track? slot = some t → m'.track? slot = some t' →
      t.enabled = true → t'.demands = t.demands)
    {p : Plan} (stands : p.Stands m) : p.Stands m' := by
  unfold Plan.Stands at stands ⊢
  cases stands' : p.strategy with
  | silent => exact .silent
  | general tasks =>
    rw [stands'] at stands
    exact stands_general alike stands
  | fused slot channels input output =>
    rw [stands'] at stands
    cases stands with
    | fused _ _ _ _ t only found task format =>
      have enabled : m.isEnabled slot = true := by
        have listed : slot ∈ Slot.all.filter m.isEnabled := by rw [only]; simp
        exact (List.mem_filter.mp listed).2
      obtain ⟨u, found', enabled⟩ := isEnabled_eq_true.mp enabled
      rw [found] at found'
      obtain rfl := Option.some.inj found'
      obtain ⟨t', there, same⟩ := (alike slot t).1 found enabled
      refine .fused slot channels input output t' (by rw [alike.isEnabled]; exact only) there ?_ ?_
      · rw [Task.ofTrack_alike same (demands slot t t' found there enabled)]
        exact task
      · rw [same.mainBus]
        exact format

/-- The tasks made for the enabled tracks stand. -/
theorem stands_tasks (m : Mixer σ) (formats : List MixFormat) :
    Strategy.Stands m formats
      (.general (m.enabledTracks.map fun (slot, t) => .ofTrack slot t)) := by
  refine .general _ ?_ ?_
  · rw [List.map_map, ← map_fst_enabledTracks]
    rfl
  · intro task member t found
    obtain ⟨⟨slot, u⟩, listed, rfl⟩ := List.mem_map.mp member
    have had := (mem_enabledTracks.mp listed).1
    obtain rfl : u = t := Option.some.inj (had.symm.trans found)
    exact Task.ofTrack_fits slot u

/-- A new plan stands, where every track is routed to a bus that exists. -/
theorem stands_makePlan (m : Mixer σ)
    (buses : ∀ slot t, m.track? slot = some t → t.mainBus < m.mainBuses.length) :
    m.makePlan.Stands m := by
  unfold Plan.Stands
  have general := m.stands_tasks m.makePlan.formats
  have strategy : m.makePlan.strategy = .ofTracks m.enabledTracks := rfl
  rw [strategy]
  unfold Strategy.ofTracks
  simp only
  split
  · exact .silent
  · split
    · rename_i slot t single
      have found := (mem_enabledTracks.mp (show (slot, t) ∈ m.enabledTracks by rw [single]; simp)).1
      rw [single] at general
      unfold Strategy.ofTrack
      simp only
      split
      · rename_i input direct
        split
        · exact general
        · rename_i plain
          have only : Slot.all.filter m.isEnabled = [slot] := by
            rw [← map_fst_enabledTracks, single]
            rfl
          refine .fused slot _ input _ t only found
            (Task.ofTrack_plain direct (by simpa using plain)) ?_
          · have inside := buses slot t found
            simp only [makePlan, Plan.ofTracks, List.getElem?_mapIdx, List.getElem?_map,
              List.getElem?_eq_getElem inside, Option.map_some, single, Plan.busFormat]
            simp
      · exact general
    · exact general

theorem stands_currentPlan {m : Mixer σ} (wf : WellFormed m) (standing : m.Standing) :
    m.currentPlan.Stands m := by
  unfold currentPlan
  cases kept : m.plan with
  | none =>
    apply stands_makePlan
    intro slot t found
    rw [wf.mainBuses]
    exact (wf.sound slot t found).mainBus
  | some p => exact standing p kept

variable [Provider σ]

theorem alike_of_moved {t t' : Track σ} (moved : t.Moved t') : t.Alike t' :=
  ⟨moved.enabled_eq, moved.mainBus_eq, moved.mixInput_eq,
    by unfold Track.mixChannelCount; rw [moved.mask_eq], moved.isSome_chain,
    moved.isSome_resampler⟩

theorem Rendered.alike {m m' : Mixer σ} (rendered : Rendered m m') : m.Alike m' := by
  intro slot t
  have moved := rendered.tracks slot
  revert moved
  generalize m.track? slot = before, m'.track? slot = after
  intro moved
  cases moved with
  | none => exact ⟨nofun, nofun⟩
  | some moved =>
    refine ⟨?_, ?_⟩
    · rintro ⟨⟩ _
      exact ⟨_, rfl, alike_of_moved moved⟩
    · rintro ⟨⟩ _
      exact ⟨_, rfl, alike_of_moved moved⟩

/-- A call that keeps the plan leaves an enabled track alike and its demands as they were. -/
theorem Written.alike {m : Mixer σ} {t t' : Track σ} {setting : TrackSetting} {keeps : Bool}
    (written : Written m t setting t' keeps) (kept : keeps = true) :
    t.Alike t' ∧ t'.demands = t.demands := by
  cases written with
  | same _ _ _ => exact ⟨⟨rfl, rfl, rfl, rfl, rfl, rfl⟩, rfl⟩
  | restart =>
    have resampler : (t.resampler.map Resampler.reset).isSome = t.resampler.isSome :=
      Option.isSome_map
    exact ⟨⟨rfl, rfl, rfl, rfl, rfl, resampler⟩, by simp [Track.demands, Track.mixChannelCount]⟩
  | mixRate =>
    have none_left : t.resampler = none := Option.isNone_iff_eq_none.mp kept
    refine ⟨⟨rfl, rfl, rfl, rfl, rfl, by rw [none_left]⟩, ?_⟩
    simp [Track.demands, Track.mixChannelCount, none_left]
  | gain _ _ _ _ _ _ _ demands => exact ⟨⟨rfl, rfl, rfl, rfl, rfl, rfl⟩, demands kept⟩
  | mask _ _ _ _ => nomatch kept
  | format _ _ _ => nomatch kept
  | mainBus _ _ => nomatch kept
  | auxBus _ _ => nomatch kept
  | downmix _ _ _ _ _ => nomatch kept
  | busFormat _ => nomatch kept
  | sampleRate _ _ _ _ => nomatch kept

/-- The enabled tracks of a slot before and after a call that keeps the plan. -/
theorem Edit.alike {m : Mixer σ} {slot : Slot} {action : Action σ}
    {before after : Option (Track σ)} (edit : Edit m slot action before after true) :
    (∀ t, before = some t → t.enabled = true →
      ∃ t', after = some t' ∧ t.Alike t' ∧ t'.demands = t.demands) ∧
    (∀ t', after = some t' → t'.enabled = true → ∃ t, before = some t ∧ t.Alike t') := by
  cases edit with
  | same _ _ _ _ =>
    exact ⟨fun t found _ => ⟨t, found, ⟨rfl, rfl, rfl, rfl, rfl, rfl⟩, rfl⟩,
      fun t found _ => ⟨t, found, rfl, rfl, rfl, rfl, rfl, rfl⟩⟩
  | allocated mask format session _ _ =>
    refine ⟨?_, ?_⟩
    · intro t found
      nomatch found
    · intro t' found enabled
      rw [← Option.some.inj found] at enabled
      exact absurd enabled Bool.false_ne_true
  | outside t change =>
    have alike : t.Alike { t with chain := t.chain.map (Chain.mapSource change) } :=
      ⟨rfl, rfl, rfl, rfl, Option.isSome_map, rfl⟩
    refine ⟨?_, ?_⟩
    · rintro _ ⟨⟩ _
      exact ⟨_, rfl, alike, rfl⟩
    · rintro _ ⟨⟩ _
      exact ⟨_, rfl, alike⟩
  | written t t' setting _ written =>
    obtain ⟨alike, demands⟩ := written.alike rfl
    refine ⟨?_, ?_⟩
    · rintro _ ⟨⟩ _
      exact ⟨_, rfl, alike, demands⟩
    · rintro _ ⟨⟩ _
      exact ⟨_, rfl, alike⟩

/-- A call that keeps the plan leaves every track alike. -/
theorem Writes.alike {m m' : Mixer σ} {action : Action σ} {slot : Slot}
    {after : Option (Track σ)} (writes : Writes m m' slot after true)
    (edit : Edit m slot action (m.track? slot) after true) : m.Alike m' := by
  obtain ⟨forth, back⟩ := edit.alike
  intro other t
  by_cases here : other = slot
  · subst here
    rw [writes.track?_self]
    refine ⟨fun found enabled => ?_, back t⟩
    obtain ⟨t', found', alike, -⟩ := forth t found enabled
    exact ⟨t', found', alike⟩
  · rw [writes.track?_ne here]
    exact ⟨fun found _ => ⟨t, found, rfl, rfl, rfl, rfl, rfl, rfl⟩,
      fun found _ => ⟨t, found, rfl, rfl, rfl, rfl, rfl, rfl⟩⟩

theorem Standing.edit {m m' : Mixer σ} (standing : m.Standing) {action : Action σ} {slot : Slot}
    {after : Option (Track σ)} {keeps : Bool}
    (edit : Edit m slot action (m.track? slot) after keeps)
    (writes : Writes m m' slot after keeps) : m'.Standing := by
  intro p kept
  rw [writes.plan] at kept
  cases keeps with
  | false => nomatch kept
  | true =>
    obtain ⟨forth, -⟩ := edit.alike
    refine stands_of_alike (writes.alike edit) ?_ (standing p kept)
    intro other t t' had found enabled
    by_cases here : other = slot
    · subst here
      obtain ⟨u, found', -, demands⟩ := forth t had enabled
      rw [writes.track?_self] at found
      rw [found] at found'
      exact Option.some.inj found' ▸ demands
    · rw [writes.track?_ne here] at found
      rw [had] at found
      rw [Option.some.inj found]

/-- A block of a single track changes nothing but its chain. -/
theorem track?_renderFused (m : Mixer σ) (slot : Slot) (channels : Channels)
    (input output : MixFormat) (plan : Plan) (pts : Option Int) {other : Slot} {t t' : Track σ}
    (had : m.track? other = some t)
    (found : (({ m with plan := some plan } : Mixer σ).renderFused slot channels input output
      plan.formats pts).track? other = some t') :
    ∃ chain, t' = { t with chain } := by
  unfold renderFused at found
  cases here : ({ m with plan := some plan } : Mixer σ).track? slot with
  | none =>
    rw [here] at found
    exact ⟨t.chain, Option.some.inj (found.symm.trans had)⟩
  | some u =>
    rw [here] at found
    by_cases same : other = slot
    · subst same
      obtain rfl : u = t := Option.some.inj (here.symm.trans had)
      obtain ⟨chain, read⟩ := u.read_snd input channels m.settings.frameCount
        m.settings.sampleRate pts
      refine ⟨chain, ?_⟩
      rw [← read]
      exact (Option.some.inj ((track?_setTrack_self _ _ _).symm.trans found)).symm
    · exact ⟨t.chain, Option.some.inj
        (found.symm.trans ((track?_setTrack_ne _ _ same).trans had))⟩

/-- A block leaves its plan standing, unless it drops it. -/
theorem standing_renderBy {m : Mixer σ} {plan : Plan} (stands : plan.Stands m) (pts : Option Int)
    (formats : plan.formats.length = m.mainBuses.length) : (m.renderBy plan pts).Standing := by
  intro p kept
  have rendered := rendered_renderBy m plan pts formats
  have same : plan = p := by
    rcases rendered.plan with same | dropped
    · rw [same] at kept
      exact Option.some.inj kept
    · rw [dropped] at kept
      nomatch kept
  subst same
  have alike : m.Alike (m.renderBy plan pts) := rendered.alike
  cases strategy : plan.strategy with
  | silent =>
    unfold Plan.Stands
    rw [strategy]
    exact .silent
  | general tasks =>
    unfold Plan.Stands at stands ⊢
    rw [strategy] at stands ⊢
    exact stands_general alike stands
  | fused slot channels input output =>
    -- one track is read, and nothing but its chain is changed
    refine stands_of_alike alike ?_ stands
    intro other t t' had found enabled
    obtain ⟨chain, changed⟩ := m.track?_renderFused slot channels input output plan pts had
      (by simpa only [renderBy, strategy] using found)
    rw [changed]
    rfl

/-- The plan is kept in step with the tracks by whatever is done to a mixer. -/
theorem Standing.act {m : Mixer σ} (wf : WellFormed m) (standing : m.Standing)
    (action : Action σ) : (m.act action).Standing := by
  rcases wf.act_cases action with ⟨pts, rfl, -⟩ | ⟨slot, t, keeps, writes, edit⟩
  · exact standing_renderBy (stands_currentPlan wf standing) pts wf.length_formats
  · exact standing.edit edit writes

/-- One step drops the plan, or leaves the plan for the next block and what is enabled. -/
theorem currentPlan_act {m : Mixer σ} (wf : WellFormed m) (action : Action σ) :
    (m.act action).plan = none ∨
      (m.act action).currentPlan = m.currentPlan ∧ (m.act action).isEnabled = m.isEnabled := by
  rcases wf.act_cases action with ⟨pts, rfl, rendered⟩ | ⟨slot, t, keeps, writes, edit⟩
  · rcases rendered.plan with kept | dropped
    · refine .inr ⟨?_, rendered.alike.isEnabled⟩
      unfold currentPlan at kept ⊢
      rw [kept]
      rfl
    · exact .inl dropped
  · have plan := writes.plan
    cases keeps with
    | false => exact .inl plan
    | true =>
      cases kept : m.plan with
      | none => exact .inl (plan.trans kept)
      | some p =>
        refine .inr ⟨?_, (writes.alike edit).isEnabled⟩
        have same : (m.act action).plan = m.plan := plan
        unfold currentPlan
        rw [same, kept]
        rfl

/-- The plan for the next block was made at some point of the run, and what is enabled did not
change since. -/
theorem currentPlan_run {m : Mixer σ} (wf : WellFormed m) (unplanned : m.plan = none)
    (actions : List (Action σ)) :
    ∃ earlier later, actions = earlier ++ later ∧
      (m.run actions).currentPlan = (m.run earlier).makePlan ∧
      (m.run actions).isEnabled = (m.run earlier).isEnabled := by
  induction actions using List.reverseRecOn with
  | nil => exact ⟨[], [], rfl, by simp [run, currentPlan, unplanned], rfl⟩
  | append_singleton before action ih =>
    rw [run_snoc]
    rcases currentPlan_act (wf.run before) action with dropped | ⟨same, enabled⟩
    · refine ⟨before ++ [action], [], by simp, ?_, by rw [run_snoc]⟩
      rw [run_snoc]
      unfold currentPlan
      rw [dropped]
      rfl
    · obtain ⟨earlier, later, rfl, made, enabled'⟩ := ih
      exact ⟨earlier, later ++ [action], by simp, same.trans made, enabled.trans enabled'⟩

theorem Reachable.standing {m : Mixer σ} (reachable : Reachable m) : m.Standing := by
  induction reachable with
  | new built =>
    intro p kept
    rw [(new_spec built).2.2.2.1] at kept
    nomatch kept
  | act action before ih => exact ih.act before.wellFormed action

end Mixer

end Mixdown
