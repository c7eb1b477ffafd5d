import Mixdown.Proofs.Mixer.Planning
import Mixdown.Proofs.Mixer.Tasks

/-!
# Plans that follow the tracks

A plan is kept while blocks go by, and what the tracks ask for may lapse in the meantime: a send
that has moved to zero, or gains that have. `Plan.Follows` says what a kept plan still has in common
with the tracks, and `Plan.Upheld` when nothing has lapsed: then, and only then, the kept plan is
the one that would be made anew.
-/

namespace Mixdown

variable {σ : Type}

/-- What a track asked for once, and what it asks for now that blocks have gone by: the send may
have come to rest at zero, and the track may have fallen silent. -/
structure Demands.Aged (d d' : Demands) : Prop where
  channels : d'.channels = d.channels
  resample : d'.resample = d.resample
  ramp : d'.ramp = d.ramp
  aux : d'.aux = true → d.aux = true
  mute : d.mute = true → d'.mute = true
  rest : d.ramp = false → d' = d

namespace Demands

theorem Aged.refl (d : Demands) : Aged d d := ⟨rfl, rfl, rfl, id, id, fun _ => rfl⟩

theorem Aged.trans {d d' d'' : Demands} (first : Aged d d') (second : Aged d' d'') :
    Aged d d'' := by
  refine ⟨second.channels.trans first.channels, second.resample.trans first.resample,
    second.ramp.trans first.ramp, first.aux ∘ second.aux, second.mute ∘ first.mute, ?_⟩
  intro rest
  obtain rfl := first.rest rest
  exact second.rest rest

/-- Demands have aged without a difference when nothing has lapsed. -/
theorem Aged.eq_of_upheld {d d' : Demands} (aged : Aged d d') (aux : d.aux = true → d'.aux = true)
    (mute : d'.mute = true → d.mute = true) : d = d' := by
  obtain ⟨channels, resample, ramp, aux', mute', -⟩ := aged
  obtain ⟨c, r, a, m, p⟩ := d
  obtain ⟨c', r', a', m', p'⟩ := d'
  simp only at channels resample ramp aux aux' mute mute'
  subst channels resample ramp
  obtain rfl : a = a' := Bool.eq_iff_iff.mpr ⟨aux, aux'⟩
  obtain rfl : m = m' := Bool.eq_iff_iff.mpr ⟨mute', mute⟩
  rfl

end Demands

/-- A track before and after calls and blocks that left the plan. -/
structure Track.Ages (t t' : Track σ) : Prop where
  alike : t.Alike t'
  busFormat : t'.busFormat = t.busFormat
  demands : t.demands.Aged t'.demands

/-- Blocks age a track whose gains are moving as before. While its send is at rest, they change
nothing in what the track asks for. -/
theorem Track.demands_advanced {t t' : Track σ} (channels : t'.mixChannelCount = t.mixChannelCount)
    (resampler : t'.resampler.isSome = t.resampler.isSome) (auxBus : t'.auxBus = t.auxBus)
    (advances : t.volume.Advances t'.volume) (ramp : t'.volume.isMoving = t.volume.isMoving) :
    t.demands.Aged t'.demands ∧ (t.volume.aux.isMoving = false → t'.demands = t.demands) := by
  have resample : t'.demands.resample = t.demands.resample := resampler
  have channels : t'.demands.channels = t.demands.channels := congrArg Channels.ofCount channels
  have aux : t'.demands.aux = true → t.demands.aux = true := by
    simp only [demands, auxBus, Bool.and_eq_true]
    rintro ⟨bus, sends⟩
    exact ⟨bus, advances.sendsAux sends⟩
  have mute : t.demands.mute = true → t'.demands.mute = true := by
    intro silent
    have unsent : t.demands.aux = false → t'.demands.aux = false := by
      intro unsent
      exact Bool.eq_false_iff.mpr fun sent => Bool.eq_false_iff.mp unsent (aux sent)
    simp only [demands] at silent unsent ⊢
    simp only [Bool.and_eq_true, Bool.not_eq_true'] at silent ⊢
    exact ⟨⟨resampler.trans silent.1.1, unsent silent.1.2⟩, advances.isSilent silent.2⟩
  have still : t.demands.ramp = false → t'.demands = t.demands := by
    intro rest
    have same := advances.eq_of_rest rest
    simp only [demands, same, resampler, auxBus, mixChannelCount] at channels ⊢
    rw [channels]
  refine ⟨⟨channels, resample, ramp, aux, mute, still⟩, ?_⟩
  intro rest
  cases moving : t.volume.isMoving with
  | false => exact still moving
  | true =>
    -- the moving gain is one of the channels, so the track can be heard before and after
    have after := ramp.trans moving
    have rest' : t'.volume.aux.isMoving = false := by rw [advances.aux rest, rest]
    have audible : ∀ v : Volume, v.isMoving = true → v.aux.isMoving = false →
        v.isSilent = false := by
      intro v moving rest
      simp only [Volume.isMoving, rest, Bool.or_false] at moving
      unfold Volume.isSilent
      cases left : v.left.isMoving <;> cases right : v.right.isMoving <;> simp_all
    simp only [demands, auxBus, Volume.sendsAux, advances.aux rest, audible _ moving rest,
      audible _ after rest', moving, after, resampler, Bool.and_false] at channels ⊢
    rw [channels]

namespace Track.Ages

variable {t t' : Track σ}

theorem isNone_chain (ages : t.Ages t') : t'.chain.isNone = t.chain.isNone := by
  rw [← Option.not_isSome, ← Option.not_isSome, ages.alike.chain]

theorem unmuted (ages : t.Ages t') (audible : t'.demands.mute = false) :
    t.demands.mute = false := by
  cases silent : t.demands.mute with
  | false => rfl
  | true => nomatch (ages.demands.mute silent).symm.trans audible

end Track.Ages

namespace Task

/-- The task of a track that asked for `d`. -/
def made (slot : Slot) (d : Demands) (t : Track σ) : Task :=
  { slot
    channels := d.channels
    kernel :=
      if t.chain.isNone || d.mute then .idle
      else if d.resample then .resampled
      else .direct t.mixInput
    aux := d.aux
    ramp := d.ramp }

theorem ofTrack_eq_made (slot : Slot) (t : Track σ) : ofTrack slot t = made slot t.demands t := rfl

/-- The task was made for the track, which has aged since. -/
def Follows (task : Task) (t : Track σ) : Prop :=
  ∃ d, d.Aged t.demands ∧ task = made task.slot d t

theorem ofTrack_follows (slot : Slot) (t : Track σ) : (ofTrack slot t).Follows t :=
  ⟨t.demands, .refl _, rfl⟩

theorem Follows.ages {task : Task} {t t' : Track σ} (follows : task.Follows t) (ages : t.Ages t') :
    task.Follows t' := by
  obtain ⟨d, aged, same⟩ := follows
  refine ⟨d, aged.trans ages.demands, ?_⟩
  unfold made at same ⊢
  rw [ages.isNone_chain, ages.alike.mixInput]
  exact same

theorem heard_made {slot : Slot} {d : Demands} {t : Track σ} :
    (made slot d t).heard = true ↔ t.chain.isNone = false ∧ d.mute = false := by
  unfold heard made
  cases t.chain.isNone <;> cases d.mute <;> cases d.resample <;> simp

theorem heard_ofTrack {slot : Slot} {t : Track σ} :
    (ofTrack slot t).heard = true ↔ t.chain.isNone = false ∧ t.demands.mute = false :=
  heard_made

/-- Nothing that the task relies on has lapsed: what is sent is still sent, and what is heard can
still be heard. -/
def Upheld (task : Task) (t : Track σ) : Prop :=
  (task.aux = true → t.demands.aux = true) ∧ (task.heard = true → t.demands.mute = false)

/-- A task that follows its track is the one that would be made for it now just when nothing has
lapsed. -/
theorem Follows.eq_ofTrack_iff {task : Task} {t : Track σ} (follows : task.Follows t) :
    task = ofTrack task.slot t ↔ task.Upheld t := by
  obtain ⟨d, aged, same⟩ := follows
  constructor
  · intro now
    refine ⟨fun sent => (congrArg Task.aux now).symm.trans sent, ?_⟩
    intro heard
    rw [now, heard_ofTrack] at heard
    simpa using heard.2
  · rintro ⟨aux, mute⟩
    have sends : d.aux = true → t.demands.aux = true := fun sent => aux (by rw [same]; exact sent)
    cases unfed : t.chain.isNone with
    | true =>
      -- a task without a provider is idle, however its track has aged
      have sent : d.aux = t.demands.aux := Bool.eq_iff_iff.mpr ⟨sends, aged.aux⟩
      rw [same, ofTrack_eq_made]
      simp only [made, unfed, aged.channels, aged.ramp, sent, Bool.true_or, if_true]
    | false =>
      have unlapsed : d = t.demands := by
        refine aged.eq_of_upheld sends ?_
        intro silent
        cases audible : d.mute with
        | true => rfl
        | false =>
          have heard : task.heard = true := by
            rw [same, heard_made]
            exact ⟨unfed, audible⟩
          nomatch (mute heard).symm.trans silent
      rw [same, unlapsed]
      rfl

end Task

namespace Strategy

/-- The strategy was made for the enabled tracks, which have aged since. -/
inductive Follows : List (Slot × Track σ) → Strategy → Prop
  | silent {enabled : List (Slot × Track σ)} :
      (∀ entry ∈ enabled, (Task.ofTrack entry.1 entry.2).heard = false) → Follows enabled .silent
  | fused (slot : Slot) (channels : Channels) (input output : MixFormat) (t : Track σ) :
      ofTrack slot t = .fused slot channels input output →
      Follows [(slot, t)] (.fused slot channels input output)
  | general {enabled : List (Slot × Track σ)} (tasks : List Task) :
      List.Forall₂ (fun entry task => task.slot = entry.1 ∧ task.Follows entry.2) enabled tasks →
      (∃ task ∈ tasks, task.heard = true) →
      (∀ task input, tasks = [task] → task.kernel = .direct input →
        (task.ramp || task.aux) = true) →
      Follows enabled (.general tasks)

theorem Follows.tasks {enabled : List (Slot × Track σ)} {tasks : List Task}
    (follows : Strategy.Follows enabled (.general tasks)) :
    List.Forall₂ (fun entry task => task.slot = entry.1 ∧ task.Follows entry.2) enabled tasks := by
  cases follows with
  | general _ follows _ _ => exact follows

/-- A new strategy follows the tracks it is made for. -/
theorem follows_ofTracks (enabled : List (Slot × Track σ)) :
    (ofTracks enabled).Follows enabled := by
  rcases ofTracks_cases enabled with ⟨unheard, made⟩ |
    ⟨slot, t, channels, input, output, rfl, fused, made⟩ | ⟨⟨entry, listed, heard⟩, made, complex⟩
  · rw [made]
    exact .silent unheard
  · rw [made]
    exact .fused slot channels input output t fused
  · rw [made]
    refine .general _ ?_ ⟨_, List.mem_map_of_mem listed, heard⟩ ?_
    · rw [List.forall₂_map_right_iff]
      exact List.forall₂_same.mpr fun entry _ => ⟨rfl, Task.ofTrack_follows _ _⟩
    · intro task input single direct
      obtain ⟨⟨slot, t⟩, rfl, rfl⟩ := List.map_eq_singleton_iff.mp single
      exact complex slot t input rfl direct

/-- A strategy goes on to follow its tracks as they age. -/
theorem Follows.ages {enabled enabled' : List (Slot × Track σ)} {strategy : Strategy}
    (follows : strategy.Follows enabled)
    (ages : List.Forall₂ (Slotwise Track.Ages) enabled enabled') : strategy.Follows enabled' := by
  cases follows with
  | silent unheard =>
    refine .silent ?_
    intro entry' listed
    obtain ⟨entry, had, slot, aged⟩ := exists_of_forall₂ ages listed
    have before := unheard entry had
    rw [← Bool.not_eq_true, Task.heard_ofTrack] at before ⊢
    rw [aged.isNone_chain]
    exact fun now => before ⟨now.1, aged.unmuted now.2⟩
  | fused slot channels input output t fused =>
    rcases ages with _ | ⟨⟨rfl, aged⟩, _ | _⟩
    refine .fused _ channels input output _ ?_
    -- a track at rest does not age
    have demands := aged.demands.rest (ofTrack_fused fused).2.1
    exact (Track.PlansAs.strategy ⟨aged.alike.chain, aged.alike.mixInput, aged.alike.mainBus,
      aged.busFormat, demands⟩ _).trans fused
  | general tasks follows heard complex =>
    refine .general tasks ?_ heard complex
    clear heard complex
    induction follows generalizing enabled' with
    | nil =>
      cases ages
      exact .nil
    | cons here _ ih =>
      rcases ages with _ | ⟨aged, ages⟩
      exact .cons ⟨here.1.trans aged.1.symm, here.2.ages aged.2⟩ (ih ages)

/-- A strategy that follows its tracks is the one for them now, where nothing has lapsed. -/
theorem Follows.eq_ofTracks {enabled : List (Slot × Track σ)} {strategy : Strategy}
    (follows : strategy.Follows enabled)
    (upheld : ∀ tasks, strategy = .general tasks → ∀ entry ∈ enabled, ∀ task ∈ tasks,
      task.slot = entry.1 → task.Upheld entry.2) : strategy = ofTracks enabled := by
  have now := ofTracks_cases enabled
  cases follows with
  | silent unheard =>
    rcases now with ⟨-, made⟩ | ⟨slot, t, _, _, _, rfl, fused, -⟩ | ⟨⟨entry, listed, heard⟩, -⟩
    · exact made.symm
    · have heard := Task.heard_of_direct (ofTrack_fused fused).1
      exact absurd heard (Bool.eq_false_iff.mp (unheard (slot, t) List.mem_cons_self))
    · exact absurd heard (Bool.eq_false_iff.mp (unheard entry listed))
  | fused slot channels input output t fused =>
    obtain ⟨direct, ramp, aux⟩ := ofTrack_fused fused
    rcases now with ⟨unheard, -⟩ | ⟨_, _, _, _, _, single, fused', made⟩ | ⟨-, -, complex⟩
    · have heard := Task.heard_of_direct direct
      exact absurd heard (Bool.eq_false_iff.mp (unheard (slot, t) List.mem_cons_self))
    · obtain ⟨rfl, rfl⟩ := Prod.mk.inj (List.singleton_inj.mp single)
      rw [made, ← fused', fused]
    · have moving := complex slot t input rfl direct
      simp [ramp, aux] at moving
  | general tasks follows heard complex =>
    have same : tasks = enabled.map fun entry => Task.ofTrack entry.1 entry.2 := by
      rw [List.forall₂_iff_zip] at follows
      have each : List.Forall₂ (fun entry task => Task.ofTrack entry.1 entry.2 = task) enabled
          tasks := by
        rw [List.forall₂_iff_zip]
        refine ⟨follows.1, fun {entry task} paired => ?_⟩
        obtain ⟨slot, here⟩ := follows.2 paired
        obtain ⟨listed, member⟩ := List.of_mem_zip paired
        rw [← slot]
        exact (here.eq_ofTrack_iff.mpr (upheld tasks rfl entry listed task member slot)).symm
      rw [← List.forall₂_map_left_iff (f := fun entry : Slot × Track σ =>
        Task.ofTrack entry.1 entry.2), List.forall₂_eq_eq_eq] at each
      exact each.symm
    obtain ⟨task, member, heard⟩ := heard
    rcases now with ⟨unheard, -⟩ | ⟨slot, t, _, input, _, rfl, fused, -⟩ | ⟨-, made, -⟩
    · rw [same] at member
      obtain ⟨entry, listed, rfl⟩ := List.mem_map.mp member
      exact absurd heard (Bool.eq_false_iff.mp (unheard entry listed))
    · obtain ⟨direct, ramp, aux⟩ := ofTrack_fused fused
      have moving := complex (Task.ofTrack slot t) input same direct
      have ramp : (Task.ofTrack slot t).ramp = false := ramp
      have aux : (Task.ofTrack slot t).aux = false := aux
      simp [ramp, aux] at moving
    · rw [made, same]

end Strategy

namespace Plan

/-- The plan was made for the tracks of a mixer, which have aged since. -/
structure Follows (m : Mixer σ) (p : Plan) : Prop where
  strategy : p.strategy.Follows m.enabledTracks
  formats : p.formats = m.makePlan.formats

/-- Nothing that the tasks of the plan rely on has lapsed. -/
def Upheld (m : Mixer σ) (p : Plan) : Prop :=
  ∀ tasks, p.strategy = .general tasks → ∀ task ∈ tasks, ∀ t, m.track? task.slot = some t →
    task.Upheld t

theorem follows_makePlan (m : Mixer σ) : m.makePlan.Follows m :=
  ⟨Strategy.follows_ofTracks m.enabledTracks, rfl⟩

/-- A plan that is made anew has nothing that could have lapsed. -/
theorem upheld_makePlan (m : Mixer σ) : m.makePlan.Upheld m := by
  intro tasks general task member t found
  have strategy : Strategy.ofTracks m.enabledTracks = .general tasks := general
  rcases Strategy.ofTracks_cases m.enabledTracks with ⟨-, made⟩ | ⟨_, _, _, _, _, -, -, made⟩ |
    ⟨-, made, -⟩
  · nomatch made.symm.trans strategy
  · nomatch made.symm.trans strategy
  · obtain rfl := Strategy.general.inj (made.symm.trans strategy)
    obtain ⟨⟨slot, u⟩, listed, rfl⟩ := List.mem_map.mp member
    obtain rfl : u = t := Option.some.inj ((Mixer.mem_enabledTracks.mp listed).1.symm.trans found)
    exact (Task.ofTrack_follows slot u).eq_ofTrack_iff.mp rfl

/-- A plan that follows the tracks is the one that would be made anew just when nothing has
lapsed. -/
theorem Follows.eq_makePlan_iff {m : Mixer σ} {p : Plan} (follows : p.Follows m) :
    p = m.makePlan ↔ p.Upheld m := by
  constructor
  · rintro rfl
    exact upheld_makePlan m
  · intro upheld
    have strategy : p.strategy = .ofTracks m.enabledTracks :=
      follows.strategy.eq_ofTracks fun tasks general entry listed task member slot =>
        upheld tasks general task member entry.2
          (slot ▸ (Mixer.mem_enabledTracks.mp (show (entry.1, entry.2) ∈ _ from listed)).1)
    have both : p = ⟨p.strategy, p.formats⟩ := rfl
    rw [both, strategy, follows.formats]
    rfl

end Plan

namespace Plan

/-- A plan goes on to follow the tracks as they age, while the main buses keep the formats that they
had or have those of the plan. -/
theorem Follows.ages {m m' : Mixer σ} {p : Plan} (follows : p.Follows m)
    (ages : List.Forall₂ (Slotwise Track.Ages) m.enabledTracks m'.enabledTracks)
    (buses : m'.mainBuses.map Block.format = m.mainBuses.map Block.format ∨
      m'.mainBuses.map Block.format = p.formats) : p.Follows m' := by
  refine ⟨follows.strategy.ages ages, ?_⟩
  have routed : Plan.busFormat m'.enabledTracks = Plan.busFormat m.enabledTracks := by
    funext bus current
    exact busFormat_congr (fun _ _ aged => ⟨aged.alike.mainBus, aged.busFormat⟩) ages bus current
  have before : p.formats = (m.mainBuses.map Block.format).mapIdx fun bus format =>
      busFormat m.enabledTracks bus format := follows.formats
  show p.formats = (m'.mainBuses.map Block.format).mapIdx fun bus format =>
      busFormat m'.enabledTracks bus format
  rw [routed]
  rcases buses with same | same
  · rw [same, before]
  · rw [same, before]
    apply List.ext_getElem?
    intro bus
    simp only [List.getElem?_mapIdx, Option.map_map, Function.comp_def, busFormat_idem]

end Plan

namespace Mixer

/-- The plan that is kept follows the tracks. -/
def Following (m : Mixer σ) : Prop := ∀ p, m.plan = some p → p.Follows m

variable [Provider σ]

theorem Written.busFormat_eq {m : Mixer σ} {t t' : Track σ} {setting : TrackSetting} {keeps : Bool}
    (written : Written m t setting t' keeps) (kept : keeps = true) :
    t'.busFormat = t.busFormat := by
  cases written with
  | busFormat _ => nomatch kept
  | mask _ _ _ _ => nomatch kept
  | sampleRate _ _ _ _ => nomatch kept
  | same _ _ _ => rfl
  | format _ _ _ => rfl
  | mainBus _ _ => rfl
  | auxBus _ _ => rfl
  | downmix _ _ _ _ _ => rfl
  | restart => rfl
  | mixRate => rfl
  | gain _ _ _ _ _ _ _ _ => rfl

/-- A call that keeps the plan leaves what a plan can tell of the enabled tracks. -/
theorem Edit.plansAs {m : Mixer σ} {slot : Slot} {action : Action σ}
    {before after : Option (Track σ)} (edit : Edit m slot action before after true) :
    Option.Rel (fun t t' => t.Alike t' ∧ t.PlansAs t') (before.filter (·.enabled))
      (after.filter (·.enabled)) := by
  cases edit with
  | same _ _ _ _ =>
    exact rel_refl (fun t => ⟨⟨rfl, rfl, rfl, rfl, rfl, rfl⟩, ⟨rfl, rfl, rfl, rfl, rfl⟩⟩) _
  | allocated _ _ _ _ _ => exact .none
  | outside t change =>
    refine rel_filter_enabled (.some ⟨rfl, fun _ => ?_⟩)
    exact ⟨⟨rfl, rfl, rfl, rfl, Option.isSome_map, rfl⟩, ⟨Option.isSome_map, rfl, rfl, rfl, rfl⟩⟩
  | written t t' setting _ written =>
    obtain ⟨alike, demands⟩ := written.alike rfl
    refine rel_filter_enabled (.some ⟨alike.enabled, fun _ => ⟨alike, ?_⟩⟩)
    exact ⟨alike.chain, alike.mixInput, alike.mainBus, written.busFormat_eq rfl, demands⟩

theorem Writes.plansAs {m m' : Mixer σ} {slot : Slot} {action : Action σ}
    {after : Option (Track σ)} (writes : Writes m m' slot after true)
    (edit : Edit m slot action (m.track? slot) after true) :
    List.Forall₂ (Slotwise fun t t' => t.Alike t' ∧ t.PlansAs t') m.enabledTracks
      m'.enabledTracks := by
  refine forall₂_enabledTracks fun other => ?_
  unfold enabledTrack?
  by_cases here : other = slot
  · subst here
    rw [writes.track?_self]
    exact edit.plansAs
  · rw [writes.track?_ne here]
    exact rel_refl (fun t => ⟨⟨rfl, rfl, rfl, rfl, rfl, rfl⟩, ⟨rfl, rfl, rfl, rfl, rfl⟩⟩) _

/-- A plan that a call keeps goes on to follow the tracks. -/
theorem Following.edit {m m' : Mixer σ} (following : m.Following) {action : Action σ}
    {slot : Slot} {after : Option (Track σ)} {keeps : Bool}
    (edit : Edit m slot action (m.track? slot) after keeps)
    (writes : Writes m m' slot after keeps) : m'.Following := by
  intro p kept
  rw [writes.plan] at kept
  cases keeps with
  | false => nomatch kept
  | true =>
    refine (following p kept).ages ((writes.plansAs edit).imp ?_) (.inl (by rw [writes.mainBuses]))
    rintro a b ⟨slot, alike, plans⟩
    exact ⟨slot, alike, plans.busFormat, plans.demands ▸ .refl _⟩

/-- The gains of a track after a block by a plan that follows the tracks: they go on, and where the
plan is kept, those of an enabled track move as before. -/
theorem renderBy_volume {m : Mixer σ} (wf : WellFormed m) {plan : Plan} (stands : plan.Stands m)
    (follows : plan.Follows m) (pts : Option Int) {slot : Slot} {t t' : Track σ}
    (had : m.track? slot = some t) (found : (m.renderBy plan pts).track? slot = some t') :
    t.volume.Advances t'.volume ∧ ∀ p, (m.renderBy plan pts).plan = some p → t.enabled = true →
      t'.volume.isMoving = t.volume.isMoving := by
  have landed := (wf.sound slot t had).volume
  obtain ⟨u, after, visited⟩ := visited_renderBy stands pts had
  obtain rfl : u = t' := Option.some.inj (after.symm.trans found)
  have resting (same : u.volume = t.volume) : t.volume.Advances u.volume ∧ ∀ p,
      (m.renderBy plan pts).plan = some p → t.enabled = true →
        u.volume.isMoving = t.volume.isMoving := by
    rw [same]
    exact ⟨.refl _, fun _ _ _ => rfl⟩
  cases visited with
  | alone off => exact resting rfl
  | passedOver _ on => exact resting (passOver_volume ..)
  | @read channels input _ _ _ _ =>
    obtain ⟨chain, read⟩ :=
      t.read_snd input channels m.settings.frameCount m.settings.sampleRate pts
    exact resting (by rw [read])
  | @run tasks task strategy member here _ _ =>
    subst here
    obtain ⟨advances, idle⟩ := runKernel_advances m.settings task pts landed
    refine ⟨advances, ?_⟩
    intro p same enabled
    have follows := follows.strategy
    rw [strategy] at follows
    have ramp : task.ramp = t.volume.isMoving := by
      obtain ⟨entry, enabled, here, d, aged, made⟩ := exists_of_forall₂ follows.tasks member
      have same := (mem_enabledTracks.mp (show (entry.1, entry.2) ∈ _ from enabled)).1
      obtain rfl := Option.some.inj ((here ▸ same).symm.trans had)
      exact (congrArg Task.ramp made).trans aged.ramp.symm
    unfold Plan.Stands at stands
    rw [strategy] at stands
    have kept := (runTasks_tracks pts stands.nodup_slots
      (.empty m.mainBuses.length m.auxBuses.length) { m with plan := some plan }).2.2
    have plan := (kept p (by rw [renderBy, strategy] at same; exact same)).2 task member t had
    cases moving : t.volume.isMoving with
    | false => rw [advances.eq_of_rest moving, moving]
    | true =>
      cases heard : task.heard with
      | false => rw [idle heard, moving]
      | true => exact plan heard (ramp.trans moving)

/-- Blocks age the enabled tracks while the plan is kept. Those whose sends are at rest go on to ask
for the same. -/
theorem renderBy_ages {m : Mixer σ} (wf : WellFormed m) {plan p : Plan} (stands : plan.Stands m)
    (follows : plan.Follows m) (lengths : plan.formats.length = m.mainBuses.length)
    (pts : Option Int) (kept : (m.renderBy plan pts).plan = some p) :
    List.Forall₂ (Slotwise fun t t' => t.Ages t' ∧
        (t.volume.aux.isMoving = false → t'.demands = t.demands))
      m.enabledTracks (m.renderBy plan pts).enabledTracks := by
  have rendered := rendered_renderBy m plan pts lengths
  refine forall₂_enabledTracks fun slot => rel_filter_enabled ?_
  refine rel_imp (rendered.tracks slot) fun t t' had found moved => ?_
  obtain ⟨advances, ramp⟩ := renderBy_volume wf stands follows pts had found
  refine ⟨moved.enabled_eq, fun enabled => ?_⟩
  have alike := alike_of_moved moved
  obtain ⟨aged, same⟩ := Track.demands_advanced alike.mixChannelCount alike.resampler
    moved.auxBus_eq advances (ramp p kept enabled)
  exact ⟨⟨alike, by rw [moved.rest], aged⟩, same⟩

/-- A plan that a block keeps goes on to follow the tracks. -/
theorem Following.renderBy {m : Mixer σ} (wf : WellFormed m) {plan : Plan} (stands : plan.Stands m)
    (follows : plan.Follows m) (lengths : plan.formats.length = m.mainBuses.length)
    (pts : Option Int) : (m.renderBy plan pts).Following := by
  intro p kept
  have same : plan = p := by
    rcases (rendered_renderBy m plan pts lengths).plan with same | dropped
    · exact Option.some.inj (same.symm.trans kept)
    · nomatch dropped.symm.trans kept
  subst same
  refine follows.ages ((renderBy_ages wf stands follows lengths pts kept).imp ?_)
    (.inr (format_renderBy stands lengths pts))
  exact fun _ _ aged => ⟨aged.1, aged.2.1⟩

omit [Provider σ] in
theorem follows_currentPlan {m : Mixer σ} (following : m.Following) :
    m.currentPlan.Follows m := by
  unfold currentPlan
  cases kept : m.plan with
  | none => exact Plan.follows_makePlan m
  | some p => exact following p kept

/-- The plan goes on to follow the tracks, whatever is done to a mixer. -/
theorem Following.act {m : Mixer σ} (wf : WellFormed m) (standing : m.Standing)
    (following : m.Following) (action : Action σ) : (m.act action).Following := by
  rcases wf.act_cases action with ⟨pts, rfl, -⟩ | ⟨slot, t, keeps, writes, edit⟩
  · exact .renderBy wf (stands_currentPlan wf standing) (follows_currentPlan following)
      wf.length_formats pts
  · exact following.edit edit writes

theorem Reachable.following {m : Mixer σ} (reachable : Reachable m) : m.Following := by
  induction reachable with
  | new built =>
    intro p kept
    nomatch (new_spec built).2.2.2.1.symm.trans kept
  | act action before ih => exact ih.act before.wellFormed before.standing action

omit [Provider σ] in
/-- While no gain of an enabled track is moving, nothing has lapsed. -/
theorem upheld_of_rest {m : Mixer σ} {p : Plan} (follows : p.Follows m)
    (rest : ∀ slot t, m.track? slot = some t → t.enabled = true → t.volume.isMoving = false) :
    p.Upheld m := by
  intro tasks general task member t found
  have follows := follows.strategy
  rw [general] at follows
  obtain ⟨⟨slot, u⟩, listed, rfl, here⟩ := exists_of_forall₂ follows.tasks member
  obtain ⟨had, enabled⟩ := mem_enabledTracks.mp listed
  obtain rfl : u = t := Option.some.inj (had.symm.trans found)
  obtain ⟨d, aged, made⟩ := here
  have still : u.demands = d := aged.rest (aged.ramp.symm.trans (rest _ u had enabled))
  refine (Task.Follows.eq_ofTrack_iff ⟨d, aged, made⟩).mp ?_
  rw [made, ← still]
  rfl

/-- A kept plan is the one that would be made anew just when nothing that its tasks rely on has
lapsed, which is so at least while no gain is moving. Then the next block is the same by the kept
plan and by a new one, to the last call to a provider, and so is all that is done later. -/
theorem Reachable.render_kept {m : Mixer σ} (reachable : Reachable m) {p : Plan}
    (kept : m.plan = some p) :
    (p = m.makePlan ↔ p.Upheld m) ∧
    ((∀ slot t, m.track? slot = some t → t.enabled = true → t.volume.isMoving = false) →
      p.Upheld m) ∧
    (p.Upheld m → ∀ pts, m.render pts = m.invalidated.render pts ∧
      (∀ slot, (m.recorded.render pts).calls? slot =
        (m.recorded.invalidated.render pts).calls? slot) ∧
      ∀ later, m.run (.render pts :: later) = m.invalidated.run (.render pts :: later)) := by
  have follows := reachable.following p kept
  refine ⟨follows.eq_makePlan_iff, upheld_of_rest follows, ?_⟩
  intro upheld pts
  have current := follows.eq_makePlan_iff.mpr upheld
  have same : m.render pts = m.invalidated.render pts := by
    have kept : m.currentPlan = p := by
      unfold currentPlan
      rw [kept]
      rfl
    have fresh : m.invalidated.currentPlan = p := current.symm
    unfold Mixer.render
    rw [kept, fresh]
    rfl
  have recorded : m.recorded.render pts = m.recorded.invalidated.render pts := by
    have kept : m.recorded.currentPlan = p := by
      unfold currentPlan
      rw [show m.recorded.plan = some p from kept]
      rfl
    have fresh : m.recorded.invalidated.currentPlan = p :=
      m.makePlan_recorded.trans current.symm
    unfold Mixer.render
    rw [kept, fresh]
    rfl
  refine ⟨same, fun slot => by rw [recorded], fun later => ?_⟩
  show (m.render pts).run later = (m.invalidated.render pts).run later
  rw [same]

/-- A clip under a gain that has moved halfway: the plan is kept and nothing has lapsed. -/
theorem Reachable.render_kept_halfway :
    let slot : Slot := ⟨0, by decide⟩
    let p : Plan := ⟨.general [⟨slot, .mono, .direct .float, false, true⟩], [.pcm16]⟩
    ∃ m : Mixer Clip, Reachable m ∧ m.plan = some p ∧ p.Upheld m ∧
      m.render none = m.invalidated.render none := by
  intro slot p
  let clip := Clip.ofSamples 1 (.float (Array.replicate 5 0.5)) false
  obtain ⟨m, reachable, kept, made⟩ : ∃ m : Mixer Clip, Reachable m ∧
      m.plan = some p ∧ m.makePlan = p :=
    ⟨_, .run (.new (rfl : Mixer.new { frameCount := 2, rampFrames? := some 4 } none = .ok _))
      [.allocate .mono .float 0, .attach slot (some clip), .setEnabled slot true,
        .set slot (.gain .left 0 true), .render none],
      by decide +kernel, by decide +kernel⟩
  obtain ⟨fresh, -, transparent⟩ := Reachable.render_kept reachable kept
  have upheld := fresh.mp made.symm
  exact ⟨m, reachable, kept, upheld, (transparent upheld none).1⟩

/-- Both channels have moved to zero while the send, which goes nowhere, is still moving: by the
kept plan the clip runs dry within the block, and by a new one it is only kept moving. -/
theorem render_lapsed :
    let slot : Slot := ⟨0, by decide⟩
    ∃ m : Mixer Clip, Reachable m ∧ m.plan.isSome = true ∧
      (m.render none).underruns = 1 ∧ (m.invalidated.render none).underruns = 0 ∧
      ((m.render none).track? slot).map (fun t => t.volume.isMoving) = some false ∧
      ((m.invalidated.render none).track? slot).map (fun t => t.volume.isMoving) = some true := by
  intro slot
  let clip := Clip.ofSamples 1 (.float (Array.replicate 5 0.5)) false
  exact ⟨_, .run (.new (rfl : Mixer.new
      { frameCount := 2, rampFrames? := some 4, outputFormat := .float } none = .ok _))
    [.allocate .mono .float 0, .attach slot (some clip), .setEnabled slot true,
      .set slot (.gain .left 0 true), .set slot (.gain .right 0 true), .render none,
      .set slot (.gain .aux 1 true), .render none],
    by decide +kernel⟩

end Mixer

end Mixdown
