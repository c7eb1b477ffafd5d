import Mathlib.Data.List.Forall2
import Mixdown.Proofs.Mixer.ReferenceMix

/-!
# What a plan can tell of the tracks

A plan is made from the enabled tracks and from the formats of the main buses. `ofTracks_cases` says
which strategy comes out, and `makePlan_congr` that mixers whose enabled tracks look the same to a
plan have the same plan.
-/

namespace Mixdown

variable {σ : Type}

theorem Task.heard_of_direct {task : Task} {input : MixFormat}
    (direct : task.kernel = .direct input) : task.heard = true := by
  simp [heard, direct]

/-- A plan cannot tell the second track from the first. -/
structure Track.PlansAs {τ : Type} (t : Track σ) (t' : Track τ) : Prop where
  chain : t'.chain.isSome = t.chain.isSome
  mixInput : t'.mixInput = t.mixInput
  mainBus : t'.mainBus = t.mainBus
  busFormat : t'.busFormat = t.busFormat
  demands : t'.demands = t.demands

/-- Tracks in the same slots, each of which is to the other as `r` says. -/
def Slotwise {τ : Type} (r : Track σ → Track τ → Prop) (a : Slot × Track σ) (b : Slot × Track τ) :
    Prop := b.1 = a.1 ∧ r a.2 b.2

theorem rel_imp {α β : Type} {q r : α → β → Prop} {o : Option α} {o' : Option β}
    (rel : Option.Rel q o o') (imp : ∀ a b, o = some a → o' = some b → q a b → r a b) :
    Option.Rel r o o' := by
  cases rel with
  | none => exact .none
  | some here => exact .some (imp _ _ rfl rfl here)

theorem exists_of_forall₂ {α β : Type} {r : α → β → Prop} {as : List α} {bs : List β}
    (related : List.Forall₂ r as bs) {b : β} (listed : b ∈ bs) : ∃ a ∈ as, r a b := by
  induction related with
  | nil => nomatch listed
  | @cons a _ _ _ here _ ih =>
    cases listed with
    | head => exact ⟨a, List.mem_cons_self, here⟩
    | tail _ later =>
      obtain ⟨a', member, there⟩ := ih later
      exact ⟨a', List.mem_cons_of_mem _ member, there⟩

section Congr

variable {τ : Type} {enabled : List (Slot × Track σ)} {enabled' : List (Slot × Track τ)}

theorem Track.PlansAs.ofTrack {t : Track σ} {t' : Track τ} (same : t.PlansAs t') (slot : Slot) :
    Task.ofTrack slot t' = Task.ofTrack slot t := by
  have chain : t'.chain.isNone = t.chain.isNone := by
    rw [← Option.not_isSome, ← Option.not_isSome, same.chain]
  simp only [Task.ofTrack, chain, same.mixInput, same.demands]

theorem Track.PlansAs.strategy {t : Track σ} {t' : Track τ} (same : t.PlansAs t') (slot : Slot) :
    Strategy.ofTrack slot t' = Strategy.ofTrack slot t := by
  have complex : Strategy.isComplex t' = Strategy.isComplex t := by
    simp only [Strategy.isComplex, same.demands]
  simp only [Strategy.ofTrack, same.ofTrack, complex, same.busFormat]

theorem map_ofTrack_congr (same : List.Forall₂ (Slotwise Track.PlansAs) enabled enabled') :
    (enabled'.map fun (slot, t) => Task.ofTrack slot t) =
      enabled.map fun (slot, t) => Task.ofTrack slot t := by
  induction same with
  | nil => rfl
  | @cons a b _ _ here _ ih =>
    simp only [List.map_cons, ih, here.1, here.2.ofTrack]

/-- The plan for tracks depends on what a plan can tell of them only. -/
theorem Strategy.ofTracks_congr (same : List.Forall₂ (Slotwise Track.PlansAs) enabled enabled') :
    Strategy.ofTracks enabled' = Strategy.ofTracks enabled := by
  unfold Strategy.ofTracks
  rw [map_ofTrack_congr same]
  cases same with
  | nil => rfl
  | @cons a b _ _ here rest =>
    cases rest with
    | nil => simp only [here.1, here.2.strategy]
    | cons _ _ => rfl

theorem Plan.busFormat_congr {r : Track σ → Track τ → Prop}
    (routes : ∀ t t', r t t' → t'.mainBus = t.mainBus ∧ t'.busFormat = t.busFormat)
    (same : List.Forall₂ (Slotwise r) enabled enabled') (bus : Nat) (current : MixFormat) :
    Plan.busFormat enabled' bus current = Plan.busFormat enabled bus current := by
  unfold Plan.busFormat
  induction same with
  | nil => rfl
  | @cons a b _ _ here _ ih =>
    obtain ⟨slot, t⟩ := a
    obtain ⟨slot', t'⟩ := b
    obtain ⟨mainBus, busFormat⟩ := routes t t' here.2
    simp only [List.find?_cons, mainBus]
    cases t.mainBus == bus with
    | true => exact busFormat
    | false => exact ih

end Congr

namespace Strategy

/-- A single track that is written straight to its bus has no moving gain and no send. -/
theorem ofTrack_fused {slot : Slot} {t : Track σ} {channels : Channels}
    {input output : MixFormat} (fused : ofTrack slot t = .fused slot channels input output) :
    (Task.ofTrack slot t).kernel = .direct input ∧ t.demands.ramp = false ∧
      t.demands.aux = false := by
  unfold ofTrack at fused
  simp only at fused
  split at fused
  · rename_i direct
    split at fused
    · nomatch fused
    · rename_i plain
      simp only [isComplex, Bool.not_eq_true, Bool.or_eq_false_iff] at plain
      obtain ⟨-, -, rfl, -⟩ := Strategy.fused.inj fused
      exact ⟨direct, plain.1.2, plain.2⟩
  · nomatch fused

/-- What the strategy for tracks is. A single track whose frames are mixed as they come is mixed in
general only when a gain is moving or something is sent. -/
theorem ofTracks_cases (enabled : List (Slot × Track σ)) :
    ((∀ entry ∈ enabled, (Task.ofTrack entry.1 entry.2).heard = false) ∧
      ofTracks enabled = .silent) ∨
    (∃ slot t channels input output, enabled = [(slot, t)] ∧
      ofTrack slot t = .fused slot channels input output ∧
      ofTracks enabled = .fused slot channels input output) ∨
    ((∃ entry ∈ enabled, (Task.ofTrack entry.1 entry.2).heard = true) ∧
      ofTracks enabled = .general (enabled.map fun (slot, t) => Task.ofTrack slot t) ∧
      ∀ slot t input, enabled = [(slot, t)] → (Task.ofTrack slot t).kernel = .direct input →
        (t.demands.ramp || t.demands.aux) = true) := by
  unfold ofTracks
  simp only
  split
  · rename_i idle
    refine .inl ⟨?_, rfl⟩
    simpa [Task.heard] using idle
  · rename_i heard
    have heard : ∃ entry ∈ enabled, (Task.ofTrack entry.1 entry.2).heard = true := by
      simpa [Task.heard] using heard
    split
    · rename_i slot t _
      unfold ofTrack
      simp only
      split
      · rename_i input direct
        have resample : t.demands.resample = false :=
          ((Task.ofTrack_fits slot t).direct input direct).2.1
        split
        · rename_i complex
          refine .inr (.inr ⟨heard, rfl, ?_⟩)
          rintro _ _ _ ⟨⟩ -
          simpa [isComplex, resample] using complex
        · rename_i plain
          refine .inr (.inl ⟨slot, t, _, input, _, rfl, ?_, rfl⟩)
          simp only [direct]
          rw [if_neg plain]
      · rename_i other
        refine .inr (.inr ⟨heard, rfl, ?_⟩)
        rintro _ _ input ⟨⟩ direct
        exact absurd direct (other input)
    · rename_i several
      refine .inr (.inr ⟨heard, rfl, ?_⟩)
      rintro slot t _ single -
      exact absurd single (several slot t)

end Strategy

/-- A bus that was given its format keeps it. -/
theorem Plan.busFormat_idem (enabled : List (Slot × Track σ)) (bus : Nat) (current : MixFormat) :
    busFormat enabled bus (busFormat enabled bus current) = busFormat enabled bus current := by
  unfold busFormat
  cases enabled.find? fun (_, t) => t.mainBus == bus with
  | none => rfl
  | some entry => rfl

/-- The track with its provider replaced by `f` of it. -/
def Track.mapSource {τ : Type} (f : σ → τ) (t : Track σ) : Track τ :=
  { session := t.session
    mask := t.mask
    format := t.format
    downmix := t.downmix
    mixInput := t.mixInput
    busFormat := t.busFormat
    sampleRate := t.sampleRate
    mainBus := t.mainBus
    auxBus := t.auxBus
    enabled := t.enabled
    volume := t.volume
    resampler := t.resampler
    chain := t.chain.map (Chain.mapSource f) }

/-- The mixer with every provider replaced by `f` of it. -/
def Mixer.mapSources {τ : Type} (f : σ → τ) (m : Mixer σ) : Mixer τ :=
  { settings := m.settings
    factory := m.factory
    attempts := m.attempts
    tracks := m.tracks.map fun track => track.map (Track.mapSource f)
    plan := m.plan
    mainBuses := m.mainBuses
    auxBuses := m.auxBuses
    underruns := m.underruns }

namespace Mixer

/-- The track of a slot, if it is enabled. -/
def enabledTrack? (m : Mixer σ) (slot : Slot) : Option (Track σ) :=
  (m.track? slot).filter (·.enabled)

theorem enabledTracks_eq_filterMap (m : Mixer σ) :
    m.enabledTracks = Slot.all.filterMap fun slot => (m.enabledTrack? slot).map (slot, ·) := by
  unfold enabledTracks occupied enabledTrack?
  rw [List.filter_filterMap]
  congr
  funext slot
  cases m.track? slot with
  | none => rfl
  | some t => by_cases enabled : t.enabled = true <;> simp [Option.filter, enabled]

/-- Mixers whose enabled tracks are related slot by slot have related lists of them. -/
theorem forall₂_enabledTracks {τ : Type} {m : Mixer σ} {m' : Mixer τ}
    {r : Track σ → Track τ → Prop}
    (related : ∀ slot, Option.Rel r (m.enabledTrack? slot) (m'.enabledTrack? slot)) :
    List.Forall₂ (Slotwise r) m.enabledTracks m'.enabledTracks := by
  rw [enabledTracks_eq_filterMap, enabledTracks_eq_filterMap]
  induction Slot.all with
  | nil => exact .nil
  | cons slot rest ih =>
    rw [List.filterMap_cons, List.filterMap_cons]
    have here := related slot
    generalize m.enabledTrack? slot = before, m'.enabledTrack? slot = after at here
    cases here with
    | none => exact ih
    | some same => exact .cons ⟨rfl, same⟩ ih

theorem rel_filter_enabled {τ : Type} {r : Track σ → Track τ → Prop} {before : Option (Track σ)}
    {after : Option (Track τ)} (related : Option.Rel (fun t t' => t'.enabled = t.enabled ∧
      (t.enabled = true → r t t')) before after) :
    Option.Rel r (before.filter (·.enabled)) (after.filter (·.enabled)) := by
  cases related with
  | none => exact .none
  | @some t t' same =>
    by_cases enabled : t.enabled = true
    · simp only [Option.filter, enabled, same.1, if_true]
      exact .some (same.2 enabled)
    · simp only [Option.filter, enabled, same.1]
      exact .none

/-- Tracks that plan alike give the same plan on main buses of the same formats. -/
theorem makePlan_congr {τ : Type} {m : Mixer σ} {m' : Mixer τ}
    (same : List.Forall₂ (Slotwise Track.PlansAs) m.enabledTracks m'.enabledTracks)
    (buses : m'.mainBuses.map Block.format = m.mainBuses.map Block.format) :
    m'.makePlan = m.makePlan := by
  have formats : Plan.busFormat m'.enabledTracks = Plan.busFormat m.enabledTracks := by
    funext bus current
    exact Plan.busFormat_congr (fun _ _ plans => ⟨plans.mainBus, plans.busFormat⟩) same bus current
  unfold makePlan Plan.ofTracks
  rw [Strategy.ofTracks_congr same, buses, formats]

theorem track?_mapSources {τ : Type} (f : σ → τ) (m : Mixer σ) (slot : Slot) :
    (m.mapSources f).track? slot = (m.track? slot).map (Track.mapSource f) :=
  Vector.getElem_map ..

/-- A plan cannot tell the mapped mixer from the other one. -/
theorem makePlan_mapSources {τ : Type} (f : σ → τ) (m : Mixer σ) :
    (m.mapSources f).makePlan = m.makePlan := by
  refine makePlan_congr (forall₂_enabledTracks fun slot => rel_filter_enabled ?_) rfl
  rw [track?_mapSources]
  cases m.track? slot with
  | none => exact .none
  | some t =>
    refine .some ⟨rfl, fun _ => ?_⟩
    exact ⟨Option.isSome_map, rfl, rfl, rfl, rfl⟩

/-- Recording the calls to the providers makes no difference to the plan. -/
theorem makePlan_recorded (m : Mixer σ) : m.recorded.makePlan = m.makePlan :=
  makePlan_mapSources Recorded.fresh m

end Mixer

end Mixdown
