import Mathlib.Logic.Function.Basic
import Mixdown.Proofs.Mixer.ProviderCalls
import Mixdown.Proofs.Mixer.Refusals
import Mixdown.Proofs.Mixer.Upkeep

/-!
# The providers in the slots

What each call does to the providers that the slots hold. A provider is put into a slot, taken out
of it, or called in a block; a call that configures the mixer, or fails, leaves all of them where
they are, but for one. A track is left without its provider where a write passes its checks and its
chain cannot be built anew. With factories that create what they support that is the choice of
another downmix for a provider that declares other frames by now (`drops`).
-/

namespace Mixdown

variable {σ : Type}

/-- A factory that creates every downmix that it supports. -/
def DownmixFactory.Dependable (f : DownmixFactory) : Prop := ∀ attempt, f.succeeds attempt = true

theorem DownmixFactory.dependable_standard : standard.Dependable := fun _ => rfl

/-- A call that configures the mixer or a track: it neither attaches a provider nor detaches or
frees one, and it mixes no block. -/
def Action.Configures : Action σ → Prop
  | .allocate _ _ _ | .setEnabled _ _ | .set _ _ => True
  | .free _ | .attach _ _ | .outside _ _ | .render _ => False

namespace Provider

variable [Provider σ]

/-- What a call leaves of a provider. -/
def answered (s : σ) : Call → σ
  | .request asked pts _ => (request s asked pts).2
  | .release frames => release s frames

/-- What calls leave of a provider, one after the other. -/
def replay (s : σ) (calls : List Call) : σ := calls.foldl answered s

theorem replay_snoc (s : σ) (calls : List Call) (call : Call) :
    replay s (calls ++ [call]) = answered (replay s calls) call := by
  unfold replay
  rw [List.foldl_append]
  rfl

end Provider

section

variable [Provider σ]

/-- A recorded provider is what the calls on record leave of the one that was recorded. -/
theorem Recorded.replay_moves {s : σ} {r : Recorded σ}
    (moves : Provider.Moves (Recorded.fresh s) r) : r.source = Provider.replay s r.calls := by
  refine moves.keeps (P := fun r => r.source = Provider.replay s r.calls) ?_ ?_ rfl
  · intro r frames pts here
    show (Provider.request r.source frames pts).2 = Provider.replay s (r.calls ++ [.request ..])
    rw [Provider.replay_snoc, ← here]
    rfl
  · intro r frames here
    show Provider.release r.source frames = Provider.replay s (r.calls ++ [.release frames])
    rw [Provider.replay_snoc, ← here]
    rfl

theorem Track.Moved.source? {t t' : Track σ} (moved : Track.Moved t t') :
    Option.Rel Provider.Moves t.source? t'.source? := by
  have chains := moved.chain
  unfold Track.source?
  generalize t.chain = before, t'.chain = after at chains
  cases chains with
  | none => exact .none
  | some moves => exact .some (Chain.moves_source moves)

end

namespace Mixer

theorem source?_mapSources {τ : Type} (f : σ → τ) (m : Mixer σ) (slot : Slot) :
    (m.mapSources f).source? slot = (m.source? slot).map f := by
  unfold source?
  rw [track?_mapSources]
  cases m.track? slot with
  | none => rfl
  | some t =>
    show (t.chain.map (Chain.mapSource f)).map Chain.source = (t.chain.map Chain.source).map f
    simp only [Option.map_map, Function.comp_def, Chain.source_mapSource]

/-- What the slots hold when one is written. -/
theorem sources_setTrack (m : Mixer σ) (slot : Slot) (t : Option (Track σ)) :
    (m.setTrack slot t).source? = Function.update m.source? slot (t.bind Track.source?) := by
  funext other
  unfold source?
  by_cases here : other = slot
  · subst here
    rw [track?_setTrack_self, Function.update_self]
  · rw [track?_setTrack_ne m t here, Function.update_of_ne here]

theorem sources_mapSource (m : Mixer σ) (slot : Slot) (change : σ → σ) :
    (m.mapSource slot change).source? =
      Function.update m.source? slot ((m.source? slot).map change) := by
  unfold mapSource
  cases found : m.track? slot with
  | none =>
    have absent : m.source? slot = none := by simp [source?, found]
    rw [absent, Option.map_none, ← absent, Function.update_eq_self]
  | some t =>
    have here : m.source? slot = t.chain.map Chain.source := by simp [source?, found, Track.source?]
    simp only [sources_setTrack, here, Option.bind_some, Track.source?, Option.map_map,
      Function.comp_def, Chain.source_mapSource]

/-- A slot is freed and hands its provider back, or the call fails and changes no provider. -/
theorem free_cases (m : Mixer σ) (slot : Slot) :
    ((m.free slot).1 = .ok (m.source? slot) ∧
      (m.free slot).2.source? = Function.update m.source? slot none) ∨
    (∃ why, (m.free slot).1 = .error why) ∧ (m.free slot).2.source? = m.source? := by
  unfold free withTrack
  cases found : m.track? slot with
  | none => exact .inr ⟨⟨_, rfl⟩, rfl⟩
  | some t =>
    refine .inl ⟨?_, sources_setTrack m slot none⟩
    simp [source?, found]

variable [Provider σ]

/-- A provider is attached, or none is, and the one before it is handed back; or the call fails and
changes no provider. -/
theorem attach_cases (m : Mixer σ) (slot : Slot) (source : Option σ) :
    ((m.attach slot source).1 = .ok (m.source? slot) ∧
      (m.attach slot source).2.source? = Function.update m.source? slot source) ∨
    (∃ why, (m.attach slot source).1 = .error why) ∧
      (m.attach slot source).2.source? = m.source? := by
  unfold attach withTrack
  cases found : m.track? slot with
  | none => exact .inr ⟨⟨_, rfl⟩, rfl⟩
  | some t =>
    have here : m.source? slot = t.source? := by simp [source?, found]
    cases source with
    | none => exact .inl ⟨congrArg _ here.symm, sources_setTrack m slot _⟩
    | some source =>
      obtain ⟨⟨attempts, counted⟩, built⟩ :=
        m.buildChain_spec source (t.layout m.settings.frameCount) t.downmix
      simp only
      rcases result : m.buildChain source (t.layout m.settings.frameCount) t.downmix with
        ⟨why | chain, m'⟩
      · rw [result] at counted
        obtain rfl : m' = { m with attempts } := counted
        exact .inr ⟨⟨_, rfl⟩, rfl⟩
      · rw [result] at counted built
        obtain rfl : m' = { m with attempts } := counted
        refine .inl ⟨congrArg _ here.symm, (sources_setTrack m slot _).trans ?_⟩
        show Function.update m.source? slot (some chain.source) = _
        rw [(built chain rfl).2]

/-- A chain that is built anew is built around the provider of the track. -/
theorem source?_rebuild {m : Mixer σ} {slot : Slot} {t : Track σ}
    (rebuilt : (m.rebuild slot t).1 = .ok ()) :
    (m.rebuild slot t).2.source? slot = t.source? := by
  unfold rebuild at rebuilt ⊢
  cases fed : t.source? with
  | none =>
    simp only
    rw [source?_setTrack, fed]
  | some source =>
    obtain ⟨-, built⟩ := m.buildChain_spec source (t.layout m.settings.frameCount) t.downmix
    simp only [fed] at rebuilt ⊢
    rcases result : m.buildChain source (t.layout m.settings.frameCount) t.downmix with
      ⟨why | chain, m'⟩
    · rw [result] at rebuilt
      nomatch rebuilt
    · rw [result] at built
      simp only
      rw [source?_setTrack]
      exact congrArg some (built chain rfl).2

/-- A write that succeeds leaves a provider in its slot. -/
def WriteKeeps (slot : Slot) (source : Option σ) (answer : Except Refusal Bool × Mixer σ) : Prop :=
  ∀ changed, answer.1 = .ok changed → answer.2.source? slot = source

section WriteKeeps

variable {m : Mixer σ} {slot : Slot} {source : Option σ}

omit [Provider σ] in
theorem writeKeeps_refused (why : Refusal) : WriteKeeps slot source (.error why, m) :=
  fun _ ok => nomatch ok

omit [Provider σ] in
theorem writeKeeps_same (here : m.source? slot = source) (changed : Bool) :
    WriteKeeps slot source (.ok changed, m) := fun _ _ => here

omit [Provider σ] in
theorem writeKeeps_put {t : Track σ} (same : t.source? = source) (changed : Bool) :
    WriteKeeps slot source (.ok changed, m.setTrack slot (some t)) :=
  fun _ _ => (source?_setTrack m slot t).trans same

theorem writeKeeps_rebuilt {t : Track σ} (same : t.source? = source) :
    WriteKeeps slot source (match m.rebuild slot t with
      | (.ok (), m) => (.ok true, m)
      | (.error why, m) => (.error why, m)) := by
  have kept : (m.rebuild slot t).1 = .ok () → _ := source?_rebuild
  rcases result : m.rebuild slot t with ⟨why | _, m'⟩
  · exact writeKeeps_refused why
  · rw [result] at kept
    exact writeKeeps_same ((kept rfl).trans same) true

end WriteKeeps

/-- Whatever setting is written to a track, its provider stays where the write succeeds. -/
theorem writeKeeps_write {m : Mixer σ} {slot : Slot} {t : Track σ} (found : m.track? slot = some t)
    (setting : TrackSetting) : WriteKeeps slot t.source? (m.write slot t setting) := by
  have here : m.source? slot = t.source? := by simp [source?, found]
  cases setting with
  | mask mask =>
    simp only [write]
    cases m.maskRefusal? mask t.downmix with
    | some why => exact writeKeeps_refused why
    | none =>
      by_cases same : t.mask = mask
      · rw [if_pos same]
        exact writeKeeps_same here false
      · rw [if_neg same]
        cases misfitAfter? t mask t.format with
        | some why => exact writeKeeps_refused why
        | none =>
          obtain ⟨resampler, written⟩ := withMask_eq m.settings t mask
          refine writeKeeps_rebuilt ?_
          rw [written]
          rfl
  | format format =>
    simp only [write]
    by_cases same : t.format = format
    · rw [if_pos same]
      exact writeKeeps_same here false
    · rw [if_neg same]
      cases misfitAfter? t t.mask format with
      | some why => exact writeKeeps_refused why
      | none => exact writeKeeps_rebuilt rfl
  | downmix mode =>
    simp only [write]
    by_cases same : t.downmix = mode
    · rw [if_pos same]
      exact writeKeeps_same here false
    · rw [if_neg same]
      cases m.maskRefusal? t.mask mode with
      | some why => exact writeKeeps_refused why
      | none =>
        by_cases many : maxMixChannels < t.mask.channelCount
        · simp only [many, if_true]
          exact writeKeeps_rebuilt rfl
        · simp only [many]
          exact writeKeeps_put rfl true
  | mainBus bus =>
    simp only [write]
    split
    · exact writeKeeps_put rfl _
    · exact writeKeeps_refused _
  | auxBus bus =>
    cases bus with
    | none => exact writeKeeps_put rfl _
    | some bus =>
      simp only [write]
      split
      · exact writeKeeps_put rfl _
      · exact writeKeeps_refused _
  | busFormat format => exact writeKeeps_put rfl _
  | sampleRate rate =>
    simp only [write]
    split
    · exact writeKeeps_refused _
    · split
      · exact writeKeeps_same here _
      · exact writeKeeps_put rfl _
  | restart => exact writeKeeps_put rfl _
  | mixRate => exact writeKeeps_put rfl _
  | gain name value ramped =>
    simp only [write]
    cases clampTrackGain? value with
    | none => exact writeKeeps_refused _
    | some gain => exact writeKeeps_put rfl _

/-- A provider fits a layout if it declares the channels and the format that the layout expects. -/
theorem misfit?_eq_none_iff {layout : ChainLayout} {source : σ} : misfit? layout source = none ↔
    Provider.channels source = layout.mask.channelCount ∧
      Provider.format source = layout.format := by
  unfold misfit?
  simp [ChainLayout.fits]

/-- A provider that declares what a layout expects fits it. -/
theorem misfit?_eq_none {layout : ChainLayout} {source : σ}
    (channels : Provider.channels source = layout.mask.channelCount)
    (format : Provider.format source = layout.format) : misfit? layout source = none :=
  misfit?_eq_none_iff.mpr ⟨channels, format⟩

/-- The write of a setting to the track of a slot drops the provider of the track: another downmix
is chosen for more than two channels, the mixer accepts it, and the provider no longer declares the
channels and the format of the track. -/
def drops (m : Mixer σ) (slot : Slot) : TrackSetting → Bool
  | .downmix mode => (m.track? slot).any fun t =>
      decide (t.downmix ≠ mode) && (m.maskRefusal? t.mask mode).isNone &&
        decide (2 < t.mask.channelCount) &&
        t.source?.any fun source => decide (¬ (Provider.channels source = t.mask.channelCount ∧
          Provider.format source = t.format))
  | _ => false

theorem drops_downmix {m : Mixer σ} {slot : Slot} {mode : DownmixMode} :
    m.drops slot (.downmix mode) = true ↔ ∃ t source, m.track? slot = some t ∧
      t.source? = some source ∧ Admitted m t (.downmix mode) { t with downmix := mode } ∧
      misfit? (t.layout m.settings.frameCount) source ≠ none := by
  simp only [drops, Option.any_eq_true, Bool.and_eq_true, decide_eq_true_eq,
    Option.isNone_iff_eq_none, ne_eq, misfit?_eq_none_iff]
  constructor
  · rintro ⟨t, found, ⟨⟨other, accepted⟩, many⟩, source, given, misfit⟩
    exact ⟨t, source, found, given, .downmix mode other accepted many, misfit⟩
  · rintro ⟨t, source, found, given, admitted, misfit⟩
    cases admitted with
    | downmix _ other accepted many =>
      exact ⟨t, found, ⟨⟨other, accepted⟩, many⟩, source, given, misfit⟩

/-- Where the factory creates what it supports, a write is left half done only where it drops the
provider: whatever else passed the checks can be built anew. -/
theorem HalfWritten.drops {m m' : Mixer σ} {slot : Slot} {setting : TrackSetting}
    {refusal : Refusal} {t t' : Track σ} {source : σ}
    (dependable : ∀ f, m.factory = some f → f.Dependable)
    (half : HalfWritten m m' slot setting refusal t t' source) : m.drops slot setting = true := by
  obtain ⟨found, given, admitted, -, unbuildable, -⟩ := half
  cases unbuildable with
  | create _ f factory _ fails => exact absurd (dependable f factory m.attempts) (by simp [fails])
  | misfit mode why misfit =>
    cases admitted with
    | downmix _ other accepted many =>
      exact drops_downmix.mpr ⟨t, source, found, given, .downmix mode other accepted many,
        fun fits => nomatch misfit.symm.trans fits⟩

/-- A write that drops the provider of its track is refused, and all other providers stay. -/
theorem sources_set_drops {m : Mixer σ} {slot : Slot} {setting : TrackSetting}
    (dropped : m.drops slot setting = true) :
    (∃ why, (m.set slot setting).1 = .error why) ∧
      (m.set slot setting).2.source? = Function.update m.source? slot none := by
  cases setting with
  | downmix mode =>
    obtain ⟨t, source, found, given, admitted, misfit⟩ := drops_downmix.mp dropped
    cases admitted with
    | downmix _ other accepted many =>
      obtain ⟨why, misfits⟩ := Option.ne_none_iff_exists'.mp misfit
      have unbuilt : m.buildChain source (t.layout m.settings.frameCount) mode =
          (.error why, m) := by
        unfold buildChain
        rw [misfits]
      have given' : ({ t with downmix := mode } : Track σ).source? = some source := given
      have layout : ({ t with downmix := mode } : Track σ).layout m.settings.frameCount =
          t.layout m.settings.frameCount := rfl
      simp only [set, withTrack, found, write, if_neg other, accepted, many, if_true, rebuild,
        given', layout, unbuilt]
      exact ⟨⟨_, rfl⟩, sources_setTrack m slot _⟩
  | _ => exact absurd dropped Bool.false_ne_true

/-- No write drops a provider that declares what its chain was built for. -/
theorem Fed.drops {m : Mixer σ} (fed : m.Fed) (slot : Slot) (setting : TrackSetting) :
    m.drops slot setting = false := by
  rw [← Bool.not_eq_true]
  intro dropped
  cases setting with
  | downmix mode =>
    obtain ⟨t, source, found, given, -, misfit⟩ := drops_downmix.mp dropped
    obtain ⟨chain, has, rfl⟩ := Option.map_eq_some_iff.mp given
    obtain ⟨channels, format⟩ := fed slot t found chain has
    exact misfit (misfit?_eq_none channels format)
  | _ => nomatch dropped

section Kept

variable {m : Mixer σ} (wf : WellFormed m) (dependable : ∀ f, m.factory = some f → f.Dependable)

include wf dependable

/-- A setting that is written, or refused, leaves the provider of its track where it is, unless it
drops it. -/
theorem source?_set {slot : Slot} {t : Track σ} (found : m.track? slot = some t)
    {setting : TrackSetting} (kept : m.drops slot setting = false) :
    (m.set slot setting).2.source? slot = m.source? slot := by
  have here : m.source? slot = t.source? := by simp [source?, found]
  have keeps := writeKeeps_write found setting
  have refused := write_refused found (wf.sound slot t found) setting
  unfold set withTrack
  simp only [found]
  rcases result : m.write slot t setting with ⟨why | changed, m'⟩
  · rw [result] at refused
    rcases refused why rfl with same | ⟨t', source, half⟩
    · obtain rfl : m' = m := same
      rfl
    · exact absurd (half.drops dependable) (by simp [kept])
  · rw [result] at keeps
    have stays : m'.source? slot = t.source? := keeps changed rfl
    cases changed <;> exact stays.trans here.symm

/-- A call that configures a mixer, whether or not it succeeds, leaves all providers where they are,
unless it drops one. -/
theorem sources_configures {action : Action σ} (configures : action.Configures)
    (kept : ∀ slot setting, action = .set slot setting → m.drops slot setting = false) :
    (m.act action).source? = m.source? := by
  rcases wf.act_cases action with ⟨pts, rfl, -⟩ | ⟨place, t', keeps, writes, edit⟩
  · exact configures.elim
  funext slot
  by_cases elsewhere : slot ≠ place
  · unfold source?
    rw [writes.track?_ne elsewhere]
  · obtain rfl : slot = place := Classical.not_not.mp elsewhere
    generalize before : m.track? slot = t at edit
    have at_slot : (m.act action).source? slot = t'.bind Track.source? :=
      congrArg (Option.bind · Track.source?) writes.track?_self
    have at_first : m.source? slot = t.bind Track.source? :=
      congrArg (Option.bind · Track.source?) before
    cases edit with
    | same _ _ _ _ => exact at_slot.trans at_first.symm
    | allocated mask format session _ _ => exact at_slot.trans at_first.symm
    | switched t enabled => exact at_slot.trans at_first.symm
    | written t t' setting _ _ => exact source?_set wf dependable before (kept slot setting rfl)
    | freed t => exact configures.elim
    | attached t source chain _ => exact configures.elim
    | outside t change => exact configures.elim

/-- What the slots hold after a setting was written, or refused. -/
theorem sources_set (slot : Slot) (setting : TrackSetting) :
    (m.act (.set slot setting)).source? =
      if m.drops slot setting then Function.update m.source? slot none else m.source? := by
  split
  · rename_i dropped
    exact (sources_set_drops dropped).2
  · rename_i kept
    refine sources_configures wf dependable trivial fun slot' setting' same => ?_
    obtain ⟨rfl, rfl⟩ := Action.set.inj same
    exact Bool.not_eq_true _ ▸ kept

/-- A call that fails leaves all providers where they are, unless it drops one. -/
theorem sources_of_error {action : Action σ} (failed : m.error? action ≠ none)
    (kept : ∀ slot setting, action = .set slot setting → m.drops slot setting = false) :
    (m.act action).source? = m.source? := by
  cases action with
  | allocate | setEnabled | set => exact sources_configures wf dependable trivial kept
  | free slot =>
    rcases m.free_cases slot with ⟨ok, -⟩ | ⟨-, same⟩
    · exact absurd (by simp [error?, Answer.error?, ok]) failed
    · exact same
  | attach slot source =>
    rcases m.attach_cases slot source with ⟨ok, -⟩ | ⟨-, same⟩
    · exact absurd (by simp [error?, Answer.error?, ok]) failed
    · exact same
  | outside | render => exact absurd rfl failed

end Kept

/-- Recording the calls to the providers makes no difference to a block. -/
theorem render_recorded (m : Mixer σ) (pts : Option Int) :
    (m.recorded.render pts).mapSources Recorded.source = m.render pts := by
  rw [← render_map Recorded.hom_source, show m.recorded = m.mapSources Recorded.fresh from rfl,
    mapSources_cancel fun _ => rfl]

/-- The calls that the provider of a slot gets in a block. -/
def blockCalls (m : Mixer σ) (pts : Option Int) (slot : Slot) : List Call :=
  ((m.recorded.render pts).calls? slot).getD []

/-- After a block, a slot holds the provider that it held before, as the calls of the block leave
it. -/
theorem WellFormed.source?_render {m : Mixer σ} (wf : WellFormed m) (pts : Option Int)
    (slot : Slot) : (m.render pts).source? slot =
      (m.source? slot).map fun s => Provider.replay s (m.blockCalls pts slot) := by
  have formats : m.recorded.currentPlan.formats.length = m.recorded.mainBuses.length := by
    rw [show m.recorded.currentPlan = m.currentPlan from currentPlan_mapSources Recorded.fresh m]
    exact wf.length_formats
  have moved : Option.Rel Provider.Moves (m.recorded.source? slot)
      ((m.recorded.render pts).source? slot) := by
    have tracks := (rendered_renderBy m.recorded m.recorded.currentPlan pts formats).tracks slot
    unfold source? render
    rw [show ({ m.recorded with plan := some m.recorded.currentPlan } : Mixer _).track? slot =
      m.recorded.track? slot from rfl] at tracks
    generalize m.recorded.track? slot = before,
      (m.recorded.renderBy m.recorded.currentPlan pts).track? slot = after at tracks
    cases tracks with
    | none => exact .none
    | some moved => exact moved.source?
  rw [show m.recorded.source? slot = (m.source? slot).map Recorded.fresh from
    source?_mapSources Recorded.fresh m slot] at moved
  rw [← m.render_recorded pts, source?_mapSources]
  unfold blockCalls calls?
  generalize m.source? slot = before, (m.recorded.render pts).source? slot = after at moved
  cases before with
  | none =>
    cases moved with
    | none => rfl
  | some s =>
    cases moved with
    | some moves => exact congrArg some (Recorded.replay_moves moves)

end Mixer

end Mixdown
