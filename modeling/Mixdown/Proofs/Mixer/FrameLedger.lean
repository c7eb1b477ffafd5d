import Mixdown.Proofs.Mixer.BusBlocks
import Mixdown.Proofs.Mixer.Following
import Mixdown.Proofs.Mixer.ProviderCalls
import Mixdown.Proofs.Resampler.Accounting

/-!
# The frames that a resampled track holds back

A resampled track lets go of frames before they are heard. A ledger counts what was released to the
provider of a slot, and how far the frames that were produced have moved the position of its
resampler, from the moment the resampler starts afresh. Whatever is done to a mixer and whatever its
providers answer, what was released is what the position has passed, in whole frames, and what the
mixer says is unreleased (`ledger_exact`).
-/

namespace Mixdown

variable {σ τ : Type} [Provider σ]

/-- No step is longer than at the highest ratio of the rates. -/
theorem phaseIncrement_le {inputRate outputRate : UInt32}
    (le : inputRate.toNat ≤ maxRateRatio * outputRate.toNat) :
    phaseIncrement inputRate outputRate ≤ maxRateRatio * phaseUnit := by
  unfold phaseIncrement
  refine Nat.div_le_of_le_mul ?_
  have bounded : inputRate.toNat ≤ max outputRate.toNat 1 * maxRateRatio := by
    rw [Nat.mul_comm]
    exact Nat.le_trans le (Nat.mul_le_mul_left _ (Nat.le_max_left _ _))
  rw [← Nat.mul_assoc]
  exact Nat.mul_le_mul_right _ bounded

namespace Track

/-- The frames that are resampled of a track in a block, and the track after them. -/
def resample (settings : Settings) (pts : Option Int) (t : Track σ) :
    List (Stereo Float32) × Track σ :=
  if t.enabled then t.readResampled (.ofCount t.mixChannelCount) settings.frameCount pts
  else ([], t)

theorem resample_map [Provider τ] {f : σ → τ} (hom : Provider.Hom f) (settings : Settings)
    (pts : Option Int) (t : Track σ) :
    (t.mapSource f).resample settings pts =
      ((t.resample settings pts).1, (t.resample settings pts).2.mapSource f) := by
  have same := t.readResampled_map hom (.ofCount t.mixChannelCount) settings.frameCount pts
  unfold resample
  rw [show (t.mapSource f).enabled = t.enabled from rfl]
  split
  · exact same
  · rfl

variable {settings : Settings} {factory : Option DownmixFactory} {t : Track σ} {r : Resampler}

omit [Provider σ] in
theorem Sound.slow (sound : t.Sound settings factory) (has : t.resampler = some r) : r.Slow := by
  have le := UInt32.le_iff_toNat_le.mp sound.rate_le
  rw [Settings.toNat_maxTrackRate, Nat.mul_comm] at le
  unfold Resampler.Slow
  rw [(sound.resampler r has).increment]
  exact phaseIncrement_le (Nat.le_trans le (Nat.min_le_left _ _))

/-- A resampled track that is fed produces its frames in a loop. -/
theorem resample_fed (sound : t.Sound settings factory) (on : t.enabled = true)
    {chain : Chain σ} (given : t.chain = some chain) (has : t.resampler = some r)
    (pts : Option Int) :
    ∃ frames r' chain', Resampler.Produces pts settings.frameCount 0 r chain frames r' chain' ∧
      (t.resample settings pts).1.length = frames.length ∧
      (t.resample settings pts).2 = { t with chain := some chain', resampler := some r' } := by
  have width := Mixer.channels_resampler sound has
  have pos : 0 < (Channels.ofCount t.mixChannelCount).count := by
    cases Channels.ofCount t.mixChannelCount <;> decide
  have produces := r.resample_produces settings.frameCount
    (settings.frameCount * (Channels.ofCount t.mixChannelCount).count) chain pts
  have samples := r.length_flatten_resample settings.frameCount
    (settings.frameCount * (Channels.ofCount t.mixChannelCount).count) chain pts
  rw [width, Nat.mul_div_cancel _ pos, Nat.min_self] at produces
  rw [width] at samples
  refine ⟨_, _, _, produces, ?_, ?_⟩
  · simp only [resample, on, if_true, readResampled, given, has]
    revert samples
    cases Channels.ofCount t.mixChannelCount with
    | mono =>
      intro samples
      rw [List.length_map, samples]
      exact Nat.mul_one _
    | stereo =>
      intro samples
      rw [length_deinterleave, samples]
      exact Nat.mul_div_cancel _ Nat.two_pos
  · simp only [resample, on, if_true, readResampled, given, has]

/-- A track that is not resampled in a block is left alone. -/
theorem resample_idle (idle : t.enabled = false ∨ t.chain = none) (pts : Option Int) :
    t.resample settings pts = ([], t) := by
  unfold resample readResampled
  rcases idle with off | unfed
  · simp [off]
  · simp [unfed]

/-- What was released in a block and what was held back before is what is held back after it and
the whole frames that the position has passed. -/
theorem account_resample (sound : t.Sound settings factory) (has : t.resampler = some r)
    (poised : r.Poised) (pts : Option Int) :
    let moved := r.fraction + (t.resample settings pts).1.length * r.increment
    let seen := (((t.mapSource Recorded.fresh).resample settings pts).2.source?).map Recorded.calls
    ∃ r', (t.resample settings pts).2.resampler = some r' ∧ r'.Poised ∧
      r'.fraction = moved % phaseUnit ∧
      Call.released (seen.getD []) + r.unreleased = r'.unreleased + moved / phaseUnit := by
  intro moved seen
  by_cases idle : t.enabled = false ∨ t.chain = none
  · have unfed : (t.mapSource Recorded.fresh).enabled = false ∨
        (t.mapSource Recorded.fresh).chain = none :=
      idle.imp id fun unfed => Option.map_eq_none_iff.mpr unfed
    have quiet : Call.released (seen.getD []) = 0 := by
      simp only [seen, resample_idle unfed]
      cases given : t.chain with
      | none => simp [mapSource, source?, given, Call.released]
      | some chain =>
        simp only [mapSource, source?, given, Option.map_some, Chain.source_mapSource]
        rfl
    have still : moved = r.fraction := by
      simp only [moved, resample_idle idle, List.length_nil, Nat.zero_mul, Nat.add_zero]
    rw [resample_idle idle, still, quiet, Nat.mod_eq_of_lt poised.fraction,
      Nat.div_eq_of_lt poised.fraction, Nat.zero_add]
    exact ⟨r, has, poised, rfl, rfl⟩
  · obtain ⟨on, fed⟩ := not_or.mp idle
    obtain ⟨chain, given⟩ := Option.ne_none_iff_exists'.mp fed
    have given' : (t.mapSource Recorded.fresh).chain = some (chain.mapSource Recorded.fresh) :=
      congrArg (Option.map (Chain.mapSource Recorded.fresh)) given
    obtain ⟨frames, r', chain', produces, length, after⟩ :=
      resample_fed (sound_mapSource Recorded.fresh sound) (eq_true_of_ne_false on) given' has pts
    obtain ⟨stays, fraction, calls, saw, account⟩ := produces.account poised (sound.slow has)
    have mapped := (t.mapSource Recorded.fresh).resample_map Recorded.hom_source settings pts
    rw [t.mapSource_cancel fun _ => rfl] at mapped
    have moved_eq : moved = r.fraction + frames.length * r.increment := by
      simp only [moved, mapped, length]
    have seen_eq : seen = some calls := by
      simp only [seen, after, source?, Option.map_some]
      rw [saw, Chain.source_mapSource]
      rfl
    rw [moved_eq, seen_eq, mapped, after]
    exact ⟨r', rfl, stays, fraction, account⟩

end Track

/-- By the plan, the track of a slot is heard, and not passed over. -/
def Plan.Hears (plan : Plan) (slot : Slot) : Prop :=
  plan.strategy ≠ .silent ∧
    ∀ tasks task, plan.strategy = .general tasks → task ∈ tasks → task.slot = slot →
      task.heard = true

namespace Mixer

variable {m : Mixer σ} {slot : Slot} {t : Track σ} {r : Resampler}

/-- The plan hears a resampled track that is enabled and fed, however long ago it was made. -/
theorem Reachable.hears (reachable : Reachable m) (found : m.track? slot = some t)
    (on : t.enabled = true) (fed : t.chain ≠ none) (has : t.resampler = some r) :
    m.currentPlan.Hears slot := by
  have follows := (follows_currentPlan reachable.following).strategy
  have enabled : (slot, t) ∈ m.enabledTracks := mem_enabledTracks.mpr ⟨found, on⟩
  have given : t.chain.isNone = false := Option.isNone_eq_false_iff.mpr
    (Option.isSome_iff_ne_none.mpr fed)
  have audible : t.demands.mute = false := by simp [Track.demands, has]
  refine ⟨?_, ?_⟩
  · intro silent
    rw [silent] at follows
    have unheard := follows.unheard _ enabled
    exact absurd (Task.heard_ofTrack.mpr ⟨given, audible⟩) (Bool.not_eq_true _ ▸ unheard)
  · intro tasks task general member here
    rw [general] at follows
    obtain ⟨⟨place, u⟩, listed, same, d, aged, made⟩ := exists_of_forall₂ follows.tasks member
    obtain rfl : place = slot := same.symm.trans here
    obtain rfl : u = t := Option.some.inj ((mem_enabledTracks.mp listed).1.symm.trans found)
    rw [made, Task.heard_made]
    refine ⟨given, ?_⟩
    cases mute : d.mute with
    | false => rfl
    | true => exact Bool.noConfusion (audible.symm.trans (aged.mute mute))

/-- A block leaves the chain and the resampler of a resampled track as producing its frames does. -/
theorem resampled_renderBy {plan : Plan} (stands : plan.Stands m)
    (found : m.track? slot = some t) (has : t.resampler = some r)
    (hears : t.enabled = true → t.chain ≠ none → plan.Hears slot) (pts : Option Int) :
    ∃ t', (m.renderBy plan pts).track? slot = some t' ∧
      t'.chain = (t.resample m.settings pts).2.chain ∧
      t'.resampler = (t.resample m.settings pts).2.resampler := by
  obtain ⟨t', after, visited⟩ := visited_renderBy stands pts found
  refine ⟨t', after, ?_⟩
  have passed (on : t.enabled = true) (unheard : ¬ plan.Hears slot) :
      (t.passOver m.settings.frameCount m.settings.sampleRate pts) = t ∧ t.chain = none := by
    have unfed : t.chain = none := by
      by_contra fed
      exact unheard (hears on fed)
    simp only [Track.passOver, unfed, and_self]
  cases visited with
  | alone off =>
    rw [t.resample_idle (.inl off)]
    exact ⟨rfl, rfl⟩
  | passedOver silent on =>
    obtain ⟨same, unfed⟩ := passed on fun heard => heard.1 silent
    rw [same, t.resample_idle (.inr unfed)]
    exact ⟨rfl, rfl⟩
  | @read channels input _ _ _ task =>
    have fits := Task.ofTrack_fits slot t
    rw [task] at fits
    have unresampled := (fits.direct input rfl).2.1
    rw [has] at unresampled
    nomatch unresampled
  | @run tasks task general member here on fits =>
    unfold runKernel
    cases kernel : task.kernel with
    | idle =>
      obtain ⟨same, unfed⟩ := passed on fun heard => by
        have heard := heard.2 tasks task general member here
        simp [Task.heard, kernel] at heard
      rw [t.resample_idle (.inr unfed)]
      simp only [same, and_self]
    | direct input =>
      have unresampled := (fits.direct input kernel).2.1
      rw [has] at unresampled
      nomatch unresampled
    | resampled =>
      simp only [Track.playResampled_eq, fits.channels, Track.resample, on, if_true, and_self]

/-- The frames that are released to the provider of a slot in a block. -/
def released (m : Mixer σ) (slot : Slot) (pts : Option Int) : Nat :=
  Call.released (((m.recorded.render pts).calls? slot).getD [])

/-- The sum of the steps of the position for the frames that are resampled of the track of a slot in
a block. -/
def moved (m : Mixer σ) (slot : Slot) (pts : Option Int) : Nat :=
  match m.track? slot with
  | some t => match t.resampler with
    | some r => (t.resample m.settings pts).1.length * r.increment
    | none => 0
  | none => 0

/-- In a block, what is released to the provider of a resampled track and what was held back before
is what is held back after it and the whole frames that the position has passed. -/
theorem Reachable.account_render (reachable : Reachable m) (found : m.track? slot = some t)
    (has : t.resampler = some r) (poised : r.Poised) (pts : Option Int) :
    ∃ t' r', (m.render pts).track? slot = some t' ∧ t'.resampler = some r' ∧ r'.Poised ∧
      r'.fraction = (r.fraction + m.moved slot pts) % phaseUnit ∧
      m.released slot pts + r.unreleased =
        r'.unreleased + (r.fraction + m.moved slot pts) / phaseUnit := by
  have sound := reachable.wellFormed.sound slot t found
  have stands := stands_currentPlan reachable.wellFormed reachable.standing
  have hears (on : t.enabled = true) (fed : t.chain ≠ none) : m.currentPlan.Hears slot :=
    reachable.hears found on fed has
  obtain ⟨t', after, -, resampler⟩ := resampled_renderBy stands found has hears pts
  have found' : m.recorded.track? slot = some (t.mapSource Recorded.fresh) := by
    refine (track?_mapSources Recorded.fresh m slot).trans ?_
    rw [found]
    rfl
  have stands' : m.currentPlan.Stands m.recorded := stands_mapSources Recorded.fresh stands
  obtain ⟨seen, after', chain, -⟩ := resampled_renderBy stands' found' has
    (fun on fed => hears on fun unfed => fed (Option.map_eq_none_iff.mpr unfed)) pts
  obtain ⟨r', has', poised', fraction, account⟩ := t.account_resample sound has poised pts
  have moved_eq : m.moved slot pts = (t.resample m.settings pts).1.length * r.increment := by
    simp only [moved, found, has]
  have calls : (m.recorded.render pts).calls? slot =
      (((t.mapSource Recorded.fresh).resample m.settings pts).2.source?).map Recorded.calls := by
    have plan : m.recorded.currentPlan = m.currentPlan := currentPlan_mapSources Recorded.fresh m
    unfold calls? source? render
    rw [plan, after']
    show (seen.chain.map Chain.source).map Recorded.calls = _
    rw [chain]
    rfl
  refine ⟨t', r', after, resampler.trans has', poised', ?_⟩
  unfold released
  rw [moved_eq, calls]
  exact ⟨fraction, account⟩

/-- What was counted of a slot since its resampler started afresh. -/
structure Ledger where
  /-- The frames that were released to the provider. -/
  released : Nat := 0
  /-- The sum of the steps of the position for the frames that were produced. -/
  moved : Nat := 0

/-- The staged frames of the slot are dropped. -/
def restarts (slot : Slot) : Action σ → Bool
  | .set place .restart => place == slot
  | _ => false

/-- An action makes the resampler of a slot, or brings it back to its start: there was none before,
or it is for another number of channels now, or the staged frames are dropped. -/
def renews (m : Mixer σ) (slot : Slot) (action : Action σ) : Bool :=
  ((m.track? slot).bind Track.resampler).isNone ||
    ((m.act action).track? slot).map Track.mixChannelCount !=
      (m.track? slot).map Track.mixChannelCount ||
    restarts slot action

/-- What something other than a block makes of the resampler of a slot. -/
inductive Refitted (m : Mixer σ) (slot : Slot) (action : Action σ) : Resampler → Prop
  | new (quality : Interpolation) (channels : Nat) (inputRate outputRate : UInt32)
      (maxFrames : Nat) : m.renews slot action = true →
      Refitted m slot action (.new quality channels inputRate outputRate maxFrames)
  | reset {t : Track σ} {r : Resampler} : m.renews slot action = true →
      m.track? slot = some t → t.resampler = some r → Refitted m slot action r.reset
  | kept {t : Track σ} {r : Resampler} : m.renews slot action = false →
      m.track? slot = some t → t.resampler = some r → Refitted m slot action r
  | retuned {t : Track σ} {r : Resampler} (rate : UInt32) : m.renews slot action = false →
      m.track? slot = some t → t.resampler = some r → Refitted m slot action (r.setInputRate rate)

section Refitted

variable {t' : Track σ} {r' : Resampler} {action : Action σ}

theorem renews_of_none (missing : (m.track? slot).bind Track.resampler = none) :
    m.renews slot action = true := by
  simp [renews, missing]

theorem renews_of_differ (found : m.track? slot = some t)
    (found' : (m.act action).track? slot = some t')
    (channels : t'.mixChannelCount ≠ t.mixChannelCount) : m.renews slot action = true := by
  simp [renews, found, found', channels]

theorem renews_of_same (found : m.track? slot = some t) (has : t.resampler = some r)
    (found' : (m.act action).track? slot = some t')
    (channels : t'.mixChannelCount = t.mixChannelCount) (other : restarts slot action = false) :
    m.renews slot action = false := by
  simp [renews, found, has, found', channels, other]

theorem track?_restart (m : Mixer σ) (slot : Slot) :
    (m.act (.set slot .restart)).track? slot =
      (m.track? slot).map fun t => { t with resampler := t.resampler.map Resampler.reset } := by
  show (m.set slot .restart).2.track? slot = _
  unfold set withTrack
  cases found : m.track? slot with
  | none => exact found
  | some t => exact track?_setTrack_self m slot _

theorem refitted_restart (found' : (m.act (.set slot .restart)).track? slot = some t')
    (has' : t'.resampler = some r') : m.Refitted slot (.set slot .restart) r' := by
  rw [track?_restart, Option.map_eq_some_iff] at found'
  obtain ⟨t, found, rfl⟩ := found'
  obtain ⟨r, has, rfl⟩ := Option.map_eq_some_iff.mp has'
  exact .reset (by simp [renews, restarts]) found has

theorem refitted_mask {settings : Settings} {mask : ChannelMask} {chain : Option (Chain σ)}
    (found : m.track? slot = some t)
    (found' : (m.act action).track? slot = some { withMask settings t mask with chain })
    (has' : (withMask settings t mask).resampler = some r')
    (other : restarts slot action = false) : m.Refitted slot action r' := by
  unfold withMask at found' has'
  simp only at found' has'
  split at has'
  · rename_i same
    rw [if_pos same] at found'
    exact .kept (renews_of_same found has' found' same other) found has'
  · rename_i differ
    rw [if_neg differ] at found'
    obtain ⟨r, has, rfl⟩ := Option.map_eq_some_iff.mp has'
    exact .new _ _ _ _ _ (renews_of_differ found found' differ)

theorem refitted_rate {settings : Settings} {rate : UInt32} (found : m.track? slot = some t)
    (found' : (m.act action).track? slot = some (withRate settings t rate))
    (has' : (withRate settings t rate).resampler = some r')
    (other : restarts slot action = false) : m.Refitted slot action r' := by
  obtain rfl := Option.some.inj has'
  cases has : t.resampler with
  | none => exact .new _ _ _ _ _ (renews_of_none (by rw [found]; exact has))
  | some r => exact .retuned rate (renews_of_same found has found' rfl other) found has

/-- What one step other than a block does to the resampler of a slot. -/
theorem refitted_act (quiet : ∀ pts, action ≠ .render pts)
    (found' : (m.act action).track? slot = some t') (has' : t'.resampler = some r') :
    m.Refitted slot action r' := by
  cases restart : restarts slot action with
  | true =>
    obtain rfl : action = .set slot .restart := by
      unfold restarts at restart
      split at restart
      · rw [beq_iff_eq.mp restart]
      · nomatch restart
    exact refitted_restart found' has'
  | false =>
    obtain ⟨place, after, keeps, writes, edit⟩ := m.act_edit action quiet
    have kept {t : Track σ} (found : m.track? slot = some t) (has : t.resampler = some r')
        (channels : t'.mixChannelCount = t.mixChannelCount) : m.Refitted slot action r' :=
      .kept (renews_of_same found has found' channels restart) found has
    by_cases here : slot = place
    · subst here
      obtain rfl : after = some t' := writes.track?_self.symm.trans found'
      generalize had : m.track? slot = before at edit
      cases edit with
      | same _ _ _ _ => exact kept had has' rfl
      | allocated _ _ _ _ _ => nomatch has'
      | switched t _ => exact kept had has' rfl
      | attached t _ _ _ => exact kept had has' rfl
      | outside t _ => exact kept had has' rfl
      | written t _ setting _ written =>
        cases written with
        | same _ _ _ => exact kept had has' rfl
        | mask mask chain _ _ => exact refitted_mask had found' has' restart
        | format _ _ _ => exact kept had has' rfl
        | mainBus _ _ => exact kept had has' rfl
        | auxBus _ _ => exact kept had has' rfl
        | downmix _ _ _ _ _ => exact kept had has' rfl
        | busFormat _ => exact kept had has' rfl
        | sampleRate rate _ _ _ => exact refitted_rate had found' has' restart
        | restart => simp [restarts] at restart
        | mixRate => nomatch has'
        | gain _ _ _ _ _ _ _ _ => exact kept had has' rfl
    · have had : m.track? slot = some t' := (writes.track?_ne here).symm.trans found'
      exact kept had has' rfl

end Refitted

namespace Ledger

/-- The ledger of a slot after something was done to the mixer. -/
def act (m : Mixer σ) (slot : Slot) (ledger : Ledger) (action : Action σ) : Ledger :=
  if m.renews slot action then {}
  else match action with
    | .render pts => ⟨ledger.released + m.released slot pts, ledger.moved + m.moved slot pts⟩
    | _ => ledger

/-- A ledger agrees with the resampler of its slot. -/
structure Balances (ledger : Ledger) (r : Resampler) : Prop where
  poised : r.Poised
  fraction : r.fraction = ledger.moved % phaseUnit
  released : ledger.released = ledger.moved / phaseUnit + r.unreleased

/-- A resampler at its start. -/
theorem balances_start {r : Resampler} (poised : r.Poised) (fraction : r.fraction = 0)
    (staged : r.staged = r.index) : Balances {} r :=
  ⟨poised, fraction, by simp [Resampler.unreleased, staged]⟩

theorem balances_new (quality : Interpolation) (channels : Nat) (inputRate outputRate : UInt32)
    (maxFrames : Nat) : Balances {} (.new quality channels inputRate outputRate maxFrames) :=
  balances_start (Resampler.poised_new ..) rfl rfl

variable {ledger : Ledger}

theorem Balances.reset (balances : ledger.Balances r) : Balances {} r.reset :=
  balances_start balances.poised.reset rfl rfl

theorem Balances.setInputRate (balances : ledger.Balances r) (rate : UInt32) :
    ledger.Balances (r.setInputRate rate) :=
  ⟨balances.poised.setInputRate rate, balances.fraction, balances.released⟩

/-- A block books what it released and how far it moved the position. -/
theorem Balances.render (balances : ledger.Balances r) (reachable : Reachable m)
    (found : m.track? slot = some t) (has : t.resampler = some r) (pts : Option Int) :
    ∃ t' r', (m.render pts).track? slot = some t' ∧ t'.resampler = some r' ∧
      Balances ⟨ledger.released + m.released slot pts, ledger.moved + m.moved slot pts⟩ r' := by
  obtain ⟨t', r', after, has', poised, fraction, account⟩ :=
    reachable.account_render found has balances.poised pts
  have released := balances.released
  rw [balances.fraction] at fraction account
  refine ⟨t', r', after, has', poised, ?_, ?_⟩
  · rw [fraction, Nat.mod_add_mod]
  · have whole : ledger.moved + m.moved slot pts =
        ledger.moved % phaseUnit + m.moved slot pts + phaseUnit * (ledger.moved / phaseUnit) := by
      have split := Nat.mod_add_div ledger.moved phaseUnit
      omega
    show ledger.released + m.released slot pts =
      (ledger.moved + m.moved slot pts) / phaseUnit + r'.unreleased
    rw [whole, Nat.add_mul_div_left _ _ phaseUnit_pos]
    omega

/-- A ledger goes on to agree with the resampler of its slot, whatever is done to the mixer. -/
theorem balances_act (reachable : Reachable m)
    (balances : ∀ t r, m.track? slot = some t → t.resampler = some r → ledger.Balances r)
    (action : Action σ) {t' : Track σ} {r' : Resampler}
    (found' : (m.act action).track? slot = some t') (has' : t'.resampler = some r') :
    (act m slot ledger action).Balances r' := by
  by_cases render : ∃ pts, action = .render pts
  · obtain ⟨pts, rfl⟩ := render
    have rendered :=
      rendered_renderBy m m.currentPlan pts reachable.wellFormed.length_formats
    obtain ⟨t, found, moved⟩ := exists_before (rendered.tracks slot) found'
    have found : m.track? slot = some t := found
    obtain ⟨r, has, -⟩ := exists_before moved.resampler has'
    have channels : t'.mixChannelCount = t.mixChannelCount := by
      unfold Track.mixChannelCount
      rw [moved.mask_eq]
    have keeps := renews_of_same found has found' channels rfl
    obtain ⟨u, r'', after, has'', booked⟩ := (balances t r found has).render reachable found has pts
    obtain rfl := Option.some.inj (after.symm.trans found')
    obtain rfl := Option.some.inj (has''.symm.trans has')
    unfold act
    rw [keeps]
    exact booked
  · have quiet (pts : Option Int) : action ≠ .render pts := fun same => render ⟨pts, same⟩
    have booked (keeps : m.renews slot action = false) : act m slot ledger action = ledger := by
      unfold act
      rw [keeps]
      cases action with
      | render pts => exact absurd rfl (quiet pts)
      | _ => rfl
    have renewed (renews : m.renews slot action = true) : act m slot ledger action = {} :=
      if_pos renews
    cases refitted_act quiet found' has' with
    | new _ _ _ _ _ renews =>
      rw [renewed renews]
      exact balances_new ..
    | reset renews found has =>
      rw [renewed renews]
      exact (balances _ _ found has).reset
    | kept keeps found has =>
      rw [booked keeps]
      exact balances _ _ found has
    | retuned rate keeps found has =>
      rw [booked keeps]
      exact (balances _ _ found has).setInputRate rate

end Ledger

/-- The ledger of a slot after one thing after another was done to the mixer. -/
def ledger (m : Mixer σ) (slot : Slot) (actions : List (Action σ)) : Ledger :=
  (actions.foldl (fun (m, ledger) action => (m.act action, ledger.act m slot action)) (m, {})).2

theorem ledger_snoc (m : Mixer σ) (slot : Slot) (actions : List (Action σ)) (action : Action σ) :
    m.ledger slot (actions ++ [action]) =
      (m.ledger slot actions).act (m.run actions) slot action := by
  have mixer (start : Mixer σ × Ledger) : (actions.foldl (fun (m, ledger) action =>
      (m.act action, ledger.act m slot action)) start).1 = start.1.run actions := by
    induction actions generalizing start with
    | nil => rfl
    | cons _ _ ih => exact ih _
  simp only [ledger, List.foldl_append, List.foldl_cons, List.foldl_nil, mixer]

/-- The ledger agrees with the resampler, whatever was done. -/
theorem balances_run (empty : ∀ slot, m.track? slot = none) (reachable : Reachable m)
    (actions : List (Action σ)) (slot : Slot) {t : Track σ} {r : Resampler}
    (found : (m.run actions).track? slot = some t) (has : t.resampler = some r) :
    (m.ledger slot actions).Balances r := by
  induction actions using List.reverseRecOn generalizing t r with
  | nil => nomatch (empty slot).symm.trans found
  | append_singleton actions action ih =>
    rw [ledger_snoc]
    rw [run_snoc] at found
    exact Ledger.balances_act (reachable.run actions) (fun _ _ => ih) action found has

/-- Nothing is held back of a slot whose resampler starts afresh or is dropped, or that is freed. -/
theorem unreleased_dropped (m : Mixer σ) (slot : Slot) {action : Action σ}
    (drops : action ∈ [.set slot .restart, .set slot .mixRate, .free slot]) :
    (m.act action).unreleased slot = 0 := by
  unfold unreleased
  simp only [List.mem_cons, List.not_mem_nil, or_false] at drops
  cases found : m.track? slot with
  | none => rcases drops with rfl | rfl | rfl <;> simp [act, set, free, withTrack, found]
  | some t =>
    rcases drops with rfl | rfl | rfl
    · rw [track?_restart, found]
      cases has : t.resampler <;>
        simp [Track.unreleased, has, Resampler.unreleased, Resampler.reset]
    · have after : (m.act (.set slot .mixRate)).track? slot =
          some { t with sampleRate := m.settings.sampleRate, resampler := none } := by
        simp only [act, set, withTrack, found, write]
        cases t.resampler.isSome <;> exact track?_setTrack_self m slot _
      rw [after]
      rfl
    · have after : (m.act (.free slot)).track? slot = none := by
        simp only [act, free, withTrack, found]
        exact track?_setTrack_self m slot none
      rw [after]

omit [Provider σ] in
/-- What a resampled track holds back fits behind the history in the staging buffer. -/
theorem unreleased_le {settings : Settings} {factory : Option DownmixFactory}
    (frames : settings.frameCount ≠ 0) (sound : t.Sound settings factory)
    (has : t.resampler = some r) (poised : r.Poised) :
    r.unreleased ≤ 2 * settings.frameCount + settings.interpolation.lookahead + 1 := by
  have same := sound.resampler r has
  have fits := poised.unreleased_le
  have capacity : r.capacity = max settings.frameCount 1 * maxRateRatio +
      settings.interpolation.history + settings.interpolation.lookahead + 1 := same.capacity
  rw [capacity, show r.quality = settings.interpolation from same.quality] at fits
  simp only [maxRateRatio] at fits
  omega

/-- What was released of a track since its resampler was made or reset is what the position has
passed, in whole frames, and what the mixer says is unreleased, whatever was done to the mixer and
whatever its providers answered. This is no more than two blocks and the frames that are needed
ahead of the position and at it, and nothing is left of it when it is dropped. -/
theorem ledger_exact {settings : Settings} {factory : Option DownmixFactory} {m : Mixer σ}
    (built : Mixer.new settings factory = .ok m) (actions : List (Action σ)) (slot : Slot) :
    (∀ t r, (m.run actions).track? slot = some t → t.resampler = some r →
      (m.ledger slot actions).released =
          (m.ledger slot actions).moved / phaseUnit + (m.run actions).unreleased slot ∧
        r.index ≤ r.staged) ∧
    (m.run actions).unreleased slot ≤
      2 * settings.frameCount + settings.interpolation.lookahead + 1 ∧
    ∀ action ∈ [.set slot .restart, .set slot .mixRate, .free slot],
      (m.run (actions ++ [action])).unreleased slot = 0 := by
  have reachable : Reachable m := .new built
  obtain ⟨-, same, -, -, empty, -⟩ := new_spec built
  have balances {t : Track σ} {r : Resampler} (found : (m.run actions).track? slot = some t)
      (has : t.resampler = some r) : (m.ledger slot actions).Balances r :=
    balances_run empty reachable actions slot found has
  refine ⟨?_, ?_, ?_⟩
  · intro t r found has
    obtain ⟨poised, -, released⟩ := balances found has
    refine ⟨?_, poised.index⟩
    simpa only [unreleased, found, Track.unreleased, has] using released
  · have wf := reachable.wellFormed.run actions
    have settings_eq : (m.run actions).settings = settings :=
      (reachable.wellFormed.settings_run actions).trans same
    unfold unreleased Track.unreleased
    cases found : (m.run actions).track? slot with
    | none => exact Nat.zero_le _
    | some t =>
      cases has : t.resampler with
      | none => simp [has]
      | some r =>
        simp only [has]
        have frames := (Settings.fault?_eq_none.mp wf.settings).1
        have fits := unreleased_le frames (wf.sound slot t found) has (balances found has).poised
        rw [settings_eq] at fits
        exact fits
  · intro action drops
    rw [run_snoc]
    exact unreleased_dropped _ slot drops

/-- Two frames at twice the mix rate and four at a lower one, from a provider that grants a few
frames at a time: eight frames are released, seven are passed, and one is held back. -/
theorem ledger_exact_retuned :
    let slot : Slot := ⟨0, by decide⟩
    let clip : Clip := .ofSamples 1 (.float (Array.replicate 40 0.5)) false
    let source : Source :=
      .scripted { Script.plain with chunk := some 3, claim := 1, stalls := [2] } (.clip clip)
    let actions : List (Action Source) :=
      [.allocate .mono .float 0, .attach slot (some source), .setEnabled slot true,
        .set slot (.sampleRate 96000), .render none, .set slot (.sampleRate 44100), .render none,
        .render none]
    ∃ m : Mixer Source, Mixer.new { frameCount := 2 } none = .ok m ∧
      (m.ledger slot actions).released = 8 ∧ (m.ledger slot actions).moved / phaseUnit = 7 ∧
      (m.run actions).unreleased slot = 1 := by
  intro slot clip source actions
  obtain ⟨m, built, fed, released, moved⟩ : ∃ m : Mixer Source,
      Mixer.new { frameCount := 2 } none = .ok m ∧
      (((m.run actions).track? slot).bind Track.resampler).isSome = true ∧
      (m.ledger slot actions).released = 8 ∧ (m.ledger slot actions).moved / phaseUnit = 7 :=
    ⟨_, rfl, by decide +kernel, by decide +kernel, by decide +kernel⟩
  obtain ⟨r, has⟩ := Option.isSome_iff_exists.mp fed
  obtain ⟨t, found, has⟩ := Option.bind_eq_some_iff.mp has
  have account := ((ledger_exact built actions slot).1 t r found has).1
  exact ⟨m, built, released, moved, by omega⟩

end Mixer

end Mixdown
