import Mixdown.Proofs.Mixer.Refusals

/-!
# The same call to two mixers

Two mixers of the same settings are given the same call. What comes out in the slot of the call is
decided by the settings, by what the factory creates and by what the slot held before, so the
mixers go on to agree there as they did before. They may differ in what a `Leeway` allows.
-/

namespace Mixdown

variable {σ : Type}

/-- What two tracks may differ in: the chains and the resamplers, as far as the relations say. The
relations leave all that calls read, and calls keep them. -/
structure Leeway (σ : Type) where
  chain : Chain σ → Chain σ → Prop
  resampler : Resampler → Resampler → Prop
  chain_refl : ∀ c, chain c c
  chain_source : ∀ {c c'}, chain c c' → c'.source = c.source
  chain_mapSource : ∀ {c c'} (f : σ → σ), chain c c' → chain (c.mapSource f) (c'.mapSource f)
  resampler_refl : ∀ r, resampler r r
  resampler_settings : ∀ {r r'}, resampler r r' →
    r'.quality = r.quality ∧ r'.inputRate = r.inputRate ∧ r'.outputRate = r.outputRate
  setInputRate : ∀ {r r'} rate, resampler r r' →
    resampler (r.setInputRate rate) (r'.setInputRate rate)
  reset : ∀ {r r'}, resampler r r' → resampler r.reset r'.reset

/-- No leeway at all. -/
def Leeway.nil : Leeway σ where
  chain := Eq
  resampler := Eq
  chain_refl _ := rfl
  chain_source same := congrArg Chain.source same.symm
  chain_mapSource f same := congrArg (Chain.mapSource f) same
  resampler_refl _ := rfl
  resampler_settings := by
    rintro _ _ rfl
    exact ⟨rfl, rfl, rfl⟩
  setInputRate rate same := congrArg (Resampler.setInputRate · rate) same
  reset same := congrArg Resampler.reset same

namespace Track

/-- Two tracks that differ within a leeway. -/
structure Within (leeway : Leeway σ) (t t' : Track σ) : Prop where
  chain : Option.Rel leeway.chain t.chain t'.chain
  resampler : Option.Rel leeway.resampler t.resampler t'.resampler
  rest : t' = { t with chain := t'.chain, resampler := t'.resampler }

namespace Within

variable {leeway : Leeway σ} {t t' : Track σ}

theorem refl (t : Track σ) : Within leeway t t :=
  ⟨rel_refl leeway.chain_refl _, rel_refl leeway.resampler_refl _, rfl⟩

theorem parts (within : Within leeway t t') : ∃ chain resampler,
    Option.Rel leeway.chain t.chain chain ∧ Option.Rel leeway.resampler t.resampler resampler ∧
      t' = { t with chain, resampler } :=
  ⟨_, _, within.chain, within.resampler, within.rest⟩

theorem source? (within : Within leeway t t') : t'.source? = t.source? := by
  have chain := within.chain
  unfold Track.source?
  generalize t.chain = c, t'.chain = c' at chain
  cases chain with
  | none => rfl
  | some same => exact congrArg some (leeway.chain_source same)

theorem volume_eq (within : Within leeway t t') : t'.volume = t.volume := by rw [within.rest]

theorem enabled_eq (within : Within leeway t t') : t'.enabled = t.enabled := by rw [within.rest]

theorem mainBus_eq (within : Within leeway t t') : t'.mainBus = t.mainBus := by rw [within.rest]

theorem auxBus_eq (within : Within leeway t t') : t'.auxBus = t.auxBus := by rw [within.rest]

theorem withChain (within : Within leeway t t') {chain chain' : Option (Chain σ)}
    (chains : Option.Rel leeway.chain chain chain') :
    Within leeway { t with chain } { t' with chain := chain' } := by
  obtain ⟨_, _, -, resamplers, rfl⟩ := within.parts
  exact ⟨chains, resamplers, rfl⟩

theorem withResampler (within : Within leeway t t') {resampler resampler' : Option Resampler}
    (resamplers : Option.Rel leeway.resampler resampler resampler') :
    Within leeway { t with resampler } { t' with resampler := resampler' } := by
  obtain ⟨_, _, chains, -, rfl⟩ := within.parts
  exact ⟨chains, resamplers, rfl⟩

theorem withVolume (within : Within leeway t t') (volume : Volume) :
    Within leeway { t with volume } { t' with volume } := by
  obtain ⟨_, _, chains, resamplers, rfl⟩ := within.parts
  exact ⟨chains, resamplers, rfl⟩

theorem rel_nil {α : Type} {o o' : Option α} (same : Option.Rel Eq o o') : o' = o := by
  cases same with
  | none => rfl
  | some same => rw [same]

theorem eq_of_nil (within : Within Leeway.nil t t') : t' = t := by
  have chain := rel_nil within.chain
  have resampler := rel_nil within.resampler
  rw [within.rest, chain, resampler]

end Within

end Track

namespace Mixer

/-- The factory creates the same for both mixers. -/
def BuildsAlike (m m' : Mixer σ) : Prop :=
  ∀ mask mode, (m'.buildDownmix mask mode).1 = (m.buildDownmix mask mode).1

theorem buildsAlike_of_attempts {m m' : Mixer σ} (factory : m'.factory = m.factory)
    (attempts : m'.attempts = m.attempts) : m.BuildsAlike m' := by
  intro mask mode
  unfold buildDownmix
  rw [factory, attempts]
  cases m.factory <;> rfl

/-- An attempt at a downmix is counted the same way by both mixers. -/
theorem attempts_buildDownmix {m m' : Mixer σ} (factory : m'.factory = m.factory)
    (attempts : m'.attempts = m.attempts) (mask : ChannelMask) (mode : DownmixMode) :
    (m'.buildDownmix mask mode).2.attempts = (m.buildDownmix mask mode).2.attempts := by
  unfold buildDownmix
  rw [factory, attempts]
  cases m.factory
  · exact attempts
  · rfl

/-- The calls that two mixers get go on alike: the factory creates the same, or both calls succeed
or both fail. -/
def Even {ε α : Type} (m m' : Mixer σ) (result result' : Except ε α) : Prop :=
  m.BuildsAlike m' ∨ result'.isOk = result.isOk

variable [Provider σ]

/-- What is built around the same provider for the same layout is the same. -/
theorem buildChain_alike {m m' : Mixer σ} (factory : m'.factory = m.factory) (source : σ)
    (layout : ChainLayout) (mode : DownmixMode)
    (even : Even m m' (m.buildChain source layout mode).1 (m'.buildChain source layout mode).1) :
    (m'.buildChain source layout mode).1 = (m.buildChain source layout mode).1 ∧
      (m'.attempts = m.attempts → (m'.buildChain source layout mode).2.attempts =
        (m.buildChain source layout mode).2.attempts) := by
  unfold buildChain at even ⊢
  generalize misfit? layout source = fits at even ⊢
  cases fits with
  | some why => exact ⟨rfl, id⟩
  | none =>
    by_cases many : layout.needsDownmix = true
    · simp only [many, if_true] at even ⊢
      have counted := fun same => attempts_buildDownmix factory same layout.mask mode
      have made := (m.buildDownmix_spec layout.mask mode).2
      have made' := (m'.buildDownmix_spec layout.mask mode).2
      have same : m.BuildsAlike m' → _ := fun alike => alike layout.mask mode
      generalize m.buildDownmix layout.mask mode = built, m'.buildDownmix layout.mask mode = built'
        at even counted made made' same ⊢
      obtain ⟨matrix, n⟩ := built
      obtain ⟨matrix', n'⟩ := built'
      -- what is created is the matrix of the layout, if anything is
      cases matrix with
      | none =>
        cases matrix' with
        | none => exact ⟨rfl, counted⟩
        | some matrix' =>
          rcases even with alike | both
          · cases same alike
          · cases both
      | some matrix =>
        cases matrix' with
        | none =>
          rcases even with alike | both
          · cases same alike
          · cases both
        | some matrix' =>
          obtain rfl := made matrix rfl
          obtain rfl := made' matrix' rfl
          exact ⟨rfl, counted⟩
    · simp only [many]
      exact ⟨rfl, id⟩

/-- The answers of two mixers to the same call: the same result, tracks in the slot that differ
within the leeway, and as many attempts at a downmix. -/
structure Matched {α : Type} (leeway : Leeway σ) (slot : Slot) (m m' : Mixer σ)
    (answer answer' : α × Mixer σ) : Prop where
  result : answer'.1 = answer.1
  track : Option.Rel (Track.Within leeway) (answer.2.track? slot) (answer'.2.track? slot)
  attempts : m'.attempts = m.attempts → answer'.2.attempts = answer.2.attempts

section Matched

variable {leeway : Leeway σ} {slot : Slot} {m m' : Mixer σ} {t t' : Track σ}

omit [Provider σ] in
theorem matched_setTrack {α : Type} (result : α) (within : Track.Within leeway t t') :
    Matched leeway slot m m' (result, m.setTrack slot (some t))
      (result, m'.setTrack slot (some t')) := by
  refine ⟨rfl, ?_, id⟩
  rw [track?_setTrack_self, track?_setTrack_self]
  exact .some within

omit [Provider σ] in
theorem matched_same {α : Type} (result : α) (found : m.track? slot = some t)
    (found' : m'.track? slot = some t') (within : Track.Within leeway t t') :
    Matched leeway slot m m' (result, m) (result, m') := by
  refine ⟨rfl, ?_, id⟩
  rw [found, found']
  exact .some within

/-- The chain of a written track is built anew alike by both mixers. -/
theorem rebuild_alike (settings : m'.settings = m.settings) (factory : m'.factory = m.factory)
    (within : Track.Within leeway t t')
    (even : Even m m' (m.rebuild slot t).1 (m'.rebuild slot t').1) :
    Matched leeway slot m m' (m.rebuild slot t) (m'.rebuild slot t') := by
  have fed := within.source?
  obtain ⟨chain, resampler, -, resamplers, rfl⟩ := within.parts
  unfold rebuild at even ⊢
  rw [fed] at even ⊢
  cases given : t.source? with
  | none => exact matched_setTrack _ within
  | some source =>
    have layout : ({ t with chain, resampler } : Track σ).layout m'.settings.frameCount =
        t.layout m.settings.frameCount := by rw [settings]; rfl
    simp only [given, layout] at even ⊢
    have built := buildChain_alike factory source (t.layout m.settings.frameCount) t.downmix
    generalize m.buildChain source (t.layout m.settings.frameCount) t.downmix = answer,
      m'.buildChain source (t.layout m.settings.frameCount) t.downmix = answer' at even built ⊢
    obtain ⟨result, n⟩ := answer
    obtain ⟨result', n'⟩ := answer'
    have even' : Even m m' result result' := by
      refine even.imp_right ?_
      cases result <;> cases result' <;> exact id
    obtain ⟨same, counted⟩ := built even'
    obtain rfl : result' = result := same
    have written (chain : Option (Chain σ)) : Option.Rel (Track.Within leeway)
        ((n.setTrack slot (some { t with chain })).track? slot)
        ((n'.setTrack slot (some { t with chain, resampler })).track? slot) := by
      rw [track?_setTrack_self, track?_setTrack_self]
      exact .some ⟨rel_refl leeway.chain_refl _, resamplers, rfl⟩
    cases result' with
    | error why => exact ⟨rfl, written none, counted⟩
    | ok chain => exact ⟨rfl, written (some chain), counted⟩

omit [Provider σ] in
theorem maskRefusal?_alike (factory : m'.factory = m.factory) (mask : ChannelMask)
    (mode : DownmixMode) : m'.maskRefusal? mask mode = m.maskRefusal? mask mode := by
  unfold maskRefusal? supportsDownmix
  rw [factory]

omit [Provider σ] in
theorem within_withMask (settings : Settings) (within : Track.Within leeway t t')
    (mask : ChannelMask) :
    Track.Within leeway (withMask settings t mask) (withMask settings t' mask) := by
  obtain ⟨chain, resampler, chains, resamplers, rfl⟩ := within.parts
  by_cases same : ({ t with mask } : Track σ).mixChannelCount = t.mixChannelCount
  · have kept (chain : Option (Chain σ)) (resampler : Option Resampler) :
        withMask settings { t with chain, resampler } mask = { t with mask, chain, resampler } :=
      if_pos same
    rw [kept chain resampler, show withMask settings t mask = _ from kept t.chain t.resampler]
    exact ⟨chains, resamplers, rfl⟩
  · have fresh (chain : Option (Chain σ)) (resampler : Option Resampler) :
        withMask settings { t with chain, resampler } mask = { t with
          mask, chain
          resampler := resampler.map fun r =>
            .new r.quality (min mask.channelCount maxMixChannels) r.inputRate r.outputRate
              settings.frameCount } :=
      if_neg same
    rw [fresh chain resampler, show withMask settings t mask = _ from fresh t.chain t.resampler]
    refine ⟨chains, ?_, rfl⟩
    show Option.Rel leeway.resampler (t.resampler.map _) (resampler.map _)
    generalize t.resampler = before at resamplers ⊢
    cases resamplers with
    | none => exact .none
    | some same =>
      obtain ⟨quality, inputRate, outputRate⟩ := leeway.resampler_settings same
      simp only [Option.map_some, quality, inputRate, outputRate]
      exact .some (leeway.resampler_refl _)

omit [Provider σ] in
theorem within_withRate (settings : Settings) (within : Track.Within leeway t t')
    (rate : UInt32) :
    Track.Within leeway (withRate settings t rate) (withRate settings t' rate) := by
  obtain ⟨chain, resampler, chains, resamplers, rfl⟩ := within.parts
  refine ⟨chains, ?_, rfl⟩
  unfold withRate
  simp only
  generalize t.resampler = before at resamplers ⊢
  cases resamplers with
  | none => exact .some (leeway.resampler_refl _)
  | some same => exact .some (leeway.setInputRate rate same)

omit [Provider σ] in
theorem demands_within (within : Track.Within leeway t t') : t'.demands = t.demands := by
  have resampler := isSome_of_rel within.resampler
  obtain ⟨chain, resampler', -, -, rfl⟩ := within.parts
  simp only at resampler
  simp only [Track.demands, Track.mixChannelCount, resampler]

/-- A write that needs the chain to be built anew. -/
theorem rebuilt_alike (settings : m'.settings = m.settings) (factory : m'.factory = m.factory)
    (within : Track.Within leeway t t')
    (even : Even m m'
      (match m.rebuild slot t with
        | (.ok (), m) => (.ok true, m)
        | (.error why, m) => (.error why, m) : Except Refusal Bool × Mixer σ).1
      (match m'.rebuild slot t' with
        | (.ok (), m) => (.ok true, m)
        | (.error why, m) => (.error why, m) : Except Refusal Bool × Mixer σ).1) :
    Matched leeway slot m m'
      (match m.rebuild slot t with
        | (.ok (), m) => (.ok true, m)
        | (.error why, m) => (.error why, m) : Except Refusal Bool × Mixer σ)
      (match m'.rebuild slot t' with
        | (.ok (), m) => (.ok true, m)
        | (.error why, m) => (.error why, m)) := by
  have rebuilt : Even m m' (m.rebuild slot t).1 (m'.rebuild slot t').1 →
      Matched leeway slot m m' (m.rebuild slot t) (m'.rebuild slot t') :=
    rebuild_alike settings factory within
  generalize m.rebuild slot t = answer, m'.rebuild slot t' = answer' at even rebuilt ⊢
  obtain ⟨result, n⟩ := answer
  obtain ⟨result', n'⟩ := answer'
  have even' : Even m m' result result' := by
    refine even.imp_right ?_
    cases result <;> cases result' <;> exact id
  obtain ⟨same, track, attempts⟩ := rebuilt even'
  obtain rfl : result' = result := same
  cases result' with
  | error why => exact ⟨rfl, track, attempts⟩
  | ok done => exact ⟨rfl, track, attempts⟩

/-- A setting is written alike to both mixers. -/
theorem write_alike (settings : m'.settings = m.settings) (factory : m'.factory = m.factory)
    (mainBuses : m'.mainBuses.length = m.mainBuses.length)
    (auxBuses : m'.auxBuses.length = m.auxBuses.length) (found : m.track? slot = some t)
    (found' : m'.track? slot = some t') (within : Track.Within leeway t t')
    (setting : TrackSetting)
    (even : Even m m' (m.write slot t setting).1 (m'.write slot t' setting).1) :
    Matched leeway slot m m' (m.write slot t setting) (m'.write slot t' setting) := by
  have fed := within.source?
  have demands := demands_within within
  have same {α : Type} (result : α) := matched_same result found found' within
  have whole := within
  obtain ⟨chain, resampler, chains, resamplers, rfl⟩ := within.parts
  have misfit (mask : ChannelMask) (format : SampleFormat) :
      misfitAfter? { t with chain, resampler } mask format = misfitAfter? t mask format := by
    unfold misfitAfter?
    rw [fed]
    rfl
  cases setting with
  | mask mask =>
    simp only [write, maskRefusal?_alike factory, misfit, settings] at even ⊢
    cases refusal : m.maskRefusal? mask t.downmix with
    | some why => exact same _
    | none =>
      rw [refusal] at even
      by_cases written : t.mask = mask
      · simp only [written, if_true]
        exact same _
      · simp only [written, if_false] at even ⊢
        cases fits : misfitAfter? t mask t.format with
        | some why => exact same _
        | none =>
          rw [fits] at even
          exact rebuilt_alike settings factory (within_withMask m.settings within mask) even
  | format format =>
    simp only [write, misfit] at even ⊢
    by_cases written : t.format = format
    · simp only [written, if_true]
      exact same _
    · simp only [written, if_false] at even ⊢
      cases fits : misfitAfter? t t.mask format with
      | some why => exact same _
      | none =>
        rw [fits] at even
        exact rebuilt_alike settings factory ⟨chains, resamplers, rfl⟩ even
  | mainBus bus =>
    simp only [write, mainBuses]
    split
    · exact matched_setTrack _ ⟨chains, resamplers, rfl⟩
    · exact same _
  | auxBus bus =>
    cases bus with
    | none => exact matched_setTrack _ ⟨chains, resamplers, rfl⟩
    | some bus =>
      simp only [write, auxBuses]
      split
      · exact matched_setTrack _ ⟨chains, resamplers, rfl⟩
      · exact same _
  | downmix mode =>
    simp only [write, maskRefusal?_alike factory] at even ⊢
    by_cases written : t.downmix = mode
    · simp only [written, if_true]
      exact same _
    · simp only [written, if_false] at even ⊢
      cases refusal : m.maskRefusal? t.mask mode with
      | some why => exact same _
      | none =>
        rw [refusal] at even
        by_cases many : maxMixChannels < t.mask.channelCount
        · simp only [many, if_true] at even ⊢
          exact rebuilt_alike settings factory ⟨chains, resamplers, rfl⟩ even
        · simp only [many, if_false]
          exact matched_setTrack _ ⟨chains, resamplers, rfl⟩
  | busFormat format => exact matched_setTrack _ ⟨chains, resamplers, rfl⟩
  | sampleRate rate =>
    simp only [write, settings]
    split
    · exact same _
    · split
      · exact same _
      · exact matched_setTrack _ (within_withRate m.settings within rate)
  | restart =>
    refine matched_setTrack _ (whole.withResampler ?_)
    generalize t.resampler = before at resamplers ⊢
    cases resamplers with
    | none => exact .none
    | some same => exact .some (leeway.reset same)
  | mixRate =>
    have used : resampler.isSome = t.resampler.isSome := isSome_of_rel resamplers
    simp only [write, settings, used]
    exact matched_setTrack _ ⟨chains, .none, rfl⟩
  | gain name value ramped =>
    simp only [write, settings, demands]
    cases clampTrackGain? value with
    | none => exact same _
    | some gain =>
      simp only
      have moved := whole.withVolume (t.volume.modify name fun r =>
        if (if ramped then m.settings.rampFrames else 0) = 0 then r.set gain
        else r.moveTo gain (if ramped then m.settings.rampFrames else 0))
      rw [demands_within moved]
      exact matched_setTrack _ moved

end Matched

end Mixer

namespace Action

/-- The slot whose track is changed. -/
def changed? : Action σ → Option Slot
  | .setEnabled slot _ | .set slot _ | .attach slot _ | .outside slot _ => some slot
  | .allocate _ _ _ | .free _ | .render _ => none

/-- The slot that is freed. -/
def freed? : Action σ → Option Slot
  | .free slot => some slot
  | _ => none

end Action

namespace Mixer

/-- Two mixers of the same settings, with as many buses and the same slots in use. Outside of the
slots in `apart`, their tracks differ within a leeway. -/
structure Alongside (leeway : Leeway σ) (apart : Slot → Prop) (m m' : Mixer σ) : Prop where
  settings : m'.settings = m.settings
  factory : m'.factory = m.factory
  mainBuses : m'.mainBuses.length = m.mainBuses.length
  auxBuses : m'.auxBuses.length = m.auxBuses.length
  used : ∀ slot, (m'.track? slot).isSome = (m.track? slot).isSome
  tracks : ∀ slot, ¬ apart slot →
    Option.Rel (Track.Within leeway) (m.track? slot) (m'.track? slot)

/-- What the same call makes of two mixers: nothing, or both have a slot written, with tracks that
differ within a leeway, and both keep the plan or drop it. -/
inductive Twin (leeway : Leeway σ) (action : Action σ) (m m' n n' : Mixer σ) : Prop
  | same : action.freed? = none → n = m → n' = m' → Twin leeway action m m' n n'
  | writes (slot : Slot) (t t' : Option (Track σ)) (keeps : Bool) :
      (action.freed? = none ∨ action.freed? = some slot) →
      Writes m n slot t keeps → Writes m' n' slot t' keeps →
      Option.Rel (Track.Within leeway) t t' →
      (m'.attempts = m.attempts → n'.attempts = n.attempts) → Twin leeway action m m' n n'

section Alongside

variable {leeway : Leeway σ} {apart : Slot → Prop} {m m' n n' : Mixer σ} {action : Action σ}

theorem Alongside.writes (along : Alongside leeway apart m m') {slot : Slot}
    {t t' : Option (Track σ)} {keeps : Bool} (here : Writes m n slot t keeps)
    (there : Writes m' n' slot t' keeps) (within : Option.Rel (Track.Within leeway) t t') :
    Alongside leeway (fun other => apart other ∧ other ≠ slot) n n' := by
  refine ⟨?_, ?_, ?_, ?_, ?_, ?_⟩
  · rw [here.settings, there.settings, along.settings]
  · rw [here.factory, there.factory, along.factory]
  · rw [here.mainBuses, there.mainBuses, along.mainBuses]
  · rw [here.auxBuses, there.auxBuses, along.auxBuses]
  · intro other
    by_cases same : other = slot
    · subst same
      rw [here.track?_self, there.track?_self]
      exact isSome_of_rel within
    · rw [here.track?_ne same, there.track?_ne same]
      exact along.used other
  · intro other together
    by_cases same : other = slot
    · subst same
      rw [here.track?_self, there.track?_self]
      exact within
    · rw [here.track?_ne same, there.track?_ne same]
      exact along.tracks other fun far => together ⟨far, same⟩

theorem Alongside.mono (along : Alongside leeway apart m m') {apart' : Slot → Prop}
    (wider : ∀ slot, apart slot → apart' slot) : Alongside leeway apart' m m' :=
  { along with
    tracks := fun slot together => along.tracks slot fun far => together (wider slot far) }

/-- Two mixers side by side stay so, and a slot that is freed is no longer apart. -/
theorem Alongside.twin (along : Alongside leeway apart m m') (twin : Twin leeway action m m' n n') :
    Alongside leeway (fun slot => apart slot ∧ action.freed? ≠ some slot) n n' := by
  cases twin with
  | same unfreed here there =>
    subst here there
    refine along.mono fun slot far => ⟨far, ?_⟩
    rw [unfreed]
    exact Option.some_ne_none slot |>.symm
  | writes slot t t' keeps freed here there within attempts =>
    refine (along.writes here there within).mono fun other far => ⟨far.1, ?_⟩
    intro given
    rcases freed with none_freed | freed
    · exact Option.some_ne_none other (given.symm.trans none_freed)
    · exact far.2 (Option.some.inj (given.symm.trans freed))

end Alongside

variable [Provider σ]

/-- The same call goes on alike in two mixers: the factory creates the same for both, or both calls
succeed or both fail. -/
def EvenAt (m m' : Mixer σ) (action : Action σ) : Prop :=
  m.BuildsAlike m' ∨ (m'.error? action).isSome = (m.error? action).isSome

section Twin

variable {leeway : Leeway σ} {apart : Slot → Prop} {m m' : Mixer σ}

/-- A setting is written alike to both mixers. -/
theorem set_twin (along : Alongside leeway apart m m') {slot : Slot} (together : ¬ apart slot)
    (setting : TrackSetting) (even : EvenAt m m' (.set slot setting)) :
    Twin leeway (.set slot setting) m m' (m.set slot setting).2 (m'.set slot setting).2 := by
  have here := along.tracks slot together
  simp only [EvenAt, error?, set, withTrack] at even ⊢
  cases found : m.track? slot with
  | none =>
    rw [found] at here
    generalize found' : m'.track? slot = there at here
    cases here
    exact .same rfl rfl rfl
  | some t =>
    rw [found] at here
    generalize found' : m'.track? slot = there at here even
    cases here with
    | @some _ t' within =>
      have wrote := m.write_written found setting
      have wrote' := m'.write_written found' setting
      have alike := write_alike along.settings along.factory along.mainBuses along.auxBuses found
        found' within setting
      simp only [found] at even ⊢
      generalize m.write slot t setting = answer, m'.write slot t' setting = answer'
        at even wrote wrote' alike ⊢
      obtain ⟨result, n⟩ := answer
      obtain ⟨result', n'⟩ := answer'
      have even' : Even m m' result result' := by
        refine even.imp_right ?_
        rcases result with why | _ | _ <;> rcases result' with why' | _ | _ <;>
          simp [Answer.error?, Except.isOk, Except.toBool]
      obtain ⟨same, track, attempts⟩ := alike even'
      obtain rfl : result' = result := same
      obtain ⟨u, keeps, -, -, writes⟩ := wrote
      obtain ⟨u', keeps', -, -, writes'⟩ := wrote'
      rw [show n.track? slot = some u from writes.track?_self,
        show n'.track? slot = some u' from writes'.track?_self] at track
      rcases result' with why | _ | _
      · exact .writes slot (some u) (some u') false (.inl rfl) writes.invalidated
          writes'.invalidated track attempts
      · exact .writes slot (some u) (some u') true (.inl rfl) writes writes' track attempts
      · exact .writes slot (some u) (some u') false (.inl rfl) writes.invalidated
          writes'.invalidated track attempts

/-- A provider is attached alike in both mixers. -/
theorem attach_twin (along : Alongside leeway apart m m') {slot : Slot} (together : ¬ apart slot)
    (source : Option σ) (even : EvenAt m m' (.attach slot source)) :
    Twin leeway (.attach slot source) m m' (m.attach slot source).2 (m'.attach slot source).2 := by
  have here := along.tracks slot together
  simp only [EvenAt, error?, attach, withTrack] at even ⊢
  cases found : m.track? slot with
  | none =>
    rw [found] at here
    generalize found' : m'.track? slot = there at here
    cases here
    exact .same rfl rfl rfl
  | some t =>
    rw [found] at here
    generalize found' : m'.track? slot = there at here even
    cases here with
    | @some _ t' within =>
      obtain ⟨chain, resampler, chains, resamplers, rfl⟩ := within.parts
      have attached (chain' : Option (Chain σ)) : Track.Within leeway
          { t with chain := chain' } { t with chain := chain', resampler } :=
        ⟨rel_refl leeway.chain_refl _, resamplers, rfl⟩
      cases source with
      | none =>
        exact .writes slot _ _ false (.inl rfl) (writes_setTrack m slot _).invalidated
          (writes_setTrack m' slot _).invalidated (.some (attached none)) id
      | some source =>
        have layout : ({ t with chain, resampler } : Track σ).layout m'.settings.frameCount =
            t.layout m.settings.frameCount := by rw [along.settings]; rfl
        simp only [found, layout] at even ⊢
        have built := buildChain_alike along.factory source (t.layout m.settings.frameCount)
          t.downmix
        have counts := (m.buildChain_spec source (t.layout m.settings.frameCount) t.downmix).1
        have counts' := (m'.buildChain_spec source (t.layout m.settings.frameCount) t.downmix).1
        generalize m.buildChain source (t.layout m.settings.frameCount) t.downmix = answer,
          m'.buildChain source (t.layout m.settings.frameCount) t.downmix = answer'
          at even built counts counts' ⊢
        obtain ⟨result, n⟩ := answer
        obtain ⟨result', n'⟩ := answer'
        obtain ⟨count, rfl⟩ : ∃ count, n = { m with attempts := count } := counts
        obtain ⟨count', rfl⟩ : ∃ count, n' = { m' with attempts := count } := counts'
        have even' : Even m m' result result' := by
          refine even.imp_right ?_
          cases result <;> cases result' <;> simp [Answer.error?, Except.isOk, Except.toBool]
        obtain ⟨same, counted⟩ := built even'
        obtain rfl : result' = result := same
        cases result' with
        | error why =>
          have writes := writes_same m slot
          have writes' := writes_same m' slot
          exact .writes slot (m.track? slot) (m'.track? slot) true (.inl rfl)
            ⟨rfl, rfl, rfl, rfl, rfl, rfl, writes.tracks⟩
            ⟨rfl, rfl, rfl, rfl, rfl, rfl, writes'.tracks⟩ (along.tracks slot together) counted
        | ok chain' =>
          exact .writes slot _ _ false (.inl rfl) ⟨rfl, rfl, rfl, rfl, rfl, rfl, rfl⟩
            ⟨rfl, rfl, rfl, rfl, rfl, rfl, rfl⟩ (.some (attached (some chain'))) counted

/-- A call other than `render` makes the same of both mixers, where it changes no track that is
apart. -/
theorem act_twin (along : Alongside leeway apart m m') {action : Action σ}
    (quiet : ∀ pts, action ≠ .render pts)
    (together : ∀ slot, action.changed? = some slot → ¬ apart slot) (even : EvenAt m m' action) :
    Twin leeway action m m' (m.act action) (m'.act action) := by
  cases action with
  | allocate mask format session =>
    have free : (Slot.all.find? fun slot =>
        decide (slot.val < m'.settings.maxTracks) && (m'.track? slot).isNone) =
        Slot.all.find? fun slot =>
          decide (slot.val < m.settings.maxTracks) && (m.track? slot).isNone := by
      congr
      funext slot
      rw [along.settings, ← Option.not_isSome, ← Option.not_isSome, along.used]
    simp only [act, allocate, maskRefusal?_alike along.factory, free]
    cases m.maskRefusal? mask .standard with
    | some why => exact .same rfl rfl rfl
    | none =>
      cases Slot.all.find? fun slot =>
          decide (slot.val < m.settings.maxTracks) && (m.track? slot).isNone with
      | none => exact .same rfl rfl rfl
      | some slot =>
        rw [along.settings]
        exact .writes slot _ _ true (.inl rfl) (writes_setTrack m slot _)
          (writes_setTrack m' slot _) (.some (.refl _)) id
  | free slot =>
    have used := along.used slot
    simp only [act, free, withTrack]
    cases found : m.track? slot with
    | none =>
      rw [found] at used
      have found' : m'.track? slot = none := by simpa using used
      have writes := writes_same m slot
      have writes' := writes_same m' slot
      rw [found] at writes
      rw [found'] at writes' ⊢
      exact .writes slot none none true (.inr rfl) writes writes' .none id
    | some t =>
      rw [found] at used
      obtain ⟨t', found'⟩ := Option.isSome_iff_exists.mp used
      rw [found']
      exact .writes slot none none false (.inr rfl) (writes_setTrack m slot none).invalidated
        (writes_setTrack m' slot none).invalidated .none id
  | setEnabled slot enabled =>
    have here := along.tracks slot (together slot rfl)
    simp only [act, setEnabled, withTrack]
    generalize m.track? slot = before, m'.track? slot = before' at here
    cases here with
    | none => exact .same rfl rfl rfl
    | @some t t' within =>
      obtain ⟨chain, resampler, chains, resamplers, rfl⟩ := within.parts
      simp only
      split
      · exact .same rfl rfl rfl
      · exact .writes slot _ _ false (.inl rfl) (writes_setTrack m slot _).invalidated
          (writes_setTrack m' slot _).invalidated (.some ⟨chains, resamplers, rfl⟩) id
  | set slot setting => exact set_twin along (together slot rfl) setting even
  | attach slot source => exact attach_twin along (together slot rfl) source even
  | outside slot change =>
    have here := along.tracks slot (together slot rfl)
    simp only [act, mapSource]
    generalize m.track? slot = before, m'.track? slot = before' at here
    cases here with
    | none => exact .same rfl rfl rfl
    | @some t t' within =>
      obtain ⟨chain, resampler, chains, resamplers, rfl⟩ := within.parts
      refine .writes slot _ _ true (.inl rfl) (writes_setTrack m slot _) (writes_setTrack m' slot _)
        (.some ⟨?_, resamplers, rfl⟩) id
      show Option.Rel leeway.chain (t.chain.map _) (chain.map _)
      generalize t.chain = before at chains ⊢
      cases chains with
      | none => exact .none
      | some same => exact .some (leeway.chain_mapSource change same)
  | render pts => exact absurd rfl (quiet pts)

end Twin

end Mixer

end Mixdown
