import Mixdown.Proofs.Mixer.Pace

/-!
# Tracks keep time

A track that works on undisturbed while its provider does not run dry takes the next frames of what
its provider plays in each block, be it heard or not, whatever gains and routes it is given and
whatever is done to other tracks (`Reachable.keeps_time`).
-/

namespace Mixdown

open Provider (Paced Streams rawFrames)

variable {σ : Type}

/-- The setting is not about the frames that the provider of a track hands out. -/
def TrackSetting.SparesInput : TrackSetting → Prop
  | .mask _ | .format _ | .downmix _ | .sampleRate _ => False
  | _ => True

/-- The call is not a request that was refused. -/
def Call.isGranted : Call → Bool
  | .request _ _ none => false
  | _ => true

/-- The action leaves the provider of a slot to the blocks. -/
def Action.Spares (slot : Slot) : Action σ → Prop
  | .free other | .attach other _ | .outside other _ => other ≠ slot
  | .setEnabled other enabled => other = slot → enabled = true
  | .set other setting => other = slot → setting.SparesInput
  | .allocate _ _ _ | .render _ => True

variable [Provider σ]

/-- A track at work that hands out frames of a layout in a mode, and whose provider is at a position
of what it plays. -/
structure Track.Keeps (layout : ChainLayout) (mode : DownmixMode) (At : σ → Nat → Prop)
    (t : Track σ) (p : Nat) : Prop where
  layout_eq : t.layout layout.maxFrames = layout
  mode_eq : t.downmix = mode
  works : ∃ chain, t.AtWork layout.maxFrames chain ∧ At chain.source p

namespace Mixer

variable {m : Mixer σ} {slot : Slot} {t : Track σ} {layout : ChainLayout} {mode : DownmixMode}
  {At : σ → Nat → Prop} {p : Nat}

/-- The provider of a slot is not asked for frames in a block that it does not have. -/
def Flows (m : Mixer σ) (slot : Slot) (pts : Option Int) : Prop :=
  ∀ calls, (m.recorded.render pts).calls? slot = some calls →
    ∀ asked stamp, .request asked stamp none ∉ calls

theorem flows_of_granted {pts : Option Int}
    (granted : ((m.recorded.render pts).calls? slot).all (List.all · Call.isGranted) = true) :
    m.Flows slot pts := by
  intro calls seen asked stamp refused
  simp only [seen, Option.all_some, List.all_eq_true] at granted
  exact absurd (granted _ refused) Bool.false_ne_true

theorem Written.keeps {t' : Track σ} {setting : TrackSetting} {kept : Bool}
    (written : Written m t setting t' kept) (spares : setting.SparesInput)
    (keeps : t.Keeps layout mode At p) : t'.Keeps layout mode At p := by
  obtain ⟨same, mode, chain, works, there⟩ := keeps
  cases written with
  | same _ _ _ => exact ⟨same, mode, chain, works, there⟩
  | mask _ _ _ _ => exact spares.elim
  | format _ _ _ => exact spares.elim
  | downmix _ _ _ _ _ => exact spares.elim
  | sampleRate _ _ _ _ => exact spares.elim
  | mainBus _ _ =>
    exact ⟨same, mode, chain, works.of_same works.enabled rfl works.unresampled rfl, there⟩
  | auxBus _ _ =>
    exact ⟨same, mode, chain, works.of_same works.enabled rfl works.unresampled rfl, there⟩
  | busFormat _ =>
    exact ⟨same, mode, chain, works.of_same works.enabled rfl works.unresampled rfl, there⟩
  | restart =>
    exact ⟨same, mode, chain, works.of_same works.enabled rfl
      (congrArg (Option.map Resampler.reset) works.unresampled) rfl, there⟩
  | mixRate => exact ⟨same, mode, chain, works.of_same works.enabled rfl rfl rfl, there⟩
  | gain _ _ _ _ _ _ _ _ =>
    exact ⟨same, mode, chain, works.of_same works.enabled rfl works.unresampled rfl, there⟩

/-- A call that spares the provider of a track leaves the track at work. -/
theorem Edit.keeps {action : Action σ} {after : Option (Track σ)} {kept : Bool}
    (edit : Edit m slot action (some t) after kept) (spares : action.Spares slot)
    (keeps : t.Keeps layout mode At p) : ∃ t', after = some t' ∧ t'.Keeps layout mode At p := by
  cases edit with
  | same _ _ _ _ => exact ⟨t, rfl, keeps⟩
  | freed _ => exact absurd rfl spares
  | switched _ enabled =>
    obtain ⟨same, mode, chain, works, there⟩ := keeps
    exact ⟨_, rfl, same, mode, chain, works.of_same (spares rfl) rfl works.unresampled rfl, there⟩
  | attached _ _ _ _ => exact absurd rfl spares
  | outside _ _ => exact absurd rfl spares
  | written _ t' setting _ written => exact ⟨t', rfl, written.keeps (spares rfl) keeps⟩

/-- A track at work to which its provider gives all that it is asked for in a block. -/
theorem Reachable.paced_block (reachable : Reachable m) (found : m.track? slot = some t)
    {chain : Chain σ} (works : t.AtWork m.settings.frameCount chain) {pts : Option Int}
    (flows : m.Flows slot pts) :
    ∃ t' chain' calls, (m.render pts).track? slot = some t' ∧ t'.chain = some chain' ∧
      Paced (stampAfter pts m.settings.sampleRate) m.settings.frameCount 0 chain.source calls
        chain'.source ∧ Call.released calls = m.settings.frameCount := by
  have sound := reachable.wellFormed.sound slot t found
  obtain ⟨⟨t', after, served⟩, -⟩ := reachable.render_orderly pts found works.given
  obtain ⟨chain', calls, given, paced⟩ := served.paced sound works
  have seen := (reachable.seesCalls found works paced).render
  exact ⟨t', chain', calls, after, given, paced, paced.released_eq (flows calls seen)⟩

/-- A block moves the provider of a track at work on by its frames. -/
theorem Reachable.keeps_render (reachable : Reachable m) {hear : Buffer → List Samples}
    {x : Nat → Samples} (streams : Streams hear x At)
    (found : m.track? slot = some t) (size : layout.maxFrames = m.settings.frameCount)
    (keeps : t.Keeps layout mode At p) {pts : Option Int} (flows : m.Flows slot pts) :
    ∃ t', (m.render pts).track? slot = some t' ∧
      t'.Keeps layout mode At (p + m.settings.frameCount) := by
  obtain ⟨same, mode, chain, works, there⟩ := keeps
  rw [size] at works
  obtain ⟨t', chain', calls, after, given, paced, released⟩ :=
    reachable.paced_block found works flows
  have moved := paced.streams streams there
  rw [released] at moved
  obtain ⟨u, had, aged⟩ := exists_before
    ((rendered_renderBy m m.currentPlan pts reachable.wellFormed.length_formats).tracks slot) after
  obtain rfl := Option.some.inj (had.symm.trans found)
  have moves : Provider.Moves chain chain' := by
    have moves := aged.chain
    rw [works.given, given] at moves
    cases moves with
    | some moves => exact moves
  have rest := aged.rest
  have unresampled : t'.resampler = none := by
    have kind := aged.isSome_resampler
    rw [works.unresampled] at kind
    exact Option.isSome_eq_false_iff.mp kind |> Option.isNone_iff_eq_none.mp
  have layouts : ∀ frames, t'.layout frames = u.layout frames := by
    intro frames
    rw [rest]
    rfl
  refine ⟨t', after, (layouts _).trans same, by rw [rest]; exact mode, chain', ?_, moved⟩
  rw [size]
  refine ⟨by rw [rest]; exact works.enabled, given, unresampled, ?_,
    works.honest.moves (Chain.moves_source moves)⟩
  rw [layouts]
  exact works.fed.moves_honest works.honest moves

/-- While a track works on undisturbed and its provider does not run dry, the provider is where the
blocks so far have moved it. -/
theorem Reachable.keeps_run (reachable : Reachable m) {hear : Buffer → List Samples}
    {x : Nat → Samples} (streams : Streams hear x At)
    (found : m.track? slot = some t) (size : layout.maxFrames = m.settings.frameCount)
    (keeps : t.Keeps layout mode At p) (later : List (Action σ))
    (spares : ∀ action ∈ later, action.Spares slot)
    (flows : ∀ earlier pts rest, later = earlier ++ .render pts :: rest →
      (m.run earlier).Flows slot pts) :
    ∃ t', (m.run later).track? slot = some t' ∧
      t'.Keeps layout mode At (p + Action.blocks later * m.settings.frameCount) := by
  induction later using List.reverseRecOn with
  | nil => exact ⟨t, found, by simpa [Action.blocks] using keeps⟩
  | append_singleton before action ih =>
    obtain ⟨u, had, keeps⟩ := ih
      (fun earlier member => spares earlier (List.mem_append_left _ member))
      fun earlier pts rest same => flows earlier pts (rest ++ [action]) (by simp [same])
    have settings := reachable.wellFormed.settings_run before
    rw [run_snoc, Action.blocks_snoc]
    by_cases render : ∃ pts, action = .render pts
    · obtain ⟨pts, rfl⟩ := render
      obtain ⟨t', after, keeps'⟩ := (reachable.run before).keeps_render streams had
        (by rw [settings]; exact size) keeps (flows before pts [] rfl)
      rw [settings] at keeps'
      refine ⟨t', after, ?_⟩
      rw [if_pos (show (Action.render pts : Action σ).isRender = true from rfl), Nat.add_mul,
        Nat.one_mul, ← Nat.add_assoc]
      exact keeps'
    · have quiet : action.isRender = false := by
        cases action with
        | render pts => exact absurd ⟨pts, rfl⟩ render
        | _ => rfl
      obtain ⟨place, after, kept, writes, edit⟩ :=
        (m.run before).act_edit action fun pts same => render ⟨pts, same⟩
      rw [quiet, if_neg Bool.false_ne_true, Nat.add_zero]
      by_cases here : slot = place
      · subst here
        rw [had] at edit
        obtain ⟨t', rfl, keeps'⟩ :=
          edit.keeps (spares action (List.mem_append_right _ List.mem_cons_self)) keeps
        exact ⟨t', writes.track?_self, keeps'⟩
      · exact ⟨u, (writes.track?_ne here).trans had, keeps⟩

/-- A track that follows what its provider plays reads the frames from its position on. -/
theorem Reachable.read_frames (reachable : Reachable m) {x : Nat → Samples}
    (streams : Streams (rawFrames layout.mask.channelCount) x At)
    (found : m.track? slot = some t) (size : layout.maxFrames = m.settings.frameCount)
    (keeps : t.Keeps layout mode At p) {pts : Option Int} (flows : m.Flows slot pts) :
    (t.read t.mixInput (.ofCount t.mixChannelCount) m.settings.frameCount m.settings.sampleRate
      pts).1 = (List.range m.settings.frameCount).map fun i => layout.voice mode (x (p + i)) := by
  obtain ⟨same, rfl, chain, works, there⟩ := keeps
  have sound := reachable.wellFormed.sound slot t found
  have suits := sound.chain chain works.given
  rw [← size, same] at suits
  have whole := works.fed
  rw [same] at whole
  rw [size] at works
  have honest := works.honest
  have grants := works.grants sound
  have supply := Provider.pull_supplies t.mixInput (.ofCount t.mixChannelCount)
    (stampAfter pts m.settings.sampleRate) m.settings.frameCount chain grants
  have pos : 0 < layout.mask.channelCount := by
    rw [← same]
    exact ChannelMask.channelCount_pos sound.valid
  have mixed : t.mixChannelCount = min layout.mask.channelCount maxMixChannels := by
    rw [← same]
    rfl
  -- the supply is found at the pace of the block, and so it is as long as the block
  obtain ⟨calls, paced, released⟩ := supply.paced grants
  obtain ⟨_, _, calls', -, -, paced', full⟩ := reachable.paced_block found works flows
  obtain ⟨rfl, -⟩ := Paced.unique
    (Chain.Suits.paced_source paced honest suits (Nat.le_of_eq size.symm)) paced'
  unfold Track.read
  simp only [works.given]
  rw [mixed] at supply released ⊢
  have plays := supply.streams (Chain.streams t.downmix pos streams) ⟨suits, whole, honest, there⟩
  rwa [← released, full] at plays

/-- Frames of a track are heard in a block: the main buses hold what tasks of the enabled tracks add
up to, of which that of the track plays the frames under its gains, unless it is passed over since
the track is muted. -/
def Hears (m : Mixer σ) (pts : Option Int) (slot : Slot) (t : Track σ)
    (frames : List (Stereo Float32)) : Prop :=
  ∃ tasks, List.Forall₂ (fun entry task => task.slot = entry.1 ∧ task.Follows entry.2)
      m.enabledTracks tasks ∧
    (m.render pts).mainBuses = (runTasks pts tasks
      (.empty m.mainBuses.length m.auxBuses.length)
      { m with plan := some m.currentPlan }).1.mainBlocks m.settings.frameCount
        m.currentPlan.formats ∧
    ∀ task ∈ tasks, task.slot = slot →
      (t.demands.mute = true ∧ (runKernel m.settings task pts t).1 = none) ∨
      ∃ played, (runKernel m.settings task pts t).1 = some played ∧
        played.contributions = frames.mapIdx fun i frame =>
          (t.volume.after i).contribution (.ofCount t.mixChannelCount) frame

/-- What is heard of a track that is not resampled is what it reads. -/
theorem Reachable.hears_read (reachable : Reachable m) (found : m.track? slot = some t)
    (given : t.chain.isSome = true) (unresampled : t.resampler = none) (pts : Option Int) :
    m.Hears pts slot t (t.read t.mixInput (.ofCount t.mixChannelCount) m.settings.frameCount
      m.settings.sampleRate pts).1 := by
  obtain ⟨tasks, follow, mixed⟩ := reachable.mainBuses_render pts
  refine ⟨tasks, follow, mixed, fun task member here => ?_⟩
  obtain ⟨⟨place, u⟩, listed, same, d, aged, made⟩ := exists_of_forall₂ follow member
  obtain rfl : place = slot := same.symm.trans here
  obtain rfl : u = t := Option.some.inj ((mem_enabledTracks.mp listed).1.symm.trans found)
  have fed : u.chain.isNone = false := by simpa using given
  have resample : d.resample = false := by
    rw [← aged.resample]
    simp [Track.demands, unresampled]
  have channels : task.channels = .ofCount u.mixChannelCount := by
    rw [made]
    exact aged.channels.symm
  unfold runKernel
  cases mute : d.mute with
  | true =>
    have kernel : task.kernel = .idle := by
      rw [made]
      simp [Task.made, mute]
    rw [kernel]
    exact .inl ⟨aged.mute mute, rfl⟩
  | false =>
    have kernel : task.kernel = .direct u.mixInput := by
      rw [made]
      simp [Task.made, fed, mute, resample]
    obtain ⟨chain', moved⟩ := u.read_snd u.mixInput (.ofCount u.mixChannelCount)
      m.settings.frameCount m.settings.sampleRate pts
    rw [kernel, channels]
    refine .inr ⟨_, rfl, ?_⟩
    rw [Track.playDirect_eq, moved]

/-- However a block is rendered, whatever the gains and routes of a track and the other tracks are,
a provider at work gets calls that only its own answers decide. Each request asks for the frames
that are missing, at the time of the first of them. So while a track works on undisturbed and its
provider does not run dry, each block lets go the next frames of what the provider plays, and plays
them unless the track is muted. Nothing is asked of the providers of the other tracks. -/
theorem Reachable.keeps_time (reachable : Reachable m) (found : m.track? slot = some t)
    {chain : Chain σ} (works : t.AtWork m.settings.frameCount chain) :
    (∀ pts : Option Int, ∃ calls source',
      Paced (fun done => pts.map (· + framesToNanos done m.settings.sampleRate))
        m.settings.frameCount 0 chain.source calls source' ∧
      (∀ before asked stamp granted rest, calls = before ++ .request asked stamp granted :: rest →
        asked = m.settings.frameCount - Call.released before ∧
        stamp = pts.map (· + framesToNanos (Call.released before) m.settings.sampleRate)) ∧
      ∀ (m' : Mixer σ) (slot' : Slot) (t' : Track σ) (chain' : Chain σ), Reachable m' →
        m'.settings.frameCount = m.settings.frameCount →
        m'.settings.sampleRate = m.settings.sampleRate → m'.track? slot' = some t' →
        t'.AtWork m'.settings.frameCount chain' → chain'.source = chain.source →
        m'.SeesCalls slot' t' pts calls) ∧
    ∀ (x : Nat → Samples) (At : σ → Nat → Prop) (p : Nat),
      Streams (rawFrames t.mask.channelCount) x At → At chain.source p →
      ∀ (later : List (Action σ)) (pts : Option Int), (∀ action ∈ later, action.Spares slot) →
        (∀ earlier pts' rest, later ++ [.render pts] = earlier ++ .render pts' :: rest →
          (m.run earlier).Flows slot pts') →
        let start := p + Action.blocks later * m.settings.frameCount
        ∃ t' chain' calls source', (m.run later).track? slot = some t' ∧
          t'.AtWork m.settings.frameCount chain' ∧ At chain'.source start ∧
          Paced (fun done => pts.map (· + framesToNanos done m.settings.sampleRate))
            m.settings.frameCount 0 chain'.source calls source' ∧
          (m.run later).SeesCalls slot t' pts calls ∧
          Call.released calls = m.settings.frameCount ∧
          At source' (start + m.settings.frameCount) ∧
          (m.run later).Hears pts slot t' ((List.range m.settings.frameCount).map fun i =>
            (t.layout m.settings.frameCount).voice t.downmix (x (start + i))) := by
  refine ⟨fun pts => ?_, fun x At p streams there later pts spares flows => ?_⟩
  · obtain ⟨⟨_, -, served⟩, -⟩ := reachable.render_orderly pts found works.given
    obtain ⟨chain', calls, -, paced⟩ :=
      served.paced (reachable.wellFormed.sound slot t found) works
    generalize chain'.source = after at paced
    refine ⟨calls, after, paced, fun before asked stamp granted rest split => ?_, ?_⟩
    · obtain ⟨amount, time, -⟩ := paced.request_eq split
      rw [Nat.zero_add] at time
      exact ⟨amount, time⟩
    · intro m' slot' t' chain' reachable' frameCount rate found' works' source
      have paced' : Paced (stampAfter pts m'.settings.sampleRate) m'.settings.frameCount 0
          chain'.source calls after := by
        rw [frameCount, rate, source]
        exact paced
      exact reachable'.seesCalls found' works' paced'
  · intro start
    have settings := reachable.wellFormed.settings_run later
    have size : (t.layout m.settings.frameCount).maxFrames = m.settings.frameCount := rfl
    have size' : (t.layout m.settings.frameCount).maxFrames =
        (m.run later).settings.frameCount :=
      size.trans (congrArg Settings.frameCount settings.symm)
    have keeps : t.Keeps (t.layout m.settings.frameCount) t.downmix At p :=
      ⟨rfl, rfl, chain, works, there⟩
    obtain ⟨t', found', keeps'⟩ := reachable.keeps_run streams found size keeps later spares
      fun earlier pts' rest same => flows earlier pts' (rest ++ [.render pts]) (by simp [same])
    have flow := flows later pts [] rfl
    have plays : Streams (rawFrames (t.layout m.settings.frameCount).mask.channelCount) x At :=
      streams
    have heard := (reachable.run later).read_frames plays found' size' keeps' flow
    obtain ⟨-, -, chain', works', there'⟩ := keeps'
    rw [size'] at works'
    obtain ⟨_, chain'', calls, -, -, paced, released⟩ :=
      (reachable.run later).paced_block found' works' flow
    have hears := (reachable.run later).hears_read found'
      (Option.isSome_iff_exists.mpr ⟨chain', works'.given⟩) works'.unresampled pts
    have sees := (reachable.run later).seesCalls found' works' paced
    have moved := paced.streams streams there'
    rw [heard] at hears
    rw [settings] at works' paced released hears
    rw [released] at moved
    exact ⟨t', chain', calls, chain''.source, found', works', there', paced, sees, released, moved,
      hears⟩

/-- A clip of seven frames in blocks of two, over and over: it is heard in the first block, muted in
the second, and muted next to another track in the third. The fourth block takes its last frame, and
its first frame by a second request, a frame later. -/
theorem Reachable.keeps_time_muted :
    let slot : Slot := ⟨0, by decide⟩
    let clip := Clip.ofSamples 1 (.pcm16 #[1, 2, 3, 4, 5, 6, 7]) true
    let later : List (Action Clip) := [.render (some 1000), .set slot (.gain .left 0 false),
      .set slot (.gain .right 0 false), .render (some 1000), .setEnabled ⟨1, by decide⟩ true,
      .render (some 1000), .set slot (.gain .left 1 false)]
    ∃ (m : Mixer Clip) (t t' : Track Clip), Reachable m ∧ m.track? slot = some t ∧
      (m.run later).track? slot = some t' ∧
      (m.run later).SeesCalls slot t' (some 1000)
        [.request 2 (some 1000) (some 1), .release 1, .request 1 (some 21833) (some 1),
          .release 1] ∧
      (m.run later).Hears (some 1000) slot t' ([6, 0].map fun i =>
        (t.layout 2).voice t.downmix (clip.frames i (i + 1))) := by
  intro slot clip later
  let whole := later ++ [.render (some 1000)]
  let ready (t : Track Clip) : Bool := t.enabled && t.resampler.isNone &&
    t.chain.any fun chain => Provider.channels chain.source == t.mask.channelCount &&
      Provider.format chain.source == t.format
  let fresh (c : Clip) : Bool := c.channels == 1 && c.position == 0 &&
    (c.samples.format == .pcm16 && c.samples.words == [1, 2, 3, 4, 5, 6, 7])
  let callsAt (m : Mixer Clip) (n : Nat) :=
    ((m.run (whole.take n)).recorded.render (some 1000)).calls? slot
  obtain ⟨m, reachable, blocks, works, source, single, runs, last⟩ : ∃ m : Mixer Clip,
      Reachable m ∧ m.settings.frameCount = 2 ∧ (m.track? slot).any ready = true ∧
      ((m.track? slot).bind Track.source?).any fresh = true ∧
      (m.track? slot).map (fun t => t.mask.channelCount) = some 1 ∧
      (∀ n < 8, (callsAt m n).all (List.all · Call.isGranted) = true) ∧
      callsAt m 7 = some [.request 2 (some 1000) (some 1), .release 1,
        .request 1 (some 21833) (some 1), .release 1] :=
    ⟨_, .run (.new (rfl : Mixer.new { frameCount := 2 } none = .ok _))
      [.allocate .mono .pcm16 0, .attach slot (some clip), .setEnabled slot true,
        .allocate .mono .pcm16 0, .attach ⟨1, by decide⟩ (some clip)],
      by decide +kernel, by decide +kernel, by decide +kernel, by decide +kernel,
      by decide +kernel, by decide +kernel⟩
  obtain ⟨t, found, works⟩ := (Option.any_eq_true _ _).mp works
  simp only [ready, Bool.and_eq_true, Option.isNone_iff_eq_none] at works
  obtain ⟨⟨enabled, unresampled⟩, fed⟩ := works
  obtain ⟨chain, given, fed⟩ := (Option.any_eq_true _ _).mp fed
  simp only [Bool.and_eq_true, beq_iff_eq] at fed
  have atWork : t.AtWork m.settings.frameCount chain :=
    ⟨enabled, given, unresampled, fed, Clip.honest.honestFrom _⟩
  have start : clip.PlaysAt chain.source 0 := by
    rw [found] at source
    simp only [Option.bind_some, Track.source?, given, Option.map_some, Option.any_some, fresh,
      Bool.and_eq_true, beq_iff_eq] at source
    obtain ⟨⟨channels, position⟩, format, words⟩ := source
    refine ⟨?_, channels, by rw [position]; exact Nat.zero_le _, by rw [position]⟩
    cases held : chain.source.samples with
    | pcm16 held_words =>
      rw [held] at words
      exact congrArg Samples.pcm16 (Array.toList_inj.mp words)
    | _ => simp [held, Samples.format] at format
  have flows : ∀ earlier pts rest, whole = earlier ++ .render pts :: rest →
      (m.run earlier).Flows slot pts := by
    intro earlier pts rest same
    have short : earlier.length < 8 := by
      have lengths := congrArg List.length same
      simp only [whole, later, List.length_append, List.length_cons, List.length_nil] at lengths
      omega
    have listed : Action.render pts ∈ whole := by simp [same]
    obtain rfl : pts = some 1000 := by simpa [whole, later] using listed
    have flowed := runs _ short
    simp only [callsAt, same, List.take_left] at flowed
    exact flows_of_granted flowed
  have channels : t.mask.channelCount = 1 := by
    rw [found] at single
    exact Option.some.inj single
  have streams := clip.streams
  rw [show clip.channels = t.mask.channelCount from channels.symm] at streams
  obtain ⟨-, plays⟩ := Reachable.keeps_time reachable found atWork
  obtain ⟨t', -, seen, -, found', -, -, -, sees, -, -, hears⟩ := plays _ _ 0 streams start later
    (some 1000) (by simp [later, Action.Spares, TrackSetting.SparesInput]) flows
  obtain rfl : seen = _ := Option.some.inj (sees.render.symm.trans last)
  refine ⟨m, t, t', reachable, found, found', sees, ?_⟩
  have positions :
      (List.range 2).map (fun i => (0 + Action.blocks later * 2 + i) % clip.frameCount) =
      [6, 0] := by
    decide
  rw [← positions, List.map_map]
  rw [blocks] at hears
  exact hears

end Mixer

end Mixdown
