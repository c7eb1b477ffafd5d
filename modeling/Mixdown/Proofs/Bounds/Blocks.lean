import Mixdown.Proofs.Bounds.Buffers

/-!
# Blocks within bounds

A block with every check that is made in the course of it: `render?` fails where an index or a range
lies outside its run, where a size, a difference, a division, the position of a resampler or a time
leaves its range, and where a loop is cut short. Sizes and positions are kept in 64 bits and times
are signed 64-bit numbers. For every mixer that can be reached, and whatever its providers answer,
it does not fail, and it is the block that is mixed (`within_bounds`). What happens inside a
provider is not checked, and neither is the count of underruns, which a block raises by one for each
of its tracks at most.
-/

namespace Mixdown

theorem vector_mapM_eq_some_map {α β : Type} {n : Nat} {f : α → Option β} {g : α → β}
    {xs : Vector α n} (each : ∀ x ∈ xs, f x = some (g x)) : xs.mapM f = some (xs.map g) := by
  have listed : xs.toArray.toList.mapM f = some (xs.toArray.toList.map g) :=
    mapM_eq_some_map fun x member => each x (by simpa using member)
  rw [← Array.toList_mapM, ← Vector.toArray_mapM] at listed
  cases result : xs.mapM f with
  | none => simp [result] at listed
  | some ys =>
    rw [result] at listed
    have same : ys.toArray.toList = xs.toArray.toList.map g := Option.some.inj listed
    refine congrArg some (Vector.toArray_inj.mp (Array.toList_inj.mp ?_))
    rw [same, Vector.toArray_map, Array.toList_map]

namespace Track.Bounded

variable {σ : Type} [Provider σ] {t : Track σ} {frameCount : Nat} {rate : UInt32}

/-- A track stays within its bounds in the course of a block, if its resampler does. -/
theorem moved {t' : Track σ} (bounded : t.Bounded frameCount rate) (moved : t.Moved t')
    (kept : ∀ r, t'.resampler = some r → r.Bounded) : t'.Bounded frameCount rate where
  chain c given := by
    obtain ⟨old, had, moves⟩ := exists_before moved.chain given
    obtain ⟨layout, mode, fits, suits⟩ := bounded.chain old had
    exact ⟨layout, mode, fits, suits.moves moves⟩
  resampler r has := by
    obtain ⟨old, had, same⟩ := exists_before moved.resampler has
    obtain ⟨-, sameRate, width⟩ := bounded.resampler old had
    refine ⟨kept r has, same.outputRate.trans sameRate, ?_⟩
    rw [same.channels, width, mixChannelCount, mixChannelCount, moved.mask_eq]

/-- The part of a track in a block leaves it within its bounds. -/
theorem runKernel (bounded : t.Bounded frameCount rate) (settings : Settings) (task : Task)
    (pts : Option Int) : (Mixer.runKernel settings task pts t).2.Bounded frameCount rate := by
  refine bounded.moved (Mixer.runKernel_moved settings task pts t) ?_
  intro r has
  unfold Mixer.runKernel at has
  cases kernel : task.kernel with
  | idle =>
    have same : (t.passOver settings.frameCount settings.sampleRate pts).resampler =
        t.resampler := by
      unfold passOver
      cases t.chain <;> rfl
    rw [kernel] at has
    exact (bounded.resampler r (same.symm.trans has)).1
  | direct input =>
    obtain ⟨chain, read⟩ := t.read_snd input task.channels settings.frameCount
      settings.sampleRate pts
    simp only [kernel, playDirect_eq, read] at has
    exact (bounded.resampler r has).1
  | resampled =>
    simp only [kernel, playResampled_eq] at has
    unfold readResampled at has
    split at has
    · rename_i chain old given had
      obtain rfl := Option.some.inj has
      exact (old.resample_produces settings.frameCount
        (settings.frameCount * task.channels.count) chain pts).bounded (bounded.resampler old had).1
    · exact (bounded.resampler r has).1

end Track.Bounded

namespace Mixer

variable {σ : Type}

/-- `currentPlan`, where the channels of each enabled track are counted from one for a new plan. -/
def plan? (m : Mixer σ) : Option Plan :=
  match m.plan with
  | some plan => some plan
  | none => do
    let _ ← m.enabledTracks.mapM fun (_, t) => minus? t.mixChannelCount 1
    some m.makePlan

/-- The place of a block on the main bus of a track and, with a send, on its auxiliary bus, if there
is one. -/
def place? (m : Mixer σ) (t : Track σ) (send : Bool) : Option BusRange := do
  let bus ← m.mainBus? t.mainBus
  let size ← word? (m.settings.frameCount * maxMixChannels)
  let main ← part? bus.size 0 size
  match (if send then t.auxBus else none).bind m.auxBus? with
  | none => some ⟨main, none⟩
  | some held => do some ⟨main, ← part? held.length 0 m.settings.frameCount⟩

variable [Provider σ]

/-- `renderSilent`, with every loop checked. -/
def renderSilent? (m : Mixer σ) (formats : List MixFormat) (pts : Option Int) :
    Option (Mixer σ) := do
  let tracks ← m.tracks.mapM fun track => match track with
    | none => some none
    | some t =>
      if t.enabled then do
        some (some (← t.passOver? m.settings.frameCount m.settings.sampleRate pts))
      else some (some t)
  some { m.silenced formats with tracks }

/-- `renderFused`, where each buffer is written to what is left of the bus, and silence behind the
last one. -/
def renderFused? (m : Mixer σ) (slot : Slot) (channels : Channels) (input output : MixFormat)
    (formats : List MixFormat) (pts : Option Int) : Option (Mixer σ) := do
  let t ← m.track? slot
  let frameCount := m.settings.frameCount
  let place ← m.place? t false
  let (frames, t) ← t.read? input channels frameCount m.settings.sampleRate
    (fun done _ => place.rest? done) pts
  let _ ← place.rest? frames.length
  let silent := m.silenced formats
  some { silent.setTrack slot (some t) with
    mainBuses := silent.mainBuses.set t.mainBus (fusedBlock output frameCount t.volume frames)
    underruns := if frames.length = frameCount then m.underruns else m.underruns + 1 }

/-- `runKernel`, where a track that is mixed has its place on the buses. -/
def runKernel? (m : Mixer σ) (task : Task) (pts : Option Int) (t : Track σ) :
    Option (Option (Played σ) × Track σ) :=
  match task.kernel with
  | .idle => do some (none, ← t.passOver? m.settings.frameCount m.settings.sampleRate pts)
  | .direct input => do
    let place ← m.place? t task.aux
    let played ← t.playDirect? input task.channels m.settings.frameCount m.settings.sampleRate
      place pts
    some (some played, played.track)
  | .resampled => do
    let place ← m.place? t task.aux
    let played ← t.playResampled? task.channels m.settings.frameCount place pts
    some (some played, played.track)

/-- `runTask`, for the track that is in the slot of the task. -/
def runTask? (pts : Option Int) (sums : Sums) (m : Mixer σ) (task : Task) :
    Option (Sums × Mixer σ) := do
  let t ← m.track? task.slot
  match ← m.runKernel? task pts t with
  | (none, t) => some (sums, m.setTrack task.slot (some t))
  | (some played, t) =>
    let auxBus := if task.aux then t.auxBus else none
    let m := m.setTrack task.slot (some t)
    let m := if played.complete then m else { m with underruns := m.underruns + 1 }
    let m := if task.ramp && !t.volume.isMoving then m.invalidated else m
    some (sums.write m.settings.frameCount t.mainBus auxBus played.contributions, m)

/-- `renderGeneral`, with every task checked. -/
def renderGeneral? (m : Mixer σ) (tasks : List Task) (formats : List MixFormat)
    (pts : Option Int) : Option (Mixer σ) := do
  let (sums, m) ← tasks.foldlM (fun (sums, m) task => runTask? pts sums m task)
    (Sums.empty m.mainBuses.length m.auxBuses.length, m)
  some { m with
    mainBuses := sums.mainBlocks m.settings.frameCount formats
    auxBuses := sums.auxBlocks m.settings.frameCount }

/-- `renderBy`, with every strategy checked. -/
def renderBy? (m : Mixer σ) (plan : Plan) (pts : Option Int) : Option (Mixer σ) :=
  let m := { m with plan := some plan }
  match plan.strategy with
  | .silent => m.renderSilent? plan.formats pts
  | .fused slot channels input output =>
    m.renderFused? slot channels input output plan.formats pts
  | .general tasks => m.renderGeneral? tasks plan.formats pts

/-- `render`, with every check that is made in the course of a block. -/
def render? (m : Mixer σ) (pts : Option Int) : Option (Mixer σ) := do
  m.renderBy? (← m.plan?) pts

/-- The tracks and the buses are within their bounds, and the times of a block are in range. -/
structure Bounded (m : Mixer σ) (pts : Option Int) : Prop where
  tracks : ∀ slot t, m.track? slot = some t →
    t.Bounded m.settings.frameCount m.settings.sampleRate ∧ t.mainBus < m.mainBuses.length ∧
      0 < t.mixChannelCount
  mainBuses : ∀ bus block, m.mainBus? bus = some block →
    block.size = 2 * m.settings.frameCount
  auxBuses : ∀ bus samples, m.auxBus? bus = some samples →
    samples.length = m.settings.frameCount
  memory : 8 * m.settings.frameCount < 0x8000_0000_0000_0000
  timely : Timely pts m.settings.sampleRate m.settings.frameCount

/-- Tasks write to sums of their own, and leave what the buses hold. -/
theorem buses_runTask (pts : Option Int) (sums : Sums) (m : Mixer σ) (task : Task) :
    (runTask pts sums m task).2.mainBuses = m.mainBuses ∧
      (runTask pts sums m task).2.auxBuses = m.auxBuses := by
  unfold runTask
  cases m.track? task.slot with
  | none => exact ⟨rfl, rfl⟩
  | some t =>
    simp only
    rcases runKernel m.settings task pts t with ⟨_ | played, t'⟩
    · exact ⟨rfl, rfl⟩
    · simp only
      split
      · split
        · exact ⟨rfl, rfl⟩
        · exact ⟨rfl, rfl⟩
      · split
        · exact ⟨rfl, rfl⟩
        · exact ⟨rfl, rfl⟩

namespace Bounded

variable {m : Mixer σ} {pts : Option Int} {slot : Slot} {t : Track σ}

omit [Provider σ] in
theorem short (bounded : m.Bounded pts) : m.settings.frameCount < 0x8000_0000_0000_0000 := by
  have memory := bounded.memory
  omega

omit [Provider σ] in
theorem small (bounded : m.Bounded pts) :
    m.settings.frameCount * maxMixChannels < UInt64.size := by
  have memory := bounded.memory
  simp only [maxMixChannels, UInt64.size]
  omega

omit [Provider σ] in
theorem plan?_eq (bounded : m.Bounded pts) : m.plan? = some m.currentPlan := by
  unfold Mixer.plan? currentPlan
  cases m.plan with
  | some plan => rfl
  | none =>
    have counted : m.enabledTracks.mapM (fun (_, t) => minus? t.mixChannelCount 1) =
        some (m.enabledTracks.map fun entry => entry.2.mixChannelCount - 1) :=
      mapM_eq_some_map fun entry member =>
        minus?_eq (bounded.tracks entry.1 entry.2 (mem_enabledTracks.mp member).1).2.2
    simp only [counted, Option.bind_eq_bind, Option.bind_some]
    rfl

omit [Provider σ] in
/-- The place of a track is for a whole block. -/
theorem place?_eq (bounded : m.Bounded pts) (found : m.track? slot = some t) (send : Bool) :
    ∃ sends, m.place? t send = some (.ofFrames m.settings.frameCount sends) ∧
      (send = false → sends = false) := by
  obtain ⟨-, exist, -⟩ := bounded.tracks slot t found
  have held : m.mainBus? t.mainBus = some m.mainBuses[t.mainBus] := List.getElem?_eq_getElem exist
  have size := bounded.mainBuses t.mainBus _ held
  have room : m.settings.frameCount * maxMixChannels ≤ m.mainBuses[t.mainBus].size := by
    rw [size, Nat.mul_comm]
    exact Nat.le_refl _
  simp only [Mixer.place?, held, word?_eq bounded.small, part?_eq (Nat.zero_le _) room,
    Option.bind_eq_bind, Option.bind_some, Nat.sub_zero]
  cases aux : (if send then t.auxBus else none).bind m.auxBus? with
  | none => exact ⟨false, rfl, fun _ => rfl⟩
  | some samples =>
    obtain ⟨bus, chosen, held⟩ := Option.bind_eq_some_iff.mp aux
    have length := bounded.auxBuses bus samples held
    refine ⟨true, ?_, ?_⟩
    · simp only [part?_eq (Nat.zero_le _) (Nat.le_of_eq length.symm), Option.bind_some]
      rfl
    · rintro rfl
      nomatch chosen

/-- A block in which nothing is heard is within bounds. -/
theorem renderSilent?_eq (bounded : m.Bounded pts) (formats : List MixFormat) :
    m.renderSilent? formats pts = some (m.renderSilent formats pts) := by
  unfold Mixer.renderSilent?
  rw [vector_mapM_eq_some_map (g := fun track => track.map fun t =>
    if t.enabled then t.passOver m.settings.frameCount m.settings.sampleRate pts else t)]
  · rfl
  · intro track member
    cases track with
    | none => rfl
    | some t =>
      obtain ⟨i, inside, found⟩ := Vector.getElem_of_mem member
      have found : m.track? ⟨i, inside⟩ = some t := found
      obtain ⟨there, -⟩ := bounded.tracks ⟨i, inside⟩ t found
      simp only [Option.map_some]
      split
      · rw [there.passOver?_eq bounded.timely bounded.short]
        rfl
      · rfl

/-- A block of a single track that is written straight to its bus is within bounds. -/
theorem renderFused?_eq (bounded : m.Bounded pts) (found : m.track? slot = some t)
    (channels : Channels) (input output : MixFormat) (formats : List MixFormat) :
    m.renderFused? slot channels input output formats pts =
      some (m.renderFused slot channels input output formats pts) := by
  obtain ⟨there, -⟩ := bounded.tracks slot t found
  obtain ⟨sends, placed, only⟩ := bounded.place?_eq found false
  obtain rfl := only rfl
  have left (done stop : Nat) (order : done ≤ stop) (inside : stop ≤ m.settings.frameCount) :
      ∃ p, (BusRange.ofFrames m.settings.frameCount false).rest? done = some p ∧
        p.Holds (stop - done) :=
    ⟨_, BusRange.rest?_ofFrames (Nat.le_trans order inside) bounded.small,
      (BusRange.holds_ofFrames _ false).of_le (Nat.sub_le_sub_right inside done)⟩
  have few := t.length_read input channels m.settings.frameCount m.settings.sampleRate pts
  simp only [Mixer.renderFused?, found, placed, there.read?_eq bounded.timely bounded.short left,
    BusRange.rest?_ofFrames few bounded.small, Option.bind_eq_bind, Option.bind_some, renderFused]

/-- The part of a track in a block is within bounds. -/
theorem runKernel?_eq (bounded : m.Bounded pts) (found : m.track? slot = some t) {task : Task}
    (fits : task.Fits t) :
    m.runKernel? task pts t = some (runKernel m.settings task pts t) := by
  obtain ⟨there, -⟩ := bounded.tracks slot t found
  obtain ⟨sends, placed, -⟩ := bounded.place?_eq found task.aux
  unfold Mixer.runKernel? runKernel
  cases task.kernel with
  | idle =>
    simp only [there.passOver?_eq bounded.timely bounded.short, Option.bind_eq_bind,
      Option.bind_some]
  | direct input =>
    simp only [placed, there.playDirect?_eq bounded.timely bounded.small, Option.bind_eq_bind,
      Option.bind_some]
  | resampled =>
    simp only [placed, there.playResampled?_eq bounded.timely bounded.small fits.channels,
      Option.bind_eq_bind, Option.bind_some]

/-- A task of a block is within bounds. -/
theorem runTask?_eq (bounded : m.Bounded pts) {task : Task} (found : m.track? task.slot = some t)
    (fits : task.Fits t) (sums : Sums) :
    runTask? pts sums m task = some (runTask pts sums m task) := by
  unfold runTask? runTask
  simp only [found, bounded.runKernel?_eq found fits, Option.bind_eq_bind, Option.bind_some]
  rcases runKernel m.settings task pts t with ⟨_ | played, t'⟩
  · rfl
  · rfl

/-- A task of a block leaves a mixer within its bounds. -/
theorem runTask (bounded : m.Bounded pts) (sums : Sums) (task : Task) :
    (Mixer.runTask pts sums m task).2.Bounded pts := by
  have rendered := rendered_runTask pts sums m task
  obtain ⟨settings, others⟩ := runTask_rest pts sums m task
  obtain ⟨mainBuses, auxBuses⟩ := buses_runTask pts sums m task
  refine ⟨?_, ?_, ?_, settings ▸ bounded.memory, settings ▸ bounded.timely⟩
  · intro slot t' found
    obtain ⟨t, had, moved⟩ := exists_before (rendered.tracks slot) found
    obtain ⟨there, exist, counted⟩ := bounded.tracks slot t had
    refine ⟨?_, ?_, ?_⟩
    · by_cases here : slot = task.slot
      · subst here
        rw [runTask_self, had] at found
        obtain rfl := Option.some.inj found
        rw [settings]
        exact there.runKernel m.settings task pts
      · rw [others slot here, had] at found
        obtain rfl := Option.some.inj found
        rw [settings]
        exact there
    · rw [mainBuses, moved.mainBus_eq]
      exact exist
    · rw [Track.mixChannelCount, moved.mask_eq]
      exact counted
  · rw [settings]
    unfold mainBus?
    rw [mainBuses]
    exact bounded.mainBuses
  · rw [settings]
    unfold auxBus?
    rw [auxBuses]
    exact bounded.auxBuses

/-- The tasks of a block are within bounds. -/
theorem runTasks?_eq (bounded : m.Bounded pts) {tasks : List Task}
    (fit : ∀ task ∈ tasks, ∃ t, m.track? task.slot = some t ∧ task.Fits t) (sums : Sums) :
    tasks.foldlM (fun (sums, m) task => runTask? pts sums m task) (sums, m) =
      some (runTasks pts tasks sums m) := by
  induction tasks generalizing sums m with
  | nil => rfl
  | cons task rest ih =>
    obtain ⟨t, found, fits⟩ := fit task List.mem_cons_self
    have rendered := rendered_runTask pts sums m task
    have later : ∀ task' ∈ rest, ∃ t, (Mixer.runTask pts sums m task).2.track? task'.slot = some t ∧
        task'.Fits t := by
      intro task' member
      obtain ⟨t, had, fits⟩ := fit task' (List.mem_cons_of_mem task member)
      have moved := rendered.tracks task'.slot
      rw [had] at moved
      generalize (Mixer.runTask pts sums m task).2.track? task'.slot = after at moved
      cases moved with
      | some moved => exact ⟨_, rfl, fits.alike (alike_of_moved moved)⟩
    rw [List.foldlM_cons, runTasks_cons]
    simp only [bounded.runTask?_eq found fits, Option.bind_eq_bind, Option.bind_some]
    exact ih (bounded.runTask sums task) later _

/-- A block by a plan that stands is within bounds. -/
theorem renderBy?_eq (bounded : m.Bounded pts) {plan : Plan} (stands : plan.Stands m) :
    m.renderBy? plan pts = some (m.renderBy plan pts) := by
  let planned : Mixer σ := { m with plan := some plan }
  have bounded : planned.Bounded pts := { bounded with }
  unfold Plan.Stands at stands
  unfold Mixer.renderBy? renderBy
  cases strategy : plan.strategy with
  | silent => exact bounded.renderSilent?_eq plan.formats
  | fused slot channels input output =>
    rw [strategy] at stands
    cases stands with
    | fused _ _ _ _ t _ found _ _ =>
      exact bounded.renderFused?_eq (show planned.track? slot = some t from found) channels input
        output plan.formats
  | general tasks =>
    rw [strategy] at stands
    cases stands with
    | general _ slots fits =>
      have fit : ∀ task ∈ tasks, ∃ t, planned.track? task.slot = some t ∧ task.Fits t := by
        intro task member
        have listed : task.slot ∈ Slot.all.filter m.isEnabled :=
          slots ▸ List.mem_map_of_mem member
        obtain ⟨t, found, -⟩ := isEnabled_eq_true.mp (List.mem_filter.mp listed).2
        exact ⟨t, found, fits task member t found⟩
      have mixed := bounded.runTasks?_eq fit (.empty m.mainBuses.length m.auxBuses.length)
      simp only [renderGeneral?]
      rw [mixed]
      rfl

end Bounded

/-- A mixer that can be reached is within its bounds, if a block fits into memory and its times are
in range. -/
theorem Reachable.blockBounded {m : Mixer σ} (reachable : Reachable m)
    (memory : 8 * m.settings.frameCount < 0x8000_0000_0000_0000) {pts : Option Int}
    (timely : Timely pts m.settings.sampleRate m.settings.frameCount) : m.Bounded pts where
  tracks slot t found := by
    have wf := reachable.wellFormed
    have sound := wf.sound slot t found
    refine ⟨reachable.bounded memory found, ?_, ?_⟩
    · rw [wf.mainBuses]
      exact sound.mainBus
    · exact Nat.lt_min.mpr ⟨ChannelMask.channelCount_pos sound.valid, by decide⟩
  mainBuses bus block held := reachable.size_mainBus? held
  auxBuses bus samples held := reachable.length_auxBus? held
  memory := memory
  timely := timely

/-- A block never leaves its bounds. In every mixer that can be reached, a block for which the
buses fit into memory (a frame of a main bus takes eight bytes, and no buffer has more than the
largest signed 64-bit number of them), and of which the times of its first frame and of its end are
signed 64-bit numbers, passes every check that is made in the course of it, and is the block that is
mixed. This is so whatever the providers answer: buffers that are empty, that hold fewer samples
than they claim or samples of another representation, or nothing at all. -/
theorem Reachable.within_bounds {m : Mixer σ} (reachable : Reachable m)
    (memory : 8 * m.settings.frameCount < 0x8000_0000_0000_0000) {pts : Option Int}
    (times : ∀ start, pts = some start → -0x8000_0000_0000_0000 ≤ start ∧
      start + framesToNanos m.settings.frameCount m.settings.sampleRate < 0x8000_0000_0000_0000) :
    m.render? pts = some (m.render pts) := by
  have bounded := reachable.blockBounded memory times
  have stands := stands_currentPlan reachable.wellFormed reachable.standing
  unfold render?
  rw [bounded.plan?_eq]
  exact bounded.renderBy?_eq stands

/-- A provider that hands out less than it claims and one that delivers another representation than
it declares, one of them mixed as it comes to both kinds of buses with a moving gain and the other
downmixed and resampled, in the last block that ends within the times. -/
theorem Reachable.within_bounds_overclaimed :
    let front : Slot := ⟨0, by decide⟩
    let surround : Slot := ⟨1, by decide⟩
    let short : Source := .scripted { Script.plain with chunk := some 3, claim := 5, stalls := [3] }
      (.clip (.ofSamples 1 (.float (Array.replicate 6 0.5)) true))
    let odd : Source :=
      .scripted { Script.plain with claim := 2, empties := [3], format := some .float }
        (.clip (.ofSamples 6 (.pcm16 (Array.replicate 30 100)) true))
    let setup : List (Action Source) := [.allocate .mono .float 0, .attach front (some short),
      .set front (.auxBus (some 0)), .set front (.gain .aux 0.5 true), .setEnabled front true,
      .allocate .fivePointOne .float 1, .attach surround (some odd),
      .set surround (.sampleRate 96000), .setEnabled surround true, .render none]
    let last : Int := 0x7fff_ffff_ffff_ffff - framesToNanos 4 48000
    let tasks : List Task :=
      [⟨front, .mono, .direct .float, true, true⟩, ⟨surround, .stereo, .resampled, false, false⟩]
    ∃ start, Mixer.new { frameCount := 4, rampFrames? := some 16, interpolation := .cubic }
        (some .standard) = .ok start ∧
      (start.run setup).currentPlan.strategy = .general tasks ∧
      (start.run setup).underruns = 0 ∧ ((start.run setup).render (some last)).underruns = 2 ∧
      (start.run setup).render? (some last) = some ((start.run setup).render (some last)) := by
  intro front surround short odd setup last tasks
  obtain ⟨start, built, planned, full, lacking, memory, times⟩ :
      ∃ start, Mixer.new { frameCount := 4, rampFrames? := some 16, interpolation := .cubic }
          (some .standard) = .ok start ∧
        (start.run setup).currentPlan.strategy = .general tasks ∧
        (start.run setup).underruns = 0 ∧ ((start.run setup).render (some last)).underruns = 2 ∧
        8 * (start.run setup).settings.frameCount < 0x8000_0000_0000_0000 ∧
        last + framesToNanos (start.run setup).settings.frameCount
          (start.run setup).settings.sampleRate < 0x8000_0000_0000_0000 :=
    ⟨_, rfl, by decide +kernel, by decide +kernel, by decide +kernel, by decide +kernel,
      by decide +kernel⟩
  refine ⟨start, built, planned, full, lacking,
    ((Reachable.new built).run setup).within_bounds memory ?_⟩
  rintro _ ⟨⟩
  exact ⟨by decide +kernel, times⟩

/-- The second buffer of a block that starts at the last time of all has no time any more. -/
example :
    let clip : Clip := .ofSamples 1 (.float #[0.5, 0.25]) true
    let slot : Slot := ⟨0, by decide⟩
    let setup : List (Action Clip) :=
      [.allocate .mono .float 0, .attach slot (some clip), .setEnabled slot true]
    ((Mixer.new { frameCount := 4 } none).toOption.map fun start =>
      ((start.run setup).render? (some 0x7fff_ffff_ffff_ffff)).isNone) = some true := by
  decide +kernel

end Mixer

end Mixdown
