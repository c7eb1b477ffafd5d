import Mixdown.Proofs.Mixer.TaskSums
import Mixdown.Proofs.Provider.Loops
import Mixdown.Proofs.Provider.Supply

/-!
# What a main bus holds after a block

Whatever the providers answer, a main bus holds a whole block. The block has the format that an
enabled track asks for that is routed to the bus, or else it is silent.
-/

namespace Mixdown

theorem length_deinterleave {α : Type} (samples : List α) :
    (deinterleave samples).length = samples.length / 2 := by
  induction samples using deinterleave.induct with
  | case1 left right rest ih =>
    rw [deinterleave, List.length_cons, ih, List.length_cons, List.length_cons]
    omega
  | case2 samples short =>
    rcases samples with _ | ⟨left, _ | ⟨right, rest⟩⟩
    · simp [deinterleave]
    · simp [deinterleave]
    · exact absurd rfl (short left right rest)

theorem length_layer {α : Type} (add : α → α → α) (silence : α) {frameCount : Nat}
    {sum : Option (List α)} {fresh : List α} (short : fresh.length ≤ frameCount)
    (full : ∀ frames, sum = some frames → frames.length = frameCount) :
    (layer add silence frameCount sum fresh).length = frameCount := by
  cases sum with
  | none =>
    simp only [layer, List.length_append, List.length_replicate]
    omega
  | some frames =>
    have length := full frames rfl
    simp only [layer, List.length_append, List.length_zipWith, List.length_drop]
    omega

/-- A run is read only in its own representation. -/
theorem Samples.format_of_stereoFrames? {s : Samples} {input : MixFormat} {channels : Channels}
    {count : Nat} {frames : List (Stereo Float32)}
    (found : s.stereoFrames? input channels count = some frames) : s.format = input.toSample := by
  cases input with
  | pcm16 =>
    cases s with
    | pcm16 data => rfl
    | pcm24Packed _ | pcm32 _ | float _ => nomatch found
  | float =>
    cases s with
    | float data => rfl
    | pcm16 _ | pcm24Packed _ | pcm32 _ => nomatch found

/-- No more frames are read of a run than were asked for. -/
theorem Samples.length_stereoFrames? {s : Samples} {input : MixFormat} {channels : Channels}
    {count : Nat} {frames : List (Stereo Float32)}
    (found : s.stereoFrames? input channels count = some frames) : frames.length ≤ count := by
  rw [stereoFrames?_eq (format_of_stereoFrames? found)] at found
  obtain rfl := Option.some.inj found
  have few : (s.singles.take (count * channels.count)).length ≤ count * channels.count :=
    List.length_take_le _ _
  cases channels with
  | mono =>
    simp only [List.length_map]
    exact Nat.le_trans few (Nat.le_of_eq (Nat.mul_one count))
  | stereo =>
    simp only [length_deinterleave]
    have pairs : (s.singles.take (count * Channels.stereo.count)).length ≤ count * 2 := few
    omega

namespace Provider

variable {σ : Type} [Provider σ]

/-- A reader of stereo frames reads no more of them than it lets go. -/
theorem length_listen {input : MixFormat} {channels : Channels} {asked whole : Nat} {b : Buffer}
    {frames : List (Stereo Float32)} (read : listen input channels asked b = (whole, some frames)) :
    whole ≤ asked ∧ frames.length ≤ whole := by
  unfold listen at read
  simp only at read
  rcases found : b.samples.stereoFrames? input channels
    (min (min b.frames asked) (b.samples.size / channels.count)) with _ | heard
  · rw [found] at read
    nomatch read
  · rw [found] at read
    obtain ⟨rfl, same⟩ := Prod.mk.inj read
    obtain rfl := Option.some.inj same
    exact ⟨Nat.le_trans (Nat.min_le_left _ _) (Nat.min_le_right _ _),
      Samples.length_stereoFrames? found⟩

/-- No more frames are read than were asked for. -/
theorem Pulls.length_le {input : MixFormat} {channels : Channels} {stamp : Nat → Option Int}
    {left done : Nat} {s s' : σ} {frames : List (Stereo Float32)}
    (pulls : Pulls (listen input channels) stamp left done s frames s') :
    frames.length ≤ left := by
  induction pulls with
  | finished _ _ => exact Nat.le_refl 0
  | refused _ _ => exact Nat.zero_le _
  | useless _ _ _ => exact Nat.zero_le _
  | stuck _ _ _ => exact Nat.zero_le _
  | round pos granted read some_released later ih =>
    obtain ⟨within, few⟩ := length_listen read
    rw [List.length_append]
    omega

end Provider

theorem length_flatten_whole {α : Type} {xss : List (List α)} {n : Nat}
    (whole : ∀ xs ∈ xss, xs.length = n) : xss.flatten.length = xss.length * n := by
  rw [List.length_flatten, List.map_congr_left whole, List.map_const', List.sum_replicate_nat]

namespace Resampler

variable {σ : Type} [Provider σ]

/-- The samples of the frames that are produced. -/
theorem length_flatten_resample (r : Resampler) (frames room : Nat) (s : σ) (pts : Option Int) :
    (r.resample frames room s pts).1.flatten.length =
      (r.resample frames room s pts).1.length * r.channels :=
  length_flatten_whole (r.produce_frames pts (min frames (room / r.channels)) 0 s).2

/-- The samples of frames that are produced fit. -/
theorem length_resample_flatten (r : Resampler) (frames room : Nat) (s : σ) (pts : Option Int) :
    (r.resample frames room s pts).1.flatten.length ≤ room := by
  have short := (r.produce_frames pts (min frames (room / r.channels)) 0 s).1
  have fit := Nat.le_trans short (Nat.min_le_right _ _)
  rw [r.length_flatten_resample]
  exact Nat.le_trans (Nat.mul_le_mul_right _ fit) (Nat.div_mul_le_self room r.channels)

end Resampler

namespace Track

variable {σ : Type} [Provider σ]

theorem length_read (input : MixFormat) (channels : Channels) (frameCount : Nat) (rate : UInt32)
    (pts : Option Int) (t : Track σ) :
    (t.read input channels frameCount rate pts).1.length ≤ frameCount := by
  unfold read
  cases t.chain with
  | none => exact Nat.zero_le _
  | some chain =>
    exact (Provider.pull_pulls (listen input channels) _ frameCount chain).length_le

theorem length_readResampled (channels : Channels) (frameCount : Nat) (pts : Option Int)
    (t : Track σ) : (t.readResampled channels frameCount pts).1.length ≤ frameCount := by
  unfold readResampled
  split
  · rename_i chain r _ _
    have fit := r.length_resample_flatten frameCount (frameCount * channels.count) chain pts
    cases channels with
    | mono =>
      simp only [List.length_map]
      exact Nat.le_trans fit (Nat.le_of_eq (Nat.mul_one frameCount))
    | stereo =>
      simp only [length_deinterleave]
      have pairs : frameCount * Channels.stereo.count = frameCount * 2 := rfl
      omega
  · exact Nat.zero_le _

end Track

namespace Mixer

variable {σ : Type} [Provider σ]

/-- A kernel adds no more frames than a block has. -/
theorem runKernel_short {settings : Settings} {task : Task} {pts : Option Int} {t : Track σ}
    {played : Played σ} (plays : (runKernel settings task pts t).1 = some played) :
    played.contributions.length ≤ settings.frameCount := by
  unfold runKernel at plays
  split at plays
  · nomatch plays
  · obtain rfl := Option.some.inj plays
    rw [Track.playDirect_eq]
    simp only [List.length_mapIdx]
    exact t.length_read ..
  · obtain rfl := Option.some.inj plays
    have few := t.length_readResampled task.channels settings.frameCount pts
    rw [Track.playResampled_eq]
    simp only [List.length_mapIdx, List.length_append, List.length_replicate]
    omega

/-- What a task leaves on a bus is a whole block, if what was there before is one, and either the
task is for a track of the bus or the bus was written to before. -/
theorem runTask_full {pts : Option Int} {sums : Sums} {m : Mixer σ} {task : Task} {bus : Nat}
    {frames : List (Stereo Float32)}
    (full : ∀ before, sums.main[bus]? = some (some before) →
      before.length = m.settings.frameCount)
    (written : (runTask pts sums m task).1.main[bus]? = some (some frames)) :
    frames.length = m.settings.frameCount ∧
      (sums.main[bus]? = some (some frames) ∨
        ∃ t, m.track? task.slot = some t ∧ t.mainBus = bus) := by
  cases found : m.track? task.slot with
  | none =>
    have same : (runTask pts sums m task).1 = sums := by
      unfold runTask
      rw [found]
    rw [same] at written
    exact ⟨full frames written, .inl written⟩
  | some t =>
    rw [main_runTask pts sums found, Option.map_eq_some_iff] at written
    obtain ⟨sum, before, after⟩ := written
    by_cases here : t.mainBus = bus
    · rw [if_pos (beq_iff_eq.mpr here)] at after
      refine ⟨?_, .inr ⟨t, rfl, here⟩⟩
      cases plays : (runKernel m.settings task pts t).1 with
      | none =>
        rw [plays] at after
        obtain rfl : sum = some frames := after
        exact full frames before
      | some played =>
        rw [plays] at after
        obtain rfl := Option.some.inj after
        refine length_layer _ _ ?_ fun frames same => full frames (same ▸ before)
        rw [List.length_map]
        exact runKernel_short plays
    · rw [if_neg (by simpa using here)] at after
      obtain rfl : sum = some frames := after
      exact ⟨full frames before, .inl before⟩

/-- What the tasks of a block leave on a bus is a whole block, and `q` holds, if it holds where one
of them is for a track of the bus. -/
theorem runTasks_full (pts : Option Int) {bus : Nat} {q : Prop} {tasks : List Task} {sums : Sums}
    {m : Mixer σ}
    (routed : ∀ task ∈ tasks, ∀ t, m.track? task.slot = some t → t.mainBus = bus → q)
    (full : ∀ frames, sums.main[bus]? = some (some frames) →
      frames.length = m.settings.frameCount ∧ q) :
    ∀ frames, (runTasks pts tasks sums m).1.main[bus]? = some (some frames) →
      frames.length = m.settings.frameCount ∧ q := by
  induction tasks generalizing sums m with
  | nil => exact full
  | cons task rest ih =>
    have rendered := rendered_runTask pts sums m task
    rw [runTasks_cons, ← rendered.settings]
    apply ih
    · intro later member t found here
      -- a track is on the bus after the task that was on it before
      obtain ⟨before, was, moved⟩ := exists_before (rendered.tracks later.slot) found
      exact routed later (List.mem_cons_of_mem _ member) before was
        (moved.mainBus_eq.symm.trans here)
    · intro frames written
      rw [rendered.settings]
      obtain ⟨length, before | ⟨t, found, here⟩⟩ :=
        runTask_full (fun before kept => (full before kept).1) written
      · exact full frames before
      · exact ⟨length, routed task List.mem_cons_self t found here⟩

end Mixer

namespace Block

theorem size_silence (format : MixFormat) (frames : Nat) :
    (silence format frames).size = 2 * frames := by
  cases format <;> simp [silence, size]

theorem size_ofMix (format : MixFormat) (frames : List (Stereo Float32)) :
    (ofMix format frames).size = 2 * frames.length := by
  cases format <;> simp [ofMix, size]

theorem length_singles (block : Block) : block.singles.length = block.size := by
  cases block <;> simp [singles, size]

end Block

/-- What a main bus holds after a block, by what was written to it. -/
theorem Sums.getElem?_mainBlocks {sums : Sums} {frameCount bus : Nat} {formats : List MixFormat}
    {sum : Option (List (Stereo Float32))} {format : MixFormat}
    (written : sums.main[bus]? = some sum) (asked : formats[bus]? = some format) :
    (sums.mainBlocks frameCount formats)[bus]? =
      some (sum.elim (.silence format frameCount) (.ofMix format)) := by
  simp only [mainBlocks, List.getElem?_zipWith, written, asked]
  cases sum <;> rfl

namespace Plan

variable {σ : Type}

/-- A bus with an enabled track takes the format that some enabled track of the bus asks for. -/
theorem exists_busFormat {enabled : List (Slot × Track σ)} {bus : Nat} (current : MixFormat)
    (routed : ∃ entry ∈ enabled, entry.2.mainBus = bus) :
    ∃ entry ∈ enabled, entry.2.mainBus = bus ∧
      busFormat enabled bus current = entry.2.busFormat := by
  obtain ⟨some_entry, listed, here⟩ := routed
  unfold busFormat
  cases first : enabled.find? fun entry => entry.2.mainBus == bus with
  | none => exact absurd (beq_iff_eq.mpr here) (List.find?_eq_none.mp first _ listed)
  | some entry =>
    refine ⟨entry, List.mem_of_find?_eq_some first, ?_, rfl⟩
    simpa using List.find?_some first

end Plan

namespace Mixer

variable {σ : Type} [Provider σ]

/-- What a main bus holds after a block: what the tasks of the enabled tracks add up to, in the
format that the bus takes. -/
theorem Reachable.exists_sum {m : Mixer σ} (reachable : Reachable m) (pts : Option Int)
    {bus : Nat} (exist : bus < m.mainBuses.length) :
    ∃ tasks sum current, List.Forall₂ (fun entry task => task.slot = entry.1 ∧
        task.Follows entry.2) m.enabledTracks tasks ∧
      (runTasks pts tasks (.empty m.mainBuses.length m.auxBuses.length)
        { m with plan := some m.currentPlan }).1.main[bus]? = some sum ∧
      (m.render pts).mainBus? bus = some (sum.elim
        (.silence (Plan.busFormat m.enabledTracks bus current) m.settings.frameCount)
        (.ofMix (Plan.busFormat m.enabledTracks bus current))) := by
  obtain ⟨tasks, follow, mixed⟩ := reachable.mainBuses_render pts
  let after := (runTasks pts tasks (.empty m.mainBuses.length m.auxBuses.length)
    { m with plan := some m.currentPlan }).1
  have enough : after.main.length = m.mainBuses.length :=
    (length_runTasks pts tasks (.empty m.mainBuses.length m.auxBuses.length)
      { m with plan := some m.currentPlan }).1.trans List.length_replicate
  obtain ⟨sum, written⟩ : ∃ sum, after.main[bus]? = some sum :=
    ⟨_, List.getElem?_eq_getElem (enough ▸ exist)⟩
  obtain ⟨current, before⟩ : ∃ current, (m.mainBuses.map Block.format)[bus]? = some current :=
    ⟨_, List.getElem?_eq_getElem (by rwa [List.length_map])⟩
  have format : m.currentPlan.formats[bus]? =
      some (Plan.busFormat m.enabledTracks bus current) := by
    rw [(follows_currentPlan reachable.following).formats]
    simp only [makePlan, Plan.ofTracks, List.getElem?_mapIdx, before, Option.map_some]
  refine ⟨tasks, sum, current, follow, written, ?_⟩
  unfold mainBus?
  rw [mixed]
  exact Sums.getElem?_mainBlocks written format

/-- After a block, a main bus holds a whole block. It has the format that an enabled track of the
bus asks for, or else it is silent. -/
theorem Reachable.mainBus?_render {m : Mixer σ} (reachable : Reachable m) (pts : Option Int)
    {bus : Nat} (exist : bus < m.mainBuses.length) :
    ∃ block, (m.render pts).mainBus? bus = some block ∧
      block.size = 2 * m.settings.frameCount ∧
      ((∃ slot t, m.track? slot = some t ∧ t.enabled = true ∧ t.mainBus = bus ∧
          t.busFormat = block.format) ∨
        block = .silence block.format m.settings.frameCount) := by
  obtain ⟨tasks, sum, current, follow, written, held⟩ := reachable.exists_sum pts exist
  cases sum with
  | none =>
    refine ⟨_, held, ?_, .inr ?_⟩
    · rw [Option.elim_none, Block.size_silence]
    · rw [Option.elim_none, Block.format_silence]
  | some frames =>
    have routed : ∀ task ∈ tasks, ∀ t, m.track? task.slot = some t → t.mainBus = bus →
        ∃ entry ∈ m.enabledTracks, entry.2.mainBus = bus := by
      intro task member t found here
      obtain ⟨entry, listed, same, -⟩ := exists_of_forall₂ follow member
      have was : m.track? entry.1 = some entry.2 := (mem_enabledTracks.mp listed).1
      have found : m.track? entry.1 = some t := same ▸ found
      obtain rfl : t = entry.2 := Option.some.inj (found.symm.trans was)
      exact ⟨entry, listed, here⟩
    have unwritten : ∀ frames, (Sums.empty m.mainBuses.length m.auxBuses.length).main[bus]? ≠
        some (some frames) := by
      intro frames
      simp [Sums.empty, exist]
    obtain ⟨length, on_bus⟩ := runTasks_full (m := { m with plan := some m.currentPlan }) pts routed
      (fun frames some_frames => absurd some_frames (unwritten frames)) frames written
    obtain ⟨entry, listed, here, asked⟩ := Plan.exists_busFormat current on_bus
    obtain ⟨found, enabled⟩ := mem_enabledTracks.mp listed
    refine ⟨_, held, ?_, .inl ⟨entry.1, entry.2, found, enabled, here, ?_⟩⟩
    · rw [Option.elim_some, Block.size_ofMix, length]
    · rw [Option.elim_some, Block.format_ofMix, asked]

end Mixer

end Mixdown
