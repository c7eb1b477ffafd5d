import Mathlib.Algebra.BigOperators.Fin
import Mixdown.Proofs.Mixer.TaskSums
import Mixdown.Proofs.Mixer.Upkeep
import Mixdown.Proofs.Provider.Delivery
import Mixdown.Proofs.Sample.Exact

/-!
# Sixteen-bit tracks at unity

Where all that is routed to a 16-bit bus are tracks of 16-bit samples under gains of one, the bus
holds their integer sum, held within the range of 16 bits. The singles in between lose nothing:
a sum of 32 words has 21 bits.
-/

namespace Mixdown

variable {σ : Type} [Provider σ]

/-- A track of at most two channels of 16-bit samples under resting gains of one, at the mix rate,
whose provider keeps to that. -/
structure Track.AtUnity (t : Track σ) : Prop where
  words : t.format = .pcm16
  few : t.mask.channelCount ≤ maxMixChannels
  unresampled : t.resampler = none
  left : t.volume.left.current = 1 ∧ t.volume.left.isMoving = false
  right : t.volume.right.current = 1 ∧ t.volume.right.isMoving = false
  supplied : ∃ chain, t.chain = some chain ∧ ∀ s, Provider.Moves chain.source s →
    Provider.Grants s t.mask.channelCount .pcm16

namespace Mixer

/-- What a slot delivers to a main bus in a block: the words of its provider, if its track is
enabled and routed to the bus, and nothing otherwise. -/
inductive Delivers (m : Mixer σ) (pts : Option Int) (bus : Nat) (slot : Slot) :
    List (Stereo Int16) → Prop
  | routed {t : Track σ} {chain : Chain σ} {words : List (Stereo Int16)} :
      m.track? slot = some t → t.enabled = true → t.mainBus = bus → t.chain = some chain →
      Provider.Delivers (.ofCount t.mask.channelCount) (stampAfter pts m.settings.sampleRate)
        m.settings.frameCount 0 chain.source words → Delivers m pts bus slot words
  | apart : (∀ t, m.track? slot = some t → t.enabled = true → t.mainBus ≠ bus) →
      Delivers m pts bus slot []

/-- A slot delivers one list of words only. -/
theorem Delivers.unique {m : Mixer σ} {pts : Option Int} {bus : Nat} {slot : Slot}
    {words words' : List (Stereo Int16)} (first : m.Delivers pts bus slot words)
    (second : m.Delivers pts bus slot words') : words = words' := by
  cases first with
  | routed found enabled routed chained delivers =>
    cases second with
    | routed found' _ _ chained' delivers' =>
      obtain rfl := Option.some.inj (found.symm.trans found')
      obtain rfl := Option.some.inj (chained.symm.trans chained')
      exact delivers.unique delivers'
    | apart elsewhere => exact absurd routed (elsewhere _ found enabled)
  | apart elsewhere =>
    cases second with
    | routed found enabled routed => exact absurd routed (elsewhere _ found enabled)
    | apart => rfl

end Mixer

/-! ## One track -/

/-- A track with an honest provider that declares what the track expects is at unity by its own
settings. -/
theorem Track.Fed.atUnity (honest : Provider.Honest σ) {t : Track σ} {maxFrames : Nat}
    (fed : t.Fed maxFrames) (given : t.chain.isSome = true)
    (words : t.format = .pcm16) (few : t.mask.channelCount ≤ maxMixChannels)
    (unresampled : t.resampler.isNone = true)
    (left : t.volume.left.current = 1 ∧ t.volume.left.isMoving = false)
    (right : t.volume.right.current = 1 ∧ t.volume.right.isMoving = false) : t.AtUnity := by
  obtain ⟨chain, chained⟩ := Option.isSome_iff_exists.mp given
  obtain ⟨channels, format⟩ := fed chain chained
  have format : Provider.format chain.source = .pcm16 := format.trans words
  refine ⟨words, few, Option.isNone_iff_eq_none.mp unresampled, left, right, chain, chained, ?_⟩
  intro s moves
  obtain ⟨-, -, grants⟩ := honest.honestFrom chain.source s moves
  rw [channels, format] at grants
  exact grants

theorem Track.AtUnity.audible {t : Track σ} (unity : t.AtUnity) : t.demands.mute = false := by
  have loud : ((1 : Float32) == 0) = false := by decide +kernel
  simp [demands, Volume.isSilent, unity.left.1, loud]

/-- The task of a track at unity mixes its frames as they come, however the track has aged. -/
theorem Task.Follows.kernel_atUnity {task : Task} {t : Track σ} (follows : task.Follows t)
    (unity : t.AtUnity) :
    task.kernel = .direct t.mixInput ∧ task.channels = .ofCount t.mixChannelCount := by
  obtain ⟨d, aged, made⟩ := follows
  obtain ⟨chain, chained, -⟩ := unity.supplied
  have mute : d.mute = false := by
    cases silent : d.mute with
    | false => rfl
    | true => nomatch (aged.mute silent).symm.trans unity.audible
  have resample : d.resample = false := by
    rw [← aged.resample]
    simp [Track.demands, unity.unresampled]
  rw [made]
  refine ⟨?_, aged.channels.symm⟩
  simp [Task.made, chained, mute, resample]

theorem singleOfInt16_mul_one (w : Int16) : singleOfInt16 w * 1 = singleOfInt16 w :=
  Single.nearest_mul_one (short_toInt w) (by decide) (by decide)

/-- A track at unity adds the words that its provider delivers. -/
theorem Mixer.runKernel_atUnity {settings : Settings} {factory : Option DownmixFactory}
    {task : Task} {t : Track σ} (sound : t.Sound settings factory) (follows : task.Follows t)
    (unity : t.AtUnity) (pts : Option Int) {chain : Chain σ} (chained : t.chain = some chain) :
    ∃ words played, Provider.Delivers (.ofCount t.mask.channelCount)
        (stampAfter pts settings.sampleRate) settings.frameCount 0 chain.source words ∧
      words.length ≤ settings.frameCount ∧
      (runKernel settings task pts t).1 = some played ∧
      played.contributions.map Contribution.main = words.map (Stereo.map singleOfInt16) := by
  obtain ⟨kernel, channels⟩ := follows.kernel_atUnity unity
  have mixed : t.mixChannelCount = t.mask.channelCount := Nat.min_eq_left unity.few
  have count : (Channels.ofCount t.mask.channelCount).count = t.mask.channelCount :=
    Channels.count_ofCount (ChannelMask.channelCount_pos sound.valid) unity.few
  have grants : ∀ s, Provider.Moves chain.source s →
      Provider.Grants s (Channels.ofCount t.mask.channelCount).count .pcm16 := by
    obtain ⟨chain', chained', grants⟩ := unity.supplied
    obtain rfl := Option.some.inj (chained.symm.trans chained')
    rw [count]
    exact grants
  obtain ⟨words, delivers, short, read⟩ := (sound.chain chain chained).pullFrom_delivers count
    unity.words (stampAfter pts settings.sampleRate) (Nat.le_refl _) (Nat.le_refl _) 0 grants
  refine ⟨words, _, delivers, short, by rw [runKernel, kernel], ?_⟩
  have frames : (t.read t.mixInput task.channels settings.frameCount settings.sampleRate pts).1 =
      words.map (Stereo.map singleOfInt16) := by
    rw [channels, mixed]
    simp only [Track.read, chained]
    exact read
  obtain ⟨chain', moved⟩ := t.read_snd t.mixInput task.channels settings.frameCount
    settings.sampleRate pts
  rw [Track.playDirect_eq, moved, frames]
  apply List.ext_getElem?
  intro i
  have advances := t.volume.advances_after i
  simp only [List.getElem?_map, List.getElem?_mapIdx, Option.map_map]
  congr 1
  funext w
  simp only [Function.comp_apply, Volume.contribution, Stereo.map,
    advances.left unity.left.2, advances.right unity.right.2, unity.left.1, unity.right.1,
    singleOfInt16_mul_one]

/-! ## The sum on a bus -/

/-- What a word or its absence counts. -/
def wordOr0 (side : Stereo Int16 → Int16) (word : Option (Stereo Int16)) : Int :=
  match word with
  | some w => (side w).toInt
  | none => 0

theorem abs_wordOr0 (side : Stereo Int16 → Int16) (word : Option (Stereo Int16)) :
    (wordOr0 side word).natAbs ≤ 2 ^ 15 := by
  cases word with
  | none => exact Nat.zero_le _
  | some w =>
    have lower := (side w).le_toInt
    have upper := (side w).toInt_lt
    unfold wordOr0
    simp only
    omega

theorem abs_sum_wordOr0 (side : Stereo Int16 → Int16) (words : List (Option (Stereo Int16))) :
    (words.map (wordOr0 side)).sum.natAbs ≤ words.length * 2 ^ 15 := by
  induction words with
  | nil => exact Nat.le_refl _
  | cons word rest ih =>
    have here := abs_wordOr0 side word
    rw [List.map_cons, List.sum_cons, List.length_cons]
    omega

theorem short_sum_wordOr0 (side : Stereo Int16 → Int16) {words : List (Option (Stereo Int16))}
    (few : words.length ≤ 32) : Single.Short (words.map (wordOr0 side)).sum := by
  have bound := abs_sum_wordOr0 side words
  unfold Single.Short
  omega

/-- A few words add up to the single of their integer sum. -/
theorem pileUp_words {words : List (Option (Stereo Int16))} (few : words.length ≤ 32) :
    pileUp Sums.addStereo (.both 0) (words.map (Option.map (Stereo.map singleOfInt16))) =
      ⟨Single.nearest (words.map (wordOr0 Stereo.left)).sum (-15),
        Single.nearest (words.map (wordOr0 Stereo.right)).sum (-15)⟩ := by
  induction words using List.reverseRecOn with
  | nil => rfl
  | append_singleton before word ih =>
    have fewer : before.length ≤ 32 := by
      rw [List.length_append] at few
      omega
    have sum (side : Stereo Int16 → Int16) : ((before ++ [word]).map (wordOr0 side)).sum =
        (before.map (wordOr0 side)).sum + wordOr0 side word := by
      rw [List.map_append, List.sum_append]
      simp
    have short_sum (side : Stereo Int16 → Int16) := short_sum_wordOr0 side few
    simp only [sum] at short_sum ⊢
    rw [List.map_append, List.map_cons, List.map_nil]
    by_cases first : before = []
    · subst first
      cases word with
      | none => rfl
      | some w =>
        simp only [List.nil_append, List.map_nil, List.sum_nil, Int.zero_add, wordOr0]
        rfl
    · rw [pileUp_snoc _ _ (by simpa using first), ih fewer]
      cases word with
      | none => simp [wordOr0]
      | some w =>
        have left := Single.nearest_add (short_sum_wordOr0 Stereo.left fewer) (short_toInt w.left)
          (short_sum Stereo.left) (e := -15) (by decide) (by decide)
        have right := Single.nearest_add (short_sum_wordOr0 Stereo.right fewer)
          (short_toInt w.right)
          (short_sum Stereo.right) (e := -15) (by decide) (by decide)
        simp only [Option.map_some, Sums.addStereo, Stereo.map, wordOr0]
        rw [← left, ← right]
        rfl

namespace Mixer

/-- Words as what a track adds to its bus, frame by frame. -/
def wordPart (words : List (Stereo Int16)) (i : Nat) : Option (Stereo Float32) :=
  words[i]?.map (Stereo.map singleOfInt16)

/-- The tasks of a block pile up on a bus the words of the tracks at unity that are routed to it. -/
theorem layered_runTasks {m : Mixer σ} (wf : WellFormed m) {pts : Option Int} {bus : Nat}
    {words : Slot → List (Stereo Int16)} (delivers : ∀ slot, m.Delivers pts bus slot (words slot))
    {entries : List (Slot × Track σ)} {tasks : List Task}
    (follows : List.Forall₂ (fun entry task => task.slot = entry.1 ∧ task.Follows entry.2)
      entries tasks)
    (distinct : (entries.map Prod.fst).Nodup)
    (found : ∀ entry ∈ entries, m.track? entry.1 = some entry.2 ∧ entry.2.enabled = true)
    (unity : ∀ entry ∈ entries, entry.2.mainBus = bus → entry.2.AtUnity)
    {m' : Mixer σ} (settings : m'.settings = m.settings)
    (same : ∀ entry ∈ entries, m'.track? entry.1 = m.track? entry.1) {sums : Sums}
    {parts : List (Nat → Option (Stereo Float32))}
    (layered : ∀ sum, sums.main[bus]? = some sum →
      Layered Sums.addStereo (.both 0) m.settings.frameCount sum parts) :
    ∀ sum, (runTasks pts tasks sums m').1.main[bus]? = some sum →
      Layered Sums.addStereo (.both 0) m.settings.frameCount sum
        (parts ++ (entries.filter (·.2.mainBus == bus)).map fun entry =>
          wordPart (words entry.1)) := by
  -- the tracks of the tasks still to come are those of `m`, since no two of them share a slot
  induction follows generalizing m' sums parts with
  | nil => simpa [runTasks] using layered
  | @cons entry task rest tasks here _ ih =>
    obtain ⟨slot, t⟩ := entry
    obtain ⟨rfl, following⟩ := here
    rw [List.map_cons, List.nodup_cons] at distinct
    obtain ⟨had, enabled⟩ := found (task.slot, t) List.mem_cons_self
    have there : m'.track? task.slot = some t := (same (task.slot, t) List.mem_cons_self).trans had
    obtain ⟨settings', others⟩ := runTask_rest pts sums m' task
    have untouched : ∀ entry ∈ rest,
        (runTask pts sums m' task).2.track? entry.1 = m.track? entry.1 := by
      intro entry member
      have apart : entry.1 ≠ task.slot := fun equal =>
        distinct.1 (List.mem_map.mpr ⟨entry, member, equal⟩)
      rw [others _ apart]
      exact same entry (List.mem_cons_of_mem _ member)
    have later := @ih distinct.2 (fun entry member => found entry (List.mem_cons_of_mem _ member))
      (fun entry member => unity entry (List.mem_cons_of_mem _ member))
      (runTask pts sums m' task).2 (settings'.trans settings) untouched (runTask pts sums m' task).1
    have step := main_runTask pts sums there bus
    rw [runTasks_cons]
    by_cases routed : t.mainBus = bus
    · obtain ⟨chain, chained, -⟩ := (unity (task.slot, t) List.mem_cons_self routed).supplied
      obtain ⟨delivered, played, given, short, result, contributions⟩ :=
        runKernel_atUnity (wf.sound _ t had) following
          (unity (task.slot, t) List.mem_cons_self routed) pts chained
      obtain rfl : delivered = words task.slot :=
        (Delivers.routed had enabled routed chained given).unique (delivers task.slot)
      rw [settings, result] at step
      simp only [routed, beq_self_eq_true, if_true, contributions] at step
      rw [List.filter_cons_of_pos (by simpa using routed), List.map_cons, List.append_cons]
      refine later fun sum now => ?_
      rw [step] at now
      obtain ⟨before, had, rfl⟩ := Option.map_eq_some_iff.mp now
      refine (layered before had).layer (by simpa using short) ?_
      intro i _
      exact List.getElem?_map
    · rw [List.filter_cons_of_neg (by simpa using routed)]
      have elsewhere : (t.mainBus == bus) = false := by simpa using routed
      simp only [elsewhere, Bool.false_eq_true, if_false, Option.map_id'] at step
      exact later (step ▸ layered)

/-- What the slots deliver to a bus, slot by slot and in the order of the tracks that are routed to
it, is the same sum. -/
theorem sum_routed {m : Mixer σ} {pts : Option Int} {bus : Nat}
    {words : Slot → List (Stereo Int16)} (delivers : ∀ slot, m.Delivers pts bus slot (words slot))
    (side : Stereo Int16 → Int16) (i : Nat) :
    ((m.enabledTracks.filter (·.2.mainBus == bus)).map fun entry =>
      wordOr0 side (words entry.1)[i]?).sum = ∑ slot, wordOr0 side (words slot)[i]? := by
  have distinct : ((m.enabledTracks.filter (·.2.mainBus == bus)).map Prod.fst).Nodup :=
    m.nodup_enabledTracks.sublist (List.filter_sublist.map Prod.fst)
  have slots : ((m.enabledTracks.filter (·.2.mainBus == bus)).map fun entry =>
      wordOr0 side (words entry.1)[i]?) =
        ((m.enabledTracks.filter (·.2.mainBus == bus)).map Prod.fst).map fun slot =>
          wordOr0 side (words slot)[i]? := by
    rw [List.map_map]
    rfl
  rw [slots, ← List.sum_toFinset _ distinct]
  apply Finset.sum_subset (Finset.subset_univ _)
  intro slot _ elsewhere
  -- a slot that is not among the routed ones delivers nothing
  have nothing : words slot = [] := by
    have given := delivers slot
    generalize words slot = list at given ⊢
    cases given with
    | routed found enabled routed _ _ =>
      refine absurd ?_ elsewhere
      rw [List.mem_toFinset]
      refine List.mem_map.mpr ⟨(slot, _), List.mem_filter.mpr ⟨?_, by simpa using routed⟩, rfl⟩
      exact mem_enabledTracks.mpr ⟨found, enabled⟩
    | apart _ => rfl
  rw [nothing]
  rfl

omit [Provider σ] in
theorem length_routed_le (m : Mixer σ) (bus : Nat) :
    (m.enabledTracks.filter (·.2.mainBus == bus)).length ≤ 32 := by
  have slots : (m.enabledTracks.map Prod.fst).length ≤ Fintype.card Slot :=
    m.nodup_enabledTracks.length_le_card
  rw [List.length_map, Fintype.card_fin] at slots
  exact Nat.le_trans (List.length_filter_le _ _) slots

/-- Every slot delivers something to a bus to which tracks at unity are routed, if only nothing. -/
theorem exists_delivers {m : Mixer σ} (wf : WellFormed m) (pts : Option Int) {bus : Nat}
    (unity : ∀ slot t, m.track? slot = some t → t.enabled = true → t.mainBus = bus → t.AtUnity)
    (slot : Slot) : ∃ words, m.Delivers pts bus slot words := by
  by_cases routed : ∃ t, m.track? slot = some t ∧ t.enabled = true ∧ t.mainBus = bus
  · obtain ⟨t, found, enabled, routed⟩ := routed
    have unity := unity slot t found enabled routed
    obtain ⟨chain, chained, -⟩ := unity.supplied
    obtain ⟨words, -, delivers, -⟩ := runKernel_atUnity (wf.sound slot t found)
      (Task.ofTrack_follows slot t) unity pts chained
    exact ⟨words, .routed found enabled routed chained delivers⟩
  · refine ⟨[], .apart ?_⟩
    intro t found enabled here
    exact routed ⟨t, found, enabled, here⟩

/-- A bus to which tracks at unity are routed holds the singles of their integer sums, before they
are brought to its representation. -/
theorem Reachable.mainBus?_atUnity {m : Mixer σ} (reachable : Reachable m) {pts : Option Int}
    {bus : Nat} {words : Slot → List (Stereo Int16)}
    (delivers : ∀ slot, m.Delivers pts bus slot (words slot))
    (unity : ∀ slot t, m.track? slot = some t → t.enabled = true → t.mainBus = bus → t.AtUnity)
    {block : Block} (held : (m.render pts).mainBus? bus = some block) :
    block = .ofMix block.format ((List.range m.settings.frameCount).map fun i =>
      ⟨Single.nearest (∑ slot, wordOr0 Stereo.left (words slot)[i]?) (-15),
        Single.nearest (∑ slot, wordOr0 Stereo.right (words slot)[i]?) (-15)⟩) := by
  obtain ⟨tasks, follows, blocks⟩ := reachable.mainBuses_render pts
  have unwritten : ∀ sum, (Sums.empty m.mainBuses.length m.auxBuses.length).main[bus]? = some sum →
      Layered Sums.addStereo (.both 0) m.settings.frameCount sum [] := by
    intro sum had
    obtain ⟨_, rfl⟩ := List.getElem?_eq_some_iff.mp had
    simp [Sums.empty, Layered]
  have layered := layered_runTasks reachable.wellFormed delivers follows m.nodup_enabledTracks
    (fun entry member => mem_enabledTracks.mp member)
    (fun entry member => unity entry.1 entry.2 (mem_enabledTracks.mp member).1
      (mem_enabledTracks.mp member).2)
    (show ({ m with plan := some m.currentPlan } : Mixer σ).settings = m.settings from rfl)
    (fun _ _ => rfl) unwritten
  rw [List.nil_append] at layered
  unfold mainBus? at held
  rw [blocks] at held
  unfold Sums.mainBlocks at held
  obtain ⟨sum, format, has, -, made⟩ := List.getElem?_zipWith_eq_some.mp held
  have mixed : block = .ofMix block.format
      (sum.getD (List.replicate m.settings.frameCount (.both 0))) := by
    rw [← made]
    cases sum with
    | none => simp only [Block.format_silence, Option.getD_none, ofMix_silence]
    | some frames => simp only [Block.format_ofMix, Option.getD_some]
  have exact_sum : ∀ i, pileUp Sums.addStereo (.both 0)
      (((m.enabledTracks.filter (·.2.mainBus == bus)).map fun entry =>
        wordPart (words entry.1)).map fun part => part i) =
      ⟨Single.nearest (∑ slot, wordOr0 Stereo.left (words slot)[i]?) (-15),
        Single.nearest (∑ slot, wordOr0 Stereo.right (words slot)[i]?) (-15)⟩ := by
    intro i
    have few : ((m.enabledTracks.filter (·.2.mainBus == bus)).map fun entry =>
        (words entry.1)[i]?).length ≤ 32 := by
      rw [List.length_map]
      exact m.length_routed_le bus
    have parts := pileUp_words few
    rw [List.map_map, List.map_map, List.map_map] at parts
    rw [List.map_map, ← sum_routed delivers, ← sum_routed delivers]
    exact parts
  rw [(layered sum has).getD] at mixed
  simpa only [exact_sum] using mixed

/-- When all that is enabled and routed to a 16-bit bus are tracks at unity, each sample of the bus
is the integer sum of the words that their providers deliver, held within the range of 16 bits.
Words that are missing count zero. -/
theorem Reachable.render_atUnity {m : Mixer σ} (reachable : Reachable m) (pts : Option Int)
    {bus : Nat} (format : ((m.render pts).mainBus? bus).map Block.format = some .pcm16)
    (unity : ∀ slot t, m.track? slot = some t → t.enabled = true → t.mainBus = bus → t.AtUnity) :
    ∃ (words : Slot → List (Stereo Int16)) (frames : List (Stereo Int16)),
      (∀ slot, m.Delivers pts bus slot (words slot)) ∧
      (m.render pts).mainBus? bus = some (.pcm16 frames) ∧
      frames.length = m.settings.frameCount ∧
      ∀ i (inside : i < frames.length),
        frames[i].left.toInt = saturateInt16 (∑ slot, wordOr0 Stereo.left (words slot)[i]?) ∧
        frames[i].right.toInt = saturateInt16 (∑ slot, wordOr0 Stereo.right (words slot)[i]?) := by
  choose words delivers using exists_delivers reachable.wellFormed pts unity
  obtain ⟨block, held, narrow⟩ := Option.map_eq_some_iff.mp format
  have mixed := reachable.mainBus?_atUnity delivers unity held
  rw [narrow] at mixed
  have short (side : Stereo Int16 → Int16) (i : Nat) :
      Single.Short (∑ slot, wordOr0 side (words slot)[i]?) := by
    have few : ((m.enabledTracks.filter (·.2.mainBus == bus)).map fun entry =>
        (words entry.1)[i]?).length ≤ 32 := by
      rw [List.length_map]
      exact m.length_routed_le bus
    have routed := short_sum_wordOr0 side few
    rw [List.map_map] at routed
    rw [← sum_routed delivers]
    exact routed
  refine ⟨words, _, delivers, by rw [held, mixed]; rfl, by simp, ?_⟩
  intro i inside
  simp only [List.getElem_map, List.getElem_range, Stereo.map]
  exact ⟨toInt_int16OfSingle (short _ i), toInt_int16OfSingle (short _ i)⟩

/-- A stereo clip, a looping mono clip and a stereo clip of a single frame on the first bus, beside
a track on the second bus under a moving gain. -/
theorem Reachable.render_atUnity_threeTracks :
    ∃ m : Mixer Clip, Reachable m ∧
      (∀ slot t, m.track? slot = some t → t.enabled = true → t.mainBus = 0 → t.AtUnity) ∧
      ∃ (words : Slot → List (Stereo Int16)) (frames : List (Stereo Int16)),
        (∀ slot, m.Delivers none 0 slot (words slot)) ∧
        (m.render none).mainBus? 0 = some (.pcm16 frames) ∧
        frames.map (fun f => (f.left.toInt, f.right.toInt)) =
          [(1006, -1994), (32767, -20000), (32767, -22768), (6, 6)] ∧
        ∀ i (inside : i < frames.length), frames[i].left.toInt =
          saturateInt16 (∑ slot, wordOr0 Stereo.left (words slot)[i]?) := by
  let settings : Settings := { frameCount := 4, mainBuses := 2 }
  let slot (n : Fin 4) : Slot := n.castLE (by decide)
  let actions : List (Action Clip) :=
    [.allocate .stereo .pcm16 0, .allocate .mono .pcm16 0, .allocate .stereo .pcm16 0,
      .allocate .mono .float 0,
      .attach (slot 0)
        (some (.ofSamples 2 (.pcm16 #[1000, -2000, 30000, -30000, 32767, -32768]) false)),
      .attach (slot 1) (some (.ofSamples 1 (.pcm16 #[5, 10000, 10000, 6]) true)),
      .attach (slot 2) (some (.ofSamples 2 (.pcm16 #[1, 1]) false)),
      .attach (slot 3) (some (.ofSamples 1 (.float #[0.5, 0.25]) true)),
      .set (slot 3) (.mainBus 1), .set (slot 3) (.gain .left 0.5 true),
      .setEnabled (slot 0) true, .setEnabled (slot 1) true, .setEnabled (slot 2) true,
      .setEnabled (slot 3) true]
  have keeps : ∀ action ∈ actions, action.KeepsDeclarations := by
    intro action member
    simp only [actions, List.mem_cons, List.not_mem_nil, or_false] at member
    rcases member with rfl | rfl | rfl | rfl | rfl | rfl | rfl | rfl | rfl | rfl | rfl | rfl | rfl |
      rfl <;> trivial
  obtain ⟨start, built, suited, narrow, mixed⟩ : ∃ start : Mixer Clip,
      Mixer.new settings none = .ok start ∧
      (∀ slot, ((start.run actions).track? slot).all (fun t =>
        !(t.enabled && t.mainBus == 0) || (t.chain.isSome && t.format == .pcm16 &&
          decide (t.mask.channelCount ≤ maxMixChannels) && t.resampler.isNone &&
          decide (t.volume.left.current = 1) && !t.volume.left.isMoving &&
          decide (t.volume.right.current = 1) && !t.volume.right.isMoving)) = true) ∧
      (((start.run actions).render none).mainBus? 0).map Block.format = some .pcm16 ∧
      (((start.run actions).render none).mainBus? 0).map (fun block => Block.casesOn block
        (fun frames => frames.map fun f => (f.left.toInt, f.right.toInt)) fun _ => []) =
          some [(1006, -1994), (32767, -20000), (32767, -22768), (6, 6)] :=
    ⟨_, rfl, by decide +kernel⟩
  have reachable : Reachable (start.run actions) := .run (.new built) actions
  have unfed : start.Fed := fun slot t found => absurd found (by simp [(new_spec built).2.2.2.2.1])
  have fed := (fed_run Clip.honest.toSteady (WellFormed.new built) unfed actions keeps).1
  have unity : ∀ slot t, (start.run actions).track? slot = some t → t.enabled = true →
      t.mainBus = 0 → t.AtUnity := by
    intro slot t found enabled here
    have checked := suited slot
    rw [found] at checked
    simp only [Option.all_some, enabled, here, beq_self_eq_true, Bool.and_true, Bool.not_true,
      Bool.false_or, Bool.and_eq_true, beq_iff_eq, decide_eq_true_eq, Bool.not_eq_true'] at checked
    obtain ⟨⟨⟨⟨⟨⟨⟨given, words⟩, few⟩, unresampled⟩, left⟩, left'⟩, right⟩, right'⟩ := checked
    exact (fed slot t found).atUnity Clip.honest given words few unresampled ⟨left, left'⟩
      ⟨right, right'⟩
  obtain ⟨words, frames, delivers, held, length, sums⟩ :=
    reachable.render_atUnity none narrow unity
  rw [held] at mixed
  exact ⟨_, reachable, unity, words, frames, delivers, held, Option.some.inj mixed,
    fun i inside => (sums i inside).1⟩

end Mixer

end Mixdown
