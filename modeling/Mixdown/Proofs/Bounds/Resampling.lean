import Mixdown.Proofs.Bounds.Stages
import Mixdown.Proofs.Provider.Loops
import Mixdown.Proofs.Resampler.Accounting

/-!
# Resampling within bounds

The resampler over a chain with every index, range, difference and sum checked that it computes, the
position and the times of its requests included. A fill for a frame that is cut short fails too. The
invariant is `Bounded`: the position lies within what is staged, and what is staged within the
staging buffer. Every fill and every step keeps it, whatever the provider grants, and all checks
follow from it (`resample?_eq`).
-/

namespace Mixdown

namespace Resampler

/-- `compact`, where the frames are only moved when there are some to drop. -/
def compact? (r : Resampler) : Option Resampler := do
  let behind ← minus? r.index r.quality.history
  let dropped := min behind r.staged
  if dropped = 0 then some r
  else do
    let start ← word? (dropped * r.channels)
    let stop ← word? (r.staged * r.channels)
    let kept ← slice? r.staging.toList start stop
    let staging ← write? kept r.staging.toList 0 kept.length
    let staged ← minus? r.staged dropped
    let index ← minus? r.index dropped
    some { r with staging := staging.toArray, staged, index }

/-- `room`, by the size of the staging buffer. -/
def room? (r : Resampler) : Option Nat := do
  minus? (← quotient? r.staging.size r.channels) r.staged

/-- `stage`, where the samples are written behind the staged ones. -/
def stage? (r : Resampler) (room : Nat) (buffer : Buffer) : Option (Nat × Resampler) := do
  let granted := min buffer.frames room
  let start ← word? (r.staged * r.channels)
  let stop ← word? (start + granted * r.channels)
  let staging ← write? buffer.samples.singles r.staging.toList start stop
  let staged ← word? (r.staged + granted)
  some (granted, { r with staging := staging.toArray, staged })

/-- `ready`, where the frame ahead of the position is counted. -/
def ready? (r : Resampler) : Option Bool := do
  let ahead ← word? (r.index + r.quality.lookahead)
  some (ahead < r.staged)

/-- The sample of a channel `after` samples behind the frame that starts at `base`. -/
def sample? (r : Resampler) (base after channel : Nat) : Option Float32 := do
  r.staging[← word? (base + after + channel)]?

/-- The sample of a channel, one frame before the one that is `after` samples behind `base`. -/
def sampleBefore? (r : Resampler) (base after channel : Nat) : Option Float32 := do
  r.staging[← minus? (← word? (base + after + channel)) r.channels]?

/-- `frame` for `count` channels, where each sample is read from the staging buffer. -/
def frame? (r : Resampler) (count : Nat) : Option (List Float32) := do
  let base ← word? (r.index * r.channels)
  let t := Single.nearest r.fraction (-32)
  (List.range count).mapM fun channel =>
    match r.quality with
    | .linear => do
      let a ← r.sample? base 0 channel
      let b ← r.sample? base r.channels channel
      some (Interpolation.line a b t)
    | .cubic => do
      let p0 ← r.sampleBefore? base 0 channel
      let p1 ← r.sampleBefore? base r.channels channel
      let p2 ← r.sampleBefore? base (2 * r.channels) channel
      let p3 ← r.sampleBefore? base (3 * r.channels) channel
      some (Interpolation.curve p0 p1 p2 p3 t)

/-- `step`, where the position is kept in 64 bits. -/
def step? (r : Resampler) : Option Resampler := do
  let phase ← word? (r.fraction + r.increment)
  let index ← word? (r.index + phase / phaseUnit)
  some { r with index, fraction := phase % phaseUnit }

section Loops

variable {σ : Type} [Provider σ]

/-- `fill`, over a chain whose stages are checked. -/
def fill? (r : Resampler) (chain : Chain σ) (pts : Option Int) :
    Option (Bool × Resampler × Chain σ) := do
  let r ← r.compact?
  let room ← r.room?
  let (answer, chain) ← chain.request? room pts
  match answer with
  | none => some (false, r, chain)
  | some buffer => do
    let (granted, r) ← r.stage? room buffer
    some (0 < granted, r, Provider.release chain granted)

/-- `fillFor` for the frame after `done` frames, which fails where it is cut short. -/
def fillFor? (pts : Option Int) (done : Nat) :
    (fuel : Nat) → Resampler → Chain σ → Option (Bool × Resampler × Chain σ)
  | 0, r, chain => do
    if ← r.ready? then some (true, r, chain) else none
  | fuel + 1, r, chain => do
    if ← r.ready? then some (true, r, chain)
    else
      let time ← time? pts r.outputRate done
      match ← r.fill? chain time with
      | (true, r, chain) => fillFor? pts done fuel r chain
      | (false, r, chain) => some (false, r, chain)

/-- `produce`, into a run of `output` samples. -/
def produce? (pts : Option Int) (output : Nat) :
    (left done : Nat) → Resampler → Chain σ → Option (List (List Float32) × Resampler × Chain σ)
  | 0, _, r, chain => some ([], r, chain)
  | left + 1, done, r, chain => do
    match ← fillFor? pts done r.distance r chain with
    | (false, r, chain) => some ([], r, chain)
    | (true, r, chain) => do
      let start ← word? (done * r.channels)
      let stop ← word? ((done + 1) * r.channels)
      let frame ← r.frame? (← part? output start stop)
      let (more, rest) ← produce? pts output left (done + 1) (← r.step?) chain
      some (frame :: more, rest)

/-- `resample`, into a run of `output` samples. -/
def resample? (r : Resampler) (frames output : Nat) (chain : Chain σ) (pts : Option Int) :
    Option (List (List Float32) × Resampler × Chain σ) := do
  let room ← quotient? output r.channels
  produce? pts output (min frames room) 0 r chain

end Loops

/-- The position lies within what is staged, what is staged within the staging buffer, and its size
is one of 64 bits, with some frames to spare. -/
structure Bounded (r : Resampler) : Prop where
  poised : r.Poised
  slow : r.Slow
  channels : 0 < r.channels
  size : r.staging.size = r.capacity * r.channels
  small : (r.capacity + 2) * r.channels < UInt64.size

theorem size_compact (r : Resampler) : r.compact.staging.size = r.staging.size := by
  simp [compact]

theorem size_stage (r : Resampler) (b : Buffer) : (r.stage b).2.staging.size = r.staging.size := by
  simp only [stage, List.size_toArray, List.length_append, List.length_take, length_overlay,
    List.length_drop, Array.length_toList]
  omega

namespace Bounded

variable {r r' : Resampler}

/-- What changes the position and the staged frames only has to keep them in place. -/
theorem of_same (bounded : r.Bounded) (same : SameSettings r r') (poised : r'.Poised)
    (size : r'.staging.size = r.staging.size) : r'.Bounded where
  poised := poised
  slow := by
    unfold Slow
    rw [same.increment]
    exact bounded.slow
  channels := same.channels ▸ bounded.channels
  size := by rw [size, same.capacity, same.channels, bounded.size]
  small := by
    rw [same.capacity, same.channels]
    exact bounded.small

theorem compact (bounded : r.Bounded) : r.compact.Bounded :=
  bounded.of_same (sameSettings_compact r) bounded.poised.compact.1 (size_compact r)

theorem stage (bounded : r.Bounded) (b : Buffer) : (r.stage b).2.Bounded :=
  bounded.of_same (sameSettings_stage r b) (bounded.poised.stage b).1 (size_stage r b)

theorem step (bounded : r.Bounded) (ready : r.ready = true) : r.step.Bounded :=
  bounded.of_same (sameSettings_step r) (bounded.poised.step bounded.slow ready).1 rfl

theorem fill {σ : Type} [Provider σ] (bounded : r.Bounded) (s : σ) (pts : Option Int) :
    (r.fill s pts).2.1.Bounded := by
  unfold Resampler.fill
  simp only
  rcases Provider.request s r.compact.room pts with ⟨_ | b, s'⟩
  · exact bounded.compact
  · exact bounded.compact.stage b

/-- The samples of up to two frames more than the staging buffer holds are counted. -/
theorem word?_samples (bounded : r.Bounded) {frames : Nat} (few : frames ≤ r.capacity + 2) :
    word? (frames * r.channels) = some (frames * r.channels) :=
  word?_eq (Nat.lt_of_le_of_lt (Nat.mul_le_mul_right _ few) bounded.small)

/-- So are the frames themselves. -/
theorem word?_frames (bounded : r.Bounded) {frames : Nat} (few : frames ≤ r.capacity + 2) :
    word? frames = some frames :=
  word?_eq (Nat.lt_of_le_of_lt (Nat.le_trans few (Nat.le_mul_of_pos_right _ bounded.channels))
    bounded.small)

theorem staged_samples_le (bounded : r.Bounded) :
    r.staged * r.channels ≤ r.staging.toList.length := by
  rw [Array.length_toList, bounded.size]
  exact Nat.mul_le_mul_right _ bounded.poised.staged

theorem compact?_eq (bounded : r.Bounded) : r.compact? = some r.compact := by
  have inside := bounded.staged_samples_le
  have staged := bounded.poised.staged
  have index := bounded.poised.index
  unfold Resampler.compact? Resampler.compact
  rw [minus?_eq bounded.poised.history]
  simp only [Option.bind_eq_bind, Option.bind_some]
  generalize counted : min (r.index - r.quality.history) r.staged = dropped
  have le : dropped ≤ r.staged := counted ▸ Nat.min_le_right _ _
  have before : dropped ≤ r.index := by omega
  by_cases none_dropped : dropped = 0
  · subst none_dropped
    simp [overlay_take_self]
  · have order : dropped * r.channels ≤ r.staged * r.channels := Nat.mul_le_mul_right _ le
    have part : slice? r.staging.toList (dropped * r.channels) (r.staged * r.channels) =
        some (r.staging.toList.extract (dropped * r.channels) (r.staged * r.channels)) := by
      rw [slice?_eq order inside, List.drop_take]
    have short : (r.staging.toList.extract (dropped * r.channels) (r.staged * r.channels)).length ≤
        r.staging.toList.length := by
      rw [List.extract_eq_take_drop]
      exact ((List.take_sublist _ _).trans (List.drop_sublist _ _)).length_le
    rw [if_neg none_dropped, bounded.word?_samples (by omega), bounded.word?_samples (by omega)]
    simp only [Option.bind_some, part, write?_start _ short, List.take_length, minus?_eq le,
      minus?_eq before]

theorem room?_eq (bounded : r.Bounded) : r.room? = some r.room := by
  unfold Resampler.room? room
  rw [quotient?_eq bounded.channels, bounded.size, Nat.mul_div_cancel _ bounded.channels]
  exact minus?_eq bounded.poised.staged

theorem stage?_eq (bounded : r.Bounded) (b : Buffer) : r.stage? r.room b = some (r.stage b) := by
  have staged := bounded.poised.staged
  have granted : min b.frames r.room ≤ r.capacity - r.staged := Nat.min_le_right _ _
  have stop : r.staged * r.channels + min b.frames r.room * r.channels =
      (r.staged + min b.frames r.room) * r.channels := (Nat.add_mul ..).symm
  have inside : r.staged * r.channels + min b.frames r.room * r.channels ≤
      r.staging.toList.length := by
    rw [stop, Array.length_toList, bounded.size]
    exact Nat.mul_le_mul_right _ (by omega)
  have counted : word? (r.staged * r.channels + min b.frames r.room * r.channels) =
      some (r.staged * r.channels + min b.frames r.room * r.channels) := by
    rw [stop]
    exact bounded.word?_samples (by omega)
  simp only [Resampler.stage?, bounded.word?_samples (Nat.le_add_right_of_le staged), counted,
    write?_eq _ (Nat.le_add_right _ _) inside, bounded.word?_frames
      (show r.staged + min b.frames r.room ≤ r.capacity + 2 by omega), Option.bind_eq_bind,
    Option.bind_some, Nat.add_sub_cancel_left]
  rfl

theorem ready?_eq (bounded : r.Bounded) : r.ready? = some r.ready := by
  have ahead : r.quality.lookahead ≤ 2 := by cases r.quality <;> decide
  have index := bounded.poised.index
  have staged := bounded.poised.staged
  unfold Resampler.ready? ready
  rw [bounded.word?_frames (by omega)]
  rfl

theorem step?_eq (bounded : r.Bounded) (ready : r.ready = true) : r.step? = some r.step := by
  have after := (bounded.step ready).poised
  have phase : r.fraction + r.increment < UInt64.size := by
    have fraction := bounded.poised.fraction
    have slow := bounded.slow
    simp only [Slow, maxRateRatio, phaseUnit, UInt64.size] at *
    omega
  have index : r.index + (r.fraction + r.increment) / phaseUnit ≤ r.capacity :=
    Nat.le_trans after.index after.staged
  simp only [Resampler.step?, word?_eq phase, Option.bind_eq_bind, Option.bind_some,
    bounded.word?_frames (Nat.le_add_right_of_le index)]
  rfl

section Frames

variable {base after channel frame : Nat}

/-- A frame that fits into the staging buffer has a sample for each channel. -/
theorem getElem?_staging (bounded : r.Bounded) (inside : channel < r.channels)
    (there : frame < r.capacity) :
    frame * r.channels + channel < r.capacity * r.channels ∧
      r.staging[frame * r.channels + channel]? = some (r.sample channel frame) := by
  have next : (frame + 1) * r.channels ≤ r.capacity * r.channels := Nat.mul_le_mul_right _ there
  rw [Nat.succ_mul] at next
  have held : frame * r.channels + channel < r.staging.size := by
    rw [bounded.size]
    omega
  refine ⟨by omega, ?_⟩
  rw [Resampler.sample, Array.getD_eq_getD_getElem?, Array.getElem?_eq_getElem held]
  rfl

theorem sample?_eq (bounded : r.Bounded) (inside : channel < r.channels)
    (there : frame < r.capacity) (place : base + after = frame * r.channels) :
    r.sample? base after channel = some (r.sample channel frame) := by
  obtain ⟨short, held⟩ := bounded.getElem?_staging inside there
  have small := bounded.small
  rw [Nat.add_mul] at small
  rw [Resampler.sample?, place, word?_eq (by omega)]
  exact held

theorem sampleBefore?_eq (bounded : r.Bounded) (inside : channel < r.channels)
    (there : frame < r.capacity) (place : base + after = (frame + 1) * r.channels) :
    r.sampleBefore? base after channel = some (r.sample channel frame) := by
  obtain ⟨short, held⟩ := bounded.getElem?_staging inside there
  have small := bounded.small
  rw [Nat.add_mul] at small
  rw [Nat.succ_mul] at place
  have back : base + after + channel - r.channels = frame * r.channels + channel := by omega
  rw [Resampler.sampleBefore?, word?_eq (by omega), Option.bind_eq_bind, Option.bind_some,
    minus?_eq (by omega), back]
  exact held

/-- The frames around the position are staged. -/
theorem frame?_eq (bounded : r.Bounded) (ready : r.ready = true) :
    r.frame? r.channels = some r.frame := by
  have near : r.index + r.quality.lookahead < r.staged := of_decide_eq_true ready
  have history := bounded.poised.history
  have staged := bounded.poised.staged
  unfold Resampler.frame? frame
  rw [bounded.word?_samples (by omega)]
  simp only [Option.bind_eq_bind, Option.bind_some]
  refine mapM_eq_some_map ?_
  intro channel member
  have inside : channel < r.channels := List.mem_range.mp member
  cases quality : r.quality with
  | linear =>
    simp only [quality, Interpolation.lookahead] at near
    have here := bounded.sample?_eq inside (show r.index < r.capacity by omega) (Nat.add_zero _)
    have next := bounded.sample?_eq inside (show r.index + 1 < r.capacity by omega)
      (Nat.succ_mul r.index r.channels).symm
    simp only [here, next, Option.bind_some, Interpolation.value]
  | cubic =>
    simp only [quality, Interpolation.lookahead, Interpolation.history] at near history
    obtain ⟨index, behind⟩ := Nat.exists_eq_add_one.mpr history
    rw [behind] at near ⊢
    have first := bounded.sampleBefore?_eq inside (show index < r.capacity by omega)
      (Nat.add_zero _)
    have second := bounded.sampleBefore?_eq inside (show index + 1 < r.capacity by omega)
      (Nat.succ_mul (index + 1) r.channels).symm
    have third := bounded.sampleBefore?_eq inside (show index + 2 < r.capacity by omega)
      (Nat.add_mul (index + 1) 2 r.channels).symm
    have fourth := bounded.sampleBefore?_eq inside (show index + 3 < r.capacity by omega)
      (Nat.add_mul (index + 1) 3 r.channels).symm
    simp only [first, second, third, fourth, Option.bind_some, Interpolation.value]
    rfl

end Frames

end Bounded

section Loops

variable {σ : Type} [Provider σ] {layout : ChainLayout} {mode : DownmixMode} {chain : Chain σ}
  {pts : Option Int} {r : Resampler}

theorem Bounded.fill?_eq (bounded : r.Bounded) (suits : chain.Suits layout mode)
    (fits : layout.Bounded) (pts : Option Int) :
    r.fill? chain pts = some (r.fill chain pts) := by
  unfold Resampler.fill? Resampler.fill
  simp only [bounded.compact?_eq, bounded.compact.room?_eq, suits.request?_eq fits,
    Option.bind_eq_bind, Option.bind_some]
  rcases Provider.request chain r.compact.room pts with ⟨_ | b, chain'⟩
  · rfl
  · simp only [bounded.compact.stage?_eq, Option.bind_some]

/-- Filling for a frame is not cut short, and the frame can be produced if it says so. -/
theorem Bounded.fillFor?_eq (bounded : r.Bounded) (suits : chain.Suits layout mode)
    (fits : layout.Bounded) {done frames : Nat} (timely : Timely pts r.outputRate frames)
    (small : frames < 0x8000_0000_0000_0000) (le : done ≤ frames) {fuel : Nat}
    (enough : r.distance ≤ fuel) :
    fillFor? pts done fuel r chain =
        some (fillFor (stampAfter pts r.outputRate done) fuel r chain) ∧
      (fillFor (stampAfter pts r.outputRate done) fuel r chain).2.1.Bounded ∧
      ((fillFor (stampAfter pts r.outputRate done) fuel r chain).1 = true →
        (fillFor (stampAfter pts r.outputRate done) fuel r chain).2.1.ready = true) := by
  -- a fill that gets something brings the frame closer, and keeps everything else
  induction fuel generalizing r chain with
  | zero =>
    have ready : r.ready = true := ready_eq_true_iff.mpr (Nat.le_zero.mp enough)
    refine ⟨?_, bounded, fun _ => ready⟩
    simp only [fillFor?, fillFor, bounded.ready?_eq, ready, Option.bind_eq_bind, Option.bind_some,
      if_true]
  | succ fuel ih =>
    unfold fillFor? fillFor
    rw [bounded.ready?_eq]
    by_cases ready : r.ready = true
    · rw [if_pos ready]
      refine ⟨?_, bounded, fun _ => ready⟩
      simp only [ready, Option.bind_eq_bind, Option.bind_some, if_true]
    · have waiting : r.ready = false := by simpa using ready
      have filled := bounded.fill?_eq suits fits (stampAfter pts r.outputRate done)
      have bounded' := bounded.fill chain (stampAfter pts r.outputRate done)
      have settings := sameSettings_fill r chain (stampAfter pts r.outputRate done)
      have suits' := suits.moves (r.fill_moves chain (stampAfter pts r.outputRate done))
      simp only [waiting, time?_eq timely small le, filled, Option.bind_eq_bind, Option.bind_some,
        Bool.false_eq_true, if_false]
      rcases result : r.fill chain (stampAfter pts r.outputRate done) with ⟨_ | _, r', chain'⟩
      · rw [result] at bounded'
        exact ⟨rfl, bounded', fun never => absurd never Bool.false_ne_true⟩
      · rw [result] at bounded' settings suits'
        have rate : r'.outputRate = r.outputRate := settings.outputRate
        have closer := fill_distance waiting result
        rw [← rate] at timely ⊢
        exact ih bounded' suits' timely (by omega)

/-- A run of frames is not cut short. The times of its requests are in range if those of its start
and of its end are. -/
theorem Bounded.produce?_eq (bounded : r.Bounded) (suits : chain.Suits layout mode)
    (fits : layout.Bounded) {frames output : Nat} (timely : Timely pts r.outputRate frames)
    (small : frames < 0x8000_0000_0000_0000) (room : frames * r.channels ≤ output)
    (counted : output < UInt64.size) {left done : Nat} (total : done + left = frames) :
    produce? pts output left done r chain = some (produce pts left done r chain) := by
  induction left generalizing done r chain with
  | zero => rfl
  | succ left ih =>
    obtain ⟨filled, bounded', ready⟩ :=
      bounded.fillFor?_eq suits fits timely small (show done ≤ frames by omega)
        (Nat.le_refl r.distance)
    have settings := sameSettings_fillFor (stampAfter pts r.outputRate done) r.distance r chain
    have suits' :=
      suits.moves (fillFor_moves (stampAfter pts r.outputRate done) r.distance r chain)
    unfold produce? produce
    simp only [filled, Option.bind_eq_bind, Option.bind_some]
    rw [show r.index + r.quality.lookahead + 1 - r.staged = r.distance from rfl]
    rcases result : fillFor (stampAfter pts r.outputRate done) r.distance r chain with
      ⟨_ | _, r', chain'⟩
    · rfl
    · rw [result] at bounded' ready settings suits'
      have ready : r'.ready = true := ready rfl
      have channels : r'.channels = r.channels := settings.channels
      have rate : r'.outputRate = r.outputRate := settings.outputRate
      rw [← channels] at room
      rw [← rate] at timely
      have stop : (done + 1) * r'.channels ≤ output :=
        Nat.le_trans (Nat.mul_le_mul_right _ (by omega)) room
      have start : done * r'.channels ≤ (done + 1) * r'.channels :=
        Nat.mul_le_mul_right _ (Nat.le_succ done)
      have width : (done + 1) * r'.channels - done * r'.channels = r'.channels := by
        rw [Nat.succ_mul, Nat.add_sub_cancel_left]
      have later : produce? pts output left (done + 1) r'.step chain' =
          some (produce pts left (done + 1) r'.step chain') :=
        ih (bounded'.step ready) suits' timely room (by omega)
      simp only [word?_eq (Nat.lt_of_le_of_lt stop counted), part?_eq start stop, width,
        word?_eq (Nat.lt_of_le_of_lt (Nat.le_trans start stop) counted), bounded'.frame?_eq ready,
        bounded'.step?_eq ready, later, Option.bind_some]

/-- Resampling into a run of `output` samples is within bounds. -/
theorem Bounded.resample?_eq (bounded : r.Bounded) (suits : chain.Suits layout mode)
    (fits : layout.Bounded) {frames output : Nat} (timely : Timely pts r.outputRate frames)
    (small : frames < 0x8000_0000_0000_0000) (counted : output < UInt64.size) :
    r.resample? frames output chain pts = some (r.resample frames output chain pts) := by
  have room : min frames (output / r.channels) * r.channels ≤ output :=
    Nat.le_trans (Nat.mul_le_mul_right _ (Nat.min_le_right _ _)) (Nat.div_mul_le_self _ _)
  have short : min frames (output / r.channels) ≤ frames := Nat.min_le_left _ _
  have sooner : Timely pts r.outputRate (min frames (output / r.channels)) :=
    timely.of_le small short
  unfold resample? resample
  rw [quotient?_eq bounded.channels]
  exact bounded.produce?_eq suits fits sooner (Nat.lt_of_le_of_lt short small) room counted
    (Nat.zero_add _)

end Loops

end Resampler

end Mixdown
