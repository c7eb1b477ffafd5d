import Mixdown.Proofs.Bounds.Resampling
import Mixdown.Proofs.Mixer.BusBlocks
import Mixdown.Proofs.Provider.Voice

/-!
# Kernels within bounds

The loops that read a chain and the kernels that mix what was read, with every index, range and
difference checked that they compute. What a kernel mixes goes to a place on its buses that is known
by its size. A place for a whole block has room for every frame that a loop reads, since a loop
reads no more than is left of the block, whatever it is granted.
-/

namespace Mixdown

namespace Ramp

/-- `step`, where the frames that remain are counted down. -/
def step? (r : Ramp) : Option Ramp :=
  if r.remaining = 0 then some r
  else do
    let remaining ← minus? r.remaining 1
    let current := if remaining = 0 then r.target else r.current + r.increment
    some { r with remaining, current }

/-- `skip`, where the frames are taken from those that remain. -/
def skip? (r : Ramp) (frames : Nat) : Option Ramp :=
  if r.remaining ≤ frames then some { r with remaining := 0, current := r.target }
  else do
    let remaining ← minus? r.remaining frames
    some { r with remaining, current := r.current + r.increment * Single.ofNat frames }

theorem step?_eq (r : Ramp) : r.step? = some r.step := by
  unfold step? step
  rcases remaining : r.remaining with _ | _ | left <;> rfl

theorem skip?_eq (r : Ramp) (frames : Nat) : r.skip? frames = some (r.skip frames) := by
  unfold skip? skip
  by_cases reached : r.remaining ≤ frames
  · rw [if_pos reached, if_pos reached]
  · rw [if_neg reached, if_neg reached, minus?_eq (Nat.le_of_not_le reached)]
    rfl

end Ramp

namespace Volume

def step? (v : Volume) : Option Volume := do
  some ⟨← v.left.step?, ← v.right.step?, ← v.aux.step?⟩

def skip? (v : Volume) (frames : Nat) : Option Volume := do
  some ⟨← v.left.skip? frames, ← v.right.skip? frames, ← v.aux.skip? frames⟩

/-- `play`, where the gains take checked steps. -/
def play? (channels : Channels) :
    Volume → List (Stereo Float32) → Option (List Contribution × Volume)
  | volume, [] => some ([], volume)
  | volume, frame :: frames => do
    let (rest, after) ← play? channels (← volume.step?) frames
    some (volume.contribution channels frame :: rest, after)

theorem step?_eq (v : Volume) : v.step? = some v.step := by
  simp only [step?, Ramp.step?_eq, Option.bind_eq_bind, Option.bind_some, step]

theorem skip?_eq (v : Volume) (frames : Nat) : v.skip? frames = some (v.skip frames) := by
  simp only [skip?, Ramp.skip?_eq, Option.bind_eq_bind, Option.bind_some, skip]

theorem play?_eq (channels : Channels) (v : Volume) (frames : List (Stereo Float32)) :
    v.play? channels frames = some (v.play channels frames) := by
  induction frames generalizing v with
  | nil => rfl
  | cons frame frames ih =>
    simp only [play?, step?_eq, ih, Option.bind_eq_bind, Option.bind_some, play]

end Volume

/-- A part of a main bus and, with a send, of an auxiliary bus, by the numbers of their samples. -/
structure BusRange where
  main : Nat
  aux : Option Nat

namespace BusRange

/-- The part for the frames from `start` up to `stop`. -/
def part? (place : BusRange) (start stop : Nat) : Option BusRange := do
  let first ← word? (start * maxMixChannels)
  let last ← word? (stop * maxMixChannels)
  let main ← Mixdown.part? place.main first last
  match place.aux with
  | none => some ⟨main, none⟩
  | some aux => do some ⟨main, ← Mixdown.part? aux start stop⟩

/-- What is left of the main bus behind `done` frames. -/
def rest? (place : BusRange) (done : Nat) : Option BusRange := do
  let start ← word? (done * maxMixChannels)
  some ⟨← Mixdown.part? place.main start place.main, none⟩

/-- The samples of frame number `i`. -/
def frame? (place : BusRange) (i : Nat) : Option (Nat × Nat × Option Nat) := do
  let left ← index? place.main (2 * i)
  let right ← index? place.main (2 * i + 1)
  match place.aux with
  | none => some (left, right, none)
  | some aux => do some (left, right, ← index? aux i)

/-- The place of `frames` frames, with or without a send. -/
def ofFrames (frames : Nat) (send : Bool) : BusRange :=
  ⟨frames * maxMixChannels, if send then some frames else none⟩

theorem part?_ofFrames {frames start stop : Nat} (send : Bool) (order : start ≤ stop)
    (inside : stop ≤ frames) (small : frames * maxMixChannels < UInt64.size) :
    (ofFrames frames send).part? start stop = some (ofFrames (stop - start) send) := by
  have first : start * maxMixChannels ≤ stop * maxMixChannels := Nat.mul_le_mul_right _ order
  have last : stop * maxMixChannels ≤ frames * maxMixChannels := Nat.mul_le_mul_right _ inside
  simp only [part?, ofFrames, word?_eq (Nat.lt_of_le_of_lt last small),
    word?_eq (Nat.lt_of_le_of_lt (Nat.le_trans first last) small), part?_eq first last,
    Option.bind_eq_bind, Option.bind_some, Nat.mul_sub_right_distrib]
  cases send with
  | false => rfl
  | true => simp only [if_true, part?_eq order inside, Option.bind_some]

theorem rest?_ofFrames {frames done : Nat} (le : done ≤ frames)
    (small : frames * maxMixChannels < UInt64.size) :
    (ofFrames frames false).rest? done = some (ofFrames (frames - done) false) := by
  have order : done * maxMixChannels ≤ frames * maxMixChannels := Nat.mul_le_mul_right _ le
  simp only [rest?, ofFrames, word?_eq (Nat.lt_of_le_of_lt order small),
    part?_eq order (Nat.le_refl _), Option.bind_eq_bind, Option.bind_some,
    Nat.mul_sub_right_distrib]
  rfl

/-- A place has room for so many frames. -/
structure Holds (place : BusRange) (frames : Nat) : Prop where
  main : frames * maxMixChannels ≤ place.main
  aux : ∀ aux, place.aux = some aux → frames ≤ aux

theorem holds_ofFrames (frames : Nat) (send : Bool) : (ofFrames frames send).Holds frames where
  main := Nat.le_refl _
  aux aux given := by
    cases send with
    | false => cases given
    | true => exact Nat.le_of_eq (Option.some.inj given)

theorem Holds.of_le {place : BusRange} {fewer frames : Nat} (holds : place.Holds frames)
    (le : fewer ≤ frames) : place.Holds fewer where
  main := Nat.le_trans (Nat.mul_le_mul_right _ le) holds.main
  aux aux given := Nat.le_trans le (holds.aux aux given)

theorem Holds.isSome_frame? {place : BusRange} {frames i : Nat} (holds : place.Holds frames)
    (inside : i < frames) : (place.frame? i).isSome = true := by
  have main : 2 * i + 1 < place.main := by
    have room := holds.main
    simp only [maxMixChannels] at room
    omega
  unfold frame?
  rw [index?_eq main, index?_eq (Nat.lt_of_succ_lt main)]
  cases aux : place.aux with
  | none => rfl
  | some size =>
    simp only [index?_eq (Nat.lt_of_lt_of_le inside (holds.aux size aux))]
    rfl

end BusRange

namespace Channels

/-- `frameAt`, where the samples are read one by one. -/
def frameAt? (channels : Channels) (samples : List Float32) (i : Nat) : Option (Stereo Float32) :=
  match channels with
  | .mono => do some (.both (← samples[i]?))
  | .stereo => do some ⟨← samples[2 * i]?, ← samples[2 * i + 1]?⟩

/-- The frames of a run that are mixed to a place, and no more than the run holds. -/
def mix? (channels : Channels) (samples : List Float32) (frames : Nat) (place : BusRange) :
    Option (List (Stereo Float32)) := do
  let whole ← quotient? samples.length channels.count
  (List.range (min frames whole)).mapM fun i => do
    let frame ← channels.frameAt? samples i
    let _ ← place.frame? i
    some frame

theorem count_pos (channels : Channels) : 0 < channels.count := by cases channels <;> decide

theorem count_le (channels : Channels) : channels.count ≤ maxMixChannels := by
  cases channels <;> decide

theorem frameAt?_eq (channels : Channels) {samples : List Float32} {frames i : Nat}
    (whole : frames * channels.count ≤ samples.length) (inside : i < frames) :
    channels.frameAt? samples i = some (channels.frameAt samples i) := by
  cases channels with
  | mono =>
    have there : i < samples.length := by
      simp only [count] at whole
      omega
    simp only [frameAt?, List.getElem?_eq_getElem there, Option.bind_eq_bind, Option.bind_some,
      frameAt, List.getD_eq_getElem?_getD, Option.getD_some]
  | stereo =>
    have there : 2 * i + 1 < samples.length := by
      simp only [count] at whole
      omega
    simp only [frameAt?, List.getElem?_eq_getElem there,
      List.getElem?_eq_getElem (Nat.lt_of_succ_lt there), Option.bind_eq_bind, Option.bind_some,
      frameAt, List.getD_eq_getElem?_getD, Option.getD_some]

/-- Frames that a run holds and a place has room for are read and mixed. -/
theorem mix?_eq (channels : Channels) {samples : List Float32} {frames : Nat} {place : BusRange}
    (whole : frames * channels.count ≤ samples.length) (holds : place.Holds frames) :
    channels.mix? samples frames place =
      some ((List.range frames).map (channels.frameAt samples)) := by
  have enough : frames ≤ samples.length / channels.count :=
    (Nat.le_div_iff_mul_le channels.count_pos).mpr whole
  unfold mix?
  rw [quotient?_eq channels.count_pos, Option.bind_eq_bind, Option.bind_some,
    Nat.min_eq_left enough]
  refine mapM_eq_some_map ?_
  intro i member
  have inside : i < frames := List.mem_range.mp member
  obtain ⟨at_i, placed⟩ := Option.isSome_iff_exists.mp (holds.isSome_frame? inside)
  rw [channels.frameAt?_eq whole inside, placed]
  rfl

end Channels

/-- `discard` in a loop over `frameCount` frames. -/
def discard? (frameCount done : Nat) (buffer : Buffer) :
    Option (Nat × Option (List (Stereo Float32))) := do
  let asked ← minus? frameCount done
  some (min buffer.frames asked, some [])

/-- `listen` in a loop over `frameCount` frames, where `place` is what is mixed to between two
frames of the block. -/
def listen? (input : MixFormat) (channels : Channels) (frameCount : Nat)
    (place : Nat → Nat → Option BusRange) (done : Nat) (buffer : Buffer) :
    Option (Nat × Option (List (Stereo Float32))) := do
  let asked ← minus? frameCount done
  let claimed := min buffer.frames asked
  if buffer.samples.format = input.toSample then
    let whole := min claimed (← quotient? buffer.samples.size channels.count)
    let stop ← word? (done + whole)
    let frames ← channels.mix? buffer.samples.singles whole (← place done stop)
    some (whole, some frames)
  else some (claimed, none)

theorem discard?_eq {frameCount done : Nat} (le : done ≤ frameCount) (buffer : Buffer) :
    discard? frameCount done buffer = some (discard (frameCount - done) buffer) := by
  simp only [discard?, minus?_eq le, Option.bind_eq_bind, Option.bind_some, discard]

/-- Frames that a run holds are read as they are. -/
theorem Samples.stereoFrames?_eq_frameAt {s : Samples} {input : MixFormat}
    (format : s.format = input.toSample) (channels : Channels) {frames : Nat}
    (whole : frames * channels.count ≤ s.size) :
    s.stereoFrames? input channels frames =
      some ((List.range frames).map (channels.frameAt s.singles)) := by
  have heard := stereoFrames?_whole input channels (b := ⟨frames, s⟩) whole format
  rwa [Buffer.stereo_eq_frameAt] at heard

theorem listen?_eq {input : MixFormat} {channels : Channels} {frameCount done : Nat}
    {place : Nat → Nat → Option BusRange} (le : done ≤ frameCount)
    (small : frameCount < UInt64.size)
    (placed : ∀ stop, done ≤ stop → stop ≤ frameCount →
      ∃ p, place done stop = some p ∧ p.Holds (stop - done)) (buffer : Buffer) :
    listen? input channels frameCount place done buffer =
      some (listen input channels (frameCount - done) buffer) := by
  unfold listen? listen
  rw [minus?_eq le]
  simp only [Option.bind_eq_bind, Option.bind_some]
  generalize claimed : min buffer.frames (frameCount - done) = granted
  have few : granted ≤ frameCount - done := claimed ▸ Nat.min_le_right _ _
  by_cases format : buffer.samples.format = input.toSample
  · rw [if_pos format, quotient?_eq channels.count_pos]
    generalize read : min granted (buffer.samples.size / channels.count) = whole
    have fewer : whole ≤ granted := read ▸ Nat.min_le_left _ _
    have held : whole * channels.count ≤ buffer.samples.size := by
      rw [← Nat.le_div_iff_mul_le channels.count_pos, ← read]
      exact Nat.min_le_right _ _
    obtain ⟨p, there, holds⟩ := placed (done + whole) (Nat.le_add_right _ _) (by omega)
    rw [Nat.add_sub_cancel_left] at holds
    have present : whole * channels.count ≤ buffer.samples.singles.length := by
      rwa [Samples.length_singles]
    simp only [Option.bind_some, read, word?_eq (show done + whole < UInt64.size by omega), there,
      channels.mix?_eq present holds, Samples.stereoFrames?_eq_frameAt format channels held]
  · rw [if_neg format]
    cases found : buffer.samples.stereoFrames? input channels
        (min granted (buffer.samples.size / channels.count)) with
    | none => rfl
    | some frames => exact absurd (Samples.format_of_stereoFrames? found) format

theorem deinterleave_append {α : Type} {xs : List α} (pairs : xs.length % 2 = 0) (ys : List α) :
    deinterleave (xs ++ ys) = deinterleave xs ++ deinterleave ys := by
  induction xs using deinterleave.induct with
  | case1 left right rest ih =>
    rw [List.length_cons, List.length_cons, Nat.add_assoc, Nat.add_mod_right] at pairs
    simp only [List.cons_append, deinterleave, ih pairs]
  | case2 xs alone =>
    rcases xs with _ | ⟨left, _ | ⟨right, rest⟩⟩
    · rfl
    · exact absurd pairs Nat.one_ne_zero
    · exact absurd rfl (alone left right rest)

theorem deinterleave_silence (frames : Nat) :
    deinterleave (List.replicate (frames * 2) (0 : Float32)) =
      List.replicate frames (.both 0) := by
  induction frames with
  | zero => rfl
  | succ frames ih =>
    rw [Nat.succ_mul, List.replicate_succ, List.replicate_succ, deinterleave, ih,
      List.replicate_succ]
    rfl

namespace Channels

/-- Interleaved samples as stereo frames; one channel is heard on both sides. -/
def frames (channels : Channels) (samples : List Float32) : List (Stereo Float32) :=
  match channels with
  | .mono => samples.map Stereo.both
  | .stereo => deinterleave samples

@[simp] theorem frames_nil (channels : Channels) : channels.frames [] = [] := by
  cases channels <;> rfl

variable {samples : List Float32} {held : Nat}

theorem length_frames (channels : Channels) (whole : samples.length = held * channels.count) :
    (channels.frames samples).length = held := by
  cases channels with
  | mono => exact (List.length_map _).trans (whole.trans (Nat.mul_one held))
  | stereo =>
    rw [frames, length_deinterleave, whole]
    exact Nat.mul_div_cancel _ Nat.two_pos

theorem frames_eq_frameAt (channels : Channels) (whole : samples.length = held * channels.count) :
    channels.frames samples = (List.range held).map (channels.frameAt samples) := by
  cases channels with
  | mono =>
    have length : samples.length = held := whole.trans (Nat.mul_one held)
    have heard := map_both_take samples (Nat.le_of_eq length.symm)
    rwa [← length, List.take_length, length] at heard
  | stereo =>
    have length : samples.length = 2 * held := whole.trans (Nat.mul_comm held 2)
    have heard := deinterleave_take samples (Nat.le_of_eq length.symm)
    rwa [← length, List.take_length] at heard

/-- Frames before some silence. -/
theorem frames_append_silence (channels : Channels)
    (whole : samples.length = held * channels.count) (missing : Nat) :
    channels.frames (samples ++ List.replicate (missing * channels.count) 0) =
      channels.frames samples ++ List.replicate missing (.both 0) := by
  cases channels with
  | mono => simp [frames, count]
  | stereo =>
    have pairs : samples.length % 2 = 0 := by
      rw [whole]
      exact Nat.mul_mod_left _ 2
    simp only [frames]
    rw [deinterleave_append pairs]
    exact congrArg _ (deinterleave_silence missing)

/-- A buffer for `total` frames holds some frames, and silence behind them. -/
structure Fills (channels : Channels) (total : Nat) (samples : List Float32)
    (heard : List (Stereo Float32)) : Prop where
  length : samples.length = total * channels.count
  frames : (List.range total).map (channels.frameAt samples) =
    heard ++ List.replicate (total - heard.length) (.both 0)

/-- Whole frames that are followed by silence up to the end of a buffer fill it. -/
theorem fills_append_silence (channels : Channels)
    (whole : samples.length = held * channels.count) {total : Nat} (le : held ≤ total) :
    channels.Fills total
      (samples ++ List.replicate (total * channels.count - held * channels.count) 0)
      (channels.frames samples) := by
  have full : (samples ++ List.replicate ((total - held) * channels.count) 0).length =
      total * channels.count := by
    rw [List.length_append, List.length_replicate, whole, ← Nat.add_mul, Nat.add_sub_cancel' le]
  rw [← Nat.mul_sub_right_distrib]
  refine ⟨full, ?_⟩
  rw [channels.length_frames whole, ← channels.frames_append_silence whole,
    channels.frames_eq_frameAt full]

end Channels

namespace Chain

variable {σ α : Type} [Provider σ]

/-- `Provider.pullFrom` over `frameCount` frames of which `done` were read, with the frames that are
left counted in each round. A loop that is cut short fails. -/
def pullFrom? (reader : Nat → Buffer → Option (Nat × Option (List α))) (pts : Option Int)
    (rate : UInt32) (frameCount : Nat) :
    (fuel done : Nat) → Chain σ → Option (List α × Chain σ)
  | 0, done, chain => if done < frameCount then none else some ([], chain)
  | fuel + 1, done, chain =>
    if done < frameCount then do
      let time ← time? pts rate done
      let asked ← minus? frameCount done
      match ← chain.request? asked time with
      | (none, chain) => some ([], chain)
      | (some buffer, chain) => do
        let (released, values) ← reader done buffer
        let chain := Provider.release chain released
        match values with
        | none => some ([], chain)
        | some values =>
          if released = 0 then some ([], chain)
          else do
            let done ← word? (done + released)
            let (more, chain) ← pullFrom? reader pts rate frameCount fuel done chain
            some (values ++ more, chain)
    else some ([], chain)

/-- `Provider.pull`, with every round checked. -/
def pull? (reader : Nat → Buffer → Option (Nat × Option (List α))) (pts : Option Int)
    (rate : UInt32) (frameCount : Nat) (chain : Chain σ) : Option (List α × Chain σ) :=
  pullFrom? reader pts rate frameCount frameCount 0 chain

variable {layout : ChainLayout} {mode : DownmixMode} {chain : Chain σ}
  {reader : Provider.Reader α} {reader? : Nat → Buffer → Option (Nat × Option (List α))}
  {pts : Option Int} {rate : UInt32} {frameCount : Nat}

/-- A loop over a block is not cut short and is within bounds, if its reader is and lets go of no
more than was asked for. -/
theorem Suits.pullFrom?_eq (suits : chain.Suits layout mode) (fits : layout.Bounded)
    (timely : Timely pts rate frameCount) (small : frameCount < 0x8000_0000_0000_0000)
    (reads : ∀ done buffer, done ≤ frameCount →
      reader? done buffer = some (reader (frameCount - done) buffer))
    (releases : ∀ asked buffer, (reader asked buffer).1 ≤ asked) {fuel done : Nat}
    (le : done ≤ frameCount) (enough : frameCount - done ≤ fuel) :
    pullFrom? reader? pts rate frameCount fuel done chain =
      some (Provider.pullFrom reader (stampAfter pts rate) fuel (frameCount - done) done
        chain) := by
  induction fuel generalizing done chain with
  | zero =>
    unfold pullFrom?
    rw [if_neg (by omega)]
    rfl
  | succ fuel ih =>
    unfold pullFrom? Provider.pullFrom
    by_cases more : done < frameCount
    · rw [if_pos more, if_neg (by omega), time?_eq timely small le, minus?_eq le]
      simp only [Option.bind_eq_bind, Option.bind_some, suits.request?_eq fits]
      have asked := suits.request (frameCount - done) (stampAfter pts rate done)
      rcases answer : Provider.request chain (frameCount - done) (stampAfter pts rate done) with
        ⟨_ | buffer, chain'⟩
      · rfl
      · rw [answer] at asked
        have short := releases (frameCount - done) buffer
        simp only [reads done buffer le, Option.bind_some]
        rcases read : reader (frameCount - done) buffer with ⟨released, _ | values⟩
        · rfl
        · rw [read] at short
          simp only
          by_cases nothing : released = 0
          · rw [if_pos nothing, if_pos nothing]
          · have left : frameCount - (done + released) = frameCount - done - released := by omega
            have later : pullFrom? reader? pts rate frameCount fuel (done + released)
                (Provider.release chain' released) = some (Provider.pullFrom reader
                  (stampAfter pts rate) fuel (frameCount - (done + released)) (done + released)
                  (Provider.release chain' released)) :=
              ih (asked.mapSource _) (by omega) (by omega)
            rw [if_neg nothing, if_neg nothing, word?_eq (by simp only [UInt64.size]; omega),
              Option.bind_some, later, left]
            rfl
    · rw [if_neg more, if_pos (by omega)]

theorem Suits.pull?_eq (suits : chain.Suits layout mode) (fits : layout.Bounded)
    (timely : Timely pts rate frameCount) (small : frameCount < 0x8000_0000_0000_0000)
    (reads : ∀ done buffer, done ≤ frameCount →
      reader? done buffer = some (reader (frameCount - done) buffer))
    (releases : ∀ asked buffer, (reader asked buffer).1 ≤ asked) :
    pull? reader? pts rate frameCount chain =
      some (Provider.pull reader (stampAfter pts rate) frameCount chain) :=
  suits.pullFrom?_eq fits timely small reads releases (Nat.zero_le _) (Nat.le_refl _)

end Chain

theorem listen_le (input : MixFormat) (channels : Channels) (asked : Nat) (buffer : Buffer) :
    (listen input channels asked buffer).1 ≤ asked := by
  have claimed : min buffer.frames asked ≤ asked := Nat.min_le_right _ _
  unfold listen
  simp only
  split
  · exact Nat.le_trans (Nat.min_le_left _ _) claimed
  · exact claimed

namespace Track

variable {σ : Type} [Provider σ]

/-- `passOver`, in a checked loop. -/
def passOver? (frameCount : Nat) (rate : UInt32) (pts : Option Int) (t : Track σ) :
    Option (Track σ) :=
  match t.chain with
  | none => some t
  | some chain => do
    let (_, chain) ← chain.pull? (discard? frameCount) pts rate frameCount
    some { t with chain := some chain }

/-- `read`, in a checked loop, where `place` is what is mixed to between two frames. -/
def read? (input : MixFormat) (channels : Channels) (frameCount : Nat) (rate : UInt32)
    (place : Nat → Nat → Option BusRange) (pts : Option Int) (t : Track σ) :
    Option (List (Stereo Float32) × Track σ) :=
  match t.chain with
  | none => some ([], t)
  | some chain => do
    let (frames, chain) ←
      chain.pull? (listen? input channels frameCount place) pts rate frameCount
    some (frames, { t with chain := some chain })

/-- `playDirect` to a place for a block; the part of it that is missing is filled with silence. -/
def playDirect? (input : MixFormat) (channels : Channels) (frameCount : Nat) (rate : UInt32)
    (place : BusRange) (pts : Option Int) (t : Track σ) : Option (Played σ) := do
  let (frames, t) ← t.read? input channels frameCount rate place.part? pts
  let (contributions, volume) ← t.volume.play? channels frames
  if frames.length = frameCount then
    some { contributions, track := { t with volume }, complete := true }
  else do
    let _ ← place.part? frames.length frameCount
    let missing ← minus? frameCount frames.length
    let volume ← volume.skip? missing
    some { contributions, track := { t with volume }, complete := false }

/-- The frames that are produced for a block, the samples of the scratch buffer, which is for a
block of stereo frames, and the track after them. -/
def resample? (channels : Channels) (frameCount : Nat) (pts : Option Int) (t : Track σ) :
    Option (Nat × List Float32 × Track σ) := do
  let scratch ← word? (frameCount * maxMixChannels)
  let room ← part? scratch 0 (← word? (frameCount * channels.count))
  match t.chain, t.resampler with
  | some chain, some r => do
    let (frames, r, chain) ← r.resample? frameCount room chain pts
    let start ← word? (frames.length * channels.count)
    let missing ← part? room start room
    some (frames.length, frames.flatten.take start ++ List.replicate missing 0,
      { t with chain := some chain, resampler := some r })
  | _, _ => some (0, List.replicate (← part? room 0 room) 0, t)

/-- `playResampled` from the scratch buffer to a place for a block. -/
def playResampled? (channels : Channels) (frameCount : Nat) (place : BusRange) (pts : Option Int)
    (t : Track σ) : Option (Played σ) := do
  let (produced, samples, t) ← t.resample? channels frameCount pts
  let frames ← channels.mix? samples frameCount place
  let (contributions, volume) ← t.volume.play? channels frames
  some { contributions, track := { t with volume }, complete := produced == frameCount }

/-- Every buffer of a track has a size of 64 bits, its stages and its resampler suit its channels,
and a block of `frameCount` frames at the mix rate `rate` can be read. -/
structure Bounded (frameCount : Nat) (rate : UInt32) (t : Track σ) : Prop where
  chain : ∀ c, t.chain = some c → ∃ layout mode, layout.Bounded ∧ c.Suits layout mode
  resampler : ∀ r, t.resampler = some r →
    r.Bounded ∧ r.outputRate = rate ∧ r.channels = (Channels.ofCount t.mixChannelCount).count

variable {t : Track σ} {frameCount : Nat} {rate : UInt32} {pts : Option Int}

theorem Bounded.passOver?_eq (bounded : t.Bounded frameCount rate)
    (timely : Timely pts rate frameCount) (small : frameCount < 0x8000_0000_0000_0000) :
    t.passOver? frameCount rate pts = some (t.passOver frameCount rate pts) := by
  unfold passOver? passOver
  cases given : t.chain with
  | none => rfl
  | some chain =>
    obtain ⟨layout, mode, fits, suits⟩ := bounded.chain chain given
    have pulled : chain.pull? (discard? frameCount) pts rate frameCount =
        some (Provider.pull discard (stampAfter pts rate) frameCount chain) :=
      suits.pull?_eq fits timely small (fun done buffer le => discard?_eq le buffer)
        fun asked buffer => Nat.min_le_right _ _
    simp only [pulled, Option.bind_eq_bind, Option.bind_some]

theorem Bounded.read?_eq (bounded : t.Bounded frameCount rate)
    (timely : Timely pts rate frameCount) (small : frameCount < 0x8000_0000_0000_0000)
    {input : MixFormat} {channels : Channels} {place : Nat → Nat → Option BusRange}
    (placed : ∀ done stop, done ≤ stop → stop ≤ frameCount →
      ∃ p, place done stop = some p ∧ p.Holds (stop - done)) :
    t.read? input channels frameCount rate place pts =
      some (t.read input channels frameCount rate pts) := by
  unfold read? read
  cases given : t.chain with
  | none => rfl
  | some chain =>
    obtain ⟨layout, mode, fits, suits⟩ := bounded.chain chain given
    have word : frameCount < UInt64.size := by
      simp only [UInt64.size]
      omega
    have pulled : chain.pull? (listen? input channels frameCount place) pts rate frameCount =
        some (Provider.pull (listen input channels) (stampAfter pts rate) frameCount chain) :=
      suits.pull?_eq fits timely small
        (fun done buffer le => listen?_eq le word (placed done) buffer) (listen_le input channels)
    simp only [pulled, Option.bind_eq_bind, Option.bind_some]

theorem Bounded.playDirect?_eq (bounded : t.Bounded frameCount rate)
    (timely : Timely pts rate frameCount) (small : frameCount * maxMixChannels < UInt64.size)
    (input : MixFormat) (channels : Channels) (send : Bool) :
    t.playDirect? input channels frameCount rate (.ofFrames frameCount send) pts =
      some (t.playDirect input channels frameCount rate pts) := by
  have short : frameCount < 0x8000_0000_0000_0000 := by
    simp only [maxMixChannels, UInt64.size] at small
    omega
  have placed (done stop : Nat) (order : done ≤ stop) (inside : stop ≤ frameCount) :
      ∃ p, (BusRange.ofFrames frameCount send).part? done stop = some p ∧ p.Holds (stop - done) :=
    ⟨_, BusRange.part?_ofFrames send order inside small, BusRange.holds_ofFrames _ send⟩
  have few := t.length_read input channels frameCount rate pts
  simp only [playDirect?, bounded.read?_eq timely short placed, Volume.play?_eq,
    Option.bind_eq_bind, Option.bind_some, playDirect]
  by_cases complete : (t.read input channels frameCount rate pts).1.length = frameCount
  · simp only [complete, if_true, beq_self_eq_true]
  · have partly : ((t.read input channels frameCount rate pts).1.length == frameCount) = false :=
      beq_false_of_ne complete
    simp only [if_neg complete, BusRange.part?_ofFrames send few (Nat.le_refl _) small,
      minus?_eq few, Volume.skip?_eq, Option.bind_some, partly, Bool.false_eq_true, if_false]

theorem readResampled_fed {chain : Chain σ} {r : Resampler} (given : t.chain = some chain)
    (has : t.resampler = some r) (channels : Channels) (pts : Option Int) :
    t.readResampled channels frameCount pts =
      let (frames, r, chain) := r.resample frameCount (frameCount * channels.count) chain pts
      (channels.frames frames.flatten, { t with chain := some chain, resampler := some r }) := by
  unfold readResampled
  rw [given, has]
  cases channels <;> rfl

theorem readResampled_idle (idle : t.chain = none ∨ t.resampler = none) (channels : Channels)
    (pts : Option Int) : t.readResampled channels frameCount pts = ([], t) := by
  unfold readResampled
  rcases idle with missing | missing
  · rw [missing]
  · rw [missing]
    cases t.chain <;> rfl

section Scratch

variable {channels : Channels}

/-- Without a chain and a resampler, the scratch buffer is silent. -/
theorem resample?_idle (idle : t.chain = none ∨ t.resampler = none)
    (small : frameCount * maxMixChannels < UInt64.size) :
    ∃ samples, t.resample? channels frameCount pts = some (0, samples, t) ∧
      channels.Fills frameCount samples [] := by
  have inside : frameCount * channels.count ≤ frameCount * maxMixChannels :=
    Nat.mul_le_mul_left _ channels.count_le
  have silent := channels.fills_append_silence
    (show ([] : List Float32).length = 0 * channels.count from (Nat.zero_mul _).symm)
    (Nat.zero_le frameCount)
  rw [Nat.zero_mul, Nat.sub_zero, List.nil_append, channels.frames_nil] at silent
  refine ⟨_, ?_, silent⟩
  unfold resample?
  simp only [word?_eq small, word?_eq (Nat.lt_of_le_of_lt inside small),
    part?_eq (Nat.zero_le _) inside, part?_eq (Nat.zero_le _) (Nat.le_refl _), Nat.sub_zero,
    Option.bind_eq_bind, Option.bind_some]
  rcases idle with missing | missing
  · rw [missing]
  · rw [missing]
    cases t.chain <;> rfl

/-- With both, it holds the frames that are produced, and silence behind them. -/
theorem Bounded.resample?_fed (bounded : t.Bounded frameCount rate)
    (timely : Timely pts rate frameCount) (small : frameCount * maxMixChannels < UInt64.size)
    (width : channels = .ofCount t.mixChannelCount) {chain : Chain σ} {r : Resampler}
    (given : t.chain = some chain) (has : t.resampler = some r) :
    ∃ samples, t.resample? channels frameCount pts =
        some ((t.readResampled channels frameCount pts).1.length, samples,
          (t.readResampled channels frameCount pts).2) ∧
      channels.Fills frameCount samples (t.readResampled channels frameCount pts).1 := by
  have scratch : frameCount * channels.count ≤ frameCount * maxMixChannels :=
    Nat.mul_le_mul_left _ channels.count_le
  have word : frameCount * channels.count < UInt64.size := Nat.lt_of_le_of_lt scratch small
  have short : frameCount < 0x8000_0000_0000_0000 := by
    simp only [maxMixChannels, UInt64.size] at small
    omega
  obtain ⟨layout, mode, fits, suits⟩ := bounded.chain chain given
  obtain ⟨bounded, sameRate, ofCount⟩ := bounded.resampler r has
  rw [← sameRate] at timely
  rw [← width] at ofCount
  have produced := bounded.resample?_eq suits fits timely short word
  have whole := r.length_flatten_resample frameCount (frameCount * channels.count) chain pts
  have enough := (r.resample_frames frameCount (frameCount * channels.count) chain pts).1
  rw [readResampled_fed given has]
  simp only [resample?, given, has, produced, word?_eq small, word?_eq word,
    part?_eq (Nat.zero_le _) scratch, Nat.sub_zero, Option.bind_eq_bind, Option.bind_some]
  generalize r.resample frameCount (frameCount * channels.count) chain pts = result at *
  obtain ⟨frames, r', chain'⟩ := result
  rw [ofCount] at whole
  have inside : frames.length * channels.count ≤ frameCount * channels.count :=
    Nat.mul_le_mul_right _ enough
  refine ⟨_, ?_, channels.fills_append_silence whole enough⟩
  simp only [word?_eq (Nat.lt_of_le_of_lt inside word), part?_eq inside (Nat.le_refl _),
    Option.bind_some, List.take_of_length_le (Nat.le_of_eq whole), channels.length_frames whole]

/-- A track is resampled into the scratch buffer. -/
theorem Bounded.resample?_eq (bounded : t.Bounded frameCount rate)
    (timely : Timely pts rate frameCount) (small : frameCount * maxMixChannels < UInt64.size)
    (width : channels = .ofCount t.mixChannelCount) :
    ∃ samples, t.resample? channels frameCount pts =
        some ((t.readResampled channels frameCount pts).1.length, samples,
          (t.readResampled channels frameCount pts).2) ∧
      channels.Fills frameCount samples (t.readResampled channels frameCount pts).1 := by
  by_cases idle : t.chain = none ∨ t.resampler = none
  · rw [readResampled_idle idle]
    exact resample?_idle idle small
  · obtain ⟨fed, resampled⟩ := not_or.mp idle
    obtain ⟨chain, given⟩ := Option.ne_none_iff_exists'.mp fed
    obtain ⟨r, has⟩ := Option.ne_none_iff_exists'.mp resampled
    exact bounded.resample?_fed timely small width given has

end Scratch

theorem Bounded.playResampled?_eq (bounded : t.Bounded frameCount rate)
    (timely : Timely pts rate frameCount) (small : frameCount * maxMixChannels < UInt64.size)
    {channels : Channels} (width : channels = .ofCount t.mixChannelCount) (send : Bool) :
    t.playResampled? channels frameCount (.ofFrames frameCount send) pts =
      some (t.playResampled channels frameCount pts) := by
  obtain ⟨samples, produced, fills⟩ := bounded.resample?_eq timely small width
  have whole : frameCount * channels.count ≤ samples.length := Nat.le_of_eq fills.length.symm
  simp only [playResampled?, produced, channels.mix?_eq whole (BusRange.holds_ofFrames _ send),
    fills.frames, Volume.play?_eq, Option.bind_eq_bind, Option.bind_some, playResampled]

end Track

end Mixdown
