import Mixdown.Proofs.Resampler.Session
import Mixdown.Proofs.Single.Arithmetic
import Mixdown.Provider.Clip

/-!
# Resampling between equal rates

While the rates are equal, each frame that is produced moves the position by one frame of the input,
and the fraction of the position stays. Where the fraction is zero, the frames of the input come out
as they are (`Session.evenly`). A rate that was different before may have left another fraction,
since it stays when the rate is changed, and then frames between those of the input come out.
-/

namespace Mixdown

namespace Single

/-- A single of a magnitude of up to `n`. -/
def Bounded (n : ℕ) (x : Float32) : Prop := ∃ v, value? x = some v ∧ |v| ≤ n

/-- Samples that are equal as numbers, one by one: zeros are, whatever their signs. -/
def SameValues (samples samples' : List Float32) : Prop :=
  List.Forall₂ (fun x y => (x == y) = true) samples samples'

section Bounded

variable {m n : ℕ} {x y t : Float32} {v : ℚ}

theorem bounded_of_rounds {q : ℚ} (rounds : Rounds x q) (small : |q| ≤ n) (few : n < 2 ^ 24) :
    Bounded n x := by
  obtain ⟨v, value, nearest⟩ := rounds
  have fits : Fits (n : ℚ) := by exact_mod_cast fits_int (n := n) (by simpa using mod_cast few)
  exact ⟨v, value, nearest.abs_le_of_le fits small⟩

theorem le_high {q : ℚ} (small : |q| ≤ n) (few : n < 2 ^ 24) : |q| ≤ 2 ^ 127 := by
  have short : (n : ℚ) ≤ 2 ^ 24 := by exact_mod_cast few.le
  exact small.trans (short.trans (by norm_num))

theorem Bounded.add (here : Bounded m x) (there : Bounded n y) (few : m + n < 2 ^ 24) :
    Bounded (m + n) (x + y) := by
  obtain ⟨a, value, small⟩ := here
  obtain ⟨b, value', small'⟩ := there
  have sum : |a + b| ≤ (m + n : ℕ) := by
    push_cast
    exact (abs_add_le a b).trans (add_le_add small small')
  exact bounded_of_rounds (rounds_add value value' (le_high sum few)) sum few

theorem Bounded.sub (here : Bounded m x) (there : Bounded n y) (few : m + n < 2 ^ 24) :
    Bounded (m + n) (x - y) := by
  obtain ⟨a, value, small⟩ := here
  obtain ⟨b, value', small'⟩ := there
  have difference : |a - b| ≤ (m + n : ℕ) := by
    push_cast
    exact (abs_sub a b).trans (add_le_add small small')
  exact bounded_of_rounds (rounds_sub value value' (le_high difference few)) difference few

theorem Bounded.mul (here : Bounded m x) (there : Bounded n y) (few : m * n < 2 ^ 24) :
    Bounded (m * n) (x * y) := by
  obtain ⟨a, value, small⟩ := here
  obtain ⟨b, value', small'⟩ := there
  have product : |a * b| ≤ (m * n : ℕ) := by
    rw [abs_mul]
    push_cast
    exact mul_le_mul small small' (abs_nonneg b) (Nat.cast_nonneg m)
  exact bounded_of_rounds (rounds_mul value value' (le_high product few)) product few

/-- Nothing of a number is left at zero. -/
theorem Bounded.value?_mul_zero (here : Bounded n x) (zero : value? t = some 0) :
    value? (x * t) = some 0 := by
  obtain ⟨a, value, -⟩ := here
  have product : a * 0 = 0 := mul_zero a
  have rounds := rounds_mul value zero (by simp)
  rw [product] at rounds
  exact rounds.value?_eq fits_zero

theorem value?_add_zero (value : value? x = some v) (small : |v| ≤ 2 ^ 127)
    (zero : value? t = some 0) : value? (x + t) = some v := by
  have rounds := rounds_add value zero (by simpa using small)
  rw [add_zero] at rounds
  exact rounds.value?_eq (fits_value? value)

theorem value?_zero_add (value : value? x = some v) (small : |v| ≤ 2 ^ 127)
    (zero : value? t = some 0) : value? (t + x) = some v := by
  have rounds := rounds_add zero value (by simpa using small)
  rw [zero_add] at rounds
  exact rounds.value?_eq (fits_value? value)

end Bounded

end Single

namespace Interpolation

open Single

variable {p0 p1 p2 p3 a b t : Float32}

/-- The line starts at its first point. -/
theorem line_start (here : Bounded 1 a) (there : Bounded 1 b) (zero : value? t = some 0) :
    (line a b t == a) = true := by
  have product := (there.sub here (by decide)).value?_mul_zero zero
  obtain ⟨v, value, small⟩ := here
  have start : value? (line a b t) = some v :=
    value?_add_zero value (le_high small (by decide)) product
  exact (beq_iff start value).mpr rfl

/-- A number at zero adds nothing to another. -/
theorem bounded_mul_add {m n : ℕ} {x y : Float32} (here : Bounded m x) (there : Bounded n y)
    (few : n < 2 ^ 24) (zero : value? t = some 0) :
    Bounded n (x * t + y) ∧ value? (x * t + y) = value? y := by
  have product := here.value?_mul_zero zero
  obtain ⟨v, value, small⟩ := there
  have sum := value?_zero_add value (le_high small few) product
  exact ⟨⟨v, sum, small⟩, sum.trans value.symm⟩

/-- The curve starts at its second point. -/
theorem curve_start (before : Bounded 1 p0) (here : Bounded 1 p1) (next : Bounded 1 p2)
    (last : Bounded 1 p3) (zero : value? t = some 0) : (curve p0 p1 p2 p3 t == p1) = true := by
  have half : Bounded 1 (0.5 : Float32) := ⟨1 / 2, by decide +kernel, by norm_num [abs_le]⟩
  have minus_half : Bounded 1 (-0.5 : Float32) := ⟨-1 / 2, by decide +kernel, by norm_num [abs_le]⟩
  have more : Bounded 2 (1.5 : Float32) := ⟨3 / 2, by decide +kernel, by norm_num [abs_le]⟩
  have two : Bounded 2 (2 : Float32) := ⟨2, by decide +kernel, by norm_num [abs_le]⟩
  have most : Bounded 3 (2.5 : Float32) := ⟨5 / 2, by decide +kernel, by norm_num [abs_le]⟩
  have third : Bounded 6 (-0.5 * p0 + 1.5 * p1 - 1.5 * p2 + 0.5 * p3) :=
    ((((minus_half.mul before (by decide)).add (more.mul here (by decide)) (by decide)).sub
      (more.mul next (by decide)) (by decide)).add (half.mul last (by decide)) (by decide))
  have second : Bounded 7 (p0 - 2.5 * p1 + 2 * p2 - 0.5 * p3) :=
    ((before.sub (most.mul here (by decide)) (by decide)).add (two.mul next (by decide))
      (by decide)).sub (half.mul last (by decide)) (by decide)
  have first : Bounded 2 (-0.5 * p0 + 0.5 * p2) :=
    (minus_half.mul before (by decide)).add (half.mul next (by decide)) (by decide)
  obtain ⟨outer, -⟩ := bounded_mul_add third second (by decide) zero
  obtain ⟨inner, -⟩ := bounded_mul_add outer first (by decide) zero
  obtain ⟨-, same⟩ := bounded_mul_add inner here (by decide) zero
  obtain ⟨v, value, -⟩ := here
  exact (beq_iff (same.trans value) value).mpr rfl

/-- Where the position is at a frame of the input, the formula has its value. -/
theorem reference_whole (quality : Interpolation) {x : Nat → Float32} (small : ∀ i, Bounded 1 (x i))
    (n : Nat) : (quality.reference x (n * phaseUnit) == x n) = true := by
  have zero : value? (nearest ((n * phaseUnit % phaseUnit : Nat) : Int) (-32)) = some 0 := by
    rw [Nat.mul_mod_left]
    decide +kernel
  have silent : Bounded 1 0 := ⟨0, value?_zero, by norm_num⟩
  have place : n * phaseUnit / phaseUnit = n := Nat.mul_div_cancel n phaseUnit_pos
  cases quality with
  | linear =>
    simp only [reference, place]
    exact line_start (small _) (small _) zero
  | cubic =>
    simp only [reference, place]
    refine curve_start ?_ (small _) (small _) (small _) zero
    split
    · exact silent
    · exact small _

/-- A frame of interleaved samples. -/
def inputFrame (channels : Nat) (input : List Float32) (n : Nat) : List Float32 :=
  (input.drop (n * channels)).take channels

/-- A frame of the output is a frame of the input where the position is at it. -/
theorem frameAt_whole (quality : Interpolation) {channels n : Nat} {input : List Float32}
    (small : ∀ x ∈ input, Bounded 1 x) (inside : n < input.length / channels) :
    SameValues (quality.frameAt channels input (n * phaseUnit)) (inputFrame channels input n) := by
  have silent : Bounded 1 0 := ⟨0, value?_zero, by norm_num⟩
  have samples (channel frame : Nat) : Bounded 1 (channelOf channels input channel frame) := by
    unfold channelOf
    rw [List.getD_eq_getElem?_getD]
    cases found : input[frame * channels + channel]? with
    | none => exact silent
    | some x => exact small x (List.mem_of_getElem? found)
  have whole : (n + 1) * channels ≤ input.length :=
    Nat.le_trans (Nat.mul_le_mul_right _ inside) (Nat.div_mul_le_self _ _)
  rw [Nat.succ_mul] at whole
  have length : (inputFrame channels input n).length = channels := by
    simp only [inputFrame, List.length_take, List.length_drop]
    omega
  refine List.forall₂_iff_get.mpr ⟨?_, ?_⟩
  · rw [length]
    simp [frameAt]
  · intro channel before after
    have value := quality.reference_whole (fun frame => samples channel frame) n
    have there : n * channels + channel < input.length := by omega
    have same : channelOf channels input channel n = input[n * channels + channel] :=
      List.getD_eq_getElem _ _ there
    simp only [frameAt, inputFrame, List.get_eq_getElem, List.getElem_map, List.getElem_range,
      List.getElem_take, List.getElem_drop]
    rw [← same]
    exact value

end Interpolation

/-- At equal rates, a step is one frame. -/
theorem phaseIncrement_self {rate : UInt32} (some_rate : rate ≠ 0) :
    phaseIncrement rate rate = phaseUnit := by
  have pos : 0 < rate.toNat := Nat.pos_of_ne_zero fun zero => some_rate (UInt32.toNat_inj.mp zero)
  unfold phaseIncrement
  rw [Nat.max_eq_left pos, Nat.mul_div_cancel_left _ pos]

namespace Resampler

/-- A call for frames. -/
structure Turn (σ : Type) where
  frames : Nat
  room : Nat
  source : σ
  pts : Option Int

variable {σ : Type} [Provider σ]

/-- One call for frames after another: the interleaved input that they take, the frames that they
produce, and the resampler after them. -/
def turns : List (Turn σ) → Resampler → List Float32 × List (List Float32) × Resampler
  | [], r => ([], [], r)
  | turn :: rest, r =>
    let (frames, r, source) :=
      r.resample turn.frames turn.room (Taped.fresh turn.source) turn.pts
    let (tape, more, r) := turns rest r
    (source.tape ++ tape, frames ++ more, r)

/-- Calls for frames go on with a session at the rates that are in force. -/
theorem Session.turns {r : Resampler} {input : List Float32} {steps : List Nat}
    {output : List (List Float32)} (life : Session σ r input steps output) (turns : List (Turn σ))
    (fits : ∀ turn ∈ turns, Provider.channels turn.source = r.channels) :
    SameSettings r (r.turns turns).2.2 ∧
      Session σ (r.turns turns).2.2 (input ++ (r.turns turns).1)
        (steps ++ List.replicate (r.turns turns).2.1.length
          (phaseIncrement r.inputRate r.outputRate))
        (output ++ (r.turns turns).2.1) := by
  induction turns generalizing r input steps output with
  | nil =>
    simp only [Resampler.turns, List.append_nil, List.length_nil, List.replicate_zero]
    exact ⟨.refl r, life⟩
  | cons turn rest ih =>
    have same := resample_map Taped.hom_source r turn.frames turn.room (Taped.fresh turn.source)
      turn.pts
    rw [show (Taped.fresh turn.source).source = turn.source from rfl] at same
    have settings := sameSettings_resample r turn.frames turn.room turn.source turn.pts
    have later := life.resample turn.frames turn.room turn.source turn.pts
      (fits turn List.mem_cons_self)
    rw [same] at later settings
    obtain ⟨settings', life'⟩ := ih later fun turn listed =>
      (fits turn (List.mem_cons_of_mem _ listed)).trans settings.channels.symm
    rw [settings.inputRate, settings.outputRate] at life'
    refine ⟨settings.trans settings', ?_⟩
    simp only [Resampler.turns, List.length_append, ← List.replicate_append_replicate,
      ← List.append_assoc]
    exact life'

/-- From the moment that the rates are equal, the frames that are produced lie at the frames of the
input one after another, from the one that the position has reached, and all at one fraction behind
them, which is that of the steps so far and stays. Where it is zero, they are these frames of the
input, as far as those are of a magnitude of up to one. -/
theorem Session.evenly (faithful : Provider.Faithful σ) {r : Resampler} {input : List Float32}
    {steps : List Nat} {output : List (List Float32)} (life : Session σ r input steps output)
    (even : r.inputRate = r.outputRate) (some_rate : r.outputRate ≠ 0) {turns : List (Turn σ)}
    (fits : ∀ turn ∈ turns, Provider.channels turn.source = r.channels) {tape : List Float32}
    {frames : List (List Float32)} {after : Resampler}
    (produced : r.turns turns = (tape, frames, after)) :
    let start := steps.sum / phaseUnit
    r.fraction = steps.sum % phaseUnit ∧ after.fraction = r.fraction ∧
    (∀ n frame, frames[n]? = some frame →
      start + n < (input ++ tape).length / r.channels ∧
      frame = r.quality.frameAt r.channels (input ++ tape) ((start + n) * phaseUnit + r.fraction)) ∧
    (r.fraction = 0 → (∀ x ∈ input ++ tape, Single.Bounded 1 x) →
      ∀ n frame, frames[n]? = some frame →
        Single.SameValues frame
          (Interpolation.inputFrame r.channels (input ++ tape) (start + n))) := by
  obtain ⟨settings, life'⟩ := life.turns turns fits
  have before := life.kept faithful
  have kept := life'.kept faithful
  rw [even, phaseIncrement_self some_rate] at kept
  rw [produced] at settings kept
  simp only at settings kept ⊢
  obtain ⟨_, window⟩ := before.reads
  obtain ⟨_, window'⟩ := kept.reads
  have split := Nat.mod_add_div steps.sum phaseUnit
  have fraction := window.fraction
  have values (n : Nat) (frame : List Float32) (found : frames[n]? = some frame) :
      steps.sum / phaseUnit + n < (input ++ tape).length / r.channels ∧
      frame = r.quality.frameAt r.channels (input ++ tape)
        ((steps.sum / phaseUnit + n) * phaseUnit + r.fraction) := by
    have inside := (List.getElem?_eq_some_iff.mp found).1
    have place : ((steps ++ List.replicate frames.length phaseUnit).take (output.length + n)).sum =
        (steps.sum / phaseUnit + n) * phaseUnit + r.fraction := by
      rw [before.length, List.take_length_add_append, List.take_replicate, List.sum_append_nat,
        List.sum_replicate_nat, Nat.min_eq_left (Nat.le_of_lt inside), Nat.add_mul, fraction,
        Nat.mul_comm (steps.sum / phaseUnit)]
      omega
    obtain ⟨value, reached⟩ := kept.value (output.length + n) frame (by
      rw [List.getElem?_append_right (Nat.le_add_right _ _), Nat.add_sub_cancel_left]
      exact found)
    rw [settings.quality, settings.channels, place] at value reached
    refine ⟨?_, value⟩
    unfold Interpolation.Reached at reached
    rw [Nat.mul_comm, Nat.mul_add_div phaseUnit_pos] at reached
    exact Nat.lt_of_le_of_lt (Nat.le_trans (Nat.le_add_right _ _) (Nat.le_add_right _ _)) reached
  refine ⟨fraction, ?_, values, ?_⟩
  · rw [window'.fraction, fraction, List.sum_append_nat, List.sum_replicate_nat,
      Nat.add_mul_mod_self_right]
  · intro whole small n frame found
    obtain ⟨inside, value⟩ := values n frame found
    rw [whole, Nat.add_zero] at value
    rw [value]
    exact r.quality.frameAt_whole small inside

/-- Two frames at half the rate add up to a whole one: from then on, at equal rates, the frames of
two clips come out as they are. -/
theorem Session.evenly_afterHalf :
    let clip (samples : Array Float32) := Clip.ofSamples 1 (.float samples) false
    let call := (Resampler.new .cubic 1 1 2 1).resample 2 2 (clip #[0.5, 1, 0.25, 0]) none
    let r := call.2.1.setInputRate 2
    let turns : List (Turn Clip) :=
      [⟨2, 2, clip #[-1, 0.125], none⟩, ⟨3, 3, clip #[1, 1], none⟩]
    let stream : List Float32 := [0.5, 1, 0.25, 0, -1, 0.125, 1, 1]
    let frames : List (List Float32) := [[1], [0.25], [0], [-1], [0.125]]
    (r.turns turns).2.1 = frames ∧ ∀ n frame, frames[n]? = some frame →
      Single.SameValues frame (Interpolation.inputFrame 1 stream (1 + n)) := by
  intro clip call r turns stream frames
  have tape : ((Resampler.new .cubic 1 1 2 1).resample 2 2
      (Taped.fresh (clip #[0.5, 1, 0.25, 0])) none).2.2.tape = [0.5, 1, 0.25, 0] := by
    decide +kernel
  have length : call.1.length = 2 := by decide +kernel
  have life : Session Clip r [0.5, 1, 0.25, 0] (List.replicate 2 (phaseIncrement 1 2)) call.1 := by
    have raw :=
      Session.resample 2 2 (clip #[0.5, 1, 0.25, 0]) none (Session.start .cubic 1 1 2 1) rfl
    rw [tape, length] at raw
    exact raw.setInputRate 2
  have settings : SameSettings (.new .cubic 1 1 2 1) call.2.1 := sameSettings_resample ..
  have channels : r.channels = 1 := settings.channels
  have outputRate : r.outputRate = 2 := settings.outputRate
  have fits : ∀ turn ∈ turns, Provider.channels turn.source = r.channels := by
    rw [channels]
    decide
  have made : (r.turns turns).2.1 = frames := by decide +kernel
  have taken : (r.turns turns).1 = [-1, 0.125, 1, 1] := by decide +kernel
  have whole : r.fraction = 0 := by decide +kernel
  have small : ∀ x ∈ stream, Single.Bounded 1 x := by
    have value {x : Float32} {v : ℚ} (here : Single.value? x = some v) (low : |v| ≤ 1) :
        Single.Bounded 1 x := ⟨v, here, by simpa using low⟩
    simp only [stream, List.forall_mem_cons, List.not_mem_nil, false_implies, implies_true,
      and_true]
    refine ⟨value (v := 1 / 2) ?_ ?_, value (v := 1) ?_ ?_, value (v := 1 / 4) ?_ ?_,
      value (v := 0) ?_ ?_, value (v := -1) ?_ ?_, value (v := 1 / 8) ?_ ?_, value (v := 1) ?_ ?_,
      value (v := 1) ?_ ?_⟩ <;> decide +kernel
  have all : [0.5, 1, 0.25, 0] ++ [-1, 0.125, 1, 1] = stream := rfl
  have start : (List.replicate 2 (phaseIncrement 1 2)).sum / phaseUnit = 1 := by decide +kernel
  refine ⟨made, ?_⟩
  rcases produced : r.turns turns with ⟨tape, frames', after⟩
  rw [produced] at made taken
  obtain rfl : frames' = frames := made
  obtain rfl : tape = [-1, 0.125, 1, 1] := taken
  obtain ⟨-, -, -, passes⟩ := life.evenly Clip.honest.toFaithful outputRate.symm
    (by rw [outputRate]; decide) fits produced
  rw [channels, start, all] at passes
  exact passes whole small

/-- Three frames at half the rate leave the position halfway between two frames: what comes out from
then on, at equal rates, need not be a frame of the input. -/
theorem Session.evenly_halfway :
    let clip (samples : Array Float32) := Clip.ofSamples 1 (.float samples) false
    let call := (Resampler.new .cubic 1 1 2 1).resample 3 3 (clip #[0, 1, 1, 0, 0]) none
    let r := call.2.1.setInputRate 2
    let turns : List (Turn Clip) := [⟨1, 1, clip #[0], none⟩]
    let stream := [0, 1, 1, 0, 0] ++ (r.turns turns).1
    Session Clip r [0, 1, 1, 0, 0] (List.replicate 3 (phaseIncrement 1 2)) call.1 ∧
      r.inputRate = r.outputRate ∧ (∀ x ∈ stream, Single.Bounded 1 x) ∧
      (r.turns turns).2.1 = [[1.125]] ∧
      ∀ n, ¬ Single.SameValues [1.125] (Interpolation.inputFrame 1 stream n) := by
  intro clip call r turns stream
  have tape : ((Resampler.new .cubic 1 1 2 1).resample 3 3
      (Taped.fresh (clip #[0, 1, 1, 0, 0])) none).2.2.tape = [0, 1, 1, 0, 0] := by
    decide +kernel
  have length : call.1.length = 3 := by decide +kernel
  have life :
      Session Clip r [0, 1, 1, 0, 0] (List.replicate 3 (phaseIncrement 1 2)) call.1 := by
    have raw :=
      Session.resample 3 3 (clip #[0, 1, 1, 0, 0]) none (Session.start .cubic 1 1 2 1) rfl
    rw [tape, length] at raw
    exact raw.setInputRate 2
  have all : stream = [0, 1, 1, 0, 0] := by decide +kernel
  have zero : Single.Bounded 1 0 := ⟨0, Single.value?_zero, by norm_num⟩
  have one : Single.Bounded 1 1 := ⟨1, Single.value?_one, by norm_num⟩
  refine ⟨life, by decide +kernel, ?_, by decide +kernel, ?_⟩
  · rw [all]
    simp [zero, one]
  · intro n same
    cases equal : Interpolation.inputFrame 1 stream n with
    | nil =>
      rw [equal] at same
      nomatch same
    | cons x rest =>
      rw [equal] at same
      have listed : x ∈ stream :=
        List.mem_of_mem_drop (List.mem_of_mem_take (equal ▸ List.mem_cons_self))
      have apart : ∀ y ∈ [(0 : Float32), 1, 1, 0, 0], (1.125 == y) = false := by decide +kernel
      rw [all] at listed
      nomatch (List.forall₂_cons.mp same).1.symm.trans (apart x listed)

end Resampler

end Mixdown
