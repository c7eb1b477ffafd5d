import Mixdown.Mixer.Kernel
import Mixdown.Proofs.Provider.Stages

/-!
# What a provider supplies for a block

A block takes the buffers of a provider one after another until it has enough frames or the
provider refuses. `Supply` says so for a provider that grants whole frames, and `pull_supplies`
that reading such a provider does nothing else.
-/

namespace Mixdown

/-- The frames of a buffer as stereo frames; one channel is heard on both sides. -/
def Buffer.stereo (b : Buffer) (channels : Channels) : List (Stereo Float32) :=
  (List.range b.frames).map fun i => match channels with
    | .mono => .both (b.samples.singles.getD i 0)
    | .stereo => ⟨b.samples.singles.getD (2 * i) 0, b.samples.singles.getD (2 * i + 1) 0⟩

theorem map_both_take (xs : List Float32) {frames : Nat} (inside : frames ≤ xs.length) :
    (xs.take frames).map Stereo.both = (List.range frames).map fun i => .both (xs.getD i 0) := by
  apply List.ext_getElem
  · simp [inside]
  · intro i _ there
    have lt : i < xs.length := Nat.lt_of_lt_of_le (by simpa using there) inside
    simp [List.getD_eq_getElem?_getD, lt]

theorem deinterleave_take (xs : List Float32) {frames : Nat} (inside : 2 * frames ≤ xs.length) :
    deinterleave (xs.take (2 * frames)) =
      (List.range frames).map fun i => ⟨xs.getD (2 * i) 0, xs.getD (2 * i + 1) 0⟩ := by
  induction frames generalizing xs with
  | zero => rfl
  | succ frames ih =>
    match xs, inside with
    | left :: right :: rest, inside =>
      simp only [List.length_cons] at inside
      rw [List.range_succ_eq_map, List.map_cons, List.map_map,
        show 2 * (frames + 1) = 2 * frames + 1 + 1 from rfl, List.take_succ_cons,
        List.take_succ_cons, deinterleave, ih rest (by omega)]
      rfl

namespace Provider

variable {σ : Type} [Provider σ]

/-- The stereo frames that a provider supplies for a block of which `left` frames are missing
and `done` are there, and the provider after them. -/
inductive Supply (channels : Channels) (stamp : Nat → Option Int) :
    (left done : Nat) → σ → List (Stereo Float32) → σ → Prop
  | full (done : Nat) (s : σ) : Supply channels stamp 0 done s [] s
  | refused {left done : Nat} {s s' : σ} : 0 < left →
      request s left (stamp done) = (none, s') → Supply channels stamp left done s [] s'
  | granted {left done : Nat} {s s' s'' : σ} {b : Buffer} {more : List (Stereo Float32)} :
      0 < left → request s left (stamp done) = (some b, s') →
      Supply channels stamp (left - b.frames) (done + b.frames) (release s' b.frames) more s'' →
      Supply channels stamp left done s (b.stereo channels ++ more) s''

/-- A block finds one supply only. -/
theorem Supply.unique {channels : Channels} {stamp : Nat → Option Int} {left done : Nat}
    {s s' s'' : σ} {frames frames' : List (Stereo Float32)}
    (first : Supply channels stamp left done s frames s')
    (second : Supply channels stamp left done s frames' s'') : frames = frames' ∧ s' = s'' := by
  induction first generalizing frames' with
  | full done s =>
    cases second with
    | full => exact ⟨rfl, rfl⟩
    | refused pos => exact absurd pos (Nat.lt_irrefl 0)
    | granted pos => exact absurd pos (Nat.lt_irrefl 0)
  | refused pos answer =>
    cases second with
    | full => exact absurd pos (Nat.lt_irrefl 0)
    | refused _ answer' =>
      rw [answer] at answer'
      exact ⟨rfl, (Prod.mk.inj answer').2⟩
    | granted _ answer' =>
      rw [answer] at answer'
      nomatch (Prod.mk.inj answer').1
  | granted pos answer _ ih =>
    cases second with
    | full => exact absurd pos (Nat.lt_irrefl 0)
    | refused _ answer' =>
      rw [answer] at answer'
      nomatch (Prod.mk.inj answer').1
    | granted _ answer' rest =>
      rw [answer] at answer'
      obtain ⟨same, rfl⟩ := Prod.mk.inj answer'
      obtain rfl := Option.some.inj same
      obtain ⟨rfl, rfl⟩ := ih rest
      exact ⟨rfl, rfl⟩

/-- No more frames are supplied than are missing. -/
theorem Supply.length_le {channels : Channels} {stamp : Nat → Option Int} {left done : Nat}
    {s s' : σ} {frames : List (Stereo Float32)} {format : SampleFormat}
    (supply : Supply channels stamp left done s frames s')
    (grants : ∀ s', Moves s s' → Grants s' channels.count format) : frames.length ≤ left := by
  induction supply with
  | full _ _ => exact Nat.le_refl _
  | refused _ _ => exact Nat.zero_le _
  | @granted left done s s' s'' b more pos answer _ ih =>
    have granted := (grants s .refl left (stamp done) b (by rw [answer])).2.1
    have asked : Moves s s' := by
      have step : Moves s (request s left (stamp done)).2 := .request _ _ .refl
      rw [answer] at step
      exact step
    have rest := ih fun s' moves => grants s' (.trans (.release b.frames asked) moves)
    simp only [List.length_append, Buffer.stereo, List.length_map, List.length_range]
    omega

end Provider

theorem Samples.stereoFrames?_eq {s : Samples} {input : MixFormat}
    (format : s.format = input.toSample) (channels : Channels) (frames : Nat) :
    s.stereoFrames? input channels frames = some (match channels with
      | .mono => (s.singles.take (frames * channels.count)).map Stereo.both
      | .stereo => deinterleave (s.singles.take (frames * channels.count))) := by
  cases input with
  | pcm16 =>
    cases s with
    | pcm16 data => rfl
    | pcm24Packed _ | pcm32 _ | float _ => nomatch format
  | float =>
    cases s with
    | float data => rfl
    | pcm16 _ | pcm24Packed _ | pcm32 _ => nomatch format

/-- Whole frames in the representation that is read are heard as they are. -/
theorem stereoFrames?_whole (input : MixFormat) (channels : Channels) {b : Buffer}
    (whole : b.frames * channels.count ≤ b.samples.size)
    (format : b.samples.format = input.toSample) :
    b.samples.stereoFrames? input channels b.frames = some (b.stereo channels) := by
  rw [Samples.stereoFrames?_eq format]
  rw [← Samples.length_singles] at whole
  cases channels with
  | mono =>
    simp only [Channels.count, Nat.mul_one] at whole ⊢
    rw [map_both_take _ whole]
    rfl
  | stereo =>
    simp only [Channels.count, Nat.mul_comm _ 2] at whole ⊢
    rw [deinterleave_take _ whole]
    rfl

/-- A buffer of whole frames in the representation that is read is let go as it was heard. -/
theorem listen_whole (input : MixFormat) (channels : Channels) {asked : Nat} {b : Buffer}
    (le : b.frames ≤ asked) (whole : b.frames * channels.count ≤ b.samples.size)
    (format : b.samples.format = input.toSample) :
    listen input channels asked b = (b.frames, some (b.stereo channels)) := by
  have pos : 0 < channels.count := by cases channels <;> decide
  have claimed : min (min b.frames asked) (b.samples.size / channels.count) = b.frames := by
    rw [Nat.min_eq_left le, Nat.min_eq_left ((Nat.le_div_iff_mul_le pos).mpr whole)]
  unfold listen
  simp only [claimed, stereoFrames?_whole input channels whole format]

namespace Provider

variable {σ : Type} [Provider σ]

theorem pullFrom_supplies (input : MixFormat) (channels : Channels) (stamp : Nat → Option Int)
    {fuel left : Nat} (enough : left ≤ fuel) (done : Nat) (s : σ)
    (grants : ∀ s', Moves s s' → Grants s' channels.count input.toSample) :
    Supply channels stamp left done s
      (pullFrom (listen input channels) stamp fuel left done s).1
      (pullFrom (listen input channels) stamp fuel left done s).2 := by
  induction fuel generalizing left done s with
  | zero =>
    obtain rfl := Nat.le_zero.mp enough
    exact .full done s
  | succ fuel ih =>
    unfold pullFrom
    by_cases none_left : left = 0
    · rw [if_pos none_left, none_left]
      exact .full done s
    · rw [if_neg none_left]
      have pos : 0 < left := Nat.pos_of_ne_zero none_left
      have asked : Moves s (request s left (stamp done)).2 := .request _ _ .refl
      rcases answer : request s left (stamp done) with ⟨_ | b, s'⟩
      · exact .refused pos answer
      · rw [answer] at asked
        obtain ⟨some_frames, le, whole, format⟩ :=
          grants s .refl left (stamp done) b (by rw [answer])
        simp only [listen_whole input channels le whole format,
          if_neg (Nat.ne_of_gt some_frames)]
        exact .granted pos answer
          (ih (by omega) _ _ fun s' moves => grants s' (.trans (.release b.frames asked) moves))

/-- Reading a provider that grants whole frames takes what it supplies. -/
theorem pull_supplies (input : MixFormat) (channels : Channels) (stamp : Nat → Option Int)
    (frames : Nat) (s : σ)
    (grants : ∀ s', Moves s s' → Grants s' channels.count input.toSample) :
    Supply channels stamp frames 0 s (pull (listen input channels) stamp frames s).1
      (pull (listen input channels) stamp frames s).2 :=
  pullFrom_supplies input channels stamp (Nat.le_refl frames) 0 s grants

end Provider

end Mixdown
