import Mixdown.Mixer.Plan

/-!
# Kernels

A kernel takes the frames of one track for one block and says what they add to the buses. The
gains move by one step with each frame, also with the frames that are missing.
-/

namespace Mixdown

/-- What one frame of a track adds to its buses. -/
structure Contribution where
  main : Stereo Float32
  aux : Float32

namespace Samples

/-- The first `frames` whole frames of a run as stereo frames, where the run has the
representation that is read; one channel is heard on both sides. -/
def stereoFrames? (s : Samples) (input : MixFormat) (channels : Channels) (frames : Nat) :
    Option (List (Stereo Float32)) :=
  match input, s with
  | .pcm16, .pcm16 _ | .float, .float _ =>
    let samples := s.singles.take (frames * channels.count)
    some (match channels with
      | .mono => samples.map Stereo.both
      | .stereo => deinterleave samples)
  | _, _ => none

end Samples

/-- A reader that lets frames go unheard: as many as are claimed. -/
def discard : Provider.Reader (Stereo Float32) := fun asked buffer =>
  (min buffer.frames asked, some [])

/-- A reader of stereo frames: as many as are claimed and as there are samples for. A buffer of
another representation is let go as it is claimed, and is of no use. -/
def listen (input : MixFormat) (channels : Channels) : Provider.Reader (Stereo Float32) :=
  fun asked buffer =>
    let claimed := min buffer.frames asked
    let whole := min claimed (buffer.samples.size / channels.count)
    match buffer.samples.stereoFrames? input channels whole with
    | some frames => (whole, some frames)
    | none => (claimed, none)

namespace Volume

/-- What goes to the auxiliary bus before its gain: the channel, or the mean of both. -/
def auxInput (channels : Channels) (frame : Stereo Float32) : Float32 :=
  match channels with
  | .mono => frame.left
  | .stereo => (frame.left + frame.right) * 0.5

/-- A frame under the gains of the moment. -/
def contribution (volume : Volume) (channels : Channels) (frame : Stereo Float32) :
    Contribution :=
  { main := ⟨frame.left * volume.left.current, frame.right * volume.right.current⟩
    aux := auxInput channels frame * volume.aux.current }

/-- Frames under moving gains, and the gains after them. -/
def play (channels : Channels) : Volume → List (Stereo Float32) → List Contribution × Volume
  | volume, [] => ([], volume)
  | volume, frame :: frames =>
    let (rest, after) := play channels volume.step frames
    (volume.contribution channels frame :: rest, after)

end Volume

/-- What a kernel made of one block of a track. -/
structure Played (σ : Type) where
  contributions : List Contribution
  track : Track σ
  /-- The provider did not run out of frames. -/
  complete : Bool

namespace Track

variable {σ : Type} [Provider σ]

/-- Keep the provider of a track moving. -/
def passOver (frameCount : Nat) (rate : UInt32) (pts : Option Int) (t : Track σ) : Track σ :=
  match t.chain with
  | none => t
  | some chain =>
    { t with chain := some (Provider.pull discard (stampAfter pts rate) frameCount chain).2 }

/-- The frames of the provider of a track, and the track after they were read. -/
def read (input : MixFormat) (channels : Channels) (frameCount : Nat) (rate : UInt32)
    (pts : Option Int) (t : Track σ) : List (Stereo Float32) × Track σ :=
  match t.chain with
  | none => ([], t)
  | some chain =>
    let (frames, chain) :=
      Provider.pull (listen input channels) (stampAfter pts rate) frameCount chain
    (frames, { t with chain := some chain })

/-- A track whose frames are mixed as they come. The gains move on by a whole block even when
frames are missing. -/
def playDirect (input : MixFormat) (channels : Channels) (frameCount : Nat) (rate : UInt32)
    (pts : Option Int) (t : Track σ) : Played σ :=
  let (frames, t) := t.read input channels frameCount rate pts
  let (contributions, volume) := t.volume.play channels frames
  let complete := frames.length == frameCount
  let volume := if complete then volume else volume.skip (frameCount - frames.length)
  { contributions, track := { t with volume }, complete }

/-- The resampled frames of a track, and the track after they were produced. -/
def readResampled (channels : Channels) (frameCount : Nat) (pts : Option Int) (t : Track σ) :
    List (Stereo Float32) × Track σ :=
  match t.chain, t.resampler with
  | some chain, some r =>
    let (frames, r, chain) := r.resample frameCount (frameCount * channels.count) chain pts
    (match channels with
      | .mono => frames.flatten.map Stereo.both
      | .stereo => deinterleave frames.flatten,
      { t with chain := some chain, resampler := some r })
  | _, _ => ([], t)

/-- A track that is resampled before it is mixed. Missing frames are silent frames. -/
def playResampled (channels : Channels) (frameCount : Nat) (pts : Option Int) (t : Track σ) :
    Played σ :=
  let (frames, t) := t.readResampled channels frameCount pts
  let silence := List.replicate (frameCount - frames.length) (Stereo.both 0)
  let (contributions, volume) := t.volume.play channels (frames ++ silence)
  { contributions, track := { t with volume }, complete := frames.length == frameCount }

end Track

end Mixdown
