import Mathlib.Data.List.Induction
import Mixdown.Proofs.Provider.Voice

/-!
# Clips play frame by frame

Whatever is requested of a clip and released to it, in whatever order, it plays its frames one after
another, and from the start again if it loops: each frame that is released is the next one, and each
buffer holds the next ones, up to the end of the clip at most. A frame is told by its samples as
they are stored.
-/

namespace Mixdown

/-- One sample as it is stored. -/
inductive Sample where
  | pcm16 (x : Int16)
  | pcm24Packed (p : Packed24)
  | pcm32 (x : Int32)
  | float (x : Float32)
deriving DecidableEq

namespace Samples

/-- The complete samples of a run. -/
def toList : Samples → List Sample
  | pcm16 data => data.toList.map .pcm16
  | pcm24Packed bytes => (packed24s bytes).map .pcm24Packed
  | pcm32 data => data.toList.map .pcm32
  | float data => data.toList.map .float

@[simp] theorem length_toList (s : Samples) : s.toList.length = s.size := by
  cases s <;> simp [toList, size]

theorem toList_slice (s : Samples) (start stop : Nat) :
    (s.slice start stop).toList = (s.toList.drop start).take (stop - start) := by
  cases s with
  | pcm24Packed bytes =>
    simp only [slice, toList, packed24s_extract, List.map_take, List.map_drop]
  | pcm16 data | pcm32 data | float data =>
    simp only [slice, toList, take_drop_extract, List.map_take, List.map_drop]

/-- The whole frames of a run. -/
def frames (s : Samples) (channels : Nat) : List (List Sample) :=
  (List.range (s.size / channels)).map fun i => (s.toList.drop (i * channels)).take channels

@[simp] theorem length_frames (s : Samples) (channels : Nat) :
    (s.frames channels).length = s.size / channels := by
  rw [frames, List.length_map, List.length_range]

end Samples

namespace Clip

variable {clip : Clip} {start stop : Nat}

/-- The whole frames of a clip. What ends its samples without making up a frame is not among
them. -/
def content (clip : Clip) : List (List Sample) := clip.samples.frames clip.channels

@[simp] theorem length_content (clip : Clip) : clip.content.length = clip.frameCount :=
  Samples.length_frames _ _

/-- A run of whole frames of a clip. -/
theorem frames_frames (pos : 0 < clip.channels) (inside : stop ≤ clip.frameCount) :
    (clip.frames start stop).frames clip.channels =
      (clip.content.drop start).take (stop - start) := by
  have size : (clip.frames start stop).size / clip.channels = stop - start := by
    rw [size_frames clip start stop inside, Nat.mul_div_cancel _ pos]
  apply List.ext_getElem
  · rw [Samples.length_frames, List.length_take, List.length_drop, length_content, size]
    exact (Nat.min_eq_left (Nat.sub_le_sub_right inside start)).symm
  · intro i within _
    rw [Samples.length_frames, size] at within
    have fits : i * clip.channels + clip.channels ≤
        stop * clip.channels - start * clip.channels := by
      rw [← Nat.succ_mul, ← Nat.sub_mul]
      exact Nat.mul_le_mul_right _ within
    have room : clip.channels ≤
        stop * clip.channels - start * clip.channels - i * clip.channels := by
      omega
    simp only [content, Samples.frames, List.getElem_map, List.getElem_range, List.getElem_take,
      List.getElem_drop, Clip.frames, Samples.toList_slice]
    rw [List.drop_take, List.take_take, List.drop_drop, ← Nat.add_mul, Nat.min_eq_left room]

/-- The frames from the position to the end. -/
def ahead (clip : Clip) : List (List Sample) := clip.content.drop clip.position

/-- The number within the clip of the frame that plays as number `i` from the start. -/
def place (clip : Clip) (i : Nat) : Nat := if clip.looping then i % clip.frameCount else i

theorem place_of_lt {clip : Clip} {i : Nat} (within : i < clip.frameCount) : clip.place i = i := by
  unfold place
  split
  · exact Nat.mod_eq_of_lt within
  · rfl

@[simp] theorem place_place (clip : Clip) (i : Nat) : clip.place (clip.place i) = clip.place i := by
  unfold place
  split
  · exact Nat.mod_mod _ _
  · rfl

/-! ## Uses of a clip -/

/-- What is done to a clip. -/
inductive Use where
  | request (frames : Nat) (pts : Option Int)
  | release (frames : Nat)

/-- A clip with an account of what was taken from it. -/
structure Account where
  clip : Clip
  /-- The frames that releases let go, the first one first. -/
  released : List (List Sample)
  /-- The frames of the last granted buffer that are not released. -/
  lent : List (List Sample)

namespace Account

def new (channels : Nat) (samples : Samples) (looping : Bool) : Account :=
  ⟨.ofSamples channels samples looping, [], []⟩

def act (account : Account) : Use → Account
  | .request frames pts =>
    let (answer, clip) := account.clip.request frames pts
    { account with
      clip
      lent := match answer with
        | none => []
        | some b => b.samples.frames clip.channels }
  | .release frames =>
    { clip := account.clip.release frames
      released := account.released ++ account.clip.ahead.take frames
      lent := account.lent.drop frames }

def run (account : Account) (uses : List Use) : Account := uses.foldl act account

theorem run_snoc (account : Account) (uses : List Use) (use : Use) :
    account.run (uses ++ [use]) = (account.run uses).act use := by
  rw [run, run, List.foldl_append, List.foldl_cons, List.foldl_nil]

/-- The clip is at the frame behind those that were released, and a granted buffer holds the frames
from there on. -/
structure Plays (origin : Clip) (account : Account) : Prop where
  samples : account.clip.samples = origin.samples
  channels : account.clip.channels = origin.channels
  looping : account.clip.looping = origin.looping
  inside : account.clip.position ≤ origin.frameCount
  next : origin.place account.released.length = origin.place account.clip.position
  played : ∀ i frame, account.released[i]? = some frame →
    origin.content[origin.place i]? = some frame
  lent : account.lent <+: account.clip.ahead

theorem plays_new (channels : Nat) (samples : Samples) (looping : Bool) :
    (new channels samples looping).Plays (.ofSamples channels samples looping) where
  samples := rfl
  channels := rfl
  looping := rfl
  inside := Nat.zero_le _
  next := rfl
  played i frame found := by simp [new] at found
  lent := List.nil_prefix

namespace Plays

variable {origin : Clip} {account : Account}

theorem frameCount_eq (plays : account.Plays origin) :
    account.clip.frameCount = origin.frameCount := by
  unfold frameCount
  rw [plays.samples, plays.channels]

theorem content_eq (plays : account.Plays origin) : account.clip.content = origin.content := by
  unfold content
  rw [plays.samples, plays.channels]

/-- Before a request is answered, the clip is at the frame that plays next. -/
theorem position_rewound (plays : account.Plays origin) (pts : Option Int) :
    ({ account.clip with lastPts := pts } : Clip).rewound.position =
      origin.place account.released.length := by
  have inside := plays.inside
  have count := plays.frameCount_eq
  rw [plays.next]
  unfold Clip.rewound place
  rw [show ({ account.clip with lastPts := pts } : Clip).looping = origin.looping from
    plays.looping, show ({ account.clip with lastPts := pts } : Clip).frameCount =
    origin.frameCount from count]
  cases origin.looping with
  | false => simp
  | true =>
    by_cases ended : origin.frameCount ≤ account.clip.position
    · have last := Nat.le_antisymm inside ended
      simp [last]
    · simp [ended, Nat.mod_eq_of_lt (Nat.not_le.mp ended)]

/-- Stepping back to the start keeps the account. -/
theorem rewound (plays : account.Plays origin) (pts : Option Int) :
    Plays origin ⟨({ account.clip with lastPts := pts } : Clip).rewound, account.released, []⟩ where
  samples := (samples_rewound _).trans plays.samples
  channels := (channels_rewound _).trans plays.channels
  looping := (looping_rewound _).trans plays.looping
  inside := Nat.le_trans (position_rewound_le _) plays.inside
  next := by rw [plays.position_rewound, place_place]
  played := plays.played
  lent := List.nil_prefix

/-- A request grants what is left up to the end of the clip, of what is asked for. -/
theorem request_eq (plays : account.Plays origin) (frames : Nat) (pts : Option Int) :
    account.clip.request frames pts =
      let clip := ({ account.clip with lastPts := pts } : Clip).rewound
      let start := origin.place account.released.length
      let granted := min frames (origin.frameCount - start)
      if granted = 0 then (none, clip)
      else (some ⟨granted, origin.frames start (start + granted)⟩, clip) := by
  have position := plays.position_rewound pts
  have rewound := plays.rewound pts
  have remaining : ({ account.clip with lastPts := pts } : Clip).rewound.remaining =
      origin.frameCount - origin.place account.released.length :=
    congrArg₂ (· - ·) rewound.frameCount_eq position
  have run (start stop : Nat) : ({ account.clip with lastPts := pts } : Clip).rewound.frames start
      stop = origin.frames start stop := by
    unfold Clip.frames
    rw [rewound.samples, rewound.channels]
  unfold Clip.request
  simp only [remaining, run, position]

/-- A granted buffer is the next run of frames. -/
theorem granted (plays : account.Plays origin) (pos : 0 < origin.channels) {frames : Nat}
    {pts : Option Int} {b : Buffer} (answer : (account.clip.request frames pts).1 = some b) :
    let start := origin.place account.released.length
    0 < b.frames ∧ start + b.frames ≤ origin.frameCount ∧
      b.frames = min frames (origin.frameCount - start) ∧
      b.samples.frames origin.channels = (origin.content.drop start).take b.frames ∧
      b.samples.size = b.frames * origin.channels ∧ b.samples.format = origin.samples.format := by
  rw [plays.request_eq] at answer
  simp only at answer
  split_ifs at answer with none_granted
  obtain rfl := Option.some.inj answer
  have inside : origin.place account.released.length +
      min frames (origin.frameCount - origin.place account.released.length) ≤
      origin.frameCount := by omega
  refine ⟨Nat.pos_of_ne_zero none_granted, inside, rfl, ?_, ?_, Samples.format_slice _ _ _⟩
  · exact (frames_frames pos inside).trans (by rw [Nat.add_sub_cancel_left])
  · exact (size_frames _ _ _ inside).trans (by rw [Nat.add_sub_cancel_left])

theorem request (plays : account.Plays origin) (pos : 0 < origin.channels) (frames : Nat)
    (pts : Option Int) : (account.act (.request frames pts)).Plays origin := by
  have after := plays.rewound pts
  have position := plays.position_rewound pts
  rw [← request_snd account.clip frames pts] at after position
  refine ⟨after.samples, after.channels, after.looping, after.inside, after.next, after.played, ?_⟩
  show (match (account.clip.request frames pts).1 with
    | none => []
    | some b => b.samples.frames (account.clip.request frames pts).2.channels) <+:
      (account.clip.request frames pts).2.content.drop (account.clip.request frames pts).2.position
  rw [position, after.channels, after.content_eq]
  rcases answer : (account.clip.request frames pts).1 with _ | b
  · exact List.nil_prefix
  · obtain ⟨-, -, -, next, -⟩ := plays.granted pos answer
    simp only [next]
    exact List.take_prefix _ _

/-- The frame `i` behind the position plays `i` frames after those that were released. -/
theorem place_add (plays : account.Plays origin) (i : Nat) :
    origin.place (account.released.length + i) = origin.place (account.clip.position + i) := by
  have next := plays.next
  unfold place at next ⊢
  cases looping : origin.looping with
  | false =>
    simp only [looping, Bool.false_eq_true, if_false] at next ⊢
    rw [next]
  | true =>
    simp only [looping, if_true] at next ⊢
    rw [Nat.add_mod, next, ← Nat.add_mod]

theorem release (plays : account.Plays origin) (frames : Nat) :
    (account.act (.release frames)).Plays origin := by
  have inside := plays.inside
  have ahead : account.clip.ahead = origin.content.drop account.clip.position := by
    rw [Clip.ahead, plays.content_eq]
  have whole := origin.length_content
  have position : (account.act (.release frames)).clip.position =
      account.clip.position + min frames (origin.frameCount - account.clip.position) := by
    show min (account.clip.position + frames) account.clip.frameCount = _
    rw [plays.frameCount_eq]
    omega
  refine ⟨plays.samples, plays.channels, plays.looping, ?_, ?_, ?_, ?_⟩
  · rw [position]
    omega
  · show origin.place (account.released ++ account.clip.ahead.take frames).length = _
    rw [position, ← plays.place_add, List.length_append, List.length_take, ahead, List.length_drop,
      whole]
  · intro i frame found
    change (account.released ++ account.clip.ahead.take frames)[i]? = some frame at found
    rw [List.getElem?_append] at found
    split at found
    · exact plays.played i frame found
    · rename_i later
      obtain ⟨j, rfl⟩ := Nat.exists_eq_add_of_le (Nat.not_lt.mp later)
      rw [Nat.add_sub_cancel_left, List.getElem?_take, ahead, List.getElem?_drop] at found
      split at found
      · have within := (List.getElem?_eq_some_iff.mp found).1
        rw [plays.place_add, place_of_lt (whole ▸ within), found]
      · cases found
  · have after : (account.act (.release frames)).clip.ahead = account.clip.ahead.drop frames := by
      show account.clip.content.drop (account.act (.release frames)).clip.position = _
      rw [position, ahead, plays.content_eq, List.drop_drop]
      by_cases fits : frames ≤ origin.frameCount - account.clip.position
      · rw [Nat.min_eq_left fits]
      · rw [List.drop_eq_nil_of_le (by omega), List.drop_eq_nil_of_le (by omega)]
    obtain ⟨rest, same⟩ := plays.lent
    rw [after, ← same, List.drop_append]
    exact List.prefix_append _ _

theorem act (plays : account.Plays origin) (pos : 0 < origin.channels) (use : Use) :
    (account.act use).Plays origin :=
  match use with
  | .request frames pts => plays.request pos frames pts
  | .release frames => plays.release frames

theorem run (plays : account.Plays origin) (pos : 0 < origin.channels) (uses : List Use) :
    (account.run uses).Plays origin := by
  induction uses using List.reverseRecOn with
  | nil => exact plays
  | append_singleton before use ih =>
    rw [run_snoc]
    exact ih.act pos use

/-- A clip that does not loop is at the frame behind those that were released. -/
theorem position_eq (plays : account.Plays origin) (once : origin.looping = false) :
    account.clip.position = account.released.length := by
  have next := plays.next
  simp only [place, once, Bool.false_eq_true, if_false] at next
  exact next.symm

/-- What a clip that does not loop has played is its frames up to the position. -/
theorem released_eq (plays : account.Plays origin) (once : origin.looping = false) :
    account.released = origin.content.take account.clip.position := by
  have whole := origin.length_content
  apply List.ext_getElem
  · rw [List.length_take, whole, Nat.min_eq_left plays.inside, plays.position_eq once]
  · intro i played _
    have same := plays.played i _ (List.getElem?_eq_getElem played)
    rw [place, once] at same
    rw [List.getElem_take]
    exact ((List.getElem?_eq_some_iff.mp same).2).symm

/-- There is nothing left to play if there are no frames, or if all were played once. -/
theorem ended_iff (plays : account.Plays origin) :
    origin.frameCount ≤ origin.place account.released.length ↔
      origin.content = [] ∨ origin.looping = false ∧ account.released = origin.content := by
  have whole := origin.length_content
  rw [← List.length_eq_zero_iff, whole]
  cases looping : origin.looping with
  | true =>
    simp only [place, looping, if_true, reduceCtorEq, false_and, or_false]
    constructor
    · intro past
      by_contra some_frame
      exact Nat.not_le.mpr (Nat.mod_lt _ (Nat.pos_of_ne_zero some_frame)) past
    · intro no_frame
      rw [no_frame]
      exact Nat.zero_le _
  | false =>
    have played := plays.released_eq looping
    simp only [place, looping, Bool.false_eq_true, if_false, true_and]
    constructor
    · intro past
      refine .inr ?_
      rw [played, plays.position_eq looping, List.take_of_length_le (whole ▸ past)]
    · rintro (no_frame | all)
      · rw [no_frame]
        exact Nat.zero_le _
      · exact Nat.le_of_eq (by rw [all, whole])

end Plays

/-- A clip plays the whole frames of its samples one after another. -/
structure FrameByFrame (origin : Clip) (account : Account) : Prop where
  position : account.clip.position ≤ origin.frameCount
  /-- The `i`-th frame that was released is the `i`-th frame, counted in a circle if the clip
  loops. -/
  played : ∀ i frame, account.released[i]? = some frame →
    origin.content[origin.place i]? = some frame
  /-- A request is refused just if nothing is asked for or there is nothing left to play. -/
  refused : ∀ frames pts, (account.clip.request frames pts).1 = none ↔
    frames = 0 ∨ origin.content = [] ∨ origin.looping = false ∧ account.released = origin.content
  /-- A buffer is the next run of whole frames that are not released, up to the end at most. -/
  granted : ∀ frames pts b, (account.clip.request frames pts).1 = some b →
    let start := origin.place account.released.length
    0 < b.frames ∧ start + b.frames ≤ origin.frameCount ∧
      b.frames = min frames (origin.frameCount - start) ∧
      b.samples.frames origin.channels = (origin.content.drop start).take b.frames ∧
      b.samples.size = b.frames * origin.channels ∧ b.samples.format = origin.samples.format
  /-- A release of no more frames than are left of the last buffer lets the first of these go. -/
  released : ∀ frames, frames ≤ account.lent.length →
    (account.act (.release frames)).released = account.released ++ account.lent.take frames

/-- Whatever is requested of a clip and released to it. -/
theorem run_frameByFrame (channels : Nat) (samples : Samples) (looping : Bool) (uses : List Use) :
    FrameByFrame (.ofSamples channels samples looping)
      ((new channels samples looping).run uses) := by
  have pos : 0 < (Clip.ofSamples channels samples looping).channels := Nat.le_max_right _ _
  have plays := (plays_new channels samples looping).run pos uses
  generalize (new channels samples looping).run uses = account at plays
  generalize Clip.ofSamples channels samples looping = origin at plays pos
  refine ⟨plays.inside, plays.played, fun frames pts => ?_,
    fun frames pts b answer => plays.granted pos answer, fun frames within => ?_⟩
  · rw [← plays.ended_iff, ← Nat.sub_eq_zero_iff_le, ← Nat.min_eq_zero_iff, plays.request_eq]
    simp only
    split_ifs with none_granted <;> simp [none_granted]
  · show account.released ++ account.clip.ahead.take frames = _
    obtain ⟨rest, same⟩ := plays.lent
    rw [← same, List.take_append_of_le_length within]

/-- A loop of two frames and half a frame, which never plays. -/
example :
    ((new 2 (.pcm16 #[1, 2, 3, 4, 5]) true).run
      [.request 3 none, .release 1, .request 3 none, .release 1, .request 1 none]).lent =
      [[.pcm16 1, .pcm16 2]] := by
  decide +kernel

end Account

end Clip

end Mixdown
