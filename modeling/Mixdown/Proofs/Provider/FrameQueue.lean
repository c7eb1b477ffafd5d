import Mathlib.Data.List.Induction
import Mixdown.Provider.FrameQueue

/-!
# Frame queues keep the order

Whatever is pushed to a queue, requested of it and released, in whatever order, its frames go
through it one after another: those that were released, those that are staged and those that wait
are together what was accepted. `RingBuffer.Fifo` is what a queue relies on in its ring buffer.
-/

namespace Mixdown

namespace RingBuffer

variable {ρ : Type} [RingBuffer ρ]

/-- A ring buffer is a line, in which `held` are the samples that wait, as long as nothing is pushed
to a full one. -/
structure Fifo (held : ρ → List Float32) : Prop where
  held_ofBuffer : ∀ buffer, held (ofBuffer buffer) = []
  maxLength_ofBuffer : ∀ buffer, maxLength (ofBuffer buffer : ρ) = buffer.length
  length_eq : ∀ ring : ρ, length ring = (held ring).length
  held_push : ∀ (ring : ρ) sample, (held ring).length < maxLength ring →
    held (push ring sample).2 = held ring ++ [sample]
  push_keeps : ∀ (ring : ρ) sample, (held ring).length < maxLength ring →
    (push ring sample).1 = none
  maxLength_push : ∀ (ring : ρ) sample, maxLength (push ring sample).2 = maxLength ring
  pop_fst : ∀ ring : ρ, (pop ring).1 = (held ring).head?
  held_pop : ∀ ring : ρ, held (pop ring).2 = (held ring).tail
  maxLength_pop : ∀ ring : ρ, maxLength (pop ring).2 = maxLength ring

namespace Fifo

variable {held : ρ → List Float32} (fifo : Fifo held)

include fifo

/-- Samples that there is room for wait behind the others, and none gives way. -/
theorem pushAll_spec {ring : ρ} {samples : List Float32}
    (room : (held ring).length + samples.length ≤ maxLength ring) :
    (pushAll ring samples).1 = [] ∧ held (pushAll ring samples).2 = held ring ++ samples ∧
      maxLength (pushAll ring samples).2 = maxLength ring := by
  induction samples generalizing ring with
  | nil => exact ⟨rfl, (List.append_nil _).symm, rfl⟩
  | cons sample samples ih =>
    rw [List.length_cons] at room
    have here : (held ring).length < maxLength ring := by omega
    have behind := fifo.held_push ring sample here
    have same := fifo.maxLength_push ring sample
    have room' : (held (push ring sample).2).length + samples.length ≤
        maxLength (push ring sample).2 := by
      rw [behind, same, List.length_append, List.length_singleton]
      omega
    obtain ⟨lost, later, same'⟩ := ih room'
    refine ⟨?_, ?_, same'.trans same⟩
    · simp only [pushAll, fifo.push_keeps ring sample here, lost]
      rfl
    · simp only [pushAll, later, behind, List.append_assoc, List.singleton_append]

/-- Samples that are there are taken from the front. -/
theorem popMany_spec {ring : ρ} {count : Nat} (there : count ≤ (held ring).length) :
    (popMany ring count).1 = (held ring).take count ∧
      held (popMany ring count).2 = (held ring).drop count ∧
      maxLength (popMany ring count).2 = maxLength ring := by
  induction count generalizing ring with
  | zero => exact ⟨rfl, rfl, rfl⟩
  | succ count ih =>
    have front := fifo.pop_fst ring
    have behind := fifo.held_pop ring
    have same := fifo.maxLength_pop ring
    rcases waiting : held ring with _ | ⟨sample, rest⟩
    · rw [waiting] at there
      exact absurd there (Nat.not_succ_le_zero count)
    · rw [waiting] at front behind there
      have later : count ≤ (held (pop ring).2).length := by
        rw [behind]
        simpa using there
      obtain ⟨taken, left, same'⟩ := ih later
      refine ⟨?_, ?_, same'.trans same⟩
      · simp only [popMany, taken, front, behind, List.head?_cons, Option.getD_some,
          List.tail_cons, List.take_succ_cons]
      · simp only [popMany, left, behind, List.tail_cons, List.drop_succ_cons]

end Fifo

end RingBuffer

/-- What waits in a ring buffer by what waits in it. -/
theorem SampleRing.fifo : RingBuffer.Fifo SampleRing.waiting where
  held_ofBuffer _ := rfl
  maxLength_ofBuffer _ := rfl
  length_eq _ := rfl
  held_push ring sample room := by
    have room : ring.waiting.length < ring.maxLength := room
    show (ring.push sample).2.waiting = _
    rw [SampleRing.push, if_pos room]
  push_keeps ring sample room := by
    have room : ring.waiting.length < ring.maxLength := room
    show (ring.push sample).1 = none
    rw [SampleRing.push, if_pos room]
  maxLength_push ring sample := by
    show (ring.push sample).2.maxLength = _
    unfold SampleRing.push
    split <;> rfl
  pop_fst _ := rfl
  held_pop _ := rfl
  maxLength_pop _ := rfl

namespace FrameQueue

variable {ρ : Type}

/-- The samples of the staged frames that are not released. -/
def unreleased (queue : FrameQueue ρ) : List Float32 :=
  (queue.staging.take (queue.staged * queue.channels)).drop (queue.offset * queue.channels)

variable [RingBuffer ρ]

/-- The queue holds whole frames of `width` samples, both in the ring buffer, where `capacity`
frames have room, and in the staging area. -/
structure Sound (held : ρ → List Float32) (width capacity : Nat) (queue : FrameQueue ρ) : Prop where
  channels : queue.channels = width
  maxLength : RingBuffer.maxLength queue.ring = capacity * width
  waiting : ∃ frames, (held queue.ring).length = frames * width ∧ frames ≤ capacity
  staging : ∃ places, queue.staging.length = places * width ∧ 0 < places ∧ queue.staged ≤ places
  offset : queue.offset ≤ queue.staged

variable {held : ρ → List Float32} {width capacity : Nat} {queue : FrameQueue ρ}

theorem sound_new (fifo : RingBuffer.Fifo held) (channels capacity stagingCapacity : Nat) :
    Sound held (max channels 1) (max capacity 1)
      (new channels capacity stagingCapacity : FrameQueue ρ) where
  channels := rfl
  maxLength := (fifo.maxLength_ofBuffer _).trans List.length_replicate
  waiting := ⟨0, by simp [new, fifo.held_ofBuffer], Nat.zero_le _⟩
  staging := ⟨max stagingCapacity 1, List.length_replicate, by omega, Nat.zero_le _⟩
  offset := Nat.le_refl 0

theorem Sound.length_unreleased (sound : Sound held width capacity queue) :
    queue.unreleased.length = (queue.staged - queue.offset) * width := by
  obtain ⟨places, size, -, fits⟩ := sound.staging
  have inside : queue.staged * width ≤ places * width := Nat.mul_le_mul_right _ fits
  unfold unreleased
  rw [List.length_drop, List.length_take, sound.channels, size, Nat.min_eq_left inside,
    Nat.sub_mul]

/-- A push accepts as many whole frames as there are and have room, and nothing gives way. -/
theorem Sound.push_spec (fifo : RingBuffer.Fifo held) (pos : 0 < width)
    (sound : Sound held width capacity queue) (samples : List Float32) :
    let frames := min (capacity - (held queue.ring).length / width) (samples.length / width)
    let accepted := samples.take (frames * width)
    (queue.push samples).1 = frames ∧ (RingBuffer.pushAll queue.ring accepted).1 = [] ∧
      accepted.length = frames * width ∧
      held (queue.push samples).2.ring = held queue.ring ++ accepted ∧
      (queue.push samples).2.unreleased = queue.unreleased ∧
      Sound held width capacity (queue.push samples).2 := by
  intro frames accepted
  obtain ⟨waiting, size, fits⟩ := sound.waiting
  have room : queue.room = capacity - (held queue.ring).length / width := by
    unfold room
    rw [fifo.length_eq, sound.maxLength, sound.channels, size, ← Nat.sub_mul,
      Nat.mul_div_cancel _ pos, Nat.mul_div_cancel _ pos]
  have some_room : frames ≤ capacity - waiting := by
    have whole : (held queue.ring).length / width = waiting := by
      rw [size, Nat.mul_div_cancel _ pos]
    exact whole ▸ Nat.min_le_left _ _
  have length : accepted.length = frames * width := by
    have offered : frames * width ≤ samples.length :=
      Nat.le_trans (Nat.mul_le_mul_right _ (Nat.min_le_right _ _)) (Nat.div_mul_le_self _ _)
    rw [List.length_take, Nat.min_eq_left offered]
  have inside : waiting + frames ≤ capacity := by omega
  have enough : (held queue.ring).length + accepted.length ≤ RingBuffer.maxLength queue.ring := by
    rw [size, length, sound.maxLength, ← Nat.add_mul]
    exact Nat.mul_le_mul_right _ inside
  obtain ⟨lost, behind, same⟩ := fifo.pushAll_spec enough
  have after : (queue.push samples).2 =
      { queue with ring := (RingBuffer.pushAll queue.ring accepted).2 } := by
    unfold push
    simp only [room, sound.channels]
    rfl
  refine ⟨by simp only [push, room, sound.channels]; rfl, lost, length, ?_, ?_, ?_⟩
  · rw [after]
    exact behind
  · rw [after]
    rfl
  · rw [after]
    refine ⟨sound.channels, same.trans sound.maxLength, ⟨waiting + frames, ?_, inside⟩,
      sound.staging, sound.offset⟩
    simp only [behind, List.length_append, size, length, Nat.add_mul]

/-- A refill stages the frames that waited longest, and some if there are any. -/
theorem Sound.refill_spec (fifo : RingBuffer.Fifo held) (pos : 0 < width)
    (sound : Sound held width capacity queue) :
    queue.refill.unreleased ++ held queue.refill.ring = held queue.ring ∧
      (queue.refill.unreleased = [] → held queue.refill.ring = []) ∧
      Sound held width capacity queue.refill := by
  obtain ⟨waiting, size, fits⟩ := sound.waiting
  obtain ⟨places, area, some_place, -⟩ := sound.staging
  have moved : min (RingBuffer.length queue.ring / queue.channels)
      (queue.staging.length / queue.channels) = min waiting places := by
    rw [fifo.length_eq, sound.channels, size, area, Nat.mul_div_cancel _ pos,
      Nat.mul_div_cancel _ pos]
  have there : min waiting places * width ≤ (held queue.ring).length := by
    rw [size]
    exact Nat.mul_le_mul_right _ (Nat.min_le_left _ _)
  obtain ⟨taken, left, same⟩ := fifo.popMany_spec there
  have taken_length : ((held queue.ring).take (min waiting places * width)).length =
      min waiting places * width := by
    rw [List.length_take, Nat.min_eq_left there]
  have after : queue.refill =
      { queue with
        ring := (RingBuffer.popMany queue.ring (min waiting places * width)).2
        staging := (held queue.ring).take (min waiting places * width) ++
          queue.staging.drop (min waiting places * width)
        staged := min waiting places
        offset := 0 } := by
    unfold refill
    simp only [moved]
    rw [sound.channels, taken, taken_length]
  have staged : queue.refill.unreleased =
      (held queue.ring).take (min waiting places * width) := by
    rw [after]
    simp only [unreleased, sound.channels]
    rw [Nat.zero_mul, List.drop_zero, List.take_left' taken_length]
  rw [staged, after]
  simp only [left]
  refine ⟨List.take_append_drop _ _, ?_, sound.channels, same.trans sound.maxLength,
    ⟨waiting - min waiting places, ?_, by omega⟩, ⟨places, ?_, some_place, Nat.min_le_right _ _⟩,
    Nat.zero_le _⟩
  · intro nothing
    rw [nothing] at taken_length
    have none_moved : min waiting places = 0 :=
      (Nat.mul_eq_zero.mp taken_length.symm).resolve_right (Nat.ne_of_gt pos)
    have none_waiting : waiting = 0 := by omega
    apply List.eq_nil_of_length_eq_zero
    rw [List.length_drop, size, none_waiting]
    omega
  · simp only [left]
    rw [List.length_drop, size, Nat.sub_mul]
  · rw [List.length_append, List.length_drop, taken_length, area]
    have inside : min waiting places * width ≤ places * width :=
      Nat.mul_le_mul_right _ (Nat.min_le_right _ _)
    omega

/-- The queue with frames staged, if there are any. -/
def prepared (queue : FrameQueue ρ) : FrameQueue ρ :=
  if queue.staged ≤ queue.offset then queue.refill else queue

/-- Before a request is answered, nothing is lost, and some frames are staged if there are any. -/
theorem Sound.prepared_spec (fifo : RingBuffer.Fifo held) (pos : 0 < width)
    (sound : Sound held width capacity queue) :
    queue.prepared.unreleased ++ held queue.prepared.ring =
        queue.unreleased ++ held queue.ring ∧
      (queue.prepared.unreleased = [] → held queue.prepared.ring = []) ∧
      Sound held width capacity queue.prepared := by
  have length := sound.length_unreleased
  unfold prepared
  split
  · rename_i exhausted
    have empty : queue.unreleased = [] := by
      apply List.eq_nil_of_length_eq_zero
      rw [length, Nat.sub_eq_zero_of_le exhausted, Nat.zero_mul]
    rw [empty, List.nil_append]
    exact sound.refill_spec fifo pos
  · rename_i some_staged
    refine ⟨rfl, fun nothing => ?_, sound⟩
    rw [nothing] at length
    rcases Nat.mul_eq_zero.mp length.symm with none_left | none_wide
    · exact absurd (Nat.le_of_sub_eq_zero none_left) some_staged
    · exact absurd none_wide (Nat.ne_of_gt pos)

/-- A request is answered with the first of the staged frames, and refused if there are none. -/
theorem Sound.request_spec (sound : Sound held width capacity queue.prepared) (frames : Nat)
    (pts : Option Int) :
    (queue.request frames pts).2 = queue.prepared ∧
      match (queue.request frames pts).1 with
      | none => frames = 0 ∨ queue.prepared.unreleased = []
      | some b => 0 < b.frames ∧ b.frames ≤ frames ∧
          b.samples = .float (queue.prepared.unreleased.take (b.frames * width)).toArray ∧
          b.frames * width ≤ queue.prepared.unreleased.length := by
  have length := sound.length_unreleased
  have answer : queue.request frames pts =
      if min frames (queue.prepared.staged - queue.prepared.offset) = 0 then (none, queue.prepared)
      else (some ⟨min frames (queue.prepared.staged - queue.prepared.offset),
        .float ((queue.prepared.staging.drop (queue.prepared.offset * queue.prepared.channels)).take
          (min frames (queue.prepared.staged - queue.prepared.offset) *
            queue.prepared.channels)).toArray⟩, queue.prepared) := rfl
  rw [answer]
  by_cases none_granted : min frames (queue.prepared.staged - queue.prepared.offset) = 0
  · rw [if_pos none_granted]
    refine ⟨rfl, ?_⟩
    rcases Nat.min_eq_zero_iff.mp none_granted with none_asked | none_left
    · exact .inl none_asked
    · refine .inr (List.eq_nil_of_length_eq_zero ?_)
      rw [length, none_left, Nat.zero_mul]
  · rw [if_neg none_granted]
    have run : (queue.prepared.staging.drop
          (queue.prepared.offset * queue.prepared.channels)).take
        (min frames (queue.prepared.staged - queue.prepared.offset) * queue.prepared.channels) =
        queue.prepared.unreleased.take
          (min frames (queue.prepared.staged - queue.prepared.offset) * width) := by
      unfold unreleased
      rw [List.drop_take, List.take_take, ← Nat.sub_mul, sound.channels,
        Nat.min_eq_left (Nat.mul_le_mul_right _ (Nat.min_le_right _ _))]
    refine ⟨rfl, Nat.pos_of_ne_zero none_granted, Nat.min_le_left _ _, ?_, ?_⟩
    · simp only [run]
    · rw [length]
      exact Nat.mul_le_mul_right _ (Nat.min_le_right _ _)

omit [RingBuffer ρ] in
/-- A release lets the first of the staged frames go. -/
theorem unreleased_release (queue : FrameQueue ρ) (frames : Nat) :
    (queue.release frames).unreleased = queue.unreleased.drop (frames * queue.channels) := by
  unfold unreleased release
  simp only [List.drop_drop, ← Nat.add_mul]
  by_cases inside : queue.offset + frames ≤ queue.staged
  · rw [Nat.min_eq_left inside]
  · have past : queue.staged ≤ queue.offset + frames := Nat.le_of_not_le inside
    have beyond : (queue.staging.take (queue.staged * queue.channels)).length ≤
        queue.staged * queue.channels := List.length_take_le _ _
    rw [Nat.min_eq_right past, List.drop_eq_nil_of_le beyond, List.drop_eq_nil_of_le
      (Nat.le_trans beyond (Nat.mul_le_mul_right _ past))]

theorem Sound.release (sound : Sound held width capacity queue) (frames : Nat) :
    Sound held width capacity (queue.release frames) :=
  ⟨sound.channels, sound.maxLength, sound.waiting, sound.staging, Nat.min_le_right _ _⟩

/-! ## Uses of a queue -/

/-- What is done to a queue from either side. Any number of writers may push to it. -/
inductive Use where
  | push (samples : List Float32)
  | close
  | request (frames : Nat) (pts : Option Int)
  | release (frames : Nat)

/-- A queue with an account of what went in and out. -/
structure Account (ρ : Type) where
  queue : FrameQueue ρ
  /-- The samples that pushes accepted. -/
  accepted : List Float32
  /-- The samples that releases let go. -/
  released : List Float32
  /-- The samples of the last granted buffer that are not released. -/
  lent : List Float32

namespace Account

/-- A new queue. -/
def new (channels capacity stagingCapacity : Nat) : Account ρ :=
  ⟨.new channels capacity stagingCapacity, [], [], []⟩

def act (account : Account ρ) : Use → Account ρ
  | .push samples =>
    let (frames, queue) := account.queue.push samples
    { account with
      queue
      accepted := account.accepted ++ samples.take (frames * account.queue.channels) }
  | .close => { account with queue := account.queue.close }
  | .request frames pts =>
    let (answer, queue) := account.queue.request frames pts
    { account with
      queue
      lent := match answer with
        | none => []
        | some b => b.samples.singles }
  | .release frames =>
    let samples := frames * account.queue.channels
    { account with
      queue := account.queue.release frames
      released := account.released ++ account.queue.unreleased.take samples
      lent := account.lent.drop samples }

def run (account : Account ρ) (uses : List Use) : Account ρ := uses.foldl act account

/-- What was released, what is staged and what waits is what was accepted, and a granted buffer is
the next to be released. -/
structure Balanced (held : ρ → List Float32) (width capacity : Nat) (account : Account ρ) :
    Prop where
  sound : Sound held width capacity account.queue
  balance : account.released ++ account.queue.unreleased ++ held account.queue.ring =
    account.accepted
  whole : width ∣ account.released.length
  lent : account.lent <+: account.queue.unreleased

theorem balanced_new (fifo : RingBuffer.Fifo held) (channels capacity stagingCapacity : Nat) :
    Balanced held (max channels 1) (max capacity 1)
      (new channels capacity stagingCapacity : Account ρ) where
  sound := sound_new fifo channels capacity stagingCapacity
  balance := by
    have empty : (new channels capacity stagingCapacity : Account ρ).queue.unreleased = [] := by
      simp [new, FrameQueue.new, unreleased]
    rw [empty]
    exact fifo.held_ofBuffer _
  whole := Nat.dvd_zero _
  lent := List.nil_prefix

/-- Whatever is done to a queue keeps the balance. -/
theorem Balanced.act (fifo : RingBuffer.Fifo held) (pos : 0 < width) {account : Account ρ}
    (balanced : Balanced held width capacity account) (use : Use) :
    Balanced held width capacity (account.act use) := by
  obtain ⟨sound, balance, whole, lent⟩ := balanced
  cases use with
  | push samples =>
    obtain ⟨frames, -, -, behind, staged, sound'⟩ := sound.push_spec fifo pos samples
    refine ⟨sound', ?_, whole, ?_⟩
    · show account.released ++ (account.queue.push samples).2.unreleased ++
        held (account.queue.push samples).2.ring = account.accepted ++
          samples.take ((account.queue.push samples).1 * account.queue.channels)
      rw [staged, behind, frames, sound.channels, ← balance, List.append_assoc, List.append_assoc,
        List.append_assoc]
    · show account.lent <+: (account.queue.push samples).2.unreleased
      rw [staged]
      exact lent
  | close => exact ⟨⟨sound.channels, sound.maxLength, sound.waiting, sound.staging, sound.offset⟩,
      balance, whole, lent⟩
  | request frames pts =>
    obtain ⟨moved, -, sound'⟩ := sound.prepared_spec fifo pos
    obtain ⟨after, answered⟩ := sound'.request_spec frames pts
    refine ⟨?_, ?_, whole, ?_⟩
    · show Sound held width capacity (account.queue.request frames pts).2
      rw [after]
      exact sound'
    · show account.released ++ (account.queue.request frames pts).2.unreleased ++
        held (account.queue.request frames pts).2.ring = account.accepted
      rw [after, List.append_assoc, moved, ← List.append_assoc]
      exact balance
    · show (match (account.queue.request frames pts).1 with
        | none => []
        | some b => b.samples.singles) <+: (account.queue.request frames pts).2.unreleased
      rw [after]
      rcases answer : (account.queue.request frames pts).1 with _ | b
      · exact List.nil_prefix
      · rw [answer] at answered
        obtain ⟨-, -, samples, -⟩ := answered
        simp only [samples]
        exact List.take_prefix _ _
  | release frames =>
    have staged := unreleased_release account.queue frames
    rw [sound.channels] at staged
    refine ⟨sound.release frames, ?_, ?_, ?_⟩
    · show account.released ++ account.queue.unreleased.take (frames * account.queue.channels) ++
        (account.queue.release frames).unreleased ++ held account.queue.ring = account.accepted
      rw [staged, sound.channels, List.append_assoc account.released, List.take_append_drop]
      exact balance
    · show width ∣ (account.released ++
        account.queue.unreleased.take (frames * account.queue.channels)).length
      rw [List.length_append, List.length_take, sound.length_unreleased, sound.channels,
        Nat.mul_min_mul_right]
      exact Nat.dvd_add whole (Nat.dvd_mul_left _ _)
    · show account.lent.drop (frames * account.queue.channels) <+:
        (account.queue.release frames).unreleased
      obtain ⟨rest, same⟩ := lent
      rw [staged, sound.channels, ← same, List.drop_append]
      exact List.prefix_append _ _

theorem run_snoc (account : Account ρ) (uses : List Use) (use : Use) :
    account.run (uses ++ [use]) = (account.run uses).act use := by
  rw [run, run, List.foldl_append, List.foldl_cons, List.foldl_nil]

theorem Balanced.run (fifo : RingBuffer.Fifo held) (pos : 0 < width) {account : Account ρ}
    (balanced : Balanced held width capacity account) (uses : List Use) :
    Balanced held width capacity (account.run uses) := by
  induction uses using List.reverseRecOn with
  | nil => exact balanced
  | append_singleton before use ih =>
    rw [run_snoc]
    exact ih.act fifo pos use

/-- A queue is closed by the first writer that closes it. -/
theorem closed_run (channels capacity stagingCapacity : Nat) (uses : List Use) :
    ((new channels capacity stagingCapacity : Account ρ).run uses).queue.closed = true ↔
      .close ∈ uses := by
  induction uses using List.reverseRecOn with
  | nil => simp [run, new, FrameQueue.new]
  | append_singleton before use ih =>
    rw [run_snoc, List.mem_append, List.mem_singleton]
    cases use with
    | push samples => exact ih.trans (by simp)
    | close => exact ⟨fun _ => .inr rfl, fun _ => rfl⟩
    | request frames pts =>
      have same (queue : FrameQueue ρ) :
          (queue.request frames pts).2.closed = queue.closed := by
        unfold request refill
        simp only
        split <;> split <;> rfl
      exact (Bool.eq_iff_iff.mp (same _)).trans (ih.trans (by simp))
    | release frames => exact ih.trans (by simp)

/-- Nothing is lost, doubled or moved in a queue of frames of `width` samples. -/
structure InTurn (held : ρ → List Float32) (width capacity : Nat) (uses : List Use)
    (account : Account ρ) : Prop where
  /-- The frames that were released, those that are staged and those that wait are what was
  accepted. -/
  balance : account.released ++ account.queue.unreleased ++ held account.queue.ring =
    account.accepted
  whole : width ∣ account.released.length ∧ width ∣ account.queue.unreleased.length ∧
    width ∣ (held account.queue.ring).length
  fits : (held account.queue.ring).length ≤ capacity * width
  /-- A push accepts as many whole frames as there are and have room, and no sample gives way. -/
  push : ∀ samples,
    let frames := min (capacity - (held account.queue.ring).length / width)
      (samples.length / width)
    (account.queue.push samples).1 = frames ∧
      (RingBuffer.pushAll account.queue.ring (samples.take (frames * width))).1 = [] ∧
      (account.act (.push samples)).accepted = account.accepted ++ samples.take (frames * width)
  /-- A buffer is the next run of whole frames that are not released. There is none only if none is
  asked for or all that was accepted is released. -/
  request : ∀ frames pts, match (account.queue.request frames pts).1 with
    | none => frames = 0 ∨ account.released = account.accepted
    | some b => 0 < b.frames ∧ b.frames ≤ frames ∧
        b.samples = .float ((account.accepted.drop account.released.length).take
          (b.frames * width)).toArray ∧
        account.released.length + b.frames * width ≤ account.accepted.length
  /-- A release of no more frames than are left of the last buffer lets the first of these go. -/
  release : ∀ frames, frames * width ≤ account.lent.length →
    (account.act (.release frames)).released =
      account.released ++ account.lent.take (frames * width)
  finished : account.queue.isFinished = true ↔
    .close ∈ uses ∧ account.released = account.accepted

theorem Balanced.isFinished_iff (fifo : RingBuffer.Fifo held) (pos : 0 < width)
    {account : Account ρ} (balanced : Balanced held width capacity account) :
    account.queue.isFinished = true ↔
      account.queue.closed = true ∧ account.released = account.accepted := by
  have length := balanced.sound.length_unreleased
  have all : account.released = account.accepted ↔
      account.queue.unreleased = [] ∧ held account.queue.ring = [] := by
    rw [← balanced.balance, List.append_assoc, List.self_eq_append_right, List.append_eq_nil_iff]
  have exhausted : account.queue.unreleased = [] ↔
      account.queue.staged ≤ account.queue.offset := by
    rw [← List.length_eq_zero_iff, length, Nat.mul_eq_zero, Nat.sub_eq_zero_iff_le]
    exact or_iff_left (Nat.ne_of_gt pos)
  rw [all, exhausted, ← List.length_eq_zero_iff, ← fifo.length_eq]
  unfold FrameQueue.isFinished
  cases account.queue.closed with
  | false => simp
  | true =>
    by_cases left : account.queue.offset < account.queue.staged
    · simp [left, Nat.not_le.mpr left]
    · simp [left, Nat.le_of_not_lt left]

/-- Whatever is done to a queue, it keeps its frames in turn. -/
theorem run_inTurn (fifo : RingBuffer.Fifo held) (channels capacity stagingCapacity : Nat)
    (uses : List Use) :
    InTurn held (max channels 1) (max capacity 1) uses
      ((new channels capacity stagingCapacity : Account ρ).run uses) := by
  have pos : 0 < max channels 1 := by omega
  have balanced := (balanced_new fifo channels capacity stagingCapacity).run fifo pos uses
  have closed := closed_run (ρ := ρ) channels capacity stagingCapacity uses
  revert balanced closed
  generalize (new channels capacity stagingCapacity : Account ρ).run uses = account
  generalize max channels 1 = width at pos ⊢
  generalize max capacity 1 = capacity
  intro balanced closed
  obtain ⟨sound, balance, whole, lent⟩ := balanced
  obtain ⟨waiting, size, fits⟩ := sound.waiting
  have next : account.queue.unreleased ++ held account.queue.ring =
      account.accepted.drop account.released.length := by
    rw [← balance, List.append_assoc, List.drop_left]
  refine ⟨balance, ⟨whole, ?_, ?_⟩, ?_, ?_, ?_, ?_, ?_⟩
  · rw [sound.length_unreleased]
    exact Nat.dvd_mul_left _ _
  · rw [size]
    exact Nat.dvd_mul_left _ _
  · rw [size]
    exact Nat.mul_le_mul_right _ fits
  · intro samples frames
    obtain ⟨accepts, lost, -⟩ := sound.push_spec fifo pos samples
    refine ⟨accepts, lost, ?_⟩
    show account.accepted ++
      samples.take ((account.queue.push samples).1 * account.queue.channels) = _
    rw [accepts, sound.channels]
  · intro frames pts
    obtain ⟨moved, drained, sound'⟩ := sound.prepared_spec fifo pos
    obtain ⟨-, answered⟩ := sound'.request_spec frames pts
    rcases answer : (account.queue.request frames pts).1 with _ | b
    · rw [answer] at answered
      refine answered.imp_right fun nothing => ?_
      rw [nothing, drained nothing, next, List.append_nil] at moved
      rw [← balance, List.append_assoc, next, ← moved, List.append_nil]
    · rw [answer] at answered
      obtain ⟨some_frames, le, samples, inside⟩ := answered
      have run : account.queue.prepared.unreleased.take (b.frames * width) =
          (account.accepted.drop account.released.length).take (b.frames * width) := by
        rw [← next, ← moved, List.take_append_of_le_length inside]
      refine ⟨some_frames, le, by rw [samples, run], ?_⟩
      have length := congrArg List.length (moved.trans next)
      rw [List.length_append, List.length_drop] at length
      have some_left : 0 < b.frames * width := Nat.mul_pos some_frames pos
      omega
  · intro frames short
    obtain ⟨rest, same⟩ := lent
    show account.released ++ account.queue.unreleased.take (frames * account.queue.channels) = _
    rw [sound.channels, ← same, List.take_append_of_le_length short]
  · rw [← closed]
    exact Balanced.isFinished_iff fifo pos ⟨sound, balance, whole, lent⟩

/-- A queue of three stereo frames, two of which are staged at a time. A torn frame and a frame that
has no room are not accepted, and the queue is not finished before its last frame is released. -/
theorem run_inTurn_stereo :
    ∃ account : Account SampleRing,
      account = (new 2 3 2).run [.push [1, 2, 3, 4, 5], .request 1 none, .release 1,
        .push [6, 7, 8, 9, 10, 11, 12, 13], .request 4 none, .release 1, .close, .request 4 none,
        .release 1] ∧
      account.accepted = [1, 2, 3, 4, 6, 7, 8, 9, 10, 11] ∧
      account.released = [1, 2, 3, 4, 6, 7] ∧ account.lent = [8, 9] ∧
      account.queue.ring.waiting = [10, 11] ∧ account.queue.isFinished = false ∧
      InTurn SampleRing.waiting 2 3 [.push [1, 2, 3, 4, 5], .request 1 none, .release 1,
        .push [6, 7, 8, 9, 10, 11, 12, 13], .request 4 none, .release 1, .close, .request 4 none,
        .release 1] account :=
  ⟨_, rfl, by decide +kernel, by decide +kernel, by decide +kernel, by decide +kernel,
    by decide +kernel, run_inTurn SampleRing.fifo 2 3 2 _⟩

end Account

end FrameQueue

end Mixdown
