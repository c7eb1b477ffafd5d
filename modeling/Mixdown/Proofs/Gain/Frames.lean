import Mixdown.Proofs.Gain.Settled

/-!
# Ramps frame by frame

A moving ramp counts down by one with each frame and keeps its target, whether the frames are
stepped through or skipped, so it is at rest on its target just when its frames have gone by.
-/

namespace Mixdown

namespace Ramp

/-- The ramp `i` frames later, one frame after another. -/
def after (r : Ramp) : (i : Nat) → Ramp
  | 0 => r
  | i + 1 => r.step.after i

@[simp] theorem target_step (r : Ramp) : r.step.target = r.target := by
  unfold step
  split <;> rfl

@[simp] theorem increment_step (r : Ramp) : r.step.increment = r.increment := by
  unfold step
  split <;> rfl

@[simp] theorem remaining_step (r : Ramp) : r.step.remaining = r.remaining - 1 := by
  unfold step
  split <;> simp [*]

@[simp] theorem target_skip (r : Ramp) (frames : Nat) : (r.skip frames).target = r.target := by
  unfold skip
  split <;> rfl

@[simp] theorem increment_skip (r : Ramp) (frames : Nat) :
    (r.skip frames).increment = r.increment := by
  unfold skip
  split <;> rfl

@[simp] theorem remaining_skip (r : Ramp) (frames : Nat) :
    (r.skip frames).remaining = r.remaining - frames := by
  unfold skip
  split
  · rename_i past
    exact (Nat.sub_eq_zero_of_le past).symm
  · rfl

theorem skip_of_early {r : Ramp} {n : Nat} (early : n < r.remaining) :
    r.skip n = { r with
      current := r.current + r.increment * Single.ofNat n
      remaining := r.remaining - n } := if_neg (Nat.not_le_of_lt early)

theorem after_add (r : Ramp) (i j : Nat) : r.after (i + j) = (r.after i).after j := by
  induction i generalizing r with
  | zero => rw [Nat.zero_add]; rfl
  | succ i ih => rw [Nat.add_right_comm]; exact ih r.step

theorem after_succ (r : Ramp) (i : Nat) : r.after (i + 1) = (r.after i).step := after_add r i 1

@[simp] theorem target_after (r : Ramp) (i : Nat) : (r.after i).target = r.target := by
  induction i with
  | zero => rfl
  | succ i ih => rw [after_succ, target_step, ih]

@[simp] theorem increment_after (r : Ramp) (i : Nat) : (r.after i).increment = r.increment := by
  induction i with
  | zero => rfl
  | succ i ih => rw [after_succ, increment_step, ih]

@[simp] theorem remaining_after (r : Ramp) (i : Nat) :
    (r.after i).remaining = r.remaining - i := by
  induction i with
  | zero => rfl
  | succ i ih => rw [after_succ, remaining_step, ih, Nat.sub_sub]

theorem Landed.after {r : Ramp} (landed : r.Landed) (i : Nat) : (r.after i).Landed := by
  induction i with
  | zero => exact landed
  | succ i ih =>
    rw [after_succ]
    exact ih.step

theorem isMoving_eq_true {r : Ramp} : r.isMoving = true ↔ 0 < r.remaining := decide_eq_true_iff

theorem isMoving_eq_false {r : Ramp} : r.isMoving = false ↔ r.remaining = 0 := by
  unfold isMoving
  rw [decide_eq_false_iff_not, Nat.not_lt, Nat.le_zero]

/-- A ramp whose frames have gone by stands on its target. -/
theorem Landed.current_eq {r : Ramp} (landed : r.Landed) (rest : r.isMoving = false) :
    r.current = r.target := landed (isMoving_eq_false.mp rest)

/-- A gain that is moved to another than those it has and is heading for. -/
theorem moveTo_fresh {r : Ramp} {gain : Float32} {frames : Nat} (some_frames : 0 < frames)
    (target : (gain == r.target) = false) (current : (gain == r.current) = false) :
    r.moveTo gain frames = { r with
      target := gain
      increment := (gain - r.current) / Single.ofNat frames
      remaining := frames } := by
  have moves : ¬ (frames = 0 ∨ (gain == r.current) = true) := by
    rw [current]
    simp [Nat.ne_of_gt some_frames]
  unfold moveTo
  rw [target, if_neg Bool.false_ne_true, if_neg moves]

end Ramp

namespace Volume

/-- The ramp of a gain. -/
def ramp (v : Volume) : GainName → Ramp
  | .left => v.left
  | .right => v.right
  | .aux => v.aux

/-- The gains after a block of `frames` frames of which only the first `heard` were there. -/
def afterBlock (v : Volume) (frames heard : Nat) : Volume :=
  if heard == frames then v.after heard else (v.after heard).skip (frames - heard)

theorem ramp_step (v : Volume) (name : GainName) : v.step.ramp name = (v.ramp name).step := by
  cases name <;> rfl

theorem ramp_skip (v : Volume) (frames : Nat) (name : GainName) :
    (v.skip frames).ramp name = (v.ramp name).skip frames := by
  cases name <;> rfl

theorem ramp_after (v : Volume) (i : Nat) (name : GainName) :
    (v.after i).ramp name = (v.ramp name).after i := by
  induction i generalizing v with
  | zero => rfl
  | succ i ih => rw [after, ih, ramp_step]; rfl

theorem ramp_modify_self (v : Volume) (name : GainName) (f : Ramp → Ramp) :
    (v.modify name f).ramp name = f (v.ramp name) := by
  cases name <;> rfl

theorem ramp_modify_ne (v : Volume) {name other : GainName} (ne : other ≠ name)
    (f : Ramp → Ramp) : (v.modify name f).ramp other = v.ramp other := by
  cases name <;> cases other <;> first | rfl | exact absurd rfl ne

theorem Landed.ramp {v : Volume} (landed : v.Landed) (name : GainName) :
    (v.ramp name).Landed := by
  cases name with
  | left => exact landed.left
  | right => exact landed.right
  | aux => exact landed.aux

theorem Advances.ramp {v v' : Volume} (advances : v.Advances v') (name : GainName) :
    (v.ramp name).Advances (v'.ramp name) := by
  cases name with
  | left => exact advances.left
  | right => exact advances.right
  | aux => exact advances.aux

/-- A moving gain moves the volume. -/
theorem isMoving_of_ramp {v : Volume} {name : GainName} (moving : (v.ramp name).isMoving = true) :
    v.isMoving = true := by
  unfold isMoving
  cases name with
  | left => rw [show v.left.isMoving = true from moving]; rfl
  | right => rw [show v.right.isMoving = true from moving, Bool.or_true]; rfl
  | aux => rw [show v.aux.isMoving = true from moving, Bool.or_true]

/-- While a channel is moving, something can be heard. -/
theorem isSilent_of_ramp {v : Volume} {name : GainName} (channel : name ≠ .aux)
    (moving : (v.ramp name).isMoving = true) : v.isSilent = false := by
  unfold isSilent
  cases name with
  | left => simp [show v.left.isMoving = true from moving]
  | right => simp [show v.right.isMoving = true from moving]
  | aux => exact absurd rfl channel

theorem afterBlock_full (v : Volume) (frames : Nat) : v.afterBlock frames frames = v.after frames :=
  if_pos (beq_self_eq_true frames)

theorem afterBlock_short (v : Volume) {frames heard : Nat} (short : heard < frames) :
    v.afterBlock frames heard = (v.after heard).skip (frames - heard) :=
  if_neg fun same => Nat.ne_of_lt short (beq_iff_eq.mp same)

/-- A block moves every gain on by its frames, however many of them were there. -/
theorem ramp_afterBlock (v : Volume) {frames heard : Nat} (few : heard ≤ frames)
    (name : GainName) :
    ((v.afterBlock frames heard).ramp name).target = (v.ramp name).target ∧
      ((v.afterBlock frames heard).ramp name).remaining = (v.ramp name).remaining - frames := by
  rcases Nat.lt_or_eq_of_le few with short | rfl
  · rw [afterBlock_short v short, ramp_skip, ramp_after, Ramp.target_skip, Ramp.target_after,
      Ramp.remaining_skip, Ramp.remaining_after, Nat.sub_sub, Nat.add_sub_cancel' few]
    exact ⟨rfl, rfl⟩
  · rw [afterBlock_full, ramp_after, Ramp.target_after, Ramp.remaining_after]
    exact ⟨rfl, rfl⟩

end Volume

end Mixdown
