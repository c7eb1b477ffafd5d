import Mixdown.Mixer.Kernel

/-!
# Ramps that have landed

A ramp that has no frames left stands on its target, whatever was asked of it before, so a gain
at rest does not move when frames go by.
-/

namespace Mixdown

namespace Ramp

/-- A ramp at rest stands on its target. -/
def Landed (r : Ramp) : Prop := r.remaining = 0 → r.current = r.target

theorem landed_settled (gain : Float32) : (settled gain).Landed := fun _ => rfl

/-- Move to a gain in so many frames, or at once when there are none. -/
def steer (gain : Float32) (frames : Nat) (r : Ramp) : Ramp :=
  if frames = 0 then r.set gain else r.moveTo gain frames

theorem Landed.steer {r : Ramp} (landed : r.Landed) (gain : Float32) (frames : Nat) :
    (r.steer gain frames).Landed := by
  unfold Ramp.steer
  split
  · exact landed_settled gain
  · rename_i some_frames
    unfold moveTo
    split
    · exact landed
    · split
      · exact landed_settled gain
      · intro none_left
        exact absurd none_left some_frames

theorem Landed.step {r : Ramp} (landed : r.Landed) : r.step.Landed := by
  unfold Ramp.step
  split
  · exact landed
  · exact fun _ => rfl
  · intro none_left
    exact absurd none_left (Nat.succ_ne_zero _)

theorem landed_skip (r : Ramp) (frames : Nat) : (r.skip frames).Landed := by
  unfold skip
  split
  · exact fun _ => rfl
  · intro none_left
    simp only at none_left
    omega

theorem step_of_rest {r : Ramp} (rest : r.isMoving = false) : r.step = r := by
  have none_left : r.remaining = 0 := by simpa [isMoving] using rest
  unfold Ramp.step
  rw [none_left]

theorem skip_of_rest {r : Ramp} (landed : r.Landed) (rest : r.isMoving = false) (frames : Nat) :
    r.skip frames = r := by
  have none_left : r.remaining = 0 := by simpa [isMoving] using rest
  have stands : r.current = r.target := landed none_left
  obtain ⟨current, target, increment, remaining⟩ := r
  obtain rfl : remaining = 0 := none_left
  obtain rfl : current = target := stands
  exact if_pos (Nat.zero_le frames)

/-- Frames may have gone by: a gain at rest has not moved. -/
def Advances (r r' : Ramp) : Prop := r.isMoving = false → r' = r

theorem Advances.trans {r r' r'' : Ramp} (first : Advances r r') (second : Advances r' r'') :
    Advances r r'' := by
  intro rest
  obtain rfl := first rest
  exact second rest

theorem Advances.isMoving {r r' : Ramp} (advances : Advances r r') (moving : r'.isMoving = true) :
    r.isMoving = true := by
  cases rest : r.isMoving with
  | true => rfl
  | false =>
    obtain rfl := advances rest
    exact rest.symm.trans moving

end Ramp

namespace Volume

/-- Every gain at rest stands on its target. -/
structure Landed (v : Volume) : Prop where
  left : v.left.Landed
  right : v.right.Landed
  aux : v.aux.Landed

theorem landed_unity : unity.Landed :=
  ⟨Ramp.landed_settled _, Ramp.landed_settled _, Ramp.landed_settled _⟩

theorem Landed.modify {v : Volume} (landed : v.Landed) (name : GainName) {f : Ramp → Ramp}
    (keeps : ∀ r, r.Landed → (f r).Landed) : (v.modify name f).Landed := by
  cases name with
  | left => exact ⟨keeps _ landed.left, landed.right, landed.aux⟩
  | right => exact ⟨landed.left, keeps _ landed.right, landed.aux⟩
  | aux => exact ⟨landed.left, landed.right, keeps _ landed.aux⟩

theorem Landed.step {v : Volume} (landed : v.Landed) : v.step.Landed :=
  ⟨landed.left.step, landed.right.step, landed.aux.step⟩

theorem landed_skip (v : Volume) (frames : Nat) : (v.skip frames).Landed :=
  ⟨v.left.landed_skip frames, v.right.landed_skip frames, v.aux.landed_skip frames⟩

theorem isMoving_eq_false {v : Volume} : v.isMoving = false ↔
    v.left.isMoving = false ∧ v.right.isMoving = false ∧ v.aux.isMoving = false := by
  simp [isMoving, and_assoc]

theorem step_of_rest {v : Volume} (rest : v.isMoving = false) : v.step = v := by
  obtain ⟨left, right, aux⟩ := isMoving_eq_false.mp rest
  unfold Volume.step
  rw [Ramp.step_of_rest left, Ramp.step_of_rest right, Ramp.step_of_rest aux]

theorem skip_of_rest {v : Volume} (landed : v.Landed) (rest : v.isMoving = false) (frames : Nat) :
    v.skip frames = v := by
  obtain ⟨left, right, aux⟩ := isMoving_eq_false.mp rest
  unfold Volume.skip
  rw [Ramp.skip_of_rest landed.left left, Ramp.skip_of_rest landed.right right,
    Ramp.skip_of_rest landed.aux aux]

/-- The gains before frame `i`, counted from the gains of the moment. -/
def after (v : Volume) : (i : Nat) → Volume
  | 0 => v
  | i + 1 => v.step.after i

theorem Landed.after {v : Volume} (landed : v.Landed) (i : Nat) : (v.after i).Landed := by
  induction i generalizing v with
  | zero => exact landed
  | succ i ih => exact ih landed.step

theorem after_of_rest {v : Volume} (rest : v.isMoving = false) (i : Nat) : v.after i = v := by
  induction i with
  | zero => rfl
  | succ i ih => rw [Volume.after, step_of_rest rest, ih]

/-- Frames may have gone by: the gains at rest have not moved. -/
structure Advances (v v' : Volume) : Prop where
  left : v.left.Advances v'.left
  right : v.right.Advances v'.right
  aux : v.aux.Advances v'.aux

theorem Advances.refl (v : Volume) : Advances v v := ⟨fun _ => rfl, fun _ => rfl, fun _ => rfl⟩

theorem Advances.trans {v v' v'' : Volume} (first : Advances v v') (second : Advances v' v'') :
    Advances v v'' :=
  ⟨first.left.trans second.left, first.right.trans second.right, first.aux.trans second.aux⟩

theorem advances_after (v : Volume) (i : Nat) : v.Advances (v.after i) := by
  induction i generalizing v with
  | zero => exact .refl v
  | succ i ih =>
    have step : v.Advances v.step :=
      ⟨Ramp.step_of_rest, Ramp.step_of_rest, Ramp.step_of_rest⟩
    exact step.trans (ih v.step)

theorem Landed.advances_skip {v : Volume} (landed : v.Landed) (frames : Nat) :
    v.Advances (v.skip frames) :=
  ⟨fun rest => Ramp.skip_of_rest landed.left rest frames,
    fun rest => Ramp.skip_of_rest landed.right rest frames,
    fun rest => Ramp.skip_of_rest landed.aux rest frames⟩

theorem Advances.eq_of_rest {v v' : Volume} (advances : v.Advances v')
    (rest : v.isMoving = false) : v' = v := by
  obtain ⟨left, right, aux⟩ := isMoving_eq_false.mp rest
  obtain ⟨l, r, a⟩ := v'
  obtain rfl : l = v.left := advances.left left
  obtain rfl : r = v.right := advances.right right
  obtain rfl : a = v.aux := advances.aux aux
  rfl

/-- A send that has come to rest does not start again by itself. -/
theorem Advances.sendsAux {v v' : Volume} (advances : v.Advances v')
    (sends : v'.sendsAux = true) : v.sendsAux = true := by
  cases moving : v.aux.isMoving with
  | true => simp [Volume.sendsAux, moving]
  | false =>
    unfold Volume.sendsAux at sends ⊢
    rwa [advances.aux moving] at sends

/-- Silence stays. -/
theorem Advances.isSilent {v v' : Volume} (advances : v.Advances v')
    (silent : v.isSilent = true) : v'.isSilent = true := by
  have rest := silent
  simp only [Volume.isSilent, Bool.and_eq_true, Bool.not_eq_true'] at rest
  unfold Volume.isSilent at silent ⊢
  rwa [advances.left rest.1.2, advances.right rest.2]

/-- Frames under moving gains, frame by frame. -/
theorem play_fst (channels : Channels) (v : Volume) (frames : List (Stereo Float32)) :
    (v.play channels frames).1 =
      frames.mapIdx fun i frame => (v.after i).contribution channels frame := by
  induction frames generalizing v with
  | nil => rfl
  | cons frame rest ih =>
    simp only [Volume.play, List.mapIdx_cons, ih]
    rfl

theorem play_snd (channels : Channels) (v : Volume) (frames : List (Stereo Float32)) :
    (v.play channels frames).2 = v.after frames.length := by
  induction frames generalizing v with
  | nil => rfl
  | cons frame rest ih =>
    simp only [Volume.play, ih]
    rfl

end Volume

end Mixdown
