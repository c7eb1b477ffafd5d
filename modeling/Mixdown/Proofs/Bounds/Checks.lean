import Mixdown.Clock
import Mixdown.Sample.Samples

/-!
# Checked sizes, ranges and times

Operations on 64-bit sizes, runs and times that fail where they leave their range: a size that does
not fit, a difference below zero, a division by zero, a part or an index outside its run, a time
outside the signed 64-bit range. A run that is only written counts by its length alone.
-/

namespace Mixdown

/-- A size that is kept in 64 bits. -/
def word? (n : Nat) : Option Nat := if n < UInt64.size then some n else none

def minus? (a b : Nat) : Option Nat := if b ≤ a then some (a - b) else none

def quotient? (a b : Nat) : Option Nat := if b = 0 then none else some (a / b)

/-- The elements from `start` up to `stop`. -/
def slice? {α : Type} (xs : List α) (start stop : Nat) : Option (List α) :=
  if start ≤ stop ∧ stop ≤ xs.length then some ((xs.take stop).drop start) else none

/-- A run after `fresh` was copied to its part from `start` up to `stop`. -/
def write? {α : Type} (fresh xs : List α) (start stop : Nat) : Option (List α) := do
  let place ← slice? xs start stop
  some (xs.take start ++ (overlay fresh place ++ xs.drop stop))

/-- The length of the part from `start` up to `stop` of a run of `length` elements. -/
def part? (length start stop : Nat) : Option Nat :=
  if start ≤ stop ∧ stop ≤ length then some (stop - start) else none

/-- An index into a run of `length` elements. -/
def index? (length i : Nat) : Option Nat := if i < length then some i else none

/-- The time `frames` frames after `pts`, for a caller that tracks time. -/
def time? (pts : Option Int) (rate : UInt32) (frames : Nat) : Option (Option Int) :=
  match pts with
  | none => some none
  | some start =>
    let time := start + framesToNanos frames rate
    if -0x8000_0000_0000_0000 ≤ time ∧ time < 0x8000_0000_0000_0000 then some (some time)
    else none

section Checks

variable {α β : Type}

theorem word?_eq {n : Nat} (small : n < UInt64.size) : word? n = some n := if_pos small

theorem minus?_eq {a b : Nat} (le : b ≤ a) : minus? a b = some (a - b) := if_pos le

theorem quotient?_eq {a b : Nat} (pos : 0 < b) : quotient? a b = some (a / b) :=
  if_neg (Nat.pos_iff_ne_zero.mp pos)

theorem slice?_eq {xs : List α} {start stop : Nat} (order : start ≤ stop)
    (inside : stop ≤ xs.length) : slice? xs start stop = some ((xs.take stop).drop start) :=
  if_pos ⟨order, inside⟩

theorem part?_eq {length start stop : Nat} (order : start ≤ stop) (inside : stop ≤ length) :
    part? length start stop = some (stop - start) := if_pos ⟨order, inside⟩

theorem index?_eq {length i : Nat} (inside : i < length) : index? length i = some i :=
  if_pos inside

/-- A computation for each element succeeds where it does for every one of them. -/
theorem mapM_eq_some_map {f : α → Option β} {g : α → β} {xs : List α}
    (each : ∀ x ∈ xs, f x = some (g x)) : xs.mapM f = some (xs.map g) := by
  induction xs with
  | nil => rfl
  | cons x xs ih =>
    rw [List.mapM_cons, each x List.mem_cons_self,
      ih fun y member => each y (List.mem_cons_of_mem x member)]
    rfl

/-- Writing over the start of a run is writing over a part of it that is long enough. -/
theorem overlay_take (fresh stale : List α) {size : Nat} (inside : size ≤ stale.length) :
    overlay fresh (stale.take size) ++ stale.drop size = overlay (fresh.take size) stale := by
  unfold overlay
  rw [List.length_take, Nat.min_eq_left inside, List.drop_take, List.length_take, List.take_take,
    Nat.min_eq_right inside, List.append_assoc]
  congr 1
  by_cases short : fresh.length ≤ size
  · have rest : stale.drop size = (stale.drop fresh.length).drop (size - fresh.length) := by
      rw [List.drop_drop, Nat.add_sub_cancel' short]
    rw [Nat.min_eq_right short, rest, List.take_append_drop]
  · have long := Nat.le_of_not_le short
    rw [Nat.sub_eq_zero_of_le long, Nat.min_eq_left long, List.take_zero, List.nil_append]

/-- A run that is written over by its own start stays as it is. -/
theorem overlay_take_self (xs : List α) (size : Nat) : overlay (xs.take size) xs = xs := by
  rw [overlay, List.take_take, List.length_take]
  rcases Nat.le_total size xs.length with short | long
  · rw [Nat.min_eq_left short, Nat.min_eq_right short, List.take_append_drop]
  · rw [Nat.min_eq_right long, Nat.min_eq_left long, List.take_append_drop]

theorem write?_eq (fresh : List α) {xs : List α} {start stop : Nat} (order : start ≤ stop)
    (inside : stop ≤ xs.length) : write? fresh xs start stop =
      some (xs.take start ++ overlay (fresh.take (stop - start)) (xs.drop start)) := by
  have room : stop - start ≤ (xs.drop start).length := by
    rw [List.length_drop]
    omega
  have rest : xs.drop stop = (xs.drop start).drop (stop - start) := by
    rw [List.drop_drop, Nat.add_sub_cancel' order]
  unfold write?
  rw [slice?_eq order inside, List.drop_take, rest]
  exact congrArg (fun tail => some (xs.take start ++ tail)) (overlay_take fresh _ room)

theorem write?_start (fresh : List α) {xs : List α} {stop : Nat} (inside : stop ≤ xs.length) :
    write? fresh xs 0 stop = some (overlay (fresh.take stop) xs) :=
  write?_eq fresh (Nat.zero_le stop) inside

/-- What was written over the start of a run is read from it. -/
theorem slice?_overlay (fresh : List α) {xs : List α} {stop : Nat} (inside : stop ≤ xs.length) :
    slice? (overlay fresh xs) 0 stop = some ((overlay fresh xs).take stop) :=
  slice?_eq (Nat.zero_le stop) (Nat.le_trans inside (Nat.le_of_eq (length_overlay fresh xs).symm))

end Checks

section Times

variable {rate : UInt32} {pts : Option Int}

/-- Times up to `frames` frames after `pts` are within the signed 64-bit range. -/
def Timely (pts : Option Int) (rate : UInt32) (frames : Nat) : Prop :=
  ∀ start, pts = some start → -0x8000_0000_0000_0000 ≤ start ∧
    start + framesToNanos frames rate < 0x8000_0000_0000_0000

/-- The duration of a run of frames that fits into memory, without the reduction of its length. -/
theorem framesToNanos_eq_min {frames : Nat} (small : frames < 0x8000_0000_0000_0000) :
    framesToNanos frames rate =
      (min 0x7fff_ffff_ffff_ffff (frames * 1_000_000_000) / max rate.toNat 1 : Nat) := by
  have wrapped : Int.bmod frames UInt64.size = frames :=
    Int.bmod_eq_of_le (by simp only [UInt64.size]; omega) (by simp only [UInt64.size]; omega)
  have inside : max (-0x8000_0000_0000_0000) (min 0x7fff_ffff_ffff_ffff
      ((frames : Int) * 1_000_000_000)) =
        (min 0x7fff_ffff_ffff_ffff (frames * 1_000_000_000) : Nat) := by
    omega
  have rates : max (rate.toNat : Int) 1 = (max rate.toNat 1 : Nat) := by omega
  unfold framesToNanos
  simp only [wrapped, inside, rates]
  rfl

theorem framesToNanos_mono (rate : UInt32) {fewer frames : Nat} (le : fewer ≤ frames)
    (small : frames < 0x8000_0000_0000_0000) :
    framesToNanos fewer rate ≤ framesToNanos frames rate := by
  rw [framesToNanos_eq_min small, framesToNanos_eq_min (Nat.lt_of_le_of_lt le small)]
  refine Int.ofNat_le.mpr (Nat.div_le_div_right ?_)
  omega

theorem Timely.of_le {fewer frames : Nat} (timely : Timely pts rate frames)
    (small : frames < 0x8000_0000_0000_0000) (le : fewer ≤ frames) : Timely pts rate fewer := by
  intro start given
  obtain ⟨early, late⟩ := timely start given
  have before := framesToNanos_mono rate le small
  exact ⟨early, by omega⟩

/-- The times within a run of frames are in range if those of its ends are. -/
theorem time?_eq {done frames : Nat} (timely : Timely pts rate frames)
    (small : frames < 0x8000_0000_0000_0000) (le : done ≤ frames) :
    time? pts rate done = some (stampAfter pts rate done) := by
  cases pts with
  | none => rfl
  | some start =>
    obtain ⟨early, late⟩ := timely start rfl
    have forward : 0 ≤ framesToNanos done rate := by
      rw [framesToNanos_eq_min (Nat.lt_of_le_of_lt le small)]
      exact Int.natCast_nonneg _
    have before := framesToNanos_mono rate le small
    exact if_pos ⟨by omega, by omega⟩

end Times

end Mixdown
