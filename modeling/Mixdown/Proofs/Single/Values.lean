import Mixdown.Proofs.Sample.Exact

/-!
# Singles by their values

Singles with a value are told apart by it, except for the sign of a zero, and they are compared as
their values are.
-/

namespace Mixdown

open Float.Model (UnpackedFloat Format)
open Float.Model.UnpackedFloat

namespace Single

theorem value?_eq (x : Float32) : value? x = valueOf? x.toModel.unpack := by
  unfold value? valueOf?
  cases x.toModel.unpack <;> rfl

/-- Singles with a value are told apart by what they are unpacked to. -/
theorem eq_of_unpack {x y : Float32} {v : ℚ} (finite : value? x = some v)
    (same : x.toModel.unpack = y.toModel.unpack) : x = y := by
  rw [value?_eq] at finite
  obtain ⟨⟨bits, valid⟩⟩ := x
  obtain ⟨⟨bits', valid'⟩⟩ := y
  have packed := pack_unpack finite
  have packed' := pack_unpack (same ▸ finite)
  have word : bits.toBitVec = bits'.toBitVec :=
    packed.symm.trans ((congrArg (UnpackedFloat.pack Format.binary32) same).trans packed')
  obtain rfl : bits = bits' := UInt32.toBitVec_inj.mp word
  rfl

/-- What is packed and has a value as it stands. -/
theorem value?_pack {f : UnpackedFloat} (same : (Float32.Model.pack f).unpack = f) :
    value? (.ofModel (.pack f)) = valueOf? f := by
  rw [value?_eq]
  exact congrArg valueOf? same

/-- Digits at a higher exponent have the first place filled, so that they are more. -/
theorem InPlace.value_lt {m m' : Nat} {e e' : Int} (here : InPlace m e) (there : InPlace m' e')
    (less : e < e') : (m : ℚ) * 2 ^ e < m' * 2 ^ e' := by
  have filled : 2 ^ 23 ≤ m' := there.first.resolve_right (by have := here.low; omega)
  have scale : (2 : ℚ) ^ (e + 1) ≤ 2 ^ e' := zpow_le_zpow_right₀ (by norm_num) (by omega)
  have unit : (0 : ℚ) < 2 ^ e := zpow_pos (by norm_num) e
  have few : (m : ℚ) < 2 ^ 24 := by exact_mod_cast here.few
  have many : (2 : ℚ) ^ 23 ≤ m' := by exact_mod_cast filled
  calc (m : ℚ) * 2 ^ e < 2 ^ 24 * 2 ^ e := mul_lt_mul_of_pos_right few unit
    _ = 2 ^ 23 * 2 ^ (e + 1) := by
      rw [zpow_add₀ (by norm_num)]
      ring
    _ ≤ m' * 2 ^ e' := mul_le_mul many scale (by positivity) (by positivity)

/-- Digits in their places are ordered as the values that they give: first by the exponent. -/
theorem InPlace.compare_eq {m m' : Nat} {e e' : Int} (here : InPlace m e) (there : InPlace m' e') :
    (compare e e').then (compare m m') = compare ((m : ℚ) * 2 ^ e) (m' * 2 ^ e') := by
  rcases lt_trichotomy e e' with less | rfl | more
  · rw [Int.compare_eq_lt.mpr less, compare_lt_iff_lt.mpr (here.value_lt there less)]
    rfl
  · have unit : (0 : ℚ) < 2 ^ e := zpow_pos (by norm_num) e
    rw [compare_eq_iff_eq.mpr (rfl : e = e), Ordering.eq_then]
    rcases lt_trichotomy m m' with less | rfl | more
    · rw [compare_lt_iff_lt.mpr less, compare_lt_iff_lt.mpr]
      exact mul_lt_mul_of_pos_right (by exact_mod_cast less) unit
    · rw [compare_eq_iff_eq.mpr rfl, compare_eq_iff_eq.mpr rfl]
    · rw [compare_gt_iff_gt.mpr more, compare_gt_iff_gt.mpr]
      exact mul_lt_mul_of_pos_right (by exact_mod_cast more) unit
  · rw [Int.compare_eq_gt.mpr more, compare_gt_iff_gt.mpr (there.value_lt here more)]
    rfl

/-- Digits in their places are told apart by the value that they give. -/
theorem InPlace.unique {m m' : Nat} {e e' : Int} (here : InPlace m e) (there : InPlace m' e')
    (same : (m : ℚ) * 2 ^ e = m' * 2 ^ e') : m = m' ∧ e = e' := by
  have order := here.compare_eq there
  rw [compare_eq_iff_eq.mpr same, Ordering.then_eq_eq] at order
  exact ⟨compare_eq_iff_eq.mp order.2, compare_eq_iff_eq.mp order.1⟩

/-- A magnitude with a sign. -/
def signed : Sign → ℚ → ℚ
  | .positive, q => q
  | .negative, q => -q

theorem signed_mul (s : Sign) (q r : ℚ) : signed s q * r = signed s (q * r) := by
  cases s with
  | positive => rfl
  | negative => exact neg_mul q r

theorem cast_apply (s : Sign) (m : ℕ) : ((s.apply m : Int) : ℚ) = signed s m := by
  cases s <;> simp [Sign.apply, signed]

theorem abs_signed (s : Sign) (q : ℚ) : |signed s q| = |q| := by
  cases s with
  | positive => rfl
  | negative => exact abs_neg q

/-- An unpacked number of the format with its value. -/
structure Has (f : UnpackedFloat) (a : ℚ) : Prop where
  inPlace : ∀ {s m e pos}, f = .finite s m e pos → InPlace m e
  value : valueOf? f = some a

/-- An unpacked number with a value is a zero or finite. -/
theorem Has.cases {f : UnpackedFloat} {a : ℚ} (has : Has f a) :
    (∃ s, f = .zero s ∧ a = 0) ∨
    ∃ s m e, ∃ pos : 0 < m, f = .finite s m e pos ∧ InPlace m e ∧ a = signed s (m * 2 ^ e) := by
  have value := has.value
  cases f with
  | notANumber => cases value
  | infinity s => cases value
  | zero s => exact .inl ⟨s, rfl, (Option.some.inj value).symm⟩
  | finite s m e pos =>
    refine .inr ⟨s, m, e, pos, rfl, has.inPlace rfl, ?_⟩
    rw [← Option.some.inj value, cast_apply, signed_mul]

theorem has_unpack {x : Float32} {a : ℚ} (value : value? x = some a) :
    Has x.toModel.unpack a :=
  ⟨fun unpacked => (inPlace_unpack unpacked).1, (value?_eq x).symm.trans value⟩

/-! ## Order -/

theorem digits_pos {m : ℕ} (pos : 0 < m) (e : ℤ) : (0 : ℚ) < m * 2 ^ e :=
  mul_pos (Nat.cast_pos.mpr pos) (zpow_pos (by norm_num) e)

/-- Singles are compared by their values. -/
theorem compare_unpack {x y : Float32} {a b : ℚ} (here : value? x = some a)
    (there : value? y = some b) :
    x.toModel.unpack.compare y.toModel.unpack = some (compare a b) := by
  rcases (has_unpack here).cases with ⟨s, zero, rfl⟩ | ⟨s, m, e, pos, finite, inPlace, rfl⟩
  · rcases (has_unpack there).cases with ⟨s', zero', rfl⟩ | ⟨s', m', e', pos', finite', -, rfl⟩
    · rw [zero, zero', compare_eq_iff_eq.mpr rfl]
      rfl
    · have size := digits_pos pos' e'
      rw [zero, finite']
      cases s' with
      | positive =>
        rw [signed, compare_lt_iff_lt.mpr size]
        rfl
      | negative =>
        rw [signed, compare_gt_iff_gt.mpr (neg_neg_of_pos size)]
        rfl
  · have size := digits_pos pos e
    rcases (has_unpack there).cases with
      ⟨s', zero', rfl⟩ | ⟨s', m', e', pos', finite', inPlace', rfl⟩
    · rw [finite, zero']
      cases s with
      | positive =>
        rw [signed, compare_gt_iff_gt.mpr size]
        rfl
      | negative =>
        rw [signed, compare_lt_iff_lt.mpr (neg_neg_of_pos size)]
        rfl
    · have size' := digits_pos pos' e'
      have order := inPlace.compare_eq inPlace'
      rw [finite, finite']
      cases s <;> cases s' <;> simp only [signed]
      · rw [UnpackedFloat.compare, order]
        rcases lt_trichotomy ((m : ℚ) * 2 ^ e) (m' * 2 ^ e') with less | same | more
        · rw [compare_lt_iff_lt.mpr less, compare_gt_iff_gt.mpr (neg_lt_neg less)]
          rfl
        · rw [compare_eq_iff_eq.mpr same, compare_eq_iff_eq.mpr (congrArg (-·) same)]
          rfl
        · rw [compare_gt_iff_gt.mpr more, compare_lt_iff_lt.mpr (neg_lt_neg more)]
          rfl
      · rw [compare_lt_iff_lt.mpr ((neg_neg_of_pos size).trans size')]
        rfl
      · rw [compare_gt_iff_gt.mpr ((neg_neg_of_pos size').trans size)]
        rfl
      · rw [UnpackedFloat.compare, order]

theorem lt_iff {x y : Float32} {a b : ℚ} (here : value? x = some a) (there : value? y = some b) :
    x < y ↔ a < b := by
  have order := compare_unpack here there
  show decide (x.toModel < y.toModel) = true ↔ a < b
  rw [decide_eq_true_iff]
  show (x.toModel.unpack.compare y.toModel.unpack == some .lt) = true ↔ a < b
  rw [order, beq_iff_eq, Option.some.injEq, compare_lt_iff_lt]

theorem beq_iff {x y : Float32} {a b : ℚ} (here : value? x = some a) (there : value? y = some b) :
    (x == y) = true ↔ a = b := by
  have order := compare_unpack here there
  show (x.toModel.unpack.compare y.toModel.unpack == some .eq) = true ↔ a = b
  rw [order, beq_iff_eq, Option.some.injEq, compare_eq_iff_eq]

/-- A finite single has a value. -/
theorem exists_value? {x : Float32} (finite : x.isFinite = true) : ∃ v, value? x = some v := by
  have finite : x.toModel.unpack.isFinite = true := finite
  rw [value?_eq]
  cases unpacked : x.toModel.unpack with
  | notANumber => rw [unpacked] at finite; cases finite
  | infinity s => rw [unpacked] at finite; cases finite
  | zero s => exact ⟨_, rfl⟩
  | finite s m e pos => exact ⟨_, rfl⟩

/-- Singles with a value other than zero are told apart by it. -/
theorem eq_of_value? {x y : Float32} {v : ℚ} (here : value? x = some v) (there : value? y = some v)
    (some_value : v ≠ 0) : x = y := by
  refine eq_of_unpack here ?_
  rcases (has_unpack here).cases with ⟨s, -, rfl⟩ | ⟨s, m, e, pos, finite, inPlace, value⟩
  · exact absurd rfl some_value
  · rcases (has_unpack there).cases with ⟨s', -, rfl⟩ | ⟨s', m', e', pos', finite', inPlace', rfl⟩
    · exact absurd rfl some_value
    · have size := digits_pos pos e
      have size' := digits_pos pos' e'
      obtain ⟨rfl, same⟩ : s = s' ∧ (m : ℚ) * 2 ^ e = m' * 2 ^ e' := by
        cases s <;> cases s' <;> simp only [signed] at value
        · exact ⟨rfl, by linarith⟩
        · linarith
        · linarith
        · exact ⟨rfl, value.symm⟩
      obtain ⟨rfl, rfl⟩ := inPlace.unique inPlace' same
      rw [finite, finite']

end Single

end Mixdown
