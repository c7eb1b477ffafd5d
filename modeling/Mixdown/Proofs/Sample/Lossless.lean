import Mixdown.Audio.Recording
import Mixdown.Proofs.Single.Arithmetic

/-!
# Samples that survive as singles

Quantizing a single rounds its value to the nearest integer, a half going away from zero, and holds
it within the range of the width (`quantize_eq`), so that it never reverses an order. The values of
samples of 16 and of 24 bits are singles, and these samples are got back from them; a sample of 32
bits is got back as far as a single tells it from others.
-/

namespace Mixdown

open Float.Model (UnpackedFloat Format)
open Float.Model.UnpackedFloat

/-- The integer nearest to a value, a half going away from zero. -/
def awayFromZero (q : ℚ) : ℤ := if 0 ≤ q then ⌊q + 1 / 2⌋ else ⌈q - 1 / 2⌉

theorem awayFromZero_mono {q r : ℚ} (le : q ≤ r) : awayFromZero q ≤ awayFromZero r := by
  unfold awayFromZero
  by_cases nonneg : 0 ≤ q
  · rw [if_pos nonneg, if_pos (nonneg.trans le)]
    exact Int.floor_mono (by linarith)
  · rw [if_neg nonneg]
    by_cases crossed : 0 ≤ r
    · rw [if_pos crossed]
      have below : ⌈q - 1 / 2⌉ ≤ 0 := Int.ceil_le.mpr (by push_cast; linarith)
      have above : 0 ≤ ⌊r + 1 / 2⌋ := Int.le_floor.mpr (by push_cast; linarith)
      exact below.trans above
    · rw [if_neg crossed]
      exact Int.ceil_mono (by linarith)

/-- An integer is nearest to itself. -/
theorem awayFromZero_intCast (n : ℤ) : awayFromZero n = n := by
  unfold awayFromZero
  split
  · rw [Int.floor_eq_iff]
    constructor <;> linarith
  · rw [Int.ceil_eq_iff]
    constructor <;> linarith

theorem awayFromZero_neg {q : ℚ} (pos : 0 < q) : awayFromZero (-q) = -awayFromZero q := by
  unfold awayFromZero
  rw [if_neg (by linarith), if_pos pos.le, ← Int.ceil_neg]
  congr 1
  ring

/-- What the rounding of a magnitude comes to. -/
theorem roundHalfAway_eq (m : ℕ) (e : ℤ) :
    (roundHalfAway m e : ℤ) = awayFromZero ((m : ℚ) * 2 ^ e) := by
  unfold roundHalfAway
  split
  · rename_i whole
    obtain ⟨k, rfl⟩ := Int.eq_ofNat_of_zero_le whole
    have value : (m : ℚ) * 2 ^ (k : ℤ) = ((m * 2 ^ k : ℕ) : ℤ) := by
      push_cast
      rw [zpow_natCast]
    rw [value, awayFromZero_intCast, Int.toNat_natCast, Nat.shiftLeft_eq]
  · rename_i broken
    obtain ⟨k, rfl⟩ : ∃ k : ℕ, e = -k := ⟨(-e).toNat, by omega⟩
    have scale : (0 : ℚ) < 2 ^ k := by positivity
    have halves : (m : ℚ) * 2 ^ (-(k : ℤ)) + 1 / 2 =
        ((2 * m + 2 ^ k : ℕ) : ℚ) / ((2 ^ (k + 1) : ℕ) : ℚ) := by
      push_cast
      rw [zpow_neg, zpow_natCast, pow_succ]
      field_simp
    have nonneg : (0 : ℚ) ≤ m * 2 ^ (-(k : ℤ)) := by positivity
    unfold awayFromZero
    rw [if_pos nonneg, halves, neg_neg, Int.toNat_natCast, Nat.shiftLeft_eq, one_mul,
      Nat.shiftRight_eq_div_pow, Rat.floor_natCast_div_natCast]
    rfl

namespace Single

/-- A single without a value is not a number, or infinite. -/
theorem value?_eq_none {x : Float32} (none_left : value? x = none) :
    x.toModel.unpack = .notANumber ∨ ∃ s, x.toModel.unpack = .infinity s := by
  rw [value?_eq] at none_left
  cases unpacked : x.toModel.unpack with
  | notANumber => exact .inl rfl
  | infinity s => exact .inr ⟨s, rfl⟩
  | zero s => rw [unpacked] at none_left; cases none_left
  | finite s m e pos => rw [unpacked] at none_left; cases none_left

/-- One single is at most another one: it is the lowest of all, or the other is the highest, or it
has a value that is not higher. -/
theorem le_cases {x y : Float32} (le : x ≤ y) :
    x.toModel.unpack = .infinity .negative ∨ y.toModel.unpack = .infinity .positive ∨
      ∃ a b, value? x = some a ∧ value? y = some b ∧ a ≤ b := by
  have le : decide (x.toModel ≤ y.toModel) = true := le
  rw [decide_eq_true_iff] at le
  have le : (x.toModel.unpack.compare y.toModel.unpack).any (·.isLE) = true := le
  cases here : value? x with
  | none =>
    rcases value?_eq_none here with nan | ⟨s, infinite⟩
    · rw [nan] at le
      cases le
    · cases s with
      | negative => exact .inl infinite
      | positive =>
        refine .inr (.inl ?_)
        rw [infinite] at le
        cases there : y.toModel.unpack with
        | infinity s' =>
          rw [there] at le
          cases s' with
          | positive => rfl
          | negative => cases le
        | notANumber | zero _ | finite _ _ _ _ => rw [there] at le; cases le
  | some a =>
    cases there : value? y with
    | none =>
      rcases value?_eq_none there with nan | ⟨s, infinite⟩
      · rw [nan] at le
        cases unpacked : x.toModel.unpack <;> rw [unpacked] at le <;> cases le
      · cases s with
        | positive => exact .inr (.inl infinite)
        | negative =>
          rw [infinite] at le
          cases unpacked : x.toModel.unpack with
          | infinity s =>
            rw [value?_eq, unpacked] at here
            cases here
          | notANumber | zero _ | finite _ _ _ _ => rw [unpacked] at le; cases le
    | some b =>
      rw [compare_unpack here there] at le
      exact .inr (.inr ⟨a, b, rfl, rfl, compare_le_iff_le.mp (Ordering.isLE_iff_ne_gt.mp le)⟩)

/-! ## Quantizing -/

/-- A value quantized. -/
def quantized (width : ℕ) (a : ℚ) : ℤ :=
  max (-2 ^ (width - 1)) (min (2 ^ (width - 1) - 1) (awayFromZero (a * 2 ^ (width - 1))))

theorem quantized_mono (width : ℕ) {a b : ℚ} (le : a ≤ b) :
    quantized width a ≤ quantized width b := by
  unfold quantized
  have scaled : a * 2 ^ (width - 1) ≤ b * 2 ^ (width - 1) :=
    mul_le_mul_of_nonneg_right le (by positivity)
  exact max_le_max_left _ (min_le_min_left _ (awayFromZero_mono scaled))

theorem top_eq (width : ℕ) : ((1 <<< (width - 1) : ℕ) : ℤ) = 2 ^ (width - 1) := by
  rw [Nat.shiftLeft_eq, Nat.one_mul]
  push_cast
  rfl

/-- A single with a value is quantized as the value is. -/
theorem quantize_eq {x : Float32} {a : ℚ} (value : value? x = some a) (width : ℕ) :
    quantize width x = quantized width a := by
  have top_pos : (0 : ℤ) < 2 ^ (width - 1) := by positivity
  unfold quantize quantized
  rw [top_eq]
  rcases (has_unpack value).cases with ⟨s, zero, rfl⟩ | ⟨s, m, e, pos, finite, -, rfl⟩
  · have none_left := awayFromZero_intCast 0
    rw [Int.cast_zero] at none_left
    rw [zero, zero_mul, none_left]
    generalize (2 : ℤ) ^ (width - 1) = top at top_pos ⊢
    simp only
    omega
  · have scaled : (m : ℚ) * 2 ^ (e + (width - 1 : ℕ)) = m * 2 ^ e * 2 ^ (width - 1) := by
      rw [zpow_add₀ (by norm_num), zpow_natCast, mul_assoc]
    have size : (0 : ℚ) < m * 2 ^ e * 2 ^ (width - 1) :=
      mul_pos (digits_pos pos e) (by positivity)
    have rounded := roundHalfAway_eq m (e + (width - 1 : ℕ))
    rw [scaled] at rounded
    rw [finite]
    cases s with
    | positive =>
      rw [signed, ← rounded]
      generalize (2 : ℤ) ^ (width - 1) = top at top_pos ⊢
      simp only
      omega
    | negative =>
      rw [signed, neg_mul, awayFromZero_neg size, ← rounded]
      generalize (2 : ℤ) ^ (width - 1) = top at top_pos ⊢
      simp only
      omega

/-- Whatever is quantized stays within the range of the width. -/
theorem quantize_bounds (width : ℕ) (x : Float32) :
    -2 ^ (width - 1) ≤ quantize width x ∧ quantize width x ≤ 2 ^ (width - 1) - 1 := by
  have top_pos : (0 : ℤ) < 2 ^ (width - 1) := by positivity
  cases value : value? x with
  | some a =>
    rw [quantize_eq value]
    unfold quantized
    omega
  | none =>
    unfold quantize
    rw [top_eq]
    rcases value?_eq_none value with nan | ⟨s, infinite⟩
    · rw [nan]
      simp only
      omega
    · rw [infinite]
      cases s <;> simp only <;> omega

/-- Quantizing never reverses an order. -/
theorem quantize_mono (width : ℕ) {x y : Float32} (le : x ≤ y) :
    quantize width x ≤ quantize width y := by
  rcases le_cases le with lowest | highest | ⟨a, b, here, there, le⟩
  · have bottom : quantize width x = -2 ^ (width - 1) := by
      unfold quantize
      rw [lowest, top_eq]
    rw [bottom]
    exact (quantize_bounds width y).1
  · have top : quantize width y = 2 ^ (width - 1) - 1 := by
      unfold quantize
      rw [highest, top_eq]
    rw [top]
    exact (quantize_bounds width x).2
  · rw [quantize_eq here, quantize_eq there]
    exact quantized_mono width le

theorem rounds_nearest {n e : ℤ} (small : |(n : ℚ) * 2 ^ e| ≤ 2 ^ 127) :
    Rounds (nearest n e) (n * 2 ^ e) :=
  (roundsTo_normalize n e .positive).pack small

/-- Rounding does not pass over a magnitude that fits. -/
theorem Nearest.le_abs_of_le {q v w : ℚ} (nearest : Nearest q v) (fits : Fits w) (le : w ≤ |q|) :
    w ≤ |v| := by
  rcases abs_cases q with ⟨same, -⟩ | ⟨same, -⟩
  · rw [same] at le
    exact (nearest.le_of_le fits le).trans (le_abs_self v)
  · rw [same] at le
    exact (nearest.neg.le_of_le fits le).trans (neg_le_abs v)

/-- A value that fits has no digit below the 24th place from its first one. -/
theorem Fits.exists_units {v : ℚ} (fits : Fits v) {k : ℤ} (large : (2 : ℚ) ^ (k + 24) ≤ |v|) :
    ∃ n : ℤ, v = n * 2 ^ k := by
  obtain ⟨m, e, short, -, rfl⟩ := fits
  have above : k < e := by
    have unit : (0 : ℚ) < 2 ^ e := zpow_pos (by norm_num) e
    have digits : |(m : ℚ)| < 2 ^ (24 : ℤ) := by exact_mod_cast short
    have less : |(m : ℚ) * 2 ^ e| < 2 ^ (e + 24) := by
      rw [abs_mul, abs_of_pos unit, zpow_add₀ (by norm_num), mul_comm]
      exact mul_lt_mul_of_pos_left digits unit
    have order := (zpow_lt_zpow_iff_right₀ (by norm_num : (1 : ℚ) < 2)).mp (large.trans_lt less)
    omega
  obtain ⟨j, rfl⟩ : ∃ j : ℕ, e = j + k := ⟨(e - k).toNat, by omega⟩
  refine ⟨m * 2 ^ j, ?_⟩
  rw [zpow_add₀ (by norm_num), zpow_natCast, ← mul_assoc]
  push_cast
  rfl

end Single

/-! ## Samples -/

theorem toInt_int16OfSingle_eq (x : Float32) : (int16OfSingle x).toInt = Single.quantize 16 x := by
  have bounds := Single.quantize_bounds 16 x
  exact Int16.toInt_ofInt_of_le (by norm_num at bounds ⊢; omega) (by norm_num at bounds ⊢; omega)

theorem toInt_int32OfSingle_eq (x : Float32) : (int32OfSingle x).toInt = Single.quantize 32 x := by
  have bounds := Single.quantize_bounds 32 x
  exact Int32.toInt_ofInt_of_le (by norm_num at bounds ⊢; omega) (by norm_num at bounds ⊢; omega)

/-- A 16-bit sample is got back from the single that it is. -/
theorem int16OfSingle_singleOfInt16 (s : Int16) : int16OfSingle (singleOfInt16 s) = s := by
  have lower := s.le_toInt
  have upper := s.toInt_lt
  apply Int16.toInt_inj.mp
  unfold singleOfInt16
  rw [toInt_int16OfSingle (short_toInt s), saturateInt16]
  omega

namespace Packed24

theorem toInt_bounds (p : Packed24) : -0x800000 ≤ p.toInt ∧ p.toInt < 0x800000 := by
  unfold toInt
  constructor
  · have := Int.le_bmod (x := p.low.toNat + 0x100 * p.mid.toNat + 0x10000 * p.high.toNat)
      (m := 0x1000000) (by decide)
    omega
  · have := Int.bmod_lt (x := p.low.toNat + 0x100 * p.mid.toNat + 0x10000 * p.high.toNat)
      (m := 0x1000000) (by decide)
    omega

/-- The three bytes of a 24-bit integer stand for it. -/
theorem toInt_ofInt {n : ℤ} (low : -0x800000 ≤ n) (high : n < 0x800000) : (ofInt n).toInt = n := by
  obtain ⟨u, unsigned⟩ : ∃ u : ℕ, (n % 0x1000000).toNat = u := ⟨_, rfl⟩
  have few : u < 0x1000000 := by omega
  unfold toInt ofInt
  simp only [unsigned, UInt8.toNat_ofNat']
  have whole : ((u % 0x100 % 2 ^ 8 : ℕ) : ℤ) + 0x100 * ((u / 0x100 % 0x100 % 2 ^ 8 : ℕ) : ℤ) +
      0x10000 * ((u / 0x10000 % 2 ^ 8 : ℕ) : ℤ) = n % 0x1000000 := by
    omega
  have reduced : (n % 0x1000000).bmod 0x1000000 = n.bmod 0x1000000 := Int.emod_bmod n 0x1000000
  rw [whole, reduced]
  exact Int.bmod_eq_of_le (by norm_num; omega) (by norm_num; omega)

/-- A packed sample is the three bytes of the integer that it stands for. -/
theorem ofInt_toInt (p : Packed24) : ofInt p.toInt = p := by
  obtain ⟨low, mid, high⟩ := p
  have low_lt := low.toNat_lt
  have mid_lt := mid.toNat_lt
  have high_lt := high.toNat_lt
  have unsigned : (toInt ⟨low, mid, high⟩ % 0x1000000).toNat =
      low.toNat + 0x100 * mid.toNat + 0x10000 * high.toNat := by
    have reduced : toInt ⟨low, mid, high⟩ % 0x1000000 =
        ((low.toNat : ℤ) + 0x100 * mid.toNat + 0x10000 * high.toNat) % 0x1000000 := Int.bmod_emod
    omega
  unfold ofInt
  simp only [unsigned, Packed24.mk.injEq]
  refine ⟨?_, ?_, ?_⟩ <;> apply UInt8.toNat_inj.mp <;> rw [UInt8.toNat_ofNat'] <;> omega

theorem toInt_ofSingle (x : Float32) : (ofSingle x).toInt = Single.quantize 24 x := by
  have bounds := Single.quantize_bounds 24 x
  norm_num at bounds
  exact toInt_ofInt (by omega) (by omega)

/-- A packed 24-bit sample is got back from the single that it is. -/
theorem ofSingle_toSingle (p : Packed24) : ofSingle p.toSingle = p := by
  obtain ⟨lower, upper⟩ := p.toInt_bounds
  have short : Single.Short p.toInt := by
    unfold Single.Short
    omega
  have range : Single.quantize 24 p.toSingle = p.toInt := by
    have held := Single.quantize_nearest short (by decide : 1 ≤ 24) (by decide)
    norm_num at held
    unfold toSingle
    rw [held]
    omega
  unfold ofSingle
  rw [range, ofInt_toInt]

end Packed24

theorem abs_units (n : ℤ) : |(n : ℚ) * 2 ^ (-31 : ℤ)| = (|n| : ℤ) * 2 ^ (-31 : ℤ) := by
  rw [abs_mul, abs_of_pos (by positivity : (0 : ℚ) < 2 ^ (-31 : ℤ)), Int.cast_abs]

/-- So many units of a 32-bit sample are full scale at most. -/
theorem abs_units_le {n : ℤ} : |(n : ℚ) * 2 ^ (-31 : ℤ)| ≤ 1 ↔ |n| ≤ 2 ^ 31 := by
  have units : (1 : ℚ) = 2 ^ 31 * 2 ^ (-31 : ℤ) := by norm_num
  rw [abs_units, units, mul_le_mul_iff_left₀ (by positivity)]
  exact_mod_cast Iff.rfl

/-- The single of a 32-bit sample has a whole number of units of such a sample, not more than there
are, and it is zero only for the sample zero. -/
theorem value?_singleOfInt32 (s : Int32) : ∃ n : ℤ, |n| ≤ 2 ^ 31 ∧ (n = 0 → s.toInt = 0) ∧
    Single.value? (singleOfInt32 s) = some ((n : ℚ) * 2 ^ (-31 : ℤ)) := by
  have lower := s.le_toInt
  have upper := s.toInt_lt
  have full : |s.toInt| ≤ 2 ^ 31 := abs_le.mpr ⟨by omega, by omega⟩
  have small := abs_units_le.mpr full
  obtain ⟨v, value, nearest⟩ := Single.rounds_nearest (small.trans (by norm_num))
  by_cases short : |s.toInt| < 2 ^ 24
  · have same := nearest.eq_of_fits ⟨s.toInt, -31, short, by decide, rfl⟩
    exact ⟨s.toInt, full, id, same ▸ value⟩
  · have large : (2 : ℚ) ^ (-31 + 24 : ℤ) ≤ |v| := by
      refine nearest.le_abs_of_le (Single.fits_zpow (by decide)) ?_
      rw [abs_units, zpow_add₀ (by norm_num), mul_comm]
      exact mul_le_mul_of_nonneg_right (by exact_mod_cast not_lt.mp short) (by positivity)
    obtain ⟨n, rfl⟩ := nearest.fits.exists_units large
    refine ⟨n, abs_units_le.mp (nearest.abs_le_of_le Single.fits_one small), ?_, value⟩
    rintro rfl
    norm_num at large

/-- A single that a 32-bit sample is turned into is got back from the sample that it is turned
into. -/
theorem singleOfInt32_int32OfSingle (s : Int32) :
    singleOfInt32 (int32OfSingle (singleOfInt32 s)) = singleOfInt32 s := by
  obtain ⟨n, inside, zero, value⟩ := value?_singleOfInt32 s
  obtain ⟨low, high⟩ := abs_le.mp inside
  have whole : awayFromZero ((n : ℚ) * 2 ^ (-31 : ℤ) * 2 ^ (32 - 1)) = n := by
    rw [mul_assoc, show (2 : ℚ) ^ (-31 : ℤ) * 2 ^ (32 - 1) = 1 by norm_num, mul_one,
      awayFromZero_intCast]
  have back : (int32OfSingle (singleOfInt32 s)).toInt = min (2 ^ 31 - 1) n := by
    rw [toInt_int32OfSingle_eq, Single.quantize_eq value, Single.quantized, whole]
    omega
  rcases eq_or_ne n 0 with rfl | some_units
  · obtain rfl : s = 0 := Int32.toInt_inj.mp (zero rfl)
    decide +kernel
  rcases high.lt_or_eq with below | rfl
  · -- the sample is the number of units, which fits
    rw [min_eq_right (by omega)] at back
    have fits := Single.fits_value? value
    have small := (abs_units_le.mpr inside).trans (by norm_num : (1 : ℚ) ≤ 2 ^ 127)
    have again : Single.value? (singleOfInt32 (int32OfSingle (singleOfInt32 s))) =
        some ((n : ℚ) * 2 ^ (-31 : ℤ)) := by
      show Single.value? (Single.nearest (int32OfSingle (singleOfInt32 s)).toInt (-31)) = _
      rw [back]
      exact (Single.rounds_nearest small).value?_eq fits
    exact Single.eq_of_value? again value (by positivity)
  · -- one unit less than full scale is rounded up again
    have one : singleOfInt32 s = 1 := by
      refine Single.eq_of_value? value (Single.value?_one.trans ?_) (by positivity)
      norm_num
    rw [one]
    decide +kernel

/-! ## Runs of samples -/

/-- The bytes of a packed sample, as they follow each other in a run. -/
def Packed24.bytes (p : Packed24) : List UInt8 := [p.low, p.mid, p.high]

namespace Samples

/-- A run of whole packed samples. -/
def packed (samples : List Packed24) : Samples :=
  .pcm24Packed (samples.flatMap Packed24.bytes).toArray

theorem packed24s_packed (samples : List Packed24) :
    packed24s (samples.flatMap Packed24.bytes).toArray = samples := by
  induction samples with
  | nil => rfl
  | cons p rest ih =>
    have count : ((p :: rest).flatMap Packed24.bytes).toArray.size / 3 =
        (rest.flatMap Packed24.bytes).toArray.size / 3 + 1 := by
      simp only [List.flatMap_cons, Packed24.bytes, List.size_toArray, List.length_append,
        List.length_cons, List.length_nil]
      omega
    have later (i : ℕ) : packed24At ((p :: rest).flatMap Packed24.bytes).toArray (i + 1) =
        packed24At (rest.flatMap Packed24.bytes).toArray i := by
      simp [packed24At, Packed24.bytes, Nat.mul_succ]
    unfold packed24s at ih ⊢
    rw [count, List.range_succ_eq_map, List.map_cons, List.map_map]
    exact congrArg (p :: ·) ((List.map_congr_left fun i _ => later i).trans ih)

theorem ofSingles_words (words : Array Int16) :
    ofSingles .pcm16 (Samples.pcm16 words).singles = .pcm16 words := by
  have same : int16OfSingle ∘ singleOfInt16 = id := funext int16OfSingle_singleOfInt16
  simp only [ofSingles, singles, List.map_map, same, List.map_id, Array.toArray_toList]

theorem ofSingles_packed (samples : List Packed24) :
    ofSingles .pcm24Packed (packed samples).singles = packed samples := by
  simp only [ofSingles, packed, singles, packed24s_packed, List.flatMap_map,
    Packed24.ofSingle_toSingle]
  rfl

end Samples

/-- Samples of 16 and of 24 bits, one by one and in runs, are the same after they were singles, and
a single that stands for a 32-bit sample is the same after it was one. Singles are turned into
samples in order: of two singles, of which the first is at most the second, the samples are so,
too. -/
theorem formats_survive :
    (∀ s : Int16, int16OfSingle (singleOfInt16 s) = s) ∧
    (∀ p : Packed24, Packed24.ofSingle p.toSingle = p) ∧
    (∀ s : Int32, singleOfInt32 (int32OfSingle (singleOfInt32 s)) = singleOfInt32 s) ∧
    (∀ x y : Float32, x ≤ y →
      (int16OfSingle x).toInt ≤ (int16OfSingle y).toInt ∧
      (int32OfSingle x).toInt ≤ (int32OfSingle y).toInt ∧
      (Packed24.ofSingle x).toInt ≤ (Packed24.ofSingle y).toInt) ∧
    ∀ (channels : ℕ) (rate : UInt32) (looping : Bool),
      (∀ words : Array Int16,
        (Recording.mk channels rate (Samples.pcm16 words).singles).toClip .pcm16 looping =
          .ofSamples channels (.pcm16 words) looping) ∧
      ∀ samples : List Packed24,
        (Recording.mk channels rate (Samples.packed samples).singles).toClip .pcm24Packed looping =
          .ofSamples channels (.packed samples) looping := by
  refine ⟨int16OfSingle_singleOfInt16, Packed24.ofSingle_toSingle, singleOfInt32_int32OfSingle,
    ?_, ?_⟩
  · intro x y le
    rw [toInt_int16OfSingle_eq, toInt_int16OfSingle_eq, toInt_int32OfSingle_eq,
      toInt_int32OfSingle_eq, Packed24.toInt_ofSingle, Packed24.toInt_ofSingle]
    exact ⟨Single.quantize_mono 16 le, Single.quantize_mono 32 le, Single.quantize_mono 24 le⟩
  · intro channels rate looping
    refine ⟨fun words => ?_, fun samples => ?_⟩
    · unfold Recording.toClip
      rw [Samples.ofSingles_words]
    · unfold Recording.toClip
      rw [Samples.ofSingles_packed]

/-- The largest number below a half and infinity, and the three bytes of full scale below zero. -/
theorem formats_survive_fullScale :
    let x := Single.nearest 0xffffff (-25)
    let y : Float32 := 1 / 0
    let lowest : Packed24 := ⟨0, 0, 0x80⟩
    x ≤ y ∧ (int32OfSingle x).toInt ≤ (int32OfSingle y).toInt ∧
      int32OfSingle y = 0x7fffffff ∧ singleOfInt32 0x7fffffff = 1 ∧
      lowest.toSingle = -1 ∧ Packed24.ofSingle lowest.toSingle = lowest := by
  intro x y lowest
  obtain ⟨-, packed, -, ordered, -⟩ := formats_survive
  have le : x ≤ y := by decide +kernel
  exact ⟨le, (ordered x y le).2.1, by decide +kernel, by decide +kernel, by decide +kernel,
    packed lowest⟩

end Mixdown
