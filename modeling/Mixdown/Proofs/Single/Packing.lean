import Mathlib

/-!
# Packing singles

A finite single has its digits in the 24 places that the format has for them. Numbers like that are
read back as they were packed, and words with a value are packed again as they were read.
-/

namespace Mixdown

open Float.Model (UnpackedFloat Format)
open Float.Model.UnpackedFloat

namespace Single

/-- The digits of `m * 2 ^ e` are in their places: no more than 24 of them, the first of which is
not zero unless the exponent is the lowest one. -/
structure InPlace (m : Nat) (e : Int) : Prop where
  few : m < 2 ^ 24
  low : -149 ≤ e
  first : 2 ^ 23 ≤ m ∨ e = -149

/-- The value of a finite number. -/
def valueOf? : UnpackedFloat → Option ℚ
  | .notANumber | .infinity _ => none
  | .zero _ => some 0
  | .finite s m e _ => some ((s.apply m : Int) * 2 ^ e)

/-- The places of a number that is not subnormal. -/
theorem InPlace.log2_eq {m : Nat} {e : Int} (inPlace : InPlace m e) (normal : 2 ^ 23 ≤ m) :
    m.log2 = 23 := by
  rw [Nat.log2_eq_iff (by omega)]
  exact ⟨normal, inPlace.few⟩

theorem sign_ofBitVec_toBitVec (s : Sign) : Sign.ofBitVec s.toBitVec = s := by
  cases s <;> rfl

theorem sign_toBitVec_ofBitVec (v : BitVec 1) : (Sign.ofBitVec v).toBitVec = v := by
  revert v
  decide

/-- The sign is read back. -/
theorem unpackSign_packComponents {spec : Format} (s : Sign) (exponent : BitVec spec.exponentBits)
    (mantissa : BitVec spec.mantissaBitsWithoutImplicit) :
    unpackSign (packComponents spec s exponent mantissa) = s.toBitVec := by
  apply BitVec.eq_of_getLsbD_eq
  intro i inside
  obtain rfl : i = 0 := by omega
  simp [unpackSign, packComponents, BitVec.getLsbD_append, BitVec.getElem_append]

/-- The first of 24 digits is not stored and is read back as one. -/
theorem toNat_first_append {m : Nat} (first : m.log2 = 23) :
    (1#1 ++ BitVec.ofNat 23 m).toNat = m := by
  have some_digit : m ≠ 0 := by
    rintro rfl
    nomatch first
  obtain ⟨lower, upper⟩ := (Nat.log2_eq_iff some_digit).mp first
  rw [BitVec.toNat_append, ← Nat.shiftLeft_add_eq_or_of_lt (BitVec.isLt _), BitVec.toNat_ofNat,
    BitVec.toNat_ofNat, Nat.shiftLeft_eq]
  omega

/-- A number of the format is read back as it was packed, while its exponent is not too high. -/
theorem unpack_pack {s : Sign} {m : Nat} {e : Int} {pos : 0 < m} (inPlace : InPlace m e)
    (high : e ≤ 104) : (Float32.Model.pack (.finite s m e pos)).unpack = .finite s m e pos := by
  by_cases normal : 2 ^ 23 ≤ m
  · have first := inPlace.log2_eq normal
    have low := inPlace.low
    obtain ⟨biased, value, some_biased, small⟩ : ∃ biased : Nat,
        (biased : Int) = e + 150 ∧ 0 < biased ∧ biased < 255 :=
      ⟨(e + 150).toNat, by omega, by omega, by omega⟩
    have stored : (BitVec.ofNat 8 biased).toNat = biased := by
      rw [BitVec.toNat_ofNat]
      omega
    have not_zero : BitVec.ofNat 8 biased ≠ 0#8 := by
      intro same
      rw [same] at stored
      exact Nat.ne_of_gt some_biased stored.symm
    have not_top : BitVec.ofNat 8 biased ≠ -1#8 := by
      intro same
      rw [same] at stored
      exact Nat.ne_of_gt small stored
    have packed : UnpackedFloat.pack Format.binary32 (.finite s m e pos) =
        packComponents Format.binary32 s (BitVec.ofNat 8 biased) (BitVec.ofNat 23 m) := by
      have bias : (e + (Format.binary32.exponentBias : Int) + (23 : Nat)).toNat = biased := by
        simp only [Format.exponentBias]
        omega
      simp only [UnpackedFloat.pack, bias, first]
      rw [if_neg (by omega), if_pos (by rfl)]
    show UnpackedFloat.unpack Format.binary32
      (UnpackedFloat.pack Format.binary32 (.finite s m e pos)) = _
    rw [packed]
    unfold UnpackedFloat.unpack
    simp only [unpackMantissa_packComponents, unpackExponent_packComponents,
      unpackSign_packComponents]
    rw [if_neg not_top, if_neg not_zero, UnpackedFloat.finite.injEq, stored]
    refine ⟨sign_ofBitVec_toBitVec s, toNat_first_append first, ?_⟩
    simp only [Format.exponentBias]
    omega
  · obtain rfl : e = -149 := inPlace.first.resolve_left normal
    have short : m.log2 < 23 := (Nat.log2_lt (Nat.ne_of_gt pos)).mpr (by omega)
    have stored : (BitVec.ofNat 23 m).toNat = m := by
      rw [BitVec.toNat_ofNat]
      omega
    have not_zero : BitVec.ofNat 23 m ≠ 0#23 := by
      intro same
      rw [same] at stored
      exact Nat.ne_of_gt pos stored.symm
    have packed : UnpackedFloat.pack Format.binary32 (.finite s m (-149) pos) =
        packComponents Format.binary32 s 0#8 (BitVec.ofNat 23 m) := by
      have places : m.log2 + 1 ≠ Format.binary32.mantissaBits := by
        simp only [Format.mantissaBits]
        omega
      simp only [UnpackedFloat.pack]
      rw [if_neg (by decide), if_neg places]
    show UnpackedFloat.unpack Format.binary32
      (UnpackedFloat.pack Format.binary32 (.finite s m (-149) pos)) = _
    rw [packed]
    unfold UnpackedFloat.unpack
    simp only [unpackMantissa_packComponents, unpackExponent_packComponents,
      unpackSign_packComponents]
    rw [if_neg (by decide), if_pos trivial, dif_neg not_zero, UnpackedFloat.finite.injEq]
    exact ⟨sign_ofBitVec_toBitVec s, stored, rfl⟩

theorem unpack_pack_zero (s : Sign) : (Float32.Model.pack (.zero s)).unpack = .zero s := by
  cases s <;> rfl

/-- A number of the format whose exponent is too high becomes an infinity. -/
theorem unpack_pack_high {s : Sign} {m : Nat} {e : Int} {pos : 0 < m} (high : 104 < e) :
    (Float32.Model.pack (.finite s m e pos)).unpack = .infinity s := by
  have too_high : 2 ^ Format.binary32.exponentBits ≤
      (e + (Format.binary32.exponentBias : Int) + (23 : Nat)).toNat + 1 := by
    simp only [Format.exponentBias]
    omega
  have packed : UnpackedFloat.pack Format.binary32 (.finite s m e pos) =
      packedInfinity Format.binary32 s := by
    simp only [UnpackedFloat.pack]
    rw [if_pos too_high]
  show UnpackedFloat.unpack Format.binary32
    (UnpackedFloat.pack Format.binary32 (.finite s m e pos)) = _
  rw [packed]
  cases s <;> rfl

/-- A word is its parts put together. -/
theorem packComponents_unpack (b : BitVec Format.binary32.numBits) :
    packComponents Format.binary32 (.ofBitVec (unpackSign b)) (unpackExponent b)
      (unpackMantissa b) = b := by
  simp only [packComponents, sign_toBitVec_ofBitVec, unpackSign, unpackExponent, unpackMantissa,
    BitVec.extractLsb]
  ext i inside
  grind

/-- What a finite number is unpacked from: digits of which the first is not stored, or the digits of
a subnormal number, or those of zero. -/
theorem unpack_cases {b : BitVec Format.binary32.numBits} {v : ℚ}
    (finite : valueOf? (UnpackedFloat.unpack Format.binary32 b) = some v) :
    (unpackExponent b = 0#8 ∧ unpackMantissa b = 0#23 ∧
      UnpackedFloat.unpack Format.binary32 b = .zero (.ofBitVec (unpackSign b))) ∨
    (unpackExponent b = 0#8 ∧ ∃ pos, UnpackedFloat.unpack Format.binary32 b =
      .finite (.ofBitVec (unpackSign b)) (unpackMantissa b).toNat (-149) pos) ∨
    (unpackExponent b ≠ 0#8 ∧ unpackExponent b ≠ -1#8 ∧
      ∃ pos, UnpackedFloat.unpack Format.binary32 b =
        .finite (.ofBitVec (unpackSign b)) (2 ^ 23 + (unpackMantissa b).toNat)
          ((unpackExponent b).toNat - 150) pos) := by
  have first : (1#1 ++ unpackMantissa b).toNat = 2 ^ 23 + (unpackMantissa b).toNat := by
    rw [BitVec.toNat_append, ← Nat.shiftLeft_add_eq_or_of_lt (unpackMantissa b).isLt]
    rfl
  unfold UnpackedFloat.unpack at finite ⊢
  simp only [first] at finite ⊢
  by_cases top : unpackExponent b = -1#8
  · rw [if_pos top] at finite
    by_cases none : unpackMantissa b = 0#23
    · rw [if_pos none] at finite
      cases finite
    · rw [if_neg none] at finite
      cases finite
  · rw [if_neg top]
    by_cases lowest : unpackExponent b = 0#8
    · rw [if_pos lowest]
      by_cases none : unpackMantissa b = 0#23
      · rw [dif_pos none]
        exact .inl ⟨lowest, none, rfl⟩
      · rw [dif_neg none]
        refine .inr (.inl ⟨lowest, ?_, ?_⟩)
        · simpa [BitVec.toNat_pos, BitVec.pos_iff_ne_zero] using none
        · rw [lowest]
          rfl
    · rw [if_neg lowest]
      exact .inr (.inr ⟨lowest, top, by omega, rfl⟩)

/-- What is unpacked is of the format. -/
theorem inPlace_unpack {b : BitVec Format.binary32.numBits} {s : Sign} {m : Nat} {e : Int}
    {pos : 0 < m} (unpacked : UnpackedFloat.unpack Format.binary32 b = .finite s m e pos) :
    InPlace m e ∧ e ≤ 104 := by
  have finite : valueOf? (UnpackedFloat.unpack Format.binary32 b) =
      some (((s.apply m : Int) : ℚ) * 2 ^ e) := by
    rw [unpacked]
    rfl
  have digits : (unpackMantissa b).toNat < 2 ^ 23 := (unpackMantissa b).isLt
  have range : (unpackExponent b).toNat < 2 ^ 8 := (unpackExponent b).isLt
  rcases unpack_cases finite with ⟨-, -, zero⟩ | ⟨-, _, subnormal⟩ | ⟨low, top, _, normal⟩
  · cases unpacked.symm.trans zero
  · obtain ⟨-, rfl, rfl⟩ := UnpackedFloat.finite.inj (unpacked.symm.trans subnormal)
    exact ⟨⟨by omega, by decide, .inr rfl⟩, by decide⟩
  · obtain ⟨-, rfl, rfl⟩ := UnpackedFloat.finite.inj (unpacked.symm.trans normal)
    have some_exponent : (unpackExponent b).toNat ≠ 0 :=
      fun zero => low (BitVec.eq_of_toNat_eq zero)
    have below : (unpackExponent b).toNat ≠ 255 :=
      fun full => top (BitVec.eq_of_toNat_eq (full.trans (by decide)))
    exact ⟨⟨by omega, by omega, .inl (by omega)⟩, by omega⟩

/-- A word with a finite value is what that packs to. -/
theorem pack_unpack {b : BitVec Format.binary32.numBits} {v : ℚ}
    (finite : valueOf? (UnpackedFloat.unpack Format.binary32 b) = some v) :
    UnpackedFloat.pack Format.binary32 (UnpackedFloat.unpack Format.binary32 b) = b := by
  have whole := packComponents_unpack b
  have digits : (unpackMantissa b).toNat < 2 ^ 23 := (unpackMantissa b).isLt
  have range : (unpackExponent b).toNat < 2 ^ 8 := (unpackExponent b).isLt
  rcases unpack_cases finite with
    ⟨low, none, zero⟩ | ⟨low, pos, subnormal⟩ | ⟨low, top, pos, normal⟩
  · rw [zero]
    rw [low, none] at whole
    exact whole
  · have short : (unpackMantissa b).toNat.log2 < 23 :=
      (Nat.log2_lt (Nat.ne_of_gt pos)).mpr digits
    have places : (unpackMantissa b).toNat.log2 + 1 ≠ Format.binary32.mantissaBits := by
      simp only [Format.mantissaBits]
      omega
    rw [subnormal]
    simp only [UnpackedFloat.pack]
    rw [if_neg (by decide), if_neg places, BitVec.ofNat_toNat, BitVec.setWidth_eq]
    rw [low] at whole
    exact whole
  · have inPlace := (inPlace_unpack normal).1
    have places := inPlace.log2_eq (by omega)
    have below : (unpackExponent b).toNat ≠ 255 :=
      fun full => top (BitVec.eq_of_toNat_eq (full.trans (by decide)))
    have bias : ((unpackExponent b).toNat - 150 + (Format.binary32.exponentBias : Int) +
        (23 : Nat)).toNat = (unpackExponent b).toNat := by
      simp only [Format.exponentBias]
      omega
    have stored : BitVec.ofNat 23 (2 ^ 23 + (unpackMantissa b).toNat) = unpackMantissa b := by
      apply BitVec.eq_of_toNat_eq
      rw [BitVec.toNat_ofNat]
      omega
    rw [normal]
    simp only [UnpackedFloat.pack, bias, places]
    rw [if_neg (by omega), if_pos (by rfl), stored, BitVec.ofNat_toNat, BitVec.setWidth_eq]
    exact whole

end Single

end Mixdown
