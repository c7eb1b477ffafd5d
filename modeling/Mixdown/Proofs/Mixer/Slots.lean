import Mixdown.Mixer.Render

/-!
# The slots of a mixer

What a slot holds after a slot was written, and which tracks, masks and flags say that a slot is
in use or enabled.
-/

namespace Mixdown

namespace Slot

theorem mem_all (slot : Slot) : slot ∈ all := List.mem_finRange slot

theorem nodup_all : all.Nodup := List.nodup_finRange _

theorem bit_and_bit_ne_zero (a b : Slot) : a.bit &&& b.bit ≠ 0 ↔ a = b := by
  revert a b
  decide +kernel

theorem fold_bits_ne_zero (slots : List Slot) (mask : UInt32) (slot : Slot) :
    slots.foldl (fun mask s => mask ||| s.bit) mask &&& slot.bit ≠ 0 ↔
      mask &&& slot.bit ≠ 0 ∨ slot ∈ slots := by
  induction slots generalizing mask with
  | nil => simp
  | cons first rest ih =>
    rw [List.foldl_cons, ih, List.mem_cons]
    have split : (mask ||| first.bit) &&& slot.bit ≠ 0 ↔
        mask &&& slot.bit ≠ 0 ∨ slot = first := by
      rw [show (mask ||| first.bit) &&& slot.bit = mask &&& slot.bit ||| first.bit &&& slot.bit
        from UInt32.toBitVec_inj.mp (BitVec.and_or_distrib_right), ne_eq,
        UInt32.or_eq_zero_iff, Classical.not_and_iff_not_or_not]
      exact or_congr_right ((bit_and_bit_ne_zero first slot).trans eq_comm)
    rw [split, or_assoc]

end Slot

namespace Mixer

variable {σ : Type}

@[simp] theorem track?_setTrack_self (m : Mixer σ) (slot : Slot) (t : Option (Track σ)) :
    (m.setTrack slot t).track? slot = t := by
  exact Vector.getElem_set_self slot.isLt

theorem track?_setTrack_ne (m : Mixer σ) {slot other : Slot} (t : Option (Track σ))
    (h : other ≠ slot) : (m.setTrack slot t).track? other = m.track? other := by
  have distinct : slot.val ≠ other.val := fun same => h (Fin.ext same.symm)
  exact Vector.getElem_set_ne slot.isLt other.isLt distinct

/-- Two mixers with the same tracks in every slot have the same tracks. -/
theorem tracks_ext {m m' : Mixer σ} (h : ∀ slot, m'.track? slot = m.track? slot) :
    m'.tracks = m.tracks := by
  apply Vector.ext
  intro i inside
  exact h ⟨i, inside⟩

/-- Writing what a slot holds already changes nothing. -/
theorem setTrack_self (m : Mixer σ) {slot : Slot} {t : Option (Track σ)}
    (h : m.track? slot = t) : m.setTrack slot t = m := by
  have same : (m.setTrack slot t).tracks = m.tracks := by
    apply tracks_ext
    intro other
    by_cases here : other = slot
    · subst here
      rw [track?_setTrack_self, h]
    · exact track?_setTrack_ne m t here
  unfold setTrack at same ⊢
  simp only at same
  rw [same]

theorem mem_occupied {m : Mixer σ} {slot : Slot} {t : Track σ} :
    (slot, t) ∈ m.occupied ↔ m.track? slot = some t := by
  simp only [occupied, List.mem_filterMap, Option.map_eq_some_iff, Prod.mk.injEq]
  constructor
  · rintro ⟨_, -, _, found, rfl, rfl⟩
    exact found
  · intro found
    exact ⟨slot, Slot.mem_all slot, t, found, rfl, rfl⟩

theorem mem_enabledTracks {m : Mixer σ} {slot : Slot} {t : Track σ} :
    (slot, t) ∈ m.enabledTracks ↔ m.track? slot = some t ∧ t.enabled = true := by
  simp only [enabledTracks, List.mem_filter, mem_occupied]

theorem isEnabled_eq_true {m : Mixer σ} {slot : Slot} :
    m.isEnabled slot = true ↔ ∃ t, m.track? slot = some t ∧ t.enabled = true := by
  unfold isEnabled
  cases found : m.track? slot with
  | none => simp
  | some t => simp

/-- The slots of the enabled tracks, in ascending order. -/
theorem map_fst_enabledTracks (m : Mixer σ) :
    m.enabledTracks.map Prod.fst = Slot.all.filter m.isEnabled := by
  unfold enabledTracks occupied
  induction Slot.all with
  | nil => rfl
  | cons slot rest ih =>
    rw [List.filterMap_cons, List.filter_cons]
    cases found : m.track? slot with
    | none => simpa [isEnabled, found] using ih
    | some t =>
      by_cases enabled : t.enabled = true
      · simpa [isEnabled, found, enabled] using ih
      · simpa [isEnabled, found, enabled] using ih

/-- No two enabled tracks share a slot. -/
theorem nodup_enabledTracks (m : Mixer σ) : (m.enabledTracks.map Prod.fst).Nodup := by
  rw [map_fst_enabledTracks]
  exact Slot.nodup_all.filter _

theorem trackMask_bit {m : Mixer σ} {slot : Slot} :
    m.trackMask &&& slot.bit ≠ 0 ↔ (m.track? slot).isSome = true := by
  have fold : m.trackMask = (m.occupied.map Prod.fst).foldl (fun mask s => mask ||| s.bit) 0 := by
    rw [List.foldl_map]
    rfl
  rw [fold, Slot.fold_bits_ne_zero]
  simp [mem_occupied, Option.isSome_iff_exists]

theorem enabledMask_bit {m : Mixer σ} {slot : Slot} :
    m.enabledMask &&& slot.bit ≠ 0 ↔ m.isEnabled slot = true := by
  have fold : m.enabledMask =
      (m.enabledTracks.map Prod.fst).foldl (fun mask s => mask ||| s.bit) 0 := by
    rw [List.foldl_map]
    rfl
  rw [fold, Slot.fold_bits_ne_zero, map_fst_enabledTracks, List.mem_filter]
  simp [Slot.mem_all]

end Mixer

end Mixdown
