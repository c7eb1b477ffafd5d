import Mathlib.Data.Nat.Find
import Mixdown.Rendering.Timeline
import Mixdown.Scene.Reader

/-!
# Times of a scene in frames

A time in milliseconds becomes the number of the frame that plays at it, kept to 64 bits. Up to the
last time whose frame number fits, the frames are in the order of their times, a timeline keeps the
start and the events of its track where the scene has them, and the blocks of a scene are the fewest
that cover its duration. From the first time whose number does not fit on, none of this holds:
frames start again at zero.
-/

namespace Mixdown

/-- The whole frames in `ms` milliseconds at `rate` frames a second, however many they are. -/
def wholeFrames (ms : UInt64) (rate : UInt32) : Nat := ms.toNat * rate.toNat / 1000

section Frames

variable {ms later : UInt64} {rate : UInt32}

theorem msToFrames_eq (fits : wholeFrames ms rate < UInt64.size) :
    msToFrames ms rate = wholeFrames ms rate := Nat.mod_eq_of_lt fits

theorem wholeFrames_mono (le : ms ≤ later) (rate : UInt32) :
    wholeFrames ms rate ≤ wholeFrames later rate :=
  Nat.div_le_div_right (Nat.mul_le_mul_right _ (UInt64.le_iff_toNat_le.mp le))

/-- As long as the frame of the later time fits into 64 bits, frames are in the order of times. -/
theorem msToFrames_mono (le : ms ≤ later) (fits : wholeFrames later rate < UInt64.size) :
    msToFrames ms rate ≤ msToFrames later rate := by
  have mono := wholeFrames_mono le rate
  rw [msToFrames_eq fits, msToFrames_eq (Nat.lt_of_le_of_lt mono fits)]
  exact mono

/-- A millisecond is less than `2 ^ 32` frames. -/
theorem wholeFrames_succ_lt {n : Nat} (small : n + 1 < UInt64.size) (rate : UInt32) :
    wholeFrames (.ofNat (n + 1)) rate < wholeFrames (.ofNat n) rate + UInt32.size := by
  have bound := rate.toNat_lt
  unfold wholeFrames
  rw [UInt64.toNat_ofNat_of_lt' small, UInt64.toNat_ofNat_of_lt' (Nat.lt_of_succ_lt small),
    Nat.succ_mul]
  simp only [UInt32.size]
  omega

/-- The first time whose frame does not fit comes before the millisecond before it. -/
theorem msToFrames_overtakes (beyond : UInt64.size ≤ wholeFrames later rate) :
    ∃ first next, first ≤ next ∧ next ≤ later ∧ msToFrames next rate < msToFrames first rate := by
  have exceeds : ∃ n, UInt64.size ≤ wholeFrames (.ofNat n) rate :=
    ⟨later.toNat, by rwa [UInt64.ofNat_toNat]⟩
  obtain ⟨n, passed, before⟩ : ∃ n, UInt64.size ≤ wholeFrames (.ofNat n) rate ∧
      ∀ k < n, wholeFrames (.ofNat k) rate < UInt64.size :=
    ⟨Nat.find exceeds, Nat.find_spec exceeds,
      fun k less => Nat.not_le.mp (Nat.find_min exceeds less)⟩
  have le : n ≤ later.toNat := by
    by_contra past
    have early := before _ (Nat.not_le.mp past)
    rw [UInt64.ofNat_toNat] at early
    exact absurd beyond (Nat.not_le.mpr early)
  obtain ⟨k, rfl⟩ : ∃ k, n = k + 1 := by
    refine Nat.exists_eq_succ_of_ne_zero ?_
    rintro rfl
    simp [wholeFrames] at passed
  have small : k + 1 < UInt64.size := Nat.lt_of_le_of_lt le later.toNat_lt
  have fits := before k (Nat.lt_succ_self k)
  have near := wholeFrames_succ_lt small rate
  have wrapped : msToFrames (.ofNat (k + 1)) rate =
      wholeFrames (.ofNat (k + 1)) rate - UInt64.size := by
    show wholeFrames (.ofNat (k + 1)) rate % UInt64.size = _
    rw [Nat.mod_eq_sub_mod passed, Nat.mod_eq_of_lt]
    simp only [UInt64.size, UInt32.size] at *
    omega
  refine ⟨.ofNat k, .ofNat (k + 1), ?_, ?_, ?_⟩
  · rw [UInt64.le_iff_toNat_le, UInt64.toNat_ofNat_of_lt' small,
      UInt64.toNat_ofNat_of_lt' (Nat.lt_of_succ_lt small)]
    exact Nat.le_succ k
  · rw [UInt64.le_iff_toNat_le, UInt64.toNat_ofNat_of_lt' small]
    exact le
  · rw [wrapped, msToFrames_eq fits]
    simp only [UInt64.size, UInt32.size] at *
    omega

/-- Frames are in the order of times up to a last time exactly if its frame fits into 64 bits. -/
theorem msToFrames_mono_iff : (∀ first next, first ≤ next → next ≤ later →
      msToFrames first rate ≤ msToFrames next rate) ↔
    wholeFrames later rate < UInt64.size := by
  constructor
  · intro ordered
    by_contra beyond
    obtain ⟨first, next, order, inside, overtaken⟩ := msToFrames_overtakes (Nat.not_lt.mp beyond)
    exact absurd (ordered first next order inside) (Nat.not_le.mpr overtaken)
  · intro fits first next order inside
    exact msToFrames_mono order (Nat.lt_of_le_of_lt (wholeFrames_mono inside rate) fits)

/-- The frame that plays `ms` milliseconds after the start: it has begun, and the next one has
not. -/
def PlaysAfter (ms : UInt64) (rate : UInt32) (frame : Nat) : Prop :=
  frame * 1000 ≤ ms.toNat * rate.toNat ∧ ms.toNat * rate.toNat < (frame + 1) * 1000

theorem playsAfter_msToFrames (fits : wholeFrames ms rate < UInt64.size) :
    PlaysAfter ms rate (msToFrames ms rate) := by
  rw [msToFrames_eq fits]
  unfold PlaysAfter wholeFrames
  omega

end Frames

/-! ## Timelines -/

/-- A timeline keeps to the times of its track: the start and all the events are at the frames that
play then, and none comes before what the scene has before it, though they may share a frame. -/
structure Timeline.Punctual (t : Timeline) (spec : TrackSpec) (rate : UInt32) : Prop where
  start : PlaysAfter spec.startMs rate t.startFrame
  events : ∀ e ∈ t.pending, PlaysAfter e.event.atMs rate e.frame
  all : (t.pending.map TimedEvent.event).Perm spec.events
  inOrder : t.pending.Pairwise fun a b => a.frame ≤ b.frame ∧
    (b.event.atMs < a.event.atMs → a.frame = b.frame)
  aroundStart : ∀ e ∈ t.pending, (spec.startMs ≤ e.event.atMs → t.startFrame ≤ e.frame) ∧
    (e.event.atMs ≤ spec.startMs → e.frame ≤ t.startFrame)

/-- A timeline is punctual if all frames of its track fit into 64 bits. -/
theorem Timeline.punctual_ofSpec {spec : TrackSpec} {rate : UInt32} {last : UInt64} (slot : Slot)
    (fits : wholeFrames last rate < UInt64.size) (starts : spec.startMs ≤ last)
    (happen : ∀ event ∈ spec.events, event.atMs ≤ last) :
    (ofSpec slot spec rate).Punctual spec rate := by
  have soon {ms : UInt64} (le : ms ≤ last) : wholeFrames ms rate < UInt64.size :=
    Nat.lt_of_le_of_lt (wholeFrames_mono le rate) fits
  have sorted : (ofSpec slot spec rate).pending.Perm
      (spec.events.map fun event => ⟨msToFrames event.atMs rate, event⟩) :=
    List.mergeSort_perm _ _
  have timed : ∀ e ∈ (ofSpec slot spec rate).pending,
      e.event.atMs ≤ last ∧ e.frame = msToFrames e.event.atMs rate := by
    intro e listed
    obtain ⟨event, given, rfl⟩ := List.mem_map.mp (sorted.mem_iff.mp listed)
    exact ⟨happen event given, rfl⟩
  have ordered : (ofSpec slot spec rate).pending.Pairwise fun a b => a.frame ≤ b.frame := by
    refine (List.pairwise_mergeSort (fun a b c => ?_) (fun a b => ?_) _).imp ?_
    · simpa using Nat.le_trans
    · simpa using Nat.le_total a.frame b.frame
    · simp
  refine ⟨playsAfter_msToFrames (soon starts), ?_, ?_, ?_, ?_⟩
  · intro e listed
    obtain ⟨inside, frame⟩ := timed e listed
    rw [frame]
    exact playsAfter_msToFrames (soon inside)
  · simpa [List.map_map, Function.comp_def] using sorted.map TimedEvent.event
  · refine ordered.imp_of_mem ?_
    intro a b first second before
    obtain ⟨inside, frame⟩ := timed a first
    obtain ⟨_, frame'⟩ := timed b second
    refine ⟨before, fun overtaken => Nat.le_antisymm before ?_⟩
    rw [frame, frame']
    exact msToFrames_mono (UInt64.le_of_lt overtaken) (soon inside)
  · intro e listed
    obtain ⟨inside, frame⟩ := timed e listed
    rw [frame]
    exact ⟨fun le => msToFrames_mono le (soon inside), fun le => msToFrames_mono le (soon starts)⟩

/-! ## Scenes that were read -/

namespace Json

theorem count?_lt {j : Json} {n : Nat} (read : j.count? = some n) : n < UInt64.size := by
  unfold count? natural? at read
  split at read
  · split at read
    · split at read
      · rename_i small
        exact Option.some.inj read ▸ small
      · cases read
    · cases read
  · cases read

/-- What holds of the values that are read and of the one for a missing field holds of a field. -/
theorem Record.field?_spec {α : Type} {r : Record} {name : String} {decode : Json → Option α}
    {missing value : α} {P : α → Prop} (decoded : ∀ j a, decode j = some a → P a)
    (standard : P missing) (read : r.field? name decode missing = some value) : P value := by
  unfold field? at read
  split at read
  · exact decoded _ _ read
  · exact Option.some.inj read ▸ standard

end Json

theorem Settings.frameCount_lt_of_ofJson? {j : Json} {settings : Settings}
    (read : ofJson? j = some settings) : settings.frameCount < UInt64.size := by
  unfold ofJson? at read
  simp only [Option.bind_eq_bind, Option.bind_eq_some_iff, Option.some.injEq] at read
  obtain ⟨r, -, count, found, _, -, _, -, _, -, _, -, _, -, _, -, _, -, _, -, rfl⟩ := read
  exact Json.Record.field?_spec (P := (· < UInt64.size)) (fun _ _ => Json.count?_lt) (by decide)
    found

namespace Scene

variable {text : String} {scene : Scene}

/-- The settings of a scene that was read are usable, and a block is no longer than 64 bits say. -/
theorem parse_settings (parsed : parse text = .ok scene) :
    scene.settings.fault? = none ∧ scene.settings.frameCount < UInt64.size := by
  unfold parse at parsed
  split at parsed
  · cases parsed
  · rename_i read
    split at parsed
    · cases parsed
    · rename_i sound
      obtain rfl := Except.ok.inj parsed
      obtain ⟨j, -, read⟩ := Option.bind_eq_some_iff.mp read
      unfold ofJson? at read
      simp only [Option.bind_eq_bind, Option.bind_eq_some_iff, Option.some.injEq] at read
      obtain ⟨r, -, settings, found, _, -, _, -, rfl⟩ := read
      refine ⟨?_, Json.Record.field?_spec (P := fun s : Settings => s.frameCount < UInt64.size)
        (fun _ _ => Settings.frameCount_lt_of_ofJson?) (by decide) found⟩
      unfold fault? at sound
      split at sound
      · cases sound
      · assumption

theorem frameCount_pos (usable : scene.settings.fault? = none) : 0 < scene.settings.frameCount := by
  unfold Settings.fault? at usable
  split at usable
  · cases usable
  · exact Nat.pos_of_ne_zero ‹_›

/-- So many blocks suffice exactly if they hold the frames of the duration. -/
theorem blockCount_le_iff (pos : 0 < scene.settings.frameCount) (blocks : Nat) :
    scene.blockCount ≤ blocks ↔
      msToFrames scene.durationMs scene.settings.sampleRate ≤
        blocks * scene.settings.frameCount := by
  unfold blockCount
  rw [Nat.max_eq_left pos, Nat.div_le_iff_le_mul pos]
  omega

/-- Without its last block, a scene is too short for the frames that are counted. -/
theorem blockCount_mul_lt (pos : 0 < scene.settings.frameCount) :
    scene.blockCount * scene.settings.frameCount <
      msToFrames scene.durationMs scene.settings.sampleRate + scene.settings.frameCount := by
  cases count : scene.blockCount with
  | zero => omega
  | succ before =>
    have short : ¬scene.blockCount ≤ before := by omega
    rw [blockCount_le_iff pos] at short
    rw [Nat.succ_mul]
    omega

/-- Blocks of less than `2 ^ 64` frames cover a duration exactly if its frames fit into 64 bits. -/
theorem covers_iff (pos : 0 < scene.settings.frameCount)
    (small : scene.settings.frameCount < UInt64.size) :
    wholeFrames scene.durationMs scene.settings.sampleRate ≤
        scene.blockCount * scene.settings.frameCount ↔
      wholeFrames scene.durationMs scene.settings.sampleRate < UInt64.size := by
  have short := blockCount_mul_lt pos
  have covered := (blockCount_le_iff pos scene.blockCount).mp (Nat.le_refl _)
  have kept : msToFrames scene.durationMs scene.settings.sampleRate =
      wholeFrames scene.durationMs scene.settings.sampleRate % UInt64.size := rfl
  simp only [UInt64.size] at *
  omega

/-- No fewer blocks cover a duration, whatever its frames. -/
theorem blockCount_le (pos : 0 < scene.settings.frameCount) {blocks : Nat}
    (covers : wholeFrames scene.durationMs scene.settings.sampleRate ≤
      blocks * scene.settings.frameCount) : scene.blockCount ≤ blocks :=
  (blockCount_le_iff pos blocks).mpr (Nat.le_trans (Nat.mod_le _ _) covers)

/-- The times of a scene that was read. They keep their order up to a last one exactly if its frame
fits into 64 bits. If those of a track fit, its timeline keeps to them. The blocks cover the
duration exactly if its frames fit, and never are there more than it needs. -/
theorem parse_keeps_times (parsed : parse text = .ok scene) :
    let rate := scene.settings.sampleRate
    let frames := wholeFrames scene.durationMs rate
    (∀ last, (∀ first next, first ≤ next → next ≤ last →
        msToFrames first rate ≤ msToFrames next rate) ↔ wholeFrames last rate < UInt64.size) ∧
      (∀ spec ∈ scene.tracks, ∀ last, wholeFrames last rate < UInt64.size →
        spec.startMs ≤ last → (∀ event ∈ spec.events, event.atMs ≤ last) →
        ∀ slot, (Timeline.ofSpec slot spec rate).Punctual spec rate) ∧
      (frames ≤ scene.blockCount * scene.settings.frameCount ↔ frames < UInt64.size) ∧
      ∀ blocks, frames ≤ blocks * scene.settings.frameCount → scene.blockCount ≤ blocks := by
  intro rate frames
  obtain ⟨usable, small⟩ := parse_settings parsed
  have pos := frameCount_pos usable
  refine ⟨fun _ => msToFrames_mono_iff, ?_, covers_iff pos small, fun _ => blockCount_le pos⟩
  intro spec _ last fits starts happen slot
  exact Timeline.punctual_ofSpec slot fits starts happen

/-- The last millisecond whose frame fits into 64 bits, at the highest rate: the frame of the
duration is the last one of all. The second of two events is asked for before the start. -/
theorem parse_keeps_times_lastFrame :
    let text := "\x7b\"mixer\": \x7b\"frames\": 9223372036854775808, \"rate\": 4294967295\x7d, " ++
      "\"duration\": 4294967297000, \"tracks\": [\x7b\"source\": \x7b\"file\": " ++
      "\x7b\"path\": \"late.wav\"\x7d\x7d, \"start_ms\": 4294967296999, " ++
      "\"events\": [\x7b\"at_ms\": 4294967297000\x7d, \x7b\"at_ms\": 4294967296998\x7d]\x7d]\x7d"
    ∃ scene spec, parse text = .ok scene ∧ scene.tracks = [spec] ∧
      msToFrames 4294967297000 4294967295 = 18446744073709551615 ∧
      wholeFrames 4294967297000 4294967295 < UInt64.size ∧
      (∀ first next, first ≤ next → next ≤ 4294967297000 →
        msToFrames first 4294967295 ≤ msToFrames next 4294967295) ∧
      (∀ slot, (Timeline.ofSpec slot spec 4294967295).Punctual spec 4294967295) ∧
      scene.blockCount = 2 ∧
      wholeFrames scene.durationMs 4294967295 ≤ 2 * scene.settings.frameCount := by
  intro text
  have read : (parse text).toOption.map (fun scene => (scene.settings.frameCount,
      scene.settings.sampleRate, scene.durationMs, scene.tracks.map fun spec =>
        (spec.startMs, spec.events.map TrackEvent.atMs))) =
      some (9223372036854775808, 4294967295, 4294967297000,
        [(4294967296999, [4294967297000, 4294967296998])]) := by
    decide +kernel
  rcases parsed : parse text with _ | scene
  · rw [parsed] at read
    cases read
  · rw [parsed] at read
    simp only [Except.toOption, Option.map_some, Option.some.injEq, Prod.mk.injEq,
      List.map_eq_singleton_iff] at read
    obtain ⟨size, rate, duration, spec, tracks, starts, events⟩ := read
    have times := parse_keeps_times parsed
    simp only [size, rate, duration, tracks, List.mem_singleton, forall_eq] at times
    obtain ⟨ordered, punctual, covers, fewest⟩ := times
    have fits : wholeFrames 4294967297000 4294967295 < UInt64.size := by decide
    have happen : ∀ event ∈ spec.events, event.atMs ≤ 4294967297000 := by
      intro event listed
      have time := List.mem_map_of_mem (f := TrackEvent.atMs) listed
      rw [events] at time
      simp only [List.mem_cons, List.not_mem_nil, or_false] at time
      rcases time with time | time <;> rw [time] <;> decide
    have enough : scene.blockCount ≤ 2 := fewest 2 (by decide)
    have needed := covers.mpr fits
    have frames : wholeFrames 4294967297000 4294967295 = 18446744073709551615 := by decide
    have count : scene.blockCount = 2 := by omega
    refine ⟨scene, spec, rfl, tracks, by decide, fits, (ordered _).mpr fits, ?_, count, ?_⟩
    · exact punctual _ fits (by rw [starts]; decide) happen
    · rw [duration, size, ← count]
      exact needed

/-- One millisecond on from the last frame that fits into 64 bits at 48000 frames a second: the
frames start again, before the millisecond before it, and one block of 256 frames is counted for a
duration that takes more than `2 ^ 56`. -/
theorem parse_frames_start_again :
    ∃ scene, parse "\x7b\"duration_ms\": 384307168202282326\x7d" = .ok scene ∧
      ¬(∀ first next, first ≤ next →
        msToFrames first scene.settings.sampleRate ≤ msToFrames next scene.settings.sampleRate) ∧
      msToFrames 384307168202282325 scene.settings.sampleRate = 18446744073709551600 ∧
      msToFrames 384307168202282326 scene.settings.sampleRate = 32 ∧
      scene.blockCount = 1 ∧
      wholeFrames scene.durationMs scene.settings.sampleRate = 18446744073709551648 ∧
      ¬wholeFrames scene.durationMs scene.settings.sampleRate ≤
        scene.blockCount * scene.settings.frameCount := by
  have read : (parse "\x7b\"duration_ms\": 384307168202282326\x7d").toOption.map (fun scene =>
      (scene.settings, scene.durationMs)) = some ({}, 384307168202282326) := by
    decide +kernel
  rcases parsed : parse "\x7b\"duration_ms\": 384307168202282326\x7d" with _ | scene
  · rw [parsed] at read
    cases read
  · rw [parsed] at read
    simp only [Except.toOption, Option.map_some, Option.some.injEq, Prod.mk.injEq] at read
    obtain ⟨settings, duration⟩ := read
    have count : scene.blockCount = 1 := by
      unfold blockCount
      rw [settings, duration]
      decide
    have last : msToFrames 384307168202282325 48000 = 18446744073709551600 := by decide
    have next : msToFrames 384307168202282326 48000 = 32 := by decide
    refine ⟨scene, rfl, ?_⟩
    rw [count, settings, duration]
    refine ⟨?_, last, next, rfl, by decide, by decide⟩
    intro ordered
    have kept := ordered 384307168202282325 384307168202282326 (by decide)
    rw [last, next] at kept
    exact absurd kept (by decide)

end Scene

end Mixdown
