import Mathlib.Logic.Function.Iterate
import Mixdown.Proofs.Bounds.Resampling
import Mixdown.Proofs.Resampler.Interpolation
import Mixdown.Provider.Source

/-!
# A resampler round by round

A call for frames is a loop, each round of which produces a frame or asks the provider for input.
At any rates the position may run ahead of what is staged, as far as a step goes, and is caught up
with in many small requests. `Seated` is what every round keeps, whatever the provider answers, and
`Sound` what follows for the round to come: where there is a frame to produce only staged samples
are read, and where there is none some room is left to ask for, and the frames that are granted are
missing no more. So every call ends.
-/

namespace Mixdown

namespace Resampler

/-- Where a call for frames stands. -/
structure Loop (σ : Type) where
  /-- The frames that are still to be produced. -/
  left : Nat
  /-- The frames that were produced. -/
  made : List (List Float32)
  resampler : Resampler
  source : σ

section Loops

variable {σ : Type} [Provider σ]

namespace Loop

/-- The start of a call for up to `frames` frames that fit into `room` samples. -/
def start (r : Resampler) (frames room : Nat) (source : σ) : Loop σ :=
  ⟨min frames (room / r.channels), [], r, source⟩

/-- One round. No frames are left to be produced once a request brought nothing, and then nothing
happens any more. -/
def round (pts : Option Int) (l : Loop σ) : Loop σ :=
  match l.left with
  | 0 => l
  | left + 1 =>
    if l.resampler.ready then
      { l with left, made := l.made ++ [l.resampler.frame], resampler := l.resampler.step }
    else
      match l.resampler.fill l.source (stampAfter pts l.resampler.outputRate l.made.length) with
      | (true, resampler, source) => { l with resampler, source }
      | (false, resampler, source) => { l with left := 0, resampler, source }

end Loop

/-- The rounds of a call come to the end that was computed. -/
theorem Produces.rounds {pts : Option Int} {left done : Nat} {r r' : Resampler} {s s' : σ}
    {frames : List (List Float32)} (produces : Produces pts left done r s frames r' s')
    {made : List (List Float32)} (count : made.length = done) :
    ∃ n, (Loop.round pts)^[n] ⟨left, made, r, s⟩ = ⟨0, made ++ frames, r', s'⟩ := by
  induction produces generalizing made with
  | finished done r s => exact ⟨0, by rw [List.append_nil]; rfl⟩
  | @frame left done r r' s s' more ready later ih =>
    obtain ⟨n, rest⟩ := ih (show (made ++ [r.frame]).length = done + 1 by simp [count])
    refine ⟨n + 1, ?_⟩
    rw [Function.iterate_succ_apply]
    have next : Loop.round pts ⟨left + 1, made, r, s⟩ = ⟨left, made ++ [r.frame], r.step, s⟩ := by
      simp only [Loop.round, ready, if_true]
    rw [next, rest, List.append_assoc, List.singleton_append]
  | @filled left done r r' r'' s s' s'' frames waiting filled later ih =>
    obtain ⟨n, rest⟩ := ih count
    refine ⟨n + 1, ?_⟩
    rw [Function.iterate_succ_apply]
    have next : Loop.round pts ⟨left + 1, made, r, s⟩ = ⟨left + 1, made, r', s'⟩ := by
      simp only [Loop.round, waiting, count, filled, Bool.false_eq_true, if_false]
    rw [next, rest]
  | @dry left done r r' s s' waiting filled =>
    refine ⟨1, ?_⟩
    simp only [Function.iterate_one, Loop.round, waiting, count, filled, Bool.false_eq_true,
      if_false, List.append_nil]

/-- Every call ends. -/
theorem exists_rounds_eq_resample (r : Resampler) (frames room : Nat) (source : σ)
    (pts : Option Int) : ∃ n, (Loop.round pts)^[n] (.start r frames room source) =
      ⟨0, (r.resample frames room source pts).1, (r.resample frames room source pts).2.1,
        (r.resample frames room source pts).2.2⟩ :=
  (r.resample_produces frames room source pts).rounds rfl

end Loops

/-! ## What every round keeps -/

/-- The position lies behind the history and may be ahead of what is staged. What is staged fits
into the staging buffer, which has room for more than the frames around a position and lies in
memory: its singles take less than `2 ^ 63` bytes. -/
structure Seated (r : Resampler) : Prop where
  channels : 0 < r.channels
  size : r.staging.size = r.capacity * r.channels
  small : 4 * r.staging.size < 0x8000_0000_0000_0000
  roomy : r.quality.history + r.quality.lookahead < r.capacity
  increment : r.increment = phaseIncrement r.inputRate r.outputRate
  fraction : r.fraction < phaseUnit
  history : r.quality.history ≤ r.index
  staged : r.staged ≤ r.capacity

theorem seated_new {quality : Interpolation} {channels maxFrames : Nat}
    {inputRate outputRate : UInt32}
    (fits : 4 * (new quality channels inputRate outputRate maxFrames).staging.size <
      0x8000_0000_0000_0000) : (new quality channels inputRate outputRate maxFrames).Seated := by
  obtain ⟨_, window⟩ := reads_new quality channels inputRate outputRate maxFrames
  exact ⟨window.channels_pos, window.size, fits, window.roomy, window.increment, phaseUnit_pos,
    window.history_le, window.staged_le⟩

namespace Seated

variable {r : Resampler}

theorem setInputRate (seated : r.Seated) (rate : UInt32) : (r.setInputRate rate).Seated :=
  { seated with increment := rfl }

/-- What moves the position and the staged frames only has to keep them in place. -/
theorem of_same {r' : Resampler} (seated : r.Seated) (same : SameSettings r r')
    (size : r'.staging.size = r.staging.size) (fraction : r'.fraction < phaseUnit)
    (history : r.quality.history ≤ r'.index) (staged : r'.staged ≤ r.capacity) : r'.Seated where
  channels := same.channels ▸ seated.channels
  size := by rw [size, same.capacity, same.channels, seated.size]
  small := size ▸ seated.small
  roomy := by
    rw [same.quality, same.capacity]
    exact seated.roomy
  increment := by rw [same.increment, same.inputRate, same.outputRate, seated.increment]
  fraction := fraction
  history := same.quality ▸ history
  staged := same.capacity ▸ staged

theorem reset (seated : r.Seated) : r.reset.Seated := by
  refine seated.of_same ⟨rfl, rfl, rfl, rfl, rfl, rfl⟩ ?_ phaseUnit_pos (Nat.le_refl _) ?_
  · simp only [Resampler.reset, List.size_toArray, length_overlay, Array.length_toList]
  · exact Nat.le_trans (Nat.le_add_right _ _) (Nat.le_of_lt seated.roomy)

theorem compact (seated : r.Seated) : r.compact.Seated := by
  refine seated.of_same (sameSettings_compact r) (size_compact r) seated.fraction ?_ ?_
  · have history := seated.history
    simp only [Resampler.compact]
    omega
  · exact Nat.le_trans (Nat.sub_le _ _) seated.staged

theorem stage (seated : r.Seated) (b : Buffer) : (r.stage b).2.Seated := by
  refine seated.of_same (sameSettings_stage r b) (size_stage r b) seated.fraction seated.history ?_
  have staged := seated.staged
  simp only [Resampler.stage, room]
  omega

theorem step (seated : r.Seated) : r.step.Seated :=
  seated.of_same (sameSettings_step r) rfl (Nat.mod_lt _ phaseUnit_pos)
    (Nat.le_trans seated.history (Nat.le_add_right _ _)) seated.staged

theorem fill {σ : Type} [Provider σ] (seated : r.Seated) (s : σ) (pts : Option Int) :
    (r.fill s pts).2.1.Seated := by
  unfold Resampler.fill
  simp only
  rcases Provider.request s r.compact.room pts with ⟨_ | b, s'⟩
  · exact seated.compact
  · exact seated.compact.stage b

theorem round {σ : Type} [Provider σ] (pts : Option Int) {l : Loop σ}
    (seated : l.resampler.Seated) : (l.round pts).resampler.Seated := by
  obtain ⟨_ | left, made, r, s⟩ := l
  · exact seated
  · have filled := Seated.fill seated s (stampAfter pts r.outputRate made.length)
    unfold Loop.round
    simp only at filled ⊢
    split
    · exact Seated.step seated
    · rcases result : r.fill s (stampAfter pts r.outputRate made.length) with ⟨_ | _, r', s'⟩ <;>
        · rw [result] at filled
          exact filled

theorem rounds {σ : Type} [Provider σ] (pts : Option Int) {l : Loop σ}
    (seated : l.resampler.Seated) (n : Nat) : ((Loop.round pts)^[n] l).resampler.Seated := by
  induction n generalizing l with
  | zero => exact seated
  | succ n ih => exact ih (seated.round pts)

theorem resample {σ : Type} [Provider σ] (seated : r.Seated) (frames room : Nat) (source : σ)
    (pts : Option Int) : (r.resample frames room source pts).2.1.Seated := by
  obtain ⟨n, ended⟩ := exists_rounds_eq_resample r frames room source pts
  have kept := Seated.rounds (l := .start r frames room source) pts seated n
  rwa [ended] at kept

end Seated

/-! ## What the next round does -/

/-- The frames that are missing before the next frame can be produced. -/
def missing (r : Resampler) : Int := r.index + r.quality.lookahead + 1 - r.staged

/-- The resampler with nothing in its staging buffer but the samples of the staged frames. -/
def stagedOnly (r : Resampler) : Resampler :=
  { r with
    staging := (r.staging.toList.take (r.staged * r.channels)).toArray
    capacity := r.staged }

/-- A request for input: the provider is asked for some frames, and those that it grants are
missing no more. It fails if there are none. -/
structure Fills {σ : Type} [Provider σ] (r : Resampler) (source : σ) (pts : Option Int) : Prop where
  history : r.quality.history ≤ r.compact.index
  asked : 1 ≤ r.compact.room
  refused : ∀ source', Provider.request source r.compact.room pts = (none, source') →
    r.fill source pts = (false, r.compact, source') ∧ r.compact.missing = r.missing
  granted : ∀ b source', Provider.request source r.compact.room pts = (some b, source') →
    let taken := min b.frames r.compact.room
    ∃ r' : Resampler, r.fill source pts =
        (decide (0 < taken), r', Provider.release source' taken) ∧
      r'.missing = r.missing - taken

/-- The position and what is staged are in place, and the next round stays within bounds: a frame is
made of staged samples only, the position moves on within 64 bits, and input is asked for in a
request that brings the frame closer or fails. -/
structure Sound (r : Resampler) : Prop where
  history : r.quality.history ≤ r.index
  staged : r.staged ≤ r.capacity
  size : r.staging.size = r.capacity * r.channels
  phase : r.fraction + r.increment < UInt64.size
  reads : r.ready = true → r.stagedOnly.frame? r.channels = some r.frame
  steps : r.ready = true → r.step? = some r.step
  fills : r.ready = false → ∀ (σ : Type) [Provider σ] (source : σ) (pts : Option Int),
    r.Fills source pts

/-- The sum of a fraction and a step stays within 64 bits, whatever the rates. -/
theorem phase_lt {r : Resampler} (increment : r.increment = phaseIncrement r.inputRate r.outputRate)
    (fraction : r.fraction < phaseUnit) : r.fraction + r.increment < UInt64.size := by
  have rate := r.inputRate.toNat_lt
  have slowest : phaseIncrement r.inputRate r.outputRate ≤ r.inputRate.toNat * phaseUnit :=
    Nat.div_le_self _ _
  simp only [phaseUnit, UInt64.size] at *
  omega

theorem missing_compact (r : Resampler) : r.compact.missing = r.missing := by
  have dropped : min (r.index - r.quality.history) r.staged ≤ r.index := by omega
  simp only [missing, compact]
  omega

/-- A sample of a staged frame is one of the staged samples. -/
theorem sample_stagedOnly {r : Resampler} {channel frame : Nat} (inside : frame < r.staged)
    (known : channel < r.channels) :
    r.stagedOnly.sample channel frame = r.sample channel frame := by
  have next : (frame + 1) * r.channels ≤ r.staged * r.channels := Nat.mul_le_mul_right _ inside
  rw [Nat.succ_mul] at next
  have below : frame * r.channels + channel < r.staged * r.channels := by omega
  simp only [sample, stagedOnly, Array.getD_eq_getD_getElem?, List.getElem?_toArray,
    List.getElem?_take, below, if_true, Array.getElem?_toList]

theorem frame_stagedOnly {r : Resampler} (ready : r.ready = true) :
    r.stagedOnly.frame = r.frame := by
  have ahead : r.index + r.quality.lookahead < r.staged := of_decide_eq_true ready
  unfold frame
  apply List.map_congr_left
  intro channel listed
  refine Interpolation.value_congr fun i near => ?_
  exact sample_stagedOnly (Nat.lt_of_le_of_lt near ahead) (List.mem_range.mp listed)

namespace Seated

variable {r : Resampler}

/-- With a frame to produce, the staged samples alone are a staging buffer in its bounds. -/
theorem bounded_stagedOnly (seated : r.Seated) (ready : r.ready = true) :
    ({ r.stagedOnly with increment := 0 } : Resampler).Bounded := by
  have ahead : r.index + r.quality.lookahead < r.staged := of_decide_eq_true ready
  have small := seated.small
  rw [seated.size] at small
  have held : r.staged * r.channels ≤ r.capacity * r.channels :=
    Nat.mul_le_mul_right _ seated.staged
  have wide : r.channels ≤ r.capacity * r.channels :=
    Nat.le_mul_of_pos_left _ (Nat.lt_of_le_of_lt (Nat.zero_le _) seated.roomy)
  refine ⟨⟨seated.fraction, seated.history, ?_, Nat.le_refl _⟩, Nat.zero_le _, seated.channels,
    ?_, ?_⟩
  · exact Nat.le_trans (Nat.le_add_right _ _) (Nat.le_of_lt ahead)
  · show (r.staging.toList.take (r.staged * r.channels)).toArray.size = r.staged * r.channels
    rw [List.size_toArray, List.length_take, Array.length_toList, seated.size, Nat.min_eq_left held]
  · show (r.staged + 2) * r.channels < UInt64.size
    rw [Nat.add_mul]
    simp only [UInt64.size]
    omega

theorem fills (seated : r.Seated) (waiting : r.ready = false) {σ : Type} [Provider σ] (source : σ)
    (pts : Option Int) : r.Fills source pts where
  history := seated.compact.history
  asked := by
    have roomy := seated.roomy
    have staged := seated.staged
    simp only [ready, decide_eq_false_iff_not] at waiting
    simp only [room, Resampler.compact]
    omega
  refused source' answer := by
    refine ⟨?_, r.missing_compact⟩
    simp only [Resampler.fill, answer]
  granted b source' answer := by
    refine ⟨(r.compact.stage b).2, ?_, ?_⟩
    · simp only [Resampler.fill, answer]
      rfl
    · have compacted := r.missing_compact
      simp only [missing, Resampler.stage] at compacted ⊢
      omega

theorem sound (seated : r.Seated) : r.Sound where
  history := seated.history
  staged := seated.staged
  size := seated.size
  phase := phase_lt seated.increment seated.fraction
  reads ready := by
    rw [← frame_stagedOnly ready]
    exact (seated.bounded_stagedOnly ready).frame?_eq ready
  steps ready := by
    have ahead : r.index + r.quality.lookahead < r.staged := of_decide_eq_true ready
    have phase := phase_lt seated.increment seated.fraction
    have staged := seated.staged
    have small := seated.small
    have frames : r.capacity ≤ r.staging.size := by
      rw [seated.size]
      exact Nat.le_mul_of_pos_right _ seated.channels
    have index : r.index + (r.fraction + r.increment) / phaseUnit < UInt64.size := by
      simp only [phaseUnit, UInt64.size] at *
      omega
    simp only [step?, word?_eq phase, word?_eq index, Option.bind_eq_bind, Option.bind_some]
    rfl
  fills waiting _ _ source pts := seated.fills waiting source pts

end Seated

/-! ## Uses of a resampler -/

/-- What is done to a resampler. Every call for frames may bring another provider, in any state. -/
inductive Use : Type 1 where
  | resample {σ : Type} [Provider σ] (frames room : Nat) (source : σ) (pts : Option Int)
  | setInputRate (rate : UInt32)
  | reset

def use (r : Resampler) : Use → Resampler
  | @Use.resample _ _ frames room source pts => (r.resample frames room source pts).2.1
  | .setInputRate rate => r.setInputRate rate
  | .reset => r.reset

def run (r : Resampler) (uses : List Use) : Resampler := uses.foldl use r

theorem Seated.use {r : Resampler} (seated : r.Seated) (u : Use) : (r.use u).Seated := by
  cases u with
  | resample frames room source pts => exact seated.resample frames room source pts
  | setInputRate rate => exact seated.setInputRate rate
  | reset => exact seated.reset

theorem Seated.run {r : Resampler} (seated : r.Seated) (uses : List Use) :
    (r.run uses).Seated := by
  induction uses generalizing r with
  | nil => exact seated
  | cons u uses ih => exact ih (seated.use u)

/-- Whatever is done to a resampler of any rates, it is sound, and so it is in every round of every
call for frames; and every call ends. -/
theorem run_sound {quality : Interpolation} {channels maxFrames : Nat}
    {inputRate outputRate : UInt32}
    (fits : 4 * (new quality channels inputRate outputRate maxFrames).staging.size <
      0x8000_0000_0000_0000) (uses : List Use) :
    let r := (new quality channels inputRate outputRate maxFrames).run uses
    r.Sound ∧ ∀ (σ : Type) [Provider σ] (frames room : Nat) (source : σ) (pts : Option Int),
      (∀ n, ((Loop.round pts)^[n] (.start r frames room source)).resampler.Sound) ∧
      ∃ n, (Loop.round pts)^[n] (.start r frames room source) =
        ⟨0, (r.resample frames room source pts).1, (r.resample frames room source pts).2.1,
          (r.resample frames room source pts).2.2⟩ := by
  intro r
  have seated : r.Seated := (seated_new fits).run uses
  refine ⟨seated.sound, fun σ _ frames room source pts => ⟨fun n => ?_, ?_⟩⟩
  · exact (Seated.rounds (l := .start r frames room source) pts seated n).sound
  · exact exists_rounds_eq_resample r frames room source pts

/-- At seven times the output rate, cubic interpolation of single frames leaves the position ahead
of what is staged, and a provider that grants two frames at a time, claims three and refuses its
third request catches up with it. -/
theorem run_sound_ahead :
    let source : Source := .scripted
      { Script.plain with chunk := some 2, claim := 1, stalls := [2] }
      (.clip (.ofSamples 1 (.float #[0, 0.5, 1]) true))
    let r := (new .cubic 1 7 1 1).run
      [.resample 1 1 source none, .setInputRate 0, .reset, .setInputRate 7,
        .resample 1 1 source (some 0)]
    4 * (new .cubic 1 7 1 1).staging.size < 0x8000_0000_0000_0000 ∧
      r.staged < r.index ∧ r.Sound ∧
      (∀ n, ((Loop.round none)^[n] (.start r 4 4 source)).resampler.Sound) ∧
      ∃ n, (Loop.round none)^[n] (.start r 4 4 source) =
        ⟨0, (r.resample 4 4 source none).1, (r.resample 4 4 source none).2.1,
          (r.resample 4 4 source none).2.2⟩ := by
  intro source r
  have fits : 4 * (new .cubic 1 7 1 1).staging.size < 0x8000_0000_0000_0000 := by decide +kernel
  obtain ⟨sound, calls⟩ := run_sound fits [.resample 1 1 source none, .setInputRate 0, .reset,
    .setInputRate 7, .resample 1 1 source (some 0)]
  exact ⟨fits, by decide +kernel, sound, calls Source 4 4 source none⟩

end Resampler

end Mixdown
