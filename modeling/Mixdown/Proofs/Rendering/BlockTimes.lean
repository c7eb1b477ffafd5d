import Mathlib.Tactic.FieldSimp
import Mixdown.Proofs.Rendering.MainFile
import Mixdown.Proofs.Rendering.Streaming

/-!
# The times of blocks

A stream and a rendering both give the mixer a time with each block: so many durations of a block,
and that duration is in whole nanoseconds. What it was rounded by adds up from block to block.
`Settings.Drifts` says by how much a time is behind the true start of its block, and from which
block on that is a whole sample period.
-/

namespace Mixdown

/-- A block with the time it is mixed for. -/
def Action.blockTime? {σ : Type} : Action σ → Option (Option Int)
  | .render pts => some pts
  | _ => none

namespace Settings

/-- When a block starts, in nanoseconds. -/
def startTime (s : Settings) (block : Nat) : ℚ :=
  block * s.frameCount * 1_000_000_000 / s.sampleRate.toNat

/-- The time from one frame to the next, in nanoseconds. -/
def samplePeriod (s : Settings) : ℚ := 1_000_000_000 / s.sampleRate.toNat

/-- What the duration of a block in whole nanoseconds leaves out, in parts of a nanosecond of which
there are as many as frames in a second. -/
def loss (s : Settings) : Nat := s.frameCount * 1_000_000_000 % s.sampleRate.toNat

/-- A time that names the first frame of a block, and not the frame before or after it. -/
def Accurate (s : Settings) (block : Nat) (pts : Int) : Prop :=
  |s.startTime block - pts| < s.samplePeriod

/-- The times of blocks that are counted in whole durations: each block adds the loss of one block,
and all is well as long as that is not a sample period altogether. -/
structure Drifts (s : Settings) (block : Nat) (pts : Int) : Prop where
  behind : s.startTime block - pts = block * s.loss / s.sampleRate.toNat
  accurate_iff : s.Accurate block pts ↔ block * s.loss < 1_000_000_000

end Settings

theorem framesToNanos_eq {frames : Nat} {rate : UInt32} (positive : rate ≠ 0)
    (short : frames * 1_000_000_000 < 0x8000_0000_0000_0000) :
    framesToNanos frames rate = (frames * 1_000_000_000 / rate.toNat : Nat) := by
  have wrapped : Int.bmod frames UInt64.size = frames :=
    Int.bmod_eq_of_le (by simp only [UInt64.size]; omega) (by simp only [UInt64.size]; omega)
  have nonzero : rate.toNat ≠ 0 := fun zero => positive (UInt32.toNat_inj.mp zero)
  have rates : max (rate.toNat : Int) 1 = rate.toNat := by omega
  have inside : max (-0x8000_0000_0000_0000) (min 0x7fff_ffff_ffff_ffff
      ((frames : Int) * 1_000_000_000)) = (frames * 1_000_000_000 : Nat) := by
    omega
  unfold framesToNanos
  simp only [wrapped, rates, inside]
  rfl

/-- The exact drift of a time that counts durations in whole nanoseconds. -/
theorem Settings.drifts {s : Settings} (sound : s.fault? = none)
    (short : s.frameCount * 1_000_000_000 < 0x8000_0000_0000_0000) (block : Nat) :
    s.Drifts block (block * framesToNanos s.frameCount s.sampleRate) := by
  have rate := (fault?_eq_none.mp sound).2.1
  have positive : (0 : ℚ) < s.sampleRate.toNat := by
    refine Nat.cast_pos.mpr (Nat.pos_of_ne_zero fun zero => rate (UInt32.toNat_inj.mp zero))
  have rounded : (s.frameCount * 1_000_000_000 : ℚ) =
      s.sampleRate.toNat * (s.frameCount * 1_000_000_000 / s.sampleRate.toNat : Nat) + s.loss := by
    exact_mod_cast (Nat.div_add_mod (s.frameCount * 1_000_000_000) s.sampleRate.toNat).symm
  have behind : s.startTime block - (block * framesToNanos s.frameCount s.sampleRate : Int) =
      block * s.loss / s.sampleRate.toNat := by
    rw [framesToNanos_eq rate short, startTime, mul_assoc, rounded]
    rw [Int.cast_mul, Int.cast_natCast, Int.cast_natCast]
    field_simp
    ring
  refine ⟨behind, ?_⟩
  have late : (0 : ℚ) ≤ block * s.loss / s.sampleRate.toNat := by positivity
  unfold Accurate samplePeriod
  rw [behind, abs_of_nonneg late, div_lt_div_iff_of_pos_right positive]
  exact_mod_cast Iff.rfl

namespace Stream

variable {σ : Type}

/-- The time of the block that the next pull has rendered, if it has one rendered. -/
def blockTime? (s : Stream σ) : Option Int :=
  if s.position < s.blockLength ∨ s.remaining = some 0 then none else some s.nextPts

variable [Provider σ]

/-- The calls that the mixer of a stream gets in the course of some uses: those that are made to it,
and the blocks that pulls have rendered. -/
def calls (s : Stream σ) : List (Use σ) → List (Action σ)
  | [] => []
  | .pull :: uses =>
    (s.blockTime?.map fun pts => .render (some pts)).toList ++ calls s.next.2 uses
  | .configure action _ :: uses => action :: calls { s with mixer := s.mixer.act action } uses

/-- What a pull does to the mixer, and to the time of the next block. -/
theorem next_cases (s : Stream σ) :
    (s.blockTime? = none ∧ s.next.2.mixer = s.mixer ∧ s.next.2.nextPts = s.nextPts) ∨
      s.blockTime? = some s.nextPts ∧ s.next.2.mixer = s.mixer.render (some s.nextPts) ∧
        s.next.2.nextPts = s.nextPts +
          framesToNanos s.mixer.settings.frameCount s.mixer.settings.sampleRate := by
  unfold blockTime? next
  by_cases within : s.position < s.blockLength
  · rw [if_pos (.inl within), if_pos within]
    left
    simp only [true_and]
    split <;> exact ⟨rfl, rfl⟩
  · rw [if_neg within]
    unfold renderBlock?
    by_cases ended : s.remaining = some 0
    · rw [if_pos (.inr ended), if_pos ended]
      exact .inl ⟨rfl, rfl, rfl⟩
    · rw [if_neg (not_or.mpr ⟨within, ended⟩), if_neg ended]
      right
      simp only [true_and]
      split <;> exact ⟨rfl, rfl⟩

/-- The calls are all that happens to the mixer. -/
theorem mixer_run (s : Stream σ) (uses : List (Use σ)) :
    (s.run uses).2.mixer = s.mixer.run (s.calls uses) := by
  induction uses generalizing s with
  | nil => rfl
  | cons use uses ih =>
    cases use with
    | configure action quiet => exact ih { s with mixer := s.mixer.act action }
    | pull =>
      show (s.next.2.run uses).2.mixer = _
      rw [ih, calls]
      rcases s.next_cases with ⟨waits, same, -⟩ | ⟨begins, rendered, -⟩
      · rw [waits, same]
        rfl
      · rw [begins, rendered]
        rfl

/-- The times of the blocks are one duration of a block apart, whatever else is done. -/
theorem blockTime_calls {s : Stream σ} (reachable : s.mixer.Reachable) {uses : List (Use σ)}
    {block : Nat} {pts : Option Int}
    (listed : ((s.calls uses).filterMap Action.blockTime?)[block]? = some pts) :
    pts = some (s.nextPts +
      block * framesToNanos s.mixer.settings.frameCount s.mixer.settings.sampleRate) := by
  induction uses generalizing s block with
  | nil => nomatch listed
  | cons use uses ih =>
    cases use with
    | configure action quiet =>
      have passed : action.blockTime? = none := by
        cases action <;> first | rfl | nomatch quiet
      rw [calls, List.filterMap_cons_none passed] at listed
      rw [ih (s := { s with mixer := s.mixer.act action }) (.act action reachable) listed]
      rw [reachable.wellFormed.settings_act action]
    | pull =>
      rw [calls] at listed
      rcases s.next_cases with ⟨waits, same, time⟩ | ⟨begins, rendered, time⟩
      · rw [waits] at listed
        have later := ih (by rw [same]; exact reachable) listed
        rwa [same, time] at later
      · rw [begins] at listed
        cases block with
        | zero =>
          obtain rfl := Option.some.inj listed
          simp
        | succ block =>
          have reachable' : s.next.2.mixer.Reachable := by
            rw [rendered]
            exact .act (.render _) reachable
          have settings : s.next.2.mixer.settings = s.mixer.settings := by
            rw [rendered]
            exact reachable.wellFormed.settings_act (.render _)
          rw [ih reachable' listed, settings, time]
          push_cast
          congr 1
          ring

end Stream

namespace Rendering

/-- A rendering that has not failed has mixed its last block for the time of that block. -/
theorem blockTime_renderBlock {r : Rendering} (reachable : r.mixer.Reachable) {block : Nat}
    (fine : (r.renderBlock block).failure = none) :
    ∃ m, advanceAll (block * r.mixer.settings.frameCount) r.timelines r.mixer =
        .ok ((r.renderBlock block).timelines, m) ∧
      (r.renderBlock block).mixer = m.render (some (blockTime r.mixer.settings block)) ∧
      (r.renderBlock block).mixer.Reachable ∧
      (r.renderBlock block).mixer.settings = r.mixer.settings := by
  have unfailed : ¬r.failure.isSome = true := by simp [failure_eq_none fine]
  unfold renderBlock at fine ⊢
  rw [if_neg unfailed] at fine ⊢
  simp only at fine ⊢
  cases advanced : advanceAll (block * r.mixer.settings.frameCount) r.timelines r.mixer with
  | error e =>
    rw [advanced] at fine
    nomatch fine
  | ok advance =>
    obtain ⟨timelines, m⟩ := advance
    have keeps := keepsRoutes_advanceAll reachable advanced
    have reachable' := keeps.reached reachable
    exact ⟨m, rfl, rfl, .act (.render _) reachable',
      (reachable'.wellFormed.settings_act (.render _)).trans keeps.settings⟩

theorem reachable_renderBlocks {r : Rendering} (reachable : r.mixer.Reachable) {blocks : Nat}
    (fine : (r.renderBlocks blocks).failure = none) :
    (r.renderBlocks blocks).mixer.Reachable ∧
      (r.renderBlocks blocks).mixer.settings = r.mixer.settings := by
  induction blocks with
  | zero => exact ⟨reachable, rfl⟩
  | succ blocks ih =>
    rw [renderBlocks_succ] at fine ⊢
    obtain ⟨reachable', settings⟩ := ih (failure_eq_none fine)
    obtain ⟨-, -, -, reachable'', settings'⟩ := blockTime_renderBlock reachable' fine
    exact ⟨reachable'', settings'.trans settings⟩

end Rendering

/-- Every time that a mixer is given with a block, in a stream and in a rendering alike, is behind
the true start of the block by one loss for each block before it. It is accurate as long as that is
less than a sample period, and with every block to come only if nothing is lost. -/
theorem Settings.blocks_drift {settings : Settings} (sound : settings.fault? = none)
    (short : settings.frameCount * 1_000_000_000 < 0x8000_0000_0000_0000) :
    (∀ {σ : Type} [Provider σ] {m : Mixer σ}, m.Reachable → m.settings = settings →
      ∀ bus blocks uses, let s := Stream.new m bus blocks
        (s.run uses).2.mixer = m.run (s.calls uses) ∧
          ∀ block pts, ((s.calls uses).filterMap Action.blockTime?)[block]? = some pts →
            ∃ time, pts = some time ∧ settings.Drifts block time) ∧
      (∀ {r : Rendering}, r.mixer.Reachable → r.mixer.settings = settings →
        ∀ block, (r.renderBlocks (block + 1)).failure = none →
          ∃ m time, Rendering.advanceAll (block * settings.frameCount)
              (r.renderBlocks block).timelines (r.renderBlocks block).mixer =
              .ok ((r.renderBlocks (block + 1)).timelines, m) ∧
            (r.renderBlocks (block + 1)).mixer = m.render (some time) ∧
            settings.Drifts block time) ∧
      ((∀ block time, settings.Drifts block time → settings.Accurate block time) ↔
        settings.loss = 0) := by
  refine ⟨?_, ?_, ?_⟩
  · rintro σ _ m reachable rfl bus blocks uses
    refine ⟨(Stream.new m bus blocks).mixer_run uses, ?_⟩
    intro block pts listed
    obtain rfl := Stream.blockTime_calls reachable listed
    exact ⟨_, congrArg some (Int.zero_add _), drifts sound short block⟩
  · rintro r reachable rfl block fine
    rw [Rendering.renderBlocks_succ] at fine ⊢
    obtain ⟨reachable', settings⟩ :=
      Rendering.reachable_renderBlocks reachable (Rendering.failure_eq_none fine)
    obtain ⟨m, advanced, rendered, -⟩ := Rendering.blockTime_renderBlock reachable' fine
    rw [settings] at advanced rendered
    exact ⟨m, _, advanced, rendered, drifts sound short block⟩
  · constructor
    · intro accurate
      -- a loss of one part grows to a sample period within as many blocks as a second has parts
      have late := drifts sound short 1_000_000_000
      have small := late.accurate_iff.mp (accurate _ _ late)
      omega
    · intro lossless block time drifts
      rw [drifts.accurate_iff, lossless, Nat.mul_zero]
      decide

/-- Blocks of 256 frames at 44100 frames a second: the times of the first 34247 blocks are accurate
and those of all later blocks are not. -/
theorem Settings.blocks_drift_discRate :
    let settings : Settings := { sampleRate := 44100 }
    let uses : List (Stream.Use Clip) := List.replicate 513 .pull
    settings.fault? = none ∧
      settings.frameCount * 1_000_000_000 < 0x8000_0000_0000_0000 ∧
      (∃ m : Mixer Clip, m.Reachable ∧ m.settings = settings ∧
        (((Stream.new m 0 none).calls uses).filterMap Action.blockTime?)[1]? =
          some (some 5804988) ∧
        settings.Drifts 1 5804988) ∧
      (∃ r : Rendering, r.mixer.Reachable ∧ r.mixer.settings = settings ∧
        (r.renderBlocks 2).failure = none ∧
        ∃ (m : Mixer Clip) (time : Int), (r.renderBlocks 2).mixer = m.render (some time) ∧
          settings.Drifts 1 time) ∧
      (∀ block time, settings.Drifts block time →
        (settings.Accurate block time ↔ block < 34247)) ∧
      ¬∀ block time, settings.Drifts block time → settings.Accurate block time := by
  intro settings uses
  have sound : settings.fault? = none := by decide
  have short : settings.frameCount * 1_000_000_000 < 0x8000_0000_0000_0000 := by decide
  have loss : settings.loss = 29200 := by decide +kernel
  obtain ⟨m, reachable, same, listed⟩ : ∃ m : Mixer Clip, m.Reachable ∧ m.settings = settings ∧
      (((Stream.new m 0 none).calls uses).filterMap Action.blockTime?)[1]? =
        some (some 5804988) :=
    ⟨_, .new (rfl : Mixer.new settings none = .ok _), rfl, by decide +kernel⟩
  obtain ⟨streams, renders, forever⟩ := blocks_drift sound short
  refine ⟨sound, short, ⟨m, reachable, same, listed, ?_⟩, ?_, ?_, ?_⟩
  · obtain ⟨time, found, drifts⟩ := (streams reachable same 0 none uses).2 1 _ listed
    obtain rfl := Option.some.inj found
    exact drifts
  · let r : Rendering := { mixer := m, timelines := [], bus := 0 }
    have fine : (r.renderBlocks 2).failure = none := rfl
    obtain ⟨m', time, -, rendered, drifts⟩ := renders (r := r) reachable same 1 fine
    exact ⟨r, reachable, same, fine, m', time, rendered, drifts⟩
  · intro block time drifts
    rw [drifts.accurate_iff, loss]
    omega
  · rw [forever, loss]
    decide

/-- At three hundred million frames a second, two frames take six nanoseconds and two thirds, of
which a stream counts six: it is a whole frame behind with the seventh block, whose true start is at
forty nanoseconds. -/
theorem Stream.seventh_block_late :
    let settings : Settings := { frameCount := 2, sampleRate := 300_000_000 }
    ∃ m : Mixer Clip, Mixer.new settings none = .ok m ∧
      settings.frameCount * 1_000_000_000 < 0x8000_0000_0000_0000 ∧
      (((Stream.new m 0 (some 7)).calls (List.replicate 25 .pull)).filterMap
        Action.blockTime?)[6]? = some (some 36) ∧
      ¬settings.Accurate 6 36 := by
  refine ⟨_, rfl, by decide, by decide +kernel, ?_⟩
  have rate : (300_000_000 : UInt32).toNat = 300_000_000 := rfl
  unfold Settings.Accurate Settings.startTime Settings.samplePeriod
  rw [rate]
  norm_num [abs_of_nonneg]

end Mixdown
