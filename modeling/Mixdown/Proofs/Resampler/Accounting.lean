import Mixdown.Proofs.Provider.Protocol
import Mixdown.Proofs.Resampler.Staging

/-!
# The frames that a resampler holds back

A resampler releases frames as it stages them, before its position has passed them. What it was let
go of is what the position has passed, in whole frames, and what is still unreleased. This needs the
position to stay within the staged frames, which it does at steps of up to two frames: a frame is
only produced when the position is two frames short of what is staged.
-/

namespace Mixdown

namespace Call

theorem released_append (calls later : List Call) :
    released (calls ++ later) = released calls + released later := by
  induction calls with
  | nil => simp [released]
  | cons call calls ih =>
    cases call with
    | request asked pts granted => exact ih
    | release frames =>
      simp only [List.cons_append, released, ih]
      omega

end Call

namespace Resampler

/-- The position lies within what is staged. -/
structure Poised (r : Resampler) : Prop where
  fraction : r.fraction < phaseUnit
  history : r.quality.history ≤ r.index
  index : r.index ≤ r.staged
  staged : r.staged ≤ r.capacity

/-- The steps are no longer than those of the highest rate. -/
def Slow (r : Resampler) : Prop := r.increment ≤ maxRateRatio * phaseUnit

theorem poised_new (quality : Interpolation) (channels : Nat) (inputRate outputRate : UInt32)
    (maxFrames : Nat) : (new quality channels inputRate outputRate maxFrames).Poised where
  fraction := phaseUnit_pos
  history := Nat.le_refl _
  index := Nat.le_refl _
  staged := by
    show quality.history ≤ max maxFrames 1 * maxRateRatio + quality.history + quality.lookahead + 1
    omega

namespace Poised

variable {r : Resampler}

theorem reset (poised : r.Poised) : r.reset.Poised where
  fraction := phaseUnit_pos
  history := Nat.le_refl _
  index := Nat.le_refl _
  staged := Nat.le_trans poised.history (Nat.le_trans poised.index poised.staged)

theorem setInputRate (poised : r.Poised) (rate : UInt32) : (r.setInputRate rate).Poised :=
  { poised with }

/-- No more is held back than the buffer has room for behind the history. -/
theorem unreleased_le (poised : r.Poised) : r.unreleased + r.quality.history ≤ r.capacity := by
  have history := poised.history
  have index := poised.index
  have staged := poised.staged
  unfold unreleased
  omega

/-- Dropping the frames behind the position leaves those before it. -/
theorem compact (poised : r.Poised) :
    r.compact.Poised ∧ r.compact.unreleased = r.unreleased := by
  have history := poised.history
  have index := poised.index
  have staged := poised.staged
  refine ⟨⟨poised.fraction, ?_, ?_, ?_⟩, ?_⟩ <;>
    simp only [Resampler.compact, unreleased] <;> omega

/-- What is staged is held back. -/
theorem stage (poised : r.Poised) (b : Buffer) :
    (r.stage b).2.Poised ∧ (r.stage b).2.unreleased = r.unreleased + (r.stage b).1 := by
  have index := poised.index
  have staged := poised.staged
  refine ⟨⟨poised.fraction, poised.history, ?_, ?_⟩, ?_⟩ <;>
    simp only [Resampler.stage, unreleased, room] <;> omega

/-- A step passes over frames that are staged. -/
theorem step (poised : r.Poised) (slow : r.Slow) (ready : r.ready = true) :
    r.step.Poised ∧
      r.unreleased = r.step.unreleased + (r.fraction + r.increment) / phaseUnit := by
  have near : r.index + r.quality.lookahead < r.staged := of_decide_eq_true ready
  have ahead : 1 ≤ r.quality.lookahead := by cases r.quality <;> decide
  have short : (r.fraction + r.increment) / phaseUnit < maxRateRatio + 1 := by
    rw [Nat.div_lt_iff_lt_mul phaseUnit_pos, Nat.succ_mul, Nat.add_comm]
    exact Nat.add_lt_add_of_le_of_lt slow poised.fraction
  have within : r.index + (r.fraction + r.increment) / phaseUnit ≤ r.staged := by
    simp only [maxRateRatio] at short
    omega
  refine ⟨⟨Nat.mod_lt _ phaseUnit_pos, ?_, within, poised.staged⟩, ?_⟩
  · exact Nat.le_trans poised.history (Nat.le_add_right _ _)
  · simp only [Resampler.step, unreleased]
    omega

end Poised

variable {σ : Type} [Provider σ] {chain chain' : Chain (Recorded σ)}

/-- A fill moves the frames that it releases to those that are held back. -/
theorem Poised.fill {r : Resampler} (poised : r.Poised) (chain : Chain (Recorded σ))
    (pts : Option Int) :
    (r.fill chain pts).2.1.Poised ∧ (r.fill chain pts).2.1.fraction = r.fraction ∧
      ∃ calls, chain.Sees calls (r.fill chain pts).2.2 ∧
        Call.released calls + r.unreleased = (r.fill chain pts).2.1.unreleased := by
  obtain ⟨compacted, held⟩ := poised.compact
  obtain ⟨source, handed⟩ := chain.request_handed r.compact.room pts
  have asked : chain.Sees [.request (chain.ask r.compact.room) pts
      ((Provider.request chain.source (chain.ask r.compact.room) pts).1.map Buffer.frames)]
      (Provider.request chain r.compact.room pts).2 := by
    unfold Chain.Sees
    rw [source]
    rfl
  unfold Resampler.fill
  simp only
  rcases answer : Provider.request chain r.compact.room pts with ⟨_ | b, chain'⟩
  · rw [answer] at asked
    exact ⟨compacted, rfl, _, asked, (Nat.zero_add _).trans held.symm⟩
  · rw [answer] at asked
    obtain ⟨staged, held'⟩ := compacted.stage b
    refine ⟨staged, rfl, _, asked.trans (Chain.sees_release chain' _), ?_⟩
    simp only [List.singleton_append, Call.released, held', held]
    omega

/-- In a run of frames, what is released and what was held back before is what is held back after
it and the whole frames that the position has passed. -/
theorem Produces.account {pts : Option Int} {left done : Nat} {r r' : Resampler}
    {frames : List (List Float32)} (produces : Produces pts left done r chain frames r' chain')
    (poised : r.Poised) (slow : r.Slow) :
    r'.Poised ∧ r'.fraction = (r.fraction + frames.length * r.increment) % phaseUnit ∧
      ∃ calls, chain.Sees calls chain' ∧ Call.released calls + r.unreleased =
        r'.unreleased + (r.fraction + frames.length * r.increment) / phaseUnit := by
  induction produces with
  | finished done r chain =>
    rw [List.length_nil, Nat.zero_mul, Nat.add_zero, Nat.mod_eq_of_lt poised.fraction,
      Nat.div_eq_of_lt poised.fraction]
    exact ⟨poised, rfl, [], .refl chain, Nat.zero_add _⟩
  | @frame left done r r' chain chain' more ready later ih =>
    obtain ⟨poised', passed⟩ := poised.step slow ready
    obtain ⟨stays, fraction, calls, saw, account⟩ := ih poised' slow
    have whole : r.fraction + (more.length + 1) * r.increment =
        r.step.fraction + more.length * r.step.increment +
          phaseUnit * ((r.fraction + r.increment) / phaseUnit) := by
      have split := Nat.mod_add_div (r.fraction + r.increment) phaseUnit
      simp only [Resampler.step, Nat.succ_mul]
      omega
    refine ⟨stays, ?_, calls, saw, ?_⟩
    · rw [fraction, List.length_cons, whole, Nat.add_mul_mod_self_left]
    · rw [List.length_cons, whole, Nat.add_mul_div_left _ _ phaseUnit_pos]
      omega
  | @filled left done r r' r'' chain chain' chain'' frames waiting filled later ih =>
    have settings := sameSettings_fill r chain (stampAfter pts r.outputRate done)
    obtain ⟨poised', same, calls, saw, moved⟩ :=
      poised.fill chain (stampAfter pts r.outputRate done)
    rw [filled] at settings poised' same saw moved
    have increment : r'.increment = r.increment := settings.increment
    have slow' : r'.Slow := by
      unfold Slow
      rw [increment]
      exact slow
    obtain ⟨stays, fraction, later, saw', account⟩ := ih poised' slow'
    have same : r'.fraction = r.fraction := same
    rw [same, increment] at fraction account
    refine ⟨stays, fraction, calls ++ later, saw.trans saw', ?_⟩
    rw [Call.released_append]
    have moved : Call.released calls + r.unreleased = r'.unreleased := moved
    omega
  | @dry left done r r' chain chain' waiting filled =>
    obtain ⟨poised', same, calls, saw, moved⟩ :=
      poised.fill chain (stampAfter pts r.outputRate done)
    rw [filled] at poised' same saw moved
    have same : r'.fraction = r.fraction := same
    rw [List.length_nil, Nat.zero_mul, Nat.add_zero, Nat.mod_eq_of_lt poised.fraction,
      Nat.div_eq_of_lt poised.fraction]
    exact ⟨poised', same, calls, saw, moved⟩

end Resampler

end Mixdown
