import Mixdown.Proofs.Provider.Moves

/-!
# The loops that call a provider

A reader and a resampler call a provider in a loop. `Pulls` and `Produces` say what such a loop
does, round after round, without a bound on the rounds: a loop that goes on for ever has no
derivation. Every loop ends, whatever its provider answers, and the result is the one computed.
-/

namespace Mixdown

namespace Provider

variable {σ α : Type} [Provider σ]

/-- Reading `left` frames after `done` frames ends with these values and in this state. -/
inductive Pulls (reader : Reader α) (stamp : Nat → Option Int) : (left done : Nat) → σ →
    List α → σ → Prop
  | finished (done : Nat) (s : σ) : Pulls reader stamp 0 done s [] s
  | refused {left done : Nat} {s s' : σ} : 0 < left → request s left (stamp done) = (none, s') →
      Pulls reader stamp left done s [] s'
  | useless {left done released : Nat} {s s' : σ} {b : Buffer} : 0 < left →
      request s left (stamp done) = (some b, s') → reader left b = (released, none) →
      Pulls reader stamp left done s [] (release s' released)
  | stuck {left done : Nat} {s s' : σ} {b : Buffer} {values : List α} : 0 < left →
      request s left (stamp done) = (some b, s') → reader left b = (0, some values) →
      Pulls reader stamp left done s [] (release s' 0)
  | round {left done released : Nat} {s s' s'' : σ} {b : Buffer} {values more : List α} :
      0 < left → request s left (stamp done) = (some b, s') →
      reader left b = (released, some values) → 0 < released →
      Pulls reader stamp (left - released) (done + released) (release s' released) more s'' →
      Pulls reader stamp left done s (values ++ more) s''

/-- A loop that reads `left` frames ends, and `left` rounds are enough for it. -/
theorem pullFrom_pulls (reader : Reader α) (stamp : Nat → Option Int) {fuel left : Nat}
    (enough : left ≤ fuel) (done : Nat) (s : σ) :
    Pulls reader stamp left done s (pullFrom reader stamp fuel left done s).1
      (pullFrom reader stamp fuel left done s).2 := by
  -- a round that goes on has let a frame go, so fewer are left
  induction fuel generalizing left done s with
  | zero =>
    obtain rfl := Nat.le_zero.mp enough
    exact .finished done s
  | succ fuel ih =>
    unfold pullFrom
    by_cases none_left : left = 0
    · subst none_left
      exact .finished done s
    · have pos := Nat.pos_of_ne_zero none_left
      rw [if_neg none_left]
      rcases asked : request s left (stamp done) with ⟨_ | b, s'⟩
      · exact .refused pos asked
      · simp only
        rcases made : reader left b with ⟨released, _ | values⟩
        · exact .useless pos asked made
        · simp only
          by_cases nothing : released = 0
          · subst nothing
            exact .stuck pos asked made
          · rw [if_neg nothing]
            have released_pos := Nat.pos_of_ne_zero nothing
            exact .round pos asked made released_pos
              (ih (by omega) (done + released) (release s' released))

theorem pull_pulls (reader : Reader α) (stamp : Nat → Option Int) (frames : Nat) (s : σ) :
    Pulls reader stamp frames 0 s (pull reader stamp frames s).1 (pull reader stamp frames s).2 :=
  pullFrom_pulls reader stamp (Nat.le_refl frames) 0 s

end Provider

namespace Resampler

variable {σ : Type} [Provider σ]

/-- Producing `left` frames after `done` frames ends with these frames and in these states. A round
produces a frame, or else asks the provider for input. -/
inductive Produces (pts : Option Int) : (left done : Nat) → Resampler → σ →
    List (List Float32) → Resampler → σ → Prop
  | finished (done : Nat) (r : Resampler) (s : σ) : Produces pts 0 done r s [] r s
  | frame {left done : Nat} {r r' : Resampler} {s s' : σ} {more : List (List Float32)} :
      r.ready = true → Produces pts left (done + 1) r.step s more r' s' →
      Produces pts (left + 1) done r s (r.frame :: more) r' s'
  | filled {left done : Nat} {r r' r'' : Resampler} {s s' s'' : σ}
      {frames : List (List Float32)} : r.ready = false →
      r.fill s (stampAfter pts r.outputRate done) = (true, r', s') →
      Produces pts (left + 1) done r' s' frames r'' s'' →
      Produces pts (left + 1) done r s frames r'' s''
  | dry {left done : Nat} {r r' : Resampler} {s s' : σ} : r.ready = false →
      r.fill s (stampAfter pts r.outputRate done) = (false, r', s') →
      Produces pts (left + 1) done r s [] r' s'

/-- The frames that have to be staged before the next frame can be produced. -/
def distance (r : Resampler) : Nat := r.index + r.quality.lookahead + 1 - r.staged

theorem ready_eq_true_iff {r : Resampler} : r.ready = true ↔ r.distance = 0 := by
  unfold ready distance
  rw [decide_eq_true_iff]
  omega

/-- A fill that gets something brings the next frame closer. -/
theorem fill_distance {r r' : Resampler} {s s' : σ} {pts : Option Int} (waiting : r.ready = false)
    (filled : r.fill s pts = (true, r', s')) : r'.distance < r.distance := by
  have far : r.staged ≤ r.index + r.quality.lookahead := by simpa [ready] using waiting
  unfold fill at filled
  simp only at filled
  rcases asked : Provider.request s r.compact.room pts with ⟨_ | b, s₁⟩
  · rw [asked] at filled
    nomatch filled
  · rw [asked] at filled
    obtain ⟨granted, moved⟩ := Prod.mk.inj filled
    obtain ⟨rfl, -⟩ := Prod.mk.inj moved
    have some_frames : 0 < (r.compact.stage b).1 := of_decide_eq_true granted
    have behind : min (r.index - r.quality.history) r.staged ≤ r.staged := Nat.min_le_right _ _
    simp only [stage, compact, distance] at some_frames ⊢
    omega

/-- Filling for the next frame is some rounds of the loop that produces frames. -/
theorem fillFor_produces (pts : Option Int) (left done : Nat) {fuel : Nat} {r : Resampler}
    (enough : r.distance ≤ fuel) (s : σ) :
    match fillFor (stampAfter pts r.outputRate done) fuel r s with
    | (true, r', s') => r'.ready = true ∧ ∀ frames r'' s'',
        Produces pts (left + 1) done r' s' frames r'' s'' →
          Produces pts (left + 1) done r s frames r'' s''
    | (false, r', s') => Produces pts (left + 1) done r s [] r' s' := by
  induction fuel generalizing r s with
  | zero =>
    have ready : r.ready = true := ready_eq_true_iff.mpr (Nat.le_zero.mp enough)
    simp only [fillFor, ready]
    exact ⟨trivial, fun _ _ _ later => later⟩
  | succ fuel ih =>
    unfold fillFor
    by_cases ready : r.ready = true
    · rw [if_pos ready]
      exact ⟨ready, fun _ _ _ later => later⟩
    · rw [if_neg ready]
      have waiting : r.ready = false := by simpa using ready
      have settings := sameSettings_fill r s (stampAfter pts r.outputRate done)
      rcases filled : r.fill s (stampAfter pts r.outputRate done) with ⟨_ | _, r', s'⟩
      · exact .dry waiting filled
      · rw [filled] at settings
        have rate : r'.outputRate = r.outputRate := settings.outputRate
        have closer := fill_distance waiting filled
        have rest := ih (r := r') (by omega) s'
        rw [rate] at rest
        simp only
        rcases later : fillFor (stampAfter pts r.outputRate done) fuel r' s' with ⟨_ | _, r₁, s₁⟩
        · rw [later] at rest
          exact .filled waiting filled rest
        · rw [later] at rest
          exact ⟨rest.1, fun frames r'' s'' last =>
            .filled waiting filled (rest.2 frames r'' s'' last)⟩

/-- The loop that produces `left` frames ends. -/
theorem produce_produces (pts : Option Int) (left done : Nat) (r : Resampler) (s : σ) :
    Produces pts left done r s (produce pts left done r s).1 (produce pts left done r s).2.1
      (produce pts left done r s).2.2 := by
  induction left generalizing done r s with
  | zero => exact .finished done r s
  | succ left ih =>
    unfold produce
    simp only
    have filling := fillFor_produces pts left done (Nat.le_refl r.distance) s
    unfold distance at filling
    rcases result : fillFor (stampAfter pts r.outputRate done)
      (r.index + r.quality.lookahead + 1 - r.staged) r s with ⟨_ | _, r', s'⟩
    · rw [result] at filling
      exact filling
    · rw [result] at filling
      exact filling.2 _ _ _ (.frame filling.1 (ih (done + 1) r'.step s'))

theorem resample_produces (r : Resampler) (frames room : Nat) (s : σ) (pts : Option Int) :
    Produces pts (min frames (room / r.channels)) 0 r s (r.resample frames room s pts).1
      (r.resample frames room s pts).2.1 (r.resample frames room s pts).2.2 :=
  produce_produces pts _ 0 r s

end Resampler

end Mixdown
