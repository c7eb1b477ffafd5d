import Mixdown.Proofs.Provider.Honest
import Mixdown.Proofs.Resampler.Staging

/-!
# How readers move a provider

Whatever reads a provider moves it by requests and releases only, so what these keep is kept by
every reader.
-/

namespace Mixdown

namespace Provider

variable {σ : Type} [Provider σ]

/-- The second state is reached from the first by requests and releases. -/
inductive Moves (s : σ) : σ → Prop
  | refl : Moves s s
  | request {s' : σ} (frames : Nat) (pts : Option Int) :
      Moves s s' → Moves s (Provider.request s' frames pts).2
  | release {s' : σ} (frames : Nat) : Moves s s' → Moves s (Provider.release s' frames)

namespace Moves

theorem trans {s s' s'' : σ} (first : Moves s s') (second : Moves s' s'') : Moves s s'' := by
  induction second with
  | refl => exact first
  | request frames pts _ ih => exact .request frames pts ih
  | release frames _ ih => exact .release frames ih

/-- What requests and releases keep is kept. -/
theorem keeps {P : σ → Prop} (request : ∀ s frames pts, P s → P (Provider.request s frames pts).2)
    (release : ∀ s frames, P s → P (Provider.release s frames)) {s s' : σ} (moves : Moves s s')
    (here : P s) : P s' := by
  induction moves with
  | refl => exact here
  | request frames pts _ ih => exact request _ frames pts ih
  | release frames _ ih => exact release _ frames ih

end Moves

/-- A provider that keeps to its declarations from here on, whatever is asked of it and released. -/
def HonestFrom (s : σ) : Prop :=
  ∀ s', Moves s s' →
    channels s' = channels s ∧ format s' = format s ∧ Grants s' (channels s) (format s)

theorem Honest.honestFrom (honest : Honest σ) (s : σ) : HonestFrom s := by
  intro s' moves
  have declares : channels s' = channels s ∧ format s' = format s := by
    refine moves.keeps (P := fun s' => channels s' = channels s ∧ format s' = format s) ?_ ?_
      ⟨rfl, rfl⟩
    · rintro s frames pts ⟨channels, format⟩
      exact ⟨(honest.channels_request s frames pts).trans channels,
        (honest.format_request s frames pts).trans format⟩
    · rintro s frames ⟨channels, format⟩
      exact ⟨(honest.channels_release s frames).trans channels,
        (honest.format_release s frames).trans format⟩
  have grants := honest.grants s'
  rw [declares.1, declares.2] at grants
  exact ⟨declares.1, declares.2, grants⟩

namespace HonestFrom

variable {s s' : σ}

theorem grants (honest : HonestFrom s) : Grants s (channels s) (format s) :=
  (honest s .refl).2.2

theorem moves (honest : HonestFrom s) (moves : Moves s s') : HonestFrom s' := by
  intro s'' later
  obtain ⟨channels, format, -⟩ := honest s' moves
  obtain ⟨channels', format', grants⟩ := honest s'' (moves.trans later)
  refine ⟨channels'.trans channels.symm, format'.trans format.symm, ?_⟩
  rw [channels, format]
  exact grants

end HonestFrom

theorem pullFrom_moves {α : Type} (reader : Reader α) (stamp : Nat → Option Int)
    (fuel left done : Nat) (s : σ) : Moves s (pullFrom reader stamp fuel left done s).2 := by
  induction fuel generalizing left done s with
  | zero => exact .refl
  | succ fuel ih =>
    unfold pullFrom
    split
    · exact .refl
    · have asked : Moves s (request s left (stamp done)).2 := .request left (stamp done) .refl
      rcases result : request s left (stamp done) with ⟨_ | buffer, s'⟩
      · rw [result] at asked
        exact asked
      · rw [result] at asked
        simp only
        rcases reader left buffer with ⟨released, _ | values⟩
        · exact .release released asked
        · simp only
          split
          · exact .release released asked
          · exact .trans (.release released asked) (ih ..)

theorem pull_moves {α : Type} (reader : Reader α) (stamp : Nat → Option Int) (frames : Nat)
    (s : σ) : Moves s (pull reader stamp frames s).2 :=
  pullFrom_moves reader stamp frames frames 0 s

end Provider

namespace Resampler

open Provider (Moves)

variable {σ : Type} [Provider σ]

theorem fill_moves (r : Resampler) (s : σ) (pts : Option Int) : Moves s (r.fill s pts).2.2 := by
  have asked : Moves s (Provider.request s r.compact.room pts).2 := .request _ pts .refl
  unfold fill
  simp only
  rcases result : Provider.request s r.compact.room pts with ⟨_ | buffer, s'⟩
  · rw [result] at asked
    exact asked
  · rw [result] at asked
    exact .release _ asked

theorem fillFor_moves (pts : Option Int) (fuel : Nat) (r : Resampler) (s : σ) :
    Moves s (fillFor pts fuel r s).2.2 := by
  induction fuel generalizing r s with
  | zero => exact .refl
  | succ fuel ih =>
    unfold fillFor
    split
    · exact .refl
    · have filled := r.fill_moves s pts
      rcases result : r.fill s pts with ⟨_ | _, r', s'⟩
      · rw [result] at filled
        exact filled
      · rw [result] at filled
        exact filled.trans (ih r' s')

theorem produce_moves (pts : Option Int) (left done : Nat) (r : Resampler) (s : σ) :
    Moves s (produce pts left done r s).2.2 := by
  induction left generalizing done r s with
  | zero => exact .refl
  | succ left ih =>
    unfold produce
    simp only
    have filled := fillFor_moves (stampAfter pts r.outputRate done)
      (r.index + r.quality.lookahead + 1 - r.staged) r s
    rcases result : fillFor (stampAfter pts r.outputRate done)
      (r.index + r.quality.lookahead + 1 - r.staged) r s with ⟨_ | _, r', s'⟩
    · rw [result] at filled
      exact filled
    · rw [result] at filled
      exact filled.trans (ih (done + 1) r'.step s')

theorem resample_moves (r : Resampler) (frames room : Nat) (s : σ) (pts : Option Int) :
    Moves s (r.resample frames room s pts).2.2 :=
  produce_moves pts _ 0 r s

/-- No more frames are produced than were asked for and fit, and each has a sample for every
channel. -/
theorem produce_frames (pts : Option Int) (left done : Nat) (r : Resampler) (s : σ) :
    (produce pts left done r s).1.length ≤ left ∧
      ∀ frame ∈ (produce pts left done r s).1, frame.length = r.channels := by
  induction left generalizing done r s with
  | zero => exact ⟨Nat.le_refl _, fun _ member => nomatch member⟩
  | succ left ih =>
    unfold produce
    simp only
    have settings := sameSettings_fillFor (stampAfter pts r.outputRate done)
      (r.index + r.quality.lookahead + 1 - r.staged) r s
    rcases result : fillFor (stampAfter pts r.outputRate done)
      (r.index + r.quality.lookahead + 1 - r.staged) r s with ⟨_ | _, r', s'⟩
    · exact ⟨Nat.zero_le _, fun _ member => nomatch member⟩
    · rw [result] at settings
      obtain ⟨short, whole⟩ := ih (done + 1) r'.step s'
      have same : r'.channels = r.channels := settings.channels
      refine ⟨Nat.succ_le_succ short, ?_⟩
      intro frame member
      cases member with
      | head => rw [← same]; simp [Resampler.frame]
      | tail _ later => rw [← same]; exact whole frame later

theorem resample_frames (r : Resampler) (frames room : Nat) (s : σ) (pts : Option Int) :
    (r.resample frames room s pts).1.length ≤ frames ∧
      ∀ frame ∈ (r.resample frames room s pts).1, frame.length = r.channels := by
  obtain ⟨short, whole⟩ := produce_frames pts (min frames (room / r.channels)) 0 r s
  exact ⟨Nat.le_trans short (Nat.min_le_left _ _), whole⟩

end Resampler

end Mixdown
