import Mixdown.Resampler

/-!
# Taping what a reader takes

A `Taped` provider behaves like the one that it wraps and keeps the samples of the frames that its
reader released. `Provider.Hom` says of a map between providers that no reader can tell the two
sides apart, and a resampler is such a reader.
-/

namespace Mixdown

namespace Provider

/-- A map between providers under which they answer and move on alike. -/
structure Hom {σ τ : Type} [Provider σ] [Provider τ] (f : σ → τ) : Prop where
  channels : ∀ s, Provider.channels (f s) = Provider.channels s
  format : ∀ s, Provider.format (f s) = Provider.format s
  request : ∀ s frames pts,
    Provider.request (f s) frames pts =
      ((Provider.request s frames pts).1, f (Provider.request s frames pts).2)
  release : ∀ s frames, Provider.release (f s) frames = f (Provider.release s frames)

end Provider

/-- A provider with the samples of the frames that its reader released. -/
structure Taped (σ : Type) where
  source : σ
  /-- The answers to the requests, the first one first. -/
  answers : List (Option Buffer)
  /-- The released samples as singles, the first one first. -/
  tape : List Float32

namespace Taped

variable {σ : Type} [Provider σ]

/-- A provider that got no call yet. -/
def fresh (source : σ) : Taped σ := ⟨source, [], []⟩

def request (t : Taped σ) (frames : Nat) (pts : Option Int) : Option Buffer × Taped σ :=
  let (buffer, source) := Provider.request t.source frames pts
  (buffer, { t with source, answers := t.answers ++ [buffer] })

/-- The singles of the first `frames` frames of the buffer granted last. -/
def taken (t : Taped σ) (frames : Nat) : List Float32 :=
  match t.answers.getLast? with
  | some (some b) => b.samples.singles.take (frames * Provider.channels t.source)
  | _ => []

def release (t : Taped σ) (frames : Nat) : Taped σ :=
  { t with source := Provider.release t.source frames, tape := t.tape ++ t.taken frames }

instance : Provider (Taped σ) where
  channels t := Provider.channels t.source
  format t := Provider.format t.source
  request := request
  release := release

theorem hom_source : Provider.Hom (Taped.source : Taped σ → σ) where
  channels _ := rfl
  format _ := rfl
  request _ _ _ := rfl
  release _ _ := rfl

end Taped

namespace Resampler

variable {σ τ : Type} [Provider σ] [Provider τ] {f : σ → τ}

theorem fill_map (hom : Provider.Hom f) (r : Resampler) (s : σ) (pts : Option Int) :
    r.fill (f s) pts = ((r.fill s pts).1, (r.fill s pts).2.1, f (r.fill s pts).2.2) := by
  unfold fill
  simp only [hom.request]
  rcases Provider.request s r.compact.room pts with ⟨answer, s'⟩
  cases answer with
  | none => rfl
  | some b => simp only [hom.release]

theorem fillFor_map (hom : Provider.Hom f) (pts : Option Int) (fuel : Nat) (r : Resampler)
    (s : σ) :
    fillFor pts fuel r (f s) =
      ((fillFor pts fuel r s).1, (fillFor pts fuel r s).2.1, f (fillFor pts fuel r s).2.2) := by
  induction fuel generalizing r s with
  | zero => rfl
  | succ fuel ih =>
    unfold fillFor
    split
    · rfl
    · rw [fill_map hom]
      rcases r.fill s pts with ⟨granted, r', s'⟩
      cases granted with
      | true => exact ih r' s'
      | false => rfl

theorem produce_map (hom : Provider.Hom f) (pts : Option Int) (left done : Nat) (r : Resampler)
    (s : σ) :
    produce pts left done r (f s) =
      ((produce pts left done r s).1, (produce pts left done r s).2.1,
        f (produce pts left done r s).2.2) := by
  induction left generalizing done r s with
  | zero => rfl
  | succ left ih =>
    unfold produce
    simp only [fillFor_map hom]
    rcases fillFor (stampAfter pts r.outputRate done)
      (r.index + r.quality.lookahead + 1 - r.staged) r s with ⟨ready, r', s'⟩
    cases ready with
    | true => simp only [ih]
    | false => rfl

/-- A resampler cannot tell providers apart that answer alike. -/
theorem resample_map (hom : Provider.Hom f) (r : Resampler) (frames room : Nat) (s : σ)
    (pts : Option Int) :
    r.resample frames room (f s) pts =
      ((r.resample frames room s pts).1, (r.resample frames room s pts).2.1,
        f (r.resample frames room s pts).2.2) :=
  produce_map hom pts _ 0 r s

end Resampler

end Mixdown
