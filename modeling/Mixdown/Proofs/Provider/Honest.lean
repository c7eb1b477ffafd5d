import Mixdown.Provider.Clip

/-!
# Honest providers

What a reader may rely on when a provider keeps to its declarations. The conditions are on every
state of the type of the provider; `HonestFrom` is about one provider and what becomes of it.
-/

namespace Mixdown

@[simp] theorem length_packed24s (bytes : Array UInt8) :
    (packed24s bytes).length = bytes.size / 3 := by
  simp [packed24s]

namespace Samples

@[simp] theorem length_singles (s : Samples) : s.singles.length = s.size := by
  cases s <;> simp [singles, size]

end Samples

namespace Provider

/-- The declared channels and the declared representation never change. -/
structure Steady (σ : Type) [Provider σ] : Prop where
  channels_request : ∀ (s : σ) frames pts, channels (request s frames pts).2 = channels s
  format_request : ∀ (s : σ) frames pts, format (request s frames pts).2 = format s
  channels_release : ∀ (s : σ) frames, channels (release s frames) = channels s
  format_release : ∀ (s : σ) frames, format (release s frames) = format s

/-- Buffers hold the whole frames that they claim. An empty buffer is allowed. -/
structure Faithful (σ : Type) [Provider σ] : Prop extends Steady σ where
  whole : ∀ (s : σ) frames pts b, (request s frames pts).1 = some b →
    b.frames * channels s ≤ b.samples.size

/-- Buffers hold between one and the requested number of whole frames of the declared channels
in the declared representation. -/
structure Honest (σ : Type) [Provider σ] : Prop extends Faithful σ where
  pos : ∀ (s : σ) frames pts b, (request s frames pts).1 = some b → 0 < b.frames
  le_asked : ∀ (s : σ) frames pts b, (request s frames pts).1 = some b → b.frames ≤ frames
  format_eq : ∀ (s : σ) frames pts b, (request s frames pts).1 = some b →
    b.samples.format = format s

/-- An answer to a request for `asked` frames holds whole frames, at least one and no more than
asked, if it is not a refusal. -/
def Granted (answer : Option Buffer) (asked channels : Nat) (format : SampleFormat) : Prop :=
  ∀ b, answer = some b → 0 < b.frames ∧ b.frames ≤ asked ∧
    b.frames * channels ≤ b.samples.size ∧ b.samples.format = format

variable {σ : Type} [Provider σ]

/-- A provider whose next answer holds whole frames of this kind, or is a refusal. -/
def Grants (s : σ) (channels : Nat) (format : SampleFormat) : Prop :=
  ∀ frames pts, Granted (request s frames pts).1 frames channels format

theorem Honest.grants (honest : Honest σ) (s : σ) : Grants s (channels s) (format s) :=
  fun frames pts b answer => ⟨honest.pos s frames pts b answer,
    honest.le_asked s frames pts b answer, honest.whole s frames pts b answer,
    honest.format_eq s frames pts b answer⟩

end Provider

namespace Clip

@[simp] theorem channels_rewound (clip : Clip) : clip.rewound.channels = clip.channels := by
  unfold rewound; split <;> rfl

@[simp] theorem samples_rewound (clip : Clip) : clip.rewound.samples = clip.samples := by
  unfold rewound; split <;> rfl

@[simp] theorem looping_rewound (clip : Clip) : clip.rewound.looping = clip.looping := by
  unfold rewound; split <;> rfl

theorem position_rewound_le (clip : Clip) : clip.rewound.position ≤ clip.position := by
  unfold rewound
  split
  · exact Nat.zero_le _
  · exact Nat.le_refl _

theorem request_snd (clip : Clip) (frames : Nat) (pts : Option Int) :
    (clip.request frames pts).2 = { clip with lastPts := pts }.rewound := by
  unfold request; simp only; split <;> rfl

/-- A granted buffer is a run of whole frames of the clip. -/
theorem request_some {clip : Clip} {frames : Nat} {pts : Option Int} {b : Buffer}
    (h : (clip.request frames pts).1 = some b) :
    ∃ start, 0 < b.frames ∧ b.frames ≤ frames ∧ start + b.frames ≤ clip.frameCount ∧
      b.samples = clip.frames start (start + b.frames) := by
  unfold request at h
  simp only at h
  split at h
  · simp at h
  · rename_i some_left
    simp only [Option.some.injEq] at h
    subst h
    refine ⟨({ clip with lastPts := pts } : Clip).rewound.position, ?_⟩
    simp only [remaining, frameCount, Clip.frames, channels_rewound, samples_rewound] at some_left ⊢
    exact ⟨Nat.pos_of_ne_zero some_left, Nat.min_le_left _ _, by omega, trivial⟩

/-- The number of samples in whole frames of a clip. -/
theorem size_frames (clip : Clip) (start stop : Nat) (h : stop ≤ clip.frameCount) :
    (clip.frames start stop).size = (stop - start) * clip.channels := by
  have fits : stop * clip.channels ≤ clip.samples.size :=
    Nat.le_trans (Nat.mul_le_mul_right _ h) (Nat.div_mul_le_self _ _)
  unfold Clip.frames
  generalize clip.samples = samples at fits
  cases samples with
  | pcm16 _ | pcm24Packed _ | pcm32 _ | float _ =>
    simp only [Samples.slice, Samples.size, Array.size_extract, Nat.sub_mul] at fits ⊢
    omega

/-- A clip is an honest provider. -/
theorem honest : Provider.Honest Clip where
  channels_request clip frames pts := by
    show (clip.request frames pts).2.channels = clip.channels
    rw [request_snd, channels_rewound]
  format_request clip frames pts := by
    show (clip.request frames pts).2.samples.format = clip.samples.format
    rw [request_snd, samples_rewound]
  channels_release _ _ := rfl
  format_release _ _ := rfl
  whole clip frames pts b h := by
    obtain ⟨start, _, _, fits, samples⟩ := request_some h
    rw [samples, size_frames _ _ _ fits, Nat.add_sub_cancel_left]
    exact Nat.le_refl _
  pos clip frames pts b h := by
    obtain ⟨_, pos, _⟩ := request_some h
    exact pos
  le_asked clip frames pts b h := by
    obtain ⟨_, _, le, _⟩ := request_some h
    exact le
  format_eq clip frames pts b h := by
    obtain ⟨_, _, _, _, samples⟩ := request_some h
    rw [samples]
    exact Samples.format_slice _ _ _

end Clip

end Mixdown
