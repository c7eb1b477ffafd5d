import Mathlib.Algebra.Ring.Nat
import Mixdown.Proofs.Resampler.Interpolation

/-!
# The life of a resampler

A session is what happens to a resampler from its start, or from its last reset, on: calls for
frames from providers that may refuse or stall at any time, and changes of the input rate. Its
output is the interpolation of what it took, at the sums of the steps that were in force.
-/

namespace Mixdown

/-- The last request was answered with no buffer, or with an empty one. -/
def Taped.Refused {σ : Type} (t : Taped σ) : Prop :=
  ∃ answer, t.answers.getLast? = some answer ∧ ∀ b, answer = some b → b.frames = 0

namespace Resampler

variable {σ : Type} [Provider σ]

/-- A resampler and its provider have moved on: the resampler took `fresh` behind `input`, and
stands at `position`. -/
structure Progress (r : Resampler) (t : Taped σ) (input fresh : List Float32) (position : Nat)
    (r' : Resampler) (t' : Taped σ) : Prop where
  tape : t'.tape = t.tape ++ fresh
  reads : r'.Reads (input ++ fresh) position
  settings : r.SameSettings r'
  channels : Provider.channels t'.source = r'.channels

theorem Progress.refl {r : Resampler} {t : Taped σ} {input : List Float32} {position : Nat}
    (reads : r.Reads input position) (channels : Provider.channels t.source = r.channels) :
    Progress r t input [] position r t :=
  ⟨(List.append_nil _).symm, by rwa [List.append_nil], .refl r, channels⟩

theorem Progress.trans {r r' r'' : Resampler} {t t' t'' : Taped σ}
    {input fresh more : List Float32} {position position' : Nat}
    (first : Progress r t input fresh position r' t')
    (second : Progress r' t' (input ++ fresh) more position' r'' t'') :
    Progress r t input (fresh ++ more) position' r'' t'' := by
  constructor
  · rw [second.tape, first.tape, List.append_assoc]
  · rw [← List.append_assoc]
    exact second.reads
  · exact first.settings.trans second.settings
  · exact second.channels

/-- One request to a taped provider. -/
theorem fill_taped (steady : Provider.Steady σ) (r : Resampler) (t : Taped σ) (pts : Option Int) :
    r.fill t pts =
      match Provider.request t.source r.compact.room pts with
      | (none, s) => (false, r.compact, ⟨s, t.answers ++ [none], t.tape⟩)
      | (some b, s) =>
        (0 < (r.compact.stage b).1, (r.compact.stage b).2,
          ⟨Provider.release s (r.compact.stage b).1, t.answers ++ [some b],
            t.tape ++ b.samples.singles.take
              ((r.compact.stage b).1 * Provider.channels t.source)⟩) := by
  have channels := steady.channels_request t.source r.compact.room pts
  unfold fill
  simp only
  have request : Provider.request t r.compact.room pts =
      ((Provider.request t.source r.compact.room pts).1,
        ⟨(Provider.request t.source r.compact.room pts).2,
          t.answers ++ [(Provider.request t.source r.compact.room pts).1], t.tape⟩) := rfl
  rw [request]
  rcases result : Provider.request t.source r.compact.room pts with ⟨answer, s⟩
  rw [result] at channels
  cases answer with
  | none => rfl
  | some b =>
    simp only [Provider.release, Taped.release, Taped.taken, List.getLast?_append,
      List.getLast?_singleton, Option.some_or, channels]

/-- A request for more frames brings the input on, or was refused. -/
theorem fill_progress (faithful : Provider.Faithful σ) {r : Resampler} {t : Taped σ}
    {input : List Float32} {position : Nat} (reads : r.Reads input position)
    (channels : Provider.channels t.source = r.channels) (waiting : r.ready = false)
    (pts : Option Int) :
    ∃ fresh, Progress r t input fresh position (r.fill t pts).2.1 (r.fill t pts).2.2 ∧
      ((r.fill t pts).1 = true →
        input.length / r.channels < (input ++ fresh).length / r.channels) ∧
      ((r.fill t pts).1 = false → fresh = [] ∧ (r.fill t pts).2.2.Refused) := by
  obtain ⟨dropped, window⟩ := reads
  have compacted := window.compact
  have whole := faithful.whole t.source r.compact.room pts
  have requested := faithful.channels_request t.source r.compact.room pts
  have released := faithful.channels_release (Provider.request t.source r.compact.room pts).2
  rw [fill_taped faithful.toSteady]
  rcases result : Provider.request t.source r.compact.room pts with ⟨answer, s⟩
  rw [result] at whole requested released
  cases answer with
  | none =>
    refine ⟨[], ⟨(List.append_nil _).symm, ?_, sameSettings_compact r, ?_⟩, ?_, ?_⟩
    · rw [List.append_nil]
      exact ⟨_, compacted⟩
    · exact requested.trans channels
    · intro granted
      cases granted
    · intro _
      exact ⟨rfl, none, by simp, by simp⟩
  | some b =>
    have staged := compacted.stage b (by
      rw [(sameSettings_compact r).channels, ← channels]
      exact whole b rfl)
    refine ⟨b.samples.singles.take ((r.compact.stage b).1 * r.channels), ⟨?_, ?_, ?_, ?_⟩, ?_, ?_⟩
    · simp only [channels]
    · exact ⟨_, staged⟩
    · exact (sameSettings_compact r).trans (sameSettings_stage r.compact b)
    · exact ((released _).trans requested).trans channels
    · intro granted
      have before := compacted.frames_eq
      have after := staged.frames_eq
      have more : (r.compact.stage b).2.staged = r.compact.staged + (r.compact.stage b).1 := rfl
      have pos : 0 < (r.compact.stage b).1 := of_decide_eq_true granted
      have quality : (r.compact.stage b).2.quality.history = r.compact.quality.history := rfl
      have same : (r.compact.stage b).2.channels = r.channels := rfl
      rw [same] at after
      simp only [(sameSettings_compact r).channels] at before after ⊢
      omega
    · intro refused
      have none_granted : (r.compact.stage b).1 = 0 := by
        simpa using refused
      have staged_eq : (r.compact.stage b).1 = min b.frames r.compact.room := rfl
      have roomy : 0 < r.compact.room := by
        have index := compacted.index
        have history := compacted.history_le
        have capacity := window.roomy
        simp only [ready, decide_eq_false_iff_not] at waiting
        simp only [room, compact] at history ⊢
        omega
      refine ⟨by rw [none_granted, Nat.zero_mul, List.take_zero], some b, by simp, ?_⟩
      intro b' eq
      obtain rfl := Option.some.inj eq
      omega

theorem Reads.ready_iff {r : Resampler} {input : List Float32} {position : Nat}
    (reads : r.Reads input position) :
    r.ready = true ↔ r.quality.Reached r.channels input position := by
  obtain ⟨_, window⟩ := reads
  exact window.ready_iff

/-- Requests go on until a frame can be produced or the provider refuses. Each granted request
brings the next frame closer, so that `fuel` requests suffice. -/
theorem fillFor_progress (faithful : Provider.Faithful σ) (pts : Option Int) (fuel : Nat)
    {r : Resampler} {t : Taped σ} {input : List Float32} {position : Nat}
    (reads : r.Reads input position) (channels : Provider.channels t.source = r.channels)
    (enough : position / phaseUnit + r.quality.lookahead < input.length / r.channels + fuel) :
    ∃ fresh, Progress r t input fresh position (fillFor pts fuel r t).2.1
        (fillFor pts fuel r t).2.2 ∧
      ((fillFor pts fuel r t).1 = true → (fillFor pts fuel r t).2.1.ready = true) ∧
      ((fillFor pts fuel r t).1 = false →
        (fillFor pts fuel r t).2.1.ready = false ∧ (fillFor pts fuel r t).2.2.Refused) := by
  induction fuel generalizing r t input with
  | zero =>
    have ready : r.ready = true := reads.ready_iff.mpr enough
    refine ⟨[], .refl reads channels, id, ?_⟩
    intro waiting
    rw [fillFor, ready] at waiting
    cases waiting
  | succ fuel ih =>
    unfold fillFor
    cases ready : r.ready with
    | true =>
      refine ⟨[], .refl reads channels, fun _ => ready, ?_⟩
      intro waiting
      cases waiting
    | false =>
      obtain ⟨fresh, progress, closer, refused⟩ :=
        fill_progress faithful reads channels ready pts
      rcases result : r.fill t pts with ⟨granted, r', t'⟩
      rw [result] at progress closer refused
      cases granted with
      | false =>
        obtain ⟨rfl, refusal⟩ := refused rfl
        refine ⟨[], progress, ?_, fun _ => ⟨?_, refusal⟩⟩
        · intro never
          cases never
        · have still := progress.reads.ready_iff
          rw [List.append_nil, progress.settings.quality, progress.settings.channels,
            ← reads.ready_iff, ready] at still
          exact Bool.eq_false_iff.mpr fun h => absurd (still.mp h) (by decide)
      | true =>
        have nearer := closer rfl
        obtain ⟨more, further, done⟩ := ih progress.reads progress.channels (by
          rw [progress.settings.quality, progress.settings.channels]
          omega)
        exact ⟨fresh ++ more, progress.trans further, done⟩

/-- A run of frames: each is the value of the formula on the input that was taken in the end,
and the run is cut short only by a provider that refused while the next frame was not reached. -/
theorem produce_progress (faithful : Provider.Faithful σ) (pts : Option Int) (left done : Nat)
    {r : Resampler} {t : Taped σ} {input : List Float32} {position : Nat}
    (reads : r.Reads input position) (channels : Provider.channels t.source = r.channels) :
    ∃ fresh, Progress r t input fresh
        (position + (produce pts left done r t).1.length * r.increment)
        (produce pts left done r t).2.1 (produce pts left done r t).2.2 ∧
      (∀ n frame, (produce pts left done r t).1[n]? = some frame →
        frame = r.quality.frameAt r.channels (input ++ fresh) (position + n * r.increment) ∧
        r.quality.Reached r.channels (input ++ fresh) (position + n * r.increment)) ∧
      (produce pts left done r t).1.length ≤ left ∧
      ((produce pts left done r t).1.length < left →
        (produce pts left done r t).2.2.Refused ∧
        ¬ r.quality.Reached r.channels (input ++ fresh)
          (position + (produce pts left done r t).1.length * r.increment)) := by
  induction left generalizing done r t input position with
  | zero =>
    refine ⟨[], ?_, ?_, Nat.le_refl _, ?_⟩
    · simpa only [produce, List.length_nil, Nat.zero_mul, Nat.add_zero] using
        Progress.refl reads channels
    · intro n frame found
      simp [produce] at found
    · intro short
      simp [produce] at short
  | succ left ih =>
    obtain ⟨dropped, window⟩ := reads
    have enough : position / phaseUnit + r.quality.lookahead <
        input.length / r.channels + (r.index + r.quality.lookahead + 1 - r.staged) := by
      have frames := window.frames_eq
      have index := window.index
      omega
    obtain ⟨fresh, filled, ready, refused⟩ := fillFor_progress faithful
      (stampAfter pts r.outputRate done) _ ⟨dropped, window⟩ channels enough
    unfold produce
    simp only
    rcases result : fillFor (stampAfter pts r.outputRate done)
      (r.index + r.quality.lookahead + 1 - r.staged) r t with ⟨granted, r', t'⟩
    rw [result] at filled ready refused
    have quality : r'.quality = r.quality := filled.settings.quality
    have same : r'.channels = r.channels := filled.settings.channels
    have step : r'.increment = r.increment := filled.settings.increment
    cases granted with
    | false =>
      obtain ⟨waiting, refusal⟩ := refused rfl
      refine ⟨fresh, ?_, ?_, Nat.zero_le _, ?_⟩
      · simpa only [List.length_nil, Nat.zero_mul, Nat.add_zero] using filled
      · intro n frame found
        simp at found
      · intro _
        refine ⟨refusal, ?_⟩
        have reached := filled.reads.ready_iff
        simp only [waiting, quality, same] at reached
        simpa using reached
    | true =>
      have arrived : r'.ready = true := ready rfl
      have reached := filled.reads.ready_iff.mp arrived
      obtain ⟨dropped', window'⟩ := filled.reads
      have value := window'.frame_eq arrived
      rw [quality, same] at value reached
      have next : r'.step.Reads (input ++ fresh) (position + r'.increment) :=
        ⟨dropped', window'.step⟩
      have fits : Provider.channels t' = r'.step.channels := filled.channels
      obtain ⟨more, moved, values, le, cut⟩ := ih (done + 1) next fits
      have settings := sameSettings_step r'
      rw [settings.increment, step] at moved values cut
      rw [settings.quality, settings.channels, quality, same] at values cut
      rw [List.append_assoc] at values cut
      have shift : ∀ n, position + r.increment + n * r.increment =
          position + (n + 1) * r.increment := by
        intro n
        rw [Nat.succ_mul]
        omega
      simp only [shift] at moved values cut
      refine ⟨fresh ++ more, ?_, ?_, Nat.succ_le_succ le, ?_⟩
      · exact filled.trans ⟨moved.tape, moved.reads, settings.trans moved.settings,
          moved.channels⟩
      · intro n frame found
        cases n with
        | zero =>
          obtain rfl : r'.frame = frame := by simpa using found
          rw [Nat.zero_mul, Nat.add_zero, ← List.append_assoc,
            Interpolation.frameAt_append reached]
          exact ⟨value, reached.append more⟩
        | succ n => exact values n frame (by simpa using found)
      · intro short
        exact cut (Nat.lt_of_succ_lt_succ short)

/-- A call for frames, by what a taped provider shows of it. -/
theorem resample_progress (faithful : Provider.Faithful σ) {r : Resampler} {input : List Float32}
    {position : Nat} (reads : r.Reads input position) (frames room : Nat) (source : σ)
    (pts : Option Int) (fits : Provider.channels source = r.channels) :
    let call := r.resample frames room (Taped.fresh source) pts
    call.2.1.Reads (input ++ call.2.2.tape) (position + call.1.length * r.increment) ∧
      (∀ n frame, call.1[n]? = some frame →
        frame = r.quality.frameAt r.channels (input ++ call.2.2.tape)
          (position + n * r.increment) ∧
        r.quality.Reached r.channels (input ++ call.2.2.tape) (position + n * r.increment)) ∧
      call.1.length ≤ min frames (room / r.channels) ∧
      (call.1.length < min frames (room / r.channels) →
        call.2.2.Refused ∧
        ¬ r.quality.Reached r.channels (input ++ call.2.2.tape)
          (position + call.1.length * r.increment)) := by
  obtain ⟨fresh, progress, values, le, cut⟩ := produce_progress faithful pts
    (min frames (room / r.channels)) 0 reads (t := Taped.fresh source) fits
  have tape : (r.resample frames room (Taped.fresh source) pts).2.2.tape = fresh :=
    progress.tape
  simp only [tape]
  exact ⟨progress.reads, values, le, cut⟩

/-- What happens to a resampler from its start or its last reset on: the interleaved `input` that
it took, the `steps` of the position that were in force as each frame was produced, and the
`output`. Every call for frames may bring another provider, in any state. -/
inductive Session (σ : Type) [Provider σ] :
    Resampler → (input : List Float32) → (steps : List Nat) → (output : List (List Float32)) → Prop
  | start (quality : Interpolation) (channels : Nat) (inputRate outputRate : UInt32)
      (maxFrames : Nat) :
      Session σ (.new quality channels inputRate outputRate maxFrames) [] [] []
  | reset {r : Resampler} {input : List Float32} {steps : List Nat} {output : List (List Float32)} :
      Session σ r input steps output → Session σ r.reset [] [] []
  | setInputRate {r : Resampler} {input : List Float32} {steps : List Nat}
      {output : List (List Float32)} (rate : UInt32) :
      Session σ r input steps output → Session σ (r.setInputRate rate) input steps output
  | resample {r : Resampler} {input : List Float32} {steps : List Nat}
      {output : List (List Float32)} (frames room : Nat) (source : σ) (pts : Option Int) :
      Session σ r input steps output → Provider.channels source = r.channels →
      Session σ (r.resample frames room source pts).2.1
        (input ++ (r.resample frames room (Taped.fresh source) pts).2.2.tape)
        (steps ++ List.replicate (r.resample frames room source pts).1.length
          (phaseIncrement r.inputRate r.outputRate))
        (output ++ (r.resample frames room source pts).1)

/-- What a session keeps: the resampler stands at the sum of the steps, and every frame of the
output is the value of the formula on input that is there. -/
structure Session.Kept (r : Resampler) (input : List Float32) (steps : List Nat)
    (output : List (List Float32)) : Prop where
  reads : r.Reads input steps.sum
  length : output.length = steps.length
  value : ∀ n frame, output[n]? = some frame →
    frame = r.quality.frameAt r.channels input (steps.take n).sum ∧
    r.quality.Reached r.channels input (steps.take n).sum

theorem Session.kept (faithful : Provider.Faithful σ) {r : Resampler} {input : List Float32}
    {steps : List Nat} {output : List (List Float32)} (life : Session σ r input steps output) :
    Session.Kept r input steps output := by
  induction life with
  | start quality channels inputRate outputRate maxFrames =>
    refine ⟨reads_new quality channels inputRate outputRate maxFrames, rfl, ?_⟩
    intro n frame found
    simp at found
  | reset _ ih =>
    refine ⟨ih.reads.reset, rfl, ?_⟩
    intro n frame found
    simp at found
  | setInputRate rate _ ih => exact ⟨ih.reads.setInputRate rate, ih.length, ih.value⟩
  | @resample r input steps output frames room source pts _ fits ih =>
    obtain ⟨reads, values, -, -⟩ :=
      resample_progress faithful ih.reads frames room source pts fits
    have same := resample_map Taped.hom_source r frames room (Taped.fresh source) pts
    have settings := sameSettings_resample r frames room source pts
    have increment : r.increment = phaseIncrement r.inputRate r.outputRate := by
      obtain ⟨_, window⟩ := ih.reads
      exact window.increment
    rw [show (Taped.fresh source).source = source from rfl] at same
    simp only [same] at settings ⊢
    simp only [increment] at reads values
    constructor
    · rw [List.sum_append_nat, List.sum_replicate_nat]
      exact reads
    · rw [List.length_append, List.length_append, List.length_replicate, ih.length]
    · intro n frame found
      rw [settings.quality, settings.channels]
      by_cases early : n < output.length
      · rw [List.getElem?_append_left early] at found
        obtain ⟨value, reached⟩ := ih.value n frame found
        rw [List.take_append_of_le_length (by rw [← ih.length]; exact Nat.le_of_lt early),
          Interpolation.frameAt_append reached]
        exact ⟨value, reached.append _⟩
      · have late : output.length ≤ n := Nat.le_of_not_lt early
        rw [List.getElem?_append_right late] at found
        have inside := (List.getElem?_eq_some_iff.mp found).1
        have place : (List.take n (steps ++ List.replicate
            (r.resample frames room (Taped.fresh source) pts).1.length
            (phaseIncrement r.inputRate r.outputRate))).sum =
            steps.sum + (n - output.length) * phaseIncrement r.inputRate r.outputRate := by
          rw [List.take_append, List.take_of_length_le (by rw [← ih.length]; exact late),
            List.take_replicate, List.sum_append_nat, List.sum_replicate_nat, ← ih.length,
            Nat.min_eq_left (Nat.le_of_lt inside)]
        rw [place]
        exact values _ frame found

theorem prefix_values {quality : Interpolation} {channels : Nat} {input input' : List Float32}
    {position : Nat} (common : input <+: input' ∨ input' <+: input)
    (reached : quality.Reached channels input position)
    (reached' : quality.Reached channels input' position) :
    quality.frameAt channels input position = quality.frameAt channels input' position := by
  rcases common with ⟨more, rfl⟩ | ⟨more, rfl⟩
  · exact (Interpolation.frameAt_append reached more).symm
  · exact Interpolation.frameAt_append reached' more

/-- A resampler computes the reference interpolation of its input. In every session, frame `n` of
the output is the value of the formula on the input at the sum of the first `n` steps. A further
call gives as many frames as were asked for and fit, unless the provider refused while the input
did not reach to the next frame. Two sessions over one stream that agree on the first `n` steps
agree on frame `n`, however their input came and their output was asked for. -/
theorem Session.interpolates (faithful : Provider.Faithful σ) {r : Resampler}
    {input : List Float32} {steps : List Nat} {output : List (List Float32)}
    (life : Session σ r input steps output) :
    output.length = steps.length ∧
    (∀ n frame, output[n]? = some frame →
      frame = r.quality.frameAt r.channels input (steps.take n).sum) ∧
    (∀ frames room (source : σ) pts, Provider.channels source = r.channels →
      let call := r.resample frames room (Taped.fresh source) pts
      call.1.length ≤ min frames (room / r.channels) ∧
      (call.1.length < min frames (room / r.channels) → call.2.2.Refused ∧
        ¬ r.quality.Reached r.channels (input ++ call.2.2.tape)
          (steps.sum + call.1.length * phaseIncrement r.inputRate r.outputRate))) ∧
    (∀ (τ : Type) [Provider τ], Provider.Faithful τ → ∀ {r' : Resampler} {input' : List Float32}
      {steps' : List Nat} {output' : List (List Float32)}, Session τ r' input' steps' output' →
      r'.quality = r.quality → r'.channels = r.channels →
      (input <+: input' ∨ input' <+: input) →
      ∀ n, steps'.take n = steps.take n → ∀ frame frame', output[n]? = some frame →
        output'[n]? = some frame' → frame = frame') := by
  have kept := life.kept faithful
  refine ⟨kept.length, fun n frame found => (kept.value n frame found).1, ?_, ?_⟩
  · intro frames room source pts fits
    obtain ⟨-, -, le, cut⟩ := resample_progress faithful kept.reads frames room source pts fits
    obtain ⟨_, window⟩ := kept.reads
    rw [← window.increment]
    exact ⟨le, cut⟩
  · intro τ _ faithful' r' input' steps' output' life' quality channels common n agree frame frame'
      found found'
    obtain ⟨value, reached⟩ := kept.value n frame found
    obtain ⟨value', reached'⟩ := (life'.kept faithful').value n frame' found'
    rw [quality, channels, agree] at value' reached'
    rw [value, value']
    exact prefix_values common reached reached'

/-- A looping clip of five frames read at one and a half times its rate, in one session that
ends with the clip in its second round. The second frame of the output lies halfway between the
second and the third of the input: at their mean on the line, and above it on the curve. -/
theorem Session.interpolates_loopingClip :
    let source := Clip.ofSamples 1 (.float #[0, 1, 0.5, 0.25, 0]) true
    let input : List Float32 := [0, 1, 0.5, 0.25, 0, 0, 1, 0.5, 0.25, 0]
    let call (quality : Interpolation) := (Resampler.new quality 1 3 2 4).resample 4 4 source none
    let halfway : Interpolation → Float32
      | .linear => 0.75
      | .cubic => 0.828125
    ∀ quality,
      Session Clip (call quality).2.1 input (List.replicate 4 (phaseIncrement 3 2))
        (call quality).1 ∧
      (call quality).1[1]? = some [halfway quality] ∧
      [halfway quality] = quality.frameAt 1 input (phaseIncrement 3 2) := by
  intro source input call halfway quality
  have tape : ((Resampler.new quality 1 3 2 4).resample 4 4 (Taped.fresh source) none).2.2.tape =
      input := by
    cases quality <;> decide +kernel
  have length : (call quality).1.length = 4 := by cases quality <;> decide +kernel
  have second : (call quality).1[1]? = some [halfway quality] := by
    cases quality <;> decide +kernel
  have life : Session Clip (call quality).2.1 input (List.replicate 4 (phaseIncrement 3 2))
      (call quality).1 := by
    have raw := Session.resample 4 4 source none (Session.start quality 1 3 2 4) rfl
    rw [tape, length] at raw
    exact raw
  have settings := sameSettings_resample (Resampler.new quality 1 3 2 4) 4 4 source none
  have value := (Session.interpolates Clip.honest.toFaithful life).2.1 1 _ second
  rw [settings.quality, settings.channels] at value
  exact ⟨life, second, value⟩

end Resampler

end Mixdown
