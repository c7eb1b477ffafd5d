import Mixdown.Mixer.Kernel
import Mixdown.Proofs.Provider.Loops
import Mixdown.Proofs.Provider.Stages
import Mixdown.Provider.Recorded

/-!
# The protocol of a provider

A reader asks for frames, and when it is granted some, it says how many of them it takes before it
asks again. `Call.Orderly` lists the calls that keep to this, and the loops that read a chain make
no others, whatever the provider below the chain answers.
-/

namespace Mixdown

namespace Call

/-- Every request asks for a frame at least. One that is granted is followed by one release, of no
more frames than were asked for and were granted, and one that is refused by none. -/
inductive Orderly : List Call → Prop
  | nil : Orderly []
  | refused {asked : Nat} {pts : Option Int} {calls : List Call} : 0 < asked → Orderly calls →
      Orderly (.request asked pts none :: calls)
  | granted {asked reported released : Nat} {pts : Option Int} {calls : List Call} : 0 < asked →
      released ≤ min asked reported → Orderly calls →
      Orderly (.request asked pts (some reported) :: .release released :: calls)

theorem Orderly.append {calls later : List Call} (orderly : Orderly calls)
    (after : Orderly later) : Orderly (calls ++ later) := by
  induction orderly with
  | nil => exact after
  | refused asked _ ih => exact .refused asked ih
  | granted asked released _ ih => exact .granted asked released ih

/-- The frames that are released. -/
def released : List Call → Nat
  | [] => 0
  | .request .. :: calls => released calls
  | .release frames :: calls => frames + released calls

end Call

namespace Reformat

/-- A conversion asks for a frame when it is asked for one. -/
theorem Like.ask_pos {stage : Reformat} {channels maxFrames : Nat} {input : SampleFormat}
    {output : MixFormat} (like : stage.Like (.new channels input output maxFrames)) {frames : Nat}
    (pos : 0 < frames) : 0 < stage.ask frames := by
  have width : stage.channels = max channels 1 := like.channels
  have roomy : ∀ {format : MixFormat} {size : Nat}, stage.scratch.outline = some (format, size) →
      0 < min frames (size / stage.channels) := by
    intro format size outline
    by_cases differ : input = output.toSample
    · have passes : (new channels input output maxFrames).scratch = .passThrough := if_pos differ
      rw [like.scratch, passes] at outline
      nomatch outline
    · rw [like.scratch, outline_new channels differ] at outline
      obtain ⟨-, rfl⟩ := Prod.mk.inj (Option.some.inj outline)
      rw [width, Nat.mul_div_cancel _ (by omega)]
      omega
  unfold ask
  cases held : stage.scratch with
  | passThrough => exact pos
  | pcm16 samples => exact roomy (by rw [held]; rfl)
  | float samples => exact roomy (by rw [held]; rfl)

/-- A conversion hands out no more frames than it was granted, and a reader takes no more of them
than were asked for. -/
theorem frames_convert (stage : Reformat) (frames : Nat) (b : Buffer) :
    (stage.convert (stage.ask frames) b).1.frames ≤ b.frames ∧
      min (stage.convert (stage.ask frames) b).1.frames frames ≤ stage.ask frames := by
  unfold convert
  cases held : stage.scratch with
  | passThrough =>
    have asked : stage.ask frames = frames := by
      unfold ask
      rw [held]
    rw [asked]
    exact ⟨Nat.le_refl _, Nat.min_le_right _ _⟩
  | pcm16 samples =>
    exact ⟨Nat.min_le_left _ _, Nat.le_trans (Nat.min_le_left _ _) (Nat.min_le_right _ _)⟩
  | float samples =>
    exact ⟨Nat.min_le_left _ _, Nat.le_trans (Nat.min_le_left _ _) (Nat.min_le_right _ _)⟩

end Reformat

namespace Downmixing

theorem Like.ask_pos {stage : Downmixing} {layout : ChainLayout} {mode : DownmixMode}
    (like : stage.Like (layout.downmixing mode)) {frames : Nat} (pos : 0 < frames) :
    0 < stage.ask frames := by
  have maxFrames : stage.maxFrames = max layout.maxFrames 1 := like.maxFrames
  unfold ask
  omega

theorem frames_convert (stage : Downmixing) (frames : Nat) (b : Buffer) :
    (stage.convert (stage.ask frames) b).1.frames ≤ b.frames ∧
      min (stage.convert (stage.ask frames) b).1.frames frames ≤ stage.ask frames :=
  ⟨Nat.min_le_left _ _, Nat.le_trans (Nat.min_le_left _ _) (Nat.min_le_right _ _)⟩

end Downmixing

namespace Chain

section Handed

variable {σ : Type}

/-- What the provider is asked for when the reader asks for `frames`. -/
def ask (chain : Chain σ) (frames : Nat) : Nat :=
  match chain with
  | direct _ => frames
  | reformatted outer _ => outer.ask frames
  | downmixed inner _ => inner.ask frames
  | downmixedReformatted outer inner _ => inner.ask (outer.ask frames)

theorem Suits.ask_pos {layout : ChainLayout} {mode : DownmixMode} {chain : Chain σ}
    (suits : Suits layout mode chain) {frames : Nat} (pos : 0 < frames) :
    0 < chain.ask frames := by
  cases suits with
  | direct s few same => exact pos
  | reformatted outer s few differ like => exact like.ask_pos pos
  | downmixed inner s many float like => exact like.ask_pos pos
  | downmixedReformatted outer inner s many pcm16 like like' =>
    exact like'.ask_pos (like.ask_pos pos)

variable [Provider σ]

/-- A request of a chain is one request of its provider. A reader can take no more frames of the
answer than the provider was asked for and granted. -/
theorem request_handed (chain : Chain σ) (frames : Nat) (pts : Option Int) :
    (Provider.request chain frames pts).2.source =
        (Provider.request chain.source (chain.ask frames) pts).2 ∧
      Option.Rel
        (fun given b => min b.frames frames ≤ min (chain.ask frames) given.frames)
        (Provider.request chain.source (chain.ask frames) pts).1
        (Provider.request chain frames pts).1 := by
  cases chain with
  | direct s =>
    refine ⟨rfl, ?_⟩
    show Option.Rel _ (Provider.request s frames pts).1 (Provider.request s frames pts).1
    cases (Provider.request s frames pts).1 with
    | none => exact .none
    | some given => exact .some (Nat.le_of_eq (Nat.min_comm _ _))
  | reformatted outer s =>
    refine ⟨rfl, ?_⟩
    show Option.Rel _ (Provider.request s (outer.ask frames) pts).1
      (outer.present (outer.ask frames) (Provider.request s (outer.ask frames) pts).1).1
    cases (Provider.request s (outer.ask frames) pts).1 with
    | none => exact .none
    | some given =>
      obtain ⟨less, within⟩ := outer.frames_convert frames given
      exact .some (Nat.le_min.mpr ⟨within, Nat.le_trans (Nat.min_le_left _ _) less⟩)
  | downmixed inner s =>
    refine ⟨rfl, ?_⟩
    show Option.Rel _ (Provider.request s (inner.ask frames) pts).1
      (inner.present (inner.ask frames) (Provider.request s (inner.ask frames) pts).1).1
    cases (Provider.request s (inner.ask frames) pts).1 with
    | none => exact .none
    | some given =>
      obtain ⟨less, within⟩ := inner.frames_convert frames given
      exact .some (Nat.le_min.mpr ⟨within, Nat.le_trans (Nat.min_le_left _ _) less⟩)
  | downmixedReformatted outer inner s =>
    refine ⟨rfl, ?_⟩
    show Option.Rel _ (Provider.request s (inner.ask (outer.ask frames)) pts).1
      (outer.present (outer.ask frames) (inner.present (inner.ask (outer.ask frames))
        (Provider.request s (inner.ask (outer.ask frames)) pts).1).1).1
    cases (Provider.request s (inner.ask (outer.ask frames)) pts).1 with
    | none => exact .none
    | some given =>
      obtain ⟨less, within⟩ := inner.frames_convert (outer.ask frames) given
      obtain ⟨less', within'⟩ := outer.frames_convert frames
        (inner.convert (inner.ask (outer.ask frames)) given).1
      refine .some (Nat.le_min.mpr ⟨?_, Nat.le_trans (Nat.min_le_left _ _)
        (Nat.le_trans less' less)⟩)
      exact Nat.le_trans (Nat.le_min.mpr ⟨Nat.le_trans (Nat.min_le_left _ _) less', within'⟩) within

end Handed

variable {σ : Type} [Provider σ] {layout : ChainLayout} {mode : DownmixMode}
  {chain chain' chain'' : Chain (Recorded σ)}

/-- Between two states of a chain, its provider sees these calls. -/
def Sees (chain : Chain (Recorded σ)) (calls : List Call) (chain' : Chain (Recorded σ)) : Prop :=
  chain'.source.calls = chain.source.calls ++ calls

omit [Provider σ] in
theorem Sees.refl (chain : Chain (Recorded σ)) : chain.Sees [] chain := (List.append_nil _).symm

omit [Provider σ] in
theorem Sees.trans {calls later : List Call} (first : chain.Sees calls chain')
    (second : chain'.Sees later chain'') : chain.Sees (calls ++ later) chain'' := by
  unfold Sees at first second ⊢
  rw [second, first, List.append_assoc]

theorem sees_release (chain : Chain (Recorded σ)) (frames : Nat) :
    chain.Sees [.release frames] (Provider.release chain frames) := by
  unfold Sees
  rw [source_release]
  rfl

theorem Suits.refused (suits : Suits layout mode chain) {frames : Nat} (pos : 0 < frames)
    {pts : Option Int} (refused : Provider.request chain frames pts = (none, chain')) :
    ∃ asked, 0 < asked ∧ chain.Sees [.request asked pts none] chain' := by
  refine ⟨chain.ask frames, suits.ask_pos pos, ?_⟩
  obtain ⟨source, handed⟩ := chain.request_handed frames pts
  rw [refused] at source handed
  unfold Sees
  rw [source]
  cases answer : (Provider.request chain.source (chain.ask frames) pts).1 with
  | none =>
    show chain.source.calls ++ [Call.request (chain.ask frames) pts
      ((Provider.request chain.source (chain.ask frames) pts).1.map Buffer.frames)] = _
    rw [answer]
    rfl
  | some given =>
    rw [answer] at handed
    nomatch handed

theorem Suits.granted (suits : Suits layout mode chain) {frames released : Nat} (pos : 0 < frames)
    {pts : Option Int} {b : Buffer}
    (granted : Provider.request chain frames pts = (some b, chain'))
    (few : released ≤ min b.frames frames) :
    ∃ asked reported, 0 < asked ∧ released ≤ min asked reported ∧
      chain.Sees [.request asked pts (some reported), .release released]
        (Provider.release chain' released) := by
  obtain ⟨source, handed⟩ := chain.request_handed frames pts
  rw [granted] at source handed
  cases answer : (Provider.request chain.source (chain.ask frames) pts).1 with
  | none =>
    rw [answer] at handed
    nomatch handed
  | some given =>
    rw [answer] at handed
    cases handed with
    | some within =>
      refine ⟨chain.ask frames, given.frames, suits.ask_pos pos, Nat.le_trans few within, ?_⟩
      have asked : chain.Sees [.request (chain.ask frames) pts (some given.frames)] chain' := by
        unfold Sees
        rw [source]
        show chain.source.calls ++ [Call.request (chain.ask frames) pts
          ((Provider.request chain.source (chain.ask frames) pts).1.map Buffer.frames)] = _
        rw [answer]
        rfl
      exact asked.trans (sees_release chain' released)

end Chain

namespace Provider

open Call (Orderly released)

/-- A reader that takes no more frames than were asked for and granted. -/
def Reader.Modest {α : Type} (reader : Reader α) : Prop :=
  ∀ asked b, (reader asked b).1 ≤ min b.frames asked

theorem modest_discard : Reader.Modest discard := fun _ _ => Nat.le_refl _

theorem modest_listen (input : MixFormat) (channels : Channels) :
    Reader.Modest (listen input channels) := by
  intro asked b
  unfold listen
  simp only
  split
  · exact Nat.min_le_left _ _
  · exact Nat.le_refl _

variable {σ α : Type} [Provider σ] {layout : ChainLayout} {mode : DownmixMode}
  {chain chain' : Chain (Recorded σ)}

/-- A loop that reads a chain keeps to the protocol, and takes no more frames than it is to read. -/
theorem Pulls.orderly {reader : Reader α} (modest : reader.Modest) {stamp : Nat → Option Int}
    {left done : Nat} {values : List α} (pulls : Pulls reader stamp left done chain values chain')
    (suits : chain.Suits layout mode) :
    ∃ calls, chain.Sees calls chain' ∧ Orderly calls ∧ released calls ≤ left := by
  induction pulls with
  | finished done chain => exact ⟨[], .refl chain, .nil, Nat.le_refl 0⟩
  | refused pos refused =>
    obtain ⟨asked, some_asked, saw⟩ := suits.refused pos refused
    exact ⟨_, saw, .refused some_asked .nil, Nat.zero_le _⟩
  | @useless left done n chain chain' b pos granted made =>
    have few : n ≤ min b.frames left := by simpa [made] using modest left b
    obtain ⟨asked, reported, some_asked, within, saw⟩ := suits.granted pos granted few
    exact ⟨_, saw, .granted some_asked within .nil, Nat.le_trans few (Nat.min_le_right _ _)⟩
  | @stuck left done chain chain' b values pos granted made =>
    obtain ⟨asked, reported, some_asked, within, saw⟩ :=
      suits.granted pos granted (Nat.zero_le _)
    exact ⟨_, saw, .granted some_asked within .nil, Nat.zero_le _⟩
  | @round left done n chain chain' chain'' b values more pos granted made some_released later ih =>
    have few : n ≤ min b.frames left := by simpa [made] using modest left b
    obtain ⟨asked, reported, some_asked, within, saw⟩ := suits.granted pos granted few
    have suits' := suits.request left (stamp done)
    rw [granted] at suits'
    obtain ⟨calls, saw', orderly, total⟩ := ih (suits'.mapSource _)
    refine ⟨_, saw.trans saw', .granted some_asked within orderly, ?_⟩
    show n + released calls ≤ left
    have within_left : n ≤ left := Nat.le_trans few (Nat.min_le_right _ _)
    omega

end Provider

namespace Resampler

open Call (Orderly)

/-- The staging buffer has room for more than the frames that the position needs around it. -/
def Roomy (r : Resampler) : Prop := r.quality.history + r.quality.lookahead < r.capacity

theorem SameSettings.roomy {r r' : Resampler} (same : r.SameSettings r') (roomy : r.Roomy) :
    r'.Roomy := by
  unfold Roomy
  rw [same.quality, same.capacity]
  exact roomy

theorem roomy_new (quality : Interpolation) (channels : Nat) (inputRate outputRate : UInt32)
    (maxFrames : Nat) : (new quality channels inputRate outputRate maxFrames).Roomy := by
  show quality.history + quality.lookahead <
    max maxFrames 1 * maxRateRatio + quality.history + quality.lookahead + 1
  omega

/-- A resampler that waits for input has room for some. -/
theorem Roomy.room_pos {r : Resampler} (roomy : r.Roomy) (waiting : r.ready = false) :
    0 < r.compact.room := by
  have far : r.staged ≤ r.index + r.quality.lookahead := by simpa [ready] using waiting
  unfold Roomy at roomy
  simp only [compact, room]
  omega

variable {σ : Type} [Provider σ] {layout : ChainLayout} {mode : DownmixMode}
  {chain chain' : Chain (Recorded σ)}

/-- A fill is one exchange with the chain. -/
theorem Roomy.fill_orderly {r : Resampler} (roomy : r.Roomy) (waiting : r.ready = false)
    (suits : chain.Suits layout mode) (pts : Option Int) :
    ∃ calls, chain.Sees calls (r.fill chain pts).2.2 ∧ Orderly calls := by
  have pos := roomy.room_pos waiting
  unfold fill
  simp only
  rcases asked : Provider.request chain r.compact.room pts with ⟨_ | b, chain'⟩
  · obtain ⟨asked, some_asked, saw⟩ := suits.refused pos asked
    exact ⟨_, saw, .refused some_asked .nil⟩
  · obtain ⟨asked, reported, some_asked, within, saw⟩ :=
      suits.granted pos asked (Nat.le_refl (min b.frames r.compact.room))
    exact ⟨_, saw, .granted some_asked within .nil⟩

/-- The loop that produces frames keeps to the protocol. -/
theorem Produces.orderly {pts : Option Int} {left done : Nat} {r r' : Resampler}
    {frames : List (List Float32)}
    (produces : Produces pts left done r chain frames r' chain') (roomy : r.Roomy)
    (suits : chain.Suits layout mode) :
    ∃ calls, chain.Sees calls chain' ∧ Orderly calls := by
  induction produces with
  | finished done r chain => exact ⟨[], .refl chain, .nil⟩
  | @frame left done r r' chain chain' more ready later ih =>
    exact ih (r.sameSettings_step.roomy roomy) suits
  | @filled left done r r' r'' chain chain' chain'' frames waiting filled later ih =>
    obtain ⟨calls, saw, orderly⟩ :=
      roomy.fill_orderly waiting suits (stampAfter pts r.outputRate done)
    have settings := sameSettings_fill r chain (stampAfter pts r.outputRate done)
    have moved := suits.moves (r.fill_moves chain (stampAfter pts r.outputRate done))
    rw [filled] at saw settings moved
    obtain ⟨later, saw', orderly'⟩ := ih (settings.roomy roomy) moved
    exact ⟨_, saw.trans saw', orderly.append orderly'⟩
  | @dry left done r r' chain chain' waiting filled =>
    obtain ⟨calls, saw, orderly⟩ :=
      roomy.fill_orderly waiting suits (stampAfter pts r.outputRate done)
    rw [filled] at saw
    exact ⟨calls, saw, orderly⟩

end Resampler

end Mixdown
