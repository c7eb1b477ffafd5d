import Mixdown.Proofs.Provider.Delivery
import Mixdown.Proofs.Provider.Protocol

/-!
# The pace of a provider

A reader that takes whatever it is granted leaves the provider no choice: each request asks for all
the frames that are missing, at the time of the first of them, and each grant is released whole.
`Paced` lists these calls. They depend on the answers of the provider only, so every such reader
makes the same ones, also through the stages of a chain.
-/

namespace Mixdown

namespace Provider

variable {σ : Type} [Provider σ]

/-- The calls for a block of which `left` frames are missing and `done` are there. -/
inductive Paced (stamp : Nat → Option Int) : (left done : Nat) → σ → List Call → σ → Prop
  | full (done : Nat) (s : σ) : Paced stamp 0 done s [] s
  | refused {left done : Nat} {s s' : σ} : 0 < left →
      request s left (stamp done) = (none, s') →
      Paced stamp left done s [.request left (stamp done) none] s'
  | granted {left done : Nat} {s s' s'' : σ} {b : Buffer} {calls : List Call} : 0 < left →
      request s left (stamp done) = (some b, s') → 0 < b.frames → b.frames ≤ left →
      Paced stamp (left - b.frames) (done + b.frames) (release s' b.frames) calls s'' →
      Paced stamp left done s
        (.request left (stamp done) (some b.frames) :: .release b.frames :: calls) s''

namespace Paced

variable {stamp : Nat → Option Int} {left done : Nat} {s s' : σ} {calls : List Call}

/-- The answers of the provider decide the calls. -/
theorem unique {s'' : σ} {calls' : List Call} (first : Paced stamp left done s calls s')
    (second : Paced stamp left done s calls' s'') : calls = calls' ∧ s' = s'' := by
  induction first generalizing calls' with
  | full done s =>
    cases second with
    | full => exact ⟨rfl, rfl⟩
    | refused pos => exact absurd pos (Nat.lt_irrefl 0)
    | granted pos => exact absurd pos (Nat.lt_irrefl 0)
  | refused pos answer =>
    cases second with
    | full => exact absurd pos (Nat.lt_irrefl 0)
    | refused _ answer' => exact ⟨rfl, (Prod.mk.inj (answer.symm.trans answer')).2⟩
    | granted _ answer' => nomatch (Prod.mk.inj (answer.symm.trans answer')).1
  | granted pos answer _ _ _ ih =>
    cases second with
    | full => exact absurd pos (Nat.lt_irrefl 0)
    | refused _ answer' => nomatch (Prod.mk.inj (answer.symm.trans answer')).1
    | granted _ answer' _ _ rest =>
      obtain ⟨same, rfl⟩ := Prod.mk.inj (answer.symm.trans answer')
      obtain rfl := Option.some.inj same
      obtain ⟨rfl, rfl⟩ := ih rest
      exact ⟨rfl, rfl⟩

/-- A request asks for what is missing, at the time of the first frame that is. -/
theorem request_eq (paced : Paced stamp left done s calls s') {before after : List Call}
    {asked : Nat} {pts : Option Int} {granted : Option Nat}
    (split : calls = before ++ .request asked pts granted :: after) :
    asked = left - Call.released before ∧ pts = stamp (done + Call.released before) ∧
      Call.released before < left := by
  induction paced generalizing before with
  | full done s => simp at split
  | @refused left done s s' pos answer =>
    obtain ⟨rfl, same⟩ : before = [] ∧ Call.request left (stamp done) none =
        .request asked pts granted := by
      cases before with
      | nil => exact ⟨rfl, (List.cons.inj split).1⟩
      | cons first rest =>
        have lengths := congrArg List.length split
        simp at lengths
    obtain ⟨rfl, rfl, -⟩ := Call.request.inj same
    exact ⟨rfl, rfl, pos⟩
  | @granted left done s s' s'' b calls pos answer some_frames few later ih =>
    match before with
    | [] =>
      obtain ⟨rfl, rfl, -⟩ := Call.request.inj (List.cons.inj split).1
      exact ⟨rfl, rfl, pos⟩
    | [first] => nomatch (List.cons.inj (List.cons.inj split).2).1
    | first :: second :: rest =>
      obtain ⟨rfl, behind⟩ := List.cons.inj split
      obtain ⟨rfl, behind_both⟩ := List.cons.inj behind
      obtain ⟨asked, at_time, less⟩ := ih behind_both
      simp only [Call.released]
      refine ⟨?_, ?_, ?_⟩
      · omega
      · rw [at_time, Nat.add_assoc]
      · omega

/-- Unless the provider refuses, every frame that was missing is released. -/
theorem released_eq (paced : Paced stamp left done s calls s')
    (flows : ∀ asked pts, Call.request asked pts none ∉ calls) : Call.released calls = left := by
  induction paced with
  | full _ _ => rfl
  | @refused left done s s' _ _ => exact absurd List.mem_cons_self (flows left (stamp done))
  | @granted left done s s' s'' b calls _ _ _ few _ ih =>
    have rest := ih fun asked pts listed =>
      flows asked pts (List.mem_cons_of_mem _ (List.mem_cons_of_mem _ listed))
    simp only [Call.released, rest]
    omega

end Paced

/-- A reader that lets go whole frames of this kind as they were granted, and has a use for them. -/
def Reader.Thorough {α : Type} (reader : Reader α) (channels : Nat) (format : SampleFormat) :
    Prop :=
  ∀ asked b, Granted (some b) asked channels format →
    ∃ values, reader asked b = (b.frames, some values)

theorem thorough_discard (channels : Nat) (format : SampleFormat) :
    Reader.Thorough discard channels format := by
  intro asked b granted
  obtain ⟨-, le, -, -⟩ := granted b rfl
  exact ⟨[], by rw [discard, Nat.min_eq_left le]⟩

theorem thorough_listen (input : MixFormat) (channels : Channels) :
    Reader.Thorough (listen input channels) channels.count input.toSample := by
  intro asked b granted
  obtain ⟨-, le, whole, format⟩ := granted b rfl
  exact ⟨_, listen_whole input channels le whole format⟩

/-- A thorough reader keeps the pace, whatever it reads. -/
theorem Pulls.paced {α : Type} {reader : Reader α} {channels : Nat} {format : SampleFormat}
    (thorough : reader.Thorough channels format) {stamp : Nat → Option Int} {left done : Nat}
    {s s' : σ} {values : List α} (pulls : Pulls reader stamp left done s values s')
    (grants : ∀ s', Moves s s' → Grants s' channels format) :
    ∃ calls, Paced stamp left done s calls s' := by
  have reads : ∀ {left done : Nat} {s s' : σ} {b : Buffer},
      Grants s channels format → request s left (stamp done) = (some b, s') →
      0 < b.frames ∧ b.frames ≤ left ∧ ∃ values, reader left b = (b.frames, some values) := by
    intro left done s s' b grants answer
    have granted : Granted (some b) left channels format := by
      have granted := grants left (stamp done)
      rw [answer] at granted
      exact granted
    obtain ⟨pos, le, -, -⟩ := granted b rfl
    exact ⟨pos, le, thorough left b granted⟩
  induction pulls with
  | finished done s => exact ⟨[], .full done s⟩
  | refused pos answer => exact ⟨_, .refused pos answer⟩
  | useless pos answer made =>
    obtain ⟨-, -, values, read⟩ := reads (grants _ .refl) answer
    nomatch (Prod.mk.inj (made.symm.trans read)).2
  | stuck pos answer made =>
    obtain ⟨some_frames, -, values, read⟩ := reads (grants _ .refl) answer
    exact absurd (Prod.mk.inj (made.symm.trans read)).1 (Nat.ne_of_lt some_frames)
  | @round left done released s s' s'' b values more pos answer made some_released later ih =>
    obtain ⟨some_frames, few, _, read⟩ := reads (grants _ .refl) answer
    obtain rfl : released = b.frames := (Prod.mk.inj (made.symm.trans read)).1
    have asked : Moves s s' := by
      have step : Moves s (request s left (stamp done)).2 := .request _ _ .refl
      rw [answer] at step
      exact step
    obtain ⟨calls, paced⟩ := ih fun s'' moves => grants s'' (.trans (.release b.frames asked) moves)
    exact ⟨_, .granted pos answer some_frames few paced⟩

/-- A supply is found at that pace: a frame is heard for each that is released. -/
theorem Supply.paced {channels : Channels} {format : SampleFormat} {stamp : Nat → Option Int}
    {left done : Nat} {s s' : σ} {frames : List (Stereo Float32)}
    (supply : Supply channels stamp left done s frames s')
    (grants : ∀ s', Moves s s' → Grants s' channels.count format) :
    ∃ calls, Paced stamp left done s calls s' ∧ Call.released calls = frames.length := by
  induction supply with
  | full done s => exact ⟨[], .full done s, rfl⟩
  | refused pos answer => exact ⟨_, .refused pos answer, rfl⟩
  | @granted left done s s' s'' b more pos answer _ ih =>
    obtain ⟨some_frames, few, -, -⟩ := grants s .refl left (stamp done) b (by rw [answer])
    have asked : Moves s s' := by
      have step : Moves s (request s left (stamp done)).2 := .request _ _ .refl
      rw [answer] at step
      exact step
    obtain ⟨calls, paced, released⟩ :=
      ih fun s'' moves => grants s'' (.trans (.release b.frames asked) moves)
    refine ⟨_, .granted pos answer some_frames few paced, ?_⟩
    simp only [Call.released, released, List.length_append, Buffer.stereo, List.length_map,
      List.length_range]

end Provider

namespace Reformat

/-- A conversion for blocks asks for a block at once. -/
theorem Like.ask_whole {stage : Reformat} {channels maxFrames : Nat} {input : SampleFormat}
    {output : MixFormat} (like : stage.Like (.new channels input output maxFrames)) {frames : Nat}
    (fits : frames ≤ maxFrames) : stage.ask frames = frames := by
  have width : stage.channels = max channels 1 := like.channels
  by_cases same : input = output.toSample
  · have passes : (new channels input output maxFrames).scratch = .passThrough := if_pos same
    have outline := like.scratch
    rw [passes] at outline
    unfold ask
    cases held : stage.scratch with
    | passThrough => rfl
    | pcm16 _ => rw [held] at outline; nomatch outline
    | float _ => rw [held] at outline; nomatch outline
  · refine Reformat.ask_eq (like.scratch.trans (outline_new channels same maxFrames)) ?_ ?_
    · omega
    · rw [width]
      exact Nat.mul_le_mul_right _ (Nat.le_trans fits (Nat.le_max_left _ _))

/-- A conversion hands out as many frames as it was granted. -/
theorem frames_present (stage : Reformat) {asked : Nat} {answer : Option Buffer}
    (few : ∀ b, answer = some b → b.frames ≤ asked) :
    (stage.present asked answer).1.map Buffer.frames = answer.map Buffer.frames := by
  cases answer with
  | none => rfl
  | some b =>
    have le := few b rfl
    show some (stage.convert asked b).1.frames = some b.frames
    unfold convert
    cases stage.scratch with
    | passThrough => rfl
    | pcm16 _ => simp only [Nat.min_eq_left le]
    | float _ => simp only [Nat.min_eq_left le]

end Reformat

namespace Downmixing

theorem Like.ask_whole {stage : Downmixing} {layout : ChainLayout} {mode : DownmixMode}
    (like : stage.Like (layout.downmixing mode)) {frames : Nat} (fits : frames ≤ layout.maxFrames) :
    stage.ask frames = frames := by
  have maxFrames : stage.maxFrames = max layout.maxFrames 1 := like.maxFrames
  unfold ask
  omega

theorem frames_present (stage : Downmixing) {asked : Nat} {answer : Option Buffer}
    (few : ∀ b, answer = some b → b.frames ≤ asked) :
    (stage.present asked answer).1.map Buffer.frames = answer.map Buffer.frames := by
  cases answer with
  | none => rfl
  | some b => exact congrArg some (Nat.min_eq_left (few b rfl))

end Downmixing

namespace Chain

open Provider (Paced)

variable {σ : Type} [Provider σ] {layout : ChainLayout} {mode : DownmixMode} {chain : Chain σ}

omit [Provider σ] in
/-- A chain for blocks asks its provider for a block at once. -/
theorem Suits.ask_whole (suits : Suits layout mode chain) {frames : Nat}
    (fits : frames ≤ layout.maxFrames) : chain.ask frames = frames := by
  cases suits with
  | direct _ _ _ => rfl
  | reformatted outer _ _ _ like => exact like.ask_whole fits
  | downmixed inner _ _ _ like => exact like.ask_whole fits
  | downmixedReformatted outer inner _ _ _ like like' =>
    show inner.ask (outer.ask frames) = frames
    rw [Reformat.Like.ask_whole like fits]
    exact like'.ask_whole fits

/-- A request of no more than a block reaches the provider as it is, and as many frames are handed
out as it grants. -/
theorem Suits.request_passes (suits : Suits layout mode chain) {channels : Nat}
    {format : SampleFormat} (grants : Provider.Grants chain.source channels format)
    {frames : Nat} (fits : frames ≤ layout.maxFrames) (pts : Option Int) :
    (Provider.request chain frames pts).2.source =
        (Provider.request chain.source frames pts).2 ∧
      (Provider.request chain frames pts).1.map Buffer.frames =
        (Provider.request chain.source frames pts).1.map Buffer.frames := by
  have asked := suits.ask_whole fits
  obtain ⟨source, -⟩ := chain.request_handed frames pts
  rw [asked] at source
  refine ⟨source, ?_⟩
  have few := fun b answer => (grants frames pts b answer).2.1
  cases chain with
  | direct s => rfl
  | reformatted outer s =>
    have asked : outer.ask frames = frames := asked
    show (outer.present (outer.ask frames) (Provider.request s (outer.ask frames) pts).1).1.map
      Buffer.frames = _
    rw [asked]
    exact outer.frames_present few
  | downmixed inner s =>
    have asked : inner.ask frames = frames := asked
    show (inner.present (inner.ask frames) (Provider.request s (inner.ask frames) pts).1).1.map
      Buffer.frames = _
    rw [asked]
    exact inner.frames_present few
  | downmixedReformatted outer inner s =>
    cases suits with
    | downmixedReformatted _ _ _ many pcm16 like like' =>
      have outer_asked : outer.ask frames = frames := Reformat.Like.ask_whole like fits
      have inner_asked : inner.ask frames = frames := like'.ask_whole fits
      show (outer.present (outer.ask frames) (inner.present (inner.ask (outer.ask frames))
        (Provider.request s (inner.ask (outer.ask frames)) pts).1).1).1.map Buffer.frames = _
      rw [outer_asked, inner_asked]
      have passed := inner.frames_present few
      refine (outer.frames_present fun b granted => ?_).trans passed
      obtain ⟨given, answer, same⟩ :=
        Option.map_eq_some_iff.mp (passed.symm.trans (congrArg (Option.map Buffer.frames) granted))
      exact same ▸ few given answer

/-- The calls that a chain sees reach its provider as they are. -/
theorem Suits.paced_source {stamp : Nat → Option Int} {left done : Nat} {chain chain' : Chain σ}
    {calls : List Call} (paced : Paced stamp left done chain calls chain')
    (honest : Provider.HonestFrom chain.source) (suits : Suits layout mode chain)
    (fits : left ≤ layout.maxFrames) :
    Paced stamp left done chain.source calls chain'.source := by
  induction paced with
  | full done chain => exact .full done chain.source
  | @refused left done chain chain' pos answer =>
    obtain ⟨source, frames⟩ := suits.request_passes honest.grants fits (stamp done)
    rw [answer] at source frames
    refine .refused pos (Prod.ext ?_ source.symm)
    exact Option.map_eq_none_iff.mp frames.symm
  | @granted left done chain chain' chain'' b calls pos answer some_frames few later ih =>
    obtain ⟨source, frames⟩ := suits.request_passes honest.grants fits (stamp done)
    have suits' := suits.request left (stamp done)
    have moved : Provider.Moves chain (Provider.release chain' b.frames) := by
      have moved : Provider.Moves chain (Provider.request chain left (stamp done)).2 :=
        .request left (stamp done) .refl
      rw [answer] at moved
      exact .release b.frames moved
    rw [answer] at source frames suits'
    obtain ⟨given, granted, same⟩ := Option.map_eq_some_iff.mp frames.symm
    have rest := ih (honest.moves (moves_source moved)) (suits'.mapSource _) (by omega)
    rw [source_release, source, ← same] at rest
    rw [← same]
    exact .granted pos (Prod.ext granted rfl) (same ▸ some_frames) (same ▸ few) rest

end Chain

namespace Recorded

open Provider (Paced)

variable {σ : Type} [Provider σ]

/-- A recorded provider moves as the one that is recorded. -/
theorem moves_source {r r' : Recorded σ} (moves : Provider.Moves r r') :
    Provider.Moves r.source r'.source :=
  moves.keeps (P := fun r' => Provider.Moves r.source r'.source)
    (fun _ frames pts here => .request frames pts here) (fun _ frames here => .release frames here)
    .refl

theorem honestFrom {r : Recorded σ} (honest : Provider.HonestFrom r.source) :
    Provider.HonestFrom r :=
  fun _ moves => honest _ (moves_source moves)

/-- The record of a provider is extended by the calls that it gets. -/
theorem calls_paced {stamp : Nat → Option Int} {left done : Nat} {r r' : Recorded σ}
    {calls : List Call} (paced : Paced stamp left done r calls r') :
    r'.calls = r.calls ++ calls ∧ Paced stamp left done r.source calls r'.source := by
  induction paced with
  | full done r => exact ⟨(List.append_nil _).symm, .full done r.source⟩
  | @refused left done r r' pos answer =>
    obtain ⟨given, rfl⟩ := Prod.mk.inj answer
    have given : (Provider.request r.source left (stamp done)).1 = none := given
    refine ⟨?_, .refused pos (Prod.ext given rfl)⟩
    show r.calls ++ [.request left (stamp done)
      ((Provider.request r.source left (stamp done)).1.map Buffer.frames)] = _
    rw [given]
    rfl
  | @granted left done r r' r'' b calls pos answer some_frames few later ih =>
    obtain ⟨given, rfl⟩ := Prod.mk.inj answer
    have given : (Provider.request r.source left (stamp done)).1 = some b := given
    obtain ⟨same, rest⟩ := ih
    refine ⟨?_, .granted pos (Prod.ext given rfl) some_frames few rest⟩
    rw [same]
    show (r.calls ++ [.request left (stamp done)
      ((Provider.request r.source left (stamp done)).1.map Buffer.frames)]) ++
        [.release b.frames] ++ calls = _
    rw [given]
    simp

end Recorded

end Mixdown
