import Mixdown.Proofs.Provider.Pace
import Mixdown.Proofs.Provider.Voice

/-!
# Providers that play a stream

A provider plays a stream when what it grants is always the frames from its position on, and what is
released moves the position. What is heard of such a provider through the stages of a chain, in
however many pieces, is the frames of the stream one by one.
-/

namespace Mixdown

namespace Provider

variable {σ : Type} [Provider σ] {β : Type}

/-- What is heard of the grants of the provider is the stream `x` from its position on. `At` are the
states that play it, with their positions. -/
structure Streams (hear : Buffer → List β) (x : Nat → β) (At : σ → Nat → Prop) : Prop where
  refused : ∀ {s s' : σ} {p frames : Nat} {pts : Option Int}, At s p →
    request s frames pts = (none, s') → At s' p
  granted : ∀ {s s' : σ} {p frames : Nat} {pts : Option Int} {b : Buffer}, At s p →
    request s frames pts = (some b, s') →
      hear b = (List.range b.frames).map (fun i => x (p + i)) ∧
        At (release s' b.frames) (p + b.frames)

/-- The frames of a buffer as they were granted. -/
def rawFrames (channels : Nat) (b : Buffer) : List Samples :=
  (List.range b.frames).map (b.frame channels)

variable {x : Nat → β} {At : σ → Nat → Prop} {stamp : Nat → Option Int} {left done : Nat} {s s' : σ}

/-- What is released moves the position. -/
theorem Paced.streams {hear : Buffer → List β} {calls : List Call}
    (paced : Paced stamp left done s calls s') (streams : Streams hear x At) {p : Nat}
    (start : At s p) : At s' (p + Call.released calls) := by
  induction paced generalizing p with
  | full _ _ => exact start
  | refused _ answer => exact streams.refused start answer
  | granted _ answer _ _ _ ih =>
    have rest := ih (streams.granted start answer).2
    rw [Nat.add_assoc] at rest
    exact rest

theorem range_add_map {β : Type} (f : Nat → β) (m n : Nat) :
    (List.range (m + n)).map f =
      (List.range m).map f ++ (List.range n).map fun i => f (m + i) := by
  rw [List.range_add, List.map_append, List.map_map]
  rfl

/-- A supply is the stream from the position on, in however many pieces it was granted. -/
theorem Supply.streams {channels : Channels} {x : Nat → Stereo Float32}
    {frames : List (Stereo Float32)} (supply : Supply channels stamp left done s frames s')
    (streams : Streams (Buffer.stereo · channels) x At) {p : Nat} (start : At s p) :
    frames = (List.range frames.length).map fun i => x (p + i) := by
  induction supply generalizing p with
  | full _ _ => rfl
  | refused _ _ => rfl
  | @granted left done s s' s'' b more _ answer _ ih =>
    obtain ⟨heard, after⟩ := streams.granted start answer
    have rest := ih after
    have length : (b.stereo channels).length = b.frames := by
      rw [Buffer.stereo, List.length_map, List.length_range]
    rw [List.length_append, length, range_add_map, ← heard]
    refine congrArg (_ ++ ·) (rest.trans ?_)
    simp only [Nat.add_assoc]

end Provider

namespace Chain

open Provider (Streams rawFrames)

variable {σ : Type} [Provider σ]

/-- A chain plays what is heard of the frames of the stream that its provider plays. -/
theorem streams {layout : ChainLayout} (mode : DownmixMode)
    (pos : 0 < layout.mask.channelCount) {x : Nat → Samples} {At : σ → Nat → Prop}
    (streams : Streams (rawFrames layout.mask.channelCount) x At) :
    Streams (Buffer.stereo · (.ofCount (min layout.mask.channelCount maxMixChannels)))
      (fun i => layout.voice mode (x i))
      fun (chain : Chain σ) p => chain.Suits layout mode ∧ chain.Fed layout ∧
        Provider.HonestFrom chain.source ∧ At chain.source p where
  refused := by
    rintro chain chain' p frames pts ⟨suits, fed, honest, start⟩ answer
    have suits' := suits.request frames pts
    have moved : Provider.Moves chain (Provider.request chain frames pts).2 :=
      .request frames pts .refl
    obtain ⟨source, handed⟩ := chain.request_handed frames pts
    rw [answer] at suits' moved source handed
    cases given : (Provider.request chain.source (chain.ask frames) pts).1 with
    | none =>
      exact ⟨suits', fed.moves_honest honest moved, honest.moves (moves_source moved),
        streams.refused start (Prod.ext given source.symm)⟩
    | some b =>
      rw [given] at handed
      nomatch handed
  granted := by
    rintro chain chain' p frames pts b' ⟨suits, fed, honest, start⟩ answer
    have suits' := suits.request frames pts
    have moved : Provider.Moves chain
        (Provider.release (Provider.request chain frames pts).2 b'.frames) :=
      .release b'.frames (.request frames pts .refl)
    obtain ⟨b, given, same, heard⟩ :=
      suits.stereo_request honest.grants fed pos (congrArg Prod.fst answer)
    obtain ⟨source, -⟩ := chain.request_handed frames pts
    rw [answer] at suits' moved source
    obtain ⟨raw, after⟩ := streams.granted start (Prod.ext given source.symm)
    refine ⟨?_, suits'.mapSource _, fed.moves_honest honest moved,
      honest.moves (moves_source moved), ?_⟩
    · rw [heard, same]
      have voices := congrArg (List.map (layout.voice mode)) raw
      rw [rawFrames, List.map_map, List.map_map] at voices
      exact voices
    · rw [source_release, same]
      exact after

end Chain

namespace Clip

open Provider (Streams rawFrames)

/-- Some time after `clip`, when `p` frames were released. -/
structure PlaysAt (clip c : Clip) (p : Nat) : Prop where
  samples : c.samples = clip.samples
  channels : c.channels = clip.channels
  inside : c.position ≤ clip.frameCount
  position : p % clip.frameCount = c.position % clip.frameCount

theorem PlaysAt.frameCount_eq {clip c : Clip} {p : Nat} (plays : clip.PlaysAt c p) :
    c.frameCount = clip.frameCount := by
  unfold frameCount
  rw [plays.samples, plays.channels]

theorem PlaysAt.rewound {clip c : Clip} {p : Nat} (plays : clip.PlaysAt c p) (pts : Option Int) :
    clip.PlaysAt { c with lastPts := pts }.rewound p := by
  have position := plays.position
  refine ⟨(samples_rewound _).trans plays.samples, (channels_rewound _).trans plays.channels,
    Nat.le_trans (position_rewound_le _) plays.inside, ?_⟩
  unfold Clip.rewound
  split
  · rename_i ended
    have last : c.position = clip.frameCount :=
      Nat.le_antisymm plays.inside (plays.frameCount_eq ▸ ended.2)
    rw [position, last, Nat.mod_self, Nat.zero_mod]
  · exact position

/-- A clip plays its frames in a circle; one that does not loop ends before its first frame would be
heard again. -/
theorem streams (clip : Clip) :
    Streams (rawFrames clip.channels)
      (fun i => clip.frames (i % clip.frameCount) (i % clip.frameCount + 1)) clip.PlaysAt where
  refused := by
    intro c c' p frames pts plays answer
    have after : (c.request frames pts).2 = c' := congrArg Prod.snd answer
    rw [← after, request_snd]
    exact plays.rewound pts
  granted := by
    intro c c' p frames pts b plays answer
    have after : (c.request frames pts).2 = c' := congrArg Prod.snd answer
    have given : (c.request frames pts).1 = some b := congrArg Prod.fst answer
    have rewound := plays.rewound pts
    have whole := rewound.frameCount_eq
    rw [request_snd] at after
    unfold request at given
    simp only [after, remaining] at given rewound whole
    split at given
    · cases given
    · rename_i some_left
      rw [whole] at some_left given
      obtain rfl := Option.some.inj given
      have room : min frames (clip.frameCount - c'.position) ≤ clip.frameCount - c'.position :=
        Nat.min_le_right _ _
      generalize min frames (clip.frameCount - c'.position) = granted at some_left room
      have same (i : Nat) : (p + i) % clip.frameCount = (c'.position + i) % clip.frameCount := by
        rw [Nat.add_mod, rewound.position, ← Nat.add_mod]
      have inside := rewound.inside
      refine ⟨?_, rewound.samples, rewound.channels, ?_, ?_⟩
      · apply List.map_congr_left
        intro i listed
        have within : i < granted := List.mem_range.mp listed
        have fits : c'.position * clip.channels + (i + 1) * clip.channels ≤
            (c'.position + granted) * clip.channels := by
          rw [← Nat.add_mul]
          exact Nat.mul_le_mul_right _ (by omega)
        simp only [same, Nat.mod_eq_of_lt (show c'.position + i < clip.frameCount by omega),
          Buffer.frame, Clip.frames, rewound.samples, rewound.channels,
          Samples.slice_slice _ fits, ← Nat.add_mul, Nat.add_assoc]
      · exact Nat.le_trans (Nat.min_le_right _ _) (Nat.le_of_eq whole)
      · show (p + granted) % clip.frameCount =
          min (c'.position + granted) c'.frameCount % clip.frameCount
        rw [same, whole, Nat.min_eq_left (by omega)]

end Clip

end Mixdown
