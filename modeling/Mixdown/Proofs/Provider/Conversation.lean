import Mixdown.Proofs.Provider.Streams

/-!
# Conversations with a provider

A reader asks for frames and releases frames in any order. A provider plays a stream in such a
conversation when it offers what was not released again, and goes on behind what was. This is more
than `Provider.Streams` asks for, where every grant is released as a whole.
-/

namespace Mixdown

/-- What a reader asks of a provider. -/
inductive Ask where
  | request (frames : Nat) (pts : Option Int)
  | release (frames : Nat)

/-- The frames that are released. -/
def Ask.released : List Ask → Nat
  | [] => 0
  | .request .. :: asks => released asks
  | .release frames :: asks => frames + released asks

namespace Provider

variable {σ : Type} [Provider σ]

/-- The answers to the requests, and the provider after the last of what is asked. -/
def converse (s : σ) : List Ask → List (Option Buffer) × σ
  | [] => ([], s)
  | .request frames pts :: asks =>
    let (answer, s) := request s frames pts
    let (answers, s) := converse s asks
    (answer :: answers, s)
  | .release frames :: asks => converse (release s frames) asks

/-- Every request is for a frame at least, and no more is released than is left of the last grant;
`held` frames are left of the one before. -/
def Proper (held : Nat) (s : σ) : List Ask → Prop
  | [] => True
  | .request frames pts :: asks =>
    0 < frames ∧
      Proper ((request s frames pts).1.elim 0 Buffer.frames) (request s frames pts).2 asks
  | .release frames :: asks => frames ≤ held ∧ Proper (held - frames) (release s frames) asks

instance decidableProper :
    (held : Nat) → (s : σ) → (asks : List Ask) → Decidable (Proper held s asks)
  | _, _, [] => inferInstanceAs (Decidable True)
  | _, s, .request frames pts :: asks =>
    have := decidableProper ((request s frames pts).1.elim 0 Buffer.frames)
      (request s frames pts).2 asks
    inferInstanceAs (Decidable (0 < frames ∧ Proper ((request s frames pts).1.elim 0 Buffer.frames)
      (request s frames pts).2 asks))
  | held, s, .release frames :: asks =>
    have := decidableProper (held - frames) (release s frames) asks
    inferInstanceAs (Decidable (frames ≤ held ∧ Proper (held - frames) (release s frames) asks))

/-- What the provider grants are the frames of the stream `x` from its position on. `At` are the
states that play it, with their positions and with what is left of the last grant. -/
structure Plays (channels : Nat) (x : Nat → Samples) (At : σ → Nat → Nat → Prop) : Prop where
  refused : ∀ {s s' : σ} {p held frames : Nat} {pts : Option Int}, At s p held → 0 < frames →
    request s frames pts = (none, s') → At s' p 0
  granted : ∀ {s s' : σ} {p held frames : Nat} {pts : Option Int} {b : Buffer}, At s p held →
    0 < frames → request s frames pts = (some b, s') →
      rawFrames channels b = (List.range b.frames).map (fun i => x (p + i)) ∧ At s' p b.frames
  released : ∀ {s : σ} {p held frames : Nat}, At s p held → frames ≤ held →
    At (release s frames) (p + frames) (held - frames)

variable {channels : Nat} {x : Nat → Samples} {At : σ → Nat → Nat → Prop}

/-- After a conversation, the position has moved by what was released. -/
theorem Plays.converse (plays : Plays channels x At) {s : σ} {p held : Nat} (start : At s p held)
    {asks : List Ask} (proper : Proper held s asks) :
    ∃ left, At (converse s asks).2 (p + Ask.released asks) left := by
  induction asks generalizing s p held with
  | nil => exact ⟨held, start⟩
  | cons ask asks ih =>
    cases ask with
    | request frames pts =>
      rcases answer : request s frames pts with ⟨_ | b, s'⟩
      · simp only [Proper, Provider.converse, answer] at proper ⊢
        exact ih (plays.refused start proper.1 answer) proper.2
      · simp only [Proper, Provider.converse, answer] at proper ⊢
        exact ih (plays.granted start proper.1 answer).2 proper.2
    | release frames =>
      obtain ⟨few, proper⟩ := proper
      obtain ⟨left, after⟩ := ih (plays.released start few) proper
      rw [Nat.add_assoc] at after
      exact ⟨left, after⟩

end Provider

namespace Clip

open Provider (Plays)

/-- A clip that plays, with so many frames left of its last grant before it would step back. -/
def HoldsAt (clip c : Clip) (p held : Nat) : Prop :=
  clip.PlaysAt c p ∧ c.position + held ≤ clip.frameCount

/-- A clip plays its frames in a circle, in pieces of any size. -/
theorem plays (clip : Clip) :
    Plays clip.channels
      (fun i => clip.frames (i % clip.frameCount) (i % clip.frameCount + 1)) clip.HoldsAt where
  refused := by
    rintro c c' p held frames pts ⟨plays, -⟩ - answer
    have after : clip.PlaysAt c' p := clip.streams.refused plays answer
    exact ⟨after, after.inside⟩
  granted := by
    rintro c c' p held frames pts b ⟨plays, -⟩ - answer
    have after : (c.request frames pts).2 = c' := congrArg Prod.snd answer
    have given : (c.request frames pts).1 = some b := congrArg Prod.fst answer
    have playing : clip.PlaysAt c' p := by
      rw [← after, request_snd]
      exact plays.rewound pts
    refine ⟨(clip.streams.granted plays answer).1, playing, ?_⟩
    have count := playing.frameCount_eq
    have inside := playing.inside
    rw [request_snd] at after
    unfold request at given
    simp only [after, remaining] at given
    split at given
    · cases given
    · obtain rfl := Option.some.inj given
      have few := Nat.min_le_right frames (c'.frameCount - c'.position)
      show c'.position + min frames (c'.frameCount - c'.position) ≤ clip.frameCount
      omega
  released := by
    rintro c p held frames ⟨plays, fits⟩ few
    have count := plays.frameCount_eq
    have within : min (c.position + frames) c.frameCount = c.position + frames := by omega
    have position : (Provider.release c frames).position = c.position + frames := within
    refine ⟨⟨plays.samples, plays.channels, ?_, ?_⟩, ?_⟩
    · rw [position]
      omega
    · rw [position, Nat.add_mod, plays.position, ← Nat.add_mod]
    · rw [position]
      omega

end Clip

end Mixdown
