import Mixdown.Proofs.Gain.Settled
import Mixdown.Mixer.Render

/-!
# How tracks add up on the buses

`Voice` is what a track contributes to a block, frame by frame, and `pileUp` how contributions
add up in one place: the first is written, and the later ones are added. The sums on the buses in
the course of a block are the voices so far, piled up.
-/

namespace Mixdown

section Pile

variable {α : Type} (add : α → α → α) (silence : α)

/-- What adds up in one place. A first part that is missing is silence, and a later one adds
nothing. -/
def pileUp : List (Option α) → α
  | [] => silence
  | first :: later => later.foldl (fun sum part => match part with
      | some x => add sum x
      | none => sum) (first.getD silence)

theorem pileUp_snoc {parts : List (Option α)} (some_parts : parts ≠ []) (part : Option α) :
    pileUp add silence (parts ++ [part]) = match part with
      | some x => add (pileUp add silence parts) x
      | none => pileUp add silence parts := by
  cases parts with
  | nil => exact absurd rfl some_parts
  | cons first later =>
    rw [List.cons_append, pileUp, List.foldl_append]
    rfl

/-- The sum on a bus is what the parts add up to, frame by frame. -/
def Layered (frameCount : Nat) (sum : Option (List α)) (parts : List (Nat → Option α)) : Prop :=
  match sum with
  | none => parts = []
  | some frames => parts ≠ [] ∧
      frames = (List.range frameCount).map fun i =>
        pileUp add silence (parts.map fun part => part i)

variable {add silence} {frameCount : Nat} {sum : Option (List α)} {parts : List (Nat → Option α)}

/-- What is filled up with silence. -/
theorem getElem?_filled (fresh : List α) (silence : α) {i : Nat} (inside : i < frameCount) :
    (fresh ++ List.replicate (frameCount - fresh.length) silence)[i]? =
      some (fresh[i]?.getD silence) := by
  by_cases there : i < fresh.length
  · rw [List.getElem?_append_left there, List.getElem?_eq_getElem there]
    rfl
  · have past : fresh.length ≤ i := Nat.le_of_not_lt there
    rw [List.getElem?_append_right past, List.getElem?_eq_none past, List.getElem?_replicate,
      if_pos (by omega)]
    rfl

/-- A later layer, which leaves alone what it does not reach. -/
theorem getElem?_layer_some {frames fresh : List α} {i : Nat} (inside : i < frames.length)
    (short : fresh.length ≤ frames.length) :
    (layer add silence frameCount (some frames) fresh)[i]? = some (match fresh[i]? with
      | some x => add frames[i] x
      | none => frames[i]) := by
  have length : (frames.zipWith add fresh).length = fresh.length := by
    rw [List.length_zipWith, Nat.min_eq_right short]
  simp only [layer]
  by_cases there : i < fresh.length
  · rw [List.getElem?_append_left (by rw [length]; exact there), List.getElem?_zipWith,
      List.getElem?_eq_getElem inside, List.getElem?_eq_getElem there]
  · have past : fresh.length ≤ i := Nat.le_of_not_lt there
    rw [List.getElem?_append_right (by rw [length]; exact past), length, List.getElem?_drop,
      Nat.add_sub_of_le past, List.getElem?_eq_getElem inside, List.getElem?_eq_none past]

/-- One more layer is one more part. -/
theorem Layered.layer (layered : Layered add silence frameCount sum parts) {fresh : List α}
    {part : Nat → Option α} (short : fresh.length ≤ frameCount)
    (same : ∀ i, i < frameCount → fresh[i]? = part i) :
    Layered add silence frameCount (some (layer add silence frameCount sum fresh))
      (parts ++ [part]) := by
  refine ⟨by simp, ?_⟩
  apply List.ext_getElem?
  intro i
  by_cases inside : i < frameCount
  · rw [List.getElem?_map, List.getElem?_range inside, Option.map_some, List.map_append,
      List.map_cons, List.map_nil]
    cases sum with
    | none =>
      obtain rfl : parts = [] := layered
      simp only [Mixdown.layer]
      rw [getElem?_filled fresh silence inside, same i inside]
      rfl
    | some frames =>
      obtain ⟨some_parts, rfl⟩ := layered
      rw [getElem?_layer_some (by simpa using inside) (by simpa using short), same i inside,
        pileUp_snoc add silence (by simpa using some_parts)]
      simp only [List.getElem_map, List.getElem_range]
  · have length : (Mixdown.layer add silence frameCount sum fresh).length = frameCount := by
      cases sum with
      | none =>
        simp only [Mixdown.layer, List.length_append, List.length_replicate]
        omega
      | some frames =>
        obtain ⟨-, rfl⟩ := layered
        simp only [Mixdown.layer, List.length_append, List.length_zipWith, List.length_drop,
          List.length_map, List.length_range]
        omega
    rw [List.getElem?_eq_none (by rw [length]; omega), List.getElem?_eq_none (by simp; omega)]

/-- One more layer on one of several buses. -/
theorem layered_modify {sums : List (Option (List α))} {place bus : Nat}
    (layered : ∀ sum, sums[bus]? = some sum → Layered add silence frameCount sum parts)
    {fresh : List α} {part : Nat → Option α} (short : fresh.length ≤ frameCount)
    (same : ∀ i, i < frameCount → fresh[i]? = part i) {sum : Option (List α)}
    (found : (sums.modify place fun sum =>
      some (layer add silence frameCount sum fresh))[bus]? = some sum) :
    Layered add silence frameCount sum (if place = bus then parts ++ [part] else parts) := by
  rw [List.getElem?_modify] at found
  by_cases here : place = bus
  · simp only [here, if_true, Option.map_eq_map, Option.map_eq_some_iff] at found
    obtain ⟨before, had, rfl⟩ := found
    rw [if_pos here]
    exact (layered before had).layer short same
  · rw [if_neg here]
    exact layered sum (by simpa [here] using found)

/-- What a bus holds in the end, where a bus that nothing was written to is silent. -/
theorem Layered.getD (layered : Layered add silence frameCount sum parts) :
    sum.getD (List.replicate frameCount silence) =
      (List.range frameCount).map fun i => pileUp add silence (parts.map fun part => part i) := by
  cases sum with
  | none =>
    obtain rfl : parts = [] := layered
    simp [pileUp, List.map_const']
  | some frames => exact layered.2

end Pile

/-- Silence is written like any other sum. -/
theorem ofMix_silence (format : MixFormat) (frameCount : Nat) :
    Block.ofMix format (List.replicate frameCount (.both 0)) = .silence format frameCount := by
  cases format with
  | pcm16 => exact congrArg Block.pcm16 List.map_replicate
  | float => rfl

/-- What a track contributes to a block. -/
structure Voice where
  mainBus : Nat
  /-- The auxiliary bus that something is sent to, if any. -/
  auxBus : Option Nat
  channels : Channels
  /-- The frames that the track could supply. -/
  frames : List (Stereo Float32)
  /-- Where frames are missing, the track plays silence. -/
  playsOn : Bool
  /-- The gains before the first frame. -/
  volume : Volume

namespace Voice

/-- The frame with number `i`, if the track plays one. -/
def frame? (v : Voice) (i : Nat) : Option (Stereo Float32) :=
  match v.frames[i]? with
  | some frame => some frame
  | none => if v.playsOn then some (.both 0) else none

/-- What frame `i` is on the main bus: each channel under its gain after `i` steps. -/
def main? (v : Voice) (i : Nat) : Option (Stereo Float32) :=
  (v.frame? i).map fun frame =>
    ⟨frame.left * (v.volume.after i).left.current, frame.right * (v.volume.after i).right.current⟩

/-- What frame `i` is on the auxiliary bus: the channel, or the mean of both, under the gain after
`i` steps. -/
def aux? (v : Voice) (i : Nat) : Option Float32 :=
  (v.frame? i).map fun frame =>
    (match v.channels with
      | .mono => frame.left
      | .stereo => (frame.left + frame.right) * 0.5) * (v.volume.after i).aux.current

/-- Frame `i` of a main bus: the voices that are routed to it, piled up. -/
def mainFrame (voices : List Voice) (bus i : Nat) : Stereo Float32 :=
  pileUp Sums.addStereo (.both 0) ((voices.filter (·.mainBus == bus)).map fun v => v.main? i)

/-- Sample `i` of an auxiliary bus: the voices that send to it, piled up. -/
def auxSample (voices : List Voice) (bus i : Nat) : Float32 :=
  pileUp (· + ·) 0 ((voices.filter (·.auxBus == some bus)).map fun v => v.aux? i)

/-- The main buses in their formats. -/
def mainBlocks (voices : List Voice) (frameCount : Nat) (formats : List MixFormat) : List Block :=
  formats.mapIdx fun bus format =>
    .ofMix format ((List.range frameCount).map (mainFrame voices bus))

/-- The auxiliary buses. -/
def auxBlocks (voices : List Voice) (frameCount buses : Nat) : List (List Float32) :=
  (List.range buses).map fun bus => (List.range frameCount).map (auxSample voices bus)

/-- Without voices, the main buses are silent. -/
theorem mainBlocks_nil (frameCount : Nat) (formats : List MixFormat) :
    mainBlocks [] frameCount formats = formats.map fun format => .silence format frameCount := by
  unfold mainBlocks
  apply List.ext_getElem
  · simp
  · intro bus _ _
    have silent : (List.range frameCount).map (mainFrame [] bus) =
        List.replicate frameCount (.both 0) := by
      rw [← List.length_range (n := frameCount), ← List.map_const', List.length_range]
      rfl
    simp only [List.getElem_mapIdx, List.getElem_map]
    rw [silent, ofMix_silence]

theorem auxBlocks_nil (frameCount buses : Nat) :
    auxBlocks [] frameCount buses = List.replicate buses (List.replicate frameCount 0) := by
  unfold auxBlocks
  apply List.ext_getElem
  · simp
  · intro bus _ _
    have silent : (List.range frameCount).map (auxSample [] bus) =
        List.replicate frameCount 0 := by
      rw [← List.length_range (n := frameCount), ← List.map_const', List.length_range]
      rfl
    simp only [List.getElem_map, List.getElem_replicate]
    exact silent

/-- Contributions are those of a voice, frame by frame. -/
structure Plays (v : Voice) (frameCount : Nat) (contributions : List Contribution) : Prop where
  short : contributions.length ≤ frameCount
  main : ∀ i, i < frameCount → contributions[i]?.map Contribution.main = v.main? i
  aux : ∀ i, i < frameCount → contributions[i]?.map Contribution.aux = v.aux? i

/-- Frames under moving gains are a voice, where they are what it plays. -/
theorem plays_frames {v : Voice} {frameCount : Nat} {frames : List (Stereo Float32)}
    (short : frames.length ≤ frameCount)
    (same : ∀ i, i < frameCount → frames[i]? = v.frame? i) :
    v.Plays frameCount (frames.mapIdx fun i frame =>
      (v.volume.after i).contribution v.channels frame) where
  short := by simpa using short
  main i inside := by
    rw [List.getElem?_mapIdx, same i inside, Option.map_map]
    rfl
  aux i inside := by
    rw [List.getElem?_mapIdx, same i inside, Option.map_map]
    rfl

end Voice

namespace Sums

/-- The sums on the buses are the voices so far, piled up. -/
structure Hold (sums : Sums) (frameCount : Nat) (voices : List Voice) : Prop where
  main : ∀ bus sum, sums.main[bus]? = some sum →
    Layered addStereo (.both 0) frameCount sum
      ((voices.filter (·.mainBus == bus)).map Voice.main?)
  aux : ∀ bus sum, sums.aux[bus]? = some sum →
    Layered (· + ·) 0 frameCount sum ((voices.filter (·.auxBus == some bus)).map Voice.aux?)

theorem hold_empty (mainBuses auxBuses frameCount : Nat) :
    Hold (.empty mainBuses auxBuses) frameCount [] := by
  refine ⟨?_, ?_⟩
  · intro bus sum found
    obtain ⟨_, rfl⟩ := List.getElem?_eq_some_iff.mp found
    simp [empty, Layered]
  · intro bus sum found
    obtain ⟨_, rfl⟩ := List.getElem?_eq_some_iff.mp found
    simp [empty, Layered]

theorem Hold.write {sums : Sums} {frameCount : Nat} {voices : List Voice}
    (hold : Hold sums frameCount voices) {v : Voice} {contributions : List Contribution}
    (plays : v.Plays frameCount contributions) :
    Hold (sums.write frameCount v.mainBus v.auxBus contributions) frameCount (voices ++ [v]) := by
  refine ⟨?_, ?_⟩
  · intro bus sum found
    have same : ∀ i, i < frameCount → (contributions.map Contribution.main)[i]? = v.main? i :=
      fun i inside => List.getElem?_map.trans (plays.main i inside)
    have layered := layered_modify (hold.main bus) (by simpa using plays.short) same found
    rw [List.filter_append, List.map_append]
    by_cases here : v.mainBus = bus
    · simpa [here] using layered
    · simpa [here] using layered
  · intro bus sum found
    rw [List.filter_append, List.map_append]
    cases sends : v.auxBus with
    | none =>
      simp only [Sums.write, sends] at found
      simpa [sends] using hold.aux bus sum found
    | some place =>
      simp only [Sums.write, sends] at found
      have same : ∀ i, i < frameCount → (contributions.map Contribution.aux)[i]? = v.aux? i :=
        fun i inside => List.getElem?_map.trans (plays.aux i inside)
      have layered := layered_modify (hold.aux bus) (by simpa using plays.short) same found
      by_cases here : place = bus
      · simpa [here, sends] using layered
      · simpa [here, sends] using layered

theorem Hold.mainBlocks {sums : Sums} {frameCount : Nat} {voices : List Voice}
    (hold : Hold sums frameCount voices) {formats : List MixFormat}
    (length : sums.main.length = formats.length) :
    sums.mainBlocks frameCount formats = Voice.mainBlocks voices frameCount formats := by
  unfold Sums.mainBlocks Voice.mainBlocks
  apply List.ext_getElem
  · simp [length]
  · intro bus inside _
    rw [List.length_zipWith, length, Nat.min_self] at inside
    have there : bus < sums.main.length := length ▸ inside
    have held : sums.main[bus].getD (List.replicate frameCount (.both 0)) =
        (List.range frameCount).map (Voice.mainFrame voices bus) := by
      rw [(hold.main bus _ (List.getElem?_eq_getElem there)).getD]
      simp only [List.map_map]
      rfl
    simp only [List.getElem_zipWith, List.getElem_mapIdx]
    rw [← held]
    cases sums.main[bus] with
    | none => exact (ofMix_silence _ _).symm
    | some frames => rfl

theorem Hold.auxBlocks {sums : Sums} {frameCount : Nat} {voices : List Voice}
    (hold : Hold sums frameCount voices) :
    sums.auxBlocks frameCount = Voice.auxBlocks voices frameCount sums.aux.length := by
  unfold Sums.auxBlocks Voice.auxBlocks
  apply List.ext_getElem
  · simp
  · intro bus inside _
    have there : bus < sums.aux.length := by simpa using inside
    have held : sums.aux[bus].getD (List.replicate frameCount 0) =
        (List.range frameCount).map (Voice.auxSample voices bus) := by
      rw [(hold.aux bus _ (List.getElem?_eq_getElem there)).getD]
      simp only [List.map_map]
      rfl
    simp only [List.getElem_map, List.getElem_range]
    exact held

end Sums

end Mixdown
