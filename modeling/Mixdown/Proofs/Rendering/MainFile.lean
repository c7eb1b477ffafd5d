import Mixdown.Proofs.Mixer.BusBlocks
import Mixdown.Proofs.Mixer.SingleTrack
import Mixdown.Proofs.Rendering.Routing
import Mixdown.Proofs.Sample.Exact

/-!
# The file of the main bus

The format of the file is chosen before the first block, and the format of the bus may change with
each block. Nothing is lost all the same: singles are narrowed to 16 bits only where they are
silent, since the tracks that could put anything else there would have had the file hold singles.
-/

namespace Mixdown

namespace Block

/-- Samples of 16 bits that stand for a block without loss: its own, or zeros for silent singles. -/
inductive AsWords : Block → List Int16 → Prop
  | pcm16 (frames : List (Stereo Int16)) : AsWords (.pcm16 frames) (interleave frames)
  | silent (frameCount : Nat) :
      AsWords (.float (List.replicate frameCount (.both 0))) (List.replicate (2 * frameCount) 0)

/-- Singles that stand for a block without loss: its own, or the exact fractions of full scale that
its 16-bit samples are. -/
inductive AsSingles : Block → List Float32 → Prop
  | float (frames : List (Stereo Float32)) : AsSingles (.float frames) (interleave frames)
  | pcm16 (frames : List (Stereo Int16)) {singles : List Float32} :
      List.Forall₂ (fun word single => Single.value? single = some ((word.toInt : Rat) / 32768))
        (interleave frames) singles →
      AsSingles (.pcm16 frames) singles

end Block

/-- The samples are those of the blocks, block after block and without loss. -/
def Samples.Carries : Samples → List Block → Prop
  | .pcm16 words, blocks =>
    ∃ parts, List.Forall₂ Block.AsWords blocks parts ∧ words.toList = parts.flatten
  | .float singles, blocks =>
    ∃ parts, List.Forall₂ Block.AsSingles blocks parts ∧ singles.toList = parts.flatten
  | .pcm24Packed _, _ | .pcm32 _, _ => False

namespace Block

theorem interleave_silence {α : Type} (a : α) (frameCount : Nat) :
    interleave (List.replicate frameCount (Stereo.both a)) = List.replicate (2 * frameCount) a := by
  induction frameCount with
  | zero => rfl
  | succ n ih =>
    have step : interleave (List.replicate (n + 1) (Stereo.both a)) =
        a :: a :: interleave (List.replicate n (Stereo.both a)) := rfl
    rw [step, ih]
    rfl

/-- A block that is one of 16-bit samples or silent is carried by its words. -/
theorem asWords_words {block : Block} {frameCount : Nat}
    (silent : block.format = .float → block = .silence .float frameCount) :
    block.AsWords block.words := by
  cases block with
  | pcm16 frames => exact .pcm16 frames
  | float frames =>
    rw [silent rfl]
    have zeros : (silence .float frameCount).words = List.replicate (2 * frameCount) 0 := by
      show (interleave (List.replicate frameCount (Stereo.both 0))).map int16OfSingle = _
      rw [interleave_silence, List.map_replicate, int16OfSingle_zero]
    rw [zeros]
    exact .silent frameCount

theorem asSingles_singles (block : Block) : block.AsSingles block.singles := by
  cases block with
  | float frames => exact .float frames
  | pcm16 frames =>
    refine .pcm16 frames ?_
    unfold singles
    rw [List.forall₂_map_right_iff]
    exact List.forall₂_same.mpr fun word _ => value?_singleOfInt16 word

theorem length_words (block : Block) : block.words.length = block.size := by
  cases block <;> simp [words, size]

end Block

namespace Rendering

/-- The file of the main bus carries the blocks, if singles are silent where it has 16 bits. -/
theorem carries_mainSamples {format : MixFormat} {blocks : List Block} {frameCount : Nat}
    (silent : ∀ block ∈ blocks, format = .pcm16 → block.format = .float →
      block = .silence .float frameCount) :
    (mainSamples format blocks).Carries blocks := by
  cases format with
  | pcm16 =>
    refine ⟨blocks.map Block.words, ?_, by simp [List.flatMap_def]⟩
    rw [List.forall₂_map_right_iff]
    exact List.forall₂_same.mpr fun block member => Block.asWords_words (silent block member rfl)
  | float =>
    refine ⟨blocks.map Block.singles, ?_, by simp [List.flatMap_def]⟩
    rw [List.forall₂_map_right_iff]
    exact List.forall₂_same.mpr fun block _ => block.asSingles_singles

theorem size_mainSamples (format : MixFormat) {blocks : List Block} {size : Nat}
    (sizes : ∀ block ∈ blocks, block.size = size) :
    (mainSamples format blocks).size = blocks.length * size := by
  cases format with
  | pcm16 =>
    show (blocks.flatMap Block.words).toArray.size = _
    rw [List.size_toArray, List.length_flatMap, List.map_congr_left fun block member =>
      block.length_words.trans (sizes block member), List.map_const', List.sum_replicate_nat]
  | float =>
    show (blocks.flatMap Block.singles).toArray.size = _
    rw [List.size_toArray, List.length_flatMap, List.map_congr_left fun block member =>
      block.length_singles.trans (sizes block member), List.map_const', List.sum_replicate_nat]

theorem format_mainSamples (format : MixFormat) (blocks : List Block) :
    (mainSamples format blocks).format = format.toSample := by
  cases format <;> rfl

theorem renderBlocks_succ (r : Rendering) (n : Nat) :
    r.renderBlocks (n + 1) = (r.renderBlocks n).renderBlock n := by
  unfold renderBlocks
  rw [List.range_succ, List.foldl_append]
  rfl

end Rendering

/-- Block number `i` of a scene: every timeline is brought to the first frame of the block, the
block is mixed, and then the main bus holds `block`. -/
def Scene.Mixes (scene : Scene) (bus i : Nat) (r : Rendering) (block : Block) (r' : Rendering) :
    Prop :=
  ∃ m, Rendering.advanceAll (i * scene.settings.frameCount) r.timelines r.mixer =
      .ok (r'.timelines, m) ∧
    r'.mixer = m.render (some (Rendering.blockTime scene.settings i)) ∧
    r'.mixer.mainBus? bus = some block

/-- A whole block, and a silent one if it holds singles though the file of the bus has 16 bits. -/
structure Scene.Yields (scene : Scene) (bus : Nat) (block : Block) : Prop where
  whole : block.size = 2 * scene.settings.frameCount
  silent : scene.busFormat bus = .pcm16 → block.format = .float →
    block = .silence .float scene.settings.frameCount

/-- A main bus holds singles other than silence only if its file does. -/
theorem Scene.Routes.mainBus?_render {scene : Scene} {m : Mixer Clip} (routed : scene.Routes m)
    {bus : Nat} (exist : bus < scene.settings.mainBuses) (pts : Option Int) :
    ∃ block, (m.render pts).mainBus? bus = some block ∧ scene.Yields bus block := by
  have buses : bus < m.mainBuses.length := by
    rw [routed.reachable.wellFormed.mainBuses, routed.settings]
    exact exist
  obtain ⟨block, held, whole, format⟩ := routed.reachable.mainBus?_render pts buses
  rw [routed.settings] at whole format
  refine ⟨block, held, whole, ?_⟩
  intro narrow wide
  rcases format with ⟨slot, t, found, -, here, asked⟩ | silent
  · -- the scene knows a track of the bus with this format
    obtain ⟨spec, listed, route⟩ := routed.routes slot t.route (by rw [Mixer.route?, found]; rfl)
    have same_bus : spec.bus = bus := (congrArg Route.bus route).symm.trans here
    have same_format : (spec.route scene.settings).format = block.format :=
      (congrArg Route.format route).symm.trans asked
    rw [Scene.format_eq_pcm16 listed (same_bus ▸ narrow), wide] at same_format
    nomatch same_format
  · rwa [wide] at silent

namespace Rendering

variable {scene : Scene} {r : Rendering}

/-- A rendering that has failed is left as it is. -/
theorem failure_eq_none {i : Nat} (fine : (r.renderBlock i).failure = none) : r.failure = none := by
  cases failed : r.failure with
  | none => rfl
  | some e =>
    have same : r.renderBlock i = r := if_pos (by rw [failed]; rfl)
    rw [same, failed] at fine
    nomatch fine

/-- One block of a rendering. -/
theorem renderBlock_mixes (routed : scene.Routes r.mixer)
    (exist : r.bus < scene.settings.mainBuses) {i : Nat}
    (fine : (r.renderBlock i).failure = none) :
    scene.Routes (r.renderBlock i).mixer ∧ (r.renderBlock i).bus = r.bus ∧
      ∃ block, scene.Mixes r.bus i r block (r.renderBlock i) ∧ scene.Yields r.bus block ∧
        (r.renderBlock i).main = r.main.push block := by
  have unfailed : ¬r.failure.isSome = true := by simp [failure_eq_none fine]
  unfold renderBlock at fine ⊢
  rw [if_neg unfailed, routed.settings] at fine ⊢
  simp only at fine ⊢
  cases advanced : advanceAll (i * scene.settings.frameCount) r.timelines r.mixer with
  | error e =>
    rw [advanced] at fine
    nomatch fine
  | ok advance =>
    obtain ⟨timelines, m⟩ := advance
    have routed' := routed.keeps (keepsRoutes_advanceAll routed.reachable advanced)
    obtain ⟨block, held, yields⟩ :=
      routed'.mainBus?_render exist (some (blockTime scene.settings i))
    refine ⟨?_, rfl, block, ⟨m, advanced, rfl, held⟩, yields, ?_⟩
    · exact routed'.keeps (routed'.reachable.keepsRoutes (.render _) trivial)
    · simp only [held, Option.toArray_some]
      exact Array.append_singleton

/-- All blocks of a rendering, one after another. -/
theorem renderBlocks_mixes (routed : scene.Routes r.mixer)
    (exist : r.bus < scene.settings.mainBuses) (empty : r.main = #[]) {count : Nat}
    (fine : (r.renderBlocks count).failure = none) :
    scene.Routes (r.renderBlocks count).mixer ∧ (r.renderBlocks count).bus = r.bus ∧
      (r.renderBlocks count).main.size = count ∧
      ∀ i block, (r.renderBlocks count).main[i]? = some block →
        scene.Mixes r.bus i (r.renderBlocks i) block (r.renderBlocks (i + 1)) ∧
          scene.Yields r.bus block := by
  induction count with
  | zero =>
    have none_kept : (r.renderBlocks 0).main = #[] := empty
    refine ⟨routed, rfl, by rw [none_kept]; rfl, ?_⟩
    intro i block kept
    rw [none_kept] at kept
    nomatch kept
  | succ count ih =>
    rw [renderBlocks_succ] at fine ⊢
    obtain ⟨routed, bus, size, mixes⟩ := ih (failure_eq_none fine)
    rw [← bus] at exist
    obtain ⟨routed', bus', last, mixed, yields, pushed⟩ := renderBlock_mixes routed exist fine
    rw [bus] at mixed yields
    refine ⟨routed', bus'.trans bus, by rw [pushed, Array.size_push, size], ?_⟩
    intro i block kept
    rw [pushed, Array.getElem?_push, size] at kept
    by_cases here : i = count
    · subst here
      rw [if_pos rfl] at kept
      obtain rfl := Option.some.inj kept
      rw [renderBlocks_succ]
      exact ⟨mixed, yields⟩
    · rw [if_neg here] at kept
      exact mixes i block kept

end Rendering

section Outputs

variable {S : Type} {host : Host (StateM S)}

/-- What was rendered reaches the output files. The bytes of the file `out` are those of the wave
`main`, and an auxiliary bus that is wanted has a file of its own. Where both paths lead to one
file, both waves are written through it, `blocks` times `frames` frames at a time. -/
inductive Written (host : Host (StateM S)) (main aux : Wave) (frames blocks : Nat) (out : String) :
    Option String → S → S → Prop
  | alone {s s' : S} : (host.write out main.encode).run s = (.ok (), s') →
      Written host main aux frames blocks out none s s'
  | apart {auxOut : String} {s s₁ s₂ s' : S} :
      (host.sameFile out auxOut).run s = (false, s₁) →
      (host.write out main.encode).run s₁ = (.ok (), s₂) →
      (host.write auxOut aux.encode).run s₂ = (.ok (), s') →
      Written host main aux frames blocks out (some auxOut) s s'
  | shared {auxOut : String} {s s₁ s' : S} :
      (host.sameFile out auxOut).run s = (true, s₁) →
      (host.write out (WaveDraft.shared ⟨main, frames * main.layout.blockBytes, blocks⟩
        ⟨aux, frames * aux.layout.blockBytes, blocks⟩ true)).run s₁ = (.ok (), s') →
      Written host main aux frames blocks out (some auxOut) s s'

/-- A file that is written gets its bytes. -/
theorem writeFile_succeeds {path : String} {bytes : List UInt8} {s s' : S}
    (succeeds : Succeeds (writeFile host path bytes) s () s') :
    (host.write path bytes).run s = (.ok (), s') := by
  unfold writeFile at succeeds
  obtain ⟨answer, s₁, wrote, last⟩ := succeeds_bind succeeds
  have answered := succeeds_lift wrote
  cases answer with
  | error fault => exact absurd last not_succeeds_throw
  | ok =>
    obtain ⟨-, rfl⟩ := succeeds_pure last
    exact answered

/-- The outputs of a rendering without failure are its two waves. -/
theorem writeOutputs_written {r : Rendering} {format : MixFormat} {out : String}
    {auxOut : Option String} {s s' : S} (fine : r.failure = none)
    (succeeds : Succeeds (writeOutputs host r format out auxOut) s () s') :
    Written host (r.mainWave format) r.auxWave r.mixer.settings.frameCount r.main.size out auxOut
      s s' := by
  unfold writeOutputs at succeeds
  cases auxOut with
  | none => exact .alone (writeFile_succeeds succeeds)
  | some auxOut =>
    obtain ⟨same, s₁, compared, succeeds⟩ := succeeds_bind succeeds
    cases same with
    | false =>
      obtain ⟨⟨⟩, s₂, main, aux⟩ := succeeds_bind succeeds
      exact .apart (succeeds_lift compared) (writeFile_succeeds main) (writeFile_succeeds aux)
    | true =>
      have both := writeFile_succeeds succeeds
      unfold Rendering.sharedFile at both
      rw [fine] at both
      exact .shared (succeeds_lift compared) both

/-- Rendering to files succeeds only where every block was mixed, and its files are what was written
last. -/
theorem renderTo_written {r : Rendering} {scene : Scene} {out : String} {auxOut : Option String}
    {s s' : S} (succeeds : Succeeds (renderTo host r scene out auxOut) s () s') :
    let done := r.renderBlocks scene.blockCount
    done.failure = none ∧
      ∃ between, Written host (done.mainWave (scene.busFormat r.bus)) done.auxWave
        done.mixer.settings.frameCount done.main.size out auxOut between s' := by
  intro done
  unfold renderTo at succeeds
  obtain ⟨⟨⟩, s₁, -, succeeds⟩ := succeeds_bind succeeds
  cases auxOut with
  | none =>
    obtain ⟨fine, written⟩ := succeeds_unless succeeds
    exact ⟨fine, s₁, writeOutputs_written fine written⟩
  | some auxOut =>
    obtain ⟨⟨⟩, s₂, -, succeeds⟩ := succeeds_bind succeeds
    obtain ⟨fine, written⟩ := succeeds_unless succeeds
    exact ⟨fine, s₂, writeOutputs_written fine written⟩

/-- A scene file that is rendered holds a scene with the bus, and the rendering starts and gets to
the output files. -/
theorem renderScene_succeeds {scenePath out : String} {bus : Nat} {auxOut : Option String}
    {s s' : S} (succeeds : Succeeds (renderScene host scenePath out bus auxOut) s () s') :
    ∃ scene r s₁ s₂, Succeeds (loadScene host scenePath) s scene s₁ ∧
      bus < scene.settings.mainBuses ∧
      Succeeds (startRendering host scenePath scene bus) s₁ r s₂ ∧
      Succeeds (renderTo host r scene out auxOut) s₂ () s' := by
  unfold renderScene at succeeds
  obtain ⟨scene, s₁, loaded, succeeds⟩ := succeeds_bind succeeds
  cases fault : scene.busFault? bus auxOut.isSome with
  | some fault' =>
    rw [fault] at succeeds
    exact absurd succeeds not_succeeds_throw
  | none =>
    rw [fault] at succeeds
    obtain ⟨r, s₂, started, rendered⟩ := succeeds_bind succeeds
    refine ⟨scene, r, s₁, s₂, loaded, ?_, started, rendered⟩
    unfold Scene.busFault? at fault
    split at fault
    · nomatch fault
    · omega

/-- A wave file of a main bus of a scene: stereo, at the rate of the scene and in the format of the
bus, with the samples of the blocks, block after block and without loss. -/
structure Scene.Fills (scene : Scene) (bus : Nat) (blocks : List Block) (wave : Wave) : Prop where
  channels : wave.channels = 2
  sampleRate : wave.sampleRate = scene.settings.sampleRate
  format : wave.samples.format = (scene.busFormat bus).toSample
  size : wave.samples.size = 2 * (scene.blockCount * scene.settings.frameCount)
  carries : wave.samples.Carries blocks

/-- The blocks that a main bus of a scene holds one after another, in a rendering from its start. -/
structure Scene.Sounds (scene : Scene) (bus : Nat) (r : Rendering) (blocks : List Block) :
    Prop where
  count : blocks.length = scene.blockCount
  mixes : ∀ i block, blocks[i]? = some block →
    scene.Mixes bus i (r.renderBlocks i) block (r.renderBlocks (i + 1))
  yields : ∀ block ∈ blocks, scene.Yields bus block

/-- The wave of the main bus holds what the bus held after each block. -/
theorem renderTo_fills {scenePath out : String} {auxOut : Option String} {scene : Scene}
    {bus : Nat} {r : Rendering} {s s₁ s₂ : S} (exist : bus < scene.settings.mainBuses)
    (started : Succeeds (startRendering host scenePath scene bus) s r s₁)
    (succeeds : Succeeds (renderTo host r scene out auxOut) s₁ () s₂) :
    ∃ blocks main aux between, scene.Sounds bus r blocks ∧ scene.Fills bus blocks main ∧
      Written host main aux scene.settings.frameCount scene.blockCount out auxOut between s₂ := by
  obtain ⟨routed, rfl, empty⟩ := startRendering_routes started
  obtain ⟨fine, between, written⟩ := renderTo_written succeeds
  obtain ⟨routed', -, size, mixes⟩ := Rendering.renderBlocks_mixes routed exist empty fine
  rw [routed'.settings, size] at written
  have listed : ∀ block ∈ (r.renderBlocks scene.blockCount).main.toList,
      scene.Yields r.bus block := by
    intro block member
    obtain ⟨i, inside⟩ := List.mem_iff_getElem?.mp member
    exact (mixes i block (by rwa [Array.getElem?_toList] at inside)).2
  have count : (r.renderBlocks scene.blockCount).main.toList.length = scene.blockCount := by
    rw [Array.length_toList, size]
  refine ⟨_, _, _, between, ⟨count, ?_, listed⟩, ⟨rfl, ?_, ?_, ?_, ?_⟩, written⟩
  · intro i block kept
    exact (mixes i block (by rwa [Array.getElem?_toList] at kept)).1
  · exact congrArg Settings.sampleRate routed'.settings
  · exact Rendering.format_mainSamples _ _
  · show (Rendering.mainSamples _ _).size = _
    rw [Rendering.size_mainSamples _ fun block member => (listed block member).whole, count]
    exact Nat.mul_left_comm _ _ _
  · exact Rendering.carries_mainSamples fun block member => (listed block member).silent

/-- The file of the main bus holds, block after block, what the bus held after the block, without
loss: words and singles as they are, words in a file of singles as the exact fractions that they
are, and singles in a file of words only where the whole block is silent. It is the encoded wave
of these samples that the host is given for the file, as the last thing that happens to it. -/
theorem renderScene_carries {scenePath out : String} {bus : Nat} {auxOut : Option String}
    {s s' : S} (succeeds : Succeeds (renderScene host scenePath out bus auxOut) s () s') :
    ∃ scene r s₁ s₂, Succeeds (loadScene host scenePath) s scene s₁ ∧
      bus < scene.settings.mainBuses ∧
      Succeeds (startRendering host scenePath scene bus) s₁ r s₂ ∧
      ∃ blocks main aux between, scene.Sounds bus r blocks ∧ scene.Fills bus blocks main ∧
        Written host main aux scene.settings.frameCount scene.blockCount out auxOut between s' := by
  obtain ⟨scene, r, s₁, s₂, loaded, exist, started, rendered⟩ := renderScene_succeeds succeeds
  exact ⟨scene, r, s₁, s₂, loaded, exist, started, renderTo_fills exist started rendered⟩

/-- A track that starts with the second block and asks a bus of singles for 16 bits: the first block
holds singles, all silent, and the file has 16 bits. -/
theorem renderScene_carries_lateTrack :
    let file : Wave := ⟨1, 1000, .pcm16 #[1000, -2000]⟩
    let text := "\x7b\"mixer\":\x7b\"frame_count\":2,\"sample_rate\":1000," ++
      "\"output_format\":\"float\"\x7d,\"duration_ms\":4,\"tracks\":[\x7b\"source\":" ++
      "\x7b\"file\":\x7b\"path\":\"late.wav\"\x7d\x7d,\"mixer_format\":\"pcm16\"," ++
      "\"start_ms\":2\x7d]\x7d"
    let host : Host (StateM (List (String × List UInt8))) :=
      { read := fun name =>
          pure (.ok (if name = "late.wav" then file.encode else text.toUTF8.toList))
        write := fun name bytes written => (.ok (), (name, bytes) :: written)
        sameFile := fun _ _ => pure false
        print := fun _ => pure () }
    let heard : Wave := ⟨2, 1000, .pcm16 #[0, 0, 0, 0, 1000, 1000, -2000, -2000]⟩
    ∃ s', Succeeds (renderScene host "scene.json" "mix.wav" 0 none) [] () s' ∧
      ∃ (scene : Scene) (r : Rendering) (blocks : List Block) (main : Wave),
        scene.Sounds 0 r blocks ∧ scene.Fills 0 blocks main ∧
        main.encode = heard.encode ∧ s'.head? = some ("mix.wav", heard.encode) := by
  intro file text host heard
  have ends : let run := (renderScene host "scene.json" "mix.wav" 0 none).run.run []
      (run.1.toOption.isSome, run.2.head?) = (true, some ("mix.wav", heard.encode)) := by
    decide +kernel
  rcases result : (renderScene host "scene.json" "mix.wav" 0 none).run.run [] with ⟨_ | ⟨⟨⟩⟩, s'⟩
  · rw [result] at ends
    nomatch ends
  · rw [result] at ends
    obtain ⟨-, last⟩ := Prod.mk.inj ends
    obtain ⟨scene, r, -, -, -, -, -, blocks, main, aux, between, sounds, fills, written⟩ :=
      renderScene_carries result
    cases written with
    | alone wrote =>
      obtain ⟨-, rfl⟩ := Prod.mk.inj wrote
      have same : main.encode = heard.encode := (Prod.mk.inj (Option.some.inj last)).2
      exact ⟨_, result, scene, r, blocks, main, sounds, fills, same, last⟩

end Outputs

end Mixdown
