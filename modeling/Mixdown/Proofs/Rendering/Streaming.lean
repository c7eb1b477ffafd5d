import Mixdown.Proofs.Mixer.BusBlocks
import Mixdown.Proofs.Provider.Honest
import Mixdown.Stream

/-!
# What a stream hands out

However samples are pulled out of a stream and calls are made to its mixer in between, the stream
renders a block when the one before is used up and not earlier, and hands out what its bus held
right after that. `Stream.Use.actions` says which blocks these are, `Mixer.views` what the bus held,
and `Stream.Aligned` is kept by whatever is done to a stream.
-/

namespace Mixdown

/-- The first elements that there are of a list. -/
theorem length_filterMap_getElem? {α : Type} (xs : List α) (n : Nat) :
    (((List.range n).map fun i => xs[i]?).filterMap id).length = min n xs.length := by
  induction n generalizing xs with
  | zero => simp
  | succ n ih =>
    rw [List.range_succ_eq_map, List.map_cons, List.map_map]
    cases xs with
    | nil => simp
    | cons x xs => simpa [Function.comp_def, Nat.succ_min_succ] using ih xs

namespace Mixer

variable {σ : Type} [Provider σ]

/-- What a main bus held after each block, as singles. -/
def views (bus : Nat) (m : Mixer σ) : List (Action σ) → List (List Float32)
  | [] => []
  | action :: actions =>
    let m := m.act action
    let later := views bus m actions
    if action.isRender then (m.mainBus? bus).elim [] Block.singles :: later else later

/-- A main bus holds a whole block at any time. -/
theorem Reachable.size_mainBus? {m : Mixer σ} (reachable : Reachable m) {bus : Nat} {block : Block}
    (held : m.mainBus? bus = some block) : block.size = 2 * m.settings.frameCount := by
  induction reachable with
  | new built =>
    unfold Mixer.new at built
    split at built
    · nomatch built
    · obtain rfl := Except.ok.inj built
      obtain rfl := List.eq_of_mem_replicate (List.mem_of_getElem? held)
      exact Block.size_silence _ _
  | @act m action reachable ih =>
    rcases reachable.wellFormed.act_cases action with ⟨pts, rfl, rendered⟩ | ⟨_, _, _, writes, -⟩
    · have exist : bus < m.mainBuses.length := by
        rw [← rendered.mainBuses]
        exact (List.getElem?_eq_some_iff.mp held).1
      obtain ⟨block', found, size, -⟩ := reachable.mainBus?_render pts exist
      obtain rfl : block' = block := Option.some.inj (found.symm.trans held)
      rw [size, rendered.settings]
    · rw [writes.settings]
      unfold mainBus? at held ih
      rw [writes.mainBuses] at held
      exact ih held

end Mixer

namespace Stream

variable {σ : Type}

/-- What is done to a stream: a sample is pulled out of it, or a call is made to its mixer. -/
inductive Use (σ : Type) where
  | pull
  | configure (action : Action σ) (quiet : action.isRender = false)

namespace Use

/-- The number of pulls. -/
def pulls : List (Use σ) → Nat
  | [] => 0
  | .pull :: uses => pulls uses + 1
  | .configure .. :: uses => pulls uses

/-- A block has to be rendered for the pull with this number: all before are used up, and they were
not all the blocks that there are. -/
def begins (length : Nat) (blocks : Option Nat) (pulled : Nat) : Bool :=
  pulled % length == 0 && blocks.all (pulled / length < ·)

/-- What is done to the mixer when all this is done to its stream after so many pulls: the calls,
and before the first pull of each block, the block. -/
def actions (length : Nat) (nanos : Int) (blocks : Option Nat) :
    (pulled : Nat) → List (Use σ) → List (Action σ)
  | _, [] => []
  | pulled, .configure action _ :: uses => action :: actions length nanos blocks pulled uses
  | pulled, .pull :: uses =>
    let later := actions length nanos blocks (pulled + 1) uses
    if begins length blocks pulled then .render (some ((pulled / length : Nat) * nanos)) :: later
    else later

end Use

variable [Provider σ]

/-- The answers to the pulls, and the stream after the last of what is done to it. -/
def run (s : Stream σ) : List (Use σ) → List (Option Float32) × Stream σ
  | [] => ([], s)
  | .pull :: uses =>
    let (sample, s) := s.next
    let (samples, s) := run s uses
    (sample :: samples, s)
  | .configure action _ :: uses => run { s with mixer := s.mixer.act action } uses

omit [Provider σ] in
/-- What is left of the current block. -/
def rest (s : Stream σ) : List Float32 :=
  ((s.mixer.mainBus? s.bus).elim [] Block.singles).drop s.position

/-- A stream of blocks of `length` samples, `nanos` nanoseconds each, after so many pulls and begun
blocks: it is where the pulls have left the last of the blocks, or at its end. -/
structure Aligned (length : Nat) (nanos : Int) (blocks : Option Nat) (bus pulled begun : Nat)
    (s : Stream σ) : Prop where
  reachable : Mixer.Reachable s.mixer
  blockLength : s.blockLength = length
  duration : framesToNanos s.mixer.settings.frameCount s.mixer.settings.sampleRate = nanos
  onBus : s.bus = bus
  exist : bus < s.mixer.mainBuses.length
  remaining : s.remaining = blocks.map (· - begun)
  nextPts : s.nextPts = begun * nanos
  within : ∀ n, blocks = some n → begun ≤ n
  started : 0 < s.position
  inside : s.position ≤ length
  place : pulled + length = begun * length + s.position ∨
    blocks = some begun ∧ s.position = length ∧ begun * length ≤ pulled

namespace Aligned

variable {length : Nat} {nanos : Int} {blocks : Option Nat} {bus pulled begun : Nat}
  {s : Stream σ}

/-- The bus holds a whole block. -/
theorem view (aligned : Aligned length nanos blocks bus pulled begun s) :
    ∃ block, s.mixer.mainBus? s.bus = some block ∧ block.singles.length = length := by
  obtain ⟨block, held⟩ : ∃ block, s.mixer.mainBus? s.bus = some block :=
    ⟨_, List.getElem?_eq_getElem (aligned.onBus ▸ aligned.exist)⟩
  refine ⟨block, held, ?_⟩
  rw [Block.length_singles, aligned.reachable.size_mainBus? held, ← aligned.blockLength]
  exact Nat.mul_comm _ _

theorem rest_nil (aligned : Aligned length nanos blocks bus pulled begun s)
    (full : s.position = length) : s.rest = [] := by
  obtain ⟨block, held, size⟩ := aligned.view
  simp [rest, held, full, size]

/-- A call to the mixer does not touch the block. -/
theorem configure (aligned : Aligned length nanos blocks bus pulled begun s) (action : Action σ)
    (quiet : action.isRender = false) :
    Aligned length nanos blocks bus pulled begun { s with mixer := s.mixer.act action } ∧
      rest { s with mixer := s.mixer.act action } = s.rest := by
  obtain ⟨_, _, _, writes, -⟩ := s.mixer.act_edit action fun pts same => by
    rw [same] at quiet
    nomatch quiet
  refine ⟨⟨.act action aligned.reachable, ?_, ?_, aligned.onBus, ?_, aligned.remaining,
    aligned.nextPts, aligned.within, aligned.started, aligned.inside, aligned.place⟩, ?_⟩
  · unfold Stream.blockLength
    rw [writes.settings]
    exact aligned.blockLength
  · rw [writes.settings]
    exact aligned.duration
  · rw [writes.mainBuses]
    exact aligned.exist
  · unfold rest Mixer.mainBus?
    rw [writes.mainBuses]

theorem place_within (aligned : Aligned length nanos blocks bus pulled begun s)
    (within : s.position < length) : pulled + length = begun * length + s.position := by
  rcases aligned.place with place | ⟨-, full, -⟩
  · exact place
  · omega

/-- Within a block, the pulls tell the position in it. -/
theorem offset (aligned : Aligned length nanos blocks bus pulled begun s)
    (within : s.position < length) : pulled % length = s.position := by
  rw [← Nat.add_mod_right, aligned.place_within within, Nat.mul_comm, Nat.mul_add_mod,
    Nat.mod_eq_of_lt within]

/-- Within a block, the next sample is the first of what is left of it. -/
theorem next_within (aligned : Aligned length nanos blocks bus pulled begun s)
    (within : s.position < length) :
    Use.begins length blocks pulled = false ∧ ∃ x s', s.next = (some x, s') ∧
      s.rest = x :: s'.rest ∧ s'.mixer = s.mixer ∧
      Aligned length nanos blocks bus (pulled + 1) begun s' := by
  obtain ⟨block, held, size⟩ := aligned.view
  have started := aligned.started
  have place := aligned.place_within within
  have inside : s.position < block.singles.length := size ▸ within
  have single : s.current? = some block.singles[s.position] := by
    rw [current?, held, Option.bind_some, Block.single?_eq_getElem?, List.getElem?_eq_getElem]
  refine ⟨?_, block.singles[s.position], { s with position := s.position + 1 }, ?_, ?_, rfl,
    aligned.reachable, aligned.blockLength, aligned.duration, aligned.onBus, aligned.exist,
    aligned.remaining, aligned.nextPts, aligned.within, Nat.succ_pos _, within, .inl ?_⟩
  · simp only [Use.begins, aligned.offset within, Bool.and_eq_false_imp, beq_iff_eq]
    omega
  · rw [next, aligned.blockLength, if_pos within]
    simp only [single]
  · simp only [rest, held, Option.elim_some]
    exact List.drop_eq_getElem_cons _
  · show pulled + 1 + length = begun * length + (s.position + 1)
    omega

/-- Behind the last block, there is no sample. -/
theorem next_over (aligned : Aligned length nanos blocks bus pulled begun s)
    (full : s.position = length) (spent : blocks = some begun) :
    Use.begins length blocks pulled = false ∧ s.next = (none, s) ∧
      Aligned length nanos blocks bus (pulled + 1) begun s := by
  have passed : begun * length ≤ pulled := by
    rcases aligned.place with place | ⟨-, -, passed⟩ <;> omega
  have pos : 0 < length := full ▸ aligned.started
  refine ⟨?_, ?_, { aligned with place := .inr ⟨spent, full, Nat.le_succ_of_le passed⟩ }⟩
  · have ended : begun ≤ pulled / length := (Nat.le_div_iff_mul_le pos).mpr passed
    simp [Use.begins, spent, ended]
  · have none_left : s.remaining = some 0 := by
      rw [aligned.remaining, spent, Option.map_some, Nat.sub_self]
    rw [next, aligned.blockLength, if_neg (by omega), renderBlock?, if_pos none_left]

/-- Between two blocks, the next sample is the first of what the bus holds after another block. -/
theorem next_begins (aligned : Aligned length nanos blocks bus pulled begun s)
    (full : s.position = length) (more : blocks ≠ some begun) :
    Use.begins length blocks pulled = true ∧ pulled / length = begun ∧
      ∃ x s', s.next = (some x, s') ∧
        s'.mixer = s.mixer.render (some (begun * nanos)) ∧
        (s'.mixer.mainBus? bus).elim [] Block.singles = x :: s'.rest ∧
        Aligned length nanos blocks bus (pulled + 1) (begun + 1) s' := by
  have pos : 0 < length := full ▸ aligned.started
  have place : pulled = begun * length := by
    rcases aligned.place with place | ⟨spent, -⟩
    · omega
    · exact absurd spent more
  have left : ∀ n, blocks = some n → begun < n := by
    intro n same
    have within := aligned.within n same
    rcases Nat.lt_or_eq_of_le within with less | rfl
    · exact less
    · exact absurd same more
  have some_left : s.remaining ≠ some 0 := by
    rw [aligned.remaining]
    intro none_left
    obtain ⟨n, same, gone⟩ := Option.map_eq_some_iff.mp none_left
    have := left n same
    omega
  have quotient : pulled / length = begun := by rw [place, Nat.mul_div_cancel _ pos]
  obtain ⟨block, held, size, -⟩ :=
    aligned.reachable.mainBus?_render (some s.nextPts) aligned.exist
  have settings : (s.mixer.render (some s.nextPts)).settings = s.mixer.settings :=
    aligned.reachable.wellFormed.settings_act (.render (some s.nextPts))
  have singles : block.singles.length = length := by
    rw [Block.length_singles, size, ← aligned.blockLength]
    exact Nat.mul_comm _ _
  have buses : bus < (s.mixer.render (some s.nextPts)).mainBuses.length :=
    (List.getElem?_eq_some_iff.mp held).1
  have reachable : Mixer.Reachable (s.mixer.render (some s.nextPts)) :=
    .act (.render (some s.nextPts)) aligned.reachable
  have first : 0 < block.singles.length := singles ▸ pos
  refine ⟨?_, quotient, block.singles[0],
    { s with
      remaining := s.remaining.map (· - 1)
      mixer := s.mixer.render (some s.nextPts)
      nextPts := s.nextPts +
        framesToNanos s.mixer.settings.frameCount s.mixer.settings.sampleRate
      position := 1 }, ?_, ?_, ?_, reachable, ?_, ?_, aligned.onBus, buses, ?_, ?_, ?_, Nat.one_pos,
    pos, .inl ?_⟩
  · have even : pulled % length = 0 := by rw [place, Nat.mul_mod_left]
    simp only [Use.begins, even, quotient, Option.all_eq_true, decide_eq_true_eq, beq_self_eq_true,
      Bool.true_and]
    exact left
  · rw [next, aligned.blockLength, if_neg (by omega), renderBlock?, if_neg some_left]
    have single : block.single? 0 = some block.singles[0] := by
      rw [Block.single?_eq_getElem?, List.getElem?_eq_getElem]
    simp only [current?, aligned.onBus, held, Option.bind_some, single, Nat.zero_add]
  · rw [aligned.nextPts]
  · simp only [rest, aligned.onBus, held, Option.elim_some]
    rw [← List.drop_eq_getElem_cons, List.drop_zero]
  · unfold Stream.blockLength
    simp only [settings]
    exact aligned.blockLength
  · simp only [settings]
    exact aligned.duration
  · simp only [aligned.remaining, Option.map_map, Function.comp_def, Nat.sub_sub]
  · simp only [aligned.nextPts, aligned.duration, Int.natCast_succ, Int.add_mul, Int.one_mul]
  · exact left
  · simp only [place, Nat.add_mul]
    omega

/-- Behind the last block, no more is rendered. -/
theorem views_over (spent : blocks = some begun) (pos : 0 < length)
    (passed : begun * length ≤ pulled) (m : Mixer σ) (uses : List (Use σ)) :
    m.views bus (Use.actions length nanos blocks pulled uses) = [] := by
  induction uses generalizing pulled m with
  | nil => rfl
  | cons use uses ih =>
    cases use with
    | pull =>
      have ended : begun ≤ pulled / length := (Nat.le_div_iff_mul_le pos).mpr passed
      have later : Use.begins length blocks pulled = false := by simp [Use.begins, spent, ended]
      simp only [Use.actions, later]
      exact ih (Nat.le_succ_of_le passed) m
    | configure action quiet =>
      simp only [Use.actions, Mixer.views, quiet]
      exact ih passed (m.act action)

/-- From an aligned stream on, the pulls are answered by what is left of the block and by the blocks
after it, and the stream stays aligned. -/
theorem after (aligned : Aligned length nanos blocks bus pulled begun s) (uses : List (Use σ)) :
    let views := s.mixer.views bus (Use.actions length nanos blocks pulled uses)
    (s.run uses).2.mixer = s.mixer.run (Use.actions length nanos blocks pulled uses) ∧
      (s.run uses).1 = (List.range (Use.pulls uses)).map (fun i => (s.rest ++ views.flatten)[i]?) ∧
      (∀ view ∈ views, view.length = length) ∧
      Aligned length nanos blocks bus (pulled + Use.pulls uses) (begun + views.length)
        (s.run uses).2 := by
  have cons (x : Float32) (xs : List Float32) (n : Nat) :
      (List.range (n + 1)).map (fun i => (x :: xs)[i]?) =
        some x :: (List.range n).map fun i => xs[i]? := by
    rw [List.range_succ_eq_map, List.map_cons, List.map_map]
    rfl
  induction uses generalizing pulled begun s with
  | nil => exact ⟨rfl, rfl, nofun, aligned⟩
  | cons use uses ih =>
    cases use with
    | configure action quiet =>
      obtain ⟨aligned', same⟩ := aligned.configure action quiet
      have later := ih aligned'
      rw [same] at later
      simpa only [run, Use.actions, Use.pulls, Mixer.views, quiet, Bool.false_eq_true, if_false,
        Mixer.run, List.foldl_cons] using later
    | pull =>
      have total : pulled + Use.pulls (.pull :: uses) = pulled + 1 + Use.pulls uses := by
        show pulled + (Use.pulls uses + 1) = _
        omega
      rw [total]
      rcases Nat.lt_or_eq_of_le aligned.inside with within | full
      · obtain ⟨later, x, s', next, rest, mixer, aligned'⟩ := aligned.next_within within
        have after := ih aligned'
        simp only [run, next, Use.actions, later, Use.pulls, rest, List.cons_append, cons]
        rw [mixer] at after
        exact ⟨after.1, congrArg (some x :: ·) after.2.1, after.2.2⟩
      · by_cases spent : blocks = some begun
        · obtain ⟨later, next, aligned'⟩ := aligned.next_over full spent
          have passed : begun * length ≤ pulled + 1 := by
            rcases aligned'.place with place | ⟨-, -, passed⟩ <;> omega
          have none_left :
              s.mixer.views bus (Use.actions length nanos blocks (pulled + 1) uses) = [] :=
            views_over spent (full ▸ aligned.started) passed s.mixer uses
          have after := ih aligned'
          simp only [run, next, Use.actions, later, Use.pulls, Bool.false_eq_true, if_false]
          simp only [none_left, aligned.rest_nil full] at after ⊢
          refine ⟨after.1, ?_, after.2.2⟩
          rw [after.2.1, List.range_succ_eq_map, List.map_cons, List.map_map]
          rfl
        · obtain ⟨begins, number, x, s', next, mixer, view, aligned'⟩ :=
            aligned.next_begins full spent
          have after := ih aligned'
          have size : (x :: s'.rest).length = length := by
            obtain ⟨block, held, size⟩ := aligned'.view
            rw [aligned'.onBus] at held
            rw [← view, held]
            exact size
          rw [mixer] at after view
          simp only [run, next, Use.actions, begins, number, if_true, Use.pulls, Mixer.views,
            Mixer.act, Action.isRender, aligned.rest_nil full, view, List.flatten_cons,
            List.nil_append, List.cons_append, cons, List.length_cons, List.mem_cons,
            forall_eq_or_imp]
          refine ⟨after.1, congrArg (some x :: ·) after.2.1, ⟨size, after.2.2.1⟩, ?_⟩
          have aligned'' := after.2.2.2
          rw [Nat.add_assoc begun, Nat.add_comm 1] at aligned''
          exact aligned''

/-- The length of the span says whether there is a next sample, and where the next block begins. -/
theorem span (aligned : Aligned length nanos blocks bus pulled begun s) :
    (s.spanLength = 0 ↔ s.next.1 = none) ∧
      (s.next.1 ≠ none → s.spanLength = length - pulled % length) := by
  have started := aligned.started
  rcases Nat.lt_or_eq_of_le aligned.inside with within | full
  · obtain ⟨-, x, s', next, -⟩ := aligned.next_within within
    rw [spanLength, aligned.blockLength, if_pos within, next, aligned.offset within]
    simp only [reduceCtorEq, iff_false, ne_eq, not_false_eq_true, forall_const, and_true]
    omega
  · rw [spanLength, aligned.blockLength, if_neg (by omega), aligned.remaining]
    by_cases spent : blocks = some begun
    · obtain ⟨-, next, -⟩ := aligned.next_over full spent
      simp [spent, next]
    · obtain ⟨begins, -, x, s', next, -⟩ := aligned.next_begins full spent
      have even : pulled % length = 0 := by
        simp only [Use.begins, Bool.and_eq_true, beq_iff_eq] at begins
        exact begins.1
      have some_left : blocks.map (· - begun) ≠ some 0 := by
        intro none_left
        obtain ⟨n, same, gone⟩ := Option.map_eq_some_iff.mp none_left
        have within := aligned.within n same
        exact spent (by rw [same]; congr 1; omega)
      rw [if_neg some_left, next, even]
      simp only [reduceCtorEq, iff_false, ne_eq, not_false_eq_true, forall_const, Nat.sub_zero,
        and_true]
      omega

/-- How many blocks were begun. -/
theorem begun_eq (aligned : Aligned length nanos blocks bus pulled begun s) :
    begun = blocks.elim ((pulled + length - 1) / length) (min · ((pulled + length - 1) / length)) ∧
      min pulled (begun * length) = blocks.elim pulled fun n => min pulled (n * length) := by
  have started := aligned.started
  have inside := aligned.inside
  have pos : 0 < length := by omega
  rcases aligned.place with place | ⟨spent, full, passed⟩
  · have number : (pulled + length - 1) / length = begun := by
      rw [place, Nat.add_sub_assoc started, Nat.mul_comm, Nat.mul_add_div pos,
        Nat.div_eq_of_lt (by omega), Nat.add_zero]
    cases left : blocks with
    | none => exact ⟨number.symm, Nat.min_eq_left (by omega)⟩
    | some n =>
      have within := aligned.within n left
      have product : begun * length ≤ n * length := Nat.mul_le_mul_right _ within
      refine ⟨?_, ?_⟩
      · rw [Option.elim_some, number, Nat.min_eq_right within]
      · rw [Option.elim_some, Nat.min_eq_left (by omega), Nat.min_eq_left (by omega)]
  · rw [spent, Option.elim_some, Option.elim_some]
    refine ⟨(Nat.min_eq_left ?_).symm, rfl⟩
    exact (Nat.le_div_iff_mul_le pos).mpr (by omega)

/-- A stream before its first block. -/
theorem new {m : Mixer σ} (reachable : m.Reachable) (exist : bus < m.mainBuses.length)
    (blocks : Option Nat) :
    Aligned (m.settings.frameCount * maxMixChannels)
      (framesToNanos m.settings.frameCount m.settings.sampleRate) blocks bus 0 0
      (Stream.new m bus blocks) where
  reachable := reachable
  blockLength := rfl
  duration := rfl
  onBus := rfl
  exist := exist
  remaining := by cases blocks <;> rfl
  nextPts := (Int.zero_mul _).symm
  within _ _ := Nat.zero_le _
  started := Nat.mul_pos (Nat.pos_of_ne_zero
    (Settings.fault?_eq_none.mp reachable.wellFormed.settings).1) (by decide)
  inside := Nat.le_refl _
  place := .inl (by show 0 + _ = 0 * _ + m.settings.frameCount * maxMixChannels; omega)

end Aligned

/-- Without its bus, a stream has no sample to hand out. -/
theorem run_missing {s : Stream σ} (reachable : s.mixer.Reachable)
    (missing : s.mixer.mainBuses.length ≤ s.bus) (uses : List (Use σ)) :
    (s.run uses).1 = List.replicate (Use.pulls uses) none := by
  have kept {m : Mixer σ} (reachable : m.Reachable) (action : Action σ) :
      (m.act action).mainBuses.length = m.mainBuses.length := by
    rcases reachable.wellFormed.act_cases action with ⟨_, -, rendered⟩ | ⟨_, _, _, writes, -⟩
    · exact rendered.mainBuses
    · rw [writes.mainBuses]
  induction uses generalizing s with
  | nil => rfl
  | cons use uses ih =>
    cases use with
    | configure action quiet =>
      exact ih (.act action reachable) (by simpa only [kept reachable action] using missing)
    | pull =>
      have nothing {s : Stream σ} (missing : s.mixer.mainBuses.length ≤ s.bus) :
          s.current? = none := by
        rw [current?, Mixer.mainBus?, List.getElem?_eq_none missing, Option.bind_none]
      have next : s.next.1 = none ∧ s.next.2.mixer.Reachable ∧
          s.next.2.mixer.mainBuses.length ≤ s.next.2.bus := by
        unfold Stream.next
        split
        · exact ⟨rfl, reachable, missing⟩
        · rename_i s' found
          have moved : s'.mixer.Reachable ∧ s'.mixer.mainBuses.length ≤ s'.bus := by
            split at found
            · obtain rfl := Option.some.inj found
              exact ⟨reachable, missing⟩
            · unfold renderBlock? at found
              split at found
              · nomatch found
              · obtain rfl := Option.some.inj found
                have same := kept reachable (.render (some s.nextPts))
                exact ⟨.act (.render (some s.nextPts)) reachable,
                  Nat.le_trans (Nat.le_of_eq same) missing⟩
          rw [nothing moved.2]
          exact ⟨rfl, moved⟩
      show s.next.1 :: (s.next.2.run uses).1 = _
      rw [next.1, ih next.2.1 next.2.2]
      rfl

/-- The blocks that a stream hands out, and how far it has come in them. -/
theorem run_blocks {m : Mixer σ} (reachable : m.Reachable) {bus : Nat}
    (exist : bus < m.mainBuses.length) (blocks : Option Nat) (uses : List (Use σ)) :
    let length := m.settings.frameCount * maxMixChannels
    let nanos := framesToNanos m.settings.frameCount m.settings.sampleRate
    let actions := Use.actions length nanos blocks 0 uses
    let views := m.views bus actions
    let pulls := Use.pulls uses
    let answers := ((Stream.new m bus blocks).run uses).1
    let after := ((Stream.new m bus blocks).run uses).2
    answers = (List.range pulls).map (views.flatten[·]?) ∧
      after.mixer = m.run actions ∧
      (∀ view ∈ views, view.length = length) ∧
      views.length =
        blocks.elim ((pulls + length - 1) / length) (min · ((pulls + length - 1) / length)) ∧
      (answers.filterMap id).length = blocks.elim pulls (fun n => min pulls (n * length)) ∧
      (after.spanLength = 0 ↔ after.next.1 = none) ∧
      (after.next.1 ≠ none → after.spanLength = length - pulls % length) := by
  intro length nanos actions views pulls answers after
  have start := Aligned.new reachable exist blocks
  obtain ⟨mixer, samples, whole, aligned⟩ := start.after uses
  rw [start.rest_nil rfl, List.nil_append] at samples
  rw [Nat.zero_add, Nat.zero_add] at aligned
  have samples : answers = (List.range pulls).map (views.flatten[·]?) := samples
  have whole : ∀ view ∈ views, view.length = length := whole
  obtain ⟨number, few⟩ := aligned.begun_eq
  obtain ⟨ended, boundary⟩ := aligned.span
  refine ⟨samples, mixer, whole, number, ?_, ended, boundary⟩
  rw [samples, length_filterMap_getElem?, length_flatten_whole whole]
  exact few

/-- However it is used, a stream hands out the blocks of its bus as they were right after they were
rendered. -/
theorem run_exact {m : Mixer σ} (reachable : m.Reachable) (bus : Nat) (blocks : Option Nat)
    (uses : List (Use σ)) :
    let length := m.settings.frameCount * maxMixChannels
    let nanos := framesToNanos m.settings.frameCount m.settings.sampleRate
    let actions := Use.actions length nanos blocks 0 uses
    let views := m.views bus actions
    let pulls := Use.pulls uses
    let answers := ((Stream.new m bus blocks).run uses).1
    let after := ((Stream.new m bus blocks).run uses).2
    (bus < m.mainBuses.length →
      answers = (List.range pulls).map (views.flatten[·]?) ∧
      after.mixer = m.run actions ∧
      (∀ view ∈ views, view.length = length) ∧
      views.length =
        blocks.elim ((pulls + length - 1) / length) (min · ((pulls + length - 1) / length)) ∧
      (answers.filterMap id).length = blocks.elim pulls (fun n => min pulls (n * length)) ∧
      (after.spanLength = 0 ↔ after.next.1 = none) ∧
      (after.next.1 ≠ none → after.spanLength = length - pulls % length)) ∧
    (m.mainBuses.length ≤ bus → answers = List.replicate pulls none) := by
  intro length nanos actions views pulls answers after
  exact ⟨fun exist => run_blocks reachable exist blocks uses,
    fun missing => run_missing reachable missing uses⟩

/-- Two blocks of two frames, pulled out in nine pulls; the track is switched off within the first
block and is heard until its end. -/
theorem run_exact_switchedOff :
    let slot : Slot := ⟨0, by decide⟩
    let uses : List (Use Clip) := [.pull, .pull, .configure (.setEnabled slot false) rfl] ++
      List.replicate 7 .pull
    ∃ m : Mixer Clip, m.Reachable ∧ 0 < m.mainBuses.length ∧
      (m.track? slot).any (·.enabled) = true ∧
      let actions := Use.actions 4 (framesToNanos 2 48000) (some 2) 0 uses
      let answers := ((Stream.new m 0 (some 2)).run uses).1
      actions.map (fun | .render pts => pts | _ => none) = [some 0, none, some 41666] ∧
        (m.views 0 actions).length = 2 ∧
        answers = (List.range 9).map ((m.views 0 actions).flatten[·]?) ∧
        (answers.filterMap id).length = 8 := by
  intro slot uses
  obtain ⟨m, reachable, settings, exist, enabled⟩ : ∃ m : Mixer Clip, m.Reachable ∧
      m.settings = { frameCount := 2 } ∧ 0 < m.mainBuses.length ∧
      (m.track? slot).any (·.enabled) = true :=
    ⟨_, .run (.new (rfl : Mixer.new { frameCount := 2 } none = .ok _))
      [.allocate .mono .pcm16 0, .attach slot (some (.ofSamples 1 (.pcm16 #[1, 2, 3]) true)),
        .setEnabled slot true],
      by decide +kernel, by decide +kernel, by decide +kernel⟩
  obtain ⟨samples, -, -, number, heard, -⟩ :=
    (run_exact reachable 0 (some 2) uses).1 exist
  have pulled : Use.pulls uses = 9 := rfl
  rw [pulled, settings] at number heard
  rw [settings] at samples
  exact ⟨m, reachable, exist, enabled, by decide +kernel, number.trans (by decide),
    samples, heard.trans (by decide)⟩

/-- Samples that are all there are taken. -/
theorem take_eq {s : Stream σ} {xs : List Float32}
    (answers : (s.run (List.replicate xs.length .pull)).1 = xs.map some) :
    (take xs.length s).1 = xs := by
  induction xs generalizing s with
  | nil => rfl
  | cons x xs ih =>
    rcases next : s.next with ⟨_ | y, s'⟩
    · simp [List.replicate_succ, run, next] at answers
    · simp only [List.length_cons, List.replicate_succ, run, next, List.map_cons,
        List.cons.injEq, Option.some.injEq] at answers
      simp only [List.length_cons, take, next, answers.1, ih answers.2]

/-- The samples of a number of blocks are what the bus held after each of them. -/
theorem renderSamples_eq {m : Mixer σ} (reachable : m.Reachable) {bus : Nat}
    (exist : bus < m.mainBuses.length) (blocks : Nat) :
    let length := m.settings.frameCount * maxMixChannels
    let nanos := framesToNanos m.settings.frameCount m.settings.sampleRate
    renderSamples m bus blocks = (m.views bus (Use.actions length nanos (some blocks) 0
      (List.replicate (blocks * length) .pull))).flatten := by
  intro length nanos
  let uses : List (Use σ) := List.replicate (blocks * length) .pull
  let views := m.views bus (Use.actions length nanos (some blocks) 0 uses)
  have pulls (n : Nat) : Use.pulls (List.replicate n (.pull : Use σ)) = n := by
    induction n with
    | zero => rfl
    | succ n ih => exact congrArg (· + 1) ih
  obtain ⟨samples, -, whole, number, heard, -⟩ := run_blocks reachable exist (some blocks) uses
  have pulled : Use.pulls uses = blocks * length := pulls _
  rw [pulled] at samples number heard
  have total : views.flatten.length = blocks * length := by
    have few : views.length * length ≤ blocks * length :=
      Nat.mul_le_mul_right _ (Nat.le_trans (Nat.le_of_eq number) (Nat.min_le_left _ _))
    rw [samples, length_filterMap_getElem?, Option.elim_some, Nat.min_self] at heard
    rw [← length_flatten_whole whole] at few
    exact Nat.le_antisymm few (heard ▸ Nat.min_le_right _ _)
  have answers : ((Stream.new m bus (some blocks)).run
      (List.replicate views.flatten.length .pull)).1 = views.flatten.map some := by
    rw [total]
    refine samples.trans ?_
    apply List.ext_getElem
    · rw [List.length_map, List.length_map, List.length_range, total]
    · intro i inside inside'
      rw [List.length_map] at inside'
      rw [List.getElem_map, List.getElem_range, List.getElem_map]
      exact List.getElem?_eq_getElem inside'
  have taken := take_eq answers
  rw [total] at taken
  exact taken

end Stream

end Mixdown
