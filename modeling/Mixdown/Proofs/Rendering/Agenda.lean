import Mathlib.Data.List.Basic
import Mathlib.Data.List.TakeWhile
import Mixdown.Proofs.Rendering.Conducting

/-!
# Events in their turn

A timeline is brought to one frame after another. `TrackSpec.OnTime` says what of a track happens in
which of these calls, in terms of the scene alone: the events by their numbers in the scene and by
their frames. `Agenda` is the list of events that is worked off, which the stable sort puts into
the order of the frames and then of the scene.
-/

namespace Mixdown

variable {σ : Type}

/-- Call number `i` of those with the given frames is the first that reaches a frame. -/
def FirstReaches (frames : List Nat) (i frame : Nat) : Prop :=
  (∃ reached, frames[i]? = some reached ∧ frame ≤ reached) ∧
    ∀ k < i, ∀ earlier, frames[k]? = some earlier → earlier < frame

theorem firstReaches_zero {first frame : Nat} {frames : List Nat} :
    FirstReaches (first :: frames) 0 frame ↔ frame ≤ first := by
  simp [FirstReaches]

theorem firstReaches_succ {first frame i : Nat} {frames : List Nat} :
    FirstReaches (first :: frames) (i + 1) frame ↔
      first < frame ∧ FirstReaches frames i frame := by
  unfold FirstReaches
  simp only [List.getElem?_cons_succ, Nat.forall_lt_succ_left', List.getElem?_cons_zero,
    Option.some.injEq, forall_eq']
  exact and_left_comm

/-- What happens to a track in one call: whether it is started, and the numbers of the events that
take effect, one after another. -/
structure Turn where
  starts : Bool
  events : List Nat
deriving DecidableEq, Repr

namespace TrackSpec

/-- One event of a track comes before another, by its frame and then by its place in the scene. -/
def Before (spec : TrackSpec) (rate : UInt32) (a b : Nat) : Prop :=
  ∃ e e', spec.events[a]? = some e ∧ spec.events[b]? = some e' ∧
    (msToFrames e.atMs rate < msToFrames e'.atMs rate ∨
      msToFrames e.atMs rate = msToFrames e'.atMs rate ∧ a < b)

/-- A turn enables the track by an event. -/
def EnabledIn (spec : TrackSpec) (turn : Turn) : Prop :=
  ∃ j ∈ turn.events, ∃ e, spec.events[j]? = some e ∧ e.enabled = some true

/-- The turns of a track whose timeline is brought to one frame after another: each event takes
effect in the first call that reaches its frame and in no other, all of them come one after another
in their order, and the track is started in the first call that reaches its start, unless an event
of a call before has enabled it. -/
structure OnTime (spec : TrackSpec) (rate : UInt32) (frames : List Nat) (turns : List Turn) :
    Prop where
  length : turns.length = frames.length
  fires : ∀ i turn, turns[i]? = some turn → ∀ j, j ∈ turn.events ↔
    ∃ e, spec.events[j]? = some e ∧ FirstReaches frames i (msToFrames e.atMs rate)
  inOrder : (turns.flatMap Turn.events).Pairwise (spec.Before rate)
  starts : ∀ i turn, turns[i]? = some turn → (turn.starts = true ↔
    FirstReaches frames i (msToFrames spec.startMs rate) ∧
      ∀ k < i, ∀ earlier, turns[k]? = some earlier → ¬spec.EnabledIn earlier)

end TrackSpec

/-- The calls that the mixer gets in a turn of a track. -/
def Turn.calls (turn : Turn) (spec : TrackSpec) (slot : Slot) : List (Action σ) :=
  (if turn.starts then [.setEnabled slot true] else []) ++
    turn.events.flatMap fun j => spec.events[j]?.elim [] (·.calls slot)

/-- A call that brings a timeline to a frame, and what is done to the mixer before it. -/
structure Advance (σ : Type) where
  before : List (Action σ)
  frame : Nat

/-- Bring a timeline to one frame after another, up to the first call that is refused. -/
def Timeline.follow [Provider σ] (t : Timeline) (m : Mixer σ) :
    List (Advance σ) → Except MixerError (Timeline × Mixer σ)
  | [] => .ok (t, m)
  | step :: rest => do
    let (t, m) ← t.advance step.frame (m.run step.before)
    t.follow m rest

/-- The events to come with their numbers in the scene. -/
abbrev Agenda := List (TimedEvent × Nat)

namespace Agenda

/-- The events are in the order of their frames and, at the same frame, of the scene. -/
def Ordered (agenda : Agenda) : Prop :=
  agenda.Pairwise fun a b => a.1.frame < b.1.frame ∨ a.1.frame = b.1.frame ∧ a.2 < b.2

/-- The events that are due at a frame. -/
def due (agenda : Agenda) (frame : Nat) : Agenda := agenda.takeWhile fun e => e.1.frame ≤ frame

/-- The events that are still to come after a frame. -/
def later (agenda : Agenda) (frame : Nat) : Agenda := agenda.dropWhile fun e => e.1.frame ≤ frame

theorem due_append_later (agenda : Agenda) (frame : Nat) :
    agenda.due frame ++ agenda.later frame = agenda := List.takeWhile_append_dropWhile

theorem Ordered.later {agenda : Agenda} (ordered : agenda.Ordered) (frame : Nat) :
    (agenda.later frame).Ordered := ordered.sublist (List.dropWhile_sublist _)

/-- An event that has not come by a frame comes later, and so do all events behind it. -/
theorem Ordered.lt_of_mem_later {agenda : Agenda} (ordered : agenda.Ordered) {frame : Nat}
    {e : TimedEvent × Nat} (listed : e ∈ agenda.later frame) : frame < e.1.frame := by
  induction agenda with
  | nil => nomatch listed
  | cons first rest ih =>
    obtain ⟨behind, ordered⟩ := List.pairwise_cons.mp ordered
    unfold Agenda.later at listed
    rw [List.dropWhile_cons] at listed
    split at listed
    · exact ih ordered listed
    · rename_i late
      simp only [decide_eq_true_eq, Nat.not_le] at late
      rcases List.mem_cons.mp listed with rfl | listed
      · exact late
      · have := behind e listed
        omega

theorem mem_due_iff {agenda : Agenda} (ordered : agenda.Ordered) {frame : Nat}
    {e : TimedEvent × Nat} : e ∈ agenda.due frame ↔ e ∈ agenda ∧ e.1.frame ≤ frame := by
  constructor
  · intro listed
    exact ⟨(List.takeWhile_sublist _).subset listed,
      by simpa using List.mem_takeWhile_imp listed⟩
  · rintro ⟨listed, reached⟩
    rw [← agenda.due_append_later frame, List.mem_append] at listed
    refine listed.resolve_right fun listed => ?_
    have := ordered.lt_of_mem_later listed
    omega

theorem mem_later_iff {agenda : Agenda} (ordered : agenda.Ordered) {frame : Nat}
    {e : TimedEvent × Nat} : e ∈ agenda.later frame ↔ e ∈ agenda ∧ frame < e.1.frame := by
  constructor
  · intro listed
    exact ⟨(List.dropWhile_sublist _).subset listed, ordered.lt_of_mem_later listed⟩
  · rintro ⟨listed, late⟩
    rw [← agenda.due_append_later frame, List.mem_append] at listed
    refine listed.resolve_left fun listed => ?_
    have := (mem_due_iff ordered).mp listed
    omega

/-- The turns of a track that starts at a frame, while the agenda is worked off. -/
def turns (startFrame : Nat) : Bool → Agenda → List Nat → List Turn
  | _, _, [] => []
  | started, agenda, frame :: frames =>
    { starts := !started && startFrame ≤ frame
      events := (agenda.due frame).map Prod.snd } ::
      turns startFrame
        (started || startFrame ≤ frame ||
          (agenda.due frame).any fun e => e.1.event.enabled == some true)
        (agenda.later frame) frames

section Turns

variable {startFrame : Nat} {started : Bool} {agenda : Agenda} {frames : List Nat}

theorem length_turns : (turns startFrame started agenda frames).length = frames.length := by
  induction frames generalizing started agenda with
  | nil => rfl
  | cons frame frames ih => exact congrArg (· + 1) ih

theorem turns_take (n : Nat) : turns startFrame started agenda (frames.take n) =
    (turns startFrame started agenda frames).take n := by
  induction frames generalizing started agenda n with
  | nil => simp [turns]
  | cons frame frames ih =>
    cases n with
    | zero => rfl
    | succ n => exact congrArg (_ :: ·) (ih n)

/-- The agenda is worked off from its front. -/
theorem flatMap_turns_prefix :
    (turns startFrame started agenda frames).flatMap Turn.events <+: agenda.map Prod.snd := by
  induction frames generalizing started agenda with
  | nil => exact List.nil_prefix
  | cons frame frames ih =>
    rw [turns, List.flatMap_cons]
    conv => rhs; rw [← agenda.due_append_later frame, List.map_append]
    exact (List.prefix_append_right_inj _).mpr ih

/-- An event takes effect in the first call that reaches its frame. -/
theorem mem_turns (ordered : agenda.Ordered) {i : Nat} {turn : Turn}
    (taken : (turns startFrame started agenda frames)[i]? = some turn) {j : Nat} :
    j ∈ turn.events ↔ ∃ e, (e, j) ∈ agenda ∧ FirstReaches frames i e.frame := by
  induction frames generalizing started agenda i with
  | nil => nomatch taken
  | cons frame frames ih =>
    cases i with
    | zero =>
      obtain rfl := Option.some.inj taken
      simp only [List.mem_map, Prod.exists, exists_eq_right, mem_due_iff ordered,
        firstReaches_zero]
    | succ i =>
      rw [ih (ordered.later frame) taken]
      simp only [mem_later_iff ordered, firstReaches_succ, and_assoc]

/-- The numbers of an agenda are those of the events of a track. -/
def Numbers (agenda : Agenda) (spec : TrackSpec) : Prop :=
  ∀ e ∈ agenda, spec.events[e.2]? = some e.1.event

theorem Numbers.due {spec : TrackSpec} (numbers : agenda.Numbers spec) (frame : Nat) :
    (agenda.due frame).Numbers spec :=
  fun e listed => numbers e ((List.takeWhile_sublist _).subset listed)

theorem Numbers.later {spec : TrackSpec} (numbers : agenda.Numbers spec) (frame : Nat) :
    (agenda.later frame).Numbers spec :=
  fun e listed => numbers e ((List.dropWhile_sublist _).subset listed)

/-- An agenda that is worked off as a whole enables the track if one of its events does. -/
theorem Numbers.enabledIn {spec : TrackSpec} (numbers : agenda.Numbers spec) (starts : Bool) :
    spec.EnabledIn ⟨starts, agenda.map Prod.snd⟩ ↔
      agenda.any (fun e => e.1.event.enabled == some true) = true := by
  simp only [TrackSpec.EnabledIn, List.any_eq_true, beq_iff_eq, List.mem_map]
  constructor
  · rintro ⟨_, ⟨e, listed, rfl⟩, event, found, enables⟩
    obtain rfl := Option.some.inj ((numbers e listed).symm.trans found)
    exact ⟨e, listed, enables⟩
  · rintro ⟨e, listed, enables⟩
    exact ⟨e.2, ⟨e, listed, rfl⟩, e.1.event, numbers e listed, enables⟩

/-- The track is started in the first call that reaches its start, unless it is enabled before. -/
theorem starts_turns {spec : TrackSpec} (numbers : agenda.Numbers spec) {i : Nat} {turn : Turn}
    (taken : (turns startFrame started agenda frames)[i]? = some turn) :
    turn.starts = true ↔ started = false ∧ FirstReaches frames i startFrame ∧
      ∀ k < i, ∀ earlier, (turns startFrame started agenda frames)[k]? = some earlier →
        ¬spec.EnabledIn earlier := by
  induction frames generalizing started agenda i with
  | nil => nomatch taken
  | cons frame frames ih =>
    cases i with
    | zero =>
      obtain rfl := Option.some.inj taken
      simp [firstReaches_zero]
    | succ i =>
      rw [ih (numbers.later frame) taken]
      simp only [turns, firstReaches_succ, Nat.forall_lt_succ_left', List.getElem?_cons_zero,
        List.getElem?_cons_succ, Option.some.injEq, forall_eq', (numbers.due frame).enabledIn,
        Bool.or_eq_false_iff, decide_eq_false_iff_not, Nat.not_le, Bool.not_eq_true]
      grind

end Turns

end Agenda

namespace TrackSpec

/-- The events of a track with their numbers, in the order in which they are worked off. -/
def agenda (spec : TrackSpec) (rate : UInt32) : Agenda :=
  (spec.events.map fun event => TimedEvent.mk (msToFrames event.atMs rate) event).zipIdx.mergeSort
    (List.zipIdxLE fun a b => a.frame ≤ b.frame)

/-- The numbers do not disturb the order of the events. -/
theorem map_fst_agenda (spec : TrackSpec) (slot : Slot) (rate : UInt32) :
    (spec.agenda rate).map Prod.fst = (Timeline.ofSpec slot spec rate).pending :=
  List.mergeSort_zipIdx

theorem mem_agenda {spec : TrackSpec} {rate : UInt32} {e : TimedEvent × Nat} :
    e ∈ spec.agenda rate ↔ spec.events[e.2]? = some e.1.event ∧
      e.1.frame = msToFrames e.1.event.atMs rate := by
  unfold agenda
  rw [(List.mergeSort_perm _ _).mem_iff, List.mem_zipIdx_iff_getElem?, List.getElem?_map,
    Option.map_eq_some_iff]
  constructor
  · rintro ⟨event, found, same⟩
    rw [← same]
    exact ⟨found, rfl⟩
  · rintro ⟨found, frame⟩
    exact ⟨e.1.event, found, by rw [← frame]⟩

/-- The sort is stable: at the same frame, the order of the scene stays. -/
theorem ordered_agenda (spec : TrackSpec) (rate : UInt32) : (spec.agenda rate).Ordered := by
  have sorted := @List.pairwise_mergeSort _
    (List.zipIdxLE fun a b : TimedEvent => decide (a.frame ≤ b.frame))
    (List.zipIdxLE_trans fun a b c => by simpa using Nat.le_trans)
    (List.zipIdxLE_total fun a b => by simpa using Nat.le_total a.frame b.frame)
    (spec.events.map fun event => TimedEvent.mk (msToFrames event.atMs rate) event).zipIdx
  have distinct : ((spec.agenda rate).map Prod.snd).Nodup := by
    have places := (List.mergeSort_perm (spec.events.map fun event =>
      TimedEvent.mk (msToFrames event.atMs rate) event).zipIdx
      (List.zipIdxLE fun a b => decide (a.frame ≤ b.frame))).map Prod.snd
    refine places.nodup_iff.mpr ?_
    rw [List.zipIdx_map_snd]
    exact List.nodup_range'
  refine (sorted.and (List.pairwise_map.mp distinct)).imp ?_
  rintro a b ⟨before, apart⟩
  simp only [List.zipIdxLE, decide_eq_true_eq] at before
  grind

/-- The turns of a track whose timeline is brought to one frame after another. -/
def turns (spec : TrackSpec) (rate : UInt32) (frames : List Nat) : List Turn :=
  (spec.agenda rate).turns (msToFrames spec.startMs rate) false frames

theorem numbers_agenda (spec : TrackSpec) (rate : UInt32) : (spec.agenda rate).Numbers spec :=
  fun _ listed => (mem_agenda.mp listed).1

/-- Working off the agenda keeps to the times of the scene, whatever the frames. -/
theorem onTime_turns (spec : TrackSpec) (rate : UInt32) (frames : List Nat) :
    spec.OnTime rate frames (spec.turns rate frames) := by
  refine ⟨Agenda.length_turns, ?_, ?_, ?_⟩
  · intro i turn taken j
    rw [Agenda.mem_turns (spec.ordered_agenda rate) taken]
    constructor
    · rintro ⟨e, listed, first⟩
      obtain ⟨found, frame⟩ := mem_agenda.mp listed
      exact ⟨e.event, found, frame ▸ first⟩
    · rintro ⟨event, found, first⟩
      exact ⟨⟨msToFrames event.atMs rate, event⟩, mem_agenda.mpr ⟨found, rfl⟩, first⟩
  · refine List.Pairwise.sublist Agenda.flatMap_turns_prefix.sublist ?_
    refine List.pairwise_map.mpr ((spec.ordered_agenda rate).imp_of_mem ?_)
    intro a b first second before
    obtain ⟨found, frame⟩ := mem_agenda.mp first
    obtain ⟨found', frame'⟩ := mem_agenda.mp second
    exact ⟨a.1.event, b.1.event, found, found', frame ▸ frame' ▸ before⟩
  · intro i turn taken
    rw [Agenda.starts_turns (spec.numbers_agenda rate) taken]
    exact and_iff_right rfl

end TrackSpec

namespace Timeline

section

variable {spec : TrackSpec} {t : Timeline} {agenda : Agenda}

theorem due_eq (pending : t.pending = agenda.map Prod.fst) (frame : Nat) :
    t.due frame = (agenda.due frame).map Prod.fst := by
  unfold due Agenda.due
  rw [pending, List.takeWhile_map]
  rfl

/-- What a timeline does at a frame, in terms of the numbers of the events. -/
theorem calls_eq (numbers : agenda.Numbers spec) (pending : t.pending = agenda.map Prod.fst)
    (frame : Nat) : t.calls frame =
      (Turn.mk (t.starts frame) ((agenda.due frame).map Prod.snd)).calls (σ := σ) spec t.slot := by
  unfold calls Turn.calls
  rw [due_eq pending, List.flatMap_map, List.flatMap_map]
  refine congrArg (_ ++ ·) (List.flatMap_congr fun e listed => ?_)
  rw [numbers.due frame e listed, Option.elim_some]

/-- A timeline that is brought to one frame after another works off its agenda. -/
theorem follow_eq [Provider σ] (numbers : agenda.Numbers spec)
    (pending : t.pending = agenda.map Prod.fst) (finite : t.Finite) {m : Mixer σ}
    (reachable : m.Reachable) (used : (m.track? t.slot).isSome = true) {steps : List (Advance σ)}
    (kept : ∀ step ∈ steps, ∀ action ∈ step.before, action ≠ .free t.slot) :
    ∃ t', t.follow m steps = .ok (t', m.run
      ((steps.zip (agenda.turns t.startFrame t.started (steps.map Advance.frame))).flatMap
        fun (step, turn) => step.before ++ turn.calls spec t.slot)) := by
  induction steps generalizing t agenda m with
  | nil => exact ⟨t, rfl⟩
  | cons step rest ih =>
    have between := reachable.run step.before
    have used' := reachable.used_run used (kept step List.mem_cons_self)
    have advanced := advance_eq step.frame between used' finite
    have after := t.used_calls step.frame between used'
    have pending' : (t.advanced step.frame).pending = (agenda.later step.frame).map Prod.fst := by
      show t.pending.dropWhile _ = _
      rw [pending, List.dropWhile_map]
      rfl
    obtain ⟨t', later⟩ := ih (numbers.later step.frame) pending' (finite.advanced step.frame)
      (between.run _) after fun later listed => kept later (List.mem_cons_of_mem _ listed)
    refine ⟨t', ?_⟩
    have started : (t.advanced step.frame).started = (t.started || t.startFrame ≤ step.frame ||
        (agenda.due step.frame).any fun e => e.1.event.enabled == some true) := by
      show (_ || (t.due step.frame).any _) = _
      rw [due_eq pending, List.any_map]
      rfl
    rw [started, calls_eq numbers pending] at later
    simp only [follow, advanced, bind, Except.bind, calls_eq numbers pending]
    rw [List.map_cons, Agenda.turns, List.zip_cons_cons, List.flatMap_cons, Mixer.run_append,
      Mixer.run_append]
    exact later

end

/-- However the frames lie to which a timeline is brought, and whatever is done to the mixer in
between, no call is refused, and what they come to are turns on time: the events and the start, each
in the call in which the scene has it due. -/
theorem follow_onTime [Provider σ] {spec : TrackSpec} (rate : UInt32) {slot : Slot} {m : Mixer σ}
    (reachable : m.Reachable) (used : (m.track? slot).isSome = true)
    (finite : ∀ event ∈ spec.events, event.Finite) {steps : List (Advance σ)}
    (kept : ∀ step ∈ steps, ∀ action ∈ step.before, action ≠ .free slot) :
    let frames := steps.map Advance.frame
    let turns := spec.turns rate frames
    spec.OnTime rate frames turns ∧
      ∀ n, ∃ t, (ofSpec slot spec rate).follow m (steps.take n) = .ok (t, m.run
        (((steps.zip turns).take n).flatMap fun (step, turn) =>
          step.before ++ turn.calls spec slot)) := by
  intro frames turns
  have pending := (spec.map_fst_agenda slot rate).symm
  have finite' : (ofSpec slot spec rate).Finite := by
    intro timed listed
    rw [pending] at listed
    obtain ⟨e, planned, rfl⟩ := List.mem_map.mp listed
    exact finite _ (List.mem_of_getElem? (spec.numbers_agenda rate e planned))
  refine ⟨spec.onTime_turns rate frames, fun n => ?_⟩
  have part := follow_eq (spec.numbers_agenda rate) pending finite' reachable used
    fun step (listed : step ∈ steps.take n) => kept step (List.mem_of_mem_take listed)
  rw [List.map_take, Agenda.turns_take, List.zip, ← List.take_zipWith] at part
  exact part

/-- Two events at the same frame and one before them, which enables the track before its start
would: the track is not started again. -/
theorem follow_onTime_enabledEarly :
    let slot : Slot := ⟨0, by decide⟩
    let spec : TrackSpec :=
      { source := .file "early.wav"
        startMs := 5
        events := [{ atMs := 6, gain := some 0.5 }, { atMs := 2, enabled := some true },
          { atMs := 6, auxLevel := some 1, enabled := some false }] }
    let steps : List (Advance Clip) := [⟨[], 0⟩, ⟨[.render none], 4⟩, ⟨[.render none], 8⟩]
    ∃ m : Mixer Clip, m.Reachable ∧ (m.track? slot).isSome = true ∧
      (∀ event ∈ spec.events, event.Finite) ∧
      (∀ step ∈ steps, ∀ action ∈ step.before, action ≠ .free slot) ∧
      spec.OnTime 1000 [0, 4, 8] [⟨false, []⟩, ⟨false, [1]⟩, ⟨false, [0, 2]⟩] ∧
      ∃ t, (ofSpec slot spec 1000).follow m steps = .ok (t, m.run
        [.render none, .setEnabled slot true, .render none, .set slot (.gain .left 0.5 false),
          .set slot (.gain .right 0.5 false), .set slot (.gain .aux 1 false),
          .setEnabled slot false]) := by
  intro slot spec steps
  obtain ⟨m, reachable, used⟩ : ∃ m : Mixer Clip, m.Reachable ∧ (m.track? slot).isSome = true :=
    ⟨_, .act (.allocate .mono .pcm16 0) (.new (rfl : Mixer.new {} none = .ok _)), by
      decide +kernel⟩
  have finite : ∀ event ∈ spec.events, event.Finite := by
    simp only [spec, List.forall_mem_cons, List.not_mem_nil, false_imp_iff, implies_true, and_true]
    refine ⟨⟨?_, nofun⟩, ⟨nofun, nofun⟩, ⟨nofun, ?_⟩⟩
    · rintro _ ⟨⟩
      decide +kernel
    · rintro _ ⟨⟩
      decide +kernel
  have kept : ∀ step ∈ steps, ∀ action ∈ step.before, action ≠ .free slot := by
    simp [steps]
  have agenda : spec.agenda 1000 = [(⟨2, { atMs := 2, enabled := some true }⟩, 1),
      (⟨6, { atMs := 6, gain := some 0.5 }⟩, 0),
      (⟨6, { atMs := 6, auxLevel := some 1, enabled := some false }⟩, 2)] := by
    simp [TrackSpec.agenda, spec, List.mergeSort, List.MergeSort.Internal.splitInTwo,
      List.zipIdxLE, msToFrames]
  have turns : spec.turns 1000 [0, 4, 8] =
      [⟨false, []⟩, ⟨false, [1]⟩, ⟨false, [0, 2]⟩] := by
    rw [TrackSpec.turns, agenda]
    decide +kernel
  obtain ⟨onTime, follows⟩ := follow_onTime 1000 reachable used finite kept
  obtain ⟨t, followed⟩ := follows 3
  have frames : steps.map Advance.frame = [0, 4, 8] := rfl
  rw [frames, turns] at onTime followed
  exact ⟨m, reachable, used, finite, kept, onTime, t, followed⟩

end Timeline

end Mixdown
