import Mathlib.Data.List.TakeWhile
import Mixdown.Proofs.Rendering.Conducting

/-!
# Advancing in one step or in two

What a timeline does at a frame are gains that are written and switches of its track, and the one
does not depend on the other: `run_calls` sorts them apart. Brought to a frame at once or by way of
an earlier frame, a timeline writes the same gains in the same order, but its start may change
places with the events that are due before it (`advance_advance`).
-/

namespace Mixdown

variable {σ : Type}

namespace Mixer

/-- The mixer with another track in a slot; the plan is kept or dropped. -/
def put (m : Mixer σ) (slot : Slot) (t : Track σ) (keeps : Bool) : Mixer σ :=
  { m.setTrack slot (some t) with plan := if keeps then m.plan else none }

@[simp] theorem track?_put (m : Mixer σ) (slot : Slot) (t : Track σ) (keeps : Bool) :
    (m.put slot t keeps).track? slot = some t := track?_setTrack_self m slot _

theorem put_put (m : Mixer σ) (slot : Slot) (t t' : Track σ) (keeps keeps' : Bool) :
    (m.put slot t keeps).put slot t' keeps' = m.put slot t' (keeps && keeps') := by
  cases keeps <;> cases keeps' <;> simp [put, setTrack, Vector.set_set]

theorem put_self {m : Mixer σ} {slot : Slot} {t : Track σ} (found : m.track? slot = some t) :
    m.put slot t true = m := setTrack_self m found

variable [Provider σ] {m : Mixer σ} {slot : Slot}

theorem act_setEnabled {t : Track σ} (found : m.track? slot = some t) (enabled : Bool) :
    m.act (.setEnabled slot enabled) = m.put slot { t with enabled } (t.enabled == enabled) := by
  simp only [act, setEnabled, withTrack, found]
  split
  · rename_i same
    subst same
    rw [beq_self_eq_true]
    exact (put_self found).symm
  · rename_i apart
    rw [beq_false_of_ne apart]
    rfl

/-- Switching a track comes down to the last switch, and to whether any switch changed
something. -/
theorem run_switches {t : Track σ} (found : m.track? slot = some t) (switches : List Bool) :
    m.run (switches.map (.setEnabled slot)) =
      m.put slot { t with enabled := switches.getLast?.getD t.enabled }
        (switches.all (t.enabled == ·)) := by
  induction switches generalizing m t with
  | nil => exact (put_self found).symm
  | cons enabled rest ih =>
    show (m.act (.setEnabled slot enabled)).run (rest.map (.setEnabled slot)) = _
    rw [act_setEnabled found, ih (track?_put m slot _ _), put_put, List.all_cons,
      List.getLast?_cons, Option.getD_some]
    by_cases same : t.enabled = enabled
    · rw [same]
    · rw [beq_false_of_ne same, Bool.false_and, Bool.false_and]

/-- Switches come to the same if they are the same but for their order and number, and end alike. -/
theorem run_switches_congr (used : (m.track? slot).isSome = true) {switches switches' : List Bool}
    (last : switches.getLast? = switches'.getLast?)
    (same : ∀ enabled, enabled ∈ switches ↔ enabled ∈ switches') :
    m.run (switches.map (.setEnabled slot)) = m.run (switches'.map (.setEnabled slot)) := by
  obtain ⟨t, found⟩ := Option.isSome_iff_exists.mp used
  have settled : switches.all (t.enabled == ·) = switches'.all (t.enabled == ·) := by
    rw [Bool.eq_iff_iff, List.all_eq_true, List.all_eq_true]
    simp only [same]
  rw [run_switches found, run_switches found, last, settled]

/-- After switches, a track is as the last of them left it. -/
theorem isEnabled_run_switches (used : (m.track? slot).isSome = true) {switches : List Bool}
    {enabled : Bool} (last : switches.getLast? = some enabled) :
    (m.run (switches.map (.setEnabled slot))).isEnabled slot = enabled := by
  obtain ⟨t, found⟩ := Option.isSome_iff_exists.mp used
  rw [run_switches found, last, isEnabled, track?_put]
  rfl

/-- What writing a gain makes of a volume, and whether it lets the plan be kept, which a refusal
does not. Neither depends on whether the track is enabled. -/
theorem act_gain (settings : Settings) (slot : Slot) (name : GainName) (value : Float32)
    (ramped : Bool) :
    ∃ (change : Volume → Volume) (keeps : Track σ → Bool),
      (∀ t enabled, keeps { t with enabled } = keeps t) ∧
      ∀ {m : Mixer σ} {t : Track σ}, m.settings = settings → m.track? slot = some t →
        m.act (.set slot (.gain name value ramped)) =
          m.put slot { t with volume := change t.volume } (keeps t) := by
  cases clamped : clampTrackGain? value with
  | none =>
    refine ⟨id, fun _ => false, fun _ _ => rfl, fun {m t} _ found => ?_⟩
    simp only [act, set, withTrack, found, write, clamped]
    exact congrArg invalidated (setTrack_self m found).symm
  | some gain =>
    let change (v : Volume) : Volume := v.modify name
      (Ramp.steer gain (if ramped then settings.rampFrames else 0))
    let after (t : Track σ) : Track σ := { t with volume := change t.volume }
    refine ⟨change, fun t => (after t).demands == t.demands, fun _ _ => rfl,
      fun {m t} same found => ?_⟩
    subst same
    have wrote : m.write slot t (.gain name value ramped) =
        (.ok ((after t).demands != t.demands), m.setTrack slot (some (after t))) := by
      simp only [write, clamped]
      rfl
    simp only [act, set, withTrack, found, wrote]
    cases kept : (after t).demands == t.demands <;> simp only [bne, kept] <;> rfl

/-- A track may be switched before or after one of its gains is written. -/
theorem act_setEnabled_gain (enabled : Bool) (name : GainName) (value : Float32) (ramped : Bool) :
    (m.act (.setEnabled slot enabled)).act (.set slot (.gain name value ramped)) =
      (m.act (.set slot (.gain name value ramped))).act (.setEnabled slot enabled) := by
  cases found : m.track? slot with
  | none => simp only [act, set, setEnabled, withTrack, found]
  | some t =>
    obtain ⟨change, keeps, alike, written⟩ := act_gain (σ := σ) m.settings slot name value ramped
    have later (u : Track σ) (kept : Bool) :=
      written (m := m.put slot u kept) rfl (track?_put m slot u kept)
    rw [act_setEnabled found, later, written rfl found, act_setEnabled (track?_put m slot _ _),
      put_put, put_put, alike, Bool.and_comm]

/-- A track may be switched before or after all of some gains are written. -/
theorem run_gains_setEnabled {settings : List TrackSetting}
    (gains : ∀ setting ∈ settings, ∃ name value ramped, setting = .gain name value ramped)
    (enabled : Bool) :
    (m.act (.setEnabled slot enabled)).run (settings.map (.set slot)) =
      (m.run (settings.map (.set slot))).act (.setEnabled slot enabled) := by
  induction settings generalizing m with
  | nil => rfl
  | cons setting rest ih =>
    obtain ⟨name, value, ramped, rfl⟩ := gains setting List.mem_cons_self
    show ((m.act _).act _).run _ = _
    rw [act_setEnabled_gain]
    exact ih fun later listed => gains later (List.mem_cons_of_mem _ listed)

/-- Switches of a track may come before or after gains that are written. -/
theorem run_switches_gains {settings : List TrackSetting}
    (gains : ∀ setting ∈ settings, ∃ name value ramped, setting = .gain name value ramped)
    (switches : List Bool) :
    (m.run (switches.map (.setEnabled slot))).run (settings.map (.set slot)) =
      (m.run (settings.map (.set slot))).run (switches.map (.setEnabled slot)) := by
  induction switches generalizing m with
  | nil => rfl
  | cons enabled rest ih =>
    show ((m.act _).run _).run _ = ((m.run _).act _).run _
    rw [ih, run_gains_setEnabled gains]

end Mixer

namespace TimedEvent

/-- The switches among events, one after another. -/
def switches (events : List TimedEvent) : List Bool := events.filterMap (·.event.enabled)

/-- The gains that events write, one after another. -/
def gains (events : List TimedEvent) : List TrackSetting := events.flatMap (·.event.settings)

theorem mem_switches {events : List TimedEvent} {enabled : Bool} :
    enabled ∈ switches events ↔ ∃ e ∈ events, e.event.enabled = some enabled :=
  List.mem_filterMap

theorem gain_of_mem_gains {events : List TimedEvent} {setting : TrackSetting}
    (listed : setting ∈ gains events) : ∃ name value ramped, setting = .gain name value ramped := by
  obtain ⟨e, -, listed⟩ := List.mem_flatMap.mp listed
  obtain ⟨name, value, rfl, -⟩ := TrackEvent.gain_of_mem_settings listed
  exact ⟨name, value, e.event.ramp, rfl⟩

end TimedEvent

namespace Timeline

open TimedEvent

/-- The switches of the track when the timeline is brought to a frame, one after another. -/
def switches (t : Timeline) (frame : Nat) : List Bool :=
  (if t.starts frame then [true] else []) ++ TimedEvent.switches (t.due frame)

section Calls

variable [Provider σ] {m : Mixer σ}

theorem run_events {slot : Slot} (events : List TimedEvent) :
    m.run (events.flatMap fun e => e.event.calls slot) =
      (m.run ((gains events).map (.set slot))).run
        ((TimedEvent.switches events).map (.setEnabled slot)) := by
  induction events generalizing m with
  | nil => rfl
  | cons e rest ih =>
    have switched : TimedEvent.switches (e :: rest) =
        e.event.enabled.toList ++ TimedEvent.switches rest := by
      unfold TimedEvent.switches
      cases enabled : e.event.enabled <;> simp [enabled]
    have written : gains (e :: rest) = e.event.settings ++ gains rest := List.flatMap_cons
    have own : (e.event.enabled.map (Action.setEnabled slot)).toList =
        e.event.enabled.toList.map (.setEnabled (σ := σ) slot) := by
      cases e.event.enabled <;> rfl
    rw [List.flatMap_cons, TrackEvent.calls, Mixer.run_append, Mixer.run_append, ih, own,
      Mixer.run_switches_gains fun _ => gain_of_mem_gains, switched, written, List.map_append,
      List.map_append, Mixer.run_append, Mixer.run_append]

/-- What a timeline does at a frame: the gains are written, and the track is switched. -/
theorem run_calls (t : Timeline) (frame : Nat) : m.run (t.calls frame) =
    (m.run ((gains (t.due frame)).map (.set t.slot))).run
      ((t.switches frame).map (.setEnabled t.slot)) := by
  have start : (if t.starts frame then [.setEnabled t.slot true] else [] : List (Action σ)) =
      (if t.starts frame then [true] else []).map (.setEnabled t.slot) := by
    split <;> rfl
  unfold calls switches
  rw [Mixer.run_append, run_events, start, Mixer.run_switches_gains fun _ => gain_of_mem_gains,
    List.map_append, Mixer.run_append]

end Calls

section Between

variable {t : Timeline} {f₁ f₂ : Nat}

theorem takeWhile_dropWhile_of_imp {α : Type} {p q : α → Bool} (imp : ∀ a, p a = true → q a = true)
    (l : List α) : l.takeWhile q = l.takeWhile p ++ (l.dropWhile p).takeWhile q ∧
      l.dropWhile q = (l.dropWhile p).dropWhile q := by
  induction l with
  | nil => exact ⟨rfl, rfl⟩
  | cons a rest ih =>
    cases holds : p a with
    | true => simpa [holds, imp a holds] using ih
    | false => simp [holds]

/-- What is due at a frame is due at an earlier frame or between the two. -/
theorem due_eq_append (le : f₁ ≤ f₂) : t.due f₂ = t.due f₁ ++ (t.advanced f₁).due f₂ :=
  (takeWhile_dropWhile_of_imp (by simp; omega) t.pending).1

/-- A timeline comes to the same by way of an earlier frame. -/
theorem advanced_advanced (le : f₁ ≤ f₂) : (t.advanced f₁).advanced f₂ = t.advanced f₂ := by
  have started : ((t.advanced f₁).advanced f₂).started = (t.advanced f₂).started := by
    show (t.started || decide (t.startFrame ≤ f₁) || _ || decide (t.startFrame ≤ f₂) || _) =
      (t.started || decide (t.startFrame ≤ f₂) || (t.due f₂).any _)
    rw [due_eq_append (t := t) le, List.any_append]
    by_cases reached : t.startFrame ≤ f₁
    · simp [reached, Nat.le_trans reached le]
    · simp only [reached, decide_false, Bool.or_false, Bool.or_assoc]
      rw [Bool.or_left_comm (decide _)]
  have pending : ((t.advanced f₁).advanced f₂).pending = (t.advanced f₂).pending :=
    (takeWhile_dropWhile_of_imp (by simp; omega) t.pending).2.symm
  unfold advanced at started pending ⊢
  simp only at started pending
  rw [started, pending]

end Between

/-- The start of a track that has not started lies between two frames. Of the events that are due at
the first frame, some disable the track and none enables it, and no event between the frames
switches it again. So the start comes after the events, but at the second frame it is applied before
them. -/
structure Overtaken (t : Timeline) (f₁ f₂ : Nat) : Prop where
  waiting : t.started = false
  behind : f₁ < t.startFrame
  reached : t.startFrame ≤ f₂
  disabled : ∃ e ∈ t.due f₁, e.event.enabled = some false
  notEnabled : ∀ e ∈ t.due f₁, e.event.enabled ≠ some true
  quiet : ∀ e ∈ (t.advanced f₁).due f₂, e.event.enabled = none

section Switches

variable {t : Timeline} {f₁ f₂ : Nat}

theorem switches_eq_nil (events : List TimedEvent) :
    TimedEvent.switches events = [] ↔ ∀ e ∈ events, e.event.enabled = none :=
  List.filterMap_eq_nil_iff

/-- The switches at a frame, by way of an earlier frame and at once. -/
theorem switches_eq (le : f₁ ≤ f₂) :
    let first := TimedEvent.switches (t.due f₁)
    let later := TimedEvent.switches ((t.advanced f₁).due f₂)
    let between := !t.started && (decide (f₁ < t.startFrame) && t.startFrame ≤ f₂)
    let onTime := if t.starts f₁ then [true] else []
    t.switches f₁ ++ (t.advanced f₁).switches f₂ =
        onTime ++ first ++ (if between && !first.contains true then [true] else []) ++ later ∧
      t.switches f₂ = onTime ++ (if between then [true] else []) ++ first ++ later := by
  intro first later between onTime
  have enables : (t.due f₁).any (·.event.enabled == some true) = first.contains true := by
    rw [Bool.eq_iff_iff, List.contains_iff_mem, mem_switches]
    simp only [List.any_eq_true, beq_iff_eq]
  have ahead : decide (f₁ < t.startFrame) = !decide (t.startFrame ≤ f₁) := by
    rw [← decide_not]
    exact decide_eq_decide.mpr Nat.not_le.symm
  have starts : (t.advanced f₁).starts f₂ = (between && !first.contains true) := by
    show (!(t.started || decide (t.startFrame ≤ f₁) || (t.due f₁).any _) &&
      decide (t.startFrame ≤ f₂)) = _
    simp only [enables, between, ahead, Bool.not_or]
    ac_rfl
  have starts' : t.starts f₂ = (t.starts f₁ || between) := by
    simp only [Timeline.starts, between, ahead, ← Bool.and_or_distrib_left]
    by_cases reached : t.startFrame ≤ f₁
    · rw [decide_eq_true reached, decide_eq_true (Nat.le_trans reached le), Bool.true_or]
    · rw [decide_eq_false reached, Bool.false_or, Bool.not_false, Bool.true_and]
  have apart : ¬(t.starts f₁ = true ∧ between = true) := by
    rintro ⟨reached, behind⟩
    simp only [Timeline.starts, between, Bool.and_eq_true, decide_eq_true_eq] at reached behind
    omega
  constructor
  · rw [switches, switches, starts]
    simp only [List.append_assoc]
    rfl
  · have parts : TimedEvent.switches (t.due f₂) = first ++ later := by
      rw [due_eq_append le, TimedEvent.switches, List.filterMap_append]
      rfl
    rw [switches, starts', parts]
    cases early : t.starts f₁ with
    | false => simp [onTime, early]
    | true =>
      have off : between = false := Bool.eq_false_iff.mpr fun on => apart ⟨early, on⟩
      simp [onTime, early, off]

/-- By way of an earlier frame, a track is switched as it is at once, unless its start is overtaken:
then it is started behind an event that disables it and not before. -/
theorem switches_cases (le : f₁ ≤ f₂) :
    (¬t.Overtaken f₁ f₂ ∧
      (t.switches f₁ ++ (t.advanced f₁).switches f₂).getLast? = (t.switches f₂).getLast? ∧
      ∀ enabled, enabled ∈ t.switches f₁ ++ (t.advanced f₁).switches f₂ ↔
        enabled ∈ t.switches f₂) ∨
    t.Overtaken f₁ f₂ ∧ ∃ earlier, earlier.getLast? = some false ∧
      t.switches f₁ ++ (t.advanced f₁).switches f₂ = earlier ++ [true] ∧
      t.switches f₂ = true :: earlier := by
  obtain ⟨twice, once⟩ := switches_eq (t := t) le
  have quiet := switches_eq_nil ((t.advanced f₁).due f₂)
  have first_mem := @mem_switches (t.due f₁)
  rw [twice, once]
  generalize TimedEvent.switches (t.due f₁) = first at first_mem
  generalize TimedEvent.switches ((t.advanced f₁).due f₂) = later at quiet
  by_cases between : t.started = false ∧ f₁ < t.startFrame ∧ t.startFrame ≤ f₂
  · obtain ⟨waiting, behind, reached⟩ := between
    have early : t.starts f₁ = false := by simp [Timeline.starts, Nat.not_le.mpr behind]
    simp only [waiting, behind, reached, early, decide_true, Bool.not_false, Bool.and_true,
      Bool.true_and, Bool.false_eq_true, if_false, if_true, List.nil_append]
    by_cases enabled : true ∈ first
    · -- an event has enabled the track by then, and the start does not happen
      have some_due : first ++ later ≠ [] := by simp [List.ne_nil_of_mem enabled]
      have no_start : first.contains true = true := List.contains_iff_mem.mpr enabled
      rw [no_start, Bool.not_true, if_neg Bool.false_ne_true, List.append_nil, List.append_assoc,
        List.singleton_append, List.getLast?_cons_of_ne_nil some_due]
      refine .inl ⟨fun overtaken => ?_, rfl, fun switch => ?_⟩
      · obtain ⟨e, listed, on⟩ := first_mem.mp enabled
        exact overtaken.notEnabled e listed on
      · rw [List.mem_cons, iff_or_self]
        rintro rfl
        exact List.mem_append_left _ enabled
    · have starts : first.contains true = false := by simpa using enabled
      rw [starts, Bool.not_false, if_pos rfl]
      by_cases silent : later = []
      · subst silent
        rw [List.append_nil, List.append_nil]
        cases ends : first.getLast? with
        | none =>
          obtain rfl := List.getLast?_eq_none_iff.mp ends
          refine .inl ⟨fun overtaken => ?_, rfl, fun _ => Iff.rfl⟩
          obtain ⟨e, listed, off⟩ := overtaken.disabled
          exact List.not_mem_nil (first_mem.mpr ⟨e, listed, off⟩)
        | some last =>
          -- the last switch before the start is one that disables the track
          have listed := List.mem_of_getLast? ends
          cases last with
          | true => exact absurd listed enabled
          | false =>
            exact .inr ⟨⟨waiting, behind, reached, first_mem.mp listed,
              fun e listed on => enabled (first_mem.mpr ⟨e, listed, on⟩), quiet.mp rfl⟩,
              first, ends, rfl, rfl⟩
      · refine .inl ⟨fun overtaken => silent (quiet.mpr overtaken.quiet), ?_, fun switch => ?_⟩
        · have ends (l : List Bool) : (l ++ later).getLast? = some (later.getLast silent) := by
            rw [List.getLast?_append, List.getLast?_eq_some_getLast silent, Option.some_or]
          rw [ends, ends]
        · simp only [List.mem_append]
          exact or_congr_left or_comm
  · left
    have off :
        (!t.started && (decide (f₁ < t.startFrame) && decide (t.startFrame ≤ f₂))) = false := by
      rw [Bool.eq_false_iff]
      simpa using between
    rw [off]
    refine ⟨fun overtaken => between ⟨overtaken.waiting, overtaken.behind, overtaken.reached⟩, ?_⟩
    simp

end Switches

/-- By way of an earlier frame, a timeline writes the gains that it writes at once. -/
theorem run_calls_run_calls [Provider σ] {t : Timeline} {f₁ f₂ : Nat} (le : f₁ ≤ f₂)
    (m : Mixer σ) : (m.run (t.calls f₁)).run ((t.advanced f₁).calls f₂) =
      (m.run ((gains (t.due f₂)).map (.set t.slot))).run
        ((t.switches f₁ ++ (t.advanced f₁).switches f₂).map (.setEnabled t.slot)) := by
  have written : gains (t.due f₂) = gains (t.due f₁) ++ gains ((t.advanced f₁).due f₂) := by
    rw [due_eq_append le, gains, List.flatMap_append]
    rfl
  have same : (t.advanced f₁).slot = t.slot := rfl
  rw [run_calls, run_calls, same, Mixer.run_switches_gains fun _ => gain_of_mem_gains, written,
    List.map_append, List.map_append, Mixer.run_append, Mixer.run_append]

/-- Brought to a frame by way of an earlier one, a timeline is left with the same still to come as
at once, and the mixer is left the same but where the start is overtaken: at once, the track ends up
disabled then, and by way of the earlier frame, it is enabled after that. -/
theorem advance_advance [Provider σ] {t : Timeline} {f₁ f₂ : Nat} (le : f₁ ≤ f₂) {m : Mixer σ}
    (reachable : m.Reachable) (used : (m.track? t.slot).isSome = true) (finite : t.Finite) :
    ∃ t₁ m₁ t₂ twice once, t.advance f₁ m = .ok (t₁, m₁) ∧ t₁.advance f₂ m₁ = .ok (t₂, twice) ∧
      t.advance f₂ m = .ok (t₂, once) ∧
      (¬t.Overtaken f₁ f₂ → twice = once) ∧
      (t.Overtaken f₁ f₂ → once.isEnabled t.slot = false ∧
        twice = once.act (.setEnabled t.slot true)) := by
  have first := advance_eq f₁ reachable used finite
  have used₁ := t.used_calls f₁ reachable used
  have second := advance_eq (t := t.advanced f₁) f₂ (reachable.run (t.calls f₁)) used₁
    (finite.advanced f₁)
  rw [advanced_advanced le, run_calls_run_calls le] at second
  have direct := advance_eq f₂ reachable used finite
  rw [run_calls] at direct
  have written : ((m.run ((gains (t.due f₂)).map (.set t.slot))).track? t.slot).isSome = true := by
    refine reachable.used_run used fun action listed => ?_
    obtain ⟨setting, -, rfl⟩ := List.mem_map.mp listed
    exact nofun
  refine ⟨_, _, _, _, _, first, second, direct, ?_⟩
  rcases switches_cases (t := t) le with ⟨keeps, last, alike⟩ | ⟨overtaken, earlier, off, on, late⟩
  · exact ⟨fun _ => Mixer.run_switches_congr written last alike,
      fun overtaken => absurd overtaken keeps⟩
  · refine ⟨fun keeps => absurd overtaken keeps, fun _ => ?_⟩
    have ends : (t.switches f₂).getLast? = some false := by
      rw [late, List.getLast?_cons, off]
      rfl
    refine ⟨Mixer.isEnabled_run_switches written ends, ?_⟩
    rw [on, late, ← Mixer.run_snoc, ← List.map_singleton, ← List.map_append]
    refine Mixer.run_switches_congr written ?_ fun enabled => by simp [or_comm]
    rw [List.cons_append, List.getLast?_concat, List.getLast?_cons, List.getLast?_concat]
    rfl

/-- An event enables the track before its start, and another disables it: by way of a frame between
them and the start or at once, the track ends up disabled. -/
theorem advance_advance_enabledEarly :
    let t : Timeline :=
      { slot := ⟨0, by decide⟩
        startFrame := 2
        started := false
        pending := [⟨1, { atMs := 1, gain := some 0.5, enabled := some true }⟩,
          ⟨1, { atMs := 1, enabled := some false }⟩] }
    ∃ m : Mixer Clip, 1 ≤ 4 ∧ m.Reachable ∧ (m.track? t.slot).isSome = true ∧ t.Finite ∧
      ¬t.Overtaken 1 4 ∧ ∃ t₁ m₁ t₂ after, t.advance 1 m = .ok (t₁, m₁) ∧
        t₁.advance 4 m₁ = .ok (t₂, after) ∧ t.advance 4 m = .ok (t₂, after) := by
  intro t
  obtain ⟨m, reachable, used⟩ : ∃ m : Mixer Clip, m.Reachable ∧ (m.track? t.slot).isSome = true :=
    ⟨_, .act (.allocate .mono .pcm16 0) (.new (rfl : Mixer.new {} none = .ok _)), by
      decide +kernel⟩
  have finite : t.Finite := by
    simp only [Timeline.Finite, t, List.forall_mem_cons, List.not_mem_nil, false_imp_iff,
      implies_true, and_true]
    refine ⟨⟨?_, nofun⟩, ⟨nofun, nofun⟩⟩
    rintro _ ⟨⟩
    decide +kernel
  have keeps : ¬t.Overtaken 1 4 := fun overtaken =>
    overtaken.notEnabled ⟨1, { atMs := 1, gain := some 0.5, enabled := some true }⟩
      List.mem_cons_self rfl
  obtain ⟨t₁, m₁, t₂, twice, once, first, second, direct, same, -⟩ :=
    advance_advance (show 1 ≤ 4 by decide) reachable used finite
  obtain rfl := same keeps
  exact ⟨m, by decide, reachable, used, finite, keeps, t₁, m₁, t₂, twice, first, second, direct⟩

/-- A track that an event disables at the first frame starts at the second. By way of the first
frame, it is enabled at the fourth; at once, it is disabled there. -/
theorem advance_overtakes_start :
    let slot : Slot := ⟨0, by decide⟩
    let spec : TrackSpec :=
      { source := .file "late.wav"
        startMs := 2
        events := [{ atMs := 1, enabled := some false }] }
    let t := ofSpec slot spec 1000
    ∃ m : Mixer Clip, m.Reachable ∧ (m.track? slot).isSome = true ∧
      (∀ event ∈ spec.events, event.ramp = false ∧ event.Finite) ∧
      ∃ t₁ m₁ t₂ twice once, t.advance 1 m = .ok (t₁, m₁) ∧ t₁.advance 4 m₁ = .ok (t₂, twice) ∧
        t.advance 4 m = .ok (t₂, once) ∧ twice.isEnabled slot = true ∧
        once.isEnabled slot = false := by
  intro slot spec t
  have accepted : ∀ event ∈ spec.events, event.ramp = false ∧ event.Finite := by
    intro event listed
    obtain rfl := List.mem_singleton.mp listed
    exact ⟨rfl, nofun, nofun⟩
  obtain ⟨m, reachable, used⟩ : ∃ m : Mixer Clip, m.Reachable ∧ (m.track? slot).isSome = true :=
    ⟨_, .act (.allocate .mono .pcm16 0) (.new (rfl : Mixer.new {} none = .ok _)), by
      decide +kernel⟩
  let planned : Timeline :=
    { slot, startFrame := 2, started := false
      pending := [⟨1, { atMs := 1, enabled := some false }⟩] }
  have plan : t = planned := by simp [t, ofSpec, spec, planned, msToFrames]
  have finite : planned.Finite := by
    intro timed listed
    obtain rfl := List.mem_singleton.mp listed
    exact ⟨nofun, nofun⟩
  have first := advance_eq 1 reachable used finite
  have used₁ := planned.used_calls 1 reachable used
  have second := advance_eq (t := planned.advanced 1) 4 (reachable.run (planned.calls 1)) used₁
    (finite.advanced 1)
  have direct := advance_eq 4 reachable used finite
  rw [plan]
  refine ⟨m, reachable, used, accepted, _, _, planned.advanced 4, _, _, first, second, direct,
    ?_, ?_⟩
  · have last : [false, true].getLast? = some true := rfl
    exact Mixer.isEnabled_run_switches used last
  · have last : [true, false].getLast? = some false := rfl
    exact Mixer.isEnabled_run_switches used last

end Timeline

end Mixdown
