import Mixdown.Proofs.Mixer.Routes
import Mixdown.Rendering.Timeline

/-!
# What a timeline asks of its mixer

Bringing a timeline to a frame comes down to a list of calls to the mixer: none is refused as long
as the slot is in use and the gains are numbers (`advance_eq`). What the timeline still holds after
that depends on the frame alone.
-/

namespace Mixdown

variable {σ : Type}

namespace TrackEvent

/-- The gains of an event are numbers. -/
structure Finite (e : TrackEvent) : Prop where
  gain : ∀ gain, e.gain = some gain → gain.isFinite = true
  auxLevel : ∀ level, e.auxLevel = some level → level.isFinite = true

/-- The calls that an event stands for: its gains are written, and then the track is switched. -/
def calls (e : TrackEvent) (slot : Slot) : List (Action σ) :=
  e.settings.map (.set slot) ++ (e.enabled.map (.setEnabled slot)).toList

/-- The calls of an event free no slot. -/
theorem ne_free_of_mem_calls (e : TrackEvent) {slot : Slot} {action : Action σ}
    (listed : action ∈ e.calls slot) (freed : Slot) : action ≠ .free freed := by
  rintro rfl
  simp [calls] at listed

/-- The settings of an event are gains. -/
theorem gain_of_mem_settings {e : TrackEvent} {setting : TrackSetting}
    (listed : setting ∈ e.settings) : ∃ name value, setting = .gain name value e.ramp ∧
      (e.gain = some value ∨ e.auxLevel = some value) := by
  simp only [settings, gainSettings, List.mem_append] at listed
  rcases listed with listed | listed
  · split at listed
    · rename_i value given
      simp only [List.mem_cons, List.not_mem_nil, or_false] at listed
      rcases listed with rfl | rfl
      · exact ⟨.left, value, rfl, .inl given⟩
      · exact ⟨.right, value, rfl, .inl given⟩
    · nomatch listed
  · split at listed
    · rename_i value given
      obtain rfl := List.mem_singleton.mp listed
      exact ⟨.aux, value, rfl, .inr given⟩
    · nomatch listed

theorem Finite.settings {e : TrackEvent} (finite : e.Finite) {setting : TrackSetting}
    (listed : setting ∈ e.settings) : ∃ name value ramped,
      setting = .gain name value ramped ∧ value.isFinite = true := by
  obtain ⟨name, value, rfl, given | given⟩ := gain_of_mem_settings listed
  · exact ⟨name, value, e.ramp, rfl, finite.gain value given⟩
  · exact ⟨name, value, e.ramp, rfl, finite.auxLevel value given⟩

end TrackEvent

namespace Mixer

variable [Provider σ]

theorem run_append (m : Mixer σ) (first rest : List (Action σ)) :
    m.run (first ++ rest) = (m.run first).run rest := List.foldl_append

/-- A slot that is in use is so until it is freed. -/
theorem Reachable.used_act {m : Mixer σ} (reachable : m.Reachable) {action : Action σ}
    {slot : Slot} (used : (m.track? slot).isSome = true) (kept : action ≠ .free slot) :
    ((m.act action).track? slot).isSome = true := by
  rcases reachable.wellFormed.act_cases action with
    ⟨pts, rfl, rendered⟩ | ⟨place, after, keeps, writes, edit⟩
  · rw [isSome_of_rel (rendered.tracks slot)]
    exact used
  · by_cases here : slot = place
    · subst here
      rw [writes.track?_self]
      obtain ⟨t, found⟩ := Option.isSome_iff_exists.mp used
      rw [found] at edit
      cases edit with
      | same _ _ _ _ => rfl
      | freed _ => exact absurd rfl kept
      | switched _ _ => rfl
      | attached _ _ _ _ => rfl
      | outside _ _ => rfl
      | written _ _ _ _ _ => rfl
    · rw [writes.track?_ne here]
      exact used

theorem Reachable.used_run {m : Mixer σ} (reachable : m.Reachable) {actions : List (Action σ)}
    {slot : Slot} (used : (m.track? slot).isSome = true)
    (kept : ∀ action ∈ actions, action ≠ .free slot) :
    ((m.run actions).track? slot).isSome = true := by
  induction actions generalizing m with
  | nil => exact used
  | cons action rest ih =>
    exact ih (.act action reachable) (reachable.used_act used (kept action List.mem_cons_self))
      fun later listed => kept later (List.mem_cons_of_mem _ listed)

/-- A track can be switched. -/
theorem done_setEnabled {m : Mixer σ} {slot : Slot} (used : (m.track? slot).isSome = true)
    (enabled : Bool) :
    Answer.done (m.setEnabled slot enabled) = .ok (m.act (.setEnabled slot enabled)) := by
  obtain ⟨t, found⟩ := Option.isSome_iff_exists.mp used
  simp only [act, setEnabled, withTrack, found]
  split <;> rfl

/-- A gain that is a number can be written. -/
theorem done_set_gain {m : Mixer σ} {slot : Slot} (used : (m.track? slot).isSome = true)
    (name : GainName) {value : Float32} (finite : value.isFinite = true) (ramped : Bool) :
    Answer.done (m.set slot (.gain name value ramped)) =
      .ok (m.act (.set slot (.gain name value ramped))) := by
  obtain ⟨t, found⟩ := Option.isSome_iff_exists.mp used
  have clamped : clampTrackGain? value = some (Single.clamp 0 1 value) := if_pos finite
  simp only [act, set, withTrack, found, write, clamped]
  split
  · rfl
  · rfl
  · rename_i refused
    cases (Prod.mk.inj refused).1

/-- Gains that are numbers are written one after another. -/
theorem setAll_eq {m : Mixer σ} (reachable : m.Reachable) {slot : Slot}
    (used : (m.track? slot).isSome = true) {settings : List TrackSetting}
    (gains : ∀ setting ∈ settings, ∃ name value ramped, setting = .gain name value ramped ∧
      value.isFinite = true) :
    m.setAll slot settings = .ok (m.run (settings.map (.set slot))) := by
  induction settings generalizing m with
  | nil => rfl
  | cons setting rest ih =>
    obtain ⟨name, value, ramped, rfl, finite⟩ := gains setting List.mem_cons_self
    rw [setAll, done_set_gain used name finite ramped]
    exact ih (.act _ reachable) (reachable.used_act used nofun)
      fun later listed => gains later (List.mem_cons_of_mem _ listed)

end Mixer

namespace Timeline

/-- The track is started when the timeline is brought to a frame. -/
def starts (t : Timeline) (frame : Nat) : Bool := !t.started && t.startFrame ≤ frame

/-- The calls that the mixer gets when the timeline is brought to a frame. -/
def calls (t : Timeline) (frame : Nat) : List (Action σ) :=
  (if t.starts frame then [.setEnabled t.slot true] else []) ++
    (t.due frame).flatMap fun e => e.event.calls t.slot

/-- The timeline at a frame. -/
def advanced (t : Timeline) (frame : Nat) : Timeline :=
  { t with
    started := t.started || t.startFrame ≤ frame ||
      (t.due frame).any (·.event.enabled == some true)
    pending := t.pending.dropWhile fun e => e.frame ≤ frame }

/-- The calls of a timeline free no slot. -/
theorem ne_free_of_mem_calls {t : Timeline} {frame : Nat} {action : Action σ}
    (listed : action ∈ t.calls frame) (freed : Slot) : action ≠ .free freed := by
  rcases List.mem_append.mp listed with listed | listed
  · split at listed
    · obtain rfl := List.mem_singleton.mp listed
      exact nofun
    · nomatch listed
  · obtain ⟨e, -, listed⟩ := List.mem_flatMap.mp listed
    exact e.event.ne_free_of_mem_calls listed freed

/-- The gains of all events to come are numbers. -/
def Finite (t : Timeline) : Prop := ∀ e ∈ t.pending, e.event.Finite

theorem Finite.due {t : Timeline} (finite : t.Finite) (frame : Nat) :
    ∀ e ∈ t.due frame, e.event.Finite :=
  fun e listed => finite e ((List.takeWhile_sublist _).subset listed)

theorem Finite.advanced {t : Timeline} (finite : t.Finite) (frame : Nat) :
    (t.advanced frame).Finite :=
  fun e listed => finite e ((List.dropWhile_sublist _).subset listed)

variable [Provider σ]

/-- The calls of a timeline leave its track in use. -/
theorem used_calls (t : Timeline) (frame : Nat) {m : Mixer σ} (reachable : m.Reachable)
    (used : (m.track? t.slot).isSome = true) :
    ((m.run (t.calls frame)).track? t.slot).isSome = true :=
  reachable.used_run used fun _ listed => ne_free_of_mem_calls listed t.slot

theorem start_eq (t : Timeline) (frame : Nat) {m : Mixer σ}
    (used : (m.track? t.slot).isSome = true) :
    t.start frame m = .ok ({ t with started := t.started || t.startFrame ≤ frame },
      m.run (if t.starts frame then [.setEnabled t.slot true] else [])) := by
  unfold start starts
  cases before : t.started with
  | true =>
    have same : { t with started := true } = t := by rw [← before]
    simp only [Bool.not_true, Bool.false_and, Bool.false_eq_true, if_false, Bool.true_or, same]
    rfl
  | false =>
    simp only [Bool.not_false, Bool.true_and, Bool.false_or, decide_eq_true_eq]
    by_cases reached : t.startFrame ≤ frame
    · simp only [if_pos reached, decide_eq_true reached]
      unfold Mixer.enable
      rw [Mixer.done_setEnabled used]
      rfl
    · have same : { t with started := false } = t := by rw [← before]
      simp only [if_neg reached, decide_eq_false reached, same]
      rfl

/-- One event comes down to its calls. -/
theorem apply_eq (t : Timeline) {e : TrackEvent} {m : Mixer σ} (reachable : m.Reachable)
    (used : (m.track? t.slot).isSome = true) (finite : e.Finite) :
    t.apply e m = .ok ({ t with started := t.started || e.enabled == some true },
      m.run (e.calls t.slot)) := by
  have written : ((m.run (e.settings.map (.set t.slot))).track? t.slot).isSome = true := by
    refine reachable.used_run used fun action listed => ?_
    obtain ⟨setting, -, rfl⟩ := List.mem_map.mp listed
    exact nofun
  unfold apply TrackEvent.calls
  rw [Mixer.setAll_eq reachable used fun setting listed => finite.settings listed,
    Mixer.run_append]
  simp only [bind, Except.bind]
  generalize m.run (e.settings.map (.set t.slot)) = between at written
  cases e.enabled with
  | none => simp [pure, Except.pure, Mixer.run]
  | some enabled =>
    cases enabled with
    | true =>
      unfold Mixer.enable
      simp [Mixer.done_setEnabled written, pure, Except.pure, Mixer.run]
    | false =>
      unfold Mixer.disable
      simp [Mixer.done_setEnabled written, pure, Except.pure, Mixer.run]

theorem applyAll_eq {t : Timeline} {events : List TimedEvent} {m : Mixer σ}
    (reachable : m.Reachable) (used : (m.track? t.slot).isSome = true)
    (finite : ∀ e ∈ events, e.event.Finite) :
    events.foldlM (fun (t, m) e => t.apply e.event m) (t, m) =
      .ok ({ t with started := t.started || events.any (·.event.enabled == some true) },
        m.run (events.flatMap fun e => e.event.calls t.slot)) := by
  induction events generalizing t m with
  | nil => simp [pure, Except.pure, Mixer.run]
  | cons e rest ih =>
    have first := finite e List.mem_cons_self
    rw [List.foldlM_cons]
    simp only [apply_eq t reachable used first, bind, Except.bind]
    have after : ((m.run (e.event.calls t.slot)).track? t.slot).isSome = true :=
      reachable.used_run used fun action listed => e.event.ne_free_of_mem_calls listed _
    have later := ih (t := { t with started := t.started || e.event.enabled == some true })
      (reachable.run (e.event.calls t.slot)) after
      fun e listed => finite e (List.mem_cons_of_mem _ listed)
    rw [List.flatMap_cons, Mixer.run_append, List.any_cons, ← Bool.or_assoc]
    exact later

/-- Bringing a timeline to a frame comes down to its calls. -/
theorem advance_eq {t : Timeline} (frame : Nat) {m : Mixer σ} (reachable : m.Reachable)
    (used : (m.track? t.slot).isSome = true) (finite : t.Finite) :
    t.advance frame m = .ok (t.advanced frame, m.run (t.calls frame)) := by
  have started := reachable.used_run used fun action listed => by
    have called : action ∈ t.calls frame := List.mem_append_left _ listed
    exact ne_free_of_mem_calls called t.slot
  have applied := applyAll_eq (t := { t with
      started := t.started || t.startFrame ≤ frame
      pending := t.pending.dropWhile fun e => e.frame ≤ frame })
    (reachable.run _) started (finite.due frame)
  unfold advance calls
  rw [start_eq t frame used, Mixer.run_append]
  exact applied

end Timeline

end Mixdown
