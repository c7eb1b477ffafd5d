import Mixdown.Proofs.Mixer.WellFormed
import Mixdown.Rendering.Timeline

/-!
# Where tracks go

The route of a track is its main bus and the format that it asks this bus for. Only two settings
change a route, and only that of their own track; switching a track, giving it a provider and mixing
a block change none.
-/

namespace Mixdown

/-- A chain of computations succeeds where each of them does. -/
theorem bind_eq_ok {ε α β : Type} {x : Except ε α} {f : α → Except ε β} {b : β} :
    x >>= f = .ok b ↔ ∃ a, x = .ok a ∧ f a = .ok b := by
  cases x with
  | error e => simp [bind, Except.bind]
  | ok a => simp [bind, Except.bind]

/-- The main bus of a track, and the format that the track asks it for. -/
structure Route where
  bus : Nat
  format : MixFormat
deriving DecidableEq, Repr

/-- The route of a track after a setting was accepted. -/
def TrackSetting.reroute : TrackSetting → Route → Route
  | .mainBus bus, route => { route with bus }
  | .busFormat asked, route => { route with format := asked }
  | _, route => route

/-- The route of a track after settings were accepted one after another. -/
def TrackSetting.rerouteAll (settings : List TrackSetting) (route : Route) : Route :=
  settings.foldl (fun route setting => setting.reroute route) route

/-- Gains change no route. -/
theorem TrackEvent.rerouteAll_gainSettings (gain auxLevel : Option Float32) (ramped : Bool)
    (route : Route) :
    TrackSetting.rerouteAll (gainSettings gain auxLevel ramped) route = route := by
  cases gain <;> cases auxLevel <;> rfl

variable {σ : Type}

def Track.route (t : Track σ) : Route := ⟨t.mainBus, t.busFormat⟩

/-- What is done to a mixer leaves the tracks in their slots and changes no route. -/
def Action.KeepsRoute : Action σ → Prop
  | .setEnabled _ _ | .attach _ _ | .outside _ _ | .render _ => True
  | .set _ setting => ∀ route, setting.reroute route = route
  | .allocate _ _ _ | .free _ => False

namespace Mixer

/-- The route of the track in a slot. -/
def route? (m : Mixer σ) (slot : Slot) : Option Route := (m.track? slot).map Track.route

variable [Provider σ]

/-- Something was done to the track in a slot that changed its route by `f`. -/
structure Rerouted (f : Route → Route) (slot : Slot) (m m' : Mixer σ) : Prop where
  reached : Reachable m → Reachable m'
  settings : m'.settings = m.settings
  here : m'.route? slot = (m.route? slot).map f
  others : ∀ other, other ≠ slot → m'.route? other = m.route? other

/-- Something was done to a mixer that changed no route. -/
structure KeepsRoutes (m m' : Mixer σ) : Prop where
  reached : Reachable m → Reachable m'
  settings : m'.settings = m.settings
  routes : ∀ slot, m'.route? slot = m.route? slot

namespace Rerouted

variable {f g : Route → Route} {slot : Slot} {m m' m'' : Mixer σ}

theorem refl (slot : Slot) (m : Mixer σ) : Rerouted id slot m m :=
  ⟨id, rfl, Option.map_id_apply.symm, fun _ _ => rfl⟩

theorem trans (first : Rerouted f slot m m') (second : Rerouted g slot m' m'') :
    Rerouted (g ∘ f) slot m m'' := by
  refine ⟨second.reached ∘ first.reached, second.settings.trans first.settings, ?_, ?_⟩
  · rw [second.here, first.here, Option.map_map]
  · intro other apart
    exact (second.others other apart).trans (first.others other apart)

theorem keeps (rerouted : Rerouted f slot m m') (same : ∀ route, f route = route) :
    KeepsRoutes m m' := by
  refine ⟨rerouted.reached, rerouted.settings, ?_⟩
  intro other
  by_cases here : other = slot
  · subst here
    rw [rerouted.here, funext same, Option.map_id']
  · exact rerouted.others other here

/-- A call that wrote the track of a slot has changed its route and no other. -/
theorem of_writes {t t' : Track σ} {keeps : Bool} (action : Action σ) (acted : m' = m.act action)
    (found : m.track? slot = some t) (writes : Writes m m' slot (some t') keeps)
    (route : t'.route = f t.route) : Rerouted f slot m m' := by
  refine ⟨fun reachable => acted ▸ .act action reachable, writes.settings, ?_, ?_⟩
  · unfold route?
    rw [writes.track?_self, found, Option.map_some, Option.map_some, Option.map_some, route]
  · intro other apart
    unfold route?
    rw [writes.track?_ne apart]

end Rerouted

namespace KeepsRoutes

variable {m m' m'' : Mixer σ}

theorem refl (m : Mixer σ) : KeepsRoutes m m := ⟨id, rfl, fun _ => rfl⟩

theorem trans (first : KeepsRoutes m m') (second : KeepsRoutes m' m'') : KeepsRoutes m m'' :=
  ⟨second.reached ∘ first.reached, second.settings.trans first.settings,
    fun slot => (second.routes slot).trans (first.routes slot)⟩

end KeepsRoutes

/-- A block changes no route. -/
theorem Rendered.route? {m m' : Mixer σ} (rendered : Rendered m m') (slot : Slot) :
    m'.route? slot = m.route? slot := by
  have moved := rendered.tracks slot
  unfold Mixer.route?
  generalize m.track? slot = before at moved ⊢
  generalize m'.track? slot = after at moved ⊢
  cases moved with
  | none => rfl
  | some moved =>
    rw [Option.map_some, Option.map_some, moved.rest]
    rfl

/-- What is left of the route of a track by a write, whether it succeeds or not. -/
theorem Written.route {m : Mixer σ} {t t' : Track σ} {setting : TrackSetting} {keeps : Bool}
    (written : Written m t setting t' keeps) :
    t'.route = t.route ∨ t'.route = setting.reroute t.route := by
  cases written with
  | mainBus bus known => exact .inr rfl
  | busFormat format => exact .inr rfl
  | mask mask chain accepted built =>
    refine .inl ?_
    unfold withMask
    simp only
    split <;> rfl
  | _ => exact .inl rfl

/-- A setting that is accepted changes the route of its track as it says. -/
theorem write_route {m : Mixer σ} {slot : Slot} {t t' : Track σ} {setting : TrackSetting}
    {changed : Bool} (found : m.track? slot = some t)
    (accepted : (m.write slot t setting).1 = .ok changed)
    (held : (m.write slot t setting).2.track? slot = some t') :
    t'.route = setting.reroute t.route := by
  obtain ⟨after, keeps, written, -, writes⟩ := m.write_written found setting
  obtain rfl : after = t' := Option.some.inj (writes.track?_self.symm.trans held)
  have unchanged (same : setting.reroute t.route = t.route) :
      after.route = setting.reroute t.route := by
    rcases written.route with kept | rerouted
    · rw [kept, same]
    · exact rerouted
  cases setting with
  | mainBus bus =>
    simp only [write] at accepted held
    by_cases known : bus < m.mainBuses.length
    · rw [if_pos known, track?_setTrack_self] at held
      obtain rfl := Option.some.inj held
      rfl
    · rw [if_neg known] at accepted
      exact absurd accepted (by simp)
  | busFormat format =>
    simp only [write, track?_setTrack_self] at held
    obtain rfl := Option.some.inj held
    rfl
  | _ => exact unchanged rfl

omit [Provider σ] in
/-- A call that is done has succeeded. -/
theorem Answer.eq_of_done {α : Type} {answer : Answer σ α} {m' : Mixer σ}
    (done : Answer.done answer = .ok m') : ∃ a, answer = (.ok a, m') := by
  obtain ⟨_ | a, after⟩ := answer
  · nomatch done
  · obtain rfl : after = m' := Except.ok.inj done
    exact ⟨a, rfl⟩

section

variable {m m' : Mixer σ} {slot : Slot}

/-- A setting that is accepted was written to a track in use. -/
theorem set_eq_ok {setting : TrackSetting} (answer : m.set slot setting = (.ok (), m')) :
    ∃ t changed after, m.track? slot = some t ∧
      m.write slot t setting = (.ok changed, after) ∧ m'.tracks = after.tracks := by
  unfold set withTrack at answer
  cases found : m.track? slot with
  | none =>
    rw [found] at answer
    nomatch answer
  | some t =>
    rw [found] at answer
    simp only at answer
    rcases result : m.write slot t setting with ⟨why | changed, after⟩
    · rw [result] at answer
      nomatch answer
    · rw [result] at answer
      refine ⟨t, changed, after, rfl, result, ?_⟩
      cases changed with
      | false => exact congrArg (Mixer.tracks ∘ Prod.snd) answer.symm
      | true => exact congrArg (Mixer.tracks ∘ Prod.snd) answer.symm

theorem rerouted_set {setting : TrackSetting}
    (done : Answer.done (m.set slot setting) = .ok m') :
    Rerouted setting.reroute slot m m' := by
  obtain ⟨⟨⟩, answer⟩ := Answer.eq_of_done done
  obtain ⟨t, changed, after, found, wrote, tracks⟩ := set_eq_ok answer
  obtain ⟨t', keeps, -, writes⟩ := m.set_written found setting
  rw [answer] at writes
  have held : (m.write slot t setting).2.track? slot = some t' := by
    unfold track?
    rw [wrote, ← tracks]
    exact writes.track?_self
  exact .of_writes (.set slot setting) (congrArg Prod.snd answer).symm found writes
    (write_route found (congrArg Prod.fst wrote) held)

theorem rerouted_setAll {settings : List TrackSetting} (done : m.setAll slot settings = .ok m') :
    Rerouted (TrackSetting.rerouteAll settings) slot m m' := by
  induction settings generalizing m with
  | nil =>
    obtain rfl := Except.ok.inj done
    exact .refl slot m
  | cons setting rest ih =>
    unfold setAll at done
    obtain ⟨between, first, done⟩ := bind_eq_ok.mp done
    exact (rerouted_set first).trans (ih done)

end

theorem Edit.route {m : Mixer σ} {slot : Slot} {action : Action σ} {t t' : Option (Track σ)}
    {keeps : Bool} (edit : Edit m slot action t t' keeps) (plain : action.KeepsRoute) :
    t'.map Track.route = t.map Track.route := by
  cases edit with
  | same => rfl
  | allocated => exact plain.elim
  | freed => exact plain.elim
  | switched t enabled => rfl
  | attached t source chain built => rfl
  | outside t change => rfl
  | written t t' setting keeps written =>
    rcases written.route with kept | rerouted
    · rw [Option.map_some, Option.map_some, kept]
    · rw [Option.map_some, Option.map_some, rerouted, plain]

theorem Reachable.keepsRoutes {m : Mixer σ} (reachable : Reachable m) (action : Action σ)
    (plain : action.KeepsRoute) : KeepsRoutes m (m.act action) := by
  rcases reachable.wellFormed.act_cases action with
    ⟨pts, rfl, rendered⟩ | ⟨slot, t, keeps, writes, edit⟩
  · exact ⟨.act _, rendered.settings, rendered.route?⟩
  · refine ⟨.act _, writes.settings, ?_⟩
    intro other
    by_cases here : other = slot
    · subst here
      unfold route?
      rw [writes.track?_self]
      exact edit.route plain
    · unfold route?
      rw [writes.track?_ne here]

section

variable {m m' : Mixer σ} {slot : Slot}

theorem Reachable.keepsRoutes_setEnabled {enabled : Bool} (reachable : Reachable m)
    (done : Answer.done (m.setEnabled slot enabled) = .ok m') : KeepsRoutes m m' := by
  obtain ⟨⟨⟩, answer⟩ := Answer.eq_of_done done
  obtain rfl : m.act (.setEnabled slot enabled) = m' := congrArg Prod.snd answer
  exact reachable.keepsRoutes _ trivial

theorem Reachable.keepsRoutes_attach {source : Option σ} (reachable : Reachable m)
    (done : Answer.done (m.attach slot source) = .ok m') : KeepsRoutes m m' := by
  obtain ⟨former, answer⟩ := Answer.eq_of_done done
  obtain rfl : m.act (.attach slot source) = m' := congrArg Prod.snd answer
  exact reachable.keepsRoutes _ trivial

end

end Mixer

end Mixdown
