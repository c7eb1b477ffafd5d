import Mixdown.CommandLine.Run
import Mixdown.Proofs.Mixer.Routes

/-!
# The routes of a scene

From the first track that is added to the last block that is mixed, every track of a mixer has the
route that some track of the scene asks for: adding a track gives it its route, and nothing that a
timeline or a block does changes a route.
-/

namespace Mixdown

namespace Timeline

section

variable {σ : Type} [Provider σ] {t t' : Timeline} {frame : Nat} {m m' : Mixer σ}

theorem keepsRoutes_start (reachable : m.Reachable) (done : t.start frame m = .ok (t', m')) :
    m.KeepsRoutes m' := by
  unfold start at done
  split at done
  · obtain ⟨m'', enabled, rest⟩ := bind_eq_ok.mp done
    obtain ⟨-, rfl⟩ := Prod.mk.inj (Except.ok.inj rest)
    exact reachable.keepsRoutes_setEnabled enabled
  · obtain ⟨-, rfl⟩ := Prod.mk.inj (Except.ok.inj done)
    exact .refl m

/-- An event only moves gains and switches its track. -/
theorem keepsRoutes_apply {e : TrackEvent} (reachable : m.Reachable)
    (done : t.apply e m = .ok (t', m')) : m.KeepsRoutes m' := by
  unfold apply at done
  obtain ⟨between, written, rest⟩ := bind_eq_ok.mp done
  have gains : m.KeepsRoutes between := (Mixer.rerouted_setAll written).keeps
    (TrackEvent.rerouteAll_gainSettings e.gain e.auxLevel e.ramp)
  split at rest
  · obtain ⟨-, rfl⟩ := Prod.mk.inj (Except.ok.inj rest)
    exact gains
  · obtain ⟨m'', enabled, rest⟩ := bind_eq_ok.mp rest
    obtain ⟨-, rfl⟩ := Prod.mk.inj (Except.ok.inj rest)
    exact gains.trans ((gains.reached reachable).keepsRoutes_setEnabled enabled)
  · obtain ⟨m'', disabled, rest⟩ := bind_eq_ok.mp rest
    obtain ⟨-, rfl⟩ := Prod.mk.inj (Except.ok.inj rest)
    exact gains.trans ((gains.reached reachable).keepsRoutes_setEnabled disabled)

theorem keepsRoutes_applyAll {events : List TimedEvent} (reachable : m.Reachable)
    (done : events.foldlM (fun (t, m) e => t.apply e.event m) (t, m) = .ok (t', m')) :
    m.KeepsRoutes m' := by
  induction events generalizing t m with
  | nil =>
    obtain ⟨-, rfl⟩ := Prod.mk.inj (Except.ok.inj done)
    exact .refl m
  | cons e rest ih =>
    rw [List.foldlM_cons] at done
    obtain ⟨⟨t'', between⟩, applied, rest⟩ := bind_eq_ok.mp done
    have first := keepsRoutes_apply reachable applied
    exact first.trans (ih (first.reached reachable) rest)

theorem keepsRoutes_advance (reachable : m.Reachable) (done : t.advance frame m = .ok (t', m')) :
    m.KeepsRoutes m' := by
  unfold advance at done
  obtain ⟨⟨t'', between⟩, started, rest⟩ := bind_eq_ok.mp done
  have first := keepsRoutes_start reachable started
  exact first.trans (keepsRoutes_applyAll (first.reached reachable) rest)

end

end Timeline

theorem Rendering.keepsRoutes_advanceAll {timelines timelines' : List Timeline} {frame : Nat}
    {m m' : Mixer Clip} (reachable : m.Reachable)
    (done : advanceAll frame timelines m = .ok (timelines', m')) : m.KeepsRoutes m' := by
  induction timelines generalizing m timelines' with
  | nil =>
    obtain ⟨-, rfl⟩ := Prod.mk.inj (Except.ok.inj done)
    exact .refl m
  | cons t rest ih =>
    unfold advanceAll at done
    obtain ⟨⟨t', between⟩, advanced, later⟩ := bind_eq_ok.mp done
    obtain ⟨⟨rest', after⟩, advanced', last⟩ := bind_eq_ok.mp later
    obtain ⟨-, rfl⟩ := Prod.mk.inj (Except.ok.inj last)
    have first := Timeline.keepsRoutes_advance reachable advanced
    exact first.trans (ih (first.reached reachable) advanced')

/-- The route that a track of a scene asks for. -/
def TrackSpec.route (settings : Settings) (spec : TrackSpec) : Route :=
  ⟨spec.bus, spec.busFormat.getD settings.outputFormat⟩

namespace Mixer

/-- A new track has the route of the settings. -/
theorem allocate_route {m m' : Mixer Clip} {mask : ChannelMask} {format : SampleFormat}
    {session : Int32} {slot : Slot} (done : m.allocate mask format session = (.ok slot, m')) :
    m'.settings = m.settings ∧ m'.route? slot = some ⟨0, m.settings.outputFormat⟩ ∧
      ∀ other, other ≠ slot → m'.route? other = m.route? other := by
  unfold allocate at done
  split at done
  · nomatch (Prod.mk.inj done).1
  · split at done
    · nomatch (Prod.mk.inj done).1
    · obtain ⟨same, rfl⟩ := Prod.mk.inj done
      obtain rfl := Except.ok.inj same
      refine ⟨rfl, ?_, ?_⟩
      · unfold route?
        rw [track?_setTrack_self]
        rfl
      · intro other apart
        unfold route?
        rw [track?_setTrack_ne m _ apart]

/-- The settings that a track of a scene gets last: those that depend on the scene only. -/
def trackSettings (settings : Settings) (spec : TrackSpec) (rate : UInt32) : List TrackSetting :=
  (if rate = settings.sampleRate then [] else [.sampleRate rate]) ++
    [.mainBus spec.bus, .auxBus spec.auxBus] ++
    (spec.busFormat.map TrackSetting.busFormat).toList ++
    TrackEvent.gainSettings (some spec.gain) (some spec.auxLevel) false

/-- What adding a track comes to. -/
theorem addTrack_eq_ok {m m' : Mixer Clip} {index : Nat} {spec : TrackSpec} {recording : Recording}
    {slot : Slot} : m.addTrack index spec recording = .ok (slot, m') ↔
      ∃ mask m₁ m₂ m₃, ChannelMask.ofChannelCount? recording.channels = some mask ∧
        m.allocate mask spec.format (.ofNat index) = (.ok slot, m₁) ∧
        Answer.done (m₁.set slot (.downmix spec.downmix)) = .ok m₂ ∧
        Answer.done (m₂.attach slot (some (recording.toClip spec.format spec.looping))) = .ok m₃ ∧
        m₃.setAll slot (trackSettings m₃.settings spec recording.sampleRate) = .ok m' := by
  constructor
  · intro added
    unfold addTrack at added
    simp only at added
    split at added
    · rename_i mask layout
      rw [pure_bind] at added
      split at added
      · rename_i slot₁ m₁ allocated
        rw [pure_bind] at added
        simp only at added
        split at added
        · rename_i m₄ routed
          obtain ⟨rfl, rfl⟩ := Prod.mk.inj (Except.ok.inj added)
          obtain ⟨m₂, downmixed, routed⟩ := bind_eq_ok.mp routed
          obtain ⟨m₃, attached, written⟩ := bind_eq_ok.mp routed
          exact ⟨mask, m₁, m₂, m₃, layout, allocated, downmixed, attached, written⟩
        · nomatch added
      · nomatch added
    · nomatch added
  · rintro ⟨mask, m₁, m₂, m₃, layout, allocated, downmixed, attached, written⟩
    unfold trackSettings at written
    unfold addTrack
    simp only [layout, pure_bind, allocated]
    rw [bind_eq_ok.mpr ⟨m₂, downmixed, bind_eq_ok.mpr ⟨m₃, attached, written⟩⟩]
    rfl

/-- The last settings of a track bring it from wherever it is to the route that it asks for. -/
theorem rerouteAll_trackSettings (settings : Settings) (spec : TrackSpec) (rate : UInt32)
    (bus : Nat) :
    TrackSetting.rerouteAll (trackSettings settings spec rate) ⟨bus, settings.outputFormat⟩ =
      spec.route settings := by
  unfold trackSettings TrackSetting.rerouteAll TrackSpec.route
  by_cases same : rate = settings.sampleRate
  · rw [if_pos same]
    cases spec.busFormat <;> rfl
  · rw [if_neg same]
    cases spec.busFormat <;> rfl

/-- A track of a scene that is added has the route that it asks for, and the routes of the tracks
before it stay. -/
theorem addTrack_route {m m' : Mixer Clip} {index : Nat} {spec : TrackSpec} {recording : Recording}
    {slot : Slot} (reachable : m.Reachable)
    (added : m.addTrack index spec recording = .ok (slot, m')) :
    m'.Reachable ∧ m'.settings = m.settings ∧ m'.route? slot = some (spec.route m.settings) ∧
      ∀ other, other ≠ slot → m'.route? other = m.route? other := by
  obtain ⟨mask, m₁, m₂, m₃, -, allocated, downmixed, attached, written⟩ :=
    addTrack_eq_ok.mp added
  obtain ⟨settings, fresh, others⟩ := allocate_route allocated
  have reachable₁ : m₁.Reachable := by
    have acted : m.act (.allocate mask spec.format (.ofNat index)) = m₁ :=
      congrArg Prod.snd allocated
    rw [← acted]
    exact .act _ reachable
  have first : KeepsRoutes m₁ m₂ := (rerouted_set downmixed).keeps fun _ => rfl
  have second : KeepsRoutes m₂ m₃ := (first.reached reachable₁).keepsRoutes_attach attached
  have third := rerouted_setAll written
  have kept := first.trans second
  refine ⟨third.reached (kept.reached reachable₁), ?_, ?_, ?_⟩
  · rw [third.settings, kept.settings, settings]
  · rw [third.here, kept.routes, fresh, Option.map_some, kept.settings, settings,
      rerouteAll_trackSettings]
  · intro other apart
    rw [third.others other apart, kept.routes, others other apart]

end Mixer

/-- A mixer of a scene: it has the settings of the scene, and each of its tracks has the route that
some track of the scene asks for. -/
structure Scene.Routes (scene : Scene) (m : Mixer Clip) : Prop where
  reachable : m.Reachable
  settings : m.settings = scene.settings
  routes : ∀ slot route, m.route? slot = some route →
    ∃ spec ∈ scene.tracks, route = spec.route scene.settings

namespace Scene.Routes

variable {scene : Scene} {m m' : Mixer Clip}

theorem keeps (routed : scene.Routes m) (keeps : m.KeepsRoutes m') : scene.Routes m' := by
  refine ⟨keeps.reached routed.reachable, keeps.settings.trans routed.settings, ?_⟩
  intro slot route found
  exact routed.routes slot route (keeps.routes slot ▸ found)

theorem addTrack (routed : scene.Routes m) {index : Nat} {spec : TrackSpec} {recording : Recording}
    {slot : Slot} (listed : spec ∈ scene.tracks)
    (added : m.addTrack index spec recording = .ok (slot, m')) : scene.Routes m' := by
  obtain ⟨reachable, settings, here, others⟩ := Mixer.addTrack_route routed.reachable added
  refine ⟨reachable, settings.trans routed.settings, ?_⟩
  intro other route found
  by_cases same : other = slot
  · subst same
    rw [here, routed.settings] at found
    exact ⟨spec, listed, (Option.some.inj found).symm⟩
  · exact routed.routes other route (others other same ▸ found)

end Scene.Routes

/-- A file of 16 bits is written for a bus only if no track of the scene asks the bus for
singles. -/
theorem Scene.format_eq_pcm16 {scene : Scene} {spec : TrackSpec} (listed : spec ∈ scene.tracks)
    (narrow : scene.busFormat spec.bus = .pcm16) :
    (spec.route scene.settings).format = .pcm16 := by
  have asked : (spec.route scene.settings).format ∈
      (scene.tracks.filter (·.bus == spec.bus)).map fun track =>
        track.busFormat.getD scene.settings.outputFormat :=
    List.mem_map.mpr ⟨spec, List.mem_filter.mpr ⟨listed, beq_self_eq_true _⟩, rfl⟩
  unfold busFormat at narrow
  rw [if_neg (by simpa using List.ne_nil_of_mem asked)] at narrow
  cases wide : (spec.route scene.settings).format with
  | pcm16 => rfl
  | float =>
    rw [wide] at asked
    rw [if_pos (List.contains_iff_mem.mpr asked)] at narrow
    nomatch narrow

section Success

variable {S α β : Type}

/-- A run succeeds with a value and leads from a state to another. -/
def Succeeds (run : ExceptT RunError (StateM S) α) (s : S) (a : α) (s' : S) : Prop :=
  run.run.run s = (.ok a, s')

theorem succeeds_pure {a a' : α} {s s' : S}
    (succeeds : Succeeds (pure a : ExceptT RunError (StateM S) α) s a' s') : a = a' ∧ s = s' := by
  obtain ⟨same, stays⟩ := Prod.mk.inj succeeds
  exact ⟨Except.ok.inj same, stays⟩

theorem not_succeeds_throw {e : RunError} {a : α} {s s' : S} :
    ¬Succeeds (throw e : ExceptT RunError (StateM S) α) s a s' := by
  intro succeeds
  cases (Prod.mk.inj succeeds).1

theorem succeeds_bind {x : ExceptT RunError (StateM S) α} {f : α → ExceptT RunError (StateM S) β}
    {b : β} {s s' : S} (succeeds : Succeeds (x >>= f) s b s') :
    ∃ a between, Succeeds x s a between ∧ Succeeds (f a) between b s' := by
  unfold Succeeds at succeeds ⊢
  rw [ExceptT.run_bind, StateT.run_bind] at succeeds
  rcases result : x.run.run s with ⟨_ | a, between⟩
  · rw [result] at succeeds
    nomatch succeeds
  · rw [result] at succeeds
    exact ⟨a, between, rfl, succeeds⟩

theorem Succeeds.bind {x : ExceptT RunError (StateM S) α} {f : α → ExceptT RunError (StateM S) β}
    {a : α} {b : β} {s between s' : S} (first : Succeeds x s a between)
    (second : Succeeds (f a) between b s') : Succeeds (x >>= f) s b s' := by
  unfold Succeeds at first second ⊢
  rw [ExceptT.run_bind, StateT.run_bind, first]
  exact second

/-- What a host does always succeeds, and its answer is handed on. -/
theorem succeeds_lift {x : StateM S α} {a : α} {s s' : S}
    (succeeds : Succeeds (liftM x : ExceptT RunError (StateM S) α) s a s') : x.run s = (a, s') := by
  have same : ((Except.ok (x.run s).1 : Except RunError α), (x.run s).2) = (.ok a, s') := succeeds
  obtain ⟨answer, state⟩ := Prod.mk.inj same
  exact Prod.ext (Except.ok.inj answer) state

/-- A run that ends with an error if there is one succeeds only if there is none. -/
theorem succeeds_unless {x : ExceptT RunError (StateM S) Unit} {failure : Option MixerError}
    {s s' : S} (succeeds : Succeeds (do
      x
      if let some e := failure then throw (RunError.mixer e)) s () s') :
    failure = none ∧ Succeeds x s () s' := by
  obtain ⟨⟨⟩, between, run, last⟩ := succeeds_bind succeeds
  cases failure with
  | some e => exact absurd last not_succeeds_throw
  | none =>
    obtain ⟨-, rfl⟩ := succeeds_pure last
    exact ⟨rfl, run⟩

/-- A track is loaded where its sound is, and where the mixer takes it. -/
theorem succeeds_loadTrack {host : Host (StateM S)} {scenePath : String} {index : Nat}
    {m m' : Mixer Clip} {spec : TrackSpec} {timeline : Timeline} {s s' : S} :
    Succeeds (loadTrack host scenePath index m spec) s (timeline, m') s' ↔
      ∃ recording slot, Succeeds (loadSource host scenePath spec.source) s recording s' ∧
        m.addTrack index spec recording = .ok (slot, m') ∧
        timeline = .ofSpec slot spec m'.settings.sampleRate := by
  constructor
  · intro loaded
    unfold loadTrack at loaded
    obtain ⟨recording, between, source, loaded⟩ := succeeds_bind loaded
    split at loaded
    · exact absurd loaded not_succeeds_throw
    · rename_i slot m'' added
      obtain ⟨same, rfl⟩ := succeeds_pure loaded
      obtain ⟨rfl, rfl⟩ := Prod.mk.inj same
      exact ⟨recording, slot, source, added, rfl⟩
  · rintro ⟨recording, slot, source, added, rfl⟩
    refine source.bind ?_
    simp only [added]
    rfl

theorem addTracks_routes {scene : Scene} {host : Host (StateM S)} {scenePath : String}
    {index : Nat} {m m' : Mixer Clip} {specs : List TrackSpec} {timelines : List Timeline}
    {s s' : S} (routed : scene.Routes m) (listed : ∀ spec ∈ specs, spec ∈ scene.tracks)
    (added : Succeeds (addTracks host scenePath index m specs) s (timelines, m') s') :
    scene.Routes m' := by
  induction specs generalizing index m timelines s s' with
  | nil =>
    obtain ⟨same, -⟩ := succeeds_pure added
    exact (Prod.mk.inj same).2 ▸ routed
  | cons spec rest ih =>
    unfold addTracks at added
    obtain ⟨⟨timeline, between⟩, s₁, loaded, added⟩ := succeeds_bind added
    obtain ⟨recording, slot, -, here, -⟩ := succeeds_loadTrack.mp loaded
    obtain ⟨⟨later, after⟩, s₂, added_rest, last⟩ := succeeds_bind added
    obtain ⟨same, -⟩ := succeeds_pure last
    obtain ⟨-, rfl⟩ := Prod.mk.inj same
    exact ih (routed.addTrack (listed spec List.mem_cons_self) here)
      (fun spec member => listed spec (List.mem_cons_of_mem _ member)) added_rest

/-- A rendering starts with the tracks of the scene on their routes, and with nothing kept. -/
theorem startRendering_routes {scene : Scene} {host : Host (StateM S)} {scenePath : String}
    {bus : Nat} {r : Rendering} {s s' : S}
    (started : Succeeds (startRendering host scenePath scene bus) s r s') :
    scene.Routes r.mixer ∧ r.bus = bus ∧ r.main = #[] := by
  unfold startRendering at started
  split at started
  · exact absurd started not_succeeds_throw
  · rename_i m built
    obtain ⟨⟨timelines, m'⟩, s₁, added, last⟩ := succeeds_bind started
    obtain ⟨rfl, -⟩ := succeeds_pure last
    obtain ⟨-, settings, -, -, empty, -, -⟩ := Mixer.new_spec built
    have fresh : scene.Routes m := by
      refine ⟨.new built, settings, ?_⟩
      intro slot route found
      unfold Mixer.route? at found
      rw [empty slot] at found
      nomatch found
    exact ⟨addTracks_routes fresh (fun _ member => member) added, rfl, rfl⟩

end Success

end Mixdown
