import Mixdown.Proofs.Mixer.Standby
import Mixdown.Proofs.Mixer.Upkeep

/-!
# Consoles are mixers

A console keeps its words, the flags of its strips and the strips of free slots in step
(`Console.InStep`). While it does, a call answers what the call to its mixer answers and makes of it
what that call makes of the mixer (`Console.Follows`), and so does a block. What every use of a
mixer keeps up is then kept up of the words and strips, too (`Console.run_inOrder`).
-/

namespace Mixdown

/-! ## Words of slots -/

namespace Slot

theorem toBitVec_bit : ∀ slot : Slot, slot.bit.toBitVec = .twoPow 32 slot.val := by
  decide +kernel

theorem twoPow_ne_zero : ∀ slot : Slot, BitVec.twoPow 32 slot.val ≠ 0#32 := by
  decide +kernel

theorem isIn_iff (slot : Slot) (word : UInt32) :
    slot.isIn word = true ↔ word &&& slot.bit ≠ 0 := bne_iff_ne

/-- A slot is in a word if its bit is set. -/
theorem isIn_eq_getLsbD (slot : Slot) (word : UInt32) :
    slot.isIn word = word.toBitVec.getLsbD slot.val := by
  have masked : (word &&& slot.bit).toBitVec =
      if word.toBitVec.getLsbD slot.val then .twoPow 32 slot.val else 0#32 := by
    rw [UInt32.toBitVec_and, toBitVec_bit, BitVec.and_twoPow]
  have zero : word &&& slot.bit = 0 ↔ (word &&& slot.bit).toBitVec = 0#32 :=
    UInt32.toBitVec_inj.symm
  unfold isIn
  rw [bne, Bool.eq_iff_iff, Bool.not_eq_true', beq_eq_false_iff_ne, ne_eq, zero, masked]
  cases word.toBitVec.getLsbD slot.val <;> simp [twoPow_ne_zero]

variable (slot other : Slot) (word word' : UInt32)

@[simp] theorem isIn_zero : slot.isIn 0 = false := by
  rw [isIn_eq_getLsbD]
  exact BitVec.getLsbD_zero

@[simp] theorem isIn_or : slot.isIn (word ||| word') = (slot.isIn word || slot.isIn word') := by
  simp only [isIn_eq_getLsbD, UInt32.toBitVec_or, BitVec.getLsbD_or]

@[simp] theorem isIn_andNot :
    slot.isIn (word &&& ~~~word') = (slot.isIn word && !slot.isIn word') := by
  have inside : slot.val < 32 := slot.isLt
  simp only [isIn_eq_getLsbD, UInt32.toBitVec_and, UInt32.toBitVec_not, BitVec.getLsbD_and,
    BitVec.getLsbD_not, inside, decide_true, Bool.true_and]

@[simp] theorem isIn_bit : slot.isIn other.bit = decide (slot = other) := by
  have inside : other.val < 32 := other.isLt
  rw [isIn_eq_getLsbD, toBitVec_bit, BitVec.getLsbD_twoPow]
  simp [inside, Fin.ext_iff, eq_comm]

/-- A word is known by the slots in it. -/
theorem word_ext {word word' : UInt32} (same : ∀ slot : Slot, slot.isIn word = slot.isIn word') :
    word = word' := by
  apply UInt32.toBitVec_inj.mp
  apply BitVec.eq_of_getLsbD_eq
  intro i inside
  have here := same ⟨i, inside⟩
  rwa [isIn_eq_getLsbD, isIn_eq_getLsbD] at here

theorem isIn_slots (s : Settings) : slot.isIn s.slots = decide (slot.val < s.maxTracks) := by
  have every : ∀ slot : Slot, slot.isIn 0xffff_ffff = true := by decide +kernel
  have first : ∀ n < maxSlots, ∀ slot : Slot,
      slot.isIn (((1 : UInt32) <<< .ofNat n) - 1) = decide (slot.val < n) := by decide +kernel
  unfold Settings.slots
  by_cases all : maxSlots ≤ s.maxTracks
  · rw [if_pos all, every, decide_eq_true (Nat.lt_of_lt_of_le slot.isLt all)]
  · rw [if_neg all, first _ (Nat.lt_of_not_le all)]

end Slot

/-- A track goes on to be enabled or disabled. -/
def Track.SameFlag {σ : Type} (t t' : Track σ) : Prop := t'.enabled = t.enabled

theorem Track.SameFlag.refl {σ : Type} (t : Track σ) : t.SameFlag t := rfl

namespace Console

variable {σ : Type} {c : Console σ} {slot other : Slot}

/-! ## The mixer of a console -/

theorem strip_setStrip_self (c : Console σ) (slot : Slot) (t : Track σ) :
    (c.setStrip slot t).strip slot = t :=
  Vector.getElem_set_self slot.isLt

theorem strip_setStrip_ne (c : Console σ) (t : Track σ) (differ : other ≠ slot) :
    (c.setStrip slot t).strip other = c.strip other :=
  Vector.getElem_set_ne slot.isLt other.isLt fun same => differ (Fin.ext same.symm)

theorem track?_mixer (c : Console σ) (slot : Slot) :
    c.mixer.track? slot = if slot.isIn c.used then some (c.strip slot) else none :=
  Slot.get_table _ slot

theorem track?_mixer_used (used : slot.isIn c.used = true) :
    c.mixer.track? slot = some (c.strip slot) := by
  rw [track?_mixer, if_pos used]

theorem track?_mixer_free (free : slot.isIn c.used = false) : c.mixer.track? slot = none := by
  rw [track?_mixer, if_neg (Bool.eq_false_iff.mp free)]

/-- The words, the flags of the strips and the strips of free slots agree. -/
structure InStep (c : Console σ) : Prop where
  configured : c.configured = c.settings.slots
  used : ∀ slot : Slot, slot.isIn c.used = true → slot.isIn c.configured = true
  enabled : ∀ slot : Slot, slot.isIn c.enabled = true → slot.isIn c.used = true
  flags : ∀ slot, (c.strip slot).enabled = slot.isIn c.enabled
  idle : ∀ slot : Slot, slot.isIn c.used = false →
    (c.strip slot).chain = none ∧ (c.strip slot).resampler = none

theorem InStep.disabled (inStep : c.InStep) (free : slot.isIn c.used = false) :
    (c.strip slot).enabled = false := by
  rw [inStep.flags slot]
  exact Bool.eq_false_iff.mpr fun enabled => nomatch (inStep.enabled slot enabled).symm.trans free

/-- The strips of free slots. -/
def spare (c : Console σ) (slot : Slot) : Option (Track σ) :=
  if slot.isIn c.used then none else some (c.strip slot)

/-- A console in step that is a mixer. -/
structure Mirrors (c : Console σ) (m : Mixer σ) : Prop where
  mixer : c.mixer = m
  inStep : c.InStep

/-- A console answers as a mixer does, and is that mixer after the call. -/
structure Follows {α : Type} (answer : Answer σ α) (answer' : Mixer.Answer σ α) : Prop where
  result : answer.1 = answer'.1
  mirrors : answer.2.Mirrors answer'.2

/-- A strip is written, along with the bits of its slot and with the plan. -/
structure Wrote (c c' : Console σ) (slot : Slot) (t : Track σ) (plan : Option Plan) : Prop where
  rest : c' = { c with
    strips := c'.strips, used := c'.used, enabled := c'.enabled, plan }
  strips : c'.strips = c.strips.set slot t slot.isLt
  used : ∀ other, other ≠ slot → other.isIn c'.used = other.isIn c.used
  enabled : ∀ other, other ≠ slot → other.isIn c'.enabled = other.isIn c.enabled

namespace Wrote

variable {c' : Console σ} {t : Track σ} {plan : Option Plan} (wrote : Wrote c c' slot t plan)

include wrote

theorem strip_self : c'.strip slot = t := by
  unfold strip
  rw [wrote.strips]
  exact strip_setStrip_self c slot t

theorem strip_ne (differ : other ≠ slot) : c'.strip other = c.strip other := by
  unfold strip
  rw [wrote.strips]
  exact strip_setStrip_ne c t differ

theorem mixer_eq : c'.mixer =
    { c.mixer.setTrack slot (if slot.isIn c'.used then some t else none) with plan } := by
  have tracks : ∀ other, c'.mixer.track? other =
      (c.mixer.setTrack slot (if slot.isIn c'.used then some t else none)).track? other := by
    intro other
    rw [track?_mixer]
    by_cases here : other = slot
    · subst here
      rw [Mixer.track?_setTrack_self, wrote.strip_self]
    · rw [Mixer.track?_setTrack_ne _ _ here, track?_mixer, wrote.used other here,
        wrote.strip_ne here]
  rw [wrote.rest] at tracks ⊢
  exact Mixer.eq_of_tracks rfl rfl rfl rfl rfl rfl rfl tracks

theorem mixer_used (used : slot.isIn c'.used = true) :
    c'.mixer = { c.mixer.setTrack slot (some t) with plan } := by
  rw [wrote.mixer_eq, if_pos used]

theorem mixer_free (free : slot.isIn c'.used = false) :
    c'.mixer = { c.mixer.setTrack slot none with plan } := by
  rw [wrote.mixer_eq, if_neg (Bool.eq_false_iff.mp free)]

theorem inStep (inStep : c.InStep)
    (used : slot.isIn c'.used = true → slot.isIn c.configured = true)
    (enabled : slot.isIn c'.enabled = true → slot.isIn c'.used = true)
    (flag : t.enabled = slot.isIn c'.enabled)
    (free : slot.isIn c'.used = false → t.chain = none ∧ t.resampler = none) : c'.InStep := by
  have configured : c'.configured = c.configured := by rw [wrote.rest]
  have settings : c'.settings = c.settings := by rw [wrote.rest]
  refine ⟨?_, fun other => ?_, fun other => ?_, fun other => ?_, fun other => ?_⟩
  · rw [configured, settings]
    exact inStep.configured
  all_goals by_cases here : other = slot
  · subst here
    rw [configured]
    exact used
  · rw [configured, wrote.used other here]
    exact inStep.used other
  · subst here
    exact enabled
  · rw [wrote.used other here, wrote.enabled other here]
    exact inStep.enabled other
  · subst here
    rw [wrote.strip_self]
    exact flag
  · rw [wrote.strip_ne here, wrote.enabled other here]
    exact inStep.flags other
  · subst here
    rw [wrote.strip_self]
    exact free
  · rw [wrote.strip_ne here, wrote.used other here]
    exact inStep.idle other

end Wrote

/-- The words of a console are the masks of its mixer. -/
theorem InStep.masks (inStep : c.InStep) :
    c.used = c.mixer.trackMask ∧ c.enabled = c.mixer.enabledMask := by
  constructor
  · refine Slot.word_ext fun slot => Bool.eq_iff_iff.mpr ?_
    rw [Slot.isIn_iff slot c.mixer.trackMask, Mixer.trackMask_bit, track?_mixer]
    cases slot.isIn c.used <;> simp
  · refine Slot.word_ext fun slot => Bool.eq_iff_iff.mpr ?_
    rw [Slot.isIn_iff slot c.mixer.enabledMask, Mixer.enabledMask_bit]
    unfold Mixer.isEnabled
    rw [track?_mixer, ← inStep.flags slot]
    cases used : slot.isIn c.used with
    | true => rfl
    | false =>
      rw [inStep.disabled used]
      rfl

/-- A console says of a slot what its mixer says. -/
theorem InStep.says (inStep : c.InStep) (slot : Slot) :
    c.isEnabled slot = c.mixer.isEnabled slot ∧ c.session? slot = c.mixer.session? slot ∧
      c.unreleased slot = c.mixer.unreleased slot ∧ c.source? slot = c.mixer.source? slot := by
  unfold isEnabled session? unreleased source? Mixer.isEnabled Mixer.session? Mixer.unreleased
    Mixer.source?
  rw [← inStep.flags slot, track?_mixer]
  cases used : slot.isIn c.used with
  | true => exact ⟨rfl, rfl, rfl, rfl⟩
  | false =>
    obtain ⟨chain, -⟩ := inStep.idle slot used
    refine ⟨inStep.disabled used, rfl, rfl, ?_⟩
    unfold Track.source?
    rw [chain]
    rfl

/-! ## Calls that write the words -/

theorem lowest?_free (inStep : c.InStep) :
    Slot.lowest? (c.configured &&& ~~~c.used) = Slot.all.find? fun slot =>
      slot.val < c.settings.maxTracks && (c.mixer.track? slot).isNone := by
  unfold Slot.lowest?
  congr 1
  funext slot
  rw [Slot.isIn_andNot, inStep.configured, Slot.isIn_slots, track?_mixer]
  cases slot.isIn c.used <;> simp

theorem follows_allocate (inStep : c.InStep) (mask : ChannelMask) (format : SampleFormat)
    (session : Int32) :
    Follows (c.allocate mask format session) (c.mixer.allocate mask format session) := by
  have same : c.mixer.settings = c.settings := rfl
  unfold Console.allocate Mixer.allocate
  cases c.mixer.maskRefusal? mask .standard with
  | some why => exact ⟨rfl, rfl, inStep⟩
  | none =>
    simp only [lowest?_free inStep, same]
    cases found : Slot.all.find? fun slot =>
        decide (slot.val < c.settings.maxTracks) && (c.mixer.track? slot).isNone with
    | none => exact ⟨rfl, rfl, inStep⟩
    | some slot =>
      rw [← lowest?_free inStep] at found
      have free := List.find?_some found
      rw [Slot.isIn_andNot, Bool.and_eq_true, Bool.not_eq_true'] at free
      obtain ⟨configured, free⟩ := free
      have disabled : slot.isIn c.enabled = false :=
        (inStep.flags slot).symm.trans (inStep.disabled free)
      have wrote : Wrote c { c.setStrip slot (.new c.settings mask format session) with
          used := c.used ||| slot.bit } slot (.new c.settings mask format session) c.plan :=
        ⟨rfl, rfl, fun other differ => by simp [differ], fun _ _ => rfl⟩
      have used : slot.isIn (c.used ||| slot.bit) = true := by simp
      exact ⟨rfl, wrote.mixer_used used,
        wrote.inStep inStep (fun _ => configured) (fun _ => used) disabled.symm
          fun _ => ⟨rfl, rfl⟩⟩

/-- A call on a slot that is not in use is refused by the console as by its mixer. -/
theorem follows_withSlot {α : Type} (inStep : c.InStep) {act : Answer σ α}
    {act' : Track σ → Mixer.Answer σ α}
    (follows : slot.isIn c.used = true → Follows act (act' (c.strip slot))) :
    Follows (c.withSlot slot act) (c.mixer.withTrack slot act') := by
  unfold Console.withSlot Mixer.withTrack
  by_cases used : slot.isIn c.used = true
  · rw [if_pos used, track?_mixer_used used]
    exact follows used
  · rw [if_neg used, track?_mixer_free (Bool.eq_false_iff.mpr used)]
    exact ⟨rfl, rfl, inStep⟩

theorem follows_free (inStep : c.InStep) (slot : Slot) :
    Follows (c.free slot) (c.mixer.free slot) := by
  refine follows_withSlot inStep fun _ => ?_
  generalize c.strip slot = t
  have wrote : Wrote c
      { c.setStrip slot { t with chain := none, resampler := none, enabled := false } with
        enabled := c.enabled &&& ~~~slot.bit
        used := c.used &&& ~~~slot.bit
        plan := none } slot { t with chain := none, resampler := none, enabled := false } none :=
    ⟨rfl, rfl, fun other differ => by simp [differ], fun other differ => by simp [differ]⟩
  have unused : slot.isIn (c.used &&& ~~~slot.bit) = false := by simp
  have disabled : slot.isIn (c.enabled &&& ~~~slot.bit) = false := by simp
  refine ⟨rfl, wrote.mixer_free unused, wrote.inStep inStep (fun used => ?_) (fun enabled => ?_)
    disabled.symm fun _ => ⟨rfl, rfl⟩⟩
  · nomatch used.symm.trans unused
  · nomatch enabled.symm.trans disabled

theorem follows_setEnabled (inStep : c.InStep) (slot : Slot) (enabled : Bool) :
    Follows (c.setEnabled slot enabled) (c.mixer.setEnabled slot enabled) := by
  refine follows_withSlot inStep fun used => ?_
  by_cases same : (c.strip slot).enabled = enabled
  · rw [if_pos same, if_pos same]
    exact ⟨rfl, rfl, inStep⟩
  · rw [if_neg same, if_neg same]
    have wrote : Wrote c { c.setStrip slot { c.strip slot with enabled } with
        enabled := if enabled then c.enabled ||| slot.bit else c.enabled &&& ~~~slot.bit
        plan := none } slot { c.strip slot with enabled } none :=
      ⟨rfl, rfl, fun _ _ => rfl, fun other differ => by cases enabled <;> simp [differ]⟩
    refine ⟨rfl, wrote.mixer_used used,
      wrote.inStep inStep (fun _ => inStep.used slot used) (fun _ => used) ?_ fun free => ?_⟩
    · cases enabled <;> simp
    · nomatch used.symm.trans free

/-- A change from outside changes the provider of the mixer, too. -/
theorem mirrors_mapSource (inStep : c.InStep) (slot : Slot) (change : σ → σ) :
    (c.mapSource slot change).Mirrors (c.mixer.mapSource slot change) := by
  have wrote : Wrote c (c.mapSource slot change) slot
      { c.strip slot with chain := (c.strip slot).chain.map (Chain.mapSource change) } c.plan :=
    ⟨rfl, rfl, fun _ _ => rfl, fun _ _ => rfl⟩
  constructor
  · unfold Mixer.mapSource
    cases used : slot.isIn c.used with
    | true =>
      rw [track?_mixer_used used]
      exact wrote.mixer_used used
    | false =>
      have free := track?_mixer_free used
      rw [free]
      exact (wrote.mixer_free used).trans (Mixer.setTrack_self c.mixer free)
  · refine wrote.inStep inStep (inStep.used slot) (inStep.enabled slot) (inStep.flags slot) ?_
    intro free
    obtain ⟨chain, resampler⟩ := inStep.idle slot free
    exact ⟨by rw [chain]; rfl, resampler⟩

/-! ## Calls and blocks that leave the words alone -/

theorem strip_adopt (c : Console σ) (m : Mixer σ) (slot : Slot) :
    (c.adopt m).strip slot = match m.track? slot with
      | some t => { t with enabled := (c.strip slot).enabled }
      | none => c.strip slot :=
  Slot.get_table _ slot

/-- A mixer with the same slots in use and the same flags is adopted as it is. -/
theorem mirrors_adopt (inStep : c.InStep) {m : Mixer σ} (settings : m.settings = c.settings)
    (factory : m.factory = c.factory)
    (tracks : ∀ slot, Option.Rel Track.SameFlag (c.mixer.track? slot) (m.track? slot)) :
    (c.adopt m).Mirrors m := by
  have flags : ∀ slot, ((c.adopt m).strip slot).enabled = (c.strip slot).enabled := by
    intro slot
    rw [strip_adopt]
    cases m.track? slot with
    | none => rfl
    | some t => rfl
  constructor
  · refine Mixer.eq_of_tracks settings.symm factory.symm rfl rfl rfl rfl rfl fun slot => ?_
    rw [track?_mixer, strip_adopt]
    have related := tracks slot
    by_cases used : slot.isIn c.used = true
    · rw [track?_mixer_used used] at related
      rw [if_pos (show slot.isIn (c.adopt m).used = true from used)]
      generalize m.track? slot = after at related
      cases related with
      | some same => rw [← same]
    · rw [track?_mixer_free (Bool.eq_false_iff.mpr used)] at related
      rw [if_neg (show ¬ slot.isIn (c.adopt m).used = true from used)]
      generalize m.track? slot = after at related
      cases related with
      | none => rfl
  · refine ⟨inStep.configured, inStep.used, inStep.enabled,
      fun slot => (flags slot).trans (inStep.flags slot), fun slot free => ?_⟩
    have related := tracks slot
    rw [track?_mixer_free (show slot.isIn c.used = false from free)] at related
    rw [strip_adopt]
    generalize m.track? slot = after at related
    cases related with
    | none => exact inStep.idle slot free

/-- A call on a slot that adopts what its mixer makes of the strips. -/
theorem follows_adopted {α : Type} (inStep : c.InStep) {answer : Mixer.Answer σ α}
    (refused : slot.isIn c.used = false → answer = (.error (.refused (.track slot)), c.mixer))
    (adopted : (c.adopt answer.2).Mirrors answer.2) :
    Follows (c.withSlot slot (answer.1, c.adopt answer.2)) answer := by
  unfold withSlot
  cases used : slot.isIn c.used with
  | true => exact ⟨rfl, adopted⟩
  | false =>
    rw [refused used]
    exact ⟨rfl, rfl, inStep⟩

end Console

/-- What is done leaves the slots in use and the flags of the tracks alone. -/
def Action.KeepsSlots {σ : Type} : Action σ → Prop
  | .allocate _ _ _ | .free _ | .setEnabled _ _ => False
  | .set _ _ | .attach _ _ | .outside _ _ | .render _ => True

namespace Mixer

variable {σ : Type} [Provider σ] {m : Mixer σ}

theorem Written.enabled_eq {t t' : Track σ} {setting : TrackSetting} {keeps : Bool}
    (written : Written m t setting t' keeps) : t'.enabled = t.enabled := by
  cases written with
  | mask mask _ _ _ =>
    show (withMask m.settings t mask).enabled = t.enabled
    unfold withMask
    simp only
    split <;> rfl
  | _ => rfl

theorem Edit.enabled_eq {action : Action σ} (keeps : action.KeepsSlots) {slot : Slot}
    {before after : Option (Track σ)} {kept : Bool} (edit : Edit m slot action before after kept) :
    Option.Rel Track.SameFlag before after := by
  cases edit with
  | same _ _ _ _ => exact rel_refl .refl _
  | allocated _ _ _ _ _ => exact keeps.elim
  | freed _ => exact keeps.elim
  | switched _ _ => exact keeps.elim
  | attached _ _ _ _ => exact .some rfl
  | outside _ _ => exact .some rfl
  | written _ _ _ _ written => exact .some written.enabled_eq

theorem WellFormed.enabled_act (wf : m.WellFormed) {action : Action σ} (keeps : action.KeepsSlots)
    (slot : Slot) : Option.Rel Track.SameFlag (m.track? slot) ((m.act action).track? slot) := by
  rcases wf.act_cases action with ⟨pts, rfl, rendered⟩ | ⟨place, t, kept, writes, edit⟩
  · have moved : Option.Rel Track.Moved (m.track? slot) ((m.act (.render pts)).track? slot) :=
      rendered.tracks slot
    generalize m.track? slot = before, (m.act (.render pts)).track? slot = after at moved ⊢
    cases moved with
    | none => exact .none
    | some moved => exact .some moved.enabled_eq
  · by_cases here : slot = place
    · subst here
      rw [writes.track?_self]
      exact edit.enabled_eq keeps
    · rw [writes.track?_ne here]
      exact rel_refl .refl _

end Mixer

namespace Console

variable {σ : Type} [Provider σ] {c : Console σ}

/-- What leaves the slots alone is adopted. -/
theorem mirrors_adopt_act (inStep : c.InStep) (wf : c.mixer.WellFormed) {action : Action σ}
    (keeps : action.KeepsSlots) : (c.adopt (c.mixer.act action)).Mirrors (c.mixer.act action) :=
  mirrors_adopt inStep (wf.settings_act action) (wf.factory_act action) (wf.enabled_act keeps)

theorem follows_attach (inStep : c.InStep) (wf : c.mixer.WellFormed) (slot : Slot)
    (source : Option σ) : Follows (c.attach slot source) (c.mixer.attach slot source) := by
  have adopted : (c.adopt (c.mixer.attach slot source).2).Mirrors (c.mixer.attach slot source).2 :=
    mirrors_adopt_act inStep wf (show (Action.attach slot source).KeepsSlots from trivial)
  have refused (free : slot.isIn c.used = false) :
      c.mixer.attach slot source = (.error (.refused (.track slot)), c.mixer) := by
    unfold Mixer.attach Mixer.withTrack
    rw [track?_mixer_free free]
  exact follows_adopted inStep refused adopted

theorem follows_set (inStep : c.InStep) (wf : c.mixer.WellFormed) (slot : Slot)
    (setting : TrackSetting) : Follows (c.set slot setting) (c.mixer.set slot setting) := by
  have adopted : (c.adopt (c.mixer.set slot setting).2).Mirrors (c.mixer.set slot setting).2 :=
    mirrors_adopt_act inStep wf (show (Action.set slot setting).KeepsSlots from trivial)
  have refused (free : slot.isIn c.used = false) :
      c.mixer.set slot setting = (.error (.refused (.track slot)), c.mixer) := by
    unfold Mixer.set Mixer.withTrack
    rw [track?_mixer_free free]
  exact follows_adopted inStep refused adopted

omit [Provider σ] in
/-- The strips that a block finds are those of the mixer, and those of the free slots, which are
disabled. -/
theorem staged_eq (inStep : c.InStep) : c.staged = c.mixer.joined c.spare := by
  refine Mixer.eq_of_tracks rfl rfl rfl rfl rfl rfl rfl fun slot => ?_
  have strip : c.staged.track? slot = some (c.strip slot) := by
    refine (Slot.get_table _ slot).trans (congrArg some ?_)
    rw [← inStep.flags slot]
  rw [strip, Mixer.track?_joined, track?_mixer]
  unfold spare
  cases slot.isIn c.used <;> rfl

omit [Provider σ] in
/-- The strips of the free slots are adopted as they are. -/
theorem adopt_joined {m : Mixer σ}
    (there : ∀ slot : Slot, (m.track? slot).isSome = slot.isIn c.used) :
    c.adopt (m.joined c.spare) = c.adopt m := by
  have strips : (c.adopt (m.joined c.spare)).strips = (c.adopt m).strips := by
    apply Vector.ext
    intro i inside
    show (c.adopt (m.joined c.spare)).strip ⟨i, inside⟩ = (c.adopt m).strip ⟨i, inside⟩
    rw [strip_adopt, strip_adopt, Mixer.track?_joined]
    have here := there ⟨i, inside⟩
    cases found : m.track? ⟨i, inside⟩ with
    | some t => rfl
    | none =>
      rw [found] at here
      unfold spare
      rw [← here]
      rfl
  show { c.adopt m with strips := (c.adopt (m.joined c.spare)).strips } = c.adopt m
  rw [strips]

/-- A block of a console is a block of its mixer. -/
theorem mirrors_render (inStep : c.InStep) (reachable : c.mixer.Reachable) (pts : Option Int) :
    (c.render pts).Mirrors (c.mixer.render pts) := by
  have wf := reachable.wellFormed
  have keeps : (Action.render pts : Action σ).KeepsSlots := trivial
  have disabled : ∀ slot t, c.spare slot = some t → t.enabled = false := by
    intro slot t spare
    unfold Console.spare at spare
    split at spare
    · nomatch spare
    · rename_i free
      rw [← Option.some.inj spare]
      exact inStep.disabled (Bool.eq_false_iff.mpr free)
  have there : ∀ slot : Slot, ((c.mixer.render pts).track? slot).isSome = slot.isIn c.used := by
    intro slot
    refine (isSome_of_rel (wf.enabled_act keeps slot)).trans ?_
    rw [track?_mixer]
    cases slot.isIn c.used <;> rfl
  unfold render
  rw [staged_eq inStep,
    Mixer.render_joined disabled (Mixer.stands_currentPlan wf reachable.standing) pts,
    adopt_joined there]
  exact mirrors_adopt_act inStep wf keeps

/-! ## Runs -/

/-- The console after something was done to it. -/
def act (c : Console σ) : Action σ → Console σ
  | .allocate mask format session => (c.allocate mask format session).2
  | .free slot => (c.free slot).2
  | .setEnabled slot enabled => (c.setEnabled slot enabled).2
  | .set slot setting => (c.set slot setting).2
  | .attach slot source => (c.attach slot source).2
  | .outside slot change => c.mapSource slot change
  | .render pts => c.render pts

/-- The console after one thing after another was done to it. -/
def run (c : Console σ) (actions : List (Action σ)) : Console σ := actions.foldl act c

/-- Whatever is done to a console is done to its mixer. -/
theorem mirrors_act (inStep : c.InStep) (reachable : c.mixer.Reachable) (action : Action σ) :
    (c.act action).Mirrors (c.mixer.act action) := by
  have wf := reachable.wellFormed
  cases action with
  | allocate mask format session => exact (follows_allocate inStep mask format session).mirrors
  | free slot => exact (follows_free inStep slot).mirrors
  | setEnabled slot enabled => exact (follows_setEnabled inStep slot enabled).mirrors
  | set slot setting => exact (follows_set inStep wf slot setting).mirrors
  | attach slot source => exact (follows_attach inStep wf slot source).mirrors
  | outside slot change => exact mirrors_mapSource inStep slot change
  | render pts => exact mirrors_render inStep reachable pts

theorem mirrors_run (inStep : c.InStep) (reachable : c.mixer.Reachable)
    (actions : List (Action σ)) : (c.run actions).Mirrors (c.mixer.run actions) := by
  induction actions generalizing c with
  | nil => exact ⟨rfl, inStep⟩
  | cons action rest ih =>
    have here := mirrors_act inStep reachable action
    have there := ih here.inStep (here.mixer ▸ .act action reachable)
    rw [here.mixer] at there
    exact there

omit [Provider σ] in
/-- A new console is a new mixer, or is refused like one. -/
theorem mixer_new (settings : Settings) (factory : Option DownmixFactory) :
    (Console.new settings factory : Except MixerError (Console σ)).map mixer =
      Mixer.new settings factory := by
  unfold Console.new Mixer.new
  cases settings.fault? with
  | some fault => rfl
  | none =>
    refine congrArg Except.ok (Mixer.eq_of_tracks rfl rfl rfl rfl rfl rfl rfl fun slot => ?_)
    rw [track?_mixer_free (Slot.isIn_zero slot)]
    exact (Vector.getElem_replicate slot.isLt).symm

omit [Provider σ] in
theorem inStep_new {settings : Settings} {factory : Option DownmixFactory}
    (built : Console.new settings factory = .ok c) : c.InStep := by
  unfold Console.new at built
  cases fault : settings.fault? with
  | some why =>
    rw [fault] at built
    nomatch built
  | none =>
    rw [fault] at built
    obtain rfl := Except.ok.inj built
    have strip (slot : Slot) : (Vector.replicate maxSlots (Track.new settings .stereo .pcm16 0 :
        Track σ)).get slot = .new settings .stereo .pcm16 0 := Vector.getElem_replicate slot.isLt
    refine ⟨rfl, fun slot used => ?_, fun slot enabled => ?_, fun slot => ?_, fun slot _ => ?_⟩
    · nomatch used.symm.trans (Slot.isIn_zero slot)
    · nomatch enabled.symm.trans (Slot.isIn_zero slot)
    · exact (congrArg Track.enabled (strip slot)).trans (Slot.isIn_zero slot).symm
    · exact ⟨congrArg Track.chain (strip slot), congrArg Track.resampler (strip slot)⟩

/-- What is kept up of a console; `retuned` says of a slot that the rate of its track was
changed. -/
structure InOrder (settings : Settings) (factory : Option DownmixFactory) (retuned : Slot → Prop)
    (c : Console σ) : Prop where
  buses : c.mainBuses.length = settings.mainBuses ∧ c.auxBuses.length = settings.auxBuses
  enabled : ∀ slot : Slot, slot.isIn c.enabled = true → slot.isIn c.used = true
  used : ∀ slot : Slot, slot.isIn c.used = true → slot.val < settings.maxTracks
  flags : ∀ slot, (c.strip slot).enabled = slot.isIn c.enabled
  idle : ∀ slot : Slot, slot.isIn c.used = false →
    (c.strip slot).chain = none ∧ (c.strip slot).resampler = none
  tracks : ∀ slot : Slot, slot.isIn c.used = true →
    (c.strip slot).InOrder settings factory (retuned slot)

/-- After any run of a console that was built from settings, by calls that succeed or fail and by
blocks, with providers whose declarations stay, the console is in order, and its resamplers are
those of the tracks whose rate was changed. The same run of its mixer ends with its strips in use,
and the masks of that mixer are its words. -/
theorem run_inOrder (steady : Provider.Steady σ) {settings : Settings}
    {factory : Option DownmixFactory} (built : Console.new settings factory = .ok c)
    (actions : List (Action σ)) (keeps : ∀ action ∈ actions, action.KeepsDeclarations) :
    (c.run actions).InOrder settings factory (c.mixer.Retuned actions) ∧
      Mixer.new settings factory = .ok c.mixer ∧
      (c.run actions).mixer = c.mixer.run actions ∧
      (c.run actions).used = (c.mixer.run actions).trackMask ∧
      (c.run actions).enabled = (c.mixer.run actions).enabledMask := by
  have built' : Mixer.new settings factory = .ok c.mixer := by
    rw [← mixer_new, built]
    rfl
  obtain ⟨same, inStep⟩ := mirrors_run (inStep_new built) (.new built') actions
  have reachable : (c.mixer.run actions).Reachable := .run (.new built') actions
  have wf := reachable.wellFormed
  obtain ⟨-, given, -⟩ := Mixer.new_spec built'
  have settings' : (c.mixer.run actions).settings = settings :=
    ((Mixer.WellFormed.new built').settings_run actions).trans given
  refine ⟨?_, built', same, same ▸ inStep.masks⟩
  have found (slot : Slot) (used : slot.isIn (c.run actions).used = true) :
      (c.mixer.run actions).track? slot = some ((c.run actions).strip slot) := by
    rw [← same]
    exact track?_mixer_used used
  refine ⟨?_, inStep.enabled, fun slot used => ?_, inStep.flags, inStep.idle, fun slot used => ?_⟩
  · rw [← settings']
    exact ⟨(congrArg (·.mainBuses.length) same).trans wf.mainBuses,
      (congrArg (·.auxBuses.length) same).trans wf.auxBuses⟩
  · rw [← settings']
    exact wf.slots slot _ (found slot used)
  · exact Mixer.tracks_run steady built' actions keeps (found slot used)

/-- A track of six channels whose rate is changed goes on with its provider when another mask is
refused, and through a block and another mode of its downmix. The strip next to it was used and is
free again. -/
theorem run_inOrder_surround :
    let slot : Slot := ⟨0, by decide⟩
    let other : Slot := ⟨1, by decide⟩
    let clip := Clip.ofSamples 6 (.pcm16 (Array.replicate 12 1000)) true
    let actions : List (Action Clip) :=
      [.allocate .fivePointOne .pcm16 0, .attach slot (some clip), .setEnabled slot true,
        .allocate .fivePointOne .pcm16 0, .attach other (some clip), .setEnabled other true,
        .set slot (.sampleRate 44100), .render none, .set slot (.mask .stereo), .free other,
        .set slot (.downmix .strip)]
    ∃ c, Console.new { frameCount := 2 } (some .standard) = .ok c ∧
      (∀ action ∈ actions, action.KeepsDeclarations) ∧
      (c.run actions).used = 1 ∧ (c.run actions).enabled = 1 ∧
      ((c.run actions).strip slot).chain.isSome = true ∧
      ((c.run actions).strip other).chain.isNone = true ∧ c.mixer.Retuned actions slot := by
  intro slot other clip actions
  have keeps : ∀ action ∈ actions, action.KeepsDeclarations := by
    intro action member
    simp only [actions, List.mem_cons, List.not_mem_nil, or_false] at member
    rcases member with rfl | rfl | rfl | rfl | rfl | rfl | rfl | rfl | rfl | rfl | rfl <;> trivial
  obtain ⟨c, built, used, enabled, chained, resampled⟩ : ∃ c,
      Console.new { frameCount := 2 } (some .standard) = .ok c ∧ (c.run actions).used = 1 ∧
      (c.run actions).enabled = 1 ∧ ((c.run actions).strip slot).chain.isSome = true ∧
      ((c.run actions).strip slot).resampler.isSome = true :=
    ⟨_, rfl, by decide +kernel, by decide +kernel, by decide +kernel, by decide +kernel⟩
  obtain ⟨inOrder, -⟩ := run_inOrder Clip.honest.toSteady built actions keeps
  have first : slot.isIn (c.run actions).used = true := by rw [used]; decide +kernel
  have second : other.isIn (c.run actions).used = false := by rw [used]; decide +kernel
  exact ⟨c, built, keeps, used, enabled, chained,
    Option.isNone_iff_eq_none.mpr (inOrder.idle other second).1,
    (inOrder.tracks slot first).resampler_iff.mp resampled⟩

end Console

end Mixdown
