import Mixdown.Proofs.Mixer.Sources

/-!
# The custody of providers

A mixer keeps the providers that are attached to it and hands each one back when it is replaced,
detached or freed. The account of a run lists what each slot holds, what was handed back, what was
lost, and what was done to each provider in between: `Custody.step` says that blocks call the
providers, and that calls that configure a mixer have nothing to do with them, except that one kind
of write may drop a provider whose declarations have changed (`Mixer.drops`).
-/

namespace Mixdown

variable {σ : Type}

/-- Something that is done to a provider. -/
inductive Touch (σ : Type) where
  | call (call : Call)
  | outside (change : σ → σ)

/-- A provider in the custody of a mixer, or handed back by it. -/
structure Deposit (σ : Type) where
  /-- The number of the deposits before it. -/
  number : Nat
  /-- The provider as it was attached. -/
  attached : σ
  /-- What was done to it from then on, the first thing first. -/
  touches : List (Touch σ)

/-- The providers that were attached to the slots of a mixer. -/
structure Custody (σ : Type) where
  /-- What each slot holds. -/
  held : Slot → Option (Deposit σ)
  /-- The number of deposits so far. -/
  count : Nat
  /-- What was handed back, the first one first. -/
  returned : List (Deposit σ)
  /-- What was dropped, the first one first. -/
  lost : List (Deposit σ)

namespace Deposit

def touched (d : Deposit σ) (touches : List (Touch σ)) : Deposit σ :=
  { d with touches := d.touches ++ touches }

end Deposit

namespace Custody

/-- Nothing was attached yet. -/
def empty : Custody σ := ⟨fun _ => none, 0, [], []⟩

/-- A slot hands back what it holds and takes a provider, or none. -/
def exchange (c : Custody σ) (slot : Slot) (source : Option σ) : Custody σ :=
  { c with
    held := Function.update c.held slot (source.map fun s => ⟨c.count, s, []⟩)
    count := c.count + source.toList.length
    returned := c.returned ++ (c.held slot).toList }

/-- A slot loses what it holds. -/
def lose (c : Custody σ) (slot : Slot) : Custody σ :=
  { c with
    held := Function.update c.held slot none
    lost := c.lost ++ (c.held slot).toList }

/-- Something is done to the providers that are held. -/
def touch (c : Custody σ) (touches : Slot → List (Touch σ)) : Custody σ :=
  { c with held := fun slot => (c.held slot).map fun d => d.touched (touches slot) }

/-- All that was ever attached: what was handed back, what was lost and what is held. -/
def deposits (c : Custody σ) : List (Deposit σ) :=
  c.returned ++ c.lost ++ Slot.all.filterMap c.held

/-- Every deposit was either handed back, once, or lost, or is held, by one slot. -/
def Complete (c : Custody σ) : Prop := (c.deposits.map Deposit.number).Perm (.range c.count)

theorem complete_empty : (empty : Custody σ).Complete := by
  have nothing : Slot.all.filterMap (empty : Custody σ).held = [] :=
    List.filterMap_eq_nil_iff.mpr fun _ _ => rfl
  unfold Complete deposits
  rw [nothing]
  exact .nil

/-- What is held once a slot was given something else, and what the slot held before. -/
theorem perm_update (held : Slot → Option (Deposit σ)) (slot : Slot) (d : Option (Deposit σ)) :
    ((held slot).toList ++ Slot.all.filterMap (Function.update held slot d)).Perm
      (Slot.all.filterMap held ++ d.toList) := by
  -- the slot comes first, and the other slots hold what they held
  have order : Slot.all.Perm (slot :: Slot.all.erase slot) :=
    List.perm_cons_erase (Slot.mem_all slot)
  have others : (Slot.all.erase slot).filterMap (Function.update held slot d) =
      (Slot.all.erase slot).filterMap held := by
    refine List.filterMap_congr fun other member => Function.update_of_ne ?_ _ _
    exact (Slot.nodup_all.mem_erase_iff.mp member).1
  have first (f : Slot → Option (Deposit σ)) : (Slot.all.filterMap f).Perm
      ((f slot).toList ++ (Slot.all.erase slot).filterMap f) := by
    refine (order.filterMap f).trans ?_
    rw [List.filterMap_cons]
    cases f slot <;> exact .refl _
  have before := first held
  have after := first (Function.update held slot d)
  rw [Function.update_self, others] at after
  refine (after.append_left _).trans (.trans ?_ (before.symm.append_right _))
  rw [List.append_assoc]
  exact List.perm_append_comm.append_left _

theorem Complete.exchange {c : Custody σ} (complete : c.Complete) (slot : Slot)
    (source : Option σ) : (c.exchange slot source).Complete := by
  -- a new deposit gets the next number
  have deposits : (c.exchange slot source).deposits.Perm
      (c.deposits ++ (source.map fun s => ⟨c.count, s, []⟩).toList) := by
    unfold Custody.deposits Custody.exchange
    simp only [List.append_assoc]
    refine .append_left c.returned (.trans ?_ ((perm_update c.held slot _).append_left c.lost))
    rw [← List.append_assoc, ← List.append_assoc]
    exact List.perm_append_comm.append_right _
  have numbers := deposits.map Deposit.number
  rw [List.map_append] at numbers
  refine numbers.trans ((complete.append_right _).trans ?_)
  cases source with
  | none => exact .of_eq (List.append_nil _)
  | some s => exact .of_eq List.range_succ.symm

theorem Complete.lose {c : Custody σ} (complete : c.Complete) (slot : Slot) :
    (c.lose slot).Complete := by
  have deposits : (c.lose slot).deposits.Perm c.deposits := by
    unfold Custody.deposits Custody.lose
    simp only [List.append_assoc]
    have moved := perm_update c.held slot none
    rw [Option.toList_none, List.append_nil] at moved
    exact (moved.append_left c.lost).append_left c.returned
  exact (deposits.map Deposit.number).trans complete

theorem Complete.touch {c : Custody σ} (complete : c.Complete) (touches : Slot → List (Touch σ)) :
    (c.touch touches).Complete := by
  have numbers : (c.touch touches).deposits.map Deposit.number =
      c.deposits.map Deposit.number := by
    unfold Custody.deposits Custody.touch
    simp only [List.map_append, List.map_filterMap, Option.map_map]
    rfl
  unfold Complete
  rw [numbers]
  exact complete

end Custody

variable [Provider σ]

/-- What something leaves of a provider. -/
def Touch.apply (s : σ) : Touch σ → σ
  | .call made => Provider.answered s made
  | .outside change => change s

namespace Deposit

/-- The provider as what was done to it leaves it. -/
def state (d : Deposit σ) : σ := d.touches.foldl Touch.apply d.attached

theorem state_touched (d : Deposit σ) (touches : List (Touch σ)) :
    (d.touched touches).state = touches.foldl Touch.apply d.state := List.foldl_append

end Deposit

namespace Mixer

/-- The provider that a call hands back. -/
def handedBack? (m : Mixer σ) : Action σ → Option σ
  | .free slot => (m.free slot).1.toOption.join
  | .attach slot source => (m.attach slot source).1.toOption.join
  | .allocate _ _ _ | .setEnabled _ _ | .set _ _ | .outside _ _ | .render _ => none

/-- The providers that are handed back, one after the other. -/
def handedBack (m : Mixer σ) : List (Action σ) → List σ
  | [] => []
  | action :: rest => (m.handedBack? action).toList ++ (m.act action).handedBack rest

end Mixer

namespace Custody

/-- The custody after something was done to the mixer. A provider is exchanged where the mixer
accepts it, and lost where a write drops it. -/
def step (c : Custody σ) (m : Mixer σ) : Action σ → Custody σ
  | .attach slot source =>
    match (m.attach slot source).1 with
    | .ok _ => c.exchange slot source
    | .error _ => c
  | .free slot =>
    match (m.free slot).1 with
    | .ok _ => c.exchange slot none
    | .error _ => c
  | .render pts => c.touch fun slot => (m.blockCalls pts slot).map .call
  | .outside slot change => c.touch fun other => if other = slot then [.outside change] else []
  | .set slot setting => if m.drops slot setting then c.lose slot else c
  | .allocate _ _ _ | .setEnabled _ _ => c

/-- The custody after one thing after another was done to the mixer. -/
def after (c : Custody σ) (m : Mixer σ) : List (Action σ) → Custody σ
  | [] => c
  | action :: rest => (c.step m action).after (m.act action) rest

/-- The slots of a mixer hold what is in custody, in the state that it should have. -/
def Accounts (c : Custody σ) (m : Mixer σ) : Prop :=
  m.source? = fun slot => (c.held slot).map Deposit.state

theorem Accounts.exchange {c : Custody σ} {m m' : Mixer σ} (accounts : c.Accounts m) {slot : Slot}
    {source : Option σ} (written : m'.source? = Function.update m.source? slot source) :
    (c.exchange slot source).Accounts m' := by
  unfold Accounts at accounts ⊢
  rw [written, accounts]
  funext other
  unfold Custody.exchange
  by_cases here : other = slot
  · subst here
    rw [Function.update_self]
    simp only [Function.update_self, Option.map_map]
    exact Option.map_id'.symm
  · simp only [Function.update_of_ne here]

theorem Accounts.touch {c : Custody σ} {m m' : Mixer σ} (accounts : c.Accounts m)
    {touches : Slot → List (Touch σ)}
    (moved : ∀ slot, m'.source? slot = (m.source? slot).map fun s =>
      (touches slot).foldl Touch.apply s) :
    (c.touch touches).Accounts m' := by
  funext slot
  rw [moved, accounts]
  unfold Custody.touch
  simp only [Option.map_map, Function.comp_def, Deposit.state_touched]

theorem Accounts.lose {c : Custody σ} {m m' : Mixer σ} (accounts : c.Accounts m) {slot : Slot}
    (written : m'.source? = Function.update m.source? slot none) : (c.lose slot).Accounts m' := by
  unfold Accounts at accounts ⊢
  rw [written, accounts]
  funext other
  unfold Custody.lose
  by_cases here : other = slot
  · subst here
    simp only [Function.update_self, Option.map_none]
  · simp only [Function.update_of_ne here]

/-- The account is kept up by whatever is done to the mixer, and what is handed back is what the
slot held. -/
theorem Accounts.act {c : Custody σ} {m : Mixer σ} (accounts : c.Accounts m)
    (wf : m.WellFormed) (dependable : ∀ f, m.factory = some f → f.Dependable)
    (action : Action σ) :
    (c.step m action).Accounts (m.act action) ∧
      (c.step m action).returned.map Deposit.state =
        c.returned.map Deposit.state ++ (m.handedBack? action).toList := by
  have configured (configures : action.Configures) (apart : ∀ slot setting,
      action ≠ .set slot setting) : c.Accounts (m.act action) := by
    unfold Accounts
    rw [Mixer.sources_configures wf dependable configures fun _ _ same => absurd same (apart _ _)]
    exact accounts
  -- the provider that an exchange hands back is what the slot held
  have exchanged (slot : Slot) (source : Option σ) :
      (c.exchange slot source).returned.map Deposit.state =
        c.returned.map Deposit.state ++ (m.source? slot).toList := by
    unfold Custody.exchange
    rw [List.map_append, accounts]
    exact congrArg _ Option.toList_map.symm
  cases action with
  | allocate | setEnabled => exact ⟨configured trivial nofun, (List.append_nil _).symm⟩
  | set slot setting =>
    have written := Mixer.sources_set wf dependable slot setting
    simp only [step]
    cases dropped : m.drops slot setting with
    | true =>
      rw [dropped] at written
      exact ⟨accounts.lose written, (List.append_nil _).symm⟩
    | false =>
      rw [dropped] at written
      exact ⟨Eq.trans written accounts, (List.append_nil _).symm⟩
  | free slot =>
    simp only [step, Mixer.handedBack?]
    rcases m.free_cases slot with ⟨ok, written⟩ | ⟨⟨why, failed⟩, same⟩
    · rw [ok]
      exact ⟨accounts.exchange written, exchanged slot none⟩
    · rw [failed]
      exact ⟨same.trans accounts, (List.append_nil _).symm⟩
  | attach slot source =>
    simp only [step, Mixer.handedBack?]
    rcases m.attach_cases slot source with ⟨ok, written⟩ | ⟨⟨why, failed⟩, same⟩
    · rw [ok]
      exact ⟨accounts.exchange written, exchanged slot source⟩
    · rw [failed]
      exact ⟨same.trans accounts, (List.append_nil _).symm⟩
  | outside slot change =>
    refine ⟨accounts.touch fun other => ?_, (List.append_nil _).symm⟩
    simp only [Mixer.act, m.sources_mapSource]
    by_cases here : other = slot
    · subst here
      rw [Function.update_self]
      simp only [if_true, List.foldl_cons, List.foldl_nil]
      rfl
    · rw [Function.update_of_ne here, if_neg here]
      exact Option.map_id'.symm
  | render pts =>
    refine ⟨accounts.touch fun slot => ?_, (List.append_nil _).symm⟩
    refine (wf.source?_render pts slot).trans ?_
    simp only [List.foldl_map]
    rfl

theorem Complete.step {c : Custody σ} (complete : c.Complete) (m : Mixer σ) (action : Action σ) :
    (c.step m action).Complete := by
  cases action with
  | allocate | setEnabled => exact complete
  | set slot setting =>
    simp only [Custody.step]
    split
    · exact complete.lose slot
    · exact complete
  | free slot =>
    simp only [Custody.step]
    split
    · exact complete.exchange slot none
    · exact complete
  | attach slot source =>
    simp only [Custody.step]
    split
    · exact complete.exchange slot source
    · exact complete
  | outside | render => exact complete.touch _

theorem Complete.after {c : Custody σ} (complete : c.Complete) (m : Mixer σ)
    (actions : List (Action σ)) : (c.after m actions).Complete := by
  induction actions generalizing c m with
  | nil => exact complete
  | cons action rest ih => exact ih (complete.step m action) (m.act action)

theorem Accounts.after {c : Custody σ} {m : Mixer σ} (accounts : c.Accounts m)
    (wf : m.WellFormed) (dependable : ∀ f, m.factory = some f → f.Dependable)
    (actions : List (Action σ)) :
    (c.after m actions).Accounts (m.run actions) ∧
      (c.after m actions).returned.map Deposit.state =
        c.returned.map Deposit.state ++ m.handedBack actions := by
  induction actions generalizing c m with
  | nil => exact ⟨accounts, (List.append_nil _).symm⟩
  | cons action rest ih =>
    have factory := wf.factory_act action
    obtain ⟨accounts', returned⟩ := accounts.act wf dependable action
    obtain ⟨there, returned'⟩ := ih accounts' (wf.act action) (factory.symm ▸ dependable)
    refine ⟨there, returned'.trans ?_⟩
    rw [returned, List.append_assoc]
    rfl

/-- Nothing is lost where the chains are fed what they were built for. -/
theorem lost_step {c : Custody σ} {m : Mixer σ} (fed : m.Fed) (action : Action σ) :
    (c.step m action).lost = c.lost := by
  cases action with
  | set slot setting =>
    simp only [step, fed.drops slot setting]
    rfl
  | free | attach =>
    simp only [step]
    split <;> rfl
  | allocate | setEnabled | outside | render => rfl

theorem lost_after {c : Custody σ} {m : Mixer σ} (steady : Provider.Steady σ) (wf : m.WellFormed)
    (fed : m.Fed) (actions : List (Action σ))
    (keeps : ∀ action ∈ actions, action.KeepsDeclarations) :
    (c.after m actions).lost = c.lost := by
  induction actions generalizing c m with
  | nil => rfl
  | cons action rest ih =>
    obtain ⟨fed', -, -⟩ := fed.act steady wf (keeps action (by simp))
    exact (ih (wf.act action) fed' fun later member =>
      keeps later (List.mem_cons_of_mem _ member)).trans (lost_step fed action)

end Custody

namespace Mixer

/-- The custody after a new mixer was used. -/
def custody (m : Mixer σ) (actions : List (Action σ)) : Custody σ := Custody.empty.after m actions

/-- In any run of a new mixer whose factory creates what it supports, each slot holds the provider
that was last attached to its track, as the calls of the blocks since then, and changes from
outside, leave it; a call hands back what its slot holds; every provider was, for each time that it
was attached, either handed back, once, or dropped, or is held by one slot. Calls that configure the
mixer, or fail, leave all providers where they are, but for one kind of call: a refused choice of
another downmix for more than two channels drops a provider that declares other channels, or another
format, than its track has. With declarations that stay no provider is dropped. -/
theorem run_custody {settings : Settings} {factory : Option DownmixFactory}
    (dependable : ∀ f, factory = some f → f.Dependable) {m : Mixer σ}
    (built : Mixer.new settings factory = .ok m) (actions : List (Action σ)) :
    (m.run actions).source? = (fun slot => ((m.custody actions).held slot).map Deposit.state) ∧
    m.handedBack actions = (m.custody actions).returned.map Deposit.state ∧
    (m.custody actions).Complete ∧
    (∀ action : Action σ, action.Configures ∨ (m.run actions).error? action ≠ none →
      ((m.run actions).act action).source? = (m.run actions).source? ∨
      ∃ slot mode, action = .set slot (.downmix mode) ∧
        (m.run actions).drops slot (.downmix mode) = true ∧
        (m.run actions).error? action ≠ none ∧
        ((m.run actions).act action).source? =
          Function.update (m.run actions).source? slot none) ∧
    (Provider.Steady σ → (∀ action ∈ actions, action.KeepsDeclarations) →
      (m.custody actions).lost = [] ∧
      ∀ slot setting, (m.run actions).drops slot setting = false) := by
  obtain ⟨-, -, same, -, vacant, -, -⟩ := new_spec built
  have unfed : m.Fed := fun slot t found => absurd found (by simp [vacant])
  have accounts : Custody.empty.Accounts m := funext fun slot => by
    unfold source?
    rw [vacant]
    rfl
  obtain ⟨there, returned⟩ := accounts.after (.new built) (same.symm ▸ dependable) actions
  have wf : WellFormed (m.run actions) := (WellFormed.new built).run actions
  have dependable' : ∀ f, (m.run actions).factory = some f → f.Dependable := by
    rw [(WellFormed.new built).factory_run, same]
    exact dependable
  refine ⟨there, returned.symm, Custody.complete_empty.after m actions, ?_, ?_⟩
  · rintro action touched
    by_cases kept : ∀ slot setting, action = .set slot setting →
        (m.run actions).drops slot setting = false
    · refine .inl ?_
      rcases touched with configures | failed
      · exact sources_configures wf dependable' configures kept
      · exact sources_of_error wf dependable' failed kept
    · push Not at kept
      obtain ⟨slot, setting, rfl, dropped⟩ := kept
      rw [Bool.ne_false_iff] at dropped
      obtain ⟨⟨why, failed⟩, written⟩ := sources_set_drops dropped
      cases setting with
      | downmix mode =>
        exact .inr ⟨slot, mode, rfl, dropped, by simp [error?, Answer.error?, failed], written⟩
      | _ => exact absurd dropped Bool.false_ne_true
  · intro steady keeps
    refine ⟨Custody.lost_after steady (.new built) unfed actions keeps, ?_⟩
    exact (fed_run steady (.new built) unfed actions keeps).1.drops

/-- A track of six channels whose first provider is played for a block, through another mode of its
downmix, a refused provider and refused writes of another mask and another rate, and is then
replaced; the second one is handed back when the slot is freed, and a track that takes the slot
after it holds a third one. -/
theorem run_custody_surround :
    let slot : Slot := ⟨0, by decide⟩
    let clip (channels : Nat) (frames : Nat) : Clip :=
      .ofSamples channels (.float (Array.replicate (channels * frames) 0.5)) false
    let actions : List (Action Clip) :=
      [.allocate .fivePointOne .float 0, .attach slot (some (clip 6 4)), .setEnabled slot true,
        .set slot (.downmix .strip), .attach slot (some (clip 2 4)), .set slot (.mask .stereo),
        .set slot (.sampleRate 0), .render none, .attach slot (some (clip 6 1)), .render none,
        .free slot, .allocate .mono .float 1, .attach slot (some (clip 1 3))]
    ∃ m, Mixer.new { frameCount := 2 } (some .standard) = .ok m ∧
      (∀ action ∈ actions, action.KeepsDeclarations) ∧
      (m.custody actions).returned.map (fun d => (d.number, d.state.position)) = [(0, 2), (1, 1)] ∧
      (m.custody actions).returned.map Deposit.state = m.handedBack actions ∧
      ((m.custody actions).held slot).map Deposit.number = some 2 ∧
      (m.custody actions).Complete ∧ (m.custody actions).lost = [] ∧
      ((m.run actions).act (.set slot (.mask .stereo))).source? = (m.run actions).source? := by
  intro slot clip actions
  have keeps : ∀ action ∈ actions, action.KeepsDeclarations := by
    intro action member
    simp only [actions, List.mem_cons, List.not_mem_nil, or_false] at member
    rcases member with
      rfl | rfl | rfl | rfl | rfl | rfl | rfl | rfl | rfl | rfl | rfl | rfl | rfl <;> trivial
  have dependable : ∀ f, some DownmixFactory.standard = some f → f.Dependable := by
    rintro _ ⟨⟩
    exact DownmixFactory.dependable_standard
  obtain ⟨m, built, returned, held⟩ : ∃ m, Mixer.new { frameCount := 2 } (some .standard) = .ok m ∧
      (m.custody actions).returned.map (fun d => (d.number, d.state.position)) = [(0, 2), (1, 1)] ∧
      ((m.custody actions).held slot).map Deposit.number = some 2 :=
    ⟨_, rfl, by decide +kernel, by decide +kernel⟩
  obtain ⟨-, back, complete, configured, steadily⟩ := run_custody dependable built actions
  have kept : ((m.run actions).act (.set slot (.mask .stereo))).source? =
      (m.run actions).source? := by
    rcases configured (.set slot (.mask .stereo)) (.inl trivial) with same | ⟨_, _, same, -⟩
    · exact same
    · nomatch same
  exact ⟨m, built, keeps, returned, back.symm, held, complete,
    (steadily Clip.honest.toSteady keeps).1, kept⟩

end Mixer

/-- A provider that has nothing to give, and declares six channels until it is first asked and two
from then on. -/
inductive Fading where
  | surround
  | stereo
deriving DecidableEq

instance : Provider Fading where
  channels
    | .surround => 6
    | .stereo => 2
  format _ := .float
  request _ _ _ := (none, .stereo)
  release s _ := s

/-- With the standard factory, a provider that declares two channels after the first block is
dropped when another downmix is chosen for its track of six: the choice is refused, and neither does
the slot hold the provider after it, nor is it handed back when the slot is freed. And a provider
that is handed back and attached again is handed back twice. -/
theorem Mixer.set_drops_provider :
    let slot : Slot := ⟨0, by decide⟩
    let fed : List (Action Fading) :=
      [.allocate .fivePointOne .float 0, .attach slot (some .surround)]
    let played := fed ++ [.setEnabled slot true, .render none]
    let strip : Action Fading := .set slot (.downmix .strip)
    ∃ m, Mixer.new { frameCount := 2 } (some .standard) = .ok m ∧
      (m.run played).source? slot = some .stereo ∧
      ((m.run played).error? strip).map MixerError.message =
        some ("configuration error: provider delivers 2 channel float frames, " ++
          "track expects 6 channel float") ∧
      ((m.run played).act strip).source? slot = none ∧
      m.handedBack (played ++ [strip, .free slot]) = [] ∧
      m.handedBack (fed ++ [.attach slot none, .attach slot (some .surround), .free slot]) =
        [.surround, .surround] := by
  intro slot fed played strip
  exact ⟨_, rfl, by decide +kernel, by decide +kernel, by decide +kernel, by decide +kernel,
    by decide +kernel⟩

end Mixdown
