import Mathlib.Data.List.Induction
import Mixdown.Proofs.Mixer.WellFormed

/-!
# Which tracks have a resampler

Whether a track has a resampler is decided by what was done to it: its rate was changed to a
different value since it was allocated, or since it was last put back to the mix rate.
-/

namespace Mixdown

namespace Mixer

variable {σ : Type} [Provider σ]

/-- The track in a slot gets another rate. -/
def Retunes (m : Mixer σ) (action : Action σ) (slot : Slot) : Prop :=
  ∃ t t', m.track? slot = some t ∧ (m.act action).track? slot = some t' ∧
    t'.sampleRate ≠ t.sampleRate

/-- The track in a slot is put back to the mix rate, or the slot gets a new track. -/
def Resets (m : Mixer σ) (action : Action σ) (slot : Slot) : Prop :=
  action = .set slot .mixRate ∨
    m.track? slot = none ∧ ((m.act action).track? slot).isSome = true

/-- In a run of a mixer, the rate of the track in a slot was changed to a different value, and
nothing has reset the slot in that step or since. -/
def Retuned (m : Mixer σ) (actions : List (Action σ)) (slot : Slot) : Prop :=
  ∃ before action after, actions = before ++ action :: after ∧
    (m.run before).Retunes action slot ∧ ¬ (m.run before).Resets action slot ∧
    ∀ between later rest, after = between ++ later :: rest →
      ¬ (m.run (before ++ action :: between)).Resets later slot

theorem retuned_snoc {m : Mixer σ} {actions : List (Action σ)} {last : Action σ} {slot : Slot} :
    m.Retuned (actions ++ [last]) slot ↔
      ¬ (m.run actions).Resets last slot ∧
        ((m.run actions).Retunes last slot ∨ m.Retuned actions slot) := by
  constructor
  · rintro ⟨before, action, after, split, retunes, stays, calm⟩
    rcases List.eq_nil_or_concat after with rfl | ⟨after, final, rfl⟩
    · obtain ⟨rfl, same⟩ := List.append_inj' split rfl
      obtain rfl := List.singleton_inj.mp same
      exact ⟨stays, .inl retunes⟩
    · rw [List.concat_eq_append] at split calm
      rw [← List.cons_append, ← List.append_assoc] at split
      obtain ⟨rfl, same⟩ := List.append_inj' split rfl
      obtain rfl := List.singleton_inj.mp same
      refine ⟨calm after last [] rfl, .inr ⟨before, action, after, rfl, retunes, stays, ?_⟩⟩
      rintro between later rest rfl
      exact calm between later (rest ++ [last]) (by simp)
  · rintro ⟨stays, retunes | ⟨before, action, after, rfl, retunes, stays', calm⟩⟩
    · refine ⟨actions, last, [], rfl, retunes, stays, ?_⟩
      intro between later rest nothing
      simp at nothing
    · refine ⟨before, action, after ++ [last], by simp, retunes, stays', ?_⟩
      intro between later rest split
      rcases List.eq_nil_or_concat rest with rfl | ⟨rest, final, rfl⟩
      · obtain ⟨rfl, same⟩ := List.append_inj' split rfl
        obtain rfl := List.singleton_inj.mp same
        exact stays
      · rw [List.concat_eq_append, ← List.cons_append, ← List.append_assoc] at split
        obtain ⟨rfl, -⟩ := List.append_inj' split rfl
        exact calm between later rest rfl

/-- What one step does to the rate and the resampler of a track. -/
theorem act_rate (m : Mixer σ) (wf : WellFormed m) (action : Action σ) {slot : Slot}
    {t' : Track σ} (found : (m.act action).track? slot = some t') :
    m.track? slot = none ∧ t'.resampler = none ∨
    ∃ t, m.track? slot = some t ∧
      (action = .set slot .mixRate ∧ t'.resampler = none ∨
        action ≠ .set slot .mixRate ∧
          (t'.sampleRate ≠ t.sampleRate ∧ t'.resampler.isSome = true ∨
            t'.sampleRate = t.sampleRate ∧ t'.resampler.isSome = t.resampler.isSome)) := by
  rcases wf.act_cases action with ⟨pts, rfl, rendered⟩ | ⟨place, t, keeps, writes, edit⟩
  · obtain ⟨t, had, moved⟩ := exists_before (rendered.tracks slot) found
    exact .inr ⟨t, had, .inr ⟨nofun, .inr ⟨moved.sampleRate_eq, moved.isSome_resampler⟩⟩⟩
  · by_cases here : slot = place
    · subst here
      obtain rfl : t = some t' := writes.track?_self.symm.trans found
      generalize had : m.track? slot = before at edit
      cases edit with
      | same _ _ _ harmless =>
        refine .inr ⟨t', rfl, .inr ⟨?_, .inr ⟨rfl, rfl⟩⟩⟩
        rintro rfl
        exact absurd (harmless slot rfl) (by simp [had])
      | allocated _ _ _ _ _ => exact .inl ⟨rfl, rfl⟩
      | switched t _ => exact .inr ⟨t, rfl, .inr ⟨nofun, .inr ⟨rfl, rfl⟩⟩⟩
      | attached t _ _ _ => exact .inr ⟨t, rfl, .inr ⟨nofun, .inr ⟨rfl, rfl⟩⟩⟩
      | outside t _ => exact .inr ⟨t, rfl, .inr ⟨nofun, .inr ⟨rfl, rfl⟩⟩⟩
      | written t _ setting _ written =>
        refine .inr ⟨t, rfl, ?_⟩
        cases written with
        | same _ _ other =>
          exact .inr ⟨fun same => other (by injection same), .inr ⟨rfl, rfl⟩⟩
        | mask mask chain _ _ =>
          refine .inr ⟨nofun, .inr ?_⟩
          unfold withMask
          simp only
          split
          · exact ⟨rfl, rfl⟩
          · exact ⟨rfl, Option.isSome_map⟩
        | format _ _ _ => exact .inr ⟨nofun, .inr ⟨rfl, rfl⟩⟩
        | mainBus _ _ => exact .inr ⟨nofun, .inr ⟨rfl, rfl⟩⟩
        | auxBus _ _ => exact .inr ⟨nofun, .inr ⟨rfl, rfl⟩⟩
        | downmix _ _ _ _ _ => exact .inr ⟨nofun, .inr ⟨rfl, rfl⟩⟩
        | busFormat _ => exact .inr ⟨nofun, .inr ⟨rfl, rfl⟩⟩
        | sampleRate rate _ _ differ => exact .inr ⟨nofun, .inl ⟨differ.symm, rfl⟩⟩
        | restart => exact .inr ⟨nofun, .inr ⟨rfl, Option.isSome_map⟩⟩
        | mixRate => exact .inl ⟨rfl, rfl⟩
        | gain _ _ _ _ _ _ _ _ => exact .inr ⟨nofun, .inr ⟨rfl, rfl⟩⟩
    · have same : m.track? slot = some t' := (writes.track?_ne here).symm.trans found
      refine .inr ⟨t', same, .inr ⟨?_, .inr ⟨rfl, rfl⟩⟩⟩
      rintro rfl
      generalize m.track? place = before at edit
      cases edit with
      | same _ _ _ harmless => exact absurd (harmless slot rfl) (by simp [same])
      | written _ _ _ _ _ => exact here rfl

/-- A track has a resampler exactly when its rate was changed and not reset since. -/
theorem isSome_resampler_run {m : Mixer σ} (wf : WellFormed m)
    (empty : ∀ slot, m.track? slot = none) (actions : List (Action σ)) :
    WellFormed (m.run actions) ∧ ∀ slot t, (m.run actions).track? slot = some t →
      (t.resampler.isSome = true ↔ m.Retuned actions slot) := by
  induction actions using List.reverseRecOn with
  | nil =>
    refine ⟨wf, fun slot t found => ?_⟩
    rw [show m.run [] = m from rfl, empty slot] at found
    nomatch found
  | append_singleton actions action ih =>
    obtain ⟨wf', history⟩ := ih
    rw [run_snoc]
    refine ⟨wf'.act action, fun slot t' found => ?_⟩
    rw [retuned_snoc]
    rcases act_rate _ wf' action found with
      ⟨unused, none_left⟩ | ⟨t, had, ⟨back, none_left⟩ | ⟨other, change⟩⟩
    · rw [none_left]
      have resets : (m.run actions).Resets action slot := .inr ⟨unused, by rw [found]; rfl⟩
      simp [resets]
    · rw [none_left]
      have resets : (m.run actions).Resets action slot := .inl back
      simp [resets]
    · have stays : ¬ (m.run actions).Resets action slot := by
        rintro (back | ⟨unused, -⟩)
        · exact other back
        · rw [had] at unused
          nomatch unused
      rcases change with ⟨differ, some_there⟩ | ⟨same, isSome⟩
      · have retunes : (m.run actions).Retunes action slot := ⟨t, t', had, found, differ⟩
        simp [stays, retunes, some_there]
      · have keeps : ¬ (m.run actions).Retunes action slot := by
          rintro ⟨u, u', had', found', differ⟩
          rw [had] at had'
          rw [found] at found'
          obtain rfl := Option.some.inj had'
          obtain rfl := Option.some.inj found'
          exact differ same
        rw [isSome, history slot t had]
        simp [stays, keeps]

end Mixer

end Mixdown
