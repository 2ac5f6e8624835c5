import ShoppingApp.Library.Transition

/-! A party of a system takes some of its steps, and the projection of a run keeps the steps of that party. -/

namespace Transition

variable {State Event Other Visible : Type*} {step : State → Event → Option State}
  {stepOther : Other → Visible → Option Other}

theorem run_append {state middle : State} {first : List Event} (ran : run step state first = some middle)
    (second : List Event) : run step state (first ++ second) = run step middle second := by
  induction first generalizing state with
  | nil =>
      obtain rfl := Option.some.inj ran
      rfl
  | cons event rest ih =>
      obtain ⟨next, taken, ran⟩ := run_cons.mp ran
      rw [List.cons_append, run, taken]
      exact ih ran

/-- The log of a run continues where its first part ends. -/
theorem log_append {Entry : Type*} {record : State → Event → List Entry} {state middle : State}
    {first : List Event} (ran : run step state first = some middle) (second : List Event) :
    log step record state (first ++ second) = log step record state first ++ log step record middle second := by
  induction first generalizing state with
  | nil =>
      obtain rfl := Option.some.inj ran
      rfl
  | cons event rest ih =>
      obtain ⟨next, taken, ran⟩ := run_cons.mp ran
      simp only [List.cons_append, log, taken, Option.map_some, Option.getD_some, List.append_assoc]
      rw [ih ran]

/-- A run whose steps are each matched by their visible part is matched by its projection. -/
theorem run_projected (relation : State → Other → Prop) {visible : State → Event → List Visible}
    {condition : State → Event → Prop}
    (matched : ∀ state event next other, relation state other → condition state event →
      step state event = some next →
        ∃ reached, run stepOther other (visible state event) = some reached ∧ relation next reached)
    {state final : State} {other : Other} {events : List Event} (related : relation state other)
    (met : Along step condition state events) (ran : run step state events = some final) :
    ∃ reached, run stepOther other (log step visible state events) = some reached ∧ relation final reached := by
  induction events generalizing state other with
  | nil => exact ⟨other, rfl, Option.some.inj ran ▸ related⟩
  | cons event rest ih =>
      obtain ⟨next, taken, ran⟩ := run_cons.mp ran
      obtain ⟨middle, first, kept⟩ := matched _ _ _ _ related met.1 taken
      obtain ⟨reached, second, ended⟩ := ih kept (met.2 next taken) ran
      refine ⟨reached, ?_, ended⟩
      simp only [log, taken, Option.map_some, Option.getD_some]
      rw [run_append first, second]

/-- The projection of a run passes through the projections of its first parts. -/
theorem projection_lockstep (relation : State → Other → Prop) {visible : State → Event → List Visible}
    {condition : State → Event → Prop}
    (matched : ∀ state event next other, relation state other → condition state event →
      step state event = some next →
        ∃ reached, run stepOther other (visible state event) = some reached ∧ relation next reached)
    {state reached : State} {other : Other} {before after : List Event} (related : relation state other)
    (met : Along step condition state (before ++ after)) (ran : run step state before = some reached) :
    ∃ middle later, log step visible state (before ++ after) = log step visible state before ++ later ∧
      run stepOther other (log step visible state before) = some middle ∧ relation reached middle := by
  obtain ⟨middle, first, kept⟩ := run_projected relation matched related (met.append ran).1 ran
  exact ⟨middle, _, log_append ran after, first, kept⟩

end Transition
