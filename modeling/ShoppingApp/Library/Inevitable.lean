import ShoppingApp.Library.Transition
import Mathlib.Order.WellFounded

/-! A goal is inevitable when some allowed event can happen before it and every run of allowed events leads to it. -/

namespace Transition

variable {State Event Measure : Type*} {step : State → Event → Option State} {allowed : Event → Prop}
  {goal : State → Prop} {state : State}

/-- Each way to continue with allowed events leads to the goal. -/
inductive Inevitable (step : State → Event → Option State) (allowed : Event → Prop) (goal : State → Prop) :
    State → Prop where
  | now {state : State} (reached : goal state) : Inevitable step allowed goal state
  | later {state : State} (enabled : ∃ event next, allowed event ∧ step state event = some next)
      (every : ∀ event next, allowed event → step state event = some next → Inevitable step allowed goal next) :
      Inevitable step allowed goal state

/-- Allowed events that are enabled before the goal and lower a well-founded measure lead to the goal. -/
theorem Inevitable.of_measure {below : Measure → Measure → Prop} (wellFounded : WellFounded below)
    (measure : State → Measure) (invariant : State → Prop)
    (enabled : ∀ state, invariant state → ¬ goal state → ∃ event next, allowed event ∧ step state event = some next)
    (lowers : ∀ state event next, invariant state → allowed event → step state event = some next →
      invariant next ∧ below (measure next) (measure state))
    (initial : invariant state) : Inevitable step allowed goal state := by
  induction measured : measure state using wellFounded.induction generalizing state with
  | _ height ih =>
      by_cases reached : goal state
      · exact .now reached
      · refine .later (enabled state initial reached) fun event next isAllowed taken => ?_
        obtain ⟨kept, lower⟩ := lowers state event next initial isAllowed taken
        exact ih _ (measured ▸ lower) kept rfl

/-- Some run of allowed events reaches an inevitable goal. -/
theorem Inevitable.reaches (inevitable : Inevitable step allowed goal state) :
    ∃ events final, (∀ event ∈ events, allowed event) ∧ run step state events = some final ∧ goal final := by
  induction inevitable with
  | now reached => exact ⟨[], _, fun event member => absurd member List.not_mem_nil, rfl, reached⟩
  | later enabled every ih =>
      obtain ⟨event, next, isAllowed, taken⟩ := enabled
      obtain ⟨events, final, all, ran, reached⟩ := ih event next isAllowed taken
      refine ⟨event :: events, final, fun other member => ?_, run_cons.mpr ⟨next, taken, ran⟩, reached⟩
      rcases List.mem_cons.mp member with rfl | inside
      · exact isAllowed
      · exact all other inside

end Transition
