import ShoppingApp.Library.Projection
import Mathlib.Data.List.Induction

/-! A run takes an event at one moment, and a later moment of the same run sees what happened since. -/

namespace Transition

variable {State Event : Type*} {step : State → Event → Option State} {start state asked served next final : State}
  {event : Event} {events : List Event}

theorem run_concat : run step start (events ++ [event]) = some final ↔
    ∃ reached, run step start events = some reached ∧ step reached event = some final := by
  induction events generalizing start with
  | nil => simp [run]
  | cons first rest ih =>
      rw [List.cons_append, run_cons]
      simp only [ih, run_cons]
      constructor
      · rintro ⟨middle, taken, reached, ran, last⟩
        exact ⟨reached, ⟨middle, taken, ran⟩, last⟩
      · rintro ⟨reached, ⟨middle, taken, ran⟩, last⟩
        exact ⟨middle, taken, reached, ran, last⟩

/-- A relation between the events so far and the state holds at the end of each run. -/
theorem run_prefix (relation : List Event → State → Prop) (initial : relation [] start)
    (preserved : ∀ events state event next, run step start events = some state → relation events state →
      step state event = some next → relation (events ++ [event]) next)
    (ran : run step start events = some final) : relation events final := by
  induction events using List.reverseRecOn generalizing final with
  | nil => exact Option.some.inj ran ▸ initial
  | append_singleton events event ih =>
      obtain ⟨reached, before, taken⟩ := run_concat.mp ran
      exact preserved events reached event final before (ih before) taken

/-- The run takes the event in the first state, and it passes the second state afterwards. -/
def Passes (step : State → Event → Option State) (start : State) (events : List Event) (asked : State) (event : Event)
    (served : State) : Prop :=
  ∃ before middle after, events = before ++ event :: middle ++ after ∧ run step start before = some asked ∧
    run step asked (event :: middle) = some served

namespace Passes

theorem append (passes : Passes step start events asked event served) (later : List Event) :
    Passes step start (events ++ later) asked event served := by
  obtain ⟨before, middle, after, rfl, ran, passed⟩ := passes
  exact ⟨before, middle, after ++ later, List.append_assoc .., ran, passed⟩

/-- The last event of a run is taken in the state before it. -/
theorem last (ran : run step start events = some state) (taken : step state event = some next) :
    Passes step start (events ++ [event]) state event next :=
  ⟨events, [], [], (List.append_nil _).symm, ran, run_cons.mpr ⟨next, taken, rfl⟩⟩

/-- The run passes its last state after each of its events. -/
theorem now (passes : Passes step start events asked event served) (ran : run step start events = some final) :
    Passes step start events asked event final := by
  obtain ⟨before, middle, after, rfl, ranBefore, _⟩ := passes
  refine ⟨before, middle ++ after, [], by simp, ranBefore, ?_⟩
  rw [List.append_assoc, run_append ranBefore] at ran
  exact ran

/-- The two moments split the run into three runs. -/
theorem runs (passes : Passes step start events asked event served) (ran : run step start events = some final) :
    (∃ before, run step start before = some asked) ∧ (∃ middle, run step asked middle = some served) ∧
      ∃ after, run step served after = some final := by
  obtain ⟨before, middle, after, rfl, ranBefore, passed⟩ := passes
  refine ⟨⟨before, ranBefore⟩, ⟨event :: middle, passed⟩, after, ?_⟩
  rw [List.append_assoc, run_append ranBefore, run_append passed] at ran
  exact ran

end Passes

/-- The last event of a kind led the run to this state. -/
def Last (step : State → Event → Option State) (start : State) (kind : Event → Prop) (events : List Event)
    (served : State) : Prop :=
  ∃ before event after, events = before ++ event :: after ∧ run step start (before ++ [event]) = some served ∧
    kind event ∧ ∀ later ∈ after, ¬ kind later

variable {kind : Event → Prop}

/-- An event of another kind leaves the last one. -/
theorem Last.append (last : Last step start kind events served) (other : ¬ kind event) :
    Last step start kind (events ++ [event]) served := by
  obtain ⟨before, first, after, rfl, ran, happened, later⟩ := last
  refine ⟨before, first, after ++ [event], by simp, ran, happened, ?_⟩
  exact List.forall_mem_append.mpr ⟨later, fun new member => List.mem_singleton.mp member ▸ other⟩

/-- What an event of a kind establishes and the other events keep holds since the last event of the kind. -/
theorem run_last (absent : State → Prop) (relation : State → State → Prop) (initial : absent start)
    (established : ∀ events state event next, run step start events = some state → step state event = some next →
      kind event → relation next next)
    (kept : ∀ events state event next, run step start events = some state → step state event = some next →
      ¬ kind event → (absent state → absent next) ∧ ∀ served, relation served state → relation served next)
    (ran : run step start events = some final) :
    absent final ∨ ∃ served, Last step start kind events served ∧ relation served final := by
  refine run_prefix (fun events state => absent state ∨ ∃ served, Last step start kind events served ∧
    relation served state) (.inl initial) ?_ ran
  intro events state event next ranBefore before taken
  by_cases happened : kind event
  · have now : run step start (events ++ [event]) = some next := run_concat.mpr ⟨state, ranBefore, taken⟩
    exact .inr ⟨next, ⟨events, event, [], rfl, now, happened, nofun⟩, established events state event next ranBefore
      taken happened⟩
  · obtain ⟨never, still⟩ := kept events state event next ranBefore taken happened
    exact before.imp never fun ⟨served, last, holds⟩ => ⟨served, last.append happened, still served holds⟩

end Transition
