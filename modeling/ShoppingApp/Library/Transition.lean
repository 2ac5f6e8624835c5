import Mathlib.Data.List.Basic

namespace Transition

variable {State Event : Type*}

/-- A run takes one partial step for each event and stops where a step is not enabled. -/
def run (step : State → Event → Option State) : State → List Event → Option State
  | state, [] => some state
  | state, event :: rest => (step state event).bind fun next => run step next rest

/-- Every step of the run meets a condition on the state before the step. -/
def Along (step : State → Event → Option State) (condition : State → Event → Prop) :
    State → List Event → Prop
  | _, [] => True
  | state, event :: rest => condition state event ∧
      ∀ next, step state event = some next → Along step condition next rest

/-- A decidable condition can be checked along a run. -/
instance Along.decidable {step : State → Event → Option State} {condition : State → Event → Prop}
    [∀ state event, Decidable (condition state event)] :
    ∀ state events, Decidable (Along step condition state events)
  | _, [] => inferInstanceAs (Decidable True)
  | state, event :: rest =>
      match taken : step state event with
      | none => decidable_of_iff (condition state event) (by simp [Along, taken])
      | some next =>
          have : Decidable (Along step condition next rest) := Along.decidable next rest
          decidable_of_iff (condition state event ∧ Along step condition next rest)
            (by simp [Along, taken])

variable {step : State → Event → Option State}

@[simp] theorem run_nil (state : State) : run step state [] = some state := rfl

theorem run_cons {state final : State} {event : Event} {rest : List Event} :
    run step state (event :: rest) = some final ↔
      ∃ next, step state event = some next ∧ run step next rest = some final := by
  simp [run, Option.bind_eq_some_iff]

/-- A condition along a run holds along its first part and along its second part. -/
theorem Along.append {condition : State → Event → Prop} {state middle : State}
    {first second : List Event} (met : Along step condition state (first ++ second))
    (ran : run step state first = some middle) :
    Along step condition state first ∧ Along step condition middle second := by
  induction first generalizing state with
  | nil =>
      obtain rfl := Option.some.inj ran
      exact ⟨trivial, met⟩
  | cons event rest ih =>
      obtain ⟨next, taken, ran⟩ := run_cons.mp ran
      have tail := ih (met.2 next taken) ran
      refine ⟨⟨met.1, fun other reached => ?_⟩, tail.2⟩
      obtain rfl := Option.some.inj (taken.symm.trans reached)
      exact tail.1

/-- A condition on every event holds along each run. -/
theorem Along.of_forall {listed : Event → Prop} {state : State} {events : List Event}
    (all : ∀ event ∈ events, listed event) : Along step (fun _ event => listed event) state events := by
  induction events generalizing state with
  | nil => trivial
  | cons event rest ih =>
      refine ⟨all event List.mem_cons_self, fun next _ => ?_⟩
      exact ih fun later member => all later (List.mem_cons_of_mem _ member)

/-- A condition on every step holds along each run. -/
theorem Along.of_all {condition : State → Event → Prop} (all : ∀ state event, condition state event)
    (state : State) (events : List Event) : Along step condition state events := by
  induction events generalizing state with
  | nil => trivial
  | cons event rest ih => exact ⟨all state event, fun next _ => ih next⟩

/-- Two conditions along a run hold together. -/
theorem Along.and {first second : State → Event → Prop} {state : State} {events : List Event}
    (left : Along step first state events) (right : Along step second state events) :
    Along step (fun state event => first state event ∧ second state event) state events := by
  induction events generalizing state with
  | nil => trivial
  | cons event rest ih =>
      exact ⟨⟨left.1, right.1⟩, fun next taken => ih (left.2 next taken) (right.2 next taken)⟩

/-- A property that each conditioned step preserves holds at the end of each conditioned run. -/
theorem run_invariant (property : State → Prop) {condition : State → Event → Prop}
    (preserved : ∀ state event next, property state → condition state event →
      step state event = some next → property next)
    {state final : State} {events : List Event} (initial : property state)
    (met : Along step condition state events) (ran : run step state events = some final) :
    property final := by
  induction events generalizing state with
  | nil => exact Option.some.inj ran ▸ initial
  | cons event rest ih =>
      obtain ⟨next, taken, ran⟩ := run_cons.mp ran
      exact ih (preserved _ _ _ initial met.1 taken) (met.2 next taken) ran

/-- A step condition that decides the next state decides every state that a run reaches. -/
theorem reached_iff_along (invariant : State → Prop) {listed condition : State → Event → Prop}
    {property : State → Prop}
    (exact : ∀ state event next, invariant state → property state → listed state event →
      step state event = some next → invariant next ∧ (property next ↔ condition state event))
    {state final : State} {events : List Event} (held : invariant state) (initial : property state)
    (met : Along step listed state events) (ran : run step state events = some final) :
    (∀ before after reached, events = before ++ after → run step state before = some reached →
        property reached) ↔ Along step condition state events := by
  induction events generalizing state with
  | nil =>
      refine ⟨fun _ => trivial, fun _ before after reached whole ranBefore => ?_⟩
      obtain ⟨rfl, _⟩ := List.append_eq_nil_iff.mp whole.symm
      exact Option.some.inj ranBefore ▸ initial
  | cons event rest ih =>
      obtain ⟨next, taken, ran⟩ := run_cons.mp ran
      obtain ⟨heldNext, decided⟩ := exact _ _ _ held initial met.1 taken
      constructor
      · intro all
        have here : property next := all [event] rest next rfl (run_cons.mpr ⟨next, taken, rfl⟩)
        refine ⟨decided.mp here, fun other reached => ?_⟩
        obtain rfl := Option.some.inj (taken.symm.trans reached)
        apply (ih heldNext here (met.2 next taken) ran).mp
        intro before after reached whole ranBefore
        exact all (event :: before) after reached (by rw [whole, List.cons_append])
          (run_cons.mpr ⟨next, taken, ranBefore⟩)
      · intro conditions before after reached whole ranBefore
        have here : property next := decided.mpr conditions.1
        cases before with
        | nil => exact Option.some.inj ranBefore ▸ initial
        | cons first others =>
            obtain ⟨rfl, rfl⟩ := List.cons.inj (List.cons_append ▸ whole)
            obtain ⟨middle, takenFirst, ranOthers⟩ := run_cons.mp ranBefore
            obtain rfl := Option.some.inj (taken.symm.trans takenFirst)
            exact (ih heldNext here (met.2 _ taken) ran).mpr (conditions.2 _ taken) others after reached rfl
              ranOthers

/-- A property that each step reflects together with its condition is reflected by a run. -/
theorem along_of_final (invariant : State → Prop) {listed condition : State → Event → Prop}
    {property : State → Prop}
    (reflected : ∀ state event next, invariant state → listed state event → step state event = some next →
      invariant next ∧ (property next → property state ∧ condition state event))
    {state final : State} {events : List Event} (held : invariant state)
    (met : Along step listed state events) (ran : run step state events = some final)
    (atEnd : property final) : property state ∧ Along step condition state events := by
  induction events generalizing state with
  | nil => exact ⟨Option.some.inj ran ▸ atEnd, trivial⟩
  | cons event rest ih =>
      obtain ⟨next, taken, ran⟩ := run_cons.mp ran
      obtain ⟨heldNext, back⟩ := reflected _ _ _ held met.1 taken
      obtain ⟨here, along⟩ := ih heldNext (met.2 next taken) ran
      refine ⟨(back here).1, (back here).2, fun other reached => ?_⟩
      obtain rfl := Option.some.inj (taken.symm.trans reached)
      exact along

/-- The log of a run collects what each step records in the state before it. -/
def log {Entry : Type*} (step : State → Event → Option State)
    (record : State → Event → List Entry) : State → List Event → List Entry
  | _, [] => []
  | state, event :: rest => record state event ++
      ((step state event).map fun next => log step record next rest).getD []

/-- A relation between the state and the log so far holds at the end of each conditioned run. -/
theorem run_log {Entry : Type*} (relation : State → List Entry → Prop)
    {record : State → Event → List Entry} {condition : State → Event → Prop}
    (preserved : ∀ state event next past, relation state past → condition state event →
      step state event = some next → relation next (past ++ record state event))
    {state final : State} {events : List Event} {past : List Entry} (initial : relation state past)
    (met : Along step condition state events) (ran : run step state events = some final) :
    relation final (past ++ log step record state events) := by
  induction events generalizing state past with
  | nil => simpa [log] using Option.some.inj ran ▸ initial
  | cons event rest ih =>
      obtain ⟨next, taken, ran⟩ := run_cons.mp ran
      have tail := ih (preserved _ _ _ _ initial met.1 taken) (met.2 next taken) ran
      simpa [log, taken, List.append_assoc] using tail

/-- Two records that show the same of each step show the same of a run. -/
theorem log_filterMap {First Second Shown : Type*} {first : State → Event → List First}
    {second : State → Event → List Second} {show₁ : First → Option Shown} {show₂ : Second → Option Shown}
    (same : ∀ state event, (first state event).filterMap show₁ = (second state event).filterMap show₂)
    (state : State) (events : List Event) :
    (log step first state events).filterMap show₁ = (log step second state events).filterMap show₂ := by
  induction events generalizing state with
  | nil => rfl
  | cons event rest ih =>
      rw [log, log, List.filterMap_append, List.filterMap_append, same]
      congr 1
      cases step state event with
      | none => rfl
      | some next => exact ih next

/-- The record of the events themselves is the run. -/
theorem log_events {state final : State} {events : List Event} (ran : run step state events = some final) :
    log step (fun _ event => [event]) state events = events := by
  induction events generalizing state with
  | nil => rfl
  | cons event rest ih =>
      obtain ⟨next, taken, ran⟩ := run_cons.mp ran
      simp [log, taken, ih ran]

/-- The remembering step keeps a memory beside the state, so that a condition can speak about it. -/
def remembering {Memory : Type*} (step : State → Event → Option State)
    (remember : State → Event → State → Memory → Memory) (remembered : State × Memory) (event : Event) :
    Option (State × Memory) :=
  (step remembered.1 event).map fun next => (next, remember remembered.1 event next remembered.2)

/-- A run is a remembering run, which records the same. -/
theorem run_remembering {Memory Entry : Type*} (remember : State → Event → State → Memory → Memory)
    (record : State → Event → List Entry) {state final : State} {events : List Event} (memory : Memory)
    (ran : run step state events = some final) :
    (∃ last, run (remembering step remember) (state, memory) events = some (final, last)) ∧
      log (remembering step remember) (fun remembered => record remembered.1) (state, memory) events =
        log step record state events := by
  induction events generalizing state memory with
  | nil =>
      obtain rfl := Option.some.inj ran
      exact ⟨⟨memory, rfl⟩, rfl⟩
  | cons event rest ih =>
      obtain ⟨next, taken, ran⟩ := run_cons.mp ran
      obtain ⟨⟨last, ended⟩, same⟩ := ih (remember state event next memory) ran
      have remembered : remembering step remember (state, memory) event =
          some (next, remember state event next memory) := by simp [remembering, taken]
      refine ⟨⟨last, run_cons.mpr ⟨_, remembered, ended⟩⟩, ?_⟩
      simp [log, remembered, taken, same]

/-- The recording step keeps the log beside the state, so that a condition can speak about the past. -/
def recording {Entry : Type*} (step : State → Event → Option State)
    (record : State → Event → List Entry) (recorded : State × List Entry) (event : Event) :
    Option (State × List Entry) :=
  (step recorded.1 event).map fun next => (next, recorded.2 ++ record recorded.1 event)

/-- A run is a recording run with its log. -/
theorem run_recording {Entry : Type*} (record : State → Event → List Entry) {state final : State}
    {events : List Event} (past : List Entry) (ran : run step state events = some final) :
    run (recording step record) (state, past) events = some (final, past ++ log step record state events) := by
  induction events generalizing state past with
  | nil =>
      obtain rfl := Option.some.inj ran
      simp [log]
  | cons event rest ih =>
      obtain ⟨next, taken, ran⟩ := run_cons.mp ran
      have tail := ih (past ++ record state event) ran
      refine run_cons.mpr ⟨(next, past ++ record state event), ?_, ?_⟩
      · simp [recording, taken]
      · simpa [log, taken, List.append_assoc] using tail

/-- A recording run is a run, and it ends with the log of the run. -/
theorem run_of_recording {Entry : Type*} {record : State → Event → List Entry} {state : State} {past : List Entry}
    {events : List Event} {reached : State × List Entry}
    (ran : run (recording step record) (state, past) events = some reached) :
    run step state events = some reached.1 ∧ reached.2 = past ++ log step record state events := by
  have plain : ∃ final, run step state events = some final := by
    induction events generalizing state past with
    | nil => exact ⟨state, rfl⟩
    | cons event rest ih =>
        obtain ⟨middle, taken, ran⟩ := run_cons.mp ran
        obtain ⟨next, stepped, rfl⟩ := Option.map_eq_some_iff.mp taken
        obtain ⟨final, ended⟩ := ih ran
        exact ⟨final, run_cons.mpr ⟨next, stepped, ended⟩⟩
  obtain ⟨final, ended⟩ := plain
  obtain rfl := Option.some.inj ((run_recording record past ended).symm.trans ran)
  exact ⟨ended, rfl⟩

/-- A condition along a run holds along the recording run. -/
theorem Along.recording {Entry : Type*} {record : State → Event → List Entry} {condition : State → Event → Prop}
    {state : State} {past : List Entry} {events : List Event} (met : Along step condition state events) :
    Along (recording step record) (fun recorded event => condition recorded.1 event) (state, past) events := by
  induction events generalizing state past with
  | nil => trivial
  | cons event rest ih =>
      refine ⟨met.1, fun middle taken => ?_⟩
      obtain ⟨next, stepped, rfl⟩ := Option.map_eq_some_iff.mp taken
      exact ih (met.2 next stepped)

/-- A step condition on the state and its log decides every state that a run reaches. -/
theorem reached_log_iff_along {Entry : Type*} {record : State → Event → List Entry}
    (invariant : State → List Entry → Prop) {listed : State → Event → Prop}
    {condition : State → List Entry → Event → Prop} {property : State → List Entry → Prop}
    (exact : ∀ state past event next, invariant state past → property state past → listed state event →
      step state event = some next → invariant next (past ++ record state event) ∧
        (property next (past ++ record state event) ↔ condition state past event))
    {state final : State} {events : List Event} (held : invariant state []) (initial : property state [])
    (met : Along step listed state events) (ran : run step state events = some final) :
    (∀ before after reached, events = before ++ after → run step state before = some reached →
        property reached (log step record state before)) ↔
      Along (recording step record) (fun recorded event => condition recorded.1 recorded.2 event) (state, [])
        events := by
  have decided := reached_iff_along (fun recorded : State × List Entry => invariant recorded.1 recorded.2)
    (fun recorded event next held initial listed taken => by
      obtain ⟨reached, stepped, rfl⟩ := Option.map_eq_some_iff.mp taken
      exact exact recorded.1 recorded.2 event reached held initial listed stepped)
    held initial (met.recording) (run_recording record [] ran)
  rw [← decided]
  constructor
  · intro all before after recorded whole ranBefore
    obtain ⟨plain, same⟩ := run_of_recording ranBefore
    rw [same]
    exact all before after recorded.1 whole plain
  · intro all before after reached whole ranBefore
    exact all before after (reached, log step record state before) whole (run_recording record [] ranBefore)

/-- Something happened in the past, and everything after it is kept. -/
def Since {Entry : Type*} (kept happened : Entry → Prop) (past : List Entry) : Prop :=
  ∃ before entry after, past = before ++ entry :: after ∧ happened entry ∧ ∀ later ∈ after, kept later

/-- The last entry happened itself, or it is kept after something that happened. -/
theorem since_concat {Entry : Type*} {kept happened : Entry → Prop} {past : List Entry} {last : Entry} :
    Since kept happened (past ++ [last]) ↔ happened last ∨ kept last ∧ Since kept happened past := by
  constructor
  · rintro ⟨before, entry, after, whole, happens, keeps⟩
    rcases List.eq_nil_or_concat' after with rfl | ⟨inner, final, rfl⟩
    · obtain ⟨_, same⟩ := List.append_inj' whole rfl
      obtain rfl := List.singleton_inj.mp same
      exact .inl happens
    · rw [← List.cons_append, ← List.append_assoc] at whole
      obtain ⟨rfl, same⟩ := List.append_inj' whole rfl
      obtain rfl := List.singleton_inj.mp same
      refine .inr ⟨keeps last (List.mem_append_right _ List.mem_cons_self), before, entry, inner, rfl, happens, ?_⟩
      exact fun later member => keeps later (List.mem_append_left _ member)
  · rintro (happens | ⟨keepsLast, before, entry, after, rfl, happens, keeps⟩)
    · exact ⟨past, last, [], rfl, happens, nofun⟩
    · refine ⟨before, entry, after ++ [last], by simp, happens, fun later member => ?_⟩
      rcases List.mem_append.mp member with old | new
      · exact keeps later old
      · exact List.mem_singleton.mp new ▸ keepsLast

theorem not_since_nil {Entry : Type*} {kept happened : Entry → Prop} : ¬ Since kept happened [] := by
  rintro ⟨before, entry, after, whole, _⟩
  cases before <;> cases whole

/-- Kept entries that are not the event change nothing. -/
theorem since_append {Entry : Type*} {kept happened : Entry → Prop} {logged : List Entry}
    (silent : ∀ entry ∈ logged, kept entry ∧ ¬ happened entry) (past : List Entry) :
    Since kept happened (past ++ logged) ↔ Since kept happened past := by
  induction logged generalizing past with
  | nil => rw [List.append_nil]
  | cons entry rest ih =>
      obtain ⟨keeps, other⟩ := silent entry List.mem_cons_self
      have others := ih (fun later member => silent later (List.mem_cons_of_mem _ member)) (past ++ [entry])
      rw [← List.singleton_append, ← List.append_assoc, others, since_concat, or_iff_right other, and_iff_right keeps]

end Transition
