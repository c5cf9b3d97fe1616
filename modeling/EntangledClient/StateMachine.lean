import Mathlib.Data.List.Basic

/-!
# Runs of a deterministic state machine

A machine answers an event by a next state, or refuses it.  A property of the
steps of a run is stated by `Along`; an invariant of the states is carried from
one step to a whole run, and two step properties that agree under an invariant
agree on whole runs.
-/

/-- A machine that refuses an event by answering `none`. -/
structure StateMachine (State Event : Type*) where
  step : State → Event → Option State

namespace StateMachine

variable {State Event : Type*} (machine : StateMachine State Event)

/-- The state after a list of events, if the machine takes them all. -/
def run : State → List Event → Option State
  | state, [] => some state
  | state, event :: events =>
      match machine.step state event with
      | some next => run next events
      | none => none

@[simp]
theorem run_nil (state : State) : machine.run state [] = some state :=
  rfl

theorem run_cons_some {state next : State} {event : Event}
    (taken : machine.step state event = some next) (events : List Event) :
    machine.run state (event :: events) = machine.run next events := by
  rw [run, taken]

theorem run_cons_eq_some {state after : State} {event : Event} {events : List Event}
    (reached : machine.run state (event :: events) = some after) :
    ∃ next, machine.step state event = some next ∧ machine.run next events = some after := by
  cases taken : machine.step state event with
  | none => simp [run, taken] at reached
  | some next => exact ⟨next, rfl, machine.run_cons_some taken events ▸ reached⟩

/-- A run of events after each other. -/
theorem run_append {state between : State} {earlier : List Event}
    (ran : machine.run state earlier = some between) (later : List Event) :
    machine.run state (earlier ++ later) = machine.run between later := by
  induction earlier generalizing state with
  | nil =>
      obtain rfl : state = between := by simpa using ran
      rfl
  | cons event earlier ih =>
      obtain ⟨next, taken, rest⟩ := machine.run_cons_eq_some ran
      rw [List.cons_append, machine.run_cons_some taken]
      exact ih rest

/-- Every step that the machine takes on these events satisfies `property`. -/
def Along (property : State → Event → State → Prop) : State → List Event → Prop
  | _, [] => True
  | state, event :: events =>
      ∀ next, machine.step state event = some next →
        property state event next ∧ Along property next events

variable {machine} {property first second : State → Event → State → Prop}

/-- An invariant that steps with `property` keep holds after a run of them. -/
theorem Along.invariant_run {state after : State} {events : List Event}
    (along : machine.Along property state events) (invariant : State → Prop)
    (keeps : ∀ state event next, invariant state → machine.step state event = some next →
      property state event next → invariant next)
    (start : invariant state) (reached : machine.run state events = some after) :
    invariant after := by
  induction events generalizing state with
  | nil =>
      obtain rfl : state = after := by simpa using reached
      exact start
  | cons event events ih =>
      obtain ⟨next, taken, rest⟩ := machine.run_cons_eq_some reached
      obtain ⟨holds, alongRest⟩ := along next taken
      exact ih alongRest (keeps state event next start taken holds) rest

theorem Along.append {state between : State} {earlier later : List Event}
    (along : machine.Along property state earlier)
    (ran : machine.run state earlier = some between)
    (rest : machine.Along property between later) :
    machine.Along property state (earlier ++ later) := by
  induction earlier generalizing state with
  | nil =>
      obtain rfl : state = between := by simpa using ran
      exact rest
  | cons event earlier ih =>
      intro next taken
      obtain ⟨second, stepped, ranRest⟩ := machine.run_cons_eq_some ran
      obtain rfl := Option.some.inj (taken.symm.trans stepped)
      obtain ⟨holds, alongRest⟩ := along next taken
      exact ⟨holds, ih alongRest ranRest⟩

/-- A property along a run holds of each step of it. -/
theorem Along.at_step {state reached next : State} {earlier later : List Event}
    {event : Event} (along : machine.Along property state (earlier ++ event :: later))
    (ran : machine.run state earlier = some reached)
    (taken : machine.step reached event = some next) : property reached event next := by
  induction earlier generalizing state with
  | nil =>
      obtain rfl : state = reached := by simpa using ran
      exact (along next taken).1
  | cons first earlier ih =>
      obtain ⟨second, stepped, rest⟩ := machine.run_cons_eq_some ran
      exact ih (along second stepped).2 rest

/-- What every step from an invariant has, every run from it has. -/
theorem along_of_invariant (invariant : State → Prop)
    (step : ∀ state event next, invariant state → machine.step state event = some next →
      property state event next ∧ invariant next)
    {state : State} (start : invariant state) (events : List Event) :
    machine.Along property state events := by
  induction events generalizing state with
  | nil => trivial
  | cons event events ih =>
      intro next taken
      obtain ⟨holds, after⟩ := step state event next start taken
      exact ⟨holds, ih after⟩

/-- An invariant of every step is an invariant of every run. -/
theorem invariant_run (invariant : State → Prop) {state after : State}
    {events : List Event}
    (keeps : ∀ state event next, invariant state → machine.step state event = some next →
      invariant next)
    (start : invariant state) (reached : machine.run state events = some after) :
    invariant after := by
  have always : machine.Along (fun _ _ _ => True) state events :=
    along_of_invariant (fun _ => True) (fun _ _ _ _ _ => ⟨trivial, trivial⟩) trivial events
  exact always.invariant_run invariant
    (fun state event next holds taken _ => keeps state event next holds taken) start reached

/-- A machine that takes every event under an invariant takes every run. -/
theorem exists_run (invariant : State → Prop)
    (takes : ∀ state event, invariant state →
      ∃ next, machine.step state event = some next ∧ invariant next)
    {state : State} (start : invariant state) (events : List Event) :
    ∃ after, machine.run state events = some after := by
  induction events generalizing state with
  | nil => exact ⟨state, rfl⟩
  | cons event events ih =>
      obtain ⟨next, taken, after⟩ := takes state event start
      rw [machine.run_cons_some taken]
      exact ih after

/-- Step properties that agree in every state with `invariant` agree on runs,
when the steps with the first property keep the invariant. -/
theorem along_iff_along (invariant : State → Prop)
    (agree : ∀ state event next, invariant state → machine.step state event = some next →
      (first state event next ↔ second state event next))
    (keeps : ∀ state event next, invariant state → machine.step state event = some next →
      first state event next → invariant next)
    {state : State} (start : invariant state) (events : List Event) :
    machine.Along first state events ↔ machine.Along second state events := by
  induction events generalizing state with
  | nil => exact Iff.rfl
  | cons event events ih =>
      constructor
      · intro along next taken
        obtain ⟨holds, rest⟩ := along next taken
        have after := keeps state event next start taken holds
        exact ⟨(agree state event next start taken).mp holds, (ih after).mp rest⟩
      · intro along next taken
        obtain ⟨holds, rest⟩ := along next taken
        have holds := (agree state event next start taken).mpr holds
        exact ⟨holds, (ih (keeps state event next start taken holds)).mpr rest⟩

/-- A map of the states that commutes with the steps commutes with the runs. -/
theorem run_map {State' : Type*} {image : StateMachine State' Event} (map : State → State')
    (commutes : ∀ state event,
      image.step (map state) event = (machine.step state event).map map)
    (state : State) (events : List Event) :
    image.run (map state) events = (machine.run state events).map map := by
  induction events generalizing state with
  | nil => rfl
  | cons event events ih =>
      have commuted := commutes state event
      cases taken : machine.step state event with
      | none => simp [run, taken, commuted]
      | some next =>
          rw [taken] at commuted
          rw [run_cons_some _ commuted, run_cons_some _ taken, ih]

/-- If each step keeps something exactly when it has a property, and no step restores it,
then a run keeps it exactly when its steps have the property. -/
theorem kept_iff_along (invariant kept : State → Prop)
    (keeps : ∀ state event next, invariant state → machine.step state event = some next →
      invariant next ∧ (kept next ↔ kept state ∧ property state event next))
    {state after : State} (start : invariant state) {events : List Event}
    (reached : machine.run state events = some after) :
    kept after ↔ kept state ∧ machine.Along property state events := by
  induction events generalizing state with
  | nil =>
      obtain rfl : state = after := by simpa using reached
      simp [Along]
  | cons event events ih =>
      obtain ⟨next, taken, rest⟩ := machine.run_cons_eq_some reached
      obtain ⟨invariantNext, keptNext⟩ := keeps state event next start taken
      rw [ih invariantNext rest, keptNext]
      simp only [Along, taken, Option.some.injEq, forall_eq']
      tauto

/-- A step property may be checked on the images of the states under a map that
commutes with the steps. -/
theorem along_map {State' : Type*} {image : StateMachine State' Event}
    {imageProperty : State' → Event → State' → Prop} (invariant : State → Prop)
    (map : State → State')
    (commutes : ∀ state event, invariant state →
      image.step (map state) event = (machine.step state event).map map)
    (keeps : ∀ state event next, invariant state → machine.step state event = some next →
      invariant next)
    (same : ∀ state event next,
      imageProperty (map state) event (map next) ↔ property state event next)
    {state : State} (start : invariant state) (events : List Event) :
    image.Along imageProperty (map state) events ↔ machine.Along property state events := by
  induction events generalizing state with
  | nil => exact Iff.rfl
  | cons event events ih =>
      have commuted := commutes state event start
      cases taken : machine.step state event with
      | none =>
          rw [taken] at commuted
          simp [Along, taken, commuted]
      | some next =>
          rw [taken] at commuted
          simp only [Along, taken, commuted, Option.map_some, Option.some.injEq, forall_eq',
            same, ih (keeps state event next start taken)]

end StateMachine
