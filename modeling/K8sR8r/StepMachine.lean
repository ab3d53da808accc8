import Mathlib.Logic.Basic
import Mathlib.Data.Option.Basic

/-!
# Machines that take one step at a time

A machine answers an action with its next state, or not at all where the
action cannot happen.  A schedule is a list of actions; a condition on the
steps is asked of each of them in the state it is taken in.
-/

namespace StepMachine

variable {State Action : Type}

/-- The state after a schedule, if every action of it can happen. -/
def run (step : State → Action → Option State) : State → List Action → Option State
  | state, [] => some state
  | state, action :: rest => (step state action).bind fun next =>
    run step next rest

/-- Every step of the schedule meets the condition. -/
def Along (step : State → Action → Option State) (permits : State → Action → Prop) :
    State → List Action → Prop
  | _, [] => True
  | state, action :: rest =>
    permits state action ∧ ∀ next ∈ step state action, Along step permits next rest

instance decidableAlong (step : State → Action → Option State) (permits : State → Action → Prop)
    [∀ state action, Decidable (permits state action)] :
    ∀ state schedule, Decidable (Along step permits state schedule)
  | _, [] => inferInstanceAs (Decidable True)
  | state, action :: rest =>
    have := fun next => decidableAlong step permits next rest
    inferInstanceAs (Decidable (permits state action ∧
      ∀ next ∈ step state action, Along step permits next rest))

/-- What every permitted step preserves holds after every permitted
schedule. -/
theorem run_invariant {step : State → Action → Option State} {permits : State → Action → Prop}
    {invariant : State → Prop}
    (preserved : ∀ {state action next}, invariant state →
      permits state action → step state action = some next →
        invariant next) {state final : State} {schedule : List Action} (start : invariant state)
    (along : Along step permits state schedule) (hrun : run step state schedule = some final) :
    invariant final := by
  induction schedule generalizing state with
  | nil =>
    cases hrun
    exact start
  | cons action rest ih =>
    obtain ⟨next, hnext, hrest⟩ := Option.bind_eq_some_iff.mp hrun
    exact ih (preserved start along.1 hnext) (along.2 next hnext) hrest

end StepMachine
