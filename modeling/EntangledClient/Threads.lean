import EntangledClient.CallTree
import EntangledClient.StateMachine

/-!
# Programs that share a state

Any number of programs run on one state, and a step is the next call of one of
them.  A schedule names the program of each step.
-/

namespace CallTree

/-- A shared state, and what is left of each program. -/
structure Threads (I : Interface) (ι σ α : Type) where
  state : σ
  programs : ι → Program I α

namespace Threads

variable {I : Interface} {ι σ τ α : Type} [DecidableEq ι]

/-- A program that has returned takes no step.  A call may be handled differently for
each program. -/
def machine (handler : ι → Handler I σ) : StateMachine (Threads I ι σ α) ι where
  step threads index :=
    match threads.programs index with
    | .ret _ => none
    | .call request resume =>
        let (reply, state) := handler index request threads.state
        some { state, programs := Function.update threads.programs index (resume reply) }

/-- What one step does. -/
theorem step_eq_some {handler : ι → Handler I σ} {threads next : Threads I ι σ α} {index : ι} :
    (machine handler).step threads index = some next ↔
      ∃ request resume, threads.programs index = .call request resume ∧
        next = {
          state := (handler index request threads.state).2
          programs := Function.update threads.programs index
            (resume (handler index request threads.state).1) } := by
  cases isProgram : threads.programs index with
  | ret outcome => simp [machine, isProgram]
  | call request resume =>
      constructor
      · intro taken
        simp only [machine, isProgram, Option.some.injEq] at taken
        exact ⟨request, resume, rfl, taken.symm⟩
      · rintro ⟨_, _, ⟨⟩, rfl⟩
        simp only [machine, isProgram]

/-- The same programs on another state. -/
def mapState (map : σ → τ) (threads : Threads I ι σ α) : Threads I ι τ α where
  state := map threads.state
  programs := threads.programs

/-- A map of the states that the calls respect commutes with the steps. -/
theorem step_mapState {handler : ι → Handler I σ} {image : ι → Handler I τ} {map : σ → τ}
    (commutes : ∀ index request state,
      image index request (map state) =
        ((handler index request state).1, map (handler index request state).2))
    (threads : Threads I ι σ α) (index : ι) :
    (machine image).step (threads.mapState map) index =
      ((machine handler).step threads index).map (mapState map) := by
  cases isProgram : threads.programs index with
  | ret outcome => simp [machine, mapState, isProgram]
  | call request resume => simp [machine, mapState, isProgram, commutes]

end Threads

end CallTree
