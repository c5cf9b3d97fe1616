import Mathlib.Data.List.Basic

/-!
# Trees of fallible calls

A program that works on a shared state only through calls is a tree: each node
is one call, with a continuation for every reply it may get.  Every call may be
answered by an error, and the program decides whether that error ends it.  One
tree can be run to its end on a state, run under a schedule of failing calls
and stops, or taken apart call by call.
-/

namespace CallTree

/-- The calls a program may make, what each returns, and how a call or a
program fails. -/
structure Interface where
  Call : Type
  Result : Call → Type
  Error : Type

/-- A reply to a call: its result, or an error. -/
abbrev Interface.Reply (I : Interface) (request : I.Call) : Type :=
  Except I.Error (I.Result request)

/-- A program over an interface. -/
inductive Program (I : Interface) (α : Type) : Type where
  | ret (outcome : Except I.Error α)
  | call (request : I.Call) (resume : I.Reply request → Program I α)

/-- How each call acts on a state. -/
abbrev Handler (I : Interface) (σ : Type) : Type :=
  (request : I.Call) → σ → I.Reply request × σ

namespace Program

variable {I : Interface} {α β γ ε σ τ : Type}

/-- Sequencing, in which an error ends the whole program. -/
protected def bind : Program I α → (α → Program I β) → Program I β
  | .ret (.ok value), next => next value
  | .ret (.error error), _ => .ret (.error error)
  | .call request resume, next => .call request fun reply => (resume reply).bind next

instance : Monad (Program I) where
  pure value := .ret (.ok value)
  bind := Program.bind

/-- One call, whose error ends the program. -/
def perform (request : I.Call) : Program I (I.Result request) :=
  .call request .ret

/-- Turn the errors that `caught` recognizes into values; other errors still
end the program. -/
def attempt (caught : I.Error → Option ε) : Program I α → Program I (Except ε α)
  | .ret (.ok value) => .ret (.ok (.ok value))
  | .ret (.error error) =>
      match caught error with
      | some recognized => .ret (.ok (.error recognized))
      | none => .ret (.error error)
  | .call request resume => .call request fun reply => (resume reply).attempt caught

/-- Run a program to its end. -/
def run (handler : Handler I σ) : Program I α → σ → Except I.Error α × σ
  | .ret outcome, state => (outcome, state)
  | .call request resume, state =>
      (resume (handler request state).1).run handler (handler request state).2

variable (handler : Handler I σ)

@[simp]
theorem run_ret (outcome : Except I.Error α) (state : σ) :
    (ret outcome).run handler state = (outcome, state) :=
  rfl

@[simp]
theorem run_pure (value : α) (state : σ) :
    (pure value : Program I α).run handler state = (.ok value, state) :=
  rfl

theorem run_bind (program : Program I α) (next : α → Program I β) (state : σ) :
    (program >>= next).run handler state =
      match program.run handler state with
      | (.ok value, after) => (next value).run handler after
      | (.error error, after) => (.error error, after) := by
  change (program.bind next).run handler state = _
  induction program generalizing state with
  | ret outcome => cases outcome <;> rfl
  | call request resume ih => exact ih _ _

theorem run_bind_ok {program : Program I α} {state after : σ} {value : α}
    (returns : program.run handler state = (.ok value, after))
    (next : α → Program I β) :
    (program >>= next).run handler state = (next value).run handler after := by
  rw [run_bind, returns]

theorem run_bind_error {program : Program I α} {state after : σ} {error : I.Error}
    (fails : program.run handler state = (.error error, after))
    (next : α → Program I β) :
    (program >>= next).run handler state = (.error error, after) := by
  rw [run_bind, fails]

/-- What a sequence returned, its rest returned after its first program did. -/
theorem run_bind_eq_ok {program : Program I α} {next : α → Program I β} {state after : σ}
    {result : β} (returned : (program >>= next).run handler state = (.ok result, after)) :
    ∃ value between, program.run handler state = (.ok value, between) ∧
      (next value).run handler between = (.ok result, after) := by
  rw [run_bind] at returned
  cases first : program.run handler state with
  | mk outcome between =>
      rw [first] at returned
      cases outcome with
      | ok value => exact ⟨value, between, rfl, returned⟩
      | error error => cases returned

/-- After an outcome, a rest that calls nothing is a step of the error monad. -/
theorem ret_bind_ret (outcome : Except I.Error α) {next : α → Program I β}
    {result : α → Except I.Error β} (calls_nothing : ∀ value, next value = .ret (result value)) :
    (ret outcome >>= next) = .ret (outcome >>= result) := by
  cases outcome with
  | ok value => exact calls_nothing value
  | error error => rfl

/-- Catching the errors that `caught` recognizes, on an outcome. -/
def catchOutcome (caught : I.Error → Option ε) :
    Except I.Error α → Except I.Error (Except ε α)
  | .ok value => .ok (.ok value)
  | .error error =>
      match caught error with
      | some recognized => .ok (.error recognized)
      | none => .error error

@[simp]
theorem run_attempt (caught : I.Error → Option ε) (program : Program I α) (state : σ) :
    (program.attempt caught).run handler state =
      (catchOutcome caught (program.run handler state).1,
        (program.run handler state).2) := by
  induction program generalizing state with
  | ret outcome =>
      cases outcome with
      | ok value => rfl
      | error error => cases recognized : caught error <;> simp [attempt, catchOutcome, recognized]
  | call request resume ih => exact ih _ _

/-! ### Which calls a program can make -/

/-- Every call the program can make, whatever the replies, is allowed. -/
def CallsWithin (allowed : I.Call → Prop) : Program I α → Prop
  | .ret _ => True
  | .call request resume => allowed request ∧ ∀ reply, (resume reply).CallsWithin allowed

theorem CallsWithin.pure {allowed : I.Call → Prop} (value : α) :
    CallsWithin allowed (Pure.pure value : Program I α) :=
  trivial

theorem CallsWithin.perform {allowed : I.Call → Prop} {request : I.Call}
    (permitted : allowed request) : CallsWithin allowed (perform request) :=
  ⟨permitted, fun _ => trivial⟩

theorem CallsWithin.bind {allowed : I.Call → Prop} {program : Program I α}
    {next : α → Program I β} (first : program.CallsWithin allowed)
    (rest : ∀ value, (next value).CallsWithin allowed) :
    (program >>= next).CallsWithin allowed := by
  change (program.bind next).CallsWithin allowed
  induction program with
  | ret outcome =>
      cases outcome with
      | ok value => exact rest value
      | error error => trivial
  | call request resume ih => exact ⟨first.1, fun reply => ih reply (first.2 reply)⟩

theorem CallsWithin.attempt {allowed : I.Call → Prop} {caught : I.Error → Option ε}
    {program : Program I α} (within : program.CallsWithin allowed) :
    (program.attempt caught).CallsWithin allowed := by
  induction program with
  | ret outcome =>
      cases outcome with
      | ok value => trivial
      | error error =>
          cases recognized : caught error <;>
            simp [Program.attempt, recognized, CallsWithin]
  | call request resume ih => exact ⟨within.1, fun reply => ih reply (within.2 reply)⟩

theorem CallsWithin.mono {first second : I.Call → Prop} {program : Program I α}
    (within : program.CallsWithin first) (weaker : ∀ request, first request → second request) :
    program.CallsWithin second := by
  induction program with
  | ret outcome => trivial
  | call request resume ih =>
      exact ⟨weaker request within.1, fun reply => ih reply (within.2 reply)⟩

/-! ### What a program concludes -/

/-- Whatever the replies, the outcome satisfies `post` together with what was
observed of the calls. -/
def Always (observe : γ → (request : I.Call) → I.Reply request → γ)
    (post : γ → Except I.Error α → Prop) : Program I α → γ → Prop
  | .ret outcome, seen => post seen outcome
  | .call request resume, seen =>
      ∀ reply, (resume reply).Always observe post (observe seen request reply)

variable {observe : γ → (request : I.Call) → I.Reply request → γ}

theorem Always.perform {request : I.Call} {post : γ → I.Reply request → Prop} {seen : γ}
    (concluded : ∀ reply, post (observe seen request reply) reply) :
    Always observe post (perform request) seen :=
  concluded

theorem Always.bind {program : Program I α} {next : α → Program I β}
    {post : γ → Except I.Error β → Prop} {seen : γ}
    (first : program.Always observe
      (fun seen outcome =>
        match outcome with
        | .ok value => (next value).Always observe post seen
        | .error error => post seen (.error error)) seen) :
    (program >>= next).Always observe post seen := by
  change (program.bind next).Always observe post seen
  induction program generalizing seen with
  | ret outcome => cases outcome <;> exact first
  | call request resume ih => exact fun reply => ih reply (first reply)

theorem Always.attempt {caught : I.Error → Option ε} {program : Program I α}
    {post : γ → Except I.Error (Except ε α) → Prop} {seen : γ}
    (first : program.Always observe
      (fun seen outcome => post seen (catchOutcome caught outcome)) seen) :
    (program.attempt caught).Always observe post seen := by
  induction program generalizing seen with
  | ret outcome =>
      cases outcome with
      | ok value => exact first
      | error error =>
          cases recognized : caught error <;>
            simpa [Program.attempt, Always, catchOutcome, recognized] using first
  | call request resume ih => exact fun reply => ih reply (first reply)

theorem Always.mono {first second : γ → Except I.Error α → Prop} {program : Program I α}
    {seen : γ} (always : program.Always observe first seen)
    (weaker : ∀ seen outcome, first seen outcome → second seen outcome) :
    program.Always observe second seen := by
  induction program generalizing seen with
  | ret outcome => exact weaker seen outcome always
  | call request resume ih => exact fun reply => ih reply (always reply)

/-- Whatever the replies, the outcome satisfies `post`. -/
abbrev Concludes (post : Except I.Error α → Prop) (program : Program I α) : Prop :=
  program.Always (fun seen _ _ => seen) (fun (_ : Unit) outcome => post outcome) ()

/-- What the rest of a sequence concludes of its result, the sequence does. -/
theorem Concludes.bind_ok {program : Program I α} {next : α → Program I β} {post : β → Prop}
    (rest : ∀ value, (next value).Concludes fun outcome =>
      ∀ result, outcome = .ok result → post result) :
    (program >>= next).Concludes fun outcome => ∀ result, outcome = .ok result → post result := by
  change (program.bind next).Concludes _
  induction program with
  | ret outcome =>
      cases outcome with
      | ok value => exact rest value
      | error error =>
          intro result returned
          cases returned
  | call request resume ih => exact fun reply => ih reply

theorem Always.concludes {post : Except I.Error α → Prop} {program : Program I α} {seen : γ}
    (always : program.Always observe (fun _ outcome => post outcome) seen) :
    program.Concludes post := by
  induction program generalizing seen with
  | ret outcome => exact always
  | call request resume ih => exact fun reply => ih reply (always reply)

/-- A rest that only has to be allowed after what the first program can return. -/
theorem CallsWithin.bind_always {allowed : I.Call → Prop} {program : Program I α}
    {next : α → Program I β} (first : program.CallsWithin allowed)
    (rest : program.Concludes
      (fun outcome => ∀ value, outcome = .ok value → (next value).CallsWithin allowed)) :
    (program >>= next).CallsWithin allowed := by
  change (program.bind next).CallsWithin allowed
  induction program with
  | ret outcome =>
      cases outcome with
      | ok value => exact rest value rfl
      | error error => trivial
  | call request resume ih => exact ⟨first.1, fun reply => ih reply (first.2 reply) (rest reply)⟩

/-- What a program concludes, a run of it gives. -/
theorem Concludes.run_outcome {post : Except I.Error α → Prop} {program : Program I α}
    (concludes : program.Concludes post) (state : σ) :
    post (program.run handler state).1 := by
  induction program generalizing state with
  | ret outcome => exact concludes
  | call request resume ih => exact ih _ (concludes _) _

/-- What every allowed call preserves, a run preserves. -/
theorem run_preserves {allowed : I.Call → Prop} {invariant : σ → Prop}
    (step : ∀ request state, allowed request → invariant state →
      invariant (handler request state).2)
    {program : Program I α} (within : program.CallsWithin allowed) {state : σ}
    (holds : invariant state) :
    invariant (program.run handler state).2 := by
  induction program generalizing state with
  | ret outcome => exact holds
  | call request resume ih =>
      exact ih _ (within.2 _) (step request state within.1 holds)

/-- Two handlers that answer alike in related states run every program alike. -/
theorem run_simulation {first : Handler I σ} {second : Handler I τ}
    {related : σ → τ → Prop}
    (step : ∀ request state state', related state state' →
      (first request state).1 = (second request state').1 ∧
        related (first request state).2 (second request state').2)
    (program : Program I α) {state : σ} {state' : τ} (start : related state state') :
    (program.run first state).1 = (program.run second state').1 ∧
      related (program.run first state).2 (program.run second state').2 := by
  induction program generalizing state state' with
  | ret outcome => exact ⟨rfl, start⟩
  | call request resume ih =>
      obtain ⟨sameReply, stillRelated⟩ := step request state state' start
      simp only [run, sameReply]
      exact ih _ stillRelated

/-! ### Programs whose calls may fail -/

end Program

/-- What becomes of a call: it is answered, it fails without an effect, or the
program stops before it. -/
inductive Fault (ε : Type)
  | proceed
  | fail (error : ε)
  | stop
  deriving DecidableEq

/-- The reply to a call under a fault, if the program goes on, and the state. -/
def Handler.answer {I : Interface} {σ : Type} (handler : Handler I σ)
    (fault : Fault I.Error) (request : I.Call) (state : σ) :
    Option (I.Reply request) × σ :=
  match fault with
  | .proceed => (some (handler request state).1, (handler request state).2)
  | .fail error => (some (.error error), state)
  | .stop => (none, state)

theorem Handler.answer_hit {I : Interface} {σ : Type} {handler : Handler I σ}
    {fault : Fault I.Error} (hit : fault ≠ .proceed) (request : I.Call) (state : σ) :
    (handler.answer fault request state).2 = state := by
  cases fault with
  | proceed => exact absurd rfl hit
  | fail error => rfl
  | stop => rfl

/-- Two handlers that answer a call alike in related states do so under a fault. -/
theorem Handler.answer_simulation {I : Interface} {σ τ : Type} {first : Handler I σ}
    {second : Handler I τ} {related : σ → τ → Prop} {request : I.Call} {state : σ}
    {state' : τ} (start : related state state')
    (step : (first request state).1 = (second request state').1 ∧
      related (first request state).2 (second request state').2)
    (fault : Fault I.Error) :
    (first.answer fault request state).1 = (second.answer fault request state').1 ∧
      related (first.answer fault request state).2 (second.answer fault request state').2 := by
  cases fault with
  | proceed => exact ⟨congrArg some step.1, step.2⟩
  | fail error => exact ⟨rfl, start⟩
  | stop => exact ⟨rfl, start⟩

/-- The handler under which the calls that `fails` names fail without an effect. -/
def Handler.failing {I : Interface} {σ : Type} (handler : Handler I σ)
    (fails : I.Call → Option I.Error) : Handler I σ := fun request state =>
  match fails request with
  | some error => (.error error, state)
  | none => handler request state

theorem Handler.failing_of_none {I : Interface} {σ : Type} {handler : Handler I σ}
    {fails : I.Call → Option I.Error} {request : I.Call} (answered : fails request = none)
    (state : σ) : handler.failing fails request state = handler request state := by
  simp only [failing, answered]

theorem Handler.failing_of_some {I : Interface} {σ : Type} {handler : Handler I σ}
    {fails : I.Call → Option I.Error} {request : I.Call} {error : I.Error}
    (failed : fails request = some error) (state : σ) :
    handler.failing fails request state = (.error error, state) := by
  simp only [failing, failed]

namespace Program

variable {I : Interface} {α β γ ε σ τ : Type}

/-- Run a program under a list of faults, one for each call; later calls are
answered.  There is no outcome if the program was stopped. -/
def runFaulty (handler : Handler I σ) :
    Program I α → List (Fault I.Error) → σ → Option (Except I.Error α) × σ
  | .ret outcome, _, state => (some outcome, state)
  | .call request resume, faults, state =>
      match handler.answer (faults.headD .proceed) request state with
      | (some reply, next) => (resume reply).runFaulty handler faults.tail next
      | (none, next) => (none, next)

@[simp]
theorem runFaulty_pure (handler : Handler I σ) (value : α) (faults : List (Fault I.Error))
    (state : σ) :
    (pure value : Program I α).runFaulty handler faults state = (some (.ok value), state) :=
  rfl

theorem runFaulty_perform (handler : Handler I σ) (request : I.Call)
    (faults : List (Fault I.Error)) (state : σ) :
    (perform request).runFaulty handler faults state =
      handler.answer (faults.headD .proceed) request state := by
  cases fault : faults.headD .proceed <;>
    simp only [perform, runFaulty, Handler.answer, fault]

/-- A first call that is answered. -/
theorem runFaulty_bind_answered (handler : Handler I σ) {request : I.Call}
    {faults : List (Fault I.Error)} {state after : σ} {value : I.Result request}
    (proceeds : faults.headD .proceed = .proceed)
    (answers : handler request state = (.ok value, after))
    (next : I.Result request → Program I β) :
    (perform request >>= next).runFaulty handler faults state =
      (next value).runFaulty handler faults.tail after := by
  change ((perform request).bind next).runFaulty handler faults state = _
  simp only [perform, Program.bind, runFaulty, Handler.answer, proceeds, answers]

/-- A first call that is not answered leaves the state as it is. -/
theorem runFaulty_bind_unanswered (handler : Handler I σ) {request : I.Call}
    {faults : List (Fault I.Error)} (hit : faults.headD .proceed ≠ .proceed) (state : σ)
    (next : I.Result request → Program I β) :
    ((perform request >>= next).runFaulty handler faults state).2 = state := by
  change (((perform request).bind next).runFaulty handler faults state).2 = state
  cases fault : faults.headD .proceed with
  | proceed => exact absurd fault hit
  | fail error => simp only [perform, Program.bind, runFaulty, Handler.answer, fault]
  | stop => simp only [perform, Program.bind, runFaulty, Handler.answer, fault]

/-- What every allowed call preserves, a run under any faults preserves. -/
theorem runFaulty_preserves (handler : Handler I σ) {allowed : I.Call → Prop}
    {invariant : σ → Prop}
    (step : ∀ request state, allowed request → invariant state →
      invariant (handler request state).2)
    {program : Program I α} (within : program.CallsWithin allowed)
    (faults : List (Fault I.Error)) {state : σ} (holds : invariant state) :
    invariant (program.runFaulty handler faults state).2 := by
  induction program generalizing faults state with
  | ret outcome => exact holds
  | call request resume ih =>
      simp only [runFaulty]
      cases faults.headD .proceed with
      | proceed => exact ih _ (within.2 _) _ (step request state within.1 holds)
      | fail error => exact ih _ (within.2 _) _ holds
      | stop => exact holds

/-- Two handlers that answer alike in related states run every program alike under
the same faults. -/
theorem runFaulty_simulation {first : Handler I σ} {second : Handler I τ}
    {related : σ → τ → Prop}
    (step : ∀ request state state', related state state' →
      (first request state).1 = (second request state').1 ∧
        related (first request state).2 (second request state').2)
    (program : Program I α) (faults : List (Fault I.Error)) {state : σ} {state' : τ}
    (start : related state state') :
    (program.runFaulty first faults state).1 = (program.runFaulty second faults state').1 ∧
      related (program.runFaulty first faults state).2
        (program.runFaulty second faults state').2 := by
  induction program generalizing faults state state' with
  | ret outcome => exact ⟨rfl, start⟩
  | call request resume ih =>
      obtain ⟨sameReply, stillRelated⟩ := Handler.answer_simulation start
        (step request state state' start) (faults.headD .proceed)
      simp only [runFaulty]
      cases answered : first.answer (faults.headD .proceed) request state with
      | mk reply next =>
          cases answered' : second.answer (faults.headD .proceed) request state' with
          | mk reply' next' =>
              rw [answered, answered'] at sameReply stillRelated
              obtain rfl : reply = reply' := sameReply
              cases reply with
              | none => exact ⟨rfl, stillRelated⟩
              | some reply => exact ih reply _ stillRelated

end Program

end CallTree
