import EntangledClient.CallTree

/-!
# Rules for runs under faults

A run under faults passes through a state after each call.  `Safely` says, whatever calls
fail and wherever the program stops, which states it passes through and how it ends; there
is a rule for each way of building a program.
-/

namespace CallTree

/-- A call of a run, the reply unless the program stopped before it, and the state then. -/
structure TracedCall (I : Interface) (σ : Type) where
  request : I.Call
  reply : Option (I.Reply request)
  after : σ

namespace Program

variable {I : Interface} {α β ε σ : Type}

/-- The calls of a run under faults. -/
def trace (handler : Handler I σ) :
    Program I α → List (Fault I.Error) → σ → List (TracedCall I σ)
  | .ret _, _, _ => []
  | .call request resume, faults, state =>
      match handler.answer (faults.headD .proceed) request state with
      | (some reply, next) =>
          ⟨request, some reply, next⟩ :: (resume reply).trace handler faults.tail next
      | (none, next) => [⟨request, none, next⟩]

/-- Convert the error with which a program ends. -/
def mapError (convert : I.Error → I.Error) : Program I α → Program I α
  | .ret outcome => .ret (outcome.mapError convert)
  | .call request resume => .call request fun reply => (resume reply).mapError convert

/-- Whatever faults the calls meet, each state on the way satisfies `moment`, and the calls,
the outcome and the last state satisfy `post`. -/
def Safely (handler : Handler I σ) (moment : σ → Prop) :
    Program I α → (List (TracedCall I σ) → Except I.Error α → σ → Prop) → σ → Prop
  | .ret outcome, post, state => post [] outcome state
  | .call request resume, post, state =>
      (∀ error, (resume (.error error)).Safely handler moment
        (fun calls => post (⟨request, some (.error error), state⟩ :: calls)) state) ∧
      moment (handler request state).2 ∧
      (resume (handler request state).1).Safely handler moment
        (fun calls => post
          (⟨request, some (handler request state).1, (handler request state).2⟩ :: calls))
        (handler request state).2

variable {handler : Handler I σ} {moment : σ → Prop}
  {post : List (TracedCall I σ) → Except I.Error α → σ → Prop} {program : Program I α} {state : σ}

/-- A run under faults is one of those that `Safely` speaks of. -/
theorem Safely.run (safely : program.Safely handler moment post state) (start : moment state)
    (faults : List (Fault I.Error)) :
    (∀ traced ∈ program.trace handler faults state, moment traced.after) ∧
      ∀ outcome, (program.runFaulty handler faults state).1 = some outcome →
        post (program.trace handler faults state) outcome
          (program.runFaulty handler faults state).2 := by
  induction program generalizing post state faults with
  | ret result =>
      refine ⟨List.forall_mem_nil _, fun outcome returned => ?_⟩
      obtain rfl : result = outcome := Option.some.inj returned
      exact safely
  | call request resume ih =>
      obtain ⟨failing, next, answered⟩ := safely
      simp only [trace, runFaulty]
      cases faults.headD .proceed with
      | proceed =>
          obtain ⟨moments, ends⟩ := ih _ answered next faults.tail
          exact ⟨List.forall_mem_cons.mpr ⟨next, moments⟩, ends⟩
      | fail error =>
          obtain ⟨moments, ends⟩ := ih _ (failing error) start faults.tail
          exact ⟨List.forall_mem_cons.mpr ⟨start, moments⟩, ends⟩
      | stop =>
          refine ⟨List.forall_mem_singleton.mpr start, ?_⟩
          rintro outcome ⟨⟩

/-- A run ends where it started or in the state after one of its calls. -/
theorem runFaulty_eq_or_mem_trace (handler : Handler I σ) (program : Program I α)
    (faults : List (Fault I.Error)) (state : σ) :
    (program.runFaulty handler faults state).2 = state ∨
      ∃ traced ∈ program.trace handler faults state,
        (program.runFaulty handler faults state).2 = traced.after := by
  induction program generalizing faults state with
  | ret outcome => exact .inl rfl
  | call request resume ih =>
      simp only [trace, runFaulty]
      cases handler.answer (faults.headD .proceed) request state with
      | mk reply next =>
          cases reply with
          | none => exact .inr ⟨⟨request, none, next⟩, List.mem_singleton_self _, rfl⟩
          | some reply =>
              refine .inr ?_
              rcases ih reply faults.tail next with last | ⟨traced, isTraced, last⟩
              · exact ⟨⟨request, some reply, next⟩, List.mem_cons_self, last⟩
              · exact ⟨traced, List.mem_cons_of_mem _ isTraced, last⟩

/-- So a run ends in such a state. -/
theorem Safely.run_after (safely : program.Safely handler moment post state)
    (start : moment state) (faults : List (Fault I.Error)) :
    moment (program.runFaulty handler faults state).2 := by
  obtain ⟨moments, _⟩ := safely.run start faults
  rcases runFaulty_eq_or_mem_trace handler program faults state with last | ⟨traced, isTraced, last⟩
  · rwa [last]
  · rw [last]
    exact moments traced isTraced

theorem Safely.mono {weaker : List (TracedCall I σ) → Except I.Error α → σ → Prop}
    (safely : program.Safely handler moment post state)
    (weakens : ∀ calls outcome after, post calls outcome after → weaker calls outcome after) :
    program.Safely handler moment weaker state := by
  induction program generalizing post weaker state with
  | ret outcome => exact weakens [] outcome state safely
  | call request resume ih =>
      obtain ⟨failing, next, answered⟩ := safely
      exact ⟨fun error => ih _ (failing error) fun _ => weakens _, next,
        ih _ answered fun _ => weakens _⟩

/-- What a program concludes whatever the replies, it concludes under faults. -/
theorem Safely.and_concludes {concluded : Except I.Error α → Prop}
    (safely : program.Safely handler moment post state) (concludes : program.Concludes concluded) :
    program.Safely handler moment
      (fun calls outcome after => post calls outcome after ∧ concluded outcome) state := by
  induction program generalizing post state with
  | ret outcome => exact ⟨safely, concludes⟩
  | call request resume ih =>
      obtain ⟨failing, next, answered⟩ := safely
      exact ⟨fun error => ih _ (failing error) (concludes _), next,
        ih _ answered (concludes _)⟩

/-- One call: it fails without an effect, or it is answered. -/
theorem Safely.perform {request : I.Call}
    {post : List (TracedCall I σ) → I.Reply request → σ → Prop}
    (failing : ∀ error, post [⟨request, some (.error error), state⟩] (.error error) state)
    (next : moment (handler request state).2)
    (answered : post [⟨request, some (handler request state).1, (handler request state).2⟩]
      (handler request state).1 (handler request state).2) :
    (perform request).Safely handler moment post state :=
  ⟨failing, next, answered⟩

theorem Safely.bind {next : α → Program I β}
    {post : List (TracedCall I σ) → Except I.Error β → σ → Prop}
    (first : program.Safely handler moment
      (fun calls outcome after =>
        match outcome with
        | .ok value => (next value).Safely handler moment (fun more => post (calls ++ more)) after
        | .error error => post calls (.error error) after) state) :
    (program >>= next).Safely handler moment post state := by
  change (program.bind next).Safely handler moment post state
  induction program generalizing post state with
  | ret outcome => cases outcome <;> exact first
  | call request resume ih =>
      obtain ⟨failing, moments, answered⟩ := first
      exact ⟨fun error => ih _ (failing error), moments, ih _ answered⟩

theorem Safely.mapError {convert : I.Error → I.Error}
    (safely : program.Safely handler moment
      (fun calls outcome => post calls (outcome.mapError convert)) state) :
    (program.mapError convert).Safely handler moment post state := by
  induction program generalizing post state with
  | ret outcome => exact safely
  | call request resume ih =>
      obtain ⟨failing, moments, answered⟩ := safely
      exact ⟨fun error => ih _ (failing error), moments, ih _ answered⟩

theorem Safely.attempt {caught : I.Error → Option ε}
    {post : List (TracedCall I σ) → Except I.Error (Except ε α) → σ → Prop}
    (safely : program.Safely handler moment
      (fun calls outcome => post calls (catchOutcome caught outcome)) state) :
    (program.attempt caught).Safely handler moment post state := by
  induction program generalizing post state with
  | ret outcome =>
      cases outcome with
      | ok value => exact safely
      | error error =>
          cases recognized : caught error <;>
            simpa [Program.attempt, Safely, catchOutcome, recognized] using safely
  | call request resume ih =>
      obtain ⟨failing, moments, answered⟩ := safely
      exact ⟨fun error => ih _ (failing error), moments, ih _ answered⟩

end Program

end CallTree
