import EntangledClient.FaultyRuns

/-!
# Programs carried out by programs

A call of a program may itself be carried out by a program over a lower interface.  If each
call, whatever faults its lower calls meet, does what it does under one fault of its own,
then a run of the whole under faults of the lower calls is a run of the program under faults
of its own calls.
-/

namespace CallTree

namespace Program

variable {I J : Interface} {α β γ ε σ τ : Type}

theorem bind_pure (program : Program I α) : (program >>= pure) = program := by
  change program.bind (fun value => .ret (.ok value)) = program
  induction program with
  | ret outcome => cases outcome <;> rfl
  | call request resume ih => exact congrArg (call request) (funext ih)

theorem bind_assoc (program : Program I α) (next : α → Program I β) (last : β → Program I γ) :
    (program >>= next >>= last) = program >>= fun value => next value >>= last := by
  change (program.bind next).bind last = program.bind fun value => (next value).bind last
  induction program with
  | ret outcome => cases outcome <;> rfl
  | call request resume ih => exact congrArg (call request) (funext ih)

/-- Rests that agree on what the first program can return. -/
theorem bind_congr {program : Program I α} {first second : α → Program I β}
    (agree : program.Concludes fun outcome =>
      ∀ value, outcome = .ok value → first value = second value) :
    (program >>= first) = program >>= second := by
  change program.bind first = program.bind second
  induction program with
  | ret outcome =>
      cases outcome with
      | ok value => exact agree value rfl
      | error error => rfl
  | call request resume ih =>
      exact congrArg (call request) (funext fun reply => ih reply (agree reply))

/-- Carry out each call by a program over a lower interface, whose error becomes the reply
of the call. -/
def carriedOut (method : (request : I.Call) → Program J (I.Result request))
    (convert : J.Error → I.Error) : Program I α → Program J (Except I.Error α)
  | .ret outcome => .ret (.ok outcome)
  | .call request resume =>
      (method request).attempt (fun error => some (convert error)) >>= fun reply =>
        (resume reply).carriedOut method convert

theorem concludes_true (program : Program I α) : program.Concludes fun _ => True := by
  induction program with
  | ret outcome => exact trivial
  | call request resume ih => exact ih

/-- What a program concludes whatever the replies, it concludes when it is carried out. -/
theorem Concludes.carriedOut {method : (request : I.Call) → Program J (I.Result request)}
    {convert : J.Error → I.Error} {post : Except I.Error α → Prop} {program : Program I α}
    (concludes : program.Concludes post) :
    (program.carriedOut method convert).Concludes fun outcome =>
      ∃ result, outcome = .ok result ∧ post result := by
  induction program with
  | ret outcome => exact ⟨outcome, rfl, concludes⟩
  | call request resume ih =>
      refine Always.bind (.attempt ((concludes_true (method request)).mono ?_))
      rintro _ (error | value) -
      · exact ih _ (concludes _)
      · exact ih _ (concludes _)

/-- A sequence under faults: its first program runs, and then its rest under what is left of
the faults. -/
theorem runFaulty_bind (handler : Handler I σ) (program : Program I α)
    (next : α → Program I β) (faults : List (Fault I.Error)) (state : σ) :
    ∃ rest, (program >>= next).runFaulty handler faults state =
      match program.runFaulty handler faults state with
      | (some (.ok value), after) => (next value).runFaulty handler rest after
      | (some (.error error), after) => (some (.error error), after)
      | (none, after) => (none, after) := by
  change ∃ rest, (program.bind next).runFaulty handler faults state = _
  induction program generalizing faults state with
  | ret outcome =>
      cases outcome with
      | ok value => exact ⟨faults, rfl⟩
      | error error => exact ⟨faults, rfl⟩
  | call request resume ih =>
      simp only [Program.bind, runFaulty]
      cases handler.answer (faults.headD .proceed) request state with
      | mk reply after =>
          cases reply with
          | none => exact ⟨faults, rfl⟩
          | some reply => exact ih reply faults.tail after

/-- Catching errors does not change which calls are made. -/
theorem runFaulty_attempt (handler : Handler I σ) (caught : I.Error → Option ε)
    (program : Program I α) (faults : List (Fault I.Error)) (state : σ) :
    (program.attempt caught).runFaulty handler faults state =
      ((program.runFaulty handler faults state).1.map (catchOutcome caught),
        (program.runFaulty handler faults state).2) := by
  induction program generalizing faults state with
  | ret outcome =>
      cases outcome with
      | ok value => rfl
      | error error =>
          cases recognized : caught error <;>
            simp [attempt, runFaulty, catchOutcome, recognized]
  | call request resume ih =>
      simp only [attempt, runFaulty]
      cases handler.answer (faults.headD .proceed) request state with
      | mk reply after =>
          cases reply with
          | none => rfl
          | some reply => exact ih reply faults.tail after

/-- A program that is stopped at once changes nothing. -/
theorem runFaulty_stop (handler : Handler I σ) (program : Program I α) (state : σ) :
    (program.runFaulty handler [.stop] state).2 = state := by
  cases program with
  | ret outcome => rfl
  | call request resume => rfl

/-- A run without faults. -/
theorem runFaulty_nil (handler : Handler I σ) (program : Program I α) (state : σ) :
    program.runFaulty handler [] state =
      (some (program.run handler state).1, (program.run handler state).2) := by
  induction program generalizing state with
  | ret outcome => rfl
  | call request resume ih => exact ih _ _

/-! ### Programs with one change, at the end -/

/-- An error ends the program at once, and a call that changes the state is its last one. -/
def Straight (changes : I.Call → Prop) : Program I α → Prop
  | .ret _ => True
  | .call request resume =>
      (∀ error, ∃ failure, resume (.error error) = .ret (.error failure)) ∧
      (∀ value, (resume (.ok value)).Straight changes) ∧
      (changes request → ∀ value, ∃ outcome, resume (.ok value) = .ret outcome)

variable {changes : I.Call → Prop} {program : Program I α}

theorem Straight.perform (request : I.Call) : (perform request).Straight changes :=
  ⟨fun error => ⟨error, rfl⟩, fun _ => trivial, fun _ value => ⟨.ok value, rfl⟩⟩

/-- A program that changes nothing may come before another one. -/
theorem Straight.bind {next : α → Program I β} (first : program.Straight changes)
    (changesNothing : program.CallsWithin (¬ changes ·))
    (rest : ∀ value, (next value).Straight changes) : (program >>= next).Straight changes := by
  change (program.bind next).Straight changes
  induction program with
  | ret outcome =>
      cases outcome with
      | ok value => exact rest value
      | error error => trivial
  | call request resume ih =>
      obtain ⟨ends, answered, _⟩ := first
      refine ⟨fun error => ?_, fun value => ih _ (answered value) (changesNothing.2 _), ?_⟩
      · obtain ⟨failure, isEnd⟩ := ends error
        exact ⟨failure, congrArg (·.bind next) isEnd⟩
      · exact fun isChange => absurd isChange changesNothing.1

/-- Under faults such a program either runs as without them, or it fails or stops and what
only its last call can change is as before. -/
theorem Straight.runFaulty {handler : Handler I σ} {look : σ → γ}
    (straight : program.Straight changes)
    (unchanged : ∀ request state, ¬ changes request →
      look (handler request state).2 = look state)
    (faults : List (Fault I.Error)) (state : σ) :
    program.runFaulty handler faults state =
        (some (program.run handler state).1, (program.run handler state).2) ∨
      (look (program.runFaulty handler faults state).2 = look state ∧
        ∀ outcome, (program.runFaulty handler faults state).1 = some outcome →
          ∃ failure, outcome = .error failure) := by
  induction program generalizing faults state with
  | ret outcome => exact .inl rfl
  | call request resume ih =>
      obtain ⟨ends, answered, last⟩ := straight
      simp only [Program.runFaulty, Program.run]
      cases faults.headD .proceed with
      | stop =>
          refine .inr ⟨rfl, ?_⟩
          rintro outcome ⟨⟩
      | fail error =>
          obtain ⟨failure, isEnd⟩ := ends error
          simp only [Handler.answer, isEnd]
          refine .inr ⟨rfl, ?_⟩
          rintro outcome ⟨⟩
          exact ⟨failure, rfl⟩
      | proceed =>
          simp only [Handler.answer]
          cases reply : (handler request state).1 with
          | error error =>
              obtain ⟨failure, isEnd⟩ := ends error
              simp only [isEnd]
              exact .inl rfl
          | ok value =>
              by_cases isChange : changes request
              · obtain ⟨outcome, isEnd⟩ := last isChange value
                simp only [isEnd]
                exact .inl rfl
              · rw [← unchanged request state isChange]
                exact ih (.ok value) (answered value) faults.tail _

end Program

open Program

variable {I J : Interface} {α σ τ : Type}

/-- From a state that satisfies `start`, the call leads to `after` under some fault, and is
answered by the outcome of its lower calls. -/
def Handler.Answers (upper : Handler I σ) (start : σ → Prop) (convert : J.Error → I.Error)
    (request : I.Call) (outcome : Option (Except J.Error (I.Result request))) (after : σ) : Prop :=
  ∃ before fault, start before ∧ (upper.answer fault request before).2 = after ∧
    ∀ result, outcome = some result →
      (upper.answer fault request before).1 = some (result.mapError convert)

/-- The calls of `upper` carried out on `lower`.  Which upper state a lower one stands for
may be settled only by what the lower calls do, such as which random bytes they draw, so
each call is followed back from the state after it. -/
structure Layer (upper : Handler I σ) (lower : Handler J τ)
    (method : (request : I.Call) → Program J (I.Result request)) (convert : J.Error → I.Error)
    (invariant : τ → Prop) (related : σ → τ → Prop) : Prop where
  keeps : ∀ request faults state, invariant state →
    invariant ((method request).runFaulty lower faults state).2
  answers : ∀ request faults state after, invariant state →
    related after ((method request).runFaulty lower faults state).2 →
      upper.Answers (fun before => related before state) convert request
        ((method request).runFaulty lower faults state).1 after

theorem catchOutcome_some (convert : J.Error → I.Error) (outcome : Except J.Error α) :
    catchOutcome (fun error => some (convert error)) outcome =
      .ok (outcome.mapError convert) := by
  cases outcome <;> rfl

/-- A program carried out on the lower layer, under any faults of the lower calls, does what
the program does under some faults of its own calls, and returns what it returns. -/
theorem Layer.runFaulty {upper : Handler I σ} {lower : Handler J τ}
    {method : (request : I.Call) → Program J (I.Result request)} {convert : J.Error → I.Error}
    {invariant : τ → Prop} {related : σ → τ → Prop}
    (layer : Layer upper lower method convert invariant related) (program : Program I α)
    (faults : List (Fault J.Error)) {state : τ} (holds : invariant state) :
    invariant ((program.carriedOut method convert).runFaulty lower faults state).2 ∧
      ∀ after,
        related after ((program.carriedOut method convert).runFaulty lower faults state).2 →
        ∃ before upperFaults, related before state ∧
          (program.runFaulty upper upperFaults before).2 = after ∧
          ∀ outcome,
            ((program.carriedOut method convert).runFaulty lower faults state).1 =
              some outcome →
            ∃ result, outcome = .ok result ∧
              (program.runFaulty upper upperFaults before).1 = some result := by
  induction program generalizing faults state with
  | ret result =>
      refine ⟨holds, fun after isRelated => ⟨after, [], isRelated, rfl, ?_⟩⟩
      rintro outcome ⟨⟩
      exact ⟨result, rfl, rfl⟩
  | call request resume ih =>
      have kept := layer.keeps request faults state holds
      have answered := layer.answers request faults state
      obtain ⟨rest, isRun⟩ := runFaulty_bind lower
        ((method request).attempt fun error => some (convert error))
        (fun reply => (resume reply).carriedOut method convert) faults state
      simp only [carriedOut]
      rw [isRun, runFaulty_attempt]
      cases ran : (method request).runFaulty lower faults state with
      | mk outcome middle =>
          rw [ran] at kept answered
          cases outcome with
          | none =>
              refine ⟨kept, fun after isRelated => ?_⟩
              obtain ⟨before, fault, start, isAfter, -⟩ := answered after holds isRelated
              refine ⟨before, [fault, .stop], start, ?_, fun outcome returned => ?_⟩
              · simp only [Program.runFaulty, List.headD_cons, List.tail_cons]
                cases isAnswer : upper.answer fault request before with
                | mk reply next =>
                    rw [isAnswer] at isAfter
                    cases reply with
                    | none => exact isAfter
                    | some reply => exact (runFaulty_stop upper _ next).trans isAfter
              · cases returned
          | some outcome =>
              simp only [Option.map_some, catchOutcome_some]
              obtain ⟨keptAfter, runsAfter⟩ := ih (outcome.mapError convert) rest kept
              refine ⟨keptAfter, fun after isRelated => ?_⟩
              obtain ⟨between, upperFaults, isBetween, isAfter, returns⟩ :=
                runsAfter after isRelated
              obtain ⟨before, fault, start, isNext, replies⟩ := answered between holds isBetween
              have isAnswer : upper.answer fault request before =
                  (some (outcome.mapError convert), between) :=
                Prod.ext (replies outcome rfl) isNext
              refine ⟨before, fault :: upperFaults, start, ?_, fun result returned => ?_⟩
              · simp only [Program.runFaulty, List.headD_cons, List.tail_cons, isAnswer]
                exact isAfter
              · simp only [Program.runFaulty, List.headD_cons, List.tail_cons, isAnswer]
                exact returns result returned

end CallTree
