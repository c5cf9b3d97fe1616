import EntangledClient.SnapshotCalls

/-!
# Calls that rely on their replies

A program may only make calls of its guarantee as long as it is answered as it relies on.  If the
calls of each guarantee keep a state good, and a good state answers as is relied on, then programs
that share the state keep it good: in every order of their calls, on whatever snapshots they
work, and whatever calls fail.
-/

namespace CallTree

namespace Program

variable {I : Interface} {α β ε : Type} {rely : (request : I.Call) → I.Reply request → Prop}
  {guarantee : I.Call → Prop}

/-- As long as the replies are relied on, each call is guaranteed and the outcome satisfies
`post`. -/
def Meets (rely : (request : I.Call) → I.Reply request → Prop) (guarantee : I.Call → Prop)
    (post : Except I.Error α → Prop) : Program I α → Prop
  | .ret outcome => post outcome
  | .call request resume =>
      guarantee request ∧ ∀ reply, rely request reply → (resume reply).Meets rely guarantee post

theorem Meets.bind {program : Program I α} {next : α → Program I β}
    {post : Except I.Error β → Prop}
    (first : program.Meets rely guarantee fun outcome =>
      match outcome with
      | .ok value => (next value).Meets rely guarantee post
      | .error error => post (.error error)) :
    (program >>= next).Meets rely guarantee post := by
  change (program.bind next).Meets rely guarantee post
  induction program with
  | ret outcome => cases outcome <;> exact first
  | call request resume ih =>
      exact ⟨first.1, fun reply relied => ih reply (first.2 reply relied)⟩

theorem Meets.attempt {caught : I.Error → Option ε} {program : Program I α}
    {post : Except I.Error (Except ε α) → Prop}
    (first : program.Meets rely guarantee fun outcome => post (catchOutcome caught outcome)) :
    (program.attempt caught).Meets rely guarantee post := by
  induction program with
  | ret outcome =>
      cases outcome with
      | ok value => exact first
      | error error =>
          cases recognized : caught error <;>
            simpa [Program.attempt, Meets, catchOutcome, recognized] using first
  | call request resume ih =>
      exact ⟨first.1, fun reply relied => ih reply (first.2 reply relied)⟩

theorem Meets.mono {first second : Except I.Error α → Prop} {program : Program I α}
    (meets : program.Meets rely guarantee first)
    (weaker : ∀ outcome, first outcome → second outcome) :
    program.Meets rely guarantee second := by
  induction program with
  | ret outcome => exact weaker outcome meets
  | call request resume ih =>
      exact ⟨meets.1, fun reply relied => ih reply (meets.2 reply relied)⟩

/-- What a program concludes whatever the replies, it concludes of those it relies on. -/
theorem Concludes.meets {post : Except I.Error α → Prop} {program : Program I α}
    (concludes : program.Concludes post) : program.Meets rely (fun _ => True) post := by
  induction program with
  | ret outcome => exact concludes
  | call request resume ih => exact ⟨trivial, fun reply _ => ih reply (concludes reply)⟩

/-- What a program gives that relies on nothing, it concludes. -/
theorem Meets.concludes {post : Except I.Error α → Prop} {program : Program I α}
    (meets : program.Meets rely guarantee post) (relied : ∀ request reply, rely request reply) :
    program.Concludes post := by
  induction program with
  | ret outcome => exact meets
  | call request resume ih => exact fun reply => ih reply (meets.2 reply (relied request reply))

/-- The calls of a run, each with its reply. -/
def exchanges {σ : Type} (handler : Handler I σ) :
    Program I α → σ → List (Σ request : I.Call, I.Reply request)
  | .ret _, _ => []
  | .call request resume, state =>
      let (reply, next) := handler request state
      ⟨request, reply⟩ :: (resume reply).exchanges handler next

/-- A reply that a call gets in the run of a program. -/
def Answers {σ : Type} (program : Program I α) (handler : Handler I σ) (state : σ)
    (request : I.Call) (reply : I.Reply request) : Prop :=
  ⟨request, reply⟩ ∈ program.exchanges handler state

/-- A run may rely on the replies that it gets. -/
theorem Meets.run_outcome {σ : Type} {post : Except I.Error α → Prop} {program : Program I α}
    (meets : program.Meets rely guarantee post) (handler : Handler I σ) (state : σ)
    (relied : ∀ request reply, program.Answers handler state request reply →
      rely request reply) : post (program.run handler state).1 := by
  induction program generalizing state with
  | ret outcome => exact meets
  | call request resume ih =>
      refine ih _ (meets.2 _ (relied _ _ List.mem_cons_self)) _ fun other reply answered => ?_
      exact relied other reply (List.mem_cons_of_mem _ answered)

/-- A guarantee of all calls asks nothing of a program. -/
theorem meets_everything (program : Program I α) :
    program.Meets rely (fun _ => True) fun _ => True := by
  induction program with
  | ret outcome => trivial
  | call request resume ih => exact ⟨trivial, fun reply _ => ih reply⟩

/-- What the rest of a sequence gives of its result, the sequence does. -/
theorem Meets.bind_ok {program : Program I α} {next : α → Program I β} {post : β → Prop}
    (rest : ∀ value, (next value).Meets rely (fun _ => True) fun outcome =>
      ∀ result, outcome = .ok result → post result) :
    (program >>= next).Meets rely (fun _ => True) fun outcome =>
      ∀ result, outcome = .ok result → post result := by
  refine .bind ((meets_everything program).mono ?_)
  rintro (error | value) -
  · rintro result ⟨⟩
  · exact rest value

/-- A program that relies on nothing makes only guaranteed calls. -/
theorem Meets.callsWithin {post : Except I.Error α → Prop} {program : Program I α}
    (meets : program.Meets rely guarantee post) (relied : ∀ request reply, rely request reply) :
    program.CallsWithin guarantee := by
  induction program with
  | ret outcome => trivial
  | call request resume ih =>
      exact ⟨meets.1, fun reply => ih reply (meets.2 reply (relied request reply))⟩

end Program

/-- The calls of a guarantee keep a state good, and a good state answers as is relied on; so does
a failure. -/
structure SplitHandler.Keeps {I : Interface} {σ : Type} (split : SplitHandler I σ)
    (rely : (request : I.Call) → I.Reply request → Prop) (guarantee : I.Call → Prop)
    (good : σ → Prop) : Prop where
  failures : ∀ request error, rely request (.error error)
  replies : ∀ request state, guarantee request → good state →
    rely request (split.handler request state).1
  commits : ∀ request snapshot current, guarantee request → good snapshot → good current →
    good (split.commit request snapshot current)

namespace SnapshotThreads

variable {I : Interface} {ι σ α : Type} {split : SplitHandler I σ}
  {rely : (request : I.Call) → I.Reply request → Prop} {guarantee : ι → I.Call → Prop}
  {good : σ → Prop}

/-- The shared state and all snapshots are good, and every program goes on as it guarantees. -/
structure Good (rely : (request : I.Call) → I.Reply request → Prop)
    (guarantee : ι → I.Call → Prop) (good : σ → Prop) (threads : SnapshotThreads I ι σ α) :
    Prop where
  state : good threads.state
  snapshots : ∀ index, ∀ snapshot ∈ threads.snapshots index, good snapshot
  programs : ∀ index, (threads.programs index).Meets rely (guarantee index) fun _ => True

theorem Good.start {state : σ} {programs : ι → Program I α} (isGood : good state)
    (meets : ∀ index, (programs index).Meets rely (guarantee index) fun _ => True) :
    Good rely guarantee good (.start state programs) where
  state := isGood
  snapshots _ _ member := by cases member
  programs := meets

variable {threads next : SnapshotThreads I ι σ α}

theorem Good.guaranteed (good_ : Good rely guarantee good threads) {index : ι}
    {request : I.Call} {resume : I.Reply request → Program I α}
    (isProgram : threads.programs index = .call request resume) : guarantee index request := by
  have meets := good_.programs index
  rw [isProgram] at meets
  exact meets.1

variable [DecidableEq ι]

theorem Good.reply (good_ : Good rely guarantee good threads) {index : ι} {state : σ}
    (isGood : good state) {request : I.Call} {resume : I.Reply request → Program I α}
    (isProgram : threads.programs index = .call request resume) {answer : I.Reply request}
    (relied : rely request answer) :
    Good rely guarantee good (threads.reply index state (resume answer)) where
  state := isGood
  snapshots := by
    intro other snapshot member
    by_cases same : other = index
    · subst same
      rw [reply_snapshots_same] at member
      cases member
    · rw [reply_snapshots_other same] at member
      exact good_.snapshots other snapshot member
  programs := by
    intro other
    by_cases same : other = index
    · subst same
      have meets := good_.programs other
      rw [isProgram] at meets
      rw [reply_programs_same]
      exact meets.2 answer relied
    · rw [reply_programs_other same]
      exact good_.programs other

theorem Good.step (keeps : ∀ index, split.Keeps rely (guarantee index) good)
    (good_ : Good rely guarantee good threads) {event : SnapshotStep ι I.Error}
    (steps : Steps split threads event next) : Good rely guarantee good next := by
  cases steps with
  | @handle index request resume isProgram noSnapshot =>
      have guaranteed := good_.guaranteed isProgram
      have handled := (keeps index).commits _ _ _ guaranteed good_.state good_.state
      rw [split.commit_self] at handled
      exact good_.reply handled isProgram ((keeps index).replies _ _ guaranteed good_.state)
  | @read index request resume isProgram noSnapshot =>
      refine ⟨good_.state, fun other snapshot member => ?_, good_.programs⟩
      by_cases same : other = index
      · subst same
        obtain rfl : threads.state = snapshot := by simpa using member
        exact good_.state
      · simp only [Function.update_of_ne same] at member
        exact good_.snapshots other snapshot member
  | @commit index request resume snapshot isProgram isSnapshot =>
      have guaranteed := good_.guaranteed isProgram
      have isGood := good_.snapshots index snapshot isSnapshot
      exact good_.reply ((keeps index).commits _ _ _ guaranteed isGood good_.state) isProgram
        ((keeps index).replies _ _ guaranteed isGood)
  | @fail index request resume isProgram error =>
      exact good_.reply good_.state isProgram ((keeps index).failures _ error)

/-- In every run the shared state is good throughout. -/
theorem Good.run (keeps : ∀ index, split.Keeps rely (guarantee index) good)
    (good_ : Good rely guarantee good threads) {events : List (SnapshotStep ι I.Error)}
    (ran : (machine split).run threads events = some next) :
    Good rely guarantee good next :=
  (machine split).invariant_run (Good rely guarantee good)
    (fun _ _ _ holds taken => holds.step keeps (step_iff.mp taken)) good_ ran

end SnapshotThreads

end CallTree
