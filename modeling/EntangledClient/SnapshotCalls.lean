import EntangledClient.Threads

/-!
# Calls that work on snapshots

A call that first reads a state and later replaces a part of it is not one step: other programs
run in between, and what it writes comes from its snapshot.  A machine takes such calls in two
steps, and any other call in one.  Where no snapshot is out of date, its runs are runs of whole
calls; programs that touch different parts of the state do not notice each other.
-/

namespace CallTree

/-- What one program does next: its call is answered, or fails without an effect. -/
inductive CallTurn (ι ε : Type)
  | answered (index : ι)
  | failed (index : ι) (error : ε)

def CallTurn.index {ι ε : Type} : CallTurn ι ε → ι
  | answered index | failed index _ => index

/-- The program and the error of a call that fails. -/
def CallTurn.failedCall {ι ε : Type} : CallTurn ι ε → Option (ι × ε)
  | .answered _ => none
  | .failed index error => some (index, error)

theorem CallTurn.mem_failedCalls {ι ε : Type} {turns : List (CallTurn ι ε)} {index : ι}
    {error : ε} :
    (index, error) ∈ turns.filterMap CallTurn.failedCall ↔ .failed index error ∈ turns := by
  rw [List.mem_filterMap]
  constructor
  · rintro ⟨turn, member, isFailed⟩
    cases turn with
    | answered other => cases isFailed
    | failed other found =>
        cases isFailed
        exact member
  · intro member
    exact ⟨_, member, rfl⟩

namespace Threads

variable {I : Interface} {ι σ α : Type} [DecidableEq ι]

/-- The programs where calls may also fail. -/
def turns (handler : ι → Handler I σ) : StateMachine (Threads I ι σ α) (CallTurn ι I.Error) where
  step threads turn :=
    match turn with
    | .answered index => (machine handler).step threads index
    | .failed index error =>
        match threads.programs index with
        | .ret _ => none
        | .call _ resume =>
            some { threads with
              programs := Function.update threads.programs index (resume (.error error)) }

/-- A turn of a program whose next call is this one. -/
def Moves (handler : ι → Handler I σ) (threads : Threads I ι σ α) (index : ι)
    (request : I.Call) (resume : I.Reply request → Program I α) (turn : CallTurn ι I.Error)
    (next : Threads I ι σ α) : Prop :=
  (turn = .answered index ∧ next = {
    state := (handler index request threads.state).2
    programs := Function.update threads.programs index
      (resume (handler index request threads.state).1) }) ∨
  ∃ error, turn = .failed index error ∧
    next = { threads with
      programs := Function.update threads.programs index (resume (.error error)) }

/-- What one turn does. -/
theorem moves_of_turn {handler : ι → Handler I σ} {threads next : Threads I ι σ α}
    {turn : CallTurn ι I.Error} (taken : (turns handler).step threads turn = some next) :
    ∃ index request resume, threads.programs index = .call request resume ∧
      Moves handler threads index request resume turn next := by
  cases turn with
  | answered index =>
      obtain ⟨request, resume, isProgram, isNext⟩ := step_eq_some.mp taken
      exact ⟨index, request, resume, isProgram, .inl ⟨rfl, isNext⟩⟩
  | failed index error =>
      simp only [turns] at taken
      cases isProgram : threads.programs index with
      | ret outcome => simp [isProgram] at taken
      | call request resume =>
          simp only [isProgram, Option.some.injEq] at taken
          exact ⟨index, request, resume, isProgram, .inr ⟨error, rfl, taken.symm⟩⟩

/-- A program whose calls are answered returns. -/
theorem turns_return (handler : ι → Handler I σ) (threads : Threads I ι σ α) (index : ι) :
    ∃ count last outcome,
      (turns handler).run threads (List.replicate count (.answered index)) = some last ∧
        last.programs index = .ret outcome := by
  generalize isProgram : threads.programs index = program
  induction program generalizing threads with
  | ret outcome => exact ⟨0, threads, outcome, rfl, isProgram⟩
  | call request resume ih =>
      have next : ∃ next, (turns handler).step threads (.answered index) = some next ∧
          next.programs index = resume (handler index request threads.state).1 :=
        ⟨_, step_eq_some.mpr ⟨request, resume, isProgram, rfl⟩, Function.update_self index _ _⟩
      obtain ⟨next, taken, isNext⟩ := next
      obtain ⟨count, last, outcome, ran, isReturned⟩ := ih _ next isNext
      exact ⟨count + 1, last, outcome, (StateMachine.run_cons_some _ taken _).trans ran, isReturned⟩

end Threads

/-- Calls that can be handled at once, or on a snapshot: `commit` puts what the call makes of the
snapshot into the state of that moment. -/
structure SplitHandler (I : Interface) (σ : Type) where
  handler : Handler I σ
  commit : (request : I.Call) → (snapshot current : σ) → σ
  commit_self : ∀ request state, commit request state state = (handler request state).2

/-- A shared state, what is left of each program, and the snapshot that its next call works on. -/
structure SnapshotThreads (I : Interface) (ι σ α : Type) where
  state : σ
  programs : ι → Program I α
  snapshots : ι → Option σ

/-- What becomes of the next call of a program. -/
inductive SnapshotStep (ι ε : Type)
  | handle (index : ι)
  | read (index : ι)
  | commit (index : ι)
  | fail (index : ι) (error : ε)

def SnapshotStep.index {ι ε : Type} : SnapshotStep ι ε → ι
  | handle index | read index | commit index | fail index _ => index

/-- The program and the error of a call that fails. -/
def SnapshotStep.failedCall {ι ε : Type} : SnapshotStep ι ε → Option (ι × ε)
  | .handle _ | .read _ | .commit _ => none
  | .fail index error => some (index, error)

namespace SnapshotThreads

/-- The turn in which a call is handled as a whole; a read is none. -/
def wholeTurn {ι ε : Type} : SnapshotStep ι ε → Option (CallTurn ι ε)
  | .handle index | .commit index => some (.answered index)
  | .read _ => none
  | .fail index error => some (.failed index error)

/-- The whole calls that fail are the calls that failed. -/
theorem failedCalls_whole {ι ε : Type} (events : List (SnapshotStep ι ε)) :
    (events.filterMap wholeTurn).filterMap CallTurn.failedCall =
      events.filterMap SnapshotStep.failedCall := by
  rw [List.filterMap_filterMap]
  refine congrArg (fun failedCall => events.filterMap failedCall) (funext fun event => ?_)
  cases event <;> rfl

variable {I : Interface} {ι σ α : Type} [DecidableEq ι]

/-- Programs before their first calls. -/
def start (state : σ) (programs : ι → Program I α) : SnapshotThreads I ι σ α where
  state
  programs
  snapshots _ := none

/-- The next call of a program was replied to. -/
def reply (threads : SnapshotThreads I ι σ α) (index : ι) (state : σ) (program : Program I α) :
    SnapshotThreads I ι σ α where
  state
  programs := Function.update threads.programs index program
  snapshots := Function.update threads.snapshots index none

def machine (split : SplitHandler I σ) :
    StateMachine (SnapshotThreads I ι σ α) (SnapshotStep ι I.Error) where
  step threads event :=
    match threads.programs event.index, threads.snapshots event.index, event with
    | .call request resume, none, .handle index =>
        let (reply, state) := split.handler request threads.state
        some (threads.reply index state (resume reply))
    | .call _ _, none, .read index =>
        some { threads with
          snapshots := Function.update threads.snapshots index (some threads.state) }
    | .call request resume, some snapshot, .commit index =>
        some (threads.reply index (split.commit request snapshot threads.state)
          (resume (split.handler request snapshot).1))
    | .call _ resume, _, .fail index error =>
        some (threads.reply index threads.state (resume (.error error)))
    | _, _, _ => none

/-- What one step does. -/
inductive Steps (split : SplitHandler I σ) (threads : SnapshotThreads I ι σ α) :
    SnapshotStep ι I.Error → SnapshotThreads I ι σ α → Prop
  | handle {index : ι} {request : I.Call} {resume : I.Reply request → Program I α}
      (isProgram : threads.programs index = .call request resume)
      (noSnapshot : threads.snapshots index = none) :
      Steps split threads (.handle index) (threads.reply index
        (split.handler request threads.state).2 (resume (split.handler request threads.state).1))
  | read {index : ι} {request : I.Call} {resume : I.Reply request → Program I α}
      (isProgram : threads.programs index = .call request resume)
      (noSnapshot : threads.snapshots index = none) :
      Steps split threads (.read index) { threads with
        snapshots := Function.update threads.snapshots index (some threads.state) }
  | commit {index : ι} {request : I.Call} {resume : I.Reply request → Program I α} {snapshot : σ}
      (isProgram : threads.programs index = .call request resume)
      (isSnapshot : threads.snapshots index = some snapshot) :
      Steps split threads (.commit index) (threads.reply index
        (split.commit request snapshot threads.state) (resume (split.handler request snapshot).1))
  | fail {index : ι} {request : I.Call} {resume : I.Reply request → Program I α}
      (isProgram : threads.programs index = .call request resume) (error : I.Error) :
      Steps split threads (.fail index error)
        (threads.reply index threads.state (resume (.error error)))

variable {split : SplitHandler I σ} {threads next : SnapshotThreads I ι σ α}
  {event : SnapshotStep ι I.Error}

theorem step_iff : (machine split).step threads event = some next ↔
    Steps split threads event next := by
  constructor
  · intro taken
    simp only [machine] at taken
    split at taken
    next request resume index isProgram noSnapshot =>
      cases taken
      exact .handle isProgram noSnapshot
    next request resume index isProgram noSnapshot =>
      cases taken
      exact .read isProgram noSnapshot
    next request resume snapshot index isProgram isSnapshot =>
      cases taken
      exact .commit isProgram isSnapshot
    next request resume index error isProgram =>
      cases taken
      exact .fail isProgram error
    next => cases taken
  · intro steps
    cases steps with
    | handle isProgram noSnapshot | read isProgram noSnapshot =>
        simp [machine, SnapshotStep.index, isProgram, noSnapshot]
    | commit isProgram isSnapshot => simp [machine, SnapshotStep.index, isProgram, isSnapshot]
    | fail isProgram error => simp [machine, SnapshotStep.index, isProgram]

theorem reply_programs_other {index other : ι} (different : other ≠ index) (state : σ)
    (program : Program I α) :
    (threads.reply index state program).programs other = threads.programs other := by
  simp [reply, different]

theorem reply_snapshots_other {index other : ι} (different : other ≠ index) (state : σ)
    (program : Program I α) :
    (threads.reply index state program).snapshots other = threads.snapshots other := by
  simp [reply, different]

@[simp]
theorem reply_programs_same (index : ι) (state : σ) (program : Program I α) :
    (threads.reply index state program).programs index = program := by
  simp [reply]

@[simp]
theorem reply_snapshots_same (index : ι) (state : σ) (program : Program I α) :
    (threads.reply index state program).snapshots index = none := by
  simp [reply]

/-! ### Runs of whole calls -/

/-- The programs without their snapshots. -/
def whole (threads : SnapshotThreads I ι σ α) : Threads I ι σ α where
  state := threads.state
  programs := threads.programs

/-- A call that commits does what it does on the state of that moment. -/
def Current (split : SplitHandler I σ) (threads : SnapshotThreads I ι σ α)
    (event : SnapshotStep ι I.Error) (_next : SnapshotThreads I ι σ α) : Prop :=
  ∀ index request resume snapshot, event = .commit index →
    threads.programs index = .call request resume →
    threads.snapshots index = some snapshot →
    (split.handler request snapshot).1 = (split.handler request threads.state).1 ∧
      split.commit request snapshot threads.state = (split.handler request threads.state).2

/-- A step without an outdated snapshot is a whole call, or changes nothing yet. -/
theorem Steps.whole (steps : Steps split threads event next)
    (current : Current split threads event next) :
    match wholeTurn event with
    | some turn =>
        (Threads.turns fun _ => split.handler).step threads.whole turn = some next.whole
    | none => next.whole = threads.whole := by
  cases steps with
  | handle isProgram noSnapshot =>
      simp only [wholeTurn, Threads.turns, Threads.machine, SnapshotThreads.whole, isProgram,
        reply]
  | read isProgram noSnapshot => rfl
  | commit isProgram isSnapshot =>
      obtain ⟨sameReply, sameState⟩ := current _ _ _ _ rfl isProgram isSnapshot
      simp only [wholeTurn, Threads.turns, Threads.machine, SnapshotThreads.whole, isProgram,
        reply, sameReply, sameState]
  | fail isProgram error =>
      simp only [wholeTurn, Threads.turns, SnapshotThreads.whole, isProgram, reply]

/-- Without outdated snapshots a run is a run of whole calls. -/
theorem run_whole {after : SnapshotThreads I ι σ α} {events : List (SnapshotStep ι I.Error)}
    (current : (machine split).Along (Current split) threads events)
    (ran : (machine split).run threads events = some after) :
    (Threads.turns fun _ => split.handler).run threads.whole (events.filterMap wholeTurn) =
      some after.whole := by
  induction events generalizing threads with
  | nil =>
      obtain rfl : threads = after := by simpa using ran
      rfl
  | cons event events ih =>
      obtain ⟨next, taken, rest⟩ := (machine split).run_cons_eq_some ran
      obtain ⟨isCurrent, currentRest⟩ := current next taken
      have stepped := (step_iff.mp taken).whole isCurrent
      cases isTurn : wholeTurn event with
      | none =>
          rw [isTurn] at stepped
          rw [List.filterMap_cons_none isTurn, ← stepped]
          exact ih currentRest rest
      | some turn =>
          rw [isTurn] at stepped
          rw [List.filterMap_cons_some isTurn, StateMachine.run_cons_some _ stepped]
          exact ih currentRest rest

/-! ### Programs that touch different parts -/

/-- The programs work on parts of the state: what a program calls depends on its own part only,
changes it alike in states that agree on it, and leaves the parts of the others alone. -/
structure Apart (split : SplitHandler I σ) (owns : ι → I.Call → Prop)
    (agree : ι → σ → σ → Prop) : Prop where
  refl : ∀ index state, agree index state state
  trans : ∀ index first second third,
    agree index first second → agree index second third → agree index first third
  replies : ∀ index request first second, owns index request → agree index first second →
    (split.handler request first).1 = (split.handler request second).1
  changes : ∀ index request snapshot current state, owns index request →
    agree index snapshot state → agree index current state →
    agree index (split.commit request snapshot current) (split.handler request state).2
  spares : ∀ index other request snapshot current, index ≠ other → owns other request →
    agree index (split.commit request snapshot current) current

/-- A program has come as far as it comes alone from the first state. -/
def Alone (split : SplitHandler I σ) (agree : ι → σ → σ → Prop) (index : ι)
    (initial : Program I α) (first : σ) (threads : SnapshotThreads I ι σ α) : Prop :=
  ∃ state, agree index threads.state state ∧
    (∀ snapshot ∈ threads.snapshots index, agree index snapshot state) ∧
    (threads.programs index).run split.handler state = initial.run split.handler first

variable {owns : ι → I.Call → Prop} {agree : ι → σ → σ → Prop}

theorem Steps.owned (steps : Steps split threads event next)
    (within : ∀ index, (threads.programs index).CallsWithin (owns index)) :
    ∀ index, (next.programs index).CallsWithin (owns index) := by
  intro other
  have replied : ∀ index request (resume : I.Reply request → Program I α),
      threads.programs index = .call request resume → ∀ state answer,
      ((threads.reply index state (resume answer)).programs other).CallsWithin (owns other) := by
    intro index request resume isProgram state answer
    by_cases same : other = index
    · subst same
      have isWithin := within other
      rw [isProgram] at isWithin
      rw [reply_programs_same]
      exact isWithin.2 answer
    · rw [reply_programs_other same]
      exact within other
  cases steps with
  | handle isProgram noSnapshot => exact replied _ _ _ isProgram _ _
  | read isProgram noSnapshot => exact within other
  | commit isProgram isSnapshot => exact replied _ _ _ isProgram _ _
  | fail isProgram error => exact replied _ _ _ isProgram _ _

/-- A step of another program is not noticed. -/
theorem Steps.alone_other (steps : Steps split threads event next) (apart : Apart split owns agree)
    (within : ∀ index, (threads.programs index).CallsWithin (owns index)) {index : ι}
    (other : index ≠ event.index) {initial : Program I α} {first : σ}
    (alone : Alone split agree index initial first threads) :
    Alone split agree index initial first next := by
  obtain ⟨state, agrees, snapshotsAgree, ran⟩ := alone
  have spared : ∀ request resume, threads.programs event.index = .call request resume →
      ∀ snapshot, agree index (split.commit request snapshot threads.state) state := by
    intro request resume isProgram snapshot
    have isWithin := within event.index
    rw [isProgram] at isWithin
    exact apart.trans _ _ _ _ (apart.spares _ _ _ _ _ other isWithin.1) agrees
  have unnoticed : ∀ next program, agree index next state →
      Alone split agree index initial first (threads.reply event.index next program) := by
    intro next program nextAgrees
    refine ⟨state, nextAgrees, ?_, ?_⟩
    · rwa [reply_snapshots_other other]
    · rwa [reply_programs_other other]
  cases steps with
  | handle isProgram noSnapshot =>
      have handled := spared _ _ isProgram threads.state
      rw [split.commit_self] at handled
      exact unnoticed _ _ handled
  | @read reader request resume isProgram noSnapshot =>
      have notReader : index ≠ reader := other
      refine ⟨state, agrees, ?_, ran⟩
      simpa only [Function.update_of_ne notReader] using snapshotsAgree
  | commit isProgram isSnapshot => exact unnoticed _ _ (spared _ _ isProgram _)
  | fail isProgram error => exact unnoticed _ _ agrees

/-- A step of the program itself, not failing, is one of those it takes alone. -/
theorem Steps.alone_self (steps : Steps split threads event next) (apart : Apart split owns agree)
    (within : ∀ index, (threads.programs index).CallsWithin (owns index))
    (answered : ∀ error, event ≠ .fail event.index error) {initial : Program I α} {first : σ}
    (alone : Alone split agree event.index initial first threads) :
    Alone split agree event.index initial first next := by
  obtain ⟨state, agrees, snapshotsAgree, ran⟩ := alone
  cases steps with
  | @handle index request resume isProgram noSnapshot =>
      have isWithin := within index
      simp only [SnapshotStep.index] at agrees snapshotsAgree ran ⊢
      rw [isProgram] at isWithin ran
      refine ⟨(split.handler request state).2, ?_, ?_, ?_⟩
      · have changed := apart.changes _ _ _ _ _ isWithin.1 agrees agrees
        rwa [split.commit_self] at changed
      · simp
      · rw [reply_programs_same, apart.replies _ _ _ _ isWithin.1 agrees]
        exact ran
  | @read index request resume isProgram noSnapshot =>
      refine ⟨state, agrees, ?_, ran⟩
      simpa [SnapshotStep.index] using agrees
  | @commit index request resume snapshot isProgram isSnapshot =>
      have isWithin := within index
      have snapshotAgrees := snapshotsAgree snapshot isSnapshot
      simp only [SnapshotStep.index] at agrees snapshotAgrees ran ⊢
      rw [isProgram] at isWithin ran
      refine ⟨(split.handler request state).2,
        apart.changes _ _ _ _ _ isWithin.1 snapshotAgrees agrees, ?_, ?_⟩
      · simp
      · rw [reply_programs_same, apart.replies _ _ _ _ isWithin.1 snapshotAgrees]
        exact ran
  | fail isProgram error => exact absurd rfl (answered error)

/-- Whatever the others do, a program whose calls do not fail does what it does alone. -/
theorem run_alone (apart : Apart split owns agree)
    (within : ∀ index, (threads.programs index).CallsWithin (owns index)) {index : ι}
    {initial : Program I α} {first : σ} (alone : Alone split agree index initial first threads)
    {events : List (SnapshotStep ι I.Error)} (answered : ∀ error, .fail index error ∉ events)
    {after : SnapshotThreads I ι σ α}
    (ran : (machine split).run threads events = some after) :
    Alone split agree index initial first after := by
  induction events generalizing threads with
  | nil =>
      obtain rfl : threads = after := by simpa using ran
      exact alone
  | cons event events ih =>
      obtain ⟨next, taken, rest⟩ := (machine split).run_cons_eq_some ran
      have steps := step_iff.mp taken
      refine ih (steps.owned within) ?_ (fun error member =>
        answered error (List.mem_cons_of_mem _ member)) rest
      by_cases same : index = event.index
      · subst same
        refine steps.alone_self apart within (fun error isFail => ?_) alone
        exact answered error (isFail ▸ List.mem_cons_self)
      · exact steps.alone_other apart within same alone

end SnapshotThreads

end CallTree
