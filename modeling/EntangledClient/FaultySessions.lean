import EntangledClient.InterleavedSessions

/-!
# Sessions whose store calls may fail

Sessions run one after the other, and each store call may fail or be the point at
which the process stops; nothing is rolled back.  Between two steps a session is
about to load, to apply an intent, or to append the record of one it has applied.
-/

namespace EntangledClient

open CallTree

variable {T : CoreTypes} {σ : Type}

namespace Phase

/-- The next call is the append of a persist. -/
def appending (phase : Phase T) : Bool :=
  match phase.pending with
  | some ⟨.appendRecord _ _, _⟩ => true
  | _ => false

/-- The document and the intent that the phase persists. -/
def persists : Phase T → Option (Loaded T × PersistenceIntent)
  | .opening loaded _ => some (loaded, loaded.initialIntent)
  | .deciding app decision _ =>
      some (app.loaded, (resolve app.loaded.publisher app.loaded.retained decision).intent)
  | _ => none

end Phase

/-- A shell that runs one session at a time. -/
structure SoloShell (σ : Type) (T : CoreTypes) where
  store : σ
  /-- The store when the last persist was over. -/
  saved : σ
  phase : Phase T

inductive SoloEvent
  | start (request : BuildRequest)
  | call (fault : Fault Failure)
  | decide (decision : UserDecision)
  | close

namespace SoloShell

variable (core : Core T) (handler : Handler storeInterface σ)

def fresh (store : σ) : SoloShell σ T where
  store
  saved := store
  phase := .closed

def enter (shell : SoloShell σ T) (store : σ) (phase : Phase T) : SoloShell σ T where
  store
  saved := if phase.appending then shell.saved else store
  phase

/-- Sessions one after the other; a stop leaves the store as it is by then. -/
def machine : StateMachine (SoloShell σ T) SoloEvent where
  step shell
    | .start request =>
        match shell.phase with
        | .closed =>
            some (shell.enter shell.store ((Phase.building (build core request)).settle core))
        | _ => none
    | .call fault =>
        match shell.phase.pending with
        | none => none
        | some ⟨request, resume⟩ =>
            match Handler.answer (I := storeInterface) handler fault request shell.store with
            | (some reply, store) => some (shell.enter store ((resume reply).settle core))
            | (none, store) => some (shell.enter store .closed)
    | .decide decision =>
        match shell.phase with
        | .waiting app =>
            some (shell.enter shell.store
              ((Phase.deciding app decision (app.applyAndPersist core decision)).settle core))
        | _ => none
    | .close =>
        match shell.phase with
        | .waiting _ => some (shell.enter shell.store .closed)
        | _ => none

end SoloShell

/-! ### Where a session stands -/

namespace Loaded

/-- Nothing is written any more, and the window keeps the record. -/
def Reloads (loaded : Loaded T) (program : StoreProgram (App T)) : Prop :=
  program.CallsWithin StoreCall.IsLoad ∧
    program.Concludes fun outcome =>
      ∀ app, outcome = .ok app → app.loaded.record = loaded.record

/-- The record is appended next. -/
def AwaitsAppend (loaded : Loaded T) (intent : PersistenceIntent)
    (program : StoreProgram (App T)) : Prop :=
  ∃ publisher record resume, program = .call (.appendRecord publisher record) resume ∧
    intent.publisher = some publisher ∧ loaded.record = some record ∧
    ∀ reply, loaded.Reloads (resume reply)

/-- The intent is applied next, and then the record appended unless there is
nothing to persist or the apply fails. -/
def AwaitsApply (loaded : Loaded T) (intent : PersistenceIntent)
    (program : StoreProgram (App T)) : Prop :=
  ∃ resume, program = .call (.apply loaded.site intent) resume ∧
    (∀ error, loaded.Reloads (resume (.error error))) ∧
    ((intent = .none ∧ loaded.Reloads (resume (.ok ()))) ∨
      loaded.AwaitsAppend intent (resume (.ok ())))

end Loaded

variable {core : Core T}

namespace App

theorem persist_awaits (app : App T) (intent : PersistenceIntent)
    (recorded : app.loaded.record.isSome) {next : StoreProgram (App T)}
    (reloads : app.loaded.Reloads next) :
    app.loaded.AwaitsApply intent (catchErr (app.persist intent) >>= fun _ => next) := by
  obtain ⟨record, isRecord⟩ := Option.isSome_iff_exists.mp recorded
  have panicked : ∀ message, app.loaded.Reloads (.ret (.error (.panic message))) :=
    fun message => ⟨trivial, fun _ impossible => by cases impossible⟩
  refine ⟨_, rfl, ?_, ?_⟩
  · rintro (error | message)
    · exact reloads
    · exact panicked message
  · cases target : intent.publisher with
    | none =>
        refine .inl ⟨PersistenceIntent.publisher_eq_none.mp target, ?_⟩
        exact reloads
    | some publisher =>
        refine .inr ⟨publisher, record,
          fun reply => catchErr (.ret reply : StoreProgram Unit) >>= fun _ => next, ?_, target,
          isRecord, ?_⟩
        · simp only [isRecord]
          rfl
        · rintro ((error | message) | appended)
          · exact reloads
          · exact panicked message
          · exact reloads

theorem reloadRetained_reloads (app : App T) : app.loaded.Reloads app.reloadRetained := by
  refine ⟨.bind (.attempt (.perform trivial)) fun reply => by cases reply <;> exact .pure _, ?_⟩
  rintro ((error | message) | retained) _ ⟨⟩
  · rfl
  · rfl

theorem new_awaits {loaded : Loaded T} (recorded : loaded.record.isSome) :
    loaded.AwaitsApply loaded.initialIntent (new core loaded) := by
  have shown : (opened core loaded).loaded = loaded := opened_loaded loaded
  have awaits := (opened core loaded).persist_awaits loaded.initialIntent
    (by rwa [shown]) (reloadRetained_reloads _)
  rwa [shown] at awaits

theorem applyAndPersist_awaits {app : App T} (recorded : app.loaded.record.isSome)
    (decision : UserDecision) :
    app.loaded.AwaitsApply (resolve app.loaded.publisher app.loaded.retained decision).intent
      (app.applyAndPersist core decision) := by
  have reloads : (app.decided core decision).loaded.Reloads (do
      let app ← (app.decided core decision).reloadRetained
      return app.closePrompts) := by
    obtain ⟨calls, concludes⟩ := reloadRetained_reloads (app.decided core decision)
    refine ⟨.bind calls fun _ => .pure _, .bind (concludes.mono ?_)⟩
    rintro _ (error | after) kept
    · rintro _ ⟨⟩
    · rintro _ ⟨⟩
      exact kept after rfl
  exact (app.decided core decision).persist_awaits _ recorded reloads

end App

theorem build_recorded (validates : core.CanaryValidatesIssuedAt) (request : BuildRequest) :
    (build core request).Concludes fun outcome =>
      ∀ loaded, outcome = .ok (.ok loaded) → loaded.record.isSome := by
  refine Program.Always.concludes ((build_loadedFrom request none).mono ?_)
  intro read outcome from_ loaded built
  obtain ⟨manifest, _, _, -, -, loadedFrom⟩ := from_ loaded built
  obtain ⟨state, passed⟩ := loadedFrom.canary
  rw [loadedFrom.record]
  exact Core.recordFor_isSome (validates manifest buildClock.now state passed)

/-- A wrapping of the program of a window: the phase that opens it, or a decision. -/
inductive Runs : Loaded T → PersistenceIntent → (StoreProgram (App T) → Phase T) → Prop
  | opening (loaded : Loaded T) : Runs loaded loaded.initialIntent (Phase.opening loaded)
  | deciding (app : App T) (decision : UserDecision) :
      Runs app.loaded (resolve app.loaded.publisher app.loaded.retained decision).intent
        (Phase.deciding app decision)

namespace Runs

variable {loaded : Loaded T} {intent : PersistenceIntent}
  {wrap : StoreProgram (App T) → Phase T} (runs : Runs loaded intent wrap)
include runs

theorem persists (program : StoreProgram (App T)) :
    (wrap program).persists = some (loaded, intent) := by
  cases runs <;> rfl

theorem pending (request : StoreCall)
    (resume : storeInterface.Reply request → StoreProgram (App T)) :
    (wrap (.call request resume)).pending =
      some ⟨request, fun reply => wrap (resume reply)⟩ := by
  cases runs <;> rfl

theorem settle_call (request : StoreCall)
    (resume : storeInterface.Reply request → StoreProgram (App T)) :
    (wrap (.call request resume)).settle core = wrap (.call request resume) := by
  cases runs <;> rfl

theorem settle_ok (app : App T) : (wrap (.ret (.ok app))).settle core = .waiting app := by
  cases runs <;> rfl

theorem settle_error (failure : Failure) :
    (wrap (.ret (.error failure))).settle core = .closed := by
  cases runs <;> rfl

end Runs

/-- Where a shell can stand: what it runs, and what its stores hold. -/
inductive Stage : Phase T → StoreView → StoreView → Prop
  | closed (store : StoreView) : Stage .closed store store
  | waiting (store : StoreView) {app : App T} (recorded : app.loaded.record.isSome) :
      Stage (.waiting app) store store
  | building (store : StoreView) {program : StoreProgram (Except String (Loaded T))}
      (calls : program.CallsWithin StoreCall.IsLoad)
      (concludes : program.Concludes fun outcome =>
        ∀ loaded, outcome = .ok (.ok loaded) → loaded.record.isSome) :
      Stage (.building program) store store
  | applying (store : StoreView) {loaded : Loaded T} {intent : PersistenceIntent}
      {wrap : StoreProgram (App T) → Phase T} {program : StoreProgram (App T)}
      (runs : Runs loaded intent wrap) (recorded : loaded.record.isSome)
      (awaits : loaded.AwaitsApply intent program) : Stage (wrap program) store store
  | appending (saved : StoreView) {loaded : Loaded T} {intent : PersistenceIntent}
      {wrap : StoreProgram (App T) → Phase T} {program : StoreProgram (App T)}
      (runs : Runs loaded intent wrap) (recorded : loaded.record.isSome)
      (awaits : loaded.AwaitsAppend intent program) :
      Stage (wrap program) saved (saved.apply loaded.site intent)
  | reloading (store : StoreView) {loaded : Loaded T} {intent : PersistenceIntent}
      {wrap : StoreProgram (App T) → Phase T} {program : StoreProgram (App T)}
      (runs : Runs loaded intent wrap) (recorded : loaded.record.isSome)
      (reloads : loaded.Reloads program) : Stage (wrap program) store store

namespace Stage

/-- A loaded document and its program are a stage that appends nothing. -/
theorem settled_reloads {loaded : Loaded T} {intent : PersistenceIntent}
    {wrap : StoreProgram (App T) → Phase T} (runs : Runs loaded intent wrap)
    (recorded : loaded.record.isSome) {program : StoreProgram (App T)}
    (reloads : loaded.Reloads program) (store : StoreView) :
    Stage ((wrap program).settle core) store store ∧
      ((wrap program).settle core).appending = false := by
  rcases program with (failure | app) | ⟨request, resume⟩
  · rw [runs.settle_error]
    exact ⟨.closed store, rfl⟩
  · rw [runs.settle_ok]
    exact ⟨.waiting store (by rw [reloads.2 app rfl]; exact recorded), rfl⟩
  · rw [runs.settle_call]
    refine ⟨.reloading store runs recorded reloads, ?_⟩
    have isLoad := reloads.1.1
    rw [Phase.appending, runs.pending]
    cases request with
    | loadIdentity site | loadHistory publisher => rfl
    | apply site intent | appendRecord publisher record => exact isLoad.elim

theorem settled_applies {loaded : Loaded T} {intent : PersistenceIntent}
    {wrap : StoreProgram (App T) → Phase T} (runs : Runs loaded intent wrap)
    (recorded : loaded.record.isSome) {program : StoreProgram (App T)}
    (awaits : loaded.AwaitsApply intent program) (store : StoreView) :
    Stage ((wrap program).settle core) store store ∧
      ((wrap program).settle core).appending = false := by
  obtain ⟨resume, rfl, failed, applied⟩ := awaits
  rw [runs.settle_call]
  refine ⟨.applying store runs recorded ⟨resume, rfl, failed, applied⟩, ?_⟩
  rw [Phase.appending, runs.pending]

theorem settled_builds (store : StoreView)
    {program : StoreProgram (Except String (Loaded T))}
    (calls : program.CallsWithin StoreCall.IsLoad)
    (concludes : program.Concludes fun outcome =>
      ∀ loaded, outcome = .ok (.ok loaded) → loaded.record.isSome) :
    Stage ((Phase.building program).settle core) store store ∧
      ((Phase.building program).settle core).appending = false := by
  rcases program with (failure | (message | loaded)) | ⟨request, resume⟩
  · exact ⟨.closed store, rfl⟩
  · exact ⟨.closed store, rfl⟩
  · have recorded := concludes loaded rfl
    refine ⟨.applying store (.opening loaded) recorded (App.new_awaits recorded), ?_⟩
    obtain ⟨resume, isCall, -⟩ : loaded.AwaitsApply loaded.initialIntent (App.new core loaded) :=
      App.new_awaits recorded
    simp only [Phase.settle, Phase.appending, isCall, Phase.pending]
  · refine ⟨.building store calls concludes, ?_⟩
    have isLoad := calls.1
    cases request with
    | loadIdentity site | loadHistory publisher => rfl
    | apply site intent | appendRecord publisher record => exact isLoad.elim

end Stage

/-- How a step changes the stores. -/
inductive SoloStep (before : SoloShell StoreView T) (event : SoloEvent)
    (after : SoloShell StoreView T) : Prop
  | still (sameStore : after.store = before.saved) (quiet : before.store = before.saved)
      (notAppending : after.phase.appending = false)
  | applied (answered : event = .call .proceed) (appending : after.phase.appending = true)
      (saved : after.saved = before.saved)
  | appended {loaded : Loaded T} {intent : PersistenceIntent} {publisher : PublisherPubkey}
      {record : RetainedManifestRecord} (answered : event = .call .proceed)
      (persists : before.phase.persists = some (loaded, intent))
      (target : intent.publisher = some publisher) (isRecord : loaded.record = some record)
      (store : after.store =
        (before.saved.apply loaded.site intent).appendRecord publisher record)
      (notAppending : after.phase.appending = false)
  | torn {loaded : Loaded T} {intent : PersistenceIntent} {fault : Fault Failure}
      (isFault : event = .call fault) (hit : fault ≠ .proceed)
      (persists : before.phase.persists = some (loaded, intent))
      (appending : before.phase.appending = true)
      (store : before.store = before.saved.apply loaded.site intent)
      (sameStore : after.store = before.store)
      (notAppending : after.phase.appending = false)

namespace SoloShell

def StageOf (shell : SoloShell StoreView T) : Prop :=
  Stage shell.phase shell.saved shell.store

theorem enter_still {shell : SoloShell StoreView T} {store : StoreView} {phase : Phase T}
    {event : SoloEvent} (quiet : shell.store = shell.saved) (sameStore : store = shell.saved)
    (stage : Stage phase store store ∧ phase.appending = false) :
    (shell.enter store phase).StageOf ∧ SoloStep shell event (shell.enter store phase) := by
  obtain ⟨stage, notAppending⟩ := stage
  refine ⟨?_, .still sameStore quiet notAppending⟩
  simpa [StageOf, enter, notAppending] using stage

/-- The shell after a call. -/
theorem call_eq {handler : Handler storeInterface σ} {shell next : SoloShell σ T}
    {request : StoreCall} {resume : storeInterface.Reply request → Phase T}
    {fault : Fault Failure} (isPending : shell.phase.pending = some ⟨request, resume⟩)
    (taken : (machine core handler).step shell (.call fault) = some next) :
    (∃ reply store, Handler.answer (I := storeInterface) handler fault request shell.store =
        (some reply, store) ∧ next = shell.enter store ((resume reply).settle core)) ∨
      ∃ store, Handler.answer (I := storeInterface) handler fault request shell.store =
        (none, store) ∧ next = shell.enter store .closed := by
  simp only [machine, isPending] at taken
  split at taken
  next reply store answered => exact .inl ⟨reply, store, answered, (Option.some.inj taken).symm⟩
  next store answered => exact .inr ⟨store, answered, (Option.some.inj taken).symm⟩

/-- A load changes nothing, whether it is answered or not. -/
theorem step_load {shell next : SoloShell StoreView T} {request : StoreCall}
    {resume : storeInterface.Reply request → Phase T} {fault : Fault Failure}
    (quiet : shell.store = shell.saved) (isLoad : request.IsLoad)
    (isPending : shell.phase.pending = some ⟨request, resume⟩)
    (settled : ∀ reply, Stage ((resume reply).settle core) shell.saved shell.saved ∧
      ((resume reply).settle core).appending = false)
    (taken : (machine core viewHandler).step shell (.call fault) = some next) :
    next.StageOf ∧ SoloStep shell (.call fault) next := by
  have unchanged : (Handler.answer (I := storeInterface) viewHandler fault request
      shell.store).2 = shell.saved := by
    rw [← quiet]
    cases fault with
    | proceed =>
        cases request with
        | loadIdentity site | loadHistory publisher => rfl
        | apply site intent | appendRecord publisher record => exact isLoad.elim
    | fail error | stop => rfl
  rcases call_eq isPending taken with ⟨reply, store, answered, rfl⟩ | ⟨store, answered, rfl⟩
  · obtain rfl : store = shell.saved := by simpa [answered] using unchanged
    exact enter_still quiet rfl (settled reply)
  · obtain rfl : store = shell.saved := by simpa [answered] using unchanged
    exact enter_still quiet rfl ⟨.closed _, rfl⟩

theorem step_apply {shell next : SoloShell StoreView T} {loaded : Loaded T}
    {intent : PersistenceIntent} {wrap : StoreProgram (App T) → Phase T}
    {program : StoreProgram (App T)} {fault : Fault Failure}
    (quiet : shell.store = shell.saved) (isPhase : shell.phase = wrap program)
    (runs : Runs loaded intent wrap) (recorded : loaded.record.isSome)
    (awaits : loaded.AwaitsApply intent program)
    (taken : (machine core viewHandler).step shell (.call fault) = some next) :
    next.StageOf ∧ SoloStep shell (.call fault) next := by
  obtain ⟨resume, rfl, failed, applied⟩ := awaits
  have isPending := isPhase ▸ runs.pending (.apply loaded.site intent) resume
  cases fault with
  | proceed =>
      rcases call_eq isPending taken with ⟨reply, store, answered, rfl⟩ | ⟨store, ⟨⟩, rfl⟩
      obtain ⟨rfl, rfl⟩ : .ok () = reply ∧ shell.store.apply loaded.site intent = store := by
        simpa [Handler.answer, viewHandler] using answered
      rcases applied with ⟨rfl, reloads⟩ | awaitsAppend
      · refine enter_still quiet ?_ (Stage.settled_reloads runs recorded reloads _)
        rw [StoreView.apply_none, quiet]
      · obtain ⟨publisher, record, resumeAppend, isCall, target, isRecord, reloads⟩ :=
          awaitsAppend
        have appending :
            (wrap (.call (.appendRecord publisher record) resumeAppend)).appending = true := by
          rw [Phase.appending, runs.pending]
        have stage := Stage.appending shell.saved runs recorded
          ⟨publisher, record, resumeAppend, rfl, target, isRecord, reloads⟩
        rw [isCall, runs.settle_call]
        refine ⟨?_, .applied rfl appending (by simp [enter, appending])⟩
        simpa [StageOf, enter, appending, quiet] using stage
  | fail error =>
      rcases call_eq isPending taken with ⟨reply, store, ⟨⟩, rfl⟩ | ⟨store, ⟨⟩, rfl⟩
      exact enter_still quiet quiet (quiet ▸ Stage.settled_reloads runs recorded (failed error) _)
  | stop =>
      rcases call_eq isPending taken with ⟨reply, store, ⟨⟩, rfl⟩ | ⟨store, ⟨⟩, rfl⟩
      exact enter_still quiet quiet ⟨.closed _, rfl⟩

theorem step_append {shell next : SoloShell StoreView T} {loaded : Loaded T}
    {intent : PersistenceIntent} {wrap : StoreProgram (App T) → Phase T}
    {program : StoreProgram (App T)} {fault : Fault Failure}
    (applied : shell.store = shell.saved.apply loaded.site intent)
    (isPhase : shell.phase = wrap program)
    (runs : Runs loaded intent wrap) (recorded : loaded.record.isSome)
    (awaits : loaded.AwaitsAppend intent program)
    (taken : (machine core viewHandler).step shell (.call fault) = some next) :
    next.StageOf ∧ SoloStep shell (.call fault) next := by
  obtain ⟨publisher, record, resume, rfl, target, isRecord, reloads⟩ := awaits
  have isPending := isPhase ▸ runs.pending (.appendRecord publisher record) resume
  have persists := isPhase ▸ runs.persists (.call (.appendRecord publisher record) resume)
  have appending : shell.phase.appending = true := by
    rw [Phase.appending, isPending]
  have settled : ∀ reply store, Stage ((wrap (resume reply)).settle core) store store ∧
      ((wrap (resume reply)).settle core).appending = false :=
    fun reply store => Stage.settled_reloads runs recorded (reloads reply) store
  have entered : ∀ {store phase}, Stage phase store store ∧ phase.appending = false →
      (shell.enter store phase).StageOf := by
    rintro store phase ⟨stage, notAppending⟩
    simpa [StageOf, enter, notAppending] using stage
  cases fault with
  | proceed =>
      rcases call_eq isPending taken with ⟨reply, store, ⟨⟩, rfl⟩ | ⟨store, ⟨⟩, rfl⟩
      refine ⟨entered (settled _ _),
        .appended rfl persists target isRecord ?_ (settled _ shell.saved).2⟩
      exact congrArg (·.appendRecord publisher record) applied
  | fail error =>
      rcases call_eq isPending taken with ⟨reply, store, ⟨⟩, rfl⟩ | ⟨store, ⟨⟩, rfl⟩
      exact ⟨entered (settled _ _), .torn rfl (by simp) persists appending applied rfl
        (settled _ shell.store).2⟩
  | stop =>
      rcases call_eq isPending taken with ⟨reply, store, ⟨⟩, rfl⟩ | ⟨store, ⟨⟩, rfl⟩
      exact ⟨entered ⟨.closed _, rfl⟩, .torn rfl (by simp) persists appending applied rfl rfl⟩

/-- Every step keeps the stage and is one of the four kinds. -/
theorem StageOf.step (validates : core.CanaryValidatesIssuedAt)
    {shell next : SoloShell StoreView T} {event : SoloEvent} (stage : shell.StageOf)
    (taken : (machine core viewHandler).step shell event = some next) :
    next.StageOf ∧ SoloStep shell event next := by
  obtain ⟨store, saved, phase⟩ := shell
  simp only [StageOf] at stage
  cases event with
  | start request =>
      simp only [machine] at taken
      cases stage with
      | closed =>
          obtain rfl := Option.some.inj taken
          exact enter_still rfl rfl (Stage.settled_builds _ (build_calls request)
            (build_recorded validates request))
      | waiting | building => cases taken
      | applying _ runs | appending _ runs | reloading _ runs => cases runs <;> cases taken
  | decide decision =>
      simp only [machine] at taken
      cases stage with
      | waiting _ recorded =>
          obtain rfl := Option.some.inj taken
          exact enter_still rfl rfl (Stage.settled_applies (.deciding _ decision) recorded
            (App.applyAndPersist_awaits recorded decision) _)
      | closed | building => cases taken
      | applying _ runs | appending _ runs | reloading _ runs => cases runs <;> cases taken
  | close =>
      simp only [machine] at taken
      cases stage with
      | waiting _ recorded =>
          obtain rfl := Option.some.inj taken
          exact enter_still rfl rfl ⟨.closed _, rfl⟩
      | closed | building => cases taken
      | applying _ runs | appending _ runs | reloading _ runs => cases runs <;> cases taken
  | call fault =>
      cases stage with
      | closed | waiting => cases taken
      | @building _ program calls concludes =>
          rcases program with outcome | ⟨request, resume⟩
          · cases taken
          · exact step_load rfl calls.1 rfl
              (fun reply => Stage.settled_builds _ (calls.2 reply) (concludes reply)) taken
      | applying _ runs recorded awaits => exact step_apply rfl rfl runs recorded awaits taken
      | appending _ runs recorded awaits => exact step_append rfl rfl runs recorded awaits taken
      | @reloading _ loaded intent wrap program runs recorded reloads =>
          rcases program with outcome | ⟨request, resume⟩
          · cases runs <;> cases taken
          · exact step_load rfl reloads.1.1 (runs.pending request resume)
              (fun reply => Stage.settled_reloads runs recorded
                ⟨reloads.1.2 reply, reloads.2 reply⟩ _) taken

end SoloShell

end EntangledClient
