import EntangledClient.SharedFiles

/-!
# The clients as programs of calls

Every turn of a client of a shared directory is a run of its program of calls on the view: a read
of the record may take a snapshot, its replacement commits what was made of the snapshot, and
each other turn handles whole calls or none.
-/

namespace EntangledClient

open CallTree ExceptRules

variable {libs : StoreLibs} {opening : StoreOpen} {root : StoreRoot} {ι α : Type}

/-- The directory denotes the view of the programs of calls, and each client stands where its
program does. -/
structure Represents (libs : StoreLibs) (root : StoreRoot) (stored : StorePath → Option Bytes)
    (mayFail : ι → Prop)
    (threads : Threads fileInterface ι (ReadDisk ι) (Except Failure α))
    (shared : SnapshotThreads storeInterface ι StoreView α) : Prop where
  others : ∀ path : StorePath, ¬ path.IsRecord → threads.state.disk.files path = stored path
  valid : root.ValidFiles libs threads.state.disk
  denotes : root.view libs threads.state.disk = shared.state
  stands : ∀ index, ClientStands libs root stored (mayFail index) (threads.state.found index)
    (threads.programs index) (shared.programs index) (shared.snapshots index)

section Returned

variable {stored : StorePath → Option Bytes} {mayFail : ι → Prop}
  {threads : Threads fileInterface ι (ReadDisk ι) (Except Failure α)}
  {shared : SnapshotThreads storeInterface ι StoreView α} {index : ι}

/-- What is left of the program of a client that has returned calls nothing that matters. -/
theorem Represents.returned (lawful : libs.Lawful)
    (represents : Represents libs root stored mayFail threads shared)
    {result : Except Failure (Except Failure α)}
    (isReturned : threads.programs index = .ret result) :
    (∃ failure, result = .error failure ∧ mayFail index) ∨
      ∃ outcome, result = .ok outcome ∧
        ∀ view, (shared.programs index).run viewHandler view = (outcome, view) := by
  have stands := represents.stands index
  rw [isReturned] at stands
  generalize isThread : (Program.ret result : FileProgram (Except Failure α)) = thread at stands
  generalize isProgram : shared.programs index = program at stands
  generalize isSnapshot : shared.snapshots index = snapshot at stands
  cases stands with
  | @opening rest opens program =>
      cases rest with
      | ret opened =>
          obtain rfl : opened = .ok root := opens
          exact .inr (run_of_onFiles_ret lawful isThread.symm)
      | call request resume => cases isThread
  | calling program => exact .inr (run_of_onFiles_ret lawful isThread.symm)
  | @replacing path request rest snapshot about rewrites replaces wasFound resume =>
      cases rest with
      | ret outcome => exact replaces.elim
      | call fileRequest continue_ => cases isThread
  | refused failed failure program =>
      obtain rfl : result = .error failure := by simpa using isThread
      exact .inl ⟨failure, rfl, failed⟩

/-- Clients that have not moved yet. -/
theorem represents_clients (lawful : libs.Lawful) {disk : Disk} {view : StoreView}
    (opened : opening.Opened libs root disk view) (programs : ι → StoreProgram α) :
    Represents libs root disk.files mayFail (clients libs opening programs disk)
      (SnapshotThreads.start view programs) where
  others _ _ := rfl
  valid := opened.valid
  denotes := opened.denotes
  stands index := .opening (opened.roots.willOpen lawful) (programs index)

end Returned

variable [DecidableEq ι]

/-! ### One turn -/

/-- A turn of a client is a run of its program of calls: a call fails only if the turn does, by
its error, and no snapshot is outdated if the client replaces what it found. -/
structure Simulated (libs : StoreLibs) (root : StoreRoot) (stored : StorePath → Option Bytes)
    (mayFail : ι → Prop)
    (threads : Threads fileInterface ι (ReadDisk ι) (Except Failure α))
    (shared : SnapshotThreads storeInterface ι StoreView α) (turn : CallTurn ι Failure)
    (next : Threads fileInterface ι (ReadDisk ι) (Except Failure α))
    (events : List (SnapshotStep ι Failure))
    (after : SnapshotThreads storeInterface ι StoreView α) : Prop where
  ran : (SnapshotThreads.machine viewSplit).run shared events = some after
  represents : Represents libs root stored mayFail next after
  fails : (events.filterMap SnapshotStep.failedCall).Sublist
    ([turn].filterMap CallTurn.failedCall)
  current : ReplacesWhatItFound threads turn next →
    (SnapshotThreads.machine viewSplit).Along (SnapshotThreads.Current viewSplit) shared events

variable {stored : StorePath → Option Bytes} {mayFail : ι → Prop}
  {threads next : Threads fileInterface ι (ReadDisk ι) (Except Failure α)}
  {shared after : SnapshotThreads storeInterface ι StoreView α} {turn : CallTurn ι Failure}
  {index : ι}

/-- Only one client moves, and only the records of the directory change. -/
theorem Represents.moved (represents : Represents libs root stored mayFail threads shared)
    {state : ReadDisk ι} {program : FileProgram (Except Failure α)}
    (others : ∀ path : StorePath, ¬ path.IsRecord →
      state.disk.files path = threads.state.disk.files path)
    (valid : root.ValidFiles libs state.disk) (denotes : root.view libs state.disk = after.state)
    (sameFound : ∀ other ≠ index, state.found other = threads.state.found other)
    (samePrograms : ∀ other ≠ index, after.programs other = shared.programs other)
    (sameSnapshots : ∀ other ≠ index, after.snapshots other = shared.snapshots other)
    (stands : ClientStands libs root stored (mayFail index) (state.found index) program
      (after.programs index) (after.snapshots index)) :
    Represents libs root stored mayFail ⟨state, Function.update threads.programs index program⟩
      after where
  others path notRecord := (others path notRecord).trans (represents.others path notRecord)
  valid := valid
  denotes := denotes
  stands := by
    intro other
    by_cases same : other = index
    · subst same
      simpa only [Function.update_self] using stands
    · simp only [Function.update_of_ne same, sameFound other same, samePrograms other same,
        sameSnapshots other same]
      exact represents.stands other

/-- A move that leaves the directory alone. -/
theorem Represents.waited (represents : Represents libs root stored mayFail threads shared)
    {state : ReadDisk ι} {program : FileProgram (Except Failure α)}
    (files : state.disk.files = threads.state.disk.files) (sameState : after.state = shared.state)
    (sameFound : ∀ other ≠ index, state.found other = threads.state.found other)
    (samePrograms : ∀ other ≠ index, after.programs other = shared.programs other)
    (sameSnapshots : ∀ other ≠ index, after.snapshots other = shared.snapshots other)
    (stands : ClientStands libs root stored (mayFail index) (state.found index) program
      (after.programs index) (after.snapshots index)) :
    Represents libs root stored mayFail ⟨state, Function.update threads.programs index program⟩
      after :=
  represents.moved (fun path _ => congrFun files path) (represents.valid.of_files files)
    ((view_of_files files).trans (represents.denotes.trans sameState.symm)) sameFound samePrograms
    sameSnapshots stands

/-- One step of the program of calls. -/
theorem Simulated.of_step {event : SnapshotStep ι Failure}
    (steps : SnapshotThreads.Steps viewSplit shared event after)
    (represents : Represents libs root stored mayFail next after)
    (fails : ∀ index failure, event = .fail index failure → turn = .failed index failure)
    (current : ReplacesWhatItFound threads turn next →
      SnapshotThreads.Current viewSplit shared event after) :
    Simulated libs root stored mayFail threads shared turn next [event] after where
  ran := StateMachine.run_cons_some _ (SnapshotThreads.step_iff.mpr steps) []
  represents := represents
  fails := by
    cases event with
    | handle index | read index | commit index => exact List.nil_sublist _
    | fail index failure =>
        obtain rfl := fails index failure rfl
        exact .refl _
  current := by
    intro replaces other taken
    obtain rfl := Option.some.inj ((SnapshotThreads.step_iff.mpr steps).symm.trans taken)
    exact ⟨current replaces, trivial⟩

/-- A file call fails, and with it the call of the stores. -/
theorem simulated_fail (represents : Represents libs root stored mayFail threads shared)
    {request : StoreCall} {resume : storeInterface.Reply request → StoreProgram α}
    (isProgram : shared.programs index = .call request resume) (failure : Failure) :
    Simulated libs root stored mayFail threads shared (.failed index failure)
      { threads with
        programs := Function.update threads.programs index
          (onFiles libs root (resume (.error failure))) }
      [.fail index failure] (shared.reply index shared.state (resume (.error failure))) := by
  refine .of_step (.fail isProgram failure) ?_ ?_ ?_
  · refine represents.waited rfl rfl (fun _ _ => rfl)
      (fun other different => SnapshotThreads.reply_programs_other different _ _)
      (fun other different => SnapshotThreads.reply_snapshots_other different _ _) ?_
    rw [SnapshotThreads.reply_programs_same, SnapshotThreads.reply_snapshots_same]
    exact .calling _
  · rintro _ _ ⟨⟩
    rfl
  · rintro _ _ _ _ _ ⟨⟩

/-- A client reads the record of its next call, and is answered or will replace it. -/
theorem simulated_read (represents : Represents libs root stored mayFail threads shared)
    {request : StoreCall} {path : StorePath} (about : path ∈ request.recordPath)
    {resume : storeInterface.Reply request → StoreProgram α}
    (isProgram : shared.programs index = .call request resume)
    (noSnapshot : shared.snapshots index = none) {rest : FileProgram request.Result}
    (acts : Acts libs root path request shared.state rest) :
    ∃ events after, Simulated libs root stored mayFail threads shared (.answered index)
      { state := (ReadDisk.handler index (.readFileOpt path) threads.state).2
        programs := Function.update threads.programs index
          (rest.attempt (fun failure => some failure) >>= fun answer =>
            onFiles libs root (resume answer)) } events after := by
  have foundOthers : ∀ other ≠ index,
      (ReadDisk.handler index (.readFileOpt path) threads.state).2.found other =
        threads.state.found other :=
    fun other different => Function.update_of_ne different _ _
  rcases acts with ⟨rfl, unchanged⟩ | ⟨rewrites, replaces⟩
  · refine ⟨[.handle index], _, .of_step (.handle isProgram noSnapshot) ?_ ?_ ?_⟩
    · refine represents.waited rfl unchanged foundOthers
        (fun other different => SnapshotThreads.reply_programs_other different _ _)
        (fun other different => SnapshotThreads.reply_snapshots_other different _ _) ?_
      rw [attempt_ret, SnapshotThreads.reply_programs_same, SnapshotThreads.reply_snapshots_same]
      exact .calling _
    · rintro _ _ ⟨⟩
    · rintro _ _ _ _ _ ⟨⟩
  · refine ⟨[.read index], _, .of_step (.read isProgram noSnapshot) ?_ ?_ ?_⟩
    · refine represents.waited rfl rfl foundOthers (fun _ _ => rfl)
        (fun other different => Function.update_of_ne different _ _) ?_
      have isRead := represents.valid.fileDenotes path
      rw [represents.denotes] at isRead
      simp only [ReadDisk.handler, diskHandler, Function.update_self, isProgram]
      exact .replacing about rewrites replaces isRead resume
    · rintro _ _ ⟨⟩
    · rintro _ _ _ _ _ ⟨⟩

/-- A client replaces the record of its call by what it made of its snapshot. -/
theorem simulated_write (represents : Represents libs root stored mayFail threads shared)
    {request : StoreCall} {path : StorePath} (about : path ∈ request.recordPath)
    {resume : storeInterface.Reply request → StoreProgram α} {snapshot : StoreView}
    (isProgram : shared.programs index = .call request resume)
    (isSnapshot : shared.snapshots index = some snapshot)
    (rewrites : request.rewrites snapshot = true) {bytes : Bytes}
    (holds : root.FileDenotes libs path (some bytes) (viewHandler request snapshot).2)
    (wasFound : root.FileDenotes libs path (threads.state.found index) snapshot)
    {continue_ : fileInterface.Reply (.writeAtomic path bytes) → FileProgram (Except Failure α)}
    (isWrite : threads.programs index = .call (.writeAtomic path bytes) continue_)
    (goesOn : continue_ (.ok ()) = onFiles libs root (resume (viewHandler request snapshot).1)) :
    ∃ after, Simulated libs root stored mayFail threads shared (.answered index)
      { state := (ReadDisk.handler index (.writeAtomic path bytes) threads.state).2
        programs := Function.update threads.programs index
          (continue_ (ReadDisk.handler index (.writeAtomic path bytes) threads.state).1) }
      [.commit index] after := by
  have files : (ReadDisk.handler index (.writeAtomic path bytes) threads.state).2.disk.files =
      Function.update threads.state.disk.files path (some bytes) := rfl
  obtain ⟨valid, isView⟩ := represents.valid.commit about rewrites holds files
  refine ⟨_, .of_step (.commit isProgram isSnapshot) ?_ ?_ ?_⟩
  · refine represents.moved ?_ valid ?_ (fun _ _ => rfl)
      (fun other different => SnapshotThreads.reply_programs_other different _ _)
      (fun other different => SnapshotThreads.reply_snapshots_other different _ _) ?_
    · intro other notRecord
      refine Disk.files_write_other _ ?_ bytes
      rintro rfl
      exact notRecord (StoreCall.isRecord_of_recordPath about)
    · rw [isView, represents.denotes]
      rfl
    · rw [SnapshotThreads.reply_programs_same, SnapshotThreads.reply_snapshots_same]
      exact goesOn ▸ .calling _
  · rintro _ _ ⟨⟩
  · rintro replaces _ _ _ _ ⟨⟩ isOther isSnapshot'
    obtain rfl := Option.some.inj (isSnapshot.symm.trans isSnapshot')
    cases isProgram.symm.trans isOther
    have unchanged := replaces index path bytes continue_ rfl isWrite
    have isRead := represents.valid.fileDenotes path
    rw [represents.denotes, unchanged] at isRead
    exact StoreCall.of_sameAt about (wasFound.sameAt isRead)

/-- A call about no record is handled before the next file call. -/
theorem Simulated.skip {request : StoreCall}
    {resume : storeInterface.Reply request → StoreProgram α}
    (isProgram : shared.programs index = .call request resume)
    (noSnapshot : shared.snapshots index = none) {reply : storeInterface.Reply request}
    (handled : viewHandler request shared.state = (reply, shared.state))
    {events : List (SnapshotStep ι Failure)}
    (simulated : Simulated libs root stored mayFail threads
      (shared.reply index shared.state (resume reply)) turn next events after) :
    Simulated libs root stored mayFail threads shared turn next (.handle index :: events)
      after := by
  have steps : SnapshotThreads.Steps viewSplit shared (.handle index)
      (shared.reply index shared.state (resume reply)) := by
    have handles : SnapshotThreads.Steps viewSplit shared (.handle index) _ :=
      .handle isProgram noSnapshot
    have isHandled : viewSplit.handler request shared.state = (reply, shared.state) := handled
    rwa [isHandled] at handles
  have taken := SnapshotThreads.step_iff.mpr steps
  refine ⟨?_, simulated.represents, simulated.fails, fun replaces other isNext => ?_⟩
  · rw [StateMachine.run_cons_some _ taken]
    exact simulated.ran
  · obtain rfl := Option.some.inj (taken.symm.trans isNext)
    refine ⟨?_, simulated.current replaces⟩
    rintro _ _ _ _ ⟨⟩

/-- A turn of a client between two calls of the stores. -/
theorem simulated_calling (lawful : libs.Lawful)
    (represents : Represents libs root stored mayFail threads shared) {program : StoreProgram α}
    (isProgram : shared.programs index = program) (noSnapshot : shared.snapshots index = none)
    {request : FileCall} {continue_ : fileInterface.Reply request → FileProgram (Except Failure α)}
    (isCall : onFiles libs root program = .call request continue_)
    (moves : Threads.Moves ReadDisk.handler threads index request continue_ turn next)
    (isThread : threads.programs index = onFiles libs root program) :
    ∃ events after, Simulated libs root stored mayFail threads shared turn next events after := by
  induction program generalizing shared with
  | ret outcome => cases isCall
  | call storeRequest resume ih =>
      cases isPath : storeRequest.recordPath with
      | none =>
          obtain ⟨reply, handled, skips⟩ := @onFiles_skip libs root α lawful storeRequest isPath
          rw [skips] at isCall isThread
          have stillRepresents : Represents libs root stored mayFail threads
              (shared.reply index shared.state (resume reply)) := by
            refine ⟨represents.others, represents.valid, represents.denotes, fun other => ?_⟩
            by_cases same : other = index
            · subst same
              rw [SnapshotThreads.reply_programs_same, SnapshotThreads.reply_snapshots_same,
                isThread]
              exact .calling _
            · rw [SnapshotThreads.reply_programs_other same,
                SnapshotThreads.reply_snapshots_other same]
              exact represents.stands other
          obtain ⟨events, after, simulated⟩ := ih reply stillRepresents (by simp) (by simp) isCall
            isThread
          exact ⟨_, after, simulated.skip isProgram noSnapshot (handled shared.state)⟩
      | some path =>
          obtain ⟨rest, fails, acts, reads⟩ :=
            @onFiles_reads libs root α lawful storeRequest path isPath
          rw [reads] at isCall
          cases isCall
          rcases moves with ⟨rfl, rfl⟩ | ⟨error, rfl, rfl⟩
          · have isRead := represents.valid.fileDenotes path
            rw [represents.denotes] at isRead
            exact simulated_read represents isPath isProgram noSnapshot (acts _ _ isRead)
          · simp only [fails]
            exact ⟨_, _, simulated_fail represents isProgram error⟩

/-- A turn that no call of the stores is about. -/
theorem Simulated.of_waited (represents : Represents libs root stored mayFail next shared) :
    Simulated libs root stored mayFail threads shared turn next [] shared where
  ran := rfl
  represents := represents
  fails := List.nil_sublist _
  current _ := trivial

/-- A turn of a client that has read the record of its call. -/
theorem simulated_replacing (represents : Represents libs root stored mayFail threads shared)
    {request : StoreCall} {path : StorePath} (about : path ∈ request.recordPath)
    {resume : storeInterface.Reply request → StoreProgram α} {snapshot : StoreView}
    (isProgram : shared.programs index = .call request resume)
    (isSnapshot : shared.snapshots index = some snapshot)
    (rewrites : request.rewrites snapshot = true) {rest : FileProgram request.Result}
    (replaces : Replaces path (fun bytes => root.FileDenotes libs path (some bytes)
      (viewHandler request snapshot).2) (viewHandler request snapshot).1 rest)
    (wasFound : root.FileDenotes libs path (threads.state.found index) snapshot)
    (isThread : threads.programs index =
      rest.attempt (fun failure => some failure) >>= fun reply => onFiles libs root (resume reply))
    {fileRequest : FileCall}
    {continue_ : fileInterface.Reply fileRequest → FileProgram (Except Failure α)}
    (isCall : threads.programs index = .call fileRequest continue_)
    (moves : Threads.Moves ReadDisk.handler threads index fileRequest continue_ turn next) :
    ∃ events after, Simulated libs root stored mayFail threads shared turn next events after := by
  rw [isThread] at isCall
  cases rest with
  | ret outcome => exact replaces.elim
  | call replaceRequest resumeReplace =>
      cases isCall
      cases fileRequest with
      | ensureDirs | readFileOpt other => exact replaces.elim
      | getrandom length =>
          obtain ⟨draws, fails⟩ := replaces
          rcases moves with ⟨rfl, rfl⟩ | ⟨error, rfl, rfl⟩
          · refine ⟨[], shared, .of_waited (represents.waited rfl rfl (fun _ _ => rfl)
              (fun _ _ => rfl) (fun _ _ => rfl) ?_)⟩
            rw [isProgram, isSnapshot]
            exact .replacing about rewrites (draws _) wasFound resume
          · simp only [fails]
            exact ⟨_, _, simulated_fail represents isProgram error⟩
      | writeAtomic target bytes =>
          obtain ⟨rfl, holds, answers, fails⟩ := replaces
          rcases moves with ⟨rfl, rfl⟩ | ⟨error, rfl, rfl⟩
          · refine ⟨_, simulated_write represents about isProgram isSnapshot rewrites holds
              wasFound isThread ?_⟩
            simp only [answers]
            exact attempt_ret _ _
          · simp only [fails]
            exact ⟨_, _, simulated_fail represents isProgram error⟩

/-- A turn of a client that opens the store. -/
theorem simulated_opening (lawful : libs.Lawful)
    (represents : Represents libs root stored mayFail threads shared) {program : StoreProgram α}
    (isProgram : shared.programs index = program) (noSnapshot : shared.snapshots index = none)
    {rest : FileProgram StoreRoot} (opens : WillOpen stored root rest)
    {request : FileCall} {continue_ : fileInterface.Reply request → FileProgram (Except Failure α)}
    (failed : ∀ failure, turn = .failed index failure → mayFail index)
    (isCall : (rest >>= fun root => onFiles libs root program) = .call request continue_)
    (moves : Threads.Moves ReadDisk.handler threads index request continue_ turn next)
    (isThread : threads.programs index = rest >>= fun root => onFiles libs root program) :
    ∃ events after, Simulated libs root stored mayFail threads shared turn next events after := by
  have opening : ∀ {state : ReadDisk ι} {rest : FileProgram StoreRoot},
      WillOpen stored root rest → state.disk.files = threads.state.disk.files →
      (∀ other ≠ index, state.found other = threads.state.found other) →
      Represents libs root stored mayFail ⟨state, Function.update threads.programs index
        (rest >>= fun root => onFiles libs root program)⟩ shared := by
    intro state rest willOpen files sameFound
    refine represents.waited files rfl sameFound (fun _ _ => rfl) (fun _ _ => rfl) ?_
    rw [isProgram, noSnapshot]
    exact .opening willOpen program
  have refused : ∀ failure, turn = .failed index failure →
      Represents libs root stored mayFail { threads with
        programs := Function.update threads.programs index (.ret (.error failure)) } shared := by
    intro failure isFailed
    refine represents.waited rfl rfl (fun _ _ => rfl) (fun _ _ => rfl) (fun _ _ => rfl) ?_
    rw [isProgram, noSnapshot]
    exact .refused (failed failure isFailed) failure program
  cases rest with
  | ret outcome =>
      obtain rfl : outcome = .ok root := opens
      exact simulated_calling lawful represents isProgram noSnapshot isCall moves isThread
  | call openRequest openRest =>
      cases isCall
      cases request with
      | ensureDirs =>
          obtain ⟨fails, rest⟩ := opens
          rcases moves with ⟨rfl, rfl⟩ | ⟨error, rfl, rfl⟩
          · exact ⟨[], shared, .of_waited (opening rest rfl fun _ _ => rfl)⟩
          · refine ⟨[], shared, .of_waited ?_⟩
            simp only [fails]
            exact refused error rfl
      | readFileOpt path =>
          obtain ⟨notRecord, fails, rest⟩ := opens
          rcases moves with ⟨rfl, rfl⟩ | ⟨error, rfl, rfl⟩
          · rw [← represents.others path notRecord] at rest
            exact ⟨[], shared, .of_waited (opening rest rfl fun other different =>
              Function.update_of_ne different _ _)⟩
          · refine ⟨[], shared, .of_waited ?_⟩
            simp only [fails]
            exact refused error rfl
      | writeAtomic path bytes | getrandom length => exact opens.elim

theorem simulated_turn (lawful : libs.Lawful)
    (represents : Represents libs root stored mayFail threads shared)
    (failed : ∀ index failure, turn = .failed index failure → mayFail index)
    (taken : (Threads.turns ReadDisk.handler).step threads turn = some next) :
    ∃ events after, Simulated libs root stored mayFail threads shared turn next events after := by
  obtain ⟨index, request, continue_, isCall, moves⟩ := Threads.moves_of_turn taken
  have stands := represents.stands index
  generalize isThread : threads.programs index = thread at stands
  generalize isProgram : shared.programs index = program at stands
  generalize isSnapshot : shared.snapshots index = snapshot at stands
  cases stands with
  | opening opens program =>
      exact simulated_opening lawful represents isProgram isSnapshot opens (failed index)
        (isThread.symm.trans isCall) moves isThread
  | calling program =>
      exact simulated_calling lawful represents isProgram isSnapshot (isThread.symm.trans isCall)
        moves isThread
  | replacing about rewrites replaces wasFound resume =>
      exact simulated_replacing represents about isProgram isSnapshot rewrites replaces wasFound
        isThread
        isCall moves
  | refused failed failure program => cases isThread.symm.trans isCall

/-- A run of turns is a run of the programs of calls. -/
theorem simulated_run (lawful : libs.Lawful)
    (represents : Represents libs root stored mayFail threads shared)
    {turns : List (CallTurn ι Failure)}
    (failed : ∀ index failure, .failed index failure ∈ turns → mayFail index)
    {last : Threads fileInterface ι (ReadDisk ι) (Except Failure α)}
    (ran : (Threads.turns ReadDisk.handler).run threads turns = some last) :
    ∃ events after, (SnapshotThreads.machine viewSplit).run shared events = some after ∧
      Represents libs root stored mayFail last after ∧
      (events.filterMap SnapshotStep.failedCall).Sublist (turns.filterMap CallTurn.failedCall) ∧
      ((Threads.turns ReadDisk.handler).Along ReplacesWhatItFound threads turns →
        (SnapshotThreads.machine viewSplit).Along (SnapshotThreads.Current viewSplit) shared
          events) := by
  induction turns generalizing threads shared with
  | nil =>
      obtain rfl : threads = last := by simpa using ran
      exact ⟨[], shared, rfl, represents, .refl _, fun _ => trivial⟩
  | cons turn turns ih =>
      obtain ⟨next, taken, rest⟩ := StateMachine.run_cons_eq_some _ ran
      obtain ⟨first, between, simulated⟩ := simulated_turn lawful represents
        (fun index failure isFailed => failed index failure (isFailed ▸ List.mem_cons_self)) taken
      obtain ⟨later, after, ranLater, stillRepresents, fails, current⟩ :=
        ih simulated.represents (fun index failure member =>
          failed index failure (List.mem_cons_of_mem _ member)) rest
      refine ⟨first ++ later, after, ?_, stillRepresents, ?_, fun along => ?_⟩
      · rw [StateMachine.run_append _ simulated.ran, ranLater]
      · rw [List.filterMap_append, ← List.singleton_append, List.filterMap_append]
        exact simulated.fails.append fails
      · obtain ⟨replaces, alongRest⟩ := along next taken
        exact (simulated.current replaces).append simulated.ran (current alongRest)

/-- Whatever the clients of an initialised store do, in any order and with any failing calls,
programs of whole and split calls do to the view.  A call of theirs fails only by a file call of
the same client that did. -/
theorem clients_simulated (lawful : libs.Lawful) {disk : Disk} {view : StoreView}
    (opened : opening.Opened libs root disk view) {programs : ι → StoreProgram α}
    {turns : List (CallTurn ι Failure)}
    {last : Threads fileInterface ι (ReadDisk ι) (Except Failure α)}
    (ran : (Threads.turns ReadDisk.handler).run (clients libs opening programs disk) turns =
      some last) :
    ∃ events after,
      (SnapshotThreads.machine viewSplit).run (.start view programs) events = some after ∧
      opening.Opened libs root last.state.disk after.state ∧
      (events.filterMap SnapshotStep.failedCall).Sublist (turns.filterMap CallTurn.failedCall) ∧
      ((Threads.turns ReadDisk.handler).Along ReplacesWhatItFound
          (clients libs opening programs disk) turns →
        (SnapshotThreads.machine viewSplit).Along (SnapshotThreads.Current viewSplit)
          (.start view programs) events) ∧
      ∀ index result, last.programs index = .ret result →
        Returns turns index (after.programs index) result := by
  have mayFail : ∀ index failure, .failed index failure ∈ turns →
      ∃ failure, .failed index failure ∈ turns :=
    fun _ failure member => ⟨failure, member⟩
  obtain ⟨events, after, ranShared, represents, fails, current⟩ :=
    simulated_run lawful (represents_clients lawful opened programs) mayFail ran
  refine ⟨events, after, ranShared, ⟨?_, represents.valid, represents.denotes⟩, fails, current,
    fun index result isReturned => ?_⟩
  · exact opened.roots.of_meta (represents.others .storeKey id) (represents.others .storeMeta id)
  · rcases represents.returned lawful isReturned with
      ⟨failure, rfl, failed⟩ | ⟨outcome, rfl, runs⟩
    · exact failed
    · exact runs

end EntangledClient
