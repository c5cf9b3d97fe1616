import EntangledClient.ClientSimulation
import EntangledClient.SampleLibs

/-!
# What clients of one directory do together

In every order of their file calls, whatever calls fail and wherever clients stop, the store of
the clients opens again and all its records load.  And if each client that replaces a record
finds what it read there, all of them together do what their calls do one at a time.
-/

namespace EntangledClient

open CallTree

section Clients

variable {libs : StoreLibs} {opening : StoreOpen} {root : StoreRoot} {ι α : Type}

/-- What is left of the open of an initialised store returns the root. -/
theorem WillOpen.run_outcome {stored : StorePath → Option Bytes} {program : FileProgram StoreRoot}
    (opens : WillOpen stored root program) {disk : Disk}
    (same : ∀ path : StorePath, ¬ path.IsRecord → disk.files path = stored path) :
    (program.run diskHandler disk).1 = .ok root := by
  induction program with
  | ret outcome => exact opens
  | call request resume ih =>
      cases request with
      | ensureDirs => exact ih _ opens.2
      | readFileOpt path =>
          obtain ⟨notRecord, -, rest⟩ := opens
          rw [← same path notRecord] at rest
          exact ih _ rest
      | writeAtomic path bytes | getrandom length => exact opens.elim

/-- A client whose next call is no write replaces nothing. -/
theorem replacesWhatItFound_of_not_write
    {threads next : Threads fileInterface ι (ReadDisk ι) (Except Failure α)} {index : ι}
    {request : FileCall} {resume : fileInterface.Reply request → FileProgram (Except Failure α)}
    (isCall : threads.programs index = .call request resume) (noWrite : ¬ IsWrite request) :
    ReplacesWhatItFound threads (.answered index) next := by
  rintro _ path bytes other ⟨⟩ isWrite
  cases isCall.symm.trans isWrite
  exact (noWrite trivial).elim

variable [DecidableEq ι] {disk : Disk} {view : StoreView} {programs : ι → StoreProgram α}
  {turns : List (CallTurn ι Failure)}
  {last : Threads fileInterface ι (ReadDisk ι) (Except Failure α)}

/-- At every moment of every run of clients on an initialised store, whatever calls fail, the
store opens and all its records load; and what they hold and what the clients return comes from
a run of their calls on the view, in which a call may work on a snapshot and fails only by a file
call of the same client that failed. -/
theorem clients_never_corrupt (lawful : libs.Lawful)
    (opened : opening.Opened libs root disk view)
    (ran : (Threads.turns ReadDisk.handler).run (clients libs opening programs disk) turns =
      some last) :
    ((opening.program libs).run diskHandler last.state.disk).1 = .ok root ∧
      ∃ events after,
        (SnapshotThreads.machine viewSplit).run (.start view programs) events = some after ∧
        (events.filterMap SnapshotStep.failedCall).Sublist
          (turns.filterMap CallTurn.failedCall) ∧
        (∀ site, (fileHandler libs root (.loadIdentity site) last.state.disk).1 =
          .ok (after.state.identity site)) ∧
        (∀ publisher, (fileHandler libs root (.loadHistory publisher) last.state.disk).1 =
          .ok (after.state.histories publisher)) ∧
        ∀ index result, last.programs index = .ret result →
          Returns turns index (after.programs index) result := by
  obtain ⟨events, after, ranShared, openedAfter, fails, -, returns⟩ :=
    clients_simulated lawful opened ran
  refine ⟨(openedAfter.roots.willOpen lawful).run_outcome fun _ _ => rfl, events, after, ranShared,
    fails, fun site => ?_, fun publisher => ?_, returns⟩
  · have answered := (fileHandler_view lawful (.loadIdentity site) openedAfter.valid).1
    rw [openedAfter.denotes] at answered
    exact answered
  · have answered := (fileHandler_view lawful (.loadHistory publisher) openedAfter.valid).1
    rw [openedAfter.denotes] at answered
    exact answered

/-- If every client that replaces a record finds what it read there, the run of the clients is
one of whole calls, one at a time, in which a call fails only by a file call of the same client
that failed. -/
theorem clients_serial (lawful : libs.Lawful) (opened : opening.Opened libs root disk view)
    (ran : (Threads.turns ReadDisk.handler).run (clients libs opening programs disk) turns =
      some last)
    (replaces : (Threads.turns ReadDisk.handler).Along ReplacesWhatItFound
      (clients libs opening programs disk) turns) :
    ∃ calls whole,
      (Threads.turns fun _ => viewHandler).run { state := view, programs } calls = some whole ∧
      (calls.filterMap CallTurn.failedCall).Sublist (turns.filterMap CallTurn.failedCall) ∧
      opening.Opened libs root last.state.disk whole.state ∧
      ∀ index result, last.programs index = .ret result →
        Returns turns index (whole.programs index) result := by
  obtain ⟨events, after, ranShared, openedAfter, fails, current, returns⟩ :=
    clients_simulated lawful opened ran
  have sameFails := SnapshotThreads.failedCalls_whole events
  exact ⟨_, after.whole, SnapshotThreads.run_whole (current replaces) ranShared,
    sameFails ▸ fails, openedAfter, returns⟩

end Clients

namespace SampleLibs

/-- A store that is initialised and holds no record. -/
def keyedDisk : Disk :=
  emptyDisk.write .storeKey [7]

theorem keyedDisk_opened : StoreOpen.integrity.Opened libs root keyedDisk .empty := by
  have noRecords : keyedDisk.NoRecords := by
    rintro (_ | _ | site | publisher) isRecord
    · exact isRecord.elim
    · exact isRecord.elim
    · rfl
    · rfl
  exact StoreOpen.opened_of_noRecords (.integrity rfl (.inl rfl)) noRecords

/-- One client pins an identity, and the other records a manifest. -/
def pinAndRecord : Bool → StoreProgram Unit
  | false => applyIntent legacySite (.pinIdentity (seedKey 1))
  | true => appendRecord (seedKey 1) ⟨5, ⟨seedBytes 3⟩, seedBytes 4⟩

/-- Both clients open the store and read their records before either writes. -/
def overlappingReads : List (CallTurn Bool Failure) :=
  [.answered false, .answered true, .answered false, .answered true, .answered false,
    .answered true, .answered false, .answered true]

def noSpaceLeft : Failure :=
  .err ⟨"write temp: No space left on device"⟩

theorem overlapping_failing_run :
    ∃ last, (Threads.turns ReadDisk.handler).run (clients libs .integrity pinAndRecord keyedDisk)
      (overlappingReads ++ [.failed true noSpaceLeft, .answered false]) = some last :=
  ⟨_, rfl⟩

theorem clients_never_corrupt_overlapping :
    ∃ last, (Threads.turns ReadDisk.handler).run (clients libs .integrity pinAndRecord keyedDisk)
        (overlappingReads ++ [.failed true noSpaceLeft, .answered false]) = some last ∧
      ((StoreOpen.integrity.program libs).run diskHandler last.state.disk).1 = .ok root ∧
      ∃ events after,
        (SnapshotThreads.machine viewSplit).run (.start .empty pinAndRecord) events = some after ∧
        (events.filterMap SnapshotStep.failedCall).Sublist [(true, noSpaceLeft)] ∧
        (∀ site, (fileHandler libs root (.loadIdentity site) last.state.disk).1 =
          .ok (after.state.identity site)) ∧
        (∀ publisher, (fileHandler libs root (.loadHistory publisher) last.state.disk).1 =
          .ok (after.state.histories publisher)) ∧
        ∀ index result, last.programs index = .ret result →
          Returns (overlappingReads ++ [.failed true noSpaceLeft, .answered false]) index
            (after.programs index) result := by
  obtain ⟨last, ran⟩ := overlapping_failing_run
  exact ⟨last, ran, clients_never_corrupt lawful keyedDisk_opened ran⟩

theorem overlappingReads_replace :
    (Threads.turns ReadDisk.handler).Along ReplacesWhatItFound
      (clients libs .integrity pinAndRecord keyedDisk)
      (overlappingReads ++ [.answered true, .answered false]) := by
  rintro _ ⟨⟩
  refine ⟨replacesWhatItFound_of_not_write rfl id, ?_⟩
  rintro _ ⟨⟩
  refine ⟨replacesWhatItFound_of_not_write rfl id, ?_⟩
  rintro _ ⟨⟩
  refine ⟨replacesWhatItFound_of_not_write rfl id, ?_⟩
  rintro _ ⟨⟩
  refine ⟨replacesWhatItFound_of_not_write rfl id, ?_⟩
  rintro _ ⟨⟩
  refine ⟨replacesWhatItFound_of_not_write rfl id, ?_⟩
  rintro _ ⟨⟩
  refine ⟨replacesWhatItFound_of_not_write rfl id, ?_⟩
  rintro _ ⟨⟩
  refine ⟨replacesWhatItFound_of_not_write rfl id, ?_⟩
  rintro _ ⟨⟩
  refine ⟨replacesWhatItFound_of_not_write rfl id, ?_⟩
  rintro _ ⟨⟩
  refine ⟨?_, ?_⟩
  · rintro _ _ _ _ ⟨⟩ isWrite
    cases isWrite
    rfl
  · rintro _ ⟨⟩
    refine ⟨?_, ?_⟩
    · rintro _ _ _ _ ⟨⟩ isWrite
      cases isWrite
      rfl
    · trivial

theorem overlapping_run :
    ∃ last, (Threads.turns ReadDisk.handler).run (clients libs .integrity pinAndRecord keyedDisk)
      (overlappingReads ++ [.answered true, .answered false]) = some last :=
  ⟨_, rfl⟩

theorem clients_serial_overlapping :
    ∃ last, (Threads.turns ReadDisk.handler).run (clients libs .integrity pinAndRecord keyedDisk)
        (overlappingReads ++ [.answered true, .answered false]) = some last ∧
      ∃ calls whole,
        (Threads.turns fun _ => viewHandler).run { state := .empty, programs := pinAndRecord }
          calls = some whole ∧
        (calls.filterMap CallTurn.failedCall).Sublist [] ∧
        StoreOpen.integrity.Opened libs root last.state.disk whole.state ∧
        ∀ index result, last.programs index = .ret result →
          Returns (overlappingReads ++ [.answered true, .answered false]) index
            (whole.programs index) result := by
  obtain ⟨last, ran⟩ := overlapping_run
  exact ⟨last, ran, clients_serial lawful keyedDisk_opened ran overlappingReads_replace⟩

end SampleLibs

end EntangledClient
