import EntangledClient.CrashConsistency
import EntangledClient.FileMethodSteps
import EntangledClient.FirstOpens
import EntangledClient.SnapshotCalls

/-!
# Clients that share a directory

Any number of clients open one store and call it, and the file calls of each are steps of their
own.  A call of the stores that replaces a record then works on the view that it read, and the
clients do to the directory what programs of such calls do to the view.
-/

namespace EntangledClient

open CallTree ExceptRules

/-! ### Calls on a snapshot of the view -/

namespace StoreView

/-- Put the record of this file, as another view has it, into a view. -/
def withRecord (current : StoreView) (path : Option StorePath) (source : StoreView) : StoreView :=
  match path with
  | some (.identity site) =>
      { current with sites := Function.update current.sites site (source.sites site) }
  | some (.history publisher) =>
      { current with
        histories := Function.update current.histories publisher (source.histories publisher) }
  | some .storeKey | some .storeMeta | none => current

/-- Two views say the same of the record of this file. -/
def SameAt (path : StorePath) (first second : StoreView) : Prop :=
  match path with
  | .identity site => first.sites site = second.sites site
  | .history publisher => first.histories publisher = second.histories publisher
  | .storeKey | .storeMeta => True

end StoreView

/-- A call that puts what it makes of its snapshot into the view of that moment, if it replaces
its record. -/
def StoreCall.commit (request : StoreCall) (snapshot current : StoreView) : StoreView :=
  if request.rewrites snapshot then
    current.withRecord request.recordPath (viewHandler request snapshot).2
  else current

theorem StoreCall.commit_self (request : StoreCall) (view : StoreView) :
    request.commit view view = (viewHandler request view).2 := by
  cases request with
  | loadIdentity site | loadHistory publisher => rfl
  | appendRecord publisher record =>
      simp [commit, rewrites, recordPath, StoreView.withRecord, viewHandler,
        StoreView.appendRecord]
  | apply site intent =>
      by_cases rewrites : intent.rewrites (view.sites site) = true
      · have notEmpty : intent ≠ .none := by
          rintro rfl
          cases rewrites
        simp [commit, StoreCall.rewrites, rewrites, recordPath, notEmpty, StoreView.withRecord,
          viewHandler, StoreView.apply]
      · rw [Bool.not_eq_true] at rewrites
        rw [commit, if_neg (by simp [StoreCall.rewrites, rewrites])]
        exact (StoreView.apply_of_same
          (PersistenceIntent.applyTo_of_not_rewrites rewrites)).symm

/-- What a call writes at a site. -/
theorem StoreCall.sites_commit (request : StoreCall) (snapshot current : StoreView)
    (site : OnionAddress) :
    (request.commit snapshot current).sites site = current.sites site ∨
      ∃ intent, request = .apply site intent ∧ intent.rewrites (snapshot.sites site) = true ∧
        (request.commit snapshot current).sites site = intent.applyTo (snapshot.sites site) := by
  cases request with
  | loadIdentity other | loadHistory publisher | appendRecord publisher record => exact .inl rfl
  | apply other intent =>
      by_cases rewrites : intent.rewrites (snapshot.sites other) = true
      · have notEmpty : intent ≠ .none := by
          rintro rfl
          cases rewrites
        by_cases same : site = other
        · subst same
          refine .inr ⟨intent, rfl, rewrites, ?_⟩
          simp [StoreCall.commit, StoreCall.rewrites, rewrites, StoreCall.recordPath, notEmpty,
            StoreView.withRecord, viewHandler]
        · refine .inl ?_
          simp [StoreCall.commit, StoreCall.rewrites, rewrites, StoreCall.recordPath, notEmpty,
            StoreView.withRecord, same]
      · exact .inl (by simp [StoreCall.commit, StoreCall.rewrites, rewrites])

/-- What a call writes in a history. -/
theorem StoreCall.histories_commit (request : StoreCall) (snapshot current : StoreView)
    (publisher : PublisherPubkey) :
    (request.commit snapshot current).histories publisher = current.histories publisher ∨
      ∃ record, request = .appendRecord publisher record ∧
        (request.commit snapshot current).histories publisher =
          (snapshot.histories publisher).push record := by
  cases request with
  | loadIdentity site | loadHistory other => exact .inl rfl
  | apply site intent =>
      refine .inl ?_
      by_cases empty : intent = .none
      · subst empty
        rfl
      · simp only [StoreCall.commit, StoreCall.recordPath, if_neg empty]
        split <;> rfl
  | appendRecord other record =>
      by_cases same : publisher = other
      · subst same
        refine .inr ⟨record, rfl, ?_⟩
        simp [StoreCall.commit, StoreCall.rewrites, StoreCall.recordPath, StoreView.withRecord,
          viewHandler]
      · refine .inl ?_
        simp [StoreCall.commit, StoreCall.rewrites, StoreCall.recordPath, StoreView.withRecord,
          same]

/-- The calls of the seams, at once or on a snapshot. -/
def viewSplit : SplitHandler storeInterface StoreView where
  handler := viewHandler
  commit := StoreCall.commit
  commit_self := StoreCall.commit_self

/-- What a call does depends on its own record only. -/
theorem StoreCall.of_sameAt {request : StoreCall} {path : StorePath}
    (about : path ∈ request.recordPath) {snapshot current : StoreView}
    (same : snapshot.SameAt path current) :
    (viewHandler request snapshot).1 = (viewHandler request current).1 ∧
      request.commit snapshot current = (viewHandler request current).2 := by
  cases request with
  | loadIdentity site =>
      obtain rfl := Option.some.inj about
      refine ⟨?_, rfl⟩
      simp only [viewHandler, StoreView.identity]
      rw [show snapshot.sites site = current.sites site from same]
  | loadHistory publisher =>
      obtain rfl := Option.some.inj about
      exact ⟨congrArg Except.ok same, rfl⟩
  | appendRecord publisher record =>
      obtain rfl := Option.some.inj about
      refine ⟨rfl, ?_⟩
      rw [← commit_self, commit, commit, recordPath]
      simp only [rewrites, StoreView.withRecord, viewHandler,
        StoreView.histories_appendRecord_same]
      rw [show snapshot.histories publisher = current.histories publisher from same]
  | apply site intent =>
      by_cases empty : intent = .none
      · simp [recordPath, empty] at about
      · obtain rfl : StorePath.identity site = path := by
          simpa [recordPath, empty] using about
        refine ⟨rfl, ?_⟩
        rw [← commit_self, commit, commit, recordPath, if_neg empty]
        simp only [rewrites, StoreView.withRecord, viewHandler, StoreView.sites_apply_same]
        rw [show snapshot.sites site = current.sites site from same]

section Files

variable {libs : StoreLibs} {root : StoreRoot}

theorem StoreRoot.ValidFiles.fileDenotes {disk : Disk} (valid : root.ValidFiles libs disk)
    (path : StorePath) : root.FileDenotes libs path (disk.files path) (root.view libs disk) := by
  cases path with
  | identity site => exact valid.siteFile site
  | history publisher => exact valid.historyFile publisher
  | storeKey | storeMeta => trivial

/-- One file denotes one record. -/
theorem StoreRoot.FileDenotes.sameAt {path : StorePath} {file : Option Bytes}
    {first second : StoreView} (isFirst : root.FileDenotes libs path file first)
    (isSecond : root.FileDenotes libs path file second) : first.SameAt path second := by
  cases path with
  | identity site => exact Except.ok.inj (isFirst.symm.trans isSecond)
  | history publisher => exact Except.ok.inj (isFirst.symm.trans isSecond)
  | storeKey | storeMeta => trivial

/-- A write of the record of a call that was made on a snapshot. -/
theorem StoreRoot.ValidFiles.commit {disk after : Disk} (valid : root.ValidFiles libs disk)
    {request : StoreCall} {path : StorePath} (about : path ∈ request.recordPath)
    {file : Option Bytes} {snapshot : StoreView} (rewrites : request.rewrites snapshot = true)
    (holds : root.FileDenotes libs path file (viewHandler request snapshot).2)
    (files : after.files = Function.update disk.files path file) :
    root.ValidFiles libs after ∧
      root.view libs after = request.commit snapshot (root.view libs disk) := by
  have isRecord := StoreCall.isRecord_of_recordPath about
  rw [StoreCall.commit, if_pos rewrites, show request.recordPath = some path from about]
  cases path with
  | identity site => exact valid.update_identity files holds
  | history publisher => exact valid.update_history files holds
  | storeKey | storeMeta => exact isRecord.elim

end Files

/-! ### The clients -/

/-- The directory, and the content that each client found when it read last. -/
structure ReadDisk (ι : Type) where
  disk : Disk
  found : ι → Option Bytes

/-- The file calls of one client. -/
def ReadDisk.handler {ι : Type} [DecidableEq ι] (index : ι) :
    Handler fileInterface (ReadDisk ι) := fun request tracked =>
  let (reply, disk) := diskHandler request tracked.disk
  match request with
  | .readFileOpt path =>
      (reply, { disk, found := Function.update tracked.found index (tracked.disk.files path) })
  | .ensureDirs | .writeAtomic _ _ | .getrandom _ => (reply, { tracked with disk })

section Clients

variable {ι α : Type} (libs : StoreLibs) (opening : StoreOpen)

/-- A program over the stores that opens its store first. -/
def onStore (program : StoreProgram α) : FileProgram (Except Failure α) := do
  let root ← opening.program libs
  onFiles libs root program

/-- Clients of one directory, before the first step of any. -/
def clients (programs : ι → StoreProgram α) (disk : Disk) :
    Threads fileInterface ι (ReadDisk ι) (Except Failure α) where
  state := { disk, found := fun _ => none }
  programs index := onStore libs opening (programs index)

/-- A client that replaces a record finds there what it read. -/
def ReplacesWhatItFound (before : Threads fileInterface ι (ReadDisk ι) (Except Failure α))
    (turn : CallTurn ι Failure) (_after : Threads fileInterface ι (ReadDisk ι) (Except Failure α)) :
    Prop :=
  ∀ index path bytes resume, turn = .answered index →
    before.programs index = .call (.writeAtomic path bytes) resume →
    before.state.disk.files path = before.state.found index

/-- What is returned is the outcome of the calls, or the failure of one that the open made. -/
def Returns (turns : List (CallTurn ι Failure)) (index : ι) (rest : StoreProgram α) :
    Except Failure (Except Failure α) → Prop
  | .ok outcome => ∀ view, rest.run viewHandler view = (outcome, view)
  | .error _ => ∃ failure, .failed index failure ∈ turns

/-! ### Where a client stands -/

/-- What is left of the open of an initialised store: it reads files that no record call
changes, and returns this root unless a call fails. -/
def WillOpen (stored : StorePath → Option Bytes) (root : StoreRoot) : FileProgram StoreRoot → Prop
  | .ret outcome => outcome = .ok root
  | .call .ensureDirs resume =>
      (∀ failure, resume (.error failure) = .ret (.error failure)) ∧
        WillOpen stored root (resume (.ok ()))
  | .call (.readFileOpt path) resume =>
      ¬ path.IsRecord ∧ (∀ failure, resume (.error failure) = .ret (.error failure)) ∧
        WillOpen stored root (resume (.ok (stored path)))
  | .call (.writeAtomic _ _) _ | .call (.getrandom _) _ => False

/-- Where a client stands: it opens the store, or is between two calls of the stores, or it has
read for a call and will replace the record, or its open failed, if a call of it may. -/
inductive ClientStands (root : StoreRoot) (stored : StorePath → Option Bytes) (mayFail : Prop)
    (found : Option Bytes) :
    FileProgram (Except Failure α) → StoreProgram α → Option StoreView → Prop
  | opening {rest : FileProgram StoreRoot} (opens : WillOpen stored root rest)
      (program : StoreProgram α) :
      ClientStands root stored mayFail found (rest >>= fun root => onFiles libs root program)
        program none
  | calling (program : StoreProgram α) :
      ClientStands root stored mayFail found (onFiles libs root program) program none
  | replacing {path : StorePath} {request : StoreCall} {rest : FileProgram request.Result}
      {snapshot : StoreView} (about : path ∈ request.recordPath)
      (rewrites : request.rewrites snapshot = true)
      (replaces : Replaces path (fun bytes => root.FileDenotes libs path (some bytes)
        (viewHandler request snapshot).2) (viewHandler request snapshot).1 rest)
      (wasFound : root.FileDenotes libs path found snapshot)
      (resume : storeInterface.Reply request → StoreProgram α) :
      ClientStands root stored mayFail found
        (rest.attempt (fun failure => some failure) >>= fun reply =>
          onFiles libs root (resume reply))
        (.call request resume) (some snapshot)
  | refused (failed : mayFail) (failure : Failure) (program : StoreProgram α) :
      ClientStands root stored mayFail found (.ret (.error failure)) program none

end Clients

variable {libs : StoreLibs} {opening : StoreOpen} {root : StoreRoot}

theorem StoreOpen.Roots.willOpen (lawful : libs.Lawful) {disk : Disk}
    (roots : opening.Roots libs disk root) :
    WillOpen disk.files root (opening.program libs) := by
  cases roots with
  | @integrity key isKey mode =>
      obtain ⟨bytes, encoded, decoded⟩ := lawful.metaJson ⟨metaV, .integrity, none⟩
      have checks : WillOpen disk.files ⟨.integrity key⟩ (StoreRoot.integrityWithKey libs key) := by
        rw [integrityWithKey_eq]
        refine ⟨id, fun _ => rfl, ?_⟩
        rcases mode with absent | ⟨-, metaBytes, storeMeta, isMeta, decodes, isIntegrity⟩
        · simp only [absent]
          rfl
        · simp only [isMeta]
          change checkedRoot libs key (some metaBytes) = _
          simp [checkedRoot, decodes, isIntegrity]
      simp only [StoreOpen.program]
      rw [StoreRoot.openIntegrity_eq encoded]
      refine ⟨fun _ => rfl, id, fun _ => rfl, ?_⟩
      rw [isKey]
      exact checks
  | @encrypted passphrase bytes salt key isMeta decoded derived =>
      refine ⟨fun _ => rfl, id, fun _ => rfl, ?_⟩
      rw [isMeta]
      simp only [Program.bind, decoded, mapErr_ok, ofResult_bind_ok]
      simp only [pure, Program.bind, ensure_of, ofResult_bind_ok, lawful.base64, mapErr_ok,
        derived]
      rfl

/-! ### Programs on the files, call by call -/

section Programs

variable {α : Type}

/-- A call that is about no record costs no file call. -/
theorem onFiles_skip (lawful : libs.Lawful) {request : StoreCall}
    (aboutNone : request.recordPath = none) :
    ∃ reply, (∀ view, viewHandler request view = (reply, view)) ∧
      ∀ resume : storeInterface.Reply request → StoreProgram α,
        onFiles libs root (.call request resume) = onFiles libs root (resume reply) := by
  have answers := @fileMethod_readsAndActs libs root lawful request
  rw [aboutNone] at answers
  obtain ⟨reply, isMethod, handled⟩ := answers
  refine ⟨.ok reply, handled, fun resume => ?_⟩
  simp only [onFiles, Program.carriedOut]
  rw [isMethod]
  rfl

theorem attempt_ret {β : Type} (outcome : Except Failure β)
    (next : Except Failure β → FileProgram α) :
    (Program.attempt (fun failure => some failure) (.ret outcome : FileProgram β) >>= next) =
      next outcome := by
  cases outcome <;> rfl

/-- Any other call reads its record first. -/
theorem onFiles_reads (lawful : libs.Lawful) {request : StoreCall} {path : StorePath}
    (about : path ∈ request.recordPath) :
    ∃ rest : fileInterface.Reply (.readFileOpt path) → FileProgram request.Result,
      (∀ failure, rest (.error failure) = .ret (.error failure)) ∧
      (∀ file view, root.FileDenotes libs path file view →
        Acts libs root path request view (rest (.ok file))) ∧
      ∀ resume : storeInterface.Reply request → StoreProgram α,
        onFiles libs root (.call request resume) =
          .call (.readFileOpt path) fun reply =>
            (rest reply).attempt (fun failure => some failure) >>= fun answer =>
              onFiles libs root (resume answer) := by
  have steps := @fileMethod_readsAndActs libs root lawful request
  rw [show request.recordPath = some path from about] at steps
  obtain ⟨rest, isMethod, fails, acts⟩ := steps
  refine ⟨rest, fails, acts, fun resume => ?_⟩
  simp only [onFiles, Program.carriedOut]
  rw [isMethod]
  rfl

/-- What is left of a program that has returned changes nothing. -/
theorem run_of_onFiles_ret (lawful : libs.Lawful) {program : StoreProgram α}
    {result : Except Failure (Except Failure α)}
    (returned : onFiles libs root program = .ret result) :
    ∃ outcome, result = .ok outcome ∧ ∀ view, program.run viewHandler view = (outcome, view) := by
  induction program with
  | ret outcome =>
      obtain rfl : .ok outcome = result := by
        simpa [onFiles, Program.carriedOut] using returned
      exact ⟨outcome, rfl, fun _ => rfl⟩
  | call request resume ih =>
      cases isPath : request.recordPath with
      | none =>
          obtain ⟨reply, handled, skips⟩ := @onFiles_skip libs root α lawful request isPath
          rw [skips] at returned
          obtain ⟨outcome, isOk, runs⟩ := ih reply returned
          refine ⟨outcome, isOk, fun view => ?_⟩
          simp only [Program.run, handled]
          exact runs view
      | some path =>
          obtain ⟨rest, -, -, isCall⟩ := @onFiles_reads libs root α lawful request path isPath
          rw [isCall] at returned
          cases returned

end Programs

end EntangledClient
