import EntangledClient.FaultyOpens
import EntangledClient.KeptRecords
import EntangledClient.SystemCalls

/-!
# Runs of the client that crash

A run of the client opens its store and shows a document; its store calls are carried out by
file calls and these by system calls.  Whatever system calls fail in a sequence of runs, and
wherever each run stops, the directory always denotes what the viewer leaves under some faults
of its store calls.  So the next open finds a store, every record loads, and nothing that was
stored is lost.
-/

namespace EntangledClient

open CallTree Program

variable {T : CoreTypes}

/-- What a run of the viewer returns. -/
abbrev Viewed (T : CoreTypes) : Type :=
  Except Failure (Except String (ShellApp T × List FrameOutput))

/-- A run of the client, and the faults that its system calls meet. -/
structure ClientRun where
  request : BuildRequest
  inputs : List FrameInput
  faults : List (Fault StoreError)

section Client

variable (core : Core T) (nodes : T.Scene → List SceneNode) (libs : StoreLibs)
  (opening : StoreOpen)

/-- A program over the stores, down to its file calls. -/
def onFiles {α : Type} (root : StoreRoot) (program : StoreProgram α) :
    FileProgram (Except Failure α) :=
  Program.carriedOut (I := storeInterface) (J := fileInterface) (fileMethod libs root) id program

/-- `main`: open the store, and view the document with its calls on the files of the store. -/
def clientProgram (request : BuildRequest) (inputs : List FrameInput) :
    FileProgram (Viewed T) := do
  let root ← opening.program libs
  onFiles libs root (ShellApp.viewer core nodes request inputs)

variable (base : FilePath) (publisherText : PublisherPubkey → String)

/-- A run of the client in a folder. -/
def ClientRun.execute (run : ClientRun) (folder : Folder) :
    Option (Except StoreError (Except Failure (Viewed T))) × Folder :=
  (onSystem base publisherText
    (clientProgram core nodes libs opening run.request run.inputs)).runFaulty systemHandler
      run.faults folder

/-- One run of the client after the other. -/
def clientMachine : StateMachine Folder ClientRun where
  step folder run :=
    some (run.execute core nodes libs opening base publisherText folder).2

/-- The store files of the folder denote this view. -/
def Folder.Denotes (folder : Folder) (view : StoreView) : Prop :=
  ∃ disk, folder.Stores base publisherText disk ∧ opening.Denotes libs disk view

/-- A run seen at the seams: its store did not open and nothing changed, or the viewer ran
under some faults of its store calls. -/
def Accounts (request : BuildRequest) (inputs : List FrameInput) (view : StoreView)
    (outcome : Option (Except Failure (Viewed T))) (next : StoreView) : Prop :=
  (next = view ∧ ∀ result, outcome = some result → ∃ failure, result = .error failure) ∨
  ∃ faults,
    ((ShellApp.viewer core nodes request inputs).runFaulty viewHandler faults view).2 = next ∧
    ∀ result, outcome = some result → ∃ viewed, result = .ok viewed ∧
      ((ShellApp.viewer core nodes request inputs).runFaulty viewHandler faults view).1 =
        some viewed

/-- At every point of these runs the folder denotes a view, and each run accounts for the
change of the view. -/
def RefinesViews : StoreView → Folder → List ClientRun → Prop
  | view, folder, [] => folder.Denotes libs opening base publisherText view
  | view, folder, run :: runs =>
      folder.Denotes libs opening base publisherText view ∧
      ∃ outcome next,
        (∀ result,
          (run.execute core nodes libs opening base publisherText folder).1 = some result →
          ∃ returned, result = .ok returned ∧ outcome = some returned) ∧
        Accounts core nodes run.request run.inputs view outcome next ∧
        RefinesViews next (run.execute core nodes libs opening base publisherText folder).2 runs

end Client

variable {core : Core T} {nodes : T.Scene → List SceneNode} {libs : StoreLibs}
  {opening : StoreOpen} {base : FilePath} {publisherText : PublisherPubkey → String}

/-! ### One run on the store files -/

/-- Programs carried out by methods make the calls of the methods. -/
theorem carriedOut_calls {I J : Interface} {α : Type}
    {method : (request : I.Call) → Program J (I.Result request)} {convert : J.Error → I.Error}
    {allowed : J.Call → Prop} (within : ∀ request, (method request).CallsWithin allowed)
    (program : Program I α) : (program.carriedOut method convert).CallsWithin allowed := by
  induction program with
  | ret outcome => exact .pure outcome
  | call request resume ih => exact .bind (.attempt (within request)) fun reply => ih reply

/-- A call of the stores writes no file but records. -/
theorem fileMethod_spares {root : StoreRoot} {path : StorePath} (notRecord : ¬ path.IsRecord)
    (request : StoreCall) :
    Program.CallsWithin (I := fileInterface) (Spares path) (fileMethod libs root request) := by
  refine fileMethod_calls (fun _ => trivial) fun other payload about => ?_
  refine .bind (Protector.sealBytes_calls trivial _ _) fun _ => .perform ?_
  rintro rfl
  exact notRecord (StoreCall.isRecord_of_recordPath about)

theorem onFiles_other {α : Type} {path : StorePath} (notRecord : ¬ path.IsRecord)
    (root : StoreRoot) (program : StoreProgram α) (faults : List (Fault Failure)) (disk : Disk) :
    ((onFiles libs root program).runFaulty diskHandler faults disk).2.files path =
      disk.files path :=
  runFaulty_spares (carriedOut_calls (fileMethod_spares notRecord) program) faults disk

theorem clientProgram_faulty (lawful : libs.Lawful) {disk : Disk} {view : StoreView}
    (denotes : opening.Denotes libs disk view) (request : BuildRequest)
    (inputs : List FrameInput) (faults : List (Fault Failure)) :
    ∃ next,
      opening.Denotes libs ((clientProgram core nodes libs opening request inputs).runFaulty
        diskHandler faults disk).2 next ∧
      Accounts core nodes request inputs view
        ((clientProgram core nodes libs opening request inputs).runFaulty diskHandler faults
          disk).1 next := by
  have safely := opening.safely_program lawful denotes
  have left := safely.run_after denotes faults
  have ends := (safely.run denotes faults).2
  obtain ⟨rest, isRun⟩ := runFaulty_bind diskHandler (opening.program libs)
    (fun root => onFiles libs root (ShellApp.viewer core nodes request inputs)) faults disk
  rw [clientProgram, isRun]
  cases opens : (opening.program libs).runFaulty diskHandler faults disk with
  | mk outcome middle =>
      rw [opens] at left ends
      rcases outcome with _ | (failure | root)
      · exact ⟨view, left, .inl ⟨rfl, fun _ impossible => by cases impossible⟩⟩
      · refine ⟨view, left, .inl ⟨rfl, ?_⟩⟩
        rintro _ ⟨⟩
        exact ⟨failure, rfl⟩
      · have opened := (ends _ rfl).2 root rfl
        obtain ⟨valid, runs⟩ := (@storeLayer libs root lawful).runFaulty
          (ShellApp.viewer core nodes request inputs) rest opened.valid
        obtain ⟨before, viewFaults, isBefore, isNext, returns⟩ := runs _ rfl
        obtain rfl : before = view := isBefore.symm.trans opened.denotes
        refine ⟨_, .opened ⟨?_, valid, rfl⟩, .inr ⟨viewFaults, isNext, returns⟩⟩
        exact opened.roots.of_meta (onFiles_other id root _ rest middle)
          (onFiles_other id root _ rest middle)

/-! ### Runs in a folder -/

/-- A folder denotes what any disk with its store files does. -/
theorem Folder.Denotes.of_stores {folder : Folder} {view : StoreView}
    (denotes : folder.Denotes libs opening base publisherText view) {disk : Disk}
    (stores : folder.Stores base publisherText disk) : opening.Denotes libs disk view := by
  obtain ⟨other, otherStores, isDenoted⟩ := denotes
  exact isDenoted.of_files (funext fun path => (stores path).symm.trans (otherStores path))

/-- One run of the client, under any faults of its system calls. -/
theorem execute_accounts (lawful : libs.Lawful) (apart : Function.Injective publisherText)
    (run : ClientRun) {folder : Folder} {view : StoreView}
    (denotes : folder.Denotes libs opening base publisherText view) :
    ∃ outcome next,
      (∀ result,
        (run.execute core nodes libs opening base publisherText folder).1 = some result →
        ∃ returned, result = .ok returned ∧ outcome = some returned) ∧
      Accounts core nodes run.request run.inputs view outcome next ∧
      (run.execute core nodes libs opening base publisherText folder).2.Denotes libs opening base
        publisherText next := by
  have stores := @Folder.stores_disk base publisherText
    (run.execute core nodes libs opening base publisherText folder).2
  obtain ⟨-, runsBack⟩ := (@systemLayer base publisherText apart).runFaulty
    (clientProgram core nodes libs opening run.request run.inputs) run.faults
    (show True from trivial)
  obtain ⟨start, fileFaults, startStores, isAfter, returns⟩ := runsBack _ stores
  obtain ⟨next, denotesNext, accounts⟩ := @clientProgram_faulty T core nodes libs opening lawful
    start view (denotes.of_stores startStores) run.request run.inputs fileFaults
  refine ⟨_, next, fun result returned => ?_, accounts, _, stores, isAfter ▸ denotesNext⟩
  obtain ⟨inner, isInner, ran⟩ := returns result returned
  exact ⟨inner, isInner, ran⟩

/-- At every point of a sequence of runs, whatever system calls fail in them and wherever they
stop, the folder denotes what the viewer leaves under some faults of its store calls. -/
theorem clientRuns_refine (lawful : libs.Lawful) (apart : Function.Injective publisherText)
    (runs : List ClientRun) {folder : Folder} {view : StoreView}
    (denotes : folder.Denotes libs opening base publisherText view) :
    RefinesViews core nodes libs opening base publisherText view folder runs := by
  induction runs generalizing folder view with
  | nil => exact denotes
  | cons run runs ih =>
      obtain ⟨outcome, next, returns, accounts, denotesNext⟩ :=
        @execute_accounts T core nodes libs opening base publisherText lawful apart run folder
          view denotes
      exact ⟨denotes, outcome, next, returns, accounts, ih denotesNext⟩

theorem Accounts.kept {request : BuildRequest} {inputs : List FrameInput}
    {view next : StoreView} {outcome : Option (Except Failure (Viewed T))}
    (accounts : Accounts core nodes request inputs view outcome next) :
    view.KeptBy inputs next := by
  rcases accounts with ⟨rfl, -⟩ | ⟨faults, rfl, -⟩
  · exact .refl inputs next
  · exact viewer_keeps core nodes request inputs faults view

/-- What the runs leave is denoted by the folder, and keeps what was there. -/
theorem clientRuns_denote (lawful : libs.Lawful) (apart : Function.Injective publisherText)
    {runs : List ClientRun} {folder after : Folder} {view : StoreView}
    (denotes : folder.Denotes libs opening base publisherText view)
    (ran : (clientMachine core nodes libs opening base publisherText).run folder runs =
      some after) :
    ∃ next, view.KeptBy (runs.flatMap (·.inputs)) next ∧
      after.Denotes libs opening base publisherText next := by
  induction runs generalizing folder view with
  | nil =>
      obtain rfl : folder = after := by simpa using ran
      exact ⟨view, .refl [] view, denotes⟩
  | cons run runs ih =>
      obtain ⟨outcome, middle, -, accounts, denotesMiddle⟩ :=
        @execute_accounts T core nodes libs opening base publisherText lawful apart run folder
          view denotes
      rw [StateMachine.run_cons_some _ rfl] at ran
      obtain ⟨next, kept, denotesNext⟩ := ih denotesMiddle ran
      exact ⟨next, accounts.kept.trans kept, denotesNext⟩

/-- After any sequence of runs, whatever system calls failed in them and wherever they
stopped, the store opens again and every record loads; no history record and no retained key
was lost, and active keys were replaced only where the user confirmed it. -/
theorem clientRuns_keep_records (lawful : libs.Lawful) (derives : opening.Derives libs)
    (apart : Function.Injective publisherText)
    {runs : List ClientRun} {folder after : Folder} {view : StoreView}
    (denotes : folder.Denotes libs opening base publisherText view)
    (ran : (clientMachine core nodes libs opening base publisherText).run folder runs =
      some after)
    {disk : Disk} (stores : after.Stores base publisherText disk) :
    ∃ root opened, (opening.program libs).run diskHandler disk = (.ok root, opened) ∧
      ∃ next, view.KeptBy (runs.flatMap (·.inputs)) next ∧
        (∀ site, (fileHandler libs root (.loadIdentity site) opened).1 =
          .ok (next.identity site)) ∧
        ∀ publisher, (fileHandler libs root (.loadHistory publisher) opened).1 =
          .ok (next.histories publisher) := by
  obtain ⟨next, kept, denotesNext⟩ := clientRuns_denote lawful apart denotes ran
  obtain ⟨root, returned, opened⟩ :=
    opening.run_program lawful (denotesNext.of_stores stores) derives
  refine ⟨root, _, Prod.ext returned rfl, next, kept, fun site => ?_, fun publisher => ?_⟩
  · have answered := (fileHandler_view lawful (.loadIdentity site) opened.valid).1
    rw [opened.denotes] at answered
    exact answered
  · have answered := (fileHandler_view lawful (.loadHistory publisher) opened.valid).1
    rw [opened.denotes] at answered
    exact answered

namespace SampleFolder

/-- A first run that is stopped after its store key was written, and a run in which the write
of the observed identity fails. -/
def crashingRuns : List ClientRun :=
  [{ request := SampleCore.read ⟨.alpha, 1, 1, 0⟩
     inputs := SampleCore.linkFrames
     faults := List.replicate 12 .proceed ++ [.stop] },
   { request := SampleCore.read ⟨.alpha, 1, 1, 0⟩
     inputs := SampleCore.linkFrames
     faults := List.replicate 12 .proceed ++ [.fail ⟨"Input/output error"⟩] }]

theorem folder_denotes (opening : StoreOpen) :
    folder.Denotes SampleLibs.libs opening base publisherText .empty :=
  ⟨_, folder.stores_disk, .unused rfl rfl fun _ _ => rfl⟩

end SampleFolder

theorem clientRuns_refine_crashing :
    RefinesViews SampleCore.core SampleCore.linkNodes SampleLibs.libs .integrity
      SampleFolder.base SampleFolder.publisherText .empty SampleFolder.folder
      SampleFolder.crashingRuns :=
  clientRuns_refine SampleLibs.lawful SampleFolder.publisherText_injective _
    (SampleFolder.folder_denotes .integrity)

theorem clientRuns_keep_records_crashing :
    ∃ after, (clientMachine SampleCore.core SampleCore.linkNodes SampleLibs.libs
        (.encrypted "correct horse") SampleFolder.base SampleFolder.publisherText).run
          SampleFolder.folder SampleFolder.crashingRuns = some after ∧
      ∃ root opened, (StoreRoot.openEncrypted SampleLibs.libs "correct horse").run diskHandler
          (after.disk SampleFolder.base SampleFolder.publisherText) = (.ok root, opened) ∧
        ∃ next, StoreView.empty.KeptBy (SampleFolder.crashingRuns.flatMap (·.inputs)) next ∧
          (∀ site, (fileHandler SampleLibs.libs root (.loadIdentity site) opened).1 =
            .ok (next.identity site)) ∧
          ∀ publisher, (fileHandler SampleLibs.libs root (.loadHistory publisher) opened).1 =
            .ok (next.histories publisher) := by
  have derives : (StoreOpen.encrypted "correct horse").Derives SampleLibs.libs := by
    intro salt
    have longEnough : ¬ salt.bytes.length < 8 := by simp [salt.length_eq]
    refine ⟨seedBytes (UInt8.ofNat "correct horse".length), ?_⟩
    simp only [deriveKey, SampleLibs.libs, if_neg longEnough, mapErr_ok]
  exact ⟨_, rfl, clientRuns_keep_records SampleLibs.lawful derives
    SampleFolder.publisherText_injective (SampleFolder.folder_denotes _) rfl
    (Folder.stores_disk _)⟩

end EntangledClient
