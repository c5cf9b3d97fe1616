import EntangledClient.AllOrNothing
import EntangledClient.LayeredRuns

/-!
# The files of a store as system calls

Each call on the store directory is carried out by system calls, any of which may fail or be
the last one before the process stops.  A program over the store files, carried out so, does
what it does with files that are written at once, for some random bytes and under some faults
of its own calls.
-/

namespace EntangledClient

open CallTree

/-! ### The code -/

/-- The calls of a write, and the read of a whole file. -/
inductive SystemCall
  | folder (call : FolderCall)
  | read (path : FilePath)
  deriving DecidableEq

/-- A `read` answers `none` where the error is `NotFound`. -/
@[reducible]
def SystemCall.Result : SystemCall → Type
  | .folder call => call.Result
  | .read _ => Option Bytes

@[reducible]
def systemInterface : Interface where
  Call := SystemCall
  Result := SystemCall.Result
  Error := StoreError

abbrev SystemProgram := Program systemInterface

def systemHandler : Handler systemInterface Folder
  | .folder call, folder => folderHandler call folder
  | .read path, folder => (.ok (folder.files path), folder)

/-- A program of the write calls among all system calls. -/
def inSystem {α : Type} : FolderProgram α → SystemProgram α
  | .ret outcome => .ret outcome
  | .call request resume =>
      .call (.folder request) fun (reply : folderInterface.Reply request) =>
        inSystem (resume reply)

/-- One call, with a text in front of its error. -/
def performIn (context : String) (request : SystemCall) : SystemProgram request.Result :=
  (Program.perform (I := systemInterface) request).mapError fun error =>
    ⟨context ++ error.message⟩

/-- `ensure_dirs` -/
def ensureDirsIn (base : FilePath) : SystemProgram Unit :=
  ["", "identities", "history"].forM fun sub =>
    let dir := if sub = "" then base else base.join sub
    performIn ("create " ++ dir.display ++ ": ") (.folder (.createDirAll dir))

/-- `read_file_opt` -/
def readFileOptIn (path : FilePath) : SystemProgram (Option Bytes) :=
  performIn ("read " ++ path.display ++ ": ") (.read path)

section System

variable (base : FilePath) (publisherText : PublisherPubkey → String)

/-- The system calls that carry out a call on the store files. -/
def systemMethod : (request : FileCall) → SystemProgram request.Result
  | .ensureDirs => ensureDirsIn base
  | .readFileOpt path => readFileOptIn (path.filePath base publisherText)
  | .writeAtomic path bytes =>
      inSystem (Folder.writeAtomic (path.filePath base publisherText) bytes)
  | .getrandom length => performIn "rng: " (.folder (.getrandom length))

/-- A program over the store files, down to its system calls. -/
def onSystem {α : Type} (program : FileProgram α) : SystemProgram (Except Failure α) :=
  program.carriedOut (systemMethod base publisherText) Failure.err

/-! ### The calls that write nothing -/

section Calls

variable {base} {publisherText}

theorem runFaulty_inSystem {α : Type} (program : FolderProgram α)
    (faults : List (Fault StoreError)) (folder : Folder) :
    (inSystem program).runFaulty systemHandler faults folder =
      program.runFaulty folderHandler faults folder := by
  induction program generalizing faults folder with
  | ret outcome => rfl
  | call request resume ih =>
      simp only [inSystem, Program.runFaulty]
      have sameAnswer : Handler.answer (I := systemInterface) systemHandler
          (faults.headD .proceed) (.folder request) folder =
          Handler.answer (I := folderInterface) folderHandler (faults.headD .proceed)
            request folder := by
        cases faults.headD .proceed <;> rfl
      rw [sameAnswer]
      cases Handler.answer (I := folderInterface) folderHandler (faults.headD .proceed) request
        folder with
      | mk reply after =>
          cases reply with
          | none => rfl
          | some reply => exact ih reply faults.tail after

theorem runFaulty_performIn (context : String) (request : SystemCall)
    (faults : List (Fault StoreError)) (folder : Folder) :
    (performIn context request).runFaulty systemHandler faults folder =
      match faults.headD .proceed with
      | .proceed =>
          (some ((systemHandler request folder).1.mapError fun error =>
            ⟨context ++ error.message⟩), (systemHandler request folder).2)
      | .fail error => (some (.error ⟨context ++ error.message⟩), folder)
      | .stop => (none, folder) := by
  simp only [performIn, Program.perform, Program.mapError, Program.runFaulty]
  cases faults.headD .proceed <;> rfl

/-- Making the directories changes no file. -/
theorem runFaulty_ensureDirsIn (faults : List (Fault StoreError)) (folder : Folder) :
    ((ensureDirsIn base).runFaulty systemHandler faults folder).2 = folder := by
  have unchanged : ∀ request state, (∃ dir, request = .folder (.createDirAll dir)) →
      state = folder → (systemHandler request state).2 = folder := by
    rintro _ state ⟨dir, rfl⟩ rfl
    rfl
  have one : ∀ context dir, (performIn context (.folder (.createDirAll dir))).CallsWithin
      fun request => ∃ dir, request = SystemCall.folder (.createDirAll dir) :=
    fun _ dir => ⟨⟨dir, rfl⟩, fun _ => trivial⟩
  refine Program.runFaulty_preserves (I := systemInterface) systemHandler unchanged ?_ faults rfl
  exact .bind (one _ _) fun _ => .bind (one _ _) fun _ => .bind (one _ _) fun _ => .pure ()

end Calls

/-! ### The writes -/

section Writes

variable {base} {publisherText}

/-- The store files in a folder. -/
def Folder.storeFiles (base : FilePath) (publisherText : PublisherPubkey → String)
    (folder : Folder) (path : StorePath) : Option Bytes :=
  folder.files (path.filePath base publisherText)

/-- A disk with the store files of a folder. -/
def Folder.disk (base : FilePath) (publisherText : PublisherPubkey → String) (folder : Folder) :
    Disk where
  files := folder.storeFiles base publisherText
  entropy _ := 0

theorem Folder.stores_disk (folder : Folder) :
    folder.Stores base publisherText (folder.disk base publisherText) :=
  fun _ => rfl

theorem storeFiles_of_others {stored : StorePath} {nonce : FixedBytes 8} {folder after : Folder}
    (others : ∀ other, other ≠ tempPath (stored.filePath base publisherText) nonce →
      after.files other = folder.files other) :
    after.storeFiles base publisherText = folder.storeFiles base publisherText := by
  funext path
  exact others _ (tempPath_ne_filePath (fileName_filePath stored) nonce path).symm

/-- The closure refuses a temporary name that is taken. -/
theorem safely_replaceThrough_taken {tmp path : FilePath} {bytes : Bytes}
    {moment : Folder → Prop} {folder : Folder} (taken : folder.files tmp ≠ none)
    (here : moment folder) :
    (replaceThrough tmp path bytes).Safely folderHandler moment
      (fun _ outcome after => (∃ error, outcome = .error error) ∧ after = folder) folder := by
  have refused : folderHandler (.createNew tmp) folder = (.error fileExists, folder) := by
    simp [folderHandler, taken]
  refine .bind (.mapError (.perform (fun _ => ⟨⟨_, rfl⟩, rfl⟩) ?_ ?_))
  · rw [refused]
    exact here
  · rw [refused]
    exact ⟨⟨_, rfl⟩, rfl⟩

theorem safely_cleanUp {tmp : FilePath} {moment : Folder → Prop} {folder : Folder}
    (error : StoreError) (here : moment folder)
    (removed : moment (folderHandler (.removeFile tmp) folder).2) :
    (do
      let _ ← (Program.perform (I := folderInterface) (.removeFile tmp)).attempt some
      .ret (.error error) : FolderProgram Unit).Safely folderHandler moment
        (fun _ outcome after => (∃ error, outcome = .error error) ∧ moment after) folder := by
  refine .bind (.attempt (.perform (fun _ => ⟨⟨error, rfl⟩, here⟩) removed ?_))
  cases (folderHandler (.removeFile tmp) folder).1 <;> exact ⟨⟨error, rfl⟩, removed⟩

/-- A write whose temporary name is taken is refused and touches no store file; the clean-up
removes the file that has the name. -/
theorem safely_writeAtomic_taken {stored : StorePath} {bytes : Bytes} {folder : Folder}
    (taken : folder.files (tempPath (stored.filePath base publisherText) (folder.drawn 8)) ≠
      none) :
    (Folder.writeAtomic (stored.filePath base publisherText) bytes).Safely folderHandler
      (fun moment => moment.storeFiles base publisherText = folder.storeFiles base publisherText)
      (fun _ outcome after =>
        (∃ error, outcome = .error error) ∧
          after.storeFiles base publisherText = folder.storeFiles base publisherText)
      folder := by
  obtain ⟨content, present⟩ := Option.ne_none_iff_exists'.mp taken
  cases isParent : (stored.filePath base publisherText).parent with
  | none =>
      simp only [Folder.writeAtomic, isParent]
      exact ⟨⟨_, rfl⟩, rfl⟩
  | some dir =>
      have removed : (folderHandler (.removeFile
          (tempPath (stored.filePath base publisherText) (folder.drawn 8)))
          (folder.afterDraw 8)).2.storeFiles base publisherText =
            folder.storeFiles base publisherText := by
        refine @storeFiles_of_others base publisherText stored (folder.drawn 8) folder _ ?_
        intro other different
        simp [folderHandler, Folder.afterDraw, present, Folder.put, different]
      have refused := @safely_replaceThrough_taken _ (stored.filePath base publisherText) bytes
        (fun moment => moment.storeFiles base publisherText =
          folder.storeFiles base publisherText) (folder.afterDraw 8) taken rfl
      simp only [Folder.writeAtomic, isParent]
      refine .bind (.mapError (.perform (fun _ => ⟨⟨_, rfl⟩, rfl⟩) rfl ?_))
      refine .bind (.mapError (.perform (fun _ => ⟨⟨_, rfl⟩, rfl⟩) rfl ?_))
      refine .bind (.attempt (refused.mono ?_))
      rintro _ _ _ ⟨⟨error, rfl⟩, rfl⟩
      exact safely_cleanUp error rfl removed

/-- What a write of a store file does to the store files, whatever calls fail, wherever it
stops and whatever its temporary name is. -/
inductive StoreWrite (base : FilePath) (publisherText : PublisherPubkey → String)
    (stored : StorePath) (bytes : Bytes) (folder : Folder) :
    Option (Except StoreError Unit) × Folder → Prop
  | replaced (outcome : Option (Except StoreError Unit)) (after : Folder)
      (isOk : outcome = none ∨ outcome = some (.ok ()))
      (files : after.storeFiles base publisherText =
        Function.update (folder.storeFiles base publisherText) stored (some bytes)) :
      StoreWrite base publisherText stored bytes folder (outcome, after)
  | unchanged (outcome : Option (Except StoreError Unit)) (after : Folder)
      (notOk : outcome ≠ some (.ok ()))
      (files : after.storeFiles base publisherText = folder.storeFiles base publisherText) :
      StoreWrite base publisherText stored bytes folder (outcome, after)

theorem writeRun_storeWrite (apart : Function.Injective publisherText) (stored : StorePath)
    (bytes : Bytes) (faults : List (Fault StoreError)) (folder : Folder) :
    StoreWrite base publisherText stored bytes folder
      (folder.writeRun (stored.filePath base publisherText) bytes faults) := by
  by_cases absent :
      folder.files (tempPath (stored.filePath base publisherText) (folder.drawn 8)) = none
  · have start : folder.Stores base publisherText
        ⟨folder.storeFiles base publisherText, fun _ => 0⟩ := fun _ => rfl
    obtain ⟨fault, stores, answers⟩ := writeAtomic_refines apart start stored bytes faults absent
    cases ran : folder.writeRun (stored.filePath base publisherText) bytes faults with
    | mk outcome after =>
        rw [ran] at stores answers
        have files := funext stores
        cases fault with
        | proceed =>
            refine .replaced outcome after ?_ files
            cases outcome with
            | none => exact .inl rfl
            | some result =>
                cases result with
                | ok done => exact .inr rfl
                | error error => cases answers _ rfl
        | fail error =>
            refine .unchanged outcome after ?_ files
            rintro rfl
            cases answers _ rfl
        | stop =>
            refine .unchanged outcome after ?_ files
            rintro rfl
            cases answers _ rfl
  · have safely := @safely_writeAtomic_taken base publisherText stored bytes folder absent
    have unchanged := safely.run_after rfl faults
    have ends := (safely.run rfl faults).2
    cases ran : folder.writeRun (stored.filePath base publisherText) bytes faults with
    | mk outcome after =>
        rw [← Folder.writeRun, ran] at unchanged ends
        refine .unchanged outcome after ?_ unchanged
        rintro rfl
        obtain ⟨⟨error, isError⟩, -⟩ := ends _ rfl
        cases isError

end Writes

/-! ### The layer -/

namespace Disk

/-- The disk before these bytes were drawn from it. -/
def beforeDraw (disk : Disk) {length : Nat} (drawn : FixedBytes length) : Disk :=
  { disk with
    entropy := fun index => drawn.bytes.getD index (disk.entropy (index - length)) }

@[simp]
theorem drawn_beforeDraw (disk : Disk) {length : Nat} (drawn : FixedBytes length) :
    (disk.beforeDraw drawn).drawn length = drawn := by
  obtain ⟨bytes, rfl⟩ := drawn
  simp only [Disk.drawn, beforeDraw, FixedBytes.mk.injEq]
  refine List.ext_getElem (by simp) fun index _ inBytes => ?_
  simp [inBytes]

@[simp]
theorem afterDraw_beforeDraw (disk : Disk) {length : Nat} (drawn : FixedBytes length) :
    (disk.beforeDraw drawn).afterDraw length = disk := by
  have past : ∀ index, drawn.bytes[length + index]? = none := fun index => by
    rw [List.getElem?_eq_none_iff, drawn.length_eq]
    exact Nat.le_add_right ..
  simp [beforeDraw, afterDraw, past]

end Disk

section Layer

variable {base} {publisherText}

/-- A call that leaves the store files alone, and is answered as on the disk after it. -/
theorem answers_unwritten {request : FileCall} {folder after : Folder} {disk : Disk}
    {outcome : Option (Except StoreError request.Result)}
    (stores : after.Stores base publisherText disk)
    (sameFiles : after.files = folder.files)
    (unwritten : (diskHandler request disk).2 = disk)
    (answered : ∀ value, outcome = some (.ok value) → (diskHandler request disk).1 = .ok value) :
    Handler.Answers (I := fileInterface) (J := systemInterface) diskHandler
      (folder.Stores base publisherText) Failure.err request outcome disk := by
  have start : folder.Stores base publisherText disk := fun path => sameFiles ▸ stores path
  cases outcome with
  | none => exact ⟨disk, .stop, start, rfl, fun result returned => by cases returned⟩
  | some result =>
      cases result with
      | ok value =>
          refine ⟨disk, .proceed, start, unwritten, ?_⟩
          rintro _ ⟨⟩
          exact congrArg some (answered value rfl)
      | error error =>
          refine ⟨disk, .fail (.err error), start, rfl, ?_⟩
          rintro _ ⟨⟩
          rfl

theorem answers_readFileOpt (stored : StorePath) (faults : List (Fault StoreError))
    (folder : Folder) (disk : Disk)
    (stores : ((readFileOptIn (stored.filePath base publisherText)).runFaulty systemHandler
      faults folder).2.Stores base publisherText disk) :
    Handler.Answers (I := fileInterface) (J := systemInterface) diskHandler
      (folder.Stores base publisherText) Failure.err (.readFileOpt stored)
      ((readFileOptIn (stored.filePath base publisherText)).runFaulty systemHandler faults
        folder).1 disk := by
  rw [readFileOptIn, runFaulty_performIn] at stores ⊢
  revert stores
  cases faults.headD .proceed with
  | proceed =>
      intro stores
      refine answers_unwritten stores rfl rfl fun file answered => ?_
      obtain rfl : folder.files (stored.filePath base publisherText) = file :=
        Except.ok.inj (Option.some.inj answered)
      exact congrArg Except.ok (stores stored).symm
  | fail error =>
      intro stores
      exact answers_unwritten stores rfl rfl fun file answered => by cases answered
  | stop =>
      intro stores
      exact answers_unwritten stores rfl rfl fun file answered => by cases answered

/-- The call that draws random bytes settles which ones the disk had. -/
theorem answers_getrandom (length : Nat) (faults : List (Fault StoreError)) (folder : Folder)
    (disk : Disk)
    (stores : ((performIn "rng: " (.folder (.getrandom length))).runFaulty systemHandler faults
      folder).2.Stores base publisherText disk) :
    Handler.Answers (I := fileInterface) (J := systemInterface) diskHandler
      (folder.Stores base publisherText) Failure.err (.getrandom length)
      ((performIn "rng: " (.folder (.getrandom length))).runFaulty systemHandler faults
        folder).1 disk := by
  rw [runFaulty_performIn] at stores ⊢
  revert stores
  cases faults.headD .proceed with
  | proceed =>
      intro stores
      refine ⟨disk.beforeDraw (folder.drawn length), .proceed, stores, ?_, ?_⟩
      · exact disk.afterDraw_beforeDraw (folder.drawn length)
      · rintro _ ⟨⟩
        exact congrArg (some ∘ Except.ok) (disk.drawn_beforeDraw (folder.drawn length))
  | fail error =>
      intro stores
      refine ⟨disk, .fail (.err ⟨"rng: " ++ error.message⟩), stores, rfl, ?_⟩
      rintro _ ⟨⟩
      rfl
  | stop =>
      intro stores
      exact ⟨disk, .stop, stores, rfl, fun result returned => by cases returned⟩

/-- The call that writes a file: the disk has the file, or the write failed, or the process
stopped before or after the rename. -/
theorem answers_writeAtomic (apart : Function.Injective publisherText) (stored : StorePath)
    (bytes : Bytes) (faults : List (Fault StoreError)) (folder : Folder) (disk : Disk)
    (stores : ((inSystem (Folder.writeAtomic (stored.filePath base publisherText)
      bytes)).runFaulty systemHandler faults folder).2.Stores base publisherText disk) :
    Handler.Answers (I := fileInterface) (J := systemInterface) diskHandler
      (folder.Stores base publisherText) Failure.err (.writeAtomic stored bytes)
      ((inSystem (Folder.writeAtomic (stored.filePath base publisherText) bytes)).runFaulty
        systemHandler faults folder).1 disk := by
  rw [runFaulty_inSystem] at stores ⊢
  have writes := @writeRun_storeWrite base publisherText apart stored bytes faults folder
  rw [Folder.writeRun] at writes
  cases ran : (Folder.writeAtomic (stored.filePath base publisherText) bytes).runFaulty
      folderHandler faults folder with
  | mk outcome after =>
      rw [ran] at writes stores
      have diskFiles : disk.files = after.storeFiles base publisherText :=
        (funext stores).symm
      cases writes with
      | replaced _ _ isOk files =>
          have before : (Disk.afterDraw ⟨folder.storeFiles base publisherText,
              disk.entropy ∘ (· - 8)⟩ 8).write stored bytes = disk := by
            obtain ⟨diskEntropy, entropy⟩ := disk
            obtain rfl := diskFiles
            simp only [Disk.write, Disk.afterDraw, files, Function.comp_def,
              Nat.add_sub_cancel_left]
          refine ⟨⟨folder.storeFiles base publisherText, disk.entropy ∘ (· - 8)⟩, .proceed,
            fun _ => rfl, before, ?_⟩
          rintro result rfl
          obtain rfl : result = .ok () := by simpa using isOk
          rfl
      | unchanged _ _ notOk files =>
          have start : folder.Stores base publisherText disk := fun path => by
            rw [diskFiles, files]
            rfl
          cases outcome with
          | none => exact ⟨disk, .stop, start, rfl, fun result returned => by cases returned⟩
          | some result =>
              cases result with
              | ok done => exact absurd rfl notOk
              | error error =>
                  refine ⟨disk, .fail (.err error), start, rfl, ?_⟩
                  rintro _ ⟨⟩
                  rfl

/-- The store files of a folder are a disk, whose calls are carried out by system calls. -/
theorem systemLayer (apart : Function.Injective publisherText) :
    Layer (I := fileInterface) (J := systemInterface) diskHandler systemHandler
      (systemMethod base publisherText) Failure.err (fun _ => True)
      (fun disk folder => folder.Stores base publisherText disk) where
  keeps _ _ _ _ := trivial
  answers := by
    intro request faults folder disk _ stores
    cases request with
    | ensureDirs =>
        have unchanged := @runFaulty_ensureDirsIn base faults folder
        exact answers_unwritten stores (congrArg Folder.files unchanged) rfl fun _ _ => rfl
    | readFileOpt path => exact answers_readFileOpt path faults folder disk stores
    | getrandom length => exact answers_getrandom length faults folder disk stores
    | writeAtomic path bytes => exact answers_writeAtomic apart path bytes faults folder disk stores

end Layer

/-- Any program over the store files, run by system calls under any faults of these, does to
the files what it does on a disk with these files, for some random bytes and some faults of
whole calls, and returns what it returns there. -/
theorem fileProgram_onSystem_refines {α : Type} (apart : Function.Injective publisherText)
    (program : FileProgram α) (faults : List (Fault StoreError)) (folder : Folder)
    {disk : Disk}
    (stores : ((onSystem base publisherText program).runFaulty systemHandler faults
      folder).2.Stores base publisherText disk) :
    ∃ start fileFaults, folder.Stores base publisherText start ∧
      (program.runFaulty diskHandler fileFaults start).2 = disk ∧
      ∀ outcome,
        ((onSystem base publisherText program).runFaulty systemHandler faults folder).1 =
          some outcome →
        ∃ result, outcome = .ok result ∧
          (program.runFaulty diskHandler fileFaults start).1 = some result := by
  have layer := @systemLayer base publisherText apart
  exact (layer.runFaulty program faults trivial).2 disk stores

end System

namespace SampleFolder

def publisherText (publisher : PublisherPubkey) : String :=
  LowerHex.encode publisher.key.bytes

theorem publisherText_injective : Function.Injective publisherText := by
  rintro ⟨⟨first, firstLength⟩⟩ ⟨⟨second, secondLength⟩⟩ same
  have decoded := congrArg LowerHex.decode same
  simp only [publisherText, LowerHex.decode_encode, Option.some.injEq] at decoded
  subst decoded
  rfl

/-- The write of a key whose rename fails, and whose clean-up is not reached. -/
def cutWrite : Option (Except StoreError (Except Failure Unit)) × Folder :=
  (onSystem base publisherText (writeAtomic .storeKey [1, 2])).runFaulty systemHandler
    [.proceed, .proceed, .proceed, .proceed, .proceed, .fail ⟨"Input/output error"⟩, .stop] folder

theorem fileProgram_onSystem_refines_cutWrite :
    ∃ start fileFaults, folder.Stores base publisherText start ∧
      ((writeAtomic .storeKey [1, 2]).runFaulty diskHandler fileFaults start).2 =
        cutWrite.2.disk base publisherText ∧
      ∀ outcome, cutWrite.1 = some outcome → ∃ result, outcome = .ok result ∧
        ((writeAtomic .storeKey [1, 2]).runFaulty diskHandler fileFaults start).1 =
          some result :=
  fileProgram_onSystem_refines base publisherText publisherText_injective _ _ folder
    (Folder.stores_disk _)

end SampleFolder

end EntangledClient
