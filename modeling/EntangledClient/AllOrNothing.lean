import EntangledClient.AtomicWrites
import EntangledClient.StoreProtection

/-!
# Writes of store files

At every moment of a write, under any faults, its target has the old content or the new
one.  So the atomic write that the stores are modelled with is what the calls of a write
amount to.
-/

namespace EntangledClient

open CallTree

/-- The path of a store file. -/
def StorePath.filePath (base : FilePath) (publisherText : PublisherPubkey → String) :
    StorePath → FilePath
  | .storeKey => base.join "store-key"
  | .storeMeta => base.join "store-meta.json"
  | .identity site => (base.join "identities").join (site.text ++ ".json")
  | .history publisher => (base.join "history").join (publisherText publisher ++ ".json")

/-- The calls of a write under these faults. -/
def Folder.writeCalls (path : FilePath) (bytes : Bytes) (faults : List (Fault StoreError))
    (folder : Folder) : List (TracedCall folderInterface Folder) :=
  (Folder.writeAtomic path bytes).trace folderHandler faults folder

/-- What a write returns, unless it is stopped, and the folder after it. -/
def Folder.writeRun (path : FilePath) (bytes : Bytes) (faults : List (Fault StoreError))
    (folder : Folder) : Option (Except StoreError Unit) × Folder :=
  (Folder.writeAtomic path bytes).runFaulty folderHandler faults folder

/-- At every moment of a write the target has the old content or the new one, and nothing
but the temporary file is touched besides; so no store file is.  After `Ok` the target has
the new content and the rest is as it was; after `Err` the target is as it was, and so is
the rest, unless the clean-up failed. -/
structure AllOrNothing (path : FilePath) (bytes : Bytes) (faults : List (Fault StoreError))
    (folder : Folder) : Prop where
  target : ∀ traced ∈ folder.writeCalls path bytes faults,
    traced.after.files path = folder.files path ∨ traced.after.files path = some bytes
  others : ∀ traced ∈ folder.writeCalls path bytes faults, ∀ other, other ≠ path →
    other ≠ tempPath path (folder.drawn 8) → traced.after.files other = folder.files other
  storeFiles : ∀ traced ∈ folder.writeCalls path bytes faults,
    ∀ base publisherText (stored : StorePath), stored.filePath base publisherText ≠ path →
      traced.after.files (stored.filePath base publisherText) =
        folder.files (stored.filePath base publisherText)
  returnsOk : (folder.writeRun path bytes faults).1 = some (.ok ()) →
    (folder.writeRun path bytes faults).2.files =
      Function.update folder.files path (some bytes)
  returnsErr : ∀ error, (folder.writeRun path bytes faults).1 = some (.error error) →
    (folder.writeRun path bytes faults).2.files path = folder.files path
  cleaned : ∀ error, (folder.writeRun path bytes faults).1 = some (.error error) →
    (∀ traced ∈ folder.writeCalls path bytes faults, removeFailed traced = false) →
    (folder.writeRun path bytes faults).2.files = folder.files

/-! ### Names of store files -/

section Names

variable {base path : FilePath} {publisherText : PublisherPubkey → String}

theorem fileName_filePath (stored : StorePath) :
    (stored.filePath base publisherText).fileName ≠ none := by
  cases stored <;> simp [StorePath.filePath]

def lastChar (path : FilePath) : Option Char :=
  path.fileName.bind (·.toList.getLast?)

theorem lastChar_filePath (stored : StorePath) :
    lastChar (stored.filePath base publisherText) = some 'y' ∨
      lastChar (stored.filePath base publisherText) = some 'n' := by
  cases stored with
  | storeKey => exact .inl (by simp [lastChar, StorePath.filePath])
  | storeMeta => exact .inr (by simp [lastChar, StorePath.filePath])
  | identity site => exact .inr (by simp [lastChar, StorePath.filePath])
  | history publisher => exact .inr (by simp [lastChar, StorePath.filePath])

theorem lastChar_tempPath {nonce : FixedBytes 8} (target : path.fileName ≠ none)
    (named : (tempPath path nonce).fileName ≠ none) :
    ∃ value < 16, lastChar (tempPath path nonce) = some (LowerHex.digit value) := by
  have present : nonce.bytes ≠ [] := by
    intro empty
    have length := nonce.length_eq
    simp [empty] at length
  obtain ⟨value, small, isLast⟩ := LowerHex.getLast?_encodeChars present
  refine ⟨value, small, ?_⟩
  obtain ⟨name, isName⟩ := Option.ne_none_iff_exists'.mp target
  by_cases dots : FilePath.fileStem name = "."
  · simp [tempPath, FilePath.withExtension, isName, dots] at named
  · simp [lastChar, tempPath, FilePath.withExtension, isName, dots, LowerHex.encode,
      List.getLast?_cons, isLast]

theorem tempPath_of_unnamed (unnamed : path.fileName = none) (nonce : FixedBytes 8) :
    tempPath path nonce = path := by
  simp [tempPath, FilePath.withExtension, unnamed]

/-- No temporary file has the name of a store file. -/
theorem tempPath_ne_filePath (target : path.fileName ≠ none) (nonce : FixedBytes 8)
    (stored : StorePath) : tempPath path nonce ≠ stored.filePath base publisherText := by
  intro same
  have named : (tempPath path nonce).fileName ≠ none := same ▸ fileName_filePath stored
  obtain ⟨value, small, isDigit⟩ := lastChar_tempPath target named
  have noDigit : ∀ half : Fin 16, LowerHex.digit half.val ≠ 'y' ∧
      LowerHex.digit half.val ≠ 'n' := by decide
  rw [same] at isDigit
  rcases @lastChar_filePath base publisherText stored with isLast | isLast
  · exact (noDigit ⟨value, small⟩).1 (Option.some.inj (isDigit.symm.trans isLast))
  · exact (noDigit ⟨value, small⟩).2 (Option.some.inj (isDigit.symm.trans isLast))

/-- So no store file is its own temporary file. -/
theorem not_namesTarget (stored : StorePath) (nonce : FixedBytes 8) :
    ¬ NamesTarget (stored.filePath base publisherText) nonce :=
  fun names => tempPath_ne_filePath names.1 nonce stored names.2

end Names

/-- Every write of a target that is not the drawn temporary file itself is all or nothing,
whatever calls fail, however much each `write` takes and wherever the write stops. -/
theorem writeAtomic_allOrNothing (path : FilePath) (bytes : Bytes)
    (faults : List (Fault StoreError)) (folder : Folder)
    (absent : folder.files (tempPath path (folder.drawn 8)) = none)
    (unnamed : ¬ NamesTarget path (folder.drawn 8)) :
    AllOrNothing path bytes faults folder := by
  have safely := @safely_writeAtomic folder.files path bytes folder absent unnamed rfl
  obtain ⟨moments, ends⟩ := safely.run (.unchanged rfl) faults
  refine ⟨fun traced isTraced => (moments traced isTraced).1,
    fun traced isTraced => (moments traced isTraced).2, ?_, ?_, ?_, ?_⟩
  · intro traced isTraced base publisherText stored different
    refine (moments traced isTraced).2 _ different fun isTemp => ?_
    by_cases named : path.fileName = none
    · rw [tempPath_of_unnamed named] at isTemp
      exact different isTemp
    · exact tempPath_ne_filePath named _ stored isTemp.symm
  · intro returned
    exact ends _ returned
  · intro error returned
    exact (ends _ returned).1
  · intro error returned
    exact (ends _ returned).2

/-! ### The atomic write of the disk -/

section Refinement

variable {base : FilePath} {publisherText : PublisherPubkey → String}

/-- The store files are apart, if the texts of the publishers are. -/
theorem filePath_injective (apart : Function.Injective publisherText) :
    Function.Injective (StorePath.filePath base publisherText) := by
  intro first second same
  cases first <;> cases second <;>
    simp [StorePath.filePath, FilePath.join_inj] at same ⊢
  case identity.identity site other => exact congrArg OnionAddress.mk same
  case history.history publisher other => exact apart same

/-- The folder holds the files of the disk. -/
def Folder.Stores (base : FilePath) (publisherText : PublisherPubkey → String) (disk : Disk)
    (folder : Folder) : Prop :=
  ∀ stored : StorePath, folder.files (stored.filePath base publisherText) = disk.files stored

theorem Folder.stores_or_stores_write (apart : Function.Injective publisherText)
    {folder moment : Folder} {disk : Disk} (stores : folder.Stores base publisherText disk)
    {stored : StorePath} {bytes : Bytes} {nonce : FixedBytes 8}
    (others : ∀ other, other ≠ stored.filePath base publisherText →
      other ≠ tempPath (stored.filePath base publisherText) nonce →
      moment.files other = folder.files other) :
    (moment.files (stored.filePath base publisherText) =
        folder.files (stored.filePath base publisherText) →
      moment.Stores base publisherText disk) ∧
    (moment.files (stored.filePath base publisherText) = some bytes →
      moment.Stores base publisherText (disk.write stored bytes)) := by
  have same : ∀ {other : StorePath}, other ≠ stored →
      moment.files (other.filePath base publisherText) = disk.files other := by
    intro other different
    rw [← stores other]
    refine others _ (fun isStored => different (filePath_injective apart isStored)) ?_
    exact (tempPath_ne_filePath (fileName_filePath stored) nonce other).symm
  constructor
  · intro kept other
    by_cases isStored : other = stored
    · subst isStored
      exact kept.trans (stores other)
    · exact same isStored
  · intro written other
    by_cases isStored : other = stored
    · subst isStored
      rw [written, Disk.files_write_same]
    · rw [same isStored, Disk.files_write_other _ isStored]

/-- A write of a store file, call by call and under any faults, does what the atomic call
does under some fault. -/
theorem writeAtomic_refines (apart : Function.Injective publisherText) {folder : Folder}
    {disk : Disk} (stores : folder.Stores base publisherText disk) (stored : StorePath)
    (bytes : Bytes) (faults : List (Fault StoreError))
    (absent : folder.files
      (tempPath (stored.filePath base publisherText) (folder.drawn 8)) = none) :
    ∃ fault,
      (folder.writeRun (stored.filePath base publisherText) bytes faults).2.Stores base
        publisherText (diskHandler.answer fault (.writeAtomic stored bytes) disk).2 ∧
      ∀ outcome,
        (folder.writeRun (stored.filePath base publisherText) bytes faults).1 = some outcome →
        (diskHandler.answer fault (.writeAtomic stored bytes) disk).1 =
          some (asOutcome outcome) := by
  have safely := @safely_writeAtomic folder.files (stored.filePath base publisherText) bytes
    folder absent (not_namesTarget stored _) rfl
  obtain ⟨target, others⟩ := safely.run_after (.unchanged rfl) faults
  obtain ⟨_, ends⟩ := safely.run (.unchanged rfl) faults
  obtain ⟨kept, written⟩ := @Folder.stores_or_stores_write base publisherText apart folder _ disk
    stores stored bytes (folder.drawn 8) others
  cases ran : (folder.writeRun (stored.filePath base publisherText) bytes faults).1 with
  | none =>
      rcases target with unchanged | replaced
      · exact ⟨.stop, kept unchanged, fun outcome returned => by cases returned⟩
      · exact ⟨.proceed, written replaced, fun outcome returned => by cases returned⟩
  | some outcome =>
      have ends := ends outcome ran
      cases outcome with
      | ok done =>
          refine ⟨.proceed, written ?_, ?_⟩
          · rw [ends, Function.update_self]
          · rintro _ ⟨⟩
            rfl
      | error error =>
          refine ⟨.fail (.err error), kept ends.1, ?_⟩
          rintro _ ⟨⟩
          rfl

end Refinement

namespace SampleFolder

/-- A folder without files, whose first `write` takes one byte. -/
def folder : Folder where
  files _ := none
  entropy _ := 0
  accepts index := if index = 0 then 1 else 64

def base : FilePath where
  components := [.rootDir, .normal "store"]

/-- The write of a key that fails after its first byte. -/
theorem writeAtomic_allOrNothing_storeKey :
    AllOrNothing (StorePath.storeKey.filePath base fun _ => "publisher") [1, 2]
      [.proceed, .proceed, .proceed, .proceed, .fail ⟨"No space left on device (os error 28)"⟩]
      folder :=
  writeAtomic_allOrNothing _ _ _ folder rfl (not_namesTarget .storeKey _)

/-- The name of the temporary file that the folder's first random bytes give. -/
def ownTemporary : FilePath :=
  base.join "a.tmp-0000000000000000"

/-- A target of that name is its own temporary file, and is filled in place. -/
theorem own_temporary_half_written :
    folder.files (tempPath ownTemporary (folder.drawn 8)) = none ∧
      ¬ AllOrNothing ownTemporary [1, 2] [] folder := by
  refine ⟨rfl, fun allOrNothing => ?_⟩
  have halfWritten := allOrNothing.target _ (.tail _ (.tail _ (.tail _ (.head _))))
  exact absurd halfWritten (by decide)

end SampleFolder

end EntangledClient
