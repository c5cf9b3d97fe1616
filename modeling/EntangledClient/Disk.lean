import EntangledClient.StoreSeams

/-!
# The store directory

The stores read and write whole files of one directory and draw random bytes.
A write replaces a file at once, and no file is removed.
-/

namespace EntangledClient

open CallTree

/-- The files of a store, relative to its base directory. -/
inductive StorePath
  | storeKey
  | storeMeta
  | identity (site : OnionAddress)
  | history (publisher : PublisherPubkey)
  deriving DecidableEq

/-- The file of an identity or of a history. -/
def StorePath.IsRecord : StorePath → Prop
  | .identity _ | .history _ => True
  | .storeKey | .storeMeta => False

instance : DecidablePred StorePath.IsRecord
  | .identity _ | .history _ => isTrue trivial
  | .storeKey | .storeMeta => isFalse id

inductive FileCall
  | ensureDirs
  | readFileOpt (path : StorePath)
  | writeAtomic (path : StorePath) (bytes : Bytes)
  | getrandom (length : Nat)
  deriving DecidableEq

@[reducible]
def FileCall.Result : FileCall → Type
  | .ensureDirs => Unit
  | .readFileOpt _ => Option Bytes
  | .writeAtomic _ _ => Unit
  | .getrandom length => FixedBytes length

@[reducible]
def fileInterface : Interface where
  Call := FileCall
  Result := FileCall.Result
  Error := Failure

abbrev FileProgram := Program fileInterface

def ensureDirs : FileProgram Unit :=
  Program.perform (I := fileInterface) .ensureDirs

def readFileOpt (path : StorePath) : FileProgram (Option Bytes) :=
  Program.perform (I := fileInterface) (.readFileOpt path)

def writeAtomic (path : StorePath) (bytes : Bytes) : FileProgram Unit :=
  Program.perform (I := fileInterface) (.writeAtomic path bytes)

def getrandom (length : Nat) : FileProgram (FixedBytes length) :=
  Program.perform (I := fileInterface) (.getrandom length)

/-- A step that calls nothing. -/
def ofResult {α : Type} (result : Except Failure α) : FileProgram α :=
  .ret result

/-- The files, and the random bytes yet to be drawn. -/
structure Disk where
  files : StorePath → Option Bytes
  entropy : Nat → UInt8

namespace Disk

def write (disk : Disk) (path : StorePath) (bytes : Bytes) : Disk :=
  { disk with files := Function.update disk.files path (some bytes) }

/-- The next `length` random bytes. -/
def drawn (disk : Disk) (length : Nat) : FixedBytes length :=
  ⟨(List.range length).map disk.entropy, by simp⟩

def afterDraw (disk : Disk) (length : Nat) : Disk :=
  { disk with entropy := fun index => disk.entropy (length + index) }

@[simp]
theorem files_write_same (disk : Disk) (path : StorePath) (bytes : Bytes) :
    (disk.write path bytes).files path = some bytes := by
  simp [write]

theorem files_write_other (disk : Disk) {path other : StorePath} (different : other ≠ path)
    (bytes : Bytes) : (disk.write path bytes).files other = disk.files other := by
  simp [write, different]

@[simp]
theorem files_afterDraw (disk : Disk) (length : Nat) :
    (disk.afterDraw length).files = disk.files :=
  rfl

end Disk

/-- The calls on a disk without I/O errors.  A write draws the eight bytes that
name its temporary file. -/
def diskHandler : Handler fileInterface Disk
  | .ensureDirs, disk => (.ok (), disk)
  | .readFileOpt path, disk => (.ok (disk.files path), disk)
  | .writeAtomic path bytes, disk => (.ok (), (disk.afterDraw 8).write path bytes)
  | .getrandom length, disk => (.ok (disk.drawn length), disk.afterDraw length)

section Runs

variable (disk : Disk)

@[simp]
theorem run_ensureDirs : ensureDirs.run diskHandler disk = (.ok (), disk) :=
  rfl

@[simp]
theorem run_readFileOpt (path : StorePath) :
    (readFileOpt path).run diskHandler disk = (.ok (disk.files path), disk) :=
  rfl

@[simp]
theorem run_writeAtomic (path : StorePath) (bytes : Bytes) :
    (writeAtomic path bytes).run diskHandler disk =
      (.ok (), (disk.afterDraw 8).write path bytes) :=
  rfl

@[simp]
theorem run_getrandom (length : Nat) :
    (getrandom length).run diskHandler disk =
      (.ok (disk.drawn length), disk.afterDraw length) :=
  rfl

@[simp]
theorem run_ofResult {α : Type} (result : Except Failure α) :
    (ofResult result).run diskHandler disk = (result, disk) :=
  rfl

end Runs

/-! ### Files that a program leaves alone -/

/-- A call that does not write this file. -/
def Spares (path : StorePath) : FileCall → Prop
  | .writeAtomic other _ => path ≠ other
  | .ensureDirs | .readFileOpt _ | .getrandom _ => True

theorem handle_spares {request : FileCall} {path : StorePath} (spared : Spares path request)
    (disk : Disk) : (diskHandler request disk).2.files path = disk.files path := by
  cases request with
  | ensureDirs | readFileOpt other | getrandom length => rfl
  | writeAtomic other bytes => exact Disk.files_write_other _ spared bytes

/-- A program that never writes a file leaves it as it was. -/
theorem run_spares {α : Type} {program : FileProgram α} {path : StorePath}
    (spares : program.CallsWithin (Spares path)) (disk : Disk) :
    (program.run diskHandler disk).2.files path = disk.files path := by
  have step : ∀ request (after : Disk), Spares path request →
      after.files path = disk.files path →
      (diskHandler request after).2.files path = disk.files path :=
    fun _ after spared same => (handle_spares spared after).trans same
  exact Program.run_preserves (I := fileInterface) diskHandler step spares rfl

/-- So it does when calls fail or it is stopped. -/
theorem runFaulty_spares {α : Type} {program : FileProgram α} {path : StorePath}
    (spares : program.CallsWithin (Spares path)) (faults : List (Fault Failure)) (disk : Disk) :
    (program.runFaulty diskHandler faults disk).2.files path = disk.files path := by
  have step : ∀ request (after : Disk), Spares path request →
      after.files path = disk.files path →
      (diskHandler request after).2.files path = disk.files path :=
    fun _ after spared same => (handle_spares spared after).trans same
  exact Program.runFaulty_preserves (I := fileInterface) diskHandler step spares faults rfl

end EntangledClient
