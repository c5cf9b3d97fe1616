import EntangledClient.Disk
import EntangledClient.FaultyRuns
import EntangledClient.FilePath
import EntangledClient.LowerHex

/-!
# Writes through a temporary file

A write of the store is not one step: it creates a temporary file next to the target,
fills it, syncs it and renames it over the target, and removes it if any of this fails.
Here each of these is a call of its own, on the files by their paths.
-/

namespace EntangledClient

open CallTree ExceptRules

/-- The calls of a write.  An interrupted `write` is made again, so it is no call here. -/
inductive FolderCall
  | createDirAll (dir : FilePath)
  | getrandom (length : Nat)
  | createNew (path : FilePath)
  | write (path : FilePath) (bytes : Bytes)
  | syncAll (path : FilePath)
  | rename (source target : FilePath)
  | removeFile (path : FilePath)
  deriving DecidableEq

/-- A `write` answers how many bytes it took. -/
@[reducible]
def FolderCall.Result : FolderCall → Type
  | .getrandom length => FixedBytes length
  | .write _ _ => Nat
  | .createDirAll _ | .createNew _ | .syncAll _ | .rename _ _ | .removeFile _ => Unit

/-- An I/O error is its text. -/
@[reducible]
def folderInterface : Interface where
  Call := FolderCall
  Result := FolderCall.Result
  Error := StoreError

abbrev FolderProgram := Program folderInterface

/-- The files by their paths, the random bytes yet to be drawn, and how many bytes each
coming `write` takes at most. -/
structure Folder where
  files : FilePath → Option Bytes
  entropy : Nat → UInt8
  accepts : Nat → Nat

namespace Folder

def drawn (folder : Folder) (length : Nat) : FixedBytes length :=
  ⟨(List.range length).map folder.entropy, by simp⟩

def afterDraw (folder : Folder) (length : Nat) : Folder :=
  { folder with entropy := fun index => folder.entropy (length + index) }

def put (folder : Folder) (path : FilePath) (content : Option Bytes) : Folder :=
  { folder with files := Function.update folder.files path content }

/-- Append the bytes that the next `write` takes. -/
def append (folder : Folder) (path : FilePath) (content bytes : Bytes) : Folder where
  files := Function.update folder.files path
    (some (content ++ bytes.take (folder.accepts 0)))
  entropy := folder.entropy
  accepts index := folder.accepts (index + 1)

end Folder

def noSuchFile : StoreError :=
  ⟨"No such file or directory (os error 2)"⟩

def fileExists : StoreError :=
  ⟨"File exists (os error 17)"⟩

/-- The calls on a folder without other I/O errors.  A path without a file name is a
directory, where no file can be created. -/
def folderHandler : Handler folderInterface Folder
  | .createDirAll _, folder => (.ok (), folder)
  | .getrandom length, folder => (.ok (folder.drawn length), folder.afterDraw length)
  | .createNew path, folder =>
      if path.fileName = none ∨ folder.files path ≠ none then (.error fileExists, folder)
      else (.ok (), folder.put path (some []))
  | .write path bytes, folder =>
      match folder.files path with
      | none => (.error noSuchFile, folder)
      | some content =>
          (.ok (min (folder.accepts 0) bytes.length), folder.append path content bytes)
  | .syncAll _, folder => (.ok (), folder)
  | .rename source target, folder =>
      match folder.files source with
      | none => (.error noSuchFile, folder)
      | some content =>
          if source = target then (.ok (), folder)
          else (.ok (), (folder.put target (some content)).put source none)
  | .removeFile path, folder =>
      match folder.files path with
      | none => (.error noSuchFile, folder)
      | some _ => (.ok (), folder.put path none)

/-- `map_err` with a text in front. -/
def inContext {α : Type} (context : String) (program : FolderProgram α) : FolderProgram α :=
  program.mapError fun error => ⟨context ++ error.message⟩

/-- `write_all`, from the first byte after those that were just taken. -/
def writeRest (path : FilePath) : Nat → Bytes → FolderProgram Unit
  | _, [] => pure ()
  | taken + 1, _ :: rest => writeRest path taken rest
  | 0, byte :: rest =>
      .call (.write path (byte :: rest)) fun
        | .error error => .ret (.error error)
        | .ok 0 => .ret (.error ⟨"failed to write whole buffer"⟩)
        | .ok (taken + 1) => writeRest path taken rest

def writeAll (path : FilePath) (bytes : Bytes) : FolderProgram Unit :=
  writeRest path 0 bytes

/-- The temporary file of a write, in the directory of its target. -/
def tempPath (path : FilePath) (nonce : FixedBytes 8) : FilePath :=
  path.withExtension ("tmp-" ++ LowerHex.encode nonce.bytes)

/-- The closure of `write_atomic`. -/
def replaceThrough (tmp path : FilePath) (bytes : Bytes) : FolderProgram Unit := do
  inContext ("create temp " ++ tmp.display ++ ": ")
    (Program.perform (I := folderInterface) (.createNew tmp))
  inContext "write temp: " (writeAll tmp bytes)
  inContext "sync temp: " (Program.perform (I := folderInterface) (.syncAll tmp))
  inContext ("rename into " ++ path.display ++ ": ")
    (Program.perform (I := folderInterface) (.rename tmp path))

/-- `write_atomic`, call by call. -/
def Folder.writeAtomic (path : FilePath) (bytes : Bytes) : FolderProgram Unit :=
  match path.parent with
  | none => .ret (.error ⟨"path has no parent: " ++ path.display⟩)
  | some dir => do
      inContext ("create " ++ dir.display ++ ": ")
        (Program.perform (I := folderInterface) (.createDirAll dir))
      let nonce ← inContext "rng: " (Program.perform (I := folderInterface) (.getrandom 8))
      let tmp := tempPath path nonce
      let result ← (replaceThrough tmp path bytes).attempt some
      match result with
      | .ok _ => return ()
      | .error error => do
          let _ ← (Program.perform (I := folderInterface) (.removeFile tmp)).attempt some
          .ret (.error error)

end EntangledClient
