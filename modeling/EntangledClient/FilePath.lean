import Mathlib.Data.List.Basic

/-!
# File paths

A path is the list of its components.  If the last one is a name, it is the file name; a
dot in it, other than a leading one, starts its extension.
-/

/-- A component of a path. -/
inductive PathComponent
  | rootDir
  | curDir
  | parentDir
  | normal (name : String)
  deriving DecidableEq

def PathComponent.text : PathComponent → String
  | rootDir => ""
  | curDir => "."
  | parentDir => ".."
  | normal name => name

structure FilePath where
  components : List PathComponent
  deriving DecidableEq

namespace FilePath

def display (path : FilePath) : String :=
  match path.components with
  | [.rootDir] => "/"
  | components => "/".intercalate (components.map PathComponent.text)

/-- The path without its last component; the root and the empty path have none. -/
def parent (path : FilePath) : Option FilePath :=
  match path.components.getLast? with
  | none | some .rootDir => none
  | some _ => some ⟨path.components.dropLast⟩

def fileName (path : FilePath) : Option String :=
  match path.components.getLast? with
  | some (.normal name) => some name
  | _ => none

/-- The path of a name in this directory. -/
def join (path : FilePath) (name : String) : FilePath where
  components := path.components ++ [.normal name]

/-- A file name up to its last dot, unless that is the first character. -/
def fileStem (name : String) : String :=
  if name = ".." then name
  else
    match name.toList.reverse.dropWhile (· ≠ '.') with
    | [] | [_] => name
    | _ :: before => String.ofList before.reverse

/-- The path with another extension; one without a file name stays as it is. -/
def withExtension (path : FilePath) (extension : String) : FilePath :=
  match path.fileName with
  | none => path
  | some name =>
      -- Up to its last dot, such a name is `..`, which takes no extension.
      if fileStem name = "." then ⟨path.components.dropLast ++ [.parentDir]⟩
      else
        join ⟨path.components.dropLast⟩
          (fileStem name ++ if extension = "" then "" else "." ++ extension)

@[simp]
theorem fileName_join (path : FilePath) (name : String) :
    (path.join name).fileName = some name := by
  simp [fileName, join]

@[simp]
theorem fileName_parentDir (components : List PathComponent) :
    fileName ⟨components ++ [.parentDir]⟩ = none := by
  simp [fileName]

@[simp]
theorem join_ne_self (path : FilePath) (name : String) : path.join name ≠ path := by
  intro same
  have length := congrArg (fun path => path.components.length) same
  simp [join] at length

@[simp]
theorem ne_join_self (path : FilePath) (name : String) : path ≠ path.join name :=
  (join_ne_self path name).symm

theorem join_inj {first second : FilePath} {name other : String} :
    first.join name = second.join other ↔ first = second ∧ name = other := by
  cases first
  cases second
  simp [join]

/-- The path lies in this directory, or is it. -/
def Under (dir path : FilePath) : Prop :=
  dir.components <+: path.components

theorem Under.join {dir path : FilePath} (under : dir.Under path) (name : String) :
    dir.Under (path.join name) :=
  under.trans (List.prefix_append _ _)

end FilePath
