import EntangledClient.Folder

/-!
# The steps of a write

Until the rename nothing but the temporary file changes, and the rename puts the new
content in place at once.  A failure before it leaves at most the temporary file, which the
clean-up removes.
-/

namespace EntangledClient

open CallTree

/-- A clean-up that failed. -/
def removeFailed : TracedCall folderInterface Folder → Bool
  | ⟨.removeFile _, some (.error _), _⟩ => true
  | _ => false

section Steps

variable {files : FilePath → Option Bytes} {tmp path : FilePath} {bytes : Bytes}
  {moment : Folder → Prop} {folder : Folder}

/-- The temporary file is there, with this content, and the rest is as it was. -/
def HoldsTemp (files : FilePath → Option Bytes) (tmp : FilePath) (content : Bytes)
    (folder : Folder) : Prop :=
  folder.files = Function.update files tmp (some content)

theorem folderHandler_write {content : Bytes} (holds : HoldsTemp files tmp content folder)
    (bytes : Bytes) :
    folderHandler (.write tmp bytes) folder =
      (.ok (min (folder.accepts 0) bytes.length), folder.append tmp content bytes) := by
  have present : folder.files tmp = some content := by
    rw [holds, Function.update_self]
  simp only [folderHandler, present]

/-- The rename replaces the target and takes the temporary name away. -/
theorem folderHandler_rename {content : Bytes} (holds : HoldsTemp files tmp content folder)
    (absent : files tmp = none) (apart : tmp ≠ path) :
    (folderHandler (.rename tmp path) folder).1 = .ok () ∧
      (folderHandler (.rename tmp path) folder).2.files =
        Function.update files path (some content) := by
  have present : folder.files tmp = some content := by
    rw [holds, Function.update_self]
  have unnamed : Function.update files path (some content) tmp = none := by
    rw [Function.update_of_ne apart, absent]
  simp only [folderHandler, present, if_neg apart, Folder.put, true_and]
  rw [holds, Function.update_comm apart, Function.update_idem]
  exact Function.update_eq_self_iff.mpr unnamed.symm

theorem HoldsTemp.append {content : Bytes} (holds : HoldsTemp files tmp content folder)
    (bytes : Bytes) :
    HoldsTemp files tmp (content ++ bytes.take (folder.accepts 0))
      (folder.append tmp content bytes) := by
  simp only [HoldsTemp, Folder.append]
  rw [holds, Function.update_idem]

/-- However little each `write` takes, the temporary file holds all bytes at the end, if all
writes are answered. -/
theorem safely_writeRest
    (moments : ∀ {content : Bytes} {folder : Folder}, HoldsTemp files tmp content folder →
      moment folder)
    (taken : Nat) (bytes : Bytes) {content : Bytes} (holds : HoldsTemp files tmp content folder) :
    (writeRest tmp taken bytes).Safely folderHandler moment
      (fun _ outcome after => ∃ written, HoldsTemp files tmp written after ∧
        (outcome = .ok () → written = content ++ bytes.drop taken)) folder := by
  induction bytes generalizing taken content folder with
  | nil => exact ⟨content, holds, fun _ => by simp⟩
  | cons byte rest ih =>
      cases taken with
      | succ taken => exact ih taken holds
      | zero =>
          have after := holds.append (byte :: rest)
          refine ⟨fun error => ⟨content, holds, fun isOk => by cases isOk⟩, ?_⟩
          rw [folderHandler_write holds]
          refine ⟨moments after, ?_⟩
          cases count : min (folder.accepts 0) (byte :: rest).length with
          -- A `write` that takes nothing ends `write_all` with an error.
          | zero => exact ⟨_, after, fun isOk => by cases isOk⟩
          | succ taken =>
              refine (ih taken after).mono fun _ outcome last => ?_
              rintro ⟨written, stillHolds, complete⟩
              refine ⟨written, stillHolds, fun isOk => ?_⟩
              have sameTake : (byte :: rest).take (folder.accepts 0) =
                  (byte :: rest).take (taken + 1) := by
                rw [List.take_eq_take_iff]
                omega
              rw [complete isOk, sameTake, List.append_assoc]
              simp

/-- The target has its old content or the new one, and all but it and the temporary file is
as it was. -/
def AtMoment (files : FilePath → Option Bytes) (tmp path : FilePath) (bytes : Bytes)
    (folder : Folder) : Prop :=
  (folder.files path = files path ∨ folder.files path = some bytes) ∧
    ∀ other, other ≠ path → other ≠ tmp → folder.files other = files other

theorem AtMoment.unchanged (start : folder.files = files) :
    AtMoment files tmp path bytes folder :=
  ⟨.inl (congrFun start path), fun other _ _ => congrFun start other⟩

theorem AtMoment.holdsTemp (apart : tmp ≠ path) {content : Bytes} {folder : Folder}
    (holds : HoldsTemp files tmp content folder) : AtMoment files tmp path bytes folder := by
  refine ⟨.inl ?_, fun other _ different => ?_⟩
  · rw [holds, Function.update_of_ne apart.symm]
  · rw [holds, Function.update_of_ne different]

theorem AtMoment.replaced (replaced : folder.files = Function.update files path (some bytes)) :
    AtMoment files tmp path bytes folder := by
  refine ⟨.inr ?_, fun other different _ => ?_⟩
  · rw [replaced, Function.update_self]
  · rw [replaced, Function.update_of_ne different]

/-- What a failed replacement leaves: all as it was, or the temporary file besides. -/
def LeavesAtMostTemp (files : FilePath → Option Bytes) (tmp path : FilePath)
    (folder : Folder) : Prop :=
  folder.files = files ∨ tmp ≠ path ∧ ∃ content, HoldsTemp files tmp content folder

/-- The closure replaces the target, or leaves at most the temporary file. -/
theorem safely_replaceThrough (absent : files tmp = none)
    (apart : tmp.fileName ≠ none → tmp ≠ path) (start : folder.files = files) :
    (replaceThrough tmp path bytes).Safely folderHandler (AtMoment files tmp path bytes)
      (fun _ outcome after =>
        match outcome with
        | .ok _ => after.files = Function.update files path (some bytes)
        | .error _ => LeavesAtMostTemp files tmp path after) folder := by
  -- A target without a file name is its own temporary path, and nothing is created there.
  by_cases directory : tmp.fileName = none
  · have refused : folderHandler (.createNew tmp) folder = (.error fileExists, folder) := by
      simp [folderHandler, directory]
    refine .bind (.mapError (.perform (fun error => .inl start) ?_ ?_))
    · rw [refused]
      exact .unchanged start
    · rw [refused]
      exact .inl start
  have apart := apart directory
  have created : folderHandler (.createNew tmp) folder = (.ok (), folder.put tmp (some [])) := by
    simp [folderHandler, directory, start, absent]
  have empty : HoldsTemp files tmp [] (folder.put tmp (some [])) := by
    rw [HoldsTemp, Folder.put, start]
  refine .bind (.mapError (.perform (fun error => .inl start) ?_ ?_))
  · rw [created]
    exact .holdsTemp apart empty
  rw [created]
  refine .bind (.mapError ((safely_writeRest (.holdsTemp apart) 0 bytes empty).mono ?_))
  rintro _ outcome filled ⟨written, holds, complete⟩
  cases outcome with
  | error error => exact .inr ⟨apart, written, holds⟩
  | ok done =>
      obtain rfl : written = bytes := by simpa using complete rfl
      have left : LeavesAtMostTemp files tmp path filled := .inr ⟨apart, written, holds⟩
      refine .bind (.mapError (.perform (fun error => left) (.holdsTemp apart holds) ?_))
      have synced : folderHandler (.syncAll tmp) filled = (.ok (), filled) := rfl
      rw [synced]
      obtain ⟨answered, renamed⟩ := folderHandler_rename holds absent apart
      refine .mapError (.perform (fun error => left) (.replaced renamed) ?_)
      rw [answered]
      exact renamed

/-- Either the new bytes are in place, or the target is as it was; then so is all else unless
the clean-up failed. -/
def EndsAllOrNothing (files : FilePath → Option Bytes) (path : FilePath) (bytes : Bytes)
    (calls : List (TracedCall folderInterface Folder)) :
    Except StoreError Unit → Folder → Prop
  | .ok _, after => after.files = Function.update files path (some bytes)
  | .error _, after => after.files path = files path ∧
      ((∀ traced ∈ calls, removeFailed traced = false) → after.files = files)

theorem EndsAllOrNothing.unchanged {calls : List (TracedCall folderInterface Folder)}
    (bytes : Bytes) (error : StoreError) (start : folder.files = files) :
    EndsAllOrNothing files path bytes calls (.error error) folder :=
  ⟨congrFun start path, fun _ => start⟩

/-- Earlier calls do not matter, as long as the clean-up is among the calls. -/
theorem EndsAllOrNothing.after_calls {calls : List (TracedCall folderInterface Folder)}
    {outcome : Except StoreError Unit}
    (ends : EndsAllOrNothing files path bytes calls outcome folder)
    (earlier : List (TracedCall folderInterface Folder)) :
    EndsAllOrNothing files path bytes (earlier ++ calls) outcome folder := by
  cases outcome with
  | ok done => exact ends
  | error error =>
      refine ⟨ends.1, fun cleaned => ends.2 fun traced isTraced => ?_⟩
      exact cleaned traced (List.mem_append_right earlier isTraced)

/-- The clean-up after a failure, which is made whether or not the temporary file is there. -/
theorem safely_removeTemp (absent : files tmp = none) (error : StoreError)
    (left : LeavesAtMostTemp files tmp path folder) :
    (do
      let _ ← (Program.perform (I := folderInterface) (.removeFile tmp)).attempt some
      .ret (.error error) : FolderProgram Unit).Safely folderHandler
        (AtMoment files tmp path bytes) (EndsAllOrNothing files path bytes) folder := by
  rcases left with start | ⟨apart, content, holds⟩
  · have missing : folderHandler (.removeFile tmp) folder = (.error noSuchFile, folder) := by
      simp [folderHandler, start, absent]
    refine .bind (.attempt (.perform (fun _ => .unchanged bytes error start) ?_ ?_))
    · rw [missing]
      exact .unchanged start
    · rw [missing]
      exact .unchanged bytes error start
  · have kept : folder.files path = files path := by
      rw [holds, Function.update_of_ne apart.symm]
    have present : folder.files tmp = some content := by
      rw [holds, Function.update_self]
    have removed : folderHandler (.removeFile tmp) folder = (.ok (), folder.put tmp none) := by
      simp only [folderHandler, present]
    have start : (folder.put tmp none).files = files := by
      simp only [Folder.put]
      rw [holds, Function.update_idem]
      exact Function.update_eq_self_iff.mpr absent.symm
    refine .bind (.attempt (.perform (fun failure => ⟨kept, fun cleaned => ?_⟩) ?_ ?_))
    · have failed := cleaned ⟨.removeFile tmp, some (.error failure), folder⟩ (by simp)
      cases failed
    · rw [removed]
      exact .unchanged start
    · rw [removed]
      exact .unchanged bytes error start

/-- The drawn temporary name is the file name of the target. -/
def NamesTarget (path : FilePath) (nonce : FixedBytes 8) : Prop :=
  path.fileName ≠ none ∧ tempPath path nonce = path

theorem safely_writeAtomic (absent : files (tempPath path (folder.drawn 8)) = none)
    (unnamed : ¬ NamesTarget path (folder.drawn 8)) (start : folder.files = files) :
    (Folder.writeAtomic path bytes).Safely folderHandler
      (AtMoment files (tempPath path (folder.drawn 8)) path bytes)
      (EndsAllOrNothing files path bytes) folder := by
  have apart : (tempPath path (folder.drawn 8)).fileName ≠ none →
      tempPath path (folder.drawn 8) ≠ path := by
    intro named isTarget
    exact unnamed ⟨isTarget ▸ named, isTarget⟩
  cases isParent : path.parent with
  | none =>
      simp only [Folder.writeAtomic, isParent]
      exact .unchanged bytes _ start
  | some dir =>
      simp only [Folder.writeAtomic, isParent]
      refine .bind (.mapError (.perform (fun _ => .unchanged bytes _ start) (.unchanged start) ?_))
      refine .bind (.mapError (.perform (fun _ => .unchanged bytes _ start) (.unchanged start) ?_))
      have drawn : (folder.afterDraw 8).files = files := start
      refine .bind (.attempt ((safely_replaceThrough absent apart drawn).mono ?_))
      intro calls outcome after ends
      cases outcome with
      | ok done => exact ends
      | error error =>
          refine (safely_removeTemp absent error ends).mono fun more outcome last isEnd => ?_
          exact ((isEnd.after_calls calls).after_calls _).after_calls _

end Steps

end EntangledClient
