import EntangledClient.CrashConsistency

/-!
# The files that a store touches

The system calls that carry out a program over the store files change these, and the temporary
files of their writes, and no other file; all of them lie in the directory of the store.
-/

namespace EntangledClient

open CallTree Program

/-- A file of the store in this directory, or the temporary file of a write of one. -/
def StoreOwned (base : FilePath) (publisherText : PublisherPubkey → String) (path : FilePath) :
    Prop :=
  ∃ stored : StorePath, path = stored.filePath base publisherText ∨
    ∃ nonce, path = tempPath (stored.filePath base publisherText) nonce

theorem tempPath_under {dir path : FilePath} (under : dir.Under path)
    (inside : dir.components.length < path.components.length) (nonce : FixedBytes 8) :
    dir.Under (tempPath path nonce) := by
  have underParent : dir.Under ⟨path.components.dropLast⟩ := by
    refine List.prefix_of_prefix_length_le under (List.dropLast_prefix _) ?_
    simp only [List.length_dropLast]
    omega
  unfold tempPath FilePath.withExtension
  split
  · exact under
  · split
    · exact underParent.trans (List.prefix_append _ _)
    · exact underParent.join _

/-- These files lie in the directory. -/
theorem StoreOwned.under {base path : FilePath} {publisherText : PublisherPubkey → String}
    (owned : StoreOwned base publisherText path) : base.Under path := by
  have stored : ∀ stored : StorePath, base.Under (stored.filePath base publisherText) ∧
      base.components.length < (stored.filePath base publisherText).components.length := by
    intro stored
    have here : base.Under base := List.prefix_rfl
    cases stored with
    | storeKey | storeMeta => exact ⟨here.join _, by simp [StorePath.filePath, FilePath.join]⟩
    | identity site | history publisher =>
        exact ⟨(here.join _).join _, by simp [StorePath.filePath, FilePath.join]⟩
  obtain ⟨file, rfl | ⟨nonce, rfl⟩⟩ := owned
  · exact (stored file).1
  · exact tempPath_under (stored file).1 (stored file).2 nonce

/-- Outside of these files, two folders hold the same. -/
def Folder.SameOutside (owned : FilePath → Prop) (first second : Folder) : Prop :=
  ∀ path, ¬ owned path → second.files path = first.files path

section Stays

variable {owned : FilePath → Prop}

end Stays

section System

variable {base : FilePath} {publisherText : PublisherPubkey → String}

end System

end EntangledClient
