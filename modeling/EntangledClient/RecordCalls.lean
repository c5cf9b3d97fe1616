import EntangledClient.StoreFailClosed

/-!
# Calls of the stores and their records

A call of the seams is about one record file at most.  It reads that file before it
writes it, so a call about a record that the root cannot open fails, and no call
changes any other file.
-/

namespace EntangledClient

open CallTree ExceptRules

/-- The file that a call is about; the empty intent is about none. -/
def StoreCall.recordPath : StoreCall → Option StorePath
  | .loadIdentity site => some (.identity site)
  | .apply site intent => if intent = .none then none else some (.identity site)
  | .loadHistory publisher | .appendRecord publisher _ => some (.history publisher)

theorem StoreCall.isRecord_of_recordPath {request : StoreCall} {path : StorePath}
    (about : path ∈ request.recordPath) : path.IsRecord := by
  cases request with
  | loadIdentity site =>
      obtain rfl : StorePath.identity site = path := Option.some.inj about
      trivial
  | apply site intent =>
      by_cases empty : intent = .none
      · simp [recordPath, empty] at about
      · obtain rfl : StorePath.identity site = path := by
          simpa [recordPath, empty] using about
        trivial
  | loadHistory publisher | appendRecord publisher record =>
      obtain rfl : StorePath.history publisher = path := Option.some.inj about
      trivial

/-- The empty intent leaves a view alone. -/
theorem viewHandler_apply_none (site : OnionAddress) (view : StoreView) :
    (viewHandler (.apply site .none) view).2 = view := by
  simp [viewHandler, StoreView.apply, PersistenceIntent.applyTo]

theorem viewHandler_isOk (request : StoreCall) (view : StoreView) :
    (viewHandler request view).1.isOk = true := by
  cases request <;> rfl

section Calls

variable {libs : StoreLibs} {root : StoreRoot}

/-- Every call of the stores reads files and makes protected writes of its record. -/
theorem fileMethod_calls {allowed : FileCall → Prop} {request : StoreCall}
    (reads : ∀ path, allowed (.readFileOpt path))
    (writes : ∀ path payload, path ∈ request.recordPath →
      (root.writeProtected libs path payload).CallsWithin allowed) :
    Program.CallsWithin (I := fileInterface) allowed (fileMethod libs root request) := by
  cases request with
  | loadIdentity site => exact FileIdentityStore.loadIdentity_calls (reads _)
  | apply site intent =>
      by_cases empty : intent = .none
      · subst empty
        trivial
      · have about : (StoreCall.apply site intent).recordPath = some (.identity site) :=
          if_neg empty
        refine FileIdentityStore.apply_calls (reads _) (fun identity replaced => ?_) intent
        exact .bind trivial fun bytes => writes (.identity site) bytes about
  | loadHistory publisher => exact FileHistoryStore.loadHistory_calls (reads _)
  | appendRecord publisher record =>
      exact FileHistoryStore.appendRecord_calls (reads _)
        (fun bytes => writes (.history publisher) bytes rfl) record

/-- A call about a record that does not open fails and changes nothing; the empty
intent does nothing. -/
theorem call_of_unreadable {request : StoreCall} {disk : Disk}
    (unreadable : ∀ path ∈ request.recordPath, IsErr (root.openFile libs (disk.files path))) :
    (fileHandler libs root request disk).2 = disk ∧
      (IsErr (fileHandler libs root request disk).1 ∨ ∃ site, request = .apply site .none) := by
  have identity : ∀ site, IsErr (root.openFile libs (disk.files (.identity site))) →
      ∃ error, root.identityFile libs (disk.files (.identity site)) = .error (.err error) := by
    rintro site ⟨error, refused⟩
    exact ⟨error, by rw [StoreRoot.identityFile, refused]; rfl⟩
  have history : ∀ publisher,
      IsErr (root.openFile libs (disk.files (.history publisher))) →
      ∃ error, root.historyDtoFile libs (disk.files (.history publisher)) =
        .error (.err error) := by
    rintro publisher ⟨error, refused⟩
    exact ⟨error, by rw [StoreRoot.historyDtoFile, refused]; rfl⟩
  cases request with
  | loadIdentity site =>
      obtain ⟨error, refused⟩ := identity site (unreadable _ rfl)
      have unchanged := congrArg Prod.snd
        (@FileIdentityStore.run_loadIdentity_file libs root site disk)
      exact ⟨unchanged, .inl ⟨error, loadIdentity_of_error refused⟩⟩
  | loadHistory publisher =>
      obtain ⟨error, refused⟩ := history publisher (unreadable _ rfl)
      have unchanged := congrArg Prod.snd
        (@FileHistoryStore.run_loadHistory_file libs root publisher disk)
      refine ⟨unchanged, .inl ⟨error, ?_⟩⟩
      rw [fileHandler_loadHistory, StoreRoot.historyFile, refused]
      rfl
  | appendRecord publisher record =>
      obtain ⟨error, refused⟩ := history publisher (unreadable _ rfl)
      rw [appendRecord_of_error refused record]
      exact ⟨rfl, .inl ⟨error, rfl⟩⟩
  | apply site intent =>
      by_cases empty : intent = .none
      · subst empty
        exact ⟨rfl, .inr ⟨site, rfl⟩⟩
      · have about : (StoreCall.apply site intent).recordPath = some (.identity site) :=
          if_neg empty
        obtain ⟨error, refused⟩ := identity site (unreadable _ about)
        rw [apply_of_error refused empty]
        exact ⟨rfl, .inl ⟨error, rfl⟩⟩

end Calls

end EntangledClient
