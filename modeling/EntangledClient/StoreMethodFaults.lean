import EntangledClient.FileStores
import EntangledClient.LayeredRuns

/-!
# The methods of the stores under failing file calls

A method reads one file, may replace it by its last call, and ends with the first call that
fails.  So whatever file calls fail, and wherever the process stops, the method acts on what
the files denote as one call that is answered, that fails without an effect, or that is not
made.
-/

namespace EntangledClient

open CallTree Program

variable {libs : StoreLibs} {root : StoreRoot}

def IsWrite : FileCall → Prop
  | .writeAtomic _ _ => True
  | .ensureDirs | .readFileOpt _ | .getrandom _ => False

theorem files_of_not_isWrite (request : FileCall) (disk : Disk) (noWrite : ¬ IsWrite request) :
    (diskHandler request disk).2.files = disk.files := by
  cases request with
  | ensureDirs | readFileOpt path | getrandom length => rfl
  | writeAtomic path bytes => exact absurd trivial noWrite

/-! ### Each method writes last -/

theorem sealBytes_straight (protector : Protector) (payload : Bytes) :
    (protector.sealBytes libs payload).Straight IsWrite := by
  cases protector with
  | integrity key => trivial
  | encrypted key => exact .bind (.perform _) (.perform id) fun _ => trivial

theorem writeProtected_straight (path : StorePath) (payload : Bytes) :
    (root.writeProtected libs path payload).Straight IsWrite :=
  .bind (sealBytes_straight _ _) (Protector.sealBytes_calls id _ _) fun _ => .perform _

namespace FileIdentityStore

theorem loadDto_straight (site : OnionAddress) :
    (loadDto libs root site).Straight IsWrite := by
  rw [loadDto_eq]
  exact ⟨fun error => ⟨error, rfl⟩, fun _ => trivial, fun isWrite => isWrite.elim⟩

theorem loadIdentity_straight (site : OnionAddress) :
    (loadIdentity libs root site).Straight IsWrite := by
  refine .bind (loadDto_straight site) (loadDto_calls id) fun found => ?_
  cases found with
  | none => trivial
  | some dto => exact .bind trivial trivial fun _ => trivial

theorem writeDto_straight (site : OnionAddress) (dto : IdentityDto) :
    (writeDto libs root site dto).Straight IsWrite :=
  .bind trivial trivial (writeProtected_straight _)

theorem apply_straight (site : OnionAddress) (intent : PersistenceIntent) :
    (apply libs root site intent).Straight IsWrite := by
  have reads := @loadDto_straight libs root site
  have readsOnly : (loadDto libs root site).CallsWithin (¬ IsWrite ·) := loadDto_calls id
  cases intent with
  | none => trivial
  | recordObservation pubkey =>
      refine .bind reads readsOnly fun found => ?_
      cases found with
      | none => exact writeDto_straight site _
      | some dto => trivial
  | pinIdentity pubkey =>
      refine .bind reads readsOnly fun found => ?_
      cases found with
      | none => exact writeDto_straight site _
      | some dto =>
          refine .bind trivial trivial fun existing => ?_
          by_cases observed : existing.provenance = .observed
          · rw [if_pos observed]
            exact writeDto_straight site _
          · rw [if_neg observed]
            trivial
  | markExternallyVerified pubkey | replaceIdentity newPubkey replaced externallyVerified =>
      exact .bind reads readsOnly fun _ => writeDto_straight site _

end FileIdentityStore

namespace FileHistoryStore

theorem loadDto_straight (publisher : PublisherPubkey) :
    (loadDto libs root publisher).Straight IsWrite := by
  rw [loadDto_eq]
  exact ⟨fun error => ⟨error, rfl⟩, fun _ => trivial, fun isWrite => isWrite.elim⟩

theorem loadHistory_straight (publisher : PublisherPubkey) :
    (loadHistory libs root publisher).Straight IsWrite := by
  refine .bind (loadDto_straight publisher) (loadDto_calls id) fun found => ?_
  cases found with
  | none => trivial
  | some dto => exact .bind trivial trivial fun _ => trivial

theorem appendRecord_straight (publisher : PublisherPubkey) (record : RetainedManifestRecord) :
    (appendRecord libs root publisher record).Straight IsWrite :=
  .bind (loadDto_straight publisher) (loadDto_calls id) fun _ =>
    .bind trivial trivial (writeProtected_straight _)

end FileHistoryStore

theorem fileMethod_straight (request : StoreCall) :
    (fileMethod libs root request).Straight IsWrite := by
  cases request with
  | loadIdentity site => exact FileIdentityStore.loadIdentity_straight site
  | apply site intent => exact FileIdentityStore.apply_straight site intent
  | loadHistory publisher => exact FileHistoryStore.loadHistory_straight publisher
  | appendRecord publisher record => exact FileHistoryStore.appendRecord_straight publisher record

/-! ### The layer -/

theorem StoreRoot.ValidFiles.of_files {disk after : Disk} (valid : root.ValidFiles libs disk)
    (same : after.files = disk.files) : root.ValidFiles libs after where
  identities site := same ▸ valid.identities site
  histories publisher := same ▸ valid.histories publisher

theorem view_of_files {disk after : Disk} (same : after.files = disk.files) :
    root.view libs after = root.view libs disk := by
  simp only [StoreRoot.view, same]

/-- On valid files, a method under failing file calls is a call of the seams under one fault:
the files stay valid and denote what that call leaves. -/
theorem fileMethod_faulty (lawful : libs.Lawful) (request : StoreCall)
    (faults : List (Fault Failure)) {disk : Disk} (valid : root.ValidFiles libs disk) :
    root.ValidFiles libs
        ((fileMethod libs root request).runFaulty diskHandler faults disk).2 ∧
      ∃ fault,
        (Handler.answer (I := storeInterface) viewHandler fault request
          (root.view libs disk)).2 =
            root.view libs
              ((fileMethod libs root request).runFaulty diskHandler faults disk).2 ∧
        ∀ outcome,
          ((fileMethod libs root request).runFaulty diskHandler faults disk).1 = some outcome →
          (Handler.answer (I := storeInterface) viewHandler fault request
            (root.view libs disk)).1 = some outcome := by
  rcases (fileMethod_straight request).runFaulty files_of_not_isWrite faults disk with
    ran | ⟨same, fails⟩
  · obtain ⟨reply, stillValid, nextView⟩ := fileHandler_view lawful request valid
    rw [ran]
    refine ⟨stillValid, .proceed, nextView.symm, ?_⟩
    rintro _ ⟨⟩
    exact congrArg some reply.symm
  · refine ⟨valid.of_files same, ?_⟩
    rw [view_of_files same]
    cases ran : ((fileMethod libs root request).runFaulty diskHandler faults disk).1 with
    | none => exact ⟨.stop, rfl, fun outcome returned => by cases returned⟩
    | some outcome =>
        obtain ⟨failure, rfl⟩ := fails outcome ran
        refine ⟨.fail failure, rfl, ?_⟩
        rintro _ ⟨⟩
        rfl

/-- The seams are carried out by the file methods, on what valid files denote. -/
theorem storeLayer (lawful : libs.Lawful) :
    Layer (I := storeInterface) (J := fileInterface) viewHandler diskHandler
      (fileMethod libs root) id (root.ValidFiles libs)
      (fun view disk => root.view libs disk = view) where
  keeps request faults _ valid := (fileMethod_faulty lawful request faults valid).1
  answers := by
    rintro request faults disk _ valid rfl
    obtain ⟨-, fault, after, replies⟩ := fileMethod_faulty lawful request faults valid
    refine ⟨root.view libs disk, fault, rfl, after, fun outcome returned => ?_⟩
    rw [replies outcome returned]
    cases outcome <;> rfl

end EntangledClient
