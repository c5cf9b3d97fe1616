import EntangledClient.StoreRoot

/-!
# The file-backed stores

Each site has an identity file and each publisher a history file; every method
reads its file anew.  A directory of valid files denotes a view of the two
stores, and the methods act on the files as the seams act on that view.
-/

namespace EntangledClient

open CallTree ExceptRules

variable (libs : StoreLibs) (root : StoreRoot)

namespace FileIdentityStore

/-- The raw record of a site; a corrupt or tampered one is an error. -/
def loadDto (site : OnionAddress) : FileProgram (Option IdentityDto) := do
  match ← root.readProtected libs (.identity site) with
  | none => return none
  | some bytes =>
      let dto ← ofResult (mapErr "decode identity: " (libs.identityJson.fromSlice bytes))
      ofResult (asOutcome dto.checkVersion)
      return some dto

def writeDto (site : OnionAddress) (dto : IdentityDto) : FileProgram Unit := do
  let bytes ← ofResult (mapErr "encode identity: " (libs.identityJson.toVec dto))
  root.writeProtected libs (.identity site) bytes

def loadIdentity (site : OnionAddress) : FileProgram (Option RetainedIdentity) := do
  match ← loadDto libs root site with
  | none => return none
  | some dto =>
      let identity ← ofResult (asOutcome dto.toIdentity)
      return some identity

/-- The replaced keys of a record, if there is one. -/
def replacedPubkeys (dto : Option IdentityDto) : List PublisherPubkey :=
  (dto.map (·.replacedPubkeys)).getD []

def apply (site : OnionAddress) : PersistenceIntent → FileProgram Unit
  | .none => return ()
  | .recordObservation pubkey => do
      match ← loadDto libs root site with
      | none => writeDto libs root site (.new { pubkey, provenance := .observed } [])
      | some _ => return ()
  | .pinIdentity pubkey => do
      match ← loadDto libs root site with
      | none => writeDto libs root site (.new { pubkey, provenance := .pinned } [])
      | some dto =>
          let existing ← ofResult (asOutcome dto.toIdentity)
          if existing.provenance = .observed then
            writeDto libs root site
              (.new { pubkey, provenance := .pinned } dto.replacedPubkeys)
          else return ()
  | .markExternallyVerified pubkey => do
      let dto ← loadDto libs root site
      writeDto libs root site
        (.new { pubkey, provenance := .externallyVerified } (replacedPubkeys dto))
  | .replaceIdentity newPubkey replaced externallyVerified => do
      let dto ← loadDto libs root site
      writeDto libs root site
        (.new {
            pubkey := newPubkey
            provenance := if externallyVerified then .externallyVerified else .pinned }
          (replaced :: replacedPubkeys dto))

end FileIdentityStore

namespace FileHistoryStore

def loadDto (publisher : PublisherPubkey) : FileProgram (Option HistoryDto) := do
  match ← root.readProtected libs (.history publisher) with
  | none => return none
  | some bytes =>
      let dto ← ofResult (mapErr "decode history: " (libs.historyJson.fromSlice bytes))
      ofResult (asOutcome dto.checkVersion)
      return some dto

def loadHistory (publisher : PublisherPubkey) : FileProgram PublisherHistory := do
  match ← loadDto libs root publisher with
  | none => return .new
  | some dto =>
      let records ← ofResult (asOutcome (dto.intoRecords libs.hexDecodeError))
      return .fromRecordsNewestFirst records

def appendRecord (publisher : PublisherPubkey) (record : RetainedManifestRecord) :
    FileProgram Unit := do
  let dto ← loadDto libs root publisher
  let records := ManifestRecordDto.fromRecord record :: (dto.map (·.records)).getD []
  let bytes ← ofResult
    (mapErr "encode history: " (libs.historyJson.toVec { v := historyV, records }))
  root.writeProtected libs (.history publisher) bytes

end FileHistoryStore

/-- A call of the seams as a program over the files. -/
def fileMethod : (request : StoreCall) → FileProgram request.Result
  | .loadIdentity site => FileIdentityStore.loadIdentity libs root site
  | .apply site intent => FileIdentityStore.apply libs root site intent
  | .loadHistory publisher => FileHistoryStore.loadHistory libs root publisher
  | .appendRecord publisher record =>
      FileHistoryStore.appendRecord libs root publisher record

/-- The file-backed stores on a disk. -/
def fileHandler : Handler storeInterface Disk := fun request disk =>
  Program.run (I := fileInterface) diskHandler (fileMethod libs root request) disk

/-! ### What the files denote -/

namespace StoreRoot

/-- The identity record in a file. -/
def identityFile (file : Option Bytes) : Except Failure (Option IdentityDto) := do
  match ← root.openFile libs file with
  | none => return none
  | some bytes =>
      let dto ← mapErr "decode identity: " (libs.identityJson.fromSlice bytes)
      asOutcome dto.checkVersion
      return some dto

/-- What an identity file says is retained. -/
def siteFile (file : Option Bytes) : Except Failure (Option RetainedSite) := do
  match ← root.identityFile libs file with
  | none => return none
  | some dto =>
      let site ← asOutcome dto.toSite
      return some site

/-- The history record in a file. -/
def historyDtoFile (file : Option Bytes) : Except Failure (Option HistoryDto) := do
  match ← root.openFile libs file with
  | none => return none
  | some bytes =>
      let dto ← mapErr "decode history: " (libs.historyJson.fromSlice bytes)
      asOutcome dto.checkVersion
      return some dto

/-- The history in a file. -/
def historyFile (file : Option Bytes) : Except Failure PublisherHistory := do
  match ← root.historyDtoFile libs file with
  | none => return .new
  | some dto =>
      let records ← asOutcome (dto.intoRecords libs.hexDecodeError)
      return .fromRecordsNewestFirst records

/-- Every identity file is a valid record and every history file a valid history. -/
structure ValidFiles (disk : Disk) : Prop where
  identities : ∀ site, ∃ retained,
    root.siteFile libs (disk.files (.identity site)) = .ok retained
  histories : ∀ publisher, ∃ history,
    root.historyFile libs (disk.files (.history publisher)) = .ok history

/-- The view that valid files denote. -/
def view (disk : Disk) : StoreView where
  sites site :=
    match root.siteFile libs (disk.files (.identity site)) with
    | .ok retained => retained
    | .error _ => none
  histories publisher :=
    match root.historyFile libs (disk.files (.history publisher)) with
    | .ok history => history
    | .error _ => .new

variable {libs root}

theorem ValidFiles.siteFile {disk : Disk} (valid : root.ValidFiles libs disk)
    (site : OnionAddress) :
    root.siteFile libs (disk.files (.identity site)) = .ok ((root.view libs disk).sites site) := by
  obtain ⟨retained, denoted⟩ := valid.identities site
  simp [view, denoted]

theorem ValidFiles.historyFile {disk : Disk} (valid : root.ValidFiles libs disk)
    (publisher : PublisherPubkey) :
    root.historyFile libs (disk.files (.history publisher)) =
      .ok ((root.view libs disk).histories publisher) := by
  obtain ⟨history, denoted⟩ := valid.histories publisher
  simp [view, denoted]

/-- A file that denotes nothing is absent, and any other holds a record. -/
theorem siteFile_eq_ok {file : Option Bytes} {retained : Option RetainedSite} :
    root.siteFile libs file = .ok retained ↔
      (root.identityFile libs file = .ok none ∧ retained = none) ∨
      ∃ dto site, root.identityFile libs file = .ok (some dto) ∧
        dto.toSite = .ok site ∧ retained = some site := by
  rw [siteFile]
  cases root.identityFile libs file with
  | error error => simp
  | ok found =>
      cases found with
      | none => simp [eq_comm]
      | some dto =>
          cases denoted : dto.toSite <;> simp [asOutcome, denoted, eq_comm]

theorem historyFile_eq_ok {file : Option Bytes} {history : PublisherHistory} :
    root.historyFile libs file = .ok history ↔
      (root.historyDtoFile libs file = .ok none ∧ history = .new) ∨
      ∃ dto records, root.historyDtoFile libs file = .ok (some dto) ∧
        dto.intoRecords libs.hexDecodeError = .ok records ∧ history = ⟨records⟩ := by
  rw [historyFile]
  cases root.historyDtoFile libs file with
  | error error => simp
  | ok found =>
      cases found with
      | none => simp [eq_comm]
      | some dto =>
          cases converted : dto.intoRecords libs.hexDecodeError <;>
            simp [asOutcome, converted, PublisherHistory.fromRecordsNewestFirst, eq_comm]

/-- The entries of a history file convert to the records of the history. -/
theorem historyFile_entries {file : Option Bytes} {history : PublisherHistory}
    (denoted : root.historyFile libs file = .ok history) :
    ∃ found, root.historyDtoFile libs file = .ok found ∧
      ((found.map (·.records)).getD []).mapM (·.intoRecord libs.hexDecodeError) =
        .ok history.records := by
  rcases historyFile_eq_ok.mp denoted with
    ⟨absent, rfl⟩ | ⟨dto, records, found, converted, rfl⟩
  · exact ⟨none, absent, rfl⟩
  · exact ⟨some dto, found, converted⟩

/-- Bytes that open to the record of an identity. -/
theorem siteFile_of_opened {sealed bytes : Bytes} {identity : RetainedIdentity}
    {replaced : List PublisherPubkey}
    (opened : root.protector.openBytes libs sealed = .ok bytes)
    (decoded : libs.identityJson.fromSlice bytes = .ok (.new identity replaced)) :
    root.siteFile libs (some sealed) = .ok (some ⟨identity, replaced⟩) := by
  refine siteFile_eq_ok.mpr (.inr ⟨.new identity replaced, _, ?_, ?_, rfl⟩)
  · simp [identityFile, openFile, opened, decoded]
  · exact IdentityDto.toSite_eq_ok.mpr ⟨IdentityDto.toIdentity_new identity replaced, rfl⟩

/-- Bytes that open to the record of a history. -/
theorem historyFile_of_opened {sealed bytes : Bytes} {entries : List ManifestRecordDto}
    {records : List RetainedManifestRecord}
    (opened : root.protector.openBytes libs sealed = .ok bytes)
    (decoded : libs.historyJson.fromSlice bytes = .ok ⟨historyV, entries⟩)
    (converted : entries.mapM (·.intoRecord libs.hexDecodeError) = .ok records) :
    root.historyFile libs (some sealed) = .ok ⟨records⟩ := by
  refine historyFile_eq_ok.mpr (.inr ⟨⟨historyV, entries⟩, records, ?_, converted, rfl⟩)
  simp [historyDtoFile, openFile, opened, decoded, HistoryDto.checkVersion]

/-- A change of one identity file keeps the files valid and changes the view of
one site. -/
theorem ValidFiles.update_identity {disk after : Disk} (valid : root.ValidFiles libs disk)
    {site : OnionAddress} {file : Option Bytes} {retained : Option RetainedSite}
    (files : after.files = Function.update disk.files (.identity site) file)
    (denoted : root.siteFile libs file = .ok retained) :
    root.ValidFiles libs after ∧
      root.view libs after =
        { root.view libs disk with
          sites := Function.update (root.view libs disk).sites site retained } := by
  have atSite : ∀ other, root.siteFile libs (after.files (.identity other)) =
      .ok (Function.update (root.view libs disk).sites site retained other) := by
    intro other
    by_cases same : other = site
    · subst same
      simp [files, denoted]
    · simp [files, same, valid.siteFile other]
  have atPublisher : ∀ publisher, root.historyFile libs (after.files (.history publisher)) =
      .ok ((root.view libs disk).histories publisher) := by
    intro publisher
    simp [files, valid.historyFile publisher]
  refine ⟨⟨fun other => ⟨_, atSite other⟩, fun publisher => ⟨_, atPublisher publisher⟩⟩, ?_⟩
  simp only [view, atSite, atPublisher]

theorem ValidFiles.update_history {disk after : Disk} (valid : root.ValidFiles libs disk)
    {publisher : PublisherPubkey} {file : Option Bytes} {history : PublisherHistory}
    (files : after.files = Function.update disk.files (.history publisher) file)
    (denoted : root.historyFile libs file = .ok history) :
    root.ValidFiles libs after ∧
      root.view libs after =
        { root.view libs disk with
          histories :=
            Function.update (root.view libs disk).histories publisher history } := by
  have atSite : ∀ site, root.siteFile libs (after.files (.identity site)) =
      .ok ((root.view libs disk).sites site) := by
    intro site
    simp [files, valid.siteFile site]
  have atPublisher : ∀ other, root.historyFile libs (after.files (.history other)) =
      .ok (Function.update (root.view libs disk).histories publisher history other) := by
    intro other
    by_cases same : other = publisher
    · subst same
      simp [files, denoted]
    · simp [files, same, valid.historyFile other]
  refine ⟨⟨fun site => ⟨_, atSite site⟩, fun other => ⟨_, atPublisher other⟩⟩, ?_⟩
  simp only [view, atSite, atPublisher]

end StoreRoot

/-! ### What the methods do to valid files -/

namespace FileIdentityStore

variable {libs root}

/-- The record of a site is loaded by one read. -/
theorem loadDto_eq (site : OnionAddress) :
    loadDto libs root site =
      .call (.readFileOpt (.identity site)) fun reply =>
        .ret (reply >>= fun file => root.identityFile libs file) := by
  refine root.readProtected_bind (.identity site) fun payload => ?_
  cases payload with
  | none => rfl
  | some bytes => exact Program.ret_bind_ret _ fun dto => Program.ret_bind_ret _ fun _ => rfl

@[simp]
theorem run_loadDto (site : OnionAddress) (disk : Disk) :
    (loadDto libs root site).run diskHandler disk =
      (root.identityFile libs (disk.files (.identity site)), disk) := by
  rw [loadDto_eq]
  rfl

section Calls

variable {allowed : FileCall → Prop} {site : OnionAddress}

theorem loadDto_calls (reads : allowed (.readFileOpt (.identity site))) :
    (loadDto libs root site).CallsWithin allowed := by
  rw [loadDto_eq]
  exact ⟨reads, fun _ => trivial⟩

theorem loadIdentity_calls (reads : allowed (.readFileOpt (.identity site))) :
    (loadIdentity libs root site).CallsWithin allowed := by
  refine .bind (loadDto_calls reads) fun found => ?_
  cases found with
  | none => exact .pure _
  | some dto => exact .bind trivial fun _ => .pure _

/-- An intent reads the record of its site, and may write one. -/
theorem apply_calls (reads : allowed (.readFileOpt (.identity site)))
    (writes : ∀ identity replaced,
      (writeDto libs root site (.new identity replaced)).CallsWithin allowed)
    (intent : PersistenceIntent) : (apply libs root site intent).CallsWithin allowed := by
  cases intent with
  | none => exact .pure _
  | recordObservation pubkey =>
      refine .bind (loadDto_calls reads) fun found => ?_
      cases found with
      | none => exact writes _ _
      | some dto => exact .pure _
  | pinIdentity pubkey =>
      refine .bind (loadDto_calls reads) fun found => ?_
      cases found with
      | none => exact writes _ _
      | some dto =>
          refine .bind trivial fun existing => ?_
          by_cases observed : existing.provenance = .observed
          · rw [if_pos observed]
            exact writes _ _
          · rw [if_neg observed]
            exact .pure _
  | markExternallyVerified pubkey | replaceIdentity newPubkey replaced externallyVerified =>
      exact .bind (loadDto_calls reads) fun found => writes _ _

end Calls

/-- A written record is what its file holds. -/
theorem run_writeDto (lawful : libs.Lawful) (site : OnionAddress)
    (identity : RetainedIdentity) (replaced : List PublisherPubkey) (disk : Disk) :
    ∃ file after,
      (writeDto libs root site (.new identity replaced)).run diskHandler disk =
        (.ok (), after) ∧
      after.files = Function.update disk.files (.identity site) file ∧
      root.siteFile libs file = .ok (some ⟨identity, replaced⟩) := by
  obtain ⟨bytes, encoded, decoded⟩ := lawful.identityJson (.new identity replaced)
  obtain ⟨sealed, after, wrote, opened, files⟩ :=
    root.run_writeProtected lawful (.identity site) bytes disk
  refine ⟨some sealed, after, ?_, files, StoreRoot.siteFile_of_opened opened decoded⟩
  simp only [writeDto, encoded, mapErr_ok]
  rw [Program.run_bind_ok diskHandler (run_ofResult disk _), wrote]

/-- A load returns the identity that the file says is retained. -/
theorem run_loadIdentity_file (site : OnionAddress) (disk : Disk) :
    (loadIdentity libs root site).run diskHandler disk =
      ((root.siteFile libs (disk.files (.identity site))).map
        (Option.map (·.identity)), disk) := by
  simp only [loadIdentity, StoreRoot.siteFile]
  rw [Program.run_bind, run_loadDto]
  cases root.identityFile libs (disk.files (.identity site)) with
  | error error => rfl
  | ok found =>
      cases found with
      | none => rfl
      | some dto =>
          simp only [ok_bind, IdentityDto.toSite]
          rw [Program.run_bind, run_ofResult]
          cases dto.toIdentity <;> rfl

/-- An intent rewrites the file of its site as it rewrites what the site retains. -/
theorem run_apply (lawful : libs.Lawful) {disk : Disk} {site : OnionAddress}
    {retained : Option RetainedSite}
    (denoted : root.siteFile libs (disk.files (.identity site)) = .ok retained)
    (intent : PersistenceIntent) :
    ∃ file after,
      (apply libs root site intent).run diskHandler disk = (.ok (), after) ∧
      after.files = Function.update disk.files (.identity site) file ∧
      root.siteFile libs file = .ok (intent.applyTo retained) := by
  have unchanged : ∀ same : intent.applyTo retained = retained,
      (apply libs root site intent).run diskHandler disk = (.ok (), disk) →
      ∃ file after,
        (apply libs root site intent).run diskHandler disk = (.ok (), after) ∧
        after.files = Function.update disk.files (.identity site) file ∧
        root.siteFile libs file = .ok (intent.applyTo retained) := by
    intro same noWrite
    exact ⟨disk.files (.identity site), disk, noWrite, by simp, by rw [same, denoted]⟩
  have read : (loadDto libs root site).run diskHandler disk =
      (root.identityFile libs (disk.files (.identity site)), disk) := run_loadDto site disk
  rcases StoreRoot.siteFile_eq_ok.mp denoted with
    ⟨absent, rfl⟩ | ⟨dto, retained, found, converted, rfl⟩
  · rw [absent] at read
    cases intent with
    | none => exact unchanged rfl rfl
    | recordObservation pubkey | pinIdentity pubkey | markExternallyVerified pubkey
    | replaceIdentity newPubkey old externallyVerified =>
        simp only [apply]
        rw [Program.run_bind_ok diskHandler read]
        exact run_writeDto lawful site _ _ disk
  · obtain ⟨identity, replaced⟩ := IdentityDto.toSite_eq_ok.mp converted
    rw [found] at read
    cases intent with
    | none => exact unchanged rfl rfl
    | recordObservation pubkey =>
        refine unchanged rfl ?_
        simp only [apply]
        rw [Program.run_bind_ok diskHandler read, Program.run_pure]
    | pinIdentity pubkey =>
        have existing : (apply libs root site (.pinIdentity pubkey)).run diskHandler disk =
            (if retained.identity.provenance = .observed then
              writeDto libs root site
                (.new { pubkey, provenance := .pinned } retained.replaced)
            else pure ()).run diskHandler disk := by
          simp only [apply]
          rw [Program.run_bind_ok diskHandler read]
          simp only [identity, replaced, asOutcome_ok]
          rw [Program.run_bind_ok diskHandler (run_ofResult disk _)]
        by_cases observed : retained.identity.provenance = .observed
        · rw [existing, if_pos observed]
          simp only [PersistenceIntent.applyTo, if_pos observed]
          exact run_writeDto lawful site _ _ disk
        · refine unchanged (by simp [PersistenceIntent.applyTo, observed]) ?_
          rw [existing, if_neg observed, Program.run_pure]
    | markExternallyVerified pubkey | replaceIdentity newPubkey old externallyVerified =>
        simp only [apply, replacedPubkeys, PersistenceIntent.applyTo, replacedAt]
        rw [Program.run_bind_ok diskHandler read]
        simp only [Option.map_some, Option.getD_some, replaced]
        exact run_writeDto lawful site _ _ disk

end FileIdentityStore

namespace FileHistoryStore

variable {libs root}

/-- The record of a publisher is loaded by one read. -/
theorem loadDto_eq (publisher : PublisherPubkey) :
    loadDto libs root publisher =
      .call (.readFileOpt (.history publisher)) fun reply =>
        .ret (reply >>= fun file => root.historyDtoFile libs file) := by
  refine root.readProtected_bind (.history publisher) fun payload => ?_
  cases payload with
  | none => rfl
  | some bytes => exact Program.ret_bind_ret _ fun dto => Program.ret_bind_ret _ fun _ => rfl

@[simp]
theorem run_loadDto (publisher : PublisherPubkey) (disk : Disk) :
    (loadDto libs root publisher).run diskHandler disk =
      (root.historyDtoFile libs (disk.files (.history publisher)), disk) := by
  rw [loadDto_eq]
  rfl

section Calls

variable {allowed : FileCall → Prop} {publisher : PublisherPubkey}

theorem loadDto_calls (reads : allowed (.readFileOpt (.history publisher))) :
    (loadDto libs root publisher).CallsWithin allowed := by
  rw [loadDto_eq]
  exact ⟨reads, fun _ => trivial⟩

theorem loadHistory_calls (reads : allowed (.readFileOpt (.history publisher))) :
    (loadHistory libs root publisher).CallsWithin allowed := by
  refine .bind (loadDto_calls reads) fun found => ?_
  cases found with
  | none => exact .pure _
  | some dto => exact .bind trivial fun _ => .pure _

theorem appendRecord_calls (reads : allowed (.readFileOpt (.history publisher)))
    (writes : ∀ payload,
      (root.writeProtected libs (.history publisher) payload).CallsWithin allowed)
    (record : RetainedManifestRecord) :
    (appendRecord libs root publisher record).CallsWithin allowed :=
  .bind (loadDto_calls reads) fun _ => .bind trivial writes

end Calls

/-- An append, returned or not, leaves the identity files alone. -/
theorem appendRecord_identity (publisher : PublisherPubkey) (record : RetainedManifestRecord)
    (disk : Disk) (site : OnionAddress) :
    ((appendRecord libs root publisher record).run diskHandler disk).2.files (.identity site) =
      disk.files (.identity site) := by
  refine run_spares (appendRecord_calls trivial (fun payload => ?_) record) disk
  refine .bind (Protector.sealBytes_calls trivial _ _) fun sealed => .perform ?_
  exact StorePath.noConfusion

/-- A load returns the history in the file. -/
theorem run_loadHistory_file (publisher : PublisherPubkey) (disk : Disk) :
    (loadHistory libs root publisher).run diskHandler disk =
      (root.historyFile libs (disk.files (.history publisher)), disk) := by
  simp only [loadHistory, StoreRoot.historyFile]
  rw [Program.run_bind, run_loadDto]
  cases root.historyDtoFile libs (disk.files (.history publisher)) with
  | error error => rfl
  | ok found =>
      cases found with
      | none => rfl
      | some dto =>
          simp only [ok_bind]
          rw [Program.run_bind, run_ofResult]
          cases asOutcome (dto.intoRecords libs.hexDecodeError) <;> rfl

/-- An appended record is in front of the records the file held. -/
theorem run_appendRecord (lawful : libs.Lawful) {disk : Disk} {publisher : PublisherPubkey}
    {history : PublisherHistory}
    (denoted : root.historyFile libs (disk.files (.history publisher)) = .ok history)
    (record : RetainedManifestRecord) :
    ∃ file after,
      (appendRecord libs root publisher record).run diskHandler disk = (.ok (), after) ∧
      after.files = Function.update disk.files (.history publisher) file ∧
      root.historyFile libs file = .ok (history.push record) := by
  obtain ⟨found, read, entries⟩ := StoreRoot.historyFile_entries denoted
  obtain ⟨bytes, encoded, decoded⟩ := lawful.historyJson {
    v := historyV
    records := ManifestRecordDto.fromRecord record :: (found.map (·.records)).getD [] }
  obtain ⟨sealed, after, wrote, opened, files⟩ :=
    root.run_writeProtected lawful (.history publisher) bytes disk
  refine ⟨some sealed, after, ?_, files, ?_⟩
  · simp only [appendRecord]
    rw [Program.run_bind_ok diskHandler ((run_loadDto publisher disk).trans (by rw [read]))]
    simp only [encoded, mapErr_ok]
    rw [Program.run_bind_ok diskHandler (run_ofResult disk _), wrote]
  · have converted : (ManifestRecordDto.fromRecord record ::
        (found.map (·.records)).getD []).mapM (·.intoRecord libs.hexDecodeError) =
          .ok (record :: history.records) := by
      simp [entries]
    rw [StoreRoot.historyFile_of_opened opened decoded converted]
    rfl

end FileHistoryStore

/-! ### The files refine the view -/

theorem fileHandler_loadIdentity (libs : StoreLibs) (root : StoreRoot) (site : OnionAddress)
    (disk : Disk) :
    (fileHandler libs root (.loadIdentity site) disk).1 =
      (root.siteFile libs (disk.files (.identity site))).map (Option.map (·.identity)) :=
  congrArg Prod.fst (FileIdentityStore.run_loadIdentity_file site disk)

theorem fileHandler_loadHistory (libs : StoreLibs) (root : StoreRoot)
    (publisher : PublisherPubkey) (disk : Disk) :
    (fileHandler libs root (.loadHistory publisher) disk).1 =
      root.historyFile libs (disk.files (.history publisher)) :=
  congrArg Prod.fst (FileHistoryStore.run_loadHistory_file publisher disk)

/-- On valid files the file-backed stores answer as the view does, and the files
stay valid and denote the next view. -/
theorem fileHandler_view {libs : StoreLibs} (lawful : libs.Lawful) {root : StoreRoot}
    (request : StoreCall) {disk : Disk} (valid : root.ValidFiles libs disk) :
    (fileHandler libs root request disk).1 = (viewHandler request (root.view libs disk)).1 ∧
      root.ValidFiles libs (fileHandler libs root request disk).2 ∧
      root.view libs (fileHandler libs root request disk).2 =
        (viewHandler request (root.view libs disk)).2 := by
  cases request with
  | loadIdentity site =>
      have run := @FileIdentityStore.run_loadIdentity_file libs root site disk
      rw [valid.siteFile] at run
      exact ⟨congrArg Prod.fst run, (congrArg Prod.snd run).symm ▸ valid,
        congrArg (root.view libs) (congrArg Prod.snd run)⟩
  | loadHistory publisher =>
      have run := @FileHistoryStore.run_loadHistory_file libs root publisher disk
      rw [valid.historyFile] at run
      exact ⟨congrArg Prod.fst run, (congrArg Prod.snd run).symm ▸ valid,
        congrArg (root.view libs) (congrArg Prod.snd run)⟩
  | apply site intent =>
      obtain ⟨file, after, run, files, denoted⟩ :=
        FileIdentityStore.run_apply lawful (valid.siteFile site) intent
      obtain ⟨stillValid, nextView⟩ := valid.update_identity files denoted
      have ran : fileHandler libs root (.apply site intent) disk = (.ok (), after) := run
      rw [ran]
      exact ⟨rfl, stillValid, nextView⟩
  | appendRecord publisher record =>
      obtain ⟨file, after, run, files, denoted⟩ :=
        FileHistoryStore.run_appendRecord lawful (valid.historyFile publisher) record
      obtain ⟨stillValid, nextView⟩ := valid.update_history files denoted
      have ran : fileHandler libs root (.appendRecord publisher record) disk =
          (.ok (), after) := run
      rw [ran]
      exact ⟨rfl, stillValid, nextView⟩

/-- The same, for a view that valid files denote. -/
theorem fileHandler_denotes {libs : StoreLibs} (lawful : libs.Lawful) {root : StoreRoot}
    (request : StoreCall) (disk : Disk) (view : StoreView)
    (denotes : root.ValidFiles libs disk ∧ root.view libs disk = view) :
    (fileHandler libs root request disk).1 = (viewHandler request view).1 ∧
      root.ValidFiles libs (fileHandler libs root request disk).2 ∧
      root.view libs (fileHandler libs root request disk).2 = (viewHandler request view).2 := by
  obtain ⟨valid, rfl⟩ := denotes
  exact fileHandler_view lawful request valid

/-- A program run on valid files returns what it returns on the view. -/
theorem run_fileHandler {libs : StoreLibs} (lawful : libs.Lawful) {root : StoreRoot}
    {α : Type} (program : StoreProgram α) {disk : Disk}
    (valid : root.ValidFiles libs disk) :
    (program.run (fileHandler libs root) disk).1 =
        (program.run viewHandler (root.view libs disk)).1 ∧
      root.ValidFiles libs (program.run (fileHandler libs root) disk).2 ∧
      root.view libs (program.run (fileHandler libs root) disk).2 =
        (program.run viewHandler (root.view libs disk)).2 :=
  Program.run_simulation (I := storeInterface)
    (fun request disk view => fileHandler_denotes lawful request disk view) program
    ⟨valid, rfl⟩

end EntangledClient
