import EntangledClient.RecordCalls

/-!
# Stores of both modes on one directory

A record is an envelope of the mode of the store that sealed it.  A store of the other
mode cannot open it, so it neither loads nor replaces it.  What an integrity store has
written therefore stays as that store left it, whatever encrypted stores do beside it.
-/

namespace EntangledClient

open CallTree ExceptRules

/-- Each decoder refuses the envelopes of the other mode, which lack its fields. -/
structure StoreLibs.EnvelopesApart (libs : StoreLibs) : Prop where
  integrity : ∀ env bytes, libs.integrityJson.toVec env = .ok bytes →
    ∃ error, libs.aeadJson.fromSlice bytes = .error error
  aead : ∀ env bytes, libs.aeadJson.toVec env = .ok bytes →
    ∃ error, libs.integrityJson.fromSlice bytes = .error error

def Protector.tag : Protector → ProtectionTag
  | .integrity _ => .integrity
  | .encrypted _ => .encrypted

/-- The bytes are an envelope that a store of this mode seals. -/
def EnvelopeOf (libs : StoreLibs) (bytes : Bytes) : ProtectionTag → Prop
  | .integrity => ∃ env, libs.integrityJson.toVec env = .ok bytes
  | .encrypted => ∃ env, libs.aeadJson.toVec env = .ok bytes

section Envelopes

variable {libs : StoreLibs}

theorem sealBytes_envelope (protector : Protector) (payload : Bytes) :
    (protector.sealBytes libs payload).Concludes fun outcome =>
      ∀ sealed, outcome = .ok sealed → EnvelopeOf libs sealed protector.tag := by
  cases protector with
  | integrity key =>
      intro sealed isSealed
      obtain ⟨tag, -, encoded⟩ := bind_eq_ok.mp isSealed
      exact ⟨_, mapErr_eq_ok.mp encoded⟩
  | encrypted key =>
      rintro (failure | nonce) sealed isSealed
      · cases isSealed
      · cases encrypted : libs.encrypt key nonce payload with
        | none => simp [encrypted, EntangledClient.fail] at isSealed
        | some ct =>
            simp only [encrypted, ok_bind] at isSealed
            exact ⟨_, mapErr_eq_ok.mp isSealed⟩

/-- A store does not open an envelope of the other mode. -/
theorem openBytes_of_other (apart : libs.EnvelopesApart) {protector : Protector}
    {bytes : Bytes} {tag : ProtectionTag} (envelope : EnvelopeOf libs bytes tag)
    (other : protector.tag ≠ tag) : IsErr (protector.openBytes libs bytes) := by
  cases protector with
  | integrity key =>
      cases tag with
      | integrity => exact absurd rfl other
      | encrypted =>
          obtain ⟨env, encoded⟩ := envelope
          obtain ⟨error, refused⟩ := apart.aead env bytes encoded
          exact ⟨_, by rw [Protector.openBytes, refused]; rfl⟩
  | encrypted key =>
      cases tag with
      | encrypted => exact absurd rfl other
      | integrity =>
          obtain ⟨env, encoded⟩ := envelope
          obtain ⟨error, refused⟩ := apart.integrity env bytes encoded
          exact ⟨_, by rw [Protector.openBytes, refused]; rfl⟩

/-- The file calls of a store call: a write is one of an envelope, to the call's record. -/
def WritesEnvelope (libs : StoreLibs) (tag : ProtectionTag) (request : StoreCall) :
    FileCall → Prop
  | .writeAtomic path bytes => path ∈ request.recordPath ∧ EnvelopeOf libs bytes tag
  | .ensureDirs | .readFileOpt _ | .getrandom _ => True

theorem fileMethod_writesEnvelope (root : StoreRoot) (request : StoreCall) :
    Program.CallsWithin (I := fileInterface)
      (WritesEnvelope libs root.protector.tag request) (fileMethod libs root request) := by
  refine fileMethod_calls (fun _ => trivial) fun path payload about => ?_
  refine .bind_always (Protector.sealBytes_calls trivial _ payload) ?_
  refine (sealBytes_envelope root.protector payload).mono fun _ _ envelope sealed same => ?_
  exact .perform ⟨about, envelope sealed same⟩

/-- After a call every file is as it was, except that the call's record may have become
an envelope of the store's mode. -/
theorem call_files (root : StoreRoot) (request : StoreCall) (disk : Disk) (path : StorePath) :
    (fileHandler libs root request disk).2.files path = disk.files path ∨
      path ∈ request.recordPath ∧
        ∃ bytes, (fileHandler libs root request disk).2.files path = some bytes ∧
          EnvelopeOf libs bytes root.protector.tag := by
  have step : ∀ fileCall (state : Disk),
      WritesEnvelope libs root.protector.tag request fileCall →
      (state.files path = disk.files path ∨ path ∈ request.recordPath ∧
        ∃ bytes, state.files path = some bytes ∧ EnvelopeOf libs bytes root.protector.tag) →
      ((diskHandler fileCall state).2.files path = disk.files path ∨
        path ∈ request.recordPath ∧
          ∃ bytes, (diskHandler fileCall state).2.files path = some bytes ∧
            EnvelopeOf libs bytes root.protector.tag) := by
    intro fileCall state allowed before
    cases fileCall with
    | ensureDirs | readFileOpt other | getrandom length => exact before
    | writeAtomic written bytes =>
        obtain ⟨about, envelope⟩ := allowed
        by_cases same : path = written
        · subst same
          exact .inr ⟨about, bytes, Disk.files_write_same .., envelope⟩
        · rw [diskHandler, Disk.files_write_other _ same]
          exact before
  exact Program.run_preserves (I := fileInterface) diskHandler step
    (fileMethod_writesEnvelope root request) (.inl rfl)

/-- A call about no record of this name leaves the file alone. -/
theorem call_files_other {root : StoreRoot} {request : StoreCall} {path : StorePath}
    (other : path ∉ request.recordPath) (disk : Disk) :
    (fileHandler libs root request disk).2.files path = disk.files path :=
  (call_files root request disk path).resolve_right fun written => other written.1

end Envelopes

/-! ### What an integrity store has acknowledged -/

/-- What a record file holds for an integrity store that acknowledged a value: nothing yet,
a record of the other mode, or its own record of that value. -/
inductive RecordHolds (libs : StoreLibs) {α : Type} (reading : Option Bytes → Except Failure α)
    (fresh : α) : Option Bytes → α → Prop
  | absent : RecordHolds libs reading fresh none fresh
  | foreign {bytes : Bytes} (envelope : EnvelopeOf libs bytes .encrypted) :
      RecordHolds libs reading fresh (some bytes) fresh
  | own {bytes : Bytes} {value : α} (envelope : EnvelopeOf libs bytes .integrity)
      (reads : reading (some bytes) = .ok value) :
      RecordHolds libs reading fresh (some bytes) value

/-- The record files hold what an integrity store acknowledged. -/
structure StoreHolds (libs : StoreLibs) (root : StoreRoot) (acknowledged : StoreView)
    (disk : Disk) : Prop where
  sites : ∀ site, RecordHolds libs (root.siteFile libs) none
    (disk.files (.identity site)) (acknowledged.sites site)
  histories : ∀ publisher, RecordHolds libs (root.historyFile libs) .new
    (disk.files (.history publisher)) (acknowledged.histories publisher)

section Holding

variable {libs : StoreLibs} {disk : Disk} {α : Type}
  {reading : Option Bytes → Except Failure α} {fresh value : α}

/-- What an own file that reads to a value holds. -/
theorem RecordHolds.of_reads {file : Option Bytes} (empty : reading none = .ok fresh)
    (envelope : ∀ bytes, file = some bytes → EnvelopeOf libs bytes .integrity)
    (reads : reading file = .ok value) : RecordHolds libs reading fresh file value := by
  cases file with
  | none =>
      obtain rfl : fresh = value := Except.ok.inj (empty.symm.trans reads)
      exact .absent
  | some bytes => exact .own (envelope bytes rfl) reads

/-- A call of an encrypted store leaves what the integrity store acknowledged. -/
theorem RecordHolds.call_foreign (apart : libs.EnvelopesApart) {path : StorePath}
    (holds : RecordHolds libs reading fresh (disk.files path) value) (key : Bytes32)
    (request : StoreCall) :
    RecordHolds libs reading fresh
      ((fileHandler libs ⟨.encrypted key⟩ request disk).2.files path) value := by
  rcases @call_files libs ⟨.encrypted key⟩ request disk path with
    same | ⟨about, bytes, written, envelope⟩
  · rw [same]
    exact holds
  · cases held : disk.files path with
    | none =>
        rw [held] at holds
        cases holds
        rw [written]
        exact .foreign envelope
    | some before =>
        rw [held] at holds
        cases holds with
        | foreign _ =>
            rw [written]
            exact .foreign envelope
        | own ownEnvelope reads =>
            have unreadable : ∀ other ∈ request.recordPath,
                IsErr ((⟨.encrypted key⟩ : StoreRoot).openFile libs (disk.files other)) := by
              intro named isNamed
              obtain rfl : path = named := Option.some.inj (about.symm.trans isNamed)
              have other : (Protector.encrypted key).tag ≠ .integrity := by
                simp [Protector.tag]
              obtain ⟨error, refused⟩ := openBytes_of_other apart ownEnvelope other
              exact ⟨error, by rw [held, StoreRoot.openFile, refused]; rfl⟩
            rw [(call_of_unreadable unreadable).1, held]
            exact .own ownEnvelope reads

theorem StoreHolds.call_foreign (apart : libs.EnvelopesApart) {root : StoreRoot}
    {acknowledged : StoreView} (holds : StoreHolds libs root acknowledged disk)
    (key : Bytes32) (request : StoreCall) :
    StoreHolds libs root acknowledged (fileHandler libs ⟨.encrypted key⟩ request disk).2 where
  sites site := (holds.sites site).call_foreign apart key request
  histories publisher := (holds.histories publisher).call_foreign apart key request

/-- A record that an integrity store cannot open is of the other mode. -/
theorem RecordHolds.reads_or_unreadable (apart : libs.EnvelopesApart)
    {file : Option Bytes} (empty : reading none = .ok fresh)
    (holds : RecordHolds libs reading fresh file value) (key : Bytes) :
    ((∀ bytes, file = some bytes → EnvelopeOf libs bytes .integrity) ∧
        reading file = .ok value) ∨
      IsErr ((⟨.integrity key⟩ : StoreRoot).openFile libs file) := by
  cases holds with
  | absent => exact .inl ⟨fun _ absent => (by cases absent), empty⟩
  | own envelope reads =>
      refine .inl ⟨fun bytes same => ?_, reads⟩
      obtain rfl := Option.some.inj same
      exact envelope
  | foreign envelope =>
      have other : (Protector.integrity key).tag ≠ .encrypted := by
        simp [Protector.tag]
      obtain ⟨error, refused⟩ := openBytes_of_other apart envelope other
      exact .inr ⟨error, by rw [StoreRoot.openFile, refused]; rfl⟩

/-- A call of the integrity store itself rewrites its record. -/
theorem RecordHolds.call_own {path : StorePath} {key : Bytes} {request : StoreCall}
    {after : α} (empty : reading none = .ok fresh)
    (envelope : ∀ bytes, disk.files path = some bytes → EnvelopeOf libs bytes .integrity)
    (reads : reading ((fileHandler libs ⟨.integrity key⟩ request disk).2.files path) =
      .ok after) :
    RecordHolds libs reading fresh
      ((fileHandler libs ⟨.integrity key⟩ request disk).2.files path) after := by
  refine .of_reads empty (fun bytes held => ?_) reads
  rcases @call_files libs ⟨.integrity key⟩ request disk path with
    same | ⟨-, sealed, written, isEnvelope⟩
  · exact envelope bytes (same ▸ held)
  · obtain rfl := Option.some.inj (written.symm.trans held)
    exact isEnvelope

section OwnCalls

variable {key : Bytes} {acknowledged : StoreView}

/-- The acknowledged view after a call of the integrity store. -/
def acknowledge (libs : StoreLibs) (root : StoreRoot) (request : StoreCall) (disk : Disk)
    (acknowledged : StoreView) : StoreView :=
  if (fileHandler libs root request disk).1.isOk then (viewHandler request acknowledged).2
  else acknowledged

/-- A call that cannot open its record changes neither files nor view. -/
theorem acknowledge_of_unreadable {root : StoreRoot} {request : StoreCall}
    (unreadable : ∀ path ∈ request.recordPath, IsErr (root.openFile libs (disk.files path))) :
    acknowledge libs root request disk acknowledged = acknowledged ∧
      (fileHandler libs root request disk).2 = disk := by
  obtain ⟨unchanged, ⟨error, fails⟩ | ⟨site, rfl⟩⟩ := call_of_unreadable unreadable
  · refine ⟨?_, unchanged⟩
    rw [acknowledge, fails]
    rfl
  · refine ⟨?_, unchanged⟩
    rw [acknowledge, viewHandler_apply_none, ite_self]

theorem StoreHolds.apply (lawful : libs.Lawful) (apart : libs.EnvelopesApart)
    (holds : StoreHolds libs ⟨.integrity key⟩ acknowledged disk) (site : OnionAddress)
    (intent : PersistenceIntent) :
    StoreHolds libs ⟨.integrity key⟩
      (acknowledge libs ⟨.integrity key⟩ (.apply site intent) disk acknowledged)
      (fileHandler libs ⟨.integrity key⟩ (.apply site intent) disk).2 := by
  have empty : (⟨.integrity key⟩ : StoreRoot).siteFile libs none = .ok none := rfl
  rcases (holds.sites site).reads_or_unreadable apart empty key with
    ⟨envelope, reads⟩ | unreadable
  · obtain ⟨file, after, ran, files, denoted⟩ :=
      FileIdentityStore.run_apply lawful reads intent
    have handled : fileHandler libs ⟨.integrity key⟩ (.apply site intent) disk =
        (.ok (), after) := ran
    have viewed : acknowledge libs ⟨.integrity key⟩ (.apply site intent) disk acknowledged =
        acknowledged.apply site intent := by
      rw [acknowledge, handled]
      rfl
    have readsAfter : (⟨.integrity key⟩ : StoreRoot).siteFile libs
        ((fileHandler libs ⟨.integrity key⟩ (.apply site intent) disk).2.files
          (.identity site)) = .ok (intent.applyTo (acknowledged.sites site)) := by
      rw [handled, files, Function.update_self]
      exact denoted
    have rewritten := RecordHolds.call_own empty envelope readsAfter
    rw [viewed, handled] at *
    refine ⟨fun other => ?_, fun publisher => ?_⟩
    · by_cases same : other = site
      · subst same
        rw [StoreView.sites_apply_same]
        exact rewritten
      · rw [StoreView.sites_apply_other _ same, files, Function.update_of_ne (by simpa)]
        exact holds.sites other
    · rw [StoreView.histories_apply, files, Function.update_of_ne (by simp)]
      exact holds.histories publisher
  · by_cases silent : intent = .none
    · subst silent
      have unchanged : fileHandler libs ⟨.integrity key⟩ (.apply site .none) disk =
          (.ok (), disk) := rfl
      rw [acknowledge, viewHandler_apply_none, ite_self, unchanged]
      exact holds
    · have about : (StoreCall.apply site intent).recordPath = some (.identity site) :=
        if_neg silent
      obtain ⟨viewed, unchanged⟩ := @acknowledge_of_unreadable libs disk acknowledged
        ⟨.integrity key⟩ (.apply site intent) (by
          intro path isPath
          obtain rfl : StorePath.identity site = path :=
            Option.some.inj (about.symm.trans isPath)
          exact unreadable)
      rw [viewed, unchanged]
      exact holds

theorem StoreHolds.appendRecord (lawful : libs.Lawful) (apart : libs.EnvelopesApart)
    (holds : StoreHolds libs ⟨.integrity key⟩ acknowledged disk)
    (publisher : PublisherPubkey) (record : RetainedManifestRecord) :
    StoreHolds libs ⟨.integrity key⟩
      (acknowledge libs ⟨.integrity key⟩ (.appendRecord publisher record) disk acknowledged)
      (fileHandler libs ⟨.integrity key⟩ (.appendRecord publisher record) disk).2 := by
  have empty : (⟨.integrity key⟩ : StoreRoot).historyFile libs none = .ok .new := rfl
  rcases (holds.histories publisher).reads_or_unreadable apart empty key with
    ⟨envelope, reads⟩ | unreadable
  · obtain ⟨file, after, ran, files, denoted⟩ :=
      FileHistoryStore.run_appendRecord lawful reads record
    have handled : fileHandler libs ⟨.integrity key⟩ (.appendRecord publisher record) disk =
        (.ok (), after) := ran
    have viewed : acknowledge libs ⟨.integrity key⟩ (.appendRecord publisher record) disk
        acknowledged = acknowledged.appendRecord publisher record := by
      rw [acknowledge, handled]
      rfl
    have readsAfter : (⟨.integrity key⟩ : StoreRoot).historyFile libs
        ((fileHandler libs ⟨.integrity key⟩ (.appendRecord publisher record) disk).2.files
          (.history publisher)) = .ok ((acknowledged.histories publisher).push record) := by
      rw [handled, files, Function.update_self]
      exact denoted
    have rewritten := RecordHolds.call_own empty envelope readsAfter
    rw [viewed, handled] at *
    refine ⟨fun site => ?_, fun other => ?_⟩
    · rw [files, Function.update_of_ne (by simp)]
      exact holds.sites site
    · by_cases same : other = publisher
      · subst same
        rw [StoreView.histories_appendRecord_same]
        exact rewritten
      · rw [StoreView.histories_appendRecord_other _ same, files,
          Function.update_of_ne (by simpa)]
        exact holds.histories other
  · obtain ⟨viewed, unchanged⟩ := @acknowledge_of_unreadable libs disk acknowledged
      ⟨.integrity key⟩ (.appendRecord publisher record) (by
        intro path isPath
        obtain rfl : StorePath.history publisher = path := Option.some.inj isPath
        exact unreadable)
    rw [viewed, unchanged]
    exact holds

/-- Every call of the integrity store keeps the files and what it acknowledged together. -/
theorem StoreHolds.call_own (lawful : libs.Lawful) (apart : libs.EnvelopesApart)
    (holds : StoreHolds libs ⟨.integrity key⟩ acknowledged disk) (request : StoreCall) :
    StoreHolds libs ⟨.integrity key⟩
      (acknowledge libs ⟨.integrity key⟩ request disk acknowledged)
      (fileHandler libs ⟨.integrity key⟩ request disk).2 := by
  cases request with
  | loadIdentity site =>
      have unchanged := congrArg Prod.snd
        (@FileIdentityStore.run_loadIdentity_file libs ⟨.integrity key⟩ site disk)
      have handled : (fileHandler libs ⟨.integrity key⟩ (.loadIdentity site) disk).2 = disk :=
        unchanged
      rw [acknowledge, handled]
      simpa [viewHandler] using holds
  | loadHistory publisher =>
      have unchanged := congrArg Prod.snd
        (@FileHistoryStore.run_loadHistory_file libs ⟨.integrity key⟩ publisher disk)
      have handled : (fileHandler libs ⟨.integrity key⟩ (.loadHistory publisher) disk).2 =
          disk := unchanged
      rw [acknowledge, handled]
      simpa [viewHandler] using holds
  | apply site intent => exact holds.apply lawful apart site intent
  | appendRecord publisher record => exact holds.appendRecord lawful apart publisher record

/-- What the integrity store acknowledged for a site, it loads. -/
theorem StoreHolds.loadIdentity
    (holds : StoreHolds libs ⟨.integrity key⟩ acknowledged disk) {site : OnionAddress}
    (known : acknowledged.sites site ≠ none) :
    (fileHandler libs ⟨.integrity key⟩ (.loadIdentity site) disk).1 =
      .ok (acknowledged.identity site) := by
  have atSite := holds.sites site
  rw [fileHandler_loadIdentity]
  generalize disk.files (.identity site) = file at atSite
  rw [StoreView.identity]
  generalize acknowledged.sites site = retained at atSite known
  cases atSite with
  | absent => exact absurd rfl known
  | foreign _ => exact absurd rfl known
  | own _ reads => rw [reads]; rfl

theorem StoreHolds.loadHistory
    (holds : StoreHolds libs ⟨.integrity key⟩ acknowledged disk)
    {publisher : PublisherPubkey} (known : acknowledged.histories publisher ≠ .new) :
    (fileHandler libs ⟨.integrity key⟩ (.loadHistory publisher) disk).1 =
      .ok (acknowledged.histories publisher) := by
  have ofPublisher := holds.histories publisher
  rw [fileHandler_loadHistory]
  generalize disk.files (.history publisher) = file at ofPublisher
  generalize acknowledged.histories publisher = history at ofPublisher known
  cases ofPublisher with
  | absent => exact absurd rfl known
  | foreign _ => exact absurd rfl known
  | own _ reads => exact reads

end OwnCalls

end Holding

/-! ### Sample crates whose envelopes differ -/

namespace SampleLibs

open PrefixCode

/-- A code behind a byte that tells it from other codes. -/
def marked {α : Type} (mark : UInt8) (code : PrefixCode α) : PrefixCode α :=
  (pair byte code).via (fun value => (mark, value))
    (fun (found, value) => if found = mark then some value else none) (by simp)

theorem marked_refuses {α β : Type} {first second : UInt8} (different : second ≠ first)
    (code : PrefixCode α) (other : PrefixCode β) (value : β) :
    (json (marked first code)).fromSlice ((marked second other).put value) =
      .error "expected value" := by
  have refused : (marked first code).get ((marked second other).put value) = none := by
    simp only [marked, via, pair, byte.get_put, Option.bind_some]
    cases code.get (other.put value) <;> simp [different]
  simp [json, refused]

/-- The sample crates with a mark on each envelope. -/
def markedLibs : StoreLibs :=
  { libs with
    integrityJson := json (marked 0 integrityEnvelope)
    aeadJson := json (marked 1 aeadEnvelope) }

theorem markedLibs_lawful : markedLibs.Lawful :=
  { lawful with
    integrityJson := json_roundTrips _
    aeadJson := json_roundTrips _ }

theorem markedLibs_apart : markedLibs.EnvelopesApart where
  integrity := by
    rintro env _ ⟨⟩
    exact ⟨_, marked_refuses (by decide) aeadEnvelope integrityEnvelope env⟩
  aead := by
    rintro env _ ⟨⟩
    exact ⟨_, marked_refuses (by decide) integrityEnvelope aeadEnvelope env⟩

end SampleLibs

end EntangledClient
