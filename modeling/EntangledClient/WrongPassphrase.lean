import EntangledClient.RecordCalls
import EntangledClient.StoreModePermanence

/-!
# Sessions under a wrong passphrase

An encrypted open derives a key from any passphrase and checks nothing.  A file
that exists does not open under another key, so it is neither read nor replaced;
a site or publisher without a file reads as a first contact, and its first record
is sealed under the wrong key.
-/

namespace EntangledClient

open CallTree ExceptRules

/-- Decryption under a different key fails. -/
def StoreLibs.WrongKeyFails (libs : StoreLibs) : Prop :=
  ∀ key other nonce payload ct, other ≠ key → libs.encrypt key nonce payload = some ct →
    libs.decrypt other nonce ct = none

/-- The store's directory, the sessions on it, and what the calls that returned `Ok`
say is stored. -/
structure SessionStore where
  disk : Disk
  sessions : Nat → Option StoreRoot
  acknowledged : StoreView

inductive PassphraseEvent
  | openEncrypted (session : Nat) (passphrase : String)
  | call (session : Nat) (request : StoreCall)

namespace SessionStore

variable (libs : StoreLibs)

/-- A store that was just initialised. -/
def initialised (disk : Disk) : SessionStore where
  disk
  sessions _ := none
  acknowledged := .empty

/-- A session whose open failed has no store to call. -/
def machine : StateMachine SessionStore PassphraseEvent where
  step state event :=
    match event with
    | .openEncrypted session passphrase =>
        let (opened, disk) := (StoreRoot.openEncrypted libs passphrase).run diskHandler state.disk
        some { state with
          disk
          sessions := Function.update state.sessions session opened.toOption }
    | .call session request =>
        match state.sessions session with
        | none => none
        | some root =>
            let (reply, disk) := fileHandler libs root request state.disk
            some { state with
              disk
              acknowledged :=
                if reply.isOk then (viewHandler request state.acknowledged).2
                else state.acknowledged }

/-- A session under another key loads nothing and changes no file; an open changes no file;
and whoever opens the store with the passphrase loads what was acknowledged. -/
structure Guarded (passphrase : String) (root : StoreRoot) (before : SessionStore)
    (event : PassphraseEvent) (after : SessionStore) : Prop where
  refused : ∀ session request other, event = .call session request →
    before.sessions session = some other → other ≠ root →
      (request.IsLoad → ∀ value, (fileHandler libs other request before.disk).1 ≠ .ok value) ∧
        after.disk.files = before.disk.files
  opened : ∀ session other, event = .openEncrypted session other →
    after.disk.files = before.disk.files
  reopens : ((StoreRoot.openEncrypted libs passphrase).run diskHandler after.disk).1 = .ok root
  identities : ∀ site, (fileHandler libs root (.loadIdentity site) after.disk).1 =
    .ok (after.acknowledged.identity site)
  histories : ∀ publisher, (fileHandler libs root (.loadHistory publisher) after.disk).1 =
    .ok (after.acknowledged.histories publisher)

/-- A call of a session under another key is about a file that exists. -/
def TouchesStored (root : StoreRoot) (before : SessionStore) (event : PassphraseEvent)
    (_after : SessionStore) : Prop :=
  ∀ session request other, event = .call session request →
    before.sessions session = some other → other ≠ root →
      ∀ path ∈ request.recordPath, before.disk.files path ≠ none

end SessionStore

/-! ### Bytes sealed under another key -/

section Sealing

variable {libs : StoreLibs}

/-- Bytes that open under no key but this one. -/
def SealedFor (libs : StoreLibs) (key : Bytes32) (bytes : Bytes) : Prop :=
  ∀ other ≠ key, IsErr ((Protector.encrypted other).openBytes libs bytes)

theorem sealBytes_sealedFor (lawful : libs.Lawful) (wrongKey : libs.WrongKeyFails)
    (key : Bytes32) (payload : Bytes) :
    (Protector.sealBytes libs payload (.encrypted key)).Concludes fun outcome =>
      ∀ sealed, outcome = .ok sealed → SealedFor libs key sealed := by
  refine (Protector.sealBytes_encrypted lawful key payload).mono
    fun _ _ envelope sealed isSealed other different => ?_
  obtain ⟨nonce, ct, encrypted, decoded⟩ := envelope sealed isSealed
  have refused := wrongKey key other nonce payload ct different encrypted
  rw [Protector.openBytes_encrypted lawful other decoded, refused]
  exact ⟨_, rfl⟩

/-! ### The files of an encrypted store -/

/-- The salt is stored, and every record is sealed under the key. -/
structure EncryptedFiles (libs : StoreLibs) (salt : Bytes) (key : Bytes32) (disk : Disk) :
    Prop where
  storeMeta : ∃ bytes, disk.files .storeMeta = some bytes ∧
    libs.metaJson.fromSlice bytes = .ok ⟨metaV, .encrypted, some (libs.base64Encode salt)⟩
  records : ∀ path : StorePath, path.IsRecord → ∀ bytes, disk.files path = some bytes →
    SealedFor libs key bytes

namespace EncryptedFiles

variable {salt : Bytes} {key : Bytes32} {disk : Disk}

/-- The file calls of a session under the key: a write is one of a sealed record. -/
def WritesSealed (libs : StoreLibs) (key : Bytes32) : FileCall → Prop
  | .writeAtomic path bytes => path.IsRecord ∧ SealedFor libs key bytes
  | .ensureDirs | .readFileOpt _ | .getrandom _ => True

theorem handle (files : EncryptedFiles libs salt key disk) {request : FileCall}
    (allowed : WritesSealed libs key request) :
    EncryptedFiles libs salt key (diskHandler request disk).2 := by
  cases request with
  | ensureDirs | readFileOpt path | getrandom length => exact ⟨files.storeMeta, files.records⟩
  | writeAtomic path bytes =>
      obtain ⟨isRecord, isSealed⟩ := allowed
      have isNotMeta : StorePath.storeMeta ≠ path := by
        rintro rfl
        exact isRecord
      refine ⟨?_, fun other isRecord stored held => ?_⟩
      · rw [diskHandler, Disk.files_write_other _ isNotMeta]
        exact files.storeMeta
      · by_cases same : other = path
        · rw [diskHandler, same, Disk.files_write_same] at held
          rwa [← Option.some.inj held]
        · rw [diskHandler, Disk.files_write_other _ same] at held
          exact files.records other isRecord stored held

/-- A session under the key keeps the files. -/
theorem call (lawful : libs.Lawful) (wrongKey : libs.WrongKeyFails)
    (files : EncryptedFiles libs salt key disk) (request : StoreCall) :
    EncryptedFiles libs salt key (fileHandler libs ⟨.encrypted key⟩ request disk).2 := by
  have writes : ∀ path payload, path ∈ request.recordPath →
      ((⟨.encrypted key⟩ : StoreRoot).writeProtected libs path payload).CallsWithin
        (WritesSealed libs key) := by
    intro path payload about
    have isRecord := StoreCall.isRecord_of_recordPath about
    refine .bind_always (Protector.sealBytes_calls trivial _ payload) ?_
    refine (sealBytes_sealedFor lawful wrongKey key payload).mono fun _ _ isSealed sealed same => ?_
    exact .perform ⟨isRecord, isSealed sealed same⟩
  have step : ∀ request disk, WritesSealed libs key request → EncryptedFiles libs salt key disk →
      EncryptedFiles libs salt key (diskHandler request disk).2 :=
    fun request disk allowed files => files.handle allowed
  exact Program.run_preserves (I := fileInterface) diskHandler step
    (fileMethod_calls (fun _ => trivial) writes) files

section OtherKey

variable {other : Bytes32}

/-- A record that exists does not open under another key. -/
theorem openFile_other (files : EncryptedFiles libs salt key disk) (different : other ≠ key)
    {path : StorePath} (isRecord : path.IsRecord) (stored : disk.files path ≠ none) :
    IsErr ((⟨.encrypted other⟩ : StoreRoot).openFile libs (disk.files path)) := by
  obtain ⟨bytes, held⟩ := Option.ne_none_iff_exists'.mp stored
  obtain ⟨error, refused⟩ := files.records path isRecord bytes held other different
  exact ⟨error, by rw [held, StoreRoot.openFile, refused]; rfl⟩

theorem identityFile_other (files : EncryptedFiles libs salt key disk) (different : other ≠ key)
    {site : OnionAddress} (stored : disk.files (.identity site) ≠ none) :
    IsErr ((⟨.encrypted other⟩ : StoreRoot).identityFile libs
      (disk.files (.identity site))) := by
  have isRecord : (StorePath.identity site).IsRecord := trivial
  obtain ⟨error, refused⟩ := files.openFile_other different isRecord stored
  exact ⟨error, by rw [StoreRoot.identityFile, refused]; rfl⟩

/-- A call under another key about a record that exists fails and changes nothing; the
empty intent does nothing. -/
theorem call_other_of_stored (files : EncryptedFiles libs salt key disk)
    (different : other ≠ key) {request : StoreCall}
    (stored : ∀ path ∈ request.recordPath, disk.files path ≠ none) :
    (fileHandler libs ⟨.encrypted other⟩ request disk).2 = disk ∧
      (IsErr (fileHandler libs ⟨.encrypted other⟩ request disk).1 ∨
        ∃ site, request = .apply site .none) :=
  call_of_unreadable fun path about =>
    files.openFile_other different (StoreCall.isRecord_of_recordPath about) (stored path about)

end OtherKey

end EncryptedFiles

/-! ### A record that does not exist -/

section Absent

variable {root : StoreRoot} {disk : Disk}

/-- The first record of a site is written under whatever key the session has. -/
theorem apply_of_absent (lawful : libs.Lawful) {site : OnionAddress}
    (absent : disk.files (.identity site) = none) {intent : PersistenceIntent}
    (writes : intent ≠ .none) :
    (fileHandler libs root (.apply site intent) disk).1 = .ok () ∧
      (fileHandler libs root (.apply site intent) disk).2.files (.identity site) ≠ none := by
  have read : (FileIdentityStore.loadDto libs root site).run diskHandler disk =
      (.ok none, disk) := by
    rw [FileIdentityStore.run_loadDto, absent]
    rfl
  have written : ∀ identity replaced,
      ((FileIdentityStore.writeDto libs root site (.new identity replaced)).run
        diskHandler disk).1 = .ok () ∧
      ((FileIdentityStore.writeDto libs root site (.new identity replaced)).run
        diskHandler disk).2.files (.identity site) ≠ none := by
    intro identity replaced
    obtain ⟨file, after, ran, files, holds⟩ :=
      @FileIdentityStore.run_writeDto libs root lawful site identity replaced disk
    rw [ran, files, Function.update_self]
    refine ⟨rfl, ?_⟩
    rintro rfl
    cases holds
  simp only [fileHandler, fileMethod]
  cases intent with
  | none => exact absurd rfl writes
  | recordObservation pubkey | pinIdentity pubkey | markExternallyVerified pubkey
  | replaceIdentity newPubkey replaced externallyVerified =>
      simp only [FileIdentityStore.apply]
      rw [Program.run_bind_ok diskHandler read]
      exact written _ _

theorem appendRecord_of_absent (lawful : libs.Lawful) {publisher : PublisherPubkey}
    (absent : disk.files (.history publisher) = none) (record : RetainedManifestRecord) :
    (fileHandler libs root (.appendRecord publisher record) disk).2.files
      (.history publisher) ≠ none := by
  have read : (FileHistoryStore.loadDto libs root publisher).run diskHandler disk =
      (.ok none, disk) := by
    rw [FileHistoryStore.run_loadDto, absent]
    rfl
  obtain ⟨bytes, encoded, _⟩ := lawful.historyJson ⟨historyV, [.fromRecord record]⟩
  obtain ⟨sealed, after, wrote, _, files⟩ :=
    root.run_writeProtected lawful (.history publisher) bytes disk
  simp only [fileHandler, fileMethod, FileHistoryStore.appendRecord]
  rw [Program.run_bind_ok diskHandler read]
  simp only [Option.map_none, Option.getD_none, encoded, mapErr_ok]
  rw [Program.run_bind_ok diskHandler (run_ofResult disk _), wrote, files, Function.update_self]
  simp

/-- A call about a record that does not exist loads or writes. -/
theorem call_of_absent (lawful : libs.Lawful) {request : StoreCall} {path : StorePath}
    (about : path ∈ request.recordPath) (absent : disk.files path = none) :
    (request.IsLoad ∧ ∃ value, (fileHandler libs root request disk).1 = .ok value) ∨
      (fileHandler libs root request disk).2.files ≠ disk.files := by
  cases request with
  | loadIdentity site =>
      obtain rfl : StorePath.identity site = path := Option.some.inj about
      refine .inl ⟨trivial, none, ?_⟩
      rw [fileHandler_loadIdentity, absent]
      rfl
  | loadHistory publisher =>
      obtain rfl : StorePath.history publisher = path := Option.some.inj about
      refine .inl ⟨trivial, .new, ?_⟩
      rw [fileHandler_loadHistory, absent]
      rfl
  | appendRecord publisher record =>
      obtain rfl : StorePath.history publisher = path := Option.some.inj about
      refine .inr fun same => ?_
      exact appendRecord_of_absent lawful absent record (by rw [same, absent])
  | apply site intent =>
      by_cases empty : intent = .none
      · simp [StoreCall.recordPath, empty] at about
      · obtain rfl : StorePath.identity site = path := by
          simpa [StoreCall.recordPath, empty] using about
        refine .inr fun same => ?_
        exact (apply_of_absent lawful absent empty).2 (by rw [same, absent])

end Absent

/-! ### Runs -/

namespace SessionStore

variable {salt : Bytes} {key : Bytes32}

/-- What holds of a store while no session under another key has written to it. -/
structure Secure (libs : StoreLibs) (salt : Bytes) (key : Bytes32) (state : SessionStore) :
    Prop where
  files : EncryptedFiles libs salt key state.disk
  sessions : ∀ session root, state.sessions session = some root → ∃ other,
    root = ⟨.encrypted other⟩
  valid : (⟨.encrypted key⟩ : StoreRoot).ValidFiles libs state.disk
  acknowledged : (⟨.encrypted key⟩ : StoreRoot).view libs state.disk = state.acknowledged

/-- An open of an initialised store. -/
theorem Secure.opens (lawful : libs.Lawful) {state : SessionStore}
    (secure : Secure libs salt key state) (session : Nat) (passphrase : String) :
    (machine libs).step state (.openEncrypted session passphrase) =
      some { state with
        sessions := Function.update state.sessions session
          ((deriveKey libs passphrase salt).map fun key => ⟨.encrypted key⟩).toOption } := by
  obtain ⟨bytes, stored, decoded⟩ := secure.files.storeMeta
  simp only [machine, run_openEncrypted_later lawful stored decoded passphrase]

theorem Secure.step_open (lawful : libs.Lawful) {before after : SessionStore}
    (secure : Secure libs salt key before) {session : Nat} {passphrase : String}
    (taken : (machine libs).step before (.openEncrypted session passphrase) = some after) :
    after.disk = before.disk ∧ Secure libs salt key after := by
  obtain rfl := Option.some.inj ((secure.opens lawful session passphrase).symm.trans taken)
  refine ⟨rfl, secure.files, fun index root held => ?_, secure.valid, secure.acknowledged⟩
  by_cases same : index = session
  · subst same
    simp only [Function.update_self] at held
    cases derived : deriveKey libs passphrase salt with
    | error failure =>
        rw [derived] at held
        cases held
    | ok other =>
        rw [derived] at held
        exact ⟨other, (Option.some.inj held).symm⟩
  · simp only [Function.update_of_ne same] at held
    exact secure.sessions index root held

/-- A call of a session under the key does to the view what it does to the files. -/
theorem Secure.step_call (lawful : libs.Lawful) (wrongKey : libs.WrongKeyFails)
    {before after : SessionStore} (secure : Secure libs salt key before) {session : Nat}
    {request : StoreCall} (held : before.sessions session = some ⟨.encrypted key⟩)
    (taken : (machine libs).step before (.call session request) = some after) :
    Secure libs salt key after := by
  obtain ⟨sameReply, valid, view⟩ := fileHandler_view lawful request secure.valid
  have isOk := viewHandler_isOk request
    ((⟨.encrypted key⟩ : StoreRoot).view libs before.disk)
  rw [← sameReply] at isOk
  simp only [machine, held, isOk, if_true, Option.some.injEq] at taken
  subst taken
  refine ⟨secure.files.call lawful wrongKey request, secure.sessions, valid, ?_⟩
  rw [view, secure.acknowledged]

/-- A call of a session under another key about a record that exists. -/
theorem Secure.step_other {before after : SessionStore} (secure : Secure libs salt key before)
    {session : Nat} {request : StoreCall} {other : Bytes32} (different : other ≠ key)
    (held : before.sessions session = some ⟨.encrypted other⟩)
    (stored : ∀ path ∈ request.recordPath, before.disk.files path ≠ none)
    (taken : (machine libs).step before (.call session request) = some after) :
    (request.IsLoad → ∀ value,
        (fileHandler libs ⟨.encrypted other⟩ request before.disk).1 ≠ .ok value) ∧
      after = before := by
  obtain ⟨unchanged, fails | ⟨site, rfl⟩⟩ :=
    secure.files.call_other_of_stored different stored
  · obtain ⟨error, fails⟩ := fails
    simp only [machine, held, fails, unchanged, Option.some.injEq] at taken
    refine ⟨fun _ value returns => ?_, taken.symm⟩
    rw [fails] at returns
    cases returns
  · refine ⟨fun isLoad => isLoad.elim, ?_⟩
    simp only [machine, held, unchanged, viewHandler_apply_none, ite_self,
      Option.some.injEq] at taken
    exact taken.symm

/-- Whoever opens a secure store with the passphrase loads what was acknowledged. -/
theorem Secure.guarded (lawful : libs.Lawful) {passphrase : String}
    (derived : deriveKey libs passphrase salt = .ok key) {before after : SessionStore}
    {event : PassphraseEvent} (secureAfter : Secure libs salt key after)
    (refused : ∀ session request other, event = .call session request →
      before.sessions session = some other → other ≠ ⟨.encrypted key⟩ →
        (request.IsLoad → ∀ value,
          (fileHandler libs other request before.disk).1 ≠ .ok value) ∧
        after.disk.files = before.disk.files)
    (opened : ∀ session other, event = .openEncrypted session other →
      after.disk.files = before.disk.files) :
    Guarded libs passphrase ⟨.encrypted key⟩ before event after where
  refused := refused
  opened := opened
  reopens := by
    obtain ⟨bytes, stored, decoded⟩ := secureAfter.files.storeMeta
    rw [run_openEncrypted_later lawful stored decoded passphrase, derived]
    rfl
  identities site := by
    have answers := (fileHandler_view lawful (.loadIdentity site) secureAfter.valid).1
    rw [answers, secureAfter.acknowledged]
    rfl
  histories publisher := by
    have answers := (fileHandler_view lawful (.loadHistory publisher) secureAfter.valid).1
    rw [answers, secureAfter.acknowledged]
    rfl

/-- One step that touches only what is stored. -/
theorem Secure.step (lawful : libs.Lawful) (wrongKey : libs.WrongKeyFails)
    {passphrase : String} (derived : deriveKey libs passphrase salt = .ok key)
    {before after : SessionStore} (secure : Secure libs salt key before)
    {event : PassphraseEvent} (taken : (machine libs).step before event = some after)
    (touches : TouchesStored ⟨.encrypted key⟩ before event after) :
    Guarded libs passphrase ⟨.encrypted key⟩ before event after ∧
      Secure libs salt key after := by
  cases event with
  | openEncrypted session other =>
      obtain ⟨sameDisk, secureAfter⟩ := secure.step_open lawful taken
      refine ⟨secureAfter.guarded lawful derived ?_ ?_, secureAfter⟩
      · intro _ _ _ isCall
        cases isCall
      · intro _ _ _
        rw [sameDisk]
  | call session request =>
      cases held : before.sessions session with
      | none => simp [machine, held] at taken
      | some root =>
          obtain ⟨other, rfl⟩ := secure.sessions session root held
          have notOpen : ∀ index passphrase, PassphraseEvent.call session request =
              .openEncrypted index passphrase → after.disk.files = before.disk.files := by
            intro _ _ isOpen
            cases isOpen
          by_cases same : other = key
          · subst same
            have secureAfter := secure.step_call lawful wrongKey held taken
            refine ⟨secureAfter.guarded lawful derived ?_ notOpen, secureAfter⟩
            rintro _ _ found ⟨⟩ isHeld different
            exact absurd (Option.some.inj (isHeld.symm.trans held)) different
          · have isOther : (⟨.encrypted other⟩ : StoreRoot) ≠ ⟨.encrypted key⟩ := by
              simpa using same
            obtain ⟨refused, rfl⟩ := secure.step_other same held
              (touches session request _ rfl held isOther) taken
            refine ⟨secure.guarded lawful derived ?_ notOpen, secure⟩
            rintro _ _ found ⟨⟩ isHeld _
            obtain rfl := Option.some.inj (isHeld.symm.trans held)
            exact ⟨refused, rfl⟩

/-- A guarded step touches only what is stored. -/
theorem Guarded.touchesStored (lawful : libs.Lawful) {passphrase : String} {root : StoreRoot}
    {before after : SessionStore} {event : PassphraseEvent}
    (taken : (machine libs).step before event = some after)
    (guarded : Guarded libs passphrase root before event after) :
    TouchesStored root before event after := by
  rintro session request other rfl held different path about absent
  obtain ⟨refused, unchanged⟩ := guarded.refused session request other rfl held different
  simp only [machine, held, Option.some.injEq] at taken
  subst taken
  rcases call_of_absent lawful about absent with ⟨isLoad, value, loads⟩ | changed
  · exact refused isLoad value loads
  · exact changed unchanged

theorem Secure.guarded_iff (lawful : libs.Lawful) (wrongKey : libs.WrongKeyFails)
    {passphrase : String} (derived : deriveKey libs passphrase salt = .ok key)
    {state : SessionStore} (secure : Secure libs salt key state)
    (events : List PassphraseEvent) :
    (machine libs).Along (Guarded libs passphrase ⟨.encrypted key⟩) state events ↔
      (machine libs).Along (TouchesStored ⟨.encrypted key⟩) state events :=
  StateMachine.along_iff_along (Secure libs salt key)
    (fun _ _ _ secure taken =>
      ⟨fun guarded => guarded.touchesStored lawful taken,
        fun touches => (secure.step lawful wrongKey derived taken touches).1⟩)
    (fun _ _ _ secure taken guarded =>
      (secure.step lawful wrongKey derived taken (guarded.touchesStored lawful taken)).2)
    secure events

/-- The first open writes no record. -/
theorem noRecords_first {fresh : Disk}
    (noRecords : ∀ path : StorePath, path.IsRecord → fresh.files path = none) (bytes : Bytes)
    {path : StorePath} (isRecord : path.IsRecord) :
    (((fresh.afterDraw 16).afterDraw 8).write .storeMeta bytes).files path = none := by
  have isNotMeta : path ≠ .storeMeta := by
    rintro rfl
    exact isRecord
  rw [Disk.files_write_other _ isNotMeta, Disk.files_afterDraw, Disk.files_afterDraw]
  exact noRecords path isRecord

/-- A store is secure once it is initialised, and has no records. -/
theorem secure_initialised (lawful : libs.Lawful) {fresh disk : Disk} {passphrase : String}
    {root : StoreRoot} (noMeta : fresh.files .storeMeta = none)
    (noRecords : ∀ path : StorePath, path.IsRecord → fresh.files path = none)
    (opened : (StoreRoot.openEncrypted libs passphrase).run diskHandler fresh =
      (.ok root, disk)) :
    ∃ key, root = ⟨.encrypted key⟩ ∧
      deriveKey libs passphrase (fresh.drawn 16).bytes = .ok key ∧
      Secure libs (fresh.drawn 16).bytes key (initialised disk) ∧
      ∀ path : StorePath, path.IsRecord → disk.files path = none := by
  obtain ⟨bytes, ran, decoded⟩ := run_openEncrypted_first lawful noMeta passphrase
  rw [opened] at ran
  obtain ⟨isRoot, rfl⟩ := Prod.mk.inj ran
  cases derived : deriveKey libs passphrase (fresh.drawn 16).bytes with
  | error failure =>
      rw [derived] at isRoot
      cases isRoot
  | ok key =>
      rw [derived] at isRoot
      obtain rfl := Except.ok.inj isRoot
      have absent : ∀ path : StorePath, path.IsRecord →
          (((fresh.afterDraw 16).afterDraw 8).write .storeMeta bytes).files path = none :=
        fun _ isRecord => noRecords_first noRecords bytes isRecord
      have noSite := fun site => absent (.identity site) trivial
      have noHistory := fun publisher => absent (.history publisher) trivial
      refine ⟨key, rfl, rfl, ⟨⟨⟨bytes, Disk.files_write_same .., decoded⟩, ?_⟩, ?_, ⟨?_, ?_⟩, ?_⟩,
        absent⟩
      · intro path isRecord held stored
        rw [initialised, absent path isRecord] at stored
        cases stored
      · intro session held isHeld
        cases isHeld
      · intro site
        exact ⟨none, by rw [initialised, noSite]; rfl⟩
      · intro publisher
        exact ⟨.new, by rw [initialised, noHistory]; rfl⟩
      · simp only [initialised, StoreRoot.view, noSite, noHistory]
        rfl

end SessionStore

/-- Sessions under other keys neither load nor write, and what was acknowledged stays
loadable, exactly if they call only about records that exist. -/
theorem wrong_passphrase_guarded_iff (lawful : libs.Lawful) (wrongKey : libs.WrongKeyFails)
    {fresh disk : Disk} {passphrase : String} {root : StoreRoot}
    (noMeta : fresh.files .storeMeta = none)
    (noRecords : ∀ path : StorePath, path.IsRecord → fresh.files path = none)
    (opened : (StoreRoot.openEncrypted libs passphrase).run diskHandler fresh =
      (.ok root, disk))
    (events : List PassphraseEvent) :
    (SessionStore.machine libs).Along (SessionStore.Guarded libs passphrase root)
        (.initialised disk) events ↔
      (SessionStore.machine libs).Along (SessionStore.TouchesStored root)
        (.initialised disk) events := by
  obtain ⟨key, rfl, derived, secure, _⟩ :=
    SessionStore.secure_initialised lawful noMeta noRecords opened
  exact secure.guarded_iff lawful wrongKey derived events

end Sealing

namespace SampleLibs

theorem seed_injective {key other : Bytes32} {nonce : FixedBytes 24}
    (same : seed other nonce = seed key nonce) : other = key := by
  have sameBytes : other.bytes = key.bytes := List.append_cancel_right same
  cases other
  cases key
  simpa using sameBytes

theorem wrongKeyFails : libs.WrongKeyFails := by
  rintro key other nonce payload ct different ⟨⟩
  have notPrefix : ¬ seed other nonce <+: seed key nonce ++ payload := by
    intro isPrefix
    have sameLength : (seed other nonce).length = (seed key nonce).length := by
      simp [seed, FixedBytes.length_eq]
    have shorter : seed other nonce <+: seed key nonce :=
      List.prefix_of_prefix_length_le isPrefix (List.prefix_append _ payload) (by omega)
    exact different (seed_injective (shorter.eq_of_length sameLength))
  exact if_neg notPrefix

/-- The root of an encrypted store. -/
def encryptedRoot : StoreRoot where
  protector := .encrypted (seedBytes 10)

/-- The first open of the directory. -/
theorem emptyDisk_opens : ∃ disk,
    (StoreRoot.openEncrypted libs "passphrase").run diskHandler emptyDisk =
      (.ok encryptedRoot, disk) := by
  have absent : emptyDisk.files .storeMeta = none := rfl
  obtain ⟨bytes, ran, _⟩ := run_openEncrypted_first lawful absent "passphrase"
  exact ⟨_, ran⟩

/-- A session under another passphrase, at a site without a record. -/
def wrongVisit : List PassphraseEvent := [
  .openEncrypted 0 "wrong passphrase",
  .call 0 (.apply legacySite (.pinIdentity (seedKey 1)))]

theorem wrong_passphrase_guarded_visit : ∃ disk,
    (StoreRoot.openEncrypted libs "passphrase").run diskHandler emptyDisk =
      (.ok encryptedRoot, disk) ∧
    ((SessionStore.machine libs).Along (SessionStore.Guarded libs "passphrase" encryptedRoot)
        (.initialised disk) wrongVisit ↔
      (SessionStore.machine libs).Along (SessionStore.TouchesStored encryptedRoot)
        (.initialised disk) wrongVisit) := by
  obtain ⟨disk, opened⟩ := emptyDisk_opens
  exact ⟨disk, opened,
    wrong_passphrase_guarded_iff lawful wrongKeyFails rfl (fun _ _ => rfl) opened wrongVisit⟩

/-- The pin is sealed under the wrong key, and the right passphrase cannot load it. -/
theorem wrong_passphrase_writes : ∃ disk,
    (StoreRoot.openEncrypted libs "passphrase").run diskHandler emptyDisk =
      (.ok encryptedRoot, disk) ∧
    ¬ (SessionStore.machine libs).Along
        (SessionStore.Guarded libs "passphrase" encryptedRoot) (.initialised disk) wrongVisit ∧
    ∃ after, (SessionStore.machine libs).run (.initialised disk) wrongVisit = some after ∧
      IsErr (fileHandler libs encryptedRoot (.loadIdentity legacySite) after.disk).1 := by
  obtain ⟨disk, opened⟩ := emptyDisk_opens
  obtain ⟨key, isRoot, derived, secure, noRecords⟩ :=
    SessionStore.secure_initialised lawful rfl (fun _ _ => rfl) opened
  obtain rfl : seedBytes 10 = key := by
    injection isRoot with isKey
    injection isKey
  have different : seedBytes 16 ≠ seedBytes 10 := by decide
  have absent : disk.files (.identity legacySite) = none := noRecords _ trivial
  have opensWrong := secure.opens lawful 0 "wrong passphrase"
  obtain ⟨returned, stored⟩ := @apply_of_absent libs ⟨.encrypted (seedBytes 16)⟩ disk lawful
    legacySite absent (.pinIdentity (seedKey 1)) (by simp)
  refine ⟨disk, opened, fun guarded => ?_, ?_⟩
  · have along := (secure.guarded_iff lawful wrongKeyFails derived wrongVisit).mp guarded
    obtain ⟨_, rest⟩ := along _ opensWrong
    obtain ⟨touches, _⟩ := rest _ rfl
    exact touches 0 _ ⟨.encrypted (seedBytes 16)⟩ rfl rfl (by decide)
      (.identity legacySite) rfl absent
  · refine ⟨_, StateMachine.run_cons_some _ opensWrong _, ?_⟩
    -- For the other key, the directory is one of its own.
    have files : EncryptedFiles libs (emptyDisk.drawn 16).bytes (seedBytes 16) disk := by
      refine ⟨secure.files.storeMeta, fun path isRecord bytes held => ?_⟩
      rw [noRecords path isRecord] at held
      cases held
    have filesAfter := files.call lawful wrongKeyFails
      (.apply legacySite (.pinIdentity (seedKey 1)))
    obtain ⟨error, unreadable⟩ := filesAfter.identityFile_other different.symm stored
    exact ⟨error, loadIdentity_of_error unreadable⟩

end SampleLibs

end EntangledClient
