import EntangledClient.SampleLibs

/-!
# Bad files

What the store does with a file that it cannot use: whether opening it ends in an
error or in a panic, and whether a record that a load refuses is kept from being
overwritten.
-/

namespace EntangledClient

open CallTree ExceptRules

/-! ### Opening a file -/

/-- The code returns `Ok` or `Err`. -/
def NoPanic {α : Type} (outcome : Except Failure α) : Prop :=
  ∀ message, outcome ≠ .error (.panic message)

namespace NoPanic

variable {α β : Type}

theorem ok (value : α) : NoPanic (.ok value) :=
  fun _ panics => by cases panics

theorem fail (message : String) : NoPanic (EntangledClient.fail message : Except Failure α) :=
  fun _ panics => by cases panics

theorem bind {first : Except Failure α} {next : α → Except Failure β} (start : NoPanic first)
    (rest : ∀ value, first = .ok value → NoPanic (next value)) : NoPanic (first >>= next) := by
  cases first with
  | ok value => exact rest value rfl
  | error failure =>
      intro message panics
      rw [error_bind] at panics
      cases panics
      exact start message rfl

theorem mapErr (context : String) (result : Except String α) :
    NoPanic (EntangledClient.mapErr context result) := by
  cases result with
  | ok value => exact ok value
  | error error => exact fail _

theorem ensure (condition : Prop) [Decidable condition] (message : String) :
    NoPanic (EntangledClient.ensure condition message) := by
  unfold EntangledClient.ensure
  split
  · exact ok ()
  · exact fail message

end NoPanic

theorem mapErr_eq_ok {α : Type} {context : String} {result : Except String α} {value : α} :
    mapErr context result = .ok value ↔ result = .ok value := by
  cases result with
  | ok other => simp
  | error error => simp [mapErr, fail]

theorem ensure_eq_ok {condition : Prop} [Decidable condition] {message : String}
    {value : Unit} : ensure condition message = .ok value ↔ condition := by
  by_cases holds : condition
  · simp [holds]
  · simp [ensure, holds, fail]

section Opening

variable (libs : StoreLibs)

/-- An envelope of an encrypted store that decodes, but whose nonce is not of 24
bytes. -/
def MisfitNonce (onDisk : Bytes) : Prop :=
  ∃ env nonceBytes ct, libs.aeadJson.fromSlice onDisk = .ok env ∧ env.v = aeadV ∧
    libs.base64Decode env.nonceB64 = .ok nonceBytes ∧ libs.base64Decode env.ctB64 = .ok ct ∧
    nonceBytes.length ≠ 24

variable {libs}

theorem openBytes_integrity_noPanic (key onDisk : Bytes) :
    NoPanic ((Protector.integrity key).openBytes libs onDisk) := by
  unfold Protector.openBytes
  refine .bind (.mapErr _ _) fun env _ => .bind (.ensure _ _) fun _ _ => ?_
  refine .bind (.mapErr _ _) fun payload _ => .bind (.mapErr _ _) fun tag _ => ?_
  exact .bind (.mapErr _ _) fun mac _ => .bind (.ensure _ _) fun _ _ => .ok payload

theorem openBytes_encrypted_noPanic {onDisk : Bytes} (fits : ¬ MisfitNonce libs onDisk)
    (key : Bytes32) : NoPanic ((Protector.encrypted key).openBytes libs onDisk) := by
  unfold Protector.openBytes
  refine .bind (.mapErr _ _) fun env isEnv => .bind (.ensure _ _) fun _ version => ?_
  refine .bind (.mapErr _ _) fun nonceBytes isNonce => .bind (.mapErr _ _) fun ct isCt => ?_
  have length : nonceBytes.length = 24 := by
    by_contra misfit
    exact fits ⟨env, nonceBytes, ct, mapErr_eq_ok.mp isEnv, ensure_eq_ok.mp version,
      mapErr_eq_ok.mp isNonce, mapErr_eq_ok.mp isCt, misfit⟩
  have noncePasses : nonceFromSlice nonceBytes = .ok ⟨nonceBytes, length⟩ := dif_pos length
  rw [noncePasses, ok_bind]
  cases libs.decrypt key ⟨nonceBytes, length⟩ ct with
  | some payload => exact .ok payload
  | none => exact .fail _

theorem openBytes_encrypted_panics {onDisk : Bytes} (misfit : MisfitNonce libs onDisk)
    (key : Bytes32) :
    (Protector.encrypted key).openBytes libs onDisk = .error (.panic "nonce length") := by
  obtain ⟨env, nonceBytes, ct, isEnv, version, isNonce, isCt, length⟩ := misfit
  have refused : nonceFromSlice nonceBytes = .error (.panic "nonce length") := dif_neg length
  simp [Protector.openBytes, isEnv, version, isNonce, isCt, refused]

/-- Opening panics on exactly the envelopes whose nonce has a wrong length. -/
theorem openBytes_noPanic_iff (libs : StoreLibs) (protector : Protector) (onDisk : Bytes) :
    NoPanic (protector.openBytes libs onDisk) ↔
      ¬ ((∃ key, protector = .encrypted key) ∧ MisfitNonce libs onDisk) := by
  cases protector with
  | integrity key =>
      simp only [reduceCtorEq, exists_false, false_and, not_false_eq_true, iff_true]
      exact openBytes_integrity_noPanic key onDisk
  | encrypted key =>
      constructor
      · rintro noPanic ⟨_, misfit⟩
        exact noPanic _ (openBytes_encrypted_panics misfit key)
      · intro fits
        exact openBytes_encrypted_noPanic (fun misfit => fits ⟨⟨key, rfl⟩, misfit⟩) key

end Opening

/-- An envelope with an empty nonce. -/
def emptyNonce : AeadEnvelope where
  v := aeadV
  nonceB64 := ""
  ctB64 := ""

theorem openBytes_emptyNonce :
    ¬ NoPanic ((Protector.encrypted (seedBytes 7)).openBytes SampleLibs.libs
      (SampleLibs.aeadEnvelope.put emptyNonce)) := by
  intro noPanic
  have decoded := SampleLibs.json_fromSlice_put SampleLibs.aeadEnvelope emptyNonce
  have misfit : MisfitNonce SampleLibs.libs (SampleLibs.aeadEnvelope.put emptyNonce) :=
    ⟨emptyNonce, [], [], decoded, rfl, rfl, rfl, by decide⟩
  exact noPanic _ (openBytes_encrypted_panics misfit (seedBytes 7))

/-! ### Records that a load refuses -/

/-- The code returns `Err`. -/
def IsErr {α : Type} (outcome : Except Failure α) : Prop :=
  ∃ error, outcome = .error (.err error)

theorem not_isErr_ok {α : Type} (value : α) : ¬ IsErr (.ok value) := by
  rintro ⟨error, isError⟩
  cases isError

section Records

variable (libs : StoreLibs) (root : StoreRoot)

/-- The file opens to a payload. -/
def OpensTo (file : Option Bytes) (payload : Bytes) : Prop :=
  ∃ onDisk, file = some onDisk ∧ root.protector.openBytes libs onDisk = .ok payload

/-- A record of a readable version whose provenance no version writes. -/
def ImpossibleProvenance (file : Option Bytes) : Prop :=
  ∃ payload dto, OpensTo libs root file payload ∧ libs.identityJson.fromSlice payload = .ok dto ∧
    (dto.v = identityV ∨ dto.v = identityV1) ∧ dto.provenanceOf = none

/-- A history of the readable version with an entry whose hash is not the
hexadecimal text of 32 bytes. -/
def MalformedHash (file : Option Bytes) : Prop :=
  ∃ payload dto, OpensTo libs root file payload ∧ libs.historyJson.fromSlice payload = .ok dto ∧
    dto.v = historyV ∧
    ∃ entry ∈ dto.records, ∀ hash, LowerHex.decode entry.payloadHashHex = some hash →
      hash.length ≠ 32

/-- A call that must not follow a failed load fails too, and leaves the files alone. -/
def KeptFrom (load call : StoreCall) (disk : Disk) : Prop :=
  IsErr (fileHandler libs root load disk).1 →
    IsErr (fileHandler libs root call disk).1 ∧
      (fileHandler libs root call disk).2.files = disk.files

variable {libs root}

theorem openFile_eq_some {file : Option Bytes} {payload : Bytes} :
    root.openFile libs file = .ok (some payload) ↔ OpensTo libs root file payload := by
  cases file with
  | none => simp [StoreRoot.openFile, OpensTo]
  | some onDisk =>
      simp only [StoreRoot.openFile, OpensTo, bind_eq_ok, Option.some.injEq, exists_eq_left']
      simp [pure, Except.pure]

theorem identity_checkVersion_eq_ok {dto : IdentityDto} :
    dto.checkVersion = .ok () ↔ dto.v = identityV ∨ dto.v = identityV1 := by
  unfold IdentityDto.checkVersion
  split_ifs with unsupported
  · simp [unsupported]
  · simp only [true_iff]
    tauto

theorem history_checkVersion_eq_ok {dto : HistoryDto} :
    dto.checkVersion = .ok () ↔ dto.v = historyV := by
  unfold HistoryDto.checkVersion
  split_ifs with unsupported
  · simp [unsupported]
  · simpa using unsupported

theorem asOutcome_eq_ok {α : Type} {result : Except StoreError α} {value : α} :
    asOutcome result = .ok value ↔ result = .ok value := by
  cases result with
  | ok other => simp
  | error error => simp [asOutcome]

/-- A file that is decoded and whose version is then checked gives a value if it opens to
one of a version that is read. -/
theorem decodedFile_eq_some {α : Type} {file : Option Bytes} {codec : JsonCodec α}
    {context : String} {checkVersion : α → Except StoreError Unit} {decoded : α} :
    (do
      match ← root.openFile libs file with
      | none => return none
      | some payload =>
          let dto ← mapErr context (codec.fromSlice payload)
          asOutcome (checkVersion dto)
          return some dto : Except Failure (Option α)) = .ok (some decoded) ↔
      ∃ payload, OpensTo libs root file payload ∧ codec.fromSlice payload = .ok decoded ∧
        checkVersion decoded = .ok () := by
  simp only [bind_eq_ok, ← openFile_eq_some]
  constructor
  · rintro ⟨found, opens, rest⟩
    cases found with
    | none => cases rest
    | some payload =>
        simp only [bind_eq_ok, mapErr_eq_ok, asOutcome_eq_ok] at rest
        obtain ⟨dto, decodes, _, version, same⟩ := rest
        cases same
        exact ⟨payload, opens, decodes, version⟩
  · rintro ⟨payload, opens, decodes, version⟩
    exact ⟨some payload, opens, by simp [decodes, version]⟩

theorem identityFile_eq_some {file : Option Bytes} {dto : IdentityDto} :
    root.identityFile libs file = .ok (some dto) ↔
      ∃ payload, OpensTo libs root file payload ∧ libs.identityJson.fromSlice payload = .ok dto ∧
        (dto.v = identityV ∨ dto.v = identityV1) := by
  simp only [← identity_checkVersion_eq_ok]
  exact decodedFile_eq_some

theorem historyDtoFile_eq_some {file : Option Bytes} {dto : HistoryDto} :
    root.historyDtoFile libs file = .ok (some dto) ↔
      ∃ payload, OpensTo libs root file payload ∧ libs.historyJson.fromSlice payload = .ok dto ∧
        dto.v = historyV := by
  simp only [← history_checkVersion_eq_ok]
  exact decodedFile_eq_some

theorem impossibleProvenance_iff {file : Option Bytes} :
    ImpossibleProvenance libs root file ↔
      ∃ dto, root.identityFile libs file = .ok (some dto) ∧ dto.provenanceOf = none := by
  simp only [ImpossibleProvenance, identityFile_eq_some]
  constructor
  · rintro ⟨payload, dto, opens, decodes, version, shape⟩
    exact ⟨dto, ⟨payload, opens, decodes, version⟩, shape⟩
  · rintro ⟨dto, ⟨payload, opens, decodes, version⟩, shape⟩
    exact ⟨payload, dto, opens, decodes, version, shape⟩

/-- An entry converts unless its text is not that of 32 bytes. -/
theorem intoRecord_fails_iff {entry : ManifestRecordDto} :
    (∃ error, entry.intoRecord libs.hexDecodeError = .error error) ↔
      ∀ hash, LowerHex.decode entry.payloadHashHex = some hash → hash.length ≠ 32 := by
  unfold ManifestRecordDto.intoRecord
  split
  · next undecoded => simp [undecoded]
  · next bytes decoded =>
      split_ifs with length
      · simp [decoded, length]
      · simp [decoded, length]

theorem mapM_fails_iff {α β ε : Type} {function : α → Except ε β} {values : List α} :
    (∃ error, values.mapM function = .error error) ↔
      ∃ value ∈ values, ∃ error, function value = .error error := by
  induction values with
  | nil => simp
  | cons value values ih =>
      rw [List.mapM_cons]
      cases converted : function value with
      | error error => simp [converted]
      | ok result =>
          have rest : (∃ error, (values.mapM function >>= fun results =>
              pure (result :: results)) = .error error) ↔
                ∃ error, values.mapM function = .error error := by
            cases values.mapM function <;> simp
          rw [ok_bind, rest, ih]
          simp [converted]

theorem malformedHash_iff {file : Option Bytes} :
    MalformedHash libs root file ↔
      ∃ dto, root.historyDtoFile libs file = .ok (some dto) ∧
        ∃ error, dto.intoRecords libs.hexDecodeError = .error error := by
  simp only [MalformedHash, historyDtoFile_eq_some, HistoryDto.intoRecords, mapM_fails_iff,
    intoRecord_fails_iff]
  constructor
  · rintro ⟨payload, dto, opens, decodes, version, malformed⟩
    exact ⟨dto, ⟨payload, opens, decodes, version⟩, malformed⟩
  · rintro ⟨dto, ⟨payload, opens, decodes, version⟩, malformed⟩
    exact ⟨payload, dto, opens, decodes, version, malformed⟩

/-! ### Calls after a failed load -/

theorem loadIdentity_of_error {site : OnionAddress} {disk : Disk} {failure : Failure}
    (unreadable : root.identityFile libs (disk.files (.identity site)) = .error failure) :
    (fileHandler libs root (.loadIdentity site) disk).1 = .error failure := by
  rw [fileHandler_loadIdentity, StoreRoot.siteFile, unreadable]
  rfl

theorem apply_of_error {site : OnionAddress} {disk : Disk} {failure : Failure}
    (unreadable : root.identityFile libs (disk.files (.identity site)) = .error failure)
    {intent : PersistenceIntent} (writes : intent ≠ .none) :
    fileHandler libs root (.apply site intent) disk = (.error failure, disk) := by
  have read : (FileIdentityStore.loadDto libs root site).run diskHandler disk =
      (.error failure, disk) := by
    rw [FileIdentityStore.run_loadDto, unreadable]
  cases intent with
  | none => exact absurd rfl writes
  | recordObservation pubkey => exact Program.run_bind_error diskHandler read _
  | pinIdentity pubkey => exact Program.run_bind_error diskHandler read _
  | markExternallyVerified pubkey => exact Program.run_bind_error diskHandler read _
  | replaceIdentity newPubkey replaced externallyVerified =>
      exact Program.run_bind_error diskHandler read _

/-- A record that was read but has no provenance fails a load. -/
theorem loadIdentity_of_impossible {site : OnionAddress} {disk : Disk} {dto : IdentityDto}
    (found : root.identityFile libs (disk.files (.identity site)) = .ok (some dto))
    (impossible : dto.provenanceOf = none) :
    IsErr (fileHandler libs root (.loadIdentity site) disk).1 := by
  rw [fileHandler_loadIdentity, StoreRoot.siteFile, found]
  simp [IsErr, IdentityDto.toSite, IdentityDto.toIdentity, impossible, asOutcome, Except.map]

theorem loadIdentity_of_possible {site : OnionAddress} {disk : Disk} {dto : IdentityDto}
    (found : root.identityFile libs (disk.files (.identity site)) = .ok (some dto))
    (possible : dto.provenanceOf ≠ none) :
    ¬ IsErr (fileHandler libs root (.loadIdentity site) disk).1 := by
  obtain ⟨provenance, shape⟩ := Option.ne_none_iff_exists'.mp possible
  rw [fileHandler_loadIdentity, StoreRoot.siteFile, found]
  simp [IsErr, IdentityDto.toSite, IdentityDto.toIdentity, shape, asOutcome, Except.map]

/-- A pin looks at the provenance; no other intent does. -/
theorem pin_of_impossible {site : OnionAddress} {disk : Disk} {dto : IdentityDto}
    (found : root.identityFile libs (disk.files (.identity site)) = .ok (some dto))
    (impossible : dto.provenanceOf = none) (pubkey : PublisherPubkey) :
    IsErr (fileHandler libs root (.apply site (.pinIdentity pubkey)) disk).1 ∧
      (fileHandler libs root (.apply site (.pinIdentity pubkey)) disk).2 = disk := by
  have read : (FileIdentityStore.loadDto libs root site).run diskHandler disk =
      (.ok (some dto), disk) := by
    rw [FileIdentityStore.run_loadDto, found]
  simp only [fileHandler, fileMethod, FileIdentityStore.apply]
  rw [Program.run_bind_ok diskHandler read]
  simp only [IdentityDto.toIdentity, impossible, asOutcome]
  rw [Program.run_bind_error diskHandler (run_ofResult disk _)]
  exact ⟨⟨_, rfl⟩, rfl⟩

theorem writeDto_returns (lawful : libs.Lawful) (site : OnionAddress)
    (identity : RetainedIdentity) (replaced : List PublisherPubkey) (disk : Disk) :
    ((FileIdentityStore.writeDto libs root site (.new identity replaced)).run diskHandler
      disk).1 = .ok () := by
  obtain ⟨file, after, ran, _⟩ :=
    @FileIdentityStore.run_writeDto libs root lawful site identity replaced disk
  rw [ran]

theorem apply_of_impossible (lawful : libs.Lawful) {site : OnionAddress} {disk : Disk}
    {dto : IdentityDto}
    (found : root.identityFile libs (disk.files (.identity site)) = .ok (some dto))
    {intent : PersistenceIntent} (notPin : ∀ pubkey, intent ≠ .pinIdentity pubkey) :
    (fileHandler libs root (.apply site intent) disk).1 = .ok () := by
  have read : (FileIdentityStore.loadDto libs root site).run diskHandler disk =
      (.ok (some dto), disk) := by
    rw [FileIdentityStore.run_loadDto, found]
  cases intent with
  | none => rfl
  | recordObservation pubkey =>
      simp only [fileHandler, fileMethod, FileIdentityStore.apply]
      rw [Program.run_bind_ok diskHandler read, Program.run_pure]
  | pinIdentity pubkey => exact absurd rfl (notPin pubkey)
  | markExternallyVerified pubkey =>
      simp only [fileHandler, fileMethod, FileIdentityStore.apply]
      rw [Program.run_bind_ok diskHandler read]
      exact writeDto_returns lawful site _ _ disk
  | replaceIdentity newPubkey replaced externallyVerified =>
      simp only [fileHandler, fileMethod, FileIdentityStore.apply]
      rw [Program.run_bind_ok diskHandler read]
      exact writeDto_returns lawful site _ _ disk

/-- An intent is kept from a record that a load refuses, unless the record has an
impossible provenance and the intent is no pin. -/
theorem identity_keptFrom_iff (lawful : libs.Lawful) (site : OnionAddress)
    {intent : PersistenceIntent} (writes : intent ≠ .none) (disk : Disk) :
    KeptFrom libs root (.loadIdentity site) (.apply site intent) disk ↔
      ¬ (ImpossibleProvenance libs root (disk.files (.identity site)) ∧
        ∀ pubkey, intent ≠ .pinIdentity pubkey) := by
  rw [impossibleProvenance_iff]
  cases read : root.identityFile libs (disk.files (.identity site)) with
  | error failure =>
      have kept : KeptFrom libs root (.loadIdentity site) (.apply site intent) disk := by
        intro loadFails
        rw [loadIdentity_of_error read] at loadFails
        obtain ⟨error, isErr⟩ := loadFails
        cases isErr
        rw [apply_of_error read writes]
        exact ⟨⟨error, rfl⟩, rfl⟩
      simp [kept]
  | ok found =>
      cases found with
      | none =>
          have kept : KeptFrom libs root (.loadIdentity site) (.apply site intent) disk := by
            intro loadFails
            rw [fileHandler_loadIdentity, StoreRoot.siteFile, read] at loadFails
            exact absurd loadFails (not_isErr_ok _)
          simp [kept]
      | some dto =>
          by_cases impossible : dto.provenanceOf = none
          · have loadFails := loadIdentity_of_impossible read impossible
            by_cases notPin : ∀ pubkey, intent ≠ .pinIdentity pubkey
            · have returns := apply_of_impossible lawful read notPin
              have notKept : ¬ KeptFrom libs root (.loadIdentity site) (.apply site intent)
                  disk := by
                intro kept
                have fails := (kept loadFails).1
                rw [returns] at fails
                exact not_isErr_ok _ fails
              simp [notKept, impossible, notPin]
            · have kept : KeptFrom libs root (.loadIdentity site) (.apply site intent) disk := by
                intro _
                obtain ⟨pubkey, isPin⟩ := not_forall_not.mp notPin
                rw [isPin]
                have fails := pin_of_impossible read impossible pubkey
                exact ⟨fails.1, congrArg Disk.files fails.2⟩
              simp [kept, notPin]
          · have kept : KeptFrom libs root (.loadIdentity site) (.apply site intent) disk :=
              fun loadFails => absurd loadFails (loadIdentity_of_possible read impossible)
            simp [kept, impossible]

theorem appendRecord_of_error {publisher : PublisherPubkey} {disk : Disk} {failure : Failure}
    (unreadable : root.historyDtoFile libs (disk.files (.history publisher)) = .error failure)
    (record : RetainedManifestRecord) :
    fileHandler libs root (.appendRecord publisher record) disk = (.error failure, disk) := by
  have read : (FileHistoryStore.loadDto libs root publisher).run diskHandler disk =
      (.error failure, disk) := by
    rw [FileHistoryStore.run_loadDto, unreadable]
  exact Program.run_bind_error diskHandler read _

/-- A history whose file decodes is appended to, whatever its entries are. -/
theorem appendRecord_of_found (lawful : libs.Lawful) {publisher : PublisherPubkey} {disk : Disk}
    {found : Option HistoryDto}
    (read : root.historyDtoFile libs (disk.files (.history publisher)) = .ok found)
    (record : RetainedManifestRecord) :
    (fileHandler libs root (.appendRecord publisher record) disk).1 = .ok () := by
  have loads : (FileHistoryStore.loadDto libs root publisher).run diskHandler disk =
      (.ok found, disk) := by
    rw [FileHistoryStore.run_loadDto, read]
  obtain ⟨bytes, encoded, _⟩ := lawful.historyJson {
    v := historyV
    records := ManifestRecordDto.fromRecord record :: (found.map (·.records)).getD [] }
  obtain ⟨sealed, after, wrote, _⟩ :=
    root.run_writeProtected lawful (.history publisher) bytes disk
  simp only [fileHandler, fileMethod, FileHistoryStore.appendRecord]
  rw [Program.run_bind_ok diskHandler loads]
  simp only [encoded, mapErr_ok]
  rw [Program.run_bind_ok diskHandler (run_ofResult disk _), wrote]

/-- An append is kept from a history that a load refuses, unless the history has an
entry with a malformed hash. -/
theorem history_keptFrom_iff (lawful : libs.Lawful) (publisher : PublisherPubkey)
    (record : RetainedManifestRecord) (disk : Disk) :
    KeptFrom libs root (.loadHistory publisher) (.appendRecord publisher record) disk ↔
      ¬ MalformedHash libs root (disk.files (.history publisher)) := by
  rw [malformedHash_iff]
  have loads := fileHandler_loadHistory libs root publisher disk
  cases read : root.historyDtoFile libs (disk.files (.history publisher)) with
  | error failure =>
      have kept : KeptFrom libs root (.loadHistory publisher)
          (.appendRecord publisher record) disk := by
        rintro ⟨error, isErr⟩
        rw [loads, StoreRoot.historyFile, read] at isErr
        cases isErr
        rw [appendRecord_of_error read record]
        exact ⟨⟨error, rfl⟩, rfl⟩
      simp [kept]
  | ok found =>
      have returns := appendRecord_of_found lawful read record
      have keptIff : KeptFrom libs root (.loadHistory publisher) (.appendRecord publisher record)
          disk ↔ ¬ IsErr (fileHandler libs root (.loadHistory publisher) disk).1 := by
        constructor
        · intro kept loadFails
          have fails := (kept loadFails).1
          rw [returns] at fails
          exact not_isErr_ok _ fails
        · intro loadReturns loadFails
          exact absurd loadFails loadReturns
      rw [keptIff, loads, StoreRoot.historyFile, read, not_iff_not]
      cases found with
      | none => simp [IsErr]
      | some dto =>
          cases converted : dto.intoRecords libs.hexDecodeError <;>
            simp [IsErr, asOutcome, converted]

/-- Both stores keep a record that a load refuses, but for the impossible provenance
and the malformed hash. -/
theorem failed_load_kept_iff (lawful : libs.Lawful) (root : StoreRoot) (disk : Disk) :
    (∀ site intent, intent ≠ .none →
      (KeptFrom libs root (.loadIdentity site) (.apply site intent) disk ↔
        ¬ (ImpossibleProvenance libs root (disk.files (.identity site)) ∧
          ∀ pubkey, intent ≠ .pinIdentity pubkey))) ∧
    (∀ publisher record,
      (KeptFrom libs root (.loadHistory publisher) (.appendRecord publisher record) disk ↔
        ¬ MalformedHash libs root (disk.files (.history publisher)))) :=
  ⟨fun site _ writes => identity_keptFrom_iff lawful site writes disk,
    fun publisher record => history_keptFrom_iff lawful publisher record disk⟩

end Records

namespace SampleLibs

/-- A version 2 record without a provenance. -/
def shapelessDto : IdentityDto where
  v := identityV
  pubkey := seedKey 1
  provenance := none
  externallyVerified := none
  replacedPubkeys := []

/-- A history of one entry, whose hash is too short. -/
def shortHashDto : HistoryDto where
  v := historyV
  records := [⟨100, ⟨seedBytes 3⟩, "00"⟩]

def damagedDisk : Disk :=
  (emptyDisk.write (.identity legacySite) (envelope (identityDto.put shapelessDto))).write
    (.history (seedKey 1)) (envelope (historyDto.put shortHashDto))

theorem opensTo_envelope (payload : Bytes) : OpensTo libs root (some (envelope payload)) payload :=
  ⟨envelope payload, rfl, openBytes_envelope payload⟩

theorem damagedDisk_identity :
    ImpossibleProvenance libs root (damagedDisk.files (.identity legacySite)) :=
  ⟨_, shapelessDto, opensTo_envelope _, json_fromSlice_put identityDto shapelessDto, .inl rfl, rfl⟩

theorem damagedDisk_history : MalformedHash libs root (damagedDisk.files (.history (seedKey 1))) :=
  ⟨_, shortHashDto, opensTo_envelope _, json_fromSlice_put historyDto shortHashDto, rfl,
    ⟨100, ⟨seedBytes 3⟩, "00"⟩, List.mem_cons_self .., by decide⟩

/-- A verification overwrites the identity that could not be loaded, and an append
the history. -/
theorem damagedDisk_overwritten :
    ¬ KeptFrom libs root (.loadIdentity legacySite)
        (.apply legacySite (.markExternallyVerified (seedKey 2))) damagedDisk ∧
      ¬ KeptFrom libs root (.loadHistory (seedKey 1))
        (.appendRecord (seedKey 1) ⟨200, ⟨seedBytes 4⟩, seedBytes 5⟩) damagedDisk := by
  constructor
  · intro kept
    exact (identity_keptFrom_iff lawful legacySite (by decide) damagedDisk).mp kept
      ⟨damagedDisk_identity, by simp⟩
  · intro kept
    exact (history_keptFrom_iff lawful (seedKey 1) _ damagedDisk).mp kept damagedDisk_history

/-- A pin is kept from the damaged identity, and an append from a fresh history. -/
theorem damagedDisk_kept :
    KeptFrom libs root (.loadIdentity legacySite) (.apply legacySite (.pinIdentity (seedKey 2)))
        damagedDisk ∧
      KeptFrom libs root (.loadHistory (seedKey 2))
        (.appendRecord (seedKey 2) ⟨200, ⟨seedBytes 4⟩, seedBytes 5⟩) damagedDisk := by
  have kept := failed_load_kept_iff lawful root damagedDisk
  constructor
  · exact (kept.1 legacySite _ (by decide)).mpr fun ⟨_, notPin⟩ => notPin (seedKey 2) rfl
  · refine (kept.2 (seedKey 2) _).mpr ?_
    rintro ⟨payload, dto, ⟨onDisk, isFile, _⟩, _⟩
    cases isFile

end SampleLibs

end EntangledClient
