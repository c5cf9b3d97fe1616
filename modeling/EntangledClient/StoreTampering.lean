import EntangledClient.SealedMessages
import EntangledClient.StateMachine

/-!
# A store that is tampered with

An adversary without the key overwrites record files with bytes of its choice, but
it makes no tag and no ciphertext that the store did not make.  The tag covers the
payload only, so it says neither which file a payload was written to nor whether
it was written last.
-/

namespace EntangledClient

open CallTree ExceptRules

/-- The store's directory, what the store wrote to each file last, and everything
that it ever wrote. -/
structure TamperedStore where
  disk : Disk
  written : StorePath → Option Bytes
  sealed : List Bytes

/-- The file calls of the store, with a log of its writes. -/
def loggingHandler : Handler fileInterface TamperedStore := fun request state =>
  let (reply, disk) := diskHandler request state.disk
  match request with
  | .writeAtomic path bytes =>
      (reply, {
        disk
        written := Function.update state.written path (some bytes)
        sealed := bytes :: state.sealed })
  | _ => (reply, { state with disk })

inductive TamperEvent
  | call (request : StoreCall)
  | overwrite (path : StorePath) (bytes : Bytes)

namespace TamperedStore

variable (libs : StoreLibs) (root : StoreRoot)

/-- A store that wrote nothing yet. -/
def fresh (disk : Disk) : TamperedStore where
  disk
  written _ := none
  sealed := []

/-- What an envelope of the store's mode carries. -/
def messageOf (bytes : Bytes) : Option SealedMessage :=
  (root.protector.envelopeOf libs bytes).map (·.message)

/-- Without the key, a message that the key vouches for is one that the store made. -/
def CanForge (state : TamperedStore) (bytes : Bytes) : Prop :=
  ∀ message ∈ messageOf libs root bytes, (root.protector.authentic libs message).isSome →
    ∃ sealed ∈ state.sealed, messageOf libs root sealed = some message

instance (state : TamperedStore) (bytes : Bytes) :
    Decidable (state.CanForge libs root bytes) :=
  inferInstanceAs (Decidable (∀ message ∈ _, Option.isSome _ = true → ∃ sealed ∈ _, _ = _))

/-- The calls of the stores, and the overwriting of existing record files. -/
def machine : StateMachine TamperedStore TamperEvent where
  step state event :=
    match event with
    | .call request =>
        some (Program.run (I := fileInterface) loggingHandler
          (fileMethod libs root request) state).2
    | .overwrite path bytes =>
        if path.IsRecord ∧ (state.disk.files path).isSome ∧ state.CanForge libs root bytes then
          some { state with disk := state.disk.write path bytes }
        else none

theorem step_overwrite (state : TamperedStore) (path : StorePath) (isRecord : path.IsRecord)
    (exists_ : (state.disk.files path).isSome) {bytes : Bytes}
    (forges : state.CanForge libs root bytes) :
    (machine libs root).step state (.overwrite path bytes) =
      some { state with disk := state.disk.write path bytes } :=
  if_pos ⟨isRecord, exists_, forges⟩

/-- What the store wrote can be put anywhere. -/
theorem step_copy (state : TamperedStore) (path : StorePath) (isRecord : path.IsRecord)
    (exists_ : (state.disk.files path).isSome) {bytes : Bytes} (seen : bytes ∈ state.sealed) :
    (machine libs root).step state (.overwrite path bytes) =
      some { state with disk := state.disk.write path bytes } :=
  step_overwrite libs root state path isRecord exists_ fun _ carried _ => ⟨bytes, seen, carried⟩

/-- Every load is an error or what was written last for the same site or publisher. -/
structure LoadsWritten (state : TamperedStore) : Prop where
  identities : ∀ site, ∃ retained,
    root.siteFile libs (state.written (.identity site)) = .ok retained ∧
      ((∃ error, (fileHandler libs root (.loadIdentity site) state.disk).1 =
          .error (.err error)) ∨
        (fileHandler libs root (.loadIdentity site) state.disk).1 =
          .ok (retained.map (·.identity)))
  histories : ∀ publisher, ∃ history,
    root.historyFile libs (state.written (.history publisher)) = .ok history ∧
      ((∃ error, (fileHandler libs root (.loadHistory publisher) state.disk).1 =
          .error (.err error)) ∨
        (fileHandler libs root (.loadHistory publisher) state.disk).1 = .ok history)

/-- The bytes are a supported envelope of a message that the store made for this
payload. -/
def Replays (state : TamperedStore) (bytes payload : Bytes) : Prop :=
  ∃ message, root.protector.envelopeOf libs bytes =
      some ⟨root.protector.envelopeVersion, message⟩ ∧
    (∃ sealed ∈ state.sealed, messageOf libs root sealed = some message) ∧
    root.protector.authentic libs message = some payload

/-- The store made the message that it wrote to a file last for this payload. -/
def WroteLast (state : TamperedStore) (path : StorePath) (payload : Bytes) : Prop :=
  ∃ last message, state.written path = some last ∧ messageOf libs root last = some message ∧
    root.protector.authentic libs message = some payload

/-- A payload is JSON of the kind that a file holds. -/
def IsJsonFor (payload : Bytes) : StorePath → Prop
  | .identity _ => ∃ dto, libs.identityJson.fromSlice payload = .ok dto
  | .history _ => ∃ dto, libs.historyJson.fromSlice payload = .ok dto
  | .storeKey | .storeMeta => False

/-- An overwrite puts no envelope with a nonce of a wrong length, and replays no
payload of the file's kind that the store made for another file or at an earlier time. -/
def ReplaysNothing (before : TamperedStore) (event : TamperEvent) (_after : TamperedStore) :
    Prop :=
  ∀ path bytes, event = .overwrite path bytes →
    ¬ ((∃ key, root.protector = .encrypted key) ∧ MisfitNonce libs bytes) ∧
    ∀ payload, before.Replays libs root bytes payload → IsJsonFor libs payload path →
      before.WroteLast libs root path payload

/-! ### The invariant of every file -/

variable {libs} {root}

/-- The bytes are no record of the kind of this file: they do not open, or their
payload does not decode. -/
def RejectsRecord (libs : StoreLibs) (root : StoreRoot) (path : StorePath) (bytes : Bytes) :
    Prop :=
  match path with
  | .identity _ => ∃ error, root.identityFile libs (some bytes) = .error (.err error)
  | .history _ => ∃ error, root.historyDtoFile libs (some bytes) = .error (.err error)
  | .storeKey | .storeMeta => False

theorem rejectsRecord_of_closed {path : StorePath} (isRecord : path.IsRecord) {bytes : Bytes}
    {error : StoreError}
    (closed : root.protector.openBytes libs bytes = .error (.err error)) :
    RejectsRecord libs root path bytes := by
  cases path with
  | identity site => exact ⟨error, by simp [StoreRoot.identityFile, StoreRoot.openFile, closed]⟩
  | history publisher =>
      exact ⟨error, by simp [StoreRoot.historyDtoFile, StoreRoot.openFile, closed]⟩
  | storeKey | storeMeta => exact isRecord.elim

theorem rejectsRecord_of_otherKind {path : StorePath} (isRecord : path.IsRecord)
    {bytes payload : Bytes} (opened : root.protector.openBytes libs bytes = .ok payload)
    (otherKind : ¬ IsJsonFor libs payload path) : RejectsRecord libs root path bytes := by
  cases path with
  | identity site =>
      cases decoded : libs.identityJson.fromSlice payload with
      | ok dto => exact absurd ⟨dto, decoded⟩ otherKind
      | error error =>
          refine ⟨⟨"decode identity: " ++ error⟩, ?_⟩
          simp only [StoreRoot.identityFile, StoreRoot.openFile, opened, ok_bind, pure_eq_ok,
            decoded, mapErr, fail, error_bind]
  | history publisher =>
      cases decoded : libs.historyJson.fromSlice payload with
      | ok dto => exact absurd ⟨dto, decoded⟩ otherKind
      | error error =>
          refine ⟨⟨"decode history: " ++ error⟩, ?_⟩
          simp only [StoreRoot.historyDtoFile, StoreRoot.openFile, opened, ok_bind, pure_eq_ok,
            decoded, mapErr, fail, error_bind]
  | storeKey | storeMeta => exact isRecord.elim

/-- The bytes are a record of the kind of this file. -/
def Genuine (libs : StoreLibs) (root : StoreRoot) (path : StorePath) (bytes : Bytes) : Prop :=
  match path with
  | .identity _ => ∃ retained, root.siteFile libs (some bytes) = .ok retained
  | .history _ => ∃ history, root.historyFile libs (some bytes) = .ok history
  | .storeKey | .storeMeta => False

theorem Genuine.opens {path : StorePath} {bytes : Bytes} (genuine : Genuine libs root path bytes) :
    ∃ payload, root.protector.openBytes libs bytes = .ok payload := by
  cases opened : root.protector.openBytes libs bytes with
  | ok payload => exact ⟨payload, rfl⟩
  | error failure =>
      cases path with
      | identity site =>
          obtain ⟨retained, denoted⟩ := genuine
          simp [StoreRoot.siteFile, StoreRoot.identityFile, StoreRoot.openFile, opened] at denoted
      | history publisher =>
          obtain ⟨history, denoted⟩ := genuine
          simp [StoreRoot.historyFile, StoreRoot.historyDtoFile, StoreRoot.openFile, opened]
            at denoted
      | storeKey | storeMeta => exact genuine.elim

/-- A file is as little there as it was written, or it is rejected or opens as what
was written to it last. -/
def SoundAt (libs : StoreLibs) (root : StoreRoot) (state : TamperedStore)
    (path : StorePath) : Prop :=
  (state.disk.files path = none ∧ state.written path = none) ∨
  ∃ last now, state.written path = some last ∧ state.disk.files path = some now ∧
    Genuine libs root path last ∧
    (RejectsRecord libs root path now ∨
      root.protector.openBytes libs now = root.protector.openBytes libs last)

def Sound (libs : StoreLibs) (root : StoreRoot) (state : TamperedStore) : Prop :=
  ∀ path, path.IsRecord → SoundAt libs root state path

/-- The file calls of a store method: a write is one of a record. -/
def WritesGenuine (libs : StoreLibs) (root : StoreRoot) : FileCall → Prop
  | .writeAtomic path bytes => Genuine libs root path bytes
  | .ensureDirs | .readFileOpt _ | .getrandom _ => True

theorem Sound.handle {state : TamperedStore} (sound : Sound libs root state)
    {request : FileCall} (allowed : WritesGenuine libs root request) :
    Sound libs root (loggingHandler request state).2 := by
  cases request with
  | ensureDirs | readFileOpt path | getrandom length => exact sound
  | writeAtomic path bytes =>
      intro other isRecord
      by_cases same : other = path
      · subst same
        exact .inr ⟨bytes, bytes, by simp [loggingHandler], by simp [loggingHandler, diskHandler],
          allowed, .inr rfl⟩
      · have elsewhere := sound other isRecord
        simpa [SoundAt, loggingHandler, diskHandler, Disk.files_write_other _ same, same]
          using elsewhere

theorem Sound.run {α : Type} {program : FileProgram α} {state : TamperedStore}
    (within : program.CallsWithin (WritesGenuine libs root))
    (sound : Sound libs root state) :
    Sound libs root (program.run loggingHandler state).2 := by
  have step : ∀ request state, WritesGenuine libs root request → Sound libs root state →
      Sound libs root (loggingHandler request state).2 :=
    fun request state allowed sound => sound.handle allowed
  exact Program.run_preserves loggingHandler step within sound

theorem messageOf_of_envelope {bytes : Bytes} {envelope : SealedEnvelope}
    (isEnvelope : root.protector.envelopeOf libs bytes = some envelope) :
    messageOf libs root bytes = some envelope.message := by
  simp [messageOf, isEnvelope]

/-- What the adversary can put in a file is rejected, or it opens as what the store
wrote to the file last: the key vouches for nothing else. -/
theorem overwrite_harmless {state : TamperedStore} {path : StorePath} {bytes last : Bytes}
    (isRecord : path.IsRecord) (forges : state.CanForge libs root bytes)
    (replaysNothing : ∀ payload, state.Replays libs root bytes payload →
      IsJsonFor libs payload path → state.WroteLast libs root path payload)
    (noPanic : NoPanic (root.protector.openBytes libs bytes))
    (written : state.written path = some last) (genuine : Genuine libs root path last) :
    RejectsRecord libs root path bytes ∨
      root.protector.openBytes libs bytes = root.protector.openBytes libs last := by
  cases opened : root.protector.openBytes libs bytes with
  | error failure =>
      cases failure with
      | err error => exact .inl (rejectsRecord_of_closed isRecord opened)
      | panic message => exact absurd opened (noPanic message)
  | ok payload =>
      -- the tag or the ciphertext is one of the store, so this is a replay
      obtain ⟨message, isEnvelope, proven⟩ := Protector.openBytes_eq_ok.mp opened
      have made := forges message (messageOf_of_envelope isEnvelope) (by simp [proven])
      by_cases isJson : IsJsonFor libs payload path
      · obtain ⟨last', lastMessage, written', carried, lastProven⟩ :=
          replaysNothing payload ⟨message, isEnvelope, made, proven⟩ isJson
        obtain rfl : last = last' := Option.some.inj (written.symm.trans written')
        obtain ⟨lastPayload, lastOpened⟩ := genuine.opens
        obtain ⟨ownMessage, ownEnvelope, ownProven⟩ := Protector.openBytes_eq_ok.mp lastOpened
        obtain rfl : ownMessage = lastMessage :=
          Option.some.inj ((messageOf_of_envelope ownEnvelope).symm.trans carried)
        obtain rfl : lastPayload = payload :=
          Option.some.inj (ownProven.symm.trans lastProven)
        exact .inr lastOpened.symm
      · exact .inl (rejectsRecord_of_otherKind isRecord opened isJson)

theorem Sound.overwrite {state : TamperedStore} (sound : Sound libs root state)
    {path : StorePath} {bytes : Bytes} (isRecord : path.IsRecord)
    (exists_ : (state.disk.files path).isSome) (forges : state.CanForge libs root bytes)
    {after : TamperedStore}
    (harmless : ReplaysNothing libs root state (.overwrite path bytes) after) :
    Sound libs root { state with disk := state.disk.write path bytes } := by
  obtain ⟨fits, replaysNothing⟩ := harmless path bytes rfl
  intro other otherRecord
  by_cases same : other = path
  · subst same
    rcases sound other isRecord with ⟨absent, -⟩ | ⟨last, now, written, -, genuine, -⟩
    · simp [absent] at exists_
    · exact .inr ⟨last, bytes, written, by simp, genuine,
        overwrite_harmless isRecord forges replaysNothing
          ((openBytes_noPanic_iff libs root.protector bytes).mpr fits) written genuine⟩
  · have elsewhere := sound other otherRecord
    simpa [SoundAt, Disk.files_write_other _ same] using elsewhere

/-! ### The calls of the stores -/

def IsRead : FileCall → Prop
  | .readFileOpt _ => True
  | .ensureDirs | .writeAtomic _ _ | .getrandom _ => False

/-- A program that only reads returns what it returns on the disk. -/
theorem run_reads {α : Type} {program : FileProgram α} (reads : program.CallsWithin IsRead)
    (state : TamperedStore) :
    program.run loggingHandler state = ((program.run diskHandler state.disk).1, state) := by
  have sameReply : ∀ request (logged : TamperedStore) (disk : Disk), logged.disk = disk →
      (loggingHandler request logged).1 = (diskHandler request disk).1 ∧
        (loggingHandler request logged).2.disk = (diskHandler request disk).2 := by
    rintro request logged _ rfl
    cases request <;> exact ⟨rfl, rfl⟩
  have sameState : ∀ request (logged : TamperedStore), IsRead request → logged = state →
      (loggingHandler request logged).2 = state := by
    intro request logged isRead same
    cases request with
    | readFileOpt path => exact same
    | ensureDirs | writeAtomic path bytes | getrandom length => exact isRead.elim
  exact Prod.ext (Program.run_simulation sameReply program rfl).1
    (Program.run_preserves loggingHandler sameState reads rfl)

theorem writeDto_genuine (lawful : libs.Lawful) (site : OnionAddress)
    (identity : RetainedIdentity) (replaced : List PublisherPubkey) :
    (FileIdentityStore.writeDto libs root site (.new identity replaced)).CallsWithin
      (WritesGenuine libs root) := by
  obtain ⟨bytes, encoded, decoded⟩ := lawful.identityJson (.new identity replaced)
  simp only [FileIdentityStore.writeDto, encoded, mapErr_ok]
  refine .bind_always trivial ?_
  rintro _ ⟨⟩
  exact root.writeProtected_calls lawful trivial fun sealed opened =>
    ⟨_, StoreRoot.siteFile_of_opened opened decoded⟩

/-- The records that a sound history file holds convert. -/
theorem Sound.historyDto {state : TamperedStore} (sound : Sound libs root state)
    {publisher : PublisherPubkey} {found : Option HistoryDto}
    (read : root.historyDtoFile libs (state.disk.files (.history publisher)) = .ok found) :
    ∃ records, ((found.map (·.records)).getD []).mapM
      (·.intoRecord libs.hexDecodeError) = .ok records := by
  rcases sound (.history publisher) trivial with
    ⟨absent, -⟩ | ⟨last, now, -, stored, ⟨history, genuine⟩, ⟨error, rejected⟩ | sameOpen⟩
  · obtain rfl : none = found := by
      simpa [absent, StoreRoot.historyDtoFile, StoreRoot.openFile] using read
    exact ⟨[], rfl⟩
  · rw [stored, rejected] at read
    cases read
  · have sameDto : root.historyDtoFile libs (some now) = root.historyDtoFile libs (some last) := by
      simp only [StoreRoot.historyDtoFile, StoreRoot.openFile, sameOpen]
    rw [stored, sameDto] at read
    rcases StoreRoot.historyFile_eq_ok.mp genuine with
      ⟨absent, -⟩ | ⟨dto, records, holds, converted, -⟩
    · obtain rfl : none = found := Except.ok.inj (absent.symm.trans read)
      exact ⟨[], rfl⟩
    · obtain rfl : some dto = found := Except.ok.inj (holds.symm.trans read)
      exact ⟨records, converted⟩

theorem Sound.appendRecord (lawful : libs.Lawful) {state : TamperedStore}
    (sound : Sound libs root state) (publisher : PublisherPubkey)
    (record : RetainedManifestRecord) :
    Sound libs root ((FileHistoryStore.appendRecord libs root publisher record).run
      loggingHandler state).2 := by
  simp only [FileHistoryStore.appendRecord]
  rw [Program.run_bind, run_reads (FileHistoryStore.loadDto_calls trivial),
    FileHistoryStore.run_loadDto]
  cases read : root.historyDtoFile libs (state.disk.files (.history publisher)) with
  | error error => exact sound
  | ok found =>
      obtain ⟨records, converted⟩ := sound.historyDto read
      obtain ⟨bytes, encoded, decoded⟩ := lawful.historyJson ⟨historyV,
        ManifestRecordDto.fromRecord record :: (found.map (·.records)).getD []⟩
      refine Sound.run ?_ sound
      simp only [encoded, mapErr_ok]
      refine .bind_always trivial ?_
      rintro _ ⟨⟩
      refine root.writeProtected_calls lawful trivial fun sealed opened => ?_
      refine ⟨⟨record :: records⟩, StoreRoot.historyFile_of_opened opened decoded ?_⟩
      simp [converted]

/-- A call of the stores keeps every file sound. -/
theorem Sound.call (lawful : libs.Lawful) {state : TamperedStore}
    (sound : Sound libs root state) (request : StoreCall) :
    Sound libs root (Program.run (I := fileInterface) loggingHandler
      (fileMethod libs root request) state).2 := by
  cases request with
  | loadIdentity site => exact sound.run (FileIdentityStore.loadIdentity_calls trivial)
  | apply site intent =>
      exact sound.run (FileIdentityStore.apply_calls trivial (writeDto_genuine lawful site) intent)
  | loadHistory publisher => exact sound.run (FileHistoryStore.loadHistory_calls trivial)
  | appendRecord publisher record => exact sound.appendRecord lawful publisher record

/-- Sound files load as they were written, or not at all. -/
theorem Sound.loadsWritten {state : TamperedStore} (sound : Sound libs root state) :
    LoadsWritten libs root state where
  identities site := by
    rw [fileHandler_loadIdentity]
    rcases sound (.identity site) trivial with
      ⟨absent, unwritten⟩ |
        ⟨last, now, written, stored, ⟨retained, genuine⟩, ⟨error, rejected⟩ | sameOpen⟩
    · exact ⟨none, by rw [unwritten]; rfl, .inr (by rw [absent]; rfl)⟩
    · refine ⟨retained, by rw [written, genuine], .inl ⟨error, ?_⟩⟩
      simp [stored, StoreRoot.siteFile, rejected, Except.map]
    · have sameFile : root.siteFile libs (some now) = root.siteFile libs (some last) := by
        simp only [StoreRoot.siteFile, StoreRoot.identityFile, StoreRoot.openFile, sameOpen]
      refine ⟨retained, by rw [written, genuine], .inr ?_⟩
      rw [stored, sameFile, genuine]
      rfl
  histories publisher := by
    rw [fileHandler_loadHistory]
    rcases sound (.history publisher) trivial with
      ⟨absent, unwritten⟩ |
        ⟨last, now, written, stored, ⟨history, genuine⟩, ⟨error, rejected⟩ | sameOpen⟩
    · exact ⟨.new, by rw [unwritten]; rfl, .inr (by rw [absent]; rfl)⟩
    · refine ⟨history, by rw [written, genuine], .inl ⟨error, ?_⟩⟩
      simp [stored, StoreRoot.historyFile, rejected]
    · have sameFile : root.historyFile libs (some now) = root.historyFile libs (some last) := by
        simp only [StoreRoot.historyFile, StoreRoot.historyDtoFile, StoreRoot.openFile, sameOpen]
      refine ⟨history, by rw [written, genuine], .inr ?_⟩
      rw [stored, sameFile, genuine]

theorem Sound.step (lawful : libs.Lawful) {state next : TamperedStore} {event : TamperEvent}
    (sound : Sound libs root state)
    (taken : (machine libs root).step state event = some next)
    (harmless : ReplaysNothing libs root state event next) : Sound libs root next := by
  cases event with
  | call request =>
      obtain rfl := Option.some.inj taken
      exact sound.call lawful request
  | overwrite path bytes =>
      simp only [machine] at taken
      split_ifs at taken with permitted
      obtain rfl := Option.some.inj taken
      obtain ⟨isRecord, exists_, forges⟩ := permitted
      exact sound.overwrite isRecord exists_ forges harmless

end TamperedStore

/-! ### A pinned site of the sample store -/

/-- The file of a site whose key was pinned. -/
def sealedPin (seed : UInt8) : Bytes :=
  SampleLibs.envelope (SampleLibs.identityDto.put (.new ⟨seedKey seed, .pinned⟩ []))

theorem siteFile_sealedPin (seed : UInt8) :
    SampleLibs.root.siteFile SampleLibs.libs (some (sealedPin seed)) =
      .ok (some ⟨⟨seedKey seed, .pinned⟩, []⟩) :=
  StoreRoot.siteFile_of_opened (SampleLibs.openBytes_envelope _)
    (SampleLibs.json_fromSlice_put SampleLibs.identityDto _)

namespace TamperedStore

/-- The store after one write of its own. -/
def afterWrite (state : TamperedStore) (path : StorePath) (bytes : Bytes) :
    TamperedStore where
  disk := (state.disk.afterDraw 8).write path bytes
  written := Function.update state.written path (some bytes)
  sealed := bytes :: state.sealed

theorem step_pin (state : TamperedStore) (site : OnionAddress)
    (absent : state.disk.files (.identity site) = none) (seed : UInt8) :
    (machine SampleLibs.libs SampleLibs.root).step state
        (.call (.apply site (.pinIdentity (seedKey seed)))) =
      some (state.afterWrite (.identity site) (sealedPin seed)) := by
  have reads : (FileIdentityStore.loadDto SampleLibs.libs SampleLibs.root site).CallsWithin
      IsRead := FileIdentityStore.loadDto_calls trivial
  have read := run_reads reads state
  rw [FileIdentityStore.run_loadDto, absent] at read
  simp only [machine, fileMethod, FileIdentityStore.apply]
  rw [Program.run_bind_ok loggingHandler read]
  rfl

end TamperedStore

/-- In every run of the stores in which no overwrite replays a payload of another
file or of an earlier time, nor has a nonce of a wrong length, every load is an error
or what was written last for the same site or publisher. -/
theorem tampered_loads_written {libs : StoreLibs} (lawful : libs.Lawful)
    (root : StoreRoot) {disk : Disk}
    (noRecords : ∀ path : StorePath, path.IsRecord → disk.files path = none)
    {events : List TamperEvent}
    (harmless : (TamperedStore.machine libs root).Along
      (TamperedStore.ReplaysNothing libs root) (.fresh disk) events)
    {state : TamperedStore}
    (reached : (TamperedStore.machine libs root).run (.fresh disk) events = some state) :
    state.LoadsWritten libs root := by
  have start : TamperedStore.Sound libs root (.fresh disk) :=
    fun path isRecord => .inl ⟨noRecords path isRecord, rfl⟩
  exact (harmless.invariant_run (TamperedStore.Sound libs root)
    (fun state event next sound taken harmless => sound.step lawful taken harmless)
    start reached).loadsWritten

/-- An envelope of a payload with a tag that is made up. -/
def forgedEnvelope (payload tag : Bytes) : Bytes :=
  SampleLibs.integrityEnvelope.put {
    v := envelopeV
    payloadB64 := LowerHex.encode payload
    macB64 := LowerHex.encode tag }

theorem envelopeOf_forged (payload tag : Bytes) :
    SampleLibs.root.protector.envelopeOf SampleLibs.libs (forgedEnvelope payload tag) =
      some ⟨envelopeV, .tagged payload tag⟩ := by
  have decoded := SampleLibs.json_fromSlice_put SampleLibs.integrityEnvelope {
    v := envelopeV
    payloadB64 := LowerHex.encode payload
    macB64 := LowerHex.encode tag }
  simp only [Protector.envelopeOf, SampleLibs.root, SampleLibs.libs, forgedEnvelope, decoded]
  simp [Except.toOption]

/-- The tag of the sample store starts with its key. -/
theorem authentic_forged (payload : Bytes) :
    SampleLibs.root.protector.authentic SampleLibs.libs (.tagged payload [0]) = none := by
  simp [Protector.authentic, SampleLibs.root, SampleLibs.libs, Except.toOption]

/-- A pin of another key, made without the key of the store. -/
def forgedPin : Bytes :=
  forgedEnvelope (SampleLibs.identityDto.put (.new ⟨seedKey 2, .pinned⟩ [])) [0]

theorem authentic_forgedPin {message : SealedMessage}
    (carried : TamperedStore.messageOf SampleLibs.libs SampleLibs.root forgedPin =
      some message) :
    SampleLibs.root.protector.authentic SampleLibs.libs message = none := by
  rw [forgedPin, TamperedStore.messageOf_of_envelope (envelopeOf_forged _ _)] at carried
  obtain rfl := Option.some.inj carried
  exact authentic_forged _

/-- A site is pinned, and its file is overwritten with a forged pin. -/
def forgedOverPin : List TamperEvent := [
  .call (.apply ⟨"zero.onion"⟩ (.pinIdentity (seedKey 1))),
  .overwrite (.identity ⟨"zero.onion"⟩) forgedPin]

theorem tampered_loads_written_forged :
    ∃ state, (TamperedStore.machine SampleLibs.libs SampleLibs.root).run
        (.fresh SampleLibs.emptyDisk) forgedOverPin = some state ∧
      state.LoadsWritten SampleLibs.libs SampleLibs.root := by
  have pinned := TamperedStore.step_pin (.fresh SampleLibs.emptyDisk) ⟨"zero.onion"⟩ rfl 1
  have forges : ((TamperedStore.fresh SampleLibs.emptyDisk).afterWrite
      (.identity ⟨"zero.onion"⟩) (sealedPin 1)).CanForge SampleLibs.libs SampleLibs.root
      forgedPin := by
    intro message carried vouched
    simp [authentic_forgedPin carried] at vouched
  have overwritten := TamperedStore.step_overwrite SampleLibs.libs SampleLibs.root
    ((TamperedStore.fresh SampleLibs.emptyDisk).afterWrite
      (.identity ⟨"zero.onion"⟩) (sealedPin 1)) (.identity ⟨"zero.onion"⟩) trivial
    (by simp [TamperedStore.afterWrite]) forges
  have reached : ∃ state, (TamperedStore.machine SampleLibs.libs SampleLibs.root).run
      (.fresh SampleLibs.emptyDisk) forgedOverPin = some state := by
    rw [forgedOverPin, StateMachine.run_cons_some _ pinned,
      StateMachine.run_cons_some _ overwritten]
    exact ⟨_, rfl⟩
  obtain ⟨state, ran⟩ := reached
  refine ⟨state, ran, tampered_loads_written SampleLibs.lawful SampleLibs.root
    (fun _ _ => rfl) ?_ ran⟩
  intro after taken
  refine ⟨by rintro path bytes ⟨⟩, fun last _ => ⟨?_, trivial⟩⟩
  rintro path bytes ⟨⟩
  refine ⟨by rintro ⟨⟨key, ⟨⟩⟩, -⟩, ?_⟩
  rintro payload ⟨message, isEnvelope, -, proven⟩ -
  have unproven := authentic_forgedPin (TamperedStore.messageOf_of_envelope isEnvelope)
  cases unproven.symm.trans proven

/-- Two sites are pinned, and the file of the first is copied over that of the
second. -/
def copiedPin : List TamperEvent := [
  .call (.apply ⟨"zero.onion"⟩ (.pinIdentity (seedKey 1))),
  .call (.apply ⟨"one.onion"⟩ (.pinIdentity (seedKey 2))),
  .overwrite (.identity ⟨"one.onion"⟩) (sealedPin 1)]

/-- The second site then loads the identity of the first. -/
theorem copied_pin_is_loaded :
    ¬ ∀ state, (TamperedStore.machine SampleLibs.libs SampleLibs.root).run
        (.fresh SampleLibs.emptyDisk) copiedPin = some state →
      state.LoadsWritten SampleLibs.libs SampleLibs.root := by
  intro always
  have pinnedFirst :=
    TamperedStore.step_pin (.fresh SampleLibs.emptyDisk) ⟨"zero.onion"⟩ rfl 1
  have pinnedSecond := TamperedStore.step_pin
    ((TamperedStore.fresh SampleLibs.emptyDisk).afterWrite
      (.identity ⟨"zero.onion"⟩) (sealedPin 1)) ⟨"one.onion"⟩ rfl 2
  have copied := TamperedStore.step_copy SampleLibs.libs SampleLibs.root
    (((TamperedStore.fresh SampleLibs.emptyDisk).afterWrite
      (.identity ⟨"zero.onion"⟩) (sealedPin 1)).afterWrite
      (.identity ⟨"one.onion"⟩) (sealedPin 2)) (.identity ⟨"one.onion"⟩) trivial
    (by simp [TamperedStore.afterWrite]) (List.mem_cons_of_mem _ (List.mem_cons_self ..))
  have loads := always _ (by
    rw [copiedPin, StateMachine.run_cons_some _ pinnedFirst,
      StateMachine.run_cons_some _ pinnedSecond, StateMachine.run_cons_some _ copied]
    rfl)
  obtain ⟨retained, written, loaded⟩ := loads.identities ⟨"one.onion"⟩
  have wroteSecond : SampleLibs.root.siteFile SampleLibs.libs (some (sealedPin 2)) =
      .ok retained := written
  rw [siteFile_sealedPin] at wroteSecond
  obtain rfl := Except.ok.inj wroteSecond
  have loadsFirst : ∀ disk : Disk, (fileHandler SampleLibs.libs SampleLibs.root
      (.loadIdentity ⟨"one.onion"⟩)
      (disk.write (.identity ⟨"one.onion"⟩) (sealedPin 1))).1 =
        .ok (some ⟨seedKey 1, .pinned⟩) := by
    intro disk
    rw [fileHandler_loadIdentity, Disk.files_write_same, siteFile_sealedPin]
    rfl
  rcases loaded with ⟨error, failed⟩ | sameKey
  · cases (loadsFirst _).symm.trans failed
  · have different := Except.ok.inj ((loadsFirst _).symm.trans sameKey)
    exact absurd different (by decide)

end EntangledClient
