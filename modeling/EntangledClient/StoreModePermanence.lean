import EntangledClient.StateMachine
import EntangledClient.SampleLibs

/-!
# The protection mode of a store

The two constructors tell a first use from different files: an integrity open
from the key file, an encrypted open from the metadata.  An integrity open of an
encrypted store therefore takes itself for the first use and replaces the
metadata, salt included.
-/

namespace EntangledClient

open CallTree ExceptRules

/-- An open of the store, by the constructor it goes through. -/
inductive StoreOpen
  | integrity
  | encrypted (passphrase : String)
  deriving DecidableEq

namespace StoreOpen

def mode : StoreOpen → Protection
  | .integrity => .integrity
  | .encrypted _ => .encrypted

def program (libs : StoreLibs) : StoreOpen → FileProgram StoreRoot
  | .integrity => StoreRoot.openIntegrity libs
  | .encrypted passphrase => StoreRoot.openEncrypted libs passphrase

/-- The directory as it is opened again and again. -/
def machine (libs : StoreLibs) : StateMachine Disk StoreOpen where
  step disk opening := some ((opening.program libs).run diskHandler disk).2

end StoreOpen

/-- An open in another mode than the chosen one is an error and leaves the key and
the metadata alone; the open that was chosen gives the same root again. -/
def KeepsMode (libs : StoreLibs) (chosen : StoreOpen) (root : StoreRoot) (before : Disk)
    (later : StoreOpen) (after : Disk) : Prop :=
  (later.mode ≠ chosen.mode →
    (∃ error, ((later.program libs).run diskHandler before).1 = .error (.err error)) ∧
      after.files .storeKey = before.files .storeKey ∧
      after.files .storeMeta = before.files .storeMeta) ∧
  (later = chosen → ((later.program libs).run diskHandler before).1 = .ok root)

/-- From the first open that succeeds, every open keeps the mode. -/
def ModePermanent (libs : StoreLibs) : Disk → List StoreOpen → Prop
  | _, [] => True
  | disk, opening :: opens =>
      match (opening.program libs).run diskHandler disk with
      | (.ok root, after) =>
          (StoreOpen.machine libs).Along (KeepsMode libs opening root) after opens
      | (.error _, after) => ModePermanent libs after opens

/-- Before the first integrity open, no encrypted open derives a key. -/
def NoKeyBeforeIntegrity (libs : StoreLibs) (salt : Bytes) (opens : List StoreOpen) : Prop :=
  ∀ before after, opens = before ++ .integrity :: after → .integrity ∉ before →
    ∀ passphrase, .encrypted passphrase ∈ before →
      ∃ failure, deriveKey libs passphrase salt = .error failure

/-! ### The opens of an integrity store -/

variable {libs : StoreLibs} {disk : Disk}

/-- The files of an integrity store. -/
structure IntegrityFiles (libs : StoreLibs) (key : Bytes) (disk : Disk) : Prop where
  storeKey : disk.files .storeKey = some key
  storeMeta : ∃ bytes storeMeta, disk.files .storeMeta = some bytes ∧
    libs.metaJson.fromSlice bytes = .ok storeMeta ∧ storeMeta.protection = .integrity

theorem run_readMeta_some {bytes : Bytes} {storeMeta : StoreMeta}
    (stored : disk.files .storeMeta = some bytes)
    (decoded : libs.metaJson.fromSlice bytes = .ok storeMeta) :
    (readMeta libs).run diskHandler disk = (.ok (some storeMeta), disk) := by
  simp only [readMeta]
  rw [Program.run_bind_ok diskHandler (run_readFileOpt disk .storeMeta), stored]
  simp [decoded, Program.run_bind]

theorem run_readMeta_none (absent : disk.files .storeMeta = none) :
    (readMeta libs).run diskHandler disk = (.ok none, disk) := by
  simp only [readMeta]
  rw [Program.run_bind_ok diskHandler (run_readFileOpt disk .storeMeta), absent]
  rfl

/-- The metadata that is written is the metadata that is read. -/
theorem run_writeMeta (lawful : libs.Lawful) (disk : Disk) (storeMeta : StoreMeta) :
    ∃ bytes, (writeMeta libs storeMeta).run diskHandler disk =
        (.ok (), (disk.afterDraw 8).write .storeMeta bytes) ∧
      libs.metaJson.fromSlice bytes = .ok storeMeta := by
  obtain ⟨bytes, encoded, decoded⟩ := lawful.metaJson storeMeta
  refine ⟨bytes, ?_, decoded⟩
  simp only [writeMeta, encoded, mapErr_ok]
  rw [Program.run_bind_ok diskHandler (run_ofResult disk _), run_writeAtomic]

theorem IntegrityFiles.run_openIntegrity {key : Bytes} (files : IntegrityFiles libs key disk) :
    (StoreRoot.openIntegrity libs).run diskHandler disk =
      (.ok ⟨.integrity key⟩, disk) := by
  obtain ⟨bytes, storeMeta, stored, decoded, isIntegrity⟩ := files.storeMeta
  have checked : (checkMode libs .integrity).run diskHandler disk = (.ok (), disk) := by
    simp only [checkMode]
    rw [Program.run_bind_ok diskHandler (run_readMeta_some stored decoded)]
    simp [isIntegrity]
  simp only [StoreRoot.openIntegrity]
  rw [Program.run_bind_ok diskHandler (run_ensureDirs disk),
    Program.run_bind_ok diskHandler (run_readFileOpt disk .storeKey), files.storeKey]
  rw [Program.run_bind_ok diskHandler (Program.run_pure _ key disk),
    Program.run_bind_ok diskHandler checked, Program.run_pure]

theorem IntegrityFiles.run_openEncrypted {key : Bytes} (files : IntegrityFiles libs key disk)
    (passphrase : String) :
    (StoreRoot.openEncrypted libs passphrase).run diskHandler disk = (fail wrongMode, disk) := by
  obtain ⟨bytes, storeMeta, stored, decoded, isIntegrity⟩ := files.storeMeta
  have refused : (ofResult (ensure (storeMeta.protection = .encrypted) wrongMode)).run
      diskHandler disk = (fail wrongMode, disk) := by
    simp [isIntegrity, ensure]
  simp only [StoreRoot.openEncrypted]
  rw [Program.run_bind_ok diskHandler (run_ensureDirs disk),
    Program.run_bind_ok diskHandler (run_readMeta_some stored decoded)]
  exact Program.run_bind_error diskHandler refused _

/-- An integrity store stays one, whatever is opened. -/
theorem IntegrityFiles.keepsMode {key : Bytes} (files : IntegrityFiles libs key disk)
    (opens : List StoreOpen) :
    (StoreOpen.machine libs).Along (KeepsMode libs .integrity ⟨.integrity key⟩) disk opens := by
  induction opens with
  | nil => trivial
  | cons later opens ih =>
      rintro after ⟨⟩
      cases later with
      | integrity =>
          simp only [StoreOpen.program, files.run_openIntegrity, KeepsMode]
          exact ⟨by simp, ih⟩
      | encrypted passphrase =>
          simp only [StoreOpen.program, files.run_openEncrypted, KeepsMode]
          exact ⟨by simp [fail], ih⟩

/-! ### The opens of a store without a key file -/

/-- No key file, and the salt of the encrypted mode stored or the next one to be
drawn. -/
structure UnkeyedFiles (libs : StoreLibs) (salt : Bytes) (disk : Disk) : Prop where
  storeKey : disk.files .storeKey = none
  storeMeta : (disk.files .storeMeta = none ∧ (disk.drawn 16).bytes = salt) ∨
    ∃ bytes, disk.files .storeMeta = some bytes ∧
      libs.metaJson.fromSlice bytes = .ok ⟨metaV, .encrypted, some (libs.base64Encode salt)⟩

/-- Without a key file, an integrity open succeeds, whatever the metadata was, and leaves
an integrity store and the records as they were. -/
theorem run_openIntegrity_first (lawful : libs.Lawful)
    (absent : disk.files .storeKey = none) :
    ∃ key after, (StoreRoot.openIntegrity libs).run diskHandler disk =
        (.ok ⟨.integrity key⟩, after) ∧
      IntegrityFiles libs key after ∧
      ∀ path : StorePath, path.IsRecord → after.files path = disk.files path := by
  have generated : generateIntegrityKey.run diskHandler disk =
      (.ok (disk.drawn 32).bytes, disk.afterDraw 32) := by
    simp only [generateIntegrityKey]
    rw [Program.run_bind_ok diskHandler (run_getrandom disk 32), Program.run_pure]
  obtain ⟨withKey, isWithKey⟩ : ∃ withKey, withKey =
      ((disk.afterDraw 32).afterDraw 8).write .storeKey (disk.drawn 32).bytes := ⟨_, rfl⟩
  have keyWritten : (writeAtomic .storeKey (disk.drawn 32).bytes).run diskHandler
      (disk.afterDraw 32) = (.ok (), withKey) := by
    rw [run_writeAtomic, isWithKey]
  obtain ⟨bytes, metaWritten, decoded⟩ := run_writeMeta lawful withKey ⟨metaV, .integrity, none⟩
  have stored : ((withKey.afterDraw 8).write .storeMeta bytes).files .storeMeta = some bytes :=
    Disk.files_write_same ..
  have checked : (checkMode libs .integrity).run diskHandler
      ((withKey.afterDraw 8).write .storeMeta bytes) =
        (.ok (), (withKey.afterDraw 8).write .storeMeta bytes) := by
    simp only [checkMode]
    rw [Program.run_bind_ok diskHandler (run_readMeta_some stored decoded)]
    simp
  refine ⟨(disk.drawn 32).bytes, _, ?_, ⟨?_, bytes, _, stored, decoded, rfl⟩,
    fun path isRecord => ?_⟩
  · simp only [StoreRoot.openIntegrity]
    rw [Program.run_bind_ok diskHandler (run_ensureDirs disk),
      Program.run_bind_ok diskHandler (run_readFileOpt disk .storeKey), absent]
    simp only
    rw [Program.run_bind_ok diskHandler generated, Program.run_bind_ok diskHandler keyWritten,
      Program.run_bind_ok diskHandler metaWritten,
      Program.run_bind_ok diskHandler (Program.run_pure _ _ _),
      Program.run_bind_ok diskHandler checked, Program.run_pure]
  · rw [Disk.files_write_other _ (by simp), Disk.files_afterDraw, isWithKey,
      Disk.files_write_same]
  · have notMeta : path ≠ .storeMeta := by
      rintro rfl
      exact isRecord
    have notKey : path ≠ .storeKey := by
      rintro rfl
      exact isRecord
    rw [Disk.files_write_other _ notMeta, Disk.files_afterDraw, isWithKey,
      Disk.files_write_other _ notKey, Disk.files_afterDraw, Disk.files_afterDraw]

/-- An integrity open succeeds and leaves an integrity store. -/
theorem UnkeyedFiles.run_openIntegrity (lawful : libs.Lawful) {salt : Bytes}
    (files : UnkeyedFiles libs salt disk) :
    ∃ key after, (StoreRoot.openIntegrity libs).run diskHandler disk =
        (.ok ⟨.integrity key⟩, after) ∧
      IntegrityFiles libs key after := by
  obtain ⟨key, after, opened, keyed, -⟩ := run_openIntegrity_first lawful files.storeKey
  exact ⟨key, after, opened, keyed⟩

theorem run_deriveKey (passphrase : String) (salt : Bytes) (disk : Disk) :
    (do
      let key ← ofResult (deriveKey libs passphrase salt)
      return ⟨.encrypted key⟩ : FileProgram StoreRoot).run diskHandler disk =
      ((deriveKey libs passphrase salt).map fun key => ⟨.encrypted key⟩, disk) := by
  rw [Program.run_bind, run_ofResult]
  cases deriveKey libs passphrase salt <;> rfl

/-- The first encrypted open draws the salt and stores it. -/
theorem run_openEncrypted_first (lawful : libs.Lawful) (absent : disk.files .storeMeta = none)
    (passphrase : String) :
    ∃ bytes, (StoreRoot.openEncrypted libs passphrase).run diskHandler disk =
        ((deriveKey libs passphrase (disk.drawn 16).bytes).map fun key => ⟨.encrypted key⟩,
          ((disk.afterDraw 16).afterDraw 8).write .storeMeta bytes) ∧
      libs.metaJson.fromSlice bytes =
        .ok ⟨metaV, .encrypted, some (libs.base64Encode (disk.drawn 16).bytes)⟩ := by
  obtain ⟨bytes, metaWritten, decoded⟩ := run_writeMeta lawful (disk.afterDraw 16)
    ⟨metaV, .encrypted, some (libs.base64Encode (disk.drawn 16).bytes)⟩
  refine ⟨bytes, ?_, decoded⟩
  simp only [StoreRoot.openEncrypted]
  rw [Program.run_bind_ok diskHandler (run_ensureDirs disk),
    Program.run_bind_ok diskHandler (run_readMeta_none absent)]
  simp only
  rw [Program.run_bind_ok diskHandler (run_getrandom disk 16),
    Program.run_bind_ok diskHandler metaWritten,
    Program.run_bind_ok diskHandler (Program.run_pure _ _ _), run_deriveKey]

/-- A later encrypted open changes nothing. -/
theorem run_openEncrypted_later (lawful : libs.Lawful) {bytes salt : Bytes}
    (stored : disk.files .storeMeta = some bytes)
    (decoded : libs.metaJson.fromSlice bytes =
      .ok ⟨metaV, .encrypted, some (libs.base64Encode salt)⟩)
    (passphrase : String) :
    (StoreRoot.openEncrypted libs passphrase).run diskHandler disk =
      ((deriveKey libs passphrase salt).map fun key => ⟨.encrypted key⟩, disk) := by
  simp only [StoreRoot.openEncrypted]
  rw [Program.run_bind_ok diskHandler (run_ensureDirs disk),
    Program.run_bind_ok diskHandler (run_readMeta_some stored decoded)]
  simp only [lawful.base64, mapErr_ok, ensure_of]
  rw [Program.run_bind_ok diskHandler (run_ofResult disk _),
    Program.run_bind_ok diskHandler (run_ofResult disk _), run_deriveKey]

/-- An encrypted open derives the key from the salt and keeps the salt. -/
theorem UnkeyedFiles.run_openEncrypted (lawful : libs.Lawful) {salt : Bytes}
    (files : UnkeyedFiles libs salt disk) (passphrase : String) :
    ∃ after, (StoreRoot.openEncrypted libs passphrase).run diskHandler disk =
        ((deriveKey libs passphrase salt).map fun key => ⟨.encrypted key⟩, after) ∧
      UnkeyedFiles libs salt after := by
  rcases files.storeMeta with ⟨absent, rfl⟩ | ⟨bytes, stored, decoded⟩
  · obtain ⟨bytes, opened, decoded⟩ := run_openEncrypted_first lawful absent passphrase
    refine ⟨_, opened, ?_, .inr ⟨bytes, Disk.files_write_same .., decoded⟩⟩
    rw [Disk.files_write_other _ (by simp), Disk.files_afterDraw, Disk.files_afterDraw,
      files.storeKey]
  · exact ⟨disk, run_openEncrypted_later lawful stored decoded passphrase, files⟩

/-- After an encrypted open that succeeded, the mode is kept as long as there is no
integrity open. -/
theorem UnkeyedFiles.keepsMode_iff (lawful : libs.Lawful) {salt : Bytes}
    (files : UnkeyedFiles libs salt disk) {passphrase : String} {key : Bytes32}
    (derived : deriveKey libs passphrase salt = .ok key) (opens : List StoreOpen) :
    (StoreOpen.machine libs).Along
        (KeepsMode libs (.encrypted passphrase) ⟨.encrypted key⟩) disk opens ↔
      .integrity ∉ opens := by
  induction opens generalizing disk with
  | nil => simp [StateMachine.Along]
  | cons later opens ih =>
      cases later with
      | integrity =>
          obtain ⟨newKey, after, opened, -⟩ := files.run_openIntegrity lawful
          refine iff_of_false (fun kept => ?_) (by simp)
          obtain ⟨error, failed⟩ := ((kept after (by
            simp [StoreOpen.machine, StoreOpen.program, opened])).1.1 (by simp [StoreOpen.mode])).1
          simp [StoreOpen.program, opened] at failed
      | encrypted other =>
          obtain ⟨after, opened, stillUnkeyed⟩ := files.run_openEncrypted lawful other
          have stepped : (StoreOpen.machine libs).step disk (.encrypted other) = some after := by
            simp [StoreOpen.machine, StoreOpen.program, opened]
          have keeps : KeepsMode libs (.encrypted passphrase) ⟨.encrypted key⟩ disk
              (.encrypted other) after := by
            refine ⟨fun otherMode => absurd rfl otherMode, fun samePassphrase => ?_⟩
            obtain rfl := StoreOpen.encrypted.inj samePassphrase
            rw [StoreOpen.program, opened, derived]
            rfl
          simp [StateMachine.Along, stepped, keeps, ih stillUnkeyed]

theorem noKeyBeforeIntegrity_cons_integrity (salt : Bytes) (opens : List StoreOpen) :
    NoKeyBeforeIntegrity libs salt (.integrity :: opens) := by
  intro before after split notBefore passphrase member
  cases before with
  | nil => cases member
  | cons first before =>
      obtain ⟨rfl, -⟩ := List.cons.inj split
      exact absurd (List.mem_cons_self ..) notBefore

theorem noKeyBeforeIntegrity_cons_encrypted (salt : Bytes) (passphrase : String)
    (opens : List StoreOpen) :
    NoKeyBeforeIntegrity libs salt (.encrypted passphrase :: opens) ↔
      ((∃ key, deriveKey libs passphrase salt = .ok key) → .integrity ∉ opens) ∧
        NoKeyBeforeIntegrity libs salt opens := by
  constructor
  · intro noKey
    refine ⟨?_, fun before after split notBefore other member => ?_⟩
    · rintro ⟨key, derived⟩ member
      obtain ⟨before, after, split, notBefore⟩ := List.eq_append_cons_of_mem member
      obtain ⟨failure, failed⟩ := noKey (.encrypted passphrase :: before) after
        (by rw [split]; rfl) (by simpa using notBefore) passphrase (List.mem_cons_self ..)
      rw [derived] at failed
      cases failed
    · exact noKey (.encrypted passphrase :: before) after (by rw [split]; rfl)
        (by simpa using notBefore) other (List.mem_cons_of_mem _ member)
  · rintro ⟨noneAfterKey, noKey⟩ before after split notBefore other member
    cases before with
    | nil => cases member
    | cons first before =>
        obtain ⟨rfl, rest⟩ := List.cons.inj split
        have notInRest : .integrity ∉ before :=
          fun inRest => notBefore (List.mem_cons_of_mem _ inRest)
        rcases List.mem_cons.mp member with same | inRest
        · obtain rfl := StoreOpen.encrypted.inj same
          cases derived : deriveKey libs other salt with
          | error failure => exact ⟨failure, rfl⟩
          | ok key => exact absurd (by simp [rest]) (noneAfterKey ⟨key, derived⟩)
        · exact noKey before after rest notInRest other inRest

theorem noKeyBeforeIntegrity_of_no_integrity {opens : List StoreOpen}
    (none : .integrity ∉ opens) (salt : Bytes) : NoKeyBeforeIntegrity libs salt opens := by
  rintro before after rfl
  exact absurd (by simp) none

/-- On the files of a store without a key file. -/
theorem UnkeyedFiles.modePermanent_iff (lawful : libs.Lawful) {salt : Bytes}
    (files : UnkeyedFiles libs salt disk) (opens : List StoreOpen) :
    ModePermanent libs disk opens ↔ NoKeyBeforeIntegrity libs salt opens := by
  induction opens generalizing disk with
  | nil => exact iff_of_true trivial (noKeyBeforeIntegrity_of_no_integrity (by simp) salt)
  | cons opening opens ih =>
      cases opening with
      | integrity =>
          obtain ⟨key, after, opened, keyed⟩ := files.run_openIntegrity lawful
          refine iff_of_true ?_ (noKeyBeforeIntegrity_cons_integrity salt opens)
          simp only [ModePermanent, StoreOpen.program, opened]
          exact keyed.keepsMode opens
      | encrypted passphrase =>
          obtain ⟨after, opened, stillUnkeyed⟩ := files.run_openEncrypted lawful passphrase
          simp only [ModePermanent, StoreOpen.program, opened,
            noKeyBeforeIntegrity_cons_encrypted]
          cases derived : deriveKey libs passphrase salt with
          | error failure => simpa [Except.map] using ih stillUnkeyed
          | ok key =>
              simp only [Except.map, stillUnkeyed.keepsMode_iff lawful derived]
              constructor
              · intro noIntegrity
                exact ⟨fun _ => noIntegrity,
                  noKeyBeforeIntegrity_of_no_integrity noIntegrity salt⟩
              · rintro ⟨noIntegrity, -⟩
                exact noIntegrity ⟨key, rfl⟩

/-- On a directory without key and metadata, the mode of the first successful open
is permanent exactly if no encrypted open derives a key before the first integrity
open. -/
theorem modePermanent_iff_noKeyBeforeIntegrity {libs : StoreLibs} (lawful : libs.Lawful)
    {disk : Disk} (noKey : disk.files .storeKey = none)
    (noMeta : disk.files .storeMeta = none) (opens : List StoreOpen) :
    ModePermanent libs disk opens ↔
      NoKeyBeforeIntegrity libs (disk.drawn 16).bytes opens :=
  UnkeyedFiles.modePermanent_iff lawful ⟨noKey, .inl ⟨noMeta, rfl⟩⟩ opens

theorem modePermanent_iff_noKeyBeforeIntegrity_reopened :
    ModePermanent SampleLibs.libs SampleLibs.emptyDisk
        [.integrity, .encrypted "passphrase", .integrity] ↔
      NoKeyBeforeIntegrity SampleLibs.libs (SampleLibs.emptyDisk.drawn 16).bytes
        [.integrity, .encrypted "passphrase", .integrity] :=
  modePermanent_iff_noKeyBeforeIntegrity SampleLibs.lawful rfl rfl _

/-- An integrity open of an encrypted store succeeds. -/
theorem integrity_open_takes_over :
    ¬ ModePermanent SampleLibs.libs SampleLibs.emptyDisk
      [.encrypted "passphrase", .integrity] := by
  have files : UnkeyedFiles SampleLibs.libs (SampleLibs.emptyDisk.drawn 16).bytes
      SampleLibs.emptyDisk := ⟨rfl, .inl ⟨rfl, rfl⟩⟩
  rw [files.modePermanent_iff SampleLibs.lawful]
  intro noKey
  obtain ⟨failure, failed⟩ := noKey [.encrypted "passphrase"] [] rfl (by simp) "passphrase"
    (by simp)
  have length := (SampleLibs.emptyDisk.drawn 16).length_eq
  simp [deriveKey, SampleLibs.libs, length] at failed

end EntangledClient
