import EntangledClient.StoreModePermanence
import EntangledClient.RecordCalls

/-!
# What the opens do

On any directory, each of the two constructors is accounted for: what it returns, which
files it writes, and which calls it makes.
-/

namespace EntangledClient

open CallTree ExceptRules

variable {libs : StoreLibs} {disk : Disk}

theorem run_readMeta_error {bytes : Bytes} {message : String}
    (stored : disk.files .storeMeta = some bytes)
    (refused : libs.metaJson.fromSlice bytes = .error message) :
    (readMeta libs).run diskHandler disk = (fail ("decode meta: " ++ message), disk) := by
  simp only [readMeta]
  rw [Program.run_bind_ok diskHandler (run_readFileOpt disk .storeMeta), stored]
  simp [refused, mapErr, Program.run_bind, fail]

/-- The mode check changes nothing, and passes on missing or matching metadata only. -/
theorem run_checkMode (libs : StoreLibs) (disk : Disk) :
    ∃ result, (checkMode libs .integrity).run diskHandler disk = (result, disk) ∧
      (result = .ok () → disk.files .storeMeta = none ∨
        ∃ bytes storeMeta, disk.files .storeMeta = some bytes ∧
          libs.metaJson.fromSlice bytes = .ok storeMeta ∧
          storeMeta.protection = .integrity) := by
  cases stored : disk.files .storeMeta with
  | none =>
      refine ⟨.ok (), ?_, fun _ => .inl rfl⟩
      simp only [checkMode]
      rw [Program.run_bind_ok diskHandler (run_readMeta_none stored), Program.run_pure]
  | some bytes =>
      cases decoded : libs.metaJson.fromSlice bytes with
      | error message =>
          refine ⟨fail ("decode meta: " ++ message), ?_, fun passed => by cases passed⟩
          exact Program.run_bind_error diskHandler (run_readMeta_error stored decoded) _
      | ok storeMeta =>
          refine ⟨ensure (storeMeta.protection = .integrity) wrongMode, ?_, fun passed => ?_⟩
          · simp only [checkMode]
            rw [Program.run_bind_ok diskHandler (run_readMeta_some stored decoded),
              run_ofResult]
          · exact .inr ⟨bytes, storeMeta, rfl, decoded, ensure_eq_ok.mp passed⟩

/-- With a key file, an integrity open changes nothing, and returns that key if the
mode check passes. -/
theorem run_openIntegrity_keyed {key : Bytes} (stored : disk.files .storeKey = some key) :
    (StoreRoot.openIntegrity libs).run diskHandler disk =
      ((((checkMode libs .integrity).run diskHandler disk).1.map fun _ => ⟨.integrity key⟩),
        disk) := by
  obtain ⟨result, checked, -⟩ := run_checkMode libs disk
  simp only [StoreRoot.openIntegrity]
  rw [Program.run_bind_ok diskHandler (run_ensureDirs disk),
    Program.run_bind_ok diskHandler (run_readFileOpt disk .storeKey), stored]
  rw [Program.run_bind_ok diskHandler (Program.run_pure _ key disk), checked]
  cases result with
  | ok passed => rw [Program.run_bind_ok diskHandler checked, Program.run_pure]; rfl
  | error failure => exact Program.run_bind_error diskHandler checked _

/-- A key without metadata passes the mode check. -/
theorem run_openIntegrity_keyOnly {key : Bytes}
    (stored : disk.files .storeKey = some key) (absent : disk.files .storeMeta = none) :
    (StoreRoot.openIntegrity libs).run diskHandler disk =
      (.ok ⟨.integrity key⟩, disk) := by
  have checked : (checkMode libs .integrity).run diskHandler disk = (.ok (), disk) := by
    simp only [checkMode]
    rw [Program.run_bind_ok diskHandler (run_readMeta_none absent), Program.run_pure]
  rw [run_openIntegrity_keyed stored, checked]
  rfl

/-- An integrity open either fails and changes nothing, or returns the key that is then
stored, next to metadata of its mode or none. -/
theorem openIntegrity_cases (lawful : libs.Lawful) (disk : Disk) :
    (∃ failure, (StoreRoot.openIntegrity libs).run diskHandler disk = (.error failure, disk)) ∨
    ∃ key after, (StoreRoot.openIntegrity libs).run diskHandler disk =
        (.ok ⟨.integrity key⟩, after) ∧
      after.files .storeKey = some key ∧
      (after.files .storeMeta = none ∨ IntegrityFiles libs key after) ∧
      ∀ path : StorePath, path.IsRecord → after.files path = disk.files path := by
  cases stored : disk.files .storeKey with
  | none =>
      obtain ⟨key, after, opened, files, records⟩ := run_openIntegrity_first lawful stored
      exact .inr ⟨key, after, opened, files.storeKey, .inr files, records⟩
  | some key =>
      obtain ⟨result, checked, passes⟩ := run_checkMode libs disk
      have opened := @run_openIntegrity_keyed libs disk key stored
      rw [checked] at opened
      cases result with
      | error failure => exact .inl ⟨failure, opened⟩
      | ok passed =>
          refine .inr ⟨key, disk, opened, stored, ?_, fun _ _ => rfl⟩
          rcases passes rfl with absent | ⟨bytes, storeMeta, held, decoded, isIntegrity⟩
          · exact .inl absent
          · exact .inr ⟨stored, bytes, storeMeta, held, decoded, isIntegrity⟩

/-- An encrypted open gives an encrypted store, if it returns one. -/
theorem openEncrypted_root (passphrase : String) (disk : Disk) {root : StoreRoot} {after : Disk}
    (opened : (StoreRoot.openEncrypted libs passphrase).run diskHandler disk =
      (.ok root, after)) : ∃ key, root = ⟨.encrypted key⟩ := by
  have derives : ∀ salt, (do
      let key ← ofResult (deriveKey libs passphrase salt)
      return ⟨.encrypted key⟩ : FileProgram StoreRoot).Concludes fun outcome =>
        ∀ root, outcome = .ok root → ∃ key, root = ⟨.encrypted key⟩ := by
    intro salt
    refine .bind_ok fun key => ?_
    rintro _ ⟨⟩
    exact ⟨key, rfl⟩
  have concludes : (StoreRoot.openEncrypted libs passphrase).Concludes fun outcome =>
      ∀ root, outcome = .ok root → ∃ key, root = ⟨.encrypted key⟩ := by
    refine .bind_ok fun _ => .bind_ok fun found => ?_
    cases found with
    | none => exact .bind_ok fun _ => .bind_ok fun _ => .bind_ok fun salt => derives salt
    | some storeMeta =>
        refine .bind_ok fun _ => ?_
        cases storeMeta.saltB64 with
        | none => exact .bind_ok fun salt => derives salt
        | some text => exact .bind_ok fun salt => derives salt
  have outcome := Program.Concludes.run_outcome diskHandler concludes disk
  rw [opened] at outcome
  exact outcome root rfl

/-- With metadata, an encrypted open changes nothing. -/
theorem run_openEncrypted_stored {bytes : Bytes} (stored : disk.files .storeMeta = some bytes)
    (passphrase : String) :
    ((StoreRoot.openEncrypted libs passphrase).run diskHandler disk).2 = disk := by
  simp only [StoreRoot.openEncrypted]
  rw [Program.run_bind_ok diskHandler (run_ensureDirs disk)]
  cases decoded : libs.metaJson.fromSlice bytes with
  | error message =>
      rw [Program.run_bind_error diskHandler (run_readMeta_error stored decoded)]
  | ok storeMeta =>
      rw [Program.run_bind_ok diskHandler (run_readMeta_some stored decoded)]
      simp only
      rw [Program.run_bind, run_ofResult]
      cases ensure (storeMeta.protection = .encrypted) wrongMode with
      | error failure => rfl
      | ok passed =>
          cases storeMeta.saltB64 with
          | none => rfl
          | some text =>
              simp only
              rw [Program.run_bind, run_ofResult]
              cases mapErr "salt base64: " (libs.base64Decode text) with
              | error failure => rfl
              | ok salt => simp only [run_deriveKey]

/-- Without metadata, an encrypted open writes it and nothing else. -/
theorem run_openEncrypted_absent (lawful : libs.Lawful)
    (absent : disk.files .storeMeta = none) (passphrase : String) :
    (∀ path, path ≠ .storeMeta →
      ((StoreRoot.openEncrypted libs passphrase).run diskHandler disk).2.files path =
        disk.files path) ∧
      ((StoreRoot.openEncrypted libs passphrase).run diskHandler disk).2.files .storeMeta ≠
        none := by
  obtain ⟨bytes, opened, -⟩ := run_openEncrypted_first lawful absent passphrase
  rw [opened]
  refine ⟨fun path different => ?_, ?_⟩
  · rw [Disk.files_write_other _ different, Disk.files_afterDraw, Disk.files_afterDraw]
  · rw [Disk.files_write_same]
    exact Option.some_ne_none bytes

/-- So no encrypted open touches the key or a record. -/
theorem run_openEncrypted_files (lawful : libs.Lawful) (passphrase : String) (disk : Disk)
    {path : StorePath} (different : path ≠ .storeMeta) :
    ((StoreRoot.openEncrypted libs passphrase).run diskHandler disk).2.files path =
      disk.files path := by
  cases stored : disk.files .storeMeta with
  | none => exact (run_openEncrypted_absent lawful stored passphrase).1 path different
  | some bytes => rw [run_openEncrypted_stored stored passphrase]

/-- What an integrity open does once it has its key. -/
def StoreRoot.integrityWithKey (libs : StoreLibs) (key : Bytes) : FileProgram StoreRoot := do
  checkMode libs .integrity
  return { protector := .integrity key }

/-- An integrity open, call by call, where the metadata has this encoding. -/
theorem StoreRoot.openIntegrity_eq {bytes : Bytes}
    (encoded : libs.metaJson.toVec ⟨metaV, .integrity, none⟩ = .ok bytes) :
    StoreRoot.openIntegrity libs = (do
      ensureDirs
      match ← readFileOpt .storeKey with
      | some key => integrityWithKey libs key
      | none => do
          let key ← getrandom 32
          writeAtomic .storeKey key.bytes
          writeAtomic .storeMeta bytes
          integrityWithKey libs key.bytes) := by
  refine congrArg (fun next => ensureDirs >>= next) (funext fun _ => ?_)
  refine congrArg (fun next => readFileOpt .storeKey >>= next) (funext fun file => ?_)
  cases file with
  | some key => rfl
  | none =>
      simp only [writeMeta, encoded, mapErr_ok]
      refine congrArg (Program.call (I := fileInterface) (.getrandom 32)) (funext fun reply => ?_)
      cases reply <;> rfl

/-- The mode check reads the metadata and calls nothing else. -/
theorem integrityWithKey_calls {allowed : FileCall → Prop}
    (reads : allowed (.readFileOpt .storeMeta)) (key : Bytes) :
    (StoreRoot.integrityWithKey libs key).CallsWithin allowed := by
  refine .bind (.bind (.bind (.perform reads) fun file => ?_) fun storeMeta => ?_)
    fun _ => .pure _
  · cases file with
    | none => exact .pure none
    | some bytes => exact .bind trivial fun _ => .pure _
  · cases storeMeta <;> trivial

theorem openIntegrity_calls {allowed : FileCall → Prop} (dirs : allowed .ensureDirs)
    (reads : ∀ path, allowed (.readFileOpt path)) (draws : ∀ length, allowed (.getrandom length))
    (writesKey : ∀ bytes, allowed (.writeAtomic .storeKey bytes))
    (writesMeta : ∀ bytes, allowed (.writeAtomic .storeMeta bytes)) :
    (StoreRoot.openIntegrity libs).CallsWithin allowed := by
  refine .bind (.perform dirs) fun _ => .bind (.perform (reads _)) fun file => ?_
  cases file with
  | some bytes => exact .bind (.pure bytes) (integrityWithKey_calls (reads _))
  | none =>
      refine .bind (.bind (.perform (draws 32)) fun _ => .pure _) fun key => ?_
      refine .bind (.perform (writesKey key)) fun _ => .bind ?_ fun _ =>
        .bind (.pure key) (integrityWithKey_calls (reads _))
      exact .bind trivial fun bytes => .perform (writesMeta bytes)

end EntangledClient
