import EntangledClient.StoreProtection

/-!
# The store root

Opening a store in one of its two modes, and protected reads and writes of its
files.
-/

namespace EntangledClient

open CallTree ExceptRules

/-- A resolved store root. -/
structure StoreRoot where
  protector : Protector
  deriving DecidableEq

variable (libs : StoreLibs)

def writeMeta (storeMeta : StoreMeta) : FileProgram Unit := do
  let bytes ← ofResult (mapErr "encode meta: " (libs.metaJson.toVec storeMeta))
  writeAtomic .storeMeta bytes

def readMeta : FileProgram (Option StoreMeta) := do
  match ← readFileOpt .storeMeta with
  | none => return none
  | some bytes =>
      let storeMeta ← ofResult (mapErr "decode meta: " (libs.metaJson.fromSlice bytes))
      return some storeMeta

def wrongMode : String :=
  "store was initialized in a different protection mode"

def checkMode (expected : ProtectionTag) : FileProgram Unit := do
  match ← readMeta libs with
  | none => return ()
  | some storeMeta => ofResult (ensure (storeMeta.protection = expected) wrongMode)

namespace StoreRoot

/-- `StoreRoot::open_integrity`: the first use is told from the key file. -/
def openIntegrity : FileProgram StoreRoot := do
  ensureDirs
  let key ←
    match ← readFileOpt .storeKey with
    | some bytes => pure bytes
    | none => do
        let key ← generateIntegrityKey
        writeAtomic .storeKey key
        writeMeta libs { v := metaV, protection := .integrity, saltB64 := none }
        pure key
  checkMode libs .integrity
  return { protector := .integrity key }

/-- `StoreRoot::open_encrypted`: the first use is told from the metadata. -/
def openEncrypted (passphrase : String) : FileProgram StoreRoot := do
  ensureDirs
  let salt ←
    match ← readMeta libs with
    | some storeMeta => do
        ofResult (ensure (storeMeta.protection = .encrypted) wrongMode)
        match storeMeta.saltB64 with
        | none => ofResult (fail "encrypted store missing salt")
        | some s => ofResult (mapErr "salt base64: " (libs.base64Decode s))
    | none => do
        let salt ← getrandom 16
        writeMeta libs {
          v := metaV
          protection := .encrypted
          saltB64 := some (libs.base64Encode salt.bytes) }
        pure salt.bytes
  let key ← ofResult (deriveKey libs passphrase salt)
  return { protector := .encrypted key }

variable (root : StoreRoot)

/-- Seal a payload and write it. -/
def writeProtected (path : StorePath) (payload : Bytes) : FileProgram Unit := do
  let sealed ← root.protector.sealBytes libs payload
  writeAtomic path sealed

/-- Read and open a file; a missing file is `none`. -/
def readProtected (path : StorePath) : FileProgram (Option Bytes) := do
  match ← readFileOpt path with
  | none => return none
  | some onDisk =>
      let payload ← ofResult (root.protector.openBytes libs onDisk)
      return some payload

/-- What reading a file of this content gives. -/
def openFile (file : Option Bytes) : Except Failure (Option Bytes) :=
  match file with
  | none => .ok none
  | some onDisk => do
      let payload ← root.protector.openBytes libs onDisk
      return some payload

variable {libs}

/-- A protected read is one call. -/
theorem readProtected_eq (path : StorePath) :
    root.readProtected libs path =
      .call (.readFileOpt path) fun reply =>
        .ret (reply >>= fun file => root.openFile libs file) := by
  refine congrArg (Program.call (I := fileInterface) (.readFileOpt path)) ?_
  funext reply
  refine Program.ret_bind_ret (I := fileInterface) reply fun file => ?_
  cases file with
  | none => rfl
  | some onDisk => exact Program.ret_bind_ret _ fun payload => rfl

/-- So is a protected read whose payload is then decoded. -/
theorem readProtected_bind {α : Type} (path : StorePath) {next : Option Bytes → FileProgram α}
    {result : Option Bytes → Except Failure α}
    (calls_nothing : ∀ payload, next payload = .ret (result payload)) :
    (root.readProtected libs path >>= next) =
      .call (.readFileOpt path) fun reply =>
        .ret (reply >>= fun file => root.openFile libs file >>= result) := by
  rw [readProtected_eq]
  refine congrArg (Program.call (I := fileInterface) (.readFileOpt path)) ?_
  funext reply
  cases reply with
  | error failure => rfl
  | ok file => exact Program.ret_bind_ret _ calls_nothing

/-- A protected write writes bytes that open to the payload. -/
theorem writeProtected_calls (lawful : libs.Lawful) {allowed : FileCall → Prop}
    {path : StorePath} {payload : Bytes} (drawsNonce : allowed (.getrandom 24))
    (writes : ∀ sealed, root.protector.openBytes libs sealed = .ok payload →
      allowed (.writeAtomic path sealed)) :
    (root.writeProtected libs path payload).CallsWithin allowed :=
  .bind_always (Protector.sealBytes_calls drawsNonce _ _)
    ((Protector.sealBytes_concludes lawful root.protector payload).mono
      fun _ _ opens sealed isSealed => .perform (writes sealed (opens sealed isSealed)))

@[simp]
theorem run_readProtected (path : StorePath) (disk : Disk) :
    (root.readProtected libs path).run diskHandler disk =
      (root.openFile libs (disk.files path), disk) := by
  rw [readProtected_eq]
  rfl

/-- A protected write changes one file, to bytes that open to the payload. -/
theorem run_writeProtected (lawful : libs.Lawful) (path : StorePath) (payload : Bytes)
    (disk : Disk) :
    ∃ sealed after,
      (root.writeProtected libs path payload).run diskHandler disk = (.ok (), after) ∧
      root.protector.openBytes libs sealed = .ok payload ∧
      after.files = Function.update disk.files path (some sealed) := by
  obtain ⟨sealed, drawn, sealing, opening, sameFiles⟩ :=
    root.protector.run_sealBytes lawful payload disk
  refine ⟨sealed, (drawn.afterDraw 8).write path sealed, ?_, opening, ?_⟩
  · simp only [writeProtected]
    rw [Program.run_bind_ok diskHandler sealing, run_writeAtomic]
  · simp [Disk.write, sameFiles]

end StoreRoot

end EntangledClient
