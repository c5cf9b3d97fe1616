import EntangledClient.Disk
import EntangledClient.StoreDto

/-!
# On-disk payload protection

A payload is wrapped with an HMAC under a local key, or sealed by an AEAD under
a key derived from a passphrase.  Opening verifies the tag and fails closed.  The
serializer, the text encodings and the cryptographic primitives come from other
crates and are parameters.
-/

namespace EntangledClient

open CallTree ExceptRules

inductive Protection
  | integrity
  | encrypted
  deriving DecidableEq

inductive ProtectionTag
  | integrity
  | encrypted
  deriving DecidableEq

def Protection.tag : Protection → ProtectionTag
  | .integrity => .integrity
  | .encrypted => .encrypted

structure IntegrityEnvelope where
  v : UInt32
  payloadB64 : String
  macB64 : String
  deriving DecidableEq

def envelopeV : UInt32 := 1

structure AeadEnvelope where
  v : UInt32
  nonceB64 : String
  ctB64 : String
  deriving DecidableEq

def aeadV : UInt32 := 1

/-- Per-store metadata. -/
structure StoreMeta where
  v : UInt32
  protection : ProtectionTag
  /-- Per-store salt of an encrypted store; absent otherwise. -/
  saltB64 : Option String
  deriving DecidableEq

def metaV : UInt32 := 1

/-- `serde_json` at one type, with the texts of its errors. -/
structure JsonCodec (α : Type) where
  toVec : α → Except String Bytes
  fromSlice : Bytes → Except String α

def JsonCodec.RoundTrips {α : Type} (codec : JsonCodec α) : Prop :=
  ∀ value, ∃ bytes, codec.toVec value = .ok bytes ∧ codec.fromSlice bytes = .ok value

/-- The crates that the store builds on. -/
structure StoreLibs where
  identityJson : JsonCodec IdentityDto
  historyJson : JsonCodec HistoryDto
  integrityJson : JsonCodec IntegrityEnvelope
  aeadJson : JsonCodec AeadEnvelope
  metaJson : JsonCodec StoreMeta
  base64Encode : Bytes → String
  base64Decode : String → Except String Bytes
  hexDecodeError : String → String
  /-- The HMAC of a payload under a key, or why the key is refused. -/
  hmacSha256 : Bytes → Bytes → Except String Bytes
  encrypt : Bytes32 → FixedBytes 24 → Bytes → Option Bytes
  decrypt : Bytes32 → FixedBytes 24 → Bytes → Option Bytes
  hashPasswordInto : String → Bytes → Except String Bytes32

/-- What the store relies on: each encoding is undone by its decoding. -/
structure StoreLibs.Lawful (libs : StoreLibs) : Prop where
  identityJson : libs.identityJson.RoundTrips
  historyJson : libs.historyJson.RoundTrips
  integrityJson : libs.integrityJson.RoundTrips
  aeadJson : libs.aeadJson.RoundTrips
  metaJson : libs.metaJson.RoundTrips
  base64 : ∀ bytes, libs.base64Decode (libs.base64Encode bytes) = .ok bytes
  hmac : ∀ key payload, ∃ tag, libs.hmacSha256 key payload = .ok tag
  aead : ∀ key nonce payload, ∃ ct,
    libs.encrypt key nonce payload = some ct ∧ libs.decrypt key nonce ct = some payload

def fail {α : Type} (message : String) : Except Failure α :=
  .error (.err ⟨message⟩)

/-- `map_err` of a library error, with a text in front. -/
def mapErr {α : Type} (context : String) : Except String α → Except Failure α
  | .ok value => .ok value
  | .error error => fail (context ++ error)

/-- An `Err` as an outcome of code that may also panic. -/
def asOutcome {α : Type} : Except StoreError α → Except Failure α
  | .ok value => .ok value
  | .error error => .error (.err error)

def ensure (condition : Prop) [Decidable condition] (message : String) :
    Except Failure Unit :=
  if condition then .ok () else fail message

@[simp]
theorem mapErr_ok {α : Type} (context : String) (value : α) :
    mapErr context (.ok value) = .ok value :=
  rfl

@[simp]
theorem asOutcome_ok {α : Type} (value : α) :
    asOutcome (.ok value : Except StoreError α) = .ok value :=
  rfl

@[simp]
theorem ensure_of {condition : Prop} [Decidable condition] (holds : condition)
    (message : String) : ensure condition message = .ok () := by
  simp [ensure, holds]

/-- The mode of a store with its resolved key. -/
inductive Protector
  | integrity (key : Bytes)
  | encrypted (key : Bytes32)
  deriving DecidableEq

/-- `XNonce::from_slice`, which panics on any other length. -/
def nonceFromSlice (bytes : Bytes) : Except Failure (FixedBytes 24) :=
  if length : bytes.length = 24 then .ok ⟨bytes, length⟩
  else .error (.panic "nonce length")

namespace Protector

variable (libs : StoreLibs)

/-- `Protector::seal` -/
def sealBytes (payload : Bytes) : Protector → FileProgram Bytes
  | .integrity key => ofResult do
      let tag ← mapErr "hmac key: " (libs.hmacSha256 key payload)
      mapErr "encode envelope: " (libs.integrityJson.toVec {
        v := envelopeV
        payloadB64 := libs.base64Encode payload
        macB64 := libs.base64Encode tag })
  | .encrypted key => do
      let nonce ← getrandom 24
      ofResult do
        let ct ←
          match libs.encrypt key nonce payload with
          | some ct => .ok ct
          | none => fail "encrypt failed"
        mapErr "encode aead envelope: " (libs.aeadJson.toVec {
          v := aeadV
          nonceB64 := libs.base64Encode nonce.bytes
          ctB64 := libs.base64Encode ct })

/-- `Protector::open` -/
def openBytes (onDisk : Bytes) : Protector → Except Failure Bytes
  | .integrity key => do
      let env ← mapErr "decode envelope: " (libs.integrityJson.fromSlice onDisk)
      ensure (env.v = envelopeV)
        ("unsupported integrity envelope version " ++ toString env.v)
      let payload ← mapErr "payload base64: " (libs.base64Decode env.payloadB64)
      let tag ← mapErr "mac base64: " (libs.base64Decode env.macB64)
      let mac ← mapErr "hmac key: " (libs.hmacSha256 key payload)
      ensure (mac = tag) "integrity check failed (store tampered?)"
      return payload
  | .encrypted key => do
      let env ← mapErr "decode aead envelope: " (libs.aeadJson.fromSlice onDisk)
      ensure (env.v = aeadV) ("unsupported aead envelope version " ++ toString env.v)
      let nonceBytes ← mapErr "nonce base64: " (libs.base64Decode env.nonceB64)
      let ct ← mapErr "ciphertext base64: " (libs.base64Decode env.ctB64)
      let nonce ← nonceFromSlice nonceBytes
      match libs.decrypt key nonce ct with
      | some payload => return payload
      | none => fail "decrypt failed (wrong passphrase or store tampered?)"

variable {libs}

/-- What an encrypted store writes: an envelope of a nonce and of the payload encrypted
under it. -/
theorem sealBytes_encrypted (lawful : libs.Lawful) (key : Bytes32) (payload : Bytes) :
    (sealBytes libs payload (.encrypted key)).Concludes fun outcome =>
      ∀ sealed, outcome = .ok sealed → ∃ nonce ct, libs.encrypt key nonce payload = some ct ∧
        libs.aeadJson.fromSlice sealed =
          .ok ⟨aeadV, libs.base64Encode nonce.bytes, libs.base64Encode ct⟩ := by
  rintro (failure | nonce) sealed isSealed
  · cases isSealed
  · obtain ⟨ct, encrypted, -⟩ := lawful.aead key nonce payload
    obtain ⟨bytes, encoded, decoded⟩ := lawful.aeadJson {
      v := aeadV
      nonceB64 := libs.base64Encode nonce.bytes
      ctB64 := libs.base64Encode ct }
    obtain rfl : bytes = sealed := by simpa [encrypted, encoded] using isSealed
    exact ⟨nonce, ct, encrypted, decoded⟩

/-- Such an envelope opens under a key as its ciphertext decrypts. -/
theorem openBytes_encrypted (lawful : libs.Lawful) (key : Bytes32) {nonce : FixedBytes 24}
    {ct sealed : Bytes}
    (decoded : libs.aeadJson.fromSlice sealed =
      .ok ⟨aeadV, libs.base64Encode nonce.bytes, libs.base64Encode ct⟩) :
    (Protector.encrypted key).openBytes libs sealed =
      match libs.decrypt key nonce ct with
      | some payload => .ok payload
      | none => fail "decrypt failed (wrong passphrase or store tampered?)" := by
  have sameNonce : nonceFromSlice nonce.bytes = .ok nonce := by
    simp [nonceFromSlice, nonce.length_eq]
  simp [openBytes, decoded, lawful.base64, sameNonce]

/-- Whatever nonce is drawn, sealing is undone by opening. -/
theorem sealBytes_concludes (lawful : libs.Lawful) (protector : Protector)
    (payload : Bytes) :
    (protector.sealBytes libs payload).Concludes fun outcome =>
      ∀ sealed, outcome = .ok sealed → protector.openBytes libs sealed = .ok payload := by
  cases protector with
  | integrity key =>
      intro sealed isSealed
      obtain ⟨tag, hmac⟩ := lawful.hmac key payload
      obtain ⟨bytes, encoded, decoded⟩ := lawful.integrityJson {
        v := envelopeV
        payloadB64 := libs.base64Encode payload
        macB64 := libs.base64Encode tag }
      obtain rfl : bytes = sealed := by simpa [hmac, encoded] using isSealed
      simp [openBytes, decoded, lawful.base64, hmac]
  | encrypted key =>
      refine (sealBytes_encrypted lawful key payload).mono fun _ _ envelope sealed isSealed => ?_
      obtain ⟨nonce, ct, encrypted, decoded⟩ := envelope sealed isSealed
      obtain ⟨sameCt, isCt, decrypted⟩ := lawful.aead key nonce payload
      obtain rfl : sameCt = ct := Option.some.inj (isCt.symm.trans encrypted)
      rw [openBytes_encrypted lawful key decoded, decrypted]

/-- Sealing draws a nonce at most. -/
theorem sealBytes_calls {allowed : FileCall → Prop} (drawsNonce : allowed (.getrandom 24))
    (protector : Protector) (payload : Bytes) :
    (protector.sealBytes libs payload).CallsWithin allowed := by
  cases protector with
  | integrity key => trivial
  | encrypted key => exact .bind (.perform drawsNonce) fun _ => trivial

/-- Sealing succeeds, leaves the files alone, and is undone by opening. -/
theorem run_sealBytes (lawful : libs.Lawful) (protector : Protector) (payload : Bytes)
    (disk : Disk) :
    ∃ sealed after,
      (protector.sealBytes libs payload).run diskHandler disk = (.ok sealed, after) ∧
      protector.openBytes libs sealed = .ok payload ∧ after.files = disk.files := by
  have opening := Program.Concludes.run_outcome diskHandler
    (sealBytes_concludes lawful protector payload) disk
  cases protector with
  | integrity key =>
      obtain ⟨tag, hmac⟩ := lawful.hmac key payload
      obtain ⟨sealed, encoded, -⟩ := lawful.integrityJson {
        v := envelopeV
        payloadB64 := libs.base64Encode payload
        macB64 := libs.base64Encode tag }
      have ran : (sealBytes libs payload (.integrity key)).run diskHandler disk =
          (.ok sealed, disk) := by
        simp [sealBytes, hmac, encoded]
      rw [ran] at opening
      exact ⟨sealed, disk, ran, opening sealed rfl, rfl⟩
  | encrypted key =>
      obtain ⟨ct, encrypted, -⟩ := lawful.aead key (disk.drawn 24) payload
      obtain ⟨sealed, encoded, -⟩ := lawful.aeadJson {
        v := aeadV
        nonceB64 := libs.base64Encode (disk.drawn 24).bytes
        ctB64 := libs.base64Encode ct }
      have ran : (sealBytes libs payload (.encrypted key)).run diskHandler disk =
          (.ok sealed, disk.afterDraw 24) := by
        simp only [sealBytes]
        rw [Program.run_bind_ok diskHandler (run_getrandom disk 24)]
        simp [encrypted, encoded]
      rw [ran] at opening
      exact ⟨sealed, disk.afterDraw 24, ran, opening sealed rfl, rfl⟩

end Protector

variable (libs : StoreLibs)

/-- `derive_key` -/
def deriveKey (passphrase : String) (salt : Bytes) : Except Failure Bytes32 :=
  mapErr "argon2: " (libs.hashPasswordInto passphrase salt)

def generateIntegrityKey : FileProgram Bytes := do
  let key ← getrandom 32
  return key.bytes

end EntangledClient
