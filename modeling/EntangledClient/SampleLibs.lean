import EntangledClient.FileStores
import EntangledClient.PrefixCode
import EntangledClient.SampleCore

/-!
# Sample crates

Serializers, text encodings and primitives that do what the store relies on.
The tag of a payload contains the key, so only a holder of the key can make one.
-/

namespace EntangledClient

namespace SampleLibs

open PrefixCode

def fixedBytes (length : Nat) : PrefixCode (FixedBytes length) :=
  (list byte).via (·.bytes)
    (fun bytes => if sized : bytes.length = length then some ⟨bytes, sized⟩ else none)
    (by
      rintro ⟨bytes, sized⟩
      simp [sized])

def publisherPubkey : PrefixCode PublisherPubkey :=
  (fixedBytes 32).via (·.key) (fun key => some ⟨key⟩) (fun _ => rfl)

def runtimePubkey : PrefixCode RuntimePubkey :=
  (fixedBytes 32).via (·.key) (fun key => some ⟨key⟩) (fun _ => rfl)

def identityDto : PrefixCode IdentityDto :=
  (pair uint32 (pair publisherPubkey (pair (option string)
    (pair (option bool) (list publisherPubkey))))).via
    (fun dto => (dto.v, dto.pubkey, dto.provenance, dto.externallyVerified,
      dto.replacedPubkeys))
    (fun (v, pubkey, provenance, flag, replaced) => some ⟨v, pubkey, provenance, flag, replaced⟩)
    (fun _ => rfl)

def manifestRecordDto : PrefixCode ManifestRecordDto :=
  (pair int (pair runtimePubkey string)).via
    (fun dto => (dto.issuedAt, dto.runtimePubkey, dto.payloadHashHex))
    (fun (issuedAt, key, hash) => some ⟨issuedAt, key, hash⟩)
    (fun _ => rfl)

def historyDto : PrefixCode HistoryDto :=
  (pair uint32 (list manifestRecordDto)).via (fun dto => (dto.v, dto.records))
    (fun (v, records) => some ⟨v, records⟩)
    (fun _ => rfl)

def integrityEnvelope : PrefixCode IntegrityEnvelope :=
  (pair uint32 (pair string string)).via (fun env => (env.v, env.payloadB64, env.macB64))
    (fun (v, payload, mac) => some ⟨v, payload, mac⟩)
    (fun _ => rfl)

def aeadEnvelope : PrefixCode AeadEnvelope :=
  (pair uint32 (pair string string)).via (fun env => (env.v, env.nonceB64, env.ctB64))
    (fun (v, nonce, ct) => some ⟨v, nonce, ct⟩)
    (fun _ => rfl)

def storeMeta : PrefixCode StoreMeta :=
  (pair uint32 (pair bool (option string))).via
    (fun stored => (stored.v, decide (stored.protection = .encrypted), stored.saltB64))
    (fun (v, encrypted, salt) =>
      some ⟨v, if encrypted then .encrypted else .integrity, salt⟩)
    (by
      rintro ⟨v, _ | _, salt⟩ <;> rfl)

/-- The codec of a whole file. -/
def json {α : Type} (code : PrefixCode α) : JsonCodec α where
  toVec value := .ok (code.put value)
  fromSlice bytes :=
    match code.get bytes with
    | some (value, []) => .ok value
    | _ => .error "expected value"

theorem json_fromSlice_put {α : Type} (code : PrefixCode α) (value : α) :
    (json code).fromSlice (code.put value) = .ok value := by
  have read : code.get (code.put value) = some (value, []) := by
    simpa using code.get_put value []
  simp [json, read]

theorem json_roundTrips {α : Type} (code : PrefixCode α) : (json code).RoundTrips :=
  fun value => ⟨code.put value, rfl, json_fromSlice_put code value⟩

def seed (key : Bytes32) (nonce : FixedBytes 24) : Bytes :=
  key.bytes ++ nonce.bytes

def libs : StoreLibs where
  identityJson := json identityDto
  historyJson := json historyDto
  integrityJson := json integrityEnvelope
  aeadJson := json aeadEnvelope
  metaJson := json storeMeta
  base64Encode := LowerHex.encode
  base64Decode text :=
    match LowerHex.decode text with
    | some bytes => .ok bytes
    | none => .error "invalid symbol"
  hexDecodeError _ := "invalid symbol"
  hmacSha256 key payload := .ok (key ++ payload)
  encrypt key nonce payload := some (seed key nonce ++ payload)
  decrypt key nonce ct :=
    if seed key nonce <+: ct then some (ct.drop (seed key nonce).length) else none
  hashPasswordInto passphrase salt :=
    if salt.length < 8 then .error "salt is too short"
    else .ok (seedBytes (UInt8.ofNat passphrase.length))

theorem lawful : libs.Lawful where
  identityJson := json_roundTrips _
  historyJson := json_roundTrips _
  integrityJson := json_roundTrips _
  aeadJson := json_roundTrips _
  metaJson := json_roundTrips _
  base64 bytes := by simp [libs]
  hmac key payload := ⟨_, rfl⟩
  aead key nonce payload := ⟨_, rfl, by simp [libs]⟩

/-- An integrity store, and a directory without files. -/
def root : StoreRoot where
  protector := .integrity [7]

def emptyDisk : Disk where
  files _ := none
  entropy _ := 0

theorem emptyDisk_valid : root.ValidFiles libs emptyDisk where
  identities _ := ⟨none, rfl⟩
  histories _ := ⟨.new, rfl⟩

theorem view_emptyDisk : root.view libs emptyDisk = .empty :=
  rfl

/-- The file that the store makes of a payload. -/
def envelope (payload : Bytes) : Bytes :=
  integrityEnvelope.put {
    v := envelopeV
    payloadB64 := LowerHex.encode payload
    macB64 := LowerHex.encode ([7] ++ payload) }

theorem openBytes_envelope (payload : Bytes) :
    root.protector.openBytes libs (envelope payload) = .ok payload := by
  have decoded := json_fromSlice_put integrityEnvelope {
    v := envelopeV
    payloadB64 := LowerHex.encode payload
    macB64 := LowerHex.encode ([7] ++ payload) }
  simp only [Protector.openBytes, root, libs, envelope, decoded]
  simp

/-- A site whose file is a pin in the version 1 shape. -/
def legacySite : OnionAddress :=
  ⟨"zero.onion"⟩

def legacyDto : IdentityDto where
  v := identityV1
  pubkey := seedKey 1
  provenance := none
  externallyVerified := some false
  replacedPubkeys := [seedKey 9]

def legacyDisk : Disk :=
  emptyDisk.write (.identity legacySite) (envelope (identityDto.put legacyDto))

theorem siteFile_legacy :
    root.siteFile libs (some (envelope (identityDto.put legacyDto))) =
      .ok (some ⟨⟨seedKey 1, .pinned⟩, [seedKey 9]⟩) := by
  have decoded : libs.identityJson.fromSlice (identityDto.put legacyDto) = .ok legacyDto :=
    json_fromSlice_put identityDto legacyDto
  refine StoreRoot.siteFile_eq_ok.mpr (.inr ⟨legacyDto, _, ?_, rfl, rfl⟩)
  have version : legacyDto.checkVersion = .ok () := rfl
  have opened := openBytes_envelope (identityDto.put legacyDto)
  simp only [StoreRoot.identityFile, StoreRoot.openFile, opened]
  simp only [ExceptRules.ok_bind, ExceptRules.pure_eq_ok, decoded, mapErr_ok, version,
    asOutcome_ok]

theorem legacyDisk_valid : root.ValidFiles libs legacyDisk :=
  (emptyDisk_valid.update_identity rfl siteFile_legacy).1

theorem view_legacyDisk :
    root.view libs legacyDisk =
      { StoreView.empty with
        sites := Function.update StoreView.empty.sites legacySite
          (some ⟨⟨seedKey 1, .pinned⟩, [seedKey 9]⟩) } := by
  have files : legacyDisk.files = Function.update emptyDisk.files (.identity legacySite)
      (some (envelope (identityDto.put legacyDto))) := rfl
  rw [(emptyDisk_valid.update_identity files siteFile_legacy).2, view_emptyDisk]

end SampleLibs

end EntangledClient
