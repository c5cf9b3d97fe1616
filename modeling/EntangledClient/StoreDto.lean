import EntangledClient.LowerHex
import EntangledClient.StoreView
import EntangledClient.ExceptRules

/-!
# The on-disk records

The serialized shapes of a retained identity and of a publisher history, and
their conversions.  Two versions of the identity record are readable; the second
is written.
-/

namespace EntangledClient

open ExceptRules

/-- On-disk identity record.  Version 2 carries `provenance`, version 1 carries
`externallyVerified`. -/
structure IdentityDto where
  v : UInt32
  pubkey : PublisherPubkey
  provenance : Option String
  externallyVerified : Option Bool
  replacedPubkeys : List PublisherPubkey
  deriving DecidableEq

def identityV : UInt32 := 2

def identityV1 : UInt32 := 1

def provenanceStr : RetainedProvenance → String
  | .observed => "observed"
  | .pinned => "pinned"
  | .externallyVerified => "verified"

namespace IdentityDto

def new (identity : RetainedIdentity) (replacedPubkeys : List PublisherPubkey) :
    IdentityDto where
  v := identityV
  pubkey := identity.pubkey
  provenance := some (provenanceStr identity.provenance)
  externallyVerified := none
  replacedPubkeys := replacedPubkeys

/-- The provenance that the version, the provenance text and the legacy flag
stand for. -/
def provenanceOf (dto : IdentityDto) : Option RetainedProvenance :=
  let shape := (dto.v, dto.provenance, dto.externallyVerified)
  if shape = (identityV, some "observed", none) then some .observed
  else if shape = (identityV, some "pinned", none) then some .pinned
  else if shape = (identityV, some "verified", none) then some .externallyVerified
  else if shape = (identityV1, none, some false) then some .pinned
  else if shape = (identityV1, none, some true) then some .externallyVerified
  else none

def toIdentity (dto : IdentityDto) : Except StoreError RetainedIdentity :=
  match dto.provenanceOf with
  | some provenance => .ok { pubkey := dto.pubkey, provenance }
  | none =>
      .error ⟨"identity record v" ++ toString dto.v ++
        " carries an invalid provenance shape"⟩

def checkVersion (dto : IdentityDto) : Except StoreError Unit :=
  if dto.v ≠ identityV ∧ dto.v ≠ identityV1 then
    .error ⟨"unsupported identity record version " ++ toString dto.v⟩
  else .ok ()

@[simp]
theorem toIdentity_new (identity : RetainedIdentity) (replaced : List PublisherPubkey) :
    (new identity replaced).toIdentity = .ok identity := by
  obtain ⟨pubkey, provenance⟩ := identity
  cases provenance <;> rfl

@[simp]
theorem checkVersion_new (identity : RetainedIdentity) (replaced : List PublisherPubkey) :
    (new identity replaced).checkVersion = .ok () :=
  rfl

/-- What a site retains under this record. -/
def toSite (dto : IdentityDto) : Except StoreError RetainedSite := do
  let identity ← dto.toIdentity
  return { identity, replaced := dto.replacedPubkeys }

theorem toSite_eq_ok {dto : IdentityDto} {site : RetainedSite} :
    dto.toSite = .ok site ↔
      dto.toIdentity = .ok site.identity ∧ dto.replacedPubkeys = site.replaced := by
  obtain ⟨identity, replaced⟩ := site
  simp [toSite, bind_eq_ok]

end IdentityDto

/-- On-disk manifest record: one history entry. -/
structure ManifestRecordDto where
  issuedAt : EntangledTimestamp
  runtimePubkey : RuntimePubkey
  payloadHashHex : String
  deriving DecidableEq

namespace ManifestRecordDto

def fromRecord (record : RetainedManifestRecord) : ManifestRecordDto where
  issuedAt := record.issuedAt
  runtimePubkey := record.runtimePubkey
  payloadHashHex := LowerHex.encode record.manifestPayloadHash.bytes

/-- `hexDecodeError` is the text of the decoding error. -/
def intoRecord (hexDecodeError : String → String) (dto : ManifestRecordDto) :
    Except StoreError RetainedManifestRecord :=
  match LowerHex.decode dto.payloadHashHex with
  | none => .error ⟨"payload_hash_hex not hex: " ++ hexDecodeError dto.payloadHashHex⟩
  | some bytes =>
      if length : bytes.length = 32 then
        .ok {
          issuedAt := dto.issuedAt
          runtimePubkey := dto.runtimePubkey
          manifestPayloadHash := ⟨bytes, length⟩ }
      else .error ⟨"payload_hash_hex is not 32 bytes"⟩

@[simp]
theorem intoRecord_fromRecord (hexDecodeError : String → String)
    (record : RetainedManifestRecord) :
    (fromRecord record).intoRecord hexDecodeError = .ok record := by
  have length := record.manifestPayloadHash.length_eq
  simp [intoRecord, fromRecord, length]

end ManifestRecordDto

/-- On-disk history file. -/
structure HistoryDto where
  v : UInt32
  records : List ManifestRecordDto
  deriving DecidableEq

def historyV : UInt32 := 1

namespace HistoryDto

def checkVersion (dto : HistoryDto) : Except StoreError Unit :=
  if dto.v ≠ historyV then .error ⟨"unsupported history version " ++ toString dto.v⟩
  else .ok ()

/-- The entries, converted in order. -/
def intoRecords (hexDecodeError : String → String) (dto : HistoryDto) :
    Except StoreError (List RetainedManifestRecord) :=
  dto.records.mapM (·.intoRecord hexDecodeError)

end HistoryDto

end EntangledClient
