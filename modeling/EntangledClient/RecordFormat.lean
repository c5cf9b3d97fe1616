import EntangledClient.StoreFailClosed
import Mathlib.Data.List.Forall2

/-!
# What the record files say

The format of the files apart from the code that reads them: which identity each
shape of a record stands for, in the older and in the current version, and which
entries a history has.  A file is read as exactly what it says.
-/

namespace EntangledClient

open ExceptRules

/-- What an identity record says.  The older version only tells a verified key from
another, and every key that it retains was pinned. -/
inductive IdentityDto.Denotes : IdentityDto → RetainedSite → Prop
  | legacyPinned (pubkey : PublisherPubkey) (replaced : List PublisherPubkey) :
      Denotes ⟨identityV1, pubkey, none, some false, replaced⟩ ⟨⟨pubkey, .pinned⟩, replaced⟩
  | legacyVerified (pubkey : PublisherPubkey) (replaced : List PublisherPubkey) :
      Denotes ⟨identityV1, pubkey, none, some true, replaced⟩
        ⟨⟨pubkey, .externallyVerified⟩, replaced⟩
  | observed (pubkey : PublisherPubkey) (replaced : List PublisherPubkey) :
      Denotes ⟨identityV, pubkey, some "observed", none, replaced⟩
        ⟨⟨pubkey, .observed⟩, replaced⟩
  | pinned (pubkey : PublisherPubkey) (replaced : List PublisherPubkey) :
      Denotes ⟨identityV, pubkey, some "pinned", none, replaced⟩ ⟨⟨pubkey, .pinned⟩, replaced⟩
  | verified (pubkey : PublisherPubkey) (replaced : List PublisherPubkey) :
      Denotes ⟨identityV, pubkey, some "verified", none, replaced⟩
        ⟨⟨pubkey, .externallyVerified⟩, replaced⟩

/-- What an entry of a history says: its hash is written as the text of 32 bytes. -/
structure ManifestRecordDto.Denotes (dto : ManifestRecordDto) (record : RetainedManifestRecord) :
    Prop where
  issuedAt : dto.issuedAt = record.issuedAt
  runtimePubkey : dto.runtimePubkey = record.runtimePubkey
  hash : LowerHex.decode dto.payloadHashHex = some record.manifestPayloadHash.bytes

section Files

variable (libs : StoreLibs) (root : StoreRoot)

end Files

/-! ### The code reads what the files say -/

theorem IdentityDto.Denotes.version {dto : IdentityDto} {site : RetainedSite}
    (denotes : dto.Denotes site) : dto.v = identityV ∨ dto.v = identityV1 := by
  cases denotes with
  | legacyPinned | legacyVerified => exact .inr rfl
  | observed | pinned | verified => exact .inl rfl

theorem IdentityDto.Denotes.fields {dto : IdentityDto} {site : RetainedSite}
    (denotes : dto.Denotes site) :
    dto.pubkey = site.identity.pubkey ∧ dto.replacedPubkeys = site.replaced := by
  cases denotes <;> exact ⟨rfl, rfl⟩

section Reading

variable {libs : StoreLibs} {root : StoreRoot}

end Reading

end EntangledClient
