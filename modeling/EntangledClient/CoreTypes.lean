import Mathlib.Order.Defs.LinearOrder
import Mathlib.Data.Int.Order.Basic

/-!
# What the client uses of `entangled-core`

The verifier library is a dependency, not part of this repository.  Its plain
data types are written out where the client looks inside them; its documents,
its diagnostics and its verification functions are parameters, collected in
`CoreTypes` and `Core`.  The documented behaviour of the three history checks
and of the manifest accessors is stated as properties of a `Core`.
-/

namespace EntangledClient

abbrev Bytes := List UInt8

/-- An array of `length` bytes. -/
structure FixedBytes (length : Nat) where
  bytes : Bytes
  length_eq : bytes.length = length
  deriving DecidableEq

abbrev Bytes32 := FixedBytes 32

/-- `K_publisher.pub`. -/
structure PublisherPubkey where
  key : Bytes32
  deriving DecidableEq

/-- `canary.runtime_pubkey`. -/
structure RuntimePubkey where
  key : Bytes32
  deriving DecidableEq

/-- The canonical payload hash of a manifest. -/
abbrev PayloadHash := Bytes32

/-- A strict UTC timestamp, as seconds since the epoch. -/
abbrev EntangledTimestamp := Int

/-- A carrier address; its text is the name of the site's identity file. -/
structure OnionAddress where
  text : String
  deriving DecidableEq

/-- What is retained of an accepted manifest. -/
structure RetainedManifestRecord where
  issuedAt : EntangledTimestamp
  runtimePubkey : RuntimePubkey
  manifestPayloadHash : PayloadHash
  deriving DecidableEq

/-- The five canary states. -/
inductive CanaryState
  | fresh
  | nearExpiration
  | expired
  | invalid
  | unavailable
  deriving DecidableEq

/-- A parsed JSON value, as far as the client inspects one. -/
inductive JsonValue
  | string (text : String)
  | object (fields : List (String × JsonValue))
  | other

/-- The member of an object under a name. -/
def JsonValue.get (value : JsonValue) (name : String) : Option JsonValue :=
  match value with
  | .object fields => fields.lookup name
  | .string _ | .other => none

/-- The text of a string value. -/
def JsonValue.asStr : JsonValue → Option String
  | .string text => some text
  | .object _ | .other => none

/-- The documents and diagnostics that the client passes along. -/
structure CoreTypes where
  Manifest : Type
  ContentDocument : Type
  ContentIndex : Type
  Diagnostic : Type
  Scene : Type

/-- The functions of `entangled-core`, of the engine that lowers content to a
scene, and of the JSON parser that the client calls. -/
structure Core (T : CoreTypes) where
  publisherPubkey : T.Manifest → PublisherPubkey
  /-- `canary.issued_at.validate().ok()` -/
  issuedAt : T.Manifest → Option EntangledTimestamp
  runtimePubkey : T.Manifest → RuntimePubkey
  canonicalPayloadHash : T.Manifest → PayloadHash
  parseAndVerifyManifest : Bytes → EntangledTimestamp → Except T.Diagnostic T.Manifest
  verifyCanary : T.Manifest → EntangledTimestamp → Except T.Diagnostic CanaryState
  verifyOrigin : T.Manifest → OnionAddress → EntangledTimestamp → Except T.Diagnostic Unit
  verifyContentIndex :
    T.Manifest → Option Bytes → Except T.Diagnostic (Option T.ContentIndex)
  parseAndVerifyContent : Bytes → RuntimePubkey → Except T.Diagnostic T.ContentDocument
  checkAntiDowngrade :
    EntangledTimestamp → Option EntangledTimestamp → Except T.Diagnostic Unit
  checkCanaryConflict : EntangledTimestamp → RuntimePubkey → PayloadHash →
    Option RetainedManifestRecord → Except T.Diagnostic Unit
  checkRuntimePubkeyRotation : RuntimePubkey → EntangledTimestamp →
    Option RetainedManifestRecord → List RetainedManifestRecord → Except T.Diagnostic Unit
  derivePip : PublisherPubkey → String
  debugDiagnostic : T.Diagnostic → String
  sceneFromContent : T.ContentDocument → T.Scene
  parseJson : Bytes → Except String JsonValue
  publisherPubkeyTryFrom : String → Except String PublisherPubkey
  onionAddressTryFrom : String → Except String OnionAddress

namespace Core

variable {T : CoreTypes} (core : Core T)

/-- What each history check must reject, as documented: a regressing
`issued_at`, a twin of the newest manifest, and a later manifest under the
newest runtime key. -/
structure ChecksReject : Prop where
  antiDowngrade : ∀ issuedAt newest,
    (∃ d, core.checkAntiDowngrade issuedAt newest = .error d) ↔
      ∃ retained ∈ newest, issuedAt < retained
  conflict : ∀ issuedAt runtime hash (newest : RetainedManifestRecord),
    issuedAt = newest.issuedAt → hash ≠ newest.manifestPayloadHash →
      ∃ d, core.checkCanaryConflict issuedAt runtime hash (some newest) = .error d
  rotation : ∀ runtime issuedAt (newest : RetainedManifestRecord) extended,
    runtime = newest.runtimePubkey → newest.issuedAt < issuedAt →
      ∃ d, core.checkRuntimePubkeyRotation runtime issuedAt (some newest) extended = .error d

/-- The same, with nothing else rejected and the extended records included. -/
structure ChecksExact : Prop where
  antiDowngrade : ∀ issuedAt newest,
    (∃ d, core.checkAntiDowngrade issuedAt newest = .error d) ↔
      ∃ retained ∈ newest, issuedAt < retained
  conflict : ∀ issuedAt runtime hash newest,
    (∃ d, core.checkCanaryConflict issuedAt runtime hash newest = .error d) ↔
      ∃ retained ∈ newest,
        issuedAt = retained.issuedAt ∧ hash ≠ retained.manifestPayloadHash
  rotation : ∀ runtime issuedAt newest extended,
    (∃ d, core.checkRuntimePubkeyRotation runtime issuedAt newest extended = .error d) ↔
      (∃ retained ∈ newest, runtime = retained.runtimePubkey) ∨
        ∃ retained ∈ extended, runtime = retained.runtimePubkey

theorem ChecksExact.rejects {core : Core T} (exact : core.ChecksExact) :
    core.ChecksReject where
  antiDowngrade := exact.antiDowngrade
  conflict issuedAt runtime hash newest sameTime otherHash :=
    (exact.conflict issuedAt runtime hash (some newest)).mpr
      ⟨newest, rfl, sameTime, otherHash⟩
  rotation runtime issuedAt newest extended sameKey _ :=
    (exact.rotation runtime issuedAt (some newest) extended).mpr
      (.inl ⟨newest, rfl, sameKey⟩)

/-- The canonical payload covers the canary, so its hash determines the issue
time and the runtime key. -/
def HashDeterminesCanary : Prop :=
  ∀ first second : T.Manifest,
    core.canonicalPayloadHash first = core.canonicalPayloadHash second →
      core.issuedAt first = core.issuedAt second ∧
        core.runtimePubkey first = core.runtimePubkey second

/-- A manifest that passed Stage 8 has a valid `issued_at`. -/
def CanaryValidatesIssuedAt : Prop :=
  ∀ manifest now state, core.verifyCanary manifest now = .ok state →
    (core.issuedAt manifest).isSome

end Core

end EntangledClient
