import EntangledClient.PublisherHistory

/-!
# A small core

A core over four-byte manifests in which every check does what is documented of
it.  It shows that the assumptions made about `entangled-core` can be met
together, and it is what concrete sessions are run on.
-/

namespace EntangledClient

/-- The key whose bytes all are `seed`. -/
def seedBytes (seed : UInt8) : Bytes32 :=
  ⟨List.replicate 32 seed, List.length_replicate⟩

def seedKey (seed : UInt8) : PublisherPubkey :=
  ⟨seedBytes seed⟩

namespace SampleCore

inductive Publisher
  | alpha
  | beta
  deriving DecidableEq

structure Manifest where
  publisher : Publisher
  issuedAt : UInt8
  runtime : UInt8
  origin : UInt8
  deriving DecidableEq

inductive Diagnostic
  | malformed
  | canaryDowngrade
  | canaryConflict
  | canaryRuntimeReuse
  | originBinding
  deriving DecidableEq

abbrev types : CoreTypes where
  Manifest := Manifest
  ContentDocument := Bytes
  ContentIndex := Bytes
  Diagnostic := Diagnostic
  Scene := Bytes

def Publisher.seed : Publisher → UInt8
  | .alpha => 1
  | .beta => 2

def Publisher.name : Publisher → String
  | .alpha => "alpha"
  | .beta => "beta"

/-- The wire bytes of a manifest. -/
def Manifest.bytes (manifest : Manifest) : Bytes :=
  [manifest.publisher.seed, manifest.issuedAt, manifest.runtime, manifest.origin]

def parse : Bytes → Option Manifest
  | [1, issuedAt, runtime, origin] => some ⟨.alpha, issuedAt, runtime, origin⟩
  | [2, issuedAt, runtime, origin] => some ⟨.beta, issuedAt, runtime, origin⟩
  | _ => none

/-- The carrier address that a manifest with this origin binds to. -/
def siteOf (origin : UInt8) : OnionAddress :=
  if origin = 0 then ⟨"zero.onion"⟩ else ⟨"one.onion"⟩

def hash (manifest : Manifest) : PayloadHash :=
  ⟨manifest.bytes ++ List.replicate 28 0, by simp [Manifest.bytes]⟩

def rejectIf (condition : Prop) [Decidable condition] (diagnostic : Diagnostic) :
    Except Diagnostic Unit :=
  if condition then .error diagnostic else .ok ()

def core : Core types where
  publisherPubkey manifest := seedKey manifest.publisher.seed
  issuedAt manifest := some manifest.issuedAt.toNat
  runtimePubkey manifest := ⟨seedBytes manifest.runtime⟩
  canonicalPayloadHash := hash
  parseAndVerifyManifest bytes _ :=
    match parse bytes with
    | some manifest => .ok manifest
    | none => .error .malformed
  verifyCanary _ _ := .ok .fresh
  verifyOrigin manifest address _ :=
    rejectIf (siteOf manifest.origin ≠ address) .originBinding
  verifyContentIndex _ index := .ok index
  parseAndVerifyContent bytes _ := .ok bytes
  checkAntiDowngrade issuedAt newest :=
    rejectIf (∃ n ∈ newest, issuedAt < n) .canaryDowngrade
  checkCanaryConflict issuedAt _ payloadHash newest :=
    rejectIf (∃ n ∈ newest, issuedAt = n.issuedAt ∧ payloadHash ≠ n.manifestPayloadHash)
      .canaryConflict
  checkRuntimePubkeyRotation runtime _ newest extended :=
    rejectIf ((∃ n ∈ newest, runtime = n.runtimePubkey) ∨
        ∃ n ∈ extended, runtime = n.runtimePubkey)
      .canaryRuntimeReuse
  derivePip _ := "twenty-four words"
  debugDiagnostic
    | .malformed => "Malformed"
    | .canaryDowngrade => "CanaryDowngrade"
    | .canaryConflict => "CanaryConflict"
    | .canaryRuntimeReuse => "CanaryRuntimeReuse"
    | .originBinding => "OriginBinding"
  sceneFromContent bytes := bytes
  parseJson bytes :=
    match parse bytes with
    | some manifest =>
        .ok (.object [("publisher_pubkey", .string manifest.publisher.name)])
    | none => .error "expected value"
  publisherPubkeyTryFrom text :=
    if text = "alpha" then .ok (seedKey 1)
    else if text = "beta" then .ok (seedKey 2)
    else .error "invalid key"
  onionAddressTryFrom text := .ok ⟨text⟩

theorem rejectIf_rejects {condition : Prop} [Decidable condition] {diagnostic : Diagnostic} :
    (∃ d, rejectIf condition diagnostic = .error d) ↔ condition := by
  by_cases holds : condition <;> simp [rejectIf, holds]

theorem checksExact : core.ChecksExact where
  antiDowngrade _ _ := rejectIf_rejects
  conflict _ _ _ _ := rejectIf_rejects
  rotation _ _ _ _ := rejectIf_rejects

theorem hashDeterminesCanary : core.HashDeterminesCanary := by
  intro first second sameHash
  have sameBytes : first.bytes ++ List.replicate 28 0 = second.bytes ++ List.replicate 28 0 :=
    congrArg FixedBytes.bytes sameHash
  simp only [Manifest.bytes, List.append_cancel_right_eq, List.cons.injEq] at sameBytes
  obtain ⟨_, sameTime, sameKey, _⟩ := sameBytes
  exact ⟨by simp [core, sameTime], by simp [core, sameKey]⟩

theorem canaryValidatesIssuedAt : core.CanaryValidatesIssuedAt := by
  intro manifest now state passed
  rfl

end SampleCore

end EntangledClient
