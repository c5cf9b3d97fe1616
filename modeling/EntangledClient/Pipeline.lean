import EntangledClient.PublisherHistory
import EntangledClient.ExceptRules

/-!
# The validation-pipeline driver

The manifest stages of the core are a chain of type states, each carrying the
manifest on; the driver runs the chain, then the history checks, and reports the
diagnostic that stopped it.
-/

namespace EntangledClient

open ExceptRules

variable {T : CoreTypes}

/-- A source of the current time. -/
structure Clock where
  now : EntangledTimestamp

def FixedClock (instant : EntangledTimestamp) : Clock :=
  ⟨instant⟩

inductive Outcome (T : CoreTypes) (α : Type) where
  | accept (value : α)
  | reject (diagnostic : T.Diagnostic)

namespace Outcome

variable {α : Type}

def isAccepted : Outcome T α → Bool
  | .accept _ => true
  | .reject _ => false

def diagnostic : Outcome T α → Option T.Diagnostic
  | .reject diagnostic => some diagnostic
  | .accept _ => none

end Outcome

/-! ### The type states of the manifest chain -/

structure SigVerified (T : CoreTypes) where
  manifest : T.Manifest

structure CanaryChecked (T : CoreTypes) where
  manifest : T.Manifest
  canaryState : CanaryState

structure OriginBound (T : CoreTypes) where
  manifest : T.Manifest
  canaryState : CanaryState

structure ContentIndexed (T : CoreTypes) where
  manifest : T.Manifest
  canaryState : CanaryState
  contentIndex : Option T.ContentIndex

variable (core : Core T)

def SigVerified.verifyCanary (verified : SigVerified T) (now : EntangledTimestamp) :
    Except T.Diagnostic (CanaryChecked T) := do
  let canaryState ← core.verifyCanary verified.manifest now
  return { manifest := verified.manifest, canaryState }

def CanaryChecked.verifyOrigin (checked : CanaryChecked T) (fetchedAddress : OnionAddress)
    (now : EntangledTimestamp) : Except T.Diagnostic (OriginBound T) := do
  core.verifyOrigin checked.manifest fetchedAddress now
  return { manifest := checked.manifest, canaryState := checked.canaryState }

def OriginBound.verifyContentIndex (bound : OriginBound T)
    (contentIndexBytes : Option Bytes) : Except T.Diagnostic (ContentIndexed T) := do
  let contentIndex ← core.verifyContentIndex bound.manifest contentIndexBytes
  return { manifest := bound.manifest, canaryState := bound.canaryState, contentIndex }

/-- A manifest that has passed the manifest stages. -/
structure VerifiedManifest (T : CoreTypes) where
  manifest : T.Manifest
  canaryState : CanaryState
  contentIndex : Option T.ContentIndex

def VerifiedManifest.runtimePubkey (verified : VerifiedManifest T) : RuntimePubkey :=
  core.runtimePubkey verified.manifest

/-- Drive a manifest through the pipeline. -/
def verifyManifest (manifestBytes : Bytes) (fetchedAddress : OnionAddress)
    (contentIndexBytes : Option Bytes) (clock : Clock) (history : PublisherHistory) :
    Outcome T (VerifiedManifest T) :=
  let now := clock.now
  let result : Except T.Diagnostic (ContentIndexed T) := do
    let sigVerified ← SigVerified.mk <$> core.parseAndVerifyManifest manifestBytes now
    let canaryChecked ← sigVerified.verifyCanary core now
    let originBound ← canaryChecked.verifyOrigin core fetchedAddress now
    originBound.verifyContentIndex core contentIndexBytes
  match result with
  | .error diagnostic => .reject diagnostic
  | .ok verified =>
      match core.checkAgainstHistory verified.manifest history with
      | .error diagnostic => .reject diagnostic
      | .ok () =>
          .accept {
            manifest := verified.manifest
            canaryState := verified.canaryState
            contentIndex := verified.contentIndex }

/-- Drive a content document under a verified manifest's runtime key. -/
def verifyContent (contentBytes : Bytes) (manifest : VerifiedManifest T) :
    Outcome T T.ContentDocument :=
  match core.parseAndVerifyContent contentBytes (manifest.runtimePubkey core) with
  | .ok doc => .accept doc
  | .error diagnostic => .reject diagnostic

variable {core}

/-- The driver as one sequence of checks on the parsed manifest. -/
theorem verifyManifest_eq (manifestBytes : Bytes) (fetchedAddress : OnionAddress)
    (contentIndexBytes : Option Bytes) (clock : Clock) (history : PublisherHistory) :
    verifyManifest core manifestBytes fetchedAddress contentIndexBytes clock history =
      match (do
        let manifest ← core.parseAndVerifyManifest manifestBytes clock.now
        let canaryState ← core.verifyCanary manifest clock.now
        core.verifyOrigin manifest fetchedAddress clock.now
        let contentIndex ← core.verifyContentIndex manifest contentIndexBytes
        core.checkAgainstHistory manifest history
        return { manifest, canaryState, contentIndex } :
          Except T.Diagnostic (VerifiedManifest T)) with
      | .ok verified => .accept verified
      | .error diagnostic => .reject diagnostic := by
  simp only [verifyManifest]
  cases core.parseAndVerifyManifest manifestBytes clock.now with
  | error d => rfl
  | ok manifest =>
      simp only [map_ok, ok_bind, SigVerified.verifyCanary, CanaryChecked.verifyOrigin,
        OriginBound.verifyContentIndex]
      cases core.verifyCanary manifest clock.now with
      | error d => rfl
      | ok canaryState =>
          simp only [ok_bind, pure_eq_ok]
          cases core.verifyOrigin manifest fetchedAddress clock.now with
          | error d => rfl
          | ok passed =>
              simp only [ok_bind]
              cases core.verifyContentIndex manifest contentIndexBytes with
              | error d => rfl
              | ok contentIndex =>
                  simp only [ok_bind]
                  cases core.checkAgainstHistory manifest history <;> rfl

/-- What an accepted manifest has passed. -/
theorem verifyManifest_accept {manifestBytes : Bytes} {fetchedAddress : OnionAddress}
    {contentIndexBytes : Option Bytes} {clock : Clock} {history : PublisherHistory}
    {verified : VerifiedManifest T}
    (accepted : verifyManifest core manifestBytes fetchedAddress contentIndexBytes clock history =
      .accept verified) :
    core.parseAndVerifyManifest manifestBytes clock.now = .ok verified.manifest ∧
      core.verifyCanary verified.manifest clock.now = .ok verified.canaryState ∧
      core.verifyOrigin verified.manifest fetchedAddress clock.now = .ok () ∧
      core.verifyContentIndex verified.manifest contentIndexBytes = .ok verified.contentIndex ∧
      core.checkAgainstHistory verified.manifest history = .ok () := by
  rw [verifyManifest_eq] at accepted
  split at accepted
  next passed all =>
    simp only [bind_eq_ok, pure_eq_ok, Except.ok.injEq] at all
    obtain ⟨manifest, parsed, state, canary, _, origin, index, indexed, _, history, rfl⟩ := all
    obtain rfl := Outcome.accept.inj accepted
    exact ⟨parsed, canary, origin, indexed, history⟩
  next => cases accepted

end EntangledClient
