import EntangledClient.GuiLoad
import EntangledClient.SampleCore

/-!
# The identity pre-check at load

The documentation of the trust diagnostics places the comparison with the
retained key before the signature check.  The load path resolves trust only once
the pipeline has accepted the manifest, so any later stage that fails hides the
mismatch.
-/

namespace EntangledClient

open ExceptRules

section Precheck

variable {T : CoreTypes}

/-- How `parse_and_verify_manifest` is made up: Stages 2 to 5, which yield the
manifest, and the signature check of Stage 6. -/
structure Staging (core : Core T) where
  parseAndValidate : Bytes → EntangledTimestamp → Except T.Diagnostic T.Manifest
  verifySignature : T.Manifest → Except T.Diagnostic Unit
  parseAndVerifyManifest_eq : ∀ bytes now,
    core.parseAndVerifyManifest bytes now = do
      let manifest ← parseAndValidate bytes now
      verifySignature manifest
      return manifest

/-- The window shows a changed identity. -/
def ReportsMismatch (outcome : Except LoadError (Loaded T)) : Prop :=
  ∃ loaded, outcome = .ok loaded ∧ loaded.chrome.trustState = .changedMismatch

variable {core : Core T}

/-- Every stage of a load that comes after Stage 5 lets the manifest pass. -/
structure LaterStagesPass (staging : Staging core) (manifest : T.Manifest)
    (contentBytes : Option Bytes) (fetchedAddress : OnionAddress) (now : EntangledTimestamp)
    (history : PublisherHistory) : Prop where
  signature : staging.verifySignature manifest = .ok ()
  canary : ∃ state, core.verifyCanary manifest now = .ok state
  origin : core.verifyOrigin manifest fetchedAddress now = .ok ()
  contentIndex : ∃ index, core.verifyContentIndex manifest none = .ok index
  history : core.checkAgainstHistory manifest history = .ok ()
  content : ∀ bytes ∈ contentBytes,
    ∃ doc, core.parseAndVerifyContent bytes (core.runtimePubkey manifest) = .ok doc

/-- A different retained key resolves to a mismatch, with its diagnostic. -/
theorem resolve_of_different {presented : PublisherPubkey} {retained : RetainedIdentity}
    (different : retained.pubkey ≠ presented) :
    (resolve presented (some retained) .none).state = .changedMismatch ∧
      trustDiagnostic (resolve presented (some retained) .none) .none =
        some .eTrustMismatch := by
  rw [resolve_mismatch different]
  exact ⟨rfl, rfl⟩

theorem loadScene_eq_ok {contentBytes : Option Bytes} {verified : VerifiedManifest T} :
    (∃ scene, loadScene core contentBytes verified = .ok scene) ↔
      ∀ bytes ∈ contentBytes, ∃ doc,
        core.parseAndVerifyContent bytes (core.runtimePubkey verified.manifest) = .ok doc := by
  cases contentBytes with
  | none => simp [loadScene]
  | some bytes =>
      cases parsed : core.parseAndVerifyContent bytes (core.runtimePubkey verified.manifest) <;>
        simp [loadScene, verifyContent, VerifiedManifest.runtimePubkey, parsed]

/-- The stages of a load, one after the other. -/
theorem load_isOk_iff {manifestBytes : Bytes} {contentBytes : Option Bytes}
    {fetchedAddress : OnionAddress} {compactAddress : String} {clock : Clock}
    {retained : Option RetainedIdentity} {history : PublisherHistory} :
    (∃ loaded, load core manifestBytes contentBytes fetchedAddress compactAddress clock
        retained history = .ok loaded) ↔
      ∃ verified, verifyManifest core manifestBytes fetchedAddress none clock history =
          .accept verified ∧
        ∃ scene, loadScene core contentBytes verified = .ok scene := by
  unfold load
  cases verifyManifest core manifestBytes fetchedAddress none clock history with
  | reject d => simp
  | accept verified =>
      cases scene : loadScene core contentBytes verified <;> simp [scene]

theorem verifyManifest_isAccept_iff (staging : Staging core) {manifestBytes : Bytes}
    {clock : Clock} {manifest : T.Manifest}
    (validated : staging.parseAndValidate manifestBytes clock.now = .ok manifest)
    (fetchedAddress : OnionAddress) (history : PublisherHistory) (verified : VerifiedManifest T) :
    verifyManifest core manifestBytes fetchedAddress none clock history = .accept verified ↔
      verified.manifest = manifest ∧ staging.verifySignature manifest = .ok () ∧
        core.verifyCanary manifest clock.now = .ok verified.canaryState ∧
        core.verifyOrigin manifest fetchedAddress clock.now = .ok () ∧
        core.verifyContentIndex manifest none = .ok verified.contentIndex ∧
        core.checkAgainstHistory manifest history = .ok () := by
  have parsed := staging.parseAndVerifyManifest_eq manifestBytes clock.now
  rw [validated, ok_bind] at parsed
  constructor
  · intro accepted
    obtain ⟨passed, canary, origin, index, checked⟩ := verifyManifest_accept accepted
    rw [parsed] at passed
    cases signature : staging.verifySignature manifest with
    | error d =>
        rw [signature] at passed
        cases passed
    | ok _ =>
        rw [signature] at passed
        cases passed
        exact ⟨rfl, rfl, canary, origin, index, checked⟩
  · rintro ⟨rfl, signature, canary, origin, index, checked⟩
    rw [verifyManifest_eq, parsed, signature]
    simp [canary, origin, index, checked]

/-- A load of a manifest with another key than the retained one reports the mismatch
if and only if every later stage passes as well. -/
theorem load_reportsMismatch_iff (staging : Staging core) {manifestBytes : Bytes}
    {clock : Clock} {manifest : T.Manifest}
    (validated : staging.parseAndValidate manifestBytes clock.now = .ok manifest)
    {retained : RetainedIdentity} (different : retained.pubkey ≠ core.publisherPubkey manifest)
    (contentBytes : Option Bytes) (fetchedAddress : OnionAddress) (compactAddress : String)
    (history : PublisherHistory) :
    ReportsMismatch (load core manifestBytes contentBytes fetchedAddress compactAddress clock
        (some retained) history) ↔
      LaterStagesPass staging manifest contentBytes fetchedAddress clock.now history := by
  have accepts := verifyManifest_isAccept_iff staging validated fetchedAddress history
  constructor
  · rintro ⟨loaded, isOk, _⟩
    obtain ⟨verified, accepted, scene⟩ := load_isOk_iff.mp ⟨loaded, isOk⟩
    obtain ⟨rfl, signature, canary, origin, index, checked⟩ := (accepts verified).mp accepted
    exact ⟨signature, ⟨_, canary⟩, origin, ⟨_, index⟩, checked, loadScene_eq_ok.mp scene⟩
  · rintro ⟨signature, ⟨state, canary⟩, origin, ⟨index, indexed⟩, checked, content⟩
    have accepted := (accepts ⟨manifest, state, index⟩).mpr
      ⟨rfl, signature, canary, origin, indexed, checked⟩
    obtain ⟨loaded, isOk⟩ := load_isOk_iff.mpr ⟨_, accepted, loadScene_eq_ok.mpr content⟩
    refine ⟨loaded, isOk, ?_⟩
    obtain ⟨verified, driven, publisher, _, _, _, shown, _⟩ := load_eq_ok isOk
    obtain rfl : _ = verified := Outcome.accept.inj (accepted.symm.trans driven)
    rw [shown, publisher]
    exact (resolve_of_different different).1

end Precheck

namespace SampleCore

/-- The sample core with a signature check. -/
def withSignatures (verifySignature : Manifest → Except Diagnostic Unit) : Core types :=
  { core with
    parseAndVerifyManifest := fun bytes now => do
      let manifest ← core.parseAndVerifyManifest bytes now
      verifySignature manifest
      return manifest }

def staging (verifySignature : Manifest → Except Diagnostic Unit) :
    Staging (withSignatures verifySignature) where
  parseAndValidate := core.parseAndVerifyManifest
  verifySignature
  parseAndVerifyManifest_eq _ _ := rfl

/-- A manifest of `beta`, where `alpha` is pinned. -/
def changedManifest : Manifest :=
  ⟨.beta, 10, 1, 0⟩

def pinnedAlpha : RetainedIdentity :=
  ⟨seedKey 1, .pinned⟩

theorem pinnedAlpha_ne : pinnedAlpha.pubkey ≠ core.publisherPubkey changedManifest := by
  decide

/-- A forged manifest under another key is an error, not a mismatch. -/
theorem forged_not_reported :
    (staging fun _ => .error .malformed).parseAndValidate changedManifest.bytes 0 =
        .ok changedManifest ∧
      pinnedAlpha.pubkey ≠ core.publisherPubkey changedManifest ∧
      ¬ ReportsMismatch (load (withSignatures fun _ => .error .malformed) changedManifest.bytes
        none ⟨"zero.onion"⟩ "zero" (FixedClock 0) (some pinnedAlpha) .new) := by
  refine ⟨rfl, pinnedAlpha_ne, ?_⟩
  rintro ⟨loaded, isOk, _⟩
  cases isOk

/-- A manifest that passes every stage under another key is reported. -/
theorem changed_reported :
    ReportsMismatch (load (withSignatures fun _ => .ok ()) changedManifest.bytes none
      ⟨"zero.onion"⟩ "zero" (FixedClock 0) (some pinnedAlpha) .new) := by
  have validated : (staging fun _ => .ok ()).parseAndValidate changedManifest.bytes
      (FixedClock 0).now = .ok changedManifest := rfl
  refine (load_reportsMismatch_iff (staging fun _ => .ok ()) validated pinnedAlpha_ne none
    ⟨"zero.onion"⟩ "zero" .new).mpr ?_
  exact ⟨rfl, ⟨.fresh, rfl⟩, rfl, ⟨none, rfl⟩, rfl, by simp⟩

end SampleCore

end EntangledClient
