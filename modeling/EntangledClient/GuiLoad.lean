import EntangledClient.Chrome
import EntangledClient.Pipeline

/-!
# The pure load path of the shell

A manifest that the pipeline accepts is resolved against what is retained, with
no decision yet; a decision taken later is resolved again against the snapshot
that the window holds.
-/

namespace EntangledClient

variable {T : CoreTypes} (core : Core T)

/-- What the window needs to draw a document and to drive the trust flow. -/
structure Loaded (T : CoreTypes) where
  chrome : ChromeView
  scene : Option T.Scene
  publisher : PublisherPubkey
  site : OnionAddress
  retained : Option RetainedIdentity
  requiredAction : RequiredAction
  initialIntent : PersistenceIntent
  record : Option RetainedManifestRecord
  canaryState : CanaryState
  compactAddress : String

/-- Resolve again with the user's decision; the intent is for the shell to apply. -/
def Loaded.applyDecision (loaded : Loaded T) (decision : UserDecision) :
    Loaded T × PersistenceIntent :=
  let resolution := resolve loaded.publisher loaded.retained decision
  ({ loaded with
      chrome := ChromeView.build core loaded.publisher resolution.state loaded.canaryState
        loaded.compactAddress .default
      requiredAction := resolution.action },
    resolution.intent)

structure LoadError where
  message : String
  deriving DecidableEq

/-- Content, when supplied, verified under the manifest's runtime key. -/
def loadScene (contentBytes : Option Bytes) (verified : VerifiedManifest T) :
    Except LoadError (Option T.Scene) :=
  match contentBytes with
  | some bytes =>
      match verifyContent core bytes verified with
      | .accept doc => .ok (some (core.sceneFromContent doc))
      | .reject d => .error ⟨"content rejected: " ++ core.debugDiagnostic d⟩
  | none => .ok none

def load (manifestBytes : Bytes) (contentBytes : Option Bytes)
    (fetchedAddress : OnionAddress) (compactAddress : String) (clock : Clock)
    (retained : Option RetainedIdentity) (history : PublisherHistory) :
    Except LoadError (Loaded T) := do
  let verified ←
    match verifyManifest core manifestBytes fetchedAddress none clock history with
    | .accept v => .ok v
    | .reject d => .error ⟨"manifest rejected: " ++ core.debugDiagnostic d⟩
  let publisher := core.publisherPubkey verified.manifest
  let resolution := resolve publisher retained .none
  let chrome := ChromeView.build core publisher resolution.state verified.canaryState
    compactAddress .default
  let scene ← loadScene core contentBytes verified
  return {
    chrome
    scene
    publisher
    site := fetchedAddress
    retained
    requiredAction := resolution.action
    initialIntent := resolution.intent
    record := core.recordFor verified.manifest
    canaryState := verified.canaryState
    compactAddress }

variable {core}

/-- What a successful load says about the manifest it accepted and the state it
resolved. -/
theorem load_eq_ok {manifestBytes : Bytes} {contentBytes : Option Bytes}
    {fetchedAddress : OnionAddress} {compactAddress : String} {clock : Clock}
    {retained : Option RetainedIdentity} {history : PublisherHistory} {loaded : Loaded T}
    (accepted : load core manifestBytes contentBytes fetchedAddress compactAddress clock
      retained history = .ok loaded) :
    ∃ verified,
      verifyManifest core manifestBytes fetchedAddress none clock history =
        .accept verified ∧
      loaded.publisher = core.publisherPubkey verified.manifest ∧
      loaded.record = core.recordFor verified.manifest ∧
      loaded.site = fetchedAddress ∧ loaded.retained = retained ∧
      loaded.chrome.trustState = (resolve loaded.publisher retained .none).state ∧
      loaded.initialIntent = (resolve loaded.publisher retained .none).intent ∧
      loaded.requiredAction = (resolve loaded.publisher retained .none).action := by
  unfold load at accepted
  cases driven : verifyManifest core manifestBytes fetchedAddress none clock history with
  | reject d => simp [driven] at accepted
  | accept verified =>
      simp only [driven, ExceptRules.ok_bind, ExceptRules.bind_eq_ok,
        ExceptRules.pure_eq_ok, Except.ok.injEq] at accepted
      obtain ⟨scene, -, rfl⟩ := accepted
      exact ⟨verified, rfl, rfl, rfl, rfl, rfl, rfl, rfl, rfl⟩

end EntangledClient
