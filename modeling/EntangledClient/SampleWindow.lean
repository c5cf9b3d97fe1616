import EntangledClient.SampleSessions
import EntangledClient.WindowFrames

/-!
# A sample window

A window on a document with a clearnet link, whose canary has expired.
-/

namespace EntangledClient

namespace SampleCore

/-- The sample core at a time when every canary has expired. -/
def expiredCore : Core types :=
  { core with verifyCanary := fun _ _ => .ok .expired }

def linkNodes (_ : types.Scene) : List SceneNode :=
  [.link [.text "elsewhere"] (.citation "https://elsewhere.example/")]

/-- Fetch a manifest with content from the site that it binds to. -/
def read (manifest : Manifest) : BuildRequest where
  manifestFile := .ok manifest.bytes
  contentFile := some (.ok [])
  onion := (siteOf manifest.origin).text

/-- A frame in which these controls are clicked. -/
def clicks (controls : List Control) : FrameInput where
  clicked control := controls.contains control
  phraseUnfolded := false

/-- Show the content, follow the link, copy its address, and then pin the publisher. -/
def linkFrames : List FrameInput :=
  [clicks [], clicks [.showContent], clicks [.link 0], clicks [.copyUrl], clicks [.pinIdentity],
    clicks []]

/-- The viewer of the sample document, on empty stores. -/
def linkViewer : Except Failure (Except String (ShellApp types × List FrameOutput)) × StoreView :=
  (ShellApp.viewer expiredCore linkNodes (read ⟨.alpha, 1, 1, 0⟩) linkFrames).run viewHandler
    .empty

/-- Whether a viewer returned a window. -/
def returnsWindow {α : Type} : Except Failure (Except String α) → Bool
  | .ok (.ok _) => true
  | .ok (.error _) | .error _ => false

theorem linkViewer_shows :
    ∃ last outputs after, linkViewer = (.ok (.ok (last, outputs)), after) := by
  have isShown : returnsWindow linkViewer.1 = true := rfl
  generalize linkViewer = result at isShown ⊢
  obtain ⟨outcome, after⟩ := result
  rcases outcome with failure | (message | ⟨last, outputs⟩)
  · cases isShown
  · cases isShown
  · exact ⟨last, outputs, after, rfl⟩

end SampleCore

end EntangledClient
