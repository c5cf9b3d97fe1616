import EntangledClient.SampleLibs
import EntangledClient.InterleavedSessions

/-!
# Sample sessions

Sessions that fetch a sample manifest from the site it is bound to.
-/

namespace EntangledClient

namespace SampleCore

theorem peekAgrees : core.PeekAgrees := by
  intro bytes now manifest publisher parsed peeked
  cases read : parse bytes with
  | none => simp [core, read] at parsed
  | some found =>
      obtain rfl : found = manifest := by simpa [core, read] using parsed
      have named : (JsonValue.object
          [("publisher_pubkey", .string found.publisher.name)]).get "publisher_pubkey" =
            some (.string found.publisher.name) := by
        simp [JsonValue.get]
      obtain ⟨_ | _, issuedAt, runtime, origin⟩ := found <;>
        simp_all [peekPublisherPubkey, core, JsonValue.asStr, Except.mapError,
          Publisher.name, Publisher.seed]

/-- Fetch a manifest from the site that it binds to. -/
def visit (manifest : Manifest) (decisions : List UserDecision) : SessionScript where
  request := {
    manifestFile := .ok manifest.bytes
    contentFile := none
    onion := (siteOf manifest.origin).text }
  decisions

/-- A session begins to fetch a manifest from the site that it binds to. -/
def start (index : Nat) (manifest : Manifest) : SystemEvent :=
  .start index (visit manifest []).request

/-- The next calls of a session. -/
def calls (index count : Nat) : List SystemEvent :=
  List.replicate count (.call index)

end SampleCore

end EntangledClient
