import EntangledClient.Pipeline
import EntangledClient.SampleCore

/-!
# Error precedence of the manifest driver

The documented order puts the history checks in Stage 8, before origin binding
and the content index.  The driver runs them after the whole chain, so a later
stage that fails as well is reported in place of the history check.
-/

namespace EntangledClient

open ExceptRules

variable {T : CoreTypes} (core : Core T)

/-- The diagnostic of a failed stage. -/
def failure {ε α : Type} : Except ε α → Option ε
  | .ok _ => none
  | .error diagnostic => some diagnostic

/-- The first diagnostic of a list of stages. -/
def firstFailure {ε : Type} (stages : List (Except ε Unit)) : Option ε :=
  stages.findSome? failure

/-- A stage whose product does not matter. -/
def stage {ε α : Type} (outcome : Except ε α) : Except ε Unit :=
  outcome.map fun _ => ()

/-- The Stage 8 history checks in their documented order. -/
def historyStages (manifest : T.Manifest) (history : PublisherHistory) :
    List (Except T.Diagnostic Unit) :=
  match core.recordFor manifest with
  | none => []
  | some record =>
      [core.checkAntiDowngrade record.issuedAt (history.newest.map (·.issuedAt)),
        core.checkCanaryConflict record.issuedAt record.runtimePubkey
          record.manifestPayloadHash history.newest] ++
      if history.newest.any fun n => n.manifestPayloadHash = record.manifestPayloadHash then []
      else
        [core.checkRuntimePubkeyRotation record.runtimePubkey record.issuedAt history.newest
          history.extended]

/-- The stages after the history checks: 9 and 9b. -/
def bindingStages (manifest : T.Manifest) (fetchedAddress : OnionAddress)
    (contentIndexBytes : Option Bytes) (clock : Clock) : List (Except T.Diagnostic Unit) :=
  [core.verifyOrigin manifest fetchedAddress clock.now,
    stage (core.verifyContentIndex manifest contentIndexBytes)]

/-- The diagnostic that section 11 precedence prescribes; none for a manifest to
be accepted. -/
def documentedDiagnostic (manifestBytes : Bytes) (fetchedAddress : OnionAddress)
    (contentIndexBytes : Option Bytes) (clock : Clock) (history : PublisherHistory) :
    Option T.Diagnostic :=
  match core.parseAndVerifyManifest manifestBytes clock.now with
  | .error diagnostic => some diagnostic
  | .ok manifest =>
      firstFailure (stage (core.verifyCanary manifest clock.now) ::
        (historyStages core manifest history ++
          bindingStages core manifest fetchedAddress contentIndexBytes clock))

/-- No stage after the history checks fails along with them under another
diagnostic. -/
def HistoryUnshadowed (manifestBytes : Bytes) (fetchedAddress : OnionAddress)
    (contentIndexBytes : Option Bytes) (clock : Clock) (history : PublisherHistory) : Prop :=
  ∀ manifest, core.parseAndVerifyManifest manifestBytes clock.now = .ok manifest →
    ∀ state, core.verifyCanary manifest clock.now = .ok state →
      ∀ early, core.checkAgainstHistory manifest history = .error early →
        ∀ late,
          firstFailure (bindingStages core manifest fetchedAddress contentIndexBytes clock) =
            some late →
          late = early

variable {core}

@[simp]
theorem failure_stage {ε α : Type} (outcome : Except ε α) :
    failure (stage outcome) = failure outcome := by
  cases outcome <;> rfl

theorem firstFailure_cons {ε : Type} (first : Except ε Unit) (rest : List (Except ε Unit)) :
    firstFailure (first :: rest) = (failure first).or (firstFailure rest) := by
  cases first <;> simp [firstFailure, failure, List.findSome?_cons]

theorem firstFailure_append {ε : Type} (first rest : List (Except ε Unit)) :
    firstFailure (first ++ rest) = (firstFailure first).or (firstFailure rest) :=
  List.findSome?_append

/-- The history step reports the first failing history check. -/
theorem failure_checkAgainstHistory (manifest : T.Manifest) (history : PublisherHistory) :
    failure (core.checkAgainstHistory manifest history) =
      firstFailure (historyStages core manifest history) := by
  simp only [Core.checkAgainstHistory, historyStages]
  cases core.recordFor manifest with
  | none => rfl
  | some record =>
      simp only [List.cons_append, List.nil_append, firstFailure_cons]
      cases core.checkAntiDowngrade record.issuedAt (history.newest.map (·.issuedAt)) with
      | error d => rfl
      | ok passed =>
          cases core.checkCanaryConflict record.issuedAt record.runtimePubkey
              record.manifestPayloadHash history.newest with
          | error d => rfl
          | ok passed =>
              cases history.newest.any fun n =>
                decide (n.manifestPayloadHash = record.manifestPayloadHash) <;>
              cases core.checkRuntimePubkeyRotation record.runtimePubkey record.issuedAt
                history.newest history.extended <;> rfl

/-- The diagnostic of the driver, stage by stage in the order it runs them. -/
theorem verifyManifest_diagnostic (manifestBytes : Bytes) (fetchedAddress : OnionAddress)
    (contentIndexBytes : Option Bytes) (clock : Clock) (history : PublisherHistory) :
    (verifyManifest core manifestBytes fetchedAddress contentIndexBytes clock history).diagnostic =
      match core.parseAndVerifyManifest manifestBytes clock.now with
      | .error diagnostic => some diagnostic
      | .ok manifest =>
          firstFailure (stage (core.verifyCanary manifest clock.now) ::
            (bindingStages core manifest fetchedAddress contentIndexBytes clock ++
              historyStages core manifest history)) := by
  rw [verifyManifest_eq]
  cases core.parseAndVerifyManifest manifestBytes clock.now with
  | error d => rfl
  | ok manifest =>
      simp only [bindingStages, List.cons_append, List.nil_append, firstFailure_cons,
        failure_stage, ← failure_checkAgainstHistory, ok_bind]
      cases core.verifyCanary manifest clock.now with
      | error d => rfl
      | ok state =>
          cases core.verifyOrigin manifest fetchedAddress clock.now with
          | error d => rfl
          | ok passed =>
              cases core.verifyContentIndex manifest contentIndexBytes with
              | error d => rfl
              | ok index => cases core.checkAgainstHistory manifest history <;> rfl

/-- Two failures may be reported in either order exactly if they agree. -/
theorem or_comm_iff {ε : Type} (first second : Option ε) :
    first.or second = second.or first ↔ ∀ early ∈ second, ∀ late ∈ first, late = early := by
  cases first <;> cases second <;> simp

/-- The driver reports what the documented order prescribes exactly if no
history failure is shadowed by a later stage. -/
theorem verifyManifest_precedence_iff (core : Core T) (manifestBytes : Bytes)
    (fetchedAddress : OnionAddress) (contentIndexBytes : Option Bytes) (clock : Clock)
    (history : PublisherHistory) :
    (verifyManifest core manifestBytes fetchedAddress contentIndexBytes clock history).diagnostic =
        documentedDiagnostic core manifestBytes fetchedAddress contentIndexBytes clock history ↔
      HistoryUnshadowed core manifestBytes fetchedAddress contentIndexBytes clock history := by
  rw [verifyManifest_diagnostic]
  simp only [documentedDiagnostic, HistoryUnshadowed]
  cases parsed : core.parseAndVerifyManifest manifestBytes clock.now with
  | error d => simp
  | ok manifest =>
      simp only [firstFailure_cons, firstFailure_append, failure_stage,
        ← failure_checkAgainstHistory, Except.ok.injEq, forall_eq']
      cases canary : core.verifyCanary manifest clock.now with
      | error d => simp [failure]
      | ok state =>
          simp only [failure, Option.none_or, or_comm_iff]
          cases core.checkAgainstHistory manifest history <;> simp

/-- A manifest issued before the newest record and fetched from another origin
than it names is reported as a binding error. -/
theorem verifyManifest_shadows_downgrade :
    ¬ (verifyManifest SampleCore.core [1, 4, 8, 1] ⟨"zero.onion"⟩ none (FixedClock 0)
        ⟨[⟨5, ⟨seedBytes 7⟩, seedBytes 9⟩]⟩).diagnostic =
      documentedDiagnostic SampleCore.core [1, 4, 8, 1] ⟨"zero.onion"⟩ none (FixedClock 0)
        ⟨[⟨5, ⟨seedBytes 7⟩, seedBytes 9⟩]⟩ := by
  decide

end EntangledClient
