import EntangledClient.CoreTypes

/-!
# The Stage 7 trust-state machine

`resolve` decides the trust state of a presented publisher key against what is
retained for the site, the action the chrome must demand and what the shell
should persist.  It writes nothing: the intent is applied by the shell.
-/

namespace EntangledClient

/-- The four publisher trust states. -/
inductive TrustState
  | firstContact
  | tofuPinned
  | externallyVerified
  | changedMismatch
  deriving DecidableEq

/-- How a retained record was established. -/
inductive RetainedProvenance
  | observed
  | pinned
  | externallyVerified
  deriving DecidableEq

/-- What is retained for a site. -/
structure RetainedIdentity where
  pubkey : PublisherPubkey
  provenance : RetainedProvenance
  deriving DecidableEq

/-- The user's decision, gathered by the chrome. -/
inductive UserDecision
  | none
  | pinFirstContact
  | confirmPip
  | confirmNewIdentity
  | rejectNewIdentity
  deriving DecidableEq

/-- The user action that the chrome must demand. -/
inductive RequiredAction
  | none
  | pinPrompt
  | mismatchWarning
  deriving DecidableEq

/-- What the shell should persist. -/
inductive PersistenceIntent
  | none
  | recordObservation (pubkey : PublisherPubkey)
  | pinIdentity (pubkey : PublisherPubkey)
  | markExternallyVerified (pubkey : PublisherPubkey)
  | replaceIdentity (newPubkey replaced : PublisherPubkey) (externallyVerified : Bool)
  deriving DecidableEq

/-- The outcome of resolving trust for a presented key. -/
structure Resolution where
  state : TrustState
  action : RequiredAction
  intent : PersistenceIntent
  deriving DecidableEq

/-- Resolution when no identity is retained. -/
def firstContact (presented : PublisherPubkey) : UserDecision → Resolution
  | .confirmPip =>
      { state := .externallyVerified
        action := .none
        intent := .markExternallyVerified presented }
  | .pinFirstContact =>
      { state := .tofuPinned
        action := .none
        intent := .pinIdentity presented }
  | .none | .confirmNewIdentity | .rejectNewIdentity =>
      { state := .firstContact
        action := .pinPrompt
        intent := .recordObservation presented }

/-- Resolution when the retained key is the presented one. -/
def matched (presented : PublisherPubkey) (retained : RetainedIdentity)
    (decision : UserDecision) : Resolution :=
  if decision = .confirmPip ∧ retained.provenance ≠ .externallyVerified then
    { state := .externallyVerified
      action := .none
      intent := .markExternallyVerified presented }
  else if decision = .pinFirstContact ∧ retained.provenance = .observed then
    { state := .tofuPinned
      action := .none
      intent := .pinIdentity presented }
  else
    match retained.provenance with
    | .observed => { state := .firstContact, action := .pinPrompt, intent := .none }
    | .pinned => { state := .tofuPinned, action := .none, intent := .none }
    | .externallyVerified =>
        { state := .externallyVerified, action := .none, intent := .none }

/-- Resolution when the retained key differs from the presented one. -/
def mismatch (presented : PublisherPubkey) (retained : RetainedIdentity) :
    UserDecision → Resolution
  | .confirmNewIdentity =>
      { state := .firstContact
        action := .none
        intent := .replaceIdentity presented retained.pubkey false }
  | .confirmPip =>
      { state := .externallyVerified
        action := .none
        intent := .replaceIdentity presented retained.pubkey true }
  | .rejectNewIdentity =>
      { state := .changedMismatch, action := .none, intent := .none }
  | .none | .pinFirstContact =>
      { state := .changedMismatch, action := .mismatchWarning, intent := .none }

/-- Resolve the trust state of a verified manifest's publisher key. -/
def resolve (presented : PublisherPubkey) (retained : Option RetainedIdentity)
    (decision : UserDecision) : Resolution :=
  match retained with
  | none => firstContact presented decision
  | some retained =>
      if retained.pubkey = presented then matched presented retained decision
      else mismatch presented retained decision

/-- The trust state that a record of this provenance keeps on a matching revisit. -/
def RetainedProvenance.state : RetainedProvenance → TrustState
  | .observed => .firstContact
  | .pinned => .tofuPinned
  | .externallyVerified => .externallyVerified

@[simp]
theorem resolve_none (presented : PublisherPubkey) (decision : UserDecision) :
    resolve presented none decision = firstContact presented decision :=
  rfl

theorem resolve_matched {presented : PublisherPubkey} {retained : RetainedIdentity}
    (same : retained.pubkey = presented) (decision : UserDecision) :
    resolve presented (some retained) decision = matched presented retained decision := by
  simp [resolve, same]

theorem resolve_mismatch {presented : PublisherPubkey} {retained : RetainedIdentity}
    (different : retained.pubkey ≠ presented) (decision : UserDecision) :
    resolve presented (some retained) decision = mismatch presented retained decision := by
  simp [resolve, different]

/-- Without a decision a matching record keeps its own state and persists nothing. -/
theorem matched_none (presented : PublisherPubkey) (retained : RetainedIdentity) :
    (matched presented retained .none).state = retained.provenance.state ∧
      (matched presented retained .none).intent = .none := by
  obtain ⟨_, provenance⟩ := retained
  cases provenance <;> exact ⟨rfl, rfl⟩

/-- Without a decision, a mismatch is shown exactly for a record of another key. -/
theorem resolve_changedMismatch_iff (presented : PublisherPubkey)
    (retained : Option RetainedIdentity) :
    (resolve presented retained .none).state = .changedMismatch ↔
      ∃ record ∈ retained, record.pubkey ≠ presented := by
  cases retained with
  | none => simp [firstContact]
  | some record =>
      by_cases same : record.pubkey = presented
      · have state := (matched_none presented record).1
        rw [resolve_matched same, state]
        cases record.provenance <;> simp [same, RetainedProvenance.state]
      · simp [resolve_mismatch same, mismatch, same]

/-- Every intent is about the presented key, and a replacement names the
retained key and follows one of the two confirming decisions. -/
theorem resolve_intent (presented : PublisherPubkey) (retained : Option RetainedIdentity)
    (decision : UserDecision) :
    (resolve presented retained decision).intent = .none ∨
    (retained = none ∧
      (resolve presented retained decision).intent = .recordObservation presented) ∨
    (resolve presented retained decision).intent = .pinIdentity presented ∨
    (decision = .confirmPip ∧ (∀ record ∈ retained, record.pubkey = presented) ∧
      (resolve presented retained decision).intent = .markExternallyVerified presented) ∨
    (∃ record ∈ retained, record.pubkey ≠ presented ∧
      (decision = .confirmNewIdentity ∨ decision = .confirmPip) ∧
      (resolve presented retained decision).intent =
        .replaceIdentity presented record.pubkey (decision = .confirmPip)) := by
  cases retained with
  | none => cases decision <;> simp [firstContact]
  | some record =>
      by_cases same : record.pubkey = presented
      · rw [resolve_matched same]
        obtain ⟨key, provenance⟩ := record
        cases decision <;> cases provenance <;> simp_all [matched]
      · rw [resolve_mismatch same]
        cases decision <;> simp [mismatch, same]

/-- A decision that raises the provenance of a retained identity. -/
def UserDecision.raises (decision : UserDecision) (provenance : RetainedProvenance) : Prop :=
  (decision = .confirmPip ∧ provenance ≠ .externallyVerified) ∨
    (decision = .pinFirstContact ∧ provenance = .observed)

/-- A decision that replaces a mismatched identity. -/
def UserDecision.confirms (decision : UserDecision) : Prop :=
  decision = .confirmNewIdentity ∨ decision = .confirmPip

/-- The section 11 codes of the trust family. -/
inductive DiagnosticCode
  | eTrustUserRejected
  | eTrustMismatch
  | iTrustFirstContact
  | iTrustTofuPinned
  | iTrustVerified
  deriving DecidableEq

/-- The section 11 diagnostic that a resolution surfaces. -/
def trustDiagnostic (resolution : Resolution) (decision : UserDecision) :
    Option DiagnosticCode :=
  match resolution.state with
  | .changedMismatch =>
      some (if decision = .rejectNewIdentity then .eTrustUserRejected else .eTrustMismatch)
  | .firstContact =>
      match resolution.intent with
      | .recordObservation _ | .replaceIdentity .. => some .iTrustFirstContact
      | _ => none
  | .tofuPinned =>
      match resolution.intent with
      | .pinIdentity _ => some .iTrustTofuPinned
      | _ => none
  | .externallyVerified =>
      match resolution.intent with
      | .markExternallyVerified _ | .replaceIdentity _ _ true => some .iTrustVerified
      | _ => none

end EntangledClient
