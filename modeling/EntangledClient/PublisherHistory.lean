import EntangledClient.CoreTypes
import EntangledClient.ExceptRules

/-!
# Publisher history

The records of the manifests accepted for one publisher, newest first, and the
section 08 checks of a new manifest against them: anti-downgrade, conflict at an
equal `issued_at`, and rotation of the runtime key.
-/

namespace EntangledClient

open ExceptRules

structure PublisherHistory where
  records : List RetainedManifestRecord
  deriving DecidableEq

namespace PublisherHistory

def new : PublisherHistory :=
  ⟨[]⟩

def fromRecordsNewestFirst (records : List RetainedManifestRecord) : PublisherHistory :=
  ⟨records⟩

def isEmpty (history : PublisherHistory) : Bool :=
  history.records.isEmpty

def newest (history : PublisherHistory) : Option RetainedManifestRecord :=
  history.records.head?

def push (history : PublisherHistory) (record : RetainedManifestRecord) :
    PublisherHistory :=
  ⟨record :: history.records⟩

def extended (history : PublisherHistory) : List RetainedManifestRecord :=
  history.records.tail

@[simp]
theorem records_new : new.records = [] :=
  rfl

@[simp]
theorem records_push (history : PublisherHistory) (record : RetainedManifestRecord) :
    (history.push record).records = record :: history.records :=
  rfl

@[simp]
theorem newest_push (history : PublisherHistory) (record : RetainedManifestRecord) :
    (history.push record).newest = some record :=
  rfl

theorem mem_of_newest {history : PublisherHistory} {record : RetainedManifestRecord}
    (newest : history.newest = some record) : record ∈ history.records :=
  List.mem_of_head? newest

/-- The newest record and the extended ones are all the records. -/
theorem mem_newest_or_extended {history : PublisherHistory}
    {record : RetainedManifestRecord} :
    record ∈ history.records ↔ record ∈ history.newest ∨ record ∈ history.extended := by
  obtain ⟨_ | ⟨head, tail⟩⟩ := history
  · simp [newest, extended]
  · simp [newest, extended, eq_comm]

end PublisherHistory

namespace Core

variable {T : CoreTypes} (core : Core T)

/-- The record of a manifest, if its `issued_at` is valid. -/
def recordFor (manifest : T.Manifest) : Option RetainedManifestRecord := do
  let issuedAt ← core.issuedAt manifest
  return {
    issuedAt
    runtimePubkey := core.runtimePubkey manifest
    manifestPayloadHash := core.canonicalPayloadHash manifest }

/-- The section 08 history checks; a manifest without a valid `issued_at`
passes them vacuously. -/
def checkAgainstHistory (manifest : T.Manifest) (history : PublisherHistory) :
    Except T.Diagnostic Unit :=
  match core.recordFor manifest with
  | none => .ok ()
  | some record => do
      let newest := history.newest
      core.checkAntiDowngrade record.issuedAt (newest.map (·.issuedAt))
      core.checkCanaryConflict record.issuedAt record.runtimePubkey
        record.manifestPayloadHash newest
      -- A refetch of the newest retained manifest makes no rotation claim.
      let isSamePayloadRefetch :=
        newest.any fun n => n.manifestPayloadHash = record.manifestPayloadHash
      if !isSamePayloadRefetch then
        core.checkRuntimePubkeyRotation record.runtimePubkey record.issuedAt newest
          history.extended

variable {core}

theorem recordFor_eq_some {manifest : T.Manifest} {record : RetainedManifestRecord} :
    core.recordFor manifest = some record ↔
      core.issuedAt manifest = some record.issuedAt ∧
        core.runtimePubkey manifest = record.runtimePubkey ∧
          core.canonicalPayloadHash manifest = record.manifestPayloadHash := by
  obtain ⟨issuedAt, runtime, hash⟩ := record
  cases valid : core.issuedAt manifest <;> simp [recordFor, valid]

theorem recordFor_isSome {manifest : T.Manifest}
    (valid : (core.issuedAt manifest).isSome) : (core.recordFor manifest).isSome := by
  obtain ⟨issuedAt, issued⟩ := Option.isSome_iff_exists.mp valid
  simp [recordFor, issued]

/-- Manifests under one payload hash have one record. -/
theorem recordFor_eq_of_hash (determines : core.HashDeterminesCanary)
    {first second : T.Manifest} {record other : RetainedManifestRecord}
    (firstRecord : core.recordFor first = some record)
    (secondRecord : core.recordFor second = some other)
    (sameHash : record.manifestPayloadHash = other.manifestPayloadHash) :
    record = other := by
  obtain ⟨firstTime, firstKey, firstHash⟩ := recordFor_eq_some.mp firstRecord
  obtain ⟨secondTime, secondKey, secondHash⟩ := recordFor_eq_some.mp secondRecord
  obtain ⟨sameTime, sameKey⟩ := determines first second
    (firstHash.trans (sameHash.trans secondHash.symm))
  obtain ⟨issuedAt, runtime, hash⟩ := record
  obtain ⟨issuedAt', runtime', hash'⟩ := other
  simp_all

/-- A manifest with a record is accepted against a history exactly if the three
checks pass, the last one unless the newest record has its payload hash. -/
theorem checkAgainstHistory_eq_ok {manifest : T.Manifest}
    {record : RetainedManifestRecord} (derived : core.recordFor manifest = some record)
    (history : PublisherHistory) :
    core.checkAgainstHistory manifest history = .ok () ↔
      core.checkAntiDowngrade record.issuedAt (history.newest.map (·.issuedAt)) = .ok () ∧
      core.checkCanaryConflict record.issuedAt record.runtimePubkey
        record.manifestPayloadHash history.newest = .ok () ∧
      ((∀ n ∈ history.newest, n.manifestPayloadHash ≠ record.manifestPayloadHash) →
        core.checkRuntimePubkeyRotation record.runtimePubkey record.issuedAt history.newest
          history.extended = .ok ()) := by
  have refetch :
      (history.newest.any fun n =>
          decide (n.manifestPayloadHash = record.manifestPayloadHash)) = false ↔
        ∀ n ∈ history.newest, n.manifestPayloadHash ≠ record.manifestPayloadHash := by
    cases history.newest <;> simp
  rw [← refetch]
  simp only [checkAgainstHistory, derived]
  cases core.checkAntiDowngrade record.issuedAt (history.newest.map (·.issuedAt)) with
  | error d => simp
  | ok passed =>
      cases core.checkCanaryConflict record.issuedAt record.runtimePubkey
          record.manifestPayloadHash history.newest with
      | error d => simp
      | ok passed =>
          cases history.newest.any fun n =>
              decide (n.manifestPayloadHash = record.manifestPayloadHash) <;>
            simp

end Core

end EntangledClient
