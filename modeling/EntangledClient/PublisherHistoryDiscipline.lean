import EntangledClient.SampleCore
import EntangledClient.StateMachine

/-!
# The accept-then-record discipline

A publisher history that grows only by accepted manifests stays ordered by issue
time, gives one payload hash to each issue time and one runtime key to each
payload hash, and accepts a refetch of its newest manifest.  Each check looks at
the newest record and the extended ones only; the invariant carries what it
finds there to every pair of records.
-/

namespace EntangledClient

open ExceptRules

namespace Core

variable {T : CoreTypes} {core : Core T}

theorem ChecksReject.antiDowngrade_ok (rejects : core.ChecksReject)
    {issuedAt : EntangledTimestamp} {newest : Option EntangledTimestamp} :
    core.checkAntiDowngrade issuedAt newest = .ok () ↔
      ∀ retained ∈ newest, retained ≤ issuedAt := by
  rw [unit_eq_ok_iff, rejects.antiDowngrade]
  push Not
  rfl

theorem ChecksExact.conflict_ok (exact : core.ChecksExact) {issuedAt : EntangledTimestamp}
    {runtime : RuntimePubkey} {hash : PayloadHash} {newest : Option RetainedManifestRecord} :
    core.checkCanaryConflict issuedAt runtime hash newest = .ok () ↔
      ∀ retained ∈ newest, issuedAt = retained.issuedAt → hash = retained.manifestPayloadHash := by
  rw [unit_eq_ok_iff, exact.conflict]
  push Not
  rfl

theorem ChecksExact.rotation_ok (exact : core.ChecksExact) {runtime : RuntimePubkey}
    {issuedAt : EntangledTimestamp} {history : PublisherHistory} :
    core.checkRuntimePubkeyRotation runtime issuedAt history.newest history.extended = .ok () ↔
      ∀ retained ∈ history.records, runtime ≠ retained.runtimePubkey := by
  rw [unit_eq_ok_iff, exact.rotation]
  simp only [PublisherHistory.mem_newest_or_extended]
  push Not
  constructor
  · rintro ⟨newest, extended⟩ retained (member | member)
    · exact newest retained member
    · exact extended retained member
  · intro fresh
    exact ⟨fun retained member => fresh retained (.inl member),
      fun retained member => fresh retained (.inr member)⟩

end Core

namespace PublisherHistory

variable {T : CoreTypes}

/-- What the checks against the newest and the extended records establish for
all pairs of records. -/
structure WellFormed (history : PublisherHistory) : Prop where
  ordered : history.records.Pairwise fun newer older => older.issuedAt ≤ newer.issuedAt
  hash_of_issuedAt : ∀ first ∈ history.records, ∀ second ∈ history.records,
    first.issuedAt = second.issuedAt →
      first.manifestPayloadHash = second.manifestPayloadHash
  key_of_hash : ∀ first ∈ history.records, ∀ second ∈ history.records,
    first.manifestPayloadHash ≠ second.manifestPayloadHash →
      first.runtimePubkey ≠ second.runtimePubkey

/-- Every record was derived from a manifest. -/
def Derived (core : Core T) (history : PublisherHistory) : Prop :=
  ∀ record ∈ history.records, ∃ manifest, core.recordFor manifest = some record

theorem WellFormed.le_newest {history : PublisherHistory} (wellFormed : history.WellFormed)
    {newest record : RetainedManifestRecord} (isNewest : history.newest = some newest)
    (member : record ∈ history.records) : record.issuedAt ≤ newest.issuedAt := by
  obtain ⟨_ | ⟨head, tail⟩⟩ := history
  · simp at member
  · obtain rfl : head = newest := by simpa [PublisherHistory.newest] using isNewest
    rcases List.mem_cons.mp member with rfl | older
    · exact le_rfl
    · exact (List.pairwise_cons.mp wellFormed.ordered).1 record older

theorem WellFormed.new : PublisherHistory.new.WellFormed where
  ordered := List.Pairwise.nil
  hash_of_issuedAt := by simp
  key_of_hash := by simp

/-- Pushing a copy of a retained record that is not issued before the others. -/
theorem WellFormed.push_copy {history : PublisherHistory} (wellFormed : history.WellFormed)
    {record : RetainedManifestRecord} (isNewest : history.newest = some record) :
    (history.push record).WellFormed := by
  have retained : ∀ other ∈ (history.push record).records, other ∈ history.records := by
    intro other member
    rcases List.mem_cons.mp member with rfl | older
    · exact mem_of_newest isNewest
    · exact older
  refine ⟨?_, ?_, ?_⟩
  · exact List.pairwise_cons.mpr
      ⟨fun older olderMem => wellFormed.le_newest isNewest olderMem, wellFormed.ordered⟩
  · intro first firstMem second secondMem
    exact wellFormed.hash_of_issuedAt first (retained first firstMem)
      second (retained second secondMem)
  · intro first firstMem second secondMem
    exact wellFormed.key_of_hash first (retained first firstMem)
      second (retained second secondMem)

/-- Pushing a record issued after all others, under a fresh runtime key. -/
theorem WellFormed.push_fresh {history : PublisherHistory} (wellFormed : history.WellFormed)
    {record : RetainedManifestRecord}
    (later : ∀ older ∈ history.records, older.issuedAt < record.issuedAt)
    (freshKey : ∀ older ∈ history.records, record.runtimePubkey ≠ older.runtimePubkey) :
    (history.push record).WellFormed := by
  refine ⟨?_, ?_, ?_⟩
  · exact List.pairwise_cons.mpr
      ⟨fun older olderMem => le_of_lt (later older olderMem), wellFormed.ordered⟩
  · intro first firstMem second secondMem sameTime
    rcases List.mem_cons.mp firstMem with rfl | firstOld <;>
      rcases List.mem_cons.mp secondMem with rfl | secondOld
    · rfl
    · exact absurd sameTime (ne_of_gt (later second secondOld))
    · exact absurd sameTime (ne_of_lt (later first firstOld))
    · exact wellFormed.hash_of_issuedAt first firstOld second secondOld sameTime
  · intro first firstMem second secondMem otherHash
    rcases List.mem_cons.mp firstMem with rfl | firstOld <;>
      rcases List.mem_cons.mp secondMem with rfl | secondOld
    · exact absurd rfl otherHash
    · exact freshKey second secondOld
    · exact (freshKey first firstOld).symm
    · exact wellFormed.key_of_hash first firstOld second secondOld otherHash

/-- Accepting a manifest and recording it keeps the history well formed. -/
theorem WellFormed.push_accepted {core : Core T} (exact : core.ChecksExact)
    (determines : core.HashDeterminesCanary) {history : PublisherHistory}
    (wellFormed : history.WellFormed) (derivedAll : history.Derived core)
    {manifest : T.Manifest} {record : RetainedManifestRecord}
    (derived : core.recordFor manifest = some record)
    (accepted : core.checkAgainstHistory manifest history = .ok ()) :
    (history.push record).WellFormed := by
  obtain ⟨notEarlier, noTwin, rotated⟩ :=
    (Core.checkAgainstHistory_eq_ok derived history).mp accepted
  rw [exact.rejects.antiDowngrade_ok] at notEarlier
  rw [exact.conflict_ok] at noTwin
  rw [exact.rotation_ok] at rotated
  cases isNewest : history.newest with
  | none =>
      obtain rfl : history = PublisherHistory.new := by
        obtain ⟨_ | ⟨head, tail⟩⟩ := history
        · rfl
        · simp [newest] at isNewest
      exact WellFormed.new.push_fresh (by simp) (by simp)
  | some newest =>
      simp only [isNewest, Option.map_some, Option.mem_def, Option.some.injEq,
        forall_eq'] at notEarlier noTwin rotated
      by_cases refetch : newest.manifestPayloadHash = record.manifestPayloadHash
      · obtain ⟨original, originalRecord⟩ := derivedAll newest (mem_of_newest isNewest)
        obtain rfl : newest = record :=
          Core.recordFor_eq_of_hash determines originalRecord derived refetch
        exact wellFormed.push_copy isNewest
      · have later : newest.issuedAt < record.issuedAt :=
          lt_of_le_of_ne notEarlier fun sameTime => refetch (noTwin sameTime.symm).symm
        exact wellFormed.push_fresh
          (fun older olderMem => lt_of_le_of_lt (wellFormed.le_newest isNewest olderMem) later)
          (rotated refetch)

/-- A manifest of the newest record is accepted again. -/
theorem recheck_newest {core : Core T} (exact : core.ChecksExact)
    {history : PublisherHistory} {manifest : T.Manifest} {record : RetainedManifestRecord}
    (derived : core.recordFor manifest = some record)
    (isNewest : history.newest = some record) :
    core.checkAgainstHistory manifest history = .ok () := by
  refine (Core.checkAgainstHistory_eq_ok derived history).mpr ⟨?_, ?_, ?_⟩
  · simp [exact.rejects.antiDowngrade_ok, isNewest]
  · simp [exact.conflict_ok, isNewest]
  · intro otherHash
    exact absurd rfl (otherHash record isNewest)

/-- A client that pushes the record of every manifest it accepts. -/
def acceptThenRecord (core : Core T) : StateMachine PublisherHistory T.Manifest where
  step history manifest :=
    match core.checkAgainstHistory manifest history with
    | .error _ => none
    | .ok () =>
        match core.recordFor manifest with
        | some record => some (history.push record)
        | none => some history

theorem acceptThenRecord_step {core : Core T} {history after : PublisherHistory}
    {manifest : T.Manifest}
    (taken : (acceptThenRecord core).step history manifest = some after) :
    core.checkAgainstHistory manifest history = .ok () ∧
      ((core.recordFor manifest = none ∧ after = history) ∨
        ∃ record, core.recordFor manifest = some record ∧ after = history.push record) := by
  simp only [acceptThenRecord] at taken
  cases accepted : core.checkAgainstHistory manifest history with
  | error d => simp [accepted] at taken
  | ok passed =>
      cases derived : core.recordFor manifest with
      | none => simp_all
      | some record => simp_all

/-- In every run of the discipline the issue times do not increase from newest
to oldest, an issue time belongs to one payload hash, different payload hashes
have different runtime keys, and the newest manifest is accepted again. -/
theorem accepted_history_wellFormed {core : Core T} (exact : core.ChecksExact)
    (determines : core.HashDeterminesCanary) {manifests : List T.Manifest}
    {history : PublisherHistory}
    (reached : (acceptThenRecord core).run PublisherHistory.new manifests = some history) :
    history.records.Pairwise (fun newer older => older.issuedAt ≤ newer.issuedAt) ∧
    (∀ first ∈ history.records, ∀ second ∈ history.records,
      first.issuedAt = second.issuedAt →
        first.manifestPayloadHash = second.manifestPayloadHash) ∧
    (∀ first ∈ history.records, ∀ second ∈ history.records,
      first.manifestPayloadHash ≠ second.manifestPayloadHash →
        first.runtimePubkey ≠ second.runtimePubkey) ∧
    (∀ manifest record, core.recordFor manifest = some record →
      history.newest = some record →
        core.checkAgainstHistory manifest history = .ok ()) := by
  have invariant : history.WellFormed ∧ history.Derived core := by
    refine StateMachine.invariant_run (fun h => h.WellFormed ∧ h.Derived core)
      ?_ ⟨WellFormed.new, by simp [Derived]⟩ reached
    rintro before manifest after ⟨wellFormed, derivedAll⟩ taken
    obtain ⟨accepted, ⟨_, rfl⟩ | ⟨record, derived, rfl⟩⟩ := acceptThenRecord_step taken
    · exact ⟨wellFormed, derivedAll⟩
    · refine ⟨wellFormed.push_accepted exact determines derivedAll derived accepted, ?_⟩
      intro other member
      rcases List.mem_cons.mp member with rfl | older
      · exact ⟨manifest, derived⟩
      · exact derivedAll other older
  obtain ⟨⟨ordered, hashes, keys⟩, _⟩ := invariant
  refine ⟨ordered, hashes, keys, ?_⟩
  intro manifest record derived isNewest
  exact recheck_newest exact derived isNewest

/-- A manifest, its refetch, and a later manifest under another runtime key. -/
def refetchedThenRotated : List SampleCore.Manifest :=
  [⟨.alpha, 10, 1, 0⟩, ⟨.alpha, 10, 1, 0⟩, ⟨.alpha, 30, 2, 0⟩]

theorem accepted_history_wellFormed_refetched :
    ∃ history, (acceptThenRecord SampleCore.core).run PublisherHistory.new
        refetchedThenRotated = some history ∧
      history.records.length = 3 ∧
      history.records.Pairwise (fun newer older => older.issuedAt ≤ newer.issuedAt) := by
  have reached : (acceptThenRecord SampleCore.core).run PublisherHistory.new
      refetchedThenRotated = some _ := rfl
  exact ⟨_, reached, rfl, (accepted_history_wellFormed SampleCore.checksExact
    SampleCore.hashDeterminesCanary reached).1⟩

end PublisherHistory

end EntangledClient
