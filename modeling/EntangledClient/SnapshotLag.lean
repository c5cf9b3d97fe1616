import EntangledClient.StoreView

/-!
# A snapshot that lags behind its site

A window resolves decisions against a snapshot of what its site retains.  The
snapshot may miss the observation that the window itself recorded, which makes no
difference; what a decision writes and shows then depends on the snapshot alone.
-/

namespace EntangledClient

/-- An intent that raises or replaces what is retained. -/
def PersistenceIntent.Elevates (intent : PersistenceIntent) : Prop :=
  intent ≠ .none ∧ ∀ pubkey, intent ≠ .recordObservation pubkey

/-- A snapshot is what the site retains, or it misses an observation of the presented
key. -/
def SnapshotOf (publisher : PublisherPubkey) (snapshot : Option RetainedIdentity)
    (site : Option RetainedSite) : Prop :=
  snapshot = site.map (·.identity) ∨
    (snapshot = none ∧ ∃ replaced, site = some ⟨⟨publisher, .observed⟩, replaced⟩)

/-- The missed observation makes no difference without a decision. -/
theorem SnapshotOf.state_eq {publisher : PublisherPubkey} {snapshot : Option RetainedIdentity}
    {site : Option RetainedSite} (isSnapshot : SnapshotOf publisher snapshot site) :
    (resolve publisher (site.map (·.identity)) .none).state =
      (resolve publisher snapshot .none).state := by
  rcases isSnapshot with rfl | ⟨rfl, replaced, rfl⟩
  · rfl
  · have same : resolve publisher (some ⟨publisher, .observed⟩) .none =
        matched publisher ⟨publisher, .observed⟩ .none := resolve_matched rfl .none
    simp only [Option.map_some, same]
    rfl

/-- What a decision leaves at a site, and in the snapshot, when its two calls may
fail. -/
def siteAfter (intent : PersistenceIntent) (applied : Bool) (site : Option RetainedSite) :
    Option RetainedSite :=
  if applied then intent.applyTo site else site

def snapshotAfter (reloaded : Bool) (snapshot : Option RetainedIdentity)
    (site : Option RetainedSite) : Option RetainedIdentity :=
  if reloaded then site.map (·.identity) else snapshot

theorem SnapshotOf.reload {publisher : PublisherPubkey} {snapshot : Option RetainedIdentity}
    {site : Option RetainedSite} (isSnapshot : SnapshotOf publisher snapshot site)
    (reloaded : Bool) : SnapshotOf publisher (snapshotAfter reloaded snapshot site) site := by
  cases reloaded with
  | true => exact .inl rfl
  | false => exact isSnapshot

/-- An observation, stored or not, is what a snapshot without a record may miss. -/
theorem snapshotOf_observation {publisher : PublisherPubkey} {site : Option RetainedSite}
    (isSnapshot : SnapshotOf publisher none site) (applied : Bool) :
    SnapshotOf publisher none (siteAfter (.recordObservation publisher) applied site) := by
  cases applied with
  | false => exact isSnapshot
  | true =>
      right
      refine ⟨rfl, ?_⟩
      rcases isSnapshot with absent | ⟨_, replaced, rfl⟩
      · have nothing : site = none := by simpa using absent.symm
        exact ⟨[], by rw [nothing]; rfl⟩
      · exact ⟨replaced, rfl⟩

/-- The decision replaces an identity of another key, and does not verify the new one. -/
def ReplacesUnverified (publisher : PublisherPubkey) (snapshot : Option RetainedIdentity)
    (decision : UserDecision) : Prop :=
  decision = .confirmNewIdentity ∧ ∃ retained ∈ snapshot, retained.pubkey ≠ publisher

/-- A record of the presented key resolves to the state of its provenance. -/
theorem resolve_own (publisher : PublisherPubkey) (provenance : RetainedProvenance) :
    (resolve publisher (some ⟨publisher, provenance⟩) .none).state = provenance.state := by
  have own : resolve publisher (some ⟨publisher, provenance⟩) .none =
      matched publisher ⟨publisher, provenance⟩ .none := resolve_matched rfl .none
  rw [own]
  exact (matched_none publisher ⟨publisher, provenance⟩).1

/-- What a first contact may be taken for, once it is retained. -/
theorem elevated_firstContact {publisher : PublisherPubkey} {site : Option RetainedSite}
    (isSnapshot : SnapshotOf publisher none site) {decision : UserDecision}
    (elevates : (firstContact publisher decision).intent.Elevates) :
    ∃ provenance replaced,
      (firstContact publisher decision).intent.applyTo site =
        some ⟨⟨publisher, provenance⟩, replaced⟩ ∧
      provenance.state = (firstContact publisher decision).state := by
  have known : site = none ∨ ∃ replaced, site = some ⟨⟨publisher, .observed⟩, replaced⟩ := by
    rcases isSnapshot with absent | ⟨_, observed⟩
    · exact .inl (by simpa using absent.symm)
    · exact .inr observed
  cases decision with
  | none | confirmNewIdentity | rejectNewIdentity => exact absurd rfl (elevates.2 publisher)
  | confirmPip => exact ⟨.externallyVerified, replacedAt site, rfl, rfl⟩
  | pinFirstContact =>
      rcases known with rfl | ⟨replaced, rfl⟩
      · exact ⟨.pinned, [], rfl, rfl⟩
      · exact ⟨.pinned, replaced, rfl, rfl⟩

theorem elevated_matched {publisher : PublisherPubkey} {retained : RetainedIdentity}
    (same : retained.pubkey = publisher) {decision : UserDecision}
    (elevates : (matched publisher retained decision).intent.Elevates)
    (replaced : List PublisherPubkey) :
    ∃ provenance, (matched publisher retained decision).intent.applyTo
        (some ⟨retained, replaced⟩) = some ⟨⟨publisher, provenance⟩, replaced⟩ ∧
      provenance.state = (matched publisher retained decision).state := by
  obtain ⟨key, provenance⟩ := retained
  subst same
  cases decision <;> cases provenance <;>
    first
    | exact absurd rfl elevates.1
    | exact ⟨.externallyVerified, rfl, rfl⟩
    | exact ⟨.pinned, rfl, rfl⟩

/-- What an elevating decision writes. -/
theorem elevated_site {publisher : PublisherPubkey} {snapshot : Option RetainedIdentity}
    {site : Option RetainedSite} (isSnapshot : SnapshotOf publisher snapshot site)
    {decision : UserDecision} (elevates : (resolve publisher snapshot decision).intent.Elevates) :
    ∃ provenance replaced,
      (resolve publisher snapshot decision).intent.applyTo site =
        some ⟨⟨publisher, provenance⟩, replaced⟩ ∧
      (ReplacesUnverified publisher snapshot decision →
        provenance = .pinned ∧ (resolve publisher snapshot decision).state = .firstContact) ∧
      (¬ ReplacesUnverified publisher snapshot decision →
        provenance.state = (resolve publisher snapshot decision).state) := by
  cases snapshot with
  | none =>
      obtain ⟨provenance, replaced, written, state⟩ := elevated_firstContact isSnapshot elevates
      have unreplaced : ¬ ReplacesUnverified publisher none decision := by
        simp [ReplacesUnverified]
      exact ⟨provenance, replaced, written, fun replaces => absurd replaces unreplaced,
        fun _ => state⟩
  | some retained =>
      obtain ⟨replaced, rfl⟩ : ∃ replaced, site = some ⟨retained, replaced⟩ := by
        rcases isSnapshot with current | ⟨absent, _⟩
        · obtain ⟨found, isSite, rfl⟩ := Option.map_eq_some_iff.mp current.symm
          exact ⟨found.replaced, isSite⟩
        · cases absent
      by_cases same : retained.pubkey = publisher
      · rw [resolve_matched same] at elevates ⊢
        obtain ⟨provenance, written, state⟩ := elevated_matched same elevates replaced
        have unreplaced : ¬ ReplacesUnverified publisher (some retained) decision := by
          simp [ReplacesUnverified, same]
        exact ⟨provenance, replaced, written, fun replaces => absurd replaces unreplaced,
          fun _ => state⟩
      · rw [resolve_mismatch same] at elevates ⊢
        cases decision with
        | none | pinFirstContact | rejectNewIdentity => exact absurd rfl elevates.1
        | confirmNewIdentity =>
            refine ⟨.pinned, retained.pubkey :: replaced, rfl, fun _ => ⟨rfl, rfl⟩, fun other => ?_⟩
            exact absurd ⟨rfl, retained, rfl, same⟩ other
        | confirmPip =>
            refine ⟨.externallyVerified, retained.pubkey :: replaced, rfl, fun replaces => ?_,
              fun _ => rfl⟩
            cases replaces.1

/-- A decision that elevates nothing shows what the snapshot resolves to anyway. -/
theorem unelevated_state {publisher : PublisherPubkey} {snapshot : Option RetainedIdentity}
    {decision : UserDecision}
    (unelevated : ¬ (resolve publisher snapshot decision).intent.Elevates) :
    ¬ ReplacesUnverified publisher snapshot decision ∧
      (resolve publisher snapshot decision).state = (resolve publisher snapshot .none).state ∧
      ((resolve publisher snapshot decision).intent = .none ∨
        (snapshot = none ∧
          (resolve publisher snapshot decision).intent = .recordObservation publisher)) := by
  cases snapshot with
  | none =>
      have unreplaced : ¬ ReplacesUnverified publisher none decision := by
        simp [ReplacesUnverified]
      cases decision with
      | none | confirmNewIdentity | rejectNewIdentity =>
          exact ⟨unreplaced, rfl, .inr ⟨rfl, rfl⟩⟩
      | confirmPip | pinFirstContact =>
          exact absurd (by simp [firstContact, PersistenceIntent.Elevates]) unelevated
  | some retained =>
      by_cases same : retained.pubkey = publisher
      · rw [resolve_matched same] at unelevated ⊢
        rw [resolve_matched same]
        have unreplaced : ¬ ReplacesUnverified publisher (some retained) decision := by
          simp [ReplacesUnverified, same]
        obtain ⟨key, provenance⟩ := retained
        cases decision <;> cases provenance <;>
          first
          | exact ⟨unreplaced, rfl, .inl rfl⟩
          | exact absurd (by simp [matched, PersistenceIntent.Elevates]) unelevated
      · rw [resolve_mismatch same] at unelevated ⊢
        rw [resolve_mismatch same]
        cases decision with
        | none | pinFirstContact | rejectNewIdentity =>
            refine ⟨?_, rfl, .inl rfl⟩
            rintro ⟨confirmed, _⟩
            cases confirmed
        | confirmNewIdentity | confirmPip =>
            exact absurd (by simp [mismatch, PersistenceIntent.Elevates]) unelevated

/-- A decision that elevates nothing leaves a record alone. -/
theorem unelevated_site {publisher : PublisherPubkey} {snapshot : Option RetainedIdentity}
    {decision : UserDecision}
    (unelevated : ¬ (resolve publisher snapshot decision).intent.Elevates)
    (site : RetainedSite) :
    siteAfter (resolve publisher snapshot decision).intent true (some site) = some site := by
  obtain ⟨_, _, intent⟩ := unelevated_state unelevated
  rcases intent with none_ | ⟨_, observation⟩
  · rw [none_]
    rfl
  · rw [observation]
    rfl

/-- Nothing is elevated without a decision. -/
theorem unelevated_none (publisher : PublisherPubkey) (snapshot : Option RetainedIdentity) :
    ¬ (resolve publisher snapshot .none).intent.Elevates := by
  cases snapshot with
  | none => exact fun elevates => elevates.2 publisher rfl
  | some retained =>
      by_cases same : retained.pubkey = publisher
      · rw [resolve_matched same]
        exact fun elevates => elevates.1 (matched_none publisher retained).2
      · rw [resolve_mismatch same]
        exact fun elevates => elevates.1 rfl

/-- A decision keeps a snapshot, unless it stores an elevation and does not read it
back. -/
theorem SnapshotOf.decided {publisher : PublisherPubkey} {snapshot : Option RetainedIdentity}
    {site : Option RetainedSite} (isSnapshot : SnapshotOf publisher snapshot site)
    (decision : UserDecision) (applied reloaded : Bool)
    (read : (resolve publisher snapshot decision).intent.Elevates →
      applied = true → reloaded = true) :
    let after := siteAfter (resolve publisher snapshot decision).intent applied site
    SnapshotOf publisher (snapshotAfter reloaded snapshot after) after := by
  cases reloaded with
  | true => exact .inl rfl
  | false =>
      intro after
      change SnapshotOf publisher snapshot after
      cases applied with
      | false => exact isSnapshot
      | true =>
          have unelevated : ¬ (resolve publisher snapshot decision).intent.Elevates :=
            fun elevates => by cases read elevates rfl
          obtain ⟨_, _, intent⟩ := unelevated_state unelevated
          rcases intent with none_ | ⟨absent, observation⟩
          · have unchanged : after = site := by
              simp only [after, none_]
              rfl
            rw [unchanged]
            exact isSnapshot
          · have observed : after = siteAfter (.recordObservation publisher) true site := by
              simp only [after, observation]
            rw [observed, absent]
            exact snapshotOf_observation (absent ▸ isSnapshot) true

/-- One decision, whose two calls may fail unless it elevates something. -/
theorem decision_shown {publisher : PublisherPubkey} {snapshot : Option RetainedIdentity}
    {site : Option RetainedSite} (isSnapshot : SnapshotOf publisher snapshot site)
    (decision : UserDecision) (applied reloaded : Bool)
    (stored : (resolve publisher snapshot decision).intent.Elevates →
      applied = true ∧ reloaded = true) :
    let after := siteAfter (resolve publisher snapshot decision).intent applied site
    (ReplacesUnverified publisher snapshot decision →
        (resolve publisher snapshot decision).state = .firstContact ∧
          (resolve publisher (snapshotAfter reloaded snapshot after) .none).state = .tofuPinned) ∧
      (¬ ReplacesUnverified publisher snapshot decision →
        (resolve publisher snapshot decision).state =
          (resolve publisher (snapshotAfter reloaded snapshot after) .none).state) := by
  intro after
  by_cases elevates : (resolve publisher snapshot decision).intent.Elevates
  · obtain ⟨rfl, rfl⟩ := stored elevates
    obtain ⟨provenance, replaced, applied, unverified, otherwise⟩ :=
      elevated_site isSnapshot elevates
    have isAfter : after = some ⟨⟨publisher, provenance⟩, replaced⟩ := applied
    have reread : snapshotAfter true snapshot after = some ⟨publisher, provenance⟩ := by
      rw [isAfter]
      rfl
    rw [reread, resolve_own]
    refine ⟨fun replaces => ?_, fun other => (otherwise other).symm⟩
    obtain ⟨rfl, state⟩ := unverified replaces
    exact ⟨state, rfl⟩
  · obtain ⟨unreplaced, state, _⟩ := unelevated_state elevates
    refine ⟨fun replaces => absurd replaces unreplaced, fun _ => ?_⟩
    have unread : SnapshotOf publisher snapshot after :=
      isSnapshot.decided decision applied false fun elevated => absurd elevated elevates
    have read := unread.reload reloaded
    rw [state, ← unread.state_eq, ← read.state_eq]

/-! ### A verification -/

theorem resolve_confirmPip (presented : PublisherPubkey) (retained : Option RetainedIdentity) :
    (resolve presented retained .confirmPip).state = .externallyVerified := by
  cases retained with
  | none => rfl
  | some record =>
      by_cases same : record.pubkey = presented
      · obtain ⟨key, provenance⟩ := record
        rw [resolve_matched same]
        cases provenance <;> rfl
      · rw [resolve_mismatch same]
        rfl

/-- A verification on a first contact is written to the site. -/
theorem verified_site {publisher : PublisherPubkey} {snapshot : Option RetainedIdentity}
    {site : Option RetainedSite} (isSnapshot : SnapshotOf publisher snapshot site)
    (undecided : (resolve publisher snapshot .none).state = .firstContact) :
    ∃ replaced, siteAfter (resolve publisher snapshot .confirmPip).intent true site =
      some ⟨⟨publisher, .externallyVerified⟩, replaced⟩ := by
  have elevates : (resolve publisher snapshot .confirmPip).intent.Elevates := by
    by_contra unelevated
    have same := (unelevated_state unelevated).2.1
    rw [resolve_confirmPip, undecided] at same
    cases same
  have verified : ¬ ReplacesUnverified publisher snapshot .confirmPip := by
    rintro ⟨confirmed, _⟩
    cases confirmed
  obtain ⟨provenance, replaced, applied, _, otherwise⟩ := elevated_site isSnapshot elevates
  have state := (otherwise verified).trans (resolve_confirmPip _ _)
  obtain rfl : provenance = .externallyVerified := by
    cases provenance <;> first | rfl | cases state
  exact ⟨replaced, applied⟩

end EntangledClient
