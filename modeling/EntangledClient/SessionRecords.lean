import EntangledClient.AntiDowngrade

/-!
# What a session records

A window appends the record of its document with every intent that it persists: the
observation at load time, and each decision that pins, confirms or replaces.  How often
that is can be read off what the site retained before and the decisions.
-/

namespace EntangledClient

open CallTree ExceptRules

variable {T : CoreTypes} {σ : Type}

/-! ### What a session persists, by its decisions -/

/-- The decision comes before the first `ConfirmPip`, and there is one. -/
def ConfirmedAfter (decision : UserDecision) (decisions : List UserDecision) : Prop :=
  decision ∈ decisions.takeWhile (· ≠ .confirmPip) ∧ .confirmPip ∈ decisions

/-- The session persists an intent, at load time or by a decision. -/
def Loaded.Records (loaded : Loaded T) (decisions : List UserDecision) : Prop :=
  match loaded.retained with
  | none => True
  | some retained =>
      if retained.pubkey = loaded.publisher then
        ∃ decision ∈ decisions, decision.raises retained.provenance
      else ∃ decision ∈ decisions, decision.confirms

/-- The session persists a second intent: a first contact that is pinned or confirmed, or
a `ConfirmPip` after the decision that pinned or replaced. -/
def Loaded.RecordsAgain (loaded : Loaded T) (decisions : List UserDecision) : Prop :=
  match loaded.retained with
  | none => ∃ decision ∈ decisions, decision.raises .observed
  | some retained =>
      if retained.pubkey = loaded.publisher then
        retained.provenance = .observed ∧ ConfirmedAfter .pinFirstContact decisions
      else ConfirmedAfter .confirmNewIdentity decisions

/-- How many intents a window persists, from what its site retains. -/
def persistedCount (presented : PublisherPubkey) :
    Option RetainedSite → List UserDecision → Nat
  | _, [] => 0
  | retained, decision :: decisions =>
      let intent := (resolve presented (retained.map (·.identity)) decision).intent
      (if intent = .none then 0 else 1) +
        persistedCount presented (intent.applyTo retained) decisions

section Counts

variable (presented : PublisherPubkey) (replaced : List PublisherPubkey)
  (decisions : List UserDecision)

/-- A verified identity is final for its key. -/
theorem persistedCount_verified :
    persistedCount presented (some ⟨⟨presented, .externallyVerified⟩, replaced⟩)
      decisions = 0 := by
  induction decisions with
  | nil => rfl
  | cons decision decisions ih =>
      cases decision <;>
        simpa [persistedCount, resolve, matched, PersistenceIntent.applyTo] using ih

theorem persistedCount_pinned :
    persistedCount presented (some ⟨⟨presented, .pinned⟩, replaced⟩) decisions =
      if .confirmPip ∈ decisions then 1 else 0 := by
  induction decisions with
  | nil => rfl
  | cons decision decisions ih =>
      cases decision with
      | confirmPip =>
          simp [persistedCount, resolve, matched, PersistenceIntent.applyTo, replacedAt,
            persistedCount_verified]
      | none | pinFirstContact | confirmNewIdentity | rejectNewIdentity =>
          simpa [persistedCount, resolve, matched, PersistenceIntent.applyTo] using ih

theorem persistedCount_observed :
    (persistedCount presented (some ⟨⟨presented, .observed⟩, replaced⟩) decisions = 0 ↔
      ¬ ∃ decision ∈ decisions, decision.raises .observed) ∧
    (persistedCount presented (some ⟨⟨presented, .observed⟩, replaced⟩) decisions ≤ 1 ↔
      ¬ ConfirmedAfter .pinFirstContact decisions) := by
  induction decisions with
  | nil => simp [persistedCount, ConfirmedAfter]
  | cons decision decisions ih =>
      cases decision with
      | confirmPip =>
          simp [persistedCount, resolve, matched, PersistenceIntent.applyTo, replacedAt,
            persistedCount_verified, UserDecision.raises, ConfirmedAfter]
      | pinFirstContact =>
          by_cases confirmed : .confirmPip ∈ decisions <;>
            simp [persistedCount, resolve, matched, PersistenceIntent.applyTo,
              persistedCount_pinned, UserDecision.raises, ConfirmedAfter, confirmed]
      | none | confirmNewIdentity | rejectNewIdentity =>
          simpa [persistedCount, resolve, matched, PersistenceIntent.applyTo,
            UserDecision.raises, ConfirmedAfter] using ih

theorem persistedCount_mismatch {retained : RetainedIdentity}
    (different : retained.pubkey ≠ presented) :
    (persistedCount presented (some ⟨retained, replaced⟩) decisions = 0 ↔
      ¬ ∃ decision ∈ decisions, decision.confirms) ∧
    (persistedCount presented (some ⟨retained, replaced⟩) decisions ≤ 1 ↔
      ¬ ConfirmedAfter .confirmNewIdentity decisions) := by
  induction decisions with
  | nil => simp [persistedCount, ConfirmedAfter]
  | cons decision decisions ih =>
      cases decision with
      | confirmPip =>
          simp [persistedCount, resolve, different, mismatch, PersistenceIntent.applyTo,
            persistedCount_verified, UserDecision.confirms, ConfirmedAfter]
      | confirmNewIdentity =>
          by_cases confirmed : .confirmPip ∈ decisions <;>
            simp [persistedCount, resolve, different, mismatch, PersistenceIntent.applyTo,
              persistedCount_pinned, UserDecision.confirms, ConfirmedAfter, confirmed]
      | none | pinFirstContact | rejectNewIdentity =>
          simpa [persistedCount, resolve, different, mismatch, PersistenceIntent.applyTo,
            UserDecision.confirms, ConfirmedAfter] using ih

end Counts

/-- The count of a session, its load included, is read off its decisions. -/
theorem persistedCount_session {loaded : Loaded T} {site : Option RetainedSite}
    (snapshot : loaded.retained = site.map (·.identity)) (decisions : List UserDecision) :
    (persistedCount loaded.publisher site (.none :: decisions) = 0 ↔
      ¬ loaded.Records decisions) ∧
    (persistedCount loaded.publisher site (.none :: decisions) ≤ 1 ↔
      ¬ loaded.RecordsAgain decisions) := by
  cases site with
  | none =>
      have observed := (persistedCount_observed loaded.publisher [] decisions).1
      simp only [Option.map_none] at snapshot
      simp only [persistedCount, Option.map_none, resolve_none, firstContact,
        PersistenceIntent.applyTo, Option.getD_none, Loaded.Records, Loaded.RecordsAgain,
        snapshot, ← observed, reduceCtorEq, if_false]
      constructor
      · simp
      · omega
  | some site =>
      obtain ⟨⟨key, provenance⟩, replaced⟩ := site
      simp only [Option.map_some] at snapshot
      by_cases same : key = loaded.publisher
      · subst same
        have silent : (resolve loaded.publisher (some ⟨loaded.publisher, provenance⟩)
            .none).intent = .none := by
          rw [resolve_matched (by rfl)]
          exact (matched_none _ _).2
        simp only [persistedCount, Option.map_some, silent, PersistenceIntent.applyTo,
          Loaded.Records, Loaded.RecordsAgain, snapshot]
        cases provenance with
        | observed => simpa using persistedCount_observed loaded.publisher replaced decisions
        | pinned =>
            by_cases confirmed : .confirmPip ∈ decisions <;>
              simp [persistedCount_pinned, UserDecision.raises, confirmed]
        | externallyVerified => simp [persistedCount_verified, UserDecision.raises]
      · have silent : (resolve loaded.publisher (some ⟨key, provenance⟩) .none).intent =
            .none := by
          rw [resolve_mismatch same]
          rfl
        simp only [persistedCount, Option.map_some, silent, PersistenceIntent.applyTo,
          Loaded.Records, Loaded.RecordsAgain, snapshot, same]
        have different : (⟨key, provenance⟩ : RetainedIdentity).pubkey ≠ loaded.publisher :=
          same
        simpa using persistedCount_mismatch loaded.publisher replaced decisions different

/-! ### What a session does to histories -/

/-- The payload hashes of a history, newest first. -/
def PublisherHistory.hashes (history : PublisherHistory) : List PayloadHash :=
  history.records.map (·.manifestPayloadHash)

/-- Decisions put the record of the document in front once for each persisted intent. -/
theorem decisions_histories {loaded : Loaded T} {record : RetainedManifestRecord}
    (derived : loaded.record = some record) (decisions : List UserDecision)
    (view : StoreView) :
    ((decisions.foldl (fun current decision => current.decide loaded decision)
        view).histories loaded.publisher).records =
      List.replicate
          (persistedCount loaded.publisher (view.sites loaded.site) decisions) record ++
        (view.histories loaded.publisher).records := by
  induction decisions generalizing view with
  | nil => rfl
  | cons decision decisions ih =>
      have identity : (view.sites loaded.site).map (·.identity) = view.identity loaded.site :=
        rfl
      rw [List.foldl_cons, ih]
      simp only [StoreView.decide, persistedCount, StoreView.sites_persist,
        StoreView.sites_apply_same, StoreView.histories_persist, derived, identity]
      rcases resolve_publisher loaded.publisher (view.identity loaded.site) decision with
        silent | about
      · simp [silent, PersistenceIntent.publisher]
      · have persists : (resolve loaded.publisher (view.identity loaded.site)
            decision).intent ≠ .none := by
          intro silent
          rw [silent] at about
          cases about
        simp [about, persists, Nat.add_comm 1, List.replicate_succ']

/-- The load-time intent is that of the absent decision. -/
theorem LoadedFrom.visit_eq {core : Core T} {history : PublisherHistory} {loaded : Loaded T}
    {manifest : T.Manifest} (from_ : LoadedFrom core history loaded manifest)
    {view : StoreView} (snapshot : loaded.retained = view.identity loaded.site)
    (decisions : List UserDecision) :
    view.visit loaded decisions =
      (UserDecision.none :: decisions).foldl
        (fun current decision => current.decide loaded decision) view := by
  rw [StoreView.visit, from_.initialIntent, snapshot]
  rfl

/-- A session of an accepted document with a record puts that in front of its
publisher's history once for each persisted intent, and changes no other history. -/
theorem visit_histories {core : Core T} {history : PublisherHistory} {loaded : Loaded T}
    {manifest : T.Manifest} (from_ : LoadedFrom core history loaded manifest)
    {view : StoreView} (snapshot : loaded.retained = view.identity loaded.site)
    {record : RetainedManifestRecord} (derived : loaded.record = some record)
    (decisions : List UserDecision) :
    ∃ count, ((view.visit loaded decisions).histories loaded.publisher).records =
        List.replicate count record ++ (view.histories loaded.publisher).records ∧
      (count = 0 ↔ ¬ loaded.Records decisions) ∧
      (count ≤ 1 ↔ ¬ loaded.RecordsAgain decisions) := by
  refine ⟨_, ?_, persistedCount_session snapshot decisions⟩
  rw [from_.visit_eq snapshot, decisions_histories derived]

/-- Without a record no history changes. -/
theorem visit_histories_none {core : Core T} {history : PublisherHistory}
    {loaded : Loaded T} {manifest : T.Manifest}
    (from_ : LoadedFrom core history loaded manifest) {view : StoreView}
    (snapshot : loaded.retained = view.identity loaded.site) (derived : loaded.record = none)
    (decisions : List UserDecision) :
    (view.visit loaded decisions).histories = view.histories := by
  rw [from_.visit_eq snapshot]
  clear snapshot
  generalize UserDecision.none :: decisions = given
  induction given generalizing view with
  | nil => rfl
  | cons decision given ih =>
      rw [List.foldl_cons, ih]
      funext publisher
      simp [StoreView.decide, StoreView.histories_persist, derived]

/-- Every history of the one view ends in that of the other. -/
def StoreView.GrownFrom (after before : StoreView) : Prop :=
  ∀ publisher, (before.histories publisher).records <:+ (after.histories publisher).records

theorem StoreView.GrownFrom.refl (view : StoreView) : view.GrownFrom view :=
  fun _ => List.suffix_rfl

theorem StoreView.GrownFrom.trans {first second third : StoreView}
    (later : third.GrownFrom second) (earlier : second.GrownFrom first) :
    third.GrownFrom first :=
  fun publisher => (earlier publisher).trans (later publisher)

theorem persist_grownFrom (loaded : Loaded T) (intent : PersistenceIntent)
    (view : StoreView) : (view.persist loaded intent).GrownFrom view := by
  intro publisher
  rw [StoreView.histories_persist]
  cases loaded.record with
  | none => exact List.suffix_rfl
  | some record =>
      by_cases about : intent.publisher = some publisher
      · simp [about]
      · simp [about]

theorem decisions_grownFrom (loaded : Loaded T) (decisions : List UserDecision)
    (view : StoreView) :
    (decisions.foldl (fun current decision => current.decide loaded decision)
      view).GrownFrom view := by
  induction decisions generalizing view with
  | nil => exact .refl view
  | cons decision decisions ih => exact (ih _).trans (persist_grownFrom loaded _ view)

namespace Shell

variable {core : Core T}

theorem runSession_grownFrom (shell : Shell StoreView T) (script : SessionScript) :
    (shell.runSession core viewHandler script).store.GrownFrom shell.store := by
  rw [runSession_view]
  cases shell.store.build core script.request with
  | error message => exact .refl _
  | ok loaded =>
      exact (decisions_grownFrom loaded script.decisions _).trans
        (persist_grownFrom loaded _ shell.store)

theorem runAll_grownFrom (shell : Shell StoreView T) (scripts : List SessionScript) :
    (shell.runAll core viewHandler scripts).store.GrownFrom shell.store := by
  induction scripts generalizing shell with
  | nil => exact .refl _
  | cons script scripts ih => exact (ih _).trans (runSession_grownFrom shell script)

end Shell

/-! ### Runs and their moments -/

/-- A run as far as some moment: whole sessions, then the first decisions of one more. -/
inductive UpTo : List SessionScript → List SessionScript → Prop
  | start (scripts : List SessionScript) : UpTo [] scripts
  | within {decisions : List UserDecision} (script : SessionScript)
      (taken : decisions <+: script.decisions) (scripts : List SessionScript) :
      UpTo [⟨script.request, decisions⟩] (script :: scripts)
  | after (script : SessionScript) {moment scripts : List SessionScript}
      (rest : UpTo moment scripts) : UpTo (script :: moment) (script :: scripts)

theorem UpTo.refl (scripts : List SessionScript) : UpTo scripts scripts := by
  induction scripts with
  | nil => exact .start []
  | cons script scripts ih => exact .after script ih

/-- What a run recorded by some moment stays recorded. -/
theorem UpTo.grownFrom {core : Core T} {moment scripts : List SessionScript}
    (upTo : UpTo moment scripts) (shell : Shell StoreView T) :
    (shell.runAll core viewHandler scripts).store.GrownFrom
      (shell.runAll core viewHandler moment).store := by
  induction upTo generalizing shell with
  | start scripts => exact shell.runAll_grownFrom scripts
  | within script taken scripts =>
      obtain ⟨later, same⟩ := taken
      have rest := @Shell.runAll_grownFrom T core
        (shell.runSession core viewHandler script) scripts
      refine rest.trans ?_
      simp only [Shell.runAll, List.foldl_cons, List.foldl_nil, Shell.runSession_view]
      cases shell.store.build core script.request with
      | error message => exact .refl _
      | ok loaded =>
          simp only [StoreView.visit, ← same, List.foldl_append]
          exact decisions_grownFrom loaded later _
  | after script rest ih => exact ih _

end EntangledClient
