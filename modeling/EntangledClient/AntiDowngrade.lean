import EntangledClient.PublisherHistoryDiscipline
import EntangledClient.SampleSessions
import EntangledClient.TrustTrace

/-!
# Anti-downgrade across sessions

The checks of a later session run against the newest record of the publisher's
history, so they protect an accepted manifest only if the session that accepted
it left its record there.  A session at a site that already retains the key
persists nothing unless a decision raises the provenance, and then the accepted
manifest is not recorded.
-/

namespace EntangledClient

open CallTree

variable {T : CoreTypes} {σ : Type}

/-! ### What a session does to histories -/

/-- The publisher's history changed, if at all, by the record of the document. -/
structure ExtendedBy (loaded : Loaded T) (before after : StoreView) : Prop where
  other : ∀ publisher, publisher ≠ loaded.publisher →
    after.histories publisher = before.histories publisher
  newest : (after.histories loaded.publisher).newest =
      (before.histories loaded.publisher).newest ∨
    (loaded.record.isSome ∧ (after.histories loaded.publisher).newest = loaded.record)

theorem ExtendedBy.refl (loaded : Loaded T) (view : StoreView) :
    ExtendedBy loaded view view :=
  ⟨fun _ _ => rfl, .inl rfl⟩

theorem ExtendedBy.trans {loaded : Loaded T} {first second third : StoreView}
    (left : ExtendedBy loaded first second) (right : ExtendedBy loaded second third) :
    ExtendedBy loaded first third := by
  refine ⟨fun publisher different => ?_, ?_⟩
  · rw [right.other publisher different, left.other publisher different]
  · rcases right.newest with kept | recorded
    · rw [kept]
      exact left.newest
    · exact .inr recorded

/-- An intent of a resolution extends the history by the record, unless it is `none`. -/
theorem persist_extendedBy {loaded : Loaded T} {intent : PersistenceIntent}
    (about : intent = .none ∨ intent.publisher = some loaded.publisher) (view : StoreView) :
    ExtendedBy loaded view (view.persist loaded intent) ∧
      (intent ≠ .none → loaded.record.isSome →
        ((view.persist loaded intent).histories loaded.publisher).newest = loaded.record) := by
  rcases about with rfl | about
  · simpa using ExtendedBy.refl loaded view
  · cases derived : loaded.record with
    | none =>
        refine ⟨⟨fun publisher different => ?_, .inl ?_⟩, by simp⟩
        · simp [StoreView.histories_persist, derived]
        · simp [StoreView.histories_persist, derived]
    | some record =>
        refine ⟨⟨fun publisher different => ?_, .inr ⟨derived ▸ rfl, ?_⟩⟩, fun _ _ => ?_⟩
        · simp [StoreView.histories_persist, derived, about, Ne.symm different]
        · simp [StoreView.histories_persist, derived, about]
        · simp [StoreView.histories_persist, derived, about]

theorem decide_extendedBy (loaded : Loaded T) (decision : UserDecision) (view : StoreView) :
    ExtendedBy loaded view (view.decide loaded decision) :=
  (persist_extendedBy (resolve_publisher _ _ _) view).1

theorem decisions_extendedBy (loaded : Loaded T) (decisions : List UserDecision)
    (view : StoreView) :
    ExtendedBy loaded view
      (decisions.foldl (fun current decision => current.decide loaded decision) view) := by
  induction decisions generalizing view with
  | nil => exact .refl loaded view
  | cons decision decisions ih =>
      exact (decide_extendedBy loaded decision view).trans (ih _)

/-- Once recorded, the document stays the newest through further decisions. -/
theorem decisions_keep_newest {loaded : Loaded T} {view : StoreView}
    (recorded : (view.histories loaded.publisher).newest = loaded.record)
    (decisions : List UserDecision) :
    ((decisions.foldl (fun current decision => current.decide loaded decision)
      view).histories loaded.publisher).newest = loaded.record := by
  rcases (decisions_extendedBy loaded decisions view).newest with kept | ⟨-, extended⟩
  · rw [kept, recorded]
  · exact extended

/-- A decision whose intent is not `none` gets the document recorded, by itself
or by an earlier one. -/
theorem decisions_record {loaded : Loaded T} (derived : loaded.record.isSome)
    {decision : UserDecision} {decisions : List UserDecision}
    (given : decision ∈ decisions) {view : StoreView}
    (persists : (resolve loaded.publisher (view.identity loaded.site) decision).intent ≠ .none) :
    ((decisions.foldl (fun current decision => current.decide loaded decision)
      view).histories loaded.publisher).newest = loaded.record := by
  induction decisions generalizing view with
  | nil => cases given
  | cons first decisions ih =>
      by_cases silent :
          (resolve loaded.publisher (view.identity loaded.site) first).intent = .none
      · have unchanged : view.decide loaded first = view := by
          rw [StoreView.decide, silent, StoreView.persist_none]
        rw [List.foldl_cons, unchanged]
        rcases List.mem_cons.mp given with rfl | later
        · exact absurd silent persists
        · exact ih later persists
      · exact decisions_keep_newest
          ((persist_extendedBy (resolve_publisher _ _ _) view).2 silent derived) decisions

/-- Decisions without intents leave the view alone. -/
theorem decisions_silent {loaded : Loaded T} {decisions : List UserDecision}
    {view : StoreView}
    (silent : ∀ decision ∈ decisions,
      (resolve loaded.publisher (view.identity loaded.site) decision).intent = .none) :
    decisions.foldl (fun current decision => current.decide loaded decision) view = view := by
  induction decisions with
  | nil => rfl
  | cons first decisions ih =>
      have unchanged : view.decide loaded first = view := by
        rw [StoreView.decide, silent first (List.mem_cons_self ..), StoreView.persist_none]
      rw [List.foldl_cons, unchanged]
      exact ih fun decision later => silent decision (List.mem_cons_of_mem _ later)

theorem visit_extendedBy {core : Core T} {history : PublisherHistory} {loaded : Loaded T}
    {manifest : T.Manifest} (from_ : LoadedFrom core history loaded manifest)
    (decisions : List UserDecision) (view : StoreView) :
    ExtendedBy loaded view (view.visit loaded decisions) := by
  have opened : ExtendedBy loaded view (view.persist loaded loaded.initialIntent) := by
    rw [from_.initialIntent]
    exact (persist_extendedBy (resolve_publisher _ _ _) view).1
  exact opened.trans (decisions_extendedBy loaded decisions _)

/-! ### Accepted records and what bars a downgrade -/

/-- The record of a visit that was accepted without a mismatch. -/
def Visit.acceptedRecord (visit : Visit T) : Option RetainedManifestRecord :=
  if visit.loaded.chrome.trustState = .changedMismatch then none else visit.loaded.record

/-- The records so accepted for a publisher, oldest first. -/
def acceptedRecords (visits : List (Visit T)) (publisher : PublisherPubkey) :
    List RetainedManifestRecord :=
  visits.filterMap fun visit =>
    if visit.loaded.publisher = publisher then visit.acceptedRecord else none

/-- A load accepts no manifest issued before one accepted earlier for its
publisher, no other one issued at the same time, and no later one under the
runtime key of the last one accepted. -/
def DowngradeBarred (core : Core T) (handler : Handler storeInterface σ)
    (shell : Shell σ T) : Prop :=
  ∀ request loaded store record,
    (build core request).run handler shell.store = (.ok (.ok loaded), store) →
    loaded.record = some record →
    (∀ accepted ∈ acceptedRecords shell.visits loaded.publisher,
      accepted.issuedAt ≤ record.issuedAt ∧
      (accepted.issuedAt = record.issuedAt →
        accepted.manifestPayloadHash = record.manifestPayloadHash)) ∧
    (∀ last ∈ (acceptedRecords shell.visits loaded.publisher).getLast?,
      last.issuedAt < record.issuedAt → last.runtimePubkey ≠ record.runtimePubkey)

/-- A session at a site that retains the presented key either finds the
manifest's record newest in the history or is given a decision that raises the
provenance.  A session at a site that retains another key is given no
confirmation, unless no manifest of the publisher was accepted before, or the
last one was this. -/
def RecordsWhatItAccepts (core : Core T) (handler : Handler storeInterface σ)
    (shell : Shell σ T) (script : SessionScript) : Prop :=
  ∀ loaded store,
    (build core script.request).run handler shell.store = (.ok (.ok loaded), store) →
    ∀ retained ∈ loaded.retained,
      (retained.pubkey = loaded.publisher →
        (∃ decision ∈ script.decisions, decision.raises retained.provenance) ∨
        ∃ history, (handler (.loadHistory loaded.publisher) shell.store).1 = .ok history ∧
          history.newest = loaded.record) ∧
      (retained.pubkey ≠ loaded.publisher →
        (∀ decision ∈ script.decisions, ¬ decision.confirms) ∨
        acceptedRecords shell.visits loaded.publisher = [] ∨
        (acceptedRecords shell.visits loaded.publisher).getLast? = loaded.record)

theorem matched_raises {presented : PublisherPubkey} {retained : RetainedIdentity}
    {decision : UserDecision} (raises : decision.raises retained.provenance) :
    (matched presented retained decision).intent ≠ .none := by
  rcases raises with ⟨rfl, lower⟩ | ⟨rfl, observed⟩
  · simp [matched, lower]
  · simp [matched, observed]

theorem mismatch_silent {presented : PublisherPubkey} {retained : RetainedIdentity}
    {decision : UserDecision} (unconfirmed : ¬ decision.confirms) :
    (mismatch presented retained decision).intent = .none := by
  cases decision <;> simp_all [UserDecision.confirms, mismatch]

theorem LoadedFrom.changedMismatch_iff {core : Core T} {history : PublisherHistory}
    {loaded : Loaded T} {manifest : T.Manifest}
    (from_ : LoadedFrom core history loaded manifest) :
    loaded.chrome.trustState = .changedMismatch ↔
      ∃ retained ∈ loaded.retained, retained.pubkey ≠ loaded.publisher := by
  rw [from_.trustState]
  exact resolve_changedMismatch_iff loaded.publisher loaded.retained

/-! ### The invariant -/

/-- The last record accepted for a publisher is the newest of its history, and
none was issued after it. -/
structure Floor (core : Core T) (view : StoreView) (visits : List (Visit T)) : Prop where
  derived : ∀ publisher, ∀ accepted ∈ acceptedRecords visits publisher,
    ∃ manifest, core.recordFor manifest = some accepted
  newest : ∀ publisher, ∀ last ∈ (acceptedRecords visits publisher).getLast?,
    (view.histories publisher).newest = some last
  below : ∀ publisher, ∀ accepted ∈ acceptedRecords visits publisher,
    ∀ newest ∈ (view.histories publisher).newest,
      accepted.issuedAt ≤ newest.issuedAt ∧
      (accepted.issuedAt = newest.issuedAt →
        accepted.manifestPayloadHash = newest.manifestPayloadHash)

theorem Floor.start (core : Core T) (view : StoreView) : Floor core view [] where
  derived := by simp [acceptedRecords]
  newest := by simp [acceptedRecords]
  below := by simp [acceptedRecords]

theorem Floor.newest_of_accepted {core : Core T} {view : StoreView}
    {visits : List (Visit T)} (floor : Floor core view visits)
    {publisher : PublisherPubkey} {accepted : RetainedManifestRecord}
    (member : accepted ∈ acceptedRecords visits publisher) :
    ∃ newest, (view.histories publisher).newest = some newest ∧
      (acceptedRecords visits publisher).getLast? = some newest := by
  cases isLast : (acceptedRecords visits publisher).getLast? with
  | none =>
      rw [List.getLast?_eq_none_iff] at isLast
      simp [isLast] at member
  | some last => exact ⟨last, floor.newest publisher last isLast, rfl⟩

/-- What the history checks say about a manifest with a record, against a newest
record. -/
theorem checked_against_newest {core : Core T} (rejects : core.ChecksReject)
    {manifest : T.Manifest} {record newest : RetainedManifestRecord}
    {history : PublisherHistory} (derived : core.recordFor manifest = some record)
    (isNewest : history.newest = some newest)
    (checked : core.checkAgainstHistory manifest history = .ok ()) :
    newest.issuedAt ≤ record.issuedAt ∧
    (newest.issuedAt = record.issuedAt →
      newest.manifestPayloadHash = record.manifestPayloadHash) ∧
    (newest.manifestPayloadHash ≠ record.manifestPayloadHash →
      newest.issuedAt < record.issuedAt → newest.runtimePubkey ≠ record.runtimePubkey) := by
  obtain ⟨notEarlier, noTwin, rotated⟩ :=
    (Core.checkAgainstHistory_eq_ok derived history).mp checked
  rw [rejects.antiDowngrade_ok, isNewest] at notEarlier
  rw [isNewest] at noTwin rotated
  refine ⟨notEarlier newest.issuedAt rfl, fun sameTime => ?_, fun otherHash later sameKey => ?_⟩
  · by_contra otherHash
    obtain ⟨d, rejected⟩ := rejects.conflict record.issuedAt record.runtimePubkey
      record.manifestPayloadHash newest sameTime.symm (Ne.symm otherHash)
    rw [rejected] at noTwin
    cases noTwin
  · have passed := rotated (by simpa using otherHash)
    obtain ⟨d, rejected⟩ := rejects.rotation record.runtimePubkey record.issuedAt newest
      history.extended sameKey.symm later
    rw [rejected] at passed
    cases passed

/-- No accepted record is issued after a manifest that passes the checks. -/
theorem Floor.le_checked {core : Core T} (rejects : core.ChecksReject) {view : StoreView}
    {visits : List (Visit T)} (floor : Floor core view visits)
    {publisher : PublisherPubkey} {accepted record : RetainedManifestRecord}
    (member : accepted ∈ acceptedRecords visits publisher) {manifest : T.Manifest}
    (derived : core.recordFor manifest = some record)
    (checked : core.checkAgainstHistory manifest (view.histories publisher) = .ok ()) :
    accepted.issuedAt ≤ record.issuedAt ∧
      (accepted.issuedAt = record.issuedAt →
        accepted.manifestPayloadHash = record.manifestPayloadHash) := by
  obtain ⟨newest, isNewest, -⟩ := floor.newest_of_accepted member
  obtain ⟨notEarlier, noTwin, -⟩ := checked_against_newest rejects derived isNewest checked
  obtain ⟨below, sameBelow⟩ := floor.below publisher accepted member newest isNewest
  refine ⟨le_trans below notEarlier, fun sameTime => ?_⟩
  have newestTime : newest.issuedAt = record.issuedAt :=
    le_antisymm notEarlier (sameTime ▸ below)
  rw [sameBelow (sameTime.trans newestTime.symm), noTwin newestTime]

/-- The invariant bars downgrades. -/
theorem Floor.downgradeBarred {core : Core T} (rejects : core.ChecksReject)
    (determines : core.HashDeterminesCanary) (agrees : core.PeekAgrees)
    {shell : Shell StoreView T} (floor : Floor core shell.store shell.visits) :
    DowngradeBarred core viewHandler shell := by
  intro request loaded store record built isRecord
  rw [run_build] at built
  obtain ⟨snapshot, manifest, publisher, from_, peeked⟩ :=
    StoreView.build_eq_ok (Except.ok.inj (Prod.mk.inj built).1)
  obtain rfl := peeked agrees
  have derived : core.recordFor manifest = some record := by rw [← from_.record, isRecord]
  refine ⟨fun accepted member => floor.le_checked rejects member derived from_.checked,
    fun last isLast later => ?_⟩
  have isNewest := floor.newest _ last isLast
  obtain ⟨-, -, rotated⟩ := checked_against_newest rejects derived isNewest from_.checked
  refine rotated (fun sameHash => ?_) later
  obtain ⟨earlier, earlierRecord⟩ := floor.derived _ last (List.mem_of_getLast? isLast)
  obtain rfl := Core.recordFor_eq_of_hash determines earlierRecord derived sameHash
  exact lt_irrefl _ later

theorem acceptedRecords_append (visits : List (Visit T)) (visit : Visit T)
    (publisher : PublisherPubkey) :
    acceptedRecords (visits ++ [visit]) publisher =
      acceptedRecords visits publisher ++
        (if visit.loaded.publisher = publisher then visit.acceptedRecord else none).toList := by
  rw [acceptedRecords, List.filterMap_append, ← acceptedRecords]
  congr 1

/-- A visit that accepts no record keeps the invariant, if it leaves the newest
record of its publisher or no accepted record depends on it. -/
theorem Floor.keep {core : Core T} {view after : StoreView} {visits : List (Visit T)}
    (floor : Floor core view visits) {visit : Visit T}
    (extended : ExtendedBy visit.loaded view after)
    (notAccepted : visit.acceptedRecord = none)
    (harmless :
      (after.histories visit.loaded.publisher).newest =
        (view.histories visit.loaded.publisher).newest ∨
      acceptedRecords visits visit.loaded.publisher = []) :
    Floor core after (visits ++ [visit]) := by
  have sameRecords : ∀ publisher,
      acceptedRecords (visits ++ [visit]) publisher = acceptedRecords visits publisher := by
    intro publisher
    simp [acceptedRecords_append, notAccepted]
  have sameNewest : ∀ publisher, acceptedRecords visits publisher ≠ [] →
      (after.histories publisher).newest = (view.histories publisher).newest := by
    intro publisher some_
    by_cases here : publisher = visit.loaded.publisher
    · subst here
      exact harmless.resolve_right some_
    · rw [extended.other publisher here]
  refine ⟨fun publisher => ?_, fun publisher last isLast => ?_,
    fun publisher accepted member => ?_⟩
  · rw [sameRecords]
    exact floor.derived publisher
  · rw [sameRecords] at isLast
    rw [sameNewest publisher (List.ne_nil_of_mem (List.mem_of_getLast? isLast))]
    exact floor.newest publisher last isLast
  · rw [sameRecords] at member
    rw [sameNewest publisher (List.ne_nil_of_mem member)]
    exact floor.below publisher accepted member

/-- A visit that accepts a record keeps the invariant, if it leaves the record
newest in its publisher's history. -/
theorem Floor.accept {core : Core T} (rejects : core.ChecksReject)
    {view after : StoreView} {visits : List (Visit T)} (floor : Floor core view visits)
    {visit : Visit T} (extended : ExtendedBy visit.loaded view after)
    {record : RetainedManifestRecord} (acceptedRecord : visit.acceptedRecord = some record)
    {manifest : T.Manifest} (derived : core.recordFor manifest = some record)
    (checked : core.checkAgainstHistory manifest
      (view.histories visit.loaded.publisher) = .ok ())
    (recorded : (after.histories visit.loaded.publisher).newest = some record) :
    Floor core after (visits ++ [visit]) := by
  have here : acceptedRecords (visits ++ [visit]) visit.loaded.publisher =
      acceptedRecords visits visit.loaded.publisher ++ [record] := by
    simp [acceptedRecords_append, acceptedRecord]
  have elsewhere : ∀ publisher, publisher ≠ visit.loaded.publisher →
      acceptedRecords (visits ++ [visit]) publisher = acceptedRecords visits publisher ∧
        after.histories publisher = view.histories publisher := by
    intro publisher different
    exact ⟨by simp [acceptedRecords_append, Ne.symm different],
      extended.other publisher different⟩
  refine ⟨fun publisher => ?_, fun publisher => ?_, fun publisher => ?_⟩ <;>
    by_cases same : publisher = visit.loaded.publisher
  · subst same
    rw [here]
    intro accepted member
    rcases List.mem_append.mp member with earlier | new
    · exact floor.derived _ accepted earlier
    · obtain rfl := List.mem_singleton.mp new
      exact ⟨manifest, derived⟩
  · rw [(elsewhere publisher same).1]
    exact floor.derived publisher
  · subst same
    rw [here, List.getLast?_append]
    intro last isLast
    obtain rfl : record = last := by simpa using isLast
    exact recorded
  · rw [(elsewhere publisher same).1, (elsewhere publisher same).2]
    exact floor.newest publisher
  · subst same
    rw [here, recorded]
    intro accepted member newest isNewest
    obtain rfl : record = newest := by simpa using isNewest
    rcases List.mem_append.mp member with earlier | new
    · exact floor.le_checked rejects earlier derived checked
    · obtain rfl := List.mem_singleton.mp new
      exact ⟨le_rfl, fun _ => rfl⟩
  · rw [(elsewhere publisher same).1, (elsewhere publisher same).2]
    exact floor.below publisher

/-- A visit that meets the condition leaves an accepted record newest. -/
theorem visit_records {core : Core T} {view : StoreView} {history : PublisherHistory}
    {loaded : Loaded T} {manifest : T.Manifest}
    (from_ : LoadedFrom core history loaded manifest)
    (snapshot : loaded.retained = view.identity loaded.site)
    {decisions : List UserDecision} (derived : loaded.record.isSome)
    (same : ∀ retained ∈ loaded.retained, retained.pubkey = loaded.publisher)
    (recording : ∀ retained ∈ loaded.retained,
      (∃ decision ∈ decisions, decision.raises retained.provenance) ∨
        (view.histories loaded.publisher).newest = loaded.record) :
    ((view.visit loaded decisions).histories loaded.publisher).newest = loaded.record := by
  rw [StoreView.visit, from_.initialIntent]
  cases retained : loaded.retained with
  | none =>
      apply decisions_keep_newest
      exact (persist_extendedBy (resolve_publisher _ _ _) view).2 (by simp [firstContact])
        derived
  | some identity =>
      have sameKey := same identity retained
      have noIntent : (resolve loaded.publisher (some identity) .none).intent = .none := by
        rw [resolve_matched sameKey]
        exact (matched_none _ _).2
      rw [noIntent, StoreView.persist_none]
      rcases recording identity retained with ⟨decision, given, raises⟩ | recorded
      · refine decisions_record derived given ?_
        rw [← snapshot, retained, resolve_matched sameKey]
        exact matched_raises raises
      · exact decisions_keep_newest recorded decisions

/-- A visit at another key that confirms nothing writes nothing. -/
theorem visit_of_unconfirmed {core : Core T} {view : StoreView} {history : PublisherHistory}
    {loaded : Loaded T} {manifest : T.Manifest}
    (from_ : LoadedFrom core history loaded manifest)
    (snapshot : loaded.retained = view.identity loaded.site) {retained : RetainedIdentity}
    (isRetained : loaded.retained = some retained)
    (different : retained.pubkey ≠ loaded.publisher) {decisions : List UserDecision}
    (unconfirmed : ∀ decision ∈ decisions, ¬ decision.confirms) :
    view.visit loaded decisions = view := by
  have silent : ∀ decision ∈ UserDecision.none :: decisions,
      (resolve loaded.publisher (view.identity loaded.site) decision).intent = .none := by
    intro decision given
    rw [← snapshot, isRetained, resolve_mismatch different]
    rcases List.mem_cons.mp given with rfl | later
    · rfl
    · exact mismatch_silent (unconfirmed decision later)
  have initial : loaded.initialIntent = .none := by
    rw [from_.initialIntent, snapshot]
    exact silent _ (List.mem_cons_self ..)
  simp only [StoreView.visit, initial, StoreView.persist_none]
  rw [decisions_silent fun decision given =>
    silent decision (List.mem_cons_of_mem _ given)]

/-- A session that meets the condition keeps the invariant. -/
theorem Floor.runSession {core : Core T} (rejects : core.ChecksReject)
    (agrees : core.PeekAgrees) {shell : Shell StoreView T}
    (floor : Floor core shell.store shell.visits) {script : SessionScript}
    (recording : RecordsWhatItAccepts core viewHandler shell script) :
    Floor core (shell.runSession core viewHandler script).store
      (shell.runSession core viewHandler script).visits := by
  rw [Shell.runSession_view]
  cases built : shell.store.build core script.request with
  | error message => exact floor
  | ok loaded =>
      obtain ⟨snapshot, manifest, publisher, from_, peeked⟩ := StoreView.build_eq_ok built
      obtain rfl := peeked agrees
      have extended := visit_extendedBy from_ script.decisions shell.store
      have condition := recording loaded shell.store (by rw [run_build, built])
      by_cases mismatched : loaded.chrome.trustState = .changedMismatch
      · obtain ⟨retained, isRetained, different⟩ := from_.changedMismatch_iff.mp mismatched
        have notAccepted : Visit.acceptedRecord ⟨loaded, script.decisions⟩ = none := by
          simp [Visit.acceptedRecord, mismatched]
        refine floor.keep extended notAccepted ?_
        rcases (condition retained isRetained).2 different with
          unconfirmed | noneBefore | lastSame
        · left
          have silent := visit_of_unconfirmed from_ snapshot isRetained different unconfirmed
          simp only [silent]
        · exact .inr noneBefore
        · cases isRecord : loaded.record with
          | none =>
              right
              rwa [isRecord, List.getLast?_eq_none_iff] at lastSame
          | some record =>
              left
              have before := floor.newest _ record (lastSame.trans isRecord)
              rcases extended.newest with kept | ⟨-, changed⟩
              · exact kept
              · rw [before]
                exact changed.trans isRecord
      · have same : ∀ retained ∈ loaded.retained, retained.pubkey = loaded.publisher := by
          intro retained isRetained
          by_contra different
          exact mismatched (from_.changedMismatch_iff.mpr ⟨retained, isRetained, different⟩)
        cases isRecord : loaded.record with
        | none =>
            have notAccepted : Visit.acceptedRecord ⟨loaded, script.decisions⟩ = none := by
              simp [Visit.acceptedRecord, isRecord]
            refine floor.keep extended notAccepted (.inl ?_)
            exact extended.newest.resolve_right fun recorded => by simp [isRecord] at recorded
        | some record =>
            have acceptedRecord : Visit.acceptedRecord ⟨loaded, script.decisions⟩ =
                some record := by
              simp [Visit.acceptedRecord, mismatched, isRecord]
            refine floor.accept rejects extended acceptedRecord
              (by rw [← from_.record, isRecord]) from_.checked ?_
            rw [← isRecord]
            refine visit_records from_ snapshot (by simp [isRecord]) same ?_
            intro retained isRetained
            rcases (condition retained isRetained).1 (same retained isRetained) with
              raised | ⟨history, isHistory, newest⟩
            · exact .inl raised
            · obtain rfl : shell.store.histories loaded.publisher = history := by
                simpa [viewHandler] using isHistory
              exact .inr newest

/-! ### On the files -/

section Files

variable {libs : StoreLibs} (lawful : libs.Lawful) {root : StoreRoot} {core : Core T}
include lawful

theorem downgradeBarred_files {shell : Shell Disk T}
    (valid : root.ValidFiles libs shell.store) :
    DowngradeBarred core (fileHandler libs root) shell ↔
      DowngradeBarred core viewHandler (shell.onView libs root) := by
  constructor
  · intro barred request loaded store record built
    have same := (run_fileHandler lawful (build core request) valid).1
    refine barred request loaded
      ((build core request).run (fileHandler libs root) shell.store).2 record ?_
    exact Prod.ext (same.trans (congrArg Prod.fst built)) rfl
  · intro barred request loaded store record built
    have same := (run_fileHandler lawful (build core request) valid).1
    refine barred request loaded
      ((build core request).run viewHandler (root.view libs shell.store)).2 record ?_
    exact Prod.ext (same.symm.trans (congrArg Prod.fst built)) rfl

theorem recordsWhatItAccepts_files {shell : Shell Disk T}
    (valid : root.ValidFiles libs shell.store) {script : SessionScript} :
    RecordsWhatItAccepts core (fileHandler libs root) shell script ↔
      RecordsWhatItAccepts core viewHandler (shell.onView libs root) script := by
  have sameHistory := fun publisher =>
    (fileHandler_view lawful (.loadHistory publisher) valid).1
  simp only [RecordsWhatItAccepts, sameHistory]
  exact forall_built_files lawful valid script.request

end Files

/-- In every run whose sessions record what they accept, no session lets a later
load accept a downgrade. -/
theorem downgradeBarred_of_recording {libs : StoreLibs} (lawful : libs.Lawful)
    (root : StoreRoot) {core : Core T} (rejects : core.ChecksReject)
    (determines : core.HashDeterminesCanary) (agrees : core.PeekAgrees) {disk : Disk}
    (valid : root.ValidFiles libs disk) {scripts : List SessionScript}
    (recording : (Shell.machine core (fileHandler libs root)).Along
      (fun shell script _ => RecordsWhatItAccepts core (fileHandler libs root) shell script)
      (Shell.fresh disk) scripts) :
    DowngradeBarred core (fileHandler libs root)
      ((Shell.fresh disk).runAll core (fileHandler libs root) scripts) := by
  obtain ⟨validAfter, floor⟩ := recording.invariant_run
    (fun shell => root.ValidFiles libs shell.store ∧
      Floor core (root.view libs shell.store) shell.visits)
    (by
      rintro shell script next ⟨stillValid, floor⟩ taken condition
      obtain rfl := Option.some.inj taken
      obtain ⟨nextValid, sameSession⟩ :=
        Shell.runSession_files core lawful stillValid script
      refine ⟨nextValid, ?_⟩
      have floorOnView : Floor core (shell.onView libs root).store
          (shell.onView libs root).visits := floor
      have stepped := floorOnView.runSession rejects agrees
        ((recordsWhatItAccepts_files lawful stillValid).mp condition)
      rw [← sameSession] at stepped
      exact stepped)
    ⟨valid, Floor.start core (root.view libs disk)⟩
    (Shell.run_machine (Shell.fresh disk) scripts)
  exact (downgradeBarred_files lawful validAfter).mpr
    (Floor.downgradeBarred rejects determines agrees floor)

/-- A first contact, then a newer manifest under another runtime key. -/
def firstVisit : SessionScript :=
  SampleCore.visit ⟨.alpha, 10, 1, 0⟩ []

def laterVisit (decisions : List UserDecision) : SessionScript :=
  SampleCore.visit ⟨.alpha, 30, 2, 0⟩ decisions

/-- The second session pins the identity that the first one observed. -/
theorem downgradeBarred_of_recording_pinned :
    DowngradeBarred SampleCore.core (fileHandler SampleLibs.libs SampleLibs.root)
      ((Shell.fresh SampleLibs.emptyDisk).runAll SampleCore.core
        (fileHandler SampleLibs.libs SampleLibs.root)
        [firstVisit, laterVisit [.pinFirstContact]]) := by
  refine downgradeBarred_of_recording SampleLibs.lawful SampleLibs.root
    SampleCore.checksExact.rejects SampleCore.hashDeterminesCanary SampleCore.peekAgrees
    SampleLibs.emptyDisk_valid ?_
  have startValid : SampleLibs.root.ValidFiles SampleLibs.libs
      (Shell.fresh SampleLibs.emptyDisk : Shell Disk SampleCore.types).store :=
    SampleLibs.emptyDisk_valid
  obtain ⟨nextValid, sameSession⟩ := Shell.runSession_files SampleCore.core
    SampleLibs.lawful startValid firstVisit
  intro next taken
  obtain rfl := Option.some.inj taken
  refine ⟨(recordsWhatItAccepts_files SampleLibs.lawful SampleLibs.emptyDisk_valid).mpr ?_,
    fun after taken => ⟨(recordsWhatItAccepts_files SampleLibs.lawful nextValid).mpr ?_,
      trivial⟩⟩
  · intro loaded store built retained isRetained
    have snapshot : (StoreView.empty.build SampleCore.core firstVisit.request).map
        (·.retained) = .ok none := rfl
    rw [run_build] at built
    have found : StoreView.empty.build SampleCore.core firstVisit.request = .ok loaded :=
      Except.ok.inj (Prod.mk.inj built).1
    rw [found] at snapshot
    have nothing : loaded.retained = none := Except.ok.inj snapshot
    rw [nothing] at isRetained
    cases isRetained
  · rw [sameSession]
    intro loaded store built retained isRetained
    have snapshot : (((Shell.fresh StoreView.empty).runSession SampleCore.core viewHandler
        firstVisit).store.build SampleCore.core
          (laterVisit [.pinFirstContact]).request).map
            (fun loaded => (loaded.publisher, loaded.retained)) =
        .ok (seedKey 1, some ⟨seedKey 1, .observed⟩) := rfl
    rw [run_build] at built
    have found := Except.ok.inj (Prod.mk.inj built).1
    change ((Shell.fresh StoreView.empty).runSession SampleCore.core viewHandler
      firstVisit).store.build SampleCore.core _ = _ at found
    rw [found] at snapshot
    obtain ⟨publisher, observed⟩ := Prod.mk.inj (Except.ok.inj snapshot)
    obtain rfl : ⟨seedKey 1, .observed⟩ = retained :=
      Option.some.inj (observed.symm.trans isRetained)
    exact ⟨fun _ => .inl ⟨.pinFirstContact, List.mem_singleton.mpr rfl, .inr ⟨rfl, rfl⟩⟩,
      fun different => absurd publisher.symm different⟩

/-- Without the pin the newer manifest is accepted and not recorded, and a load
of one issued in between is accepted after it. -/
theorem matched_revisit_reopens_downgrade :
    SampleLibs.libs.Lawful ∧ SampleCore.core.ChecksReject ∧
      SampleCore.core.HashDeterminesCanary ∧ SampleCore.core.PeekAgrees ∧
      ¬ DowngradeBarred SampleCore.core (fileHandler SampleLibs.libs SampleLibs.root)
        ((Shell.fresh SampleLibs.emptyDisk).runAll SampleCore.core
          (fileHandler SampleLibs.libs SampleLibs.root) [firstVisit, laterVisit []]) := by
  refine ⟨SampleLibs.lawful, SampleCore.checksExact.rejects,
    SampleCore.hashDeterminesCanary, SampleCore.peekAgrees, ?_⟩
  have startValid : SampleLibs.root.ValidFiles SampleLibs.libs
      (Shell.fresh SampleLibs.emptyDisk : Shell Disk SampleCore.types).store :=
    SampleLibs.emptyDisk_valid
  obtain ⟨validAfter, sameRun⟩ := Shell.runAll_files SampleCore.core
    SampleLibs.lawful startValid [firstVisit, laterVisit []]
  rw [downgradeBarred_files SampleLibs.lawful validAfter, sameRun]
  let shell : Shell StoreView SampleCore.types :=
    (Shell.fresh StoreView.empty).runAll SampleCore.core viewHandler
      [firstVisit, laterVisit []]
  change ¬ DowngradeBarred SampleCore.core viewHandler shell
  intro barred
  let between := (SampleCore.visit ⟨.alpha, 20, 3, 0⟩ []).request
  have accepted : (shell.store.build SampleCore.core between).map
      (fun loaded => (loaded.publisher, loaded.record.map (·.issuedAt))) =
        .ok (seedKey 1, some 20) := by decide +kernel
  have later : 30 ∈ (acceptedRecords shell.visits (seedKey 1)).map (·.issuedAt) := by
    decide +kernel
  obtain ⟨last, member, issued⟩ := List.mem_map.mp later
  cases built : shell.store.build SampleCore.core between with
  | error message => simp [built, Except.map] at accepted
  | ok loaded =>
      rw [built] at accepted
      obtain ⟨publisher, issuedAt⟩ := Prod.mk.inj (Except.ok.inj accepted)
      obtain ⟨record, isRecord, time⟩ := Option.map_eq_some_iff.mp issuedAt
      obtain ⟨floor, -⟩ := barred between loaded shell.store record
        (by rw [run_build, built]) isRecord
      have notEarlier := (floor last (publisher ▸ member)).1
      rw [issued, time] at notEarlier
      exact absurd notEarlier (by decide)

end EntangledClient
