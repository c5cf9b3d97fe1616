import EntangledClient.SessionRecords
import Mathlib.Data.List.Dedup
import Mathlib.Data.List.Perm.Subperm

/-!
# How often an accepted manifest is recorded

A session that persists twice records one manifest twice, and so does a later session
that persists for a manifest of which the history already has the record.  Where every
session records once, no history ever holds a payload hash twice.
-/

namespace EntangledClient

open CallTree ExceptRules

variable {T : CoreTypes} {σ : Type}

/-! ### The records of a run are accounted for -/

/-- The payload hashes of the manifests accepted for a publisher, oldest first. -/
def acceptedHashes (visits : List (Visit T)) (publisher : PublisherPubkey) :
    List PayloadHash :=
  visits.filterMap fun visit =>
    if visit.loaded.publisher = publisher then
      visit.loaded.record.map (·.manifestPayloadHash)
    else none

/-- No history holds a payload hash twice, and none has grown by more records than
distinct manifests were accepted for its publisher. -/
def RecordedOnce (handler : Handler storeInterface σ) (before : σ) (shell : Shell σ T) :
    Prop :=
  ∀ publisher initial history,
    (handler (.loadHistory publisher) before).1 = .ok initial →
    (handler (.loadHistory publisher) shell.store).1 = .ok history →
      history.hashes.Nodup ∧
      history.records.length ≤
        initial.records.length + (acceptedHashes shell.visits publisher).dedup.length

/-- An accepted session persists once at most, and only for a manifest that the history
of its publisher does not hold yet. -/
def RecordsOnce (core : Core T) (handler : Handler storeInterface σ) (shell : Shell σ T)
    (script : SessionScript) : Prop :=
  ∀ loaded store,
    (build core script.request).run handler shell.store = (.ok (.ok loaded), store) →
    ∀ record ∈ loaded.record,
      ¬ loaded.RecordsAgain script.decisions ∧
      (loaded.Records script.decisions → ∀ history,
        (handler (.loadHistory loaded.publisher) shell.store).1 = .ok history →
          record.manifestPayloadHash ∉ history.hashes)

theorem mem_acceptedHashes_append {visits : List (Visit T)} {visit : Visit T}
    {publisher : PublisherPubkey} {hash : PayloadHash} :
    hash ∈ acceptedHashes (visits ++ [visit]) publisher ↔
      hash ∈ acceptedHashes visits publisher ∨
        visit.loaded.publisher = publisher ∧
          ∃ record ∈ visit.loaded.record, record.manifestPayloadHash = hash := by
  by_cases same : visit.loaded.publisher = publisher <;>
    simp [acceptedHashes, same]

/-- What a history gained since the start was accepted for its publisher. -/
def Accounted (start : StoreView) (shell : Shell StoreView T) : Prop :=
  ∀ publisher, ∃ added,
    (shell.store.histories publisher).records =
      added ++ (start.histories publisher).records ∧
    ∀ record ∈ added,
      record.manifestPayloadHash ∈ acceptedHashes shell.visits publisher

theorem Accounted.runSession {core : Core T} {start : StoreView} {shell : Shell StoreView T}
    (accounted : Accounted start shell) (script : SessionScript) :
    Accounted start (shell.runSession core viewHandler script) := by
  rw [Shell.runSession_view]
  cases built : shell.store.build core script.request with
  | error message => exact accounted
  | ok loaded =>
      obtain ⟨snapshot, manifest, peeked, from_, -⟩ := StoreView.build_eq_ok built
      intro publisher
      obtain ⟨added, grown, accepted⟩ := accounted publisher
      have stillAccepted : ∀ record ∈ added, record.manifestPayloadHash ∈
          acceptedHashes (shell.visits ++ [⟨loaded, script.decisions⟩]) publisher :=
        fun record member => mem_acceptedHashes_append.mpr (.inl (accepted record member))
      cases derived : loaded.record with
      | none =>
          refine ⟨added, ?_, stillAccepted⟩
          rw [visit_histories_none from_ snapshot derived, grown]
      | some record =>
          by_cases same : publisher = loaded.publisher
          · subst same
            obtain ⟨count, recorded, -⟩ :=
              visit_histories from_ snapshot derived script.decisions
            refine ⟨List.replicate count record ++ added, ?_, ?_⟩
            · rw [recorded, grown, List.append_assoc]
            · intro found member
              rcases List.mem_append.mp member with new | earlier
              · obtain rfl := List.eq_of_mem_replicate new
                exact mem_acceptedHashes_append.mpr (.inr ⟨rfl, found, derived, rfl⟩)
              · exact stillAccepted found earlier
          · refine ⟨added, ?_, stillAccepted⟩
            rw [(visit_extendedBy from_ script.decisions shell.store).other publisher same,
              grown]

theorem Accounted.runAll {core : Core T} {start : StoreView} {shell : Shell StoreView T}
    (accounted : Accounted start shell) (scripts : List SessionScript) :
    Accounted start (shell.runAll core viewHandler scripts) := by
  induction scripts generalizing shell with
  | nil => exact accounted
  | cons script scripts ih => exact ih (accounted.runSession script)

/-- Once nothing is held twice, the growth is bounded by the manifests accepted. -/
theorem Accounted.recordedOnce_iff {start : StoreView} {shell : Shell StoreView T}
    (accounted : Accounted start shell) :
    RecordedOnce viewHandler start shell ↔
      ∀ publisher, (shell.store.histories publisher).hashes.Nodup := by
  constructor
  · intro once publisher
    exact (once publisher _ _ rfl rfl).1
  · intro distinct publisher initial history isInitial isHistory
    obtain rfl : start.histories publisher = initial := Except.ok.inj isInitial
    obtain rfl : shell.store.histories publisher = history := Except.ok.inj isHistory
    refine ⟨distinct publisher, ?_⟩
    obtain ⟨added, grown, accepted⟩ := accounted publisher
    have distinctAdded : (added.map (·.manifestPayloadHash)).Nodup := by
      have whole := distinct publisher
      rw [PublisherHistory.hashes, grown, List.map_append] at whole
      exact whole.of_append_left
    have included : added.map (·.manifestPayloadHash) ⊆
        (acceptedHashes shell.visits publisher).dedup := by
      intro hash member
      obtain ⟨record, inAdded, rfl⟩ := List.mem_map.mp member
      exact List.mem_dedup.mpr (accepted record inAdded)
    have bounded := (List.subperm_of_subset distinctAdded included).length_le
    rw [List.length_map] at bounded
    rw [grown, List.length_append]
    omega

/-! ### The step and the run -/

theorem nodup_replicate_append {α : Type} {count : Nat} {element : α} {list : List α} :
    (List.replicate count element ++ list).Nodup ↔
      list.Nodup ∧ count ≤ 1 ∧ (count ≠ 0 → element ∉ list) := by
  rw [List.nodup_append', List.nodup_replicate]
  constructor
  · rintro ⟨once, distinct, disjoint⟩
    refine ⟨distinct, once, fun some_ member => ?_⟩
    exact disjoint (List.mem_replicate.mpr ⟨some_, rfl⟩) member
  · rintro ⟨distinct, once, fresh⟩
    refine ⟨once, distinct, fun found inFront member => ?_⟩
    obtain ⟨some_, rfl⟩ := List.mem_replicate.mp inFront
    exact fresh some_ member

/-- A session leaves every history free of duplicates exactly if it found them so and
records once. -/
theorem runSession_distinct_iff {core : Core T} (shell : Shell StoreView T)
    (script : SessionScript) :
    (∀ publisher, ((shell.runSession core viewHandler script).store.histories
        publisher).hashes.Nodup) ↔
      (∀ publisher, (shell.store.histories publisher).hashes.Nodup) ∧
        RecordsOnce core viewHandler shell script := by
  rw [Shell.runSession_view]
  simp only [RecordsOnce, run_build]
  cases built : shell.store.build core script.request with
  | error message => simp
  | ok loaded =>
      obtain ⟨snapshot, manifest, peeked, from_, -⟩ := StoreView.build_eq_ok built
      cases derived : loaded.record with
      | none =>
          rw [visit_histories_none from_ snapshot derived]
          simp [derived]
      | some record =>
          obtain ⟨count, recorded, silent, single⟩ :=
            visit_histories from_ snapshot derived script.decisions
          have here : ((shell.store.visit loaded script.decisions).histories
              loaded.publisher).hashes.Nodup ↔
              (shell.store.histories loaded.publisher).hashes.Nodup ∧
                ¬ loaded.RecordsAgain script.decisions ∧
                (loaded.Records script.decisions → record.manifestPayloadHash ∉
                  (shell.store.histories loaded.publisher).hashes) := by
            rw [PublisherHistory.hashes, recorded, List.map_append, List.map_replicate,
              nodup_replicate_append, single, ne_eq, silent, not_not]
            rfl
          have elsewhere := (visit_extendedBy from_ script.decisions shell.store).other
          constructor
          · intro distinct
            obtain ⟨before, once, fresh⟩ := here.mp (distinct loaded.publisher)
            refine ⟨fun publisher => ?_, ?_⟩
            · by_cases same : publisher = loaded.publisher
              · exact same ▸ before
              · rw [← elsewhere publisher same]
                exact distinct publisher
            · rintro _ _ ⟨⟩ found isFound
              obtain rfl : record = found := Option.some.inj (derived.symm.trans isFound)
              refine ⟨once, fun records history isHistory => ?_⟩
              obtain rfl := Except.ok.inj isHistory
              exact fresh records
          · rintro ⟨distinct, condition⟩ publisher
            by_cases same : publisher = loaded.publisher
            · subst same
              obtain ⟨once, fresh⟩ := condition loaded shell.store rfl record derived
              exact here.mpr ⟨distinct _, once, fun records => fresh records _ rfl⟩
            · rw [elsewhere publisher same]
              exact distinct publisher

section Files

variable {libs : StoreLibs} (lawful : libs.Lawful) {root : StoreRoot} {core : Core T}
include lawful

theorem recordsOnce_files {shell : Shell Disk T} (valid : root.ValidFiles libs shell.store)
    {script : SessionScript} :
    RecordsOnce core (fileHandler libs root) shell script ↔
      RecordsOnce core viewHandler (shell.onView libs root) script := by
  have sameHistory := fun publisher =>
    (fileHandler_view lawful (.loadHistory publisher) valid).1
  simp only [RecordsOnce, sameHistory]
  exact forall_built_files lawful valid script.request

theorem recordedOnce_files {disk : Disk} (validBefore : root.ValidFiles libs disk)
    {shell : Shell Disk T} (valid : root.ValidFiles libs shell.store) :
    RecordedOnce (fileHandler libs root) disk shell ↔
      RecordedOnce viewHandler (root.view libs disk) (shell.onView libs root) := by
  have sameBefore := fun publisher =>
    (fileHandler_view lawful (.loadHistory publisher) validBefore).1
  have sameHistory := fun publisher =>
    (fileHandler_view lawful (.loadHistory publisher) valid).1
  simp only [RecordedOnce, sameBefore, sameHistory]
  rfl

/-- From histories free of duplicates, they are so after a run exactly if every session
of it records once. -/
theorem distinct_runAll_iff {disk : Disk} (valid : root.ValidFiles libs disk)
    (distinct : ∀ publisher, ((root.view libs disk).histories publisher).hashes.Nodup)
    (scripts : List SessionScript) :
    (∀ publisher, ((((Shell.fresh disk : Shell Disk T).runAll core (fileHandler libs root)
        scripts).onView libs root).store.histories publisher).hashes.Nodup) ↔
      (Shell.machine core (fileHandler libs root)).Along
        (fun shell script _ => RecordsOnce core (fileHandler libs root) shell script)
        (Shell.fresh disk) scripts := by
  have step : ∀ (shell : Shell Disk T) script next, root.ValidFiles libs shell.store →
      (Shell.machine core (fileHandler libs root)).step shell script = some next →
      root.ValidFiles libs next.store ∧
        ((∀ publisher, ((next.onView libs root).store.histories publisher).hashes.Nodup) ↔
          (∀ publisher, ((shell.onView libs root).store.histories publisher).hashes.Nodup) ∧
            RecordsOnce core (fileHandler libs root) shell script) := by
    intro shell script next stillValid taken
    obtain rfl := Option.some.inj taken
    obtain ⟨nextValid, sameSession⟩ := Shell.runSession_files core lawful stillValid script
    refine ⟨nextValid, ?_⟩
    rw [sameSession, runSession_distinct_iff, ← recordsOnce_files lawful stillValid]
  have startValid : root.ValidFiles libs (Shell.fresh disk : Shell Disk T).store := valid
  have kept := StateMachine.kept_iff_along
    (fun shell : Shell Disk T => root.ValidFiles libs shell.store)
    (fun shell => ∀ publisher,
      ((shell.onView libs root).store.histories publisher).hashes.Nodup)
    step startValid (Shell.run_machine (Shell.fresh disk) scripts)
  exact kept.trans (and_iff_right distinct)

end Files

/-- From valid files without duplicates, each accepted manifest is recorded once at every
moment of a run exactly if every session of it records once. -/
theorem recordedOnce_iff_recordsOnce {libs : StoreLibs} (lawful : libs.Lawful)
    (root : StoreRoot) (core : Core T) {disk : Disk} (valid : root.ValidFiles libs disk)
    (distinct : ∀ publisher history,
      (fileHandler libs root (.loadHistory publisher) disk).1 = .ok history →
        history.hashes.Nodup)
    (scripts : List SessionScript) :
    (∀ moment, UpTo moment scripts → RecordedOnce (fileHandler libs root) disk
        ((Shell.fresh disk).runAll core (fileHandler libs root) moment)) ↔
      (Shell.machine core (fileHandler libs root)).Along
        (fun shell script _ => RecordsOnce core (fileHandler libs root) shell script)
        (Shell.fresh disk) scripts := by
  have startValid : root.ValidFiles libs (Shell.fresh disk : Shell Disk T).store := valid
  have onView := fun moment => Shell.runAll_files core lawful startValid moment
  have accounted : Accounted (root.view libs disk)
      ((Shell.fresh disk : Shell Disk T).onView libs root) :=
    fun publisher => ⟨[], rfl, by simp⟩
  have once_iff : ∀ moment, RecordedOnce (fileHandler libs root) disk
      ((Shell.fresh disk).runAll core (fileHandler libs root) moment) ↔
      ∀ publisher, ((((Shell.fresh disk : Shell Disk T).runAll core (fileHandler libs root)
        moment).onView libs root).store.histories publisher).hashes.Nodup := by
    intro moment
    rw [recordedOnce_files lawful valid (onView moment).1, (onView moment).2]
    exact (accounted.runAll moment).recordedOnce_iff
  have startDistinct : ∀ publisher,
      ((root.view libs disk).histories publisher).hashes.Nodup :=
    fun publisher => distinct publisher _
      (fileHandler_view lawful (.loadHistory publisher) valid).1
  rw [← distinct_runAll_iff lawful valid startDistinct]
  constructor
  · intro once
    exact (once_iff scripts).mp (once scripts (UpTo.refl scripts))
  · intro distinctAfter moment upTo
    refine (once_iff moment).mpr fun publisher => ?_
    have grown := @UpTo.grownFrom T core _ _ upTo
      ((Shell.fresh disk : Shell Disk T).onView libs root) publisher
    rw [← (onView moment).2, ← (onView scripts).2] at grown
    exact (distinctAfter publisher).sublist (grown.sublist.map _)

theorem emptyDisk_distinct (publisher : PublisherPubkey) (history : PublisherHistory)
    (loaded : (fileHandler SampleLibs.libs SampleLibs.root (.loadHistory publisher)
      SampleLibs.emptyDisk).1 = .ok history) : history.hashes.Nodup := by
  rw [(fileHandler_view SampleLibs.lawful (.loadHistory publisher)
    SampleLibs.emptyDisk_valid).1] at loaded
  obtain rfl : PublisherHistory.new = history := Except.ok.inj loaded
  exact List.nodup_nil

/-- A first contact, then a newer manifest whose session pins the observed identity. -/
theorem recordedOnce_iff_recordsOnce_pinned :
    (∀ moment, UpTo moment [firstVisit, laterVisit [.pinFirstContact]] →
      RecordedOnce (fileHandler SampleLibs.libs SampleLibs.root) SampleLibs.emptyDisk
        ((Shell.fresh SampleLibs.emptyDisk).runAll SampleCore.core
          (fileHandler SampleLibs.libs SampleLibs.root) moment)) ↔
      (Shell.machine SampleCore.core (fileHandler SampleLibs.libs SampleLibs.root)).Along
        (fun shell script _ => RecordsOnce SampleCore.core
          (fileHandler SampleLibs.libs SampleLibs.root) shell script)
        (Shell.fresh SampleLibs.emptyDisk) [firstVisit, laterVisit [.pinFirstContact]] :=
  recordedOnce_iff_recordsOnce SampleLibs.lawful SampleLibs.root SampleCore.core
    SampleLibs.emptyDisk_valid emptyDisk_distinct _

/-- The first contact that the user pins: one manifest accepted, two records of it. -/
theorem pinned_first_contact_recorded_twice :
    ¬ RecordedOnce (fileHandler SampleLibs.libs SampleLibs.root) SampleLibs.emptyDisk
      ((Shell.fresh SampleLibs.emptyDisk).runAll SampleCore.core
        (fileHandler SampleLibs.libs SampleLibs.root)
        [SampleCore.visit ⟨.alpha, 10, 1, 0⟩ [.pinFirstContact]]) := by
  have startValid : SampleLibs.root.ValidFiles SampleLibs.libs
      (Shell.fresh SampleLibs.emptyDisk : Shell Disk SampleCore.types).store :=
    SampleLibs.emptyDisk_valid
  obtain ⟨validAfter, sameRun⟩ := Shell.runAll_files SampleCore.core SampleLibs.lawful
    startValid [SampleCore.visit ⟨.alpha, 10, 1, 0⟩ [.pinFirstContact]]
  rw [recordedOnce_files SampleLibs.lawful SampleLibs.emptyDisk_valid validAfter, sameRun]
  intro once
  have twice : ¬ (((Shell.fresh StoreView.empty).runAll SampleCore.core viewHandler
      [SampleCore.visit ⟨.alpha, 10, 1, 0⟩ [.pinFirstContact]]).store.histories
        (seedKey 1)).hashes.Nodup := by
    decide +kernel
  exact twice (once (seedKey 1) _ _ rfl rfl).1

end EntangledClient
