import EntangledClient.InterleavedSessions
import EntangledClient.PublisherHistoryDiscipline
import EntangledClient.SampleSessions

/-!
# The anti-downgrade floor under interleaved sessions

A session checks its manifest against the history it read and appends the record
later, in front of whatever the history holds by then.  The floor never moves
back as long as nothing issued after that manifest was appended in between.
-/

namespace EntangledClient

open CallTree

variable {T : CoreTypes} {σ : Type}

/-- The newest record of no publisher is followed by one issued earlier. -/
def FloorsKept (observe : σ → StoreView) (before : System σ T) (_event : SystemEvent)
    (after : System σ T) : Prop :=
  ∀ publisher, ∀ older ∈ ((observe before.store).histories publisher).newest,
    ∃ newer ∈ ((observe after.store).histories publisher).newest,
      older.issuedAt ≤ newer.issuedAt

/-- The records in front of a history that was read earlier. -/
def PublisherHistory.appendedSince (seen current : PublisherHistory) :
    List RetainedManifestRecord :=
  current.records.take (current.records.length - seen.records.length)

/-- A record is appended only if none of those appended since its session read
the history was issued after it. -/
def AppendsInOrder (observe : σ → StoreView) (before : System σ T) (event : SystemEvent)
    (_after : System σ T) : Prop :=
  ∀ index publisher record resume seen, event = .call index →
    (before.sessions index).phase.pending = some ⟨.appendRecord publisher record, resume⟩ →
    (before.sessions index).read = some (publisher, seen) →
    ∀ other ∈ seen.appendedSince ((observe before.store).histories publisher),
      other.issuedAt ≤ record.issuedAt

namespace PublisherHistory

theorem appendedSince_append (front : List RetainedManifestRecord)
    (seen : PublisherHistory) : seen.appendedSince ⟨front ++ seen.records⟩ = front := by
  simp [appendedSince]

end PublisherHistory

/-- What a session read is the old part of the current history, and what was
appended since is in order. -/
def ReadHeld (view : StoreView) (read : HistoryRead) : Prop :=
  ∀ publisher seen, read = some (publisher, seen) →
    ∃ front, (view.histories publisher).records = front ++ seen.records ∧
      front.Pairwise fun newer older => older.issuedAt ≤ newer.issuedAt

theorem ReadHeld.appended {view : StoreView} {read : HistoryRead} (held : ReadHeld view read)
    {publisher : PublisherPubkey} {seen : PublisherHistory}
    (isRead : read = some (publisher, seen)) :
    (view.histories publisher).records =
        seen.appendedSince (view.histories publisher) ++ seen.records ∧
      (seen.appendedSince (view.histories publisher)).Pairwise
        fun newer older => older.issuedAt ≤ newer.issuedAt := by
  obtain ⟨front, records, ordered⟩ := held publisher seen isRead
  have isAppended : view.histories publisher = ⟨front ++ seen.records⟩ :=
    congrArg PublisherHistory.mk records
  rw [isAppended, PublisherHistory.appendedSince_append]
  exact ⟨rfl, ordered⟩

/-- An append that keeps the floor keeps what was read. -/
theorem ReadHeld.append {view : StoreView} {read : HistoryRead} (held : ReadHeld view read)
    {target : PublisherPubkey} {record : RetainedManifestRecord}
    (keepsFloor : ∀ older ∈ (view.histories target).newest,
      older.issuedAt ≤ record.issuedAt) :
    ReadHeld (view.appendRecord target record) read := by
  intro publisher seen isRead
  obtain ⟨front, records, ordered⟩ := held publisher seen isRead
  by_cases here : publisher = target
  · subst here
    refine ⟨record :: front, by simp [records], List.pairwise_cons.mpr ⟨?_, ordered⟩⟩
    intro older member
    cases front with
    | nil => cases member
    | cons head tail =>
        have headOld : head.issuedAt ≤ record.issuedAt :=
          keepsFloor head (by simp [PublisherHistory.newest, records])
        rcases List.mem_cons.mp member with rfl | inTail
        · exact headOld
        · exact le_trans ((List.pairwise_cons.mp ordered).1 older inTail) headOld
  · rw [view.histories_appendRecord_other here]
    exact ⟨front, records, ordered⟩

/-- Sound sessions, each of which read an old part of a history in order. -/
structure FloorInvariant (core : Core T) (system : System StoreView T) : Prop where
  sound : system.Sound core
  reads : ∀ index, ReadHeld system.store (system.sessions index).read

variable {core : Core T}

/-- Apart from an append, no call changes a history. -/
theorem histories_viewHandler {request : StoreCall}
    (notAppend : ∀ publisher record, request ≠ .appendRecord publisher record)
    (view : StoreView) : (viewHandler request view).2.histories = view.histories := by
  cases request with
  | appendRecord publisher record => exact absurd rfl (notAppend publisher record)
  | loadIdentity site => rfl
  | loadHistory publisher => rfl
  | apply site intent => rfl

/-- A pending append of a sound session is the record of a document that was
accepted against the history it read. -/
theorem Phase.Sound.pending_append {read : HistoryRead} {phase : Phase T}
    (sound : phase.Sound core read) (agrees : core.PeekAgrees)
    {publisher : PublisherPubkey} {record : RetainedManifestRecord}
    {resume : storeInterface.Reply (.appendRecord publisher record) → Phase T}
    (isPending : phase.pending = some ⟨.appendRecord publisher record, resume⟩) :
    ∃ manifest history, read = some (publisher, history) ∧
      core.recordFor manifest = some record ∧
      core.checkAgainstHistory manifest history = .ok () := by
  have fromWindow : ∀ (loaded : Loaded T) (decision : UserDecision),
      AcceptedFor core read loaded →
      loaded.Persists (resolve loaded.publisher loaded.retained decision).intent
        (.appendRecord publisher record) →
      ∃ manifest history, read = some (publisher, history) ∧
        core.recordFor manifest = some record ∧
        core.checkAgainstHistory manifest history = .ok () := by
    rintro loaded decision ⟨manifest, history, isRead, derived, checked⟩ ⟨target, isRecord⟩
    rcases resolve_publisher loaded.publisher loaded.retained decision with silent | about
    · rw [silent] at target
      cases target
    · obtain rfl : loaded.publisher = publisher := Option.some.inj (about.symm.trans target)
      exact ⟨manifest, history, isRead, derived.symm.trans isRecord, checked⟩
  rcases sound.pending_cases isPending with
    ⟨isLoad, -⟩ | ⟨loaded, program, -, accepted, persists⟩ |
      ⟨app, decision, continue_, -, accepted, persists⟩
  · exact isLoad.elim
  · exact fromWindow loaded .none (accepted agrees) persists
  · exact fromWindow app.loaded decision (accepted agrees) persists

/-- An append keeps the floor exactly if nothing issued after its record was
appended since its session read the history. -/
theorem appends_in_order_iff (rejects : core.ChecksReject) {view : StoreView}
    {read : HistoryRead} (held : ReadHeld view read) {publisher : PublisherPubkey}
    {seen : PublisherHistory} (isRead : read = some (publisher, seen))
    {manifest : T.Manifest} {record : RetainedManifestRecord}
    (derived : core.recordFor manifest = some record)
    (checked : core.checkAgainstHistory manifest seen = .ok ()) :
    (∀ older ∈ (view.histories publisher).newest, older.issuedAt ≤ record.issuedAt) ↔
      ∀ other ∈ seen.appendedSince (view.histories publisher),
        other.issuedAt ≤ record.issuedAt := by
  obtain ⟨records, ordered⟩ := held.appended isRead
  cases front : seen.appendedSince (view.histories publisher) with
  | nil =>
      rw [front, List.nil_append] at records
      have sameNewest : (view.histories publisher).newest = seen.newest :=
        congrArg List.head? records
      obtain ⟨notEarlier, -, -⟩ := (Core.checkAgainstHistory_eq_ok derived seen).mp checked
      rw [rejects.antiDowngrade_ok] at notEarlier
      constructor
      · intro _ other impossible
        cases impossible
      · intro _ older isNewest
        rw [sameNewest] at isNewest
        exact notEarlier older.issuedAt (by rw [Option.mem_def.mp isNewest]; rfl)
  | cons head tail =>
      rw [front] at records ordered
      have isHead : (view.histories publisher).newest = some head := by
        rw [PublisherHistory.newest, records]
        rfl
      constructor
      · intro keepsFloor other member
        have headOld := keepsFloor head isHead
        rcases List.mem_cons.mp member with rfl | inTail
        · exact headOld
        · exact le_trans ((List.pairwise_cons.mp ordered).1 other inTail) headOld
      · intro inOrder older isNewest
        obtain rfl : head = older := Option.some.inj (isHead.symm.trans isNewest)
        exact inOrder head (List.mem_cons_self ..)

theorem floorsKept_of_histories {before after : System StoreView T} {event : SystemEvent}
    (same : after.store.histories = before.store.histories) :
    FloorsKept id before event after := by
  intro publisher older isNewest
  refine ⟨older, ?_, le_rfl⟩
  change older ∈ (after.store.histories publisher).newest
  rwa [same]

theorem floorsKept_append {before after : System StoreView T} {event : SystemEvent}
    {publisher : PublisherPubkey} {record : RetainedManifestRecord}
    (appended : after.store = before.store.appendRecord publisher record) :
    FloorsKept id before event after ↔
      ∀ older ∈ (before.store.histories publisher).newest,
        older.issuedAt ≤ record.issuedAt := by
  constructor
  · intro kept older isNewest
    obtain ⟨newer, isNewer, ordered⟩ := kept publisher older isNewest
    change newer ∈ (after.store.histories publisher).newest at isNewer
    rw [appended, StoreView.histories_appendRecord_same] at isNewer
    obtain rfl : record = newer := by simpa using isNewer
    exact ordered
  · intro keepsFloor other older isNewest
    change older ∈ (before.store.histories other).newest at isNewest
    change ∃ newer ∈ (after.store.histories other).newest, _
    rw [appended]
    by_cases here : other = publisher
    · subst here
      exact ⟨record, by simp, keepsFloor older isNewest⟩
    · rw [StoreView.histories_appendRecord_other _ here]
      exact ⟨older, isNewest, le_rfl⟩

/-- In a sound system a step keeps the floors exactly if its append is in order. -/
theorem FloorInvariant.floorsKept_iff (rejects : core.ChecksReject)
    (agrees : core.PeekAgrees) {system next : System StoreView T} {event : SystemEvent}
    (invariant : FloorInvariant core system)
    (taken : (System.machine core viewHandler id).step system event = some next) :
    FloorsKept id system event next ↔ AppendsInOrder id system event next := by
  rcases System.step_cases taken with
    ⟨notCall, sameStore, -⟩ | ⟨index, request, resume, rfl, isPending, store, -⟩
  · refine ⟨fun _ index publisher record resume seen isCall => absurd isCall (notCall index),
      fun _ => floorsKept_of_histories (by rw [sameStore])⟩
  · cases request with
    | appendRecord publisher record =>
        obtain ⟨manifest, seen, isRead, derived, checked⟩ :=
          (invariant.sound index).pending_append agrees isPending
        rw [floorsKept_append store,
          appends_in_order_iff rejects (invariant.reads index) isRead derived checked]
        constructor
        · intro inOrder index' publisher' record' resume' seen' sameCall isPending' isRead'
          obtain rfl := SystemEvent.call.inj sameCall
          rw [isPending] at isPending'
          cases isPending'
          rw [isRead] at isRead'
          cases isRead'
          exact inOrder
        · intro inOrder
          exact inOrder index publisher record resume seen rfl isPending isRead
    | loadIdentity site | loadHistory publisher | apply site intent =>
        refine ⟨fun _ index' publisher' record' resume' seen' sameCall isPending' => ?_,
          fun _ => floorsKept_of_histories ?_⟩
        · obtain rfl := SystemEvent.call.inj sameCall
          rw [isPending] at isPending'
          cases isPending'
        · rw [store]
          exact histories_viewHandler (by simp) _

/-- Steps that keep the floors keep the invariant. -/
theorem FloorInvariant.step {system next : System StoreView T} {event : SystemEvent}
    (invariant : FloorInvariant core system)
    (taken : (System.machine core viewHandler id).step system event = some next)
    (kept : FloorsKept id system event next) : FloorInvariant core next := by
  have held : ∀ read, ReadHeld system.store read → ReadHeld next.store read := by
    intro read heldBefore
    rcases System.step_cases taken with
      ⟨-, sameStore, -⟩ | ⟨index, request, resume, -, -, store, -⟩
    · rwa [sameStore]
    · cases request with
      | appendRecord publisher record =>
          rw [store]
          exact heldBefore.append ((floorsKept_append store).mp kept)
      | loadIdentity site | loadHistory publisher | apply site intent =>
          rw [store]
          exact heldBefore
  refine ⟨invariant.sound.step taken, fun index => ?_⟩
  rcases System.read_cases taken index with
    same | unread | ⟨request, resume, rfl, isPending, observed⟩
  · rw [same]
    exact held _ (invariant.reads index)
  · rw [unread]
    rintro publisher seen ⟨⟩
  · rw [observed]
    apply held
    cases request with
    | loadHistory publisher =>
        rintro publisher' seen ⟨⟩
        exact ⟨[], rfl, List.Pairwise.nil⟩
    | loadIdentity site | apply site intent | appendRecord publisher record =>
        exact invariant.reads index

/-- In every interleaving of sessions on valid files, the floor of no publisher
moves back, exactly if every record is appended before anything issued after it
that was not in the history its session read. -/
theorem floorsKept_iff_appendsInOrder {libs : StoreLibs} (lawful : libs.Lawful)
    (root : StoreRoot) {core : Core T} (rejects : core.ChecksReject)
    (agrees : core.PeekAgrees) {disk : Disk} (valid : root.ValidFiles libs disk)
    (events : List SystemEvent) :
    (System.machine core (fileHandler libs root) (root.view libs)).Along
        (FloorsKept (root.view libs)) (System.quiet (root.view libs) disk) events ↔
      (System.machine core (fileHandler libs root) (root.view libs)).Along
        (AppendsInOrder (root.view libs)) (System.quiet (root.view libs) disk) events := by
  rw [← System.along_onView lawful (fun _ observe => FloorsKept observe)
      (fun _ _ _ => Iff.rfl) valid,
    ← System.along_onView lawful (fun _ observe => AppendsInOrder observe)
      (fun _ _ _ => Iff.rfl) valid]
  refine StateMachine.along_iff_along (FloorInvariant core) ?_ ?_
    ⟨System.sound_quiet _, fun _ _ _ impossible => by cases impossible⟩ events
  · intro system event next invariant taken
    exact invariant.floorsKept_iff rejects agrees taken
  · intro system event next invariant taken kept
    exact invariant.step taken kept

/-- A session reads an empty history, another one appends a later record to it, and
the first one then appends its own. -/
def loweredFloorEvents : List SystemEvent :=
  SampleCore.start 0 ⟨.alpha, 10, 1, 0⟩ :: SampleCore.calls 0 2 ++
    SampleCore.start 1 ⟨.alpha, 30, 2, 0⟩ :: SampleCore.calls 1 5 ++ SampleCore.calls 0 2

theorem floorsKept_iff_appendsInOrder_lowered :
    (System.machine SampleCore.core (fileHandler SampleLibs.libs SampleLibs.root)
        (SampleLibs.root.view SampleLibs.libs)).Along
        (FloorsKept (SampleLibs.root.view SampleLibs.libs))
        (System.quiet (SampleLibs.root.view SampleLibs.libs) SampleLibs.emptyDisk)
        loweredFloorEvents ↔
      (System.machine SampleCore.core (fileHandler SampleLibs.libs SampleLibs.root)
        (SampleLibs.root.view SampleLibs.libs)).Along
        (AppendsInOrder (SampleLibs.root.view SampleLibs.libs))
        (System.quiet (SampleLibs.root.view SampleLibs.libs) SampleLibs.emptyDisk)
        loweredFloorEvents :=
  floorsKept_iff_appendsInOrder SampleLibs.lawful SampleLibs.root
    SampleCore.checksExact.rejects SampleCore.peekAgrees SampleLibs.emptyDisk_valid
    loweredFloorEvents

/-- The floor that the later record set is gone. -/
theorem concurrent_append_lowers_floor :
    ¬ (System.machine SampleCore.core (fileHandler SampleLibs.libs SampleLibs.root)
        (SampleLibs.root.view SampleLibs.libs)).Along
        (FloorsKept (SampleLibs.root.view SampleLibs.libs))
        (System.quiet (SampleLibs.root.view SampleLibs.libs) SampleLibs.emptyDisk)
        loweredFloorEvents := by
  rw [← System.along_onView SampleLibs.lawful (fun _ observe => FloorsKept observe)
    (fun _ _ _ => Iff.rfl) SampleLibs.emptyDisk_valid]
  intro kept
  have reached : ∃ before after, (System.machine SampleCore.core viewHandler id).run
        (System.quiet id StoreView.empty) (loweredFloorEvents.take 10) = some before ∧
      (System.machine SampleCore.core viewHandler id).step before (.call 0) = some after ∧
      (before.store.histories (seedKey 1)).newest.map (·.issuedAt) = some 30 ∧
      (after.store.histories (seedKey 1)).newest.map (·.issuedAt) = some 10 :=
    ⟨_, _, rfl, rfl, by decide +kernel, by decide +kernel⟩
  obtain ⟨before, after, ran, taken, isLater, isEarlier⟩ := reached
  obtain ⟨older, isOlder, olderTime⟩ := Option.map_eq_some_iff.mp isLater
  have split : loweredFloorEvents = loweredFloorEvents.take 10 ++ [.call 0] := rfl
  rw [split] at kept
  obtain ⟨newer, isNewer, ordered⟩ := kept.at_step ran taken (seedKey 1) older isOlder
  have newerTime : newer.issuedAt = 10 := by
    have found : (after.store.histories (seedKey 1)).newest = some newer := isNewer
    rw [found] at isEarlier
    exact Option.some.inj isEarlier
  rw [olderTime, newerTime] at ordered
  exact absurd ordered (by decide)

end EntangledClient
