import EntangledClient.FaultySessions
import EntangledClient.SampleSessions

/-!
# Persisting under store errors and stops

A persist applies its intent and then appends the accepted record.  If the append
fails, or the process stops before it, the site has changed and the history has
not; with no such fault every step updates both or neither.
-/

namespace EntangledClient

open CallTree

variable {T : CoreTypes} {σ : Type}

/-- Nothing changed, or both the identity of the site and the history of the
publisher were updated. -/
def StoreView.BothOrNeither (before : StoreView) (loaded : Loaded T)
    (intent : PersistenceIntent) (after : StoreView) : Prop :=
  after = before ∨
    ∃ publisher record, intent.publisher = some publisher ∧ loaded.record = some record ∧
      after = (before.apply loaded.site intent).appendRecord publisher record

/-- Every key that a site retains has a history. -/
def StoreView.FloorHeld (view : StoreView) : Prop :=
  ∀ site key, view.activeKey site = some key → (view.histories key).newest.isSome

/-! ### Persisting once -/

/-- The second call of a persist is hit after the first one changed the site. -/
def App.Tears (app : App T) (intent : PersistenceIntent) (view : StoreView)
    (faults : List (Fault Failure)) : Prop :=
  intent.publisher.isSome ∧ faults.headD .proceed = .proceed ∧
    faults.tail.headD .proceed ≠ .proceed ∧ view.apply app.loaded.site intent ≠ view

theorem StoreView.apply_ne_appended (view : StoreView) (site : OnionAddress)
    (intent : PersistenceIntent) (publisher : PublisherPubkey)
    (record : RetainedManifestRecord) :
    view.apply site intent ≠ (view.apply site intent).appendRecord publisher record := by
  intro same
  have sameLength := congrArg (fun view => (view.histories publisher).records.length) same
  simp [PublisherHistory.push] at sameLength

/-- A persist that was torn changed the site and not the history. -/
theorem StoreView.bothOrNeither_apply {view : StoreView} {loaded : Loaded T}
    {intent : PersistenceIntent} :
    view.BothOrNeither loaded intent (view.apply loaded.site intent) ↔
      view.apply loaded.site intent = view := by
  constructor
  · rintro (unchanged | ⟨publisher, record, -, -, both⟩)
    · exact unchanged
    · exact absurd both (view.apply_ne_appended _ _ _ _)
  · exact .inl

/-- With a publisher and a record the append is the only other call. -/
theorem App.persist_eq_append {app : App T} {intent : PersistenceIntent}
    {publisher : PublisherPubkey} {record : RetainedManifestRecord}
    (isRecord : app.loaded.record = some record) (target : intent.publisher = some publisher) :
    app.persist intent =
      (applyIntent app.loaded.site intent >>= fun _ => appendRecord publisher record) := by
  unfold App.persist
  rw [target, isRecord]

/-- A persist whose intent was applied ends with the answer to its append. -/
theorem App.runFaulty_persist_applied {app : App T} {intent : PersistenceIntent}
    {publisher : PublisherPubkey} {record : RetainedManifestRecord}
    (isRecord : app.loaded.record = some record) (target : intent.publisher = some publisher)
    {faults : List (Fault Failure)} (first : faults.headD .proceed = .proceed)
    (view : StoreView) :
    (app.persist intent).runFaulty viewHandler faults view =
      viewHandler.answer (faults.tail.headD .proceed) (.appendRecord publisher record)
        (view.apply app.loaded.site intent) := by
  rw [App.persist_eq_append isRecord target]
  have applied : (applyIntent app.loaded.site intent >>= fun _ =>
      appendRecord publisher record).runFaulty viewHandler faults view =
        (appendRecord publisher record).runFaulty viewHandler faults.tail
          (view.apply app.loaded.site intent) :=
    Program.runFaulty_bind_answered viewHandler first rfl _
  rw [applied]
  exact Program.runFaulty_perform viewHandler _ _ _

/-- An intent without a publisher is `none`, and applying it changes nothing. -/
theorem App.runFaulty_persist_none (app : App T) (faults : List (Fault Failure))
    (view : StoreView) :
    ((app.persist .none).runFaulty viewHandler faults view).2 = view := by
  by_cases first : faults.headD .proceed = .proceed
  · have applied : (app.persist .none).runFaulty viewHandler faults view =
        (pure () : StoreProgram Unit).runFaulty viewHandler faults.tail
          (view.apply app.loaded.site .none) :=
      Program.runFaulty_bind_answered viewHandler first rfl _
    rw [applied, StoreView.apply_none, Program.runFaulty_pure]
  · exact Program.runFaulty_bind_unanswered viewHandler first view _

theorem App.persist_bothOrNeither_iff (app : App T) (intent : PersistenceIntent)
    (recorded : app.loaded.record.isSome) (faults : List (Fault Failure))
    (view : StoreView) :
    view.BothOrNeither app.loaded intent
        ((app.persist intent).runFaulty viewHandler faults view).2 ↔
      ¬ app.Tears intent view faults := by
  obtain ⟨record, isRecord⟩ := Option.isSome_iff_exists.mp recorded
  cases target : intent.publisher with
  | none =>
      obtain rfl := PersistenceIntent.publisher_eq_none.mp target
      have unchanged := app.runFaulty_persist_none faults view
      have noTear : ¬ app.Tears .none view faults := by
        rintro ⟨isSome, -⟩
        cases isSome
      exact iff_of_true (.inl unchanged) noTear
  | some publisher =>
      have isSome : intent.publisher.isSome := by rw [target]; rfl
      by_cases first : faults.headD .proceed = .proceed
      · rw [App.runFaulty_persist_applied isRecord target first]
        by_cases second : faults.tail.headD .proceed = .proceed
        · rw [second]
          have both : view.BothOrNeither app.loaded intent
              ((view.apply app.loaded.site intent).appendRecord publisher record) :=
            .inr ⟨publisher, record, target, isRecord, rfl⟩
          exact iff_of_true both fun torn => torn.2.2.1 second
        · rw [Handler.answer_hit second, StoreView.bothOrNeither_apply]
          constructor
          · rintro unchanged ⟨-, -, -, changed⟩
            exact changed unchanged
          · intro whole
            by_contra changed
            exact whole ⟨isSome, first, second, changed⟩
      · have unchanged : ((app.persist intent).runFaulty viewHandler faults view).2 = view :=
          Program.runFaulty_bind_unanswered viewHandler first view _
        exact iff_of_true (.inl unchanged) fun torn => first torn.2.1

/-! ### Atomicity of every step -/

namespace SoloShell

variable (observe : σ → StoreView)

/-- Once no append is due, the persist has updated both stores or neither, and
every retained key has a history. -/
def Atomic (before : SoloShell σ T) (_event : SoloEvent) (after : SoloShell σ T) : Prop :=
  after.phase.appending = false →
    (observe after.store = observe before.saved ∨
      ∃ loaded intent, before.phase.persists = some (loaded, intent) ∧
        (observe before.saved).BothOrNeither loaded intent (observe after.store)) ∧
    (observe after.store).FloorHeld

/-- No fault hits an append whose persist has changed the site. -/
def SparesAppend (before : SoloShell σ T) (event : SoloEvent) (_after : SoloShell σ T) :
    Prop :=
  ∀ fault, event = .call fault → fault ≠ .proceed → before.phase.appending = true →
    observe before.store = observe before.saved

end SoloShell

variable {core : Core T}

/-- An intent keeps the key of what it finds, or writes its own. -/
theorem PersistenceIntent.applyTo_pubkey (intent : PersistenceIntent)
    (stored : Option RetainedSite) :
    (intent.applyTo stored).map (·.identity.pubkey) = stored.map (·.identity.pubkey) ∨
      (intent.applyTo stored).map (·.identity.pubkey) = intent.publisher := by
  cases intent with
  | none => exact .inl rfl
  | recordObservation pubkey =>
      cases stored with
      | none => exact .inr rfl
      | some found => exact .inl rfl
  | pinIdentity pubkey =>
      cases stored with
      | none => exact .inr rfl
      | some found =>
          by_cases observed : found.identity.provenance = .observed
          · right
            simp [applyTo, publisher, observed]
          · left
            simp [applyTo, observed]
  | markExternallyVerified pubkey | replaceIdentity newPubkey replaced externallyVerified =>
      exact .inr rfl

theorem activeKey_apply {view : StoreView} {site other : OnionAddress}
    {intent : PersistenceIntent} {key : PublisherPubkey}
    (active : (view.apply site intent).activeKey other = some key) :
    view.activeKey other = some key ∨ intent.publisher = some key := by
  rw [StoreView.activeKey_eq] at active ⊢
  by_cases here : other = site
  · subst here
    rw [StoreView.sites_apply_same] at active
    rcases intent.applyTo_pubkey (view.sites other) with kept | written
    · exact .inl (kept ▸ active)
    · exact .inr (written ▸ active)
  · rw [view.sites_apply_other here] at active
    exact .inl active

/-- Persisting both keeps a history for every retained key. -/
theorem StoreView.FloorHeld.persisted {view : StoreView} (floor : view.FloorHeld)
    (site : OnionAddress) {intent : PersistenceIntent} {publisher : PublisherPubkey}
    (target : intent.publisher = some publisher) (record : RetainedManifestRecord) :
    ((view.apply site intent).appendRecord publisher record).FloorHeld := by
  intro other key active
  by_cases same : key = publisher
  · subst same
    simp
  · rw [StoreView.histories_appendRecord_other _ same]
    rcases activeKey_apply active with before | isTarget
    · exact floor other key before
    · exact absurd (Option.some.inj (isTarget.symm.trans target)) same

theorem Stage.saved_eq {phase : Phase T} {saved store : StoreView}
    (stage : Stage phase saved store) (notAppending : phase.appending = false) :
    saved = store := by
  cases stage with
  | appending saved runs recorded awaits =>
      obtain ⟨publisher, record, resume, rfl, -⟩ := awaits
      rw [Phase.appending, runs.pending] at notAppending
      cases notAppending
  | closed | waiting | building | applying | reloading => rfl

namespace SoloShell

/-- A step is atomic exactly if it spares the append. -/
theorem atomic_iff {before after : SoloShell StoreView T} {event : SoloEvent}
    (floor : before.saved.FloorHeld) (step : SoloStep before event after) :
    Atomic id before event after ↔ SparesAppend id before event after := by
  cases step with
  | still sameStore quiet notAppending =>
      refine iff_of_true (fun _ => ⟨.inl sameStore, ?_⟩) fun _ _ _ _ => quiet
      change after.store.FloorHeld
      rwa [sameStore]
  | applied answered appending saved =>
      refine iff_of_true (fun notAppending => ?_) fun fault isFault hit _ => ?_
      · rw [appending] at notAppending
        cases notAppending
      · rw [answered] at isFault
        exact absurd (SoloEvent.call.inj isFault).symm hit
  | appended answered persists target isRecord store notAppending =>
      refine iff_of_true (fun _ => ⟨.inr ⟨_, _, persists, .inr ⟨_, _, target, isRecord, store⟩⟩,
        ?_⟩) fun fault isFault hit _ => ?_
      · change after.store.FloorHeld
        rw [store]
        exact floor.persisted _ target _
      · rw [answered] at isFault
        exact absurd (SoloEvent.call.inj isFault).symm hit
  | torn isFault hit persists appending store sameStore notAppending =>
      constructor
      · intro atomic fault isFault' hit' _
        obtain ⟨unchanged | ⟨loaded, intent, persists', whole⟩, -⟩ := atomic notAppending
        · exact sameStore.symm.trans unchanged
        · obtain ⟨rfl, rfl⟩ := Prod.mk.inj (Option.some.inj (persists.symm.trans persists'))
          change before.saved.BothOrNeither _ _ after.store at whole
          rw [sameStore, store, StoreView.bothOrNeither_apply] at whole
          exact store.trans whole
      · intro spares _
        have unchanged := sameStore.trans (spares _ isFault hit appending)
        refine ⟨.inl unchanged, ?_⟩
        change after.store.FloorHeld
        rw [unchanged]
        exact floor

/-- A known stage, and a history for every key retained when the last persist was
over. -/
structure FaultInvariant (shell : SoloShell StoreView T) : Prop where
  stage : shell.StageOf
  floor : shell.saved.FloorHeld

theorem faultInvariant_fresh {view : StoreView} (floor : view.FloorHeld) :
    FaultInvariant (fresh view : SoloShell StoreView T) :=
  ⟨.closed view, floor⟩

theorem FaultInvariant.step (validates : core.CanaryValidatesIssuedAt)
    {shell next : SoloShell StoreView T} {event : SoloEvent}
    (invariant : FaultInvariant shell)
    (taken : (machine core viewHandler).step shell event = some next)
    (atomic : Atomic id shell event next) : FaultInvariant next := by
  obtain ⟨stage, step⟩ := invariant.stage.step validates taken
  refine ⟨stage, ?_⟩
  cases appending : next.phase.appending with
  | false =>
      rw [stage.saved_eq appending]
      exact (atomic appending).2
  | true =>
      cases step with
      | applied answered isAppending saved =>
          rw [saved]
          exact invariant.floor
      | still _ _ notAppending | appended _ _ _ _ _ notAppending
      | torn _ _ _ _ _ _ notAppending =>
          rw [appending] at notAppending
          cases notAppending

/-! ### Sessions on files -/

/-- The shell on the views that the files denote. -/
def onView (libs : StoreLibs) (root : StoreRoot) (shell : SoloShell Disk T) :
    SoloShell StoreView T where
  store := root.view libs shell.store
  saved := root.view libs shell.saved
  phase := shell.phase

variable {libs : StoreLibs} {root : StoreRoot}

@[simp]
theorem phase_onView (shell : SoloShell Disk T) :
    (shell.onView libs root).phase = shell.phase :=
  rfl

@[simp]
theorem store_onView (shell : SoloShell Disk T) :
    (shell.onView libs root).store = root.view libs shell.store :=
  rfl

theorem onView_enter (shell : SoloShell Disk T) (disk : Disk) (phase : Phase T) :
    (shell.enter disk phase).onView libs root =
      (shell.onView libs root).enter (root.view libs disk) phase := by
  simp only [onView, enter]
  split_ifs <;> rfl

theorem answer_files (lawful : libs.Lawful) {disk : Disk}
    (valid : root.ValidFiles libs disk) (fault : Fault Failure) (request : StoreCall) :
    (Handler.answer (I := storeInterface) (fileHandler libs root) fault request disk).1 =
        (Handler.answer (I := storeInterface) viewHandler fault request
          (root.view libs disk)).1 ∧
      root.ValidFiles libs
        (Handler.answer (I := storeInterface) (fileHandler libs root) fault request disk).2 ∧
      root.view libs
          (Handler.answer (I := storeInterface) (fileHandler libs root) fault request disk).2 =
        (Handler.answer (I := storeInterface) viewHandler fault request
          (root.view libs disk)).2 := by
  cases fault with
  | proceed =>
      obtain ⟨sameReply, stillValid, sameView⟩ := fileHandler_view lawful request valid
      exact ⟨congrArg some sameReply, stillValid, sameView⟩
  | fail error => exact ⟨rfl, valid, rfl⟩
  | stop => exact ⟨rfl, valid, rfl⟩

/-- A step on valid files is the step on the views they denote. -/
theorem step_onView (lawful : libs.Lawful) (shell : SoloShell Disk T) (event : SoloEvent)
    (valid : root.ValidFiles libs shell.store) :
    (machine core viewHandler).step (shell.onView libs root) event =
      ((machine core (fileHandler libs root)).step shell event).map (·.onView libs root) := by
  cases event with
  | start request | decide decision | close =>
      simp only [machine, phase_onView, store_onView]
      cases shell.phase <;> simp [onView_enter]
  | call fault =>
      simp only [machine, phase_onView, store_onView]
      cases isPending : shell.phase.pending with
      | none => rfl
      | some call =>
          obtain ⟨request, resume⟩ := call
          obtain ⟨sameReply, -, sameView⟩ :=
            answer_files lawful valid fault request
          cases answered : Handler.answer (I := storeInterface) (fileHandler libs root) fault
              request shell.store with
          | mk reply after =>
              rw [answered] at sameReply sameView
              have answeredView : Handler.answer (I := storeInterface) viewHandler fault request
                  (root.view libs shell.store) = (reply, root.view libs after) :=
                Prod.ext sameReply.symm sameView.symm
              simp only [answered, answeredView]
              cases reply <;> simp [onView_enter]

theorem valid_step (lawful : libs.Lawful) {shell next : SoloShell Disk T}
    {event : SoloEvent} (valid : root.ValidFiles libs shell.store)
    (taken : (machine core (fileHandler libs root)).step shell event = some next) :
    root.ValidFiles libs next.store := by
  cases event with
  | start request | decide decision | close =>
      simp only [machine] at taken
      split at taken
      · obtain rfl := Option.some.inj taken
        exact valid
      · cases taken
  | call fault =>
      cases isPending : shell.phase.pending with
      | none => simp [machine, isPending] at taken
      | some call =>
          obtain ⟨request, resume⟩ := call
          obtain ⟨-, stillValid, -⟩ := answer_files lawful valid fault request
          rcases call_eq isPending taken with
            ⟨reply, store, answered, rfl⟩ | ⟨store, answered, rfl⟩
          · rwa [answered] at stillValid
          · rwa [answered] at stillValid

/-- A step property of sessions on valid files holds along a run exactly if it holds
along the run on the view. -/
theorem along_onView (lawful : libs.Lawful)
    (property : (σ : Type) → (σ → StoreView) → SoloShell σ T → SoloEvent → SoloShell σ T → Prop)
    (same : ∀ (shell next : SoloShell Disk T) event,
      property StoreView id (shell.onView libs root) event (next.onView libs root) ↔
        property Disk (root.view libs) shell event next)
    {disk : Disk} (valid : root.ValidFiles libs disk) (events : List SoloEvent) :
    (machine core viewHandler).Along (property StoreView id)
        (fresh (root.view libs disk)) events ↔
      (machine core (fileHandler libs root)).Along (property Disk (root.view libs))
        (fresh disk) events := by
  have start : (fresh disk : SoloShell Disk T).onView libs root = fresh (root.view libs disk) :=
    rfl
  have keeps : ∀ (shell : SoloShell Disk T) event next, root.ValidFiles libs shell.store →
      (machine core (fileHandler libs root)).step shell event = some next →
      root.ValidFiles libs next.store :=
    fun _ _ _ valid taken => valid_step lawful valid taken
  rw [← start]
  exact StateMachine.along_map (fun shell => root.ValidFiles libs shell.store)
    (onView libs root)
    (fun shell event valid => step_onView lawful shell event valid) keeps
    (fun shell event next => same shell next event) valid events

end SoloShell

/-- A persist on valid files. -/
theorem App.persist_files {libs : StoreLibs} (lawful : libs.Lawful) {root : StoreRoot}
    (app : App T) (intent : PersistenceIntent) (faults : List (Fault Failure)) {disk : Disk}
    (valid : root.ValidFiles libs disk) :
    root.view libs ((app.persist intent).runFaulty (fileHandler libs root) faults disk).2 =
      ((app.persist intent).runFaulty viewHandler faults (root.view libs disk)).2 := by
  exact (Program.runFaulty_simulation (I := storeInterface)
    (fun request disk view => fileHandler_denotes lawful request disk view)
    (app.persist intent) faults ⟨valid, rfl⟩).2.2

/-- On valid files, a persist under any faults updates both stores or neither
exactly if it is not torn.  In every run of sessions one after the other, from
stores in which every retained key has a history, every step is atomic and every
retained key keeps a history exactly if no fault hits an append whose persist has
changed the site. -/
theorem persist_atomic_iff_sparesAppend {libs : StoreLibs} (lawful : libs.Lawful)
    (root : StoreRoot) {core : Core T} (validates : core.CanaryValidatesIssuedAt)
    {disk : Disk} (valid : root.ValidFiles libs disk)
    (floor : (root.view libs disk).FloorHeld) :
    (∀ (app : App T) intent faults stored, app.loaded.record.isSome →
      root.ValidFiles libs stored →
      ((root.view libs stored).BothOrNeither app.loaded intent (root.view libs
          ((app.persist intent).runFaulty (fileHandler libs root) faults stored).2) ↔
        ¬ app.Tears intent (root.view libs stored) faults)) ∧
    ∀ events,
      (SoloShell.machine core (fileHandler libs root)).Along
          (SoloShell.Atomic (root.view libs)) (.fresh disk) events ↔
        (SoloShell.machine core (fileHandler libs root)).Along
          (SoloShell.SparesAppend (root.view libs)) (.fresh disk) events := by
  refine ⟨fun app intent faults stored recorded storedValid => ?_, fun events => ?_⟩
  · rw [app.persist_files lawful intent faults storedValid]
    exact app.persist_bothOrNeither_iff intent recorded faults _
  · rw [← SoloShell.along_onView lawful (fun _ observe => SoloShell.Atomic observe)
        (fun _ _ _ => Iff.rfl) valid,
      ← SoloShell.along_onView lawful (fun _ observe => SoloShell.SparesAppend observe)
        (fun _ _ _ => Iff.rfl) valid]
    have agree : ∀ (shell : SoloShell StoreView T) event next,
        SoloShell.FaultInvariant shell →
        (SoloShell.machine core viewHandler).step shell event = some next →
        (SoloShell.Atomic id shell event next ↔ SoloShell.SparesAppend id shell event next) :=
      fun shell event next invariant taken =>
        SoloShell.atomic_iff invariant.floor (invariant.stage.step validates taken).2
    exact StateMachine.along_iff_along SoloShell.FaultInvariant agree
      (fun shell event next invariant taken atomic => invariant.step validates taken atomic)
      (SoloShell.faultInvariant_fresh floor) events

/-- A first contact whose observation is applied and whose append fails. -/
def tornObservation : List SoloEvent := [
  .start (SampleCore.visit ⟨.alpha, 10, 1, 0⟩ []).request,
  .call .proceed,
  .call .proceed,
  .call .proceed,
  .call (.fail (.err ⟨"write temp: No space left on device"⟩))]

theorem floorHeld_emptyDisk :
    (SampleLibs.root.view SampleLibs.libs SampleLibs.emptyDisk).FloorHeld := by
  rw [SampleLibs.view_emptyDisk]
  rintro site key ⟨⟩

theorem persist_atomic_iff_sparesAppend_observation :
    (SoloShell.machine SampleCore.core (fileHandler SampleLibs.libs SampleLibs.root)).Along
        (SoloShell.Atomic (SampleLibs.root.view SampleLibs.libs))
        (.fresh SampleLibs.emptyDisk) tornObservation ↔
      (SoloShell.machine SampleCore.core (fileHandler SampleLibs.libs SampleLibs.root)).Along
        (SoloShell.SparesAppend (SampleLibs.root.view SampleLibs.libs))
        (.fresh SampleLibs.emptyDisk) tornObservation :=
  (persist_atomic_iff_sparesAppend SampleLibs.lawful SampleLibs.root
    SampleCore.canaryValidatesIssuedAt SampleLibs.emptyDisk_valid
    floorHeld_emptyDisk).2 tornObservation

/-- The site retains the key, and the key has no history. -/
theorem failed_append_leaves_no_floor :
    ¬ (SoloShell.machine SampleCore.core (fileHandler SampleLibs.libs SampleLibs.root)).Along
        (SoloShell.Atomic (SampleLibs.root.view SampleLibs.libs))
        (.fresh SampleLibs.emptyDisk) tornObservation := by
  rw [← SoloShell.along_onView SampleLibs.lawful (fun _ observe => SoloShell.Atomic observe)
    (fun _ _ _ => Iff.rfl) SampleLibs.emptyDisk_valid]
  intro atomic
  have reached : ∃ before after, (SoloShell.machine SampleCore.core viewHandler).run
        (.fresh StoreView.empty) (tornObservation.take 4) = some before ∧
      (SoloShell.machine SampleCore.core viewHandler).step before
        (.call (.fail (.err ⟨"write temp: No space left on device"⟩))) = some after ∧
      after.phase.appending = false ∧
      after.store.activeKey ⟨"zero.onion"⟩ = some (seedKey 1) ∧
      (after.store.histories (seedKey 1)).newest = none :=
    ⟨_, _, rfl, rfl, rfl, by decide +kernel, by decide +kernel⟩
  obtain ⟨before, after, ran, taken, notAppending, active, noHistory⟩ := reached
  have split : tornObservation = tornObservation.take 4 ++
      [.call (.fail (.err ⟨"write temp: No space left on device"⟩))] := rfl
  rw [split] at atomic
  have floor := (atomic.at_step ran taken notAppending).2 ⟨"zero.onion"⟩ (seedKey 1) active
  rw [id_eq, noHistory] at floor
  cases floor

end EntangledClient
