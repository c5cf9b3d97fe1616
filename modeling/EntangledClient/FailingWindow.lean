import EntangledClient.SequentialSessions
import EntangledClient.SnapshotLag

/-!
# A window whose store calls may fail

A decision rebuilds the chrome before it is persisted, and the snapshot is read
back afterwards.  Any store call of a window may return an error.  Compared are
the state that the chrome shows, the one that the snapshot resolves to, and the
one that the next session on the same manifest shows, for any store that keeps
what its sites retain.
-/

namespace EntangledClient

open CallTree ExceptRules

variable {T : CoreTypes} {σ : Type}

/-- A window, and the store that it persists to. -/
structure Window (σ : Type) (T : CoreTypes) where
  app : App T
  store : σ

/-- A decision, and the store calls that return `Err` while it is applied.  No
call is made twice for one decision. -/
structure DecisionEvent where
  decision : UserDecision
  errs : StoreCall → Option StoreError

/-- The store while these calls return `Err`. -/
def erring (handler : Handler storeInterface σ) (errs : StoreCall → Option StoreError) :
    Handler storeInterface σ :=
  handler.failing fun request => (errs request).map Failure.err

namespace Window

variable (core : Core T) (handler : Handler storeInterface σ)

/-- The decisions of one window. -/
def machine : StateMachine (Window σ T) DecisionEvent where
  step window event :=
    match (window.app.applyAndPersist core event.decision).run
        (erring handler event.errs) window.store with
    | (.ok app, store) => some { app, store }
    | (.error _, _) => none

/-- A window that `App::new` opens on a manifest that was loaded from the store, whatever
calls of the opening return `Err`. -/
def OpenedOn (request : BuildRequest) (store : σ) (window : Window σ T) : Prop :=
  ∃ loaded built errs,
    (build core request).run handler store = (.ok (.ok loaded), built) ∧
    (App.new core loaded).run (erring handler errs) built = (.ok window.app, window.store)

/-- The state that the chrome shows. -/
def shown (window : Window σ T) : TrustState :=
  window.app.loaded.chrome.trustState

/-- What the window would resolve to from its snapshot without a decision. -/
def resolved (window : Window σ T) : TrustState :=
  (resolve window.app.loaded.publisher window.app.loaded.retained .none).state

/-- The snapshot is of another key than the presented one. -/
def Mismatched (window : Window σ T) : Prop :=
  ∃ retained ∈ window.app.loaded.retained, retained.pubkey ≠ window.app.loaded.publisher

/-- Without a new decision, the next session on the same manifest shows this state. -/
def NextShows (request : BuildRequest) (window : Window σ T) (state : TrustState) : Prop :=
  ∀ loaded, ((build core request).run handler window.store).1 = .ok (.ok loaded) →
    loaded.chrome.trustState = state

/-- Loading the identity again would give the snapshot, or only an observation of the
presented key that the snapshot misses. -/
def Current (window : Window σ T) : Prop :=
  ∃ retained,
    ((loadIdentity window.app.loaded.site).run handler window.store).1 = .ok retained ∧
    (retained = window.app.loaded.retained ∨
      (window.app.loaded.retained = none ∧
        retained = some ⟨window.app.loaded.publisher, .observed⟩))

/-- The intent of a decision. -/
def intent (window : Window σ T) (event : DecisionEvent) : PersistenceIntent :=
  (resolve window.app.loaded.publisher window.app.loaded.retained event.decision).intent

/-- The identity store's apply of the decision returns `Ok`. -/
def Applies (window : Window σ T) (event : DecisionEvent) : Prop :=
  event.errs (.apply window.app.loaded.site (window.intent event)) = none

/-- The reload of the snapshot after the decision returns `Ok`. -/
def Reloads (window : Window σ T) (event : DecisionEvent) : Prop :=
  event.errs (.loadIdentity window.app.loaded.site) = none

/-- A decision that replaces the identity of the snapshot, without verifying the new one. -/
def Replaces (window : Window σ T) (event : DecisionEvent) : Prop :=
  event.decision = .confirmNewIdentity ∧ window.Mismatched

/-- The chrome shows what is retained, unless an elevation failed; only an unverified
replacement is shown as a first contact and retained as a pin.  The snapshot is current
after every reload, and until an elevation is stored and not read back. -/
structure ShowsRetained (request : BuildRequest) (before : Window σ T) (event : DecisionEvent)
    (after : Window σ T) : Prop where
  reloaded : before.Reloads event → after.Current handler
  kept : before.Current handler →
    ((before.intent event).Elevates → before.Applies event → before.Reloads event) →
    after.Current handler
  nextSession : after.Current handler → after.NextShows core handler request after.resolved
  shown : before.Current handler →
    ((before.intent event).Elevates → before.Applies event ∧ before.Reloads event) →
    ¬ before.Replaces event → after.shown = after.resolved
  replaced : before.Current handler →
    ((before.intent event).Elevates → before.Applies event ∧ before.Reloads event) →
    before.Replaces event → after.shown = .firstContact ∧ after.resolved = .tofuPinned

end Window

/-! ### What persisting and reloading come to -/

/-- A handler that keeps what a site retains, whatever else is in its states. -/
structure KeepsSites (handler : Handler storeInterface σ)
    (retains : OnionAddress → σ → Option RetainedSite → Prop) : Prop where
  loadIdentity : ∀ {site state retained}, retains site state retained →
    handler (.loadIdentity site) state = (.ok (retained.map (·.identity)), state)
  apply : ∀ {site state retained}, retains site state retained →
    ∀ intent : PersistenceIntent, ∃ after,
      handler (.apply site intent) state = (.ok (), after) ∧
        retains site after (intent.applyTo retained)
  appendRecord : ∀ {site state retained}, retains site state retained →
    ∀ publisher record, retains site (handler (.appendRecord publisher record) state).2 retained

/-- No append to a history panics. -/
def AppendsReturn (handler : Handler storeInterface σ)
    (retains : OnionAddress → σ → Option RetainedSite → Prop) : Prop :=
  ∀ site state retained, retains site state retained → ∀ publisher record message,
    (handler (.appendRecord publisher record) state).1 ≠ .error (.panic message)

theorem run_catchErr_err {α : Type} {handler : Handler storeInterface σ}
    {program : StoreProgram α} {state after : σ} {error : StoreError}
    (fails : program.run handler state = (.error (.err error), after)) :
    (catchErr program).run handler state = (.ok (.error error), after) := by
  simp [catchErr, fails, Program.catchOutcome, Failure.asErr]

theorem run_catchErr_panic {α : Type} {handler : Handler storeInterface σ}
    {program : StoreProgram α} {state after : σ} {message : String}
    (panics : program.run handler state = (.error (.panic message), after)) :
    (catchErr program).run handler state = (.error (.panic message), after) := by
  simp [catchErr, panics, Program.catchOutcome, Failure.asErr]

section Erring

variable {handler : Handler storeInterface σ} (errs : StoreCall → Option StoreError)

theorem run_perform_erring {request : StoreCall} {error : StoreError}
    (fails : errs request = some error) (state : σ) :
    (Program.perform (I := storeInterface) request).run (erring handler errs) state =
      (.error (.err error), state) := by
  have failed : (errs request).map Failure.err = some (.err error) := by rw [fails]; rfl
  change handler.failing (fun request => (errs request).map Failure.err) request state = _
  rw [Handler.failing_of_some failed]

theorem run_perform_answering {request : StoreCall} (answers : errs request = none)
    (state : σ) :
    (Program.perform (I := storeInterface) request).run (erring handler errs) state =
      handler request state := by
  have answered : (errs request).map Failure.err = none := by rw [answers]; rfl
  change handler.failing (fun request => (errs request).map Failure.err) request state = _
  rw [Handler.failing_of_none answered]

variable {retains : OnionAddress → σ → Option RetainedSite → Prop} {state : σ}
  {retained : Option RetainedSite}

/-- An append that is caught returns or panics, and leaves the site alone. -/
theorem run_append_erring (keeps : KeepsSites handler retains) {site : OnionAddress}
    (held : retains site state retained) (publisher : PublisherPubkey)
    (record : RetainedManifestRecord) :
    retains site ((appendRecord publisher record).run (erring handler errs) state).2 retained ∧
      ∀ message, ((appendRecord publisher record).run (erring handler errs) state).1 =
        .error (.panic message) → ¬ AppendsReturn handler retains := by
  cases appends : errs (.appendRecord publisher record) with
  | some error =>
      have failed : (appendRecord publisher record).run (erring handler errs) state =
          (.error (.err error), state) := run_perform_erring errs appends state
      rw [failed]
      exact ⟨held, fun message panics => by cases panics⟩
  | none =>
      have appended : (appendRecord publisher record).run (erring handler errs) state =
          handler (.appendRecord publisher record) state :=
        run_perform_answering errs appends state
      rw [appended]
      exact ⟨keeps.appendRecord held publisher record,
        fun message panics returns =>
          returns site state retained held publisher record message panics⟩

/-- What persisting an intent, caught, comes to: the site is written if its apply is
answered, and it goes on unless an append panics. -/
theorem App.run_persist_erring (keeps : KeepsSites handler retains) {app : App T}
    (held : retains app.loaded.site state retained) (intent : PersistenceIntent) :
    ∃ after,
      retains app.loaded.site after
        (siteAfter intent (errs (.apply app.loaded.site intent)).isNone retained) ∧
      ((∃ outcome, (catchErr (app.persist intent)).run (erring handler errs) state =
          (.ok outcome, after)) ∨
        ((∃ message, (catchErr (app.persist intent)).run (erring handler errs) state =
            (.error (.panic message), after)) ∧ ¬ AppendsReturn handler retains)) := by
  unfold App.persist
  cases applies : errs (.apply app.loaded.site intent) with
  | some error =>
      have failed : (applyIntent app.loaded.site intent).run (erring handler errs) state =
          (.error (.err error), state) := run_perform_erring errs applies state
      exact ⟨state, held, .inl ⟨_, run_catchErr_err (Program.run_bind_error _ failed _)⟩⟩
  | none =>
      obtain ⟨between, answered, written⟩ := keeps.apply held intent
      have applied : (applyIntent app.loaded.site intent).run (erring handler errs) state =
          (.ok (), between) := (run_perform_answering errs applies state).trans answered
      cases target : intent.publisher with
      | none =>
          exact ⟨between, written, .inl ⟨_, run_catchErr_ok (Program.run_bind_ok _ applied _)⟩⟩
      | some publisher =>
          cases isRecord : app.loaded.record with
          | none =>
              exact ⟨between, written, .inl ⟨_, run_catchErr_ok (Program.run_bind_ok _ applied _)⟩⟩
          | some record =>
              obtain ⟨kept, panics⟩ := run_append_erring errs keeps written publisher record
              cases appended :
                  (appendRecord publisher record).run (erring handler errs) between with
              | mk outcome after =>
                  rw [appended] at kept panics
                  have ran := (Program.run_bind_ok _ applied fun _ =>
                    appendRecord publisher record).trans appended
                  refine ⟨after, kept, ?_⟩
                  cases outcome with
                  | ok value => exact .inl ⟨_, run_catchErr_ok ran⟩
                  | error failure =>
                      cases failure with
                      | err error => exact .inl ⟨_, run_catchErr_err ran⟩
                      | panic message =>
                          exact .inr ⟨⟨message, run_catchErr_panic ran⟩, panics message rfl⟩

/-- The snapshot is read back if its load is answered. -/
theorem App.run_reload_erring (keeps : KeepsSites handler retains) {app : App T}
    (held : retains app.loaded.site state retained) :
    app.reloadRetained.run (erring handler errs) state =
      (.ok (app.withRetained (snapshotAfter (errs (.loadIdentity app.loaded.site)).isNone
        app.loaded.retained retained)), state) := by
  unfold App.reloadRetained
  cases loads : errs (.loadIdentity app.loaded.site) with
  | some error =>
      have failed : (loadIdentity app.loaded.site).run (erring handler errs) state =
          (.error (.err error), state) := run_perform_erring errs loads state
      rw [Program.run_bind_ok _ (run_catchErr_err failed)]
      rfl
  | none =>
      have loaded : (loadIdentity app.loaded.site).run (erring handler errs) state =
          (.ok (retained.map (·.identity)), state) :=
        (run_perform_answering errs loads state).trans (keeps.loadIdentity held)
      rw [Program.run_bind_ok _ (run_catchErr_ok loaded)]
      rfl

/-- What a site retains after an intent of a decision. -/
def Window.written (window : Window σ T) (event : DecisionEvent)
    (retained : Option RetainedSite) : Option RetainedSite :=
  siteAfter (window.intent event)
    (event.errs (.apply window.app.loaded.site (window.intent event))).isNone retained

/-- The window after a decision, from what its site retains then. -/
def Window.decided (core : Core T) (window : Window σ T) (event : DecisionEvent)
    (retained : Option RetainedSite) : App T :=
  ((window.app.decided core event.decision).withRetained
    (snapshotAfter (event.errs (.loadIdentity window.app.loaded.site)).isNone
      window.app.loaded.retained retained)).closePrompts

/-- What a decision makes of a window: it is taken unless an append panics. -/
theorem Window.step_keeps (core : Core T) (keeps : KeepsSites handler retains)
    {window : Window σ T} (held : retains window.app.loaded.site window.store retained)
    (event : DecisionEvent) :
    ∃ after, retains window.app.loaded.site after (window.written event retained) ∧
      ((Window.machine core handler).step window event =
          some ⟨window.decided core event (window.written event retained), after⟩ ∨
        ((Window.machine core handler).step window event = none ∧
          ¬ AppendsReturn handler retains)) := by
  obtain ⟨after, written, ⟨outcome, persisted⟩ | ⟨⟨message, panicked⟩, mayPanic⟩⟩ :=
    @App.run_persist_erring T _ _ event.errs _ _ _ keeps (window.app.decided core event.decision)
      held (window.intent event)
  · refine ⟨after, written, .inl ?_⟩
    have ran : (window.app.applyAndPersist core event.decision).run
        (erring handler event.errs) window.store =
          (.ok (window.decided core event (window.written event retained)), after) := by
      simp only [App.applyAndPersist]
      refine (Program.run_bind_ok _ persisted _).trans ?_
      rw [Program.run_bind_ok _ (App.run_reload_erring event.errs keeps written), Program.run_pure]
      rfl
    simp only [Window.machine, ran]
  · refine ⟨after, written, .inr ⟨?_, mayPanic⟩⟩
    have ran : (window.app.applyAndPersist core event.decision).run
        (erring handler event.errs) window.store = (.error (.panic message), after) := by
      simp only [App.applyAndPersist]
      exact Program.run_bind_error _ panicked _
    simp only [Window.machine, ran]

/-- What `App::new` makes of a loaded document, unless an append panics. -/
theorem App.run_new_erring (core : Core T) (keeps : KeepsSites handler retains)
    {loaded : Loaded T} (held : retains loaded.site state retained) :
    ∃ after,
      let written := siteAfter loaded.initialIntent
        (errs (.apply loaded.site loaded.initialIntent)).isNone retained
      retains loaded.site after written ∧
      ((App.new core loaded).run (erring handler errs) state =
          (.ok ((opened core loaded).withRetained
            (snapshotAfter (errs (.loadIdentity loaded.site)).isNone loaded.retained written)),
            after) ∨
        ((∃ message, ((App.new core loaded).run (erring handler errs) state).1 =
          .error (.panic message)) ∧ ¬ AppendsReturn handler retains)) := by
  have isLoaded : (opened core loaded).loaded = loaded := opened_loaded loaded
  have heldOpened : retains (opened core loaded).loaded.site state retained := by
    rw [isLoaded]
    exact held
  obtain ⟨after, written, persisted⟩ :=
    App.run_persist_erring errs keeps heldOpened loaded.initialIntent
  have reloaded := App.run_reload_erring errs keeps written
  rw [isLoaded] at written reloaded
  refine ⟨after, written, ?_⟩
  simp only [App.new]
  rcases persisted with ⟨outcome, ran⟩ | ⟨⟨message, panicked⟩, mayPanic⟩
  · exact .inl ((Program.run_bind_ok _ ran _).trans reloaded)
  · exact .inr ⟨⟨message, congrArg Prod.fst (Program.run_bind_error _ panicked _)⟩, mayPanic⟩

end Erring

/-! ### The next session on the same manifest -/

section NextSession

/-- The manifest of a request presents this publisher at this site. -/
def BuildRequest.Names (core : Core T) (request : BuildRequest) (publisher : PublisherPubkey)
    (site : OnionAddress) : Prop :=
  ∃ manifestBytes contentBytes manifest,
    request.inputs core = .ok (manifestBytes, contentBytes, site) ∧
    core.parseAndVerifyManifest manifestBytes buildClock.now = .ok manifest ∧
    publisher = core.publisherPubkey manifest

variable {core : Core T} {handler : Handler storeInterface σ}

theorem BuildRequest.Names.unique {request : BuildRequest}
    {publisher publisher' : PublisherPubkey} {site site' : OnionAddress}
    (names : request.Names core publisher site) (names' : request.Names core publisher' site') :
    publisher = publisher' ∧ site = site' := by
  obtain ⟨bytes, content, manifest, inputs, parsed, rfl⟩ := names
  obtain ⟨bytes', content', manifest', inputs', parsed', rfl⟩ := names'
  rw [inputs] at inputs'
  cases inputs'
  rw [parsed] at parsed'
  cases parsed'
  exact ⟨rfl, rfl⟩

/-- A program whose result was caught and is `ok` returned it. -/
theorem run_catchErr_eq_ok {α : Type} {program : StoreProgram α} {state after : σ} {value : α}
    (caught : (catchErr program).run handler state = (.ok (.ok value), after)) :
    program.run handler state = (.ok value, after) := by
  rw [catchErr, Program.run_attempt] at caught
  cases ran : program.run handler state with
  | mk outcome between =>
      rw [ran] at caught
      cases outcome with
      | ok result =>
          cases caught
          rfl
      | error failure => cases failure <;> cases caught

/-- A document that was built was loaded with the snapshot of its site, after two loads. -/
theorem build_run_ok {request : BuildRequest} {state after : σ} {loaded : Loaded T}
    (built : (build core request).run handler state = (.ok (.ok loaded), after)) :
    request.Names core loaded.publisher loaded.site ∧
    ∃ found between publisher history manifest,
      handler (.loadIdentity loaded.site) state = (.ok found, between) ∧
      handler (.loadHistory publisher) between = (.ok history, after) ∧
      loaded.retained = found ∧ LoadedFrom core history loaded manifest := by
  unfold build at built
  cases inputs : request.inputs core with
  | error message =>
      rw [inputs] at built
      cases built
  | ok values =>
      obtain ⟨manifestBytes, contentBytes, address⟩ := values
      rw [inputs] at built
      obtain ⟨caught, between, loads, built⟩ := Program.run_bind_eq_ok handler built
      cases caught with
      | error e => cases built
      | ok found =>
          cases peeked : peekPublisherPubkey core manifestBytes with
          | error message =>
              rw [peeked] at built
              cases built
          | ok publisher =>
              rw [peeked] at built
              obtain ⟨caught, last, loadsHistory, built⟩ := Program.run_bind_eq_ok handler built
              cases caught with
              | error e => cases built
              | ok history =>
                  rw [Program.run_pure] at built
                  obtain ⟨returned, rfl⟩ := Prod.mk.inj built
                  have accepted := mapError_eq_ok.mp (Except.ok.inj returned)
                  obtain ⟨manifest, parsed, from_, rfl, snapshot⟩ := load_loadedFrom accepted
                  have names : request.Names core loaded.publisher loaded.site :=
                    ⟨manifestBytes, contentBytes, manifest, inputs, parsed, from_.publisher⟩
                  exact ⟨names, found, between, publisher, history, manifest,
                    run_catchErr_eq_ok loads, run_catchErr_eq_ok loadsHistory, snapshot, from_⟩

section Sites

variable {retains : OnionAddress → σ → Option RetainedSite → Prop}

/-- What holds of a window throughout. -/
structure Window.Tracks (core : Core T) (retains : OnionAddress → σ → Option RetainedSite → Prop)
    (request : BuildRequest) (window : Window σ T) : Prop where
  held : ∃ retained, retains window.app.loaded.site window.store retained
  names : request.Names core window.app.loaded.publisher window.app.loaded.site

/-- A current snapshot is one of what the site retains. -/
theorem Window.current_iff (keeps : KeepsSites handler retains) {window : Window σ T}
    {retained : Option RetainedSite}
    (held : retains window.app.loaded.site window.store retained) :
    window.Current handler ↔
      SnapshotOf window.app.loaded.publisher window.app.loaded.retained retained := by
  have loads : (loadIdentity window.app.loaded.site).run handler window.store =
      (.ok (retained.map (·.identity)), window.store) := keeps.loadIdentity held
  simp only [Window.Current, loads, Except.ok.injEq, exists_eq_left', SnapshotOf]
  refine or_congr eq_comm (and_congr_right fun _ => ?_)
  rw [Option.map_eq_some_iff]
  constructor
  · rintro ⟨⟨identity, replaced⟩, isSite, rfl⟩
    exact ⟨replaced, isSite⟩
  · rintro ⟨replaced, isSite⟩
    exact ⟨_, isSite, rfl⟩

/-- The next session shows what a current snapshot resolves to. -/
theorem Window.Tracks.nextShows (keeps : KeepsSites handler retains) {request : BuildRequest}
    {window : Window σ T} (tracks : window.Tracks core retains request)
    (current : window.Current handler) :
    window.NextShows core handler request window.resolved := by
  intro loaded built
  obtain ⟨retained, held⟩ := tracks.held
  obtain ⟨sameNames, found, between, publisher, history, manifest, loads, -, rfl, from_⟩ :=
    build_run_ok (Prod.ext built rfl)
  obtain ⟨samePublisher, sameSite⟩ := sameNames.unique tracks.names
  rw [sameSite, keeps.loadIdentity held] at loads
  obtain ⟨isSnapshot, -⟩ := Prod.mk.inj loads
  rw [from_.trustState, samePublisher, ← Except.ok.inj isSnapshot]
  exact ((Window.current_iff keeps held).mp current).state_eq

/-- One decision of a window. -/
theorem Window.Tracks.step (keeps : KeepsSites handler retains) {request : BuildRequest}
    {window after : Window σ T} (tracks : window.Tracks core retains request)
    {event : DecisionEvent}
    (taken : (Window.machine core handler).step window event = some after) :
    Window.ShowsRetained core handler request window event after ∧
      after.Tracks core retains request := by
  obtain ⟨retained, held⟩ := tracks.held
  obtain ⟨store, written, stepped | ⟨refused, _⟩⟩ := Window.step_keeps core keeps held event
  case inr => cases taken.symm.trans refused
  obtain rfl := Option.some.inj (taken.symm.trans stepped)
  have tracksAfter : Window.Tracks core retains request
      ⟨window.decided core event (window.written event retained), store⟩ :=
    ⟨⟨_, written⟩, tracks.names⟩
  have current : Window.Current handler
      ⟨window.decided core event (window.written event retained), store⟩ ↔ _ :=
    Window.current_iff keeps written
  have isSnapshot := fun current => (Window.current_iff keeps held).mp current
  refine ⟨?_, tracksAfter⟩
  constructor
  case reloaded =>
    intro reloads
    refine current.mpr (.inl ?_)
    change snapshotAfter (event.errs (.loadIdentity window.app.loaded.site)).isNone
      window.app.loaded.retained (window.written event retained) = _
    rw [reloads]
    rfl
  case kept =>
    intro isCurrent read
    refine current.mpr ?_
    refine (isSnapshot isCurrent).decided event.decision _ _ fun elevates applied => ?_
    rw [Option.isNone_iff_eq_none] at applied ⊢
    exact read elevates applied
  case nextSession => exact tracksAfter.nextShows keeps
  case shown =>
    intro isCurrent stored unreplaced
    refine (decision_shown (isSnapshot isCurrent) event.decision _ _ fun elevates => ?_).2
      unreplaced
    rw [Option.isNone_iff_eq_none, Option.isNone_iff_eq_none]
    exact stored elevates
  case replaced =>
    intro isCurrent stored replaces
    refine (decision_shown (isSnapshot isCurrent) event.decision _ _ fun elevates => ?_).1
      replaces
    rw [Option.isNone_iff_eq_none, Option.isNone_iff_eq_none]
    exact stored elevates

/-- A window as `App::new` opens it, on a store that retains something for its site. -/
theorem Window.tracks_new (keeps : KeepsSites handler retains) {request : BuildRequest}
    {loaded : Loaded T} {history : PublisherHistory} {manifest : T.Manifest} {state : σ}
    {retained : Option RetainedSite}
    (names : request.Names core loaded.publisher loaded.site)
    (from_ : LoadedFrom core history loaded manifest)
    (held : retains loaded.site state retained)
    (snapshot : loaded.retained = retained.map (·.identity))
    {errs : StoreCall → Option StoreError} {window : Window σ T}
    (opens : (App.new core loaded).run (erring handler errs) state =
      (.ok window.app, window.store)) :
    window.Tracks core retains request ∧ window.Current handler ∧
      window.shown = window.resolved := by
  obtain ⟨after, written, ran | ⟨⟨message, panicked⟩, _⟩⟩ :=
    App.run_new_erring errs core keeps held
  case inr => cases panicked.symm.trans (congrArg Prod.fst opens)
  obtain ⟨sameApp, sameStore⟩ := Prod.mk.inj (opens.symm.trans ran)
  -- The load-time intent is that of a resolution without a decision.
  rw [from_.initialIntent] at written sameApp
  generalize (errs (.apply loaded.site
    (resolve loaded.publisher loaded.retained .none).intent)).isNone = applied at written sameApp
  have current : SnapshotOf loaded.publisher loaded.retained retained := .inl snapshot
  have unelevated := unelevated_none loaded.publisher loaded.retained
  have isSnapshot := current.decided .none applied (errs (.loadIdentity loaded.site)).isNone
    fun elevates => absurd elevates unelevated
  have undecided : ¬ ReplacesUnverified loaded.publisher loaded.retained .none := by
    rintro ⟨confirmed, _⟩
    cases confirmed
  have shown := (decision_shown current .none applied (errs (.loadIdentity loaded.site)).isNone
    fun elevates => absurd elevates unelevated).2 undecided
  obtain ⟨app, store⟩ := window
  obtain rfl : app = _ := Except.ok.inj sameApp
  obtain rfl : store = after := sameStore
  have isLoaded : (App.opened core loaded).loaded = loaded := App.opened_loaded loaded
  have heldAfter : retains (App.opened core loaded).loaded.site store _ := isLoaded.symm ▸ written
  refine ⟨⟨⟨_, heldAfter⟩, ?_⟩, (Window.current_iff keeps heldAfter).mpr ?_, ?_⟩
  · simp only [App.withRetained, App.opened_loaded]
    exact names
  · simp only [App.withRetained, App.opened_loaded]
    exact isSnapshot
  · simp only [Window.resolved, Window.shown, App.withRetained, App.opened_loaded,
      from_.trustState]
    exact shown

end Sites

end NextSession

end EntangledClient
