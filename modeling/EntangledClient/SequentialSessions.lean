import EntangledClient.FileStores
import EntangledClient.GuiApp
import EntangledClient.StateMachine

/-!
# Sessions one after the other

On stores without errors a session is a pure update of the view: the load-time
intent, then one resolution after the other against what the site retains by
then.  The machine of sequential sessions logs the accepted visits, and on valid
files it goes through the same visits as on the view they denote.
-/

namespace EntangledClient

open CallTree ExceptRules

variable {T : CoreTypes} {σ : Type}

/-- The publisher peeked from manifest bytes is the verified manifest's. -/
def Core.PeekAgrees (core : Core T) : Prop :=
  ∀ bytes now manifest publisher, core.parseAndVerifyManifest bytes now = .ok manifest →
    peekPublisherPubkey core bytes = .ok publisher → publisher = core.publisherPubkey manifest

/-- A loaded document, as the manifest it came from gives it. -/
structure LoadedFrom (core : Core T) (history : PublisherHistory) (loaded : Loaded T)
    (manifest : T.Manifest) : Prop where
  publisher : loaded.publisher = core.publisherPubkey manifest
  record : loaded.record = core.recordFor manifest
  canary : ∃ state, core.verifyCanary manifest buildClock.now = .ok state
  checked : core.checkAgainstHistory manifest history = .ok ()
  trustState :
    loaded.chrome.trustState = (resolve loaded.publisher loaded.retained .none).state
  initialIntent :
    loaded.initialIntent = (resolve loaded.publisher loaded.retained .none).intent

variable {core : Core T}

theorem load_loadedFrom {manifestBytes : Bytes} {contentBytes : Option Bytes}
    {address : OnionAddress} {compactAddress : String}
    {retained : Option RetainedIdentity} {history : PublisherHistory} {loaded : Loaded T}
    (accepted : load core manifestBytes contentBytes address compactAddress buildClock
      retained history = .ok loaded) :
    ∃ manifest, core.parseAndVerifyManifest manifestBytes buildClock.now = .ok manifest ∧
      LoadedFrom core history loaded manifest ∧ loaded.site = address ∧
      loaded.retained = retained := by
  obtain ⟨verified, driven, publisher, record, site, snapshot, state, intent, -⟩ :=
    load_eq_ok accepted
  obtain ⟨parsed, canary, -, -, checked⟩ := verifyManifest_accept driven
  refine ⟨verified.manifest, parsed, ⟨publisher, record, ⟨_, canary⟩, checked, ?_, ?_⟩, site,
    snapshot⟩
  · rw [snapshot, state]
  · rw [snapshot, intent]

theorem LoadedFrom.peeked {history : PublisherHistory} {loaded : Loaded T}
    {manifest : T.Manifest} (from_ : LoadedFrom core history loaded manifest)
    {manifestBytes : Bytes} {publisher : PublisherPubkey}
    (parsed : core.parseAndVerifyManifest manifestBytes buildClock.now = .ok manifest)
    (peeked : peekPublisherPubkey core manifestBytes = .ok publisher)
    (agrees : core.PeekAgrees) : publisher = loaded.publisher := by
  rw [from_.publisher]
  exact agrees manifestBytes buildClock.now manifest publisher parsed peeked

namespace StoreView

variable (core)

/-- What `build` returns on a view. -/
def build (view : StoreView) (request : BuildRequest) : Except String (Loaded T) := do
  let (manifestBytes, contentBytes, address) ← request.inputs core
  let publisher ← peekPublisherPubkey core manifestBytes
  (load core manifestBytes contentBytes address request.onion buildClock
    (view.identity address) (view.histories publisher)).mapError (·.message)

/-- The view after a decision in a window whose snapshot is current. -/
def decide (view : StoreView) (loaded : Loaded T) (decision : UserDecision) : StoreView :=
  view.persist loaded
    (resolve loaded.publisher (view.identity loaded.site) decision).intent

/-- The view after a whole session. -/
def visit (view : StoreView) (loaded : Loaded T) (decisions : List UserDecision) :
    StoreView :=
  decisions.foldl (fun current decision => current.decide loaded decision)
    (view.persist loaded loaded.initialIntent)

variable {core}

theorem build_eq_ok {view : StoreView} {request : BuildRequest} {loaded : Loaded T}
    (built : view.build core request = .ok loaded) :
    loaded.retained = view.identity loaded.site ∧
      ∃ manifest publisher, LoadedFrom core (view.histories publisher) loaded manifest ∧
        (core.PeekAgrees → publisher = loaded.publisher) := by
  simp only [build, bind_eq_ok] at built
  obtain ⟨⟨manifestBytes, contentBytes, address⟩, -, publisher, peeked, accepted⟩ := built
  obtain ⟨manifest, parsed, from_, site, retained⟩ :=
    load_loadedFrom (mapError_eq_ok.mp accepted)
  exact ⟨by rw [retained, site], manifest, publisher, from_, from_.peeked parsed peeked⟩

end StoreView

theorem run_build (request : BuildRequest) (view : StoreView) :
    (build core request).run viewHandler view = (.ok (view.build core request), view) := by
  simp only [EntangledClient.build, StoreView.build]
  cases request.inputs core with
  | error message => rfl
  | ok inputs =>
      obtain ⟨manifestBytes, contentBytes, address⟩ := inputs
      simp only [ok_bind]
      rw [Program.run_bind_ok viewHandler (run_catchErr_ok (run_loadIdentity view address))]
      cases peekPublisherPubkey core manifestBytes with
      | error message => rfl
      | ok publisher =>
          simp only [ok_bind]
          rw [Program.run_bind_ok viewHandler
            (run_catchErr_ok (run_loadHistory view publisher)), Program.run_pure]

/-- What every accepted load on valid files has, it has on the view they denote. -/
theorem forall_built_files {libs : StoreLibs} (lawful : libs.Lawful) {root : StoreRoot}
    {disk : Disk} (valid : root.ValidFiles libs disk) (request : BuildRequest)
    {property : Loaded T → Prop} :
    (∀ loaded store, (build core request).run (fileHandler libs root) disk =
        (.ok (.ok loaded), store) → property loaded) ↔
      ∀ loaded store, (build core request).run viewHandler (root.view libs disk) =
        (.ok (.ok loaded), store) → property loaded := by
  have sameBuild := (run_fileHandler lawful (build core request) valid).1
  constructor
  · intro holds loaded store built
    exact holds loaded ((build core request).run (fileHandler libs root) disk).2
      (Prod.ext (sameBuild.trans (congrArg Prod.fst built)) rfl)
  · intro holds loaded store built
    exact holds loaded ((build core request).run viewHandler (root.view libs disk)).2
      (Prod.ext (sameBuild.symm.trans (congrArg Prod.fst built)) rfl)

namespace App

variable (core)

/-- The window of an accepted load, through a list of decisions. -/
def drive (loaded : Loaded T) (decisions : List UserDecision) : StoreProgram (App T) := do
  let app ← App.new core loaded
  decisions.foldlM (App.applyAndPersist core) app

variable {core}

/-- A window shows a loaded document if it is about its publisher, site and record. -/
def Shows (app : App T) (loaded : Loaded T) : Prop :=
  app.loaded.publisher = loaded.publisher ∧ app.loaded.site = loaded.site ∧
    app.loaded.record = loaded.record

theorem Shows.persist {app : App T} {loaded : Loaded T} (shows_ : app.Shows loaded)
    (view : StoreView) (intent : PersistenceIntent) :
    view.persist app.loaded intent = view.persist loaded intent := by
  obtain ⟨-, site, record⟩ := shows_
  simp only [StoreView.persist, site, record]

/-- Decisions in a window with a current snapshot act on the view one by one. -/
theorem run_decisions (decisions : List UserDecision) {app : App T} {loaded : Loaded T}
    (shows_ : app.Shows loaded) {view : StoreView}
    (current : app.loaded.retained = view.identity loaded.site) :
    ∃ after, (decisions.foldlM (App.applyAndPersist core) app).run viewHandler view =
        (.ok after,
          decisions.foldl (fun current decision => current.decide loaded decision) view) := by
  induction decisions generalizing app view with
  | nil => exact ⟨app, rfl⟩
  | cons decision decisions ih =>
      have stepped : (app.applyAndPersist core decision).run viewHandler view = _ :=
        run_applyAndPersist app decision view
      obtain ⟨publisher, site, record⟩ := id shows_
      have next : view.persist app.loaded
          (resolve app.loaded.publisher app.loaded.retained decision).intent =
            view.decide loaded decision := by
        rw [shows_.persist, current, publisher, StoreView.decide]
      simp only [next, site] at stepped
      rw [List.foldlM_cons, Program.run_bind_ok viewHandler stepped, List.foldl_cons]
      apply ih
      · exact ⟨publisher, site, record⟩
      · rfl

theorem run_drive (loaded : Loaded T) (decisions : List UserDecision) (view : StoreView) :
    ∃ after, (drive core loaded decisions).run viewHandler view =
      (.ok after, view.visit loaded decisions) := by
  have opened : ((opened core loaded).withRetained
      ((view.persist loaded loaded.initialIntent).identity loaded.site)).Shows loaded := by
    simp [Shows, withRetained]
  rw [drive, Program.run_bind_ok viewHandler (run_new loaded view)]
  exact run_decisions decisions opened rfl

end App

/-! ### The machine of sequential sessions -/

/-- What the user brings to a session. -/
structure SessionScript where
  request : BuildRequest
  decisions : List UserDecision

/-- A session whose load was accepted. -/
structure Visit (T : CoreTypes) where
  loaded : Loaded T
  decisions : List UserDecision

/-- A store, and the visits made so far, oldest first. -/
structure Shell (σ : Type) (T : CoreTypes) where
  store : σ
  visits : List (Visit T)

namespace Shell

variable (core) (handler : Handler storeInterface σ)

def fresh (store : σ) : Shell σ T :=
  { store, visits := [] }

def runSession (shell : Shell σ T) (script : SessionScript) : Shell σ T :=
  match (build core script.request).run handler shell.store with
  | (.ok (.ok loaded), store) =>
      { store := ((App.drive core loaded script.decisions).run handler store).2
        visits := shell.visits ++ [⟨loaded, script.decisions⟩] }
  | (_, store) => { shell with store }

/-- Sessions that run one after the other. -/
def machine : StateMachine (Shell σ T) SessionScript where
  step shell script := some (shell.runSession core handler script)

def runAll (shell : Shell σ T) (scripts : List SessionScript) : Shell σ T :=
  scripts.foldl (runSession core handler) shell

variable {core} {handler}

theorem run_machine (shell : Shell σ T) (scripts : List SessionScript) :
    (machine core handler).run shell scripts = some (shell.runAll core handler scripts) := by
  induction scripts generalizing shell with
  | nil => rfl
  | cons script scripts ih => exact ih _

theorem runSession_view (shell : Shell StoreView T) (script : SessionScript) :
    shell.runSession core viewHandler script =
      match shell.store.build core script.request with
      | .ok loaded =>
          { store := shell.store.visit loaded script.decisions
            visits := shell.visits ++ [⟨loaded, script.decisions⟩] }
      | .error _ => shell := by
  simp only [runSession, run_build]
  cases shell.store.build core script.request with
  | error message => rfl
  | ok loaded =>
      obtain ⟨app, driven⟩ : ∃ app, (App.drive core loaded script.decisions).run viewHandler
          shell.store = (.ok app, shell.store.visit loaded script.decisions) :=
        App.run_drive loaded script.decisions shell.store
      simp [driven]

/-- The view and the visits of a shell on files. -/
def onView (libs : StoreLibs) (root : StoreRoot) (shell : Shell Disk T) : Shell StoreView T :=
  { store := root.view libs shell.store, visits := shell.visits }

variable (core) in
/-- A session on valid files is the session on the view they denote. -/
theorem runSession_files {libs : StoreLibs} (lawful : libs.Lawful) {root : StoreRoot}
    {shell : Shell Disk T} (valid : root.ValidFiles libs shell.store)
    (script : SessionScript) :
    root.ValidFiles libs (shell.runSession core (fileHandler libs root) script).store ∧
      (shell.runSession core (fileHandler libs root) script).onView libs root =
        (shell.onView libs root).runSession core viewHandler script := by
  obtain ⟨sameBuild, builtValid, builtView⟩ :=
    run_fileHandler lawful (build core script.request) valid
  simp only [runSession, onView]
  rw [run_build] at sameBuild builtView ⊢
  cases ran : (build core script.request).run (fileHandler libs root) shell.store with
  | mk outcome store =>
      rw [ran] at sameBuild builtValid builtView
      obtain rfl : outcome = _ := sameBuild
      cases (root.view libs shell.store).build core script.request with
      | error message => exact ⟨builtValid, by simp [builtView]⟩
      | ok loaded =>
          obtain ⟨-, drivenValid, drivenView⟩ :=
            run_fileHandler lawful (App.drive core loaded script.decisions) builtValid
          simp only at builtView
          refine ⟨drivenValid, ?_⟩
          simp only [drivenView, builtView]

variable (core) in
theorem runAll_files {libs : StoreLibs} (lawful : libs.Lawful) {root : StoreRoot}
    {shell : Shell Disk T} (valid : root.ValidFiles libs shell.store)
    (scripts : List SessionScript) :
    root.ValidFiles libs (shell.runAll core (fileHandler libs root) scripts).store ∧
      (shell.runAll core (fileHandler libs root) scripts).onView libs root =
        (shell.onView libs root).runAll core viewHandler scripts := by
  induction scripts generalizing shell with
  | nil => exact ⟨valid, rfl⟩
  | cons script scripts ih =>
      obtain ⟨stillValid, sameSession⟩ := runSession_files core lawful valid script
      obtain ⟨validAfter, sameRest⟩ := ih stillValid
      refine ⟨validAfter, ?_⟩
      simp only [runAll, List.foldl_cons] at sameRest ⊢
      rw [sameRest, sameSession]

/-- The visits on valid files are the visits on the view. -/
theorem visits_files {libs : StoreLibs} (lawful : libs.Lawful) {root : StoreRoot}
    {shell : Shell Disk T} (valid : root.ValidFiles libs shell.store)
    (scripts : List SessionScript) :
    (shell.runAll core (fileHandler libs root) scripts).visits =
      ((shell.onView libs root).runAll core viewHandler scripts).visits :=
  congrArg Shell.visits (runAll_files core lawful valid scripts).2

end Shell

end EntangledClient
