import EntangledClient.GuiLoad
import EntangledClient.StoreView

/-!
# The shell

A session builds a loaded document from the files and the stores, opens the
window, which persists the load-time intent, and applies the decisions of the
user one after the other.  Each step is a program over the store seams.
-/

namespace EntangledClient

open CallTree

variable {T : CoreTypes} (core : Core T)

/-- The arguments of `build`: what reading the two files gives, and the onion text. -/
structure BuildRequest where
  manifestFile : Except String Bytes
  contentFile : Option (Except String Bytes)
  onion : String

/-- The verification time of the viewer, `2026-06-05T00:00:00Z`. -/
def buildClock : Clock :=
  FixedClock 1780617600

def BuildRequest.contentBytes (request : BuildRequest) : Except String (Option Bytes) :=
  match request.contentFile with
  | none => .ok none
  | some (.ok bytes) => .ok (some bytes)
  | some (.error e) => .error ("reading content: " ++ e)

/-- The files and the address, checked in the order of the source. -/
def BuildRequest.inputs (request : BuildRequest) :
    Except String (Bytes × Option Bytes × OnionAddress) := do
  let manifestBytes ← request.manifestFile.mapError ("reading manifest: " ++ ·)
  let contentBytes ← request.contentBytes
  let address ← (core.onionAddressTryFrom request.onion).mapError
    ("invalid onion address: " ++ ·)
  return (manifestBytes, contentBytes, address)

/-- The publisher that a top-level parse of the manifest bytes names. -/
def peekPublisherPubkey (manifestBytes : Bytes) : Except String PublisherPubkey := do
  let value ← (core.parseJson manifestBytes).mapError ("parsing manifest: " ++ ·)
  match (value.get "publisher_pubkey").bind JsonValue.asStr with
  | none => .error "manifest has no string publisher_pubkey"
  | some s => (core.publisherPubkeyTryFrom s).mapError ("invalid publisher_pubkey: " ++ ·)

def build (request : BuildRequest) : StoreProgram (Except String (Loaded T)) := do
  match request.inputs core with
  | .error message => return .error message
  | .ok (manifestBytes, contentBytes, address) =>
      match ← catchErr (loadIdentity address) with
      | .error e => return .error ("loading retained identity: " ++ e.message)
      | .ok retained =>
          match peekPublisherPubkey core manifestBytes with
          | .error message => return .error message
          | .ok publisher =>
              match ← catchErr (loadHistory publisher) with
              | .error e => return .error ("loading publisher history: " ++ e.message)
              | .ok history =>
                  return (load core manifestBytes contentBytes address request.onion
                    buildClock retained history).mapError (·.message)

structure PinPromptState where
  pip : String
  deriving DecidableEq

structure MismatchState where
  presentedPip : String
  retainedPip : String
  deriving DecidableEq

/-- The window, without what it draws and hands off. -/
structure App (T : CoreTypes) where
  loaded : Loaded T
  pinPrompt : Option PinPromptState
  mismatchPrompt : Option MismatchState

/-- The publisher whose history a persisted intent extends. -/
def PersistenceIntent.publisher : PersistenceIntent → Option PublisherPubkey
  | .none => Option.none
  | .recordObservation pubkey | .pinIdentity pubkey | .markExternallyVerified pubkey =>
      some pubkey
  | .replaceIdentity newPubkey _ _ => some newPubkey

theorem PersistenceIntent.publisher_eq_none {intent : PersistenceIntent} :
    intent.publisher = Option.none ↔ intent = .none := by
  cases intent <;> simp [PersistenceIntent.publisher]

namespace App

/-- Write the intent under the site and, if it is not `none`, append the
accepted manifest's record under the publisher. -/
def persist (app : App T) (intent : PersistenceIntent) : StoreProgram Unit := do
  applyIntent app.loaded.site intent
  match intent.publisher with
  | none => return ()
  | some publisher =>
      match app.loaded.record with
      | some record => appendRecord publisher record
      | none => return ()

def withRetained (app : App T) (retained : Option RetainedIdentity) : App T :=
  { app with loaded := { app.loaded with retained } }

/-- Reload the snapshot; on an error it stays as it is. -/
def reloadRetained (app : App T) : StoreProgram (App T) := do
  match ← catchErr (loadIdentity app.loaded.site) with
  | .ok retained => return app.withRetained retained
  | .error _ => return app

/-- The window before its first write, with the prompt that the load asks for. -/
def opened (loaded : Loaded T) : App T :=
  match loaded.requiredAction with
  | .pinPrompt =>
      { loaded
        pinPrompt := some { pip := loaded.chrome.pip }
        mismatchPrompt := none }
  | .mismatchWarning =>
      { loaded
        pinPrompt := none
        mismatchPrompt := some {
          presentedPip := loaded.chrome.pip
          retainedPip := (loaded.retained.map fun r => core.derivePip r.pubkey).getD "" } }
  | .none => { loaded, pinPrompt := none, mismatchPrompt := none }

/-- `App::new`: persist the load-time intent before any decision. -/
def new (loaded : Loaded T) : StoreProgram (App T) := do
  let app := opened core loaded
  let _ ← catchErr (app.persist loaded.initialIntent)
  app.reloadRetained

/-- The window after a decision was resolved, before it is persisted. -/
def decided (app : App T) (decision : UserDecision) : App T :=
  { app with loaded := (app.loaded.applyDecision core decision).1 }

def closePrompts (app : App T) : App T :=
  { app with pinPrompt := none, mismatchPrompt := none }

/-- A failure to persist is reported and the snapshot reloaded all the same. -/
def applyAndPersist (app : App T) (decision : UserDecision) : StoreProgram (App T) := do
  let intent := (app.loaded.applyDecision core decision).2
  let app := app.decided core decision
  let _ ← catchErr (app.persist intent)
  let app ← app.reloadRetained
  return app.closePrompts

end App

/-- A session that loads, opens the window and takes these decisions; `none` if
the load fails. -/
def session (request : BuildRequest) (decisions : List UserDecision) :
    StoreProgram (Option (App T)) := do
  match ← build core request with
  | .error _ => return none
  | .ok loaded =>
      let app ← App.new core loaded
      let app ← decisions.foldlM (App.applyAndPersist core) app
      return some app

/-- A resolution persists under the presented publisher, if it persists at all. -/
theorem resolve_publisher (presented : PublisherPubkey) (retained : Option RetainedIdentity)
    (decision : UserDecision) :
    (resolve presented retained decision).intent = .none ∨
      (resolve presented retained decision).intent.publisher = some presented := by
  rcases resolve_intent presented retained decision with
    none_ | ⟨-, observed⟩ | pinned | ⟨-, -, verified⟩ | ⟨record, -, -, -, replaced⟩
  · exact .inl none_
  · exact .inr (by rw [observed]; rfl)
  · exact .inr (by rw [pinned]; rfl)
  · exact .inr (by rw [verified]; rfl)
  · exact .inr (by rw [replaced]; rfl)

/-! ### What each step does to the view -/

/-- The view after an intent was persisted for a loaded document. -/
def StoreView.persist (view : StoreView) (loaded : Loaded T) (intent : PersistenceIntent) :
    StoreView :=
  match intent.publisher, loaded.record with
  | some publisher, some record =>
      (view.apply loaded.site intent).appendRecord publisher record
  | _, _ => view.apply loaded.site intent

@[simp]
theorem StoreView.persist_none (view : StoreView) (loaded : Loaded T) :
    view.persist loaded .none = view := by
  simp [persist, PersistenceIntent.publisher]

@[simp]
theorem StoreView.sites_persist (view : StoreView) (loaded : Loaded T)
    (intent : PersistenceIntent) :
    (view.persist loaded intent).sites = (view.apply loaded.site intent).sites := by
  unfold persist
  split <;> rfl

/-- Persisting extends the history of the intent's publisher only. -/
theorem StoreView.histories_persist (view : StoreView) (loaded : Loaded T)
    (intent : PersistenceIntent) (publisher : PublisherPubkey) :
    (view.persist loaded intent).histories publisher =
      match loaded.record with
      | some record =>
          if intent.publisher = some publisher then (view.histories publisher).push record
          else view.histories publisher
      | none => view.histories publisher := by
  unfold persist
  cases loaded.record with
  | none => cases intent.publisher <;> rfl
  | some record =>
      cases target : intent.publisher with
      | none => simp
      | some other =>
          by_cases same : publisher = other
          · subst same
            simp
          · simp [histories_appendRecord_other _ same, Ne.symm same]

variable {core}

theorem run_catchErr_ok {σ α : Type} {handler : Handler storeInterface σ}
    {program : StoreProgram α} {state after : σ} {value : α}
    (returns : program.run handler state = (.ok value, after)) :
    (catchErr program).run handler state = (.ok (.ok value), after) := by
  simp [catchErr, returns, Program.catchOutcome]

namespace App

@[simp]
theorem opened_loaded (loaded : Loaded T) : (opened core loaded).loaded = loaded := by
  unfold opened
  cases loaded.requiredAction <;> rfl

@[simp]
theorem run_persist (app : App T) (intent : PersistenceIntent) (view : StoreView) :
    (app.persist intent).run viewHandler view =
      (.ok (), view.persist app.loaded intent) := by
  simp only [persist, StoreView.persist]
  rw [Program.run_bind_ok viewHandler (run_applyIntent view _ _)]
  cases intent.publisher with
  | none => rfl
  | some publisher => cases app.loaded.record <;> rfl

@[simp]
theorem run_reloadRetained (app : App T) (view : StoreView) :
    app.reloadRetained.run viewHandler view =
      (.ok (app.withRetained (view.identity app.loaded.site)), view) := by
  simp only [reloadRetained]
  rw [Program.run_bind_ok viewHandler
    (run_catchErr_ok (run_loadIdentity view app.loaded.site)), Program.run_pure]

theorem run_new (loaded : Loaded T) (view : StoreView) :
    (new core loaded).run viewHandler view =
      (.ok ((opened core loaded).withRetained
          ((view.persist loaded loaded.initialIntent).identity loaded.site)),
        view.persist loaded loaded.initialIntent) := by
  simp only [new]
  rw [Program.run_bind_ok viewHandler (run_catchErr_ok (run_persist _ _ view))]
  simp

/-- The window after a decision, on a view without errors. -/
theorem run_applyAndPersist (app : App T) (decision : UserDecision) (view : StoreView) :
    (app.applyAndPersist core decision).run viewHandler view =
      let intent := (resolve app.loaded.publisher app.loaded.retained decision).intent
      let after := view.persist app.loaded intent
      (.ok ((app.decided core decision).withRetained
          (after.identity app.loaded.site)).closePrompts, after) := by
  simp only [applyAndPersist]
  rw [Program.run_bind_ok viewHandler (run_catchErr_ok (run_persist _ _ view)),
    Program.run_bind_ok viewHandler (run_reloadRetained _ _), Program.run_pure]
  rfl

end App

end EntangledClient
