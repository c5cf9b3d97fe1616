import EntangledClient.RelyGuarantee
import EntangledClient.WindowReach

/-!
# The calls of the viewer

The viewer loads what is retained for the address of its request and for the publisher that its
manifest names.  Afterwards all its calls are about the site and the publisher of the document
that it presents, and what it persists resolves a decision that the user clicked.
-/

namespace EntangledClient

open CallTree

variable {T : CoreTypes} {core : Core T} {nodes : T.Scene → List SceneNode}

/-! ### What is presented -/

/-- A request whose manifest is accepted for this site against the history of the publisher that
it names, with its content. -/
def BuildRequest.Presents (core : Core T) (request : BuildRequest) (site : OnionAddress)
    (named : PublisherPubkey) (history : PublisherHistory) (verified : VerifiedManifest T) :
    Prop :=
  ∃ manifestBytes contentBytes scene,
    request.inputs core = .ok (manifestBytes, contentBytes, site) ∧
      peekPublisherPubkey core manifestBytes = .ok named ∧
      verifyManifest core manifestBytes site none buildClock history = .accept verified ∧
      loadScene core contentBytes verified = .ok scene

/-- A document that is loaded for a request against a history that the stores answered. -/
def Loaded.PresentedBy (core : Core T)
    (answers : (call : StoreCall) → storeInterface.Reply call → Prop) (request : BuildRequest)
    (loaded : Loaded T) : Prop :=
  ∃ named history verified, request.Presents core loaded.site named history verified ∧
    answers (.loadHistory named) (.ok history) ∧
    loaded.publisher = core.publisherPubkey verified.manifest ∧
    loaded.record = core.recordFor verified.manifest

theorem BuildRequest.Loads.presented
    {answers : (call : StoreCall) → storeInterface.Reply call → Prop} {request : BuildRequest}
    {loaded : Loaded T} (loads : request.Loads core answers loaded) :
    loaded.PresentedBy core answers request ∧
      answers (.loadIdentity loaded.site) (.ok loaded.retained) ∧
      loaded.initialIntent = (resolve loaded.publisher loaded.retained .none).intent := by
  obtain ⟨manifestBytes, contentBytes, address, retained, named, history, isInputs, found, peeked,
    kept, accepted⟩ := loads
  obtain ⟨verified, driven, publisher, record, rfl, rfl, -, intent, -⟩ := load_eq_ok accepted
  obtain ⟨-, again, driven', isScene, -⟩ := load_presents accepted
  obtain rfl : verified = again := Outcome.accept.inj (driven.symm.trans driven')
  exact ⟨⟨named, history, verified, ⟨manifestBytes, contentBytes, _, isInputs, peeked, driven,
    isScene⟩, kept, publisher, record⟩, found, intent⟩

/-! ### The decisions that are clicked -/

/-- A decision that some prompt takes in this frame. -/
def FrameInput.Decides (input : FrameInput) (decision : UserDecision) : Prop :=
  (pinAnswer input).decision = some decision ∨ (mismatchAnswer input).decision = some decision

theorem ShellApp.chromeFrame_decides {shell : ShellApp T} {input : FrameInput}
    {decision : UserDecision}
    (decided : (shell.chromeFrame input).2.decision = some decision) : input.Decides decision := by
  simp only [ShellApp.chromeFrame, drawActionPanel] at decided
  split at decided
  · exact .inl decided
  · split at decided
    · exact .inr decided
    · cases decided

/-! ### The calls of a window -/

/-- What a window may call as long as it shows such a document, and what it relies on. -/
structure WindowFits (core : Core T)
    (rely : (request : StoreCall) → storeInterface.Reply request → Prop)
    (guarantee : StoreCall → Prop) (decides : UserDecision → Prop) (fits : Loaded T → Prop) :
    Prop where
  loads : ∀ loaded, fits loaded → guarantee (.loadIdentity loaded.site)
  applies : ∀ loaded decision, fits loaded → decides decision → guarantee (.apply loaded.site
    (resolve loaded.publisher loaded.retained decision).intent)
  appends : ∀ loaded decision record, fits loaded → decides decision →
    (resolve loaded.publisher loaded.retained decision).intent ≠ .none →
    loaded.record = some record → guarantee (.appendRecord loaded.publisher record)
  reloads : ∀ loaded retained, fits loaded →
    rely (.loadIdentity loaded.site) (.ok retained) → fits { loaded with retained }
  decided : ∀ loaded decision, fits loaded → fits (loaded.applyDecision core decision).1
  opens : decides .none

section Window

variable {rely : (request : StoreCall) → storeInterface.Reply request → Prop}
  {guarantee : StoreCall → Prop} {decides : UserDecision → Prop} {fits : Loaded T → Prop}
  (window : WindowFits core rely guarantee decides fits)

include window

theorem App.persist_meets {app : App T} (isFit : fits app.loaded) {decision : UserDecision}
    (isDecided : decides decision) :
    Program.Meets (I := storeInterface) rely guarantee (fun _ => True)
      (app.persist (resolve app.loaded.publisher app.loaded.retained decision).intent) := by
  refine .bind ⟨window.applies _ _ isFit isDecided, fun reply _ => ?_⟩
  rcases reply with failure | applied
  · trivial
  · rcases resolve_publisher app.loaded.publisher app.loaded.retained decision with
      silent | about
    · rw [silent]
      trivial
    · have writes : (resolve app.loaded.publisher app.loaded.retained decision).intent ≠ .none := by
        intro silent
        rw [silent] at about
        cases about
      rw [about]
      cases isRecord : app.loaded.record with
      | none => trivial
      | some record =>
          exact ⟨window.appends _ _ _ isFit isDecided writes isRecord, fun _ _ => trivial⟩

theorem App.reloadRetained_meets {app : App T} (isFit : fits app.loaded) :
    Program.Meets (I := storeInterface) rely guarantee
      (fun outcome => ∀ after, outcome = .ok after → fits after.loaded) app.reloadRetained := by
  refine .bind (.attempt ⟨window.loads _ isFit, fun reply relied => ?_⟩)
  rcases reply with (error | message) | retained
  · rintro _ ⟨⟩
    exact isFit
  · rintro _ ⟨⟩
  · rintro _ ⟨⟩
    exact window.reloads _ _ isFit relied

/-- After any outcome of a persist the window reloads what is retained. -/
theorem App.persistAndReload_meets {app : App T} (isFit : fits app.loaded)
    {shown : App T} (isShown : fits shown.loaded) (same : shown.persist = app.persist)
    {decision : UserDecision} (isDecided : decides decision) :
    Program.Meets (I := storeInterface) rely guarantee
      (fun outcome => ∀ after, outcome = .ok after → fits after.loaded)
      (do
        let _ ← catchErr (shown.persist
          (resolve app.loaded.publisher app.loaded.retained decision).intent)
        shown.reloadRetained) := by
  rw [same]
  refine .bind (.attempt ((persist_meets window isFit isDecided).mono ?_))
  rintro ((error | message) | persisted) -
  · exact reloadRetained_meets window isShown
  · rintro _ ⟨⟩
  · exact reloadRetained_meets window isShown

theorem App.new_meets {loaded : Loaded T} (isFit : fits loaded)
    (initial : loaded.initialIntent = (resolve loaded.publisher loaded.retained .none).intent) :
    Program.Meets (I := storeInterface) rely guarantee
      (fun outcome => ∀ app, outcome = .ok app → fits app.loaded) (App.new core loaded) := by
  have shown : (App.opened core loaded).loaded = loaded := App.opened_loaded loaded
  have opened : fits (App.opened core loaded).loaded := by rwa [shown]
  have meets := persistAndReload_meets window opened opened rfl window.opens
  rwa [shown, ← initial] at meets

theorem App.applyAndPersist_meets {app : App T} (isFit : fits app.loaded)
    {decision : UserDecision} (isDecided : decides decision) :
    Program.Meets (I := storeInterface) rely guarantee
      (fun outcome => ∀ after, outcome = .ok after → fits after.loaded)
      (app.applyAndPersist core decision) := by
  have decided := window.decided app.loaded decision isFit
  have meets := @persistAndReload_meets T core rely guarantee decides fits window app isFit
    (app.decided core decision) decided rfl decision isDecided
  have sequenced : app.applyAndPersist core decision = (do
      let _ ← catchErr ((app.decided core decision).persist
        (resolve app.loaded.publisher app.loaded.retained decision).intent)
      (app.decided core decision).reloadRetained) >>= fun app => pure app.closePrompts := by
    simp only [App.applyAndPersist, Program.bind_assoc]
    rfl
  rw [sequenced]
  refine .bind (meets.mono ?_)
  rintro (failure | reloaded) fitsReloaded
  · rintro _ ⟨⟩
  · rintro _ ⟨⟩
    exact fitsReloaded reloaded rfl

theorem ShellApp.answerPrompt_meets {shell : ShellApp T} (isFit : fits shell.app.loaded)
    {input : FrameInput} (clicked : ∀ decision, input.Decides decision → decides decision) :
    Program.Meets (I := storeInterface) rely guarantee
      (fun outcome => ∀ after, outcome = .ok after → fits after.loaded)
      (shell.answerPrompt core (shell.chromeFrame input).2) := by
  unfold ShellApp.answerPrompt
  split
  next decision isDecision =>
    exact App.applyAndPersist_meets window isFit (clicked _ (chromeFrame_decides isDecision))
  next =>
    rintro _ ⟨⟩
    split
    · exact isFit
    · exact isFit

theorem ShellApp.frames_meets {inputs : List FrameInput}
    (clicked : ∀ input ∈ inputs, ∀ decision, input.Decides decision → decides decision)
    {shell : ShellApp T} (isFit : fits shell.app.loaded) :
    Program.Meets (I := storeInterface) rely guarantee (fun _ => True)
      (shell.frames core nodes inputs) := by
  induction inputs generalizing shell with
  | nil => trivial
  | cons input inputs ih =>
      have unrolled := @frames_cons T core nodes shell input inputs _ pure
      rw [Program.bind_pure] at unrolled
      rw [unrolled]
      refine .bind ((answerPrompt_meets window isFit (clicked input List.mem_cons_self)).mono ?_)
      rintro (failure | app) fitsAfter
      · trivial
      · refine .bind ((ih (fun other member => clicked other (List.mem_cons_of_mem _ member))
          (fitsAfter app rfl)).mono ?_)
        rintro (failure | shown) -
        · trivial
        · trivial

theorem ShellApp.session_meets {loaded : Loaded T} (isFit : fits loaded)
    (initial : loaded.initialIntent = (resolve loaded.publisher loaded.retained .none).intent)
    {inputs : List FrameInput}
    (clicked : ∀ input ∈ inputs, ∀ decision, input.Decides decision → decides decision) :
    Program.Meets (I := storeInterface) rely guarantee (fun _ => True)
      (ShellApp.session core nodes loaded inputs) := by
  simp only [ShellApp.session, ShellApp.new, Program.bind_assoc]
  refine .bind ((App.new_meets window isFit initial).mono ?_)
  rintro (failure | app) fitsAfter
  · trivial
  · exact frames_meets window clicked (fitsAfter app rfl)

end Window

/-! ### The calls of a build -/

/-- The publishers whose history a request may call for: the one that its manifest names before
it is verified, and the one of the verified manifest. -/
def BuildRequest.Concerns (core : Core T) (request : BuildRequest) (publisher : PublisherPubkey) :
    Prop :=
  ∃ manifestBytes contentBytes site,
    request.inputs core = .ok (manifestBytes, contentBytes, site) ∧
      (peekPublisherPubkey core manifestBytes = .ok publisher ∨
        ∃ manifest, core.parseAndVerifyManifest manifestBytes buildClock.now = .ok manifest ∧
          core.publisherPubkey manifest = publisher)

/-- The site that a request is for. -/
def BuildRequest.Visits (core : Core T) (request : BuildRequest) (site : OnionAddress) : Prop :=
  ∃ manifestBytes contentBytes, request.inputs core = .ok (manifestBytes, contentBytes, site)

section Build

variable {rely : (request : StoreCall) → storeInterface.Reply request → Prop}
  {guarantee : StoreCall → Prop}

/-- A build loads what is retained for its site and for the publisher that its manifest names,
and what it returns is presented with what was answered. -/
theorem build_meets {request : BuildRequest}
    (loadsIdentity : ∀ site, request.Visits core site → guarantee (.loadIdentity site))
    (loadsHistory : ∀ publisher, request.Concerns core publisher →
      guarantee (.loadHistory publisher)) :
    Program.Meets (I := storeInterface) rely guarantee
      (fun outcome => ∀ loaded, outcome = .ok (.ok loaded) →
        loaded.PresentedBy core rely request ∧
          rely (.loadIdentity loaded.site) (.ok loaded.retained) ∧
          loaded.initialIntent = (resolve loaded.publisher loaded.retained .none).intent)
      (build core request) := by
  refine (build_loads ?_ ?_).mono fun outcome loads loaded built =>
    (loads loaded built).presented
  · exact fun manifestBytes contentBytes site isInputs => loadsIdentity site ⟨_, _, isInputs⟩
  · exact fun manifestBytes contentBytes site publisher isInputs peeked =>
      loadsHistory publisher ⟨_, _, _, isInputs, .inl peeked⟩

/-- The viewer keeps to what its build and its window do. -/
theorem ShellApp.viewer_meets {request : BuildRequest} {inputs : List FrameInput}
    {decides : UserDecision → Prop} {fits : Loaded T → Prop}
    (window : WindowFits core rely guarantee decides fits)
    (loadsIdentity : ∀ site, request.Visits core site → guarantee (.loadIdentity site))
    (loadsHistory : ∀ publisher, request.Concerns core publisher →
      guarantee (.loadHistory publisher))
    (clicked : ∀ input ∈ inputs, ∀ decision, input.Decides decision → decides decision)
    (presents : ∀ loaded, loaded.PresentedBy core rely request →
      rely (.loadIdentity loaded.site) (.ok loaded.retained) → fits loaded) :
    Program.Meets (I := storeInterface) rely guarantee (fun _ => True)
      (ShellApp.viewer core nodes request inputs) := by
  refine .bind ((build_meets loadsIdentity loadsHistory).mono ?_)
  rintro (failure | (message | loaded)) builds
  · trivial
  · trivial
  · obtain ⟨presented, relied, initial⟩ := builds loaded rfl
    refine .bind ((session_meets window (presents loaded presented relied) initial clicked).mono ?_)
    rintro (failure | shown) -
    · trivial
    · trivial

end Build

end EntangledClient
