import EntangledClient.RelyGuarantee
import EntangledClient.SampleWindow
import EntangledClient.WindowRuns

/-!
# The windows that frames reach

Whatever the stores answer, the window goes on presenting the document that was loaded: only
its chrome, its required action and its snapshot of what is retained change, and its prompts
close.
-/

namespace EntangledClient

open CallTree

variable {T : CoreTypes} {core : Core T} {nodes : T.Scene → List SceneNode}

/-! ### The document that is presented -/

/-- The window after an answer of its prompt, whatever the stores reply. -/
inductive App.Answered (core : Core T) (app : App T) : PromptAnswer → App T → Prop
  | waiting : Answered core app { decision := none, decline := false } app
  | declined : Answered core app { decision := none, decline := true } app.closePrompts
  | decided (decision : UserDecision) (decline : Bool) (retained : Option RetainedIdentity) :
      Answered core app { decision := some decision, decline }
        ((app.decided core decision).withRetained retained).closePrompts

/-- The windows that a session can reach, whatever the stores reply. -/
inductive App.Reached (core : Core T) (loaded : Loaded T) : App T → Prop
  | opened (retained : Option RetainedIdentity) :
      Reached core loaded ((opened core loaded).withRetained retained)
  | answered {app after : App T} (reached : Reached core loaded app) {answer : PromptAnswer}
      (answered : app.Answered core answer after) : Reached core loaded after

/-- A document as a load resolves it. -/
structure Loaded.Resolved (core : Core T) (loaded : Loaded T) : Prop where
  chrome : loaded.chrome = ChromeView.build core loaded.publisher
    (resolve loaded.publisher loaded.retained .none).state loaded.canaryState
    loaded.compactAddress .default
  action : loaded.requiredAction = (resolve loaded.publisher loaded.retained .none).action

namespace App

variable {loaded : Loaded T}

theorem reloadRetained_concludes (app : App T) :
    app.reloadRetained.Concludes fun outcome =>
      ∀ after, outcome = .ok after → ∃ retained, after = app.withRetained retained := by
  refine .bind_ok fun reloaded => ?_
  cases reloaded with
  | ok retained => exact fun after returned => ⟨retained, (Except.ok.inj returned).symm⟩
  | error failure =>
      exact fun after returned => ⟨app.loaded.retained, (Except.ok.inj returned).symm⟩

theorem applyAndPersist_answered (app : App T) (decision : UserDecision) (decline : Bool) :
    (app.applyAndPersist core decision).Concludes fun outcome =>
      ∀ after, outcome = .ok after →
        app.Answered core { decision := some decision, decline } after := by
  refine .bind_ok fun _ => .bind ((reloadRetained_concludes _).mono ?_)
  intro _ outcome reloads
  cases outcome with
  | error failure => exact fun after impossible => by cases impossible
  | ok reloaded =>
      obtain ⟨retained, rfl⟩ := reloads reloaded rfl
      exact fun after returned => Except.ok.inj returned ▸ .decided decision decline retained

/-- Only the chrome, the action and the snapshot of the document change. -/
theorem Reached.sameDocument {app : App T} (reached : Reached core loaded app) :
    app.loaded = { loaded with
      chrome := app.loaded.chrome
      requiredAction := app.loaded.requiredAction
      retained := app.loaded.retained } := by
  induction reached with
  | opened retained => simp [withRetained]
  | answered reached answered ih =>
      cases answered with
      | waiting => exact ih
      | declined => exact ih
      | decided decision decline retained =>
          simp only [closePrompts, withRetained, decided, Loaded.applyDecision]
          rw [ih]

/-- The chrome is the one of the publisher in some trust state. -/
theorem Reached.chrome {app : App T} (reached : Reached core loaded app)
    (resolved : loaded.Resolved core) :
    ∃ state, app.loaded.chrome = ChromeView.build core loaded.publisher state
      loaded.canaryState loaded.compactAddress .default := by
  induction reached with
  | opened retained => exact ⟨_, by simpa [withRetained] using resolved.chrome⟩
  | @answered app after reached answer answered ih =>
      cases answered with
      | waiting => exact ih
      | declined => exact ih
      | decided decision decline retained =>
          refine ⟨(resolve app.loaded.publisher app.loaded.retained decision).state, ?_⟩
          have same := reached.sameDocument
          simp only [closePrompts, withRetained, decided, Loaded.applyDecision]
          rw [same]

/-- A prompt is the one of the load, below the chrome of the load. -/
theorem Reached.prompts {app : App T} (reached : Reached core loaded app) :
    (app.pinPrompt = none ∧ app.mismatchPrompt = none) ∨
      ∃ retained, app = (App.opened core loaded).withRetained retained := by
  induction reached with
  | opened retained => exact .inr ⟨retained, rfl⟩
  | answered reached answered ih =>
      cases answered with
      | waiting => exact ih
      | declined => exact .inl ⟨rfl, rfl⟩
      | decided decision decline retained => exact .inl ⟨rfl, rfl⟩

end App

/-- What a successful load presents. -/
theorem load_presents {manifestBytes : Bytes} {contentBytes : Option Bytes}
    {address : OnionAddress} {compactAddress : String} {clock : Clock}
    {retained : Option RetainedIdentity} {history : PublisherHistory} {loaded : Loaded T}
    (accepted : load core manifestBytes contentBytes address compactAddress clock
      retained history = .ok loaded) :
    loaded.Resolved core ∧ ∃ verified,
      verifyManifest core manifestBytes address none clock history = .accept verified ∧
      loadScene core contentBytes verified = .ok loaded.scene ∧
      loaded.canaryState = verified.canaryState := by
  unfold load at accepted
  cases driven : verifyManifest core manifestBytes address none clock history with
  | reject d => simp [driven] at accepted
  | accept verified =>
      simp only [driven, ExceptRules.ok_bind, ExceptRules.bind_eq_ok,
        ExceptRules.pure_eq_ok, Except.ok.injEq] at accepted
      obtain ⟨scene, isScene, rfl⟩ := accepted
      exact ⟨⟨rfl, rfl⟩, verified, rfl, isScene, rfl⟩

/-! ### Runs of frames -/

/-- A document that is loaded from the files of a request and from answers of the stores. -/
def BuildRequest.Loads (core : Core T)
    (answers : (call : StoreCall) → storeInterface.Reply call → Prop) (request : BuildRequest)
    (loaded : Loaded T) : Prop :=
  ∃ manifestBytes contentBytes address retained publisher history,
    request.inputs core = .ok (manifestBytes, contentBytes, address) ∧
    answers (.loadIdentity address) (.ok retained) ∧
    peekPublisherPubkey core manifestBytes = .ok publisher ∧
    answers (.loadHistory publisher) (.ok history) ∧
    load core manifestBytes contentBytes address request.onion buildClock retained history =
      .ok loaded

theorem BuildRequest.Loads.resolved
    {answers : (call : StoreCall) → storeInterface.Reply call → Prop} {request : BuildRequest}
    {loaded : Loaded T} (loads : request.Loads core answers loaded) : loaded.Resolved core := by
  obtain ⟨_, _, _, _, _, _, -, -, -, -, accepted⟩ := loads
  exact (load_presents accepted).1

/-- What a window that opens on a document then takes to be retained for its site. -/
def Loaded.OpensWith (answers : (call : StoreCall) → storeInterface.Reply call → Prop)
    (loaded : Loaded T) (retained : Option RetainedIdentity) : Prop :=
  retained = loaded.retained ∨ answers (.loadIdentity loaded.site) (.ok retained)

section Answers

variable {answers : (call : StoreCall) → storeInterface.Reply call → Prop}

/-- What is built was loaded from the request and from what the stores answered. -/
theorem build_loads {guarantee : StoreCall → Prop} {request : BuildRequest}
    (loadsIdentity : ∀ manifestBytes contentBytes address,
      request.inputs core = .ok (manifestBytes, contentBytes, address) →
      guarantee (.loadIdentity address))
    (loadsHistory : ∀ manifestBytes contentBytes address publisher,
      request.inputs core = .ok (manifestBytes, contentBytes, address) →
      peekPublisherPubkey core manifestBytes = .ok publisher →
      guarantee (.loadHistory publisher)) :
    Program.Meets (I := storeInterface) answers guarantee
      (fun outcome => ∀ loaded, outcome = .ok (.ok loaded) → request.Loads core answers loaded)
      (build core request) := by
  unfold build
  cases isInputs : request.inputs core with
  | error message => exact fun loaded impossible => by cases impossible
  | ok inputs =>
      obtain ⟨manifestBytes, contentBytes, address⟩ := inputs
      refine .bind (.attempt ⟨loadsIdentity _ _ _ isInputs, fun reply found => ?_⟩)
      rcases reply with (error | message) | retained
      · exact fun loaded impossible => by simp at impossible
      · exact fun loaded impossible => by simp at impossible
      · simp only [Program.catchOutcome]
        cases peeked : peekPublisherPubkey core manifestBytes with
        | error message => exact fun loaded impossible => by simp at impossible
        | ok publisher =>
            refine .bind (.attempt ⟨loadsHistory _ _ _ _ isInputs peeked, fun reply kept => ?_⟩)
            rcases reply with (error | message) | history
            · exact fun loaded impossible => by simp at impossible
            · exact fun loaded impossible => by simp at impossible
            · simp only [Program.catchOutcome]
              intro loaded built
              exact ⟨manifestBytes, contentBytes, address, retained, publisher, history, isInputs,
                found, peeked, kept, ExceptRules.mapError_eq_ok.mp (Except.ok.inj built)⟩

theorem App.reloadRetained_opensWith (app : App T) :
    Program.Meets (I := storeInterface) answers (fun _ => True)
      (fun outcome => ∀ after, outcome = .ok after →
        ∃ retained, app.loaded.OpensWith answers retained ∧ after = app.withRetained retained)
      app.reloadRetained := by
  refine .bind (.attempt ⟨trivial, fun reply answered => ?_⟩)
  rcases reply with (error | message) | retained
  · rintro _ ⟨⟩
    exact ⟨app.loaded.retained, .inl rfl, rfl⟩
  · rintro _ ⟨⟩
  · rintro _ ⟨⟩
    exact ⟨retained, .inr answered, rfl⟩

theorem App.new_opened (core : Core T) (loaded : Loaded T) :
    Program.Meets (I := storeInterface) answers (fun _ => True)
      (fun outcome => ∀ app, outcome = .ok app →
        ∃ reloaded, loaded.OpensWith answers reloaded ∧
          app = (App.opened core loaded).withRetained reloaded)
      (App.new core loaded) := by
  refine .bind_ok fun _ => ?_
  have reloads := @reloadRetained_opensWith T answers (App.opened core loaded)
  rwa [opened_loaded] at reloads

end Answers

/-- The frames that a session can go through once it took this to be retained, whatever the
stores answer. -/
inductive ShellApp.Frames (core : Core T) (nodes : T.Scene → List SceneNode) (loaded : Loaded T)
    (reloaded : Option RetainedIdentity) :
    List FrameInput → ShellApp T → List FrameOutput → Prop
  | opened :
      Frames core nodes loaded reloaded []
        { app := (App.opened core loaded).withRetained reloaded
          handoff := none
          canaryOverride := false } []
  | frame {inputs : List FrameInput} {shell : ShellApp T} {outputs : List FrameOutput}
      (before : Frames core nodes loaded reloaded inputs shell outputs) (input : FrameInput)
      {app : App T} (answered : shell.app.Answered core (shell.chromeFrame input).2 app) :
      Frames core nodes loaded reloaded (inputs ++ [input])
        (({ shell with app } : ShellApp T).contentFrame nodes
          (shell.chromeFrame input).1 input).1
        (outputs ++ [(({ shell with app } : ShellApp T).contentFrame nodes
          (shell.chromeFrame input).1 input).2])

namespace ShellApp

variable {loaded : Loaded T} {reloaded : Option RetainedIdentity}

theorem Frames.reached {inputs : List FrameInput} {shell : ShellApp T}
    {outputs : List FrameOutput}
    (frames : Frames core nodes loaded reloaded inputs shell outputs) :
    shell.app.Reached core loaded := by
  induction frames with
  | opened => exact .opened reloaded
  | frame before input answered ih => exact ih.answered answered

/-- What each frame after a possible start has, all frames of a run have. -/
theorem Frames.forall_frames {property : List FrameInput → FrameInput → FrameOutput → Prop}
    (each : ∀ inputs shell outputs input app,
      Frames core nodes loaded reloaded inputs shell outputs →
      shell.app.Answered core (shell.chromeFrame input).2 app →
      property inputs input (({ shell with app } : ShellApp T).contentFrame nodes
        (shell.chromeFrame input).1 input).2)
    {inputs : List FrameInput} {shell : ShellApp T} {outputs : List FrameOutput}
    (frames : Frames core nodes loaded reloaded inputs shell outputs) :
    outputs.length = inputs.length ∧ ∀ index input, inputs[index]? = some input →
      ∃ output, outputs[index]? = some output ∧ property (inputs.take index) input output := by
  induction frames with
  | opened => simp
  | @frame inputs shell outputs before input app answered ih =>
      obtain ⟨sameLength, earlier⟩ := ih
      refine ⟨by simp [sameLength], fun index at_ isInput => ?_⟩
      rcases Nat.lt_trichotomy index inputs.length with inside | rfl | beyond
      · rw [List.getElem?_append_left inside] at isInput
        obtain ⟨output, isOutput, holds⟩ := earlier index at_ isInput
        refine ⟨output, ?_, ?_⟩
        · rw [List.getElem?_append_left (sameLength ▸ inside), isOutput]
        · rwa [List.take_append_of_le_length (Nat.le_of_lt inside)]
      · obtain rfl : input = at_ := by simpa using isInput
        refine ⟨_, by rw [← sameLength]; exact List.getElem?_concat_length, ?_⟩
        rw [List.take_left']
        · exact each inputs shell outputs input app before answered
        · rfl
      · simp [List.getElem?_eq_none (show (inputs ++ [input]).length ≤ index by simp; omega)]
          at isInput

theorem answerPrompt_answered (shell : ShellApp T) (answer : PromptAnswer) :
    (shell.answerPrompt core answer).Concludes fun outcome =>
      ∀ app, outcome = .ok app → shell.app.Answered core answer app := by
  obtain ⟨decision, decline⟩ := answer
  cases decision with
  | some decision => exact shell.app.applyAndPersist_answered decision decline
  | none =>
      cases decline with
      | true => exact fun app returned => Except.ok.inj returned ▸ .declined
      | false => exact fun app returned => Except.ok.inj returned ▸ .waiting

theorem Frames.frames_concludes {inputs : List FrameInput} {shell : ShellApp T}
    {outputs : List FrameOutput}
    (frames : Frames core nodes loaded reloaded inputs shell outputs) (more : List FrameInput) :
    (shell.frames core nodes more).Concludes fun outcome =>
      ∀ shown, outcome = .ok shown →
        Frames core nodes loaded reloaded (inputs ++ more) shown.1 (outputs ++ shown.2) := by
  induction more generalizing inputs shell outputs with
  | nil =>
      rintro shown ⟨⟩
      simpa using frames
  | cons input more ih =>
      have unrolled := @frames_cons T core nodes shell input more _ pure
      rw [Program.bind_pure] at unrolled
      rw [unrolled]
      refine .bind ((answerPrompt_answered shell _).mono ?_)
      intro _ outcome answers
      cases outcome with
      | error failure => exact fun shown impossible => by cases impossible
      | ok app =>
          refine .bind ((ih (frames.frame input (answers app rfl))).mono ?_)
          intro _ outcome follows
          cases outcome with
          | error failure => exact fun shown impossible => by cases impossible
          | ok rest =>
              rintro shown ⟨⟩
              simpa using follows rest rfl

theorem session_frames (core : Core T) (nodes : T.Scene → List SceneNode) (loaded : Loaded T)
    (inputs : List FrameInput) {answers : (call : StoreCall) → storeInterface.Reply call → Prop} :
    Program.Meets (I := storeInterface) answers (fun _ => True)
      (fun outcome => ∀ shown, outcome = .ok shown →
        ∃ reloaded, loaded.OpensWith answers reloaded ∧
          Frames core nodes loaded reloaded inputs shown.1 shown.2)
      (session core nodes loaded inputs) := by
  simp only [session, new, Program.bind_assoc]
  refine .bind ((App.new_opened core loaded).mono ?_)
  rintro (failure | app) opens
  · rintro shown ⟨⟩
  · obtain ⟨reloaded, reloads, rfl⟩ := opens app rfl
    refine (Frames.opened.frames_concludes inputs).meets.mono ?_
    exact fun outcome follows shown returned => ⟨reloaded, reloads, follows shown returned⟩

/-- What the viewer shows goes through frames of a document that was loaded. -/
theorem viewer_frames (core : Core T) (nodes : T.Scene → List SceneNode)
    (request : BuildRequest) (inputs : List FrameInput)
    {answers : (call : StoreCall) → storeInterface.Reply call → Prop} :
    Program.Meets (I := storeInterface) answers (fun _ => True)
      (fun outcome => ∀ shown, outcome = .ok (.ok shown) →
        ∃ loaded reloaded, request.Loads core answers loaded ∧ loaded.OpensWith answers reloaded ∧
          Frames core nodes loaded reloaded inputs shown.1 shown.2)
      (viewer core nodes request inputs) := by
  refine .bind ((build_loads (fun _ _ _ _ => trivial) (fun _ _ _ _ _ _ => trivial)).mono ?_)
  rintro (failure | (message | loaded)) builds
  · rintro shown ⟨⟩
  · rintro shown ⟨⟩
  · refine .bind ((session_frames core nodes loaded inputs).mono ?_)
    rintro (failure | result) follows
    · rintro shown ⟨⟩
    · rintro shown ⟨⟩
      obtain ⟨reloaded, reloads, frames⟩ := follows result rfl
      exact ⟨loaded, reloaded, builds loaded rfl, reloads, frames⟩

/-- So does a run of the viewer, with the answers that it got. -/
theorem viewer_shows {σ : Type} {handler : Handler storeInterface σ} {start after : σ}
    {request : BuildRequest} {inputs : List FrameInput} {last : ShellApp T}
    {outputs : List FrameOutput}
    (ran : (viewer core nodes request inputs).run handler start =
      (.ok (.ok (last, outputs)), after)) :
    ∃ loaded reloaded,
      request.Loads core ((viewer core nodes request inputs).Answers handler start) loaded ∧
      loaded.OpensWith ((viewer core nodes request inputs).Answers handler start) reloaded ∧
      Frames core nodes loaded reloaded inputs last outputs := by
  have shows_ := (viewer_frames core nodes request inputs).run_outcome handler start
    fun _ _ answered => answered
  rw [ran] at shows_
  exact shows_ (last, outputs) rfl

end ShellApp

end EntangledClient
