import EntangledClient.WindowChrome

/-!
# What frames show of the content

An expired canary blocks the content in every frame up to the click that overrides it.  The
dialog of an external link stands in every frame from a click on such a link in content that
is shown up to the click that closes it, and only its own button copies the address.
-/

namespace EntangledClient

open CallTree

variable {T : CoreTypes} {core : Core T} {nodes : T.Scene → List SceneNode}

/-! ### The block of an expired canary -/

/-- An expired canary that none of these frames overrides. -/
def CanaryState.Blocks (canaryState : CanaryState) (inputs : List FrameInput) : Prop :=
  canaryState = .expired ∧ ∀ input ∈ inputs, input.clicked .showContent = false

instance (canaryState : CanaryState) (inputs : List FrameInput) :
    Decidable (canaryState.Blocks inputs) :=
  inferInstanceAs (Decidable (_ ∧ _))

/-- The content of a frame, after these frames. -/
def contentAfter (canaryState : CanaryState) (scene : Option (List SceneNode))
    (inputs : List FrameInput) (input : FrameInput) : List Drawn :=
  if canaryState.Blocks inputs then canaryBlock
  else
    (if canaryState = .expired then overrideActiveNotice else []) ++
      match scene with
      | some nodes => (drawScene input.clicked nodes).1
      | none => [.label "(manifest only - no content document loaded)"]

namespace ShellApp

variable {loaded : Loaded T} {reloaded : Option RetainedIdentity}

theorem expired_eq {shell : ShellApp T} (reached : shell.app.Reached core loaded)
    (resolved : loaded.Resolved core) :
    shell.expired = decide (loaded.canaryState = .expired) := by
  obtain ⟨state, chrome⟩ := reached.chrome resolved
  rw [expired, chrome]
  rfl

/-- The block of a frame is the one that the frames before it left. -/
theorem blocked_iff {canaryState : CanaryState} {inputs : List FrameInput} {override : Bool}
    (overridden : canaryState = .expired →
      (override = true ↔ ∃ input ∈ inputs, input.clicked .showContent = true)) :
    renderBlockActive (decide (canaryState = .expired)) override = true ↔
      canaryState.Blocks inputs := by
  by_cases isExpired : canaryState = .expired
  · have overridden := overridden isExpired
    cases override with
    | true =>
        obtain ⟨input, member, clicked⟩ := overridden.mp rfl
        have notBlocked : ¬ canaryState.Blocks inputs := fun blocks => by
          simpa [clicked] using blocks.2 input member
        simp [renderBlockActive, notBlocked]
    | false =>
        have noClick : ∀ input ∈ inputs, input.clicked .showContent = false := by
          intro input member
          by_contra clicked
          have impossible := overridden.mpr ⟨input, member, by simpa using clicked⟩
          cases impossible
        simpa [renderBlockActive, isExpired, CanaryState.Blocks] using noClick
  · simp [renderBlockActive, isExpired, CanaryState.Blocks]

/-- The override of a document with an expired canary was clicked in one of the frames. -/
theorem Frames.overridden {inputs : List FrameInput} {shell : ShellApp T}
    {outputs : List FrameOutput}
    (frames : Frames core nodes loaded reloaded inputs shell outputs)
    (resolved : loaded.Resolved core) (isExpired : loaded.canaryState = .expired) :
    shell.canaryOverride = true ↔ ∃ input ∈ inputs, input.clicked .showContent = true := by
  induction frames with
  | opened => simp
  | @frame inputs shell outputs before input app answered ih =>
      have reached := before.reached.answered answered
      have expired := @expired_eq T core loaded { shell with app } reached resolved
      cases override : shell.canaryOverride with
      | true =>
          obtain ⟨earlier, member, clicked⟩ := ih.mp override
          have afterwards : ∃ clicking ∈ inputs ++ [input], clicking.clicked .showContent = true :=
            ⟨earlier, List.mem_append_left _ member, clicked⟩
          simpa only [contentFrame, override, Bool.true_or, true_iff] using afterwards
      | false =>
          have noClick : ¬ ∃ earlier ∈ inputs, earlier.clicked .showContent = true := by
            rw [← ih, override]
            exact Bool.false_ne_true
          rw [override] at expired
          simp only [contentFrame, expired, isExpired, drawContent, renderBlockActive]
          simp only [List.mem_append, List.mem_singleton, or_and_right, exists_or,
            exists_eq_left, noClick, false_or]
          simp

/-- The content that a frame draws. -/
theorem contentFrame_content {shell : ShellApp T} {canaryState : CanaryState}
    {inputs : List FrameInput} (expired : shell.expired = decide (canaryState = .expired))
    (overridden : canaryState = .expired →
      (shell.canaryOverride = true ↔ ∃ input ∈ inputs, input.clicked .showContent = true))
    (chrome : List Drawn) (input : FrameInput) :
    (shell.contentFrame nodes chrome input).2.content =
      contentAfter canaryState (shell.app.loaded.scene.map nodes) inputs input := by
  have blocked := blocked_iff overridden
  rw [← expired] at blocked
  unfold contentAfter
  by_cases blocks : canaryState.Blocks inputs
  · simp only [contentFrame, drawContent, blocked.mpr blocks, if_pos, blocks]
  · have shown : renderBlockActive shell.expired shell.canaryOverride = false := by
      simpa [blocks] using blocked
    have notice : (shell.expired && shell.canaryOverride) = decide (canaryState = .expired) := by
      rw [← expired]
      cases isExpired : shell.expired with
      | false => rfl
      | true => simpa [renderBlockActive, isExpired] using shown
    simp only [contentFrame, drawContent, shown, notice, blocks, Bool.false_eq_true, if_false,
      decide_eq_true_eq]
    cases shell.app.loaded.scene with
    | none => rfl
    | some scene => rfl

end ShellApp

/-! ### The dialog of an external link -/

/-- The dialog is closed in this frame, if it is open. -/
def FrameInput.closes (input : FrameInput) : Bool :=
  input.clicked .copyUrl || input.clicked .cancelHandoff || input.clicked .closeHandoff

/-- In one of these frames the external link is clicked in content that is shown. -/
def Loaded.Requested (nodes : T.Scene → List SceneNode) (loaded : Loaded T)
    (inputs : List FrameInput) (index : Nat) (target : Handoff) : Prop :=
  ∃ input scene, inputs[index]? = some input ∧ loaded.scene = some scene ∧
    ¬ loaded.canaryState.Blocks (inputs.take index) ∧
    ClickedLink input.clicked (nodes scene) target

/-- Some frame from the first index on, and before the second one, closes the dialog. -/
def ClosedBetween (inputs : List FrameInput) (first last : Nat) : Prop :=
  ∃ input ∈ (inputs.take last).drop first, input.closes = true

/-- The link whose dialog stands, if the closing clicks up to an index count. -/
def Loaded.Stands (nodes : T.Scene → List SceneNode) (loaded : Loaded T)
    (inputs : List FrameInput) (last : Nat) : Option Handoff → Prop
  | none => ∀ index target, loaded.Requested nodes inputs index target →
      ClosedBetween inputs index last
  | some target => ∃ index, loaded.Requested nodes inputs index target ∧
      ¬ ClosedBetween inputs index last

/-- What the dialog of a frame shows and copies, after these frames. -/
def Loaded.FrameDialog (nodes : T.Scene → List SceneNode) (loaded : Loaded T)
    (earlier : List FrameInput) (input : FrameInput) (output : FrameOutput) : Prop :=
  ∃ pending, loaded.Stands nodes (earlier ++ [input]) earlier.length pending ∧
    (pending = none → output.dialog = []) ∧
    (∀ target ∈ pending, .label target.kind.notice ∈ output.dialog ∧
      .label (isolatePublisherText target.url) ∈ output.dialog) ∧
    output.copied = if input.clicked .copyUrl then pending.map (·.url) else none

namespace ShellApp

variable {loaded : Loaded T} {reloaded : Option RetainedIdentity}

theorem requested_append {inputs : List FrameInput} {input : FrameInput} {index : Nat}
    {target : Handoff} (inside : index < inputs.length) :
    loaded.Requested nodes (inputs ++ [input]) index target ↔
      loaded.Requested nodes inputs index target := by
  simp only [Loaded.Requested, List.getElem?_append_left inside,
    List.take_append_of_le_length (Nat.le_of_lt inside)]

theorem requested_last {inputs : List FrameInput} {input : FrameInput} {target : Handoff} :
    loaded.Requested nodes (inputs ++ [input]) inputs.length target ↔
      ∃ scene, loaded.scene = some scene ∧ ¬ loaded.canaryState.Blocks inputs ∧
        ClickedLink input.clicked (nodes scene) target := by
  simp only [Loaded.Requested, List.getElem?_concat_length, List.take_left', Option.some.injEq,
    exists_and_left, exists_eq_left']

theorem requested_inside {inputs : List FrameInput} {input : FrameInput} {index : Nat}
    {target : Handoff} (requested : loaded.Requested nodes (inputs ++ [input]) index target) :
    index < inputs.length ∨ index = inputs.length := by
  obtain ⟨at_, -, isInput, -⟩ := requested
  have inside := (List.getElem?_eq_some_iff.mp isInput).1
  simp only [List.length_append, List.length_singleton] at inside
  omega

theorem closedBetween_append {inputs : List FrameInput} {input : FrameInput} {index : Nat} :
    ClosedBetween (inputs ++ [input]) index inputs.length ↔
      ClosedBetween inputs index inputs.length := by
  simp [ClosedBetween]

theorem closedBetween_succ {inputs : List FrameInput} {input : FrameInput} {index : Nat}
    (inside : index ≤ inputs.length) :
    ClosedBetween (inputs ++ [input]) index (inputs.length + 1) ↔
      ClosedBetween inputs index inputs.length ∨ input.closes = true := by
  rw [ClosedBetween, List.take_of_length_le (by simp), List.drop_append_of_le_length inside]
  simp [ClosedBetween, or_and_right, exists_or]

theorem not_closedBetween_self (inputs : List FrameInput) (index : Nat) :
    ¬ ClosedBetween inputs index index := by
  simp [ClosedBetween]

/-- A frame requests the dialog of a link that is clicked in content it shows. -/
theorem contentFrame_requested {shell : ShellApp T} {canaryState : CanaryState}
    {inputs : List FrameInput} (expired : shell.expired = decide (canaryState = .expired))
    (overridden : canaryState = .expired →
      (shell.canaryOverride = true ↔ ∃ input ∈ inputs, input.clicked .showContent = true))
    (input : FrameInput) :
    (drawContent (shell.app.loaded.scene.map nodes) shell.expired shell.canaryOverride
        input).requested =
      if canaryState.Blocks inputs then none
      else shell.app.loaded.scene.bind fun scene => (drawScene input.clicked (nodes scene)).2 := by
  have blocked := blocked_iff overridden
  rw [← expired] at blocked
  by_cases blocks : canaryState.Blocks inputs
  · simp only [drawContent, blocked.mpr blocks, if_pos, blocks]
  · have shown : renderBlockActive shell.expired shell.canaryOverride = false := by
      simpa [blocks] using blocked
    simp only [drawContent, shown, blocks, Bool.false_eq_true, if_false]
    cases shell.app.loaded.scene with
    | none => rfl
    | some scene => rfl

/-- The dialog that stands in a frame, before its clicks. -/
theorem stands_pending {inputs : List FrameInput} {input : FrameInput}
    {handoff requested : Option Handoff}
    (stands : loaded.Stands nodes inputs inputs.length handoff)
    (isRequested : requested = if loaded.canaryState.Blocks inputs then none
      else loaded.scene.bind fun scene => (drawScene input.clicked (nodes scene)).2) :
    loaded.Stands nodes (inputs ++ [input]) inputs.length (requested.or handoff) := by
  cases found : requested with
  | some target =>
      refine ⟨inputs.length, requested_last.mpr ?_, not_closedBetween_self _ _⟩
      rw [found] at isRequested
      split at isRequested
      · cases isRequested
      · rename_i shown
        obtain ⟨scene, isScene, drawn⟩ := Option.bind_eq_some_iff.mp isRequested.symm
        exact ⟨scene, isScene, shown, drawScene_requested drawn⟩
  | none =>
      have noneNow : ∀ target,
          ¬ loaded.Requested nodes (inputs ++ [input]) inputs.length target := by
        rintro target now
        obtain ⟨scene, isScene, shown, isClicked⟩ := requested_last.mp now
        have isSome := drawScene_requests isClicked
        have notDrawn : (drawScene input.clicked (nodes scene)).2 = none := by
          simpa [found, shown, isScene] using isRequested.symm
        rw [notDrawn] at isSome
        cases isSome
      cases handoff with
      | none =>
          intro index target isAt
          rcases requested_inside isAt with inside | rfl
          · exact closedBetween_append.mpr (stands index target ((requested_append inside).mp isAt))
          · exact (noneNow target isAt).elim
      | some target =>
          obtain ⟨index, isAt, open_⟩ := stands
          obtain ⟨at_, -, isInput, -⟩ := id isAt
          have inside := (List.getElem?_eq_some_iff.mp isInput).1
          exact ⟨index, (requested_append inside).mpr isAt, fun closed =>
            open_ (closedBetween_append.mp closed)⟩

theorem showHandoff_handoff (pending : Option Handoff) (input : FrameInput) :
    (showHandoff pending input).handoff = if input.closes then none else pending := by
  cases pending with
  | none => simp [showHandoff]
  | some target => rfl

theorem showHandoff_none {pending : Option Handoff} (input : FrameInput)
    (isNone : pending = none) : (showHandoff pending input).drawn = [] := by
  rw [isNone]
  rfl

theorem showHandoff_shows {pending : Option Handoff} (input : FrameInput) :
    ∀ target ∈ pending, .label target.kind.notice ∈ (showHandoff pending input).drawn ∧
      .label (isolatePublisherText target.url) ∈ (showHandoff pending input).drawn := by
  rintro target rfl
  simp [showHandoff]

theorem showHandoff_copied (pending : Option Handoff) (input : FrameInput) :
    (showHandoff pending input).copied =
      if input.clicked .copyUrl then pending.map (·.url) else none := by
  cases pending with
  | none => simp [showHandoff]
  | some target => rfl

/-- The dialog that a frame leaves. -/
theorem stands_after {inputs : List FrameInput} {input : FrameInput} {pending : Option Handoff}
    (stands : loaded.Stands nodes (inputs ++ [input]) inputs.length pending) :
    loaded.Stands nodes (inputs ++ [input]) (inputs ++ [input]).length
      (showHandoff pending input).handoff := by
  have inside : ∀ {index target}, loaded.Requested nodes (inputs ++ [input]) index target →
      index ≤ inputs.length := fun isAt => by
    rcases requested_inside isAt with inside | rfl
    · exact Nat.le_of_lt inside
    · exact Nat.le_refl _
  rw [List.length_append, List.length_singleton, showHandoff_handoff]
  cases pending with
  | none =>
      rw [ite_self]
      intro index target isAt
      rw [closedBetween_succ (inside isAt)]
      exact .inl (closedBetween_append.mp (stands index target isAt))
  | some target =>
      obtain ⟨index, isAt, open_⟩ := stands
      rw [closedBetween_append] at open_
      cases closes : input.closes with
      | true =>
          intro index target isAt
          rw [closedBetween_succ (inside isAt)]
          exact .inr closes
      | false =>
          refine ⟨index, isAt, ?_⟩
          rw [closedBetween_succ (inside isAt), closes]
          simpa using open_

/-- The dialog of a reachable window. -/
theorem Frames.stands {inputs : List FrameInput} {shell : ShellApp T}
    {outputs : List FrameOutput}
    (frames : Frames core nodes loaded reloaded inputs shell outputs)
    (resolved : loaded.Resolved core) :
    loaded.Stands nodes inputs inputs.length shell.handoff := by
  induction frames with
  | opened =>
      rintro index target ⟨_, _, isInput, -⟩
      simp at isInput
  | @frame inputs shell outputs before input app answered ih =>
      have reached := before.reached.answered answered
      refine stands_after (stands_pending ih ?_)
      rw [show loaded.scene = app.loaded.scene by rw [reached.sameDocument]]
      exact @contentFrame_requested T nodes { shell with app } _ _ (expired_eq reached resolved)
        (before.overridden resolved) input

end ShellApp

/-! ### Every frame of the viewer -/

section Viewer

variable {σ : Type} {handler : Handler storeInterface σ} {start after : σ}
  {request : BuildRequest} {inputs : List FrameInput} {last : ShellApp T}
  {outputs : List FrameOutput}

/-- Every frame shows the content of the loaded document or, up to the override of its expired
canary, the block; the banner of the expired canary stays. -/
theorem viewer_content
    (ran : (ShellApp.viewer core nodes request inputs).run handler start =
      (.ok (.ok (last, outputs)), after)) :
    ∃ manifestBytes contentBytes address history verified scene,
      request.inputs core = .ok (manifestBytes, contentBytes, address) ∧
      verifyManifest core manifestBytes address none buildClock history = .accept verified ∧
      loadScene core contentBytes verified = .ok scene ∧
      outputs.length = inputs.length ∧
      ∀ index input, inputs[index]? = some input → ∃ output, outputs[index]? = some output ∧
        output.content = contentAfter verified.canaryState (scene.map nodes)
          (inputs.take index) input ∧
        (warningBanner .canaryExpired ∈ output.chrome ↔ verified.canaryState = .expired) := by
  obtain ⟨loaded, reloaded, loads, -, frames⟩ := ShellApp.viewer_shows ran
  obtain ⟨manifestBytes, contentBytes, address, retained, publisher, history, isInputs, -, -, -,
    isLoaded⟩ := loads
  obtain ⟨resolved, verified, accepted, isScene, canaryState⟩ := load_presents isLoaded
  refine ⟨manifestBytes, contentBytes, address, history, verified, loaded.scene, isInputs,
    accepted, isScene, @ShellApp.Frames.forall_frames T core nodes loaded reloaded
      (fun earlier input output =>
        output.content = contentAfter verified.canaryState (loaded.scene.map nodes) earlier
          input ∧
        (warningBanner .canaryExpired ∈ output.chrome ↔ verified.canaryState = .expired))
      ?_ inputs last outputs frames⟩
  intro earlier shell outputs input app before answered
  have reached := before.reached.answered answered
  rw [← canaryState]
  constructor
  · rw [show loaded.scene = app.loaded.scene by rw [reached.sameDocument]]
    exact @ShellApp.contentFrame_content T nodes { shell with app } _ _
      (ShellApp.expired_eq reached resolved) (before.overridden resolved) _ input
  · exact (before.chromeShows resolved input).banner_iff .canaryExpired

theorem viewer_content_link :
    ∃ last outputs after, SampleCore.linkViewer = (.ok (.ok (last, outputs)), after) ∧
      ∃ manifestBytes contentBytes address history verified scene,
        (SampleCore.read ⟨.alpha, 1, 1, 0⟩).inputs SampleCore.expiredCore =
          .ok (manifestBytes, contentBytes, address) ∧
        verifyManifest SampleCore.expiredCore manifestBytes address none buildClock history =
          .accept verified ∧
        loadScene SampleCore.expiredCore contentBytes verified = .ok scene ∧
        outputs.length = 6 ∧
        ∀ index input, SampleCore.linkFrames[index]? = some input →
          ∃ output, outputs[index]? = some output ∧
            output.content = contentAfter verified.canaryState
              (scene.map SampleCore.linkNodes) (SampleCore.linkFrames.take index) input ∧
            (warningBanner .canaryExpired ∈ output.chrome ↔
              verified.canaryState = .expired) := by
  obtain ⟨last, outputs, after, ran⟩ := SampleCore.linkViewer_shows
  exact ⟨last, outputs, after, ran, viewer_content ran⟩

/-- In every frame the dialog is the one of an external link that was clicked in content that
was shown, and not closed since; only a click on its button copies the address. -/
theorem viewer_handoff
    (ran : (ShellApp.viewer core nodes request inputs).run handler start =
      (.ok (.ok (last, outputs)), after)) :
    ∃ manifestBytes contentBytes address retained history loaded,
      request.inputs core = .ok (manifestBytes, contentBytes, address) ∧
      load core manifestBytes contentBytes address request.onion buildClock retained history =
        .ok loaded ∧
      outputs.length = inputs.length ∧
      ∀ index input, inputs[index]? = some input → ∃ output, outputs[index]? = some output ∧
        ∃ pending, loaded.Stands nodes (inputs.take (index + 1)) index pending ∧
          (pending = none → output.dialog = []) ∧
          (∀ target ∈ pending, .label target.kind.notice ∈ output.dialog ∧
            .label (isolatePublisherText target.url) ∈ output.dialog) ∧
          output.copied =
            if input.clicked .copyUrl then pending.map (·.url) else none := by
  obtain ⟨loaded, reloaded, loads, -, frames⟩ := ShellApp.viewer_shows ran
  have resolved := loads.resolved
  obtain ⟨manifestBytes, contentBytes, address, retained, publisher, history, isInputs, -, -, -,
    isLoaded⟩ := loads
  have each : ∀ earlier shell outputs input app,
      ShellApp.Frames core nodes loaded reloaded earlier shell outputs →
      shell.app.Answered core (shell.chromeFrame input).2 app →
      loaded.FrameDialog nodes earlier input (({ shell with app } : ShellApp T).contentFrame nodes
        (shell.chromeFrame input).1 input).2 := by
    intro earlier shell outputs input app before answered
    have reached := before.reached.answered answered
    refine ⟨_, ShellApp.stands_pending (before.stands resolved) ?_,
      ShellApp.showHandoff_none input, ShellApp.showHandoff_shows input,
      ShellApp.showHandoff_copied _ input⟩
    rw [show loaded.scene = app.loaded.scene by rw [reached.sameDocument]]
    exact @ShellApp.contentFrame_requested T nodes { shell with app } _ _
      (ShellApp.expired_eq reached resolved) (before.overridden resolved) input
  obtain ⟨sameLength, all⟩ := ShellApp.Frames.forall_frames each frames
  refine ⟨manifestBytes, contentBytes, address, retained, history, loaded, isInputs, isLoaded,
    sameLength, fun index input isInput => ?_⟩
  obtain ⟨output, isOutput, pending, stands, dialog⟩ := all index input isInput
  have inside : index ≤ inputs.length := Nat.le_of_lt (List.getElem?_eq_some_iff.mp isInput).1
  refine ⟨output, isOutput, pending, ?_, dialog⟩
  rwa [List.length_take_of_le inside, ← Option.toList_some, ← isInput, ← List.take_add_one]
    at stands

theorem viewer_handoff_link :
    ∃ last outputs after, SampleCore.linkViewer = (.ok (.ok (last, outputs)), after) ∧
      ∃ manifestBytes contentBytes address retained history loaded,
        (SampleCore.read ⟨.alpha, 1, 1, 0⟩).inputs SampleCore.expiredCore =
          .ok (manifestBytes, contentBytes, address) ∧
        load SampleCore.expiredCore manifestBytes contentBytes address "zero.onion" buildClock
          retained history = .ok loaded ∧
        outputs.length = 6 ∧
        ∀ index input, SampleCore.linkFrames[index]? = some input →
          ∃ output, outputs[index]? = some output ∧
            ∃ pending, loaded.Stands SampleCore.linkNodes
                (SampleCore.linkFrames.take (index + 1)) index pending ∧
              (pending = none → output.dialog = []) ∧
              (∀ target ∈ pending, .label target.kind.notice ∈ output.dialog ∧
                .label (isolatePublisherText target.url) ∈ output.dialog) ∧
              output.copied =
                if input.clicked .copyUrl then pending.map (·.url) else none := by
  obtain ⟨last, outputs, after, ran⟩ := SampleCore.linkViewer_shows
  exact ⟨last, outputs, after, ran, viewer_handoff ran⟩

end Viewer

end EntangledClient
