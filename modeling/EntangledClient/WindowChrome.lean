import EntangledClient.WindowReach

/-!
# What frames show in the chrome

In every frame the chrome tells the trust state and the state of the canary, and warns of what
these are a warning of.  The trust state is the one of the load up to a decision, and then the one
that the decision resolves to.  The identity phrase is shown unless an identity that is retained
under it was pinned or verified, and a prompt stands up to its answer.
-/

namespace EntangledClient

open CallTree

variable {T : CoreTypes} {core : Core T} {nodes : T.Scene → List SceneNode}

def trustPill (state : TrustState) : Drawn :=
  statusPill "trust" (trustBadge state).1 (trustBadge state).2

def canaryPill (state : CanaryState) : Drawn :=
  statusPill "canary" (canaryBadge state).1 (canaryBadge state).2

/-- The buttons that a prompt draws. -/
def RequiredAction.buttons : RequiredAction → List (Control × String)
  | .pinPrompt => [
      (.pinIdentity, "Pin this identity (TOFU)"),
      (.pinVerified, "I have verified the PIP out of band"),
      (.pinNotNow, "Not now")]
  | .mismatchWarning => [
      (.confirmIdentity, "Confirm the new identity"),
      (.verifiedNewPip, "I have verified the new PIP out of band"),
      (.stayInMismatch, "Cancel (stay in mismatch)")]
  | .none => []

/-- The open prompt is answered in this frame. -/
def RequiredAction.Answers (action : RequiredAction) (input : FrameInput) : Prop :=
  action.answer input ≠ { decision := Option.none, decline := false }

/-- What calls for a warning; the viewer observes nothing that calls for the others. -/
def Warning.Due (trust : TrustState) (canary : CanaryState) : Warning → Prop
  | .trustMismatch => trust = .changedMismatch
  | .canaryExpired => canary = .expired
  | .canaryInvalid => canary = .invalid
  | .canaryConflict | .canaryGap | .historicalContent | .staleCachedContent => False

/-- The trust state after these frames: the one of the load or, once a decision was taken, the
one that it resolves to against what the window reloaded when it opened. -/
def Loaded.trustAfter (loaded : Loaded T) (reloaded : Option RetainedIdentity)
    (inputs : List FrameInput) : TrustState :=
  match loaded.requiredAction.decisions inputs with
  | [] => (resolve loaded.publisher loaded.retained .none).state
  | decision :: _ => (resolve loaded.publisher reloaded decision).state

/-- What the chrome of a document shows in a trust state. -/
structure Loaded.ChromeShows (core : Core T) (loaded : Loaded T) (state : TrustState)
    (input : FrameInput) (drawn : List Drawn) : Prop where
  trust : ∀ other, trustPill other ∈ drawn ↔ other = state
  canary : ∀ other, canaryPill other ∈ drawn ↔ other = loaded.canaryState
  pills : ∀ category value severity, .pill category value severity ∈ drawn →
    .pill category value severity = trustPill state ∨
      .pill category value severity = canaryPill loaded.canaryState
  banners : ∀ glyph text severity, .banner glyph text severity ∈ drawn ↔
    ∃ warning : Warning, warning.Due state loaded.canaryState ∧
      warningBanner warning = .banner glyph text severity
  phrase : .label (isolatePublisherText (core.derivePip loaded.publisher)) ∈ drawn ∨
    (input.phraseUnfolded = false ∧ (state = .tofuPinned ∨ state = .externallyVerified))

/-- What a frame shows in its chrome, after these frames. -/
structure Loaded.FrameChrome (core : Core T) (loaded : Loaded T)
    (reloaded : Option RetainedIdentity) (earlier : List FrameInput) (input : FrameInput)
    (drawn : List Drawn) : Prop where
  shown : loaded.ChromeShows core (loaded.trustAfter reloaded earlier) input drawn
  buttons : ∀ control text, .button control text ∈ drawn ↔
    (∀ before ∈ earlier, ¬ loaded.requiredAction.Answers before) ∧
      (control, text) ∈ loaded.requiredAction.buttons
  pinning : (∃ control text, .button control text ∈ drawn ∧
      (control, text) ∈ RequiredAction.pinPrompt.buttons) →
    loaded.trustAfter reloaded earlier = .firstContact
  resolving : (∃ control text, .button control text ∈ drawn ∧
      (control, text) ∈ RequiredAction.mismatchWarning.buttons) →
    loaded.trustAfter reloaded earlier = .changedMismatch ∧
      ∃ retained ∈ loaded.retained, retained.pubkey ≠ loaded.publisher ∧
        .label (isolatePublisherText (core.derivePip retained.pubkey)) ∈ drawn

/-! ### The elements of the chrome -/

theorem statusPill_trust (value : String) (severity : Severity) :
    statusPill "trust" value severity = .pill "TRUST" value severity :=
  rfl

theorem statusPill_canary (value : String) (severity : Severity) :
    statusPill "canary" value severity = .pill "CANARY" value severity :=
  rfl

theorem statusPill_request (value : String) (severity : Severity) :
    statusPill "request" value severity = .pill "REQUEST" value severity :=
  rfl

theorem trustPill_injective : Function.Injective trustPill := by
  intro first second same
  cases first <;> cases second <;>
    simp [trustPill, statusPill_trust, trustBadge] at same ⊢

theorem canaryPill_injective : Function.Injective canaryPill := by
  intro first second same
  cases first <;> cases second <;>
    simp [canaryPill, statusPill_canary, canaryBadge] at same ⊢

theorem warningBanner_injective : Function.Injective warningBanner := by
  intro first second same
  cases first <;> cases second <;> simp [warningBanner] at same ⊢

theorem exists_banner (warning : Warning) :
    ∃ glyph text severity, warningBanner warning = .banner glyph text severity := by
  cases warning <;> exact ⟨_, _, _, rfl⟩

theorem trustPill_ne_canaryPill (trust : TrustState) (canary : CanaryState) :
    trustPill trust ≠ canaryPill canary := by
  simp [trustPill, canaryPill, statusPill_trust, statusPill_canary]

theorem trustPill_ne_banner (trust : TrustState) (warning : Warning) :
    warningBanner warning ≠ trustPill trust := by
  cases warning <;> exact Drawn.noConfusion

theorem canaryPill_ne_banner (canary : CanaryState) (warning : Warning) :
    warningBanner warning ≠ canaryPill canary := by
  cases warning <;> exact Drawn.noConfusion

/-- A prompt draws labels and its buttons. -/
theorem mem_drawActionPanel {app : App T} {action : RequiredAction} (prompts : app.Prompts action)
    {input : FrameInput} {drawn : Drawn} (notLabel : ∀ text, drawn ≠ .label text) :
    drawn ∈ (drawActionPanel app input).1 ↔
      ∃ button ∈ action.buttons, drawn = .button button.1 button.2 := by
  obtain ⟨pin, mismatch⟩ := prompts
  unfold drawActionPanel
  cases isPin : app.pinPrompt with
  | some state =>
      obtain rfl := pin.mp (by simp [isPin])
      simp [drawPinPanel, RequiredAction.buttons, notLabel]
  | none =>
      cases isMismatch : app.mismatchPrompt with
      | some state =>
          obtain rfl := mismatch.mp (by simp [isMismatch])
          simp [drawMismatchPanel, RequiredAction.buttons, notLabel]
      | none =>
          cases action with
          | none => simp [RequiredAction.buttons]
          | pinPrompt => simp [isPin] at pin
          | mismatchWarning => simp [isMismatch] at mismatch

theorem mem_drawPipCard {chrome : ChromeView} {input : FrameInput} {drawn : Drawn}
    (member : drawn ∈ drawPipCard chrome input) : ∃ text, drawn = .label text := by
  unfold drawPipCard at member
  split at member
  · simp only [List.mem_append, List.mem_cons, List.not_mem_nil, or_false] at member
    rcases member with (rfl | rfl) | rfl <;> exact ⟨_, rfl⟩
  · split at member
    · simp only [List.mem_append, List.mem_cons, List.not_mem_nil, or_false] at member
      rcases member with (rfl | rfl) | rfl | rfl <;> exact ⟨_, rfl⟩
    · simp only [List.mem_append, List.mem_cons, List.not_mem_nil, or_false] at member
      rcases member with (rfl | rfl) | rfl <;> exact ⟨_, rfl⟩

/-- Besides labels, the chrome draws the pills and the banners of its view. -/
theorem mem_drawChrome {chrome : ChromeView} {input : FrameInput} {drawn : Drawn}
    (notLabel : ∀ text, drawn ≠ .label text) :
    drawn ∈ drawChrome chrome input ↔
      drawn = trustPill chrome.trustState ∨ drawn = canaryPill chrome.canaryState ∨
      (chrome.requestStateActive = true ∧ drawn = statusPill "request" "active" .caution) ∨
      ∃ warning ∈ chrome.warnings, warningBanner warning = drawn := by
  have notPhrase : drawn ∉ drawPipCard chrome input := fun member => by
    obtain ⟨text, isLabel⟩ := mem_drawPipCard member
    exact notLabel text isLabel
  simp only [drawChrome, trustPill, canaryPill, List.mem_append, List.mem_cons,
    List.not_mem_nil, notPhrase, notLabel, List.mem_map, false_or, or_false, or_assoc]
  cases chrome.requestStateActive <;> simp


namespace ShellApp

variable {loaded : Loaded T} {reloaded : Option RetainedIdentity}

/-- What is drawn besides labels and buttons belongs to the chrome's own view. -/
theorem mem_chromeFrame {shell : ShellApp T} {action : RequiredAction}
    (prompts : shell.app.Prompts action) {input : FrameInput} {drawn : Drawn}
    (notLabel : ∀ text, drawn ≠ .label text)
    (notButton : ∀ control text, drawn ≠ .button control text) :
    drawn ∈ (shell.chromeFrame input).1 ↔ drawn ∈ drawChrome shell.app.loaded.chrome input := by
  simp only [chromeFrame, List.mem_append, or_iff_left_iff_imp]
  intro member
  obtain ⟨button, -, isButton⟩ := (mem_drawActionPanel prompts notLabel).mp member
  exact (notButton _ _ isButton).elim

/-- The buttons in the chrome are those of the prompt that is open. -/
theorem button_mem_chromeFrame {shell : ShellApp T} {action : RequiredAction}
    (prompts : shell.app.Prompts action) {input : FrameInput} {control : Control}
    {text : String} :
    .button control text ∈ (shell.chromeFrame input).1 ↔ (control, text) ∈ action.buttons := by
  have noBanner : ∀ warning, warningBanner warning ≠ .button control text := by
    intro warning same
    obtain ⟨glyph, words, severity, isBanner⟩ := exists_banner warning
    cases isBanner.symm.trans same
  simp only [chromeFrame, List.mem_append]
  rw [mem_drawChrome (by simp), mem_drawActionPanel prompts (by simp)]
  simp only [trustPill, canaryPill, statusPill, reduceCtorEq, noBanner, and_false, exists_false,
    or_false, false_or, Drawn.button.injEq]
  constructor
  · rintro ⟨button, member, rfl, rfl⟩
    exact member
  · exact fun member => ⟨_, member, rfl, rfl⟩

/-- The phrase may be folded away only where the chrome does not ask to show it. -/
theorem phrase_mem {shell : ShellApp T} {input : FrameInput}
    (shown : shell.app.loaded.chrome.pipMustBeFullyShown = true ∨ input.phraseUnfolded = true) :
    .label (isolatePublisherText shell.app.loaded.chrome.pip) ∈ (shell.chromeFrame input).1 := by
  have inCard : .label (isolatePublisherText shell.app.loaded.chrome.pip) ∈
      drawPipCard shell.app.loaded.chrome input := by
    unfold drawPipCard
    split
    · simp
    · rename_i mayFold
      simp [shown.resolve_left mayFold]
  simp only [chromeFrame, drawChrome, List.mem_append]
  exact .inl (.inl (.inr inCard))

theorem mem_warnings {publisher : PublisherPubkey} {state : TrustState} {canary : CanaryState}
    {address : String} {warning : Warning} :
    warning ∈ (ChromeView.build core publisher state canary address .default).warnings ↔
      warning.Due state canary := by
  cases canary <;> cases state <;> cases warning <;>
    simp [ChromeView.build, Warning.when, ChromeConditions.default, Warning.Due]

/-- The chrome of a view in a trust state. -/
theorem chromeFrame_shows {shell : ShellApp T} {action : RequiredAction}
    (prompts : shell.app.Prompts action) {state : TrustState}
    (chrome : shell.app.loaded.chrome = ChromeView.build core loaded.publisher state
      loaded.canaryState loaded.compactAddress .default) (input : FrameInput) :
    loaded.ChromeShows core state input (shell.chromeFrame input).1 := by
  have onScreen : ∀ drawn, (∀ text, drawn ≠ .label text) →
      (∀ control text, drawn ≠ .button control text) →
      (drawn ∈ (shell.chromeFrame input).1 ↔
        drawn = trustPill state ∨ drawn = canaryPill loaded.canaryState ∨
        ∃ warning : Warning, warning.Due state loaded.canaryState ∧
          warningBanner warning = drawn) := by
    intro drawn notLabel notButton
    rw [mem_chromeFrame prompts notLabel notButton, mem_drawChrome notLabel, chrome]
    simp [mem_warnings]
    simp [ChromeView.build, ChromeConditions.default]
  refine ⟨?_, ?_, ?_, ?_, ?_⟩
  · intro other
    rw [onScreen _ (by simp [trustPill, statusPill]) (by simp [trustPill, statusPill])]
    simp [trustPill_injective.eq_iff, trustPill_ne_canaryPill, trustPill_ne_banner]
  · intro other
    rw [onScreen _ (by simp [canaryPill, statusPill]) (by simp [canaryPill, statusPill])]
    simp [canaryPill_injective.eq_iff, (trustPill_ne_canaryPill _ _).symm, canaryPill_ne_banner]
  · intro category value severity member
    rcases (onScreen _ (by simp) (by simp)).mp member with
      isTrust | isCanary | ⟨warning, -, isPill⟩
    · exact .inl isTrust
    · exact .inr isCanary
    · obtain ⟨glyph, text, severity, isBanner⟩ := exists_banner warning
      cases isBanner.symm.trans isPill
  · intro glyph text severity
    rw [onScreen _ (by simp) (by simp)]
    simp [trustPill, canaryPill, statusPill]
  · by_cases fully : shell.app.loaded.chrome.pipMustBeFullyShown = true ∨
        input.phraseUnfolded = true
    · have member := phrase_mem fully
      rw [chrome] at member
      exact .inl member
    · rw [chrome] at fully
      refine .inr ⟨by simpa using fun unfolded => fully (.inr unfolded), ?_⟩
      cases state <;> simp [ChromeView.build] at fully ⊢

end ShellApp

/-! ### The frames of a run -/

namespace RequiredAction

variable {action : RequiredAction}

/-- Frames that leave the prompt open take no decision. -/
theorem decisions_unanswered {inputs : List FrameInput}
    (unanswered : ∀ input ∈ inputs, ¬ action.Answers input) (more : List FrameInput) :
    action.decisions (inputs ++ more) = action.decisions more := by
  induction inputs with
  | nil => rfl
  | cons input inputs ih =>
      have waits := not_not.mp (unanswered input List.mem_cons_self)
      simp only [List.cons_append, decisions, waits]
      exact ih fun other member => unanswered other (List.mem_cons_of_mem _ member)

theorem decisions_none {inputs : List FrameInput}
    (unanswered : ∀ input ∈ inputs, ¬ action.Answers input) : action.decisions inputs = [] := by
  rw [← List.append_nil inputs, decisions_unanswered unanswered]
  rfl

/-- After the answer of the prompt no decision is taken. -/
theorem decisions_answered {inputs : List FrameInput}
    (answered : ∃ input ∈ inputs, action.Answers input) (more : List FrameInput) :
    action.decisions (inputs ++ more) = action.decisions inputs := by
  induction inputs with
  | nil =>
      obtain ⟨_, member, -⟩ := answered
      cases member
  | cons input inputs ih =>
      simp only [List.cons_append, decisions]
      cases isDecision : (action.answer input).decision with
      | some decision => rfl
      | none =>
          cases isDecline : (action.answer input).decline with
          | true => rfl
          | false =>
              have waits : ¬ action.Answers input := by
                cases isAnswer : action.answer input with
                | mk decision decline =>
                    simp_all [Answers]
              obtain ⟨other, member, answers⟩ := answered
              rcases List.mem_cons.mp member with rfl | later
              · exact (waits answers).elim
              · exact ih ⟨other, later, answers⟩

/-- A button belongs to one prompt. -/
theorem eq_of_button {other : RequiredAction} {button : Control × String}
    (member : button ∈ action.buttons) (also : button ∈ other.buttons) : action = other := by
  cases action <;> cases other <;> simp [buttons] at member also ⊢ <;>
    rcases member with rfl | rfl | rfl <;> simp at also

end RequiredAction

/-- A pinning prompt is demanded only at first contact. -/
theorem resolve_pinPrompt {presented : PublisherPubkey} {retained : Option RetainedIdentity}
    (demanded : (resolve presented retained .none).action = .pinPrompt) :
    (resolve presented retained .none).state = .firstContact := by
  cases retained with
  | none => rfl
  | some record =>
      by_cases same : record.pubkey = presented
      · rw [resolve_matched same] at demanded ⊢
        obtain ⟨key, provenance⟩ := record
        cases provenance <;> simp_all [matched]
      · simp [resolve_mismatch same, mismatch] at demanded

/-- A mismatch is to be resolved only between two different keys. -/
theorem resolve_mismatchWarning {presented : PublisherPubkey}
    {retained : Option RetainedIdentity}
    (demanded : (resolve presented retained .none).action = .mismatchWarning) :
    (resolve presented retained .none).state = .changedMismatch ∧
      ∃ record ∈ retained, record.pubkey ≠ presented := by
  have state : (resolve presented retained .none).state = .changedMismatch := by
    cases retained with
    | none => cases demanded
    | some record =>
        by_cases same : record.pubkey = presented
        · rw [resolve_matched same] at demanded ⊢
          obtain ⟨key, provenance⟩ := record
          cases provenance <;> simp_all [matched]
        · rw [resolve_mismatch same]
          rfl
  exact ⟨state, (resolve_changedMismatch_iff presented retained).mp state⟩

namespace ShellApp

variable {loaded : Loaded T} {reloaded : Option RetainedIdentity}

/-- The prompt of the load stands until it is answered, and no prompt stands afterwards. -/
theorem Frames.prompting {inputs : List FrameInput} {shell : ShellApp T}
    {outputs : List FrameOutput}
    (frames : Frames core nodes loaded reloaded inputs shell outputs) :
    ((∃ input ∈ inputs, loaded.requiredAction.Answers input) → shell.app.Prompts .none) ∧
      ((∀ input ∈ inputs, ¬ loaded.requiredAction.Answers input) →
        shell.app = (App.opened core loaded).withRetained reloaded) := by
  induction frames with
  | opened =>
      refine ⟨?_, fun _ => rfl⟩
      rintro ⟨_, member, _⟩
      cases member
  | @frame inputs shell outputs before input app answered ih =>
      obtain ⟨closed, open_⟩ := ih
      by_cases earlier : ∃ input ∈ inputs, loaded.requiredAction.Answers input
      · have answer : (shell.chromeFrame input).2 = _ := (closed earlier).answer input
        rw [answer] at answered
        cases answered with
        | waiting =>
            refine ⟨fun _ => closed earlier, fun none_ => ?_⟩
            obtain ⟨answering, member, answers⟩ := earlier
            exact (none_ answering (List.mem_append_left _ member) answers).elim
      · have unanswered : ∀ input ∈ inputs, ¬ loaded.requiredAction.Answers input :=
          fun input member answers => earlier ⟨input, member, answers⟩
        have isOpened := open_ unanswered
        have prompts : shell.app.Prompts loaded.requiredAction := by
          rw [isOpened]
          exact App.opened_prompts loaded
        have answer : (shell.chromeFrame input).2 = _ := prompts.answer input
        rw [answer] at answered
        generalize given : loaded.requiredAction.answer input = answer at answered
        constructor
        · rintro ⟨answering, member, answers⟩
          have isLast : answering = input := by
            rcases List.mem_append.mp member with inside | last
            · exact (unanswered answering inside answers).elim
            · exact List.mem_singleton.mp last
          subst isLast
          cases answered with
          | waiting => exact (answers given).elim
          | declined => exact App.closePrompts_prompts _
          | decided decision decline retained => exact App.closePrompts_prompts _
        · intro none_
          have waits := not_not.mp (none_ input (by simp))
          rw [given] at waits
          subst waits
          cases answered with
          | waiting => exact isOpened

theorem Frames.prompts {inputs : List FrameInput} {shell : ShellApp T}
    {outputs : List FrameOutput}
    (frames : Frames core nodes loaded reloaded inputs shell outputs)
    (unanswered : ∀ input ∈ inputs, ¬ loaded.requiredAction.Answers input) :
    shell.app.Prompts loaded.requiredAction := by
  rw [frames.prompting.2 unanswered]
  exact App.opened_prompts loaded

/-- The chrome is the one of the trust state that the decisions so far leave. -/
theorem Frames.chrome {inputs : List FrameInput} {shell : ShellApp T}
    {outputs : List FrameOutput}
    (frames : Frames core nodes loaded reloaded inputs shell outputs)
    (resolved : loaded.Resolved core) :
    shell.app.loaded.chrome = ChromeView.build core loaded.publisher
      (loaded.trustAfter reloaded inputs) loaded.canaryState loaded.compactAddress .default := by
  induction frames with
  | opened =>
      simp only [App.withRetained, App.opened_loaded]
      exact resolved.chrome
  | @frame inputs shell outputs before input app answered ih =>
      by_cases earlier : ∃ input ∈ inputs, loaded.requiredAction.Answers input
      · have answer : (shell.chromeFrame input).2 = _ := (before.prompting.1 earlier).answer input
        rw [answer] at answered
        cases answered with
        | waiting =>
            rw [Loaded.trustAfter, RequiredAction.decisions_answered earlier]
            exact ih
      · have unanswered : ∀ input ∈ inputs, ¬ loaded.requiredAction.Answers input :=
          fun input member answers => earlier ⟨input, member, answers⟩
        have isOpened := before.prompting.2 unanswered
        have answer : (shell.chromeFrame input).2 = _ := (before.prompts unanswered).answer input
        have undecided := RequiredAction.decisions_none unanswered
        rw [answer] at answered
        rw [Loaded.trustAfter, undecided] at ih
        rw [Loaded.trustAfter, RequiredAction.decisions_unanswered unanswered,
          RequiredAction.decisions]
        generalize loaded.requiredAction.answer input = answer at answered
        cases answered with
        | waiting => exact ih
        | declined => exact ih
        | decided decision decline retained =>
            rw [isOpened]
            simp only [contentFrame, App.closePrompts, App.withRetained, App.decided,
              Loaded.applyDecision, App.opened_loaded]

/-- The retained phrase is drawn in the panel of a mismatch. -/
theorem mismatchPanel_mem {shell : ShellApp T} {input : FrameInput} {retained : RetainedIdentity}
    (isRetained : loaded.retained = some retained)
    (demanded : loaded.requiredAction = .mismatchWarning)
    (isOpened : shell.app = (App.opened core loaded).withRetained reloaded) :
    .label (isolatePublisherText (core.derivePip retained.pubkey)) ∈
      (shell.chromeFrame input).1 := by
  have inPanel : Drawn.label (isolatePublisherText (core.derivePip retained.pubkey)) ∈
      (drawActionPanel shell.app input).1 := by
    rw [isOpened]
    simp [App.opened, App.withRetained, demanded, isRetained, drawActionPanel,
      drawMismatchPanel]
  exact List.mem_append_right _ inPanel

/-- The buttons are those of the prompt of the load, up to its answer. -/
theorem Frames.button_iff {inputs : List FrameInput} {shell : ShellApp T}
    {outputs : List FrameOutput}
    (frames : Frames core nodes loaded reloaded inputs shell outputs) {input : FrameInput}
    {control : Control} {text : String} :
    .button control text ∈ (shell.chromeFrame input).1 ↔
      (∀ before ∈ inputs, ¬ loaded.requiredAction.Answers before) ∧
        (control, text) ∈ loaded.requiredAction.buttons := by
  by_cases unanswered : ∀ before ∈ inputs, ¬ loaded.requiredAction.Answers before
  · rw [button_mem_chromeFrame (frames.prompts unanswered)]
    exact (and_iff_right unanswered).symm
  · have closed := frames.prompting.1 (by simpa using unanswered)
    rw [button_mem_chromeFrame closed]
    simp [RequiredAction.buttons, unanswered]

theorem Frames.chromeShows {inputs : List FrameInput} {shell : ShellApp T}
    {outputs : List FrameOutput}
    (frames : Frames core nodes loaded reloaded inputs shell outputs)
    (resolved : loaded.Resolved core) (input : FrameInput) :
    loaded.ChromeShows core (loaded.trustAfter reloaded inputs) input
      (shell.chromeFrame input).1 := by
  by_cases unanswered : ∀ before ∈ inputs, ¬ loaded.requiredAction.Answers before
  · exact chromeFrame_shows (frames.prompts unanswered) (frames.chrome resolved) input
  · exact chromeFrame_shows (frames.prompting.1 (by simpa using unanswered))
      (frames.chrome resolved) input

theorem Frames.frameChrome {inputs : List FrameInput} {shell : ShellApp T}
    {outputs : List FrameOutput}
    (frames : Frames core nodes loaded reloaded inputs shell outputs)
    (resolved : loaded.Resolved core) (input : FrameInput) :
    loaded.FrameChrome core reloaded inputs input (shell.chromeFrame input).1 := by
  have ofLoad : ∀ action : RequiredAction, (∃ control text,
      .button control text ∈ (shell.chromeFrame input).1 ∧ (control, text) ∈ action.buttons) →
      loaded.requiredAction = action ∧
        shell.app = (App.opened core loaded).withRetained reloaded ∧
        loaded.trustAfter reloaded inputs =
          (resolve loaded.publisher loaded.retained .none).state := by
    rintro action ⟨control, text, isDrawn, member⟩
    obtain ⟨unanswered, isButton⟩ := frames.button_iff.mp isDrawn
    refine ⟨RequiredAction.eq_of_button isButton member, frames.prompting.2 unanswered, ?_⟩
    rw [Loaded.trustAfter, RequiredAction.decisions_none unanswered]
  refine ⟨frames.chromeShows resolved input, fun _ _ => frames.button_iff, ?_, ?_⟩
  · intro pins
    obtain ⟨demanded, -, state⟩ := ofLoad _ pins
    rw [state]
    exact resolve_pinPrompt (resolved.action ▸ demanded)
  · intro resolves
    obtain ⟨demanded, isOpened, state⟩ := ofLoad _ resolves
    obtain ⟨mismatched, retained, isRetained, different⟩ :=
      resolve_mismatchWarning (resolved.action ▸ demanded)
    exact ⟨state.trans mismatched, retained, isRetained, different,
      mismatchPanel_mem isRetained demanded isOpened⟩

end ShellApp

theorem Loaded.ChromeShows.banner_iff {loaded : Loaded T} {state : TrustState}
    {input : FrameInput} {drawn : List Drawn} (shows_ : loaded.ChromeShows core state input drawn)
    (warning : Warning) : warningBanner warning ∈ drawn ↔ warning.Due state loaded.canaryState := by
  obtain ⟨glyph, text, severity, isBanner⟩ := exists_banner warning
  rw [isBanner, shows_.banners]
  constructor
  · rintro ⟨other, due, same⟩
    exact warningBanner_injective (isBanner.trans same.symm) ▸ due
  · exact fun due => ⟨warning, due, isBanner⟩

/-- The chrome of every frame shows the trust state of the load, or of the decision since, with
what it asks for; the prompt of the load stands in every frame up to its answer. -/
theorem viewer_chrome {σ : Type} {handler : Handler storeInterface σ} {start after : σ}
    {request : BuildRequest} {inputs : List FrameInput} {last : ShellApp T}
    {outputs : List FrameOutput}
    (ran : (ShellApp.viewer core nodes request inputs).run handler start =
      (.ok (.ok (last, outputs)), after)) :
    ∃ loaded reloaded,
      request.Loads core ((ShellApp.viewer core nodes request inputs).Answers handler start)
        loaded ∧
      loaded.OpensWith ((ShellApp.viewer core nodes request inputs).Answers handler start)
        reloaded ∧
      outputs.length = inputs.length ∧
      ∀ index input, inputs[index]? = some input → ∃ output, outputs[index]? = some output ∧
        loaded.FrameChrome core reloaded (inputs.take index) input output.chrome := by
  obtain ⟨loaded, reloaded, loads, reloads, frames⟩ := ShellApp.viewer_shows ran
  refine ⟨loaded, reloaded, loads, reloads, @ShellApp.Frames.forall_frames T core nodes loaded
    reloaded (fun earlier input output =>
      loaded.FrameChrome core reloaded earlier input output.chrome) ?_ inputs last outputs frames⟩
  exact fun earlier shell outputs input app before _ => before.frameChrome loads.resolved input

theorem viewer_chrome_link :
    ∃ last outputs after, SampleCore.linkViewer = (.ok (.ok (last, outputs)), after) ∧
      ∃ loaded reloaded answers,
        (SampleCore.read ⟨.alpha, 1, 1, 0⟩).Loads SampleCore.expiredCore answers loaded ∧
        loaded.OpensWith answers reloaded ∧ outputs.length = 6 ∧
        ∀ index input, SampleCore.linkFrames[index]? = some input →
          ∃ output, outputs[index]? = some output ∧
            loaded.FrameChrome SampleCore.expiredCore reloaded (SampleCore.linkFrames.take index)
              input output.chrome := by
  obtain ⟨last, outputs, after, ran⟩ := SampleCore.linkViewer_shows
  obtain ⟨loaded, reloaded, shown⟩ := viewer_chrome ran
  exact ⟨last, outputs, after, ran, loaded, reloaded, _, shown⟩

end EntangledClient
