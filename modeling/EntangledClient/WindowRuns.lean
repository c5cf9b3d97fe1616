import EntangledClient.LayeredRuns
import EntangledClient.SequentialSessions
import EntangledClient.WindowFrames

/-!
# The window over its frames

Whatever is clicked, the frames of a window make the store calls of a session with at most
one decision, one that the open prompt offers.
-/

namespace EntangledClient

open CallTree

variable {T : CoreTypes} {core : Core T} {nodes : T.Scene → List SceneNode}

/-! ### The frames as a session -/

/-- The answer of the prompt that a required action opens. -/
def RequiredAction.answer (action : RequiredAction) (input : FrameInput) : PromptAnswer :=
  match action with
  | .pinPrompt => pinAnswer input
  | .mismatchWarning => mismatchAnswer input
  | .none => { decision := Option.none, decline := false }

/-- The decisions that these frames take while the prompt is open. -/
def RequiredAction.decisions (action : RequiredAction) : List FrameInput → List UserDecision
  | [] => []
  | input :: inputs =>
      match (action.answer input).decision with
      | some decision => [decision]
      | Option.none => if (action.answer input).decline then [] else action.decisions inputs

/-- The decisions that a prompt offers. -/
def RequiredAction.offers : RequiredAction → List UserDecision
  | .pinPrompt => [.pinFirstContact, .confirmPip]
  | .mismatchWarning => [.confirmNewIdentity, .confirmPip]
  | .none => []

theorem RequiredAction.answer_offered {action : RequiredAction} {input : FrameInput}
    {decision : UserDecision} (decided : (action.answer input).decision = some decision) :
    decision ∈ action.offers := by
  cases action with
  | none => cases decided
  | pinPrompt =>
      simp only [answer, pinAnswer] at decided
      grind [offers]
  | mismatchWarning =>
      simp only [answer, mismatchAnswer] at decided
      grind [offers]

theorem RequiredAction.decisions_offered (action : RequiredAction) (inputs : List FrameInput) :
    (action.decisions inputs).length ≤ 1 ∧
      ∀ decision ∈ action.decisions inputs, decision ∈ action.offers := by
  induction inputs with
  | nil => exact ⟨Nat.zero_le _, List.forall_mem_nil _⟩
  | cons input inputs ih =>
      simp only [decisions]
      cases decided : (action.answer input).decision with
      | none =>
          cases (action.answer input).decline with
          | true => exact ⟨Nat.zero_le _, List.forall_mem_nil _⟩
          | false => exact ih
      | some decision =>
          exact ⟨Nat.le_refl _, List.forall_mem_singleton.mpr (answer_offered decided)⟩

/-- The prompt that is open is the one of this action. -/
def App.Prompts (app : App T) (action : RequiredAction) : Prop :=
  (app.pinPrompt.isSome ↔ action = .pinPrompt) ∧
    (app.mismatchPrompt.isSome ↔ action = .mismatchWarning)

namespace App

theorem Prompts.answer {app : App T} {action : RequiredAction} (prompts : app.Prompts action)
    (input : FrameInput) : (drawActionPanel app input).2 = action.answer input := by
  obtain ⟨pin, mismatch⟩ := prompts
  cases isPin : app.pinPrompt with
  | some state =>
      obtain rfl := pin.mp (by simp [isPin])
      simp [drawActionPanel, isPin, drawPinPanel, RequiredAction.answer]
  | none =>
      cases isMismatch : app.mismatchPrompt with
      | some state =>
          obtain rfl := mismatch.mp (by simp [isMismatch])
          simp [drawActionPanel, isPin, isMismatch, drawMismatchPanel, RequiredAction.answer]
      | none =>
          cases action with
          | none => simp [drawActionPanel, isPin, isMismatch, RequiredAction.answer]
          | pinPrompt => simp [isPin] at pin
          | mismatchWarning => simp [isMismatch] at mismatch

theorem opened_prompts (loaded : Loaded T) :
    (opened core loaded).Prompts loaded.requiredAction := by
  unfold opened
  cases action : loaded.requiredAction <;> simp [Prompts]

theorem closePrompts_prompts (app : App T) : app.closePrompts.Prompts .none := by
  simp [Prompts, closePrompts]

/-- A decision closes the prompts, whatever the stores answer. -/
theorem applyAndPersist_closes (app : App T) (decision : UserDecision) :
    (app.applyAndPersist core decision).Concludes fun outcome =>
      ∀ after, outcome = .ok after → after.Prompts .none :=
  .bind_ok fun _ => .bind_ok fun reloaded _ returned =>
    Except.ok.inj returned ▸ reloaded.closePrompts_prompts

/-- What a session opens keeps the prompt of its load. -/
theorem new_prompts (loaded : Loaded T) :
    (new core loaded).Concludes fun outcome =>
      ∀ app, outcome = .ok app → app.Prompts loaded.requiredAction := by
  refine .bind_ok fun _ => .bind_ok fun reloaded => ?_
  cases reloaded with
  | ok retained => exact fun app returned => Except.ok.inj returned ▸ opened_prompts loaded
  | error failure => exact fun app returned => Except.ok.inj returned ▸ opened_prompts loaded

end App

namespace ShellApp

theorem frames_cons (shell : ShellApp T) (input : FrameInput) (inputs : List FrameInput)
    {β : Type} (rest : ShellApp T × List FrameOutput → StoreProgram β) :
    (shell.frames core nodes (input :: inputs) >>= rest) = (do
      let app ← shell.answerPrompt core (shell.chromeFrame input).2
      let frame :=
        ({ shell with app } : ShellApp T).contentFrame nodes (shell.chromeFrame input).1 input
      let (last, outputs) ← frame.1.frames core nodes inputs
      rest (last, frame.2 :: outputs)) := by
  simp only [frames, update, Program.bind_assoc]
  rfl

/-- The frames of a window whose prompts are closed call no store. -/
theorem frames_closed (inputs : List FrameInput) {shell : ShellApp T}
    (closed : shell.app.Prompts .none) :
    (do
      let (last, _) ← shell.frames core nodes inputs
      return last.app.loaded : StoreProgram (Loaded T)) = pure shell.app.loaded := by
  induction inputs generalizing shell with
  | nil => rfl
  | cons input inputs ih =>
      have answer : (shell.chromeFrame input).2 = _ := closed.answer input
      rw [frames_cons, answerPrompt, answer]
      exact @ih (({ shell with app := shell.app } : ShellApp T).contentFrame nodes
        (shell.chromeFrame input).1 input).1 closed

/-- While a prompt is open, the frames take its decision, if they take one. -/
theorem frames_prompting (inputs : List FrameInput) {shell : ShellApp T}
    {action : RequiredAction} (prompts : shell.app.Prompts action) :
    (do
      let (last, _) ← shell.frames core nodes inputs
      return last.app.loaded : StoreProgram (Loaded T)) = (do
      let app ← (action.decisions inputs).foldlM (App.applyAndPersist core) shell.app
      return app.loaded) := by
  induction inputs generalizing shell with
  | nil => rfl
  | cons input inputs ih =>
      have answer : (shell.chromeFrame input).2 = _ := prompts.answer input
      rw [frames_cons, answerPrompt, answer, RequiredAction.decisions]
      cases (action.answer input).decision with
      | none =>
          cases (action.answer input).decline with
          | false =>
              exact @ih (({ shell with app := shell.app } : ShellApp T).contentFrame nodes
                (shell.chromeFrame input).1 input).1 prompts
          | true =>
              exact @frames_closed T core nodes inputs
                (({ shell with app := shell.app.closePrompts } : ShellApp T).contentFrame nodes
                  (shell.chromeFrame input).1 input).1 shell.app.closePrompts_prompts
      | some decision =>
          simp only [List.foldlM_cons, List.foldlM_nil, Program.bind_assoc]
          refine Program.bind_congr ((shell.app.applyAndPersist_closes decision).mono ?_)
          intro _ outcome closes app returned
          exact frames_closed inputs (closes app returned)

/-- A session of frames takes at most one decision, which the prompt of its load offers. -/
theorem session_decides_once (core : Core T) (nodes : T.Scene → List SceneNode)
    (loaded : Loaded T) (inputs : List FrameInput) :
    (loaded.requiredAction.decisions inputs).length ≤ 1 ∧
      (∀ decision ∈ loaded.requiredAction.decisions inputs,
        decision ∈ loaded.requiredAction.offers) ∧
      (do
        let (last, _) ← session core nodes loaded inputs
        return last.app.loaded : StoreProgram (Loaded T)) = (do
        let app ← App.drive core loaded (loaded.requiredAction.decisions inputs)
        return app.loaded) := by
  obtain ⟨once, offered⟩ := loaded.requiredAction.decisions_offered inputs
  refine ⟨once, offered, ?_⟩
  simp only [session, new, App.drive, Program.bind_assoc]
  refine Program.bind_congr ((App.new_prompts loaded).mono ?_)
  intro _ outcome prompts app returned
  exact frames_prompting inputs (prompts app returned)

end ShellApp

end EntangledClient
