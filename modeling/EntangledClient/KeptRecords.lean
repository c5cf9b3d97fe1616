import EntangledClient.FaultyRuns
import EntangledClient.RetainedKeyInterleaving
import EntangledClient.WindowReach

/-!
# What a faulty run of the viewer keeps

Whatever store calls fail while the viewer runs, and wherever the process stops, no history
record and no retained key is lost, and an active key is replaced only where the user clicked
to confirm its replacement.
-/

namespace EntangledClient

open CallTree

variable {T : CoreTypes} {core : Core T} {nodes : T.Scene → List SceneNode}

/-- A click that confirms to replace a mismatched identity. -/
def FrameInput.confirmsReplacement (input : FrameInput) : Bool :=
  input.clicked .confirmIdentity || input.clicked .verifiedNewPip

/-- What the stores hold afterwards still has all that they held before, and active keys
changed only after clicks that confirm it. -/
structure StoreView.KeptBy (inputs : List FrameInput) (before after : StoreView) : Prop where
  histories : ∀ publisher, (before.histories publisher).records <:+
    (after.histories publisher).records
  keys : ∀ site key, before.Knows site key → after.Knows site key
  retained : ∀ site, before.activeKey site ≠ none → after.activeKey site ≠ none
  replaced : ∀ site former next, before.activeKey site = some former →
    after.activeKey site = some next → former ≠ next →
    ∃ input ∈ inputs, input.confirmsReplacement = true

namespace StoreView.KeptBy

variable {inputs more : List FrameInput} {before between after : StoreView}

theorem refl (inputs : List FrameInput) (view : StoreView) : view.KeptBy inputs view where
  histories _ := List.suffix_rfl
  keys _ _ := id
  retained _ := id
  replaced _ _ _ isFormer isNext different :=
    (different (Option.some.inj (isFormer.symm.trans isNext))).elim

theorem trans (first : before.KeptBy inputs between) (second : between.KeptBy more after) :
    before.KeptBy (inputs ++ more) after where
  histories publisher := (first.histories publisher).trans (second.histories publisher)
  keys site key known := second.keys site key (first.keys site key known)
  retained site active := second.retained site (first.retained site active)
  replaced := by
    intro site former next isFormer isNext different
    have active := first.retained site (by rw [isFormer]; exact Option.some_ne_none former)
    obtain ⟨key, isKey⟩ := Option.ne_none_iff_exists'.mp active
    by_cases same : former = key
    · subst same
      obtain ⟨input, member, clicked⟩ := second.replaced site former next isKey isNext different
      exact ⟨input, List.mem_append_right _ member, clicked⟩
    · obtain ⟨input, member, clicked⟩ := first.replaced site former key isFormer isKey same
      exact ⟨input, List.mem_append_left _ member, clicked⟩

theorem mono (kept : before.KeptBy inputs after) (among : inputs ⊆ more) :
    before.KeptBy more after where
  histories := kept.histories
  keys := kept.keys
  retained := kept.retained
  replaced site former next isFormer isNext different :=
    let ⟨input, member, clicked⟩ := kept.replaced site former next isFormer isNext different
    ⟨input, among member, clicked⟩

end StoreView.KeptBy

/-! ### One call -/

/-- What a resolution makes of a site that retains nothing is its own key. -/
theorem resolve_applyTo_none {presented : PublisherPubkey} {snapshot : Option RetainedIdentity}
    {decision : UserDecision} {after : RetainedSite}
    (applied : (resolve presented snapshot decision).intent.applyTo none = some after) :
    after.identity.pubkey = presented := by
  rcases resolve_intent presented snapshot decision with
    silent | ⟨-, observed⟩ | pinned | ⟨-, -, verified⟩ | ⟨record, -, -, -, replaced⟩
  · simp [silent, PersistenceIntent.applyTo] at applied
  · rw [observed] at applied
    cases applied
    rfl
  · rw [pinned] at applied
    cases applied
    rfl
  · rw [verified] at applied
    cases applied
    rfl
  · rw [replaced] at applied
    cases applied
    rfl

/-- A resolution leaves its own key at a site, or the key that it finds. -/
theorem applyTo_key {presented : PublisherPubkey} {snapshot : Option RetainedIdentity}
    {decision : UserDecision} {stored : Option RetainedSite} {after : RetainedSite}
    (applied : (resolve presented snapshot decision).intent.applyTo stored = some after) :
    after.identity.pubkey = presented ∨
      ∃ before ∈ stored, after.identity.pubkey = before.identity.pubkey := by
  cases stored with
  | none => exact .inl (resolve_applyTo_none applied)
  | some found =>
      obtain ⟨result, isResult, -, untouched, overwritten⟩ :=
        resolve_applyTo_some presented snapshot decision found
      obtain rfl := Option.some.inj (isResult.symm.trans applied)
      by_cases overwrites : (resolve presented snapshot decision).intent.Overwrites found.identity
      · exact .inl (overwritten overwrites).1
      · exact .inr ⟨found, rfl, untouched overwrites⟩

/-- The window of a document follows what its site holds: it is its own key or the one that
the window's snapshot shows, and below a pinning prompt it is its own key. -/
structure App.Follows (loaded : Loaded T) (view : StoreView) (app : App T) : Prop where
  site : app.loaded.site = loaded.site
  publisher : app.loaded.publisher = loaded.publisher
  seen : ∀ found ∈ view.sites loaded.site, found.identity.pubkey = loaded.publisher ∨
    app.loaded.retained.map (·.pubkey) = some found.identity.pubkey
  pinned : loaded.requiredAction = .pinPrompt →
    ∀ found ∈ view.sites loaded.site, found.identity.pubkey = loaded.publisher

namespace App.Follows

variable {loaded : Loaded T} {view : StoreView} {app : App T} {inputs : List FrameInput}

/-- The intent of a decision, applied. -/
theorem apply (follows : app.Follows loaded view) (decision : UserDecision)
    (confirmed : decision.confirms → loaded.requiredAction ≠ .pinPrompt →
      ∃ input ∈ inputs, input.confirmsReplacement = true) :
    let after := view.apply app.loaded.site
      (resolve app.loaded.publisher app.loaded.retained decision).intent
    view.KeptBy inputs after ∧ app.Follows loaded after := by
  obtain ⟨site, publisher, seen, pinned⟩ := follows
  rw [site, publisher]
  obtain ⟨confirms, known⟩ := @applyTo_keeps loaded.publisher app.loaded.retained decision
    (view.sites loaded.site) fun found isFound => (seen found isFound).imp id .inl
  have atSite := view.sites_apply_same loaded.site
    (resolve loaded.publisher app.loaded.retained decision).intent
  have atOthers : ∀ other, other ≠ loaded.site → (view.apply loaded.site
      (resolve loaded.publisher app.loaded.retained decision).intent).sites other =
        view.sites other := fun other different => view.sites_apply_other different _
  have keysAfter : ∀ found ∈ (resolve loaded.publisher app.loaded.retained
      decision).intent.applyTo (view.sites loaded.site),
      found.identity.pubkey = loaded.publisher ∨
        ∃ before ∈ view.sites loaded.site, found.identity.pubkey = before.identity.pubkey :=
    fun found isFound => applyTo_key isFound
  refine ⟨⟨fun _ => List.suffix_rfl, ?_, ?_, ?_⟩, site, publisher, ?_, ?_⟩
  · intro other key isKnown
    rw [StoreView.knows_iff] at isKnown ⊢
    by_cases same : other = loaded.site
    · subst same
      rw [atSite]
      exact known key isKnown
    · rwa [atOthers other same]
  · intro other active
    rw [StoreView.activeKey_eq] at active ⊢
    by_cases same : other = loaded.site
    · subst same
      rw [atSite]
      obtain ⟨key, isKey⟩ := Option.ne_none_iff_exists'.mp active
      obtain ⟨found, isFound, -⟩ := Option.map_eq_some_iff.mp isKey
      obtain ⟨after, applied, -⟩ := resolve_applyTo_some loaded.publisher app.loaded.retained
        decision found
      rw [isFound, applied]
      exact Option.some_ne_none _
    · rwa [atOthers other same]
  · intro other former next isFormer isNext different
    rw [StoreView.activeKey_eq] at isFormer isNext
    by_cases same : other = loaded.site
    · subst same
      rw [atSite] at isNext
      obtain ⟨isConfirming, -, isPresented⟩ := confirms former next isFormer isNext different
      refine confirmed isConfirming fun isPin => different ?_
      obtain ⟨found, isFound, isKey⟩ := Option.map_eq_some_iff.mp isFormer
      rw [← isKey, pinned isPin found isFound, isPresented]
    · rw [atOthers other same] at isNext
      exact (different (Option.some.inj (isFormer.symm.trans isNext))).elim
  · intro found isFound
    rw [atSite] at isFound
    rcases keysAfter found isFound with own | ⟨before, isBefore, sameKey⟩
    · exact .inl own
    · rw [sameKey]
      exact seen before isBefore
  · intro isPin found isFound
    rw [atSite] at isFound
    rcases keysAfter found isFound with own | ⟨before, isBefore, sameKey⟩
    · exact own
    · rw [sameKey]
      exact pinned isPin before isBefore

theorem appendRecord (follows : app.Follows loaded view) (publisher : PublisherPubkey)
    (record : RetainedManifestRecord) :
    view.KeptBy inputs (view.appendRecord publisher record) ∧
      app.Follows loaded (view.appendRecord publisher record) := by
  refine ⟨⟨fun other => ?_, fun _ _ => id, fun _ => id, ?_⟩, ?_⟩
  · by_cases same : other = publisher
    · subst same
      rw [StoreView.histories_appendRecord_same]
      exact List.suffix_cons record _
    · rw [StoreView.histories_appendRecord_other view same]
  · exact (StoreView.KeptBy.refl inputs view).replaced
  · exact ⟨follows.site, follows.publisher, follows.seen, follows.pinned⟩

theorem withRetained (follows : app.Follows loaded view) :
    (app.withRetained (view.identity app.loaded.site)).Follows loaded view where
  site := follows.site
  publisher := follows.publisher
  pinned := follows.pinned
  seen := by
    intro found isFound
    refine .inr ?_
    rw [App.withRetained, follows.site, StoreView.identity]
    rw [show view.sites loaded.site = some found from isFound]
    rfl

/-- The decision that is resolved changes the chrome only. -/
theorem decided (follows : app.Follows loaded view) (decision : UserDecision) :
    (app.decided core decision).Follows loaded view :=
  ⟨follows.site, follows.publisher, follows.seen, follows.pinned⟩

end App.Follows

/-! ### The steps of a session -/

section Steps

variable {loaded : Loaded T} {start view : StoreView} {app : App T} {inputs : List FrameInput}

/-- Whatever a persist meets, nothing is lost and the window follows its site. -/
theorem safely_persist (kept : start.KeptBy inputs view) (follows : app.Follows loaded view)
    (decision : UserDecision)
    (confirmed : decision.confirms → loaded.requiredAction ≠ .pinPrompt →
      ∃ input ∈ inputs, input.confirmsReplacement = true) :
    (catchErr (app.persist
        (resolve app.loaded.publisher app.loaded.retained decision).intent)).Safely viewHandler
      (start.KeptBy inputs)
      (fun _ _ after => start.KeptBy inputs after ∧ app.Follows loaded after) view := by
  have further : ∀ {between after : StoreView}, start.KeptBy inputs between →
      between.KeptBy inputs after → start.KeptBy inputs after :=
    fun first second => (first.trans second).mono (by simp)
  obtain ⟨applyKeeps, followsApplied⟩ := follows.apply decision confirmed
  have applied := further kept applyKeeps
  refine .attempt (.bind (.perform (fun _ => ⟨kept, follows⟩) applied ?_))
  simp only [viewHandler]
  cases (resolve app.loaded.publisher app.loaded.retained decision).intent.publisher with
  | none => exact ⟨applied, followsApplied⟩
  | some publisher =>
      cases app.loaded.record with
      | none => exact ⟨applied, followsApplied⟩
      | some record =>
          obtain ⟨appendKeeps, followsAppended⟩ :=
            @App.Follows.appendRecord T loaded _ app inputs followsApplied publisher record
          have appended := further applied appendKeeps
          exact .perform (fun _ => ⟨applied, followsApplied⟩) appended
            ⟨appended, followsAppended⟩

theorem safely_reloadRetained (kept : start.KeptBy inputs view)
    (follows : app.Follows loaded view) :
    app.reloadRetained.Safely viewHandler (start.KeptBy inputs)
      (fun _ outcome after => start.KeptBy inputs after ∧
        ∀ reloaded, outcome = .ok reloaded → reloaded.Follows loaded after) view := by
  refine .bind (.attempt (.perform (fun error => ?_) kept ?_))
  · cases error with
    | err error =>
        refine ⟨kept, ?_⟩
        rintro _ ⟨⟩
        exact follows
    | panic message => exact ⟨kept, fun _ impossible => by cases impossible⟩
  · refine ⟨kept, ?_⟩
    rintro _ ⟨⟩
    exact follows.withRetained

theorem safely_new (kept : start.KeptBy inputs view)
    (follows : (App.opened core loaded).Follows loaded view)
    (initial : loaded.initialIntent = (resolve loaded.publisher loaded.retained .none).intent) :
    (App.new core loaded).Safely viewHandler (start.KeptBy inputs)
      (fun _ outcome after => start.KeptBy inputs after ∧
        ∀ app, outcome = .ok app → app.Follows loaded after) view := by
  have persists := @safely_persist T loaded start view (App.opened core loaded) inputs kept follows
    .none fun confirms => by rcases confirms with impossible | impossible <;> cases impossible
  rw [App.opened_loaded, ← initial] at persists
  refine .bind (persists.mono ?_)
  rintro _ (failure | reply) after ⟨keptAfter, followsAfter⟩
  · exact ⟨keptAfter, fun _ impossible => by cases impossible⟩
  · exact safely_reloadRetained keptAfter followsAfter

theorem safely_applyAndPersist (kept : start.KeptBy inputs view)
    (follows : app.Follows loaded view) (decision : UserDecision)
    (confirmed : decision.confirms → loaded.requiredAction ≠ .pinPrompt →
      ∃ input ∈ inputs, input.confirmsReplacement = true) :
    (app.applyAndPersist core decision).Safely viewHandler (start.KeptBy inputs)
      (fun _ outcome after => start.KeptBy inputs after ∧
        ∀ decided, outcome = .ok decided →
          decided.Follows loaded after ∧ decided.Prompts .none) view := by
  have persists := @safely_persist T loaded start view (app.decided core decision) inputs kept
    (follows.decided decision) decision confirmed
  refine .bind (persists.mono ?_)
  rintro _ (failure | reply) after ⟨keptAfter, followsAfter⟩
  · exact ⟨keptAfter, fun _ impossible => by cases impossible⟩
  · refine .bind ((safely_reloadRetained keptAfter followsAfter).mono ?_)
    rintro _ (failure | reloaded) last ⟨keptLast, followsLast⟩
    · exact ⟨keptLast, fun _ impossible => by cases impossible⟩
    · refine ⟨keptLast, ?_⟩
      rintro _ ⟨⟩
      have followsReloaded := followsLast reloaded rfl
      exact ⟨⟨followsReloaded.site, followsReloaded.publisher, followsReloaded.seen,
        followsReloaded.pinned⟩, reloaded.closePrompts_prompts⟩

/-- Outside a pinning prompt, a decision comes from a confirming click. -/
theorem RequiredAction.answer_confirms {action : RequiredAction} {input : FrameInput}
    {decision : UserDecision} (decides : (action.answer input).decision = some decision)
    (notPin : action ≠ .pinPrompt) :
    input.confirmsReplacement = true := by
  cases action with
  | none => cases decides
  | pinPrompt => exact (notPin rfl).elim
  | mismatchWarning =>
      simp only [answer, mismatchAnswer] at decides
      unfold FrameInput.confirmsReplacement
      grind

/-- A window that follows its site, with no prompt or with that of its load. -/
def App.FollowsPrompting (loaded : Loaded T) (view : StoreView) (app : App T) : Prop :=
  app.Follows loaded view ∧
    ∃ action, (action = .none ∨ action = loaded.requiredAction) ∧ app.Prompts action

theorem safely_answerPrompt {shell : ShellApp T} (kept : start.KeptBy inputs view)
    (follows : shell.app.FollowsPrompting loaded view) {input : FrameInput}
    (member : input ∈ inputs) :
    (shell.answerPrompt core (shell.chromeFrame input).2).Safely viewHandler
      (start.KeptBy inputs)
      (fun _ outcome after => start.KeptBy inputs after ∧
        ∀ app, outcome = .ok app → app.FollowsPrompting loaded after) view := by
  obtain ⟨followsSite, action, isAction, prompts⟩ := follows
  have answer : (shell.chromeFrame input).2 = _ := prompts.answer input
  rw [ShellApp.answerPrompt, answer]
  cases decided : (action.answer input).decision with
  | some decision =>
      have confirmed : decision.confirms → loaded.requiredAction ≠ .pinPrompt →
          ∃ input ∈ inputs, input.confirmsReplacement = true := by
        intro _ notPin
        refine ⟨input, member, action.answer_confirms decided ?_⟩
        rcases isAction with rfl | rfl
        · exact RequiredAction.noConfusion
        · exact notPin
      refine (safely_applyAndPersist kept followsSite decision confirmed).mono ?_
      rintro _ outcome after ⟨keptAfter, returns⟩
      refine ⟨keptAfter, fun app returned => ?_⟩
      obtain ⟨followsAfter, closed⟩ := returns app returned
      exact ⟨followsAfter, .none, .inl rfl, closed⟩
  | none =>
      cases (action.answer input).decline with
      | false =>
          refine ⟨kept, ?_⟩
          rintro _ ⟨⟩
          exact ⟨followsSite, action, isAction, prompts⟩
      | true =>
          refine ⟨kept, ?_⟩
          rintro _ ⟨⟩
          exact ⟨⟨followsSite.site, followsSite.publisher, followsSite.seen, followsSite.pinned⟩,
            .none, .inl rfl, shell.app.closePrompts_prompts⟩

theorem safely_frames {shell : ShellApp T} (kept : start.KeptBy inputs view)
    (follows : shell.app.FollowsPrompting loaded view) {more : List FrameInput}
    (among : more ⊆ inputs) :
    (shell.frames core nodes more).Safely viewHandler (start.KeptBy inputs)
      (fun _ _ after => start.KeptBy inputs after) view := by
  induction more generalizing shell view with
  | nil => exact kept
  | cons input more ih =>
      have unrolled := @ShellApp.frames_cons T core nodes shell input more _ pure
      rw [Program.bind_pure] at unrolled
      rw [unrolled]
      refine .bind ((safely_answerPrompt kept follows (among List.mem_cons_self)).mono ?_)
      rintro _ (failure | app) after ⟨keptAfter, followsAfter⟩
      · exact keptAfter
      · refine .bind ((@ih _ (({ shell with app } : ShellApp T).contentFrame nodes
          (shell.chromeFrame input).1 input).1 keptAfter (followsAfter app rfl)
          fun _ inside => among (List.mem_cons_of_mem _ inside)).mono ?_)
        rintro _ (failure | rest) last keptLast
        · exact keptLast
        · exact keptLast

theorem safely_session (follows : (App.opened core loaded).Follows loaded start)
    (initial : loaded.initialIntent = (resolve loaded.publisher loaded.retained .none).intent) :
    (ShellApp.session core nodes loaded inputs).Safely viewHandler (start.KeptBy inputs)
      (fun _ _ after => start.KeptBy inputs after) start := by
  have opens : (App.new core loaded).Safely viewHandler (start.KeptBy inputs)
      (fun _ outcome after => start.KeptBy inputs after ∧
        ∀ app, outcome = .ok app → app.FollowsPrompting loaded after) start := by
    refine ((safely_new (.refl inputs start) follows initial).and_concludes
      (App.new_prompts loaded)).mono ?_
    rintro _ outcome after ⟨⟨keptAfter, followsAfter⟩, prompts⟩
    exact ⟨keptAfter, fun app returned =>
      ⟨followsAfter app returned, _, .inr rfl, prompts app returned⟩⟩
  refine .bind (.bind (opens.mono ?_))
  rintro _ (failure | app) after ⟨keptAfter, followsAfter⟩
  · exact keptAfter
  · exact safely_frames keptAfter (followsAfter app rfl) fun _ => id

/-- A pinning prompt is demanded only without another key. -/
theorem resolve_pinPrompt_key {presented : PublisherPubkey} {retained : Option RetainedIdentity}
    (demanded : (resolve presented retained .none).action = .pinPrompt) :
    ∀ record ∈ retained, record.pubkey = presented := by
  rintro record rfl
  by_contra different
  rw [resolve_mismatch different] at demanded
  cases demanded

/-- A loaded document follows the site that it was loaded for. -/
theorem load_follows {manifestBytes : Bytes} {contentBytes : Option Bytes}
    {address : OnionAddress} {compactAddress : String} {history : PublisherHistory}
    (accepted : load core manifestBytes contentBytes address compactAddress buildClock
      (view.identity address) history = .ok loaded) :
    (App.opened core loaded).Follows loaded view ∧
      loaded.initialIntent = (resolve loaded.publisher loaded.retained .none).intent := by
  obtain ⟨_, -, -, -, site, snapshot, -, intent, action⟩ := load_eq_ok accepted
  have shown := @App.opened_loaded T core loaded
  refine ⟨⟨by rw [shown], by rw [shown], fun found isFound => .inr ?_, fun isPin found isFound =>
    resolve_pinPrompt_key (action.symm.trans isPin) found.identity ?_⟩, ?_⟩
  · rw [shown, snapshot, StoreView.identity, ← site]
    rw [show view.sites loaded.site = some found from isFound]
    rfl
  · rw [StoreView.identity, ← site, show view.sites loaded.site = some found from isFound]
    rfl
  · rw [intent, snapshot]

/-- A build changes nothing, and what it returns follows its site. -/
theorem safely_build {moment : StoreView → Prop} (holds : moment view) (request : BuildRequest) :
    (build core request).Safely viewHandler moment
      (fun _ outcome after => after = view ∧ ∀ loaded, outcome = .ok (.ok loaded) →
        (App.opened core loaded).Follows loaded view ∧
          loaded.initialIntent = (resolve loaded.publisher loaded.retained .none).intent)
      view := by
  unfold build
  cases request.inputs core with
  | error message => exact ⟨rfl, fun loaded impossible => by cases impossible⟩
  | ok inputs =>
      obtain ⟨manifestBytes, contentBytes, address⟩ := inputs
      refine .bind (.attempt (.perform (fun error => ?_) holds ?_))
      · rcases error with error | message
        · exact ⟨rfl, fun loaded impossible => by simp at impossible⟩
        · exact ⟨rfl, fun loaded impossible => by simp at impossible⟩
      · simp only [viewHandler, Program.catchOutcome]
        cases peekPublisherPubkey core manifestBytes with
        | error message => exact ⟨rfl, fun loaded impossible => by simp at impossible⟩
        | ok publisher =>
            refine .bind (.attempt (.perform (fun error => ?_) holds ?_))
            · rcases error with error | message
              · exact ⟨rfl, fun loaded impossible => by simp at impossible⟩
              · exact ⟨rfl, fun loaded impossible => by simp at impossible⟩
            · refine ⟨rfl, fun loaded built => ?_⟩
              exact load_follows (ExceptRules.mapError_eq_ok.mp (Except.ok.inj built))

end Steps

/-- Under any faults of the store calls, a run of the viewer keeps what the stores hold. -/
theorem viewer_keeps (core : Core T) (nodes : T.Scene → List SceneNode) (request : BuildRequest)
    (inputs : List FrameInput) (faults : List (Fault Failure)) (view : StoreView) :
    view.KeptBy inputs
      ((ShellApp.viewer core nodes request inputs).runFaulty viewHandler faults view).2 := by
  have kept := StoreView.KeptBy.refl inputs view
  have safely : (ShellApp.viewer core nodes request inputs).Safely viewHandler
      (view.KeptBy inputs) (fun _ _ after => view.KeptBy inputs after) view := by
    refine .bind ((safely_build kept request).mono ?_)
    rintro _ (failure | (message | loaded)) after ⟨rfl, builds⟩
    · exact kept
    · exact kept
    · obtain ⟨follows, initial⟩ := builds loaded rfl
      refine .bind ((safely_session follows initial).mono ?_)
      rintro _ (failure | shown) last keptLast
      · exact keptLast
      · exact keptLast
  exact safely.run_after kept faults

end EntangledClient
