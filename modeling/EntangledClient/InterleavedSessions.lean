import EntangledClient.SequentialSessions

/-!
# Sessions that interleave

Any number of sessions share one store, and each store call of each of them is a
step of its own.  A session computes its intent from its own snapshot and applies
it to whatever the store holds by then.  What a session may still call, and what
it will have concluded, is an invariant of its remaining program.
-/

namespace EntangledClient

open CallTree

variable {T : CoreTypes} {σ : Type}

/-- Where a session stands, with the rest of the program that it is running. -/
inductive Phase (T : CoreTypes)
  | closed
  | building (program : StoreProgram (Except String (Loaded T)))
  | opening (loaded : Loaded T) (program : StoreProgram (App T))
  | waiting (app : App T)
  | deciding (app : App T) (decision : UserDecision) (program : StoreProgram (App T))

/-- The last history that a session read, with its publisher. -/
abbrev HistoryRead := Option (PublisherPubkey × PublisherHistory)

def observeRead (seen : HistoryRead) (request : StoreCall)
    (reply : storeInterface.Reply request) : HistoryRead :=
  match request, reply with
  | .loadHistory publisher, .ok history => some (publisher, history)
  | _, _ => seen

namespace Phase

variable (core : Core T)

/-- A phase whose program has returned gives way to the next one. -/
def settle : Phase T → Phase T
  | .building (.ret (.ok (.ok loaded))) => .opening loaded (App.new core loaded)
  | .building (.ret _) => .closed
  | .opening _ (.ret (.ok app)) => .waiting app
  | .opening _ (.ret (.error _)) => .closed
  | .deciding _ _ (.ret (.ok app)) => .waiting app
  | .deciding _ _ (.ret (.error _)) => .closed
  | phase => phase

/-- The next call of a phase, and how its reply is taken. -/
def pending : Phase T → Option ((request : StoreCall) × (storeInterface.Reply request → Phase T))
  | .building (.call request resume) =>
      some ⟨request, fun reply => .building (resume reply)⟩
  | .opening loaded (.call request resume) =>
      some ⟨request, fun reply => .opening loaded (resume reply)⟩
  | .deciding app decision (.call request resume) =>
      some ⟨request, fun reply => .deciding app decision (resume reply)⟩
  | _ => none

end Phase

structure ShellSession (T : CoreTypes) where
  phase : Phase T
  read : HistoryRead

/-- The shared store, the sessions on it, and the keys that were active at each
site so far. -/
structure System (σ : Type) (T : CoreTypes) where
  store : σ
  sessions : Nat → ShellSession T
  everActive : OnionAddress → List PublisherPubkey

inductive SystemEvent
  | start (session : Nat) (request : BuildRequest)
  | call (session : Nat)
  | decide (session : Nat) (decision : UserDecision)
  | stop (session : Nat)

/-- The key of the identity retained for a site. -/
def StoreView.activeKey (view : StoreView) (site : OnionAddress) : Option PublisherPubkey :=
  (view.identity site).map (·.pubkey)

theorem StoreView.activeKey_eq (view : StoreView) (site : OnionAddress) :
    view.activeKey site = (view.sites site).map (·.identity.pubkey) := by
  simp [activeKey, identity, Function.comp_def]

namespace System

variable (core : Core T) (handler : Handler storeInterface σ) (observe : σ → StoreView)

/-- A store on which no session runs. -/
def quiet (store : σ) : System σ T where
  store
  sessions _ := { phase := .closed, read := none }
  everActive site := ((observe store).activeKey site).toList

def setSession (system : System σ T) (index : Nat) (session : ShellSession T) : System σ T :=
  { system with sessions := Function.update system.sessions index session }

/-- The store after a call, with the keys that are active in it. -/
def setStore (system : System σ T) (store : σ) : System σ T :=
  { system with
    store
    everActive := fun site =>
      ((observe store).activeKey site).toList ++ system.everActive site }

def step (system : System σ T) : SystemEvent → Option (System σ T)
  | .start index request =>
      match (system.sessions index).phase with
      | .closed =>
          some (system.setSession index
            { phase := (Phase.building (build core request)).settle core, read := none })
      | _ => none
  | .call index =>
      match (system.sessions index).phase.pending with
      | none => none
      | some ⟨request, resume⟩ =>
          let (reply, store) := handler request system.store
          some ((system.setStore observe store).setSession index
            { phase := (resume reply).settle core
              read := observeRead (system.sessions index).read request reply })
  | .decide index decision =>
      match (system.sessions index).phase with
      | .waiting app =>
          some (system.setSession index
            { phase :=
                (Phase.deciding app decision (app.applyAndPersist core decision)).settle core
              read := (system.sessions index).read })
      | _ => none
  | .stop index =>
      some (system.setSession index
        { phase := .closed, read := (system.sessions index).read })

/-- The interleaved sessions as a machine. -/
def machine : StateMachine (System σ T) SystemEvent where
  step := step core handler observe

variable {core} {handler} {observe}

/-- A step that is not a call leaves the store alone, and a call is the pending
one of its session. -/
theorem step_cases {system next : System σ T} {event : SystemEvent}
    (taken : (machine core handler observe).step system event = some next) :
    ((∀ index, event ≠ .call index) ∧ next.store = system.store ∧
      next.everActive = system.everActive) ∨
    ∃ index request resume, event = .call index ∧
      (system.sessions index).phase.pending = some ⟨request, resume⟩ ∧
      next.store = (handler request system.store).2 ∧
      (∀ site, next.everActive site =
        ((observe next.store).activeKey site).toList ++ system.everActive site) := by
  cases event with
  | start index request =>
      left
      simp only [machine, step] at taken
      split at taken
      · obtain rfl := Option.some.inj taken
        exact ⟨by simp, rfl, rfl⟩
      · cases taken
  | call index =>
      right
      simp only [machine, step] at taken
      split at taken
      · cases taken
      next request resume isPending =>
        obtain rfl := Option.some.inj taken
        exact ⟨index, request, resume, rfl, isPending, rfl, fun _ => rfl⟩
  | decide index decision =>
      left
      simp only [machine, step] at taken
      split at taken
      · obtain rfl := Option.some.inj taken
        exact ⟨by simp, rfl, rfl⟩
      · cases taken
  | stop index =>
      left
      obtain rfl := Option.some.inj taken
      exact ⟨by simp, rfl, rfl⟩

/-- What a session has read changes only when it starts or by its own call. -/
theorem read_cases {system next : System σ T} {event : SystemEvent}
    (taken : (machine core handler observe).step system event = some next) (index : Nat) :
    (next.sessions index).read = (system.sessions index).read ∨
    (next.sessions index).read = none ∨
    ∃ request resume, event = .call index ∧
      (system.sessions index).phase.pending = some ⟨request, resume⟩ ∧
      (next.sessions index).read = observeRead (system.sessions index).read request
        (handler request system.store).1 := by
  have replaced : ∀ (changed : System σ T) (other : Nat) (session : ShellSession T),
      changed.sessions = system.sessions →
      ((changed.setSession other session).sessions index).read =
        if index = other then session.read else (system.sessions index).read := by
    intro changed other session sameSessions
    by_cases same : index = other
    · subst same
      simp [setSession]
    · simp [setSession, same, sameSessions]
  cases event with
  | start other request =>
      simp only [machine, step] at taken
      split at taken
      · obtain rfl := Option.some.inj taken
        rw [replaced system other _ rfl]
        split_ifs
        · exact .inr (.inl rfl)
        · exact .inl rfl
      · cases taken
  | call other =>
      simp only [machine, step] at taken
      split at taken
      · cases taken
      next request resume isPending =>
        obtain rfl := Option.some.inj taken
        rw [replaced (system.setStore observe _) other _ rfl]
        split_ifs with same
        · subst same
          exact .inr (.inr ⟨request, resume, rfl, isPending, rfl⟩)
        · exact .inl rfl
  | decide other decision =>
      simp only [machine, step] at taken
      split at taken
      · obtain rfl := Option.some.inj taken
        rw [replaced system other _ rfl]
        split_ifs with same
        · exact .inl (same ▸ rfl)
        · exact .inl rfl
      · cases taken
  | stop other =>
      obtain rfl := Option.some.inj taken
      rw [replaced system other _ rfl]
      split_ifs with same
      · exact .inl (same ▸ rfl)
      · exact .inl rfl

end System

/-! ### What a session may call and will conclude -/

/-- The document was accepted against the history that the session read. -/
def AcceptedFor (core : Core T) (read : HistoryRead) (loaded : Loaded T) : Prop :=
  ∃ manifest history, read = some (loaded.publisher, history) ∧
    loaded.record = core.recordFor manifest ∧
    core.checkAgainstHistory manifest history = .ok ()

theorem AcceptedFor.of_shows {core : Core T} {read : HistoryRead} {app : App T}
    {loaded : Loaded T} (accepted : AcceptedFor core read loaded)
    (shows_ : app.Shows loaded) : AcceptedFor core read app.loaded := by
  obtain ⟨manifest, history, isRead, record, checked⟩ := accepted
  obtain ⟨publisher, -, sameRecord⟩ := shows_
  exact ⟨manifest, history, publisher ▸ isRead, sameRecord.trans record, checked⟩

/-- The calls of a window that persists an intent. -/
def Loaded.Persists (loaded : Loaded T) (intent : PersistenceIntent) : StoreCall → Prop
  | .loadIdentity site => site = loaded.site
  | .apply site applied => site = loaded.site ∧ applied = intent
  | .loadHistory _ => False
  | .appendRecord publisher record =>
      intent.publisher = some publisher ∧ loaded.record = some record

theorem observeRead_persists {loaded : Loaded T} {intent : PersistenceIntent}
    {request : StoreCall} (persists : loaded.Persists intent request) (seen : HistoryRead)
    (reply : storeInterface.Reply request) : observeRead seen request reply = seen := by
  cases request with
  | loadHistory publisher => exact persists.elim
  | loadIdentity site => rfl
  | apply site applied => rfl
  | appendRecord publisher record => rfl

namespace App

variable {core : Core T}

theorem persist_calls (app : App T) (intent : PersistenceIntent) :
    (app.persist intent).CallsWithin (app.loaded.Persists intent) := by
  refine .bind (.perform ⟨rfl, rfl⟩) fun _ => ?_
  cases publisher : intent.publisher with
  | none => exact .pure ()
  | some publisher' =>
      cases record : app.loaded.record with
      | none => exact .pure ()
      | some record' => exact .perform ⟨publisher, record⟩

theorem reloadRetained_calls (app : App T) (intent : PersistenceIntent) :
    app.reloadRetained.CallsWithin (app.loaded.Persists intent) := by
  refine .bind (.attempt (.perform rfl)) fun reply => ?_
  cases reply <;> exact .pure _

theorem new_calls (loaded : Loaded T) :
    (new core loaded).CallsWithin (loaded.Persists loaded.initialIntent) := by
  have shown : (opened core loaded).loaded = loaded := opened_loaded loaded
  refine .bind (.attempt ?_) fun _ => ?_
  · simpa [shown] using persist_calls (opened core loaded) loaded.initialIntent
  · simpa [shown] using reloadRetained_calls (opened core loaded) loaded.initialIntent

theorem applyAndPersist_calls (app : App T) (decision : UserDecision) :
    (app.applyAndPersist core decision).CallsWithin
      (app.loaded.Persists
        (resolve app.loaded.publisher app.loaded.retained decision).intent) :=
  .bind (.attempt (persist_calls (app.decided core decision) _)) fun _ =>
    .bind (reloadRetained_calls (app.decided core decision) _) fun _ => .pure _

/-- Whatever the stores answer, a window goes on showing its document. -/
def AlwaysShows (program : StoreProgram (App T)) (loaded : Loaded T) (read : HistoryRead) :
    Prop :=
  program.Always observeRead (fun _ outcome => ∀ app, outcome = .ok app → app.Shows loaded)
    read

theorem reloadRetained_shows {app : App T} {loaded : Loaded T} (shows_ : app.Shows loaded)
    (read : HistoryRead) : AlwaysShows app.reloadRetained loaded read := by
  refine .bind (.attempt (.perform fun reply => ?_))
  rcases reply with (error | panicked) | retained
  · rintro _ ⟨⟩
    exact shows_
  · rintro _ ⟨⟩
  · rintro _ ⟨⟩
    exact shows_

/-- Nothing is concluded from a persist. -/
theorem persist_always {β : Type} (app : App T) (intent : PersistenceIntent)
    {next : StoreProgram β} {post : HistoryRead → Except Failure β → Prop}
    {read : HistoryRead} (panics : ∀ read message, post read (.error (.panic message)))
    (rest : ∀ read, next.Always observeRead post read) :
    (catchErr (app.persist intent) >>= fun _ => next).Always observeRead post read := by
  refine .bind (.attempt (.bind (.perform fun reply => ?_)))
  rcases reply with (error | message) | applied
  · exact rest _
  · exact panics _ message
  · cases intent.publisher with
    | none => exact rest _
    | some publisher =>
        cases app.loaded.record with
        | none => exact rest _
        | some record =>
            rintro ((error | message) | appended)
            · exact rest _
            · exact panics _ message
            · exact rest _

theorem new_shows (loaded : Loaded T) (read : HistoryRead) :
    AlwaysShows (new core loaded) loaded read := by
  have shown : (opened core loaded).Shows loaded := by simp [Shows]
  exact persist_always _ _ (fun _ _ _ => by simp) fun read => reloadRetained_shows shown read

theorem applyAndPersist_shows (app : App T) (decision : UserDecision) (read : HistoryRead) :
    AlwaysShows (app.applyAndPersist core decision) app.loaded read := by
  have shown : (app.decided core decision).Shows app.loaded := ⟨rfl, rfl, rfl⟩
  refine persist_always _ _ (fun _ _ _ => by simp) fun read => ?_
  refine .bind ((reloadRetained_shows shown read).mono ?_)
  rintro seen (error | reloaded) reloadedShows
  · rintro _ ⟨⟩
  · rintro _ ⟨⟩
    exact reloadedShows reloaded rfl

end App

section Build

variable {core : Core T}

theorem build_calls (request : BuildRequest) :
    (build core request).CallsWithin StoreCall.IsLoad := by
  unfold EntangledClient.build
  cases request.inputs core with
  | error message => exact .pure _
  | ok inputs =>
      obtain ⟨manifestBytes, contentBytes, address⟩ := inputs
      refine .bind (.attempt (.perform trivial)) fun retained => ?_
      cases retained with
      | error e => exact .pure _
      | ok retained =>
          simp only
          cases peekPublisherPubkey core manifestBytes with
          | error message => exact .pure _
          | ok publisher =>
              refine .bind (.attempt (.perform trivial)) fun history => ?_
              cases history <;> exact .pure _

/-- A successful build comes from an accepted manifest and the history that was
read for the peeked publisher. -/
theorem build_loadedFrom (request : BuildRequest) (read : HistoryRead) :
    (build core request).Always observeRead (fun read outcome =>
      ∀ loaded, outcome = .ok (.ok loaded) →
        ∃ manifest publisher history, read = some (publisher, history) ∧
          (core.PeekAgrees → publisher = loaded.publisher) ∧
          LoadedFrom core history loaded manifest) read := by
  unfold EntangledClient.build
  cases request.inputs core with
  | error message => exact fun _ impossible => by simp at impossible
  | ok inputs =>
      obtain ⟨manifestBytes, contentBytes, address⟩ := inputs
      refine .bind (.attempt (.perform fun reply => ?_))
      rcases reply with (error | message) | retained
      · exact fun _ impossible => by simp at impossible
      · exact fun _ impossible => by simp at impossible
      · simp only [Program.catchOutcome]
        cases peeked : peekPublisherPubkey core manifestBytes with
        | error message => exact fun _ impossible => by simp at impossible
        | ok publisher =>
            refine .bind (.attempt (.perform fun reply => ?_))
            rcases reply with (error | message) | history
            · exact fun _ impossible => by simp at impossible
            · exact fun _ impossible => by simp at impossible
            · simp only [Program.catchOutcome]
              intro loaded built
              have accepted := ExceptRules.mapError_eq_ok.mp (Except.ok.inj built)
              obtain ⟨manifest, parsed, from_, -, -⟩ := load_loadedFrom accepted
              exact ⟨manifest, publisher, history, rfl, from_.peeked parsed peeked, from_⟩

/-- What a successful build concludes. -/
def BuildConcludes (core : Core T) (read : HistoryRead)
    (outcome : Except Failure (Except String (Loaded T))) : Prop :=
  ∀ loaded, outcome = .ok (.ok loaded) →
    (core.PeekAgrees → AcceptedFor core read loaded) ∧
      loaded.initialIntent = (resolve loaded.publisher loaded.retained .none).intent

theorem build_concludes (request : BuildRequest) (read : HistoryRead) :
    (build core request).Always observeRead (BuildConcludes core) read := by
  refine (build_loadedFrom request read).mono ?_
  intro read outcome from_ loaded built
  obtain ⟨manifest, publisher, history, isRead, peeked, loadedFrom⟩ := from_ loaded built
  refine ⟨fun agrees => ?_, loadedFrom.initialIntent⟩
  exact ⟨manifest, history, peeked agrees ▸ isRead, loadedFrom.record, loadedFrom.checked⟩

end Build

/-! ### The invariant of the sessions -/

namespace Phase

variable {core : Core T}

/-- What holds of a phase, for the history that its session read last. -/
def Sound (core : Core T) (read : HistoryRead) : Phase T → Prop
  | .closed => True
  | .building program =>
      program.CallsWithin StoreCall.IsLoad ∧
        program.Always observeRead (BuildConcludes core) read
  | .opening loaded program =>
      (core.PeekAgrees → AcceptedFor core read loaded) ∧
        loaded.initialIntent = (resolve loaded.publisher loaded.retained .none).intent ∧
        program.CallsWithin (loaded.Persists loaded.initialIntent) ∧
        App.AlwaysShows program loaded read
  | .waiting app => core.PeekAgrees → AcceptedFor core read app.loaded
  | .deciding app decision program =>
      (core.PeekAgrees → AcceptedFor core read app.loaded) ∧
        program.CallsWithin (app.loaded.Persists
          (resolve app.loaded.publisher app.loaded.retained decision).intent) ∧
        App.AlwaysShows program app.loaded read

theorem Sound.settle {read : HistoryRead} {phase : Phase T} (sound : phase.Sound core read) :
    (phase.settle core).Sound core read := by
  cases phase with
  | closed | waiting app => exact sound
  | building program =>
      rcases program with ((failure | (message | loaded)) | ⟨request, resume⟩)
      · trivial
      · trivial
      · obtain ⟨accepted, intent⟩ := sound.2 loaded rfl
        exact ⟨accepted, intent, App.new_calls loaded, App.new_shows loaded read⟩
      · exact sound
  | opening loaded program =>
      rcases program with ((failure | app) | ⟨request, resume⟩)
      · trivial
      · exact fun agrees => (sound.1 agrees).of_shows (sound.2.2.2 app rfl)
      · exact sound
  | deciding app decision program =>
      rcases program with ((failure | after) | ⟨request, resume⟩)
      · trivial
      · exact fun agrees => (sound.1 agrees).of_shows (sound.2.2 after rfl)
      · exact sound

theorem pending_eq_some {phase : Phase T} {request : StoreCall}
    {resume : storeInterface.Reply request → Phase T}
    (isPending : phase.pending = some ⟨request, resume⟩) :
    (∃ rest, phase = .building (.call request rest) ∧
      resume = fun reply => .building (rest reply)) ∨
    (∃ loaded rest, phase = .opening loaded (.call request rest) ∧
      resume = fun reply => .opening loaded (rest reply)) ∨
    ∃ app decision rest, phase = .deciding app decision (.call request rest) ∧
      resume = fun reply => .deciding app decision (rest reply) := by
  cases phase with
  | closed | waiting app => cases isPending
  | building program =>
      rcases program with outcome | ⟨pending, rest⟩
      · cases isPending
      · cases isPending
        exact .inl ⟨rest, rfl, rfl⟩
  | opening loaded program =>
      rcases program with outcome | ⟨pending, rest⟩
      · cases isPending
      · cases isPending
        exact .inr (.inl ⟨loaded, rest, rfl, rfl⟩)
  | deciding app decision program =>
      rcases program with outcome | ⟨pending, rest⟩
      · cases isPending
      · cases isPending
        exact .inr (.inr ⟨app, decision, rest, rfl, rfl⟩)

theorem Sound.resume {read : HistoryRead} {phase : Phase T} (sound : phase.Sound core read)
    {request : StoreCall} {resume : storeInterface.Reply request → Phase T}
    (isPending : phase.pending = some ⟨request, resume⟩)
    (reply : storeInterface.Reply request) :
    (resume reply).Sound core (observeRead read request reply) := by
  rcases pending_eq_some isPending with
    ⟨rest, rfl, rfl⟩ | ⟨loaded, rest, rfl, rfl⟩ | ⟨app, decision, rest, rfl, rfl⟩
  · exact ⟨sound.1.2 reply, sound.2 reply⟩
  · obtain ⟨accepted, intent, calls, alwaysShows⟩ := sound
    have sameRead := observeRead_persists calls.1 read reply
    exact ⟨sameRead.symm ▸ accepted, intent, calls.2 reply, alwaysShows reply⟩
  · obtain ⟨accepted, calls, alwaysShows⟩ := sound
    have sameRead := observeRead_persists calls.1 read reply
    exact ⟨sameRead.symm ▸ accepted, calls.2 reply, alwaysShows reply⟩

/-- The pending call of a sound session: a load, a write of the window that is
opening, or one of a decision. -/
theorem Sound.pending_cases {read : HistoryRead} {phase : Phase T}
    (sound : phase.Sound core read) {request : StoreCall}
    {resume : storeInterface.Reply request → Phase T}
    (isPending : phase.pending = some ⟨request, resume⟩) :
    (request.IsLoad ∧ ∀ app decision program, phase ≠ .deciding app decision program) ∨
    (∃ loaded program, phase = .opening loaded program ∧
      (core.PeekAgrees → AcceptedFor core read loaded) ∧
      loaded.Persists (resolve loaded.publisher loaded.retained .none).intent request) ∨
    ∃ app decision continue_, phase = .deciding app decision (.call request continue_) ∧
      (core.PeekAgrees → AcceptedFor core read app.loaded) ∧
      app.loaded.Persists
        (resolve app.loaded.publisher app.loaded.retained decision).intent request := by
  rcases pending_eq_some isPending with
    ⟨rest, rfl, rfl⟩ | ⟨loaded, rest, rfl, rfl⟩ | ⟨app, decision, rest, rfl, rfl⟩
  · have isLoad : request.IsLoad := sound.1.1
    exact .inl ⟨isLoad, by simp⟩
  · obtain ⟨accepted, intent, calls, -⟩ := sound
    exact .inr (.inl ⟨loaded, _, rfl, accepted, intent ▸ calls.1⟩)
  · obtain ⟨accepted, calls, -⟩ := sound
    exact .inr (.inr ⟨app, decision, rest, rfl, accepted, calls.1⟩)

theorem sound_building (request : BuildRequest) (read : HistoryRead) :
    (Phase.building (build core request)).Sound core read :=
  ⟨build_calls request, build_concludes request read⟩

theorem Sound.decide {read : HistoryRead} {app : App T}
    (sound : (Phase.waiting app).Sound core read) (decision : UserDecision) :
    (Phase.deciding app decision (app.applyAndPersist core decision)).Sound core read :=
  ⟨sound, App.applyAndPersist_calls app decision,
    App.applyAndPersist_shows app decision read⟩

end Phase

namespace System

variable {core : Core T} {handler : Handler storeInterface σ} {observe : σ → StoreView}

/-- Every session is in a sound phase. -/
def Sound (core : Core T) (system : System σ T) : Prop :=
  ∀ index, (system.sessions index).phase.Sound core (system.sessions index).read

theorem sound_quiet (store : σ) : (quiet observe store : System σ T).Sound core :=
  fun _ => trivial

theorem Sound.setSession {system : System σ T} (sound : system.Sound core) {index : Nat}
    {session : ShellSession T} (phase : session.phase.Sound core session.read) :
    (system.setSession index session).Sound core := by
  intro other
  by_cases same : other = index
  · subst same
    simpa [System.setSession] using phase
  · simpa [System.setSession, same] using sound other

theorem Sound.step {system next : System σ T} {event : SystemEvent}
    (sound : system.Sound core)
    (taken : (machine core handler observe).step system event = some next) :
    next.Sound core := by
  cases event with
  | start index request =>
      simp only [machine, System.step] at taken
      split at taken
      · obtain rfl := Option.some.inj taken
        exact sound.setSession (Phase.sound_building request none).settle
      · cases taken
  | call index =>
      simp only [machine, System.step] at taken
      split at taken
      · cases taken
      next request resume isPending =>
        obtain rfl := Option.some.inj taken
        have stored : (system.setStore observe
            (handler request system.store).2).Sound core := sound
        exact stored.setSession ((sound index).resume isPending _).settle
  | decide index decision =>
      simp only [machine, System.step] at taken
      split at taken
      next app isWaiting =>
        obtain rfl := Option.some.inj taken
        have waiting := sound index
        rw [isWaiting] at waiting
        exact sound.setSession (waiting.decide decision).settle
      · cases taken
  | stop index =>
      obtain rfl := Option.some.inj taken
      exact sound.setSession trivial

/-! ### Sessions on files -/

/-- The system on the view that the files denote. -/
def onView (libs : StoreLibs) (root : StoreRoot) (system : System Disk T) :
    System StoreView T :=
  { system with store := root.view libs system.store }

variable {libs : StoreLibs} {root : StoreRoot}

theorem valid_step (lawful : libs.Lawful) {system next : System Disk T}
    {event : SystemEvent} (valid : root.ValidFiles libs system.store)
    (taken : (machine core (fileHandler libs root) (root.view libs)).step system event =
      some next) : root.ValidFiles libs next.store := by
  rcases step_cases taken with ⟨-, sameStore, -⟩ | ⟨index, request, resume, -, -, store, -⟩
  · rwa [sameStore]
  · rw [store]
    exact (fileHandler_view lawful request valid).2.1

/-- A step on valid files is the step on the view they denote. -/
theorem step_onView (lawful : libs.Lawful) (system : System Disk T) (event : SystemEvent)
    (valid : root.ValidFiles libs system.store) :
    (machine core viewHandler id).step (system.onView libs root) event =
      ((machine core (fileHandler libs root) (root.view libs)).step system event).map
        (·.onView libs root) := by
  cases event with
  | start index request =>
      simp only [machine, System.step, onView]
      cases (system.sessions index).phase <;> rfl
  | call index =>
      simp only [machine, System.step, onView]
      cases isPending : (system.sessions index).phase.pending with
      | none => rfl
      | some call =>
          obtain ⟨request, resume⟩ := call
          obtain ⟨sameReply, -, sameView⟩ := fileHandler_view lawful request valid
          simp only [Option.map_some, System.setSession, System.setStore, ← sameReply,
            ← sameView, id_eq]
  | decide index decision =>
      simp only [machine, System.step, onView]
      cases (system.sessions index).phase <;> rfl
  | stop index => rfl

/-- A step property of the sessions on valid files holds along a run exactly if it
holds along the run on the view. -/
theorem along_onView (lawful : libs.Lawful)
    (property : (σ : Type) → (σ → StoreView) → System σ T → SystemEvent → System σ T → Prop)
    (same : ∀ (system next : System Disk T) event,
      property StoreView id (system.onView libs root) event (next.onView libs root) ↔
        property Disk (root.view libs) system event next)
    {disk : Disk} (valid : root.ValidFiles libs disk) (events : List SystemEvent) :
    (machine core viewHandler id).Along (property StoreView id)
        (quiet id (root.view libs disk)) events ↔
      (machine core (fileHandler libs root) (root.view libs)).Along
        (property Disk (root.view libs)) (quiet (root.view libs) disk) events := by
  have start : (quiet (root.view libs) disk : System Disk T).onView libs root =
      quiet id (root.view libs disk) := rfl
  rw [← start]
  exact StateMachine.along_map (fun system => root.ValidFiles libs system.store)
    (onView libs root) (fun system event valid => step_onView lawful system event valid)
    (fun _ _ _ valid taken => valid_step lawful valid taken)
    (fun system event next => same system next event) valid events

end System

end EntangledClient
