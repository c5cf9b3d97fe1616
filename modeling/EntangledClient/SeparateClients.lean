import EntangledClient.SharedClients
import EntangledClient.WindowCalls

/-!
# Clients that do not meet

Viewers of different sites and publishers share a directory without noticing each other: in every
order of their file calls, and whatever calls of the others fail, a viewer none of whose calls
fails returns what it returns alone, and leaves its records as it leaves them alone.
-/

namespace EntangledClient

open CallTree

/-! ### What calls are about -/

/-- Some sites and some publishers. -/
structure Footprint where
  sites : Set OnionAddress
  publishers : Set PublisherPubkey

namespace Footprint

/-- A call about one of the sites or publishers. -/
def Covers (footprint : Footprint) : StoreCall → Prop
  | .loadIdentity site | .apply site _ => site ∈ footprint.sites
  | .loadHistory publisher | .appendRecord publisher _ => publisher ∈ footprint.publishers

/-- Nothing in common. -/
structure Apart (first second : Footprint) : Prop where
  sites : ∀ site ∈ first.sites, site ∉ second.sites
  publishers : ∀ publisher ∈ first.publishers, publisher ∉ second.publishers

/-- Two views say the same about the sites and the publishers. -/
structure Agree (footprint : Footprint) (first second : StoreView) : Prop where
  sites : ∀ site ∈ footprint.sites, first.sites site = second.sites site
  histories : ∀ publisher ∈ footprint.publishers,
    first.histories publisher = second.histories publisher

variable {footprint : Footprint}

theorem Agree.refl (view : StoreView) : footprint.Agree view view where
  sites _ _ := rfl
  histories _ _ := rfl

theorem Agree.trans {first second third : StoreView} (earlier : footprint.Agree first second)
    (later : footprint.Agree second third) : footprint.Agree first third where
  sites site member := (earlier.sites site member).trans (later.sites site member)
  histories publisher member :=
    (earlier.histories publisher member).trans (later.histories publisher member)

/-- A call about something else is not noticed. -/
theorem Agree.commit_other {other : Footprint} (apart : footprint.Apart other)
    {request : StoreCall} (covered : other.Covers request) (snapshot current : StoreView) :
    footprint.Agree (request.commit snapshot current) current where
  sites := by
    intro site member
    rcases StoreCall.sites_commit request snapshot current site with same | ⟨intent, rfl, -, -⟩
    · exact same
    · exact (apart.sites site member covered).elim
  histories := by
    intro publisher member
    rcases StoreCall.histories_commit request snapshot current publisher with
      same | ⟨record, rfl, -⟩
    · exact same
    · exact (apart.publishers publisher member covered).elim

/-- A call is answered alike in views that agree. -/
theorem Agree.reply {request : StoreCall} (covered : footprint.Covers request)
    {first second : StoreView} (agree : footprint.Agree first second) :
    (viewHandler request first).1 = (viewHandler request second).1 := by
  cases request with
  | loadIdentity site =>
      simp only [viewHandler, StoreView.identity, agree.sites site covered]
  | loadHistory publisher => simp only [viewHandler, agree.histories publisher covered]
  | apply site intent | appendRecord publisher record => rfl

/-- A call on views that agree with a third leaves what it leaves on the third. -/
theorem Agree.commit {request : StoreCall} (covered : footprint.Covers request)
    {snapshot current view : StoreView} (fromSnapshot : footprint.Agree snapshot view)
    (fromCurrent : footprint.Agree current view) :
    footprint.Agree (request.commit snapshot current) (viewHandler request view).2 := by
  rw [← request.commit_self view]
  cases request with
  | loadIdentity site | loadHistory publisher => exact fromCurrent
  | apply site intent =>
      have sameSite := fromSnapshot.sites site covered
      by_cases rewrites : intent.rewrites (view.sites site) = true
      · have notEmpty : intent ≠ .none := by
          rintro rfl
          cases rewrites
        simp only [StoreCall.commit, StoreCall.rewrites, sameSite, rewrites, if_true,
          StoreCall.recordPath, if_neg notEmpty, StoreView.withRecord, viewHandler,
          StoreView.sites_apply_same]
        refine ⟨fun other member => ?_, fromCurrent.histories⟩
        by_cases same : other = site
        · simp [same]
        · simpa [same] using fromCurrent.sites other member
      · simpa [StoreCall.commit, StoreCall.rewrites, sameSite, rewrites] using fromCurrent
  | appendRecord publisher record =>
      simp only [StoreCall.commit, StoreCall.rewrites, if_true, StoreCall.recordPath,
        StoreView.withRecord, viewHandler, StoreView.histories_appendRecord_same,
        fromSnapshot.histories publisher covered]
      refine ⟨fromCurrent.sites, fun other member => ?_⟩
      by_cases same : other = publisher
      · simp [same]
      · simpa [same] using fromCurrent.histories other member

end Footprint

/-- Clients of footprints that have nothing in common do not notice each other. -/
theorem viewSplit_apart {ι : Type} {footprints : ι → Footprint}
    (apart : ∀ index other, index ≠ other → (footprints index).Apart (footprints other)) :
    SnapshotThreads.Apart viewSplit (fun index => (footprints index).Covers)
      (fun index => (footprints index).Agree) where
  refl _ _ := .refl _
  trans _ _ _ _ earlier later := earlier.trans later
  replies _ _ _ _ covered agree := agree.reply covered
  changes _ _ _ _ _ covered fromSnapshot fromCurrent := .commit covered fromSnapshot fromCurrent
  spares _ _ _ _ _ different covered := .commit_other (apart _ _ different) covered _ _

/-! ### Viewers -/

section Viewers

variable {T : CoreTypes}

/-- The site of a request and the publishers that it names. -/
def BuildRequest.footprint (core : Core T) (request : BuildRequest) : Footprint where
  sites := {site | request.Visits core site}
  publishers := {publisher | request.Concerns core publisher}

variable {core : Core T} {nodes : T.Scene → List SceneNode}

/-- A viewer calls the stores about its request's site and publishers only. -/
theorem viewer_covered (request : BuildRequest) (inputs : List FrameInput) :
    (ShellApp.viewer core nodes request inputs).CallsWithin (request.footprint core).Covers := by
  have window : WindowFits core (fun _ _ => True) (request.footprint core).Covers (fun _ => True)
      fun loaded => request.Visits core loaded.site ∧ request.Concerns core loaded.publisher := {
    loads := fun _ fits => fits.1
    applies := fun _ _ fits _ => fits.1
    appends := fun _ _ _ fits _ _ _ => fits.2
    reloads := fun _ _ fits _ => fits
    decided := fun _ _ fits => fits
    opens := trivial }
  refine (ShellApp.viewer_meets window (fun _ visits => visits) (fun _ concerns => concerns)
    (fun _ _ _ _ => trivial) ?_).callsWithin fun _ _ => trivial
  rintro loaded ⟨named, history, verified, presents, -, publisher, -⟩ -
  obtain ⟨manifestBytes, contentBytes, scene, isInputs, -, accepted, -⟩ := presents
  have parsed := (verifyManifest_accept accepted).1
  exact ⟨⟨manifestBytes, contentBytes, isInputs⟩, manifestBytes, contentBytes, loaded.site,
    isInputs, .inr ⟨verified.manifest, parsed, publisher.symm⟩⟩

variable {libs : StoreLibs} {opening : StoreOpen} {root : StoreRoot} {ι : Type} [DecidableEq ι]

/-- In every run of viewers with footprints apart, on an initialised store, a viewer that has
returned and none of whose calls failed returned what it returns alone, and the store holds of
its site and its publishers what it leaves there alone. -/
theorem separate_viewers (lawful : libs.Lawful) {disk : Disk} {view : StoreView}
    (opened : opening.Opened libs root disk view) (core : Core T)
    (nodes : T.Scene → List SceneNode) (requests : ι → BuildRequest)
    (inputs : ι → List FrameInput)
    (apart : ∀ index other, index ≠ other →
      ((requests index).footprint core).Apart ((requests other).footprint core))
    {turns : List (CallTurn ι Failure)}
    {last : Threads fileInterface ι (ReadDisk ι)
      (Except Failure (Except String (ShellApp T × List FrameOutput)))}
    (ran : (Threads.turns ReadDisk.handler).run (clients libs opening
      (fun index => ShellApp.viewer core nodes (requests index) (inputs index)) disk) turns =
        some last)
    {index : ι} (answered : ∀ failure, .failed index failure ∉ turns)
    {result : Except Failure (Except Failure (Except String (ShellApp T × List FrameOutput)))}
    (isReturned : last.programs index = .ret result) :
    ∃ outcome after alone, result = .ok outcome ∧
      (ShellApp.viewer core nodes (requests index) (inputs index)).run viewHandler view =
        (outcome, alone) ∧
      opening.Opened libs root last.state.disk after ∧
      ((requests index).footprint core).Agree after alone := by
  obtain ⟨events, after, ranShared, openedAfter, fails, -, returns⟩ :=
    clients_simulated lawful opened ran
  have notFailed : ∀ error, .fail index error ∉ events := by
    intro error member
    have isFailed : (index, error) ∈ events.filterMap SnapshotStep.failedCall :=
      List.mem_filterMap.mpr ⟨_, member, rfl⟩
    exact answered error (CallTurn.mem_failedCalls.mp (fails.subset isFailed))
  have start : SnapshotThreads.Alone viewSplit
      (fun other => ((requests other).footprint core).Agree) index
      (ShellApp.viewer core nodes (requests index) (inputs index)) view
      (.start view fun other => ShellApp.viewer core nodes (requests other) (inputs other)) := by
    refine ⟨view, .refl view, fun snapshot member => ?_, rfl⟩
    cases member
  obtain ⟨alone, agree, -, ranAlone⟩ := SnapshotThreads.run_alone (viewSplit_apart apart)
    (fun other => viewer_covered (requests other) (inputs other))
    start notFailed ranShared
  have returned := returns index result isReturned
  rcases result with failure | outcome
  · obtain ⟨error, inTurns⟩ := returned
    exact (answered error inTurns).elim
  · exact ⟨outcome, after.state, alone, rfl, ranAlone.symm.trans (returned alone), openedAfter,
      agree⟩

end Viewers

namespace SampleCore

theorem inputs_read (manifest : Manifest) :
    (read manifest).inputs core = .ok (manifest.bytes, some [], siteOf manifest.origin) :=
  rfl

theorem visits_read {manifest : Manifest} {site : OnionAddress}
    (visits : (read manifest).Visits core site) : site = siteOf manifest.origin := by
  obtain ⟨manifestBytes, contentBytes, isInputs⟩ := visits
  rw [inputs_read] at isInputs
  cases isInputs
  rfl

theorem concerns_read {manifest : Manifest} {publisher : PublisherPubkey}
    (concerns : (read manifest).Concerns core publisher) :
    publisher = seedKey manifest.publisher.seed := by
  obtain ⟨manifestBytes, contentBytes, site, isInputs, named⟩ := concerns
  rw [inputs_read] at isInputs
  cases isInputs
  have parsed : core.parseAndVerifyManifest manifest.bytes buildClock.now = .ok manifest := by
    obtain ⟨_ | _, issuedAt, runtime, origin⟩ := manifest <;> rfl
  rcases named with peeked | ⟨other, isOther, rfl⟩
  · exact peekAgrees _ _ _ _ parsed peeked
  · obtain rfl : manifest = other := Except.ok.inj (parsed.symm.trans isOther)
    rfl

/-- Viewers of two publishers at two sites. -/
def twoRequests : Bool → BuildRequest
  | false => read ⟨.alpha, 1, 1, 0⟩
  | true => read ⟨.beta, 1, 1, 1⟩

theorem twoRequests_apart : ∀ index other, index ≠ other →
    ((twoRequests index).footprint core).Apart ((twoRequests other).footprint core) := by
  have apart : ∀ first second : Manifest, siteOf first.origin ≠ siteOf second.origin →
      seedKey first.publisher.seed ≠ seedKey second.publisher.seed →
      ((read first).footprint core).Apart ((read second).footprint core) := by
    intro first second sites publishers
    refine ⟨fun site inFirst inSecond => sites ?_,
      fun publisher inFirst inSecond => publishers ?_⟩
    · rw [← visits_read inFirst, visits_read inSecond]
    · rw [← concerns_read inFirst, concerns_read inSecond]
  have zeroOne := apart ⟨.alpha, 1, 1, 0⟩ ⟨.beta, 1, 1, 1⟩ (by decide) (by decide)
  have oneZero := apart ⟨.beta, 1, 1, 1⟩ ⟨.alpha, 1, 1, 0⟩ (by decide) (by decide)
  rintro (_ | _) (_ | _) different
  · exact (different rfl).elim
  · exact zeroOne
  · exact oneZero
  · exact (different rfl).elim

/-- Both viewers come as far as their first write, and that of the second one fails. -/
def twoTurns : List (CallTurn Bool Failure) :=
  (List.replicate 6 [.answered false, .answered true]).flatten ++
    [.failed true SampleLibs.noSpaceLeft]

theorem twoViewers_run :
    ∃ last, (Threads.turns ReadDisk.handler).run
      (clients SampleLibs.libs .integrity (fun index => ShellApp.viewer core linkNodes
        (twoRequests index) [clicks [.pinIdentity]]) SampleLibs.keyedDisk) twoTurns =
        some last :=
  ⟨_, rfl⟩

/-- The first viewer goes on alone. -/
theorem twoViewers_return :
    ∃ count last result, (Threads.turns ReadDisk.handler).run
      (clients SampleLibs.libs .integrity (fun index => ShellApp.viewer core linkNodes
        (twoRequests index) [clicks [.pinIdentity]]) SampleLibs.keyedDisk)
        (twoTurns ++ List.replicate count (.answered false)) = some last ∧
        last.programs false = .ret result := by
  obtain ⟨between, ran⟩ := twoViewers_run
  obtain ⟨count, last, result, rest, isReturned⟩ :=
    Threads.turns_return ReadDisk.handler between false
  exact ⟨count, last, result, (StateMachine.run_append _ ran _).trans rest, isReturned⟩

theorem separate_viewers_pinning :
    ∃ count last result outcome after alone, (Threads.turns ReadDisk.handler).run
      (clients SampleLibs.libs .integrity (fun index => ShellApp.viewer core linkNodes
        (twoRequests index) [clicks [.pinIdentity]]) SampleLibs.keyedDisk)
        (twoTurns ++ List.replicate count (.answered false)) = some last ∧
      last.programs false = .ret result ∧ result = .ok outcome ∧
      (ShellApp.viewer core linkNodes (twoRequests false) [clicks [.pinIdentity]]).run viewHandler
        .empty = (outcome, alone) ∧
      StoreOpen.integrity.Opened SampleLibs.libs SampleLibs.root last.state.disk after ∧
      ((twoRequests false).footprint core).Agree after alone := by
  obtain ⟨count, last, result, ran, isReturned⟩ := twoViewers_return
  have answered : ∀ failure, .failed false failure ∉
      twoTurns ++ List.replicate count (.answered false) := by
    intro failure member
    rcases List.mem_append.mp member with early | late
    · simp [twoTurns, List.replicate] at early
    · simp at late
  obtain ⟨outcome, after, alone, isOk, ranAlone, opened, agree⟩ := separate_viewers
    SampleLibs.lawful SampleLibs.keyedDisk_opened core linkNodes twoRequests
    (fun _ => [clicks [.pinIdentity]]) twoRequests_apart ran answered isReturned
  exact ⟨count, last, result, outcome, after, alone, ran, isReturned, isOk, ranAlone, opened,
    agree⟩

end SampleCore

end EntangledClient
