import EntangledClient.FailingWindow
import EntangledClient.SampleSessions

/-!
# What the window shows and what the files back

The file-backed stores keep what a site retains, whatever the other files hold.
So a window on files shows what is retained, at its opening and after every
decision, unless an elevation was not stored or not read back.
-/

namespace EntangledClient

open CallTree ExceptRules

variable {T : CoreTypes}

/-! ### Windows on files -/

section Files

variable {core : Core T} {libs : StoreLibs} {root : StoreRoot}

/-- What the file of a site says is retained. -/
def StoreRoot.Retains (libs : StoreLibs) (root : StoreRoot) (site : OnionAddress) (disk : Disk)
    (retained : Option RetainedSite) : Prop :=
  root.siteFile libs (disk.files (.identity site)) = .ok retained

theorem keepsSites_files (lawful : libs.Lawful) (root : StoreRoot) :
    KeepsSites (fileHandler libs root) (root.Retains libs) where
  loadIdentity := by
    intro site disk retained held
    refine (FileIdentityStore.run_loadIdentity_file site disk).trans ?_
    rw [show root.siteFile libs (disk.files (.identity site)) = .ok retained from held]
    rfl
  apply := by
    intro site disk retained held intent
    obtain ⟨file, after, run, files, denoted⟩ :=
      FileIdentityStore.run_apply lawful held intent
    refine ⟨after, run, ?_⟩
    rw [StoreRoot.Retains, files, Function.update_self]
    exact denoted
  appendRecord := by
    intro site disk retained held publisher record
    have same := @FileHistoryStore.appendRecord_identity libs root publisher record disk site
    exact (congrArg (root.siteFile libs) same).trans held

/-- The same, among files that are all valid. -/
def StoreRoot.RetainsValid (libs : StoreLibs) (root : StoreRoot) (site : OnionAddress)
    (disk : Disk) (retained : Option RetainedSite) : Prop :=
  root.ValidFiles libs disk ∧ root.Retains libs site disk retained

theorem keepsSites_valid (lawful : libs.Lawful) (root : StoreRoot) :
    KeepsSites (fileHandler libs root) (root.RetainsValid libs) where
  loadIdentity := fun held => (keepsSites_files lawful root).loadIdentity held.2
  apply := by
    rintro site disk retained ⟨valid, held⟩ intent
    obtain ⟨after, ran, written⟩ := (keepsSites_files lawful root).apply held intent
    have stillValid := (fileHandler_view lawful (.apply site intent) valid).2.1
    rw [ran] at stillValid
    exact ⟨after, ran, stillValid, written⟩
  appendRecord := fun ⟨valid, held⟩ publisher record =>
    ⟨(fileHandler_view lawful (.appendRecord publisher record) valid).2.1,
      (keepsSites_files lawful root).appendRecord held publisher record⟩

theorem appendsReturn_valid (lawful : libs.Lawful) (root : StoreRoot) :
    AppendsReturn (fileHandler libs root) (root.RetainsValid libs) := by
  rintro site disk retained ⟨valid, _⟩ publisher record message panics
  have answered := (fileHandler_view lawful (.appendRecord publisher record) valid).1
  cases panics.symm.trans answered

/-- Among valid files every decision is taken. -/
theorem Window.step_valid (core : Core T) (lawful : libs.Lawful) {window : Window Disk T}
    {retained : Option RetainedSite}
    (held : root.RetainsValid libs window.app.loaded.site window.store retained)
    (event : DecisionEvent) :
    ∃ after, root.RetainsValid libs window.app.loaded.site after (window.written event retained) ∧
      (Window.machine core (fileHandler libs root)).step window event =
        some ⟨window.decided core event (window.written event retained), after⟩ := by
  obtain ⟨after, written, stepped | ⟨_, panics⟩⟩ :=
    Window.step_keeps core (keepsSites_valid lawful root) held event
  · exact ⟨after, written, stepped⟩
  · exact absurd (appendsReturn_valid lawful root) panics

/-- A document that was built from files holds what the file of its site retains. -/
theorem build_run_files {request : BuildRequest} {disk built : Disk} {loaded : Loaded T}
    (loads : (build core request).run (fileHandler libs root) disk = (.ok (.ok loaded), built)) :
    built = disk ∧ request.Names core loaded.publisher loaded.site ∧
    ∃ retained history manifest, root.Retains libs loaded.site disk retained ∧
      loaded.retained = retained.map (·.identity) ∧ LoadedFrom core history loaded manifest := by
  obtain ⟨names, found, between, publisher, history, manifest, loadsSite, loadsHistory,
    snapshot, from_⟩ := build_run_ok loads
  have ofSite := (FileIdentityStore.run_loadIdentity_file loaded.site disk).symm.trans loadsSite
  have ofHistory :=
    (FileHistoryStore.run_loadHistory_file publisher between).symm.trans loadsHistory
  obtain ⟨isFound, rfl⟩ := Prod.mk.inj ofSite
  obtain ⟨_, rfl⟩ := Prod.mk.inj ofHistory
  cases file : root.siteFile libs (disk.files (.identity loaded.site)) with
  | error failure =>
      rw [file] at isFound
      cases isFound
  | ok retained =>
      rw [file] at isFound
      cases isFound
      exact ⟨rfl, names, retained, history, manifest, file, snapshot, from_⟩

theorem Window.OpenedOn.tracks (lawful : libs.Lawful) {request : BuildRequest} {disk : Disk}
    {window : Window Disk T}
    (opened : window.OpenedOn core (fileHandler libs root) request disk) :
    window.Tracks core (root.Retains libs) request ∧ window.Current (fileHandler libs root) ∧
      window.shown = window.resolved := by
  obtain ⟨loaded, built, errs, loads, opens⟩ := opened
  obtain ⟨rfl, names, retained, history, manifest, held, snapshot, from_⟩ :=
    build_run_files loads
  exact Window.tracks_new (keepsSites_files lawful root) names from_ held snapshot opens

theorem Window.OpenedOn.tracks_valid (lawful : libs.Lawful) {request : BuildRequest}
    {disk : Disk} (valid : root.ValidFiles libs disk) {window : Window Disk T}
    (opened : window.OpenedOn core (fileHandler libs root) request disk) :
    window.Tracks core (root.RetainsValid libs) request := by
  obtain ⟨loaded, built, errs, loads, opens⟩ := opened
  obtain ⟨rfl, names, retained, history, manifest, held, snapshot, from_⟩ :=
    build_run_files loads
  exact (Window.tracks_new (keepsSites_valid lawful root) names from_ ⟨valid, held⟩ snapshot
    opens).1

/-- On valid files a window takes every sequence of decisions. -/
theorem Window.OpenedOn.exists_run (lawful : libs.Lawful) {request : BuildRequest} {disk : Disk}
    (valid : root.ValidFiles libs disk) {window : Window Disk T}
    (opened : window.OpenedOn core (fileHandler libs root) request disk)
    (events : List DecisionEvent) :
    ∃ last, (Window.machine core (fileHandler libs root)).run window events = some last := by
  refine StateMachine.exists_run (Window.Tracks core (root.RetainsValid libs) request)
    (fun window event tracks => ?_) (opened.tracks_valid lawful valid) events
  obtain ⟨retained, held⟩ := tracks.held
  obtain ⟨store, _, stepped⟩ := Window.step_valid core lawful held event
  exact ⟨_, stepped, (tracks.step (keepsSites_valid lawful root) stepped).2⟩

/-- A manifest that loads from valid files can be opened. -/
theorem exists_openedOn (lawful : libs.Lawful) {request : BuildRequest} {disk : Disk}
    (valid : root.ValidFiles libs disk) {loaded : Loaded T}
    (built : (root.view libs disk).build core request = .ok loaded) :
    ∃ window : Window Disk T,
      window.OpenedOn core (fileHandler libs root) request disk ∧
        window.shown = (resolve loaded.publisher
          ((root.view libs disk).identity loaded.site) .none).state := by
  obtain ⟨isSnapshot, _, _, from_, _⟩ := StoreView.build_eq_ok built
  obtain ⟨sameOutcome, -⟩ := run_fileHandler lawful (build core request) valid
  rw [run_build, built] at sameOutcome
  obtain ⟨sameDisk, names, retained, history, manifest, held, -⟩ :=
    build_run_files (Prod.ext sameOutcome rfl)
  obtain ⟨after, -, ran | ⟨-, panics⟩⟩ :=
    App.run_new_erring (fun _ => none) core (keepsSites_valid lawful root) ⟨valid, held⟩
  · refine ⟨⟨_, after⟩, ⟨loaded, disk, fun _ => none, Prod.ext sameOutcome sameDisk, ran⟩, ?_⟩
    rw [← isSnapshot]
    simp only [Window.shown, App.opened_loaded, from_.trustState]
  · exact absurd (appendsReturn_valid lawful root) panics

/-- What a window shows is retained, at its opening and after every decision, whatever
calls fail; on valid files no decision is refused. -/
theorem shown_state_retained (core : Core T) (lawful : libs.Lawful) (root : StoreRoot)
    (request : BuildRequest) {disk : Disk} {window : Window Disk T}
    (opened : window.OpenedOn core (fileHandler libs root) request disk)
    (events : List DecisionEvent) :
    (window.Current (fileHandler libs root) ∧ window.shown = window.resolved ∧
      window.NextShows core (fileHandler libs root) request window.shown) ∧
      (Window.machine core (fileHandler libs root)).Along
        (Window.ShowsRetained core (fileHandler libs root) request) window events ∧
      (root.ValidFiles libs disk →
        ∃ last, (Window.machine core (fileHandler libs root)).run window events =
          some last) := by
  have keeps := keepsSites_files lawful root
  obtain ⟨tracks, current, shown⟩ := opened.tracks lawful
  refine ⟨⟨current, shown, ?_⟩, ?_, fun valid => opened.exists_run lawful valid events⟩
  · rw [shown]
    exact tracks.nextShows keeps current
  · exact StateMachine.along_of_invariant (Window.Tracks core (root.Retains libs) request)
      (fun window event next tracks taken => tracks.step keeps taken) tracks events

end Files

/-! ### What is shown and not retained -/

namespace SampleCore

open SampleLibs

/-- A manifest of `beta`. -/
def betaRequest : BuildRequest :=
  (visit ⟨.beta, 10, 1, 0⟩ []).request

/-- The manifest is accepted on stores without its history. -/
theorem beta_builds {view : StoreView} (fresh : view.histories (seedKey 2) = .new) :
    ∃ loaded, view.build core betaRequest = .ok loaded ∧
      loaded.publisher = seedKey 2 ∧ loaded.site = legacySite := by
  have inputs : betaRequest.inputs core =
      .ok (Manifest.bytes ⟨.beta, 10, 1, 0⟩, none, legacySite) := rfl
  have peeked : peekPublisherPubkey core (Manifest.bytes ⟨.beta, 10, 1, 0⟩) =
      .ok (seedKey 2) := rfl
  simp only [StoreView.build, inputs, ok_bind, peeked, fresh]
  exact ⟨_, rfl, rfl, rfl⟩

/-- A window on the manifest, over a store without its history. -/
theorem beta_opens {disk : Disk} (valid : root.ValidFiles libs disk)
    (fresh : (root.view libs disk).histories (seedKey 2) = .new) :
    ∃ window : Window Disk types,
      window.OpenedOn core (fileHandler libs root) betaRequest disk ∧
        window.shown = (resolve (seedKey 2)
          ((root.view libs disk).identity legacySite) .none).state := by
  obtain ⟨loaded, built, publisher, site⟩ := beta_builds fresh
  have opens := exists_openedOn lawful valid built
  rwa [publisher, site] at opens

/-- A store call that returns `Err`. -/
def ioError : StoreError :=
  ⟨"I/O error"⟩

/-- Only the applies return `Err`. -/
def appliesFail : StoreCall → Option StoreError
  | .apply .. => some ioError
  | _ => none

/-- Only the reloads of the snapshot return `Err`. -/
def reloadsFail : StoreCall → Option StoreError
  | .loadIdentity .. => some ioError
  | _ => none

/-- A visit whose every call fails, and a verification that is not stored. -/
theorem shown_state_retained_failing : ∃ window : Window Disk types,
    window.OpenedOn core (fileHandler libs root) betaRequest emptyDisk ∧
    (window.Current (fileHandler libs root) ∧ window.shown = window.resolved ∧
      window.NextShows core (fileHandler libs root) betaRequest window.shown) ∧
    (Window.machine core (fileHandler libs root)).Along
      (Window.ShowsRetained core (fileHandler libs root) betaRequest) window
      [⟨.none, fun _ => some ioError⟩, ⟨.confirmPip, appliesFail⟩] ∧
    ∃ last, (Window.machine core (fileHandler libs root)).run window
      [⟨.none, fun _ => some ioError⟩, ⟨.confirmPip, appliesFail⟩] = some last := by
  obtain ⟨window, opened, _⟩ := beta_opens emptyDisk_valid rfl
  obtain ⟨atOpening, along, runs⟩ :=
    shown_state_retained core lawful root betaRequest opened
      [⟨.none, fun _ => some ioError⟩, ⟨.confirmPip, appliesFail⟩]
  exact ⟨window, opened, atOpening, along, runs emptyDisk_valid⟩

/-- A replacement is shown as a first contact and retained as a pin. -/
theorem replacement_not_retained : ∃ window after : Window Disk types,
    window.OpenedOn core (fileHandler libs root) betaRequest legacyDisk ∧
    (Window.machine core (fileHandler libs root)).step window
      ⟨.confirmNewIdentity, fun _ => none⟩ = some after ∧
    after.shown = .firstContact ∧ after.resolved = .tofuPinned := by
  have fresh : (root.view libs legacyDisk).histories (seedKey 2) = .new := by
    rw [view_legacyDisk]
    rfl
  have retained : (root.view libs legacyDisk).identity legacySite =
      some ⟨seedKey 1, .pinned⟩ := by
    rw [view_legacyDisk]
    simp [StoreView.identity]
  obtain ⟨window, opened, shown⟩ := beta_opens legacyDisk_valid fresh
  obtain ⟨tracks, current, resolved⟩ := opened.tracks lawful
  -- The pinned key is not the presented one, so the window warns.
  have warned : window.resolved = .changedMismatch := by
    rw [← resolved, shown, retained]
    rfl
  have mismatched : window.Mismatched := (resolve_changedMismatch_iff _ _).mp warned
  obtain ⟨_, held⟩ := (opened.tracks_valid lawful legacyDisk_valid).held
  obtain ⟨store, -, stepped⟩ := Window.step_valid core lawful held
    ⟨.confirmNewIdentity, fun _ => none⟩
  have shows := (tracks.step (keepsSites_files lawful root) stepped).1.replaced current
    fun _ => ⟨rfl, rfl⟩
  exact ⟨window, _, opened, stepped, shows ⟨rfl, mismatched⟩⟩

/-- A verification that could not be stored is shown all the same; one that was stored and
not read back is shown, and forgotten at the next decision. -/
theorem verification_not_retained : ∃ window refused unread after : Window Disk types,
    window.OpenedOn core (fileHandler libs root) betaRequest emptyDisk ∧
    ((Window.machine core (fileHandler libs root)).step window ⟨.confirmPip, appliesFail⟩ =
        some refused ∧
      refused.shown = .externallyVerified ∧ refused.resolved = .firstContact) ∧
    ((Window.machine core (fileHandler libs root)).step window ⟨.confirmPip, reloadsFail⟩ =
        some unread ∧
      unread.shown = .externallyVerified ∧ unread.resolved = .firstContact) ∧
    (Window.machine core (fileHandler libs root)).step unread ⟨.none, fun _ => none⟩ =
        some after ∧
      after.shown = .firstContact ∧ after.resolved = .externallyVerified := by
  obtain ⟨window, opened, shown⟩ := beta_opens emptyDisk_valid rfl
  obtain ⟨_, current, resolved⟩ := opened.tracks lawful
  obtain ⟨retained, held⟩ := (opened.tracks_valid lawful emptyDisk_valid).held
  have isSnapshot := (Window.current_iff (keepsSites_valid lawful root) held).mp current
  have undecided : window.resolved = .firstContact := by
    rw [← resolved, shown]
    rfl
  obtain ⟨_, -, refused⟩ := Window.step_valid core lawful held ⟨.confirmPip, appliesFail⟩
  obtain ⟨disk, stored, unread⟩ := Window.step_valid core lawful held ⟨.confirmPip, reloadsFail⟩
  obtain ⟨replaced, verified⟩ := verified_site isSnapshot undecided
  have isStored : window.written ⟨.confirmPip, reloadsFail⟩ retained =
      some ⟨⟨window.app.loaded.publisher, .externallyVerified⟩, replaced⟩ := verified
  rw [isStored] at stored unread
  obtain ⟨_, -, after⟩ := @Window.step_valid types libs root core lawful
    ⟨window.decided core ⟨.confirmPip, reloadsFail⟩ (some _), disk⟩ _ stored
    ⟨.none, fun _ => none⟩
  refine ⟨window, _, _, _, opened, ⟨refused, resolve_confirmPip _ _, ?_⟩,
    ⟨unread, resolve_confirmPip _ _, undecided⟩, after, undecided, ?_⟩
  · -- What is read back is what the site retained before.
    exact isSnapshot.state_eq.trans undecided
  · -- The decision on the stale snapshot writes nothing over the verification.
    have unwritten := unelevated_site
      (unelevated_none window.app.loaded.publisher window.app.loaded.retained)
      ⟨⟨window.app.loaded.publisher, .externallyVerified⟩, replaced⟩
    have reread := congrArg
      (fun site : Option RetainedSite =>
        (resolve window.app.loaded.publisher (site.map (·.identity)) .none).state) unwritten
    exact reread.trans (resolve_own _ _)

/-- What the window shows need not be retained: after a replacement, and after a
verification that was not stored or not read back. -/
theorem shown_state_not_retained :
    (∃ window after : Window Disk types,
      window.OpenedOn core (fileHandler libs root) betaRequest legacyDisk ∧
      (Window.machine core (fileHandler libs root)).step window
        ⟨.confirmNewIdentity, fun _ => none⟩ = some after ∧
      after.shown = .firstContact ∧ after.resolved = .tofuPinned) ∧
    (∃ window refused unread after : Window Disk types,
      window.OpenedOn core (fileHandler libs root) betaRequest emptyDisk ∧
      ((Window.machine core (fileHandler libs root)).step window ⟨.confirmPip, appliesFail⟩ =
          some refused ∧
        refused.shown = .externallyVerified ∧ refused.resolved = .firstContact) ∧
      ((Window.machine core (fileHandler libs root)).step window ⟨.confirmPip, reloadsFail⟩ =
          some unread ∧
        unread.shown = .externallyVerified ∧ unread.resolved = .firstContact) ∧
      (Window.machine core (fileHandler libs root)).step unread ⟨.none, fun _ => none⟩ =
          some after ∧
        after.shown = .firstContact ∧ after.resolved = .externallyVerified) :=
  ⟨replacement_not_retained, verification_not_retained⟩

end SampleCore

end EntangledClient
