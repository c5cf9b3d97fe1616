import EntangledClient.TrustTrace

/-!
# The diagnostics of the trust family

Each event at a site surfaces at most one diagnostic, which is informational exactly if the event
changes what the site retains.  The diagnostics of a site, with the keys that they are about,
determine the identity and the replaced keys that its file holds after any sequence of sessions.
-/

namespace EntangledClient

/-- The informational codes; the others are errors. -/
def DiagnosticCode.Informs : DiagnosticCode → Prop
  | .iTrustFirstContact | .iTrustTofuPinned | .iTrustVerified => True
  | .eTrustUserRejected | .eTrustMismatch => False

/-- A diagnostic, and the presented key that it is about. -/
structure Notice where
  key : PublisherPubkey
  code : DiagnosticCode
  deriving DecidableEq

/-- What a site retains after a notice, by what it retained before. -/
def Notice.replay (retained : Option RetainedSite) (notice : Notice) : Option RetainedSite :=
  match notice.code, retained with
  | .eTrustMismatch, _ | .eTrustUserRejected, _ => retained
  | .iTrustFirstContact, none => some ⟨⟨notice.key, .observed⟩, []⟩
  | .iTrustFirstContact, some site =>
      some ⟨⟨notice.key, .pinned⟩, site.identity.pubkey :: site.replaced⟩
  | .iTrustTofuPinned, _ => some ⟨⟨notice.key, .pinned⟩, replacedAt retained⟩
  | .iTrustVerified, none => some ⟨⟨notice.key, .externallyVerified⟩, []⟩
  | .iTrustVerified, some site =>
      some {
        identity := ⟨notice.key, .externallyVerified⟩
        replaced :=
          if site.identity.pubkey = notice.key then site.replaced
          else site.identity.pubkey :: site.replaced }

namespace SiteEvent

def presented : SiteEvent → PublisherPubkey
  | .visit key => key
  | .decision key _ => key

/-- A visit resolves without a decision. -/
def decided : SiteEvent → UserDecision
  | .visit _ => .none
  | .decision _ given => given

/-- The resolution of an event against what its site retains. -/
def resolution (event : SiteEvent) (retained : Option RetainedSite) : Resolution :=
  resolve event.presented (retained.map (·.identity)) event.decided

/-- What the site retains after an event. -/
def next (retained : Option RetainedSite) (event : SiteEvent) : Option RetainedSite :=
  (event.resolution retained).intent.applyTo retained

/-- The diagnostic that an event surfaces. -/
def surfaced (event : SiteEvent) (retained : Option RetainedSite) : Option Notice :=
  (trustDiagnostic (event.resolution retained) event.decided).map (⟨event.presented, ·⟩)

/-- The notices of the events of a site, oldest first. -/
def notices : Option RetainedSite → List SiteEvent → List Notice
  | _, [] => []
  | retained, event :: events =>
      (event.surfaced retained).toList ++ notices (event.next retained) events

/-! ### One event -/

/-- The notice of an event says what the site retains after it. -/
theorem next_eq_replay (event : SiteEvent) (retained : Option RetainedSite) :
    event.next retained = (event.surfaced retained).toList.foldl Notice.replay retained := by
  unfold next surfaced resolution
  generalize event.presented = presented, event.decided = decision
  cases retained with
  | none => cases decision <;> rfl
  | some site =>
      obtain ⟨⟨key, provenance⟩, replaced⟩ := site
      by_cases same : key = presented
      · subst same
        have isMatched : resolve key (some ⟨key, provenance⟩) decision =
            matched key ⟨key, provenance⟩ decision := resolve_matched rfl decision
        simp only [Option.map_some, isMatched]
        cases decision <;> cases provenance <;>
          simp [matched, trustDiagnostic, Notice.replay, PersistenceIntent.applyTo, replacedAt]
      · have isMismatch : resolve presented (some ⟨key, provenance⟩) decision =
            mismatch presented ⟨key, provenance⟩ decision := resolve_mismatch same decision
        simp only [Option.map_some, isMismatch]
        cases decision <;>
          simp [mismatch, trustDiagnostic, Notice.replay, PersistenceIntent.applyTo, replacedAt,
            same]

/-- An event surfaces an informational notice exactly if it changes what the site retains. -/
theorem informs_iff_changes (event : SiteEvent) (retained : Option RetainedSite) :
    (∃ notice ∈ event.surfaced retained, notice.code.Informs) ↔
      event.next retained ≠ retained := by
  unfold next surfaced resolution
  generalize event.presented = presented, event.decided = decision
  cases retained with
  | none => cases decision <;> simp [firstContact, trustDiagnostic, PersistenceIntent.applyTo,
      DiagnosticCode.Informs]
  | some site =>
      obtain ⟨⟨key, provenance⟩, replaced⟩ := site
      by_cases same : key = presented
      · subst same
        have isMatched : resolve key (some ⟨key, provenance⟩) decision =
            matched key ⟨key, provenance⟩ decision := resolve_matched rfl decision
        simp only [Option.map_some, isMatched]
        cases decision <;> cases provenance <;>
          simp [matched, trustDiagnostic, DiagnosticCode.Informs, PersistenceIntent.applyTo,
            replacedAt]
      · have isMismatch : resolve presented (some ⟨key, provenance⟩) decision =
            mismatch presented ⟨key, provenance⟩ decision := resolve_mismatch same decision
        simp only [Option.map_some, isMismatch]
        cases decision <;>
          simp [mismatch, trustDiagnostic, DiagnosticCode.Informs, PersistenceIntent.applyTo,
            replacedAt, Ne.symm same]

/-- The notices of events say what the site retains after them. -/
theorem foldl_next (events : List SiteEvent) (retained : Option RetainedSite) :
    events.foldl next retained = (notices retained events).foldl Notice.replay retained := by
  induction events generalizing retained with
  | nil => rfl
  | cons event events ih =>
      rw [List.foldl_cons, notices, List.foldl_append, ← next_eq_replay, ih]

end SiteEvent

/-! ### The sessions of a shell -/

section Sessions

variable {T : CoreTypes}

/-- Decisions act on their site as its events do. -/
theorem decide_next (decisions : List UserDecision) (view : StoreView) (loaded : Loaded T) :
    (decisions.foldl (fun current decision => current.decide loaded decision) view).sites
        loaded.site =
      (decisions.map (SiteEvent.decision loaded.publisher)).foldl SiteEvent.next
        (view.sites loaded.site) := by
  induction decisions generalizing view with
  | nil => rfl
  | cons decision decisions ih =>
      have stepped : (view.decide loaded decision).sites loaded.site =
          SiteEvent.next (view.sites loaded.site) (.decision loaded.publisher decision) := by
        rw [StoreView.decide, StoreView.sites_persist, StoreView.sites_apply_same]
        rfl
      rw [List.foldl_cons, ih, stepped]
      rfl

/-- A visit acts on every site as its events there do. -/
theorem visit_next {view : StoreView} {loaded : Loaded T}
    (initial : loaded.initialIntent =
      (resolve loaded.publisher (view.identity loaded.site) .none).intent)
    (decisions : List UserDecision) (site : OnionAddress) :
    (view.visit loaded decisions).sites site =
      (Visit.eventsAt ⟨loaded, decisions⟩ site).foldl SiteEvent.next (view.sites site) := by
  by_cases here : loaded.site = site
  · subst here
    have opened : (view.persist loaded loaded.initialIntent).sites loaded.site =
        SiteEvent.next (view.sites loaded.site) (.visit loaded.publisher) := by
      rw [StoreView.sites_persist, StoreView.sites_apply_same, initial]
      rfl
    rw [StoreView.visit, decide_next, opened]
    simp [Visit.eventsAt, Visit.events]
  · rw [StoreView.visit, decide_sites_other decisions _ (Ne.symm here), StoreView.sites_persist,
      StoreView.sites_apply_other _ (Ne.symm here)]
    simp [Visit.eventsAt, here]

/-- Every site retains what its events made of what it retained at first. -/
def Retraces (first view : StoreView) (visits : List (Visit T)) : Prop :=
  ∀ site, view.sites site = (siteTrace visits site).foldl SiteEvent.next (first.sites site)

theorem Retraces.runAll (core : Core T) {first : StoreView} {shell : Shell StoreView T}
    (retraces : Retraces first shell.store shell.visits) (scripts : List SessionScript) :
    Retraces first (shell.runAll core viewHandler scripts).store
      (shell.runAll core viewHandler scripts).visits := by
  refine StateMachine.invariant_run (fun shell => Retraces first shell.store shell.visits) ?_
    retraces (Shell.run_machine shell scripts)
  intro before script after held taken
  obtain rfl := Option.some.inj taken
  rw [Shell.runSession_view]
  cases built : before.store.build core script.request with
  | error message => exact held
  | ok loaded =>
      obtain ⟨snapshot, manifest, publisher, from_, -⟩ := StoreView.build_eq_ok built
      intro site
      rw [visit_next (snapshot ▸ from_.initialIntent), siteTrace_append, List.foldl_append,
        held site]

/-- After any sequence of sessions on valid files, the identity and the replaced keys that a site
retains are those that its diagnostics say; and at every event of the site, what it retains changes
exactly if the event surfaces an informational one. -/
theorem diagnostics_say_what_is_retained {libs : StoreLibs} (lawful : libs.Lawful)
    (root : StoreRoot) (core : Core T) {disk : Disk} (valid : root.ValidFiles libs disk)
    (scripts : List SessionScript) (site : OnionAddress) :
    let shell := (Shell.fresh disk).runAll core (fileHandler libs root) scripts
    let first := (root.view libs disk).sites site
    let events := siteTrace shell.visits site
    let kept := (SiteEvent.notices first events).foldl Notice.replay first
    (fileHandler libs root (.loadIdentity site) shell.store).1 = .ok (kept.map (·.identity)) ∧
      FileIdentityStore.replacedKeys libs root shell.store site = .ok (replacedAt kept) ∧
      ∀ earlier event later, events = earlier ++ event :: later →
        let found := earlier.foldl SiteEvent.next first
        (∃ notice ∈ event.surfaced found, notice.code.Informs) ↔ event.next found ≠ found := by
  intro shell first events kept
  have startValid : root.ValidFiles libs (Shell.fresh disk : Shell Disk T).store := valid
  obtain ⟨validAfter, sameRun⟩ := Shell.runAll_files core lawful startValid scripts
  have start : Retraces (root.view libs disk)
      ((Shell.fresh disk).onView libs root : Shell StoreView T).store
      (Shell.fresh disk : Shell Disk T).visits := fun _ => rfl
  have retraces := Retraces.runAll core start scripts
  rw [← sameRun] at retraces
  have isKept : (root.view libs shell.store).sites site = kept := by
    refine (retraces site).trans ?_
    exact SiteEvent.foldl_next events first
  refine ⟨?_, ?_, fun earlier event later _ => event.informs_iff_changes _⟩
  · rw [(fileHandler_view lawful (.loadIdentity site) validAfter).1]
    have identity : (root.view libs shell.store).identity site = kept.map (·.identity) :=
      congrArg (Option.map RetainedSite.identity) isKept
    exact congrArg Except.ok identity
  · rw [FileIdentityStore.replacedKeys_view validAfter, isKept]

end Sessions

theorem replacing_notices :
    SiteEvent.notices none [.visit (seedKey 1), .decision (seedKey 1) .pinFirstContact,
        .visit (seedKey 2), .decision (seedKey 2) .confirmPip] =
      [⟨seedKey 1, .iTrustFirstContact⟩, ⟨seedKey 1, .iTrustTofuPinned⟩,
        ⟨seedKey 2, .eTrustMismatch⟩, ⟨seedKey 2, .iTrustVerified⟩] := by
  rfl

/-- The second key is verified in place of the first one, which was pinned. -/
theorem diagnostics_say_what_is_retained_replacing :
    (fileHandler SampleLibs.libs SampleLibs.root (.loadIdentity ⟨"zero.onion"⟩)
      ((Shell.fresh SampleLibs.emptyDisk).runAll SampleCore.core
        (fileHandler SampleLibs.libs SampleLibs.root) replacingScripts).store).1 =
      .ok (some ⟨seedKey 2, .externallyVerified⟩) := by
  obtain ⟨retained, -⟩ := diagnostics_say_what_is_retained SampleLibs.lawful SampleLibs.root
    SampleCore.core SampleLibs.emptyDisk_valid replacingScripts ⟨"zero.onion"⟩
  have nothing : (SampleLibs.root.view SampleLibs.libs SampleLibs.emptyDisk).sites
      ⟨"zero.onion"⟩ = none := rfl
  rw [Shell.visits_files SampleLibs.lawful SampleLibs.emptyDisk_valid, replacing_trace, nothing,
    replacing_notices] at retained
  exact retained

end EntangledClient
