import EntangledClient.FileStoreRefinement
import EntangledClient.SampleSessions

/-!
# The trust trace of a site

What section 10 says of a site depends on its own events alone: the visits that
presented a key, and the decisions taken while one was presented.  The trace
determines the retained key, the keys replaced, and what is known about the
retained key.  The sequential shell keeps exactly that.
-/

namespace EntangledClient

variable {T : CoreTypes}

/-- An event at a site, with the publisher key that was presented. -/
inductive SiteEvent
  | visit (presented : PublisherPubkey)
  | decision (presented : PublisherPubkey) (decision : UserDecision)
  deriving DecidableEq

/-- The time for which a site retains one key. -/
structure Tenure where
  key : PublisherPubkey
  /-- The keys retained before, newest first. -/
  former : List PublisherPubkey
  /-- The confirmation that put the key in place of a former one, if one did. -/
  confirmedBy : Option UserDecision
  /-- The decisions given for the key since it is retained, newest first. -/
  since : List UserDecision
  deriving DecidableEq

namespace Tenure

/-- The tenure after one more event. -/
def after : Option Tenure → SiteEvent → Option Tenure
  | none, .visit presented => some ⟨presented, [], none, []⟩
  | none, .decision _ _ => none
  | some tenure, .visit _ => some tenure
  | some tenure, .decision presented decision =>
      if presented = tenure.key then
        some { tenure with since := decision :: tenure.since }
      else if decision = .confirmNewIdentity ∨ decision = .confirmPip then
        some ⟨presented, tenure.key :: tenure.former, some decision, []⟩
      else some tenure

/-- The tenure after a trace, oldest event first. -/
def ofTrace (trace : List SiteEvent) : Option Tenure :=
  trace.foldl after none

/-- A `ConfirmPip` was given for the key when or after it was retained. -/
def Verified (tenure : Tenure) : Prop :=
  tenure.confirmedBy = some .confirmPip ∨ .confirmPip ∈ tenure.since

/-- The key was pinned, or retained by `ConfirmNewIdentity`. -/
def Pinned (tenure : Tenure) : Prop :=
  tenure.confirmedBy = some .confirmNewIdentity ∨ .pinFirstContact ∈ tenure.since

instance (tenure : Tenure) : Decidable tenure.Verified :=
  inferInstanceAs (Decidable (_ ∨ _))

instance (tenure : Tenure) : Decidable tenure.Pinned :=
  inferInstanceAs (Decidable (_ ∨ _))

/-- The state that a later load shows for a presented key. -/
def shown (tenure : Option Tenure) (presented : PublisherPubkey) : TrustState :=
  match tenure with
  | none => .firstContact
  | some tenure =>
      if presented ≠ tenure.key then .changedMismatch
      else if tenure.Verified then .externallyVerified
      else if tenure.Pinned then .tofuPinned
      else .firstContact

def provenance (tenure : Tenure) : RetainedProvenance :=
  if tenure.Verified then .externallyVerified
  else if tenure.Pinned then .pinned
  else .observed

/-- What a site retains during a tenure. -/
def site (tenure : Tenure) : RetainedSite where
  identity := { pubkey := tenure.key, provenance := tenure.provenance }
  replaced := tenure.former

/-- A load without a decision shows what the trace says. -/
theorem resolve_shown (tenure : Option Tenure) (presented : PublisherPubkey) :
    (resolve presented (tenure.map (·.site.identity)) .none).state =
      shown tenure presented := by
  cases tenure with
  | none => rfl
  | some tenure =>
      by_cases same : tenure.key = presented
      · have retained : tenure.site.identity.pubkey = presented := same
        have matchedState := (matched_none presented tenure.site.identity).1
        rw [Option.map_some, resolve_matched retained, matchedState]
        simp only [shown, same, site, provenance]
        split_ifs <;> simp_all [RetainedProvenance.state]
      · have retained : tenure.site.identity.pubkey ≠ presented := same
        rw [Option.map_some, resolve_mismatch retained]
        simp [shown, mismatch, Ne.symm same]

/-- The load-time intent makes a site retain what a visit does. -/
theorem visit_site (tenure : Option Tenure) (presented : PublisherPubkey) :
    (resolve presented (tenure.map (·.site.identity)) .none).intent.applyTo
        (tenure.map (·.site)) =
      (after tenure (.visit presented)).map (·.site) := by
  cases tenure with
  | none => rfl
  | some tenure =>
      by_cases same : tenure.key = presented
      · have retained : tenure.site.identity.pubkey = presented := same
        have noIntent := (matched_none presented tenure.site.identity).2
        simp only [Option.map_some, resolve_matched retained, noIntent]
        rfl
      · have retained : tenure.site.identity.pubkey ≠ presented := same
        simp only [Option.map_some, resolve_mismatch retained]
        rfl

/-- A decision for the retained key raises its provenance as the trace says. -/
theorem matched_site (tenure : Tenure) (decision : UserDecision) :
    (matched tenure.key tenure.site.identity decision).intent.applyTo (some tenure.site) =
      some ({ tenure with since := decision :: tenure.since } : Tenure).site := by
  cases decision <;> by_cases verified : tenure.Verified <;>
    by_cases pinned : tenure.Pinned <;>
    simp_all [matched, site, provenance, Verified, Pinned, PersistenceIntent.applyTo,
      replacedAt]

/-- A decision in a current window makes a site retain what the trace says. -/
theorem decision_site {tenure : Tenure} (presented : PublisherPubkey)
    (decision : UserDecision) :
    (resolve presented (some tenure.site.identity) decision).intent.applyTo
        (some tenure.site) =
      (after (some tenure) (.decision presented decision)).map (·.site) := by
  by_cases same : presented = tenure.key
  · subst same
    have retained : tenure.site.identity.pubkey = tenure.key := rfl
    rw [resolve_matched retained, matched_site]
    simp [after]
  · have retained : tenure.site.identity.pubkey ≠ presented := Ne.symm same
    rw [resolve_mismatch retained]
    cases decision <;>
      simp [after, same, mismatch, PersistenceIntent.applyTo, site, provenance, Verified,
        Pinned, replacedAt]

theorem after_visit_isSome (tenure : Option Tenure) (presented : PublisherPubkey) :
    (after tenure (.visit presented)).isSome := by
  cases tenure <;> rfl

theorem after_some_isSome (tenure : Tenure) (event : SiteEvent) :
    (after (some tenure) event).isSome := by
  cases event with
  | visit presented => rfl
  | decision presented decision =>
      simp only [after]
      split_ifs <;> rfl

end Tenure

namespace Visit

/-- The events of a visit, at its own site. -/
def events (visit : Visit T) : List SiteEvent :=
  .visit visit.loaded.publisher ::
    visit.decisions.map (SiteEvent.decision visit.loaded.publisher)

/-- The events of a visit at any site. -/
def eventsAt (visit : Visit T) (site : OnionAddress) : List SiteEvent :=
  if visit.loaded.site = site then visit.events else []

end Visit

/-- The trace of a site in a list of visits, oldest first. -/
def siteTrace (visits : List (Visit T)) (site : OnionAddress) : List SiteEvent :=
  visits.flatMap (·.eventsAt site)

theorem siteTrace_append (visits : List (Visit T)) (visit : Visit T) (site : OnionAddress) :
    siteTrace (visits ++ [visit]) site = siteTrace visits site ++ visit.eventsAt site := by
  simp [siteTrace]

/-! ### The shell keeps what the trace says -/

/-- Every site of the view retains what its trace says. -/
def Remembers (view : StoreView) (visits : List (Visit T)) : Prop :=
  ∀ site, view.sites site = (Tenure.ofTrace (siteTrace visits site)).map (·.site)

theorem Remembers.identity {view : StoreView} {visits : List (Visit T)}
    (remembers : Remembers view visits) (site : OnionAddress) :
    view.identity site =
      (Tenure.ofTrace (siteTrace visits site)).map (·.site.identity) := by
  rw [StoreView.identity, remembers site, Option.map_map]
  rfl

/-- Decisions of a window whose site has a tenure. -/
theorem decide_sites (decisions : List UserDecision) {view : StoreView}
    {loaded : Loaded T} {tenure : Tenure}
    (retained : view.sites loaded.site = some tenure.site) :
    (decisions.foldl (fun current decision => current.decide loaded decision) view).sites
        loaded.site =
      ((decisions.map (SiteEvent.decision loaded.publisher)).foldl Tenure.after
        (some tenure)).map (·.site) := by
  induction decisions generalizing view tenure with
  | nil => exact retained
  | cons decision decisions ih =>
      have identity : view.identity loaded.site = some tenure.site.identity := by
        simp [StoreView.identity, retained]
      have stepped : (view.decide loaded decision).sites loaded.site =
          (Tenure.after (some tenure) (.decision loaded.publisher decision)).map (·.site) := by
        rw [StoreView.decide, StoreView.sites_persist, StoreView.sites_apply_same, retained,
          identity, Tenure.decision_site]
      obtain ⟨next, isNext⟩ := Option.isSome_iff_exists.mp
        (Tenure.after_some_isSome tenure (.decision loaded.publisher decision))
      rw [isNext] at stepped
      simpa [isNext] using ih stepped

theorem decide_sites_other (decisions : List UserDecision) (view : StoreView)
    {loaded : Loaded T} {site : OnionAddress} (other : site ≠ loaded.site) :
    (decisions.foldl (fun current decision => current.decide loaded decision) view).sites
      site = view.sites site := by
  induction decisions generalizing view with
  | nil => rfl
  | cons decision decisions ih =>
      rw [List.foldl_cons, ih, StoreView.decide, StoreView.sites_persist,
        StoreView.sites_apply_other _ other]

/-- A whole visit adds its events to the trace of its site. -/
theorem Remembers.visit {core : Core T} {view : StoreView} {visits : List (Visit T)}
    (remembers : Remembers view visits) {history : PublisherHistory} {loaded : Loaded T}
    {manifest : T.Manifest} (from_ : LoadedFrom core history loaded manifest)
    (snapshot : loaded.retained = view.identity loaded.site)
    (decisions : List UserDecision) :
    Remembers (view.visit loaded decisions) (visits ++ [⟨loaded, decisions⟩]) := by
  intro site
  rw [siteTrace_append, Tenure.ofTrace, List.foldl_append, StoreView.visit]
  change _ = ((Visit.eventsAt ⟨loaded, decisions⟩ site).foldl Tenure.after
    (Tenure.ofTrace (siteTrace visits site))).map (·.site)
  by_cases here : loaded.site = site
  · subst here
    have opened : (view.persist loaded loaded.initialIntent).sites loaded.site =
        (Tenure.after (Tenure.ofTrace (siteTrace visits loaded.site))
          (.visit loaded.publisher)).map (·.site) := by
      rw [StoreView.sites_persist, StoreView.sites_apply_same, from_.initialIntent, snapshot,
        remembers.identity, remembers loaded.site, Tenure.visit_site]
    obtain ⟨tenure, isTenure⟩ := Option.isSome_iff_exists.mp
      (Tenure.after_visit_isSome (Tenure.ofTrace (siteTrace visits loaded.site))
        loaded.publisher)
    rw [isTenure] at opened
    rw [decide_sites decisions opened]
    simp [Visit.eventsAt, Visit.events, isTenure]
  · rw [decide_sites_other decisions _ (Ne.symm here), StoreView.sites_persist,
      StoreView.sites_apply_other _ (Ne.symm here), remembers site]
    simp [Visit.eventsAt, here]

theorem Remembers.runSession {core : Core T} {shell : Shell StoreView T}
    (remembers : Remembers shell.store shell.visits) (script : SessionScript) :
    Remembers (shell.runSession core viewHandler script).store
      (shell.runSession core viewHandler script).visits := by
  rw [Shell.runSession_view]
  cases built : shell.store.build core script.request with
  | error message => exact remembers
  | ok loaded =>
      obtain ⟨snapshot, manifest, publisher, from_, -⟩ := StoreView.build_eq_ok built
      exact remembers.visit from_ snapshot script.decisions

theorem Remembers.runAll (core : Core T) {shell : Shell StoreView T}
    (remembers : Remembers shell.store shell.visits) (scripts : List SessionScript) :
    Remembers (shell.runAll core viewHandler scripts).store
      (shell.runAll core viewHandler scripts).visits := by
  refine StateMachine.invariant_run (fun shell => Remembers shell.store shell.visits) ?_ remembers
    (Shell.run_machine shell scripts)
  intro before script next held taken
  obtain rfl := Option.some.inj taken
  exact held.runSession script

/-- After any sequence of sessions on stores that started without identities,
every site retains the identity and the replaced keys that its own trace says,
and every further load shows the trust state that the trace says. -/
theorem sequential_trust_refines_trace {libs : StoreLibs} (lawful : libs.Lawful)
    (root : StoreRoot) (core : Core T) {disk : Disk} (valid : root.ValidFiles libs disk)
    (noIdentities : ∀ site, disk.files (.identity site) = none)
    (scripts : List SessionScript) :
    let shell := (Shell.fresh disk).runAll core (fileHandler libs root) scripts
    (∀ site,
      let tenure := Tenure.ofTrace (siteTrace shell.visits site)
      (fileHandler libs root (.loadIdentity site) shell.store).1 =
        .ok (tenure.map fun t => { pubkey := t.key, provenance := t.provenance }) ∧
      FileIdentityStore.replacedKeys libs root shell.store site =
        .ok ((tenure.map (·.former)).getD [])) ∧
    (∀ request loaded store,
      (build core request).run (fileHandler libs root) shell.store =
        (.ok (.ok loaded), store) →
      loaded.chrome.trustState =
        Tenure.shown (Tenure.ofTrace (siteTrace shell.visits loaded.site))
          loaded.publisher) := by
  intro shell
  have startValid : root.ValidFiles libs (Shell.fresh disk : Shell Disk T).store := valid
  obtain ⟨validAfter, sameRun⟩ := Shell.runAll_files core lawful startValid scripts
  have remembers : Remembers (root.view libs shell.store) shell.visits := by
    have start : Remembers ((Shell.fresh disk).onView libs root : Shell StoreView T).store
        (Shell.fresh disk : Shell Disk T).visits := by
      intro site
      have absent : root.siteFile libs (disk.files (.identity site)) = .ok none := by
        rw [noIdentities site]
        rfl
      simp [Shell.onView, Shell.fresh, StoreRoot.view, absent, siteTrace, Tenure.ofTrace]
    have held := Remembers.runAll core start scripts
    rw [← sameRun] at held
    exact held
  refine ⟨fun site => ⟨?_, ?_⟩, ?_⟩
  · rw [(fileHandler_view lawful (.loadIdentity site) validAfter).1]
    exact congrArg Except.ok (remembers.identity site)
  · rw [FileIdentityStore.replacedKeys_view validAfter, remembers site]
    cases Tenure.ofTrace (siteTrace shell.visits site) <;> rfl
  · intro request loaded store ran
    have built := (run_fileHandler lawful (build core request) validAfter).1
    rw [ran, run_build] at built
    obtain ⟨snapshot, manifest, publisher, from_, -⟩ :=
      StoreView.build_eq_ok (Except.ok.inj built).symm
    rw [from_.trustState, snapshot, remembers.identity, Tenure.resolve_shown]

/-- Pin a first key, then confirm the phrase of a second one. -/
def replacingScripts : List SessionScript := [
  SampleCore.visit ⟨.alpha, 10, 1, 0⟩ [.pinFirstContact],
  SampleCore.visit ⟨.beta, 20, 2, 0⟩ [.confirmPip]]

theorem replacing_trace :
    siteTrace (((Shell.fresh SampleLibs.emptyDisk).onView SampleLibs.libs
      SampleLibs.root).runAll SampleCore.core viewHandler replacingScripts).visits
        ⟨"zero.onion"⟩ =
      [.visit (seedKey 1), .decision (seedKey 1) .pinFirstContact,
        .visit (seedKey 2), .decision (seedKey 2) .confirmPip] := by
  rfl

theorem sequential_trust_refines_trace_replacing :
    (fileHandler SampleLibs.libs SampleLibs.root (.loadIdentity ⟨"zero.onion"⟩)
      ((Shell.fresh SampleLibs.emptyDisk).runAll SampleCore.core
        (fileHandler SampleLibs.libs SampleLibs.root) replacingScripts).store).1 =
      .ok (some ⟨seedKey 2, .externallyVerified⟩) := by
  obtain ⟨retained, -⟩ := (sequential_trust_refines_trace SampleLibs.lawful
    SampleLibs.root SampleCore.core SampleLibs.emptyDisk_valid (fun _ => rfl)
    replacingScripts).1 ⟨"zero.onion"⟩
  rw [retained, Shell.visits_files SampleLibs.lawful SampleLibs.emptyDisk_valid,
    replacing_trace]
  rfl

end EntangledClient
