import EntangledClient.RetainedKeyInterleaving
import EntangledClient.SeparateClients

/-!
# How trust comes to be retained

Viewers share a directory, in any order of their file calls and whatever calls fail.  Every
identity that a site retains was there before, or a viewer presented its key for that very site
and its user clicked for what is retained of it; and every record of a history was there before or
is that of a manifest of this publisher that some viewer presented.  What a viewer presents, the
core accepted, against a history that holds all that was there before and nothing unearned.
-/

namespace EntangledClient

open CallTree

/-- Clicks that give an identity this provenance. -/
def RetainedProvenance.Clicked (inputs : List FrameInput) : RetainedProvenance → Prop
  | .observed => True
  | .pinned => ∃ input ∈ inputs,
      input.clicked .pinIdentity = true ∨ input.clicked .confirmIdentity = true
  | .externallyVerified => ∃ input ∈ inputs,
      input.clicked .pinVerified = true ∨ input.clicked .verifiedNewPip = true

/-- Viewers, what their users do in their frames, and the store before any of them moves. -/
structure Viewers (ι : Type) where
  requests : ι → BuildRequest
  inputs : ι → List FrameInput
  before : StoreView

namespace Viewers

section Earned

variable {T : CoreTypes} {ι : Type}

section Definitions

variable (core : Core T) (viewers : Viewers ι)

/-- A record of a publisher that was there before, or that of a manifest that a viewer presented
against a history of such records. -/
inductive EarnsRecord : PublisherPubkey → RetainedManifestRecord → Prop
  | before {publisher : PublisherPubkey} {record : RetainedManifestRecord}
      (member : record ∈ (viewers.before.histories publisher).records) :
      EarnsRecord publisher record
  | presented {index : ι} {site : OnionAddress} {named : PublisherPubkey}
      {history : PublisherHistory} {verified : VerifiedManifest T}
      (presents : (viewers.requests index).Presents core site named history verified)
      (keeps : (viewers.before.histories named).records <:+ history.records)
      (earlier : ∀ record ∈ history.records, EarnsRecord named record)
      {record : RetainedManifestRecord}
      (isRecord : core.recordFor verified.manifest = some record) :
      EarnsRecord (core.publisherPubkey verified.manifest) record

/-- A history that adds earned records to those that were there before. -/
structure EarnsHistory (publisher : PublisherPubkey) (history : PublisherHistory) : Prop where
  keeps : (viewers.before.histories publisher).records <:+ history.records
  records : ∀ record ∈ history.records, viewers.EarnsRecord core publisher record

/-- A manifest that a viewer presents for a site against an earned history. -/
def Presented (index : ι) (site : OnionAddress) (verified : VerifiedManifest T) : Prop :=
  ∃ named history, viewers.EarnsHistory core named history ∧
    (viewers.requests index).Presents core site named history verified

/-- An identity of a site that was retained before, or that a viewer presented there and its user
clicked for. -/
inductive EarnsIdentity (site : OnionAddress) : RetainedIdentity → Prop
  | before {identity : RetainedIdentity} (found : viewers.before.identity site = some identity) :
      EarnsIdentity site identity
  | presented {index : ι} {verified : VerifiedManifest T}
      (presents : viewers.Presented core index site verified)
      {provenance : RetainedProvenance} (clicked : provenance.Clicked (viewers.inputs index)) :
      EarnsIdentity site ⟨core.publisherPubkey verified.manifest, provenance⟩

/-- A key of a site that was retained or replaced there before, or that a viewer presented. -/
def EarnsKey (site : OnionAddress) (key : PublisherPubkey) : Prop :=
  viewers.before.Knows site key ∨ ∃ index verified,
    viewers.Presented core index site verified ∧ core.publisherPubkey verified.manifest = key

/-- What a site retains is earned. -/
def EarnsSite (site : OnionAddress) (retained : Option RetainedSite) : Prop :=
  ∀ found ∈ retained, viewers.EarnsIdentity core site found.identity ∧
    ∀ key ∈ found.replaced, viewers.EarnsKey core site key

/-- All that a store holds is earned. -/
structure Earns (view : StoreView) : Prop where
  sites : ∀ site, viewers.EarnsSite core site (view.sites site)
  histories : ∀ publisher, viewers.EarnsHistory core publisher (view.histories publisher)

/-- What a viewer relies on: the identities and the histories that it loads are earned. -/
def Relies : (request : StoreCall) → storeInterface.Reply request → Prop
  | .loadIdentity site, .ok retained => ∀ found ∈ retained, viewers.EarnsIdentity core site found
  | .loadHistory publisher, .ok history => viewers.EarnsHistory core publisher history
  | _, _ => True

/-- What a viewer guarantees: what it persists goes on being earned. -/
def Guarantees : StoreCall → Prop
  | .apply site intent => ∀ retained, viewers.EarnsSite core site retained →
      viewers.EarnsSite core site (intent.applyTo retained)
  | .appendRecord publisher record => viewers.EarnsRecord core publisher record
  | .loadIdentity _ | .loadHistory _ => True

end Definitions

variable {core : Core T} {nodes : T.Scene → List SceneNode} {viewers : Viewers ι}

theorem earns_before : viewers.Earns core viewers.before where
  sites := by
    intro site found isFound
    have isSite : viewers.before.sites site = some found := isFound
    refine ⟨.before (by rw [StoreView.identity, isSite]; rfl), fun key member => .inl (.inr ?_)⟩
    rw [isSite]
    exact member
  histories _ := ⟨List.suffix_rfl, fun _ member => .before member⟩

theorem EarnsIdentity.key {site : OnionAddress} {identity : RetainedIdentity}
    (earned : viewers.EarnsIdentity core site identity) :
    viewers.EarnsKey core site identity.pubkey := by
  cases earned with
  | before found =>
      refine .inl (.inl ?_)
      rw [StoreView.activeKey, found]
      rfl
  | presented presents clicked => exact .inr ⟨_, _, presents, rfl⟩

theorem EarnsHistory.push {publisher : PublisherPubkey} {history : PublisherHistory}
    {record : RetainedManifestRecord} (earned : viewers.EarnsHistory core publisher history)
    (isEarned : viewers.EarnsRecord core publisher record) :
    viewers.EarnsHistory core publisher (history.push record) where
  keeps := earned.keeps.trans (List.suffix_cons record history.records)
  records := List.forall_mem_cons.mpr ⟨isEarned, earned.records⟩

/-- Earned calls keep a store earned, and it answers with what is earned. -/
theorem keeps_earned : viewSplit.Keeps (viewers.Relies core) (viewers.Guarantees core)
    (viewers.Earns core) where
  failures request error := by cases request <;> trivial
  replies := by
    intro request view _ earns
    cases request with
    | loadIdentity site =>
        intro identity isIdentity
        obtain ⟨found, isFound, rfl⟩ := Option.map_eq_some_iff.mp isIdentity
        exact (earns.sites site found isFound).1
    | loadHistory publisher => exact earns.histories publisher
    | apply site intent | appendRecord publisher record => trivial
  commits := by
    intro request snapshot current guaranteed earnsSnapshot earnsCurrent
    refine ⟨fun site => ?_, fun publisher => ?_⟩
    · change viewers.EarnsSite core site ((request.commit snapshot current).sites site)
      rcases StoreCall.sites_commit request snapshot current site with
        same | ⟨intent, rfl, -, applied⟩
      · rw [same]
        exact earnsCurrent.sites site
      · rw [applied]
        exact guaranteed _ (earnsSnapshot.sites site)
    · change viewers.EarnsHistory core publisher
        ((request.commit snapshot current).histories publisher)
      rcases StoreCall.histories_commit request snapshot current publisher with
        same | ⟨record, rfl, pushed⟩
      · rw [same]
        exact earnsCurrent.histories publisher
      · rw [pushed]
        exact (earnsSnapshot.histories publisher).push guaranteed

/-! ### What a window persists is earned -/

/-- A decision that the user of this viewer takes, if it is one. -/
def Decides (viewers : Viewers ι) (index : ι) (decision : UserDecision) : Prop :=
  decision = .none ∨ ∃ input ∈ viewers.inputs index, input.Decides decision

theorem Decides.pinned {index : ι} (decides : viewers.Decides index .pinFirstContact) :
    RetainedProvenance.pinned.Clicked (viewers.inputs index) := by
  rcases decides with impossible | ⟨input, member, decides⟩
  · cases impossible
  · refine ⟨input, member, .inl ?_⟩
    simp only [FrameInput.Decides, pinAnswer, mismatchAnswer] at decides
    grind

theorem Decides.confirmed {index : ι} (decides : viewers.Decides index .confirmNewIdentity) :
    RetainedProvenance.pinned.Clicked (viewers.inputs index) := by
  rcases decides with impossible | ⟨input, member, decides⟩
  · cases impossible
  · refine ⟨input, member, .inr ?_⟩
    simp only [FrameInput.Decides, pinAnswer, mismatchAnswer] at decides
    grind

theorem Decides.verified {index : ι} (decides : viewers.Decides index .confirmPip) :
    RetainedProvenance.externallyVerified.Clicked (viewers.inputs index) := by
  rcases decides with impossible | ⟨input, member, decides⟩
  · cases impossible
  · refine ⟨input, member, ?_⟩
    simp only [FrameInput.Decides, pinAnswer, mismatchAnswer] at decides
    grind

/-- A resolution pins only what the user decides to pin. -/
theorem resolve_pins {presented key : PublisherPubkey} {retained : Option RetainedIdentity}
    {decision : UserDecision}
    (pins : (resolve presented retained decision).intent = .pinIdentity key) :
    decision = .pinFirstContact := by
  cases retained with
  | none => cases decision <;> simp_all [firstContact]
  | some record =>
      by_cases same : record.pubkey = presented
      · rw [resolve_matched same] at pins
        obtain ⟨_, provenance⟩ := record
        cases decision <;> cases provenance <;> simp_all [matched]
      · rw [resolve_mismatch same] at pins
        cases decision <;> simp [mismatch] at pins

/-- What a resolution for a presented key makes of an earned site is earned. -/
theorem earnsSite_resolve {index : ι} {site : OnionAddress} {verified : VerifiedManifest T}
    {snapshot : Option RetainedIdentity} {decision : UserDecision}
    (presents : viewers.Presented core index site verified)
    (earned : ∀ found ∈ snapshot, viewers.EarnsIdentity core site found)
    (decides : viewers.Decides index decision) {retained : Option RetainedSite}
    (earns : viewers.EarnsSite core site retained) :
    viewers.EarnsSite core site
      ((resolve (core.publisherPubkey verified.manifest) snapshot decision).intent.applyTo
        retained) := by
  have replacedEarned : ∀ key ∈ replacedAt retained, viewers.EarnsKey core site key := by
    intro key member
    cases retained with
    | none => cases member
    | some found => exact (earns found rfl).2 key member
  rcases resolve_intent (core.publisherPubkey verified.manifest) snapshot decision with
    silent | ⟨-, observed⟩ | pinned | ⟨rfl, -, marked⟩ |
      ⟨record, isRecord, -, rfl | rfl, replaced⟩
  · rwa [silent]
  · rw [observed]
    cases retained with
    | none =>
        rintro found ⟨⟩
        exact ⟨.presented presents trivial, fun key member => by cases member⟩
    | some found => exact earns
  · have clicked := Decides.pinned (resolve_pins pinned ▸ decides)
    rw [pinned]
    cases retained with
    | none =>
        rintro found ⟨⟩
        exact ⟨.presented presents clicked, fun key member => by cases member⟩
    | some found =>
        simp only [PersistenceIntent.applyTo]
        split
        · rintro _ ⟨⟩
          exact ⟨.presented presents clicked, replacedEarned⟩
        · exact earns
  · rw [marked]
    rintro found ⟨⟩
    exact ⟨.presented presents decides.verified, replacedEarned⟩
  · rw [replaced]
    rintro found ⟨⟩
    refine ⟨.presented presents decides.confirmed, fun key member => ?_⟩
    rcases List.mem_cons.mp member with rfl | earlier
    · exact (earned record isRecord).key
    · exact replacedEarned key earlier
  · rw [replaced]
    rintro found ⟨⟩
    refine ⟨.presented presents decides.verified, fun key member => ?_⟩
    rcases List.mem_cons.mp member with rfl | earlier
    · exact (earned record isRecord).key
    · exact replacedEarned key earlier

/-- A viewer keeps to its guarantee as long as it is answered with what is earned. -/
theorem viewer_guarantees (index : ι) :
    Program.Meets (I := storeInterface) (viewers.Relies core) (viewers.Guarantees core)
      (fun _ => True)
      (ShellApp.viewer core nodes (viewers.requests index) (viewers.inputs index)) := by
  have window : WindowFits core (viewers.Relies core) (viewers.Guarantees core)
      (viewers.Decides index) fun loaded =>
        loaded.PresentedBy core (viewers.Relies core) (viewers.requests index) ∧
          ∀ found ∈ loaded.retained, viewers.EarnsIdentity core loaded.site found := {
    loads := fun _ _ => trivial
    applies := by
      rintro loaded decision ⟨⟨named, history, verified, presents, answered, publisher, -⟩, earned⟩
        decides retained earns
      rw [publisher]
      exact earnsSite_resolve ⟨named, history, answered, presents⟩ earned decides earns
    appends := by
      -- the record is the one of the manifest that the answered history let pass
      rintro loaded decision record ⟨⟨named, history, verified, presents, answered, publisher,
        isRecord⟩, -⟩ - - recorded
      rw [publisher]
      exact .presented presents answered.keeps answered.records (isRecord.symm.trans recorded)
    reloads := fun _ _ fits relied => ⟨fits.1, relied⟩
    decided := fun _ _ fits => fits
    opens := .inl rfl }
  refine ShellApp.viewer_meets window (fun _ _ => trivial) (fun _ _ => trivial)
    (fun input member _ decides => .inr ⟨input, member, decides⟩) ?_
  exact fun loaded presented relied => ⟨presented, relied⟩

/-- In every run of viewers on an initialised store, all that the store holds is earned. -/
theorem viewers_earn_trust {libs : StoreLibs} {opening : StoreOpen} {root : StoreRoot}
    [DecidableEq ι] (lawful : libs.Lawful) (viewers : Viewers ι) {disk : Disk}
    (opened : opening.Opened libs root disk viewers.before) (core : Core T)
    (nodes : T.Scene → List SceneNode) {turns : List (CallTurn ι Failure)}
    {last : Threads fileInterface ι (ReadDisk ι)
      (Except Failure (Except String (ShellApp T × List FrameOutput)))}
    (ran : (Threads.turns ReadDisk.handler).run (clients libs opening
      (fun index => ShellApp.viewer core nodes (viewers.requests index) (viewers.inputs index))
      disk) turns = some last) :
    ∃ after, opening.Opened libs root last.state.disk after ∧ viewers.Earns core after := by
  obtain ⟨events, after, ranShared, openedAfter, -⟩ := clients_simulated lawful opened ran
  have good := (SnapshotThreads.Good.start earns_before fun index =>
    viewer_guarantees index).run (fun _ => keeps_earned) ranShared
  exact ⟨after.state, openedAfter, good.state⟩

end Earned

end Viewers

namespace SampleCore

/-- The viewers of two publishers at two sites, whose users pin what they see. -/
def twoViewers : Viewers Bool where
  requests := twoRequests
  inputs _ := [clicks [.pinIdentity]]
  before := .empty

theorem viewers_earn_trust_pinning :
    ∃ last, (Threads.turns ReadDisk.handler).run
      (clients SampleLibs.libs .integrity (fun index => ShellApp.viewer core linkNodes
        (twoViewers.requests index) (twoViewers.inputs index)) SampleLibs.keyedDisk) twoTurns =
        some last ∧
      ∃ after, StoreOpen.integrity.Opened SampleLibs.libs SampleLibs.root last.state.disk after ∧
        twoViewers.Earns core after := by
  obtain ⟨last, ran⟩ := twoViewers_run
  exact ⟨last, ran, Viewers.viewers_earn_trust SampleLibs.lawful twoViewers
    SampleLibs.keyedDisk_opened core linkNodes ran⟩

end SampleCore

end EntangledClient
