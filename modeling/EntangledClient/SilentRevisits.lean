import EntangledClient.SeparateClients

/-!
# Visits that write nothing

A viewer of a site that retains an identity, whose user clicks for no decision, only reads: it
leaves all files as they are in every order of its calls with those of other clients, which may
call the stores as they like, and whatever calls fail.
-/

namespace EntangledClient

open CallTree

/-- A call that replaces no record, whatever it finds. -/
def StoreCall.IsSilent : StoreCall → Prop
  | .loadIdentity _ | .loadHistory _ => True
  | .apply _ intent => intent = .none
  | .appendRecord _ _ => False

theorem StoreCall.IsSilent.rewrites {request : StoreCall} (silent : request.IsSilent)
    (view : StoreView) : request.rewrites view = false := by
  cases request with
  | loadIdentity site | loadHistory publisher => rfl
  | appendRecord publisher record => exact silent.elim
  | apply site intent =>
      obtain rfl : intent = .none := silent
      rfl

section Silent

variable {T : CoreTypes} (core : Core T) (request : BuildRequest)

/-- The site of the request retains an identity. -/
def BuildRequest.Revisits (view : StoreView) : Prop :=
  ∀ site, request.Visits core site → view.sites site ≠ none

/-- An answer that finds the identity which the site of the request retains. -/
def BuildRequest.FindsRetained : (call : StoreCall) → storeInterface.Reply call → Prop
  | .loadIdentity site, .ok retained => request.Visits core site → retained ≠ none
  | _, _ => True

end Silent

section Revisits

variable {T : CoreTypes} {core : Core T} {nodes : T.Scene → List SceneNode}
  {request : BuildRequest}

/-! ### The calls of a revisit -/

theorem resolve_undecided (presented : PublisherPubkey) (retained : RetainedIdentity) :
    (resolve presented (some retained) .none).intent = .none := by
  by_cases same : retained.pubkey = presented
  · rw [resolve_matched same]
    exact (matched_none presented retained).2
  · rw [resolve_mismatch same]
    rfl

/-- Without a decision, a viewer that finds an identity retained makes silent calls only. -/
theorem viewer_silent {inputs : List FrameInput}
    (undecided : ∀ input ∈ inputs, ∀ decision, ¬ input.Decides decision) :
    Program.Meets (I := storeInterface) (request.FindsRetained core) StoreCall.IsSilent
      (fun _ => True) (ShellApp.viewer core nodes request inputs) := by
  have silent : ∀ loaded : Loaded T, loaded.retained ≠ none →
      (resolve loaded.publisher loaded.retained .none).intent = .none := by
    intro loaded found
    obtain ⟨retained, isRetained⟩ := Option.ne_none_iff_exists'.mp found
    rw [isRetained]
    exact resolve_undecided loaded.publisher retained
  have window : WindowFits core (request.FindsRetained core) StoreCall.IsSilent (· = .none)
      fun loaded => request.Visits core loaded.site ∧ loaded.retained ≠ none := {
    loads := fun _ _ => trivial
    applies := by
      rintro loaded _ ⟨-, found⟩ rfl
      exact silent loaded found
    appends := by
      rintro loaded _ record ⟨-, found⟩ rfl writes
      exact (writes (silent loaded found)).elim
    reloads := fun _ _ fits relied => ⟨fits.1, relied fits.1⟩
    decided := fun _ _ fits => fits
    opens := rfl }
  refine ShellApp.viewer_meets window (fun _ _ => trivial) (fun _ _ => trivial)
    (fun input member decision decides => (undecided input member decision decides).elim) ?_
  rintro loaded ⟨named, history, verified, presents, -⟩ found
  obtain ⟨manifestBytes, contentBytes, scene, isInputs, -⟩ := presents
  have visits : request.Visits core loaded.site := ⟨manifestBytes, contentBytes, isInputs⟩
  exact ⟨visits, found visits⟩

theorem applyTo_ne_none (intent : PersistenceIntent) {retained : Option RetainedSite}
    (found : retained ≠ none) : intent.applyTo retained ≠ none := by
  cases retained with
  | none => exact absurd rfl found
  | some site =>
      cases intent with
      | pinIdentity pubkey =>
          simp only [PersistenceIntent.applyTo]
          split <;> simp
      | none | recordObservation pubkey | markExternallyVerified pubkey
        | replaceIdentity newPubkey replaced externallyVerified =>
          simp [PersistenceIntent.applyTo]

/-- A site that retains an identity goes on retaining one, whatever is called. -/
theorem keeps_revisits (guarantee : StoreCall → Prop) :
    viewSplit.Keeps (request.FindsRetained core) guarantee (request.Revisits core) where
  failures call error := by cases call <;> trivial
  replies := by
    intro call view _ revisits
    cases call with
    | loadIdentity site =>
        intro visits isNone
        refine revisits site visits ?_
        simpa [viewSplit, viewHandler, StoreView.identity] using isNone
    | apply site intent | loadHistory publisher | appendRecord publisher record => trivial
  commits := by
    intro call snapshot current _ snapshotRevisits currentRevisits site visits
    change (call.commit snapshot current).sites site ≠ none
    rcases StoreCall.sites_commit call snapshot current site with
      same | ⟨intent, rfl, -, applied⟩
    · rw [same]
      exact currentRevisits site visits
    · rw [applied]
      exact applyTo_ne_none intent (snapshotRevisits site visits)

/-! ### The file calls of a revisit -/

section Files

variable {libs : StoreLibs} {root : StoreRoot} {α : Type} {post : Except Failure α → Prop}

/-- Silent calls are carried out without a write. -/
theorem onFiles_silent (lawful : libs.Lawful) {program : StoreProgram α}
    (silent : Program.Meets (I := storeInterface) (request.FindsRetained core) StoreCall.IsSilent
      post program) {call : FileCall}
    {resume : fileInterface.Reply call → FileProgram (Except Failure α)}
    (isCall : onFiles libs root program = .call call resume) : ¬ IsWrite call := by
  induction program with
  | ret outcome => cases isCall
  | call storeCall storeResume ih =>
      cases isPath : storeCall.recordPath with
      | none =>
          obtain ⟨reply, -, skips⟩ := @onFiles_skip libs root α lawful storeCall isPath
          rw [skips] at isCall
          refine ih reply (silent.2 reply ?_) isCall
          cases storeCall with
          | loadIdentity site => cases isPath
          | apply site intent | loadHistory publisher | appendRecord publisher record => trivial
      | some path =>
          obtain ⟨rest, -, -, reads⟩ := @onFiles_reads libs root α lawful storeCall path isPath
          rw [reads] at isCall
          cases isCall
          exact id

/-- A client whose calls are silent does not write next. -/
theorem ClientStands.silent (lawful : libs.Lawful) {stored : StorePath → Option Bytes}
    {mayFail : Prop} {found : Option Bytes} {thread : FileProgram (Except Failure α)}
    {program : StoreProgram α} {snapshot : Option StoreView}
    (stands : ClientStands libs root stored mayFail found thread program snapshot)
    (silent : Program.Meets (I := storeInterface) (request.FindsRetained core) StoreCall.IsSilent
      post program) {call : FileCall}
    {resume : fileInterface.Reply call → FileProgram (Except Failure α)}
    (isCall : thread = .call call resume) : ¬ IsWrite call := by
  cases stands with
  | @opening rest opens program =>
      cases rest with
      | ret outcome =>
          obtain rfl : outcome = .ok root := opens
          exact onFiles_silent lawful silent isCall
      | call openCall openRest =>
          cases isCall
          cases call with
          | ensureDirs | readFileOpt path => exact id
          | writeAtomic path bytes | getrandom length => exact opens.elim
  | calling program => exact onFiles_silent lawful silent isCall
  | replacing about rewrites replaces wasFound storeResume =>
      rw [silent.1.rewrites] at rewrites
      cases rewrites
  | refused failed failure program => cases isCall

variable {opening : StoreOpen} {ι : Type} [DecidableEq ι]

/-- A turn of this client leaves all files as they are. -/
def LeavesFiles (index : ι) (before : Threads fileInterface ι (ReadDisk ι) (Except Failure α))
    (turn : CallTurn ι Failure)
    (after : Threads fileInterface ι (ReadDisk ι) (Except Failure α)) : Prop :=
  turn.index = index → after.state.disk.files = before.state.disk.files

/-- In every run of clients on an initialised store, whatever the others call and whatever calls
fail, a viewer of a site that retains an identity, whose user decides nothing, leaves all files as
they are. -/
theorem revisit_leaves_files (lawful : libs.Lawful) {disk : Disk} {view : StoreView}
    (opened : opening.Opened libs root disk view)
    (programs : ι → StoreProgram (Except String (ShellApp T × List FrameOutput))) (index : ι)
    {inputs : List FrameInput}
    (isViewer : programs index = ShellApp.viewer core nodes request inputs)
    (revisits : request.Revisits core view)
    (undecided : ∀ input ∈ inputs, ∀ decision, ¬ input.Decides decision)
    (turns : List (CallTurn ι Failure)) :
    (Threads.turns ReadDisk.handler).Along (LeavesFiles index)
      (clients libs opening programs disk) turns := by
  have meets : ∀ other, Program.Meets (I := storeInterface) (request.FindsRetained core)
      (fun call : StoreCall => other = index → call.IsSilent) (fun _ => True)
      (programs other) := by
    intro other
    by_cases same : other = index
    · subst same
      rw [isViewer]
      simpa using @viewer_silent T core nodes request inputs undecided
    · simpa [same] using Program.meets_everything (programs other)
  refine StateMachine.along_of_invariant (fun threads =>
    ∃ shared, Represents libs root disk.files (fun _ => True) threads shared ∧
      SnapshotThreads.Good (request.FindsRetained core)
        (fun other (call : StoreCall) => other = index → call.IsSilent) (request.Revisits core)
        shared) ?_
    ⟨_, represents_clients lawful opened programs, .start revisits meets⟩ turns
  rintro threads turn next ⟨shared, represents, good⟩ taken
  obtain ⟨events, after, simulated⟩ :=
    simulated_turn lawful represents (fun _ _ _ => trivial) taken
  refine ⟨?_, after, simulated.represents, good.run (fun _ => keeps_revisits _) simulated.ran⟩
  obtain ⟨mover, call, resume, isCall, ⟨rfl, rfl⟩ | ⟨error, rfl, rfl⟩⟩ :=
    Threads.moves_of_turn taken
  · rintro rfl
    have silent := good.programs mover
    simp only [CallTurn.index, true_imp_iff] at silent
    have noWrite := (represents.stands mover).silent lawful silent isCall
    cases call with
    | ensureDirs | readFileOpt path | getrandom length => rfl
    | writeAtomic path bytes => exact absurd trivial noWrite
  · exact fun _ => rfl

end Files

end Revisits

namespace SampleLibs

/-- An initialised store that holds the pin of one site. -/
def pinnedDisk : Disk :=
  keyedDisk.write (.identity legacySite) (envelope (identityDto.put legacyDto))

theorem pinnedDisk_opened : StoreOpen.integrity.Opened libs root pinnedDisk
    { StoreView.empty with
      sites := Function.update StoreView.empty.sites legacySite
        (some ⟨⟨seedKey 1, .pinned⟩, [seedKey 9]⟩) } := by
  obtain ⟨valid, denotes⟩ := @StoreRoot.ValidFiles.update_identity libs root keyedDisk pinnedDisk
    keyedDisk_opened.valid legacySite _ _ rfl siteFile_legacy
  exact ⟨.integrity rfl (.inl rfl), valid, by rw [denotes, keyedDisk_opened.denotes]⟩

end SampleLibs

namespace SampleCore

/-- The first user returns to the pinned site; the second one pins the other site. -/
def revisitInputs : Bool → List FrameInput
  | false => [clicks [], clicks [.showContent], clicks [.link 0], clicks [.copyUrl]]
  | true => [clicks [.pinIdentity]]

theorem revisit_leaves_files_pinned :
    (Threads.turns ReadDisk.handler).Along (LeavesFiles false)
      (clients SampleLibs.libs .integrity (fun index => ShellApp.viewer core linkNodes
        (twoRequests index) (revisitInputs index)) SampleLibs.pinnedDisk) twoTurns := by
  refine revisit_leaves_files SampleLibs.lawful SampleLibs.pinnedDisk_opened _ false rfl ?_ ?_ _
  · intro site visits
    obtain rfl := visits_read visits
    simp [siteOf, SampleLibs.legacySite]
  · intro input member decision
    simp only [revisitInputs, List.mem_cons, List.not_mem_nil, or_false] at member
    rcases member with rfl | rfl | rfl | rfl <;>
      simp [FrameInput.Decides, pinAnswer, mismatchAnswer, clicks]

end SampleCore

end EntangledClient
