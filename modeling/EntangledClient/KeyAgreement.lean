import EntangledClient.FirstOpens

/-!
# Agreement on the key

Integrity opens of an empty directory agree on its key as long as none replaces a key that
another has stored.
-/

namespace EntangledClient

open CallTree ExceptRules

/-- The opens that returned hold the stored key.  So a file that one of them seals can be
opened by all of them, and by the store that a later open of the directory returns. -/
structure KeysAgree {ι : Type} (libs : StoreLibs)
    (threads : Threads fileInterface ι Disk StoreRoot) : Prop where
  stored : ∀ index root, threads.programs index = .ret (.ok root) →
    ∃ key, threads.state.files .storeKey = some key ∧ root = ⟨.integrity key⟩
  shared : ∀ index root payload disk sealed after,
    threads.programs index = .ret (.ok root) →
    (root.protector.sealBytes libs payload).run diskHandler disk = (.ok sealed, after) →
    ∀ other otherRoot, threads.programs other = .ret (.ok otherRoot) →
      otherRoot.protector.openBytes libs sealed = .ok payload
  later : ∀ index root payload disk sealed after session,
    threads.programs index = .ret (.ok root) →
    (root.protector.sealBytes libs payload).run diskHandler disk = (.ok sealed, after) →
    session.files .storeKey = threads.state.files .storeKey →
    session.files .storeMeta = threads.state.files .storeMeta →
    ∃ laterRoot, (StoreRoot.openIntegrity libs).run diskHandler session =
        (.ok laterRoot, session) ∧
      laterRoot.protector.openBytes libs sealed = .ok payload

/-- An open that is about to write a key finds no key file, or one of that key. -/
def WritesNoOtherKey {ι : Type} (before : Threads fileInterface ι Disk StoreRoot) (index : ι)
    (_after : Threads fileInterface ι Disk StoreRoot) : Prop :=
  ∀ key resume, before.programs index = .call (.writeAtomic .storeKey key) resume →
    before.state.files .storeKey = none ∨ before.state.files .storeKey = some key

namespace StagedOpens

variable {ι : Type} {libs : StoreLibs} {metaBytes : Bytes}

/-! ### The invariant of a run -/

/-- What holds throughout a run: a stored key has a holder and a holder a stored key. -/
structure Opening (metaBytes : Bytes) (opens : StagedOpens ι) : Prop where
  storeMeta : opens.disk.files .storeMeta = none ∨
    opens.disk.files .storeMeta = some metaBytes
  held : ∀ key, opens.disk.files .storeKey = some key →
    ∃ index, (opens.stages index).held = some key
  stored : ∀ index key, (opens.stages index).held = some key →
    opens.disk.files .storeKey ≠ none
  returned : ∀ index outcome, opens.stages index = .returned outcome →
    ∃ key, outcome = .ok ⟨.integrity key⟩

/-- Every holder of a key holds the stored one. -/
def HoldStored (opens : StagedOpens ι) : Prop :=
  ∀ index key, (opens.stages index).held = some key → opens.disk.files .storeKey = some key

/-- `WritesNoOtherKey`, on the stages. -/
def WritesNoOther (before : StagedOpens ι) (index : ι) (_after : StagedOpens ι) : Prop :=
  ∀ key, before.stages index = .writing key →
    before.disk.files .storeKey = none ∨ before.disk.files .storeKey = some key

theorem writesNoOtherKey_threads (before after : StagedOpens ι) (index : ι) :
    WritesNoOtherKey (before.threads libs metaBytes) index (after.threads libs metaBytes) ↔
      WritesNoOther before index after := by
  constructor
  · intro writes key isWriting
    obtain ⟨resume, isCall⟩ := @OpenStage.writing_program libs metaBytes key
    refine writes key resume ?_
    simp only [threads, isWriting, isCall]
  · intro writes key resume isCall
    exact writes key (OpenStage.writing_of_program isCall)

theorem Opening.start {disk : Disk} (noKey : disk.files .storeKey = none)
    (noMeta : disk.files .storeMeta = none) :
    Opening metaBytes (StagedOpens.start disk : StagedOpens ι) where
  storeMeta := .inl noMeta
  held key isKey := by simp [StagedOpens.start, noKey] at isKey
  stored index key isHeld := by cases isHeld
  returned index outcome isReturned := by cases isReturned

section Steps

variable [DecidableEq ι]

/-- The opens after one of them writes its key. -/
def keyWritten (opens : StagedOpens ι) (index : ι) (key : Bytes) : StagedOpens ι where
  disk := (opens.disk.afterDraw 8).write .storeKey key
  stages := Function.update opens.stages index (.describing key)

/-- A step that writes no key: the open goes on with the key that it held, or takes up the
stored one. -/
theorem Opening.unwritten {opens : StagedOpens ι} {index : ι} {disk : Disk} {stage : OpenStage}
    (opening : Opening metaBytes opens)
    (sameKey : disk.files .storeKey = opens.disk.files .storeKey)
    (storeMeta : disk.files .storeMeta = none ∨ disk.files .storeMeta = some metaBytes)
    (holds : stage.held = (opens.stages index).held ∨
      (opens.stages index).held = none ∧ stage.held = opens.disk.files .storeKey)
    (returned : ∀ outcome, stage = .returned outcome → ∃ key, outcome = .ok ⟨.integrity key⟩) :
    Opening metaBytes ⟨disk, Function.update opens.stages index stage⟩ ∧
      (HoldStored ⟨disk, Function.update opens.stages index stage⟩ ↔ HoldStored opens) := by
  have heldBefore : ∀ other key, (opens.stages other).held = some key →
      ((Function.update opens.stages index stage) other).held = some key := by
    intro other key isHeld
    by_cases same : other = index
    · subst same
      rw [Function.update_self]
      rcases holds with kept | ⟨unheld, _⟩
      · rwa [kept]
      · simp [unheld] at isHeld
    · rwa [Function.update_of_ne same]
  have heldAfter : ∀ other key,
      ((Function.update opens.stages index stage) other).held = some key →
      (opens.stages other).held = some key ∨ opens.disk.files .storeKey = some key := by
    intro other key isHeld
    by_cases same : other = index
    · subst same
      rw [Function.update_self] at isHeld
      rcases holds with kept | ⟨_, taken⟩
      · exact .inl (kept ▸ isHeld)
      · exact .inr (taken ▸ isHeld)
    · rw [Function.update_of_ne same] at isHeld
      exact .inl isHeld
  refine ⟨⟨storeMeta, ?_, ?_, ?_⟩, ?_, ?_⟩
  · intro key isKey
    obtain ⟨other, isHeld⟩ := opening.held key (sameKey ▸ isKey)
    exact ⟨other, heldBefore other key isHeld⟩
  · intro other key isHeld
    rw [sameKey]
    rcases heldAfter other key isHeld with earlier | taken
    · exact opening.stored other key earlier
    · exact taken ▸ Option.some_ne_none key
  · intro other outcome isReturned
    by_cases same : other = index
    · subst same
      exact returned outcome (by simpa using isReturned)
    · exact opening.returned other outcome (by simpa [same] using isReturned)
  · intro holdStored other key isHeld
    rw [← sameKey]
    exact holdStored other key (heldBefore other key isHeld)
  · intro holdStored other key isHeld
    rw [sameKey]
    exact (heldAfter other key isHeld).elim (holdStored other key) id

/-- A write of the key keeps what holds throughout. -/
theorem Opening.keyWritten {opens : StagedOpens ι} (opening : Opening metaBytes opens) (index : ι)
    (key : Bytes) : Opening metaBytes (opens.keyWritten index key) where
  storeMeta := by
    simp only [StagedOpens.keyWritten]
    rw [Disk.files_write_other _ (by simp), Disk.files_afterDraw]
    exact opening.storeMeta
  held stored isStored := by
    refine ⟨index, ?_⟩
    simpa [StagedOpens.keyWritten, OpenStage.held] using isStored
  stored other otherKey isHeld := by
    simp only [StagedOpens.keyWritten, Disk.files_write_same]
    exact Option.some_ne_none key
  returned other outcome isReturned := by
    by_cases same : other = index
    · subst same
      simp [StagedOpens.keyWritten] at isReturned
    · have stage : opens.stages other = .returned outcome := by
        simpa [StagedOpens.keyWritten, same] using isReturned
      exact opening.returned other outcome stage

/-- After it, all holders hold the stored key exactly if they did, and the key file was
absent or of that key. -/
theorem Opening.holdStored_keyWritten {opens : StagedOpens ι} {index : ι} {key : Bytes}
    (opening : Opening metaBytes opens) (unheld : (opens.stages index).held = none) :
    HoldStored (opens.keyWritten index key) ↔
      HoldStored opens ∧ (opens.disk.files .storeKey = none ∨
        opens.disk.files .storeKey = some key) := by
  have isStored : (opens.keyWritten index key).disk.files .storeKey = some key :=
    Disk.files_write_same ..
  have others : ∀ {other : ι}, other ≠ index →
      (opens.keyWritten index key).stages other = opens.stages other :=
    fun different => Function.update_of_ne different ..
  constructor
  · intro holdStored
    have holdKey : ∀ other otherKey, (opens.stages other).held = some otherKey →
        otherKey = key := by
      intro other otherKey isHeld
      have different : other ≠ index := by
        rintro rfl
        simp [unheld] at isHeld
      have stored := holdStored other otherKey (by rwa [others different])
      exact Option.some.inj (stored.symm.trans isStored)
    -- A key that was stored has a holder, who now holds the key that was written.
    have noOther : ∀ earlier, opens.disk.files .storeKey = some earlier → earlier = key := by
      intro earlier wasStored
      obtain ⟨holder, isHeld⟩ := opening.held earlier wasStored
      exact holdKey holder earlier isHeld
    refine ⟨fun other otherKey isHeld => ?_, ?_⟩
    · obtain ⟨earlier, wasStored⟩ :=
        Option.ne_none_iff_exists'.mp (opening.stored other otherKey isHeld)
      rw [wasStored, noOther earlier wasStored, holdKey other otherKey isHeld]
    · cases wasStored : opens.disk.files .storeKey with
      | none => exact .inl rfl
      | some earlier => exact .inr (congrArg some (noOther earlier wasStored))
  · rintro ⟨holdStored, noOther⟩ other otherKey isHeld
    rw [isStored]
    by_cases same : other = index
    · subst same
      simpa [StagedOpens.keyWritten, OpenStage.held] using isHeld
    · rw [others same] at isHeld
      rcases noOther with absent | stored
      · exact absurd absent (opening.stored other otherKey isHeld)
      · exact stored.symm.trans (holdStored other otherKey isHeld)

/-- One step. -/
theorem Opening.step (decoded : libs.metaJson.fromSlice metaBytes = .ok ⟨metaV, .integrity, none⟩)
    {opens later : StagedOpens ι} {index : ι} (opening : Opening metaBytes opens)
    (taken : (machine libs metaBytes).step opens index = some later) :
    Opening metaBytes later ∧
      (HoldStored later ↔ HoldStored opens ∧ WritesNoOther opens index later) := by
  obtain ⟨running, rfl⟩ := (step_eq_some libs metaBytes).mp taken
  by_cases isWriting : ∃ key, opens.stages index = .writing key
  · obtain ⟨key, isWriting⟩ := isWriting
    have unheld : (opens.stages index).held = none := by
      rw [isWriting]
      rfl
    rw [isWriting]
    refine ⟨opening.keyWritten index key, (opening.holdStored_keyWritten unheld).trans ?_⟩
    simp [WritesNoOther, isWriting]
  · have noOther : ∀ later, WritesNoOther opens index later :=
      fun _ key isKey => absurd ⟨key, isKey⟩ isWriting
    simp only [noOther, and_true]
    obtain ⟨sameKey, storeMeta, holds, returned⟩ := OpenStage.next_unwritten decoded
      opening.storeMeta (fun key isKey => isWriting ⟨key, isKey⟩) running
    exact opening.unwritten sameKey storeMeta holds returned

end Steps

/-! ### Opens after the first -/

/-- A key is stored, and no open stands between its read of the key file and its write. -/
structure Settled (opens : StagedOpens ι) : Prop where
  stored : opens.disk.files .storeKey ≠ none
  noWriter : ∀ index, opens.stages index ≠ .drawing ∧ ∀ key, opens.stages index ≠ .writing key

/-- From then on no open writes a key, in whatever order they go on. -/
theorem Settled.writesNoOther [DecidableEq ι] {opens : StagedOpens ι} (settled : Settled opens)
    (schedule : List ι) : (machine libs metaBytes).Along WritesNoOther opens schedule := by
  refine StateMachine.along_of_invariant Settled ?_ settled schedule
  intro before index later settled taken
  obtain ⟨running, rfl⟩ := (step_eq_some libs metaBytes).mp taken
  obtain ⟨notDrawing, notWriting⟩ := settled.noWriter index
  refine ⟨fun key isWriting => absurd isWriting (notWriting key), ?_, fun other => ?_⟩
  · cases stage : before.stages index with
    | drawing => exact absurd stage notDrawing
    | writing key => exact absurd stage (notWriting key)
    | describing key =>
        simp only [OpenStage.after]
        rw [Disk.files_write_other _ (by simp)]
        exact settled.stored
    | starting | reading | checking key | returned outcome => exact settled.stored
  · by_cases same : other = index
    · subst same
      simp only [Function.update_self]
      obtain ⟨key, isKey⟩ := Option.ne_none_iff_exists'.mp settled.stored
      cases stage : before.stages other with
      | drawing => exact absurd stage notDrawing
      | writing key => exact absurd stage (notWriting key)
      | starting | describing key | checking key | returned outcome => simp [OpenStage.next]
      | reading => simp [OpenStage.next, isKey]
    · simp only [Function.update_of_ne same]
      exact settled.noWriter other

/-! ### Whole runs -/

/-- A returned root holds the stored key, if every holder does. -/
theorem Opening.root_of_returned {opens : StagedOpens ι} (opening : Opening metaBytes opens)
    (holdStored : HoldStored opens) {index : ι} {root : StoreRoot}
    (isReturned : (opens.threads libs metaBytes).programs index = .ret (.ok root)) :
    ∃ key, opens.disk.files .storeKey = some key ∧ root = ⟨.integrity key⟩ := by
  have stage := OpenStage.returned_of_program isReturned
  obtain ⟨key, isOk⟩ := opening.returned index _ stage
  obtain rfl : root = ⟨.integrity key⟩ := Except.ok.inj isOk
  exact ⟨key, holdStored index key (by rw [stage]; rfl), rfl⟩

theorem Opening.keysAgree (lawful : libs.Lawful)
    (decoded : libs.metaJson.fromSlice metaBytes = .ok ⟨metaV, .integrity, none⟩)
    {opens : StagedOpens ι} (opening : Opening metaBytes opens)
    (holdStored : HoldStored opens) : KeysAgree libs (opens.threads libs metaBytes) := by
  have opensAgain : ∀ {root : StoreRoot} {payload : Bytes} {disk : Disk} {sealed : Bytes}
      {after : Disk}, (root.protector.sealBytes libs payload).run diskHandler disk =
        (.ok sealed, after) → root.protector.openBytes libs sealed = .ok payload := by
    intro root payload disk sealed after isSealed
    obtain ⟨_, _, ran, opensToPayload, _⟩ := root.protector.run_sealBytes lawful payload disk
    obtain ⟨⟨⟩, rfl⟩ := Prod.mk.inj (ran.symm.trans isSealed)
    exact opensToPayload
  refine ⟨fun index root isReturned => opening.root_of_returned holdStored isReturned, ?_, ?_⟩
  · intro index root payload disk sealed after isReturned isSealed other otherRoot otherReturned
    obtain ⟨key, stored, rfl⟩ := opening.root_of_returned holdStored isReturned
    obtain ⟨otherKey, otherStored, rfl⟩ := opening.root_of_returned holdStored otherReturned
    obtain rfl : key = otherKey := Option.some.inj (stored.symm.trans otherStored)
    exact opensAgain isSealed
  · intro index root payload disk sealed after session isReturned isSealed sameKey sameMeta
    obtain ⟨key, stored, rfl⟩ := opening.root_of_returned holdStored isReturned
    have isKey : session.files .storeKey = some key := sameKey.trans stored
    refine ⟨⟨.integrity key⟩, ?_, opensAgain isSealed⟩
    rcases opening.storeMeta with absent | written
    · exact run_openIntegrity_keyOnly isKey (sameMeta.trans absent)
    · exact IntegrityFiles.run_openIntegrity
        ⟨isKey, metaBytes, _, sameMeta.trans written, decoded, rfl⟩

/-- When all opens have returned, every holder of a key is a root. -/
theorem Opening.holdStored_of_keysAgree {opens : StagedOpens ι}
    (opening : Opening metaBytes opens)
    (returned : ∀ index, ∃ outcome,
      (opens.threads libs metaBytes).programs index = .ret outcome)
    (agree : KeysAgree libs (opens.threads libs metaBytes)) : HoldStored opens := by
  intro index key isHeld
  obtain ⟨outcome, isRet⟩ := returned index
  have stage := OpenStage.returned_of_program isRet
  obtain ⟨rootKey, rfl⟩ := opening.returned index outcome stage
  obtain ⟨stored, isStored, isRoot⟩ := agree.stored index _ isRet
  rw [stage] at isHeld
  cases isHeld
  cases isRoot
  exact isStored

end StagedOpens

section Runs

variable {libs : StoreLibs} {ι : Type} [DecidableEq ι] {disk : Disk}

/-- The opens that step as programs step as stages. -/
theorem staged_run {metaBytes : Bytes}
    (encoded : libs.metaJson.toVec ⟨metaV, .integrity, none⟩ = .ok metaBytes)
    {schedule : List ι} {after : Threads fileInterface ι Disk StoreRoot}
    (ran : (Threads.machine fun _ => diskHandler).run (openingAll ι libs disk) schedule =
      some after) :
    ∃ opens, (StagedOpens.machine libs metaBytes).run (.start disk) schedule = some opens ∧
      opens.threads libs metaBytes = after ∧
      ((Threads.machine fun _ => diskHandler).Along WritesNoOtherKey
          (openingAll ι libs disk) schedule ↔
        (StagedOpens.machine libs metaBytes).Along StagedOpens.WritesNoOther
          (.start disk) schedule) := by
  have started : openingAll ι libs disk =
      (StagedOpens.start disk).threads libs metaBytes := by
    simp only [openingAll, StagedOpens.threads, StagedOpens.start,
      OpenStage.starting_program encoded]
  rw [started] at ran ⊢
  have mapped := StateMachine.run_map (StagedOpens.threads libs metaBytes)
    (StagedOpens.step_threads libs metaBytes) (.start disk) schedule
  obtain ⟨opens, staged, same⟩ := Option.map_eq_some_iff.mp (mapped.symm.trans ran)
  refine ⟨opens, staged, same, ?_⟩
  exact StateMachine.along_map (fun _ => True) (StagedOpens.threads libs metaBytes)
    (fun opens index _ => StagedOpens.step_threads libs metaBytes opens index)
    (fun _ _ _ _ _ => trivial)
    (fun before index after => StagedOpens.writesNoOtherKey_threads before after index)
    trivial schedule

/-- Any number of integrity opens of a directory without key and metadata agree on the key
if each that writes its key finds no other.  Once all have returned, they agree exactly
then. -/
theorem keysAgree_iff_writesNoOtherKey (lawful : libs.Lawful)
    (noKey : disk.files .storeKey = none) (noMeta : disk.files .storeMeta = none)
    {schedule : List ι} {after : Threads fileInterface ι Disk StoreRoot}
    (ran : (Threads.machine fun _ => diskHandler).run (openingAll ι libs disk) schedule =
      some after) :
    ((Threads.machine fun _ => diskHandler).Along WritesNoOtherKey (openingAll ι libs disk)
        schedule → KeysAgree libs after) ∧
      ((∀ index, ∃ outcome, after.programs index = .ret outcome) →
        (KeysAgree libs after ↔
          (Threads.machine fun _ => diskHandler).Along WritesNoOtherKey
            (openingAll ι libs disk) schedule)) := by
  obtain ⟨metaBytes, encoded, decoded⟩ := lawful.metaJson ⟨metaV, .integrity, none⟩
  obtain ⟨opens, staged, rfl, sameAlong⟩ := staged_run encoded ran
  have start : StagedOpens.Opening metaBytes (StagedOpens.start disk : StagedOpens ι) :=
    .start noKey noMeta
  have opening : StagedOpens.Opening metaBytes opens :=
    StateMachine.invariant_run (StagedOpens.Opening metaBytes)
      (fun _ _ _ opening taken => (opening.step decoded taken).1) start staged
  have holdAtStart : StagedOpens.HoldStored (StagedOpens.start disk : StagedOpens ι) := by
    intro index key isHeld
    cases isHeld
  have holdStored : StagedOpens.HoldStored opens ↔
      (StagedOpens.machine libs metaBytes).Along StagedOpens.WritesNoOther
        (.start disk) schedule := by
    rw [StateMachine.kept_iff_along (StagedOpens.Opening metaBytes) StagedOpens.HoldStored
      (fun _ _ _ opening taken => opening.step decoded taken) start staged,
      and_iff_right holdAtStart]
  rw [sameAlong, ← holdStored]
  have agree := opening.keysAgree lawful decoded
  exact ⟨agree, fun returned =>
    ⟨opening.holdStored_of_keysAgree returned, agree⟩⟩

end Runs

namespace SampleLibs

/-- A directory without files whose random bytes differ. -/
def countingDisk : Disk where
  files _ := none
  entropy index := UInt8.ofNat index

/-- Both opens read before either writes its key, and both return. -/
def overlappingOpens : List (Fin 2) :=
  [0, 0, 1, 1, 0, 1, 0, 1, 0, 0, 1, 1]

theorem overlappingOpens_return :
    ∃ after, (Threads.machine fun _ => diskHandler).run
        (openingAll (Fin 2) libs countingDisk) overlappingOpens = some after ∧
      ∀ index, ∃ outcome, after.programs index = .ret outcome :=
  ⟨_, rfl, Fin.forall_fin_two.mpr ⟨⟨_, rfl⟩, ⟨_, rfl⟩⟩⟩

theorem keysAgree_iff_writesNoOtherKey_overlapping :
    ∃ after, (Threads.machine fun _ => diskHandler).run
        (openingAll (Fin 2) libs countingDisk) overlappingOpens = some after ∧
      (KeysAgree libs after ↔
        (Threads.machine fun _ => diskHandler).Along WritesNoOtherKey
          (openingAll (Fin 2) libs countingDisk) overlappingOpens) := by
  obtain ⟨after, ran, returned⟩ := overlappingOpens_return
  exact ⟨after, ran, (keysAgree_iff_writesNoOtherKey lawful rfl rfl ran).2 returned⟩

/-- The open whose key was replaced goes on with it. -/
theorem overlapping_opens_disagree :
    ∃ after, (Threads.machine fun _ => diskHandler).run
        (openingAll (Fin 2) libs countingDisk) overlappingOpens = some after ∧
      ¬ KeysAgree libs after := by
  refine ⟨_, rfl, fun agree => ?_⟩
  obtain ⟨key, isStored, isRoot⟩ := agree.stored 0 ⟨.integrity _⟩ rfl
  cases isRoot
  exact absurd isStored (by decide)

end SampleLibs

end EntangledClient
