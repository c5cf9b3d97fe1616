import EntangledClient.OpenedStores

/-!
# An initialisation that was interrupted

The first integrity open writes the key file and then the metadata.  Cut between the
two, it leaves a key without metadata: a later integrity open takes the missing metadata
for a pass and does not write it, and an encrypted open then takes itself for the first
use.  In every other order of events the mode is fixed by the first integrity open.
-/

namespace EntangledClient

open CallTree ExceptRules

/-- The directory after the first integrity open, under these faults. -/
def cutFirstOpen (libs : StoreLibs) (faults : List (Fault Failure)) (disk : Disk) : Disk :=
  ((StoreRoot.openIntegrity libs).runFaulty diskHandler faults disk).2

/-- The key was written and the metadata was not. -/
def KeyWithoutMeta (disk : Disk) : Prop :=
  disk.files .storeKey ≠ none ∧ disk.files .storeMeta = none

/-- The calls up to the write of the key were answered, and the write of the metadata was
not. -/
def CutBetweenWrites (faults : List (Fault Failure)) : Prop :=
  (∀ index < 4, (faults.drop index).headD .proceed = .proceed) ∧
    (faults.drop 4).headD .proceed ≠ .proceed

/-- The opens among the events, in order. -/
def opens (events : List DirectoryEvent) : List StoreOpen :=
  events.filterMap fun
    | .opening _ opening => some opening
    | .call _ _ => none

/-- The first open is an integrity open, and an encrypted one comes later. -/
def EncryptedAfterIntegrity (events : List DirectoryEvent) : Prop :=
  (opens events).head? = some .integrity ∧ ∃ passphrase, .encrypted passphrase ∈ opens events

/-! ### Where the first open was cut -/

section Cut

variable {libs : StoreLibs} {disk : Disk}

/-- A call before the write of the metadata was not answered, or there was no key yet. -/
theorem not_cutBetweenWrites {faults : List (Fault Failure)} {index : Nat} (early : index < 4)
    (hit : (faults.drop index).headD .proceed ≠ .proceed)
    (noKey : disk.files .storeKey = none) :
    KeyWithoutMeta disk ↔ CutBetweenWrites faults :=
  iff_of_false (fun keyOnly => keyOnly.1 noKey) (fun cut => hit (cut.1 index early))

theorem keyWithoutMeta_cutFirstOpen (lawful : libs.Lawful) (faults : List (Fault Failure))
    (noKey : disk.files .storeKey = none) (noMeta : disk.files .storeMeta = none) :
    KeyWithoutMeta (cutFirstOpen libs faults disk) ↔ CutBetweenWrites faults := by
  obtain ⟨bytes, encoded, -⟩ := lawful.metaJson ⟨metaV, .integrity, none⟩
  rw [cutFirstOpen, StoreRoot.openIntegrity_eq encoded]
  simp only [ensureDirs, readFileOpt, getrandom, writeAtomic]
  have whole : faults = faults.drop 0 := rfl
  rw [whole]
  by_cases dirs : (faults.drop 0).headD .proceed = .proceed
  swap
  · rw [Program.runFaulty_bind_unanswered diskHandler dirs]
    exact not_cutBetweenWrites (by omega) dirs noKey
  rw [Program.runFaulty_bind_answered diskHandler dirs rfl, List.tail_drop]
  by_cases read : (faults.drop 1).headD .proceed = .proceed
  swap
  · rw [Program.runFaulty_bind_unanswered diskHandler read]
    exact not_cutBetweenWrites (by omega) read noKey
  rw [Program.runFaulty_bind_answered diskHandler read rfl, List.tail_drop, noKey]
  by_cases drawn : (faults.drop 2).headD .proceed = .proceed
  swap
  · rw [Program.runFaulty_bind_unanswered diskHandler drawn]
    exact not_cutBetweenWrites (by omega) drawn noKey
  rw [Program.runFaulty_bind_answered diskHandler drawn rfl, List.tail_drop]
  by_cases keyWritten : (faults.drop 3).headD .proceed = .proceed
  swap
  · rw [Program.runFaulty_bind_unanswered diskHandler keyWritten]
    exact not_cutBetweenWrites (by omega) keyWritten noKey
  rw [Program.runFaulty_bind_answered diskHandler keyWritten rfl, List.tail_drop]
  have early : ∀ index < 4, (faults.drop index).headD .proceed = .proceed := by
    intro index early
    match index with
    | 0 => exact dirs
    | 1 => exact read
    | 2 => exact drawn
    | 3 => exact keyWritten
  by_cases metaWritten : (faults.drop 4).headD .proceed = .proceed
  swap
  · rw [Program.runFaulty_bind_unanswered diskHandler metaWritten]
    refine iff_of_true ⟨?_, ?_⟩ ⟨early, metaWritten⟩
    · rw [Disk.files_write_same]
      exact Option.some_ne_none _
    · rw [Disk.files_write_other _ (by simp)]
      exact noMeta
  rw [Program.runFaulty_bind_answered diskHandler metaWritten rfl, List.tail_drop]
  refine iff_of_false (fun keyOnly => ?_) fun cut => cut.2 metaWritten
  -- What is left reads the metadata only.
  refine Option.some_ne_none bytes (Eq.trans ?_ keyOnly.2)
  rw [runFaulty_spares (integrityWithKey_calls trivial _), Disk.files_write_same]

/-- An integrity open writes no record, however far it comes. -/
theorem cutFirstOpen_record (faults : List (Fault Failure)) (disk : Disk) {path : StorePath}
    (isRecord : path.IsRecord) : (cutFirstOpen libs faults disk).files path = disk.files path := by
  have notMeta : path ≠ .storeMeta := by
    rintro rfl
    exact isRecord
  have notKey : path ≠ .storeKey := by
    rintro rfl
    exact isRecord
  exact runFaulty_spares (openIntegrity_calls trivial (fun _ => trivial) (fun _ => trivial)
    (fun _ => notKey) fun _ => notMeta) faults disk

end Cut

namespace OpenedStores

variable {libs : StoreLibs}

/-! ### When an encrypted open finds no metadata -/

/-- The next state of an event. -/
theorem exists_step (libs : StoreLibs) (state : OpenedStores) (event : DirectoryEvent) :
    ∃ next, (machine libs).step state event = some next := by
  cases event with
  | opening store opening => exact ⟨_, rfl⟩
  | call store request =>
      cases held : state.stores store <;> simp [machine, held]

/-- A call changes neither the key, the metadata nor what was opened. -/
theorem step_call {before after : OpenedStores} {store : Nat} {request : StoreCall}
    (taken : (machine libs).step before (.call store request) = some after) :
    after.disk.files .storeKey = before.disk.files .storeKey ∧
      after.disk.files .storeMeta = before.disk.files .storeMeta ∧
      after.integrity = before.integrity := by
  cases held : before.stores store with
  | none =>
      obtain rfl : before = after := by simpa [machine, held] using taken
      exact ⟨rfl, rfl, rfl⟩
  | some root =>
      simp only [machine, held, Option.some.injEq] at taken
      subst taken
      exact ⟨call_keyAndMeta request before.disk id, call_keyAndMeta request before.disk id, rfl⟩

/-- An encrypted open leaves the key and what was opened, and there is metadata after it. -/
theorem step_encrypted (lawful : libs.Lawful) {before after : OpenedStores} {store : Nat}
    {passphrase : String}
    (taken : (machine libs).step before (.opening store (.encrypted passphrase)) = some after) :
    after.disk.files .storeKey = before.disk.files .storeKey ∧
      after.disk.files .storeMeta ≠ none ∧ after.integrity = before.integrity := by
  have notMeta : StorePath.storeKey ≠ .storeMeta := by simp
  have sameKey := run_openEncrypted_files lawful passphrase before.disk notMeta
  have written : ((StoreRoot.openEncrypted libs passphrase).run diskHandler
      before.disk).2.files .storeMeta ≠ none := by
    cases stored : before.disk.files .storeMeta with
    | none => exact (run_openEncrypted_absent lawful stored passphrase).2
    | some bytes =>
        rw [run_openEncrypted_stored stored passphrase, stored]
        exact Option.some_ne_none bytes
  obtain rfl := Option.some.inj taken
  exact ⟨sameKey, written, rfl⟩

/-- An integrity open that finds a key without metadata returns it and changes nothing. -/
theorem step_integrity_keyWithoutMeta {before after : OpenedStores} {store : Nat}
    (keyOnly : KeyWithoutMeta before.disk)
    (taken : (machine libs).step before (.opening store .integrity) = some after) :
    after.disk = before.disk ∧ after.integrity ≠ none := by
  obtain ⟨stored, absent⟩ := keyOnly
  obtain ⟨key, isKey⟩ := Option.ne_none_iff_exists'.mp stored
  have ran := @run_openIntegrity_keyOnly libs before.disk key isKey absent
  simp only [machine, StoreOpen.program, ran, if_true, Option.some.injEq] at taken
  subst taken
  refine ⟨rfl, ?_⟩
  cases before.integrity <;> simp [Except.toOption]

/-- No key is without metadata, and an integrity open that returned left a key. -/
def Complete (state : OpenedStores) : Prop :=
  ¬ KeyWithoutMeta state.disk ∧
    (state.integrity ≠ none → state.disk.files .storeKey ≠ none)

theorem Complete.step (lawful : libs.Lawful) {before after : OpenedStores}
    (complete : Complete before) {event : DirectoryEvent}
    (taken : (machine libs).step before event = some after) :
    FindsMeta before event after ∧ Complete after := by
  obtain ⟨hasMeta, hasKey⟩ := complete
  constructor
  · intro store passphrase isOpen claimed absent
    exact hasMeta ⟨hasKey claimed, absent⟩
  · cases event with
    | call store request =>
        obtain ⟨sameKey, sameMeta, sameRoot⟩ := step_call taken
        simpa only [Complete, KeyWithoutMeta, sameKey, sameMeta, sameRoot] using
          And.intro hasMeta hasKey
    | opening store opening =>
        cases opening with
        | encrypted passphrase =>
            obtain ⟨sameKey, written, sameRoot⟩ := step_encrypted lawful taken
            refine ⟨fun keyOnly => written keyOnly.2, ?_⟩
            rw [sameKey, sameRoot]
            exact hasKey
        | integrity =>
            cases stored : before.disk.files .storeKey with
            | none =>
                obtain ⟨key, disk, ran, files, -⟩ := run_openIntegrity_first lawful stored
                obtain ⟨bytes, -, held, -⟩ := files.storeMeta
                simp only [machine, StoreOpen.program, ran, Option.some.injEq] at taken
                subst taken
                refine ⟨fun keyOnly => ?_, fun _ => ?_⟩
                · exact Option.some_ne_none bytes (held.symm.trans keyOnly.2)
                · simp only [files.storeKey]
                  exact Option.some_ne_none key
            | some key =>
                have ran := @run_openIntegrity_keyed libs before.disk key stored
                simp only [machine, StoreOpen.program, ran, Option.some.injEq] at taken
                subst taken
                refine ⟨hasMeta, fun _ => ?_⟩
                simp only [stored]
                exact Option.some_ne_none key

theorem opens_call (store : Nat) (request : StoreCall) (events : List DirectoryEvent) :
    opens (.call store request :: events) = opens events :=
  rfl

theorem opens_opening (store : Nat) (opening : StoreOpen) (events : List DirectoryEvent) :
    opens (.opening store opening :: events) = opening :: opens events :=
  rfl

/-- A step of the machine, once the next state is known. -/
theorem along_cons_iff {property : OpenedStores → DirectoryEvent → OpenedStores → Prop}
    {before after : OpenedStores} {event : DirectoryEvent} {events : List DirectoryEvent}
    (taken : (machine libs).step before event = some after) :
    (machine libs).Along property before (event :: events) ↔
      property before event after ∧ (machine libs).Along property after events := by
  simp [StateMachine.Along, taken]

/-- After an integrity open that returned a key without metadata. -/
theorem findsMeta_iff_claimed {state : OpenedStores}
    (keyOnly : KeyWithoutMeta state.disk) (claimed : state.integrity ≠ none)
    (events : List DirectoryEvent) :
    (machine libs).Along FindsMeta state events ↔
      ¬ ∃ passphrase, .encrypted passphrase ∈ opens events := by
  induction events generalizing state with
  | nil => simp [StateMachine.Along, opens]
  | cons event events ih =>
      obtain ⟨next, taken⟩ := exists_step libs state event
      rw [along_cons_iff taken]
      cases event with
      | call store request =>
          obtain ⟨sameKey, sameMeta, sameRoot⟩ := step_call taken
          have finds : FindsMeta state (.call store request) next := by
            intro _ _ isOpen
            cases isOpen
          rw [opens_call, and_iff_right finds]
          refine ih ?_ (sameRoot ▸ claimed)
          rwa [KeyWithoutMeta, sameKey, sameMeta]
      | opening store opening =>
          rw [opens_opening]
          cases opening with
          | encrypted passphrase =>
              refine iff_of_false (fun along => ?_) (not_not_intro ⟨passphrase, by simp⟩)
              exact along.1 store passphrase rfl claimed keyOnly.2
          | integrity =>
              obtain ⟨sameDisk, stillClaimed⟩ := step_integrity_keyWithoutMeta keyOnly taken
              have finds : FindsMeta state (.opening store .integrity) next := by
                intro _ _ isOpen
                cases isOpen
              rw [and_iff_right finds, ih (sameDisk ▸ keyOnly) stillClaimed]
              simp

/-- A run from a state without an integrity store. -/
theorem findsMeta_iff (lawful : libs.Lawful) {state : OpenedStores}
    (unclaimed : state.integrity = none) (events : List DirectoryEvent) :
    (machine libs).Along FindsMeta state events ↔
      ¬ (KeyWithoutMeta state.disk ∧ EncryptedAfterIntegrity events) := by
  by_cases keyOnly : KeyWithoutMeta state.disk
  · rw [not_and, imp_iff_right keyOnly]
    induction events generalizing state with
    | nil => simp [StateMachine.Along, EncryptedAfterIntegrity, opens]
    | cons event events ih =>
        obtain ⟨next, taken⟩ := exists_step libs state event
        rw [along_cons_iff taken]
        have finds : FindsMeta state event next := by
          intro _ _ _ claimed
          exact absurd unclaimed claimed
        rw [and_iff_right finds]
        cases event with
        | call store request =>
            obtain ⟨sameKey, sameMeta, sameRoot⟩ := step_call taken
            rw [ih (sameRoot.trans unclaimed) (by rwa [KeyWithoutMeta, sameKey, sameMeta])]
            rfl
        | opening store opening =>
            cases opening with
            | integrity =>
                obtain ⟨sameDisk, claimed⟩ := step_integrity_keyWithoutMeta keyOnly taken
                rw [findsMeta_iff_claimed (sameDisk ▸ keyOnly) claimed]
                simp [EncryptedAfterIntegrity, opens_opening]
            | encrypted passphrase =>
                obtain ⟨-, written, sameRoot⟩ := step_encrypted lawful taken
                have complete : Complete next := by
                  refine ⟨fun without => written without.2, fun claimed => ?_⟩
                  exact absurd (sameRoot.trans unclaimed) claimed
                refine iff_of_true ?_ (by simp [EncryptedAfterIntegrity, opens_opening])
                exact StateMachine.along_of_invariant Complete
                  (fun _ _ _ complete taken => complete.step lawful taken) complete events
  · refine iff_of_true ?_ fun captured => keyOnly captured.1
    have complete : Complete state := ⟨keyOnly, fun claimed => absurd unclaimed claimed⟩
    exact StateMachine.along_of_invariant Complete
      (fun _ _ _ complete taken => complete.step lawful taken) complete events

theorem unclaimed_start (libs : StoreLibs) {disk : Disk}
    (noRecords : ∀ path : StorePath, path.IsRecord → disk.files path = none) :
    Unclaimed libs (start disk) where
  integrity := rfl
  stores store root isRoot := by cases isRoot
  holds key := by
    refine ⟨fun site => ?_, fun publisher => ?_⟩
    · rw [start, noRecords (.identity site) trivial]
      exact .absent
    · rw [start, noRecords (.history publisher) trivial]
      exact .absent

end OpenedStores

/-- After a first open under any faults, the integrity store is kept from the first
integrity open that returns exactly if the faults did not cut between the two writes, or
the next open is an encrypted one, or none is. -/
theorem keepsIntegrity_iff_notCaptured {libs : StoreLibs} (lawful : libs.Lawful)
    (apart : libs.EnvelopesApart) {disk : Disk} (empty : ∀ path, disk.files path = none)
    (faults : List (Fault Failure)) (events : List DirectoryEvent) :
    (OpenedStores.machine libs).Along (OpenedStores.KeepsIntegrity libs)
        (.start (cutFirstOpen libs faults disk)) events ↔
      ¬ (CutBetweenWrites faults ∧ EncryptedAfterIntegrity events) := by
  have noRecords : ∀ path : StorePath, path.IsRecord →
      (cutFirstOpen libs faults disk).files path = none :=
    fun path isRecord => (cutFirstOpen_record faults disk isRecord).trans (empty path)
  have sound : OpenedStores.Sound libs (.start (cutFirstOpen libs faults disk)) :=
    .inl (OpenedStores.unclaimed_start libs noRecords)
  rw [sound.keepsIntegrity_iff lawful apart, OpenedStores.findsMeta_iff lawful rfl,
    ← keyWithoutMeta_cutFirstOpen lawful faults (empty _) (empty _)]
  rfl

namespace SampleLibs

/-- The first open stops before it writes the metadata. -/
def cutAtMeta : List (Fault Failure) :=
  [.proceed, .proceed, .proceed, .proceed, .stop]

/-- An integrity store is opened and pins a site, and then an encrypted one is opened. -/
def capturedEvents : List DirectoryEvent := [
  .opening 0 .integrity,
  .call 0 (.apply legacySite (.pinIdentity (seedKey 1))),
  .opening 1 (.encrypted "passphrase")]

theorem keepsIntegrity_iff_notCaptured_cutAtMeta :
    (OpenedStores.machine markedLibs).Along (OpenedStores.KeepsIntegrity markedLibs)
        (.start (cutFirstOpen markedLibs cutAtMeta emptyDisk)) capturedEvents ↔
      ¬ (CutBetweenWrites cutAtMeta ∧ EncryptedAfterIntegrity capturedEvents) :=
  keepsIntegrity_iff_notCaptured markedLibs_lawful markedLibs_apart (fun _ => rfl) _ _

/-- The encrypted open captures the directory: it writes the metadata, and the integrity
store that pinned the site can no longer be opened. -/
theorem interrupted_init_captured :
    ¬ (OpenedStores.machine markedLibs).Along (OpenedStores.KeepsIntegrity markedLibs)
        (.start (cutFirstOpen markedLibs cutAtMeta emptyDisk)) capturedEvents := by
  have noRecords : ∀ path : StorePath, path.IsRecord →
      (cutFirstOpen markedLibs cutAtMeta emptyDisk).files path = none :=
    fun path isRecord => cutFirstOpen_record cutAtMeta emptyDisk isRecord
  have sound : OpenedStores.Sound markedLibs
      (.start (cutFirstOpen markedLibs cutAtMeta emptyDisk)) :=
    .inl (OpenedStores.unclaimed_start markedLibs noRecords)
  rw [sound.keepsIntegrity_iff markedLibs_lawful markedLibs_apart,
    OpenedStores.findsMeta_iff markedLibs_lawful rfl]
  refine not_not_intro ⟨?_, rfl, "passphrase", by simp [opens, capturedEvents]⟩
  exact (keyWithoutMeta_cutFirstOpen markedLibs_lawful cutAtMeta rfl rfl).mpr
    ⟨by decide, by decide⟩

end SampleLibs

end EntangledClient
