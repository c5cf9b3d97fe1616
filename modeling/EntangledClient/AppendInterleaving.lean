import EntangledClient.SampleLibs
import EntangledClient.Threads

/-!
# Appends that interleave

An append reads the history of a publisher, puts its record in front and replaces
the file.  Nothing keeps another append from replacing the file in between, and
its record is then overwritten.
-/

namespace EntangledClient

open CallTree ExceptRules

/-- The directory, the appends that replaced the history, the last one first, and those that
each append found when it read the history. -/
structure TrackedDisk (ι : Type) where
  disk : Disk
  replacements : List ι
  found : ι → List ι

namespace TrackedDisk

variable {ι : Type} [DecidableEq ι]

def start (disk : Disk) : TrackedDisk ι where
  disk
  replacements := []
  found _ := []

/-- The file calls of one append. -/
def handler (index : ι) : Handler fileInterface (TrackedDisk ι) := fun request tracked =>
  let (reply, disk) := diskHandler request tracked.disk
  match request with
  | .readFileOpt _ =>
      (reply, { tracked with
        disk
        found := Function.update tracked.found index tracked.replacements })
  | .writeAtomic _ _ =>
      (reply, { tracked with disk, replacements := index :: tracked.replacements })
  | .ensureDirs | .getrandom _ => (reply, { tracked with disk })

end TrackedDisk

section Appends

variable (libs : StoreLibs) (root : StoreRoot) (publisher : PublisherPubkey)

/-- Appends to the history of one publisher, before the first step of any. -/
def appending {ι σ : Type} (records : ι → RetainedManifestRecord) (state : σ) :
    Threads fileInterface ι σ Unit where
  state
  programs index := FileHistoryStore.appendRecord libs root publisher (records index)

/-- The history is the one that the appends leave in some sequential order. -/
def NothingLost {n : Nat} (records : Fin n → RetainedManifestRecord)
    (initial : PublisherHistory) (disk : Disk) : Prop :=
  ∃ order : List (Fin n), order.Perm (List.finRange n) ∧
    root.historyFile libs (disk.files (.history publisher)) =
      .ok (order.foldl (fun history index => history.push (records index)) initial)

/-- An append that replaces the history replaces the one that it read. -/
def ReplacesWhatItRead {ι : Type} (before : Threads fileInterface ι (TrackedDisk ι) Unit)
    (index : ι) (_after : Threads fileInterface ι (TrackedDisk ι) Unit) : Prop :=
  ∀ path bytes resume, before.programs index = .call (.writeAtomic path bytes) resume →
    before.state.found index = before.state.replacements

/-! ### What is left of an append that has read -/

/-- A program that draws random bytes, replaces the history by these records, and returns. -/
def WillReplace (records : List RetainedManifestRecord) : FileProgram Unit → Prop
  | .call (.writeAtomic path bytes) resume =>
      path = .history publisher ∧ root.historyFile libs (some bytes) = .ok ⟨records⟩ ∧
        resume (.ok ()) = .ret (.ok ())
  | .call (.getrandom length) resume =>
      ∀ drawn : FixedBytes length, WillReplace records (resume (.ok drawn))
  | _ => False

variable {libs} {root} {publisher}

theorem willReplace_write {outcome : Except Failure Bytes} {sealed : Bytes}
    {records : List RetainedManifestRecord} (isSealed : outcome = .ok sealed)
    (holds : root.historyFile libs (some sealed) = .ok ⟨records⟩) :
    WillReplace libs root publisher records
      (ofResult outcome >>= writeAtomic (.history publisher)) := by
  rw [isSealed]
  exact ⟨rfl, holds, rfl⟩

/-- A protected write of a history replaces it by its records. -/
theorem writeProtected_willReplace (lawful : libs.Lawful) {payload : Bytes}
    {records : List RetainedManifestRecord}
    (opens : ∀ sealed, root.protector.openBytes libs sealed = .ok payload →
      root.historyFile libs (some sealed) = .ok ⟨records⟩) :
    WillReplace libs root publisher records
      (root.writeProtected libs (.history publisher) payload) := by
  obtain ⟨protector⟩ := root
  have seals := protector.sealBytes_concludes lawful payload
  cases protector with
  | integrity key =>
      obtain ⟨tag, hmac⟩ := lawful.hmac key payload
      obtain ⟨sealed, encoded, _⟩ := lawful.integrityJson {
        v := envelopeV
        payloadB64 := libs.base64Encode payload
        macB64 := libs.base64Encode tag }
      refine willReplace_write ?_ (opens sealed (seals sealed ?_))
      · simp [hmac, encoded]
      · simp [hmac, encoded]
  | encrypted key =>
      intro nonce
      obtain ⟨ct, encrypted, _⟩ := lawful.aead key nonce payload
      obtain ⟨sealed, encoded, _⟩ := lawful.aeadJson {
        v := aeadV
        nonceB64 := libs.base64Encode nonce.bytes
        ctB64 := libs.base64Encode ct }
      refine willReplace_write ?_ (opens sealed (seals (.ok nonce) sealed ?_))
      · simp [encrypted, encoded]
      · simp [encrypted, encoded]

/-- The rest of an append, once it has read a history of these records. -/
theorem appendRecord_reads (lawful : libs.Lawful) (record : RetainedManifestRecord) :
    ∃ resume, FileHistoryStore.appendRecord libs root publisher record =
        .call (.readFileOpt (.history publisher)) resume ∧
      ∀ file records, root.historyFile libs file = .ok ⟨records⟩ →
        WillReplace libs root publisher (record :: records) (resume (.ok file)) := by
  simp only [FileHistoryStore.appendRecord, FileHistoryStore.loadDto_eq]
  refine ⟨_, rfl, fun file records holds => ?_⟩
  obtain ⟨found, read, entries⟩ := StoreRoot.historyFile_entries holds
  obtain ⟨bytes, encoded, decoded⟩ := lawful.historyJson {
    v := historyV
    records := ManifestRecordDto.fromRecord record :: (found.map (·.records)).getD [] }
  have rest : WillReplace libs root publisher (record :: records)
      (root.writeProtected libs (.history publisher) bytes) := by
    refine writeProtected_willReplace lawful fun sealed opened => ?_
    refine StoreRoot.historyFile_of_opened opened decoded ?_
    simp [entries]
  simp only [ok_bind, read]
  change WillReplace libs root publisher (record :: records)
    (ofResult (mapErr _ (libs.historyJson.toVec _)) >>=
      root.writeProtected libs (.history publisher))
  rw [encoded]
  exact rest

/-! ### The invariant of a run -/

section Invariant

variable {ι : Type}

/-- Where an append stands: it has not read, or it will replace the history by its record
and what it read, or it has returned. -/
def Standing (libs : StoreLibs) (root : StoreRoot) (publisher : PublisherPubkey)
    (records : ι → RetainedManifestRecord) (initial : PublisherHistory)
    (tracked : TrackedDisk ι) (now : List RetainedManifestRecord) (index : ι)
    (program : FileProgram Unit) : Prop :=
  program = FileHistoryStore.appendRecord libs root publisher (records index) ∨
  (∃ read, WillReplace libs root publisher (records index :: read) program ∧
    tracked.found index <:+ tracked.replacements ∧
    read.length ≤ initial.records.length + (tracked.found index).length ∧
    (tracked.found index = tracked.replacements → read = now)) ∨
  program = .ret (.ok ())

/-- What holds throughout a run, with the records of the history.  No replacement adds more
than one record, and if none was lost, they are there in the order of the replacements. -/
structure Appending (libs : StoreLibs) (root : StoreRoot) (publisher : PublisherPubkey)
    (records : ι → RetainedManifestRecord) (initial : PublisherHistory)
    (threads : Threads fileInterface ι (TrackedDisk ι) Unit)
    (now : List RetainedManifestRecord) : Prop where
  stored : root.historyFile libs (threads.state.disk.files (.history publisher)) = .ok ⟨now⟩
  bounded : now.length ≤ initial.records.length + threads.state.replacements.length
  ordered : now.length = initial.records.length + threads.state.replacements.length →
    now = threads.state.replacements.map records ++ initial.records
  nodup : threads.state.replacements.Nodup
  returned : ∀ index, index ∈ threads.state.replacements ↔
    threads.programs index = .ret (.ok ())
  standing : ∀ index, Standing libs root publisher records initial threads.state now index
    (threads.programs index)

/-- No record was lost so far. -/
def Intact (libs : StoreLibs) (root : StoreRoot) (publisher : PublisherPubkey)
    (initial : PublisherHistory) (threads : Threads fileInterface ι (TrackedDisk ι) Unit) :
    Prop :=
  ∃ now, root.historyFile libs (threads.state.disk.files (.history publisher)) = .ok ⟨now⟩ ∧
    now.length = initial.records.length + threads.state.replacements.length

variable {records : ι → RetainedManifestRecord} {initial : PublisherHistory}
  {threads next : Threads fileInterface ι (TrackedDisk ι) Unit}
  {now : List RetainedManifestRecord} {index : ι}

theorem Appending.intact_iff
    (appending : Appending libs root publisher records initial threads now) :
    Intact libs root publisher initial threads ↔
      now.length = initial.records.length + threads.state.replacements.length := by
  constructor
  · rintro ⟨other, stored, length⟩
    have same := Except.ok.inj (appending.stored.symm.trans stored)
    obtain rfl : now = other := congrArg PublisherHistory.records same
    exact length
  · intro length
    exact ⟨now, appending.stored, length⟩

/-- A replacement leaves the other appends where they are; those that have read did not
read the new history. -/
theorem Standing.replaced {tracked : TrackedDisk ι} {program : FileProgram Unit}
    (standing : Standing libs root publisher records initial tracked now index program)
    {disk : Disk} (replacer : ι) (after : List RetainedManifestRecord) :
    Standing libs root publisher records initial
      { tracked with disk, replacements := replacer :: tracked.replacements } after index
      program := by
  rcases standing with unread | ⟨read, will, suffix, length, _⟩ | returned
  · exact .inl unread
  · refine .inr (.inl ⟨read, will, suffix.trans (List.suffix_cons ..), length, fun same => ?_⟩)
    have shorter := suffix.length_le
    have longer := congrArg List.length same
    simp only [List.length_cons] at longer
    omega
  · exact .inr (.inr returned)

/-- A step that replaces nothing leaves the other appends where they are. -/
theorem Standing.kept {tracked after : TrackedDisk ι} {program : FileProgram Unit}
    (standing : Standing libs root publisher records initial tracked now index program)
    (sameFound : after.found index = tracked.found index)
    (sameReplacements : after.replacements = tracked.replacements) :
    Standing libs root publisher records initial after now index program := by
  unfold Standing
  rw [sameFound, sameReplacements]
  exact standing

/-- A replacement adds a record to all that was there exactly if nothing was lost before and
the append read what it replaces. -/
theorem length_replaced {read : List RetainedManifestRecord} {found replacements : List ι}
    {length : Nat} (suffix : found <:+ replacements)
    (bounded : read.length ≤ length + found.length)
    (current : found = replacements → read = now) :
    read.length = length + replacements.length ↔
      now.length = length + replacements.length ∧ found = replacements := by
  constructor
  · intro isLength
    have same : found = replacements := suffix.eq_of_length_le (by omega)
    rw [← current same]
    exact ⟨isLength, same⟩
  · rintro ⟨isLength, same⟩
    rw [current same]
    exact isLength

section Steps

variable [DecidableEq ι]

/-- A step that replaces nothing: an append reads, or draws random bytes. -/
theorem Appending.unreplaced {request : FileCall}
    {resume : fileInterface.Reply request → FileProgram Unit} {reply : fileInterface.Reply request}
    (appending : Appending libs root publisher records initial threads now)
    (isProgram : threads.programs index = .call request resume)
    {after : TrackedDisk ι} (sameFiles : after.disk.files = threads.state.disk.files)
    (sameReplacements : after.replacements = threads.state.replacements)
    (sameFound : ∀ other ≠ index, after.found other = threads.state.found other)
    (stands : Standing libs root publisher records initial after now index (resume reply))
    (goesOn : resume reply ≠ .ret (.ok ())) :
    Appending libs root publisher records initial
      ⟨after, Function.update threads.programs index (resume reply)⟩ now where
  stored := by rw [sameFiles]; exact appending.stored
  bounded := by rw [sameReplacements]; exact appending.bounded
  ordered := by rw [sameReplacements]; exact appending.ordered
  nodup := by rw [sameReplacements]; exact appending.nodup
  returned := by
    intro other
    rw [sameReplacements, appending.returned other]
    by_cases same : other = index
    · subst same
      simp [isProgram, goesOn]
    · simp only [Function.update_of_ne same]
  standing := by
    intro other
    by_cases same : other = index
    · subst same
      simpa only [Function.update_self] using stands
    · simp only [Function.update_of_ne same]
      exact (appending.standing other).kept (sameFound other same) sameReplacements

/-- A program that will replace the history has not returned. -/
theorem WillReplace.ne_ret {replacing : List RetainedManifestRecord}
    {program : FileProgram Unit} (will : WillReplace libs root publisher replacing program) :
    program ≠ .ret (.ok ()) := by
  rintro rfl
  exact will

/-- An append replaces the history. -/
theorem Appending.replaced {path : StorePath} {bytes : Bytes}
    {resume : fileInterface.Reply (.writeAtomic path bytes) → FileProgram Unit}
    (appending : Appending libs root publisher records initial threads now)
    (isProgram : threads.programs index = .call (.writeAtomic path bytes) resume)
    {read : List RetainedManifestRecord}
    (will : WillReplace libs root publisher (records index :: read)
      (.call (.writeAtomic path bytes) resume))
    (suffix : threads.state.found index <:+ threads.state.replacements)
    (bounded : read.length ≤ initial.records.length + (threads.state.found index).length)
    (current : threads.state.found index = threads.state.replacements → read = now) :
    Appending libs root publisher records initial
      { state := (TrackedDisk.handler index (.writeAtomic path bytes) threads.state).2
        programs := Function.update threads.programs index (resume (.ok ())) }
      (records index :: read) := by
  obtain ⟨rfl, holds, returns⟩ := will
  have unreturned : index ∉ threads.state.replacements := by
    rw [appending.returned, isProgram]
    exact fun isRet => by cases isRet
  have grows := length_replaced suffix bounded current
  refine ⟨?_, ?_, ?_, List.nodup_cons.mpr ⟨unreturned, appending.nodup⟩, ?_, ?_⟩
  · simpa [TrackedDisk.handler, diskHandler] using holds
  · have shorter := suffix.length_le
    simp only [TrackedDisk.handler, List.length_cons]
    omega
  · intro length
    simp only [TrackedDisk.handler, List.length_cons] at length
    obtain ⟨isLength, same⟩ := grows.mp (by omega)
    rw [current same]
    simp only [TrackedDisk.handler, List.map_cons, List.cons_append]
    rw [← appending.ordered isLength]
  · intro other
    by_cases same : other = index
    · subst same
      simp [TrackedDisk.handler, returns]
    · simp only [TrackedDisk.handler, List.mem_cons, same, false_or, Function.update_of_ne same]
      exact appending.returned other
  · intro other
    by_cases same : other = index
    · subst same
      simp only [Function.update_self]
      exact .inr (.inr returns)
    · simp only [Function.update_of_ne same]
      exact (appending.standing other).replaced index (records index :: read)

/-- One step of the appends: it keeps what is there exactly if a replacement replaces what
its append read. -/
theorem Appending.step (lawful : libs.Lawful)
    (appending : Appending libs root publisher records initial threads now)
    (taken : (Threads.machine TrackedDisk.handler).step threads index = some next) :
    ∃ after, Appending libs root publisher records initial next after ∧
      (after.length = initial.records.length + next.state.replacements.length ↔
        now.length = initial.records.length + threads.state.replacements.length ∧
          ReplacesWhatItRead threads index next) := by
  obtain ⟨request, resume, isProgram, rfl⟩ := Threads.step_eq_some.mp taken
  have replacesNothing : (∀ path bytes, request ≠ .writeAtomic path bytes) →
      ∀ after, ReplacesWhatItRead threads index after := by
    intro otherCall after path bytes _ isWrite
    have sameCall := isProgram.symm.trans isWrite
    injection sameCall with isRequest
    exact absurd isRequest (otherCall path bytes)
  rcases appending.standing index with unread | ⟨read, will, suffix, bounded, current⟩ | returned
  · obtain ⟨reads, isCall, willReplace⟩ := @appendRecord_reads libs root publisher lawful
      (records index)
    have sameCall := (unread.trans isCall).symm.trans isProgram
    cases sameCall
    have will := willReplace _ _ appending.stored
    refine ⟨now, appending.unreplaced isProgram rfl rfl (fun other different => ?_)
      (.inr (.inl ⟨now, will, ?_, ?_, fun _ => rfl⟩)) will.ne_ret, ?_⟩
    · simp [TrackedDisk.handler, different]
    · simp [TrackedDisk.handler]
    · simpa [TrackedDisk.handler] using appending.bounded
    · simp [TrackedDisk.handler, replacesNothing]
  · rw [isProgram] at will
    cases request with
    | ensureDirs | readFileOpt path => exact will.elim
    | getrandom length =>
        have goesOn := will (threads.state.disk.drawn length)
        refine ⟨now, appending.unreplaced isProgram rfl rfl (fun _ _ => rfl)
          (.inr (.inl ⟨read, goesOn, suffix, bounded, current⟩)) goesOn.ne_ret, ?_⟩
        simp [TrackedDisk.handler, replacesNothing]
    | writeAtomic path bytes =>
        refine ⟨_, appending.replaced isProgram will suffix bounded current, ?_⟩
        have replaces : ∀ after, ReplacesWhatItRead threads index after ↔
            threads.state.found index = threads.state.replacements :=
          fun after => ⟨fun replaces => replaces path bytes resume isProgram,
            fun same _ _ _ _ => same⟩
        have grows := length_replaced suffix bounded current
        rw [replaces, ← grows]
        simp only [TrackedDisk.handler, List.length_cons]
        omega
  · rw [isProgram] at returned
    cases returned

end Steps

/-- Before the first step. -/
theorem appending_start (lawful : libs.Lawful) (records : ι → RetainedManifestRecord)
    {disk : Disk}
    (loads : root.historyFile libs (disk.files (.history publisher)) = .ok initial) :
    Appending libs root publisher records initial
      (appending libs root publisher records (TrackedDisk.start disk)) initial.records where
  stored := loads
  bounded := Nat.le_refl _
  ordered _ := rfl
  nodup := List.nodup_nil
  returned := by
    intro index
    obtain ⟨resume, isCall, _⟩ := @appendRecord_reads libs root publisher lawful (records index)
    simp [appending, TrackedDisk.start, isCall]
  standing _ := .inl rfl

end Invariant

/-! ### Whole runs -/

theorem foldl_push {ι : Type} (records : ι → RetainedManifestRecord) (order : List ι)
    (initial : PublisherHistory) :
    order.foldl (fun history index => history.push (records index)) initial =
      ⟨order.reverse.map records ++ initial.records⟩ := by
  induction order generalizing initial with
  | nil => rfl
  | cons index order ih =>
      rw [List.foldl_cons, ih]
      simp [PublisherHistory.push]

variable {n : Nat} {records : Fin n → RetainedManifestRecord} {initial : PublisherHistory}

/-- When all appends have returned, nothing is lost exactly if each has added a record. -/
theorem Appending.nothingLost_iff
    {threads : Threads fileInterface (Fin n) (TrackedDisk (Fin n)) Unit}
    {now : List RetainedManifestRecord}
    (appending : Appending libs root publisher records initial threads now)
    (returned : ∀ index, threads.programs index = .ret (.ok ())) :
    NothingLost libs root publisher records initial threads.state.disk ↔
      Intact libs root publisher initial threads := by
  have everyAppend : threads.state.replacements.Perm (List.finRange n) := by
    refine (List.perm_ext_iff_of_nodup appending.nodup (List.nodup_finRange n)).mpr fun index => ?_
    simp [appending.returned, returned]
  rw [appending.intact_iff]
  constructor
  · rintro ⟨order, isOrder, stored⟩
    rw [foldl_push] at stored
    have same := Except.ok.inj (appending.stored.symm.trans stored)
    have isNow : now = order.reverse.map records ++ initial.records :=
      congrArg PublisherHistory.records same
    have length : order.length = threads.state.replacements.length :=
      (isOrder.trans everyAppend.symm).length_eq
    simp only [isNow, List.length_append, List.length_map, List.length_reverse]
    omega
  · intro length
    refine ⟨threads.state.replacements.reverse,
      (List.reverse_perm _).trans everyAppend, ?_⟩
    rw [foldl_push, List.reverse_reverse, ← appending.ordered length]
    exact appending.stored

/-- A run of appends is a run of tracked appends. -/
theorem tracked_run {ι : Type} [DecidableEq ι] (records : ι → RetainedManifestRecord)
    {disk : Disk} {schedule : List ι} {after : Threads fileInterface ι Disk Unit}
    (ran : (Threads.machine fun _ => diskHandler).run
      (appending libs root publisher records disk) schedule = some after) :
    ∃ tracked, (Threads.machine TrackedDisk.handler).run
        (appending libs root publisher records (TrackedDisk.start disk)) schedule =
          some tracked ∧
      tracked.mapState TrackedDisk.disk = after := by
  have commutes : ∀ (index : ι) (request : FileCall) (tracked : TrackedDisk ι),
      diskHandler request tracked.disk =
        ((TrackedDisk.handler index request tracked).1,
          (TrackedDisk.handler index request tracked).2.disk) := by
    intro index request tracked
    cases request <;> rfl
  have mapped := StateMachine.run_map (Threads.mapState TrackedDisk.disk)
    (fun threads index => Threads.step_mapState commutes threads index)
    (appending libs root publisher records (TrackedDisk.start disk)) schedule
  have isRun := mapped.symm.trans ran
  obtain ⟨tracked, trackedRan, same⟩ := Option.map_eq_some_iff.mp isRun
  exact ⟨tracked, trackedRan, same⟩

/-- A run loses nothing exactly if each append replaces the history that it read. -/
theorem intact_iff_along (lawful : libs.Lawful)
    {disk : Disk} (loads : root.historyFile libs (disk.files (.history publisher)) = .ok initial)
    {schedule : List (Fin n)} {tracked : Threads fileInterface (Fin n) (TrackedDisk (Fin n)) Unit}
    (ran : (Threads.machine TrackedDisk.handler).run
      (appending libs root publisher records (TrackedDisk.start disk)) schedule = some tracked) :
    (∃ now, Appending libs root publisher records initial tracked now) ∧
      (Intact libs root publisher initial tracked ↔
        (Threads.machine TrackedDisk.handler).Along ReplacesWhatItRead
          (appending libs root publisher records (TrackedDisk.start disk)) schedule) := by
  have start := appending_start lawful records loads
  let invariant := fun threads => ∃ now, Appending libs root publisher records initial threads now
  have keeps : ∀ threads index next, invariant threads →
      (Threads.machine TrackedDisk.handler).step threads index = some next →
      invariant next ∧
        (Intact libs root publisher initial next ↔
          Intact libs root publisher initial threads ∧
            ReplacesWhatItRead threads index next) := by
    rintro threads index next ⟨now, holds⟩ taken
    obtain ⟨after, holdsAfter, grows⟩ := holds.step lawful taken
    exact ⟨⟨after, holdsAfter⟩, by rw [holdsAfter.intact_iff, holds.intact_iff, grows]⟩
  have holdsAfter : invariant tracked := StateMachine.invariant_run invariant
    (fun threads index next holds taken => (keeps threads index next holds taken).1)
    ⟨_, start⟩ ran
  have intactAtStart := start.intact_iff.mpr rfl
  refine ⟨holdsAfter, ?_⟩
  rw [StateMachine.kept_iff_along invariant _ keeps ⟨_, start⟩ ran, and_iff_right intactAtStart]

/-- When any number of appends to one history have returned `Ok`, no record was lost exactly
if each append replaced the history that it had read. -/
theorem nothingLost_iff_replacesWhatItRead (lawful : libs.Lawful) (root : StoreRoot)
    {disk : Disk} {publisher : PublisherPubkey}
    (loads : root.historyFile libs (disk.files (.history publisher)) = .ok initial)
    (records : Fin n → RetainedManifestRecord) {schedule : List (Fin n)}
    {after : Threads fileInterface (Fin n) Disk Unit}
    (ran : (Threads.machine fun _ => diskHandler).run
      (appending libs root publisher records disk) schedule = some after)
    (returned : ∀ index, after.programs index = .ret (.ok ())) :
    NothingLost libs root publisher records initial after.state ↔
      (Threads.machine TrackedDisk.handler).Along ReplacesWhatItRead
        (appending libs root publisher records (TrackedDisk.start disk)) schedule := by
  obtain ⟨tracked, trackedRan, rfl⟩ := tracked_run records ran
  obtain ⟨⟨now, holds⟩, intact⟩ := intact_iff_along lawful loads trackedRan
  exact (holds.nothingLost_iff returned).trans intact

end Appends

namespace SampleLibs

/-- The records of two manifests. -/
def sampleRecord (index : Fin 2) : RetainedManifestRecord where
  issuedAt := 100 + index.val
  runtimePubkey := ⟨seedBytes 3⟩
  manifestPayloadHash := seedBytes 5

/-- Both appends read before either replaces the history, and both return. -/
theorem overlapping_return :
    ∃ after, (Threads.machine fun _ => diskHandler).run
        (appending libs root (seedKey 1) sampleRecord emptyDisk) [0, 1, 0, 1] = some after ∧
      ∀ index, after.programs index = .ret (.ok ()) :=
  ⟨_, rfl, Fin.forall_fin_two.mpr ⟨rfl, rfl⟩⟩

theorem emptyDisk_history :
    root.historyFile libs (emptyDisk.files (.history (seedKey 1))) = .ok .new :=
  rfl

theorem nothingLost_iff_replacesWhatItRead_overlapping :
    ∃ after, (Threads.machine fun _ => diskHandler).run
        (appending libs root (seedKey 1) sampleRecord emptyDisk) [0, 1, 0, 1] = some after ∧
      (NothingLost libs root (seedKey 1) sampleRecord .new after.state ↔
        (Threads.machine TrackedDisk.handler).Along ReplacesWhatItRead
          (appending libs root (seedKey 1) sampleRecord (TrackedDisk.start emptyDisk))
          [0, 1, 0, 1]) := by
  obtain ⟨after, ran, returned⟩ := overlapping_return
  exact ⟨after, ran, nothingLost_iff_replacesWhatItRead lawful root emptyDisk_history
    sampleRecord ran returned⟩

/-- The record of the first append is overwritten. -/
theorem record_lost :
    ∃ after, (Threads.machine fun _ => diskHandler).run
        (appending libs root (seedKey 1) sampleRecord emptyDisk) [0, 1, 0, 1] = some after ∧
      (∀ index, after.programs index = .ret (.ok ())) ∧
      ¬ NothingLost libs root (seedKey 1) sampleRecord .new after.state := by
  obtain ⟨after, ran, returned⟩ := overlapping_return
  refine ⟨after, ran, returned, fun nothingLost => ?_⟩
  obtain ⟨tracked, trackedRan, rfl⟩ := tracked_run sampleRecord ran
  obtain ⟨⟨now, holds⟩, intact⟩ := intact_iff_along lawful emptyDisk_history trackedRan
  have along := intact.mp ((holds.nothingLost_iff returned).mp nothingLost)
  -- The last step is the second replacement, after the first one.
  obtain ⟨_, along⟩ := along _ rfl
  obtain ⟨_, along⟩ := along _ rfl
  obtain ⟨_, along⟩ := along _ rfl
  obtain ⟨replaces, _⟩ := along _ rfl
  exact absurd (replaces _ _ _ rfl) (by decide)

end SampleLibs

end EntangledClient
