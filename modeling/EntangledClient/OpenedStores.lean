import EntangledClient.StoreOpens
import EntangledClient.TwoModes

/-!
# A directory on which stores are opened

Stores of either mode are opened on one directory and called, in any order.  From the
first integrity open that returns, the mode of the directory is kept exactly as long as
every encrypted open finds the metadata.
-/

namespace EntangledClient

open CallTree ExceptRules

/-- A directory on which stores are opened and called. -/
structure OpenedStores where
  disk : Disk
  stores : Nat → Option StoreRoot
  /-- The root of the first integrity open that returned `Ok`. -/
  integrity : Option StoreRoot
  /-- What the calls of that root that returned `Ok` say is stored. -/
  acknowledged : StoreView

inductive DirectoryEvent
  | opening (store : Nat) (opening : StoreOpen)
  | call (store : Nat) (request : StoreCall)

namespace OpenedStores

variable (libs : StoreLibs)

/-- A directory on which no store is open. -/
def start (disk : Disk) : OpenedStores where
  disk
  stores _ := none
  integrity := none
  acknowledged := .empty

/-- A store that failed to open is not called. -/
def machine : StateMachine OpenedStores DirectoryEvent where
  step state event :=
    match event with
    | .opening store opening =>
        let (opened, disk) := (opening.program libs).run diskHandler state.disk
        some { state with
          disk
          stores := Function.update state.stores store opened.toOption
          integrity :=
            if opening = .integrity then state.integrity.or opened.toOption
            else state.integrity }
    | .call store request =>
        match state.stores store with
        | none => some state
        | some root =>
            some { state with
              disk := (fileHandler libs root request state.disk).2
              acknowledged :=
                if state.integrity = some root then
                  acknowledge libs root request state.disk state.acknowledged
                else state.acknowledged }

/-- Once an integrity open has returned `Ok`: an encrypted open is an error and changes no
file, an integrity open gives the same root again, and that loads what it acknowledged. -/
structure KeepsIntegrity (before : OpenedStores) (event : DirectoryEvent)
    (after : OpenedStores) : Prop where
  refused : ∀ root store passphrase, before.integrity = some root →
    event = .opening store (.encrypted passphrase) →
      IsErr ((StoreRoot.openEncrypted libs passphrase).run diskHandler before.disk).1 ∧
        after.disk.files = before.disk.files
  reopens : ∀ root, after.integrity = some root →
    ((StoreRoot.openIntegrity libs).run diskHandler after.disk).1 = .ok root
  identities : ∀ root site, after.integrity = some root →
    after.acknowledged.sites site ≠ none →
      (fileHandler libs root (.loadIdentity site) after.disk).1 =
        .ok (after.acknowledged.identity site)
  histories : ∀ root publisher, after.integrity = some root →
    after.acknowledged.histories publisher ≠ .new →
      (fileHandler libs root (.loadHistory publisher) after.disk).1 =
        .ok (after.acknowledged.histories publisher)

/-- An encrypted open after an integrity open that returned `Ok` finds the metadata. -/
def FindsMeta (before : OpenedStores) (event : DirectoryEvent) (_after : OpenedStores) : Prop :=
  ∀ store passphrase, event = .opening store (.encrypted passphrase) →
    before.integrity ≠ none → before.disk.files .storeMeta ≠ none

end OpenedStores

/-! ### The invariant of a run -/

section Runs

variable {libs : StoreLibs}

theorem call_keyAndMeta {root : StoreRoot} (request : StoreCall) (disk : Disk)
    {path : StorePath} (notRecord : ¬ path.IsRecord) :
    (fileHandler libs root request disk).2.files path = disk.files path :=
  call_files_other (fun about => notRecord (StoreCall.isRecord_of_recordPath about)) disk

/-- The files hold the same records. -/
theorem StoreHolds.of_records {root : StoreRoot} {acknowledged : StoreView}
    {disk after : Disk} (holds : StoreHolds libs root acknowledged disk)
    (same : ∀ path : StorePath, path.IsRecord → after.files path = disk.files path) :
    StoreHolds libs root acknowledged after where
  sites site := by
    rw [same (.identity site) trivial]
    exact holds.sites site
  histories publisher := by
    rw [same (.history publisher) trivial]
    exact holds.histories publisher

namespace OpenedStores

/-- No integrity open has returned `Ok`. -/
structure Unclaimed (libs : StoreLibs) (state : OpenedStores) : Prop where
  integrity : state.integrity = none
  stores : ∀ store root, state.stores store = some root → ∃ key, root = ⟨.encrypted key⟩
  holds : ∀ key, StoreHolds libs ⟨.integrity key⟩ state.acknowledged state.disk

/-- An integrity open has returned this key. -/
structure Claimed (libs : StoreLibs) (key : Bytes) (state : OpenedStores) : Prop where
  integrity : state.integrity = some ⟨.integrity key⟩
  stores : ∀ store root, state.stores store = some root →
    root = ⟨.integrity key⟩ ∨ ∃ key, root = ⟨.encrypted key⟩
  storeKey : state.disk.files .storeKey = some key
  storeMeta : state.disk.files .storeMeta = none ∨ IntegrityFiles libs key state.disk
  holds : StoreHolds libs ⟨.integrity key⟩ state.acknowledged state.disk

def Sound (libs : StoreLibs) (state : OpenedStores) : Prop :=
  Unclaimed libs state ∨ ∃ key, Claimed libs key state

/-- The slot of an open, in a table of stores. -/
theorem stores_update {stores : Nat → Option StoreRoot} {property : StoreRoot → Prop}
    (held : ∀ store root, stores store = some root → property root) (slot : Nat)
    {opened : Except Failure StoreRoot} (new : ∀ root, opened = .ok root → property root)
    (store : Nat) (root : StoreRoot)
    (found : Function.update stores slot opened.toOption store = some root) :
    property root := by
  by_cases same : store = slot
  · subst same
    rw [Function.update_self] at found
    cases opened with
    | error failure => cases found
    | ok other => exact new root (congrArg Except.ok (Option.some.inj found))
  · rw [Function.update_of_ne same] at found
    exact held store root found

/-- An integrity open of a claimed directory gives the root again. -/
theorem Claimed.run_openIntegrity {key : Bytes} {state : OpenedStores}
    (claimed : Claimed libs key state) :
    (StoreRoot.openIntegrity libs).run diskHandler state.disk =
      (.ok ⟨.integrity key⟩, state.disk) := by
  rcases claimed.storeMeta with absent | files
  · exact run_openIntegrity_keyOnly claimed.storeKey absent
  · exact files.run_openIntegrity

/-- What a step into a claimed state keeps. -/
theorem Claimed.keeps {key : Bytes} {before after : OpenedStores} {event : DirectoryEvent}
    (claimed : Claimed libs key after)
    (refused : ∀ root store passphrase, before.integrity = some root →
      event = .opening store (.encrypted passphrase) →
        IsErr ((StoreRoot.openEncrypted libs passphrase).run diskHandler before.disk).1 ∧
          after.disk.files = before.disk.files) :
    KeepsIntegrity libs before event after where
  refused := refused
  reopens root isRoot := by
    obtain rfl := Option.some.inj (claimed.integrity.symm.trans isRoot)
    rw [claimed.run_openIntegrity]
  identities root site isRoot known := by
    obtain rfl := Option.some.inj (claimed.integrity.symm.trans isRoot)
    exact claimed.holds.loadIdentity known
  histories root publisher isRoot known := by
    obtain rfl := Option.some.inj (claimed.integrity.symm.trans isRoot)
    exact claimed.holds.loadHistory known

/-- A step into an unclaimed state keeps everything. -/
theorem Unclaimed.keeps {before after : OpenedStores} {event : DirectoryEvent}
    (unclaimed : Unclaimed libs after) (start : before.integrity = none) :
    KeepsIntegrity libs before event after where
  refused root store passphrase isRoot := by
    rw [start] at isRoot
    cases isRoot
  reopens root isRoot := by
    rw [unclaimed.integrity] at isRoot
    cases isRoot
  identities root site isRoot := by
    rw [unclaimed.integrity] at isRoot
    cases isRoot
  histories root publisher isRoot := by
    rw [unclaimed.integrity] at isRoot
    cases isRoot

/-- A call on a directory that no integrity open has claimed. -/
theorem Unclaimed.step_call (apart : libs.EnvelopesApart) {before after : OpenedStores}
    (unclaimed : Unclaimed libs before) {store : Nat} {request : StoreCall}
    (taken : (machine libs).step before (.call store request) = some after) :
    Unclaimed libs after := by
  cases held : before.stores store with
  | none =>
      obtain rfl : before = after := by simpa [machine, held] using taken
      exact unclaimed
  | some root =>
      obtain ⟨key, rfl⟩ := unclaimed.stores store root held
      simp only [machine, held, unclaimed.integrity, reduceCtorEq, if_false,
        Option.some.injEq] at taken
      subst taken
      exact ⟨rfl, unclaimed.stores,
        fun own => (unclaimed.holds own).call_foreign apart key request⟩

/-- An encrypted open of such a directory leaves the records. -/
theorem Unclaimed.step_encrypted (lawful : libs.Lawful) {before after : OpenedStores}
    (unclaimed : Unclaimed libs before) {store : Nat} {passphrase : String}
    (taken : (machine libs).step before (.opening store (.encrypted passphrase)) = some after) :
    Unclaimed libs after := by
  obtain ⟨⟨opened, disk⟩, ran⟩ : ∃ result,
    (StoreRoot.openEncrypted libs passphrase).run diskHandler before.disk = result :=
      ⟨_, rfl⟩
  have records : ∀ path : StorePath, path.IsRecord →
      disk.files path = before.disk.files path := by
    intro path isRecord
    have notMeta : path ≠ .storeMeta := by
      rintro rfl
      exact isRecord
    have same := run_openEncrypted_files lawful passphrase before.disk notMeta
    rwa [ran] at same
  simp only [machine, StoreOpen.program, ran, reduceCtorEq, if_false,
    Option.some.injEq] at taken
  subst taken
  refine ⟨unclaimed.integrity, ?_, fun key => (unclaimed.holds key).of_records records⟩
  refine stores_update unclaimed.stores store fun root isRoot => ?_
  exact openEncrypted_root passphrase before.disk (isRoot ▸ ran)

/-- An integrity open of such a directory claims it, if it returns `Ok`. -/
theorem Unclaimed.step_integrity (lawful : libs.Lawful) {before after : OpenedStores}
    (unclaimed : Unclaimed libs before) {store : Nat}
    (taken : (machine libs).step before (.opening store .integrity) = some after) :
    Sound libs after := by
  rcases openIntegrity_cases lawful before.disk with
    ⟨failure, ran⟩ | ⟨key, disk, ran, storeKey, storeMeta, records⟩
  · simp only [machine, StoreOpen.program, ran, unclaimed.integrity, if_true,
      Option.none_or, Option.some.injEq] at taken
    subst taken
    refine .inl ⟨rfl, ?_, unclaimed.holds⟩
    exact @stores_update before.stores (fun root => ∃ key, root = ⟨.encrypted key⟩)
      unclaimed.stores store (.error failure) fun root isRoot => by cases isRoot
  · simp only [machine, StoreOpen.program, ran, unclaimed.integrity, if_true,
      Option.none_or, Option.some.injEq] at taken
    subst taken
    refine .inr ⟨key, rfl, ?_, storeKey, storeMeta, (unclaimed.holds key).of_records records⟩
    refine @stores_update before.stores
      (fun root => root = ⟨.integrity key⟩ ∨ ∃ key, root = ⟨.encrypted key⟩)
      (fun slot root isRoot => .inr (unclaimed.stores slot root isRoot)) store
      (.ok ⟨.integrity key⟩) ?_
    rintro root ⟨⟩
    exact .inl rfl

/-- One event on a directory that no integrity open has claimed. -/
theorem Unclaimed.step (lawful : libs.Lawful) (apart : libs.EnvelopesApart)
    {before after : OpenedStores} (unclaimed : Unclaimed libs before)
    {event : DirectoryEvent} (taken : (machine libs).step before event = some after) :
    KeepsIntegrity libs before event after ∧ Sound libs after := by
  have sound : Sound libs after := by
    cases event with
    | call store request => exact .inl (unclaimed.step_call apart taken)
    | opening store opening =>
        cases opening with
        | encrypted passphrase => exact .inl (unclaimed.step_encrypted lawful taken)
        | integrity => exact unclaimed.step_integrity lawful taken
  refine ⟨?_, sound⟩
  rcases sound with still | ⟨key, claimed⟩
  · exact still.keeps unclaimed.integrity
  · refine claimed.keeps fun root _ _ isRoot => ?_
    rw [unclaimed.integrity] at isRoot
    cases isRoot

/-- A call on a claimed directory: the integrity store's own, or one of an encrypted store. -/
theorem Claimed.step_call (lawful : libs.Lawful) (apart : libs.EnvelopesApart) {key : Bytes}
    {before after : OpenedStores} (claimed : Claimed libs key before) {store : Nat}
    {request : StoreCall}
    (taken : (machine libs).step before (.call store request) = some after) :
    Claimed libs key after := by
  cases held : before.stores store with
  | none =>
      obtain rfl : before = after := by simpa [machine, held] using taken
      exact claimed
  | some root =>
      have sameKey := @call_keyAndMeta libs root request before.disk .storeKey id
      have sameMeta := @call_keyAndMeta libs root request before.disk .storeMeta id
      have storeKey := sameKey.trans claimed.storeKey
      have storeMeta : (fileHandler libs root request before.disk).2.files .storeMeta =
          none ∨ IntegrityFiles libs key (fileHandler libs root request before.disk).2 := by
        rcases claimed.storeMeta with absent | files
        · exact .inl (sameMeta.trans absent)
        · refine .inr ⟨storeKey, ?_⟩
          rw [sameMeta]
          exact files.storeMeta
      simp only [machine, held, Option.some.injEq] at taken
      subst taken
      refine ⟨claimed.integrity, claimed.stores, storeKey, storeMeta, ?_⟩
      rcases claimed.stores store root held with rfl | ⟨other, rfl⟩
      · rw [claimed.integrity, if_pos rfl]
        exact claimed.holds.call_own lawful apart request
      · rw [claimed.integrity, if_neg (by simp)]
        exact claimed.holds.call_foreign apart other request

/-- An integrity open of a claimed directory. -/
theorem Claimed.step_integrity {key : Bytes} {before after : OpenedStores}
    (claimed : Claimed libs key before) {store : Nat}
    (taken : (machine libs).step before (.opening store .integrity) = some after) :
    Claimed libs key after := by
  have ran := claimed.run_openIntegrity
  simp only [machine, StoreOpen.program, ran, claimed.integrity, if_true,
    Option.some.injEq] at taken
  subst taken
  refine ⟨rfl, ?_, claimed.storeKey, claimed.storeMeta, claimed.holds⟩
  refine stores_update claimed.stores store ?_
  rintro root ⟨⟩
  exact .inl rfl

/-- An encrypted open of a claimed directory that finds the metadata is refused. -/
theorem Claimed.step_encrypted {key : Bytes} {before after : OpenedStores}
    (claimed : Claimed libs key before) {store : Nat} {passphrase : String}
    (taken : (machine libs).step before (.opening store (.encrypted passphrase)) = some after)
    (found : before.disk.files .storeMeta ≠ none) :
    IsErr ((StoreRoot.openEncrypted libs passphrase).run diskHandler before.disk).1 ∧
      after.disk.files = before.disk.files ∧ Claimed libs key after := by
  have ran := (claimed.storeMeta.resolve_left found).run_openEncrypted passphrase
  simp only [machine, StoreOpen.program, ran, reduceCtorEq, if_false,
    Option.some.injEq] at taken
  subst taken
  refine ⟨by rw [ran]; exact ⟨_, rfl⟩, rfl, claimed.integrity, ?_, claimed.storeKey,
    claimed.storeMeta, claimed.holds⟩
  exact @stores_update before.stores _ claimed.stores store (fail wrongMode)
    fun root isRoot => by cases isRoot

/-- One event on a claimed directory, in which an encrypted open finds the metadata. -/
theorem Claimed.step (lawful : libs.Lawful) (apart : libs.EnvelopesApart) {key : Bytes}
    {before after : OpenedStores} (claimed : Claimed libs key before)
    {event : DirectoryEvent} (taken : (machine libs).step before event = some after)
    (finds : FindsMeta before event after) :
    KeepsIntegrity libs before event after ∧ Claimed libs key after := by
  cases event with
  | call store request =>
      have next := claimed.step_call lawful apart taken
      refine ⟨next.keeps fun _ _ _ _ isOpen => ?_, next⟩
      cases isOpen
  | opening store opening =>
      cases opening with
      | integrity =>
          have next := claimed.step_integrity taken
          refine ⟨next.keeps fun _ _ _ _ isOpen => ?_, next⟩
          cases isOpen
      | encrypted passphrase =>
          have claimedBefore : before.integrity ≠ none := by
            rw [claimed.integrity]
            exact Option.some_ne_none _
          obtain ⟨isErr, sameFiles, next⟩ := claimed.step_encrypted taken
            (finds store passphrase rfl claimedBefore)
          refine ⟨next.keeps fun _ _ other _ isOpen => ?_, next⟩
          obtain ⟨rfl, ⟨⟩⟩ := DirectoryEvent.opening.inj isOpen
          exact ⟨isErr, sameFiles⟩

/-- An encrypted open of a claimed directory without metadata changes a file. -/
theorem KeepsIntegrity.findsMeta (lawful : libs.Lawful) {before after : OpenedStores}
    {event : DirectoryEvent}
    (taken : (machine libs).step before event = some after)
    (keeps : KeepsIntegrity libs before event after) : FindsMeta before event after := by
  rintro store passphrase rfl claimed absent
  obtain ⟨root, isRoot⟩ := Option.ne_none_iff_exists'.mp claimed
  obtain ⟨-, unchanged⟩ := keeps.refused root store passphrase isRoot rfl
  have written := (run_openEncrypted_absent lawful absent passphrase).2
  obtain ⟨⟨opened, disk⟩, ran⟩ : ∃ result,
    (StoreRoot.openEncrypted libs passphrase).run diskHandler before.disk = result :=
      ⟨_, rfl⟩
  simp only [machine, StoreOpen.program, ran, Option.some.injEq] at taken
  subst taken
  rw [ran] at written
  exact written (by rw [show disk.files = before.disk.files from unchanged, absent])

/-- A run keeps the integrity store exactly if its encrypted opens find the metadata. -/
theorem Sound.keepsIntegrity_iff (lawful : libs.Lawful) (apart : libs.EnvelopesApart)
    {state : OpenedStores} (sound : Sound libs state) (events : List DirectoryEvent) :
    (machine libs).Along (KeepsIntegrity libs) state events ↔
      (machine libs).Along FindsMeta state events := by
  have step : ∀ state event next, Sound libs state →
      (machine libs).step state event = some next → FindsMeta state event next →
      KeepsIntegrity libs state event next ∧ Sound libs next := by
    intro state event next sound taken finds
    rcases sound with unclaimed | ⟨key, claimed⟩
    · exact unclaimed.step lawful apart taken
    · obtain ⟨keeps, after⟩ := claimed.step lawful apart taken finds
      exact ⟨keeps, .inr ⟨key, after⟩⟩
  exact StateMachine.along_iff_along (Sound libs)
    (fun state event next sound taken =>
      ⟨fun keeps => keeps.findsMeta lawful taken,
        fun finds => (step state event next sound taken finds).1⟩)
    (fun state event next sound taken keeps =>
      (step state event next sound taken (keeps.findsMeta lawful taken)).2)
    sound events

end OpenedStores

end Runs

end EntangledClient
