import EntangledClient.StoreMethodFaults
import EntangledClient.StoreOpens

/-!
# Opening a store under failing file calls

Whatever file calls fail while a store is opened, and wherever the process stops, the
directory still denotes what it denoted: it is unused, or it has the key or the salt from
which every later open in its mode derives the same root.
-/

namespace EntangledClient

open CallTree ExceptRules

variable {libs : StoreLibs}

/-! ### A library rule -/

/-- A program that writes nothing, under any faults. -/
theorem safely_of_no_write {α : Type} {program : FileProgram α}
    {post : Except Failure α → Prop} {moment : Disk → Prop} {disk : Disk}
    (within : program.CallsWithin (¬ IsWrite ·)) (concludes : program.Concludes post)
    (moments : ∀ after : Disk, after.files = disk.files → moment after) :
    program.Safely diskHandler moment
      (fun _ outcome after => after.files = disk.files ∧ post outcome) disk := by
  induction program generalizing disk with
  | ret outcome => exact ⟨rfl, concludes⟩
  | call request resume ih =>
      obtain ⟨noWrite, others⟩ := within
      have same := files_of_not_isWrite request disk noWrite
      refine ⟨fun error => ih (.error error) (others _) (concludes _) moments, moments _ same, ?_⟩
      refine Program.Safely.mono (ih _ (others _) (concludes _) fun after sameAfter =>
        moments after (sameAfter.trans same)) ?_
      rintro _ outcome after ⟨sameAfter, holds⟩
      exact ⟨sameAfter.trans same, holds⟩

/-! ### What a directory denotes -/

/-- The root of a store of this mode and passphrase, once its directory is initialised. -/
inductive StoreOpen.Roots (libs : StoreLibs) (disk : Disk) : StoreOpen → StoreRoot → Prop
  | integrity {key : Bytes} (stored : disk.files .storeKey = some key)
      (mode : disk.files .storeMeta = none ∨ IntegrityFiles libs key disk) :
      Roots libs disk .integrity ⟨.integrity key⟩
  | encrypted {passphrase : String} {bytes : Bytes} {salt : FixedBytes 16} {key : Bytes32}
      (stored : disk.files .storeMeta = some bytes)
      (decoded : libs.metaJson.fromSlice bytes =
        .ok ⟨metaV, .encrypted, some (libs.base64Encode salt.bytes)⟩)
      (derived : deriveKey libs passphrase salt.bytes = .ok key) :
      Roots libs disk (.encrypted passphrase) ⟨.encrypted key⟩

/-- The salt of an encrypted store is stored, and no key derives from it. -/
def StoreOpen.Underived (libs : StoreLibs) (disk : Disk) : StoreOpen → Prop
  | .integrity => False
  | .encrypted passphrase => ∃ bytes, ∃ salt : FixedBytes 16, ∃ failure,
      disk.files .storeMeta = some bytes ∧
      libs.metaJson.fromSlice bytes =
        .ok ⟨metaV, .encrypted, some (libs.base64Encode salt.bytes)⟩ ∧
      deriveKey libs passphrase salt.bytes = .error failure

/-- Every salt that a store of this mode draws gives a key. -/
def StoreOpen.Derives (libs : StoreLibs) : StoreOpen → Prop
  | .integrity => True
  | .encrypted passphrase => ∀ salt : FixedBytes 16,
      ∃ key, deriveKey libs passphrase salt.bytes = .ok key

def Disk.NoRecords (disk : Disk) : Prop :=
  ∀ path : StorePath, path.IsRecord → disk.files path = none

theorem Disk.NoRecords.write {disk : Disk} (noRecords : disk.NoRecords) {path : StorePath}
    (notRecord : ¬ path.IsRecord) (bytes : Bytes) :
    ((disk.afterDraw 8).write path bytes).NoRecords := by
  intro other isRecord
  have different : other ≠ path := by
    rintro rfl
    exact notRecord isRecord
  rw [Disk.files_write_other _ different]
  exact noRecords other isRecord

/-- The files are valid under this root, and denote this view. -/
structure StoreOpen.Opened (libs : StoreLibs) (opening : StoreOpen) (root : StoreRoot)
    (disk : Disk) (view : StoreView) : Prop where
  roots : opening.Roots libs disk root
  valid : root.ValidFiles libs disk
  denotes : root.view libs disk = view

/-- What the files of a directory denote that is opened this way only. -/
inductive StoreOpen.Denotes (libs : StoreLibs) (opening : StoreOpen) (disk : Disk) :
    StoreView → Prop
  | unused (noKey : disk.files .storeKey = none) (noMeta : disk.files .storeMeta = none)
      (noRecords : disk.NoRecords) : Denotes libs opening disk .empty
  | underived (underived : opening.Underived libs disk) (noRecords : disk.NoRecords) :
      Denotes libs opening disk .empty
  | opened {root : StoreRoot} {view : StoreView} (opened : opening.Opened libs root disk view) :
      Denotes libs opening disk view

namespace StoreOpen

variable {opening : StoreOpen} {disk after : Disk} {view : StoreView} {root : StoreRoot}

theorem Roots.of_meta (roots : opening.Roots libs disk root)
    (sameKey : after.files .storeKey = disk.files .storeKey)
    (sameMeta : after.files .storeMeta = disk.files .storeMeta) :
    opening.Roots libs after root := by
  cases roots with
  | integrity stored mode =>
      refine .integrity (sameKey.trans stored) (mode.imp sameMeta.trans fun files => ?_)
      exact ⟨sameKey.trans stored, by rw [sameMeta]; exact files.storeMeta⟩
  | encrypted stored decoded derived => exact .encrypted (sameMeta.trans stored) decoded derived

theorem Opened.of_files (opened : opening.Opened libs root disk view)
    (same : after.files = disk.files) : opening.Opened libs root after view where
  roots := opened.roots.of_meta (by rw [same]) (by rw [same])
  valid := opened.valid.of_files same
  denotes := (view_of_files same).trans opened.denotes

/-- Only the files matter. -/
theorem Denotes.of_files (denotes : opening.Denotes libs disk view)
    (same : after.files = disk.files) : opening.Denotes libs after view := by
  cases denotes with
  | unused noKey noMeta noRecords =>
      exact .unused (same ▸ noKey) (same ▸ noMeta) fun path isRecord =>
        same ▸ noRecords path isRecord
  | underived underived noRecords =>
      refine .underived ?_ fun path isRecord => same ▸ noRecords path isRecord
      cases opening with
      | integrity => exact underived
      | encrypted passphrase =>
          obtain ⟨bytes, salt, failure, stored, rest⟩ := underived
          exact ⟨bytes, salt, failure, same ▸ stored, rest⟩
  | opened opened => exact .opened (opened.of_files same)

/-- Without records every root denotes the empty view. -/
theorem opened_of_noRecords (roots : opening.Roots libs disk root) (noRecords : disk.NoRecords) :
    opening.Opened libs root disk .empty where
  roots
  valid := {
    identities := fun site => ⟨none, by rw [noRecords (.identity site) trivial]; rfl⟩
    histories := fun publisher => ⟨.new, by rw [noRecords (.history publisher) trivial]; rfl⟩ }
  denotes := by
    have sites : ∀ site, (root.view libs disk).sites site = none := fun site => by
      simp only [StoreRoot.view, noRecords (.identity site) trivial]
      rfl
    have histories : ∀ publisher, (root.view libs disk).histories publisher = .new :=
      fun publisher => by
        simp only [StoreRoot.view, noRecords (.history publisher) trivial]
        rfl
    exact congr (congrArg StoreView.mk (funext sites)) (funext histories)

/-- How an open may end: the directory denotes what it denoted, and a root that is returned
is the one under which it does. -/
def Ends (libs : StoreLibs) (opening : StoreOpen) (view : StoreView)
    (outcome : Except Failure StoreRoot) (after : Disk) : Prop :=
  opening.Denotes libs after view ∧
    ∀ root, outcome = .ok root → opening.Opened libs root after view

theorem Ends.error (denotes : opening.Denotes libs after view) (failure : Failure) :
    opening.Ends libs view (.error failure) after :=
  ⟨denotes, fun root returned => by cases returned⟩

theorem Ends.ok (opened : opening.Opened libs root after view) :
    opening.Ends libs view (.ok root) after :=
  ⟨.opened opened, fun _ returned => by cases returned; exact opened⟩

end StoreOpen

open StoreOpen

/-! ### An integrity open -/

/-- Once the key is stored, what is left of an integrity open writes nothing. -/
theorem safely_integrityWithKey {key : Bytes} {disk : Disk} {view : StoreView}
    (opened : StoreOpen.integrity.Opened libs ⟨.integrity key⟩ disk view) :
    (StoreRoot.integrityWithKey libs key).Safely diskHandler
      (StoreOpen.integrity.Denotes libs · view)
      (fun _ outcome after => StoreOpen.integrity.Ends libs view outcome after) disk := by
  have concludes : (StoreRoot.integrityWithKey libs key).Concludes fun outcome =>
      ∀ root, outcome = .ok root → root = ⟨.integrity key⟩ := by
    refine .bind_ok fun _ => ?_
    rintro _ ⟨⟩
    rfl
  refine (safely_of_no_write (integrityWithKey_calls id key) concludes
    fun after same => (Denotes.opened opened).of_files same).mono ?_
  rintro _ outcome after ⟨same, returns⟩
  refine ⟨.opened (opened.of_files same), fun root returned => ?_⟩
  rw [returns root returned]
  exact opened.of_files same

theorem safely_openIntegrity (lawful : libs.Lawful) {disk : Disk} {view : StoreView}
    (denotes : StoreOpen.integrity.Denotes libs disk view) :
    (StoreRoot.openIntegrity libs).Safely diskHandler
      (StoreOpen.integrity.Denotes libs · view)
      (fun _ outcome after => StoreOpen.integrity.Ends libs view outcome after) disk := by
  obtain ⟨bytes, encoded, decoded⟩ := lawful.metaJson ⟨metaV, .integrity, none⟩
  rw [StoreRoot.openIntegrity_eq encoded]
  refine .bind (.perform (fun _ => .error denotes _) denotes ?_)
  refine .bind (.perform (fun _ => .error denotes _) denotes ?_)
  cases denotes with
  | underived underived noRecords => exact underived.elim
  | @opened root view opened =>
      obtain ⟨stored, mode⟩ := id opened.roots
      simp only [diskHandler, stored]
      exact safely_integrityWithKey opened
  | unused noKey noMeta noRecords =>
      have unused : StoreOpen.integrity.Denotes libs disk .empty := .unused noKey noMeta noRecords
      have drawn : StoreOpen.integrity.Denotes libs (disk.afterDraw 32) .empty :=
        unused.of_files rfl
      simp only [diskHandler, noKey]
      refine .bind (.perform (fun _ => .error unused _) drawn ?_)
      have noRecordsKeyed := @Disk.NoRecords.write (disk.afterDraw 32) noRecords .storeKey id
        (disk.drawn 32).bytes
      have keyed : StoreOpen.integrity.Opened libs ⟨.integrity (disk.drawn 32).bytes⟩
          (((disk.afterDraw 32).afterDraw 8).write .storeKey (disk.drawn 32).bytes) .empty := by
        refine opened_of_noRecords (.integrity (Disk.files_write_same _ _ _) (.inl ?_))
          noRecordsKeyed
        rw [Disk.files_write_other _ (by simp)]
        exact noMeta
      refine .bind (.perform (fun _ => .error drawn _) (.opened keyed) ?_)
      have complete : StoreOpen.integrity.Opened libs ⟨.integrity (disk.drawn 32).bytes⟩
          (((((disk.afterDraw 32).afterDraw 8).write .storeKey
            (disk.drawn 32).bytes).afterDraw 8).write .storeMeta bytes) .empty := by
        have stored : (((((disk.afterDraw 32).afterDraw 8).write .storeKey
            (disk.drawn 32).bytes).afterDraw 8).write .storeMeta bytes).files .storeKey =
              some (disk.drawn 32).bytes := by
          rw [Disk.files_write_other _ (by simp), Disk.files_afterDraw]
          exact Disk.files_write_same _ _ _
        refine opened_of_noRecords (.integrity stored (.inr ⟨stored, bytes, _, ?_, decoded, rfl⟩))
          (noRecordsKeyed.write id bytes)
        exact Disk.files_write_same _ _ _
      exact .bind (.perform (fun _ => .error (.opened keyed) _) (.opened complete)
        (safely_integrityWithKey complete))

/-! ### An encrypted open -/

theorem ofResult_bind_ok {α β : Type} (value : α) (next : α → FileProgram β) :
    (ofResult (.ok value) >>= next) = next value :=
  rfl

theorem safely_pure {α : Type} {moment : Disk → Prop} {disk : Disk} (value : α)
    {post : List (TracedCall fileInterface Disk) → Except Failure α → Disk → Prop}
    (holds : post [] (.ok value) disk) :
    (pure value : FileProgram α).Safely diskHandler moment post disk :=
  holds

/-- With the salt, what is left of an encrypted open calls nothing. -/
theorem safely_withSalt {passphrase : String} {disk : Disk} {view : StoreView} {salt : Bytes}
    (denotes : (StoreOpen.encrypted passphrase).Denotes libs disk view)
    (derives : ∀ key, deriveKey libs passphrase salt = .ok key →
      (StoreOpen.encrypted passphrase).Opened libs ⟨.encrypted key⟩ disk view) :
    (do
      let key ← ofResult (deriveKey libs passphrase salt)
      return ⟨.encrypted key⟩ : FileProgram StoreRoot).Safely diskHandler
        ((StoreOpen.encrypted passphrase).Denotes libs · view)
        (fun _ outcome after => (StoreOpen.encrypted passphrase).Ends libs view outcome after)
        disk := by
  cases derived : deriveKey libs passphrase salt with
  | error failure => exact .error denotes failure
  | ok key => exact .ok (derives key derived)

theorem safely_openEncrypted (lawful : libs.Lawful) {passphrase : String} {disk : Disk}
    {view : StoreView} (denotes : (StoreOpen.encrypted passphrase).Denotes libs disk view) :
    (StoreRoot.openEncrypted libs passphrase).Safely diskHandler
      ((StoreOpen.encrypted passphrase).Denotes libs · view)
      (fun _ outcome after => (StoreOpen.encrypted passphrase).Ends libs view outcome after)
      disk := by
  refine .bind (.perform (fun _ => .error denotes _) denotes ?_)
  refine .bind (.bind (.perform (fun _ => .error denotes _) denotes ?_))
  have stillDenotes := denotes
  cases denotes with
  | opened opened =>
      have roots := opened.roots
      cases roots with
      | encrypted stored decoded derived =>
          simp only [diskHandler, stored, decoded, mapErr_ok, ofResult_bind_ok]
          refine safely_pure _ ?_
          simp only [ensure_of, ofResult_bind_ok, lawful.base64, mapErr_ok]
          refine safely_withSalt stillDenotes fun key isKey => ?_
          cases derived.symm.trans isKey
          exact opened
  | underived underived noRecords =>
      obtain ⟨bytes, salt, failure, stored, decoded, derived⟩ := id underived
      simp only [diskHandler, stored, decoded, mapErr_ok, ofResult_bind_ok]
      refine safely_pure _ ?_
      simp only [ensure_of, ofResult_bind_ok, lawful.base64, mapErr_ok]
      refine safely_withSalt stillDenotes fun key isKey => ?_
      cases derived.symm.trans isKey
  | unused noKey noMeta noRecords =>
      simp only [diskHandler, noMeta]
      refine safely_pure _ ?_
      have drawn : (StoreOpen.encrypted passphrase).Denotes libs (disk.afterDraw 16) .empty :=
        stillDenotes.of_files rfl
      refine .bind (.perform (fun _ => .error stillDenotes _) drawn ?_)
      obtain ⟨bytes, encoded, decoded⟩ :=
        lawful.metaJson ⟨metaV, .encrypted, some (libs.base64Encode (disk.drawn 16).bytes)⟩
      simp only [diskHandler, writeMeta, encoded, mapErr_ok, ofResult_bind_ok]
      have noRecordsAfter := @Disk.NoRecords.write (disk.afterDraw 16) noRecords .storeMeta id bytes
      have stored := Disk.files_write_same ((disk.afterDraw 16).afterDraw 8) .storeMeta bytes
      have opens : ∀ key, deriveKey libs passphrase (disk.drawn 16).bytes = .ok key →
          (StoreOpen.encrypted passphrase).Opened libs ⟨.encrypted key⟩
            (((disk.afterDraw 16).afterDraw 8).write .storeMeta bytes) .empty :=
        fun key derived => opened_of_noRecords (.encrypted stored decoded derived) noRecordsAfter
      have written : (StoreOpen.encrypted passphrase).Denotes libs
          (((disk.afterDraw 16).afterDraw 8).write .storeMeta bytes) .empty := by
        cases derived : deriveKey libs passphrase (disk.drawn 16).bytes with
        | ok key => exact .opened (opens key derived)
        | error failure =>
            exact .underived ⟨bytes, _, failure, stored, decoded, derived⟩ noRecordsAfter
      exact .bind (.perform (fun _ => .error drawn _) written (safely_withSalt written opens))

/-- An open under any faults leaves what the directory denotes. -/
theorem StoreOpen.safely_program (lawful : libs.Lawful) {opening : StoreOpen} {disk : Disk}
    {view : StoreView} (denotes : opening.Denotes libs disk view) :
    (opening.program libs).Safely diskHandler (opening.Denotes libs · view)
      (fun _ outcome after => opening.Ends libs view outcome after) disk := by
  cases opening with
  | integrity => exact safely_openIntegrity lawful denotes
  | encrypted passphrase => exact safely_openEncrypted lawful denotes

theorem StoreOpen.program_returns (lawful : libs.Lawful) {opening : StoreOpen} {disk : Disk}
    {view : StoreView} (denotes : opening.Denotes libs disk view)
    (derives : opening.Derives libs) :
    ∃ root, ((opening.program libs).run diskHandler disk).1 = .ok root := by
  cases opening with
  | integrity =>
      cases denotes with
      | unused noKey noMeta noRecords =>
          obtain ⟨key, after, ran, -⟩ := run_openIntegrity_first lawful noKey
          exact ⟨_, congrArg Prod.fst ran⟩
      | underived underived noRecords => exact underived.elim
      | opened opened =>
          obtain ⟨stored, absent | files⟩ := opened.roots
          · exact ⟨_, congrArg Prod.fst (run_openIntegrity_keyOnly stored absent)⟩
          · exact ⟨_, congrArg Prod.fst files.run_openIntegrity⟩
  | encrypted passphrase =>
      cases denotes with
      | unused noKey noMeta noRecords =>
          obtain ⟨bytes, ran, -⟩ := run_openEncrypted_first lawful noMeta passphrase
          obtain ⟨key, derived⟩ := derives (disk.drawn 16)
          refine ⟨⟨.encrypted key⟩, (congrArg Prod.fst ran).trans ?_⟩
          rw [derived]
          rfl
      | underived underived noRecords =>
          obtain ⟨bytes, salt, failure, -, -, refused⟩ := underived
          obtain ⟨key, derived⟩ := derives salt
          cases refused.symm.trans derived
      | opened opened =>
          have roots := opened.roots
          cases roots with
          | @encrypted _ bytes salt key stored decoded derived =>
              have ran := run_openEncrypted_later lawful stored decoded passphrase
              refine ⟨⟨.encrypted key⟩, (congrArg Prod.fst ran).trans ?_⟩
              rw [derived]
              rfl

/-- Without faults an open returns the root under which the directory denotes what it
denoted. -/
theorem StoreOpen.run_program (lawful : libs.Lawful) {opening : StoreOpen} {disk : Disk}
    {view : StoreView} (denotes : opening.Denotes libs disk view)
    (derives : opening.Derives libs) :
    ∃ root, ((opening.program libs).run diskHandler disk).1 = .ok root ∧
      opening.Opened libs root ((opening.program libs).run diskHandler disk).2 view := by
  obtain ⟨root, returned⟩ := program_returns lawful denotes derives
  have ends := ((safely_program lawful denotes).run denotes []).2
  rw [Program.runFaulty_nil] at ends
  exact ⟨root, returned, (ends _ rfl).2 root returned⟩

end EntangledClient
