import EntangledClient.StoreOpens
import EntangledClient.Threads

/-!
# First opens that interleave

An integrity open that finds no key file draws a key, replaces the key file and goes on
with the key it drew.  Nothing keeps another open from doing the same in between, and the
two then hold different keys.
-/

namespace EntangledClient

open CallTree ExceptRules

/-- Integrity opens of one directory, before the first step of any. -/
def openingAll (ι : Type) (libs : StoreLibs) (disk : Disk) :
    Threads fileInterface ι Disk StoreRoot where
  state := disk
  programs _ := StoreRoot.openIntegrity libs

/-! ### Where an open stands -/

/-- What an open has come to.  From `describing` on, it holds a key that was stored. -/
inductive OpenStage
  | starting
  | reading
  | drawing
  | writing (key : Bytes)
  | describing (key : Bytes)
  | checking (key : Bytes)
  | returned (outcome : Except Failure StoreRoot)

/-- What the mode check makes of the metadata. -/
def checkedRoot (libs : StoreLibs) (key : Bytes) : Option Bytes → Except Failure StoreRoot
  | none => .ok ⟨.integrity key⟩
  | some bytes => do
      let storeMeta ← mapErr "decode meta: " (libs.metaJson.fromSlice bytes)
      ensure (storeMeta.protection = .integrity) wrongMode
      return ⟨.integrity key⟩

theorem integrityWithKey_eq (libs : StoreLibs) (key : Bytes) :
    StoreRoot.integrityWithKey libs key =
      .call (.readFileOpt .storeMeta) fun reply => .ret (reply >>= checkedRoot libs key) := by
  refine congrArg (Program.call (I := fileInterface) (.readFileOpt .storeMeta)) ?_
  funext reply
  cases reply with
  | error failure => rfl
  | ok file =>
      cases file with
      | none => rfl
      | some bytes =>
          change Program.bind (Program.bind (Program.bind
            (ofResult (mapErr "decode meta: " (libs.metaJson.fromSlice bytes))) _) _) _ =
              Program.ret (checkedRoot libs key (some bytes))
          simp only [checkedRoot]
          generalize libs.metaJson.fromSlice bytes = decoded
          cases decoded with
          | error message => rfl
          | ok storeMeta =>
              obtain ⟨v, protection, salt⟩ := storeMeta
              cases protection <;> rfl

namespace OpenStage

section Stages

variable (libs : StoreLibs) (metaBytes : Bytes)

/-- The rest of an open that drew its key. -/
def persistKey (key : Bytes) : FileProgram StoreRoot := do
  writeAtomic .storeKey key
  writeAtomic .storeMeta metaBytes
  StoreRoot.integrityWithKey libs key

/-- The rest of an open whose directories exist. -/
def findKey : FileProgram StoreRoot := do
  match ← readFileOpt .storeKey with
  | some key => StoreRoot.integrityWithKey libs key
  | none => do
      let key ← getrandom 32
      persistKey libs metaBytes key.bytes

/-- What is left of an open, where the metadata has this encoding. -/
def program : OpenStage → FileProgram StoreRoot
  | starting => do
      ensureDirs
      findKey libs metaBytes
  | reading => findKey libs metaBytes
  | drawing => do
      let key ← getrandom 32
      persistKey libs metaBytes key.bytes
  | writing key => persistKey libs metaBytes key
  | describing key => do
      writeAtomic .storeMeta metaBytes
      StoreRoot.integrityWithKey libs key
  | checking key => StoreRoot.integrityWithKey libs key
  | returned outcome => .ret outcome

/-- Where the next call of an open takes it. -/
def next (disk : Disk) : OpenStage → OpenStage
  | starting => reading
  | reading =>
      match disk.files .storeKey with
      | some key => checking key
      | none => drawing
  | drawing => writing (disk.drawn 32).bytes
  | writing key => describing key
  | describing key => checking key
  | checking key => returned (checkedRoot libs key (disk.files .storeMeta))
  | returned outcome => returned outcome

/-- The directory after the next call of an open. -/
def after (disk : Disk) : OpenStage → Disk
  | drawing => disk.afterDraw 32
  | writing key => (disk.afterDraw 8).write .storeKey key
  | describing _ => (disk.afterDraw 8).write .storeMeta metaBytes
  | starting | reading | checking _ | returned _ => disk

/-- The key that an open holds and that was stored. -/
def held : OpenStage → Option Bytes
  | describing key | checking key | returned (.ok ⟨.integrity key⟩) => some key
  | _ => none

variable {libs metaBytes}

theorem starting_program
    (encoded : libs.metaJson.toVec ⟨metaV, .integrity, none⟩ = .ok metaBytes) :
    starting.program libs metaBytes = StoreRoot.openIntegrity libs :=
  (StoreRoot.openIntegrity_eq encoded).symm

/-- An open that has not returned makes one call, to the next stage. -/
theorem program_call (disk : Disk) (stage : OpenStage) :
    (∃ outcome, stage = returned outcome) ∨
      ∃ request resume, stage.program libs metaBytes = .call request resume ∧
        (diskHandler request disk).2 = stage.after metaBytes disk ∧
        resume (diskHandler request disk).1 = (stage.next libs disk).program libs metaBytes := by
  cases stage with
  | starting => exact .inr ⟨.ensureDirs, _, rfl, rfl, rfl⟩
  | reading =>
      refine .inr ⟨.readFileOpt .storeKey, _, rfl, rfl, ?_⟩
      cases stored : disk.files .storeKey <;> simp only [next, stored, diskHandler] <;> rfl
  | drawing => exact .inr ⟨.getrandom 32, _, rfl, rfl, rfl⟩
  | writing key => exact .inr ⟨.writeAtomic .storeKey key, _, rfl, rfl, rfl⟩
  | describing key => exact .inr ⟨.writeAtomic .storeMeta metaBytes, _, rfl, rfl, rfl⟩
  | checking key => exact .inr ⟨.readFileOpt .storeMeta, _, integrityWithKey_eq libs key, rfl, rfl⟩
  | returned outcome => exact .inl ⟨outcome, rfl⟩

theorem writing_program (key : Bytes) :
    ∃ resume, (writing key).program libs metaBytes =
      .call (.writeAtomic .storeKey key) resume :=
  ⟨_, rfl⟩

/-- No other stage writes the key. -/
theorem writing_of_program {stage : OpenStage} {key : Bytes}
    {resume : fileInterface.Reply (.writeAtomic .storeKey key) → FileProgram StoreRoot}
    (isCall : stage.program libs metaBytes = .call (.writeAtomic .storeKey key) resume) :
    stage = writing key := by
  cases stage with
  | writing drawn =>
      cases isCall
      rfl
  | starting | reading | drawing | describing drawn | checking drawn | returned outcome =>
      cases isCall

theorem checkedRoot_ok
    (decoded : libs.metaJson.fromSlice metaBytes = .ok ⟨metaV, .integrity, none⟩) {disk : Disk}
    (storeMeta : disk.files .storeMeta = none ∨ disk.files .storeMeta = some metaBytes)
    (key : Bytes) :
    checkedRoot libs key (disk.files .storeMeta) = .ok ⟨.integrity key⟩ := by
  rcases storeMeta with absent | written
  · rw [absent]
    rfl
  · rw [written]
    simp [checkedRoot, decoded, ensure]

theorem returned_of_program {stage : OpenStage} {outcome : Except Failure StoreRoot}
    (isRet : stage.program libs metaBytes = .ret outcome) : stage = returned outcome := by
  cases stage with
  | returned result =>
      cases isRet
      rfl
  | starting | reading | drawing | writing drawn | describing drawn | checking drawn =>
      cases isRet

/-- A stage that writes no key leaves the key file, and goes on with the key that it held or
takes up the stored one. -/
theorem next_unwritten
    (decoded : libs.metaJson.fromSlice metaBytes = .ok ⟨metaV, .integrity, none⟩) {disk : Disk}
    (storeMeta : disk.files .storeMeta = none ∨ disk.files .storeMeta = some metaBytes)
    {stage : OpenStage} (noWrite : ∀ key, stage ≠ writing key)
    (running : ∀ outcome, stage ≠ returned outcome) :
    (stage.after metaBytes disk).files .storeKey = disk.files .storeKey ∧
      ((stage.after metaBytes disk).files .storeMeta = none ∨
        (stage.after metaBytes disk).files .storeMeta = some metaBytes) ∧
      ((stage.next libs disk).held = stage.held ∨
        stage.held = none ∧ (stage.next libs disk).held = disk.files .storeKey) ∧
      ∀ outcome, stage.next libs disk = returned outcome →
        ∃ key, outcome = .ok ⟨.integrity key⟩ := by
  have goesOn : ∀ {later : OpenStage}, (∀ outcome, later ≠ returned outcome) →
      ∀ outcome, later = returned outcome → ∃ key, outcome = .ok ⟨.integrity key⟩ :=
    fun runs outcome isReturned => absurd isReturned (runs outcome)
  cases stage with
  | starting => exact ⟨rfl, storeMeta, .inl rfl, goesOn (by simp [next])⟩
  | reading =>
      refine ⟨rfl, storeMeta, .inr ⟨rfl, ?_⟩, goesOn ?_⟩
      · cases stored : disk.files .storeKey <;> simp [next, stored, held]
      · cases stored : disk.files .storeKey <;> simp [next, stored]
  | drawing => exact ⟨rfl, storeMeta, .inl rfl, goesOn (by simp [next])⟩
  | writing key => exact absurd rfl (noWrite key)
  | describing key =>
      refine ⟨Disk.files_write_other _ (by simp) _, .inr (Disk.files_write_same ..), .inl rfl,
        goesOn (by simp [next])⟩
  | checking key =>
      have passes := checkedRoot_ok decoded storeMeta key
      refine ⟨rfl, storeMeta, .inl ?_, fun outcome isReturned => ⟨key, ?_⟩⟩
      · rw [next, passes]
        rfl
      · rw [next, passes] at isReturned
        exact (OpenStage.returned.inj isReturned).symm
  | returned outcome => exact absurd rfl (running outcome)

end Stages

end OpenStage

/-- A directory, and where each open of it stands. -/
structure StagedOpens (ι : Type) where
  disk : Disk
  stages : ι → OpenStage

namespace StagedOpens

variable {ι : Type} [DecidableEq ι] (libs : StoreLibs) (metaBytes : Bytes)

/-- The opens, stage by stage. -/
def machine : StateMachine (StagedOpens ι) ι where
  step opens index :=
    match opens.stages index with
    | .returned _ => none
    | stage => some {
        disk := stage.after metaBytes opens.disk
        stages := Function.update opens.stages index (stage.next libs opens.disk) }

/-- The programs that the stages stand for. -/
def threads (opens : StagedOpens ι) : Threads fileInterface ι Disk StoreRoot where
  state := opens.disk
  programs index := (opens.stages index).program libs metaBytes

def start (disk : Disk) : StagedOpens ι where
  disk
  stages _ := .starting

/-- What one step does. -/
theorem step_eq_some {opens later : StagedOpens ι} {index : ι} :
    (machine libs metaBytes).step opens index = some later ↔
      (∀ outcome, opens.stages index ≠ .returned outcome) ∧ later = {
        disk := (opens.stages index).after metaBytes opens.disk
        stages := Function.update opens.stages index
          ((opens.stages index).next libs opens.disk) } := by
  cases stage : opens.stages index with
  | returned outcome => simp [machine, stage]
  | starting | reading | drawing | writing key | describing key | checking key =>
      simp [machine, stage, eq_comm]

/-- The programs step as their stages do. -/
theorem step_threads (opens : StagedOpens ι) (index : ι) :
    (Threads.machine fun _ => diskHandler).step (opens.threads libs metaBytes) index =
      ((machine libs metaBytes).step opens index).map (threads libs metaBytes) := by
  rcases @OpenStage.program_call libs metaBytes opens.disk (opens.stages index) with
    ⟨outcome, isReturned⟩ | ⟨request, resume, isCall, disk, resumed⟩
  · simp [machine, Threads.machine, threads, isReturned, OpenStage.program]
  · have running : ∀ outcome, opens.stages index ≠ .returned outcome := by
      intro outcome isReturned
      rw [isReturned] at isCall
      cases isCall
    rw [(step_eq_some libs metaBytes).mpr ⟨running, rfl⟩]
    refine Threads.step_eq_some.mpr ⟨request, resume, isCall, ?_⟩
    simp only [threads, disk, resumed, Threads.mk.injEq, true_and]
    exact Function.comp_update (OpenStage.program libs metaBytes) opens.stages index _

end StagedOpens

end EntangledClient
