import EntangledClient.CallTree
import EntangledClient.PublisherHistory
import EntangledClient.TrustState
import Mathlib.Logic.Function.Basic

/-!
# The persistence seams and their in-memory doubles

The shell reaches the two stores only through the four methods of the seams.
They are the calls of an interface, and a shell is a program over it.  The
in-memory doubles answer the calls from hash maps.
-/

namespace EntangledClient

open CallTree

structure StoreError where
  message : String
  deriving DecidableEq

/-- How code over the stores ends without a value: by an `Err`, or by a panic
that no caller catches. -/
inductive Failure
  | err (error : StoreError)
  | panic (message : String)
  deriving DecidableEq

/-- The error that a caller matching on `Err` sees. -/
def Failure.asErr : Failure → Option StoreError
  | .err error => some error
  | .panic _ => none

inductive StoreCall
  | loadIdentity (site : OnionAddress)
  | apply (site : OnionAddress) (intent : PersistenceIntent)
  | loadHistory (publisher : PublisherPubkey)
  | appendRecord (publisher : PublisherPubkey) (record : RetainedManifestRecord)
  deriving DecidableEq

def StoreCall.IsLoad : StoreCall → Prop
  | .loadIdentity _ | .loadHistory _ => True
  | .apply _ _ | .appendRecord _ _ => False

@[reducible]
def StoreCall.Result : StoreCall → Type
  | .loadIdentity _ => Option RetainedIdentity
  | .apply _ _ => Unit
  | .loadHistory _ => PublisherHistory
  | .appendRecord _ _ => Unit

@[reducible]
def storeInterface : Interface where
  Call := StoreCall
  Result := StoreCall.Result
  Error := Failure

abbrev StoreProgram := Program storeInterface

def loadIdentity (site : OnionAddress) : StoreProgram (Option RetainedIdentity) :=
  Program.perform (I := storeInterface) (.loadIdentity site)

def applyIntent (site : OnionAddress) (intent : PersistenceIntent) : StoreProgram Unit :=
  Program.perform (I := storeInterface) (.apply site intent)

def loadHistory (publisher : PublisherPubkey) : StoreProgram PublisherHistory :=
  Program.perform (I := storeInterface) (.loadHistory publisher)

def appendRecord (publisher : PublisherPubkey) (record : RetainedManifestRecord) :
    StoreProgram Unit :=
  Program.perform (I := storeInterface) (.appendRecord publisher record)

/-- Match on the `Result` of a program; a panic goes through. -/
def catchErr {α : Type} (program : StoreProgram α) : StoreProgram (Except StoreError α) :=
  program.attempt Failure.asErr

/-! ### The in-memory doubles -/

/-- A hash map, as the function of its lookups. -/
abbrev HashMap (K V : Type) := K → Option V

namespace HashMap

variable {K V : Type} [DecidableEq K]

def insert (map : HashMap K V) (key : K) (value : V) : HashMap K V :=
  Function.update map key (some value)

/-- `entry(key).or_insert(value)` -/
def orInsert (map : HashMap K V) (key : K) (value : V) : HashMap K V :=
  map.insert key ((map key).getD value)

/-- `entry(key).and_modify(modify).or_insert(value)` -/
def andModifyOrInsert (map : HashMap K V) (key : K) (modify : V → V) (value : V) :
    HashMap K V :=
  map.insert key (((map key).map modify).getD value)

/-- `entry(key).or_default().insert(0, value)` -/
def pushFront (map : HashMap K (List V)) (key : K) (value : V) : HashMap K (List V) :=
  map.insert key (value :: (map key).getD [])

end HashMap

structure MemoryIdentityStore where
  map : HashMap OnionAddress RetainedIdentity
  /-- Replaced keys preserved per site, newest first. -/
  replaced : HashMap OnionAddress (List PublisherPubkey)

namespace MemoryIdentityStore

def new : MemoryIdentityStore where
  map _ := none
  replaced _ := none

def seed (store : MemoryIdentityStore) (site : OnionAddress) (identity : RetainedIdentity) :
    MemoryIdentityStore :=
  { store with map := store.map.insert site identity }

def replacedKeys (store : MemoryIdentityStore) (site : OnionAddress) :
    List PublisherPubkey :=
  (store.replaced site).getD []

def loadIdentity (store : MemoryIdentityStore) (site : OnionAddress) :
    Option RetainedIdentity :=
  store.map site

def apply (store : MemoryIdentityStore) (site : OnionAddress) :
    PersistenceIntent → MemoryIdentityStore
  | .none => store
  | .recordObservation pubkey =>
      { store with map := store.map.orInsert site { pubkey, provenance := .observed } }
  | .pinIdentity pubkey =>
      { store with
        map := store.map.andModifyOrInsert site
          (fun r => if r.provenance = .observed then { pubkey, provenance := .pinned } else r)
          { pubkey, provenance := .pinned } }
  | .markExternallyVerified pubkey =>
      { store with
        map := store.map.andModifyOrInsert site
          (fun _ => { pubkey, provenance := .externallyVerified })
          { pubkey, provenance := .externallyVerified } }
  | .replaceIdentity newPubkey replaced externallyVerified =>
      { map := store.map.insert site
          { pubkey := newPubkey
            provenance := if externallyVerified then .externallyVerified else .pinned }
        replaced := store.replaced.pushFront site replaced }

end MemoryIdentityStore

structure MemoryHistoryStore where
  map : HashMap PublisherPubkey (List RetainedManifestRecord)

namespace MemoryHistoryStore

def new : MemoryHistoryStore where
  map _ := none

def loadHistory (store : MemoryHistoryStore) (publisher : PublisherPubkey) :
    PublisherHistory :=
  .fromRecordsNewestFirst ((store.map publisher).getD [])

def appendRecord (store : MemoryHistoryStore) (publisher : PublisherPubkey)
    (record : RetainedManifestRecord) : MemoryHistoryStore :=
  { map := store.map.pushFront publisher record }

end MemoryHistoryStore

/-- Both doubles. -/
structure MemoryStores where
  identities : MemoryIdentityStore
  history : MemoryHistoryStore

end EntangledClient
