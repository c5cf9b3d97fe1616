import EntangledClient.StoreSeams

/-!
# What the two stores are for

Abstractly, a site retains an identity together with the keys it replaced, and a
publisher has a history.  The calls of the seams act on this view, and the
in-memory doubles refine it.
-/

namespace EntangledClient

open CallTree

/-- An identity retained for a site, and the keys replaced there, newest first. -/
structure RetainedSite where
  identity : RetainedIdentity
  replaced : List PublisherPubkey
  deriving DecidableEq

/-- The replaced keys of a site that may retain nothing. -/
def replacedAt (site : Option RetainedSite) : List PublisherPubkey :=
  (site.map (·.replaced)).getD []

/-- What an intent makes of what a site retains. -/
def PersistenceIntent.applyTo (retained : Option RetainedSite) :
    PersistenceIntent → Option RetainedSite
  | .none => retained
  | .recordObservation pubkey =>
      some (retained.getD ⟨⟨pubkey, .observed⟩, []⟩)
  | .pinIdentity pubkey =>
      match retained with
      | Option.none => some ⟨⟨pubkey, .pinned⟩, []⟩
      | some site =>
          if site.identity.provenance = .observed then
            some ⟨⟨pubkey, .pinned⟩, site.replaced⟩
          else some site
  | .markExternallyVerified pubkey =>
      some ⟨⟨pubkey, .externallyVerified⟩, replacedAt retained⟩
  | .replaceIdentity newPubkey replaced externallyVerified =>
      some {
        identity := {
          pubkey := newPubkey
          provenance := if externallyVerified then .externallyVerified else .pinned }
        replaced := replaced :: replacedAt retained }

structure StoreView where
  sites : OnionAddress → Option RetainedSite
  histories : PublisherPubkey → PublisherHistory

namespace StoreView

/-- The identity retained for a site. -/
def identity (view : StoreView) (site : OnionAddress) : Option RetainedIdentity :=
  (view.sites site).map (·.identity)

def empty : StoreView where
  sites _ := none
  histories _ := .new

def apply (view : StoreView) (site : OnionAddress) (intent : PersistenceIntent) :
    StoreView :=
  { view with sites := Function.update view.sites site (intent.applyTo (view.sites site)) }

def appendRecord (view : StoreView) (publisher : PublisherPubkey)
    (record : RetainedManifestRecord) : StoreView :=
  { view with
    histories := Function.update view.histories publisher
      ((view.histories publisher).push record) }

@[simp]
theorem histories_apply (view : StoreView) (site : OnionAddress)
    (intent : PersistenceIntent) : (view.apply site intent).histories = view.histories :=
  rfl

@[simp]
theorem sites_apply_same (view : StoreView) (site : OnionAddress)
    (intent : PersistenceIntent) :
    (view.apply site intent).sites site = intent.applyTo (view.sites site) := by
  simp [apply]

theorem sites_apply_other (view : StoreView) {site other : OnionAddress}
    (different : other ≠ site) (intent : PersistenceIntent) :
    (view.apply site intent).sites other = view.sites other := by
  simp [apply, different]

@[simp]
theorem apply_none (view : StoreView) (site : OnionAddress) :
    view.apply site .none = view := by
  simp [apply, PersistenceIntent.applyTo]

@[simp]
theorem histories_appendRecord_same (view : StoreView) (publisher : PublisherPubkey)
    (record : RetainedManifestRecord) :
    (view.appendRecord publisher record).histories publisher =
      (view.histories publisher).push record := by
  simp [appendRecord]

theorem histories_appendRecord_other (view : StoreView) {publisher other : PublisherPubkey}
    (different : other ≠ publisher) (record : RetainedManifestRecord) :
    (view.appendRecord publisher record).histories other = view.histories other := by
  simp [appendRecord, different]

end StoreView

/-- The calls of the seams on the view. -/
def viewHandler : Handler storeInterface StoreView
  | .loadIdentity site, view => (.ok (view.identity site), view)
  | .apply site intent, view => (.ok (), view.apply site intent)
  | .loadHistory publisher, view => (.ok (view.histories publisher), view)
  | .appendRecord publisher record, view => (.ok (), view.appendRecord publisher record)

section Runs

variable (view : StoreView)

@[simp]
theorem run_loadIdentity (site : OnionAddress) :
    (loadIdentity site).run viewHandler view = (.ok (view.identity site), view) :=
  rfl

@[simp]
theorem run_applyIntent (site : OnionAddress) (intent : PersistenceIntent) :
    (applyIntent site intent).run viewHandler view = (.ok (), view.apply site intent) :=
  rfl

@[simp]
theorem run_loadHistory (publisher : PublisherPubkey) :
    (loadHistory publisher).run viewHandler view = (.ok (view.histories publisher), view) :=
  rfl

@[simp]
theorem run_appendRecord (publisher : PublisherPubkey) (record : RetainedManifestRecord) :
    (appendRecord publisher record).run viewHandler view =
      (.ok (), view.appendRecord publisher record) :=
  rfl

end Runs

/-! ### The doubles refine the view -/

/-- The doubles hold what the view says. -/
structure MemoryStores.Denotes (stores : MemoryStores) (view : StoreView) : Prop where
  identity : ∀ site, stores.identities.map site = view.identity site
  replaced : ∀ site, stores.identities.replacedKeys site = replacedAt (view.sites site)
  history : ∀ publisher, stores.history.loadHistory publisher = view.histories publisher

end EntangledClient
