import EntangledClient.InterleavedSessions
import EntangledClient.SampleSessions

/-!
# Retained keys under interleaved sessions

An intent is applied without comparing the record it finds with the one its user
saw.  No retained key is lost as long as every decision that overwrites a record
finds one that the user did see.
-/

namespace EntangledClient

open CallTree

variable {T : CoreTypes} {σ : Type}

/-- The key is active at the site, or was replaced there. -/
def StoreView.Knows (view : StoreView) (site : OnionAddress) (key : PublisherPubkey) : Prop :=
  view.activeKey site = some key ∨ key ∈ replacedAt (view.sites site)

/-- The intent writes its own key over a record that it finds. -/
def PersistenceIntent.Overwrites (intent : PersistenceIntent) (found : RetainedIdentity) :
    Prop :=
  match intent with
  | .none | .recordObservation _ => False
  | .pinIdentity _ => found.provenance = .observed
  | .markExternallyVerified _ | .replaceIdentity _ _ _ => True

/-- What the intent of a resolution makes of a record that it finds. -/
theorem resolve_applyTo_some (presented : PublisherPubkey)
    (snapshot : Option RetainedIdentity) (decision : UserDecision) (found : RetainedSite) :
    ∃ after,
      (resolve presented snapshot decision).intent.applyTo (some found) = some after ∧
      found.replaced ⊆ after.replaced ∧
      (¬ (resolve presented snapshot decision).intent.Overwrites found.identity →
        after.identity.pubkey = found.identity.pubkey) ∧
      ((resolve presented snapshot decision).intent.Overwrites found.identity →
        after.identity.pubkey = presented ∧
        (found.identity.pubkey ≠ presented →
          snapshot.map (·.pubkey) = some found.identity.pubkey →
          decision.confirms ∧ found.identity.pubkey ∈ after.replaced)) := by
  rcases resolve_intent presented snapshot decision with
    silent | ⟨-, observed⟩ | pinned | ⟨-, seen, verified⟩ |
      ⟨record, isRecord, different, confirmed, replaced⟩
  · rw [silent]
    exact ⟨found, rfl, List.Subset.refl _, fun _ => rfl, False.elim⟩
  · rw [observed]
    exact ⟨found, rfl, List.Subset.refl _, fun _ => rfl, False.elim⟩
  · have unseen : snapshot.map (·.pubkey) = some found.identity.pubkey →
        found.identity.pubkey = presented := by
      intro seen
      obtain ⟨record, isRecord, sameKey⟩ := Option.map_eq_some_iff.mp seen
      subst isRecord
      by_contra different
      rw [resolve_mismatch (sameKey ▸ different)] at pinned
      cases decision <;> simp [mismatch] at pinned
    rw [pinned]
    by_cases isObserved : found.identity.provenance = .observed
    · refine ⟨⟨⟨presented, .pinned⟩, found.replaced⟩, ?_, List.Subset.refl _, ?_, ?_⟩
      · simp [PersistenceIntent.applyTo, isObserved]
      · exact fun untouched => absurd isObserved untouched
      · exact fun _ => ⟨rfl, fun different seen => absurd (unseen seen) different⟩
    · refine ⟨found, ?_, List.Subset.refl _, fun _ => rfl, fun overwrites => ?_⟩
      · simp [PersistenceIntent.applyTo, isObserved]
      · exact absurd overwrites isObserved
  · rw [verified]
    refine ⟨⟨⟨presented, .externallyVerified⟩, found.replaced⟩, rfl, List.Subset.refl _,
      fun untouched => absurd trivial untouched, fun _ => ⟨rfl, fun different sameKey => ?_⟩⟩
    obtain ⟨record, isRecord, key⟩ := Option.map_eq_some_iff.mp sameKey
    exact absurd (key.symm.trans (seen record isRecord)) different
  · rw [replaced]
    refine ⟨⟨⟨presented, _⟩, record.pubkey :: found.replaced⟩, rfl,
      List.subset_cons_self _ _, fun untouched => absurd trivial untouched,
      fun _ => ⟨rfl, fun _ sameKey => ⟨confirmed, ?_⟩⟩⟩
    rw [isRecord] at sameKey
    rw [← Option.some.inj sameKey]
    exact List.mem_cons_self ..

/-- The step belongs to a decision that confirmed to replace this key by that one. -/
def ConfirmsReplacement (system : System σ T) (event : SystemEvent) (site : OnionAddress)
    (former next : PublisherPubkey) : Prop :=
  ∃ index app decision program, event = .call index ∧
    (system.sessions index).phase = .deciding app decision program ∧
    decision.confirms ∧ app.loaded.site = site ∧
    app.loaded.retained.map (·.pubkey) = some former ∧ app.loaded.publisher = next

/-- The step changes an active key only by a confirmation that replaces it, and
after it every key that was ever active is active or replaced. -/
def KeysKept (observe : σ → StoreView) (before : System σ T) (event : SystemEvent)
    (after : System σ T) : Prop :=
  (∀ site former next, (observe before.store).activeKey site = some former →
    (observe after.store).activeKey site = some next → former ≠ next →
    ConfirmsReplacement before event site former next) ∧
  ∀ site, ∀ key ∈ after.everActive site, (observe after.store).Knows site key

/-- An apply of a decision finds nothing, the presented key, the key of its own
snapshot, or a record that it does not overwrite. -/
def AppliesToSeenRecord (observe : σ → StoreView) (before : System σ T)
    (event : SystemEvent) (_after : System σ T) : Prop :=
  ∀ index app decision site intent resume, event = .call index →
    (before.sessions index).phase = .deciding app decision (.call (.apply site intent) resume) →
    ∀ found ∈ (observe before.store).identity site,
      found.pubkey = app.loaded.publisher ∨
      app.loaded.retained.map (·.pubkey) = some found.pubkey ∨
      ¬ intent.Overwrites found

/-! ### One apply -/

/-- The key is active in what a site retains, or was replaced there. -/
def KnownIn (retained : Option RetainedSite) (key : PublisherPubkey) : Prop :=
  retained.map (·.identity.pubkey) = some key ∨ key ∈ replacedAt retained

theorem StoreView.knows_iff (view : StoreView) (site : OnionAddress)
    (key : PublisherPubkey) : view.Knows site key ↔ KnownIn (view.sites site) key := by
  rw [Knows, KnownIn, activeKey_eq]

/-- An intent that finds nothing, a key its user saw, or a record it does not
overwrite changes the key by confirmation only and forgets no key. -/
theorem applyTo_keeps {presented : PublisherPubkey} {snapshot : Option RetainedIdentity}
    {decision : UserDecision} {stored : Option RetainedSite}
    (seen : ∀ found ∈ stored, found.identity.pubkey = presented ∨
      snapshot.map (·.pubkey) = some found.identity.pubkey ∨
      ¬ (resolve presented snapshot decision).intent.Overwrites found.identity) :
    (∀ former next, stored.map (·.identity.pubkey) = some former →
      ((resolve presented snapshot decision).intent.applyTo stored).map
        (·.identity.pubkey) = some next → former ≠ next →
      decision.confirms ∧ snapshot.map (·.pubkey) = some former ∧ presented = next) ∧
    ∀ key, KnownIn stored key →
      KnownIn ((resolve presented snapshot decision).intent.applyTo stored) key := by
  cases stored with
  | none =>
      refine ⟨fun former next isFormer => by simp at isFormer, fun key known => ?_⟩
      simp [KnownIn, replacedAt] at known
  | some found =>
      obtain ⟨after, applied, keepsReplaced, untouched, overwritten⟩ :=
        resolve_applyTo_some presented snapshot decision found
      rw [applied]
      by_cases overwrites :
          (resolve presented snapshot decision).intent.Overwrites found.identity
      · obtain ⟨isPresented, confirmed⟩ := overwritten overwrites
        by_cases same : found.identity.pubkey = presented
        · refine ⟨fun former next isFormer isNext different => ?_, fun key known => ?_⟩
          · obtain rfl : found.identity.pubkey = former := by simpa using isFormer
            obtain rfl : after.identity.pubkey = next := by simpa using isNext
            exact absurd (same.trans isPresented.symm) different
          · rcases known with active | replaced
            · exact .inl (by simpa [isPresented, same] using active)
            · exact .inr (keepsReplaced (by simpa [replacedAt] using replaced))
        · have sawIt : snapshot.map (·.pubkey) = some found.identity.pubkey :=
            ((seen found rfl).resolve_left same).resolve_right fun not => not overwrites
          obtain ⟨confirms, retired⟩ := confirmed same sawIt
          refine ⟨fun former next isFormer isNext _ => ?_, fun key known => ?_⟩
          · obtain rfl : found.identity.pubkey = former := by simpa using isFormer
            obtain rfl : after.identity.pubkey = next := by simpa using isNext
            exact ⟨confirms, sawIt, isPresented.symm⟩
          · rcases known with active | replaced
            · obtain rfl : found.identity.pubkey = key := by simpa using active
              exact .inr retired
            · exact .inr (keepsReplaced (by simpa [replacedAt] using replaced))
      · have sameKey := untouched overwrites
        refine ⟨fun former next isFormer isNext different => ?_, fun key known => ?_⟩
        · obtain rfl : found.identity.pubkey = former := by simpa using isFormer
          obtain rfl : after.identity.pubkey = next := by simpa using isNext
          exact absurd sameKey.symm different
        · rcases known with active | replaced
          · exact .inl (by simpa [sameKey] using active)
          · exact .inr (keepsReplaced (by simpa [replacedAt] using replaced))

/-! ### Every step -/

/-- Sound sessions, and every key that was ever active still known. -/
structure KeyInvariant (core : Core T) (system : System StoreView T) : Prop where
  sound : system.Sound core
  active : ∀ site key, system.store.activeKey site = some key → key ∈ system.everActive site
  known : ∀ site, ∀ key ∈ system.everActive site, system.store.Knows site key

theorem keyInvariant_quiet (core : Core T) (view : StoreView) :
    KeyInvariant core (System.quiet id view : System StoreView T) where
  sound := System.sound_quiet view
  active site key isActive := by
    change key ∈ (view.activeKey site).toList
    change view.activeKey site = some key at isActive
    simp [isActive]
  known site key member := by
    change key ∈ (view.activeKey site).toList at member
    exact .inl (Option.mem_toList.mp member)

variable {core : Core T}

/-- A step keeps the keys if it changes active keys by confirmation and forgets
no key. -/
theorem KeyInvariant.keysKept {system next : System StoreView T} {event : SystemEvent}
    (invariant : KeyInvariant core system)
    (logged : ∀ site, ∀ key ∈ next.everActive site,
      next.store.activeKey site = some key ∨ key ∈ system.everActive site)
    (confirmed : ∀ site former key, system.store.activeKey site = some former →
      next.store.activeKey site = some key → former ≠ key →
      ConfirmsReplacement system event site former key)
    (remembered : ∀ site key, system.store.Knows site key → next.store.Knows site key) :
    KeysKept id system event next := by
  refine ⟨confirmed, fun site key member => ?_⟩
  rcases logged site key member with active | earlier
  · exact .inl active
  · exact remembered site key (invariant.known site key earlier)

theorem KeyInvariant.keysKept_of_sites {system next : System StoreView T}
    {event : SystemEvent} (invariant : KeyInvariant core system)
    (logged : ∀ site, ∀ key ∈ next.everActive site,
      next.store.activeKey site = some key ∨ key ∈ system.everActive site)
    (sameSites : next.store.sites = system.store.sites) :
    KeysKept id system event next := by
  refine invariant.keysKept logged ?_ ?_
  · intro site former key isFormer isNext different
    rw [StoreView.activeKey_eq] at isFormer isNext
    rw [sameSites, isFormer] at isNext
    exact absurd (Option.some.inj isNext) different
  · intro site key known
    rw [StoreView.knows_iff] at known ⊢
    rwa [sameSites]

/-- Apart from an apply, no call changes what a site retains. -/
theorem sites_viewHandler {request : StoreCall}
    (notApply : ∀ site intent, request ≠ .apply site intent) (view : StoreView) :
    (viewHandler request view).2.sites = view.sites := by
  cases request with
  | apply site intent => exact absurd rfl (notApply site intent)
  | loadIdentity site => rfl
  | loadHistory publisher => rfl
  | appendRecord publisher record => rfl

theorem KeyInvariant.keysKept_apply {system next : System StoreView T}
    {event : SystemEvent} (invariant : KeyInvariant core system)
    (logged : ∀ site, ∀ key ∈ next.everActive site,
      next.store.activeKey site = some key ∨ key ∈ system.everActive site)
    {presented : PublisherPubkey} {snapshot : Option RetainedIdentity}
    {decision : UserDecision} {site : OnionAddress}
    (applied : next.store =
      system.store.apply site (resolve presented snapshot decision).intent)
    (seen : ∀ found ∈ system.store.identity site, found.pubkey = presented ∨
      snapshot.map (·.pubkey) = some found.pubkey ∨
      ¬ (resolve presented snapshot decision).intent.Overwrites found)
    (confirmed : ∀ former, decision.confirms → snapshot.map (·.pubkey) = some former →
      ConfirmsReplacement system event site former presented) :
    KeysKept id system event next := by
  have seenSite : ∀ found ∈ system.store.sites site, found.identity.pubkey = presented ∨
      snapshot.map (·.pubkey) = some found.identity.pubkey ∨
      ¬ (resolve presented snapshot decision).intent.Overwrites found.identity := by
    intro found isFound
    exact seen found.identity (by rw [StoreView.identity, isFound]; rfl)
  obtain ⟨changes, remembers⟩ := applyTo_keeps seenSite
  refine invariant.keysKept logged ?_ ?_
  · intro other former key isFormer isNext different
    rw [StoreView.activeKey_eq] at isFormer isNext
    by_cases here : other = site
    · subst here
      rw [applied, StoreView.sites_apply_same] at isNext
      obtain ⟨confirms, sawIt, rfl⟩ := changes former key isFormer isNext different
      exact confirmed former confirms sawIt
    · rw [applied, StoreView.sites_apply_other _ here, isFormer] at isNext
      exact absurd (Option.some.inj isNext) different
  · intro other key known
    rw [StoreView.knows_iff] at known ⊢
    by_cases here : other = site
    · subst here
      rw [applied, StoreView.sites_apply_same]
      exact remembers key known
    · rwa [applied, StoreView.sites_apply_other _ here]

theorem opening_overwrites_nothing (presented : PublisherPubkey)
    (snapshot : Option RetainedIdentity) (found : RetainedIdentity) :
    ¬ (resolve presented snapshot .none).intent.Overwrites found := by
  rcases resolve_intent presented snapshot .none with
    silent | ⟨-, observed⟩ | pinned | ⟨impossible, -⟩ | ⟨record, -, -, impossible, -⟩
  · rw [silent]
    exact id
  · rw [observed]
    exact id
  · cases snapshot with
    | none => simp [firstContact] at pinned
    | some record =>
        by_cases same : record.pubkey = presented
        · rw [resolve_matched same, (matched_none presented record).2] at pinned
          cases pinned
        · rw [resolve_mismatch same] at pinned
          cases pinned
  · cases impossible
  · simp at impossible

/-- A call that is not the apply of a decision is not restricted. -/
theorem appliesToSeenRecord_of_not_deciding {system next : System StoreView T} {index : Nat}
    (notDeciding : ∀ app decision site intent resume, (system.sessions index).phase ≠
      .deciding app decision (.call (.apply site intent) resume)) :
    AppliesToSeenRecord id system (.call index) next := by
  intro other app decision site intent resume sameCall phase
  obtain rfl := SystemEvent.call.inj sameCall
  exact absurd phase (notDeciding app decision site intent resume)

/-- An apply of a decision that overwrites a record of another key changes the active key, so
if that is confirmed, the user saw the record. -/
theorem appliesToSeenRecord_of_kept {system next : System StoreView T} {index : Nat} {app : App T}
    {decision : UserDecision} {resume : storeInterface.Reply (.apply app.loaded.site
      (resolve app.loaded.publisher app.loaded.retained decision).intent) → StoreProgram (App T)}
    (phase : (system.sessions index).phase = .deciding app decision (.call _ resume))
    (store : next.store = (viewHandler (.apply app.loaded.site
      (resolve app.loaded.publisher app.loaded.retained decision).intent) system.store).2)
    (kept : KeysKept id system (.call index) next) :
    AppliesToSeenRecord id system (.call index) next := by
  intro other app' decision' site' intent' rest sameCall phase' found isFound
  obtain rfl := SystemEvent.call.inj sameCall
  rw [phase] at phase'
  cases phase'
  by_contra! unseen
  obtain ⟨notPresented, notSnapshot, overwrites⟩ := unseen
  obtain ⟨retained, isRetained, rfl⟩ := Option.map_eq_some_iff.mp isFound
  obtain ⟨after, applied, -, -, overwritten⟩ :=
    resolve_applyTo_some app.loaded.publisher app.loaded.retained decision retained
  obtain ⟨isPresented, -⟩ := overwritten overwrites
  have before : system.store.activeKey app.loaded.site =
      some retained.identity.pubkey := by
    rw [StoreView.activeKey_eq]
    exact congrArg (Option.map (·.identity.pubkey)) isRetained
  have changed : next.store.activeKey app.loaded.site =
      some app.loaded.publisher := by
    rw [StoreView.activeKey_eq, store]
    change ((system.store.apply _ _).sites _).map _ = _
    change system.store.sites _ = _ at isRetained
    rw [StoreView.sites_apply_same, isRetained, applied, ← isPresented]
    rfl
  obtain ⟨index', app', decision', program, sameCall, phase', -, -, saw, -⟩ :=
    kept.1 _ _ _ before changed notPresented
  obtain rfl := SystemEvent.call.inj sameCall
  rw [phase] at phase'
  cases phase'
  exact notSnapshot saw

/-- In a sound system a step keeps the keys exactly if an apply of a decision
finds a record that its user saw. -/
theorem KeyInvariant.keysKept_iff {system next : System StoreView T} {event : SystemEvent}
    (invariant : KeyInvariant core system)
    (taken : (System.machine core viewHandler id).step system event = some next) :
    KeysKept id system event next ↔ AppliesToSeenRecord id system event next := by
  rcases System.step_cases taken with
    ⟨notCall, sameStore, sameLog⟩ | ⟨index, request, resume, rfl, isPending, store, log⟩
  · constructor
    · intro _ index app decision site intent resume isCall
      exact absurd isCall (notCall index)
    · intro _
      refine invariant.keysKept_of_sites (fun site key member => .inr ?_) (by rw [sameStore])
      rwa [sameLog] at member
  · have logged : ∀ site, ∀ key ∈ next.everActive site,
        next.store.activeKey site = some key ∨ key ∈ system.everActive site := by
      intro site key member
      rw [log site] at member
      rcases List.mem_append.mp member with active | earlier
      · exact .inl (by simpa using active)
      · exact .inr earlier
    -- A call that is no apply leaves the sites.
    have noApply : (∀ site intent, request ≠ .apply site intent) →
        KeysKept id system (.call index) next := by
      intro notApply
      refine invariant.keysKept_of_sites logged ?_
      rw [store]
      exact sites_viewHandler notApply _
    rcases (invariant.sound index).pending_cases isPending with
      ⟨isLoad, notDeciding⟩ | ⟨loaded, program, phase, -, persists⟩ |
        ⟨app, decision, continue_, phase, -, persists⟩
    · refine iff_of_true (noApply fun site intent isApply => ?_)
        (appliesToSeenRecord_of_not_deciding fun _ _ _ _ _ => notDeciding _ _ _)
      simp [isApply, StoreCall.IsLoad] at isLoad
    · refine iff_of_true ?_ (appliesToSeenRecord_of_not_deciding (by simp [phase]))
      cases request with
      | apply site intent =>
          obtain ⟨rfl, rfl⟩ := persists
          exact invariant.keysKept_apply logged store
            (fun found _ => .inr (.inr (opening_overwrites_nothing _ _ found)))
            (fun former impossible => by simp [UserDecision.confirms] at impossible)
      | loadIdentity site | loadHistory publisher | appendRecord publisher record =>
          exact noApply (by simp)
    · cases request with
      | loadIdentity site | loadHistory publisher | appendRecord publisher record =>
          exact iff_of_true (noApply (by simp))
            (appliesToSeenRecord_of_not_deciding (by simp [phase]))
      | apply site intent =>
          obtain ⟨rfl, rfl⟩ := persists
          constructor
          · exact appliesToSeenRecord_of_kept phase store
          · intro seen
            exact invariant.keysKept_apply logged store
              (seen index app decision _ _ continue_ rfl phase)
              (fun former confirms saw =>
                ⟨index, app, decision, _, rfl, phase, confirms, rfl, saw, rfl⟩)

/-- In every interleaving of sessions on valid files, active keys change only by a
confirmation that replaces them and no key that was ever active is forgotten,
exactly if every apply of a decision finds a record that its user saw. -/
theorem keysKept_iff_appliesToSeenRecord {libs : StoreLibs} (lawful : libs.Lawful)
    (root : StoreRoot) (core : Core T) {disk : Disk} (valid : root.ValidFiles libs disk)
    (events : List SystemEvent) :
    (System.machine core (fileHandler libs root) (root.view libs)).Along
        (KeysKept (root.view libs)) (System.quiet (root.view libs) disk) events ↔
      (System.machine core (fileHandler libs root) (root.view libs)).Along
        (AppliesToSeenRecord (root.view libs)) (System.quiet (root.view libs) disk)
        events := by
  rw [← System.along_onView lawful (fun _ observe => KeysKept observe)
      (fun _ _ _ => Iff.rfl) valid,
    ← System.along_onView lawful (fun _ observe => AppliesToSeenRecord observe)
      (fun _ _ _ => Iff.rfl) valid]
  refine StateMachine.along_iff_along (KeyInvariant core) ?_ ?_
    (keyInvariant_quiet core _) events
  · intro system event next invariant taken
    exact invariant.keysKept_iff taken
  · intro system event next invariant taken kept
    refine ⟨invariant.sound.step taken, fun site key active => ?_, kept.2⟩
    rcases System.step_cases taken with ⟨-, sameStore, sameLog⟩ | ⟨_, _, _, -, -, -, log⟩
    · rw [sameStore] at active
      rw [sameLog]
      exact invariant.active site key active
    · rw [log site]
      exact List.mem_append_left _ (Option.mem_toList.mpr active)

/-- One session observes a key, another one confirms a new key in its place, and
the first one, which still shows the old key, confirms the phrase of it. -/
def lostKeyEvents : List SystemEvent :=
  SampleCore.start 0 ⟨.alpha, 10, 1, 0⟩ :: SampleCore.calls 0 5 ++
    SampleCore.start 1 ⟨.beta, 20, 2, 0⟩ :: SampleCore.calls 1 4 ++
    .decide 1 .confirmNewIdentity :: SampleCore.calls 1 3 ++
    .decide 0 .confirmPip :: SampleCore.calls 0 1

theorem keysKept_iff_appliesToSeenRecord_lostKey :
    (System.machine SampleCore.core (fileHandler SampleLibs.libs SampleLibs.root)
        (SampleLibs.root.view SampleLibs.libs)).Along
        (KeysKept (SampleLibs.root.view SampleLibs.libs))
        (System.quiet (SampleLibs.root.view SampleLibs.libs) SampleLibs.emptyDisk)
        lostKeyEvents ↔
      (System.machine SampleCore.core (fileHandler SampleLibs.libs SampleLibs.root)
        (SampleLibs.root.view SampleLibs.libs)).Along
        (AppliesToSeenRecord (SampleLibs.root.view SampleLibs.libs))
        (System.quiet (SampleLibs.root.view SampleLibs.libs) SampleLibs.emptyDisk)
        lostKeyEvents :=
  keysKept_iff_appliesToSeenRecord SampleLibs.lawful SampleLibs.root SampleCore.core
    SampleLibs.emptyDisk_valid lostKeyEvents

/-- The new key is overwritten by the old one and kept nowhere. -/
theorem confirmPip_loses_key :
    ¬ (System.machine SampleCore.core (fileHandler SampleLibs.libs SampleLibs.root)
        (SampleLibs.root.view SampleLibs.libs)).Along
        (KeysKept (SampleLibs.root.view SampleLibs.libs))
        (System.quiet (SampleLibs.root.view SampleLibs.libs) SampleLibs.emptyDisk)
        lostKeyEvents := by
  rw [← System.along_onView SampleLibs.lawful (fun _ observe => KeysKept observe)
    (fun _ _ _ => Iff.rfl) SampleLibs.emptyDisk_valid]
  intro kept
  have reached : ∃ final, (System.machine SampleCore.core viewHandler id).run
      (System.quiet id StoreView.empty) lostKeyEvents = some final ∧
      seedKey 2 ∈ final.everActive ⟨"zero.onion"⟩ ∧
      final.store.sites ⟨"zero.onion"⟩ =
        some ⟨⟨seedKey 1, .externallyVerified⟩, [seedKey 1]⟩ :=
    ⟨_, rfl, by decide +kernel, by decide +kernel⟩
  obtain ⟨final, ran, wasActive, retained⟩ := reached
  have known := kept.invariant_run
    (fun system => ∀ site, ∀ key ∈ system.everActive site,
      system.store.Knows site key)
    (fun system event next _ _ step => step.2) (keyInvariant_quiet SampleCore.core _).known ran
  have lost := (StoreView.knows_iff _ _ _).mp (known ⟨"zero.onion"⟩ (seedKey 2) wasActive)
  rw [retained] at lost
  exact absurd lost (by simp [KnownIn, replacedAt]; decide)

end EntangledClient
