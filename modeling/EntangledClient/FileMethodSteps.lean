import EntangledClient.RecordCalls

/-!
# The steps of a store method

A method of the stores reads its record once.  Then it answers, or it draws random bytes and
replaces the record by one call, its last.  What it answers and writes is what the call of the
seams makes of a view that the record denoted when it was read.
-/

namespace EntangledClient

open CallTree ExceptRules

/-! ### When a call replaces a record -/

/-- Whether an intent is written over what a site retains. -/
def PersistenceIntent.rewrites (retained : Option RetainedSite) : PersistenceIntent → Bool
  | .none => false
  | .recordObservation _ => retained.isNone
  | .pinIdentity _ => retained.all fun site => site.identity.provenance = .observed
  | .markExternallyVerified _ | .replaceIdentity _ _ _ => true

theorem PersistenceIntent.applyTo_of_not_rewrites {intent : PersistenceIntent}
    {retained : Option RetainedSite} (keeps : intent.rewrites retained = false) :
    intent.applyTo retained = retained := by
  cases intent with
  | none => rfl
  | recordObservation pubkey | pinIdentity pubkey =>
      cases retained <;> simp_all [rewrites, applyTo]
  | markExternallyVerified pubkey | replaceIdentity newPubkey replaced externallyVerified =>
      cases keeps

/-- Whether a call replaces its record, given the view that it read. -/
def StoreCall.rewrites (request : StoreCall) (view : StoreView) : Bool :=
  match request with
  | .loadIdentity _ | .loadHistory _ => false
  | .apply site intent => intent.rewrites (view.sites site)
  | .appendRecord _ _ => true

section Steps

variable (libs : StoreLibs) (root : StoreRoot)

/-- The content of a record file is what the view says of its site or publisher. -/
def StoreRoot.FileDenotes (path : StorePath) (file : Option Bytes) (view : StoreView) : Prop :=
  match path with
  | .identity site => root.siteFile libs file = .ok (view.sites site)
  | .history publisher => root.historyFile libs file = .ok (view.histories publisher)
  | .storeKey | .storeMeta => True

/-- A program that draws random bytes, replaces one file, and answers this; a call that fails
ends it. -/
def Replaces {α : Type} (path : StorePath) (holds : Bytes → Prop) (answer : Except Failure α) :
    FileProgram α → Prop
  | .call (.writeAtomic target bytes) resume =>
      target = path ∧ holds bytes ∧ resume (.ok ()) = .ret answer ∧
        ∀ failure, resume (.error failure) = .ret (.error failure)
  | .call (.getrandom length) resume =>
      (∀ drawn : FixedBytes length, Replaces path holds answer (resume (.ok drawn))) ∧
        ∀ failure, resume (.error failure) = .ret (.error failure)
  | _ => False

/-- What is left of a method answers as the call does on a view, which the call does not change,
or replaces the record as the call does. -/
def Acts (path : StorePath) (request : StoreCall) (view : StoreView)
    (rest : FileProgram request.Result) : Prop :=
  (rest = .ret (viewHandler request view).1 ∧ (viewHandler request view).2 = view) ∨
    (request.rewrites view = true ∧
      Replaces path (fun bytes => root.FileDenotes libs path (some bytes)
        (viewHandler request view).2) (viewHandler request view).1 rest)

/-- A method that reads its record once and then acts on any view that the record denotes. -/
def ReadsAndActs (path : StorePath) (request : StoreCall)
    (method : FileProgram request.Result) : Prop :=
  ∃ resume, method = .call (.readFileOpt path) resume ∧
    (∀ failure, resume (.error failure) = .ret (.error failure)) ∧
    ∀ file view, root.FileDenotes libs path file view →
      Acts libs root path request view (resume (.ok file))

end Steps

variable {libs : StoreLibs} {root : StoreRoot}

/-! ### Protected writes -/

theorem replaces_write {path : StorePath} {holds : Bytes → Prop} {outcome : Except Failure Bytes}
    {sealed : Bytes} (isSealed : outcome = .ok sealed) (isHeld : holds sealed) :
    Replaces path holds (.ok ()) (ofResult outcome >>= writeAtomic path) := by
  rw [isSealed]
  exact ⟨rfl, isHeld, rfl, fun _ => rfl⟩

theorem writeProtected_replaces (lawful : libs.Lawful) {path : StorePath} {payload : Bytes}
    {holds : Bytes → Prop}
    (opens : ∀ sealed, root.protector.openBytes libs sealed = .ok payload → holds sealed) :
    Replaces path holds (.ok ()) (root.writeProtected libs path payload) := by
  obtain ⟨protector⟩ := root
  have seals := protector.sealBytes_concludes lawful payload
  cases protector with
  | integrity key =>
      obtain ⟨tag, hmac⟩ := lawful.hmac key payload
      obtain ⟨sealed, encoded, _⟩ := lawful.integrityJson {
        v := envelopeV
        payloadB64 := libs.base64Encode payload
        macB64 := libs.base64Encode tag }
      refine replaces_write ?_ (opens sealed (seals sealed ?_))
      · simp [hmac, encoded]
      · simp [hmac, encoded]
  | encrypted key =>
      refine ⟨fun nonce => ?_, fun _ => rfl⟩
      obtain ⟨ct, encrypted, _⟩ := lawful.aead key nonce payload
      obtain ⟨sealed, encoded, _⟩ := lawful.aeadJson {
        v := aeadV
        nonceB64 := libs.base64Encode nonce.bytes
        ctB64 := libs.base64Encode ct }
      refine replaces_write ?_ (opens sealed (seals (.ok nonce) sealed ?_))
      · simp [encrypted, encoded]
      · simp [encrypted, encoded]

theorem writeDto_replaces (lawful : libs.Lawful) {site : OnionAddress}
    {identity : RetainedIdentity} {replaced : List PublisherPubkey} {view : StoreView}
    (isRetained : view.sites site = some ⟨identity, replaced⟩) :
    Replaces (.identity site)
      (fun bytes => root.FileDenotes libs (.identity site) (some bytes) view) (.ok ())
      (FileIdentityStore.writeDto libs root site (.new identity replaced)) := by
  obtain ⟨bytes, encoded, decoded⟩ := lawful.identityJson (.new identity replaced)
  have written : FileIdentityStore.writeDto libs root site (.new identity replaced) =
      root.writeProtected libs (.identity site) bytes := by
    simp only [FileIdentityStore.writeDto, encoded, mapErr_ok]
    rfl
  rw [written]
  refine writeProtected_replaces lawful fun sealed opened => ?_
  rw [StoreRoot.FileDenotes, isRetained]
  exact StoreRoot.siteFile_of_opened opened decoded

/-! ### The methods -/

/-- A method that loads the record of a site. -/
theorem identity_readsAndActs {site : OnionAddress} {request : StoreCall}
    {next : Option IdentityDto → FileProgram request.Result}
    (absent : ∀ view, view.sites site = none →
      Acts libs root (.identity site) request view (next none))
    (present : ∀ view dto retained, view.sites site = some retained → dto.toSite = .ok retained →
      Acts libs root (.identity site) request view (next (some dto))) :
    ReadsAndActs libs root (.identity site) request
      (FileIdentityStore.loadDto libs root site >>= next) := by
  rw [FileIdentityStore.loadDto_eq]
  refine ⟨_, rfl, fun _ => rfl, fun file view denotes => ?_⟩
  rcases StoreRoot.siteFile_eq_ok.mp denotes with
    ⟨isAbsent, isNone⟩ | ⟨dto, retained, found, converted, isSome⟩
  · simp only [ok_bind, isAbsent]
    exact absent view isNone
  · simp only [ok_bind, found]
    exact present view dto retained isSome converted

/-- A method that loads the record of a publisher. -/
theorem history_readsAndActs {publisher : PublisherPubkey} {request : StoreCall}
    {next : Option HistoryDto → FileProgram request.Result}
    (acts : ∀ view file found, root.historyFile libs file = .ok (view.histories publisher) →
      root.historyDtoFile libs file = .ok found →
      Acts libs root (.history publisher) request view (next found)) :
    ReadsAndActs libs root (.history publisher) request
      (FileHistoryStore.loadDto libs root publisher >>= next) := by
  rw [FileHistoryStore.loadDto_eq]
  refine ⟨_, rfl, fun _ => rfl, fun file view denotes => ?_⟩
  obtain ⟨found, isFound, -⟩ := StoreRoot.historyFile_entries denotes
  simp only [ok_bind, isFound]
  exact acts view file found denotes isFound

theorem loadIdentity_readsAndActs (site : OnionAddress) :
    ReadsAndActs libs root (.identity site) (.loadIdentity site)
      (FileIdentityStore.loadIdentity libs root site) := by
  refine identity_readsAndActs (fun view isNone => .inl ⟨?_, rfl⟩)
    (fun view dto retained isSome converted => .inl ⟨?_, rfl⟩)
  · simp only [viewHandler, StoreView.identity, isNone]
    rfl
  · obtain ⟨identity, -⟩ := IdentityDto.toSite_eq_ok.mp converted
    simp only [viewHandler, StoreView.identity, isSome, identity]
    rfl

theorem loadHistory_readsAndActs (publisher : PublisherPubkey) :
    ReadsAndActs libs root (.history publisher) (.loadHistory publisher)
      (FileHistoryStore.loadHistory libs root publisher) := by
  refine history_readsAndActs fun view file found denotes isFound => .inl ⟨?_, rfl⟩
  rcases StoreRoot.historyFile_eq_ok.mp denotes with
    ⟨absent, isNew⟩ | ⟨dto, records, isDto, converted, isHistory⟩
  · obtain rfl := Except.ok.inj (isFound.symm.trans absent)
    simp only [viewHandler, isNew]
    rfl
  · obtain rfl := Except.ok.inj (isFound.symm.trans isDto)
    simp only [viewHandler, isHistory, converted]
    rfl

theorem StoreView.apply_of_same {view : StoreView} {site : OnionAddress}
    {intent : PersistenceIntent}
    (same : intent.applyTo (view.sites site) = view.sites site) :
    view.apply site intent = view := by
  simp [StoreView.apply, same]

theorem apply_readsAndActs (lawful : libs.Lawful) (site : OnionAddress)
    {intent : PersistenceIntent} (notEmpty : intent ≠ .none) :
    ReadsAndActs libs root (.identity site) (.apply site intent)
      (FileIdentityStore.apply libs root site intent) := by
  have writes : ∀ view identity replaced, intent.rewrites (view.sites site) = true →
      intent.applyTo (view.sites site) = some ⟨identity, replaced⟩ →
      Acts libs root (.identity site) (.apply site intent) view
        (FileIdentityStore.writeDto libs root site (.new identity replaced)) := by
    intro view identity replaced rewrites applied
    refine .inr ⟨rewrites, writeDto_replaces lawful ?_⟩
    simp [viewHandler, applied]
  have skips : ∀ view, intent.rewrites (view.sites site) = false →
      Acts libs root (.identity site) (.apply site intent) view (pure ()) :=
    fun view keeps => .inl ⟨rfl, StoreView.apply_of_same
      (PersistenceIntent.applyTo_of_not_rewrites keeps)⟩
  cases intent with
  | none => exact (notEmpty rfl).elim
  | recordObservation pubkey =>
      refine identity_readsAndActs (fun view isNone => writes view _ _ ?_ ?_)
        fun view dto retained isSome converted => skips view ?_
      · rw [isNone]
        rfl
      · rw [isNone]
        rfl
      · rw [isSome]
        rfl
  | pinIdentity pubkey =>
      refine identity_readsAndActs (fun view isNone => writes view _ _ ?_ ?_)
        fun view dto retained isSome converted => ?_
      · rw [isNone]
        rfl
      · rw [isNone]
        rfl
      · obtain ⟨identity, replaced⟩ := IdentityDto.toSite_eq_ok.mp converted
        simp only [identity, asOutcome_ok]
        by_cases observed : retained.identity.provenance = .observed
        · have pins := writes view ⟨pubkey, .pinned⟩ retained.replaced
            (by simp [isSome, PersistenceIntent.rewrites, observed])
            (by simp [isSome, PersistenceIntent.applyTo, observed])
          rw [← replaced] at pins
          change Acts libs root _ _ view (if _ then _ else _)
          rwa [if_pos observed]
        · change Acts libs root _ _ view (if _ then _ else _)
          rw [if_neg observed]
          exact skips view (by simp [isSome, PersistenceIntent.rewrites, observed])
  | markExternallyVerified pubkey | replaceIdentity newPubkey old externallyVerified =>
      refine identity_readsAndActs (fun view isNone => writes view _ _ rfl ?_)
        fun view dto retained isSome converted => writes view _ _ rfl ?_
      · rw [isNone]
        rfl
      · obtain ⟨-, replaced⟩ := IdentityDto.toSite_eq_ok.mp converted
        rw [isSome]
        simp [PersistenceIntent.applyTo, replacedAt, FileIdentityStore.replacedPubkeys, replaced]

theorem appendRecord_readsAndActs (lawful : libs.Lawful) (publisher : PublisherPubkey)
    (record : RetainedManifestRecord) :
    ReadsAndActs libs root (.history publisher) (.appendRecord publisher record)
      (FileHistoryStore.appendRecord libs root publisher record) := by
  refine history_readsAndActs fun view file found denotes isFound => .inr ⟨rfl, ?_⟩
  obtain ⟨other, isOther, entries⟩ := StoreRoot.historyFile_entries denotes
  obtain rfl := Except.ok.inj (isFound.symm.trans isOther)
  obtain ⟨bytes, encoded, decoded⟩ := lawful.historyJson {
    v := historyV
    records := ManifestRecordDto.fromRecord record :: (found.map (·.records)).getD [] }
  simp only [encoded, mapErr_ok]
  refine writeProtected_replaces lawful fun sealed opened => ?_
  have holds : root.historyFile libs (some sealed) =
      .ok ((view.histories publisher).push record) := by
    refine StoreRoot.historyFile_of_opened opened decoded ?_
    simp [entries]
  simpa [StoreRoot.FileDenotes, viewHandler] using holds

/-- Every method about a record reads it and acts on what it denotes; the empty intent answers
without a file call. -/
theorem fileMethod_readsAndActs (lawful : libs.Lawful) (request : StoreCall) :
    match request.recordPath with
    | some path => ReadsAndActs libs root path request (fileMethod libs root request)
    | none => ∃ reply, fileMethod libs root request = .ret (.ok reply) ∧
        ∀ view, viewHandler request view = (.ok reply, view) := by
  cases request with
  | loadIdentity site => exact loadIdentity_readsAndActs site
  | loadHistory publisher => exact loadHistory_readsAndActs publisher
  | appendRecord publisher record => exact appendRecord_readsAndActs lawful publisher record
  | apply site intent =>
      by_cases empty : intent = .none
      · subst empty
        exact ⟨(), rfl, fun view => Prod.ext rfl (viewHandler_apply_none site view)⟩
      · simp only [StoreCall.recordPath, if_neg empty]
        exact apply_readsAndActs lawful site empty

end EntangledClient
