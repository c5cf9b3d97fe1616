import EntangledClient.StoreFailClosed

/-!
# What the key vouches for

The envelope that a file encodes, read without the key, and what the primitives say
about it with the key.  A file opens to a payload only if its envelope carries the
payload with a tag of the key, or a ciphertext that the key decrypts.
-/

namespace EntangledClient

open CallTree ExceptRules

/-- What an envelope carries, its text encodings undone. -/
inductive SealedMessage
  | tagged (payload tag : Bytes)
  | encrypted (nonce ct : Bytes)
  deriving DecidableEq

structure SealedEnvelope where
  v : UInt32
  message : SealedMessage
  deriving DecidableEq

namespace Protector

variable (libs : StoreLibs)

/-- The envelope that bytes encode, whatever its version and its message. -/
def envelopeOf (bytes : Bytes) : Protector → Option SealedEnvelope
  | .integrity _ => do
      let env ← (libs.integrityJson.fromSlice bytes).toOption
      let payload ← (libs.base64Decode env.payloadB64).toOption
      let tag ← (libs.base64Decode env.macB64).toOption
      return ⟨env.v, .tagged payload tag⟩
  | .encrypted _ => do
      let env ← (libs.aeadJson.fromSlice bytes).toOption
      let nonce ← (libs.base64Decode env.nonceB64).toOption
      let ct ← (libs.base64Decode env.ctB64).toOption
      return ⟨env.v, .encrypted nonce ct⟩

/-- The payload that only a holder of the key can have made the message of: it stands
beside its own tag, or it is what the ciphertext decrypts to. -/
def authentic : Protector → SealedMessage → Option Bytes
  | .integrity key, .tagged payload tag =>
      if (libs.hmacSha256 key payload).toOption = some tag then some payload else none
  | .encrypted key, .encrypted nonce ct =>
      if fits : nonce.length = 24 then libs.decrypt key ⟨nonce, fits⟩ ct else none
  | .integrity _, .encrypted _ _ | .encrypted _, .tagged _ _ => none

/-- The version of the envelopes that a store of this mode writes. -/
def envelopeVersion : Protector → UInt32
  | .integrity _ => envelopeV
  | .encrypted _ => aeadV

variable {libs}

theorem openBytes_integrity_eq_ok {key bytes payload : Bytes} :
    (Protector.integrity key).openBytes libs bytes = .ok payload ↔
      ∃ tag, (Protector.integrity key).envelopeOf libs bytes =
          some ⟨envelopeV, .tagged payload tag⟩ ∧ libs.hmacSha256 key payload = .ok tag := by
  simp only [openBytes, bind_eq_ok, mapErr_eq_ok, ensure_eq_ok, pure_eq_ok, envelopeOf,
    Option.bind_eq_bind, Option.bind_eq_some_iff, toOption_eq_some, Option.pure_def,
    Option.some.injEq, SealedEnvelope.mk.injEq, SealedMessage.tagged.injEq]
  constructor
  · rintro ⟨env, decoded, -, version, payload, isPayload, tag, isTag, mac, isMac, -, rfl, ⟨⟩⟩
    exact ⟨mac, ⟨env, decoded, payload, isPayload, mac, isTag, version, rfl, rfl⟩, isMac⟩
  · rintro ⟨tag, ⟨env, decoded, payload, isPayload, tag, isTag, version, rfl, rfl⟩, isMac⟩
    exact ⟨env, decoded, (), version, payload, isPayload, tag, isTag, tag, isMac, (), rfl, rfl⟩

theorem nonceFromSlice_eq_ok {bytes : Bytes} {nonce : FixedBytes 24} :
    nonceFromSlice bytes = .ok nonce ↔ nonce.bytes = bytes := by
  unfold nonceFromSlice
  split
  next length =>
    constructor
    · rintro ⟨⟩
      rfl
    · rintro rfl
      rfl
  next misfit =>
    simp only [reduceCtorEq, false_iff]
    rintro rfl
    exact misfit nonce.length_eq

theorem openBytes_encrypted_eq_ok {key : Bytes32} {bytes payload : Bytes} :
    (Protector.encrypted key).openBytes libs bytes = .ok payload ↔
      ∃ nonce ct, (Protector.encrypted key).envelopeOf libs bytes =
          some ⟨aeadV, .encrypted nonce.bytes ct⟩ ∧ libs.decrypt key nonce ct = some payload := by
  simp only [openBytes, bind_eq_ok, mapErr_eq_ok, ensure_eq_ok, pure_eq_ok, envelopeOf,
    Option.bind_eq_bind, Option.bind_eq_some_iff, toOption_eq_some, nonceFromSlice_eq_ok,
    Option.pure_def, Option.some.injEq, SealedEnvelope.mk.injEq, SealedMessage.encrypted.injEq]
  constructor
  · rintro ⟨env, decoded, -, version, _, isNonce, ct, isCt, nonce, rfl, opened⟩
    refine ⟨nonce, ct, ⟨env, decoded, _, isNonce, ct, isCt, version, rfl, rfl⟩, ?_⟩
    cases decrypted : libs.decrypt key nonce ct with
    | none => simp [decrypted, fail] at opened
    | some result => simpa [decrypted] using opened
  · rintro ⟨nonce, ct, ⟨env, decoded, _, isNonce, ct, isCt, version, rfl, rfl⟩, decrypted⟩
    exact ⟨env, decoded, (), version, _, isNonce, ct, isCt, nonce, rfl, by simp [decrypted]⟩

/-- Bytes open to what the message of a supported envelope proves. -/
theorem openBytes_eq_ok {protector : Protector} {bytes payload : Bytes} :
    protector.openBytes libs bytes = .ok payload ↔
      ∃ message, protector.envelopeOf libs bytes = some ⟨protector.envelopeVersion, message⟩ ∧
        protector.authentic libs message = some payload := by
  cases protector with
  | integrity key =>
      rw [openBytes_integrity_eq_ok]
      constructor
      · rintro ⟨tag, isEnvelope, isMac⟩
        exact ⟨.tagged payload tag, isEnvelope, by simp [authentic, isMac, Except.toOption]⟩
      · rintro ⟨message, isEnvelope, proven⟩
        cases message with
        | tagged shown tag =>
            simp only [authentic, toOption_eq_some, Option.ite_none_right_eq_some,
              Option.some.injEq] at proven
            obtain ⟨isMac, rfl⟩ := proven
            exact ⟨tag, isEnvelope, isMac⟩
        | encrypted nonce ct => cases proven
  | encrypted key =>
      rw [openBytes_encrypted_eq_ok]
      constructor
      · rintro ⟨nonce, ct, isEnvelope, decrypted⟩
        exact ⟨.encrypted nonce.bytes ct, isEnvelope,
          (dif_pos nonce.length_eq).trans decrypted⟩
      · rintro ⟨message, isEnvelope, proven⟩
        cases message with
        | tagged shown tag => cases proven
        | encrypted nonce ct =>
            simp only [authentic, Option.dite_none_right_eq_some] at proven
            obtain ⟨fits, decrypted⟩ := proven
            exact ⟨⟨nonce, fits⟩, ct, isEnvelope, decrypted⟩

end Protector

end EntangledClient
