import EntangledClient.TrustState

/-!
# The chrome model

What the always-visible part of the window shows for a publisher: the trust
state, the carrier address, the canary state, the identity phrase and the
warnings whose condition holds.
-/

namespace EntangledClient

variable {T : CoreTypes}

def pipLabelText : String :=
  "publisher identity phrase"

/-- Observed conditions that drive the conditional warnings. -/
structure ChromeConditions where
  canaryConflict : Bool
  canaryGap : Bool
  historicalContent : Bool
  staleCached : Bool
  requestStateActive : Bool
  deriving DecidableEq

def ChromeConditions.default : ChromeConditions where
  canaryConflict := false
  canaryGap := false
  historicalContent := false
  staleCached := false
  requestStateActive := false

inductive Warning
  | trustMismatch
  | canaryConflict
  | canaryExpired
  | canaryInvalid
  | canaryGap
  | historicalContent
  | staleCachedContent
  deriving DecidableEq

structure ChromeView where
  trustState : TrustState
  carrierAddressCompact : String
  canaryState : CanaryState
  pipLabel : String
  pip : String
  pipMustBeFullyShown : Bool
  warnings : List Warning
  requestStateActive : Bool
  deriving DecidableEq

/-- `[warning]` if the condition holds. -/
def Warning.when (warning : Warning) (condition : Bool) : List Warning :=
  if condition then [warning] else []

def ChromeView.build (core : Core T) (publisher : PublisherPubkey) (trustState : TrustState)
    (canaryState : CanaryState) (carrierAddressCompact : String)
    (conditions : ChromeConditions) : ChromeView where
  trustState
  carrierAddressCompact
  canaryState
  pipLabel := pipLabelText
  pip := core.derivePip publisher
  pipMustBeFullyShown := trustState = .firstContact ∨ trustState = .changedMismatch
  warnings :=
    Warning.trustMismatch.when (trustState = .changedMismatch) ++
    Warning.canaryConflict.when conditions.canaryConflict ++
    (match canaryState with
      | .expired => [.canaryExpired]
      | .invalid => [.canaryInvalid]
      | .fresh | .nearExpiration | .unavailable => []) ++
    Warning.canaryGap.when conditions.canaryGap ++
    Warning.historicalContent.when conditions.historicalContent ++
    Warning.staleCachedContent.when conditions.staleCached
  requestStateActive := conditions.requestStateActive

end EntangledClient
