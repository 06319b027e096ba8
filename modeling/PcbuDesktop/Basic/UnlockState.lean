import PcbuDesktop.Basic.Text

set_option autoImplicit false

/-! # Unlock states and phases

The two enumerations of `handler/UnlockState.h` and the texts they are shown as. A text is
looked up by its key in the table of the user's language, the parameter `i18n`.
-/

namespace PcbuDesktop

inductive UnlockState where
  | unknown
  | success
  | canceled
  | timeout
  | connectError
  | timeError
  | dataError
  | notPairedError
  | appError
  | startError
  | portError
  | protocolError
  | cloudServerUnreachable
  | cloudPhoneUnreachable
  | cloudRateLimited
  | cloudPairingGone
  | cloudDeviceStale
  | cloudNoSubscription
  | cloudSubscriptionStale
  | cloudSubscriptionOnHold
  | cloudSubscriptionPaused
  | unkError
  deriving DecidableEq, Repr

/-- The `I18n` key of `UnlockStateUtils::ToString`. -/
def UnlockState.key : UnlockState → String
  | .success => "unlock_success"
  | .canceled => "unlock_canceled"
  | .timeout => "unlock_timeout"
  | .connectError => "unlock_error_connect"
  | .timeError => "unlock_error_time"
  | .dataError => "unlock_error_data"
  | .notPairedError => "unlock_error_not_paired"
  | .appError => "unlock_error_app"
  | .startError => "error_start_handler"
  | .portError => "error_unlock_server_init"
  | .protocolError => "error_protocol_mismatch"
  | .unkError => "unlock_error_unknown"
  | .cloudServerUnreachable => "unlock_error_cloud_server_unreachable"
  | .cloudPhoneUnreachable => "unlock_error_cloud_phone_unreachable"
  | .cloudRateLimited => "unlock_error_cloud_rate_limited"
  | .cloudNoSubscription => "unlock_error_cloud_no_subscription"
  | .cloudPairingGone => "unlock_error_cloud_pairing_gone"
  | .cloudSubscriptionStale => "unlock_error_cloud_subscription_stale"
  | .cloudDeviceStale => "unlock_error_cloud_device_stale"
  | .cloudSubscriptionOnHold => "unlock_error_cloud_subscription_on_hold"
  | .cloudSubscriptionPaused => "unlock_error_cloud_subscription_paused"
  | .unknown => "error_unknown"

/-- `UnlockStateUtils::ToString`. -/
def UnlockState.toText (i18n : String → Str) (s : UnlockState) : Str := i18n s.key

/-- The phases, in the order the source compares them with `<`. -/
inductive UnlockPhase where
  | finished
  | starting
  | clientConnecting
  | serverWaiting
  | cloudRequesting
  | cloudConnecting
  | phoneUnlocking
  deriving DecidableEq, Repr

/-- The underlying value of the `enum class`. -/
def UnlockPhase.rank : UnlockPhase → Nat
  | .finished => 0
  | .starting => 1
  | .clientConnecting => 2
  | .serverWaiting => 3
  | .cloudRequesting => 4
  | .cloudConnecting => 5
  | .phoneUnlocking => 6

/-- `UnlockPhaseUtils::ToString`; the finished phase has no text. -/
def UnlockPhase.toText (i18n : String → Str) : UnlockPhase → Str
  | .starting => i18n "initializing"
  | .clientConnecting => i18n "wait_client_phone_connect"
  | .serverWaiting => i18n "wait_server_phone_connect"
  | .cloudRequesting => i18n "wait_cloud_request"
  | .cloudConnecting => i18n "wait_cloud_connect"
  | .phoneUnlocking => i18n "wait_phone_unlock"
  | .finished => []

end PcbuDesktop
