import Mathlib.Tactic

/-!
# Error codes

The codes of `artik_error.h` that the modelled calls return.
-/

namespace ArtikSdk

/-- `artik_error`. -/
inductive ArtikError where
  | ok
  | badArgs
  | busy
  | notInitialized
  | noMem
  | notSupported
  | accessDenied
  | interrupted
  | invalidValue
  | inProgress
  | httpError
  | networkError
  | wifiError
  | btError
  | websocketError
  | lwm2mError
  | mqttError
  | securityError
  | securityInvalidX509
  | securityInvalidPkcs7
  | securityCaVerifFailed
  | securityDigestMismatch
  | securitySignatureMismatch
  | securitySigningTimeRollback
deriving DecidableEq

end ArtikSdk
