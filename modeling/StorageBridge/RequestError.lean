import StorageBridge.Text.Hex

/-!
Requests that cannot be served: raw values outside their range, a latched controller, and hardware
that does not answer a bounded wait in time.
-/

set_option autoImplicit false

namespace StorageBridge

inductive RequestError where
  | unknownAction (raw : Byte)
  | slotOutOfRange (raw : Byte)
  | endpointOutOfRange (raw : Byte)
  | resetLatched
  | waitExpired (address : Address) (mask : Byte)
deriving DecidableEq, Repr

def RequestError.message : RequestError → String
  | unknownAction raw => "invalid action code " ++ raw.hex
  | slotOutOfRange raw => "slot index " ++ toString raw.toNat ++ " out of range"
  | endpointOutOfRange raw => "endpoint index " ++ toString raw.toNat ++ " out of range"
  | resetLatched => "controller is latched into reset"
  | waitExpired address mask => "timed out waiting for " ++ address.hex ++ " & " ++ mask.hex

end StorageBridge
