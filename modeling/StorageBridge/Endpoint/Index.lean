import StorageBridge.RequestError
import StorageBridge.Registers

/-!
Endpoints come in eight groups of eight. A bitmap names those that are ready; the lowest bit wins.
-/

set_option autoImplicit false

namespace StorageBridge

-- A group, or an endpoint inside its group.
abbrev EndpointIndex := Fin 8

namespace EndpointIndex

def ofByte (raw : Byte) : Except RequestError EndpointIndex :=
  if bound : raw.toNat < 8 then .ok ⟨raw.toNat, bound⟩ else .error (.endpointOutOfRange raw)

-- The bit of an index in a bitmap. Written to a group register, it acknowledges the endpoint.
def bit (index : EndpointIndex) : Byte :=
  Byte.single index

def lowest? (bitmap : Byte) : Option EndpointIndex :=
  (List.finRange 8).find? fun index => bitmap.meets index.bit

def groupOffset (group : EndpointIndex) : Byte :=
  UInt8.ofNat (8 * group.val)

def offset (group endpoint : EndpointIndex) : Byte :=
  group.groupOffset + UInt8.ofNat endpoint.val

def groupRegister (group : EndpointIndex) : Address :=
  Reg.Endpoint.base + UInt16.ofNat group.val

end EndpointIndex

end StorageBridge
