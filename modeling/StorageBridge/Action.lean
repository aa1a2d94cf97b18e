import StorageBridge.RequestError

/-!
Queue actions and the transport status codes that ask for them.
-/

set_option autoImplicit false

namespace StorageBridge

-- What a command does: the extended or the simple queue path, to or from the host.
inductive Action where
  | simpleOut
  | simpleIn
  | extendedOut
  | extendedIn
deriving DecidableEq, Repr

namespace Action

def bits : Action → Byte
  | simpleOut => 0
  | simpleIn => 1
  | extendedOut => 2
  | extendedIn => 3

def isExtended (action : Action) : Bool :=
  action.bits.meets 0x02

def isInbound (action : Action) : Bool :=
  action.bits.meets 0x01

def name : Action → String
  | simpleOut => "SimpleOut"
  | simpleIn => "SimpleIn"
  | extendedOut => "ExtendedOut"
  | extendedIn => "ExtendedIn"

def ofBits (raw : Byte) : Except RequestError Action :=
  match raw with
  | 0 => .ok simpleOut
  | 1 => .ok simpleIn
  | 2 => .ok extendedOut
  | 3 => .ok extendedIn
  | _ => .error (.unknownAction raw)

def ofStatus? (status : Byte) : Option Action :=
  match status with
  | 0x28 => some extendedIn
  | 0x2A => some simpleIn
  | 0x88 => some extendedOut
  | 0x8A => some simpleOut
  | _ => none

theorem ofBits_bits (action : Action) : ofBits action.bits = .ok action := by
  cases action <;> rfl

end Action

end StorageBridge
