import StorageBridge.Byte

/-!
Retry requests: what a refused action leaves behind so that its caller can try again.
-/

set_option autoImplicit false

namespace StorageBridge

structure RetryRequest where
  -- The queue to try.
  target : Byte
  flag : Byte
  -- The higher one wins.
  priority : Byte
deriving DecidableEq, Repr

namespace RetryRequest

def fault : RetryRequest := { target := 0, flag := 0x3A, priority := 2 }

def linkDown : RetryRequest := { target := 0, flag := 0x3B, priority := 1 }

def recoveryFailed : RetryRequest := { target := 0, flag := 0x3D, priority := 1 }

def queueFull (target : Byte) : RetryRequest := { target, flag := 0x3C, priority := 3 }

-- The request that stays pending when `request` arrives: only a higher priority holds its place.
def settle (pending : Option RetryRequest) (request : RetryRequest) : RetryRequest :=
  match pending with
  | some current => if request.priority < current.priority then current else request
  | none => request

end RetryRequest

end StorageBridge
