import StorageBridge.Ring
import StorageBridge.Retry
import StorageBridge.Settings
import StorageBridge.Transfer.Basic

/-!
The protocol state that the firmware keeps between events.
-/

set_option autoImplicit false

namespace StorageBridge

-- A flash-control transition, with the state written to flash control. Nothing follows it.
structure ResetRequest where
  target : Byte
deriving DecidableEq, Repr

structure State where
  -- readiness: a fault refuses everything, an active command state does not need the link, a set
  -- transfer state ignores a busy backend, and power-up keeps the link from being retrained
  fault : Bool := false
  commandActive : Bool := false
  transferState : Bool := false
  powerInit : Bool := false
  transferActive : Bool := false
  dmaMode : Byte := 0
  -- commands handed to the backend and commands retired, both modulo 32
  submitLog : Byte := 0
  completeLog : Byte := 0
  -- the queue
  lastAction : Option Action := none
  -- The caller should press its retry. Never withdrawn.
  escalate : Bool := false
  -- Low byte first.
  coreState : Byte × Byte := (0, 0)
  ring : CommandRing := .empty
  secondaryUpdate : Bool := false
  -- Distance from the backend head to the ring index.
  indexDistance : Byte := 0
  scratch : Byte := 0
  -- the DMA engine
  -- The buffer window of mirrored transfers.
  bufferBase : Address := Reg.Buffer.main
  bufferOffset : Byte := 0
  extendedLength : Byte := 0
  lastTransfer : Option Transfer := none
  dispatchOffset : Option Byte := none
  -- completion: the event, what the transfer status told, the target last sent to flash control
  pendingEvent : Byte := 0
  secondaryCounter : Byte := 0
  expectedFlags : Byte := 0
  flashTarget : Byte := 0
  retry : Option RetryRequest := none
  reset : Option ResetRequest := none

def State.initial (settings : Settings) : State :=
  { extendedLength := settings.extendedLength }

end StorageBridge
