import StorageBridge.Bus.Basic
import StorageBridge.LogEvent
import StorageBridge.State
import StorageBridge.Statistics

/-!
The controller: a bus, the settings, the protocol state, the counters, and the log of what happened.
A step of the core is a function from one controller to the next. It ends with an answer, or with
the stall of a wait that has no end; in both cases everything done before stays done.
-/

set_option autoImplicit false

namespace StorageBridge

structure Controller (β : Type) where
  bus : β
  settings : Settings
  state : State
  statistics : Statistics := {}
  -- Oldest first.
  log : Array LogEvent := #[]

abbrev BridgeM (β : Type) := EStateM Stall (Controller β)

namespace BridgeM

variable {β : Type}

section Bus

variable [Bus β]

def readByte (address : Address) : BridgeM β Byte := fun controller =>
  let (value, bus) := Bus.read controller.bus address
  .ok value { controller with bus }

def writeByte (address : Address) (value : Byte) : BridgeM β Unit := fun controller =>
  .ok () { controller with bus := Bus.write controller.bus address value }

def modifyByte (address : Address) (clear set : Byte) : BridgeM β Unit := fun controller =>
  .ok () { controller with bus := Bus.modify controller.bus address clear set }

def pollFor (address : Address) (mask : Byte) (limit : UInt32) : BridgeM β Bool := fun controller =>
  let (seen, bus) := Bus.wait controller.bus address mask (.polls limit)
  .ok seen { controller with bus }

def waitFor (address : Address) (mask : Byte) : BridgeM β Unit := fun controller =>
  let (seen, bus) := Bus.wait controller.bus address mask .forever
  if seen then .ok () { controller with bus } else .error { address, mask } { controller with bus }

def waitBounded (address : Address) (mask : Byte) (limit : UInt32) : BridgeM β (Except RequestError Unit) := do
  let seen ← pollFor address mask limit
  pure (if seen then .ok () else .error (.waitExpired address mask))

def dmaActive : BridgeM β Bool := do
  let status ← readByte Reg.Dma.status
  pure (status.meets Reg.Dma.statusActive)

end Bus

def getSettings : BridgeM β Settings := fun controller =>
  .ok controller.settings controller

def getState : BridgeM β State := fun controller =>
  .ok controller.state controller

def modifyState (change : State → State) : BridgeM β Unit := fun controller =>
  .ok () { controller with state := change controller.state }

def tally (change : Statistics → Statistics) : BridgeM β Unit := fun controller =>
  .ok () { controller with statistics := change controller.statistics }

def emit (event : LogEvent) : BridgeM β Unit := fun controller =>
  .ok () { controller with log := controller.log.push event }

def retryEvent (pending : Option RetryRequest) (request : RetryRequest) : LogEvent :=
  match pending with
  | some current => if request.priority < current.priority then .retryKept current request else .retryRecorded request
  | none => .retryRecorded request

-- Leaves a retry request behind, unless one of higher priority is pending.
def recordRetry (request : RetryRequest) : BridgeM β Unit := do
  let state ← getState
  emit (retryEvent state.retry request)
  modifyState fun state => { state with retry := some (RetryRequest.settle state.retry request) }

def raiseRetry (request : RetryRequest) : BridgeM β Unit := do
  recordRetry request
  tally fun counts => { counts with retryRequests := countUp counts.retryRequests }

end BridgeM

namespace Controller

variable {β : Type}

def start (bus : β) (settings : Settings) : Controller β :=
  { bus, settings
    state := .initial settings
    log := #[.started settings.inProgress.code] }

end Controller

end StorageBridge
