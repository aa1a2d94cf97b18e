import StorageBridge.Controller.Basic

/-!
The readiness check: whether an action may touch the backend. The tests run in a fixed order and the
first that refuses decides: fault, link, queue depth, busy engine, drained queue, rolling table. A
refusal other than a busy engine or a drained queue leaves a retry request behind.
-/

set_option autoImplicit false

namespace StorageBridge.Readiness

open BridgeM

variable {β : Type}

def refuse (readiness : Readiness) (request : RetryRequest) : BridgeM β Readiness := do
  raiseRetry request
  pure readiness

variable [Bus β]

def linkIsUp : BridgeM β Bool := do
  let status ← readByte Reg.Backend.linkStatus
  pure (status.meets Reg.Backend.linkUp)

def checkRolling : BridgeM β Readiness := do
  let status ← readByte Reg.Backend.rollingStatus
  let row := RollingRow.ofStatus status
  if row.verdict = 0 then pure .proceed
  else refuse (.ofCode row.verdict) row.request

def recoverLink : BridgeM β Bool := do
  writeByte Reg.Backend.linkControl Reg.Backend.linkRecover
  waitFor Reg.Backend.linkStatus Reg.Backend.linkTrained
  writeByte Reg.Backend.linkControl Reg.Backend.linkSetup
  linkIsUp

-- A drained backend: completions still to be logged come first, then the link is retrained unless
-- power-up is running.
def checkDrained : BridgeM β Readiness := do
  let state ← getState
  if state.submitLog ≠ state.completeLog then pure .complete
  else if state.powerInit then checkRolling
  else
    let up ← recoverLink
    if up then checkRolling
    else
      emit .recoveryFailed
      refuse .notReady .recoveryFailed

-- A busy engine refuses, unless a transfer state is set. A link that is down shows no depth.
def checkBusy (depth : Option Byte) : BridgeM β Readiness := do
  let state ← getState
  let busy ← if state.transferState then pure false else do
    let status ← readByte Reg.Backend.status
    pure (status.meets Reg.Backend.statusBusy)
  if busy then pure .inProgress
  else if depth = some Reg.Backend.depthDrained then checkDrained
  else checkRolling

def checkDepth : BridgeM β Readiness := do
  let depth ← readByte Reg.Backend.queueDepth
  if depth.meets Reg.Backend.depthFull then
    let state ← getState
    refuse .retry (.queueFull state.ring.index.toByte)
  else checkBusy (some depth)

-- Forgets the transfer and looks at the link. While a command state is active the link may be
-- down, and the secondary transport flag is dropped.
def checkLink : BridgeM β Readiness := do
  modifyState fun state => { state with transferActive := false, dmaMode := 0 }
  let up ← linkIsUp
  let state ← getState
  if state.commandActive then
    modifyByte Reg.Transport.flags Reg.Transport.secondary 0
    if up then checkDepth else checkBusy none
  else if up then checkDepth
  else refuse .notReady .linkDown

def evaluate : BridgeM β Readiness := do
  let state ← getState
  if state.fault then refuse .notReady .fault else checkLink

def check : BridgeM β Readiness := do
  let readiness ← evaluate
  if readiness.isProceed then pure readiness
  else
    tally fun counts => { counts with refusals := countUp counts.refusals }
    emit (.refused readiness)
    pure readiness

end StorageBridge.Readiness
