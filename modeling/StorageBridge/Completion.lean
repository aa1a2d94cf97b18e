import StorageBridge.Controller.Basic

/-!
Completion events. The counter of the finished transfer comes from the hardware and selects a
completion window. A window that shows the expected state flags retires the slot that the event
names; any other flags hand control to flash control, which latches the controller.
-/

set_option autoImplicit false

namespace StorageBridge

inductive Completion where
  | completed (slot : SlotIndex)
  | reset (request : ResetRequest)
deriving DecidableEq, Repr

namespace Completion

-- Added to the flash target when an event was pending.
def pendingBias : Byte := 0x08

def window (event counter : Byte) : Address :=
  (if event = 0 then Reg.Completion.baseIdle else Reg.Completion.basePending)
    + counter.toUInt16 * Reg.Completion.stride

def resetTarget (event flags counter : Byte) : Byte :=
  ((flags <<< 4) ||| counter) + if event = 0 then 0 else pendingBias

open BridgeM

variable {β : Type}

-- Frees a slot of the ring: whether it held a command.
def releaseSlot (slot : SlotIndex) : BridgeM β Bool := do
  let state ← getState
  if state.ring.outstanding = 0 then emit (.outstandingUnderflow slot)
  modifyState fun state => { state with ring := state.ring.release slot }
  pure (!(state.ring.slot slot).isFree)

def logCompletion (slot : SlotIndex) (wasInFlight : Bool) : BridgeM β Unit := do
  if wasInFlight then
    modifyState fun state => { state with completeLog := (state.completeLog + 1) &&& 0x1F }
    tally fun counts => { counts with completions := countUp counts.completions }
  else emit (.slotNotInFlight slot)

variable [Bus β]

def updateCounter : BridgeM β Byte := do
  let status ← readByte Reg.Dma.transferStatus
  let counter := (status >>> 4) &&& 0x07
  modifyState fun state =>
    { state with secondaryCounter := counter, expectedFlags := status &&& Reg.Completion.stateMask }
  pure counter

def pulseLatch : BridgeM β Unit := do
  modifyByte Reg.Dma.status 0 Reg.Dma.statusLatch
  modifyByte Reg.Dma.status Reg.Dma.statusLatch 0

def windowFlags (event counter : Byte) : BridgeM β Byte := do
  let settings ← getSettings
  let polls := settings.completionBudget counter
  let waited ← waitBounded (window event counter) Reg.Completion.ready polls
  match waited with
  | .ok () => pure ()
  | .error error => emit (.completionLate error polls)
  let shown ← readByte (window event counter)
  pure (shown &&& Reg.Completion.stateMask)

def flashControl (target : Byte) : BridgeM β Completion := do
  let request : ResetRequest := { target }
  emit (.flashTransition target)
  modifyState fun state => { state with flashTarget := target }
  writeByte Reg.Flash.target target
  writeByte Reg.Flash.control Reg.Flash.go
  modifyState fun state => { state with reset := some request }
  tally fun counts => { counts with resets := countUp counts.resets }
  pure (.reset request)

def recheckCounter : BridgeM β Unit := do
  let state ← getState
  if state.secondaryCounter.toNat ≠ state.ring.outstanding % 8 then
    emit (.counterBehind state.secondaryCounter state.ring.outstanding)
    let _ ← updateCounter
    pure ()
  else pure ()

def retire (event : Byte) : BridgeM β Completion := do
  writeByte Reg.Dma.status 0
  let slot := SlotIndex.wrap event
  let wasInFlight ← releaseSlot slot
  logCompletion slot wasInFlight
  recheckCounter
  pure (.completed slot)

def handle (event : Byte) : BridgeM β Completion := do
  modifyState fun state => { state with pendingEvent := event }
  let counter ← updateCounter
  pulseLatch
  let flags ← windowFlags event counter
  let state ← getState
  if flags = state.expectedFlags then retire event
  else flashControl (resetTarget event flags counter)

end Completion

end StorageBridge
