import StorageBridge.Readiness.Check
import StorageBridge.Transfer.Program

/-!
Submitting an action: the readiness check, a slot of the ring, the backend registers and the DMA
engine. No slot is touched unless the check says proceed. The extended path always leaves a command
for the backend; a simple action that fits its buffer window needs none and frees its slot again.
-/

set_option autoImplicit false

namespace StorageBridge

inductive Submission where
  | refused (readiness : Readiness)
  -- The slot is not free and a transfer is running.
  | deferred
  | queued
  | inProgress (code : InProgressCode)
  -- The slot is not free and nothing is running.
  | busy
deriving DecidableEq, Repr

namespace Submission

def code : Submission → Byte
  | refused readiness => readiness.code
  | deferred => 0x05
  | queued => 0x09
  | inProgress code => code.code
  | busy => 0x0C

def windowClass (inbound : Bool) : Byte :=
  if inbound then 0x08 else 0x04

open BridgeM

variable {β : Type}

def escalateIf (needed : Bool) : BridgeM β Unit :=
  modifyState fun state => { state with escalate := state.escalate || needed }

def recordSubmission : BridgeM β Unit := do
  let state ← getState
  if state.ring.isSaturated then emit (.outstandingOverflow state.ring.outstanding)
  modifyState fun state =>
    { state with ring := state.ring.submitted, submitLog := (state.submitLog + 1) &&& 0x1F }

variable [Bus β]

def loadCounts : BridgeM β Unit := do
  modifyByte Reg.Backend.deviceStatus Reg.Backend.devicePending 0
  let state ← getState
  writeByte Reg.Backend.countA state.coreState.1
  writeByte Reg.Backend.countB state.coreState.2

-- Starts a burst, unless one is running: its length is in the low five bits of the parameter.
def armBurst (param1 : Byte) : BridgeM β Unit := do
  let state ← getState
  if state.ring.busy then pure ()
  else
    modifyState fun state => { state with ring := state.ring.arm (SlotIndex.wrap param1) }
    modifyByte Reg.Backend.queueControl 0 Reg.Backend.queueBusy

def fillSlot (index : SlotIndex) (slot : Slot) : BridgeM β Unit := do
  modifyState fun state => { state with ring := state.ring.occupy slot }
  writeByte (index.registers + Reg.Backend.slotControl) slot.control.bits
  writeByte (index.registers + Reg.Backend.slotCount) slot.byteCount

def handOff : BridgeM β Unit := do
  modifyState fun state => { state with ring := state.ring.step }
  let state ← getState
  if state.ring.counter = 0 then modifyByte Reg.Backend.queueControl Reg.Backend.queueBusy 0
  else writeByte Reg.Backend.issue state.ring.issue.toByte

def transferAndHandOff (flags : TransferFlags) (index : SlotIndex) : BridgeM β Unit := do
  let _ ← Transfer.program flags index.toByte
  modifyState fun state => { state with transferActive := true }
  handOff

def finishExtended (flags : TransferFlags) (index : SlotIndex) : BridgeM β Submission := do
  modifyState fun state => { state with secondaryUpdate := true }
  modifyByte Reg.Backend.queueControl 0 Reg.Backend.queueSecondaryUpdate
  let head ← readByte Reg.Backend.head
  modifyState fun state =>
    { state with indexDistance := (state.ring.index.distanceFrom (SlotIndex.wrap head)).toByte }
  recordSubmission
  transferAndHandOff flags.withExtended index
  pure .queued

-- Frees the slot of a simple action that fits its window, and otherwise counts the submission. The
-- window that it needs goes into the status field of the slot.
def settleWindow (index : SlotIndex) (needed byteCount : Byte) : BridgeM β Unit := do
  if byteCount >>> 3 ≤ needed &&& 0x1F then
    modifyState fun state => { state with ring := state.ring.clear index }
    writeByte (index.registers + Reg.Backend.slotControl) 0
  else recordSubmission
  modifyByte (index.registers + Reg.Backend.slotStatus) Reg.Backend.slotStatusMask
    (needed &&& Reg.Backend.slotStatusMask)

def finishSimple (flags : TransferFlags) (index : SlotIndex) (inbound : Bool) (slot : Slot) :
    BridgeM β Submission := do
  settleWindow index (windowClass inbound + slot.control.window) slot.byteCount
  let secondary ← readByte Reg.Backend.status
  let _ ← Transfer.selectBuffer (if inbound then 1 else 0)
  let _ ← Transfer.resolveSecondary secondary
  transferAndHandOff flags.withoutExtended index
  let settings ← getSettings
  pure (.inProgress settings.inProgress)

-- Takes an action into the free slot at the ring index. The top three bits of the first parameter
-- are the window, the second parameter is the byte count.
def accept (index : SlotIndex) (param1 param2 : Byte) (action : Action) : BridgeM β Submission := do
  let slot : Slot := { control := .forAction action (param1 >>> 5), byteCount := param2 }
  loadCounts
  armBurst param1
  fillSlot index slot
  let raw ← readByte Reg.Transport.flags
  let flags := TransferFlags.ofByte raw
  if action.isExtended then finishExtended flags index
  else finishSimple flags index action.isInbound slot

def held (index : SlotIndex) : BridgeM β Submission := do
  let transferring ← dmaActive
  escalateIf transferring
  emit (.slotHeld index transferring)
  pure (if transferring then .deferred else .busy)

def place (param1 param2 : Byte) (action : Action) : BridgeM β Submission := do
  let state ← getState
  let index := state.ring.index
  if (state.ring.slot index).isFree then accept index param1 param2 action else held index

-- Submits an action. A refusal that asks for another try escalates when a transfer was active
-- before the check.
def submit (param1 param2 : Byte) (action : Action) : BridgeM β Submission := do
  let before ← getState
  modifyState fun state => { state with lastAction := some action }
  let readiness ← Readiness.check
  if readiness.isProceed then place param1 param2 action
  else
    escalateIf (readiness.isRetry && before.transferActive)
    pure (.refused readiness)

end Submission

end StorageBridge
