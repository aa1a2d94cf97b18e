import StorageBridge.Controller.Basic

/-!
Programming the DMA engine for one transfer. The address is either the buffer base that the firmware
holds (mirrored) or the pair that the hardware reports for the channel (direct); source and
destination always get the same one.
-/

set_option autoImplicit false

namespace StorageBridge.Transfer

open BridgeM

variable {β : Type}

-- Picks the buffer window of mirrored transfers: the main one for a primary status of 0.
def selectBuffer (primary : Byte) : BridgeM β Address := do
  let base := if primary = 0 then Reg.Buffer.main else Reg.Buffer.alternate
  modifyState fun state => { state with bufferBase := base }
  pure base

variable [Bus β]

-- The mode byte and the address of a transfer. A direct transfer puts the channel into the bits of
-- the control register that are not the engine's own.
def source (flags : TransferFlags) (channel : Byte) : BridgeM β (Byte × Address) := do
  if flags.isMirrored then
    let state ← getState
    pure (Reg.Dma.modeMirrored, state.bufferBase)
  else
    modifyByte Reg.Dma.control (~~~Reg.Dma.controlKeep) (channel &&& ~~~Reg.Dma.controlKeep)
    let low ← readByte Reg.Dma.hardwareLow
    let high ← readByte Reg.Dma.hardwareHigh
    pure (channel ||| Reg.Dma.modeDirect, Address.ofBytes low high)

def writeAddresses (base : Address) : BridgeM β Unit := do
  writeByte Reg.Dma.sourceLow base.low
  writeByte Reg.Dma.sourceHigh base.high
  writeByte Reg.Dma.destinationLow base.low
  writeByte Reg.Dma.destinationHigh base.high

def writeMode (mode : Byte) : BridgeM β Unit := do
  writeByte Reg.Dma.mode mode
  modifyState fun state => { state with dmaMode := mode }

def clearTags : BridgeM β Unit := do
  (List.range Reg.Dma.tagLength).forM fun i => writeByte (Reg.Dma.tag + UInt16.ofNat i) 0
  writeByte Reg.Dma.trailer 0

def writeExtended (base : Address) (mode : Byte) : BridgeM β Transfer := do
  let state ← getState
  writeByte Reg.Dma.bufferMode Reg.Dma.bufferExtended
  writeByte Reg.Dma.length state.extendedLength
  pure { base, length := state.extendedLength, mode, bufferMode := Reg.Dma.bufferExtended }

-- Normal buffer control. A secondary mirrored transfer while no other is active is armed again and
-- marks the engine status.
def writeNormal (flags : TransferFlags) (base : Address) (mode : Byte) : BridgeM β Transfer := do
  writeByte Reg.Dma.bufferMode Reg.Dma.bufferNormal
  let state ← getState
  if !state.transferActive && flags.isSecondary then
    writeByte Reg.Dma.mode Reg.Dma.modeMirrored
    modifyByte Reg.Dma.status 0 Reg.Dma.statusMarker
    modifyState fun state => { state with dmaMode := Reg.Dma.modeMirrored }
    pure { base, length := 0, mode := Reg.Dma.modeMirrored, bufferMode := Reg.Dma.bufferNormal }
  else
    pure { base, length := 0, mode, bufferMode := Reg.Dma.bufferNormal }

def programIdle (flags : TransferFlags) (channel : Byte) : BridgeM β Transfer := do
  let (mode, base) ← source flags channel
  writeAddresses base
  writeMode mode
  clearTags
  let transfer ← if flags.isExtended then writeExtended base mode else writeNormal flags base mode
  emit (.transferProgrammed transfer)
  modifyState fun state => { state with lastTransfer := some transfer }
  pure transfer

def program (flags : TransferFlags) (channel : Byte) : BridgeM β Transfer := do
  waitFor Reg.Dma.ready Reg.Dma.readyIdle
  programIdle flags channel

def resolveSecondary (secondary : Byte) : BridgeM β Byte := do
  let buffer := SecondaryBuffer.ofStatus secondary
  let offset := buffer.offset + (secondary >>> 4)
  writeByte Reg.Dma.secondLow buffer.low
  writeByte Reg.Dma.secondHigh buffer.high
  writeByte Reg.Dma.bufferOffset offset
  modifyState fun state => { state with bufferOffset := offset }
  pure offset

end StorageBridge.Transfer
