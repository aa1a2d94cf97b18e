import StorageBridge.Byte

/-!
The register map: the addresses that the core touches and the bits it knows inside them. The
revision moves with every change of an address or a bit.
-/

set_option autoImplicit false

namespace StorageBridge.Reg

def mapVersion : Nat := 1

/-! Host-facing command and transport block. -/
namespace Transport

def status : Address := 0x9000
def param1 : Address := 0x9001
def param2 : Address := 0x9002
def coreLow : Address := 0x9003
def coreHigh : Address := 0x9004
def flags : Address := 0x9005

-- a bit of the flags, dropped while a command state is active
def secondary : Byte := 0x04

end Transport

/-! Endpoint event block: a bitmap of the groups, then one bitmap for each of the eight groups. -/
namespace Endpoint

def status : Address := 0x9100
def base : Address := 0x9110

end Endpoint

/-! Command-queue engine of the backend. -/
namespace Backend

def linkStatus : Address := 0xC000
def linkControl : Address := 0xC001
def queueDepth : Address := 0xC002
def status : Address := 0xC003
def rollingStatus : Address := 0xC004
def deviceStatus : Address := 0xC005
def countA : Address := 0xC006
def countB : Address := 0xC007
def queueControl : Address := 0xC008
def head : Address := 0xC009
def issue : Address := 0xC00A

-- the register blocks of the 32 slots, and the offsets inside one
def slotBase : Address := 0xC100
def slotStride : Address := 4
def slotControl : Address := 0
def slotCount : Address := 1
def slotStatus : Address := 2

-- bits of the link status
def linkUp : Byte := 0x01
def linkTrained : Byte := 0x02

-- commands for the link control
def linkRecover : Byte := 0x01
def linkSetup : Byte := 0x02

-- the top bit of the depth flags a full queue; a drained backend shows exactly 4
def depthFull : Byte := 0x80
def depthDrained : Byte := 4

def statusBusy : Byte := 0x01
def devicePending : Byte := 0x01
def queueBusy : Byte := 0x01
def queueSecondaryUpdate : Byte := 0x02
def slotStatusMask : Byte := 0x0F

end Backend

/-! The shared DMA engine. -/
namespace Dma

def mode : Address := 0xB000
def sourceLow : Address := 0xB001
def sourceHigh : Address := 0xB002
def destinationLow : Address := 0xB003
def destinationHigh : Address := 0xB004
def control : Address := 0xB005
def tag : Address := 0xB008
def tagLength : Nat := 4
def trailer : Address := 0xB00C
def bufferMode : Address := 0xB00D
def length : Address := 0xB00E
def hardwareLow : Address := 0xB010
def hardwareHigh : Address := 0xB011
def secondLow : Address := 0xB012
def secondHigh : Address := 0xB013
def bufferOffset : Address := 0xB014
def status : Address := 0xB018
def ready : Address := 0xB019
def transferStatus : Address := 0xB01A

-- the bits of the control register that the engine keeps for itself
def controlKeep : Byte := 0xC0

-- a mirrored transfer has one mode, a direct one adds its channel
def modeMirrored : Byte := 0x20
def modeDirect : Byte := 0x80

def bufferNormal : Byte := 0x03
def bufferExtended : Byte := 0x04

-- bits of the status: running, the two latch bits, a mirrored transfer armed again
def statusActive : Byte := 0x01
def statusLatch : Byte := 0x30
def statusMarker : Byte := 0x40

def readyIdle : Byte := 0x01

end Dma

/-! Completion windows: one row for an idle controller, one for a pending event. -/
namespace Completion

def baseIdle : Address := 0xB100
def basePending : Address := 0xB180
def stride : Address := 4
def ready : Byte := 0x80
def stateMask : Byte := 0x07

end Completion

/-! Flash control: the target state is written first. On hardware the write of `go` does not return. -/
namespace Flash

def target : Address := 0xA000
def control : Address := 0xA001
def go : Byte := 0x80

end Flash

/-! The two windows of the on-chip buffer. -/
namespace Buffer

def main : Address := 0x8000
def alternate : Address := 0xA000

end Buffer

end StorageBridge.Reg
