import StorageBridge.Action
import StorageBridge.Registers

/-!
Slots of the command ring: their five-bit index, their control byte and what they hold.
-/

set_option autoImplicit false

namespace StorageBridge

-- stated with the zero that numerals of `Fin 32` are read with
instance slotsNonzero : @NeZero Nat Zero.ofOfNat0 32 := ⟨by decide⟩

-- A place in the ring of 32 slots. Sums and differences wrap.
abbrev SlotIndex := Fin 32

namespace SlotIndex

def wrap (raw : Byte) : SlotIndex :=
  Fin.ofNat 32 raw.toNat

def ofByte (raw : Byte) : Except RequestError SlotIndex :=
  if bound : raw.toNat < 32 then .ok ⟨raw.toNat, bound⟩ else .error (.slotOutOfRange raw)

def toByte (index : SlotIndex) : Byte :=
  UInt8.ofNat index.val

def next (index : SlotIndex) : SlotIndex :=
  index + 1

def distanceFrom (index earlier : SlotIndex) : SlotIndex :=
  index - earlier

def registers (index : SlotIndex) : Address :=
  Reg.Backend.slotBase + UInt16.ofNat index.val * Reg.Backend.slotStride

end SlotIndex

structure SlotControl where
  bits : Byte
deriving DecidableEq, Repr

namespace SlotControl

-- the class of the buffer window, a completion reported by the backend, the direction, the queue
-- path, and whether the slot holds an outstanding command
def windowMask : Byte := 0x0F
def done : Byte := 0x10
def inbound : Byte := 0x20
def extended : Byte := 0x40
def valid : Byte := 0x80

def forAction (action : Action) (window : Byte) : SlotControl :=
  { bits := valid ||| (window &&& windowMask)
      ||| (if action.isInbound then inbound else 0)
      ||| (if action.isExtended then extended else 0) }

def window (control : SlotControl) : Byte :=
  control.bits &&& windowMask

end SlotControl

structure Slot where
  control : SlotControl
  byteCount : Byte
deriving DecidableEq, Repr

namespace Slot

def empty : Slot := { control := ⟨0⟩, byteCount := 0 }

def isFree (slot : Slot) : Bool :=
  !slot.control.bits.meets SlotControl.valid

@[simp] theorem isFree_empty : empty.isFree = true := rfl

end Slot

end StorageBridge
