import StorageBridge.Text.Hex

/-!
The register bus: read a byte, write a byte, wait until a bit is set. The core reaches hardware by
these three operations only, so a statement about every bus is a statement about all hardware.
-/

set_option autoImplicit false

namespace StorageBridge

inductive WaitBudget where
  | polls (limit : UInt32)
  | forever
deriving DecidableEq, Repr

-- A wait without an end: the register, and the bits that never appear in it.
structure Stall where
  address : Address
  mask : Byte
deriving DecidableEq, Repr

def Stall.message (stall : Stall) : String :=
  "unbounded wait on " ++ stall.address.hex ++ " & " ++ stall.mask.hex ++ " would never complete"

-- Byte-wide register access. The bus is a value; each operation returns the bus as it is afterwards,
-- so a read may change it and two reads may differ.
class Bus (β : Type) where
  read (bus : β) (address : Address) : Byte × β
  write (bus : β) (address : Address) (value : Byte) : β
  -- Whether a bit of `mask` is seen within the budget. A wait that may last forever and never sees
  -- one does not end: `false` is then a stall.
  wait (bus : β) (address : Address) (mask : Byte) (budget : WaitBudget) : Bool × β

namespace Bus

variable {β : Type} [Bus β]

def modify (bus : β) (address : Address) (clear set : Byte) : β :=
  let (old, bus) := read bus address
  write bus address (old.revise clear set)

def fill (bus : β) (address : Address) (value : Byte) : Nat → β
  | 0 => bus
  | count + 1 => fill (write bus address value) address (value + 1) count

end Bus

end StorageBridge
