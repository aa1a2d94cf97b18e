import StorageBridge.Bus.Basic

/-!
A bus that remembers what was asked of it, in order.
-/

set_option autoImplicit false

namespace StorageBridge

inductive BusOp where
  | read (address : Address) (value : Byte)
  | write (address : Address) (value : Byte)
  | wait (address : Address) (mask : Byte) (budget : WaitBudget)
deriving DecidableEq, Repr

structure Traced (β : Type) where
  bus : β
  trace : Array BusOp := #[]

namespace Traced

variable {β : Type}

def record (traced : Traced β) (op : BusOp) : Traced β :=
  { traced with trace := traced.trace.push op }

instance [Bus β] : Bus (Traced β) where
  read traced address :=
    let (value, bus) := Bus.read traced.bus address
    (value, { traced.record (.read address value) with bus })
  write traced address value :=
    { traced.record (.write address value) with bus := Bus.write traced.bus address value }
  wait traced address mask budget :=
    let (seen, bus) := Bus.wait traced.bus address mask budget
    (seen, { traced.record (.wait address mask budget) with bus })

end Traced

end StorageBridge
