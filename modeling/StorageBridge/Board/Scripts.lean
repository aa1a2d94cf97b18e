import StorageBridge.Byte

/-!
Scripted readiness: bits that the hardware raises while the firmware waits. The scripts share a table
of fixed size. An entry is freed when its script fires and can then be taken again.
-/

set_option autoImplicit false

namespace StorageBridge

-- A bit that the hardware raises after the firmware has waited on its register `after` times.
structure ReadyScript where
  address : Address
  mask : Byte
  after : Nat
deriving DecidableEq, Repr

-- One that is not active is free, whatever it still holds.
structure ScriptEntry where
  script : ReadyScript := { address := 0, mask := 0, after := 0 }
  active : Bool := false
deriving DecidableEq, Repr

def ScriptTable.capacity : Nat := 16

structure ScriptTable where
  entries : Vector ScriptEntry ScriptTable.capacity := Vector.replicate ScriptTable.capacity {}

namespace ScriptTable

def entry (table : ScriptTable) (i : Fin capacity) : ScriptEntry :=
  table.entries.get i

def put (table : ScriptTable) (i : Fin capacity) (entry : ScriptEntry) : ScriptTable :=
  { entries := table.entries.set i entry i.isLt }

def firstFree? (table : ScriptTable) : Option (Fin capacity) :=
  table.entries.findFinIdx? fun entry => !entry.active

-- Ignored when no entry is free.
def add (table : ScriptTable) (script : ReadyScript) : ScriptTable :=
  match table.firstFree? with
  | some i => table.put i { script, active := true }
  | none => table

-- What a wait on the address makes of its register and of the table, at one entry of the table.
def visit (address : Address) (i : Fin capacity) (state : Byte × ScriptTable) : Byte × ScriptTable :=
  let (byte, table) := state
  let entry := table.entry i
  if !entry.active || entry.script.address != address then (byte, table)
  else if entry.script.after = 0 then (byte ||| entry.script.mask, table.put i { entry with active := false })
  else (byte, table.put i { entry with script := { entry.script with after := entry.script.after - 1 } })

def run (table : ScriptTable) (address : Address) (byte : Byte) : Byte × ScriptTable :=
  Nat.fold capacity (fun i bound => visit address ⟨i, bound⟩) (byte, table)

end ScriptTable

end StorageBridge
