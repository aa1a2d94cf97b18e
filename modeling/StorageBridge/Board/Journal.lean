import StorageBridge.Byte

/-!
The write journal of a board: room for the first writes, and one counter that runs on past them. To
clear the journal sets the counter back and erases nothing, so what stands beyond the counter is stale.
-/

set_option autoImplicit false

namespace StorageBridge

def Journal.capacity : Nat := 512

structure Journal where
  entries : Vector (Address × Byte) Journal.capacity := Vector.replicate Journal.capacity (0, 0)
  -- All writes since the journal was cleared, with those that found no room.
  count : Nat := 0

namespace Journal

def push (journal : Journal) (entry : Address × Byte) : Journal :=
  { entries :=
      if room : journal.count < capacity then journal.entries.set journal.count entry room else journal.entries
    count := journal.count + 1 }

def clear (journal : Journal) : Journal :=
  { journal with count := 0 }

def size (journal : Journal) : Nat :=
  min journal.count capacity

-- Oldest first, with the values as given to the bus.
def writes (journal : Journal) : List (Address × Byte) :=
  journal.entries.toList.take journal.size

def back? (journal : Journal) : Option (Address × Byte) :=
  journal.writes.getLast?

end Journal

end StorageBridge
