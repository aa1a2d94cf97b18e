import StorageBridge.Slot

/-!
The ring of 32 command slots as the firmware sees it. A burst is a run of consecutive slots: it is
armed by its first command, counted down by each, and its end is where the ring stops being busy.
-/

set_option autoImplicit false

namespace StorageBridge

structure CommandRing where
  slots : Vector Slot 32 := Vector.replicate 32 .empty
  index : SlotIndex := 0
  -- Commands left in the current burst; a fresh count of 0 stands for 32.
  counter : Fin 32 := 0
  busy : Bool := false
  issue : SlotIndex := 0
  -- Commands submitted and not yet completed.
  outstanding : Nat := 0

namespace CommandRing

def empty : CommandRing := {}

def slot (ring : CommandRing) (index : SlotIndex) : Slot :=
  ring.slots[index]

def put (ring : CommandRing) (index : SlotIndex) (slot : Slot) : CommandRing :=
  { ring with slots := ring.slots.set index slot }

def isIdle (ring : CommandRing) : Bool :=
  !ring.busy && ring.outstanding == 0

def arm (ring : CommandRing) (length : Fin 32) : CommandRing :=
  { ring with counter := length, busy := true }

def occupy (ring : CommandRing) (slot : Slot) : CommandRing :=
  { ring.put ring.index slot with index := ring.index.next }

def clear (ring : CommandRing) (index : SlotIndex) : CommandRing :=
  ring.put index .empty

def isSaturated (ring : CommandRing) : Bool :=
  32 ≤ ring.outstanding

def submitted (ring : CommandRing) : CommandRing :=
  if ring.isSaturated then ring else { ring with outstanding := ring.outstanding + 1 }

-- Counts one command of the burst. While commands are left the issue pointer moves on; with the
-- last one the burst ends.
def step (ring : CommandRing) : CommandRing :=
  let left := ring.counter - 1
  if left = 0 then { ring with counter := left, busy := false }
  else { ring with counter := left, issue := ring.issue.next }

-- Frees the slot that a completion names, and counts the completion even when the slot was free.
def release (ring : CommandRing) (index : SlotIndex) : CommandRing :=
  { ring.clear index with outstanding := ring.outstanding - 1 }

@[simp] theorem slot_empty (index : SlotIndex) : empty.slot index = .empty := by
  simp [slot, empty]

theorem slot_put (ring : CommandRing) (a b : SlotIndex) (slot : Slot) :
    (ring.put a slot).slot b = if a = b then slot else ring.slot b := by
  simp only [CommandRing.slot, put, Fin.getElem_fin, Vector.getElem_set, Fin.ext_iff]

end CommandRing

end StorageBridge
