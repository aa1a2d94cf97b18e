import StorageBridge.Proofs.Boards
import StorageBridge.Proofs.Replays
import StorageBridge.Proofs.ScriptTable

/-!
Boards on which no script is left. A wait moves nothing there but its own count, so the memory changes
by writes alone, one register at a time.
-/

set_option autoImplicit false

namespace StorageBridge

namespace Memory

variable {memory : Memory} {address other : Address} {change : Byte → Byte}

theorem ext {one another : Memory} (same : ∀ address, one.peek address = another.peek address) : one = another := by
  apply Cells.ext_get
  intro address
  have shown := same (UInt16.ofNat address)
  have low : (UInt16.ofNat address).toNat = address % 2 ^ 16 := UInt16.toNat_ofNat
  simp only [peek, low, Cells.get_mod] at shown
  exact shown

def revise (memory : Memory) (address : Address) (change : Byte → Byte) : Memory :=
  memory.poke address (change (memory.peek address))

theorem peek_revise : (memory.revise address change).peek other =
    if address = other then change (memory.peek other) else memory.peek other := by
  unfold revise
  rw [peek_poke]
  by_cases here : address = other
  · rw [if_pos here, if_pos here, here]
  · rw [if_neg here, if_neg here]

theorem revise_congr {first second : Byte → Byte} (same : first (memory.peek address) = second (memory.peek address)) :
    memory.revise address first = memory.revise address second := by
  rw [revise, revise, same]

theorem revise_fixed (fixed : change (memory.peek address) = memory.peek address) : memory.revise address change = memory := by
  apply ext
  intro other
  rw [peek_revise]
  by_cases here : address = other
  · rw [if_pos here, ← here, fixed]
  · rw [if_neg here]

theorem revise_twice (memory : Memory) (address : Address) (first second : Byte → Byte) :
    (memory.revise address first).revise address second = memory.revise address fun byte => second (first byte) := by
  apply ext
  intro other
  simp only [peek_revise]
  by_cases here : address = other
  · simp only [if_pos here]
  · simp only [if_neg here]

-- Two registers that have both come to rest.
theorem revise_both_twice (different : address ≠ other) {first second : Byte → Byte} (firstRests : ∀ byte, first (first byte) = first byte)
    (secondRests : ∀ byte, second (second byte) = second byte) (memory : Memory) :
    let rested := (memory.revise address first).revise other second
    (rested.revise address first).revise other second = rested := by
  intro rested
  have firstFixed : rested.revise address first = rested := by
    apply revise_fixed
    simp only [rested, peek_revise, if_neg different.symm, if_true, firstRests]
  rw [firstFixed]
  apply revise_fixed
  simp only [rested, peek_revise, if_true, secondRests]

end Memory

namespace Board

variable {board : Board}

def marks (board : Board) (address : Address) : Bool :=
  decide (address ∈ board.oneToClear)

-- what a register holds after a write
def stored (marked : Bool) (old value : Byte) : Byte :=
  if marked then old &&& ~~~value else value

theorem memory_write (board : Board) (address : Address) (value : Byte) :
    (Bus.write board address value).memory = board.memory.revise address fun old => stored (board.marks address) old value := by
  change board.memory.poke address (board.written address value) = _
  by_cases marked : address ∈ board.oneToClear
  · simp only [written, marks, stored, if_pos marked, decide_eq_true marked, if_true]
    rfl
  · simp only [written, marks, stored, if_neg marked, decide_eq_false marked, Bool.false_eq_true, if_false]
    rfl

theorem start_wait_on_calm_board (calm : board.scripts = []) (address : Address) :
    board.startWait address = { board with waitCount := board.waitCount + 1 } := by
  have fixed : board.memory.revise address (fun old => old) = board.memory := Memory.revise_fixed rfl
  have same : board.memory.poke address (board.peek address) = board.memory := fixed
  rw [start_wait_of_idle calm, same]

end Board

-- how an operation changes the memory of a calm board
def BusOp.store (marks : Address → Bool) (memory : Memory) : BusOp → Memory
  | .write address value => memory.revise address fun old => Board.stored (marks address) old value
  | _ => memory

theorem replays_on_calm_board {answered : Bool} {before after : Board} {ops : List BusOp} (calm : before.scripts = [])
    (replays : Replays answered before ops after) : ∃ journal waitCount,
      after = { before with memory := ops.foldl (BusOp.store before.marks) before.memory, journal, waitCount } := by
  induction ops generalizing before with
  | nil => exact ⟨before.journal, before.waitCount, replays⟩
  | cons op rest ih =>
      cases op with
      | read address value => exact ih calm replays.2
      | write address value =>
          have still : (Bus.write before address value).scripts = [] := calm
          obtain ⟨journal, waitCount, reached⟩ := ih still replays
          refine ⟨journal, waitCount, ?_⟩
          rw [reached, Board.memory_write]
          rfl
      | wait address mask budget =>
          let counted : Board := { before with waitCount := before.waitCount + 1 }
          have waited : (Bus.wait before address mask budget).2 = counted := Board.start_wait_on_calm_board calm address
          have still : counted.scripts = [] := calm
          have onward := replays.2
          rw [waited] at onward
          obtain ⟨journal, waitCount, reached⟩ := ih still onward
          exact ⟨journal, waitCount, reached⟩

end StorageBridge
