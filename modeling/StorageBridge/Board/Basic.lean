import StorageBridge.Board.Journal
import StorageBridge.Board.Memory
import StorageBridge.Board.Scripts
import StorageBridge.Bus.Basic
import StorageBridge.Registers

/-!
A simulated board. Beyond plain memory it has the two hardware behaviours that the core depends on:
registers in which a written one clears a bit, and readiness bits that rise while the firmware waits.
Every write is journaled.
-/

set_option autoImplicit false

namespace StorageBridge

structure Board where
  memory : Memory := .zero
  journal : Journal := {}
  -- Registers in which a written one clears the bit.
  oneToClear : List Address := []
  table : ScriptTable := {}
  waitCount : Nat := 0

namespace Board

def journalCapacity : Nat := Journal.capacity

def oneToClearCapacity : Nat := 16

def scriptCapacity : Nat := ScriptTable.capacity

def blank : Board := {}

def peek (board : Board) (address : Address) : Byte :=
  board.memory.peek address

-- The hardware side of a register: no journal, no clearing by ones.
def poke (board : Board) (address : Address) (value : Byte) : Board :=
  { board with memory := board.memory.poke address value }

-- Ignored once the capacity is used up, and for a register that is marked already.
def markOneToClear (board : Board) (address : Address) : Board :=
  if board.oneToClear.length < oneToClearCapacity ∧ address ∉ board.oneToClear then
    { board with oneToClear := board.oneToClear ++ [address] }
  else board

def raiseOnWait (board : Board) (script : ReadyScript) : Board :=
  { board with table := board.table.add script }

-- The board after power-up: the link is up and trained, the DMA engine is idle, and the endpoint
-- group registers are write-one-to-clear.
def powered : Board :=
  let board := blank.poke Reg.Backend.linkStatus (Reg.Backend.linkUp ||| Reg.Backend.linkTrained)
  let board := board.poke Reg.Dma.ready Reg.Dma.readyIdle
  (List.range 8).foldl (fun board group => board.markOneToClear (Reg.Endpoint.base + UInt16.ofNat group)) board

def clearJournal (board : Board) : Board :=
  { board with journal := board.journal.clear, waitCount := 0 }

def writes (board : Board) : List (Address × Byte) :=
  board.journal.writes

def writeCount (board : Board) : Nat :=
  board.journal.count

def firstWrite? (board : Board) (address : Address) : Option Nat :=
  board.writes.findIdx? fun entry => entry.1 == address

def writesTo (board : Board) (address : Address) : List Byte :=
  (board.writes.filter fun entry => entry.1 == address).map (·.2)

def startWait (board : Board) (address : Address) : Board :=
  let ran := board.table.run address (board.peek address)
  { board with
    memory := board.memory.poke address ran.1
    table := ran.2
    waitCount := board.waitCount + 1 }

def written (board : Board) (address : Address) (value : Byte) : Byte :=
  if address ∈ board.oneToClear then board.peek address &&& ~~~value else value

instance : Bus Board where
  read board address := (board.peek address, board)
  write board address value :=
    { board with
      memory := board.memory.poke address (board.written address value)
      journal := board.journal.push (address, value) }
  -- registers do not move while the firmware polls, so one look tells what any number of reads would see
  wait board address mask budget :=
    let board := board.startWait address
    let hit := (board.peek address).meets mask
    (match budget with
      | .polls limit => limit != 0 && hit
      | .forever => hit, board)

end Board

end StorageBridge
