import StorageBridge.Board.Basic
import StorageBridge.Bus.Polling
import StorageBridge.Bus.Trace
import StorageBridge.Endpoint.Service

/-!
A test bench around a board. It traces the bus, answers reads from values fed in beforehand, lets
the hardware react to writes, and plays endpoint handlers from rules.
-/

set_option autoImplicit false

namespace StorageBridge

abbrev Patch := List (Address × Byte)

-- Hardware that answers a write: pokes that follow a write to an address, or only a write of one
-- value to it.
structure Reaction where
  address : Address
  value : Option Byte
  pokes : Patch
deriving DecidableEq, Repr

-- Part of a scripted handler: what to do for an offset, for the n-th call, or for both.
structure HandlerRule where
  offset : Option Byte
  call : Option Nat
  pokes : Patch
  writes : Patch
deriving DecidableEq, Repr

structure Bench where
  board : Traced Board
  -- Values that the coming reads of an address will show, oldest first.
  fed : Patch := []
  reactions : List Reaction := []

namespace Bench

def ofBoard (board : Board) : Bench :=
  { board := { bus := board } }

def mapBoard (bench : Bench) (change : Board → Board) : Bench :=
  { bench with board := { bench.board with bus := change bench.board.bus } }

def poke (bench : Bench) (address : Address) (value : Byte) : Bench :=
  bench.mapBoard fun board => board.poke address value

def pokes (bench : Bench) (patch : Patch) : Bench :=
  patch.foldl (fun bench entry => bench.poke entry.1 entry.2) bench

def takeTrace (bench : Bench) : Array BusOp × Bench :=
  (bench.board.trace, { bench with board := { bench.board with trace := #[] } })

def feed (bench : Bench) (address : Address) (values : List Byte) : Bench :=
  { bench with fed := bench.fed ++ values.map fun value => (address, value) }

def addReaction (bench : Bench) (reaction : Reaction) : Bench :=
  { bench with reactions := bench.reactions ++ [reaction] }

def isFed (bench : Bench) (address : Address) : Bool :=
  bench.fed.any fun entry => entry.1 == address

-- A value that was fed in comes first; the memory of the board is not asked then.
def read (bench : Bench) (address : Address) : Byte × Bench :=
  match bench.fed.find? fun entry => entry.1 == address with
  | some (_, value) =>
      (value, { bench with
        board := bench.board.record (.read address value)
        fed := bench.fed.eraseP fun entry => entry.1 == address })
  | none =>
      let (value, board) := Bus.read bench.board address
      (value, { bench with board })

def write (bench : Bench) (address : Address) (value : Byte) : Bench :=
  let reacting := bench.reactions.filter fun reaction =>
    reaction.address == address && (reaction.value.isNone || reaction.value == some value)
  reacting.foldl (fun bench reaction => bench.pokes reaction.pokes)
    { bench with board := Bus.write bench.board address value }

-- A wait with a poll budget on a fed address polls the values; every other wait is the board's.
def wait (bench : Bench) (address : Address) (mask : Byte) (budget : WaitBudget) :
    Bool × Bench :=
  match budget with
  | .polls limit =>
      if bench.isFed address then
        let traced := { bench with board := bench.board.record (.wait address mask budget) }
        Id.run (spinWithin (fun bench => pure (bench.read address)) mask limit.toNat traced)
      else onBoard
  | .forever => onBoard
where
  onBoard :=
    let (seen, board) := Bus.wait bench.board address mask budget
    (seen, { bench with board })

instance : Bus Bench where
  read := read
  write := write
  wait := wait

end Bench

def HandlerRule.applies (rule : HandlerRule) (offset : Byte) (call : Nat) : Bool :=
  (rule.offset.isNone || rule.offset == some offset) && (rule.call.isNone || rule.call == some call)

def HandlerRule.handler (rules : List HandlerRule) : EndpointHandler (Array Byte) Bench :=
  fun offset seen bench =>
    let bench := match rules.find? fun rule => rule.applies offset seen.size with
      | some rule =>
          rule.writes.foldl (fun bench entry => Bus.write bench entry.1 entry.2) (bench.pokes rule.pokes)
      | none => bench
    (seen.push offset, bench)

end StorageBridge
