import StorageBridge.Board.Basic

/-!
The history of a board: what the hardware, the firmware and the bench do to it, in any order. A wait
without an end that is never answered leaves the board as it stands, and the history goes on from there.
-/

set_option autoImplicit false

namespace StorageBridge

inductive BoardEvent where
  | poke (address : Address) (value : Byte)
  | peek (address : Address)
  | markOneToClear (address : Address)
  | raiseOnWait (script : ReadyScript)
  | clearJournal
  | read (address : Address)
  | write (address : Address) (value : Byte)
  | modify (address : Address) (clear set : Byte)
  | wait (address : Address) (mask : Byte) (budget : WaitBudget)
deriving DecidableEq, Repr

namespace BoardEvent

def run (board : Board) : BoardEvent → Board
  | poke address value => board.poke address value
  | peek _ => board
  | markOneToClear address => board.markOneToClear address
  | raiseOnWait script => board.raiseOnWait script
  | clearJournal => board.clearJournal
  | read address => (Bus.read board address).2
  | write address value => Bus.write board address value
  | modify address clear set => Bus.modify board address clear set
  | wait address mask budget => (Bus.wait board address mask budget).2

def isWait : BoardEvent → Bool
  | wait .. => true
  | _ => false

def waitsOn (address : Address) : BoardEvent → Bool
  | wait target _ _ => target == address
  | _ => false

end BoardEvent

namespace Board

def after (board : Board) (events : List BoardEvent) : Board :=
  events.foldl BoardEvent.run board

theorem mark_ends (board : Board) (address : Address) :
    ∃ oneToClear, board.markOneToClear address = { board with oneToClear } := by
  by_cases taken : board.oneToClear.length < oneToClearCapacity ∧ address ∉ board.oneToClear
  · exact ⟨_, if_pos taken⟩
  · exact ⟨_, if_neg taken⟩

theorem after_append (board : Board) (earlier later : List BoardEvent) :
    board.after (earlier ++ later) = (board.after earlier).after later :=
  List.foldl_append

theorem after_snoc (board : Board) (events : List BoardEvent) (event : BoardEvent) :
    board.after (events ++ [event]) = event.run (board.after events) :=
  board.after_append events [event]

end Board

end StorageBridge
