import Mathlib.Data.List.DropRight
import Mathlib.Data.List.Induction
import Mathlib.Data.Set.Operations
import Mathlib.Order.Bounds.Defs
import StorageBridge.Proofs.BoardEvents

/-!
The journal of a board against its history. The writes that the bus was given since the journal was
last cleared are all counted, and the first of them, up to the capacity, are the ones that it shows.
What is left over from before stands behind the counter until it is written over.
-/

set_option autoImplicit false

namespace StorageBridge

namespace Journal

variable {journal : Journal} {history : List (Address × Byte)}

-- Nothing is said of the entries from the counter on.
structure Holds (journal : Journal) (history : List (Address × Byte)) : Prop where
  count : journal.count = history.length
  stored : ∀ (place : Nat) (room : place < capacity) (given : place < history.length),
    journal.entries[place] = history[place]

theorem entry_push (journal : Journal) (entry : Address × Byte) {place : Nat} (room : place < capacity) :
    (journal.push entry).entries[place] = if journal.count = place then entry else journal.entries[place] := by
  unfold push
  by_cases fits : journal.count < capacity
  · simp only [dif_pos fits]
    exact Vector.getElem_set fits room
  · simp only [dif_neg fits]
    rw [if_neg (by omega)]

theorem holds_clear (journal : Journal) : journal.clear.Holds [] :=
  ⟨rfl, fun place _ given => absurd given (Nat.not_lt_zero place)⟩

theorem Holds.push (holds : journal.Holds history) (entry : Address × Byte) :
    (journal.push entry).Holds (history ++ [entry]) := by
  obtain ⟨count, stored⟩ := holds
  refine ⟨?_, fun place room given => ?_⟩
  · rw [List.length_append, List.length_singleton, ← count]
    rfl
  · rw [List.length_append, List.length_singleton] at given
    rw [entry_push journal entry room, List.getElem_append]
    by_cases older : place < history.length
    · rw [if_neg (by omega), dif_pos older, stored place room older]
    · rw [if_pos (by omega), dif_neg older, List.getElem_singleton]

-- The slice up to the counter is free of what is left over.
theorem Holds.writes_eq (holds : journal.Holds history) : journal.writes = history.take capacity := by
  have size : journal.size = min history.length capacity := by rw [Journal.size, holds.count]
  apply List.ext_getElem
  · rw [writes, List.length_take, Vector.length_toList, size, List.length_take]
    omega
  · intro place shown given
    rw [List.length_take] at given
    rw [List.getElem_take]
    exact List.getElem_take.trans (holds.stored place (by omega) (by omega))

end Journal

namespace BoardEvent

def isClear : BoardEvent → Bool
  | clearJournal => true
  | _ => false

-- what neither the journal nor the counts tell of
def isSilent : BoardEvent → Bool
  | poke .. | peek .. | read .. | markOneToClear .. | raiseOnWait .. => true
  | _ => false

-- The write that the bus is given, with its value as given. One that modifies a register gives the
-- revised byte.
def given? (board : Board) : BoardEvent → Option (Address × Byte)
  | write address value => some (address, value)
  | modify address clear set => some (address, (board.peek address).revise clear set)
  | _ => none

theorem given_of_silent {event : BoardEvent} (silent : event.isSilent = true) (board : Board) :
    event.given? board = none ∧ event.isWait = false := by
  cases event with
  | write address value => cases silent
  | modify address clear set => cases silent
  | wait address mask budget => cases silent
  | _ => exact ⟨rfl, rfl⟩

theorem silent_keeps {event : BoardEvent} (silent : event.isSilent = true) (board : Board) :
    (event.run board).journal = board.journal ∧ (event.run board).waitCount = board.waitCount := by
  cases event with
  | clearJournal => cases silent
  | write address value => cases silent
  | modify address clear set => cases silent
  | wait address mask budget => cases silent
  | markOneToClear address =>
      obtain ⟨marks, marked⟩ := board.mark_ends address
      rw [BoardEvent.run, marked]
      exact ⟨rfl, rfl⟩
  | _ => exact ⟨rfl, rfl⟩

end BoardEvent

-- the events since the journal was last cleared, and those up to then
def sinceClear (events : List BoardEvent) : List BoardEvent :=
  events.rtakeWhile fun event => !event.isClear

def untilClear (events : List BoardEvent) : List BoardEvent :=
  events.rdropWhile fun event => !event.isClear

namespace Board

def given (board : Board) : List BoardEvent → List (Address × Byte)
  | [] => []
  | event :: later => (event.given? board).toList ++ (event.run board).given later

theorem given_snoc (board : Board) (events : List BoardEvent) (event : BoardEvent) :
    board.given (events ++ [event]) = board.given events ++ (event.given? (board.after events)).toList := by
  induction events generalizing board with
  | nil => simp [given, after]
  | cons first rest ih =>
      have onward : board.after (first :: rest) = (first.run board).after rest := rfl
      rw [List.cons_append, given, ih, given, onward, List.append_assoc]

end Board

-- all writes that a new board was given since its journal was last cleared
def writeHistory (events : List BoardEvent) : List (Address × Byte) :=
  (Board.blank.after (untilClear events)).given (sinceClear events)

theorem write_history_clear (events : List BoardEvent) : writeHistory (events ++ [.clearJournal]) = [] := by
  have none : sinceClear (events ++ [.clearJournal]) = [] := List.rtakeWhile_concat_neg _ _ _ (by decide)
  rw [writeHistory, none, Board.given]

theorem write_history_snoc (events : List BoardEvent) {event : BoardEvent} (kept : event.isClear = false) :
    writeHistory (events ++ [event]) =
      writeHistory events ++ (event.given? (Board.blank.after events)).toList := by
  have keeps : (!event.isClear) = true := by rw [kept, Bool.not_false]
  have recent : sinceClear (events ++ [event]) = sinceClear events ++ [event] := List.rtakeWhile_concat_pos _ _ _ keeps
  have past : untilClear (events ++ [event]) = untilClear events := List.rdropWhile_concat_pos _ _ _ keeps
  have whole : (Board.blank.after (untilClear events)).after (sinceClear events) = Board.blank.after events := by
    rw [← Board.after_append]
    exact congrArg Board.blank.after List.rdropWhile_append_rtakeWhile
  rw [writeHistory, recent, past, Board.given_snoc, whole]
  rfl

-- What the board keeps of the writes and the waits since its journal was last cleared.
structure Board.Journals (board : Board) (history : List (Address × Byte)) (waits : Nat) : Prop where
  journal : board.journal.Holds history
  waitCount : board.waitCount = waits

namespace Board.Journals

variable {board : Board} {history : List (Address × Byte)} {waits : Nat}

theorem write (journals : board.Journals history waits) (address : Address) (value : Byte) :
    Board.Journals (Bus.write board address value) (history ++ [(address, value)]) waits :=
  ⟨journals.journal.push (address, value), journals.waitCount⟩

theorem wait (journals : board.Journals history waits) (address : Address) (mask : Byte) (budget : WaitBudget) :
    (Bus.wait board address mask budget).2.Journals history (waits + 1) :=
  ⟨journals.journal, congrArg (· + 1) journals.waitCount⟩

theorem clear (board : Board) : board.clearJournal.Journals [] 0 :=
  ⟨board.journal.holds_clear, rfl⟩

theorem run (journals : board.Journals history waits) {event : BoardEvent} (kept : event.isClear = false) :
    (event.run board).Journals (history ++ (event.given? board).toList) (waits + if event.isWait then 1 else 0) := by
  by_cases silent : event.isSilent = true
  · obtain ⟨nothing, still⟩ := BoardEvent.given_of_silent silent board
    obtain ⟨sameJournal, sameWaits⟩ := BoardEvent.silent_keeps silent board
    rw [nothing, still, if_neg Bool.false_ne_true, Option.toList_none, List.append_nil, Nat.add_zero]
    exact ⟨sameJournal ▸ journals.journal, sameWaits.trans journals.waitCount⟩
  · cases event with
    | clearJournal => cases kept
    | write address value => exact journals.write address value
    | modify address clear set => exact journals.write address ((board.peek address).revise clear set)
    | wait address mask budget =>
        have nothing : history ++ [] = history := List.append_nil history
        rw [← nothing] at journals
        exact journals.wait address mask budget
    | _ => exact absurd rfl silent

end Board.Journals

theorem board_journals (events : List BoardEvent) :
    (Board.blank.after events).Journals (writeHistory events) ((sinceClear events).countP BoardEvent.isWait) := by
  induction events using List.reverseRecOn with
  | nil => exact Board.Journals.clear Board.blank
  | append_singleton events event ih =>
      rw [Board.after_snoc]
      by_cases clears : event.isClear = true
      · obtain rfl : event = .clearJournal := by
          cases event <;> first | rfl | cases clears
        have none : sinceClear (events ++ [.clearJournal]) = [] := List.rtakeWhile_concat_neg _ _ _ (by decide)
        rw [write_history_clear, none]
        exact Board.Journals.clear _
      · have kept := Bool.eq_false_iff.mpr clears
        have recent : sinceClear (events ++ [event]) = sinceClear events ++ [event] :=
          List.rtakeWhile_concat_pos _ _ _ (by rw [kept, Bool.not_false])
        rw [write_history_snoc events kept, recent, List.countP_append, List.countP_singleton]
        exact ih.run kept

-- the writes to a register, put back beside its address
theorem Board.writes_to_kept (board : Board) (address : Address) :
    (board.writesTo address).map (fun value => (address, value)) =
      board.writes.filter fun entry => entry.1 == address := by
  unfold writesTo
  rw [List.map_map]
  refine (List.map_congr_left fun entry member => ?_).trans (List.map_id _)
  have here : entry.1 = address := by simpa using (List.mem_filter.mp member).2
  exact Prod.ext here.symm rfl

theorem Board.first_write_least (board : Board) (address : Address) (position : Nat) :
    board.firstWrite? address = some position ↔
      IsLeast {n | ∃ value, board.writes[n]? = some (address, value)} position := by
  have names (n : Nat) : (∃ value, board.writes[n]? = some (address, value)) ↔
      ∃ bound : n < board.writes.length, board.writes[n].1 = address := by
    constructor
    · rintro ⟨value, found⟩
      obtain ⟨bound, here⟩ := List.getElem?_eq_some_iff.mp found
      exact ⟨bound, congrArg Prod.fst here⟩
    · rintro ⟨bound, here⟩
      exact ⟨board.writes[n].2, List.getElem?_eq_some_iff.mpr ⟨bound, Prod.ext here rfl⟩⟩
  simp only [firstWrite?, List.findIdx?_eq_some_iff_getElem, beq_iff_eq, IsLeast, lowerBounds, Set.mem_ofPred_eq, names]
  constructor
  · rintro ⟨bound, here, earlier⟩
    refine ⟨⟨bound, here⟩, fun other ⟨_, there⟩ => Nat.le_of_not_lt fun less => earlier other less there⟩
  · rintro ⟨⟨bound, here⟩, least⟩
    exact ⟨bound, here, fun other less there => absurd (least ⟨Nat.lt_trans less bound, there⟩) (Nat.not_le_of_lt less)⟩

theorem Board.first_write_none (board : Board) (address : Address) :
    board.firstWrite? address = none ↔ board.writesTo address = [] := by
  rw [firstWrite?, List.findIdx?_eq_none_iff, writesTo, List.map_eq_nil_iff, List.filter_eq_nil_iff]
  simp only [Bool.not_eq_true]

theorem journal_is_first_writes (events : List BoardEvent) :
    let board := Board.blank.after events
    let history := writeHistory events
    board.writeCount = history.length ∧
    board.writes = history.take 512 ∧
    (∀ address, (board.writesTo address).map (fun value => (address, value)) =
      (history.take 512).filter fun entry => entry.1 == address) ∧
    (∀ address position, board.firstWrite? address = some position ↔
      IsLeast {n | ∃ value, (history.take 512)[n]? = some (address, value)} position) ∧
    (∀ address, board.firstWrite? address = none ↔ board.writesTo address = []) ∧
    board.waitCount = (sinceClear events).countP BoardEvent.isWait ∧
    ∀ event : BoardEvent, event.isSilent = true →
      (event.run board).writeCount = board.writeCount ∧ (event.run board).journal = board.journal ∧
        (event.run board).waitCount = board.waitCount := by
  intro board history
  have journals : board.Journals history _ := board_journals events
  have writes : board.writes = history.take 512 := journals.journal.writes_eq
  refine ⟨journals.journal.count, writes, ?_, ?_, board.first_write_none, journals.waitCount, ?_⟩
  · intro address
    rw [board.writes_to_kept, writes]
  · intro address position
    rw [board.first_write_least, writes]
  · intro event silent
    obtain ⟨sameJournal, sameWaits⟩ := BoardEvent.silent_keeps silent board
    exact ⟨congrArg Journal.count sameJournal, sameJournal, sameWaits⟩

-- A cleared journal still holds the write in its first entry, and does not show it.
example :
    let board := Board.blank.after [.write 0x1000 0xAA, .clearJournal]
    board.journal.entries[0] = (0x1000, 0xAA) ∧ board.writes = [] := by
  decide +kernel

end StorageBridge
