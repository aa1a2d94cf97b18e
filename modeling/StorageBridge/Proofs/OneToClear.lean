import StorageBridge.Proofs.BoardEvents
import StorageBridge.Proofs.CalmBoards

/-!
The registers of a board against its history. The first sixteen distinct registers that were marked
are write-one-to-clear. What a register holds is told by the events on it alone, each with whether the
register was write-one-to-clear by then.
-/

set_option autoImplicit false

namespace StorageBridge

-- the first distinct items of a list that grew by one item
theorem take_distinct_snoc {α : Type} [BEq α] [LawfulBEq α] (capacity : Nat) (items : List α) (item : α) :
    (items ++ [item]).eraseDups.take capacity =
      if (items.eraseDups.take capacity).length < capacity ∧ item ∉ items.eraseDups.take capacity then
        items.eraseDups.take capacity ++ [item]
      else items.eraseDups.take capacity := by
  rw [List.eraseDups_append, List.length_take]
  by_cases room : items.eraseDups.length < capacity
  · have all : items.eraseDups.take capacity = items.eraseDups := List.take_of_length_le (Nat.le_of_lt room)
    by_cases known : item ∈ items
    · have nothing : [item].removeAll items = [] := by simp [List.removeAll, known]
      rw [nothing, List.eraseDups_nil, List.append_nil, all, if_neg fun both => both.2 (List.mem_eraseDups.mpr known)]
    · have fresh : ([item].removeAll items).eraseDups = [item] := by simp [List.removeAll, known, List.eraseDups_cons]
      have missing : item ∉ items.eraseDups := fun member => known (List.mem_eraseDups.mp member)
      rw [fresh, all, if_pos ⟨by omega, missing⟩]
      exact List.take_of_length_le (by rw [List.length_append, List.length_singleton]; omega)
  · rw [List.take_append_of_le_length (by omega), if_neg fun both => room (by omega)]

namespace Byte

-- whether `next` has no bit that `old` lacks
def Within (next old : Byte) : Prop :=
  next &&& ~~~old = 0

theorem within_refl (byte : Byte) : byte.Within byte := by
  simp [Within]

theorem within_cleared {next old : Byte} (within : next.Within old) (value : Byte) : (next &&& ~~~value).Within old := by
  have order : (next &&& ~~~value) &&& ~~~old = (next &&& ~~~old) &&& ~~~value := by
    rw [UInt8.and_assoc, UInt8.and_comm (~~~value), ← UInt8.and_assoc]
  rw [Within, order, within, UInt8.zero_and]

end Byte

-- what happens to one register: the hardware sets it, or the firmware writes to it
inductive RegisterEvent where
  | poke (value : Byte)
  | write (value : Byte)
  | modify (clear set : Byte)
deriving DecidableEq, Repr

-- The event comes with whether the register is write-one-to-clear.
def RegisterEvent.act (byte : Byte) : RegisterEvent × Bool → Byte
  | (poke value, _) => value
  | (write value, clears) => Board.stored clears byte value
  | (modify clear set, clears) => Board.stored clears byte (byte.revise clear set)

namespace BoardEvent

def mark? : BoardEvent → Option Address
  | markOneToClear address => some address
  | _ => none

def on? (address : Address) : BoardEvent → Option RegisterEvent
  | poke target value => if target = address then some (.poke value) else none
  | write target value => if target = address then some (.write value) else none
  | modify target clear set => if target = address then some (.modify clear set) else none
  | _ => none

def fires (board : Board) : BoardEvent → Bool
  | wait address _ _ => board.scripts.any (ReadyScript.fires address)
  | _ => false

end BoardEvent

-- the registers that are write-one-to-clear once the events have happened
def firstMarked (events : List BoardEvent) : List Address :=
  (events.filterMap BoardEvent.mark?).eraseDups.take 16

-- The events on a register, each with whether the register was write-one-to-clear by then. Others may
-- have gone before.
def eventsOn (address : Address) : List BoardEvent → List BoardEvent → List (RegisterEvent × Bool)
  | _, [] => []
  | earlier, event :: later =>
      ((event.on? address).map fun change => (change, decide (address ∈ firstMarked earlier))).toList ++
        eventsOn address (earlier ++ [event]) later

theorem events_on_snoc (address : Address) (earlier events : List BoardEvent) (event : BoardEvent) :
    eventsOn address earlier (events ++ [event]) = eventsOn address earlier events ++
      ((event.on? address).map fun change => (change, decide (address ∈ firstMarked (earlier ++ events)))).toList := by
  induction events generalizing earlier with
  | nil => simp only [List.nil_append, eventsOn, List.append_nil]
  | cons first rest ih =>
      rw [List.cons_append, eventsOn, ih, eventsOn, List.append_assoc, List.append_assoc]
      rfl

theorem first_marked_snoc (events : List BoardEvent) (event : BoardEvent) :
    firstMarked (events ++ [event]) =
      match event.mark? with
      | some address =>
          if (firstMarked events).length < 16 ∧ address ∉ firstMarked events then firstMarked events ++ [address]
          else firstMarked events
      | none => firstMarked events := by
  unfold firstMarked
  rw [List.filterMap_append]
  cases marked : event.mark? with
  | none => rw [List.filterMap_cons_none marked, List.filterMap_nil, List.append_nil]
  | some address =>
      rw [List.filterMap_cons_some marked, List.filterMap_nil]
      exact take_distinct_snoc 16 (events.filterMap BoardEvent.mark?) address

-- A register stays write-one-to-clear.
theorem first_marked_grows {events : List BoardEvent} {address : Address} (member : address ∈ firstMarked events)
    (event : BoardEvent) : address ∈ firstMarked (events ++ [event]) := by
  rw [first_marked_snoc]
  cases event.mark? with
  | none => exact member
  | some other =>
      dsimp only
      by_cases taken : (firstMarked events).length < 16 ∧ other ∉ firstMarked events
      · rw [if_pos taken]
        exact List.mem_append_left _ member
      · rwa [if_neg taken]

namespace Board

variable {board : Board} {address : Address} {event : BoardEvent}

theorem one_to_clear_run (board : Board) (event : BoardEvent) :
    (event.run board).oneToClear =
      match event.mark? with
      | some address =>
          if board.oneToClear.length < 16 ∧ address ∉ board.oneToClear then board.oneToClear ++ [address]
          else board.oneToClear
      | none => board.oneToClear := by
  cases event with
  | markOneToClear address =>
      by_cases taken : board.oneToClear.length < oneToClearCapacity ∧ address ∉ board.oneToClear
      · rw [BoardEvent.run, markOneToClear, if_pos taken]
        exact (if_pos taken).symm
      · rw [BoardEvent.run, markOneToClear, if_neg taken]
        exact (if_neg taken).symm
  | _ => rfl

theorem one_to_clear_after (events : List BoardEvent) : (blank.after events).oneToClear = firstMarked events := by
  induction events using List.reverseRecOn with
  | nil => rfl
  | append_singleton events event ih => rw [after_snoc, one_to_clear_run, first_marked_snoc, ih]

theorem peek_stored (board : Board) (target address : Address) (value : Byte) :
    (Bus.write board target value).peek address =
      if target = address then stored (board.marks address) (board.peek address) value else board.peek address := by
  rw [peek, memory_write, Memory.peek_revise]
  by_cases here : target = address
  · rw [if_pos here, if_pos here, here]
    rfl
  · rw [if_neg here, if_neg here]
    rfl

theorem peek_unfired (unfired : board.scripts.any (ReadyScript.fires address) = false) (other : Address) :
    (board.startWait address).peek other = board.peek other := by
  by_cases here : address = other
  · subst here
    have none : board.scripts.filter (ReadyScript.fires address) = [] := by
      simpa [List.filter_eq_nil_iff] using unfired
    rw [peek_start_wait, none, List.foldl_nil]
  · exact (Memory.peek_poke _ _ _ _).trans (if_neg here)

-- A register changes by the events on it alone.
theorem peek_run (unfired : event.fires board = false) (address : Address) :
    (event.run board).peek address =
      match event.on? address with
      | some change => RegisterEvent.act (board.peek address) (change, board.marks address)
      | none => board.peek address := by
  cases event with
  | poke target value =>
      have poked : (board.poke target value).peek address = if target = address then value else board.peek address :=
        Memory.peek_poke _ _ _ _
      by_cases here : target = address
      · rw [BoardEvent.run, poked, BoardEvent.on?, if_pos here, if_pos here]
        rfl
      · rw [BoardEvent.run, poked, BoardEvent.on?, if_neg here, if_neg here]
  | write target value =>
      by_cases here : target = address
      · rw [BoardEvent.run, peek_stored, BoardEvent.on?, if_pos here, if_pos here]
        rfl
      · rw [BoardEvent.run, peek_stored, BoardEvent.on?, if_neg here, if_neg here]
  | modify target clear set =>
      have written : Bus.modify board target clear set = Bus.write board target ((board.peek target).revise clear set) := rfl
      by_cases here : target = address
      · rw [BoardEvent.run, written, peek_stored, BoardEvent.on?, if_pos here, if_pos here, here]
        rfl
      · rw [BoardEvent.run, written, peek_stored, BoardEvent.on?, if_neg here, if_neg here]
  | wait target mask budget => exact peek_unfired unfired address
  | markOneToClear target =>
      obtain ⟨marks, marked⟩ := board.mark_ends target
      rw [BoardEvent.run, marked]
      rfl
  | _ => rfl

-- no script fires in the course of the events
def quiet (board : Board) : List BoardEvent → Bool
  | [] => true
  | event :: later => !event.fires board && (event.run board).quiet later

theorem quiet_snoc (board : Board) (events : List BoardEvent) (event : BoardEvent) :
    board.quiet (events ++ [event]) = (board.quiet events && !event.fires (board.after events)) := by
  induction events generalizing board with
  | nil => simp only [List.nil_append, quiet, Bool.and_true, Bool.true_and, after, List.foldl_nil]
  | cons first rest ih =>
      have onward : board.after (first :: rest) = (first.run board).after rest := rfl
      rw [List.cons_append, quiet, ih, quiet, onward, Bool.and_assoc]

theorem peek_after (events : List BoardEvent) (quiet : blank.quiet events = true) (address : Address) :
    (blank.after events).peek address = (eventsOn address [] events).foldl RegisterEvent.act 0 := by
  induction events using List.reverseRecOn with
  | nil => exact Memory.peek_zero address
  | append_singleton events event ih =>
      rw [quiet_snoc, Bool.and_eq_true, Bool.not_eq_true'] at quiet
      obtain ⟨before, unfired⟩ := quiet
      have marked : (blank.after events).marks address = decide (address ∈ firstMarked events) := by
        rw [marks, one_to_clear_after]
      rw [after_snoc, peek_run unfired, events_on_snoc, List.foldl_append, ← ih before, marked, List.nil_append]
      cases event.on? address with
      | none => rfl
      | some change => rfl

-- Where written ones clear, the firmware raises no bit.
theorem within_run {old : Byte} (unfired : event.fires board = false) (clears : address ∈ board.oneToClear)
    (unpoked : ∀ value, event ≠ .poke address value) (within : (board.peek address).Within old) :
    ((event.run board).peek address).Within old := by
  have marked : board.marks address = true := decide_eq_true clears
  rw [peek_run unfired, marked]
  cases event with
  | poke target value =>
      have elsewhere : target ≠ address := fun here => unpoked value (by rw [here])
      rw [BoardEvent.on?, if_neg elsewhere]
      exact within
  | write target value =>
      by_cases here : target = address
      · rw [BoardEvent.on?, if_pos here]
        exact Byte.within_cleared within value
      · rw [BoardEvent.on?, if_neg here]
        exact within
  | modify target clear set =>
      by_cases here : target = address
      · rw [BoardEvent.on?, if_pos here]
        exact Byte.within_cleared within _
      · rw [BoardEvent.on?, if_neg here]
        exact within
  | _ => exact within

theorem within_after (earlier later : List BoardEvent) (quiet : blank.quiet (earlier ++ later) = true)
    (clears : address ∈ firstMarked earlier) (unpoked : ∀ value, .poke address value ∉ later) :
    ((blank.after (earlier ++ later)).peek address).Within ((blank.after earlier).peek address) ∧
      address ∈ firstMarked (earlier ++ later) := by
  induction later using List.reverseRecOn with
  | nil =>
      rw [List.append_nil]
      exact ⟨Byte.within_refl _, clears⟩
  | append_singleton later event ih =>
      rw [← List.append_assoc, quiet_snoc, Bool.and_eq_true, Bool.not_eq_true'] at quiet
      obtain ⟨before, unfired⟩ := quiet
      obtain ⟨within, stays⟩ := ih before fun value member => unpoked value (List.mem_append_left _ member)
      rw [← List.append_assoc, after_snoc]
      refine ⟨within_run unfired (by rwa [one_to_clear_after]) ?_ within, first_marked_grows stays event⟩
      rintro value rfl
      exact unpoked value (List.mem_append_right _ (List.mem_singleton.mpr rfl))

end Board

theorem registers_follow_their_own_events (events : List BoardEvent) (quiet : Board.blank.quiet events = true) :
    let board := Board.blank.after events
    (∀ address, address ∈ board.oneToClear ↔ address ∈ (events.filterMap BoardEvent.mark?).eraseDups.take 16) ∧
    (∀ address, board.peek address = (eventsOn address [] events).foldl RegisterEvent.act 0) ∧
    ∀ earlier later address, events = earlier ++ later → address ∈ (Board.blank.after earlier).oneToClear →
      (∀ value, .poke address value ∉ later) →
      address ∈ board.oneToClear ∧ board.peek address &&& ~~~(Board.blank.after earlier).peek address = 0 := by
  intro board
  refine ⟨?_, Board.peek_after events quiet, ?_⟩
  · intro address
    rw [Board.one_to_clear_after]
    rfl
  · rintro earlier later address rfl clears unpoked
    rw [Board.one_to_clear_after] at clears ⊢
    obtain ⟨within, stays⟩ := Board.within_after earlier later quiet clears unpoked
    exact ⟨stays, within⟩

theorem written_one_clears_marked_register :
    let events : List BoardEvent :=
      [.markOneToClear 0x9110, .raiseOnWait { address := 0x9110, mask := 0x01, after := 1 }, .poke 0x9110 0x0A,
        .wait 0x9110 0x01 (.polls 4), .write 0x9110 0x02]
    Board.blank.quiet events = true ∧ 0x9110 ∈ (Board.blank.after events).oneToClear ∧
      (Board.blank.after events).peek 0x9110 = 0x08 := by
  intro events
  have quiet : Board.blank.quiet events = true := by decide +kernel
  obtain ⟨marks, shows, -⟩ := registers_follow_their_own_events events quiet
  exact ⟨quiet, (marks 0x9110).mpr (by decide), (shows 0x9110).trans (by decide)⟩

end StorageBridge
