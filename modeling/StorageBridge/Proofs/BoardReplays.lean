import StorageBridge.Proofs.CalmBoards
import StorageBridge.Proofs.Waits

/-!
A path of operations on a simulated board. A register changes by the operations on it alone, so it holds
what was written to it last, and what it shows before it is touched is what it showed at the beginning.
-/

set_option autoImplicit false

namespace StorageBridge

open BridgeM Recorder

variable {β : Type}

theorem Byte.or_meets (one other mask : Byte) : (one ||| other).meets mask = (one.meets mask || other.meets mask) := by
  have spread : (one ||| other) &&& mask = (one &&& mask) ||| (other &&& mask) := by
    apply UInt8.eq_of_toBitVec_eq
    ext i bound
    simp [Bool.and_or_distrib_right]
  rw [Bool.eq_iff_iff]
  simp only [meets, spread, bne_iff_ne, ne_eq, UInt8.or_eq_zero_iff, Bool.or_eq_true]
  tauto

namespace BusOp

def write? : BusOp → Option (Address × Byte)
  | write address value => some (address, value)
  | _ => none

def perform (board : Board) : BusOp → Board
  | read _ _ => board
  | write address value => Bus.write board address value
  | wait address _ _ => board.startWait address

-- what an operation leaves in one register
def settle (marked : Bool) (address : Address) (held : Byte) : BusOp → Byte
  | write other value => if other = address then Board.stored marked held value else held
  | _ => held

end BusOp

theorem within_of_writes {touched : Address → Prop} {ops : List BusOp}
    (unwaited : ∀ address mask budget, .wait address mask budget ∉ ops)
    (writes : ∀ address value, .write address value ∈ ops → touched address) :
    ∀ op ∈ ops, (Effect.operation op).Within touched := by
  intro op member
  cases op with
  | read address value => trivial
  | write address value => exact writes address value member
  | wait address mask budget => exact absurd member (unwaited address mask budget)

namespace Replays

variable {answered : Bool} {earlier later ops : List BusOp} {address : Address}

theorem split [Bus β] {before after : β} (replays : Replays answered before (earlier ++ later) after) :
    ∃ between, Replays answered before earlier between ∧ Replays answered between later after := by
  induction earlier generalizing before with
  | nil => exact ⟨before, rfl, replays⟩
  | cons op rest ih =>
      cases op with
      | read address value =>
          obtain ⟨between, first, second⟩ := ih replays.2
          exact ⟨between, ⟨replays.1, first⟩, second⟩
      | write address value => exact ih replays
      | wait address mask budget =>
          obtain ⟨between, first, second⟩ := ih replays.2
          exact ⟨between, ⟨replays.1, first⟩, second⟩

theorem performed {before after : Board} (replays : Replays answered before ops after) :
    after = ops.foldl BusOp.perform before := by
  induction ops generalizing before with
  | nil => exact replays
  | cons op rest ih =>
      cases op with
      | read address value => exact ih replays.2
      | write address value => exact ih replays
      | wait address mask budget => exact ih replays.2

theorem writes {before after : Recorder β} [Bus β] (replays : Replays answered before ops after) :
    after.writes = before.writes ++ ops.filterMap BusOp.write? := by
  have same (ops : List BusOp) : (ops.map Effect.operation).filterMap Effect.write? = ops.filterMap BusOp.write? := by
    rw [List.filterMap_map]
    congr 1
    funext op
    cases op <;> rfl
  rw [Recorder.writes, replays.recorded, List.reverse_append, List.reverse_reverse, List.filterMap_append, same]
  rfl

end Replays

namespace Board

variable {board : Board} {ops : List BusOp} {address : Address}

theorem marks_performed (board : Board) (ops : List BusOp) : (ops.foldl BusOp.perform board).oneToClear = board.oneToClear := by
  induction ops generalizing board with
  | nil => rfl
  | cons op rest ih =>
      cases op with
      | read address value => exact ih board
      | write address value => exact ih (Bus.write board address value)
      | wait address mask budget => exact ih (board.startWait address)

theorem peek_performed (unwaited : ∀ mask budget, .wait address mask budget ∉ ops) :
    (ops.foldl BusOp.perform board).peek address =
      ops.foldl (BusOp.settle (board.marks address) address) (board.peek address) := by
  induction ops generalizing board with
  | nil => rfl
  | cons op rest ih =>
      have onward := fun mask budget member => unwaited mask budget (List.mem_cons_of_mem op member)
      cases op with
      | read other value => exact ih onward
      | write other value =>
          rw [List.foldl_cons, List.foldl_cons, BusOp.perform, ih onward]
          have held : (Bus.write board other value).peek address =
              BusOp.settle (board.marks address) address (board.peek address) (.write other value) := by
            rw [peek, memory_write, Memory.peek_revise, BusOp.settle]
            by_cases here : other = address
            · rw [if_pos here, if_pos here, here]
              rfl
            · rw [if_neg here, if_neg here]
              rfl
          rw [held]
          rfl
      | wait other mask budget =>
          have apart : other ≠ address := by
            rintro rfl
            exact unwaited mask budget List.mem_cons_self
          rw [List.foldl_cons, List.foldl_cons, BusOp.perform, ih onward]
          have kept : (board.startWait other).peek address = board.peek address := peek_wait_other apart mask budget
          rw [kept]
          rfl

theorem settled_of_unwritten (marked : Bool) {ops : List BusOp} (unwritten : ∀ value, .write address value ∉ ops)
    (held : Byte) :
    ops.foldl (BusOp.settle marked address) held = held := by
  induction ops with
  | nil => rfl
  | cons op rest ih =>
      have onward := fun value member => unwritten value (List.mem_cons_of_mem op member)
      cases op with
      | write other value =>
          have apart : other ≠ address := by
            rintro rfl
            exact unwritten value List.mem_cons_self
          rw [List.foldl_cons, BusOp.settle, if_neg apart, ih onward]
      | read other value => exact ih onward
      | wait other mask budget => exact ih onward

theorem settled_of_agreed {value : Byte} (written : .write address value ∈ ops)
    (agreed : ∀ other, .write address other ∈ ops → other = value) (held : Byte) :
    ops.foldl (BusOp.settle false address) held = value := by
  induction ops generalizing held with
  | nil => cases written
  | cons op rest ih =>
      have onward := fun other member => agreed other (List.mem_cons_of_mem op member)
      rw [List.foldl_cons]
      by_cases again : .write address value ∈ rest
      · exact ih again onward _
      · obtain rfl : .write address value = op := (List.mem_cons.mp written).resolve_right again
        have last (other : Byte) : .write address other ∉ rest := fun member => again (onward other member ▸ member)
        rw [settled_of_unwritten false last]
        exact if_pos rfl

theorem answers_iff (board : Board) (address : Address) (mask : Byte) :
    board.answers address mask = true ↔
      board.shows address mask = true ∨
        ∃ script ∈ board.scripts, script.fires address = true ∧ script.mask.meets mask = true := by
  have raised (scripts : List ReadyScript) (byte : Byte) :
      (scripts.foldl (fun byte script => byte ||| script.mask) byte).meets mask = true ↔
        byte.meets mask = true ∨ ∃ script ∈ scripts, script.mask.meets mask = true := by
    induction scripts generalizing byte with
    | nil => simp
    | cons script rest ih => rw [List.foldl_cons, ih, Byte.or_meets, Bool.or_eq_true, or_assoc, List.exists_mem_cons_iff]
  rw [answers, peek_start_wait, raised]
  simp only [shows, List.mem_filter, and_assoc]

theorem outlook_performed (apart : ∀ op ∈ ops, (Effect.operation op).Within (· ≠ address)) :
    (ops.foldl BusOp.perform board).outlook address = board.outlook address := by
  induction ops generalizing board with
  | nil => rfl
  | cons op rest ih =>
      obtain ⟨here, later⟩ := List.forall_mem_cons.mp apart
      refine (ih later).trans ?_
      cases op with
      | read other value => rfl
      | write other value => exact outlook_write here board value
      | wait other mask budget => exact outlook_wait here board mask budget

theorem spares_outlook {touched : Address → Prop} (apart : ∀ other, touched other → other ≠ address) :
    Spares (Board.outlook address) touched fun _ _ _ => False where
  read _ _ := rfl
  write board other value inside := outlook_write (apart other inside) board value
  wait board other mask budget inside := outlook_wait (apart other inside) board mask budget
  call _ _ _ := False.elim

theorem spares_marks (touched : Address → Prop) : Spares Board.oneToClear touched fun _ _ _ => False where
  read _ _ := rfl
  write _ _ _ _ := rfl
  wait _ _ _ _ _ := rfl
  call _ _ _ := False.elim

end Board

namespace Replays

variable {answered : Bool} {before after : Board} {earlier later : List BusOp} {address : Address} {value : Byte}

theorem peek_of_apart (path : Replays answered before earlier after)
    (apart : ∀ op ∈ earlier, (Effect.operation op).Within (· ≠ address)) : after.peek address = before.peek address := by
  rw [path.performed]
  exact congrArg Prod.fst (Board.outlook_performed apart)

theorem seen_of_apart (path : Replays answered before (earlier ++ .read address value :: later) after)
    (apart : ∀ op ∈ earlier, (Effect.operation op).Within (· ≠ address)) : value = before.peek address := by
  obtain ⟨between, first, shown, -⟩ := path.split
  exact shown.symm.trans (first.peek_of_apart apart)

theorem peek_of_last (path : Replays answered before (earlier ++ .write address value :: later) after)
    (unmarked : address ∉ before.oneToClear) (apart : ∀ op ∈ later, (Effect.operation op).Within (· ≠ address)) :
    after.peek address = value := by
  obtain ⟨between, first, second⟩ := path.split
  have plain : address ∉ between.oneToClear := by
    rw [first.performed, Board.marks_performed]
    exact unmarked
  have later : Replays answered (Bus.write between address value) later after := second
  exact (later.peek_of_apart apart).trans (Board.peek_write plain value)

end Replays

end StorageBridge
