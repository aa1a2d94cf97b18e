import StorageBridge.Board.Basic
import StorageBridge.Proofs.Memory

/-!
The table of scripts as the list of those that are active, in the order of their entries. A script that
is taken joins the list, one that fires leaves it, and what a freed entry still holds is never seen.
-/

set_option autoImplicit false

namespace StorageBridge

namespace ReadyScript

-- A wait on the address makes the script raise its bits now.
def fires (address : Address) (script : ReadyScript) : Bool :=
  script.address == address && script.after == 0

-- what is left of the script after the wait
def wait? (address : Address) (script : ReadyScript) : Option ReadyScript :=
  if script.address ≠ address then some script
  else if script.after = 0 then none
  else some { script with after := script.after - 1 }

end ReadyScript

namespace ScriptEntry

variable {entry : ScriptEntry} {address : Address}

-- the script of an entry that is not free
def held? (entry : ScriptEntry) : Option ReadyScript :=
  if entry.active then some entry.script else none

-- the entry once a wait on the address has come by, and the register
def waited (address : Address) (entry : ScriptEntry) : ScriptEntry :=
  if !entry.active || entry.script.address != address then entry
  else if entry.script.after = 0 then { entry with active := false }
  else { entry with script := { entry.script with after := entry.script.after - 1 } }

def lift (address : Address) (byte : Byte) (entry : ScriptEntry) : Byte :=
  if !entry.active || entry.script.address != address then byte
  else if entry.script.after = 0 then byte ||| entry.script.mask
  else byte

theorem held_of_free (free : entry.active = false) : entry.held? = none :=
  if_neg (Bool.eq_false_iff.mp free)

theorem held_of_active (active : entry.active = true) : entry.held? = some entry.script :=
  if_pos active

theorem waited_of_free (free : entry.active = false) (address : Address) : entry.waited address = entry :=
  if_pos (by rw [free, Bool.not_false, Bool.true_or])

theorem lift_of_free (free : entry.active = false) (address : Address) (byte : Byte) : entry.lift address byte = byte :=
  if_pos (by rw [free, Bool.not_false, Bool.true_or])

theorem held_waited (address : Address) (entry : ScriptEntry) :
    (entry.waited address).held? = entry.held?.bind (ReadyScript.wait? address) := by
  cases active : entry.active with
  | false => rw [waited_of_free active, held_of_free active, Option.bind_none]
  | true =>
      by_cases here : entry.script.address = address
      · by_cases last : entry.script.after = 0
        · simp [waited, held?, ReadyScript.wait?, active, here, last]
        · simp [waited, held?, ReadyScript.wait?, active, here, last]
      · simp [waited, held?, ReadyScript.wait?, active, here]

theorem lift_of_active (active : entry.active = true) (address : Address) (byte : Byte) :
    entry.lift address byte = if entry.script.fires address then byte ||| entry.script.mask else byte := by
  by_cases here : entry.script.address = address
  · by_cases last : entry.script.after = 0
    · simp [lift, ReadyScript.fires, active, here, last]
    · simp [lift, ReadyScript.fires, active, here, last]
  · simp [lift, ReadyScript.fires, active, here]

end ScriptEntry

namespace ScriptTable

variable {table : ScriptTable}

def scripts (table : ScriptTable) : List ReadyScript :=
  table.entries.toList.filterMap ScriptEntry.held?

theorem put_entry (table : ScriptTable) (i : Fin capacity) : table.put i (table.entry i) = table :=
  congrArg ScriptTable.mk (Vector.set_getElem_self i.isLt)

-- One entry is looked at, and one entry may change.
theorem visit_eq (address : Address) (i : Fin capacity) (byte : Byte) (table : ScriptTable) :
    visit address i (byte, table) =
      ((table.entry i).lift address byte, table.put i ((table.entry i).waited address)) := by
  unfold visit ScriptEntry.lift ScriptEntry.waited
  by_cases passed : (!(table.entry i).active || (table.entry i).script.address != address) = true
  · simp only [if_pos passed, put_entry]
  · by_cases last : (table.entry i).script.after = 0
    · simp only [if_neg passed, if_pos last]
    · simp only [if_neg passed, if_neg last]

-- The loop comes to each entry once. What it has passed is settled, and what is ahead stands as before.
theorem fold_visit (table : ScriptTable) (address : Address) (byte : Byte) (count : Nat) (within : count ≤ capacity) :
    ∃ entries : Vector ScriptEntry capacity,
      Nat.fold count (fun i bound => visit address ⟨i, Nat.lt_of_lt_of_le bound within⟩) (byte, table) =
        ((table.entries.toList.take count).foldl (ScriptEntry.lift address) byte, { entries }) ∧
      ∀ (place : Nat) (bound : place < capacity),
        entries[place] = if place < count then table.entries[place].waited address else table.entries[place] := by
  induction count with
  | zero => exact ⟨table.entries, rfl, fun place bound => (if_neg (Nat.not_lt_zero place)).symm⟩
  | succ count ih =>
      obtain ⟨entries, reached, settled⟩ := ih (Nat.le_of_succ_le within)
      have bound : count < capacity := within
      have ahead : entries[count] = table.entries[count] := (settled count bound).trans (if_neg (Nat.lt_irrefl count))
      refine ⟨entries.set count (table.entries[count].waited address), ?_, fun place inside => ?_⟩
      · have taken : table.entries.toList.take (count + 1) = table.entries.toList.take count ++ [table.entries[count]] :=
          List.take_succ_eq_append_getElem (by rw [Vector.length_toList]; exact bound)
        rw [Nat.fold_succ, reached, visit_eq, taken, List.foldl_append]
        change (entries[count].lift address _, ScriptTable.mk (entries.set count (entries[count].waited address))) = _
        rw [ahead]
        rfl
      · rw [Vector.getElem_set]
        by_cases here : count = place
        · subst here
          rw [if_pos rfl, if_pos (Nat.lt_succ_self count)]
        · rw [if_neg here, settled place inside]
          by_cases passed : place < count
          · rw [if_pos passed, if_pos (Nat.lt_succ_of_lt passed)]
          · rw [if_neg passed, if_neg (by omega)]

theorem run_eq (table : ScriptTable) (address : Address) (byte : Byte) :
    table.run address byte =
      (table.entries.toList.foldl (ScriptEntry.lift address) byte,
        { entries := table.entries.map (ScriptEntry.waited address) }) := by
  obtain ⟨entries, reached, settled⟩ := table.fold_visit address byte capacity (Nat.le_refl capacity)
  have whole : table.entries.toList.take capacity = table.entries.toList :=
    List.take_of_length_le (Nat.le_of_eq Vector.length_toList)
  have all : entries = table.entries.map (ScriptEntry.waited address) := by
    ext place bound
    rw [settled place bound, if_pos bound, Vector.getElem_map]
  rw [whole, all] at reached
  exact reached

theorem scripts_run (table : ScriptTable) (address : Address) (byte : Byte) :
    (table.run address byte).2.scripts = table.scripts.filterMap (ReadyScript.wait? address) := by
  rw [run_eq, scripts, scripts, Vector.toList_map, List.filterMap_map, List.filterMap_filterMap]
  exact List.filterMap_congr fun entry _ => entry.held_waited address

theorem raised_run (table : ScriptTable) (address : Address) (byte : Byte) :
    (table.run address byte).1 =
      (table.scripts.filter (ReadyScript.fires address)).foldl (fun byte script => byte ||| script.mask) byte := by
  rw [run_eq, scripts]
  induction table.entries.toList generalizing byte with
  | nil => rfl
  | cons entry rest ih =>
      rw [List.foldl_cons, ih]
      cases active : entry.active with
      | false => rw [ScriptEntry.lift_of_free active, List.filterMap_cons_none (ScriptEntry.held_of_free active)]
      | true =>
          rw [ScriptEntry.lift_of_active active, List.filterMap_cons_some (ScriptEntry.held_of_active active)]
          by_cases fires : entry.script.fires address = true
          · rw [if_pos fires, List.filter_cons_of_pos fires, List.foldl_cons]
          · rw [if_neg fires, List.filter_cons_of_neg fires]

-- A table without scripts may still hold what was in its entries, and keeps it.
theorem run_of_idle (idle : table.scripts = []) (address : Address) (byte : Byte) : table.run address byte = (byte, table) := by
  have free : ∀ entry ∈ table.entries.toList, entry.active = false := by
    intro entry member
    have none := List.filterMap_eq_nil_iff.mp idle entry member
    cases active : entry.active with
    | false => rfl
    | true => cases (ScriptEntry.held_of_active active).symm.trans none
  have still : table.entries.map (ScriptEntry.waited address) = table.entries := by
    ext place bound
    rw [Vector.getElem_map]
    exact ScriptEntry.waited_of_free (free _ (Vector.mem_toList_iff.mpr (Vector.getElem_mem bound))) address
  have shown : (table.run address byte).1 = byte := by
    rw [raised_run, idle]
    rfl
  have kept : (table.run address byte).2 = table := by
    rw [run_eq, still]
  exact Prod.ext shown kept

theorem first_free_some {i : Fin capacity} (found : table.firstFree? = some i) : (table.entry i).active = false := by
  obtain ⟨place, first, rfl⟩ := Option.map_eq_some_iff.mp found
  exact (Bool.not_eq_true' _).mp (Array.findFinIdx?_eq_some_iff.mp first).1

theorem length_scripts_of_full (full : table.firstFree? = none) : table.scripts.length = capacity := by
  have active : ∀ entry ∈ table.entries.toList, entry.held?.isSome = true := by
    intro entry member
    have taken := Vector.findFinIdx?_eq_none_iff.mp full entry (Vector.mem_toList_iff.mp member)
    rw [ScriptEntry.held_of_active (by simpa using taken)]
    rfl
  rw [scripts, List.length_filterMap_eq_countP, List.countP_eq_length.mpr active, Vector.length_toList]

-- the scripts of the other entries, before and after one of them
theorem scripts_put (table : ScriptTable) (i : Fin capacity) (entry : ScriptEntry) :
    (table.put i entry).scripts = (table.entries.toList.take i).filterMap ScriptEntry.held? ++
      entry.held?.toList ++ (table.entries.toList.drop (i + 1)).filterMap ScriptEntry.held? := by
  have inside : i.val < table.entries.toList.length := by rw [Vector.length_toList]; exact i.isLt
  have split : (table.put i entry).entries.toList =
      table.entries.toList.take i ++ entry :: table.entries.toList.drop (i + 1) := by
    rw [put]
    exact (Vector.toList_set i.isLt).trans (List.set_eq_take_append_cons_drop.trans (if_pos inside))
  rw [scripts, split, List.filterMap_append, List.filterMap_cons, List.append_assoc]
  cases entry.held? with
  | none => rfl
  | some script => rfl

theorem scripts_of_entry (table : ScriptTable) (i : Fin capacity) :
    table.scripts = (table.entries.toList.take i).filterMap ScriptEntry.held? ++
      (table.entry i).held?.toList ++ (table.entries.toList.drop (i + 1)).filterMap ScriptEntry.held? := by
  rw [← scripts_put, put_entry]

theorem length_scripts_of_free {i : Fin capacity} (free : (table.entry i).active = false) :
    table.scripts.length < capacity := by
  have fewer : List.countP (fun entry => entry.held?.isSome) table.entries.toList < table.entries.toList.length := by
    refine List.countP_lt_length_iff.mpr ⟨table.entry i, ?_, ?_⟩
    · exact Vector.mem_toList_iff.mpr (Vector.getElem_mem i.isLt)
    · rw [ScriptEntry.held_of_free free]
      rfl
  rw [scripts, List.length_filterMap_eq_countP]
  exact Nat.lt_of_lt_of_eq fewer Vector.length_toList

-- The new script has its place where the first free entry was.
theorem scripts_add (room : table.scripts.length < capacity) (script : ReadyScript) :
    (table.add script).scripts.Perm (table.scripts ++ [script]) := by
  unfold add
  cases found : table.firstFree? with
  | none => exact absurd (length_scripts_of_full found) (Nat.ne_of_lt room)
  | some i =>
      have free : (table.entry i).held? = none := ScriptEntry.held_of_free (first_free_some found)
      dsimp only
      rw [scripts_put, table.scripts_of_entry i, free]
      rw [Option.toList_none, List.append_nil, List.append_assoc, List.append_assoc]
      exact List.perm_append_comm.append_left _

theorem add_of_full (full : capacity ≤ table.scripts.length) (script : ReadyScript) : table.add script = table := by
  unfold add
  cases found : table.firstFree? with
  | none => rfl
  | some i => exact absurd (length_scripts_of_free (first_free_some found)) (Nat.not_lt_of_le full)

end ScriptTable

namespace Board

variable {board : Board}

def scripts (board : Board) : List ReadyScript :=
  board.table.scripts

theorem peek_start_wait (board : Board) (address : Address) :
    (board.startWait address).peek address =
      (board.scripts.filter (ReadyScript.fires address)).foldl (fun byte script => byte ||| script.mask)
        (board.peek address) := by
  have shown : (board.startWait address).peek address = (board.table.run address (board.peek address)).1 := by
    rw [startWait, peek, Memory.peek_poke, if_pos rfl]
  rw [shown, ScriptTable.raised_run, scripts]

theorem scripts_start_wait (board : Board) (address : Address) :
    (board.startWait address).scripts = board.scripts.filterMap (ReadyScript.wait? address) := by
  rw [scripts, startWait, ScriptTable.scripts_run, scripts]

theorem wait_ends (board : Board) (address : Address) (mask : Byte) (budget : WaitBudget) :
    (Bus.wait board address mask budget).2 = board.startWait address := rfl

-- Where no script is left, the wait stores the byte that it reads.
theorem start_wait_of_idle (idle : board.scripts = []) (address : Address) :
    board.startWait address =
      { board with
        memory := board.memory.poke address (board.peek address)
        waitCount := board.waitCount + 1 } := by
  rw [startWait, ScriptTable.run_of_idle idle]

theorem scripts_raise (room : board.scripts.length < scriptCapacity) (script : ReadyScript) :
    (board.raiseOnWait script).scripts.Perm (board.scripts ++ [script]) :=
  ScriptTable.scripts_add room script

theorem raise_of_full (full : scriptCapacity ≤ board.scripts.length) (script : ReadyScript) :
    board.raiseOnWait script = board := by
  rw [raiseOnWait, ScriptTable.add_of_full full]

end Board

end StorageBridge
