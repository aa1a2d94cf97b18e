import StorageBridge.Proofs.BoardEvents
import StorageBridge.Proofs.Boards
import StorageBridge.Proofs.ScriptTable

/-!
The scripts of a board against its history. A script that was taken is a promise: it fires at the wait
on its register that has as many waits before it, since the script was taken, as the script asks for.
The waits of one promise are counted apart from those of every other.
-/

set_option autoImplicit false

namespace StorageBridge

-- a script that was taken, and the events since
structure Promise where
  script : ReadyScript
  since : List BoardEvent := []
deriving DecidableEq, Repr

namespace Promise

-- the waits on its register since
def waits (promise : Promise) : Nat :=
  promise.since.countP (BoardEvent.waitsOn promise.script.address)

-- It has not fired yet.
def pending (promise : Promise) : Bool :=
  promise.waits ≤ promise.script.after

-- A wait on the register, begun now, is the one that it promises.
def due (address : Address) (promise : Promise) : Bool :=
  promise.script.address == address && promise.waits == promise.script.after

def follow (later : List BoardEvent) (promise : Promise) : Promise :=
  { promise with since := promise.since ++ later }

-- what is left of it among the scripts of the board
def left? (promise : Promise) : Option ReadyScript :=
  if promise.pending then some { promise.script with after := promise.script.after - promise.waits } else none

variable {promise : Promise} {address : Address}

theorem pending_iff : promise.pending = true ↔ promise.waits ≤ promise.script.after :=
  decide_eq_true_iff

theorem left_of_pending (pending : promise.pending = true) :
    promise.left? = some { promise.script with after := promise.script.after - promise.waits } :=
  if_pos pending

theorem left_of_spent (spent : ¬ promise.pending = true) : promise.left? = none :=
  if_neg spent

theorem follow_nil (promise : Promise) : promise.follow [] = promise := by
  rw [follow, List.append_nil]

theorem map_follow_append (promises : List Promise) (earlier later : List BoardEvent) :
    (promises.map (follow earlier)).map (follow later) = promises.map (follow (earlier ++ later)) := by
  rw [List.map_map]
  refine List.map_congr_left fun promise _ => ?_
  simp only [Function.comp_apply, follow, List.append_assoc]

theorem waits_follow (event : BoardEvent) (promise : Promise) :
    (promise.follow [event]).waits = promise.waits + if event.waitsOn promise.script.address then 1 else 0 := by
  simp only [waits, follow, List.countP_append, List.countP_singleton]

theorem left_follow_apart {event : BoardEvent} (apart : event.waitsOn promise.script.address = false) :
    (promise.follow [event]).left? = promise.left? := by
  have same : (promise.follow [event]).waits = promise.waits := by
    rw [waits_follow, apart, if_neg Bool.false_ne_true, Nat.add_zero]
  simp only [left?, pending, same]
  rfl

theorem left_follow_wait (address : Address) (mask : Byte) (budget : WaitBudget) (promise : Promise) :
    (promise.follow [.wait address mask budget]).left? = promise.left?.bind (ReadyScript.wait? address) := by
  -- A wait on another register leaves the promise alone. One on its own register fires it when no other
  -- has to come before, and otherwise there is one less to come.
  by_cases here : promise.script.address = address
  · have one : (promise.follow [.wait address mask budget]).waits = promise.waits + 1 := by
      simp [waits_follow, BoardEvent.waitsOn, here]
    by_cases pending : promise.pending = true
    · have bound := pending_iff.mp pending
      rw [left_of_pending pending, Option.bind_some, ReadyScript.wait?, if_neg (not_not.mpr here)]
      by_cases last : promise.script.after - promise.waits = 0
      · rw [if_pos last]
        refine left_of_spent fun more => ?_
        have left : promise.waits + 1 ≤ promise.script.after := one ▸ pending_iff.mp more
        omega
      · have more : (promise.follow [.wait address mask budget]).pending = true := by
          refine pending_iff.mpr ?_
          rw [one]
          change promise.waits + 1 ≤ promise.script.after
          omega
        rw [if_neg last, left_of_pending more, one, Nat.sub_sub]
        rfl
    · rw [left_of_spent pending, Option.bind_none]
      refine left_of_spent fun more => pending (pending_iff.mpr ?_)
      have left : promise.waits + 1 ≤ promise.script.after := one ▸ pending_iff.mp more
      omega
  · have apart : BoardEvent.waitsOn promise.script.address (.wait address mask budget) = false := by
      simpa [BoardEvent.waitsOn] using fun same => here same.symm
    rw [left_follow_apart apart]
    by_cases pending : promise.pending = true
    · rw [left_of_pending pending, Option.bind_some, ReadyScript.wait?, if_pos here]
    · rw [left_of_spent pending, Option.bind_none]

theorem fires_of_pending (address : Address) (pending : promise.pending = true) :
    ReadyScript.fires address { promise.script with after := promise.script.after - promise.waits } = promise.due address := by
  have bound := pending_iff.mp pending
  have last : (promise.script.after - promise.waits == 0) = (promise.waits == promise.script.after) := by
    rw [Bool.eq_iff_iff, beq_iff_eq, beq_iff_eq]
    omega
  simp only [ReadyScript.fires, due, last]

theorem not_due_of_spent (spent : ¬ promise.pending = true) : promise.due address = false := by
  rw [Bool.eq_false_iff]
  intro due
  have both : promise.script.address = address ∧ promise.waits = promise.script.after := by simpa [Promise.due] using due
  exact spent (pending_iff.mpr (Nat.le_of_eq both.2))

end Promise

-- The promises once one more event has happened. A script becomes one when fewer than sixteen have
-- still to fire.
def followAll (promises : List Promise) (event : BoardEvent) : List Promise :=
  let older := promises.map (Promise.follow [event])
  match event with
  | .raiseOnWait script => if promises.countP Promise.pending < 16 then older ++ [{ script }] else older
  | _ => older

-- all promises of a board, with those that it begins with, fired or not
def Board.promises (board : Board) (events : List BoardEvent) : List Promise :=
  events.foldl followAll (board.scripts.map fun script => { script })

theorem length_left (promises : List Promise) :
    (promises.filterMap Promise.left?).length = promises.countP Promise.pending := by
  induction promises with
  | nil => rfl
  | cons promise rest ih =>
      by_cases pending : promise.pending = true
      · rw [List.filterMap_cons_some (Promise.left_of_pending pending), List.length_cons, ih, List.countP_cons_of_pos pending]
      · rw [List.filterMap_cons_none (Promise.left_of_spent pending), ih, List.countP_cons_of_neg pending]

theorem left_follow_all_apart (promises : List Promise) {event : BoardEvent} (apart : event.isWait = false) :
    (promises.map (Promise.follow [event])).filterMap Promise.left? = promises.filterMap Promise.left? := by
  rw [List.filterMap_map]
  refine List.filterMap_congr fun promise _ => Promise.left_follow_apart ?_
  cases event with
  | wait address mask budget => cases apart
  | _ => rfl

theorem left_follow_all_wait (promises : List Promise) (address : Address) (mask : Byte) (budget : WaitBudget) :
    (promises.map (Promise.follow [.wait address mask budget])).filterMap Promise.left? =
      (promises.filterMap Promise.left?).filterMap (ReadyScript.wait? address) := by
  rw [List.filterMap_filterMap, List.filterMap_map]
  exact List.filterMap_congr fun promise _ => promise.left_follow_wait address mask budget

-- The scripts of a board are what is left of its promises. The promises stand in the order in which they
-- were made, the scripts in the order of their entries, and an entry may have been used before.
theorem Board.scripts_run {board : Board} {promises : List Promise} (left : board.scripts.Perm (promises.filterMap Promise.left?))
    (event : BoardEvent) : (event.run board).scripts.Perm ((followAll promises event).filterMap Promise.left?) := by
  have apart := @left_follow_all_apart promises event
  cases event with
  | wait address mask budget =>
      have followed : followAll promises (.wait address mask budget) =
          promises.map (Promise.follow [.wait address mask budget]) := rfl
      rw [BoardEvent.run, wait_ends, scripts_start_wait, followed, left_follow_all_wait]
      exact left.filterMap _
  | raiseOnWait script =>
      have fresh : Promise.left? { script } = some script := rfl
      have counted : board.scripts.length = promises.countP Promise.pending := by rw [left.length_eq, length_left]
      rw [BoardEvent.run]
      by_cases room : promises.countP Promise.pending < 16
      · rw [followAll, if_pos room, List.filterMap_append, apart rfl, List.filterMap_cons_some fresh, List.filterMap_nil]
        exact (scripts_raise (counted ▸ room) script).trans (left.append_right [script])
      · rw [raise_of_full (counted ▸ Nat.le_of_not_lt room), followAll, if_neg room, apart rfl]
        exact left
  | markOneToClear address =>
      obtain ⟨marks, marked⟩ := board.mark_ends address
      rw [BoardEvent.run, marked]
      exact left.trans (.of_eq (apart rfl).symm)
  | _ => exact left.trans (.of_eq (apart rfl).symm)

theorem Board.scripts_after (board : Board) (events : List BoardEvent) :
    (board.after events).scripts.Perm ((board.promises events).filterMap Promise.left?) := by
  induction events using List.reverseRecOn with
  | nil =>
      have fresh : (Promise.left? ∘ fun script => { script }) = some := rfl
      change board.scripts.Perm ((board.scripts.map fun script => { script }).filterMap Promise.left?)
      rw [List.filterMap_map, fresh, List.filterMap_some]
  | append_singleton events event ih =>
      rw [after_snoc, promises, List.foldl_append]
      exact scripts_run ih event

-- A promise stays in its place, and what happens later is only added to it.
theorem follow_all_follows (promises : List Promise) (later : List BoardEvent) :
    ∃ newer, later.foldl followAll promises = promises.map (Promise.follow later) ++ newer := by
  induction later using List.reverseRecOn with
  | nil =>
      refine ⟨[], ?_⟩
      rw [List.foldl_nil, List.append_nil, funext Promise.follow_nil, List.map_id']
  | append_singleton later event ih =>
      obtain ⟨newer, followed⟩ := ih
      obtain ⟨newest, added⟩ : ∃ newest, followAll (later.foldl followAll promises) event =
          (later.foldl followAll promises).map (Promise.follow [event]) ++ newest := by
        cases event with
        | raiseOnWait script =>
            by_cases room : (later.foldl followAll promises).countP Promise.pending < 16
            · exact ⟨_, if_pos room⟩
            · exact ⟨[], (if_neg room).trans (List.append_nil _).symm⟩
        | _ => exact ⟨[], (List.append_nil _).symm⟩
      refine ⟨newer.map (Promise.follow [event]) ++ newest, ?_⟩
      rw [List.foldl_append, List.foldl_cons, List.foldl_nil, added, followed, List.map_append,
        Promise.map_follow_append, List.append_assoc]

-- what the promises that are due make of a register
def raised (promises : List Promise) (address : Address) (byte : Byte) : Byte :=
  (promises.filter (Promise.due address)).foldl (fun byte promise => byte ||| promise.script.mask) byte

-- The scripts that fire are those of the promises that are due.
theorem fired_of_left (promises : List Promise) (address : Address) :
    (promises.filterMap Promise.left?).filter (ReadyScript.fires address) =
      (promises.filter (Promise.due address)).map fun promise => { promise.script with after := promise.script.after - promise.waits } := by
  induction promises with
  | nil => rfl
  | cons promise rest ih =>
      by_cases pending : promise.pending = true
      · have same := Promise.fires_of_pending address pending
        rw [List.filterMap_cons_some (Promise.left_of_pending pending)]
        by_cases due : promise.due address = true
        · rw [List.filter_cons_of_pos (same.trans due), List.filter_cons_of_pos due, List.map_cons, ih]
        · rw [List.filter_cons_of_neg (by rwa [same]), List.filter_cons_of_neg due, ih]
      · rw [List.filterMap_cons_none (Promise.left_of_spent pending),
          List.filter_cons_of_neg (Bool.eq_false_iff.mp (Promise.not_due_of_spent pending)), ih]

-- A script leaves the board when it fires.
theorem length_waited (scripts : List ReadyScript) (address : Address) :
    (scripts.filterMap (ReadyScript.wait? address)).length + (scripts.filter (ReadyScript.fires address)).length =
      scripts.length := by
  induction scripts with
  | nil => rfl
  | cons script rest ih =>
      rw [List.length_cons, ← ih]
      by_cases fires : script.fires address = true
      · have here : script.address = address ∧ script.after = 0 := by simpa [ReadyScript.fires] using fires
        have gone : script.wait? address = none := by simp [ReadyScript.wait?, here.1, here.2]
        rw [List.filterMap_cons_none gone, List.filter_cons_of_pos fires, List.length_cons, Nat.add_assoc]
      · obtain ⟨left, stays⟩ : ∃ left, script.wait? address = some left := by
          by_cases here : script.address = address
          · have later : script.after ≠ 0 := fun last => fires (by simp [ReadyScript.fires, here, last])
            exact ⟨_, (if_neg (not_not.mpr here)).trans (if_neg later)⟩
          · exact ⟨script, if_pos here⟩
        rw [List.filterMap_cons_some stays, List.filter_cons_of_neg fires, List.length_cons, Nat.add_right_comm]

-- A wait looks at its register at all.
def WaitBudget.looks : WaitBudget → Bool
  | polls limit => limit != 0
  | forever => true

namespace Board

theorem promises_append (board : Board) (earlier later : List BoardEvent) :
    board.promises (earlier ++ later) = later.foldl followAll (board.promises earlier) :=
  List.foldl_append

theorem length_scripts_after (board : Board) (events : List BoardEvent) :
    (board.after events).scripts.length = (board.promises events).countP Promise.pending := by
  rw [(board.scripts_after events).length_eq, length_left]

-- The scripts that fire raise their bits in the order of their entries, and any order raises the same bits.
theorem raised_of_perm {one other : List ReadyScript} (same : one.Perm other) (byte : Byte) :
    one.foldl (fun byte script => byte ||| script.mask) byte = other.foldl (fun byte script => byte ||| script.mask) byte :=
  same.foldl_eq' (fun first _ second _ byte => by rw [UInt8.or_assoc, UInt8.or_comm first.mask, ← UInt8.or_assoc]) byte

theorem peek_wait_after (board : Board) (events : List BoardEvent) (address : Address) (mask : Byte) (budget : WaitBudget) :
    (Bus.wait (board.after events) address mask budget).2.peek address =
      raised (board.promises events) address ((board.after events).peek address) := by
  have fired := (board.scripts_after events).filter (ReadyScript.fires address)
  rw [wait_ends, peek_start_wait, raised_of_perm fired, fired_of_left, List.foldl_map]
  rfl

theorem length_scripts_wait (board : Board) (events : List BoardEvent) (address : Address) (mask : Byte)
    (budget : WaitBudget) :
    (Bus.wait (board.after events) address mask budget).2.scripts.length + (board.promises events).countP (Promise.due address) =
      (board.after events).scripts.length := by
  have fired : ((board.after events).scripts.filter (ReadyScript.fires address)).length =
      (board.promises events).countP (Promise.due address) := by
    rw [((board.scripts_after events).filter _).length_eq, fired_of_left, List.length_map, List.countP_eq_length_filter]
  rw [← fired, wait_ends, scripts_start_wait]
  exact length_waited (board.after events).scripts address

theorem wait_looks (board : Board) (address : Address) (mask : Byte) (budget : WaitBudget) :
    (Bus.wait board address mask budget).1 =
      (budget.looks && ((Bus.wait board address mask budget).2.peek address).meets mask) := by
  cases budget with
  | polls limit => rfl
  | forever => exact (Bool.true_and _).symm

-- Only a wait feels the scripts.
theorem run_scripts_apart (board : Board) (table : ScriptTable) {event : BoardEvent} (apart : event.isWait = false) :
    ∃ left, event.run { board with table } = { event.run board with table := left } := by
  cases event with
  | wait address mask budget => cases apart
  | raiseOnWait script => exact ⟨table.add script, rfl⟩
  | markOneToClear address =>
      refine ⟨table, ?_⟩
      by_cases taken : board.oneToClear.length < oneToClearCapacity ∧ address ∉ board.oneToClear
      · have marked : board.markOneToClear address = { board with oneToClear := board.oneToClear ++ [address] } := if_pos taken
        rw [BoardEvent.run, BoardEvent.run, marked]
        exact if_pos taken
      · have ignored : board.markOneToClear address = board := if_neg taken
        rw [BoardEvent.run, BoardEvent.run, ignored]
        exact if_neg taken
  | _ => exact ⟨table, rfl⟩

theorem promise_made (board : Board) (earlier later : List BoardEvent) {script : ReadyScript}
    (room : (board.after earlier).scripts.length < 16) :
    ∃ newer, board.promises (earlier ++ .raiseOnWait script :: later) =
      (board.promises earlier).map (Promise.follow (.raiseOnWait script :: later)) ++ { script, since := later } :: newer := by
  rw [length_scripts_after] at room
  have made : followAll (board.promises earlier) (.raiseOnWait script) =
      (board.promises earlier).map (Promise.follow [.raiseOnWait script]) ++ [{ script := script }] := if_pos room
  obtain ⟨newer, followed⟩ := follow_all_follows (followAll (board.promises earlier) (.raiseOnWait script)) later
  refine ⟨newer, ?_⟩
  rw [promises_append, List.foldl_cons, followed, made, List.map_append, Promise.map_follow_append, List.append_assoc]
  rfl

theorem raise_ignored (board : Board) (earlier later : List BoardEvent) {script : ReadyScript}
    (full : 16 ≤ (board.after earlier).scripts.length) :
    board.after (earlier ++ .raiseOnWait script :: later) = board.after (earlier ++ later) := by
  have ignored : BoardEvent.run (board.after earlier) (.raiseOnWait script) = board.after earlier :=
    raise_of_full full script
  have onward : (board.after earlier).after (.raiseOnWait script :: later) =
      (BoardEvent.run (board.after earlier) (.raiseOnWait script)).after later := rfl
  rw [after_append, onward, ignored, after_append]

end Board

theorem script_fires_on_the_promised_wait (board : Board) (events : List BoardEvent) :
    let reached := board.after events
    let promises := board.promises events
    (∀ address mask budget,
      let waited := Bus.wait reached address mask budget
      waited.2.peek address = raised promises address (reached.peek address) ∧
      waited.1 = (budget.looks && (waited.2.peek address).meets mask) ∧
      (∀ other, address ≠ other → waited.2.peek other = reached.peek other) ∧
      waited.2.scripts.length + promises.countP (Promise.due address) = reached.scripts.length) ∧
    (∀ event : BoardEvent, event.isWait = false → ∀ table,
      ∃ left, event.run { reached with table } = { event.run reached with table := left }) ∧
    (∀ earlier script later, events = earlier ++ .raiseOnWait script :: later →
      ((board.after earlier).scripts.length < 16 →
        ∃ newer, promises = (board.promises earlier).map (Promise.follow (.raiseOnWait script :: later)) ++
          { script, since := later } :: newer) ∧
      (16 ≤ (board.after earlier).scripts.length → reached = board.after (earlier ++ later))) ∧
    reached.scripts.Perm (promises.filterMap Promise.left?) ∧
    reached.scripts.length = promises.countP Promise.pending := by
  intro reached promises
  refine ⟨?_, fun event apart table => reached.run_scripts_apart table apart, ?_, board.scripts_after events,
    board.length_scripts_after events⟩
  · intro address mask budget waited
    exact ⟨board.peek_wait_after events address mask budget, reached.wait_looks address mask budget,
      fun other different => Board.peek_wait_other different mask budget,
      board.length_scripts_wait events address mask budget⟩
  · rintro earlier script later split
    have whole : promises = board.promises (earlier ++ .raiseOnWait script :: later) := congrArg board.promises split
    have arrived : reached = board.after (earlier ++ .raiseOnWait script :: later) := congrArg board.after split
    rw [whole, arrived]
    exact ⟨board.promise_made earlier later, board.raise_ignored earlier later⟩

-- Two scripts on one register and fourteen on another fill the table. One more is ignored, the first wait
-- frees an entry, and the script that takes this entry fires together with the one that was there first.
theorem second_wait_sees_scripted_ready :
    let filling : List BoardEvent :=
      [.raiseOnWait { address := 0xB100, mask := 0x80, after := 1 },
        .raiseOnWait { address := 0xB100, mask := 0x01, after := 0 }] ++
      List.replicate 14 (.raiseOnWait { address := 0xC000, mask := 0x02, after := 9 })
    let refused : BoardEvent := .raiseOnWait { address := 0xB100, mask := 0x40, after := 0 }
    let later : List BoardEvent :=
      [.wait 0xB100 0x80 (.polls 4), .raiseOnWait { address := 0xB100, mask := 0x10, after := 0 }]
    let reached := Board.blank.after (filling ++ refused :: later)
    let waited := Bus.wait reached 0xB100 0x80 (.polls 4)
    (Board.blank.after filling).scripts.length = 16 ∧
      reached = Board.blank.after (filling ++ later) ∧
      reached.table.entries[1] = { script := { address := 0xB100, mask := 0x10, after := 0 }, active := true } ∧
      reached.peek 0xB100 = 0x01 ∧
      waited.2.peek 0xB100 = 0x91 ∧
      waited.1 = true ∧
      waited.2.scripts.length = 14 := by
  intro filling refused later reached waited
  obtain ⟨waits, -, raises, -, counted⟩ := script_fires_on_the_promised_wait Board.blank (filling ++ refused :: later)
  obtain ⟨shows, looks, -, left⟩ := waits 0xB100 0x80 (.polls 4)
  have full : (Board.blank.after filling).scripts.length = 16 := by decide +kernel
  have ignored := (raises filling _ later rfl).2 (Nat.le_of_eq full.symm)
  have first : reached.peek 0xB100 = 0x01 := by decide +kernel
  have second : waited.2.peek 0xB100 = 0x91 := shows.trans (by rw [first]; decide +kernel)
  refine ⟨full, ignored, by decide +kernel, first, second, looks.trans (by rw [second]; rfl), ?_⟩
  have due : (Board.blank.promises (filling ++ refused :: later)).countP (Promise.due 0xB100) = 2 := by decide +kernel
  have pending : (Board.blank.promises (filling ++ refused :: later)).countP Promise.pending = 16 := by decide +kernel
  rw [due, counted, pending] at left
  exact Nat.add_right_cancel left

end StorageBridge
