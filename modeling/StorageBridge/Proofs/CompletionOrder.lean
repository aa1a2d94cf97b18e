import StorageBridge.Proofs.CalmBoards
import StorageBridge.Proofs.CompletionLaw
import StorageBridge.Proofs.Logs

/-!
Completions in any order. On a calm board each completion leaves the engine in the same way and empties
the slot that it names, so all that is left of their order is which event came last.
-/

set_option autoImplicit false

namespace StorageBridge

open BridgeM

namespace Board

variable {board : Board} {address : Address}

def windowFlags (board : Board) (event : Byte) : Byte :=
  board.peek (Completion.window event board.counter) &&& Reg.Completion.stateMask

-- The board once a completion has looked at its window, and once it has retired its slot. The event
-- makes no difference.
def watched (board : Board) : Board :=
  let pulsed := Bus.modify (Bus.modify board Reg.Dma.status 0 Reg.Dma.statusLatch) Reg.Dma.status Reg.Dma.statusLatch 0
  { pulsed with waitCount := pulsed.waitCount + 1 }

def finished (board : Board) : Board :=
  Bus.write board.watched Reg.Dma.status 0

theorem peek_watched (apart : Reg.Dma.status ≠ address) (board : Board) : board.watched.peek address = board.peek address :=
  (peek_modify_other apart _ _).trans (peek_modify_other apart _ _)

theorem peek_finished (apart : Reg.Dma.status ≠ address) (board : Board) : board.finished.peek address = board.peek address :=
  (peek_write_other apart _).trans (peek_watched apart board)

theorem awaited_on_calm_board (calm : board.scripts = []) (event : Byte) : board.awaited event = board.watched :=
  start_wait_on_calm_board (show board.pulsed.scripts = [] from calm) _

theorem flags_awaited_on_calm_board (calm : board.scripts = []) (event : Byte) :
    board.flagsAwaited event = board.windowFlags event := by
  rw [flagsAwaited, start_wait_on_calm_board calm]
  rfl

theorem counter_finished (board : Board) : board.finished.counter = board.counter := by
  rw [counter, peek_finished (by decide)]
  rfl

theorem expected_finished (board : Board) : board.finished.expected = board.expected := by
  rw [expected, peek_finished (by decide)]
  rfl

theorem window_flags_finished (board : Board) (event : Byte) : board.finished.windowFlags event = board.windowFlags event := by
  rw [windowFlags, counter_finished, peek_finished (status_off_windows _ _)]
  rfl

theorem shown_finished {α : Type} (view : Board → α) (kept : ∀ board : Board, view board.finished = view board) (count : Nat)
    (board : Board) : view (finished^[count] board) = view board := by
  induction count with
  | zero => rfl
  | succ count ih => rw [Function.iterate_succ_apply', kept, ih]

end Board

-- whether the event retires a slot, when nothing is latched
def Board.Fits (board : Board) (event : Byte) : Prop :=
  board.windowFlags event = board.expected

instance (board : Board) (event : Byte) : Decidable (board.Fits event) :=
  inferInstanceAs (Decidable (_ = _))

namespace Ledger

def retireAll (ledger : Ledger) (events : List Byte) : Ledger :=
  events.foldl (fun ledger event => ledger.retire (SlotIndex.wrap event)) ledger

theorem retire_all_snoc (ledger : Ledger) (events : List Byte) (event : Byte) :
    ledger.retireAll (events ++ [event]) = (ledger.retireAll events).retire (SlotIndex.wrap event) :=
  List.foldl_append

theorem slot_retire (ledger : Ledger) (emptied slot : SlotIndex) :
    (ledger.retire emptied).ring.slot slot = if emptied = slot then .empty else ledger.ring.slot slot :=
  CommandRing.slot_of_put (ledger.retire_retired emptied).slots slot

theorem slot_retire_all (ledger : Ledger) (events : List Byte) (slot : SlotIndex) :
    (ledger.retireAll events).ring.slot slot = if slot ∈ events.map SlotIndex.wrap then .empty else ledger.ring.slot slot := by
  induction events using List.reverseRecOn with
  | nil => rfl
  | append_singleton events event ih =>
      rw [retire_all_snoc, slot_retire, ih]
      by_cases last : SlotIndex.wrap event = slot
      · simp [last]
      · simp [last, Ne.symm last]

theorem retire_eq (ledger : Ledger) (slot : SlotIndex) : ledger.retire slot =
    { ring := ledger.ring.release slot
      submitLog := ledger.submitLog
      completeLog :=
        if (ledger.ring.slot slot).isFree then ledger.completeLog else (ledger.completeLog + 1) &&& 0x1F
      completions := if (ledger.ring.slot slot).isFree then ledger.completions else countUp ledger.completions } := by
  unfold retire
  by_cases free : (ledger.ring.slot slot).isFree = true
  · simp only [if_pos free]
  · simp only [if_neg free]

theorem release_comm {one other : SlotIndex} (different : one ≠ other) (ring : CommandRing) :
    (ring.release one).release other = (ring.release other).release one := by
  have slots : (ring.slots.set one Slot.empty).set other Slot.empty = (ring.slots.set other Slot.empty).set one Slot.empty :=
    Vector.set_comm _ _ fun same => different (Fin.ext same)
  simp only [CommandRing.release, CommandRing.clear, CommandRing.put, slots]

theorem retire_comm (ledger : Ledger) (one other : SlotIndex) :
    (ledger.retire one).retire other = (ledger.retire other).retire one := by
  by_cases same : one = other
  · rw [same]
  · have second : (ledger.retire one).ring.slot other = ledger.ring.slot other := by rw [slot_retire, if_neg same]
    have first : (ledger.retire other).ring.slot one = ledger.ring.slot one := by rw [slot_retire, if_neg (Ne.symm same)]
    rw [retire_eq (ledger.retire one), retire_eq (ledger.retire other), second, first, retire_eq ledger one, retire_eq ledger other]
    simp only [release_comm same]
    by_cases oneFree : (ledger.ring.slot one).isFree = true
    · simp only [if_pos oneFree]
    · simp only [if_neg oneFree]
      by_cases otherFree : (ledger.ring.slot other).isFree = true
      · simp only [if_pos otherFree]
      · simp only [if_neg otherFree]

theorem retire_all_perm {events reordered : List Byte} (same : events.Perm reordered) (ledger : Ledger) :
    ledger.retireAll events = ledger.retireAll reordered :=
  same.foldl_eq' (fun _ _ _ _ ledger => ledger.retire_comm _ _) ledger

end Ledger

namespace Controller

variable {before : Controller Board}

-- what a completion does when it answers that it is done
structure Completes (before : Controller Board) (event : Byte) (after : Controller Board) : Prop where
  settings : after.settings = before.settings
  bus : after.bus = before.bus.finished
  ledger : after.ledger = before.ledger.retire (SlotIndex.wrap event)
  state : after.state = { before.state with
    ring := after.state.ring, completeLog := after.state.completeLog, pendingEvent := event
    secondaryCounter := before.bus.counter, expectedFlags := before.bus.expected }
  statistics : after.statistics = { before.statistics with completions := after.statistics.completions }

theorem complete_fitting (calm : before.bus.scripts = []) (unlatched : before.state.reset = none) {event : Byte}
    (fits : before.bus.Fits event) : ∃ after, complete event before = .ok (.ok (.completed (SlotIndex.wrap event))) after ∧
      Completes before event after := by
  have flags : before.bus.flagsAwaited event = before.bus.expected := (Board.flags_awaited_on_calm_board calm event).trans fits
  rw [complete_of_unlatched unlatched, bind_of_ok (Completion.handle_fitting before flags)]
  refine ⟨_, rfl, rfl, ?_, Completion.retired_ledger event before, rfl, rfl⟩
  exact congrArg (fun board => Bus.write board Reg.Dma.status 0) (Board.awaited_on_calm_board calm event)

theorem complete_unfitting (calm : before.bus.scripts = []) (unlatched : before.state.reset = none) {event : Byte}
    (differs : ¬ before.bus.Fits event) : ∃ request after, complete event before = .ok (.ok (.reset request)) after := by
  have flags : before.bus.flagsAwaited event ≠ before.bus.expected := by
    rw [Board.flags_awaited_on_calm_board calm]
    exact differs
  rw [complete_of_unlatched unlatched]
  exact ⟨_, _, bind_of_ok (Completion.handle_unfitting before flags) _⟩

structure RetiresAll (before : Controller Board) (events : List Byte) (after : Controller Board) : Prop where
  settings : after.settings = before.settings
  bus : after.bus = Board.finished^[events.length] before.bus
  ledger : after.ledger = before.ledger.retireAll events
  state : after.state = { before.state with
    ring := after.state.ring, completeLog := after.state.completeLog
    pendingEvent := events.getLast?.getD before.state.pendingEvent
    secondaryCounter := if events = [] then before.state.secondaryCounter else before.bus.counter
    expectedFlags := if events = [] then before.state.expectedFlags else before.bus.expected }
  statistics : after.statistics = { before.statistics with completions := after.statistics.completions }

theorem RetiresAll.snoc {between after : Controller Board} {events : List Byte} {event : Byte}
    (earlier : RetiresAll before events between) (completes : Completes between event after) :
    RetiresAll before (events ++ [event]) after := by
  have counter : between.bus.counter = before.bus.counter := by
    rw [earlier.bus]
    exact Board.shown_finished Board.counter Board.counter_finished _ _
  have expected : between.bus.expected = before.bus.expected := by
    rw [earlier.bus]
    exact Board.shown_finished Board.expected Board.expected_finished _ _
  refine ⟨completes.settings.trans earlier.settings, ?_, ?_, ?_, ?_⟩
  · rw [completes.bus, earlier.bus, List.length_append, List.length_singleton, Function.iterate_succ_apply']
  · rw [completes.ledger, earlier.ledger, Ledger.retire_all_snoc]
  · rw [completes.state, earlier.state]
    simp [counter, expected]
  · rw [completes.statistics, earlier.statistics]

end Controller

def Step.completes (step : Step Board) : Prop :=
  ∃ slot, step.answer = .completed (.ok (.completed slot))

section Runs

variable {before : Controller Board}

theorem step_completes_iff (calm : before.bus.scripts = []) (event : Byte) :
    Step.completes { before, event := .completion event } ↔ before.state.reset = none ∧ before.bus.Fits event := by
  unfold Step.completes Step.answer
  change (∃ slot, (Answer.ofResult .completed (Controller.complete event before)).1 = _) ↔ _
  cases latched : before.state.reset with
  | some request =>
      rw [Controller.complete_of_latched latched]
      simp [Answer.ofResult]
  | none =>
      by_cases fits : before.bus.Fits event
      · obtain ⟨after, completed, -⟩ := Controller.complete_fitting calm latched fits
        rw [completed]
        simp [Answer.ofResult, fits]
      · obtain ⟨request, after, turned⟩ := Controller.complete_unfitting calm latched fits
        rw [turned]
        simp [Answer.ofResult, fits]

theorem step_completes (calm : before.bus.scripts = []) {event : Byte}
    (done : Step.completes { before, event := .completion event }) :
    Controller.Completes before event (Step.after { before, event := .completion event }) := by
  obtain ⟨unlatched, fits⟩ := (step_completes_iff calm event).mp done
  obtain ⟨after, completed, completes⟩ := Controller.complete_fitting calm unlatched fits
  have ended : Step.after { before, event := .completion event } = after := by
    change (Answer.ofResult .completed (Controller.complete event before)).2 = _
    rw [completed]
    rfl
  rw [ended]
  exact completes

theorem retires_all_calm {after : Controller Board} {events : List Byte} (calm : before.bus.scripts = [])
    (retired : Controller.RetiresAll before events after) : after.bus.scripts = [] := by
  rw [retired.bus]
  exact (Board.shown_finished Board.scripts (fun _ => rfl) _ _).trans calm

-- What one completion needs, every later one finds unchanged.
theorem fits_after_all {after : Controller Board} {events : List Byte} (retired : Controller.RetiresAll before events after)
    (event : Byte) : after.state.reset = none ∧ after.bus.Fits event ↔ before.state.reset = none ∧ before.bus.Fits event := by
  have reset : after.state.reset = before.state.reset := (congrArg State.reset retired.state :)
  have flags : after.bus.windowFlags event = before.bus.windowFlags event := by
    rw [retired.bus]
    exact Board.shown_finished (Board.windowFlags · event) (Board.window_flags_finished · event) _ _
  have expected : after.bus.expected = before.bus.expected := by
    rw [retired.bus]
    exact Board.shown_finished Board.expected Board.expected_finished _ _
  rw [reset, Board.Fits, flags, expected]
  rfl

theorem run_snoc_completes_iff (before : Controller Board) (events : List Byte) (event : Byte) :
    (∀ step ∈ (Run.of before ((events ++ [event]).map Event.completion)).history, step.completes) ↔
      (∀ step ∈ (Run.of before (events.map Event.completion)).history, step.completes) ∧
        Step.completes
          { before := (Run.of before (events.map Event.completion)).controller, event := .completion event } := by
  rw [List.map_append, List.map_singleton, Run.of_snoc, Run.extend]
  dsimp only
  rw [List.forall_mem_append, List.forall_mem_singleton]

theorem run_retires_all (calm : before.bus.scripts = []) (events : List Byte)
    (done : ∀ step ∈ (Run.of before (events.map Event.completion)).history, step.completes) :
    Controller.RetiresAll before events (Run.of before (events.map Event.completion)).controller := by
  induction events using List.reverseRecOn with
  | nil => exact ⟨rfl, rfl, rfl, rfl, rfl⟩
  | append_singleton events event ih =>
      obtain ⟨sooner, last⟩ := (run_snoc_completes_iff before events event).mp done
      have earlier := ih sooner
      rw [List.map_append, List.map_singleton, Run.of_snoc]
      exact earlier.snoc (step_completes (retires_all_calm calm earlier) last)

theorem run_completes_iff (calm : before.bus.scripts = []) (events : List Byte) :
    (∀ step ∈ (Run.of before (events.map Event.completion)).history, step.completes) ↔
      ∀ event ∈ events, before.state.reset = none ∧ before.bus.Fits event := by
  induction events using List.reverseRecOn with
  | nil => exact ⟨fun _ => List.forall_mem_nil _, fun _ => List.forall_mem_nil _⟩
  | append_singleton events event ih =>
      rw [run_snoc_completes_iff, List.forall_mem_append, List.forall_mem_singleton, ← ih]
      apply and_congr_right
      intro sooner
      have earlier := run_retires_all calm events sooner
      rw [step_completes_iff (retires_all_calm calm earlier), fits_after_all earlier]

theorem retires_of_completes {event : Byte} (done : Step.completes { before, event := .completion event }) :
    Step.retires { before, event := .completion event } = !(before.state.ring.slot (SlotIndex.wrap event)).isFree := by
  obtain ⟨slot, answered⟩ := done
  unfold Step.retires Step.happening
  rw [answered]
  rfl

-- One more event counts when its slot was in use at the start and none before it has named that slot.
theorem card_retired_snoc (ring : CommandRing) (events : List Byte) (event : Byte) :
    (((events ++ [event]).map SlotIndex.wrap).toFinset.filter fun slot => (ring.slot slot).isFree = false).card =
      ((events.map SlotIndex.wrap).toFinset.filter fun slot => (ring.slot slot).isFree = false).card +
        if SlotIndex.wrap event ∉ events.map SlotIndex.wrap ∧ (ring.slot (SlotIndex.wrap event)).isFree = false then 1 else 0 := by
  have slots : ((events ++ [event]).map SlotIndex.wrap).toFinset =
      insert (SlotIndex.wrap event) (events.map SlotIndex.wrap).toFinset := by
    rw [List.map_append, List.toFinset_append, Finset.union_comm]
    rfl
  have inside := List.mem_toFinset (l := events.map SlotIndex.wrap) (a := SlotIndex.wrap event)
  rw [slots, Finset.filter_insert]
  by_cases valid : (ring.slot (SlotIndex.wrap event)).isFree = false
  · rw [if_pos valid]
    by_cases listed : SlotIndex.wrap event ∈ events.map SlotIndex.wrap
    · rw [if_neg fun fresh => fresh.1 listed, Finset.insert_eq_of_mem (Finset.mem_filter.mpr ⟨inside.mpr listed, valid⟩)]
      rfl
    · rw [if_pos ⟨listed, valid⟩]
      exact Finset.card_insert_of_notMem fun member => listed (inside.mp (Finset.mem_filter.mp member).1)
  · rw [if_neg valid, if_neg fun fresh => valid fresh.2]
    rfl

-- The retirements are the slots that held a command at the start, each counted once.
theorem run_retirements (calm : before.bus.scripts = []) (events : List Byte)
    (done : ∀ step ∈ (Run.of before (events.map Event.completion)).history, step.completes) :
    (Run.of before (events.map Event.completion)).history.countP Step.retires =
      ((events.map SlotIndex.wrap).toFinset.filter fun slot => (before.state.ring.slot slot).isFree = false).card := by
  induction events using List.reverseRecOn with
  | nil => rfl
  | append_singleton events event ih =>
      obtain ⟨sooner, last⟩ := (run_snoc_completes_iff before events event).mp done
      have earlier := run_retires_all calm events sooner
      have left : (Run.of before (events.map Event.completion)).controller.state.ring.slot (SlotIndex.wrap event) =
          if SlotIndex.wrap event ∈ events.map SlotIndex.wrap then .empty else before.state.ring.slot (SlotIndex.wrap event) := by
        have ring := congrArg Ledger.ring earlier.ledger
        exact (congrArg (CommandRing.slot · (SlotIndex.wrap event)) ring).trans (Ledger.slot_retire_all _ _ _)
      rw [card_retired_snoc, List.map_append, List.map_singleton, Run.of_snoc, Run.extend]
      dsimp only
      rw [List.countP_append, List.countP_singleton, ih sooner, retires_of_completes last, left]
      by_cases listed : SlotIndex.wrap event ∈ events.map SlotIndex.wrap
      · simp [listed]
      · by_cases valid : (before.state.ring.slot (SlotIndex.wrap event)).isFree = false
        · simp [listed, valid]
        · simp [listed, valid]

-- A retirement is told by the completion log alone.
theorem log_moves_iff {β : Type} [Bus β] (step : Step β) :
    step.after.state.completeLog ≠ step.before.state.completeLog ↔ step.retires = true := by
  have table : ∀ raw : Fin 256, (UInt8.ofFin raw + 1) &&& 0x1F ≠ UInt8.ofFin raw := by decide +kernel
  rw [(step_logged step).completeLog]
  by_cases retires : step.retires = true
  · rw [if_pos retires]
    exact ⟨fun _ => retires, fun _ => table step.before.state.completeLog.toFin⟩
  · rw [if_neg retires]
    exact ⟨fun moved => absurd rfl moved, fun retired => absurd retired retires⟩

end Runs

theorem completions_commute {before : Controller Board} {events reordered : List Byte} (calm : before.bus.scripts = [])
    (same : events.Perm reordered)
    (done : ∀ step ∈ (Run.of before (events.map Event.completion)).history, step.completes) :
    let run := Run.of before (events.map Event.completion)
    let other := Run.of before (reordered.map Event.completion)
    (∀ step ∈ other.history, step.completes) ∧
    other.controller.bus = run.controller.bus ∧
    other.controller.settings = run.controller.settings ∧
    other.controller.state =
      { run.controller.state with pendingEvent := reordered.getLast?.getD before.state.pendingEvent } ∧
    other.controller.statistics = run.controller.statistics ∧
    run.controller.state.pendingEvent = events.getLast?.getD before.state.pendingEvent ∧
    (∀ slot ∈ events.map SlotIndex.wrap, run.controller.state.ring.slot slot = .empty) ∧
    run.history.countP (fun step => decide (step.after.state.completeLog ≠ step.before.state.completeLog)) =
      ((events.map SlotIndex.wrap).toFinset.filter fun slot => (before.state.ring.slot slot).isFree = false).card := by
  intro run other
  have fits := (run_completes_iff calm events).mp done
  have otherDone : ∀ step ∈ other.history, step.completes :=
    (run_completes_iff calm reordered).mpr fun event member => fits event (same.mem_iff.mpr member)
  have retired : Controller.RetiresAll before events run.controller := run_retires_all calm events done
  have otherRetired : Controller.RetiresAll before reordered other.controller := run_retires_all calm reordered otherDone
  have ledgers : other.controller.ledger = run.controller.ledger := by
    rw [otherRetired.ledger, retired.ledger, Ledger.retire_all_perm same]
  have empty : reordered = [] ↔ events = [] := by
    rw [← List.length_eq_zero_iff, ← List.length_eq_zero_iff, same.length_eq]
  refine ⟨otherDone, ?_, otherRetired.settings.trans retired.settings.symm, ?_, ?_, ?_, ?_, ?_⟩
  · rw [otherRetired.bus, retired.bus, same.length_eq]
  · have ring : other.controller.state.ring = run.controller.state.ring := congrArg Ledger.ring ledgers
    have completeLog : other.controller.state.completeLog = run.controller.state.completeLog := congrArg Ledger.completeLog ledgers
    rw [otherRetired.state, retired.state]
    simp only [ring, completeLog, empty]
  · have completions : other.controller.statistics.completions = run.controller.statistics.completions :=
      congrArg Ledger.completions ledgers
    rw [otherRetired.statistics, retired.statistics, completions]
  · exact (congrArg State.pendingEvent retired.state :)
  · intro slot listed
    have left := congrArg (fun ledger : Ledger => ledger.ring.slot slot) retired.ledger
    rw [Ledger.slot_retire_all, if_pos listed] at left
    exact left
  · rw [← run_retirements calm events done]
    apply List.countP_congr
    intro step _
    rw [decide_eq_true_iff]
    exact log_moves_iff step

-- Commands in slots 0 and 3. Both windows show the flags that are expected; only one is ready.
def awaitingTwo : Controller Board where
  bus := ((Board.powered.poke Reg.Dma.transferStatus 0x12).poke 0xB104 0x82).poke 0xB184 0x02
  settings := .reference
  state :=
    let slot : Slot := { control := .forAction .extendedIn 0, byteCount := 8 }
    { ring := { (CommandRing.empty.put 0 slot).put 3 slot with outstanding := 2 }, submitLog := 2 }

theorem two_commands_complete_in_any_order :
    let run := Run.of awaitingTwo ([3, 0, 35, 7].map Event.completion)
    let other := Run.of awaitingTwo ([35, 7, 3, 0].map Event.completion)
    awaitingTwo.bus.scripts = [] ∧ [3, 0, 35, 7].Perm [35, 7, 3, (0 : Byte)] ∧ (∀ step ∈ run.history, step.completes) ∧
    (∀ step ∈ other.history, step.completes) ∧
    other.controller.bus = run.controller.bus ∧
    other.controller.state = { run.controller.state with pendingEvent := 0 } ∧
    run.controller.state.pendingEvent = 7 ∧
    run.history.countP (fun step => decide (step.after.state.completeLog ≠ step.before.state.completeLog)) = 2 := by
  intro run other
  have calm : awaitingTwo.bus.scripts = [] := rfl
  have same : [3, 0, 35, 7].Perm [35, 7, 3, (0 : Byte)] := by decide
  have fits : ∀ event ∈ [3, 0, 35, (7 : Byte)], awaitingTwo.state.reset = none ∧ awaitingTwo.bus.Fits event := by
    decide +kernel
  have done : ∀ step ∈ run.history, step.completes := (run_completes_iff calm _).mpr fits
  obtain ⟨otherDone, bus, -, state, -, last, -, count⟩ := completions_commute calm same done
  exact ⟨calm, same, done, otherDone, bus, state, last, count.trans (by decide +kernel)⟩

end StorageBridge
