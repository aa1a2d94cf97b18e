import StorageBridge.Proofs.Latch
import StorageBridge.Proofs.Waits

/-!
What a completion event does on a board. The transfer status tells the counter and the flags, the window of
the counter is awaited once, and the flags that it shows then decide. That the wait ran out is told by the
log alone.
-/

set_option autoImplicit false

namespace StorageBridge

open BridgeM

variable {β : Type}

def Effect.wait? : Effect → Option (Address × Byte × WaitBudget)
  | operation (.wait address mask budget) => some (address, mask, budget)
  | _ => none

namespace Recorder

variable [Bus β]

-- what was awaited, oldest first
def waits (recorder : Recorder β) : List (Address × Byte × WaitBudget) :=
  recorder.effects.reverse.filterMap Effect.wait?

theorem waits_read (recorder : Recorder β) (address : Address) : (Bus.read recorder address).2.waits = recorder.waits := by
  simp [waits, Bus.read, record, Effect.wait?]

theorem waits_write (recorder : Recorder β) (address : Address) (value : Byte) :
    (Bus.write recorder address value).waits = recorder.waits := by
  simp [waits, Bus.write, record, Effect.wait?]

theorem waits_wait (recorder : Recorder β) (address : Address) (mask : Byte) (budget : WaitBudget) :
    (Bus.wait recorder address mask budget).2.waits = recorder.waits ++ [(address, mask, budget)] := by
  simp [waits, Bus.wait, record, Effect.wait?]

end Recorder

namespace Board

variable {board : Board} {address : Address}

-- the counter and the flags that the transfer status tells
def counter (board : Board) : Byte :=
  (board.peek Reg.Dma.transferStatus >>> 4) &&& 0x07

def expected (board : Board) : Byte :=
  board.peek Reg.Dma.transferStatus &&& Reg.Completion.stateMask

-- The board once the latch of the engine is pulsed, and once a completion has waited for its window.
def pulsed (board : Board) : Board :=
  Bus.modify (Bus.modify board Reg.Dma.status 0 Reg.Dma.statusLatch) Reg.Dma.status Reg.Dma.statusLatch 0

def awaited (board : Board) (event : Byte) : Board :=
  board.pulsed.startWait (Completion.window event board.counter)

-- the flags in the window of an event, once the hardware has done what it does during the wait
def flagsAwaited (board : Board) (event : Byte) : Byte :=
  (board.startWait (Completion.window event board.counter)).peek (Completion.window event board.counter) &&&
    Reg.Completion.stateMask

theorem windows_high (event counter : Byte) (low : address.toNat < 0xB100) : Completion.window event counter ≠ address := by
  rintro rfl
  rw [Completion.window_to_nat] at low
  split at low <;> omega

theorem status_off_windows (event counter : Byte) : Reg.Dma.status ≠ Completion.window event counter :=
  (windows_high event counter (by decide)).symm

theorem pulsed_outlook (apart : Reg.Dma.status ≠ address) (board : Board) :
    board.pulsed.outlook address = board.outlook address :=
  (outlook_write apart _ _).trans (outlook_write apart _ _)

theorem peek_awaited_window (board : Board) (event : Byte) :
    (board.awaited event).peek (Completion.window event board.counter) =
      (board.startWait (Completion.window event board.counter)).peek (Completion.window event board.counter) := by
  rw [awaited, peek_start_wait_outlook, peek_start_wait_outlook, pulsed_outlook (status_off_windows _ _)]

theorem peek_awaited (low : address.toNat < 0xB100) (board : Board) (event : Byte) :
    (board.awaited event).peek address = board.pulsed.peek address :=
  peek_wait_other (windows_high event board.counter low) 0 .forever

theorem peek_pulsed_status (unmarked : Reg.Dma.status ∉ board.oneToClear) :
    board.pulsed.peek Reg.Dma.status = board.peek Reg.Dma.status &&& ~~~0x30 := by
  have table : ∀ raw : Fin 256, Byte.revise (Byte.revise (UInt8.ofFin raw) 0 0x30) 0x30 0 = UInt8.ofFin raw &&& ~~~0x30 := by
    decide +kernel
  have raised : (Bus.modify board Reg.Dma.status 0 Reg.Dma.statusLatch).peek Reg.Dma.status =
      (board.peek Reg.Dma.status).revise 0 0x30 := peek_modify unmarked _ _
  have dropped : board.pulsed.peek Reg.Dma.status =
      ((Bus.modify board Reg.Dma.status 0 Reg.Dma.statusLatch).peek Reg.Dma.status).revise 0x30 0 :=
    peek_modify (show Reg.Dma.status ∉ (Bus.modify board Reg.Dma.status 0 Reg.Dma.statusLatch).oneToClear from unmarked) _ _
  rw [dropped, raised]
  exact table (board.peek Reg.Dma.status).toFin

end Board

namespace Completion

variable {before : Controller Board}

-- What is logged for a wait that ran out, for a slot that is retired, and for a counter that does not
-- agree with the commands still outstanding.
def lateness (settings : Settings) (board : Board) (event counter : Byte) : Array LogEvent :=
  let polls := settings.completionBudget counter
  if polls ≠ 0 ∧ board.answers (window event counter) Reg.Completion.ready = true then #[]
  else #[.completionLate (.waitExpired (window event counter) Reg.Completion.ready) polls]

def underflow (slot : SlotIndex) (ring : CommandRing) : Array LogEvent :=
  if ring.outstanding = 0 then #[.outstandingUnderflow slot] else #[]

def stray (slot : SlotIndex) (wasInFlight : Bool) : Array LogEvent :=
  if wasInFlight then #[] else #[.slotNotInFlight slot]

def lag (counter : Byte) (ring : CommandRing) : Array LogEvent :=
  if counter.toNat = ring.outstanding % 8 then #[] else #[.counterBehind counter ring.outstanding]

def remarks (slot : SlotIndex) (counter : Byte) (ring : CommandRing) : Array LogEvent :=
  underflow slot ring ++ (stray slot (!(ring.slot slot).isFree) ++ lag counter (ring.release slot))

theorem release_slot_ends (slot : SlotIndex) (before : Controller β) :
    releaseSlot slot before = .ok (!(before.state.ring.slot slot).isFree)
      { before with
        state := { before.state with ring := before.state.ring.release slot }
        log := before.log ++ underflow slot before.state.ring } := by
  simp only [releaseSlot, underflow, bind_get_state]
  by_cases none : before.state.ring.outstanding = 0
  · simp only [if_pos none]
    rw [← Array.push_eq_append]
    rfl
  · simp only [if_neg none]
    rw [Array.append_empty]
    rfl

theorem log_completion_ends (slot : SlotIndex) (wasInFlight : Bool) (before : Controller β) :
    logCompletion slot wasInFlight before = .ok ()
      { before with
        state := { before.state with
          completeLog := if wasInFlight then (before.state.completeLog + 1) &&& 0x1F else before.state.completeLog }
        statistics := { before.statistics with
          completions := if wasInFlight then countUp before.statistics.completions else before.statistics.completions }
        log := before.log ++ stray slot wasInFlight } := by
  cases wasInFlight with
  | true =>
      have quiet : before.log ++ stray slot true = before.log := Array.append_empty
      rw [quiet]
      rfl
  | false =>
      have noted : before.log ++ stray slot false = before.log.push (.slotNotInFlight slot) := Array.push_eq_append.symm
      rw [noted]
      rfl

-- Reading the transfer status once more tells nothing new.
theorem recheck_counter_ends (counter : before.state.secondaryCounter = before.bus.counter)
    (flags : before.state.expectedFlags = before.bus.expected) :
    recheckCounter before =
      .ok () { before with log := before.log ++ lag before.state.secondaryCounter before.state.ring } := by
  have same : { before.state with
      secondaryCounter := before.bus.counter, expectedFlags := before.bus.expected } = before.state := by
    rw [← counter, ← flags]
  unfold recheckCounter lag
  rw [bind_get_state]
  by_cases agrees : before.state.secondaryCounter.toNat = before.state.ring.outstanding % 8
  · rw [if_neg (not_not.mpr agrees), if_pos agrees, Array.append_empty]
    rfl
  · rw [if_pos agrees, if_neg agrees, ← Array.push_eq_append]
    change EStateM.Result.ok () { before with
      state := { before.state with secondaryCounter := before.bus.counter, expectedFlags := before.bus.expected }
      log := before.log.push (.counterBehind before.state.secondaryCounter before.state.ring.outstanding) } = _
    rw [same]

theorem window_flags_ends (event counter : Byte) (before : Controller Board) :
    windowFlags event counter before =
      .ok ((before.bus.startWait (window event counter)).peek (window event counter) &&& Reg.Completion.stateMask)
        { before with
          bus := before.bus.startWait (window event counter)
          log := before.log ++ lateness before.settings before.bus event counter } := by
  let polls := before.settings.completionBudget counter
  let answered := polls != 0 && before.bus.answers (window event counter) Reg.Completion.ready
  have bounded : waitBounded (window event counter) Reg.Completion.ready polls before =
      .ok (if answered then .ok () else .error (.waitExpired (window event counter) Reg.Completion.ready))
        { before with bus := before.bus.startWait (window event counter) } := rfl
  have settings : (getSettings : BridgeM Board Settings) before = .ok before.settings before := rfl
  have told : answered = true ↔
      polls ≠ 0 ∧ before.bus.answers (window event counter) Reg.Completion.ready = true := by simp [answered]
  unfold windowFlags lateness
  rw [bind_of_ok settings, bind_of_ok bounded]
  cases seen : answered with
  | true =>
      rw [if_pos rfl, if_pos (told.mp seen), Array.append_empty]
      rfl
  | false =>
      rw [if_neg Bool.false_ne_true, if_neg fun both => Bool.eq_false_iff.mp seen (told.mpr both), ← Array.push_eq_append]
      rfl

theorem inspect_ends (event : Byte) (before : Controller Board) :
    inspect event before = .ok (before.bus.flagsAwaited event, before.bus.counter)
      { before with
        bus := before.bus.awaited event
        state := { before.state with
          pendingEvent := event, secondaryCounter := before.bus.counter, expectedFlags := before.bus.expected }
        log := before.log ++ lateness before.settings before.bus event before.bus.counter } := by
  let pulsed : Controller Board :=
    { before with
      bus := before.bus.pulsed
      state := { before.state with
        pendingEvent := event, secondaryCounter := before.bus.counter, expectedFlags := before.bus.expected } }
  have shown := window_flags_ends event before.bus.counter pulsed
  have flags := before.bus.peek_awaited_window event
  have late : lateness before.settings before.bus.pulsed event before.bus.counter =
      lateness before.settings before.bus event before.bus.counter := by
    unfold lateness
    rw [Board.answers_of_outlook (Board.pulsed_outlook (Board.status_off_windows _ _) before.bus)]
  change ((windowFlags event before.bus.counter >>= fun flags => pure (flags, before.bus.counter)) : BridgeM Board _) pulsed = _
  rw [bind_of_ok shown, Board.flagsAwaited, ← flags, ← late]
  rfl

theorem retire_ends (event : Byte) (counter : before.state.secondaryCounter = before.bus.counter)
    (flags : before.state.expectedFlags = before.bus.expected) :
    retire event before = .ok (.completed (SlotIndex.wrap event))
      { before with
        bus := Bus.write before.bus Reg.Dma.status 0
        state := { before.state with
          ring := (before.ledger.retire (SlotIndex.wrap event)).ring
          completeLog := (before.ledger.retire (SlotIndex.wrap event)).completeLog }
        statistics := { before.statistics with
          completions := (before.ledger.retire (SlotIndex.wrap event)).completions }
        log := before.log ++ remarks (SlotIndex.wrap event) before.bus.counter before.state.ring } := by
  let slot := SlotIndex.wrap event
  let quieted : Controller Board := { before with bus := Bus.write before.bus Reg.Dma.status 0 }
  have retired := before.ledger.retire_retired slot
  have releasing := release_slot_ends slot quieted
  let freed : Controller Board :=
    { quieted with
      state := { before.state with ring := before.state.ring.release slot }
      log := before.log ++ underflow slot before.state.ring }
  have logging := log_completion_ends slot (!(before.state.ring.slot slot).isFree) freed
  have status : Reg.Dma.status ≠ Reg.Dma.transferStatus := by decide
  have shown : quieted.bus.peek Reg.Dma.transferStatus = before.bus.peek Reg.Dma.transferStatus :=
    Board.peek_write_other status _
  have told : before.state.secondaryCounter = quieted.bus.counter := by rw [counter, Board.counter, Board.counter, shown]
  have expects : before.state.expectedFlags = quieted.bus.expected := by rw [flags, Board.expected, Board.expected, shown]
  let left := ending (logCompletion slot (!(before.state.ring.slot slot).isFree) freed)
  have counts : left.state.secondaryCounter = left.bus.counter := by
    simp only [left, logging]
    exact told
  have agrees : left.state.expectedFlags = left.bus.expected := by
    simp only [left, logging]
    exact expects
  have rechecked := recheck_counter_ends counts agrees
  simp only [left, logging] at rechecked
  have acknowledged : (writeByte Reg.Dma.status 0 : BridgeM Board Unit) before = .ok () quieted := rfl
  rw [retired.completeLog, retired.completions, Ledger.retire_ring, ← counter, remarks, ← Array.append_assoc,
    ← Array.append_assoc]
  unfold retire
  rw [bind_of_ok acknowledged, bind_of_ok releasing, bind_of_ok logging]
  exact bind_of_ok rechecked _

theorem conclude_decides (event flags counter : Byte) (before : Controller Board) :
    conclude event flags counter before =
      if flags = before.state.expectedFlags then retire event before
      else flashControl (resetTarget event flags counter) before := by
  unfold conclude
  rw [bind_get_state]
  split <;> rfl

-- how a completion leaves the controller: with the slot retired, and with the transition fired
def retired (event : Byte) (before : Controller Board) : Controller Board :=
  let slot := SlotIndex.wrap event
  { before with
    bus := Bus.write (before.bus.awaited event) Reg.Dma.status 0
    state := { before.state with
      ring := (before.ledger.retire slot).ring, completeLog := (before.ledger.retire slot).completeLog, pendingEvent := event
      secondaryCounter := before.bus.counter, expectedFlags := before.bus.expected }
    statistics := { before.statistics with completions := (before.ledger.retire slot).completions }
    log := before.log ++ lateness before.settings before.bus event before.bus.counter ++
      remarks slot before.bus.counter before.state.ring }

def aimed (event : Byte) (board : Board) : Byte :=
  resetTarget event (board.flagsAwaited event) board.counter

def fired (event : Byte) (before : Controller Board) : Controller Board :=
  { before with
    bus := Bus.write (Bus.write (before.bus.awaited event) Reg.Flash.target (aimed event before.bus))
      Reg.Flash.control Reg.Flash.go
    state := { before.state with
      pendingEvent := event, secondaryCounter := before.bus.counter, expectedFlags := before.bus.expected
      flashTarget := aimed event before.bus, reset := some { target := aimed event before.bus } }
    statistics := { before.statistics with resets := countUp before.statistics.resets }
    log := before.log ++ lateness before.settings before.bus event before.bus.counter ++
      #[.flashTransition (aimed event before.bus)] }

theorem transfer_status_awaited (board : Board) (event : Byte) :
    (board.awaited event).peek Reg.Dma.transferStatus = board.peek Reg.Dma.transferStatus := by
  have engine : Reg.Dma.status ≠ Reg.Dma.transferStatus := by decide
  exact (Board.peek_awaited (by decide) board event).trans (congrArg Prod.fst (Board.pulsed_outlook engine board))

theorem handle_fitting {event : Byte} (before : Controller Board)
    (fits : before.bus.flagsAwaited event = before.bus.expected) :
    handle event before = .ok (.completed (SlotIndex.wrap event)) (retired event before) := by
  let shown : Controller Board :=
    { before with
      bus := before.bus.awaited event
      state := { before.state with
        pendingEvent := event, secondaryCounter := before.bus.counter, expectedFlags := before.bus.expected }
      log := before.log ++ lateness before.settings before.bus event before.bus.counter }
  have counter : shown.bus.counter = before.bus.counter := by
    rw [Board.counter, transfer_status_awaited]
    rfl
  have expected : shown.bus.expected = before.bus.expected := by
    rw [Board.expected, transfer_status_awaited]
    rfl
  have told : shown.state.secondaryCounter = shown.bus.counter := counter.symm
  have retires := retire_ends event told expected.symm
  rw [handle_concludes, bind_of_ok (inspect_ends event before)]
  refine (conclude_decides _ _ _ _).trans ((if_pos fits).trans (retires.trans ?_))
  rw [counter]
  rfl

theorem handle_unfitting {event : Byte} (before : Controller Board)
    (differs : before.bus.flagsAwaited event ≠ before.bus.expected) :
    handle event before = .ok (.reset { target := aimed event before.bus }) (fired event before) := by
  rw [handle_concludes, bind_of_ok (inspect_ends event before)]
  refine (conclude_decides _ _ _ _).trans ((if_neg differs).trans ?_)
  rw [fired, ← Array.push_eq_append]
  rfl

section Waits

variable [Bus β]

theorem window_flags_waits (event counter : Byte) (before : Controller (Recorder β)) :
    (ending (windowFlags event counter before)).bus.waits =
      before.bus.waits ++
        [(window event counter, Reg.Completion.ready, .polls (before.settings.completionBudget counter))] := by
  let polls := before.settings.completionBudget counter
  let waited := Bus.wait before.bus (window event counter) Reg.Completion.ready (.polls polls)
  have bounded : waitBounded (window event counter) Reg.Completion.ready polls before =
      .ok (if waited.1 then .ok () else .error (.waitExpired (window event counter) Reg.Completion.ready))
        { before with bus := waited.2 } := rfl
  have settings : (getSettings : BridgeM (Recorder β) Settings) before = .ok before.settings before := rfl
  rw [← Recorder.waits_wait, windowFlags, bind_of_ok settings, bind_of_ok bounded]
  cases waited.1 with
  | true => exact Recorder.waits_read _ _
  | false => exact Recorder.waits_read _ _

theorem conclude_keeps_waits (event flags counter : Byte) :
    Keeps (fun controller => controller.bus.waits) never (conclude event flags counter : BridgeM (Recorder β) Completion) := by
  refine keeps_bind ⟨fun _ => rfl⟩ fun state => ?_
  split
  · refine keeps_bind ⟨fun before => Recorder.waits_write before.bus _ _⟩ fun _ => ?_
    refine keeps_bind ?_ fun wasInFlight => keeps_bind ?_ fun _ => keeps_bind ?_ fun _ => keeps_pure _ _ _
    · exact ⟨fun before => by rw [release_slot_ends]⟩
    · exact ⟨fun before => by rw [log_completion_ends]⟩
    · refine keeps_bind ⟨fun _ => rfl⟩ fun state => ?_
      split
      · exact ⟨fun before => Recorder.waits_read before.bus _⟩
      · exact keeps_pure _ _ _
  · refine ⟨fun before => ?_⟩
    exact (Recorder.waits_write _ _ _).trans (Recorder.waits_write before.bus _ _)

end Waits

-- A completion waits once, for the window of its counter.
theorem handle_waits (event : Byte) (before : Controller Board) :
    (effects (handle event) before).filterMap Effect.wait? =
      [(window event before.bus.counter, Reg.Completion.ready,
        .polls (before.settings.completionBudget before.bus.counter))] := by
  let pulse : BridgeM (Recorder Board) Unit := do
    modifyState fun state => { state with pendingEvent := event }
    let _ ← updateCounter
    pulseLatch
  obtain ⟨flags, shown, looked, -⟩ :=
    keeps_answers (window_flags_keeps_state event before.bus.counter) (ending (pulse before.recorded))
  have waited := window_flags_waits event before.bus.counter (ending (pulse before.recorded))
  rw [looked] at waited
  have handled : handle event before.recorded = conclude event flags before.bus.counter shown := by
    change (windowFlags event before.bus.counter >>= fun flags => conclude event flags before.bus.counter)
      (ending (pulse before.recorded)) = _
    exact bind_of_ok looked _
  change (ending (handle event before.recorded)).bus.waits = _
  rw [handled]
  exact (keeps_ending (conclude_keeps_waits event flags before.bus.counter) shown).trans waited

theorem budget_to_nat (settings : Settings) (counter : Byte) :
    (settings.completionBudget counter).toNat =
      min (2 ^ 32 - 1) (settings.completionBase.toNat + settings.completionStep.toNat * counter.toNat) :=
  UInt32.toNat_ofNat_of_lt' (Nat.lt_of_le_of_lt (Nat.min_le_left _ _) (by decide))

-- The parts of a target do not overlap.
theorem reset_target_to_nat {flags counter : Byte} (event : Byte) (flagsSmall : flags.toNat < 8)
    (counterSmall : counter.toNat < 8) :
    (resetTarget event flags counter).toNat = 16 * flags.toNat + counter.toNat + if event = 0 then 0 else 8 := by
  have table (idle : Bool) : ∀ high low : Fin 8,
      (((UInt8.ofNat high.val <<< 4) ||| UInt8.ofNat low.val) + if idle then 0 else 8).toNat =
        16 * high.val + low.val + if idle then 0 else 8 := by
    cases idle <;> decide +kernel
  have numbers := table (decide (event = 0)) ⟨flags.toNat, flagsSmall⟩ ⟨counter.toNat, counterSmall⟩
  simpa [resetTarget, pendingBias] using numbers

-- Each part can be read off the target.
theorem reset_target_parts {flags counter : Byte} (event : Byte) (flagsSmall : flags.toNat < 8)
    (counterSmall : counter.toNat < 8) :
    flags.toNat = (resetTarget event flags counter).toNat / 16 ∧
      counter.toNat = (resetTarget event flags counter).toNat % 8 ∧
      (event ≠ 0 ↔ (resetTarget event flags counter).toNat / 8 % 2 = 1) := by
  rw [reset_target_to_nat event flagsSmall counterSmall]
  by_cases idle : event = 0
  · rw [if_pos idle]
    exact ⟨by omega, by omega, iff_of_false (not_not.mpr idle) (by omega)⟩
  · rw [if_neg idle]
    exact ⟨by omega, by omega, iff_of_true idle (by omega)⟩

theorem masked_small (raw : Byte) : (raw &&& 0x07).toNat < 8 := by
  have table : ∀ raw : Fin 256, (UInt8.ofFin raw &&& 0x07).toNat < 8 := by decide +kernel
  exact table raw.toFin

-- The event retires its slot.
structure Retires (event : Byte) (before after : Controller Board) : Prop where
  status : after.bus.peek Reg.Dma.status = 0
  slots : ∀ slot, after.state.ring.slot slot = if SlotIndex.wrap event = slot then .empty else before.state.ring.slot slot
  ledger : after.ledger = before.ledger.retire (SlotIndex.wrap event)
  latch : after.latch = before.latch
  state : after.state = { before.state with
    ring := after.state.ring, completeLog := after.state.completeLog, pendingEvent := event
    secondaryCounter := before.bus.counter, expectedFlags := before.bus.expected }
  log : after.log = before.log ++ lateness before.settings before.bus event before.bus.counter ++
    remarks (SlotIndex.wrap event) before.bus.counter before.state.ring

-- The event fires the transition to a target, which tells the flags, the counter and the kind of the event.
structure Fires (event : Byte) (before : Controller Board) (request : ResetRequest) (after : Controller Board) : Prop where
  target : request.target.toNat =
    16 * (before.bus.flagsAwaited event).toNat + before.bus.counter.toNat + if event = 0 then 0 else 8
  flags : (before.bus.flagsAwaited event).toNat = request.target.toNat / 16
  counter : before.bus.counter.toNat = request.target.toNat % 8
  pending : event ≠ 0 ↔ request.target.toNat / 8 % 2 = 1
  status : after.bus.peek Reg.Dma.status = before.bus.peek Reg.Dma.status &&& ~~~0x30
  flash : after.bus.peek Reg.Flash.target = request.target ∧ after.bus.peek Reg.Flash.control = 0x80
  ledger : after.ledger = before.ledger
  latch : after.latch =
    { reset := some request, target := request.target, resets := countUp before.statistics.resets }
  state : after.state = { before.state with
    pendingEvent := event, secondaryCounter := before.bus.counter, expectedFlags := before.bus.expected
    flashTarget := request.target, reset := some request }
  log : after.log = before.log ++ lateness before.settings before.bus event before.bus.counter ++
    #[.flashTransition request.target]

-- What a completion event does, whether its wait is answered or not.
structure Settles (event : Byte) (before : Controller Board) (completion : Completion) (after : Controller Board) : Prop where
  waits : (effects (handle event) before).filterMap Effect.wait? =
    [(window event before.bus.counter, 0x80, .polls (before.settings.completionBudget before.bus.counter))]
  counted : after.bus.waitCount = before.bus.waitCount + 1
  window : (window event before.bus.counter).toNat = (if event = 0 then 0xB100 else 0xB180) + 4 * before.bus.counter.toNat
  budget : (before.settings.completionBudget before.bus.counter).toNat =
    min (2 ^ 32 - 1) (before.settings.completionBase.toNat + before.settings.completionStep.toNat * before.bus.counter.toNat)
  decided : (∃ request, completion = .reset request) ↔ before.bus.flagsAwaited event ≠ before.bus.expected
  completed : before.bus.flagsAwaited event = before.bus.expected →
    completion = .completed (SlotIndex.wrap event) ∧ Retires event before after
  turned : before.bus.flagsAwaited event ≠ before.bus.expected →
    ∃ request, completion = .reset request ∧ Fires event before request after
  settings : after.settings = before.settings
  pendingEvent : after.state.pendingEvent = event
  secondaryCounter : after.state.secondaryCounter = before.bus.counter
  expectedFlags : after.state.expectedFlags = before.bus.expected
  -- With other budgets the same is done, and what is logged is all that may differ.
  untimed : ∀ settings, ∃ log, handle event { before with settings } = .ok completion { after with settings, log }

theorem retired_ledger (event : Byte) (before : Controller Board) :
    (retired event before).ledger = before.ledger.retire (SlotIndex.wrap event) :=
  congrArg (fun submitLog => ({ before.ledger.retire (SlotIndex.wrap event) with submitLog } : Ledger))
    (before.ledger.retire_retired (SlotIndex.wrap event)).submitLog.symm

theorem retired_retires (event : Byte) (before : Controller Board) (plain : Reg.Dma.status ∉ before.bus.oneToClear) :
    Retires event before (retired event before) where
  status := Board.peek_write (show Reg.Dma.status ∉ (before.bus.awaited event).oneToClear from plain) 0
  slots := CommandRing.slot_of_put (before.ledger.retire_retired (SlotIndex.wrap event)).slots
  ledger := retired_ledger event before
  latch := rfl
  state := rfl
  log := rfl

theorem fired_fires (event : Byte) (before : Controller Board)
    (plain : ∀ address ∈ [Reg.Dma.status, Reg.Flash.target, Reg.Flash.control], address ∉ before.bus.oneToClear) :
    Fires event before { target := aimed event before.bus } (fired event before) := by
  have flagsSmall : (before.bus.flagsAwaited event).toNat < 8 := masked_small _
  have counterSmall : before.bus.counter.toNat < 8 := masked_small _
  obtain ⟨flags, counter, pending⟩ := reset_target_parts event flagsSmall counterSmall
  let aiming := Bus.write (before.bus.awaited event) Reg.Flash.target (aimed event before.bus)
  have status : (fired event before).bus.peek Reg.Dma.status = before.bus.peek Reg.Dma.status &&& ~~~0x30 := by
    have aims : aiming.peek Reg.Dma.status = (before.bus.awaited event).peek Reg.Dma.status :=
      Board.peek_write_other (by decide) _
    have goes : (fired event before).bus.peek Reg.Dma.status = aiming.peek Reg.Dma.status :=
      Board.peek_write_other (by decide) _
    rw [goes, aims, Board.peek_awaited (by decide)]
    exact Board.peek_pulsed_status (plain _ (by simp))
  have aimedAt : aiming.peek Reg.Flash.target = aimed event before.bus :=
    Board.peek_write (show Reg.Flash.target ∉ (before.bus.awaited event).oneToClear from plain _ (by simp)) _
  exact
    { target := reset_target_to_nat event flagsSmall counterSmall
      flags := flags
      counter := counter
      pending := pending
      status := status
      flash := ⟨(Board.peek_write_other (by decide) _).trans aimedAt,
        Board.peek_write (show Reg.Flash.control ∉ aiming.oneToClear from plain _ (by simp)) _⟩
      ledger := rfl
      latch := rfl
      state := rfl
      log := rfl }

theorem handle_settles (event : Byte) (before : Controller Board)
    (plain : ∀ address ∈ [Reg.Dma.status, Reg.Flash.target, Reg.Flash.control], address ∉ before.bus.oneToClear) :
    ∃ completion after, handle event before = .ok completion after ∧ Settles event before completion after := by
  by_cases fits : before.bus.flagsAwaited event = before.bus.expected
  · refine ⟨_, _, handle_fitting before fits, ?_⟩
    exact
      { waits := handle_waits event before
        counted := rfl
        window := window_to_nat event _
        budget := budget_to_nat _ _
        decided := iff_of_false (fun ⟨_, same⟩ => by cases same) (not_not.mpr fits)
        completed := fun _ => ⟨rfl, retired_retires event before (plain _ (by simp))⟩
        turned := fun differs => absurd fits differs
        settings := rfl
        pendingEvent := rfl
        secondaryCounter := rfl
        expectedFlags := rfl
        untimed := fun settings => ⟨_, handle_fitting { before with settings } fits⟩ }
  · refine ⟨_, _, handle_unfitting before fits, ?_⟩
    exact
      { waits := handle_waits event before
        counted := rfl
        window := window_to_nat event _
        budget := budget_to_nat _ _
        decided := iff_of_true ⟨_, rfl⟩ fits
        completed := fun same => absurd same fits
        turned := fun _ => ⟨_, rfl, fired_fires event before plain⟩
        settings := rfl
        pendingEvent := rfl
        secondaryCounter := rfl
        expectedFlags := rfl
        untimed := fun settings => ⟨_, handle_unfitting { before with settings } fits⟩ }

-- The counter is 3, and flags 5 are expected. The window shows 2 and its ready bit once it is awaited.
def turnedBoard : Board :=
  (Board.powered.poke Reg.Dma.transferStatus 0x35).raiseOnWait { address := 0xB18C, mask := 0x82, after := 0 }

theorem turned_board_settles :
    (∀ address ∈ [Reg.Dma.status, Reg.Flash.target, Reg.Flash.control], address ∉ turnedBoard.oneToClear) ∧
      ∃ after, handle 7 (Controller.start turnedBoard .reference) = .ok (.reset { target := 0x2B }) after ∧
        Settles 7 (Controller.start turnedBoard .reference) (.reset { target := 0x2B }) after := by
  have plain : ∀ address ∈ [Reg.Dma.status, Reg.Flash.target, Reg.Flash.control], address ∉ turnedBoard.oneToClear := by
    have marks : turnedBoard.oneToClear.all (fun address => decide (address.toNat < 0xA000)) = true := by decide +kernel
    have away {address : Address} (high : 0xA000 ≤ address.toNat) : address ∉ turnedBoard.oneToClear := fun member =>
      Nat.not_lt.mpr high (of_decide_eq_true (List.all_eq_true.mp marks address member))
    simp [away (show 0xA000 ≤ Reg.Dma.status.toNat by decide), away (show 0xA000 ≤ Reg.Flash.target.toNat by decide),
      away (show 0xA000 ≤ Reg.Flash.control.toNat by decide)]
  have flags : turnedBoard.flagsAwaited 7 = 2 := by decide +kernel
  have counter : turnedBoard.counter = 3 := by decide +kernel
  have expected : turnedBoard.expected = 5 := by decide +kernel
  have differs : turnedBoard.flagsAwaited 7 ≠ turnedBoard.expected := by
    rw [flags, expected]
    decide
  obtain ⟨completion, after, handled, settles⟩ := handle_settles 7 (Controller.start turnedBoard .reference) plain
  obtain ⟨request, rfl, fires⟩ := settles.turned differs
  have target : request.target.toNat = 16 * (turnedBoard.flagsAwaited 7).toNat + turnedBoard.counter.toNat + 8 := fires.target
  rw [flags, counter] at target
  have same : request.target = 0x2B := UInt8.toNat_inj.mp target
  obtain rfl : request = { target := 0x2B } := congrArg ResetRequest.mk same
  exact ⟨plain, after, handled, settles⟩

end Completion

end StorageBridge
