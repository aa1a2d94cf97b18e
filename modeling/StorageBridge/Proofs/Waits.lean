import StorageBridge.Proofs.Boards
import StorageBridge.Proofs.ScriptTable
import StorageBridge.Proofs.Verdicts

/-!
Waits on a simulated board. Whether a wait without an end is answered depends on the register and on
the scripts for it alone. What the readiness check says on a board, and whether it stalls, can be told
from the registers before it runs.
-/

set_option autoImplicit false

namespace StorageBridge

open BridgeM

namespace Byte

theorem meets_or_left {value mask : Byte} (met : value.meets mask = true) (more : Byte) : (value ||| more).meets mask = true := by
  have spread : (value ||| more) &&& mask = (value &&& mask) ||| (more &&& mask) := by
    apply UInt8.eq_of_toBitVec_eq
    ext i bound
    simp [Bool.and_or_distrib_right]
  simp only [meets, bne_iff_ne, ne_eq, spread, UInt8.or_eq_zero_iff] at met ⊢
  exact fun both => met both.1

end Byte

namespace Board

variable {address other : Address}

def shows (board : Board) (address : Address) (mask : Byte) : Bool :=
  (board.peek address).meets mask

-- whether a wait without an end, begun now, sees a bit of the mask
def answers (address : Address) (mask : Byte) (board : Board) : Bool :=
  ((board.startWait address).peek address).meets mask

-- what a wait on the address depends on
def outlook (address : Address) (board : Board) : Byte × List ReadyScript :=
  (board.peek address, board.scripts.filter fun script => script.address == address)

theorem peek_start_wait_outlook (board : Board) (address : Address) :
    (board.startWait address).peek address =
      ((board.outlook address).2.filter fun script => script.after == 0).foldl (fun byte script => byte ||| script.mask)
        (board.outlook address).1 := by
  have fires : board.scripts.filter (ReadyScript.fires address) =
      (board.outlook address).2.filter fun script => script.after == 0 := by
    simp only [outlook, List.filter_filter, Bool.and_comm]
    rfl
  rw [peek_start_wait, fires]
  rfl

theorem answers_of_outlook {board moved : Board} (same : moved.outlook address = board.outlook address) (mask : Byte) :
    moved.answers address mask = board.answers address mask := by
  rw [answers, answers, peek_start_wait_outlook, peek_start_wait_outlook, same]

-- A script only adds bits.
theorem start_wait_keeps_bit {board : Board} {mask : Byte} (met : (board.peek address).meets mask = true) :
    ((board.startWait address).peek address).meets mask = true := by
  have raised (scripts : List ReadyScript) (byte : Byte) (met : byte.meets mask = true) :
      (scripts.foldl (fun byte script => byte ||| script.mask) byte).meets mask = true := by
    induction scripts generalizing byte with
    | nil => exact met
    | cons script rest ih => exact ih _ (Byte.meets_or_left met script.mask)
  rw [peek_start_wait]
  exact raised _ _ met

theorem outlook_write (different : address ≠ other) (board : Board) (value : Byte) :
    (Bus.write board address value).outlook other = board.outlook other :=
  Prod.ext (peek_write_other different value) rfl

theorem outlook_wait (different : address ≠ other) (board : Board) (mask : Byte) (budget : WaitBudget) :
    (Bus.wait board address mask budget).2.outlook other = board.outlook other := by
  refine Prod.ext (peek_wait_other different mask budget) ?_
  rw [wait_ends, outlook, outlook, scripts_start_wait]
  dsimp only
  induction board.scripts with
  | nil => rfl
  | cons script rest ih =>
      by_cases here : script.address = address
      · have apart : (script.address == other) = false := by simp [here, different]
        by_cases fires : script.after = 0
        · simp [ReadyScript.wait?, here, fires, different, ih]
        · simp [ReadyScript.wait?, here, fires, different, ih]
      · have stays : ReadyScript.wait? address script = some script := if_pos here
        by_cases kept : script.address = other
        · simp [stays, kept, ih]
        · simp [stays, kept, ih]

end Board

theorem BridgeM.wait_on_board (address : Address) (mask : Byte) (before : Controller Board) :
    waitFor address mask before =
      if before.bus.answers address mask then .ok () { before with bus := before.bus.startWait address }
      else .error { address, mask } { before with bus := before.bus.startWait address } := rfl

-- how a step ends, without the controller that it leaves
def BridgeM.verdict {β α : Type} : EStateM.Result Stall (Controller β) α → Except Stall α
  | .ok value _ => .ok value
  | .error stall _ => .error stall

namespace Readiness

def rollingVerdict (board : Board) : Readiness :=
  .ofCode (RollingRow.ofStatus (board.peek Reg.Backend.rollingStatus)).verdict

-- What the check will say on a board, told from its registers and from the state: first from the
-- engine on, then from the beginning.
def foretoldAtEngine (controller : Controller Board) : Except Stall Readiness :=
  if !controller.state.transferState && controller.bus.shows Reg.Backend.status Reg.Backend.statusBusy then .ok .inProgress
  else if controller.bus.shows Reg.Backend.linkStatus Reg.Backend.linkUp ∧
      controller.bus.peek Reg.Backend.queueDepth = Reg.Backend.depthDrained then
    if controller.state.submitLog ≠ controller.state.completeLog then .ok .complete
    else if controller.state.powerInit then .ok (rollingVerdict controller.bus)
    else if controller.bus.answers Reg.Backend.linkStatus Reg.Backend.linkTrained then .ok (rollingVerdict controller.bus)
    else .error untrained
  else .ok (rollingVerdict controller.bus)

def foretold (controller : Controller Board) : Except Stall Readiness :=
  if controller.state.fault then .ok .notReady
  else if controller.bus.shows Reg.Backend.linkStatus Reg.Backend.linkUp then
    if controller.bus.shows Reg.Backend.queueDepth Reg.Backend.depthFull then .ok .retry
    else foretoldAtEngine controller
  else if controller.state.commandActive then foretoldAtEngine controller
  else .ok .notReady

variable {before : Controller Board} {address : Address}

theorem past_link_outlook (different : Reg.Transport.flags ≠ address) (before : Controller Board) :
    (pastLink before).outlook address = before.bus.outlook address := by
  unfold pastLink
  cases before.state.commandActive with
  | true => exact Board.outlook_write different _ _
  | false => rfl

theorem at_engine_outlook (different : Reg.Transport.flags ≠ address) (before : Controller Board) :
    (atEngine before).bus.outlook address = before.bus.outlook address := by
  unfold atEngine
  split
  · exact past_link_outlook different before
  · exact past_link_outlook different before

theorem past_engine_outlook (different : Reg.Transport.flags ≠ address) (before : Controller Board) :
    (pastEngine (atEngine before)).bus.outlook address = before.bus.outlook address := by
  unfold pastEngine
  rw [← at_engine_outlook different before]
  cases (atEngine before).state.transferState with
  | true => rfl
  | false => rfl

theorem depth_seen_peek (before : Controller Board) :
    (depthSeen before).1 = before.bus.peek Reg.Backend.queueDepth :=
  congrArg Prod.fst (past_link_outlook (by decide) before)

theorem engine_busy_peek (before : Controller Board) :
    engineBusy (atEngine before) =
      (!before.state.transferState && before.bus.shows Reg.Backend.status Reg.Backend.statusBusy) := by
  have status : (atEngine before).bus.peek Reg.Backend.status = before.bus.peek Reg.Backend.status :=
    congrArg Prod.fst (at_engine_outlook (by decide) before)
  have state : (atEngine before).state.transferState = before.state.transferState := by
    unfold atEngine
    split
    · rfl
    · rfl
  rw [engineBusy, state]
  exact congrArg (fun byte => !before.state.transferState && Byte.meets byte Reg.Backend.statusBusy) status

theorem check_rolling_foretold {before : Controller Board} {board : Board}
    (same : before.bus.outlook Reg.Backend.rollingStatus = board.outlook Reg.Backend.rollingStatus) :
    verdict (checkRolling before) = .ok (rollingVerdict board) := by
  have shown : (Bus.read before.bus Reg.Backend.rollingStatus).1 = board.peek Reg.Backend.rollingStatus := congrArg Prod.fst same
  unfold checkRolling
  rw [bind_read, shown, rollingVerdict]
  by_cases passes : (RollingRow.ofStatus (board.peek Reg.Backend.rollingStatus)).verdict = 0
  · simp only [passes]
    rfl
  · simp only [if_neg passes]
    rfl

-- the wait for a trained link, answered, and the set-up that follows it
def setUp (before : Controller Board) : Controller Board :=
  { before with
    bus := Bus.write (before.bus.startWait Reg.Backend.linkStatus) Reg.Backend.linkControl Reg.Backend.linkSetup }

theorem await_link_on_board (before : Controller Board) :
    awaitLink before =
      if before.bus.answers Reg.Backend.linkStatus Reg.Backend.linkTrained then
        .ok ((setUp before).bus.shows Reg.Backend.linkStatus Reg.Backend.linkUp) (setUp before)
      else .error untrained { before with bus := before.bus.startWait Reg.Backend.linkStatus } := by
  have waited := wait_on_board Reg.Backend.linkStatus Reg.Backend.linkTrained before
  unfold awaitLink
  cases answered : before.bus.answers Reg.Backend.linkStatus Reg.Backend.linkTrained with
  | true =>
      rw [answered, if_pos rfl] at waited
      rw [bind_of_ok waited]
      rfl
  | false =>
      rw [answered, if_neg Bool.false_ne_true] at waited
      rw [bind_of_error waited]
      rfl

theorem set_up_outlook (apart : address ≠ Reg.Backend.linkStatus) (unwritten : address ≠ Reg.Backend.linkControl)
    (before : Controller Board) : (setUp before).bus.outlook address = before.bus.outlook address :=
  (Board.outlook_write unwritten.symm _ _).trans
    (Board.outlook_wait apart.symm before.bus Reg.Backend.linkTrained .forever)

theorem set_up_keeps_link (up : before.bus.shows Reg.Backend.linkStatus Reg.Backend.linkUp = true) :
    (setUp before).bus.shows Reg.Backend.linkStatus Reg.Backend.linkUp = true := by
  unfold Board.shows setUp
  rw [Board.peek_write_other (by decide)]
  exact Board.start_wait_keeps_bit up

-- The link stays up while it is retrained, so only the wait can go wrong.
theorem after_recover_foretold (up : linkSeen before = true) :
    verdict (afterRecover (recovering (pastEngine (atEngine before)))) =
      if before.bus.answers Reg.Backend.linkStatus Reg.Backend.linkTrained then .ok (rollingVerdict before.bus)
      else .error untrained := by
  generalize started : recovering (pastEngine (atEngine before)) = begun
  have outlook {address : Address} (flags : Reg.Transport.flags ≠ address) (control : Reg.Backend.linkControl ≠ address) :
      begun.bus.outlook address = before.bus.outlook address := by
    rw [← started]
    exact (Board.outlook_write control _ _).trans (past_engine_outlook flags before)
  have link : begun.bus.outlook Reg.Backend.linkStatus = before.bus.outlook Reg.Backend.linkStatus :=
    outlook (by decide) (by decide)
  have stillUp : begun.bus.shows Reg.Backend.linkStatus Reg.Backend.linkUp = true := by
    have shown : begun.bus.peek Reg.Backend.linkStatus = before.bus.peek Reg.Backend.linkStatus := congrArg Prod.fst link
    rw [Board.shows, shown]
    exact up
  have awaited := await_link_on_board begun
  rw [← Board.answers_of_outlook link]
  cases answered : begun.bus.answers Reg.Backend.linkStatus Reg.Backend.linkTrained with
  | false =>
      rw [answered, if_neg Bool.false_ne_true] at awaited
      rw [afterRecover, bind_of_error awaited]
      rfl
  | true =>
      rw [answered, if_pos rfl, set_up_keeps_link stillUp] at awaited
      rw [afterRecover, bind_of_ok awaited]
      exact check_rolling_foretold ((set_up_outlook (by decide) (by decide) begun).trans (outlook (by decide) (by decide)))

theorem check_drained_foretold (drained : Drained before) :
    verdict (checkDrained (pastEngine (atEngine before))) =
      if before.state.submitLog ≠ before.state.completeLog then .ok .complete
      else if before.state.powerInit then .ok (rollingVerdict before.bus)
      else if before.bus.answers Reg.Backend.linkStatus Reg.Backend.linkTrained then .ok (rollingVerdict before.bus)
      else .error untrained := by
  have state : (pastEngine (atEngine before)).state = (forgetTransfer before).state := by
    unfold pastEngine atEngine
    split
    · rfl
    · rfl
  by_cases settled : before.state.submitLog = before.state.completeLog
  · have rest : ¬ before.state.submitLog ≠ before.state.completeLog := fun differ => differ settled
    rw [if_neg rest, check_drained_of_settled (by rw [state]; exact settled), state]
    change verdict (if before.state.powerInit = true then _ else _) = _
    cases before.state.powerInit with
    | true => exact check_rolling_foretold (past_engine_outlook (by decide) before)
    | false => exact after_recover_foretold drained.link
  · rw [if_pos settled, check_drained_of_waiting (by rw [state]; exact settled)]
    rfl

-- There are two ways to the engine: past the depth, and past a link that is down.
theorem check_busy_foretold {depth : Option Byte} (unfaulted : before.state.fault = false)
    (shown : depth = some Reg.Backend.depthDrained ↔
      before.bus.shows Reg.Backend.linkStatus Reg.Backend.linkUp = true ∧
        before.bus.peek Reg.Backend.queueDepth = Reg.Backend.depthDrained) :
    verdict (checkBusy depth (atEngine before)) = foretoldAtEngine before := by
  unfold foretoldAtEngine
  rw [check_busy_looks, engine_busy_peek]
  cases engine : !before.state.transferState && before.bus.shows Reg.Backend.status Reg.Backend.statusBusy with
  | true => rfl
  | false =>
      rw [if_neg Bool.false_ne_true, if_neg Bool.false_ne_true]
      by_cases deep : depth = some Reg.Backend.depthDrained
      · obtain ⟨up, drained⟩ := shown.mp deep
        rw [if_pos deep, if_pos (shown.mp deep)]
        refine check_drained_foretold ⟨unfaulted, up, (depth_seen_peek before).trans drained, ?_⟩
        have idle : engineBusy (pastDepth before) = false := by
          have same := engine_busy_peek before
          have seen : linkSeen before = true := up
          rwa [atEngine, if_pos seen, engine] at same
        rwa [engineBusy, Bool.and_eq_false_iff, Bool.not_eq_false'] at idle
      · rw [if_neg deep, if_neg fun both => deep (shown.mpr both)]
        exact check_rolling_foretold (past_engine_outlook (by decide) before)

theorem evaluate_foretold (before : Controller Board) : verdict (evaluate before) = foretold before := by
  unfold evaluate foretold
  rw [bind_get_state]
  cases faulted : before.state.fault with
  | true => rfl
  | false =>
      rw [if_neg Bool.false_ne_true, if_neg Bool.false_ne_true, check_link_forgets, look_at_link_looks]
      change verdict (if before.bus.shows Reg.Backend.linkStatus Reg.Backend.linkUp = true then _ else _) = _
      cases up : before.bus.shows Reg.Backend.linkStatus Reg.Backend.linkUp with
      | true =>
          have here : atEngine before = pastDepth before := if_pos up
          rw [if_pos rfl, if_pos rfl, check_depth_looks, depth_seen_peek]
          change verdict (if before.bus.shows Reg.Backend.queueDepth Reg.Backend.depthFull = true then _ else _) = _
          cases before.bus.shows Reg.Backend.queueDepth Reg.Backend.depthFull with
          | true => rfl
          | false =>
              rw [if_neg Bool.false_ne_true, if_neg Bool.false_ne_true, ← here]
              exact check_busy_foretold faulted (by simp [up])
      | false =>
          have here : atEngine before = atDepth before := if_neg (Bool.eq_false_iff.mp up)
          rw [if_neg Bool.false_ne_true, if_neg Bool.false_ne_true]
          cases before.state.commandActive with
          | true =>
              rw [if_pos rfl, if_pos rfl, ← here]
              exact check_busy_foretold faulted (by simp [up])
          | false => rfl

-- The check reports what the evaluation says.
theorem check_foretold (before : Controller Board) : verdict (check before) = foretold before := by
  rw [← evaluate_foretold]
  unfold check
  cases evaluated : evaluate before with
  | error stall after => rw [bind_of_error evaluated]
  | ok readiness between =>
      rw [bind_of_ok evaluated]
      cases readiness.isProceed with
      | true => rfl
      | false => rfl

end Readiness

end StorageBridge
