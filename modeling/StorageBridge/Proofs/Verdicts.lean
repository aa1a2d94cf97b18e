import StorageBridge.Proofs.Drained
import StorageBridge.Proofs.Frames

/-!
How the readiness check decides: one exit for each test that can refuse, with what the test saw and
the controller as it is there.
-/

set_option autoImplicit false

namespace StorageBridge.Readiness

open BridgeM

variable {β : Type} [Bus β]

def linkSeen (controller : Controller β) : Bool :=
  (Bus.read controller.bus Reg.Backend.linkStatus).1.meets Reg.Backend.linkUp

def atDepth (controller : Controller β) : Controller β :=
  { forgetTransfer controller with bus := pastLink controller }

def pastDepth (controller : Controller β) : Controller β :=
  { forgetTransfer controller with bus := (depthSeen controller).2 }

-- no depth is read from a link that is down
def atEngine (controller : Controller β) : Controller β :=
  if linkSeen controller then pastDepth controller else atDepth controller

def engineBusy (controller : Controller β) : Bool :=
  !controller.state.transferState && (Bus.read controller.bus Reg.Backend.status).1.meets Reg.Backend.statusBusy

def pastEngine (controller : Controller β) : Controller β :=
  { controller with
    bus := if controller.state.transferState then controller.bus else (Bus.read controller.bus Reg.Backend.status).2 }

def recovering (controller : Controller β) : Controller β :=
  { controller with bus := Bus.write controller.bus Reg.Backend.linkControl Reg.Backend.linkRecover }

-- drained and with nothing left to log, outside power-up
structure Retrains (controller : Controller β) : Prop where
  drained : Drained controller
  settled : controller.state.submitLog = controller.state.completeLog
  running : controller.state.powerInit = false

-- The exits of the evaluation, in the order of the tests.
inductive Decided (before : Controller β) : EStateM.Result Stall (Controller β) Readiness → Prop where
  | fault (faulted : before.state.fault = true) : Decided before (refuse .notReady .fault before)
  | linkDown (unfaulted : before.state.fault = false) (inactive : before.state.commandActive = false)
      (down : linkSeen before = false) : Decided before (refuse .notReady .linkDown (atDepth before))
  | full (unfaulted : before.state.fault = false) (up : linkSeen before = true)
      (full : (depthSeen before).1.meets Reg.Backend.depthFull = true) :
      Decided before (refuse .retry (.queueFull before.state.ring.index.toByte) (pastDepth before))
  | busy (unfaulted : before.state.fault = false) (busy : engineBusy (atEngine before) = true) :
      Decided before (.ok .inProgress (pastEngine (atEngine before)))
  | waiting (drained : Drained before) (differ : before.state.submitLog ≠ before.state.completeLog) :
      Decided before (.ok .complete (pastEngine (atEngine before)))
  | retraining (retrains : Retrains before) : Decided before (afterRecover (recovering (pastEngine (atEngine before))))
  | rolling (unfaulted : before.state.fault = false) (idle : engineBusy (atEngine before) = false)
      (spared : Drained before → before.state.submitLog = before.state.completeLog ∧ before.state.powerInit = true) :
      Decided before (checkRolling (pastEngine (atEngine before)))

theorem check_drained_of_settled {before : Controller β} (settled : before.state.submitLog = before.state.completeLog) :
    checkDrained before =
      if before.state.powerInit then checkRolling before else afterRecover (recovering before) := by
  unfold checkDrained
  rw [bind_get_state, if_neg (fun differ => differ settled)]
  cases before.state.powerInit with
  | true => rfl
  | false => rfl

theorem check_busy_looks (depth : Option Byte) (before : Controller β) :
    checkBusy depth before =
      if engineBusy before then .ok .inProgress (pastEngine before)
      else if depth = some Reg.Backend.depthDrained then checkDrained (pastEngine before)
      else checkRolling (pastEngine before) := by
  unfold checkBusy engineBusy pastEngine
  rw [bind_get_state]
  cases before.state.transferState with
  | true =>
      by_cases drained : depth = some Reg.Backend.depthDrained
      · simp only [if_pos drained]
        rfl
      · simp only [if_neg drained]
        rfl
  | false =>
      rw [if_neg Bool.false_ne_true, bind_read, bind_pure]
      cases (Bus.read before.bus Reg.Backend.status).1.meets Reg.Backend.statusBusy with
      | true => rfl
      | false =>
          by_cases drained : depth = some Reg.Backend.depthDrained
          · simp only [if_pos drained]
            rfl
          · simp only [if_neg drained]
            rfl

theorem check_depth_looks (before : Controller β) :
    checkDepth (atDepth before) =
      if (depthSeen before).1.meets Reg.Backend.depthFull then
        refuse .retry (.queueFull before.state.ring.index.toByte) (pastDepth before)
      else checkBusy (some (depthSeen before).1) (pastDepth before) := by
  unfold checkDepth
  rw [bind_read]
  by_cases full : (depthSeen before).1.meets Reg.Backend.depthFull = true
  · rw [if_pos full]
    exact congrFun (if_pos full) (pastDepth before)
  · rw [if_neg full]
    exact congrFun (if_neg full) (pastDepth before)

theorem look_at_link_looks (before : Controller β) :
    lookAtLink (forgetTransfer before) =
      if linkSeen before then checkDepth (atDepth before)
      else if before.state.commandActive then checkBusy none (atDepth before)
      else refuse .notReady .linkDown (atDepth before) := by
  have looked : linkIsUp (forgetTransfer before) =
      .ok (linkSeen before) { forgetTransfer before with bus := (Bus.read before.bus Reg.Backend.linkStatus).2 } := rfl
  unfold lookAtLink atDepth pastLink
  rw [bind_of_ok looked, bind_get_state]
  by_cases command : before.state.commandActive = true
  · simp only [if_pos command]
    refine (congrFun (if_pos command) _).trans ?_
    cases linkSeen before with
    | true => rfl
    | false => rfl
  · simp only [if_neg command]
    refine (congrFun (if_neg command) _).trans ?_
    cases linkSeen before with
    | true => rfl
    | false => rfl

theorem check_drained_decides {before : Controller β} (drained : Drained before)
    (idle : engineBusy (atEngine before) = false) : Decided before (checkDrained (pastEngine (atEngine before))) := by
  have state : (pastEngine (atEngine before)).state = (forgetTransfer before).state := by
    unfold pastEngine atEngine
    split
    · rfl
    · rfl
  by_cases settled : before.state.submitLog = before.state.completeLog
  · rw [check_drained_of_settled (by rw [state]; exact settled), state]
    change Decided before (if before.state.powerInit = true then _ else _)
    cases power : before.state.powerInit with
    | true => exact .rolling drained.fault idle fun _ => ⟨settled, power⟩
    | false => exact .retraining ⟨drained, settled, power⟩
  · rw [check_drained_of_waiting (by rw [state]; exact settled)]
    exact .waiting drained settled

-- There are two ways to the engine: past the depth, and past a link that is down.
theorem check_busy_decides {before : Controller β} {depth : Option Byte} (unfaulted : before.state.fault = false)
    (shown : depth = some Reg.Backend.depthDrained ↔
      linkSeen before = true ∧ (depthSeen before).1 = Reg.Backend.depthDrained) :
    Decided before (checkBusy depth (atEngine before)) := by
  rw [check_busy_looks]
  cases engine : engineBusy (atEngine before) with
  | true => exact .busy unfaulted engine
  | false =>
      rw [if_neg Bool.false_ne_true]
      by_cases deep : depth = some Reg.Backend.depthDrained
      · obtain ⟨up, drained⟩ := shown.mp deep
        rw [if_pos deep]
        refine check_drained_decides ⟨unfaulted, up, drained, ?_⟩ engine
        have idle : engineBusy (pastDepth before) = false := by
          rwa [atEngine, if_pos up] at engine
        rw [engineBusy, Bool.and_eq_false_iff, Bool.not_eq_false'] at idle
        exact idle
      · rw [if_neg deep]
        exact .rolling unfaulted engine fun drained => absurd (shown.mpr ⟨drained.link, drained.depth⟩) deep

theorem evaluate_decides (before : Controller β) : Decided before (evaluate before) := by
  unfold evaluate
  rw [bind_get_state]
  by_cases faulted : before.state.fault = true
  · rw [if_pos faulted]
    exact .fault faulted
  · have unfaulted := Bool.eq_false_iff.mpr faulted
    rw [if_neg faulted, check_link_forgets, look_at_link_looks]
    cases up : linkSeen before with
    | true =>
        have here : atEngine before = pastDepth before := if_pos up
        rw [if_pos rfl, check_depth_looks, ← here]
        cases full : (depthSeen before).1.meets Reg.Backend.depthFull with
        | true =>
            rw [here]
            exact .full unfaulted up full
        | false => exact check_busy_decides unfaulted (by simp [up])
    | false =>
        have here : atEngine before = atDepth before := if_neg (Bool.eq_false_iff.mp up)
        rw [if_neg Bool.false_ne_true]
        cases command : before.state.commandActive with
        | true =>
            rw [if_pos rfl, ← here]
            exact check_busy_decides unfaulted (by simp [up])
        | false => exact .linkDown unfaulted command up

end StorageBridge.Readiness
