import StorageBridge.Proofs.Logs
import StorageBridge.Proofs.Operations

/-!
The readiness check on a drained backend. It tells commands in flight by the two logs, and these are
equal also when all 32 slots are valid: then the link is retrained under them.
-/

set_option autoImplicit false

namespace StorageBridge

open BridgeM

variable {β : Type} [Bus β]

namespace Readiness

-- The bus once the check has looked at the link. While a command state is active it drops a flag.
def pastLink (controller : Controller β) : β :=
  let bus := (Bus.read controller.bus Reg.Backend.linkStatus).2
  if controller.state.commandActive then Bus.modify bus Reg.Transport.flags Reg.Transport.secondary 0 else bus

def depthSeen (controller : Controller β) : Byte × β :=
  Bus.read (pastLink controller) Reg.Backend.queueDepth

def engineSeen (controller : Controller β) : Byte × β :=
  Bus.read (depthSeen controller).2 Reg.Backend.status

structure Drained (controller : Controller β) : Prop where
  fault : controller.state.fault = false
  link : (Bus.read controller.bus Reg.Backend.linkStatus).1.meets Reg.Backend.linkUp = true
  depth : (depthSeen controller).1 = Reg.Backend.depthDrained
  engine : controller.state.transferState = true ∨ (engineSeen controller).1.meets Reg.Backend.statusBusy = false

-- the controller when the logs are compared
def drainedSeen (controller : Controller β) : Controller β :=
  { controller with
    bus := if controller.state.transferState then (depthSeen controller).2 else (engineSeen controller).2
    state := { controller.state with transferActive := false, dmaMode := 0 } }

theorem check_depth_of_drained (controller : Controller β)
    (depth : (Bus.read controller.bus Reg.Backend.queueDepth).1 = Reg.Backend.depthDrained)
    (engine : controller.state.transferState = true ∨
      (Bus.read (Bus.read controller.bus Reg.Backend.queueDepth).2 Reg.Backend.status).1.meets Reg.Backend.statusBusy = false) :
    checkDepth controller = checkDrained
      { controller with
        bus :=
          if controller.state.transferState then (Bus.read controller.bus Reg.Backend.queueDepth).2
          else (Bus.read (Bus.read controller.bus Reg.Backend.queueDepth).2 Reg.Backend.status).2 } := by
  unfold checkDepth
  rw [bind_read, depth]
  rw [if_neg (by decide)]
  unfold checkBusy
  rw [bind_get_state]
  dsimp only
  cases transfer : controller.state.transferState with
  | true => rfl
  | false =>
      have idle := engine.resolve_left (by rw [transfer]; exact Bool.false_ne_true)
      rw [if_neg Bool.false_ne_true, bind_read, bind_pure, idle, if_neg Bool.false_ne_true, if_pos rfl,
        if_neg Bool.false_ne_true]

theorem evaluate_of_drained {controller : Controller β} (drained : Drained controller) :
    evaluate controller = checkDrained (drainedSeen controller) := by
  unfold evaluate
  rw [bind_get_state, drained.fault, if_neg Bool.false_ne_true]
  unfold checkLink
  rw [bind_modify_state]
  let forgotten : Controller β :=
    { controller with state := { controller.state with transferActive := false, dmaMode := 0 } }
  have looked : linkIsUp forgotten = .ok true { forgotten with bus := (Bus.read controller.bus Reg.Backend.linkStatus).2 } := by
    rw [← drained.link]
    rfl
  rw [bind_of_ok looked, bind_get_state]
  have depth := drained.depth
  have engine := drained.engine
  unfold engineSeen depthSeen pastLink at engine
  unfold depthSeen pastLink at depth
  unfold drainedSeen engineSeen depthSeen pastLink
  dsimp only [forgotten]
  cases command : controller.state.commandActive with
  | true =>
      rw [command, if_pos rfl] at depth engine
      rw [if_pos rfl, bind_modify_byte, if_pos rfl, if_pos rfl]
      exact check_depth_of_drained _ depth engine
  | false =>
      rw [command, if_neg Bool.false_ne_true] at depth engine
      rw [if_neg Bool.false_ne_true, if_pos rfl, if_neg Bool.false_ne_true]
      exact check_depth_of_drained _ depth engine

theorem check_rolling_not_complete (before : Controller β) :
    ∃ readiness after, checkRolling before = .ok readiness after ∧ readiness ≠ .complete := by
  have verdicts (status : Byte) : Readiness.ofCode (RollingRow.ofStatus status).verdict ≠ .complete := by
    unfold RollingRow.ofStatus
    split
    · decide
    · decide
    · decide
  unfold checkRolling
  rw [bind_read]
  split
  · exact ⟨.proceed, _, rfl, by decide⟩
  · exact ⟨_, _, rfl, verdicts _⟩

theorem check_drained_of_waiting {before : Controller β} (waiting : before.state.submitLog ≠ before.state.completeLog) :
    checkDrained before = .ok .complete before := by
  unfold checkDrained
  rw [bind_get_state, if_pos waiting]
  rfl

theorem check_drained_not_complete {before : Controller β} (settled : before.state.submitLog = before.state.completeLog)
    (after : Controller β) : checkDrained before ≠ .ok .complete after := by
  have rolling (before : Controller β) : checkRolling before ≠ .ok .complete after := by
    obtain ⟨readiness, _, ended, different⟩ := check_rolling_not_complete before
    rw [ended]
    rintro ⟨⟩
    exact different rfl
  unfold checkDrained
  rw [bind_get_state, if_neg (fun differ => differ settled)]
  cases before.state.powerInit with
  | true =>
      rw [if_pos rfl]
      exact rolling before
  | false =>
      rw [if_neg Bool.false_ne_true]
      cases recovered : recoverLink before with
      | error stall stalled =>
          rw [bind_of_error recovered]
          rintro ⟨⟩
      | ok up between =>
          rw [bind_of_ok recovered]
          cases up with
          | true => exact rolling between
          | false =>
              rintro ⟨⟩

theorem evaluated_of_checked {readiness : Readiness} {before after : Controller β}
    (checked : check before = .ok readiness after) : ∃ between, evaluate before = .ok readiness between := by
  unfold check at checked
  cases evaluated : evaluate before with
  | ok answer between =>
      rw [bind_of_ok evaluated] at checked
      split at checked
      · cases checked
        exact ⟨_, rfl⟩
      · cases checked
        exact ⟨_, rfl⟩
  | error stall stalled =>
      rw [bind_of_error evaluated] at checked
      cases checked

theorem check_of_waiting {controller : Controller β} (drained : Drained controller)
    (waiting : controller.state.submitLog ≠ controller.state.completeLog) :
    ∃ after, check controller = .ok .complete after ∧ after.bus = (drainedSeen controller).bus ∧
      after.state = (drainedSeen controller).state ∧
      after.statistics = { controller.statistics with refusals := countUp controller.statistics.refusals } := by
  have complete : evaluate controller = .ok .complete (drainedSeen controller) := by
    rw [evaluate_of_drained drained]
    exact check_drained_of_waiting waiting
  unfold check
  rw [bind_of_ok complete]
  exact ⟨_, rfl, rfl, rfl, rfl⟩

section Operations

def SparesLink (op : BusOp) : Prop :=
  ∀ value, op ≠ .write Reg.Backend.linkControl value

theorem drained_seen_spares_link (controller : Controller (Traced β)) :
    controller.bus.Extends SparesLink (drainedSeen controller).bus := by
  have reads (address : Address) (value : Byte) : SparesLink (.read address value) := fun _ same => by cases same
  have flags (value : Byte) : SparesLink (.write Reg.Transport.flags value) := fun _ same => by cases same
  have link : controller.bus.Extends SparesLink (Bus.read controller.bus Reg.Backend.linkStatus).2 :=
    Traced.extends_read _ _ (reads _)
  have past : controller.bus.Extends SparesLink (pastLink controller) := by
    unfold pastLink
    dsimp only
    split
    · exact Traced.extends_trans link (Traced.extends_modify _ _ _ _ (reads _) flags)
    · exact link
  have depth : controller.bus.Extends SparesLink (depthSeen controller).2 :=
    Traced.extends_trans past (Traced.extends_read _ _ (reads _))
  unfold drainedSeen
  dsimp only
  split
  · exact depth
  · exact Traced.extends_trans depth (Traced.extends_read _ _ (reads _))

def LeavesLinkAlone (controller : Controller (Traced β)) : Prop :=
  ∃ after, check controller = .ok .complete after ∧ after.state.retry = controller.state.retry ∧
    after.statistics.retryRequests = controller.statistics.retryRequests ∧ controller.bus.Extends SparesLink after.bus

def RetrainsLink (controller : Controller (Traced β)) : Prop :=
  ∃ ops, (ending (check controller)).bus.trace = controller.bus.trace ++ ops ∧
    .write Reg.Backend.linkControl Reg.Backend.linkRecover ∈ ops

theorem leaves_link_alone_iff {controller : Controller (Traced β)} (drained : Drained controller) :
    LeavesLinkAlone controller ↔ controller.state.submitLog ≠ controller.state.completeLog := by
  constructor
  · rintro ⟨after, checked, -⟩ settled
    obtain ⟨between, evaluated⟩ := evaluated_of_checked checked
    have seen : (drainedSeen controller).state.submitLog = (drainedSeen controller).state.completeLog := settled
    exact check_drained_not_complete seen between ((evaluate_of_drained drained).symm.trans evaluated)
  · intro waiting
    obtain ⟨after, checked, bus, state, statistics⟩ := check_of_waiting drained waiting
    refine ⟨after, checked, ?_, ?_, ?_⟩
    · rw [state]
      rfl
    · rw [statistics]
    · rw [bus]
      exact drained_seen_spares_link controller

-- what is left of the recovery, of the evaluation and of the check once retraining has begun
def awaitLink : BridgeM β Bool := do
  waitFor Reg.Backend.linkStatus Reg.Backend.linkTrained
  writeByte Reg.Backend.linkControl Reg.Backend.linkSetup
  linkIsUp

def afterRecover : BridgeM β Readiness := do
  let up ← awaitLink
  if up then checkRolling
  else
    emit .recoveryFailed
    refuse .notReady .recoveryFailed

def report (readiness : Readiness) : BridgeM β Readiness :=
  if readiness.isProceed then pure readiness
  else do
    tally fun counts => { counts with refusals := countUp counts.refusals }
    emit (.refused readiness)
    pure readiness

theorem performs_after_recover : Performs (fun _ => True) (afterRecover : BridgeM (Traced β) Readiness) := by
  have looks : Performs (fun _ => True) (linkIsUp : BridgeM (Traced β) Bool) :=
    performs_bind (performs_read fun _ => trivial) fun _ => performs_nothing fun _ => rfl
  have awaits : Performs (fun _ => True) (awaitLink : BridgeM (Traced β) Bool) :=
    performs_bind (performs_wait trivial) fun _ => performs_bind (performs_write trivial) fun _ => looks
  refine performs_bind awaits fun up => ?_
  split
  · refine performs_bind (performs_read fun _ => trivial) fun status => ?_
    dsimp only
    split
    · exact performs_nothing fun _ => rfl
    · exact performs_nothing fun _ => rfl
  · exact performs_nothing fun _ => rfl

omit [Bus β] in
theorem performs_report (readiness : Readiness) : Performs (fun _ => True) (report readiness : BridgeM (Traced β) Readiness) := by
  unfold report
  split
  · exact performs_nothing fun _ => rfl
  · exact performs_nothing fun _ => rfl

theorem retrains_link_of_settled {controller : Controller (Traced β)} (drained : Drained controller)
    (settled : controller.state.submitLog = controller.state.completeLog) (running : controller.state.powerInit = false) :
    RetrainsLink controller := by
  let seen := drainedSeen controller
  let begun : Controller (Traced β) :=
    { seen with bus := Bus.write seen.bus Reg.Backend.linkControl Reg.Backend.linkRecover }
  have evaluated : evaluate controller = afterRecover begun := by
    rw [evaluate_of_drained drained]
    unfold checkDrained
    rw [bind_get_state, if_neg (fun differ => differ settled)]
    rw [if_neg (show ¬ (drainedSeen controller).state.powerInit = true by
      change ¬ controller.state.powerInit = true
      rw [running]
      exact Bool.false_ne_true)]
    rfl
  have checked : check controller = (afterRecover >>= report) begun := bind_of_same evaluated report
  obtain ⟨earlier, seenTrace, -⟩ := drained_seen_spares_link controller
  obtain ⟨later, endTrace, -⟩ := (performs_bind performs_after_recover performs_report).ends begun
  refine ⟨earlier ++ #[.write Reg.Backend.linkControl Reg.Backend.linkRecover] ++ later, ?_, by simp⟩
  have begunTrace : begun.bus.trace = seen.bus.trace.push (.write Reg.Backend.linkControl Reg.Backend.linkRecover) := rfl
  rw [checked, endTrace, begunTrace, seenTrace, Array.push_eq_append]
  simp only [Array.append_assoc]

end Operations

end Readiness

open Readiness

theorem drained_link_left_alone_iff_ring_not_full (bus : Traced β) (settings : Settings) (events : List (Event (Traced β)))
    (drained : Drained (Run.of (Controller.start bus settings) events).controller)
    (waiting : 0 < (Run.of (Controller.start bus settings) events).controller.state.ring.taken) :
    let controller := (Run.of (Controller.start bus settings) events).controller
    (LeavesLinkAlone controller ↔ controller.state.ring.taken < 32) ∧
      (controller.state.ring.taken = 32 → controller.state.powerInit = false → RetrainsLink controller) := by
  intro controller
  have equal : controller.state.submitLog = controller.state.completeLog ↔
      controller.state.ring.taken = 0 ∨ controller.state.ring.taken = 32 :=
    logs_equal_iff (run_balanced bus settings events)
  have bound := controller.state.ring.taken_le
  change 0 < controller.state.ring.taken at waiting
  constructor
  · rw [leaves_link_alone_iff drained, Ne, equal]
    omega
  · intro full running
    exact retrains_link_of_settled drained (equal.mpr (.inr full)) running

-- The given number of commands is submitted, then the backend drains.
def drainedAfter (commands : Nat) : Controller (Traced Pins) :=
  (Run.of (Controller.start { bus := .asking 0 } .reference)
    (List.replicate commands .plainPass ++ [.hardware { bus := .asking Reg.Backend.depthDrained }])).controller

theorem drained_with_one_in_flight : Drained (drainedAfter 1) ∧ 0 < (drainedAfter 1).state.ring.taken ∧
    LeavesLinkAlone (drainedAfter 1) := by
  have drained : Drained (drainedAfter 1) :=
    { fault := by decide +kernel, link := by decide +kernel, depth := by decide +kernel, engine := by decide +kernel }
  have waiting : 0 < (drainedAfter 1).state.ring.taken := by decide +kernel
  refine ⟨drained, waiting, (drained_link_left_alone_iff_ring_not_full _ _ _ drained waiting).1.mpr ?_⟩
  decide +kernel

theorem drained_full_ring_retrains_link : Drained (drainedAfter 32) ∧ (drainedAfter 32).state.ring.taken = 32 ∧
    ¬ LeavesLinkAlone (drainedAfter 32) ∧ RetrainsLink (drainedAfter 32) := by
  have drained : Drained (drainedAfter 32) :=
    { fault := by decide +kernel, link := by decide +kernel, depth := by decide +kernel, engine := by decide +kernel }
  have settled : (drainedAfter 32).state.submitLog = (drainedAfter 32).state.completeLog := by decide +kernel
  refine ⟨drained, by decide +kernel, ?_, retrains_link_of_settled drained settled (by decide +kernel)⟩
  rw [leaves_link_alone_iff drained]
  exact fun differ => differ settled

end StorageBridge
