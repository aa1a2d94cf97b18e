import StorageBridge.Proofs.Boards
import StorageBridge.Proofs.Passes
import StorageBridge.Proofs.Verdicts

/-!
The warning that a submission leaves in the log when it cannot be counted. No other step of the core
leaves it, and a submission leaves none while fewer than 32 commands are outstanding.
-/

set_option autoImplicit false

namespace StorageBridge

open BridgeM

variable {η β α : Type}

def LogEvent.isOverflow : LogEvent → Bool
  | outstandingOverflow _ => true
  | _ => false

-- Every submission so far could be counted.
def Unwarned (controller : Controller β) : Prop :=
  ∀ event ∈ controller.log, event.isOverflow = false

theorem unwarned_of_log {before after : Controller β} (same : after.log = before.log) (unwarned : Unwarned before) :
    Unwarned after := by
  unfold Unwarned
  rwa [same]

theorem kept_unwarned {stalls : Stall → Prop} {step : BridgeM β α} (kept : Keeps Controller.log stalls step) :
    Preserves Unwarned step :=
  preserves_kept (fun _ _ => unwarned_of_log) kept

theorem silent_unwarned {step : BridgeM β α} (silent : ∀ before, (ending (step before)).log = before.log) :
    Preserves Unwarned step :=
  fun before => unwarned_of_log (silent before)

theorem emit_unwarned {event : LogEvent} (other : event.isOverflow = false) :
    Preserves Unwarned (emit event : BridgeM β Unit) := by
  intro before unwarned told member
  rcases Array.mem_push.mp member with earlier | rfl
  · exact unwarned told earlier
  · exact other

theorem raise_retry_unwarned (request : RetryRequest) : Preserves Unwarned (raiseRetry request : BridgeM β Unit) := by
  have other (pending : Option RetryRequest) : (retryEvent pending request).isOverflow = false := by
    unfold retryEvent
    split
    · split
      · rfl
      · rfl
    · rfl
  refine preserves_bind ?_ fun _ => silent_unwarned fun _ => rfl
  refine preserves_bind (silent_unwarned fun _ => rfl) fun state => ?_
  exact preserves_bind (emit_unwarned (other state.retry)) fun _ => silent_unwarned fun _ => rfl

theorem wait_unwarned [Bus β] (address : Address) (mask : Byte) :
    Preserves Unwarned (waitFor address mask : BridgeM β Unit) := by
  have kept : Keeps Controller.log (fun _ => True) (waitFor address mask : BridgeM β Unit) :=
    keeps_wait (fun _ _ => rfl) address mask trivial
  exact kept_unwarned kept

namespace Readiness

theorem refuse_unwarned (readiness : Readiness) (request : RetryRequest) :
    Preserves Unwarned (refuse readiness request : BridgeM β Readiness) :=
  preserves_bind (raise_retry_unwarned request) fun _ => silent_unwarned fun _ => rfl

variable [Bus β]

theorem check_rolling_unwarned : Preserves Unwarned (checkRolling : BridgeM β Readiness) := by
  refine preserves_bind (silent_unwarned fun _ => rfl) fun status => ?_
  dsimp only
  split
  · exact silent_unwarned fun _ => rfl
  · exact refuse_unwarned _ _

theorem after_recover_unwarned : Preserves Unwarned (afterRecover : BridgeM β Readiness) := by
  have waits : Preserves Unwarned (awaitLink : BridgeM β Bool) :=
    preserves_bind (wait_unwarned _ _) fun _ => silent_unwarned fun _ => rfl
  refine preserves_bind waits fun up => ?_
  cases up with
  | true => exact check_rolling_unwarned
  | false => exact preserves_bind (emit_unwarned rfl) fun _ => refuse_unwarned _ _

theorem evaluate_unwarned : Preserves Unwarned (evaluate : BridgeM β Readiness) := by
  intro before unwarned
  have past : Unwarned (pastEngine (atEngine before)) := by
    refine unwarned_of_log ?_ unwarned
    unfold pastEngine atEngine
    split
    · rfl
    · rfl
  have decided := evaluate_decides before
  generalize evaluate before = result at decided
  cases decided with
  | fault faulted => exact refuse_unwarned _ _ before unwarned
  | linkDown unfaulted inactive down => exact refuse_unwarned _ _ (atDepth before) unwarned
  | full unfaulted up full => exact refuse_unwarned _ _ (pastDepth before) unwarned
  | busy unfaulted busy => exact past
  | waiting drained differ => exact past
  | retraining retrains => exact after_recover_unwarned (recovering (pastEngine (atEngine before))) past
  | rolling unfaulted idle spared => exact check_rolling_unwarned _ past

theorem check_unwarned : Preserves Unwarned (check : BridgeM β Readiness) := by
  refine preserves_bind evaluate_unwarned fun readiness => ?_
  split
  · exact silent_unwarned fun _ => rfl
  · refine preserves_bind (silent_unwarned fun _ => rfl) fun _ => ?_
    exact preserves_bind (emit_unwarned rfl) fun _ => silent_unwarned fun _ => rfl

end Readiness

namespace Transfer

variable [Bus β]

theorem program_unwarned (flags : TransferFlags) (channel : Byte) :
    Preserves Unwarned (program flags channel : BridgeM β Transfer) := by
  have sourced : Preserves Unwarned (source flags channel : BridgeM β (Byte × Address)) := by
    unfold source
    split
    · exact silent_unwarned fun _ => rfl
    · exact silent_unwarned fun _ => rfl
  have cleared : Keeps Controller.log never (clearTags : BridgeM β Unit) :=
    keeps_bind (keeps_for_each (fun _ => ⟨fun _ => rfl⟩) _) fun _ => ⟨fun _ => rfl⟩
  have buffered (base : Address) (mode : Byte) : Preserves Unwarned (writeNormal flags base mode : BridgeM β Transfer) := by
    refine preserves_bind (silent_unwarned fun _ => rfl) fun _ => preserves_bind (silent_unwarned fun _ => rfl) fun state => ?_
    split
    · exact silent_unwarned fun _ => rfl
    · exact silent_unwarned fun _ => rfl
  have reported (transfer : Transfer) : Preserves Unwarned (do
      emit (.transferProgrammed transfer)
      modifyState fun state => { state with lastTransfer := some transfer }
      pure transfer : BridgeM β Transfer) :=
    preserves_bind (emit_unwarned rfl) fun _ => silent_unwarned fun _ => rfl
  refine preserves_bind (wait_unwarned _ _) fun _ => preserves_bind sourced fun (mode, base) => ?_
  refine preserves_bind (silent_unwarned fun _ => rfl) fun _ => preserves_bind (silent_unwarned fun _ => rfl) fun _ => ?_
  refine preserves_bind (kept_unwarned cleared) fun _ => ?_
  dsimp only
  split
  · exact preserves_bind (silent_unwarned fun _ => rfl) reported
  · exact preserves_bind (buffered base mode) reported

end Transfer

namespace Submission

theorem record_submission_reports (before : Controller β) :
    recordSubmission before = .ok ()
      { before with
        state := { before.state with
          ring := before.state.ring.submitted, submitLog := (before.state.submitLog + 1) &&& 0x1F }
        log := if 31 < before.state.ring.outstanding
          then before.log.push (.outstandingOverflow before.state.ring.outstanding) else before.log } := by
  unfold recordSubmission
  rw [bind_get_state]
  by_cases saturated : 31 < before.state.ring.outstanding
  · have full : before.state.ring.isSaturated = true := decide_eq_true saturated
    rw [if_pos full, if_pos saturated]
    rfl
  · have spare : ¬ before.state.ring.isSaturated = true := fun full => saturated (of_decide_eq_true full)
    rw [if_neg spare, if_neg saturated]
    rfl

theorem record_submission_unwarned {before : Controller β} (room : before.state.ring.outstanding ≤ 31)
    (unwarned : Unwarned before) : Unwarned (ending (recordSubmission before)) := by
  refine unwarned_of_log ?_ unwarned
  rw [record_submission_reports]
  exact if_neg (Nat.not_lt_of_le room)

variable [Bus β]

theorem transfer_and_hand_off_unwarned (flags : TransferFlags) (index : SlotIndex) :
    Preserves Unwarned (transferAndHandOff flags index : BridgeM β Unit) := by
  refine preserves_bind (Transfer.program_unwarned _ _) fun _ => preserves_bind (silent_unwarned fun _ => rfl) fun _ => ?_
  refine preserves_bind (silent_unwarned fun _ => rfl) fun _ => preserves_bind (silent_unwarned fun _ => rfl) fun state => ?_
  split
  · exact silent_unwarned fun _ => rfl
  · exact silent_unwarned fun _ => rfl

theorem settle_window_unwarned (index : SlotIndex) (needed byteCount : Byte) {before : Controller β}
    (room : before.state.ring.outstanding ≤ 31) (unwarned : Unwarned before) :
    Unwarned (ending (settleWindow index needed byteCount before)) := by
  unfold settleWindow
  by_cases fits : byteCount >>> 3 ≤ needed &&& 0x1F
  · rw [if_pos fits]
    exact unwarned
  · rw [if_neg fits]
    exact holds_after_bind (record_submission_unwarned room unwarned) fun _ => silent_unwarned fun _ => rfl

theorem settle_unwarned (index : SlotIndex) (slot : Slot) (action : Action) {before : Controller β}
    (room : before.state.ring.outstanding ≤ 31) (unwarned : Unwarned before) :
    Unwarned (ending (settle index slot action before)) := by
  unfold settle
  by_cases extended : action.isExtended = true
  · rw [if_pos extended, bind_modify_state, bind_modify_byte, bind_read, bind_modify_state]
    exact record_submission_unwarned room unwarned
  · rw [if_neg extended]
    exact holds_after_bind (settle_window_unwarned _ _ _ room unwarned) fun _ => silent_unwarned fun _ => rfl

theorem prepare_unwarned (index : SlotIndex) (param1 param2 : Byte) (action : Action) {before : Controller β}
    (room : before.state.ring.outstanding ≤ 31) (unwarned : Unwarned before) :
    Unwarned (ending (prepare index param1 param2 action before)) := by
  have fills (slot : Slot) : Keeps (fun controller : Controller β => (controller.state.ring.outstanding, controller.log)) never
      (fill index param1 slot : BridgeM β Unit) := by
    refine keeps_bind ⟨fun _ => rfl⟩ fun _ => keeps_bind (keeps_bind ⟨fun _ => rfl⟩ fun state => ?_) fun _ => ⟨fun _ => rfl⟩
    split
    · exact keeps_pure _ _ _
    · exact ⟨fun _ => rfl⟩
  let slot : Slot := { control := .forAction action (param1 >>> 5), byteCount := param2 }
  -- the slot is filled before its command is counted, and the count does not move until then
  obtain ⟨_, filled, filling, same⟩ := keeps_answers (fills slot) before
  obtain ⟨counted, logged⟩ := Prod.mk.inj same
  let flagged : Controller β := { filled with bus := (Bus.read filled.bus Reg.Transport.flags).2 }
  have settled : Unwarned (ending (settle index slot action flagged)) :=
    settle_unwarned index slot action (counted ▸ room) (unwarned_of_log logged unwarned)
  unfold prepare
  rw [bind_of_ok filling, bind_read]
  exact holds_after_bind settled fun _ => silent_unwarned fun _ => rfl

theorem accept_unwarned (index : SlotIndex) (param1 param2 : Byte) (action : Action) {before : Controller β}
    (room : before.state.ring.outstanding ≤ 31) (unwarned : Unwarned before) :
    Unwarned (ending (accept index param1 param2 action before)) := by
  rw [accept_prepares]
  refine holds_after_bind (prepare_unwarned index param1 param2 action room unwarned) fun flags => ?_
  refine preserves_bind (transfer_and_hand_off_unwarned flags index) fun _ => ?_
  unfold answer
  split
  · exact silent_unwarned fun _ => rfl
  · exact silent_unwarned fun _ => rfl

theorem held_unwarned (index : SlotIndex) : Preserves Unwarned (held index : BridgeM β Submission) := by
  refine preserves_bind (silent_unwarned fun _ => rfl) fun _ => preserves_bind (silent_unwarned fun _ => rfl) fun _ => ?_
  exact preserves_bind (emit_unwarned rfl) fun _ => silent_unwarned fun _ => rfl

end Submission

namespace Completion

theorem release_slot_unwarned (slot : SlotIndex) : Preserves Unwarned (releaseSlot slot : BridgeM β Bool) := by
  refine preserves_bind (silent_unwarned fun _ => rfl) fun state => ?_
  split
  · exact preserves_bind (emit_unwarned rfl) fun _ => silent_unwarned fun _ => rfl
  · exact silent_unwarned fun _ => rfl

theorem log_completion_unwarned (slot : SlotIndex) (wasInFlight : Bool) :
    Preserves Unwarned (logCompletion slot wasInFlight : BridgeM β Unit) := by
  unfold logCompletion
  split
  · exact silent_unwarned fun _ => rfl
  · exact emit_unwarned rfl

variable [Bus β]

theorem window_flags_unwarned (event counter : Byte) :
    Preserves Unwarned (windowFlags event counter : BridgeM β Byte) := by
  refine preserves_bind (silent_unwarned fun _ => rfl) fun settings => preserves_bind (silent_unwarned fun _ => rfl) fun waited => ?_
  split
  · exact silent_unwarned fun _ => rfl
  · exact preserves_bind (emit_unwarned rfl) fun _ => silent_unwarned fun _ => rfl

theorem retire_unwarned (event : Byte) : Preserves Unwarned (retire event : BridgeM β Completion) := by
  have rechecked : Preserves Unwarned (recheckCounter : BridgeM β Unit) := by
    refine preserves_bind (silent_unwarned fun _ => rfl) fun state => ?_
    split
    · exact preserves_bind (emit_unwarned rfl) fun _ => silent_unwarned fun _ => rfl
    · exact silent_unwarned fun _ => rfl
  refine preserves_bind (silent_unwarned fun _ => rfl) fun _ => preserves_bind (release_slot_unwarned _) fun wasInFlight => ?_
  refine preserves_bind (log_completion_unwarned _ _) fun _ => preserves_bind rechecked fun _ => ?_
  exact silent_unwarned fun _ => rfl

theorem handle_unwarned (event : Byte) : Preserves Unwarned (handle event : BridgeM β Completion) := by
  refine preserves_bind (silent_unwarned fun _ => rfl) fun _ => preserves_bind (silent_unwarned fun _ => rfl) fun counter => ?_
  refine preserves_bind (silent_unwarned fun _ => rfl) fun _ => preserves_bind (window_flags_unwarned _ _) fun flags => ?_
  refine preserves_bind (silent_unwarned fun _ => rfl) fun state => ?_
  split
  · exact retire_unwarned event
  · exact preserves_bind (emit_unwarned rfl) fun _ => silent_unwarned fun _ => rfl

end Completion

theorem service_unwarned [Bus β] (handler : EndpointHandler η β) (own : η) :
    Preserves Unwarned (Endpoint.service handler own) := by
  have rounds : Keeps Controller.log never (Endpoint.serviceRounds handler Endpoint.serviceBudget own) :=
    Endpoint.service_rounds_keeps (fun _ _ => rfl) (fun _ _ _ => ⟨fun _ => rfl⟩) _ _
  refine preserves_bind (kept_unwarned rounds) fun (handled, own) => ?_
  dsimp only
  split
  · exact preserves_bind (emit_unwarned rfl) fun _ => silent_unwarned fun _ => rfl
  · exact silent_unwarned fun _ => rfl

end StorageBridge
