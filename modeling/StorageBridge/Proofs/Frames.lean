import StorageBridge.Controller.Passes
import StorageBridge.Proofs.Execution

/-!
What each stage of the core may change, and where it may stall. The readiness check changes the
transfer flag, the mode and the retry request; programming the engine changes the mode and the last
transfer; a submission changes the queue beside them; endpoint service changes the dispatch offset; a
completion changes the ring and what the transfer status told. Two waits have no end: for a trained
link and for an idle engine.
-/

set_option autoImplicit false

namespace StorageBridge

open BridgeM

variable {η β : Type}

namespace Readiness

def untouched (controller : Controller β) : Settings × State × Statistics :=
  (controller.settings,
    { controller.state with transferActive := false, dmaMode := 0, retry := none },
    { controller.statistics with refusals := 0, retryRequests := 0 })

-- once the transfer is forgotten
def settled (controller : Controller β) : Settings × State × Statistics :=
  (controller.settings, { controller.state with retry := none },
    { controller.statistics with refusals := 0, retryRequests := 0 })

def forgetTransfer (controller : Controller β) : Controller β :=
  { controller with state := { controller.state with transferActive := false, dmaMode := 0 } }

def untrained : Stall := { address := Reg.Backend.linkStatus, mask := Reg.Backend.linkTrained }

theorem refuse_keeps (stalls : Stall → Prop) (readiness : Readiness) (request : RetryRequest) :
    Keeps settled stalls (refuse readiness request : BridgeM β Readiness) :=
  ⟨fun _ => rfl⟩

theorem keeps_untouched {stalls : Stall → Prop} {step : BridgeM β Readiness} (kept : Keeps settled stalls step) :
    Keeps untouched stalls step :=
  keeps_coarser kept fun rest => (rest.1, { rest.2.1 with transferActive := false, dmaMode := 0 }, rest.2.2)

variable [Bus β]

theorem check_rolling_keeps (stalls : Stall → Prop) :
    Keeps settled stalls (checkRolling : BridgeM β Readiness) := by
  refine keeps_bind ⟨fun _ => rfl⟩ fun status => ?_
  dsimp only
  split
  · exact keeps_pure _ _ _
  · exact refuse_keeps _ _ _

theorem recover_link_keeps : Keeps settled (· = untrained) (recoverLink : BridgeM β Bool) := by
  refine keeps_bind ⟨fun _ => rfl⟩ fun _ => ?_
  refine keeps_bind (keeps_wait (fun _ _ => rfl) _ _ rfl) fun _ => ?_
  exact keeps_bind ⟨fun _ => rfl⟩ fun _ => ⟨fun _ => rfl⟩

theorem check_drained_keeps : Keeps settled (· = untrained) (checkDrained : BridgeM β Readiness) := by
  refine keeps_bind ⟨fun _ => rfl⟩ fun state => ?_
  split
  · exact keeps_pure _ _ _
  · split
    · exact check_rolling_keeps _
    · refine keeps_bind recover_link_keeps fun up => ?_
      split
      · exact check_rolling_keeps _
      · exact keeps_bind ⟨fun _ => rfl⟩ fun _ => refuse_keeps _ _ _

theorem check_busy_keeps (depth : Option Byte) :
    Keeps settled (· = untrained) (checkBusy depth : BridgeM β Readiness) := by
  refine keeps_bind ⟨fun _ => rfl⟩ fun state => ?_
  have decided (busy : Bool) : Keeps settled (· = untrained)
      (if busy then pure .inProgress
        else if depth = some Reg.Backend.depthDrained then checkDrained else checkRolling : BridgeM β Readiness) := by
    split
    · exact keeps_pure _ _ _
    · split
      · exact check_drained_keeps
      · exact check_rolling_keeps _
  dsimp only
  split
  · exact keeps_bind (keeps_pure _ _ _) decided
  · exact keeps_bind ⟨fun _ => rfl⟩ fun _ => keeps_bind (keeps_pure _ _ _) decided

theorem check_depth_keeps : Keeps settled (· = untrained) (checkDepth : BridgeM β Readiness) := by
  refine keeps_bind ⟨fun _ => rfl⟩ fun depth => ?_
  split
  · exact keeps_bind ⟨fun _ => rfl⟩ fun _ => refuse_keeps _ _ _
  · exact check_busy_keeps _

-- the link check once it has forgotten the transfer
def lookAtLink : BridgeM β Readiness := do
  let up ← linkIsUp
  let state ← getState
  if state.commandActive then
    modifyByte Reg.Transport.flags Reg.Transport.secondary 0
    if up then checkDepth else checkBusy none
  else if up then checkDepth
  else refuse .notReady .linkDown

theorem check_link_forgets (before : Controller β) : checkLink before = lookAtLink (forgetTransfer before) := rfl

theorem look_at_link_keeps : Keeps settled (· = untrained) (lookAtLink : BridgeM β Readiness) := by
  refine keeps_bind ⟨fun _ => rfl⟩ fun up => keeps_bind ⟨fun _ => rfl⟩ fun state => ?_
  split
  · refine keeps_bind ⟨fun _ => rfl⟩ fun _ => ?_
    split
    · exact check_depth_keeps
    · exact check_busy_keeps _
  · split
    · exact check_depth_keeps
    · exact refuse_keeps _ _ _

theorem check_link_keeps : Keeps untouched (· = untrained) (checkLink : BridgeM β Readiness) :=
  ⟨fun before => (keeps_untouched look_at_link_keeps).ends (forgetTransfer before)⟩

theorem evaluate_keeps : Keeps untouched (· = untrained) (evaluate : BridgeM β Readiness) := by
  refine keeps_bind ⟨fun _ => rfl⟩ fun state => ?_
  split
  · exact keeps_untouched (refuse_keeps _ _ _)
  · exact check_link_keeps

theorem check_keeps : Keeps untouched (· = untrained) (check : BridgeM β Readiness) := by
  refine keeps_bind evaluate_keeps fun readiness => ?_
  split
  · exact keeps_pure _ _ _
  · exact keeps_bind ⟨fun _ => rfl⟩ fun _ => keeps_bind ⟨fun _ => rfl⟩ fun _ => keeps_pure _ _ _

-- A refusal is counted and logged; the check adds nothing else to the evaluation.
theorem check_ends (before : Controller β) : ∃ refusals log,
    ending (check before) = { ending (evaluate before) with
      statistics := { (ending (evaluate before)).statistics with refusals }, log } := by
  unfold check
  cases evaluated : evaluate before with
  | ok readiness between =>
      rw [bind_of_ok evaluated]
      cases proceeds : readiness.isProceed with
      | true => exact ⟨_, _, rfl⟩
      | false => exact ⟨_, _, rfl⟩
  | error stall stalled =>
      rw [bind_of_error evaluated]
      exact ⟨_, _, rfl⟩

end Readiness

namespace Transfer

def untouched (controller : Controller β) : Settings × State × Statistics :=
  (controller.settings, { controller.state with dmaMode := 0, lastTransfer := none }, controller.statistics)

def unready : Stall := { address := Reg.Dma.ready, mask := Reg.Dma.readyIdle }

variable [Bus β]

theorem source_keeps (stalls : Stall → Prop) (flags : TransferFlags) (channel : Byte) :
    Keeps untouched stalls (source flags channel : BridgeM β (Byte × Address)) := by
  unfold source
  split
  · exact ⟨fun _ => rfl⟩
  · exact ⟨fun _ => rfl⟩

theorem clear_tags_keeps (stalls : Stall → Prop) : Keeps untouched stalls (clearTags : BridgeM β Unit) :=
  keeps_bind (keeps_for_each (fun _ => ⟨fun _ => rfl⟩) _) fun _ => ⟨fun _ => rfl⟩

theorem write_normal_keeps (stalls : Stall → Prop) (flags : TransferFlags) (base : Address) (mode : Byte) :
    Keeps untouched stalls (writeNormal flags base mode : BridgeM β Transfer) := by
  refine keeps_bind ⟨fun _ => rfl⟩ fun _ => keeps_bind ⟨fun _ => rfl⟩ fun state => ?_
  split
  · exact ⟨fun _ => rfl⟩
  · exact keeps_pure _ _ _

theorem program_idle_keeps (stalls : Stall → Prop) (flags : TransferFlags) (channel : Byte) :
    Keeps untouched stalls (programIdle flags channel : BridgeM β Transfer) := by
  refine keeps_bind (source_keeps _ _ _) fun (mode, base) => ?_
  refine keeps_bind ⟨fun _ => rfl⟩ fun _ => keeps_bind ⟨fun _ => rfl⟩ fun _ => ?_
  refine keeps_bind (clear_tags_keeps _) fun _ => ?_
  dsimp only
  split
  · exact keeps_bind ⟨fun _ => rfl⟩ fun _ => ⟨fun _ => rfl⟩
  · exact keeps_bind (write_normal_keeps _ _ _ _) fun _ => ⟨fun _ => rfl⟩

theorem program_keeps (flags : TransferFlags) (channel : Byte) :
    Keeps untouched (· = unready) (program flags channel : BridgeM β Transfer) :=
  keeps_bind (keeps_wait (fun _ _ => rfl) _ _ rfl) fun _ => program_idle_keeps _ _ _

end Transfer

namespace Submission

def untouched (controller : Controller β) : Settings × State × Statistics :=
  (controller.settings,
    { controller.state with
      transferActive := false, dmaMode := 0, lastTransfer := none, bufferBase := 0, bufferOffset := 0
      ring := .empty, submitLog := 0, secondaryUpdate := false, indexDistance := 0
      lastAction := none, escalate := false, retry := none },
    { controller.statistics with refusals := 0, retryRequests := 0 })

-- beside the ring and the submission log
def offQueue (controller : Controller β) : Settings × State × Statistics :=
  (controller.settings, { controller.state with ring := .empty, submitLog := 0 }, controller.statistics)

def Stalls (stall : Stall) : Prop :=
  stall = Readiness.untrained ∨ stall = Transfer.unready

theorem keeps_beside_queue {α : Type} {stalls : Stall → Prop} {step : BridgeM β α} (kept : Keeps offQueue stalls step) :
    Keeps untouched stalls step :=
  keeps_coarser kept fun rest => (rest.1,
    { rest.2.1 with
      transferActive := false, dmaMode := 0, lastTransfer := none, bufferBase := 0, bufferOffset := 0
      secondaryUpdate := false, indexDistance := 0, lastAction := none, escalate := false, retry := none },
    { rest.2.2 with refusals := 0, retryRequests := 0 })

theorem record_submission_keeps (stalls : Stall → Prop) :
    Keeps offQueue stalls (recordSubmission : BridgeM β Unit) := by
  refine keeps_bind ⟨fun _ => rfl⟩ fun state => ?_
  split
  · exact ⟨fun _ => rfl⟩
  · exact ⟨fun _ => rfl⟩

variable [Bus β]

theorem arm_burst_keeps (stalls : Stall → Prop) (param1 : Byte) :
    Keeps offQueue stalls (armBurst param1 : BridgeM β Unit) := by
  refine keeps_bind ⟨fun _ => rfl⟩ fun state => ?_
  split
  · exact keeps_pure _ _ _
  · exact ⟨fun _ => rfl⟩

theorem hand_off_keeps (stalls : Stall → Prop) : Keeps offQueue stalls (handOff : BridgeM β Unit) := by
  refine keeps_bind ⟨fun _ => rfl⟩ fun _ => keeps_bind ⟨fun _ => rfl⟩ fun state => ?_
  split
  · exact ⟨fun _ => rfl⟩
  · exact ⟨fun _ => rfl⟩

theorem transfer_and_hand_off_keeps (flags : TransferFlags) (index : SlotIndex) :
    Keeps untouched Stalls (transferAndHandOff flags index : BridgeM β Unit) := by
  have programs : Keeps untouched (· = Transfer.unready) (Transfer.program flags index.toByte : BridgeM β Transfer) :=
    keeps_coarser (Transfer.program_keeps _ _) fun rest => (rest.1,
      { rest.2.1 with
        transferActive := false, bufferBase := 0, bufferOffset := 0, ring := .empty, submitLog := 0
        secondaryUpdate := false, indexDistance := 0, lastAction := none, escalate := false, retry := none },
      { rest.2.2 with refusals := 0, retryRequests := 0 })
  refine keeps_bind (keeps_with_stalls programs fun _ => .inr) fun _ => ?_
  exact keeps_bind ⟨fun _ => rfl⟩ fun _ => keeps_beside_queue (hand_off_keeps _)

theorem finish_extended_keeps (flags : TransferFlags) (index : SlotIndex) :
    Keeps untouched Stalls (finishExtended flags index : BridgeM β Submission) := by
  refine keeps_bind ⟨fun _ => rfl⟩ fun _ => keeps_bind ⟨fun _ => rfl⟩ fun _ => keeps_bind ⟨fun _ => rfl⟩ fun head => ?_
  refine keeps_bind ⟨fun _ => rfl⟩ fun _ => keeps_bind (keeps_beside_queue (record_submission_keeps _)) fun _ => ?_
  exact keeps_bind (transfer_and_hand_off_keeps _ _) fun _ => keeps_pure _ _ _

theorem settle_window_keeps (stalls : Stall → Prop) (index : SlotIndex) (needed byteCount : Byte) :
    Keeps offQueue stalls (settleWindow index needed byteCount : BridgeM β Unit) := by
  unfold settleWindow
  split
  · exact ⟨fun _ => rfl⟩
  · exact keeps_bind (record_submission_keeps _) fun _ => ⟨fun _ => rfl⟩

theorem finish_simple_keeps (flags : TransferFlags) (index : SlotIndex) (inbound : Bool) (slot : Slot) :
    Keeps untouched Stalls (finishSimple flags index inbound slot : BridgeM β Submission) := by
  refine keeps_bind (keeps_beside_queue (settle_window_keeps _ _ _ _)) fun _ => ?_
  refine keeps_bind ⟨fun _ => rfl⟩ fun secondary => ?_
  refine keeps_bind ⟨fun _ => rfl⟩ fun _ => keeps_bind ⟨fun _ => rfl⟩ fun _ => ?_
  exact keeps_bind (transfer_and_hand_off_keeps _ _) fun _ => keeps_bind ⟨fun _ => rfl⟩ fun _ => keeps_pure _ _ _

theorem accept_keeps (index : SlotIndex) (param1 param2 : Byte) (action : Action) :
    Keeps untouched Stalls (accept index param1 param2 action : BridgeM β Submission) := by
  refine keeps_bind ⟨fun _ => rfl⟩ fun _ => keeps_bind (keeps_beside_queue (arm_burst_keeps _ _)) fun _ => ?_
  refine keeps_bind ⟨fun _ => rfl⟩ fun _ => keeps_bind ⟨fun _ => rfl⟩ fun raw => ?_
  dsimp only
  split
  · exact finish_extended_keeps _ _
  · exact finish_simple_keeps _ _ _ _

theorem submit_keeps (param1 param2 : Byte) (action : Action) :
    Keeps untouched Stalls (submit param1 param2 action : BridgeM β Submission) := by
  have checks : Keeps untouched (· = Readiness.untrained) (Readiness.check : BridgeM β Readiness) :=
    keeps_coarser Readiness.check_keeps fun rest => (rest.1,
      { rest.2.1 with
        lastTransfer := none, bufferBase := 0, bufferOffset := 0, ring := .empty, submitLog := 0
        secondaryUpdate := false, indexDistance := 0, lastAction := none, escalate := false },
      rest.2.2)
  refine keeps_bind ⟨fun _ => rfl⟩ fun before => keeps_bind ⟨fun _ => rfl⟩ fun _ => ?_
  refine keeps_bind (keeps_with_stalls checks fun _ => .inl) fun readiness => ?_
  split
  · refine keeps_bind ⟨fun _ => rfl⟩ fun state => ?_
    dsimp only
    split
    · exact accept_keeps _ _ _ _
    · exact ⟨fun _ => rfl⟩
  · exact ⟨fun _ => rfl⟩

end Submission

namespace Transport

-- beside what a submission changes, the parameters that the transport shows
def untouched (controller : Controller β) : Settings × State × Statistics :=
  let rest := Submission.untouched controller
  (rest.1, { rest.2.1 with scratch := 0, coreState := (0, 0) }, { rest.2.2 with actions := 0, idle := 0 })

variable [Bus β]

theorem classify_keeps : Keeps untouched Submission.Stalls (classify : BridgeM β (Option Submission)) := by
  have submits (param1 param2 : Byte) (action : Action) :
      Keeps untouched Submission.Stalls (Submission.submit param1 param2 action : BridgeM β Submission) :=
    keeps_coarser (Submission.submit_keeps param1 param2 action) fun rest =>
      (rest.1, { rest.2.1 with scratch := 0, coreState := (0, 0) }, { rest.2.2 with actions := 0, idle := 0 })
  refine keeps_bind ⟨fun _ => rfl⟩ fun status => ?_
  split
  · refine keeps_bind ?_ fun _ => keeps_pure _ _ _
    refine keeps_bind ⟨fun _ => rfl⟩ fun low => keeps_bind ⟨fun _ => rfl⟩ fun high => keeps_bind ⟨fun _ => rfl⟩ fun _ => ?_
    refine keeps_bind ⟨fun _ => rfl⟩ fun param1 => keeps_bind ⟨fun _ => rfl⟩ fun param2 => ?_
    exact keeps_bind ⟨fun _ => rfl⟩ fun _ => keeps_bind ⟨fun _ => rfl⟩ fun _ => submits _ _ _
  · exact ⟨fun _ => rfl⟩

end Transport

namespace Completion

def untouched (controller : Controller β) : Settings × State × Statistics :=
  (controller.settings,
    { controller.state with
      ring := .empty, completeLog := 0, pendingEvent := 0, secondaryCounter := 0, expectedFlags := 0 },
    { controller.statistics with completions := 0 })

theorem release_slot_keeps (slot : SlotIndex) : Keeps untouched never (releaseSlot slot : BridgeM β Bool) := by
  refine keeps_bind ⟨fun _ => rfl⟩ fun state => ?_
  split
  · exact ⟨fun _ => rfl⟩
  · exact ⟨fun _ => rfl⟩

theorem log_completion_keeps (slot : SlotIndex) (wasInFlight : Bool) :
    Keeps untouched never (logCompletion slot wasInFlight : BridgeM β Unit) := by
  unfold logCompletion
  split
  · exact ⟨fun _ => rfl⟩
  · exact ⟨fun _ => rfl⟩

variable [Bus β]

theorem window_flags_keeps_state (event counter : Byte) :
    Keeps (fun controller => (controller.settings, controller.state, controller.statistics)) never
      (windowFlags event counter : BridgeM β Byte) := by
  refine keeps_bind ⟨fun _ => rfl⟩ fun settings => keeps_bind ⟨fun _ => rfl⟩ fun waited => ?_
  split
  · exact ⟨fun _ => rfl⟩
  · exact ⟨fun _ => rfl⟩

theorem retire_keeps (event : Byte) : Keeps untouched never (retire event : BridgeM β Completion) := by
  refine keeps_bind ⟨fun _ => rfl⟩ fun _ => keeps_bind (release_slot_keeps _) fun wasInFlight => ?_
  refine keeps_bind (log_completion_keeps _ _) fun _ => keeps_bind ?_ fun _ => keeps_pure _ _ _
  refine keeps_bind ⟨fun _ => rfl⟩ fun state => ?_
  split
  · exact ⟨fun _ => rfl⟩
  · exact keeps_pure _ _ _

-- what neither a retirement nor a flash transition changes
def aside (controller : Controller β) : Settings × State × Statistics :=
  let rest := untouched controller
  (rest.1, { rest.2.1 with flashTarget := 0, reset := none }, { rest.2.2 with resets := 0 })

theorem handle_keeps (event : Byte) : Keeps aside never (handle event : BridgeM β Completion) := by
  have shows (event counter : Byte) : Keeps aside never (windowFlags event counter : BridgeM β Byte) :=
    keeps_coarser (window_flags_keeps_state event counter) fun rest => (rest.1,
      { rest.2.1 with
        ring := .empty, completeLog := 0, pendingEvent := 0, secondaryCounter := 0, expectedFlags := 0
        flashTarget := 0, reset := none },
      { rest.2.2 with completions := 0, resets := 0 })
  have retires : Keeps aside never (retire event : BridgeM β Completion) :=
    keeps_coarser (retire_keeps event) fun rest =>
      (rest.1, { rest.2.1 with flashTarget := 0, reset := none }, { rest.2.2 with resets := 0 })
  refine keeps_bind ⟨fun _ => rfl⟩ fun _ => keeps_bind ⟨fun _ => rfl⟩ fun counter => keeps_bind ⟨fun _ => rfl⟩ fun _ => ?_
  refine keeps_bind (shows _ _) fun flags => keeps_bind ⟨fun _ => rfl⟩ fun state => ?_
  split
  · exact retires
  · exact ⟨fun _ => rfl⟩

end Completion

namespace Endpoint

def untouched (controller : Controller β) : Settings × State × Statistics :=
  (controller.settings, { controller.state with dispatchOffset := none },
    { controller.statistics with endpointEvents := 0, serviceExhausted := 0 })

variable [Bus β] {ν : Type} {view : Controller β → ν} {stalls : Stall → Prop}

theorem next_ready_keeps (blind : ∀ controller bus, view { controller with bus } = view controller) :
    Keeps view stalls (nextReady : BridgeM β (Option (EndpointIndex × EndpointIndex))) := by
  refine keeps_bind ⟨fun _ => blind _ _⟩ fun groups => ?_
  split
  · exact keeps_pure _ _ _
  · exact keeps_bind ⟨fun _ => blind _ _⟩ fun _ => keeps_pure _ _ _

-- What looking for an endpoint and serving one keep, all rounds keep.
theorem service_rounds_keeps {handler : EndpointHandler η β}
    (blind : ∀ controller bus, view { controller with bus } = view controller)
    (serves : ∀ group endpoint own, Keeps view stalls (serve handler group endpoint own)) (rounds : Nat) (own : η) :
    Keeps view stalls (serviceRounds handler rounds own) := by
  induction rounds generalizing own with
  | zero => exact keeps_pure _ _ _
  | succ rounds ih =>
      refine keeps_bind (next_ready_keeps blind) fun ready => ?_
      split
      · exact keeps_pure _ _ _
      · exact keeps_bind (serves _ _ own) fun own => keeps_bind (ih own) fun _ => keeps_pure _ _ _

theorem service_keeps (handler : EndpointHandler η β) (own : η) :
    Keeps untouched never (service handler own) := by
  have serves (group endpoint : EndpointIndex) (own : η) : Keeps untouched never (serve handler group endpoint own) :=
    ⟨fun _ => rfl⟩
  refine keeps_bind (service_rounds_keeps (fun _ _ => rfl) serves _ _) fun (handled, own) => ?_
  dsimp only
  split
  · exact ⟨fun _ => rfl⟩
  · exact keeps_pure _ _ _

end Endpoint

end StorageBridge
