import StorageBridge.Proofs.Refusals

/-!
How a pass runs. A latched one does nothing, an idle one services endpoints only, and any other
submits what the transport asks for. An action that is taken comes in three parts: its slot and its
flags are prepared, its transfer is programmed and handed off, and it is answered.
-/

set_option autoImplicit false

namespace StorageBridge

open BridgeM

def Answer.submission? : Answer → Option Submission
  | .passed (.done submission _) => submission
  | _ => none

variable {η β : Type} [Bus β]

namespace Readiness

theorem evaluate_of_unfaulted {before : Controller β} (unfaulted : before.state.fault = false) :
    evaluate before = lookAtLink (forgetTransfer before) := by
  unfold evaluate
  rw [bind_get_state, unfaulted, if_neg Bool.false_ne_true, check_link_forgets]

theorem unfaulted_of_checked {readiness : Readiness} {before after : Controller β}
    (checked : check before = .ok readiness after) (goesOn : readiness ≠ .notReady) : before.state.fault = false := by
  rw [Bool.eq_false_iff]
  intro faulted
  obtain ⟨_, refused, -⟩ := check_of_fault faulted
  exact goesOn (EStateM.Result.ok.inj (checked.symm.trans refused)).1

end Readiness

namespace Submission

theorem held_answers (index : SlotIndex) (before : Controller β) : ∃ transferring after,
    held index before = .ok (if transferring then .deferred else .busy) after ∧
      after.state = { before.state with escalate := before.state.escalate || transferring } :=
  ⟨_, _, rfl, rfl⟩

def fill (index : SlotIndex) (param1 : Byte) (slot : Slot) : BridgeM β Unit := do
  loadCounts
  armBurst param1
  fillSlot index slot

-- The extended path records a command; a simple action settles its window and picks its buffers.
def settle (index : SlotIndex) (slot : Slot) (action : Action) : BridgeM β Unit :=
  if action.isExtended then do
    modifyState fun state => { state with secondaryUpdate := true }
    modifyByte Reg.Backend.queueControl 0 Reg.Backend.queueSecondaryUpdate
    let head ← readByte Reg.Backend.head
    modifyState fun state =>
      { state with indexDistance := (state.ring.index.distanceFrom (SlotIndex.wrap head)).toByte }
    recordSubmission
  else do
    settleWindow index (windowClass action.isInbound + slot.control.window) slot.byteCount
    let secondary ← readByte Reg.Backend.status
    let _ ← Transfer.selectBuffer (if action.isInbound then 1 else 0)
    let _ ← Transfer.resolveSecondary secondary
    pure ()

-- The path of the action decides the buffer control, whatever the transport says.
def flagsFor (action : Action) (raw : Byte) : TransferFlags :=
  if action.isExtended then (TransferFlags.ofByte raw).withExtended else (TransferFlags.ofByte raw).withoutExtended

-- All that is done for an action before its transfer. The flags are those of the transfer.
def prepare (index : SlotIndex) (param1 param2 : Byte) (action : Action) : BridgeM β TransferFlags := do
  let slot : Slot := { control := .forAction action (param1 >>> 5), byteCount := param2 }
  fill index param1 slot
  let raw ← readByte Reg.Transport.flags
  settle index slot action
  pure (flagsFor action raw)

omit [Bus β] in
def answer (action : Action) : BridgeM β Submission :=
  if action.isExtended then pure .queued
  else do
    let settings ← getSettings
    pure (.inProgress settings.inProgress)

theorem accept_prepares (index : SlotIndex) (param1 param2 : Byte) (action : Action) :
    (accept index param1 param2 action : BridgeM β Submission) =
      prepare index param1 param2 action >>= fun flags =>
        transferAndHandOff flags index >>= fun _ => answer action := by
  cases extended : action.isExtended with
  | true =>
      simp only [accept, prepare, fill, settle, flagsFor, answer, extended, finishExtended, if_true, bind_assoc, pure_bind]
  | false =>
      simp only [accept, prepare, fill, settle, flagsFor, answer, extended, finishSimple, Bool.false_eq_true, if_false,
        bind_assoc, pure_bind]

-- what preparing an action does not change
def unprepared (controller : Controller β) : Settings × State × Statistics :=
  (controller.settings,
    { controller.state with
      ring := .empty, submitLog := 0, secondaryUpdate := false, indexDistance := 0, bufferBase := 0, bufferOffset := 0 },
    controller.statistics)

theorem fill_keeps (index : SlotIndex) (param1 : Byte) (slot : Slot) :
    Keeps offQueue never (fill index param1 slot : BridgeM β Unit) :=
  keeps_bind ⟨fun _ => rfl⟩ fun _ => keeps_bind (arm_burst_keeps _ _) fun _ => ⟨fun _ => rfl⟩

omit [Bus β] in
theorem keeps_unprepared {α : Type} {step : BridgeM β α} (kept : Keeps offQueue never step) : Keeps unprepared never step :=
  keeps_coarser kept fun rest =>
    (rest.1, { rest.2.1 with secondaryUpdate := false, indexDistance := 0, bufferBase := 0, bufferOffset := 0 }, rest.2.2)

theorem settle_keeps (index : SlotIndex) (slot : Slot) (action : Action) :
    Keeps unprepared never (settle index slot action : BridgeM β Unit) := by
  unfold settle
  split
  · refine keeps_bind ⟨fun _ => rfl⟩ fun _ => keeps_bind ⟨fun _ => rfl⟩ fun _ => keeps_bind ⟨fun _ => rfl⟩ fun head => ?_
    exact keeps_bind ⟨fun _ => rfl⟩ fun _ => keeps_unprepared (record_submission_keeps _)
  · refine keeps_bind (keeps_unprepared (settle_window_keeps _ _ _ _)) fun _ => keeps_bind ⟨fun _ => rfl⟩ fun secondary => ?_
    exact keeps_bind ⟨fun _ => rfl⟩ fun _ => ⟨fun _ => rfl⟩

theorem prepare_keeps (index : SlotIndex) (param1 param2 : Byte) (action : Action) :
    Keeps unprepared never (prepare index param1 param2 action : BridgeM β TransferFlags) := by
  refine keeps_bind (keeps_unprepared (fill_keeps _ _ _)) fun _ => keeps_bind ⟨fun _ => rfl⟩ fun raw => ?_
  exact keeps_bind (settle_keeps _ _ _) fun _ => keeps_pure _ _ _

omit [Bus β] in
theorem prepared_answers (action : Action) (before : Controller β) :
    ∃ submission, answer action before = .ok submission before ∧ submission.accepts = true := by
  unfold answer
  split
  · exact ⟨_, rfl, rfl⟩
  · exact ⟨_, rfl, rfl⟩

end Submission

namespace Transport

-- the bus once the status byte, the state of the core and the parameters are read
def heard (bus : β) : β :=
  let bus := (Bus.read bus Reg.Transport.status).2
  let bus := (Bus.read bus Reg.Transport.coreLow).2
  let bus := (Bus.read bus Reg.Transport.coreHigh).2
  let bus := (Bus.read bus Reg.Transport.param1).2
  (Bus.read bus Reg.Transport.param2).2

-- A submission begins with the state of the core taken over from the transport.
structure Begins (before begun : Controller β) : Prop where
  bus : begun.bus = heard before.bus
  settings : begun.settings = before.settings
  state : ∃ coreState, begun.state = { before.state with scratch := 0, coreState }

end Transport

namespace Controller

-- All ways in which a pass can end.
inductive Passed (handler : EndpointHandler η β) (own : η) (before : Controller β) :
    EStateM.Result Stall (Controller β) (Pass × η) → Prop where
  | latched (request : ResetRequest) (closed : before.state.reset = some request) :
      Passed handler own before (.ok (.latched request, own) before)
  | idle (between after : Controller β) (endpoints : ServiceSummary) (own' : η) (unlatched : before.state.reset = none)
      (unasked : Transport.request? before.bus = none) (settings : between.settings = before.settings)
      (state : between.state = before.state) (served : Endpoint.service handler own between = .ok (endpoints, own') after) :
      Passed handler own before (.ok (.done none endpoints, own') after)
  | answered (request : Request) (begun between after : Controller β) (submission : Submission)
      (endpoints : ServiceSummary) (own' : η) (unlatched : before.state.reset = none)
      (asked : Transport.request? before.bus = some request) (begins : Transport.Begins before begun)
      (submitted : Submission.submit request.param1 request.param2 request.action begun = .ok submission between)
      (served : Endpoint.service handler own between = .ok (endpoints, own') after) :
      Passed handler own before (.ok (.done (some submission) endpoints, own') after)
  | stalled (request : Request) (begun after : Controller β) (stall : Stall) (unlatched : before.state.reset = none)
      (asked : Transport.request? before.bus = some request) (begins : Transport.Begins before begun)
      (submitted : Submission.submit request.param1 request.param2 request.action begun = .error stall after) :
      Passed handler own before (.error stall after)

theorem service_answers (handler : EndpointHandler η β) (own : η) (before : Controller β) :
    ∃ endpoints own' after, Endpoint.service handler own before = .ok (endpoints, own') after := by
  obtain ⟨⟨endpoints, own'⟩, after, ended, -⟩ := keeps_answers (Endpoint.service_keeps handler own) before
  exact ⟨endpoints, own', after, ended⟩

theorem poll_passed (handler : EndpointHandler η β) (own : η) (before : Controller β) :
    Passed handler own before (poll handler own before) := by
  unfold poll
  rw [bind_get_state]
  cases closed : before.state.reset with
  | some request => exact .latched request closed
  | none =>
      let counted : Controller β :=
        { before with statistics := { before.statistics with passes := countUp before.statistics.passes } }
      let seen := Bus.read before.bus Reg.Transport.status
      let told : Controller β := { counted with bus := seen.2 }
      change Passed handler own before ((Transport.classify >>= _) counted)
      cases asked : Action.ofStatus? seen.1 with
      | none =>
          have unasked : Transport.request? before.bus = none := Option.map_eq_none_iff.mpr asked
          obtain ⟨between, idle, settings, state⟩ : ∃ between, Transport.classify counted = .ok none between ∧
              between.settings = before.settings ∧ between.state = before.state := by
            simp only [Transport.classify, bind_read, counted, seen] at asked ⊢
            rw [asked]
            exact ⟨_, rfl, rfl, rfl⟩
          obtain ⟨endpoints, own', after, served⟩ := service_answers handler own between
          rw [bind_of_ok idle, bind_of_ok served]
          exact .idle between after endpoints own' closed unasked settings state served
      | some action =>
          let request : Request :=
            { action, param1 := (Transport.parameters seen.2).1, param2 := (Transport.parameters seen.2).2 }
          have requested : Transport.request? before.bus = some request := by
            unfold Transport.request?
            exact congrArg (Option.map _) asked
          obtain ⟨begun, performed, begins⟩ : ∃ begun, Transport.perform seen.1 action told =
              Submission.submit request.param1 request.param2 request.action begun ∧ Transport.Begins before begun :=
            ⟨_, rfl, rfl, rfl, _, rfl⟩
          have classified : Transport.classify counted =
              (Transport.perform seen.1 action >>= fun submission => pure (some submission)) told := by
            simp only [Transport.classify, bind_read, counted, seen] at asked ⊢
            rw [asked]
          cases ended : Submission.submit request.param1 request.param2 request.action begun with
          | ok submission between =>
              rw [bind_of_ok (performed.trans ended)] at classified
              obtain ⟨endpoints, own', after, served⟩ := service_answers handler own between
              rw [bind_of_ok classified, bind_of_ok served]
              exact .answered request begun between after submission endpoints own' closed requested begins ended served
          | error stall after =>
              rw [bind_of_error (performed.trans ended)] at classified
              rw [bind_of_error classified]
              exact .stalled request begun after stall closed requested begins ended

-- the step of a run that a pass makes
theorem pass_step (handler : EndpointHandler η β) (own : η) (before : Controller β) :
    let step : Step β := { before, event := .pass handler own }
    ∃ result, Passed handler own before result ∧
      step.answer = (Answer.ofResult (fun answer => .passed answer.1) result).1 ∧
      step.after = (Answer.ofResult (fun answer => .passed answer.1) result).2 :=
  ⟨_, poll_passed handler own before, rfl, rfl⟩

theorem complete_keeps (event : Byte) :
    Keeps Completion.aside never (complete event : BridgeM β (Except RequestError Completion)) := by
  refine keeps_bind ⟨fun _ => rfl⟩ fun state => ?_
  split
  · exact keeps_pure _ _ _
  · exact keeps_bind (Completion.handle_keeps event) fun _ => keeps_pure _ _ _

end Controller

end StorageBridge
