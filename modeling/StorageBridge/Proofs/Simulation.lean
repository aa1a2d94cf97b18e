import StorageBridge.Proofs.Ledger

/-!
Every event acts on the ledger as its happening says. The stages of a submission are followed one by
one; each says what it does to the ledger, and the only stall after a slot is taken is the wait for an
idle engine.
-/

set_option autoImplicit false

namespace StorageBridge

open BridgeM

variable {η β : Type}

def ledgerOf (rest : Settings × State × Statistics) : Ledger :=
  { ring := rest.2.1.ring
    submitLog := rest.2.1.submitLog
    completeLog := rest.2.1.completeLog
    completions := rest.2.2.completions }

theorem ends_with_ledger {α γ : Type} {step : BridgeM β α} {next : α → BridgeM β γ}
    {holds : EStateM.Result Stall (Controller β) γ → Prop} {before : Controller β}
    (kept : Keeps Controller.ledger never step)
    (rest : ∀ value between, between.ledger = before.ledger → holds (next value between)) :
    holds ((step >>= next) before) :=
  ends_after_keeping kept rest

theorem answers_with_ledger {α γ : Type} {step : BridgeM β α} {next : α → BridgeM β γ}
    {answered : γ → Controller β → Prop} {before : Controller β} (kept : Keeps Controller.ledger never step)
    (rest : ∀ value between, between.ledger = before.ledger →
      ∃ answer after, next value between = .ok answer after ∧ answered answer after) :
    ∃ answer after, (step >>= next) before = .ok answer after ∧ answered answer after := by
  obtain ⟨value, between, ended, same⟩ := keeps_answers kept before
  rw [bind_of_ok ended]
  exact rest value between same

namespace Submission

theorem record_submission_ledger (before : Controller β) :
    ∃ after, recordSubmission before = .ok () after ∧ after.ledger = before.ledger.submitted := by
  simp only [recordSubmission, bind_get_state]
  by_cases saturated : before.state.ring.isSaturated = true
  · simp only [if_pos saturated]
    exact ⟨_, rfl, rfl⟩
  · simp only [if_neg saturated]
    exact ⟨_, rfl, rfl⟩

variable [Bus β]

theorem arm_burst_ledger (param1 : Byte) (before : Controller β) :
    ∃ after, armBurst param1 before = .ok () after ∧
      after.ledger = before.ledger.arm (SlotIndex.wrap param1) := by
  unfold armBurst
  rw [bind_get_state]
  cases busy : before.state.ring.busy with
  | true =>
      have running : before.ledger.arm (SlotIndex.wrap param1) = before.ledger := by
        simp only [Ledger.arm, Controller.ledger, busy, if_true]
      exact ⟨before, rfl, running.symm⟩
  | false =>
      have resting : before.ledger.arm (SlotIndex.wrap param1) =
          { before.ledger with ring := before.ledger.ring.arm (SlotIndex.wrap param1) } := by
        simp only [Ledger.arm, Controller.ledger, busy, Bool.false_eq_true, if_false]
      rw [resting]
      exact ⟨_, rfl, rfl⟩

theorem fill_slot_ledger (index : SlotIndex) (slot : Slot) (before : Controller β) :
    ∃ after, fillSlot index slot before = .ok () after ∧ after.ledger = before.ledger.occupy slot :=
  ⟨_, rfl, rfl⟩

theorem hand_off_ledger (before : Controller β) :
    ∃ after, handOff before = .ok () after ∧ after.ledger = before.ledger.handOff := by
  simp only [handOff, bind_modify_state, bind_get_state]
  by_cases last : before.state.ring.step.counter = 0
  · simp only [if_pos last]
    exact ⟨_, rfl, rfl⟩
  · simp only [if_neg last]
    exact ⟨_, rfl, rfl⟩

theorem transfer_and_hand_off_ledger (flags : TransferFlags) (index : SlotIndex) (before : Controller β) :
    (∃ after, transferAndHandOff flags index before = .ok () after ∧ after.ledger = before.ledger.handOff) ∨
      ∃ after, transferAndHandOff flags index before = .error Transfer.unready after ∧ after.ledger = before.ledger := by
  have kept : Keeps Controller.ledger (· = Transfer.unready) (Transfer.program flags index.toByte : BridgeM β Transfer) :=
    keeps_coarser (Transfer.program_keeps _ _) ledgerOf
  unfold transferAndHandOff
  cases programmed : Transfer.program flags index.toByte before with
  | ok transfer between =>
      left
      rw [bind_of_ok programmed, bind_modify_state]
      obtain ⟨after, ended, moved⟩ := hand_off_ledger
        { between with state := { between.state with transferActive := true } }
      have same : between.ledger = before.ledger := keeps_ok kept programmed
      exact ⟨after, ended, moved.trans (congrArg Ledger.handOff same)⟩
  | error stall after =>
      right
      obtain ⟨same, place⟩ := keeps_error kept programmed
      rw [bind_of_error programmed, place]
      exact ⟨after, rfl, same⟩

-- What is left to do once the slot is filled and counted: the transfer and the hand-off, or a stall.
inductive HandsOff (ledger : Ledger) : EStateM.Result Stall (Controller β) Submission → Prop where
  | handedOff (submission : Submission) (after : Controller β) (accepts : submission.accepts = true)
      (moved : after.ledger = ledger.handOff) : HandsOff ledger (.ok submission after)
  | unready (after : Controller β) (moved : after.ledger = ledger) : HandsOff ledger (.error Transfer.unready after)

theorem hands_off_of_transfer (flags : TransferFlags) (index : SlotIndex) (before : Controller β)
    (finish : BridgeM β Submission) (finishes : ∀ between, ∃ submission after, finish between = .ok submission after ∧
      submission.accepts = true ∧ after.ledger = between.ledger) :
    HandsOff before.ledger ((transferAndHandOff flags index >>= fun _ => finish) before) := by
  rcases transfer_and_hand_off_ledger flags index before with ⟨between, ended, moved⟩ | ⟨after, ended, same⟩
  · obtain ⟨submission, after, answered, accepts, same⟩ := finishes between
    rw [bind_of_ok ended, answered]
    exact .handedOff submission after accepts (same.trans moved)
  · rw [bind_of_error ended]
    exact .unready after same

theorem finish_extended_ledger (flags : TransferFlags) (index : SlotIndex) (before : Controller β) :
    HandsOff before.ledger.submitted (finishExtended flags index before) := by
  unfold finishExtended
  refine ends_with_ledger ⟨fun _ => rfl⟩ fun _ updated first => ?_
  refine ends_with_ledger ⟨fun _ => rfl⟩ fun _ told second => ?_
  refine ends_with_ledger ⟨fun _ => rfl⟩ fun head seen third => ?_
  refine ends_with_ledger ⟨fun _ => rfl⟩ fun _ measured fourth => ?_
  obtain ⟨counted, recorded, moved⟩ := record_submission_ledger measured
  rw [bind_of_ok recorded, ← first, ← second, ← third, ← fourth, ← moved]
  exact hands_off_of_transfer _ _ _ _ fun between => ⟨.queued, between, rfl, rfl, rfl⟩

theorem settle_window_ledger (index : SlotIndex) (needed byteCount : Byte) (before : Controller β) :
    ∃ after, settleWindow index needed byteCount before = .ok () after ∧
      after.ledger = if byteCount >>> 3 ≤ needed &&& 0x1F then before.ledger.clear index else before.ledger.submitted := by
  by_cases fits : byteCount >>> 3 ≤ needed &&& 0x1F
  · simp only [settleWindow, if_pos fits]
    exact ⟨_, rfl, rfl⟩
  · simp only [settleWindow, if_neg fits]
    obtain ⟨counted, recorded, moved⟩ := record_submission_ledger before
    rw [bind_of_ok recorded, ← moved]
    exact ⟨_, rfl, rfl⟩

theorem finish_simple_ledger (flags : TransferFlags) (index : SlotIndex) (inbound : Bool) (slot : Slot)
    (before : Controller β) :
    HandsOff
      (if slot.byteCount >>> 3 ≤ (windowClass inbound + slot.control.window) &&& 0x1F then before.ledger.clear index
        else before.ledger.submitted)
      (finishSimple flags index inbound slot before) := by
  unfold finishSimple
  obtain ⟨settled, ended, moved⟩ := settle_window_ledger index (windowClass inbound + slot.control.window) slot.byteCount before
  rw [bind_of_ok ended, ← moved]
  refine ends_with_ledger ⟨fun _ => rfl⟩ fun secondary seen first => ?_
  refine ends_with_ledger ⟨fun _ => rfl⟩ fun _ selected second => ?_
  refine ends_with_ledger ⟨fun _ => rfl⟩ fun _ resolved third => ?_
  rw [← first, ← second, ← third]
  exact hands_off_of_transfer _ _ _ _ fun between => ⟨_, between, rfl, rfl, rfl⟩

theorem finish_ledger (request : Request) (flags : TransferFlags) (index : SlotIndex) (before : Controller β) :
    HandsOff (if request.needsCommand then before.ledger.submitted else before.ledger.clear index)
      ((if request.action.isExtended then finishExtended flags index
        else finishSimple flags index request.action.isInbound request.slot) before) := by
  by_cases extended : request.action.isExtended
  · have needs : request.needsCommand = true := by rw [Request.needsCommand, extended, Bool.true_or]
    rw [if_pos extended, if_pos needs]
    exact finish_extended_ledger flags index before
  · rw [if_neg extended]
    have finished := finish_simple_ledger flags index request.action.isInbound request.slot before
    by_cases fits : 8 * (request.window + 1) ≤ request.param2.toNat
    · have needs : request.needsCommand = true := by simp only [Request.needsCommand, fits, decide_true, Bool.or_true]
      rw [if_pos needs]
      rwa [if_neg (fun less => request.fits_window_iff.mp less fits)] at finished
    · have spare : ¬ request.needsCommand = true := by simp [Request.needsCommand, extended, fits]
      rw [if_neg spare]
      rwa [if_pos (request.fits_window_iff.mpr fits)] at finished

theorem accept_ledger (request : Request) (before : Controller β) :
    HandsOff (before.ledger.accept request)
      (accept before.state.ring.index request.param1 request.param2 request.action before) := by
  unfold accept
  refine ends_with_ledger ⟨fun _ => rfl⟩ fun _ loaded first => ?_
  obtain ⟨armed, arming, second⟩ := arm_burst_ledger request.param1 loaded
  refine ends_of_ok arming ?_
  obtain ⟨filled, filling, third⟩ := fill_slot_ledger before.state.ring.index request.slot armed
  refine ends_of_ok filling ?_
  refine ends_with_ledger ⟨fun _ => rfl⟩ fun raw flagged fourth => ?_
  have taken : flagged.ledger = (before.ledger.arm (SlotIndex.wrap request.param1)).occupy request.slot := by
    rw [fourth, third, second, first]
  have finished := finish_ledger request (TransferFlags.ofByte raw) before.state.ring.index flagged
  rw [taken] at finished
  exact finished

theorem held_ledger (index : SlotIndex) (before : Controller β) :
    ∃ submission after, held index before = .ok submission after ∧ submission.accepts = false ∧
      after.ledger = before.ledger := by
  refine ⟨_, _, rfl, ?_, rfl⟩
  split
  · rfl
  · rfl

inductive Submitted (request : Request) (ledger : Ledger) : EStateM.Result Stall (Controller β) Submission → Prop where
  | declined (submission : Submission) (after : Controller β) (declines : submission.accepts = false)
      (kept : after.ledger = ledger) : Submitted request ledger (.ok submission after)
  | untrained (after : Controller β) (kept : after.ledger = ledger) :
      Submitted request ledger (.error Readiness.untrained after)
  | taken (result : EStateM.Result Stall (Controller β) Submission)
      (free : (ledger.ring.slot ledger.ring.index).isFree = true)
      (handsOff : HandsOff (ledger.accept request) result) : Submitted request ledger result

theorem place_ledger (request : Request) (before : Controller β) :
    Submitted request before.ledger (place request.param1 request.param2 request.action before) := by
  simp only [place, bind_get_state]
  by_cases free : (before.state.ring.slot before.state.ring.index).isFree = true
  · simp only [if_pos free]
    exact .taken _ free (accept_ledger request before)
  · simp only [if_neg free]
    obtain ⟨submission, after, ended, declines, kept⟩ := held_ledger before.state.ring.index before
    rw [ended]
    exact .declined submission after declines kept

theorem submit_ledger (request : Request) (before : Controller β) :
    Submitted request before.ledger (submit request.param1 request.param2 request.action before) := by
  have checkKept : Keeps Controller.ledger (· = Readiness.untrained) (Readiness.check : BridgeM β Readiness) :=
    keeps_coarser Readiness.check_keeps ledgerOf
  unfold submit
  refine ends_with_ledger ⟨fun _ => rfl⟩ fun noted asked first => ?_
  refine ends_with_ledger ⟨fun _ => rfl⟩ fun _ marked second => ?_
  rw [← first, ← second]
  cases checked : Readiness.check marked with
  | ok readiness between =>
      refine ends_of_ok checked ?_
      rw [← keeps_ok checkKept checked]
      by_cases proceeds : readiness.isProceed = true
      · rw [if_pos proceeds]
        exact place_ledger request between
      · rw [if_neg proceeds]
        exact .declined (.refused readiness) _ rfl rfl
  | error stall after =>
      obtain ⟨same, place⟩ := keeps_error checkKept checked
      rw [bind_of_error checked, place]
      exact .untrained after same

omit [Bus β] in
theorem submitted_moves {request : Request} {ledger : Ledger} {submission : Submission} {after : Controller β}
    (submitted : Submitted request ledger (.ok submission after)) :
    ledger.Moves (.ofRequest (some request) submission.accepts true) after.ledger := by
  cases submitted with
  | declined _ _ declines kept =>
      rw [declines]
      exact .other kept
  | taken _ free handsOff =>
      cases handsOff with
      | handedOff _ _ accepts moved =>
          rw [accepts]
          exact ⟨moved, fun _ _ _ => free⟩

omit [Bus β] in
theorem stalled_moves {request : Request} {ledger : Ledger} {stall : Stall} {after : Controller β}
    (submitted : Submitted request ledger (.error stall after)) :
    ledger.Moves (.ofRequest (some request) (stall = Transfer.unready) false) after.ledger := by
  cases submitted with
  | untrained _ kept => exact .other kept
  | taken _ free handsOff =>
      cases handsOff with
      | unready _ moved => exact ⟨moved, fun _ _ _ => free⟩

end Submission

namespace Transport

variable [Bus β]

theorem perform_submits (status : Byte) (action : Action) (before : Controller β) :
    ∃ between, perform status action before =
      Submission.submit (parameters before.bus).1 (parameters before.bus).2 action between ∧
        between.ledger = before.ledger :=
  ⟨_, rfl, rfl⟩

-- What a pass does with the transport: nothing, or it submits what the transport asks for.
inductive Classified (ledger : Ledger) : Option Request → EStateM.Result Stall (Controller β) (Option Submission) → Prop where
  | idle (after : Controller β) (kept : after.ledger = ledger) : Classified ledger none (.ok none after)
  | answered (request : Request) (submission : Submission) (after : Controller β)
      (moves : ledger.Moves (.ofRequest (some request) submission.accepts true) after.ledger) :
      Classified ledger (some request) (.ok (some submission) after)
  | stalled (request : Request) (stall : Stall) (after : Controller β)
      (moves : ledger.Moves (.ofRequest (some request) (stall = Transfer.unready) false) after.ledger) :
      Classified ledger (some request) (.error stall after)

theorem classify_ledger (before : Controller β) :
    Classified before.ledger (request? before.bus) (classify before) := by
  unfold classify request?
  rw [bind_read]
  dsimp only
  cases Action.ofStatus? (Bus.read before.bus Reg.Transport.status).1 with
  | none => exact .idle _ rfl
  | some action =>
      dsimp only [Option.map_some]
      let told : Controller β := { before with bus := (Bus.read before.bus Reg.Transport.status).2 }
      obtain ⟨between, performed, same⟩ := perform_submits (Bus.read before.bus Reg.Transport.status).1 action told
      let request : Request := { action, param1 := (parameters told.bus).1, param2 := (parameters told.bus).2 }
      have submitted := Submission.submit_ledger request between
      have entry : before.ledger = between.ledger := same.symm
      rw [entry]
      cases ended : Submission.submit request.param1 request.param2 request.action between with
      | ok submission after =>
          rw [ended] at submitted
          rw [bind_of_ok (performed.trans ended)]
          exact .answered request submission after (Submission.submitted_moves submitted)
      | error stall after =>
          rw [ended] at submitted
          rw [bind_of_error (performed.trans ended)]
          exact .stalled request stall after (Submission.stalled_moves submitted)

end Transport

namespace Completion

theorem release_slot_ledger (slot : SlotIndex) (before : Controller β) :
    ∃ after, releaseSlot slot before = .ok (!(before.state.ring.slot slot).isFree) after ∧
      after.ledger = { before.ledger with ring := before.ledger.ring.release slot } := by
  simp only [releaseSlot, bind_get_state]
  by_cases none : before.state.ring.outstanding = 0
  · simp only [if_pos none]
    exact ⟨_, rfl, rfl⟩
  · simp only [if_neg none]
    exact ⟨_, rfl, rfl⟩

theorem log_completion_ledger (slot : SlotIndex) (wasInFlight : Bool) (before : Controller β) :
    ∃ after, logCompletion slot wasInFlight before = .ok () after ∧
      after.ledger =
        if wasInFlight then
          { before.ledger with
            completeLog := (before.ledger.completeLog + 1) &&& 0x1F
            completions := countUp before.ledger.completions }
        else before.ledger := by
  cases wasInFlight with
  | true => exact ⟨_, rfl, rfl⟩
  | false => exact ⟨_, rfl, rfl⟩

variable [Bus β]

theorem recheck_counter_keeps : Keeps Controller.ledger never (recheckCounter : BridgeM β Unit) := by
  refine keeps_bind ⟨fun _ => rfl⟩ fun state => ?_
  split
  · exact ⟨fun _ => rfl⟩
  · exact keeps_pure _ _ _

theorem retire_ledger (event : Byte) (before : Controller β) :
    ∃ completion after, retire event before = .ok completion after ∧
      completion = .completed (SlotIndex.wrap event) ∧ after.ledger = before.ledger.retire (SlotIndex.wrap event) := by
  unfold retire
  refine answers_with_ledger ⟨fun _ => rfl⟩ fun _ acknowledged first => ?_
  obtain ⟨released, releasing, second⟩ := release_slot_ledger (SlotIndex.wrap event) acknowledged
  rw [bind_of_ok releasing]
  obtain ⟨logged, logging, third⟩ := log_completion_ledger (SlotIndex.wrap event)
    (!(acknowledged.state.ring.slot (SlotIndex.wrap event)).isFree) released
  rw [bind_of_ok logging]
  refine answers_with_ledger recheck_counter_keeps fun _ after fourth => ?_
  refine ⟨_, after, rfl, rfl, ?_⟩
  rw [fourth, third, second, ← first]
  cases free : (acknowledged.state.ring.slot (SlotIndex.wrap event)).isFree with
  | true => exact (if_pos free).symm
  | false =>
      have occupied : ¬ (acknowledged.ledger.ring.slot (SlotIndex.wrap event)).isFree = true := by
        simp [Controller.ledger, free]
      exact (if_neg occupied).symm

theorem handle_ledger (event : Byte) (before : Controller β) :
    ∃ completion after, handle event before = .ok completion after ∧
      ((completion = .completed (SlotIndex.wrap event) ∧ after.ledger = before.ledger.retire (SlotIndex.wrap event)) ∨
        ((∃ request, completion = .reset request) ∧ after.ledger = before.ledger)) := by
  unfold handle
  refine answers_with_ledger ⟨fun _ => rfl⟩ fun _ noted first => ?_
  refine answers_with_ledger ⟨fun _ => rfl⟩ fun counter counted second => ?_
  refine answers_with_ledger ⟨fun _ => rfl⟩ fun _ pulsed third => ?_
  refine answers_with_ledger (keeps_coarser (window_flags_keeps_state _ _) ledgerOf) fun flags shown fourth => ?_
  rw [bind_get_state, ← first, ← second, ← third, ← fourth]
  by_cases expected : flags = shown.state.expectedFlags
  · rw [if_pos expected]
    obtain ⟨completion, after, ended, completed, moved⟩ := retire_ledger event shown
    exact ⟨completion, after, ended, .inl ⟨completed, moved⟩⟩
  · rw [if_neg expected]
    exact ⟨_, _, rfl, .inr ⟨⟨_, rfl⟩, rfl⟩⟩

end Completion

namespace Controller

variable [Bus β]

inductive Polled (ledger : Ledger) (asked : Option Request) : EStateM.Result Stall (Controller β) (Pass × η) → Prop where
  | latched (request : ResetRequest) (own : η) (after : Controller β) (kept : after.ledger = ledger) :
      Polled ledger asked (.ok (.latched request, own) after)
  | idle (endpoints : ServiceSummary) (own : η) (after : Controller β) (kept : after.ledger = ledger) :
      Polled ledger asked (.ok (.done none endpoints, own) after)
  | answered (submission : Submission) (endpoints : ServiceSummary) (own : η) (after : Controller β)
      (moves : ledger.Moves (.ofRequest asked submission.accepts true) after.ledger) :
      Polled ledger asked (.ok (.done (some submission) endpoints, own) after)
  | stalled (stall : Stall) (after : Controller β)
      (moves : ledger.Moves (.ofRequest asked (stall = Transfer.unready) false) after.ledger) :
      Polled ledger asked (.error stall after)

theorem serve_ledger (handler : EndpointHandler η β) (own : η) (submission : Option Submission) (before : Controller β) :
    ∃ endpoints own' after,
      (do
        let (endpoints, own) ← Endpoint.service handler own
        pure (.done submission endpoints, own) : BridgeM β (Pass × η)) before =
          .ok (.done submission endpoints, own') after ∧
        after.ledger = before.ledger := by
  have kept : Keeps Controller.ledger never (Endpoint.service handler own) :=
    keeps_coarser (Endpoint.service_keeps handler own) ledgerOf
  obtain ⟨⟨endpoints, own'⟩, after, ended, same⟩ := keeps_answers kept before
  rw [bind_of_ok ended]
  exact ⟨endpoints, own', after, rfl, same⟩

theorem poll_ledger (handler : EndpointHandler η β) (own : η) (before : Controller β) :
    Polled before.ledger (Transport.request? before.bus) (poll handler own before) := by
  unfold poll
  rw [bind_get_state]
  cases before.state.reset with
  | some request => exact .latched request own before rfl
  | none =>
      let counted : Controller β :=
        { before with statistics := { before.statistics with passes := countUp before.statistics.passes } }
      have classified := Transport.classify_ledger counted
      change Polled counted.ledger (Transport.request? counted.bus) ((Transport.classify >>= _) counted)
      generalize Transport.request? counted.bus = asked at classified
      cases ended : Transport.classify counted with
      | ok submission between =>
          rw [ended] at classified
          rw [bind_of_ok ended]
          obtain ⟨endpoints, own', after, served, same⟩ := serve_ledger handler own submission between
          rw [served]
          cases classified with
          | idle _ kept => exact .idle endpoints own' after (same.trans kept)
          | answered request submission _ moves =>
              rw [← same] at moves
              exact .answered submission endpoints own' after moves
      | error stall after =>
          rw [ended] at classified
          rw [bind_of_error ended]
          cases classified with
          | stalled request _ _ moves => exact .stalled stall after moves

theorem complete_ledger (event : Byte) (before : Controller β) :
    ∃ result after, complete event before = .ok result after ∧
      before.ledger.Moves
        ((Event.completion event : Event β).happening (Transport.request? before.bus) (.completed result)) after.ledger := by
  unfold complete
  rw [bind_get_state]
  cases before.state.reset with
  | some request => exact ⟨_, before, rfl, .other rfl⟩
  | none =>
      obtain ⟨completion, after, ended, handled⟩ := Completion.handle_ledger event before
      dsimp only
      rw [bind_of_ok ended]
      refine ⟨_, after, rfl, ?_⟩
      rcases handled with ⟨rfl, moved⟩ | ⟨⟨request, rfl⟩, same⟩
      · exact ⟨moved, fun _ _ named => by cases named⟩
      · exact .other same

end Controller

theorem step_moves [Bus β] (step : Step β) : step.before.ledger.Moves step.happening step.after.ledger := by
  obtain ⟨before, event⟩ := step
  unfold Step.happening Step.answer Step.after
  cases event with
  | pass handler own =>
      have polled := Controller.poll_ledger handler own before
      dsimp only [Event.run]
      generalize Controller.poll handler own before = result at polled
      cases polled with
      | latched _ _ _ kept => exact .other kept
      | idle _ _ _ kept => exact .other kept
      | answered _ _ _ _ moves => exact moves
      | stalled _ _ moves => exact moves
  | completion event =>
      obtain ⟨result, after, ended, moves⟩ := Controller.complete_ledger event before
      dsimp only [Event.run]
      rw [ended]
      exact moves
  | takeRetry => exact .other rfl
  | flags fault commandActive transferState powerInit => exact .other rfl
  | hardware bus => exact .other rfl

-- What holds of the ledger and the history at the start and is kept by every move holds in every run.
theorem ledger_induction [Bus β] (holds : List Happening → Ledger → Prop) (controller : Controller β)
    (initial : holds [] controller.ledger)
    (next : ∀ happenings happening before after, before.Moves happening after → holds happenings before →
      holds (happenings ++ [happening]) after)
    (events : List (Event β)) :
    holds (Run.of controller events).happenings (Run.of controller events).controller.ledger := by
  refine Run.run_induction (fun run => holds run.happenings run.controller.ledger) controller initial ?_ events
  intro events event held
  rw [Run.happenings_extend]
  exact next _ _ _ _ (step_moves { before := (Run.of controller events).controller, event }) held

end StorageBridge
