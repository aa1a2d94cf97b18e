import StorageBridge.Proofs.Refusals

/-!
The retry requests of a controller. Whoever leaves them, the pending one is the latest among those of
the highest priority since one was last taken. A pass leaves one exactly when it answers with a refusal
other than a busy engine or a drained queue.
-/

set_option autoImplicit false

namespace StorageBridge

open BridgeM

variable {η β : Type}

namespace RetryRequest

-- The latest of the requests with the highest priority; the list is oldest first.
def Foremost (requests : List RetryRequest) (request : RetryRequest) : Prop :=
  ∃ earlier later, requests = earlier ++ request :: later ∧
    (∀ other ∈ earlier, other.priority ≤ request.priority) ∧ ∀ other ∈ later, other.priority < request.priority

-- what is pending when these requests were left since the last take
def Settled (since : List RetryRequest) : Option RetryRequest → Prop
  | none => since = []
  | some request => Foremost since request

theorem foremost_unique {requests : List RetryRequest} {one other : RetryRequest} (first : Foremost requests one)
    (second : Foremost requests other) : one = other := by
  obtain ⟨earlier, later, rfl, below, above⟩ := first
  obtain ⟨earlier', later', same, below', above'⟩ := second
  rcases List.append_eq_append_iff.mp same with ⟨between, rfl, rest⟩ | ⟨between, rfl, rest⟩
  · cases between with
    | nil => exact (List.cons.inj rest).1
    | cons next more =>
        obtain ⟨rfl, rfl⟩ := List.cons.inj rest
        have less := above other (by simp)
        have least := below' one (by simp)
        exact absurd less (UInt8.not_lt.mpr least)
  · cases between with
    | nil => exact (List.cons.inj rest).1.symm
    | cons next more =>
        obtain ⟨rfl, rfl⟩ := List.cons.inj rest
        have less := above' one (by simp)
        have least := below other (by simp)
        exact absurd less (UInt8.not_lt.mpr least)

theorem foremost_is_highest {requests : List RetryRequest} {request : RetryRequest} (foremost : Foremost requests request) :
    ∀ other ∈ requests, other.priority ≤ request.priority := by
  obtain ⟨earlier, later, rfl, below, above⟩ := foremost
  intro other member
  rcases List.mem_append.mp member with before | here
  · exact below other before
  · rcases List.mem_cons.mp here with rfl | after
    · exact UInt8.le_refl _
    · exact UInt8.le_of_lt (above other after)

theorem settled_next {since : List RetryRequest} {pending : Option RetryRequest} (settled : Settled since pending)
    (request : RetryRequest) : Settled (since ++ [request]) (some (settle pending request)) := by
  cases pending with
  | none =>
      obtain rfl : since = [] := settled
      exact ⟨[], [], rfl, by simp, by simp⟩
  | some current =>
      have foremost : Foremost since current := settled
      by_cases lower : request.priority < current.priority
      · obtain ⟨earlier, later, rfl, below, above⟩ := foremost
        rw [settle, if_pos lower]
        refine ⟨earlier, later ++ [request], by simp, below, fun other member => ?_⟩
        rcases List.mem_append.mp member with before | here
        · exact above other before
        · rwa [List.mem_singleton.mp here]
      · rw [settle, if_neg lower]
        refine ⟨since, [], rfl, fun other member => ?_, by simp⟩
        exact UInt8.le_trans (foremost_is_highest foremost other member) (UInt8.not_lt.mp lower)

theorem settle_priority (pending : Option RetryRequest) (request : RetryRequest) :
    request.priority ≤ (settle pending request).priority := by
  cases pending with
  | none => exact UInt8.le_refl _
  | some current =>
      by_cases lower : request.priority < current.priority
      · rw [settle, if_pos lower]
        exact UInt8.le_of_lt lower
      · rw [settle, if_neg lower]
        exact UInt8.le_refl _

theorem settled_iff {since : List RetryRequest} {pending : Option RetryRequest} (settled : Settled since pending) :
    (∀ request, pending = some request ↔ Foremost since request) ∧ (pending = none ↔ since = []) := by
  cases pending with
  | none =>
      obtain rfl : since = [] := settled
      refine ⟨fun request => ⟨?_, ?_⟩, by simp⟩
      · rintro ⟨⟩
      · rintro ⟨earlier, later, split, -⟩
        simp at split
  | some current =>
      have foremost : Foremost since current := settled
      refine ⟨fun request => ⟨?_, fun other => ?_⟩, ?_⟩
      · rintro ⟨⟩
        exact foremost
      · rw [foremost_unique foremost other]
      · obtain ⟨earlier, later, rfl, -⟩ := foremost
        simp

end RetryRequest

-- Each request that is left behind is logged, whether it stays pending or not.
def LogEvent.request? : LogEvent → Option RetryRequest
  | .retryKept _ request => some request
  | .retryRecorded request => some request
  | _ => none

-- the requests left so far, the pending one, and how many the statistics count
structure RetryChannel where
  left : List RetryRequest
  pending : Option RetryRequest
  counted : UInt32

-- A request that is left behind is settled against the pending one. Not every one is counted.
def RetryChannel.leave (channel : RetryChannel) (counts : Bool) : Option RetryRequest → RetryChannel
  | some request =>
      { left := channel.left ++ [request]
        pending := some (RetryRequest.settle channel.pending request)
        counted := if counts then countUp channel.counted else channel.counted }
  | none => channel

def Controller.channel (controller : Controller β) : RetryChannel :=
  { left := controller.log.toList.filterMap LogEvent.request?
    pending := controller.state.retry
    counted := controller.statistics.retryRequests }

theorem keeps_emit {stalls : Stall → Prop} {event : LogEvent} (other : event.request? = none) :
    Keeps Controller.channel stalls (emit event : BridgeM β Unit) :=
  ⟨fun before => by simp [emit, Controller.channel, other]⟩

theorem record_retry_channel (request : RetryRequest) (before : Controller β) :
    (ending (recordRetry request before)).channel = before.channel.leave false (some request) := by
  have logged : (retryEvent before.state.retry request).request? = some request := by
    unfold retryEvent
    split
    · split
      · rfl
      · rfl
    · rfl
  unfold recordRetry
  rw [bind_get_state]
  change RetryChannel.mk ((before.log.push (retryEvent before.state.retry request)).toList.filterMap _)
    (some (RetryRequest.settle before.state.retry request)) before.statistics.retryRequests = _
  simp [RetryChannel.leave, Controller.channel, logged]

theorem raise_retry_channel (request : RetryRequest) (before : Controller β) :
    (ending (raiseRetry request before)).channel = before.channel.leave true (some request) :=
  congrArg (fun channel : RetryChannel => { channel with counted := countUp before.statistics.retryRequests })
    (record_retry_channel request before)

-- An answer that asks for a retry leaves one request behind; any other answer, and a stall, leave none.
def Leaves {α : Type} (asks : α → Bool) (before : Controller β) : EStateM.Result Stall (Controller β) α → Prop
  | .ok value after => ∃ request?, request?.isSome = asks value ∧ after.channel = before.channel.leave true request?
  | .error _ after => after.channel = before.channel

theorem leaves_of_keeps {α : Type} {stalls : Stall → Prop} {asks : α → Bool} {step : BridgeM β α}
    (kept : Keeps Controller.channel stalls step) (before : Controller β)
    (silent : ∀ value after, step before = .ok value after → asks value = false) : Leaves asks before (step before) := by
  cases ended : step before with
  | ok value after => exact ⟨none, (silent value after ended).symm, keeps_ok kept ended⟩
  | error stall after => exact (keeps_error kept ended).1

theorem leaves_from {α : Type} {asks : α → Bool} {before between : Controller β} (same : between.channel = before.channel)
    {result : EStateM.Result Stall (Controller β) α} (leaves : Leaves asks between result) : Leaves asks before result := by
  cases result with
  | ok value after =>
      obtain ⟨request?, asked, left⟩ := leaves
      exact ⟨request?, asked, by rw [left, same]⟩
  | error stall after => exact Eq.trans leaves same

theorem leaves_then_keeps {α γ : Type} {asks : α → Bool} {asks' : γ → Bool} {step : BridgeM β α} {next : α → BridgeM β γ}
    {before : Controller β} (leaves : Leaves asks before (step before))
    (keeps : ∀ value, Keeps Controller.channel never (next value))
    (answers : ∀ value between answer after, next value between = .ok answer after → asks' answer = asks value) :
    Leaves asks' before ((step >>= next) before) := by
  cases started : step before with
  | error stall after =>
      rw [bind_of_error started]
      rwa [started] at leaves
  | ok value between =>
      rw [started] at leaves
      obtain ⟨request?, asked, left⟩ := leaves
      obtain ⟨answer, after, ended, kept⟩ := keeps_answers (keeps value) between
      rw [bind_of_ok started, ended]
      exact ⟨request?, by rw [answers value between answer after ended, asked], by rw [kept, left]⟩

namespace Readiness

def asks : Readiness → Bool
  | notReady | retry | reject _ => true
  | _ => false

theorem refuse_leaves {readiness : Readiness} (asking : readiness.asks = true) (request : RetryRequest)
    (before : Controller β) : Leaves asks before (refuse readiness request before) :=
  ⟨some request, asking.symm, raise_retry_channel request before⟩

-- a row with a verdict asks for a retry, whatever its code decodes to
theorem row_asks {status : Byte} (refuses : (RollingRow.ofStatus status).verdict ≠ 0) :
    (ofCode (RollingRow.ofStatus status).verdict).asks = true := by
  unfold RollingRow.ofStatus at refuses ⊢
  split
  · rfl
  · rfl
  · rename_i low throttled resynchronised
    split at refuses
    · exact (throttled ‹_›).elim
    · exact (resynchronised ‹_›).elim
    · exact (refuses rfl).elim

variable [Bus β]

theorem check_rolling_leaves (before : Controller β) : Leaves asks before (checkRolling before) := by
  unfold checkRolling
  rw [bind_read]
  by_cases passes : (RollingRow.ofStatus (Bus.read before.bus Reg.Backend.rollingStatus).1).verdict = 0
  · simp only [if_pos passes]
    exact ⟨none, rfl, rfl⟩
  · simp only [if_neg passes]
    refine leaves_from ?_ (refuse_leaves (row_asks passes) _ _)
    rfl

theorem after_recover_leaves (before : Controller β) : Leaves asks before (afterRecover before) := by
  have waits : Keeps Controller.channel (· = untrained) (awaitLink : BridgeM β Bool) :=
    keeps_bind (keeps_wait (fun _ _ => rfl) _ _ rfl) fun _ => keeps_bind ⟨fun _ => rfl⟩ fun _ => ⟨fun _ => rfl⟩
  unfold afterRecover
  cases awaited : awaitLink before with
  | error stall after =>
      rw [bind_of_error awaited]
      exact (keeps_error waits awaited).1
  | ok up between =>
      rw [bind_of_ok awaited]
      refine leaves_from (keeps_ok waits awaited) ?_
      cases up with
      | true => exact check_rolling_leaves between
      | false =>
          have reported : Keeps Controller.channel never (emit .recoveryFailed : BridgeM β Unit) := keeps_emit rfl
          exact leaves_from (reported.ends between) (refuse_leaves (by rfl) _ _)

theorem past_engine_channel (before : Controller β) : (pastEngine (atEngine before)).channel = before.channel := by
  unfold pastEngine atEngine
  split
  · rfl
  · rfl

theorem evaluate_leaves (before : Controller β) : Leaves asks before (evaluate before) := by
  have decided := evaluate_decides before
  have past := past_engine_channel before
  generalize evaluate before = result at decided
  cases decided with
  | fault faulted => exact refuse_leaves rfl _ _
  | linkDown unfaulted inactive down =>
      refine leaves_from ?_ (refuse_leaves rfl _ _)
      rfl
  | full unfaulted up full =>
      refine leaves_from ?_ (refuse_leaves rfl _ _)
      rfl
  | busy unfaulted busy => exact ⟨none, rfl, past⟩
  | waiting drained differ => exact ⟨none, rfl, past⟩
  | retraining retrains =>
      refine leaves_from ?_ (after_recover_leaves _)
      exact past
  | rolling unfaulted idle spared => exact leaves_from past (check_rolling_leaves _)

theorem check_leaves (before : Controller β) : Leaves asks before (check before) := by
  have reports (readiness : Readiness) : Keeps Controller.channel never (report readiness : BridgeM β Readiness) := by
    unfold report
    split
    · exact keeps_pure _ _ _
    · exact keeps_bind ⟨fun _ => rfl⟩ fun _ => keeps_bind (keeps_emit rfl) fun _ => keeps_pure _ _ _
  refine leaves_then_keeps (evaluate_leaves before) reports ?_
  intro readiness between answer after ended
  split at ended
  · cases ended
    rfl
  · cases ended
    rfl

end Readiness

namespace Transfer

variable [Bus β]

theorem program_channel (flags : TransferFlags) (channel : Byte) :
    Keeps Controller.channel (· = unready) (program flags channel : BridgeM β Transfer) := by
  have sourced : Keeps Controller.channel (· = unready) (source flags channel : BridgeM β (Byte × Address)) := by
    unfold source
    split
    · exact ⟨fun _ => rfl⟩
    · exact ⟨fun _ => rfl⟩
  have buffered (base : Address) (mode : Byte) :
      Keeps Controller.channel (· = unready) (writeNormal flags base mode : BridgeM β Transfer) := by
    refine keeps_bind ⟨fun _ => rfl⟩ fun _ => keeps_bind ⟨fun _ => rfl⟩ fun state => ?_
    split
    · exact ⟨fun _ => rfl⟩
    · exact keeps_pure _ _ _
  refine keeps_bind (keeps_wait (fun _ _ => rfl) _ _ rfl) fun _ => keeps_bind sourced fun (mode, base) => ?_
  refine keeps_bind ⟨fun _ => rfl⟩ fun _ => keeps_bind ⟨fun _ => rfl⟩ fun _ => ?_
  refine keeps_bind (keeps_bind (keeps_for_each (fun _ => ⟨fun _ => rfl⟩) _) fun _ => ⟨fun _ => rfl⟩) fun _ => ?_
  have reported (transfer : Transfer) : Keeps Controller.channel (· = unready) (do
      emit (.transferProgrammed transfer)
      modifyState fun state => { state with lastTransfer := some transfer }
      pure transfer : BridgeM β Transfer) :=
    keeps_bind (keeps_emit rfl) fun _ => keeps_bind ⟨fun _ => rfl⟩ fun _ => keeps_pure _ _ _
  dsimp only
  split
  · exact keeps_bind ⟨fun _ => rfl⟩ reported
  · exact keeps_bind (buffered base mode) reported

end Transfer

namespace Submission

def asks : Submission → Bool
  | refused readiness => readiness.asks
  | _ => false

theorem record_submission_channel (stalls : Stall → Prop) :
    Keeps Controller.channel stalls (recordSubmission : BridgeM β Unit) := by
  refine keeps_bind ⟨fun _ => rfl⟩ fun state => ?_
  split
  · exact keeps_bind (keeps_emit rfl) fun _ => ⟨fun _ => rfl⟩
  · exact ⟨fun _ => rfl⟩

variable [Bus β]

theorem transfer_and_hand_off_channel (flags : TransferFlags) (index : SlotIndex) :
    Keeps Controller.channel (· = Transfer.unready) (transferAndHandOff flags index : BridgeM β Unit) := by
  refine keeps_bind (Transfer.program_channel _ _) fun _ => keeps_bind ⟨fun _ => rfl⟩ fun _ => ?_
  refine keeps_bind ⟨fun _ => rfl⟩ fun _ => keeps_bind ⟨fun _ => rfl⟩ fun state => ?_
  split
  · exact ⟨fun _ => rfl⟩
  · exact ⟨fun _ => rfl⟩

theorem accept_channel (index : SlotIndex) (param1 param2 : Byte) (action : Action) :
    Keeps Controller.channel (· = Transfer.unready) (accept index param1 param2 action : BridgeM β Submission) := by
  have armed : Keeps Controller.channel (· = Transfer.unready) (armBurst param1 : BridgeM β Unit) := by
    refine keeps_bind ⟨fun _ => rfl⟩ fun state => ?_
    split
    · exact keeps_pure _ _ _
    · exact ⟨fun _ => rfl⟩
  have settled (needed byteCount : Byte) :
      Keeps Controller.channel (· = Transfer.unready) (settleWindow index needed byteCount : BridgeM β Unit) := by
    unfold settleWindow
    split
    · exact ⟨fun _ => rfl⟩
    · exact keeps_bind (record_submission_channel _) fun _ => ⟨fun _ => rfl⟩
  refine keeps_bind ⟨fun _ => rfl⟩ fun _ => keeps_bind armed fun _ => ?_
  refine keeps_bind ⟨fun _ => rfl⟩ fun _ => keeps_bind ⟨fun _ => rfl⟩ fun raw => ?_
  dsimp only
  split
  · refine keeps_bind ⟨fun _ => rfl⟩ fun _ => keeps_bind ⟨fun _ => rfl⟩ fun _ => keeps_bind ⟨fun _ => rfl⟩ fun head => ?_
    refine keeps_bind ⟨fun _ => rfl⟩ fun _ => keeps_bind (record_submission_channel _) fun _ => ?_
    exact keeps_bind (transfer_and_hand_off_channel _ _) fun _ => keeps_pure _ _ _
  · refine keeps_bind (settled _ _) fun _ => keeps_bind ⟨fun _ => rfl⟩ fun secondary => ?_
    refine keeps_bind ⟨fun _ => rfl⟩ fun _ => keeps_bind ⟨fun _ => rfl⟩ fun _ => ?_
    exact keeps_bind (transfer_and_hand_off_channel _ _) fun _ => keeps_bind ⟨fun _ => rfl⟩ fun _ => keeps_pure _ _ _

theorem held_channel (index : SlotIndex) : Keeps Controller.channel never (held index : BridgeM β Submission) :=
  keeps_bind ⟨fun _ => rfl⟩ fun _ => keeps_bind ⟨fun _ => rfl⟩ fun _ => keeps_bind (keeps_emit rfl) fun _ => keeps_pure _ _ _

theorem submit_leaves (param1 param2 : Byte) (action : Action) (before : Controller β) :
    Leaves asks before (submit param1 param2 action before) := by
  have outcome := submit_outcome param1 param2 action before
  have checked := Readiness.check_leaves (marked action before)
  generalize submit param1 param2 action before = result at outcome
  -- once the check says proceed, nothing has been left
  have proceeded {between : Controller β} (ended : Readiness.check (marked action before) = .ok .proceed between) :
      between.channel = before.channel := by
    rw [ended] at checked
    obtain ⟨request?, asked, left⟩ := checked
    cases request? with
    | none => exact left
    | some request => cases asked
  cases outcome with
  | untrained stall after stalled =>
      rw [stalled] at checked
      exact checked
  | refused readiness between ended refuses =>
      rw [ended] at checked
      exact checked
  | held between ended taken =>
      refine leaves_from (proceeded ended) (leaves_of_keeps (held_channel _) between ?_)
      intro submission after answered
      obtain ⟨transferring, _, _, answered⟩ := ok_of_bind answered
      obtain ⟨_, _, _, answered⟩ := ok_of_bind answered
      obtain ⟨_, _, _, answered⟩ := ok_of_bind answered
      cases answered
      cases transferring with
      | true => rfl
      | false => rfl
  | accepted between ended free =>
      refine leaves_from (proceeded ended) (leaves_of_keeps (accept_channel _ _ _ _) between ?_)
      intro submission after answered
      rcases accept_answer answered with rfl | rfl
      · rfl
      · rfl

end Submission

-- the answers of a pass, and of an event, that ask for a retry
def Pass.asks : Pass → Bool
  | .done (some submission) _ => submission.asks
  | _ => false

def Answer.asks : Answer → Bool
  | .passed pass => pass.asks
  | _ => false

def Event.takes : Event β → Bool
  | .takeRetry => true
  | _ => false

section Events

variable [Bus β]

theorem perform_leaves (status : Byte) (action : Action) (before : Controller β) :
    Leaves Submission.asks before (Transport.perform status action before) := by
  refine leaves_from ?_ (Submission.submit_leaves _ _ action _)
  simp [Controller.channel, LogEvent.request?]

theorem classify_leaves (before : Controller β) :
    Leaves (fun submission => submission.elim false Submission.asks) before (Transport.classify before) := by
  unfold Transport.classify
  rw [bind_read]
  cases Action.ofStatus? (Bus.read before.bus Reg.Transport.status).1 with
  | some action =>
      refine leaves_from ?_ (leaves_then_keeps (perform_leaves _ action _) (fun _ => keeps_pure _ _ _) ?_)
      · rfl
      · rintro submission between answer after ⟨⟩
        rfl
  | none =>
      have reports (status : Byte) : Keeps Controller.channel never (do
          emit (.statusIdle status)
          tally fun counts => { counts with idle := countUp counts.idle }
          pure none : BridgeM β (Option Submission)) :=
        keeps_bind (keeps_emit rfl) fun _ => keeps_bind ⟨fun _ => rfl⟩ fun _ => keeps_pure _ _ _
      refine leaves_from ?_ (leaves_of_keeps (reports _) _ ?_)
      · rfl
      · rintro submission after ⟨⟩
        rfl

theorem service_channel (handler : EndpointHandler η β) (own : η) :
    Keeps Controller.channel never (Endpoint.service handler own) := by
  have serves (group endpoint : EndpointIndex) (own : η) :
      Keeps Controller.channel never (Endpoint.serve handler group endpoint own) := ⟨fun _ => rfl⟩
  refine keeps_bind (Endpoint.service_rounds_keeps (fun _ _ => rfl) serves _ _) fun (handled, own) => ?_
  dsimp only
  split
  · exact keeps_bind (keeps_emit rfl) fun _ => keeps_bind ⟨fun _ => rfl⟩ fun _ => keeps_pure _ _ _
  · exact keeps_pure _ _ _

theorem completion_channel (event : Byte) : Keeps Controller.channel never (Completion.handle event : BridgeM β Completion) := by
  have shows (counter : Byte) : Keeps Controller.channel never (Completion.windowFlags event counter : BridgeM β Byte) := by
    refine keeps_bind ⟨fun _ => rfl⟩ fun settings => keeps_bind ⟨fun _ => rfl⟩ fun waited => ?_
    split
    · exact keeps_bind ⟨fun _ => rfl⟩ fun _ => ⟨fun _ => rfl⟩
    · exact keeps_bind (keeps_emit rfl) fun _ => ⟨fun _ => rfl⟩
  have released (slot : SlotIndex) : Keeps Controller.channel never (Completion.releaseSlot slot : BridgeM β Bool) := by
    refine keeps_bind ⟨fun _ => rfl⟩ fun state => ?_
    split
    · exact keeps_bind (keeps_emit rfl) fun _ => ⟨fun _ => rfl⟩
    · exact ⟨fun _ => rfl⟩
  have logged (slot : SlotIndex) (wasInFlight : Bool) :
      Keeps Controller.channel never (Completion.logCompletion slot wasInFlight : BridgeM β Unit) := by
    unfold Completion.logCompletion
    split
    · exact ⟨fun _ => rfl⟩
    · exact keeps_emit rfl
  have rechecked : Keeps Controller.channel never (Completion.recheckCounter : BridgeM β Unit) := by
    refine keeps_bind ⟨fun _ => rfl⟩ fun state => ?_
    split
    · exact keeps_bind (keeps_emit rfl) fun _ => ⟨fun _ => rfl⟩
    · exact keeps_pure _ _ _
  refine keeps_bind ⟨fun _ => rfl⟩ fun _ => keeps_bind ⟨fun _ => rfl⟩ fun counter => keeps_bind ⟨fun _ => rfl⟩ fun _ => ?_
  refine keeps_bind (shows _) fun flags => keeps_bind ⟨fun _ => rfl⟩ fun state => ?_
  split
  · refine keeps_bind ⟨fun _ => rfl⟩ fun _ => keeps_bind (released _) fun wasInFlight => ?_
    exact keeps_bind (logged _ _) fun _ => keeps_bind rechecked fun _ => keeps_pure _ _ _
  · exact keeps_bind (keeps_emit rfl) fun _ => ⟨fun _ => rfl⟩

theorem poll_leaves (handler : EndpointHandler η β) (own : η) (before : Controller β) :
    Leaves (fun answer => answer.1.asks) before (Controller.poll handler own before) := by
  unfold Controller.poll
  rw [bind_get_state]
  cases before.state.reset with
  | some request => exact ⟨none, rfl, rfl⟩
  | none =>
      dsimp only
      rw [bind_tally]
      refine leaves_from ?_ (leaves_then_keeps (classify_leaves _) ?_ ?_)
      · rfl
      · exact fun submission => keeps_bind (service_channel handler own) fun _ => keeps_pure _ _ _
      · intro submission between answer after ended
        obtain ⟨_, _, _, ended⟩ := ok_of_bind ended
        cases ended
        cases submission with
        | none => rfl
        | some submission => rfl

theorem complete_channel (event : Byte) :
    Keeps Controller.channel never (Controller.complete event : BridgeM β (Except RequestError Completion)) := by
  refine keeps_bind ⟨fun _ => rfl⟩ fun state => ?_
  split
  · exact keeps_pure _ _ _
  · exact keeps_bind (completion_channel event) fun _ => keeps_pure _ _ _

omit [Bus β] in
theorem of_result_leaves {α : Type} {asks : α → Bool} {answer : α → Answer} {before : Controller β}
    {result : EStateM.Result Stall (Controller β) α} (leaves : Leaves asks before result)
    (agrees : ∀ value, (answer value).asks = asks value) :
    ∃ request?, request?.isSome = (Answer.ofResult answer result).1.asks ∧
      (Answer.ofResult answer result).2.channel = before.channel.leave true request? := by
  cases result with
  | ok value after =>
      obtain ⟨request?, asked, left⟩ := leaves
      exact ⟨request?, asked.trans (agrees value).symm, left⟩
  | error stall after => exact ⟨none, rfl, leaves⟩

-- An event that takes no request leaves one behind exactly when its answer asks for a retry.
theorem event_leaves (event : Event β) (kept : event.takes = false) (before : Controller β) :
    ∃ request?, request?.isSome = (event.run before).1.asks ∧ (event.run before).2.channel = before.channel.leave true request? := by
  cases event with
  | pass handler own => exact of_result_leaves (poll_leaves handler own before) fun _ => rfl
  | completion event =>
      have silent := leaves_of_keeps (complete_channel event) before fun _ _ _ => Eq.refl false
      exact of_result_leaves silent fun _ => rfl
  | takeRetry => cases kept
  | flags fault commandActive transferState powerInit => exact ⟨none, rfl, rfl⟩
  | hardware bus => exact ⟨none, rfl, rfl⟩

end Events

-- What reaches the pending request: an event, or a request that comes from outside, counted or not.
inductive Exchange (β : Type) : Type 1 where
  | event (event : Event β)
  | raise (request : RetryRequest)
  | record (request : RetryRequest)

namespace Exchange

def takes : Exchange β → Bool
  | .event made => made.takes
  | _ => false

def counts : Exchange β → Bool
  | .record _ => false
  | _ => true

variable [Bus β]

def after (before : Controller β) : Exchange β → Controller β
  | .event made => (made.run before).2
  | .raise request => ending (raiseRetry request before)
  | .record request => ending (recordRetry request before)

-- the requests that are left behind while it happens
def left (before : Controller β) (exchange : Exchange β) : List RetryRequest :=
  (exchange.after before).channel.left.drop before.channel.left.length

theorem takes_pending (exchange : Exchange β) (takes : exchange.takes = true) (before : Controller β) :
    (exchange.after before).channel = { before.channel with pending := none } := by
  cases exchange with
  | event made =>
      cases made with
      | takeRetry => rfl
      | _ => cases takes
  | _ => cases takes

theorem leaves_at_most_one (exchange : Exchange β) (kept : exchange.takes = false) (before : Controller β) :
    ∃ request?, (exchange.after before).channel = before.channel.leave exchange.counts request? := by
  cases exchange with
  | event made =>
      obtain ⟨request?, -, left⟩ := event_leaves made kept before
      exact ⟨request?, left⟩
  | raise request => exact ⟨some request, raise_retry_channel request before⟩
  | record request => exact ⟨some request, record_retry_channel request before⟩

theorem left_of_leave (exchange : Exchange β) {before : Controller β} {counts : Bool} {request? : Option RetryRequest}
    (left : (exchange.after before).channel = before.channel.leave counts request?) :
    exchange.left before = request?.toList := by
  cases request? with
  | none => simp [Exchange.left, left, RetryChannel.leave]
  | some request => simp [Exchange.left, left, RetryChannel.leave]

theorem left_of_take (exchange : Exchange β) (takes : exchange.takes = true) (before : Controller β) :
    exchange.left before = [] := by
  simp [Exchange.left, exchange.takes_pending takes before]

end Exchange

-- The requests since one was last taken, and how many were counted from the start.
structure Correspondence (β : Type) where
  controller : Controller β
  since : List RetryRequest := []
  counted : Nat := 0

namespace Correspondence

variable [Bus β]

def extend (held : Correspondence β) (exchange : Exchange β) : Correspondence β :=
  let left := exchange.left held.controller
  { controller := exchange.after held.controller
    since := if exchange.takes then [] else held.since ++ left
    counted := held.counted + if exchange.counts then left.length else 0 }

def of (controller : Controller β) (exchanges : List (Exchange β)) : Correspondence β :=
  exchanges.foldl extend { controller }

-- what the requests so far say of the pending one and of the count
structure Sound (held : Correspondence β) : Prop where
  settled : RetryRequest.Settled held.since held.controller.state.retry
  counted : held.controller.statistics.retryRequests.toNat = min 0xFFFFFFFF held.counted

theorem Sound.extend {held : Correspondence β} (sound : Sound held) (exchange : Exchange β) : Sound (held.extend exchange) := by
  have settled := sound.settled
  have counted := sound.counted
  cases takes : exchange.takes with
  | true =>
      have channel := exchange.takes_pending takes held.controller
      have none : (exchange.after held.controller).state.retry = none := congrArg RetryChannel.pending channel
      have same : (exchange.after held.controller).statistics.retryRequests = held.controller.statistics.retryRequests :=
        congrArg RetryChannel.counted channel
      constructor
      · simp [Correspondence.extend, takes, none, RetryRequest.Settled]
      · simpa [Correspondence.extend, exchange.left_of_take takes, same] using counted
  | false =>
      obtain ⟨request?, channel⟩ := exchange.leaves_at_most_one takes held.controller
      have left := exchange.left_of_leave channel
      have pending : (exchange.after held.controller).state.retry = _ := congrArg RetryChannel.pending channel
      have count : (exchange.after held.controller).statistics.retryRequests = _ := congrArg RetryChannel.counted channel
      cases request? with
      | none =>
          constructor
          · simpa [Correspondence.extend, takes, left, pending, RetryChannel.leave, Controller.channel] using settled
          · simpa [Correspondence.extend, left, count, RetryChannel.leave, Controller.channel] using counted
      | some request =>
          constructor
          · simpa [Correspondence.extend, takes, left, pending, RetryChannel.leave, Controller.channel] using
              RetryRequest.settled_next settled request
          · cases counts : exchange.counts with
            | true =>
                simp [Correspondence.extend, counts, left, count, RetryChannel.leave, Controller.channel, toNat_countUp]
                omega
            | false => simpa [Correspondence.extend, counts, left, count, RetryChannel.leave, Controller.channel] using counted

theorem sound_of (bus : β) (settings : Settings) (exchanges : List (Exchange β)) :
    Sound (of (Controller.start bus settings) exchanges) := by
  have onward (held : Correspondence β) (sound : Sound held) : Sound (exchanges.foldl extend held) := by
    induction exchanges generalizing held with
    | nil => exact sound
    | cons exchange rest ih => exact ih _ (sound.extend exchange)
  exact onward _ ⟨rfl, rfl⟩

-- Until a request is taken, the ones left before stay on record.
theorem since_grows (held : Correspondence β) (more : List (Exchange β)) (kept : ∀ exchange ∈ more, exchange.takes = false) :
    ∃ later, (more.foldl extend held).since = held.since ++ later := by
  induction more generalizing held with
  | nil => exact ⟨[], (List.append_nil _).symm⟩
  | cons exchange rest ih =>
      obtain ⟨later, grown⟩ := ih (held.extend exchange) fun other member => kept other (by simp [member])
      have here : (held.extend exchange).since = held.since ++ exchange.left held.controller := by
        simp [extend, kept exchange (by simp)]
      exact ⟨exchange.left held.controller ++ later, by rw [List.foldl_cons, grown, here, List.append_assoc]⟩

omit [Bus β] in
theorem priority_lasts {held later : Correspondence β} (sound : Sound held) (onward : Sound later)
    (grown : ∃ more, later.since = held.since ++ more) {request : RetryRequest}
    (pending : held.controller.state.retry = some request) :
    ∃ kept, later.controller.state.retry = some kept ∧ request.priority ≤ kept.priority := by
  obtain ⟨more, grown⟩ := grown
  obtain ⟨earlier, behind, split, -⟩ := ((RetryRequest.settled_iff sound.settled).1 request).mp pending
  have member : request ∈ later.since := by simp [grown, split]
  cases here : later.controller.state.retry with
  | none =>
      rw [(RetryRequest.settled_iff onward.settled).2.mp here] at member
      cases member
  | some kept =>
      have foremost := ((RetryRequest.settled_iff onward.settled).1 kept).mp here
      exact ⟨kept, rfl, RetryRequest.foremost_is_highest foremost request member⟩

end Correspondence

section Answers

variable [Bus β]

-- After an answer that asks for a retry, a take gets a request of at least that priority.
theorem take_after_request {made : Event β} {before : Controller β} (asked : (made.run before).1.asks = true) :
    ∃ request kept taken, (Exchange.event made).left before = [request] ∧ request.priority ≤ kept.priority ∧
      Controller.takeRetry (made.run before).2 = .ok (some kept) taken := by
  have keeps : made.takes = false := by
    cases made with
    | takeRetry => cases asked
    | _ => rfl
  obtain ⟨request?, same, channel⟩ := event_leaves made keeps before
  have left : (Exchange.event made).left before = request?.toList := (Exchange.event made).left_of_leave channel
  cases request? with
  | none => cases same.trans asked
  | some request =>
      have pending : (made.run before).2.state.retry = some (RetryRequest.settle before.state.retry request) :=
        congrArg RetryChannel.pending channel
      have taken : Controller.takeRetry (made.run before).2 = .ok (made.run before).2.state.retry
          { (made.run before).2 with state := { (made.run before).2.state with retry := none } } := rfl
      rw [pending] at taken
      exact ⟨request, RetryRequest.settle before.state.retry request, _, left, RetryRequest.settle_priority _ _, taken⟩

theorem left_by_event (made : Event β) (before : Controller β) :
    ((Exchange.event made).left before).length = if (made.run before).1.asks then 1 else 0 := by
  cases takes : made.takes with
  | true =>
      have none : (Exchange.event made).left before = [] := (Exchange.event made).left_of_take takes before
      cases made with
      | takeRetry => rw [none]; rfl
      | _ => cases takes
  | false =>
      obtain ⟨request?, same, channel⟩ := event_leaves made takes before
      have left : (Exchange.event made).left before = request?.toList := (Exchange.event made).left_of_leave channel
      rw [left, ← same]
      cases request? with
      | none => rfl
      | some request => rfl

theorem pending_retry_is_latest_of_highest (bus : β) (settings : Settings) (exchanges : List (Exchange β)) :
    let held := Correspondence.of (Controller.start bus settings) exchanges
    (∀ request, held.controller.state.retry = some request ↔ RetryRequest.Foremost held.since request) ∧
    (held.controller.state.retry = none ↔ held.since = []) ∧
    (∀ more request, (∀ exchange ∈ more, exchange.takes = false) → held.controller.state.retry = some request →
      ∃ kept, (Correspondence.of (Controller.start bus settings) (exchanges ++ more)).controller.state.retry = some kept ∧
        request.priority ≤ kept.priority) ∧
    held.controller.statistics.retryRequests.toNat = min 0xFFFFFFFF held.counted ∧
    (∀ request, (Exchange.raise request).left held.controller = [request] ∧
      (Exchange.record request).left held.controller = [request]) ∧
    ∀ made : Event β,
      ((Exchange.event made).left held.controller).length = (if (made.run held.controller).1.asks then 1 else 0) ∧
      ((made.run held.controller).1.asks = true →
        ∃ request kept taken, (Exchange.event made).left held.controller = [request] ∧ request.priority ≤ kept.priority ∧
          Controller.takeRetry (made.run held.controller).2 = .ok (some kept) taken) := by
  intro held
  have sound : held.Sound := Correspondence.sound_of bus settings exchanges
  obtain ⟨latest, none⟩ := RetryRequest.settled_iff sound.settled
  refine ⟨latest, none, ?_, sound.counted, fun request => ⟨?_, ?_⟩, fun made => ⟨left_by_event made _, take_after_request⟩⟩
  · intro more request kept pending
    have onward := Correspondence.sound_of bus settings (exchanges ++ more)
    have grown : ∃ later, (Correspondence.of (Controller.start bus settings) (exchanges ++ more)).since = held.since ++ later := by
      rw [Correspondence.of, List.foldl_append]
      exact Correspondence.since_grows held more kept
    exact Correspondence.priority_lasts sound onward grown pending
  · exact (Exchange.raise request).left_of_leave (raise_retry_channel request held.controller)
  · exact (Exchange.record request).left_of_leave (record_retry_channel request held.controller)

end Answers

end StorageBridge
