import StorageBridge.Proofs.Boards
import StorageBridge.Proofs.Passes

/-!
The in-progress code is nothing but a code. Two controllers that differ in it alone go through the
same run: their hardware, states and counters stay equal, they stall together, and they give the same
answers but for the code of a transfer in progress.
-/

set_option autoImplicit false

namespace StorageBridge

open BridgeM

variable {η β α γ : Type}

-- the controller under the patched code, with a log of its own
def Controller.recast (controller : Controller β) (log : Array LogEvent) : Controller β :=
  { controller with settings := { controller.settings with inProgress := .patched }, log }

namespace BridgeM

variable {related : α → γ → Prop}

inductive Ends (related : α → γ → Prop) :
    EStateM.Result Stall (Controller β) α → EStateM.Result Stall (Controller β) γ → Prop where
  | ok (value : α) (other : γ) (after : Controller β) (log : Array LogEvent) (code : after.settings.inProgress = .reference)
      (same : related value other) : Ends related (.ok value after) (.ok other (after.recast log))
  | error (stall : Stall) (after : Controller β) (log : Array LogEvent) (code : after.settings.inProgress = .reference) :
      Ends related (.error stall after) (.error stall (after.recast log))

-- Under the two codes the steps end alike, and with related values.
structure Parallel (related : α → γ → Prop) (step : BridgeM β α) (other : BridgeM β γ) : Prop where
  ends : ∀ before log, before.settings.inProgress = .reference → Ends related (step before) (other (before.recast log))

def Blind (step : BridgeM β α) : Prop :=
  Parallel Eq step step

theorem parallel_bind {μ ν : Type} {onward : μ → ν → Prop} {step : BridgeM β α} {other : BridgeM β γ}
    {next : α → BridgeM β μ} {otherNext : γ → BridgeM β ν} (first : Parallel related step other)
    (rest : ∀ value seen, related value seen → Parallel onward (next value) (otherNext seen)) :
    Parallel onward (step >>= next) (other >>= otherNext) := by
  refine ⟨fun before log code => ?_⟩
  have ended := first.ends before log code
  generalize started : step before = result at ended
  generalize begun : other (before.recast log) = seen at ended
  cases ended with
  | ok value shown between log code same =>
      rw [bind_of_ok started, bind_of_ok begun]
      exact (rest value shown same).ends between log code
  | error stall after log code =>
      rw [bind_of_error started, bind_of_error begun]
      exact .error stall after log code

theorem parallel_pure (value : α) (other : γ) (same : related value other) :
    Parallel related (pure value : BridgeM β α) (pure other) :=
  ⟨fun before log code => .ok value other before log code same⟩

theorem blind_bind {step : BridgeM β α} {next : α → BridgeM β γ} (first : Blind step)
    (rest : ∀ value, Blind (next value)) : Blind (step >>= next) :=
  parallel_bind first fun value _ same => same ▸ rest value

theorem blind_pure (value : α) : Blind (pure value : BridgeM β α) :=
  parallel_pure value value rfl

theorem blind_for_each {ι : Type} {step : ι → BridgeM β Unit} (each : ∀ item, Blind (step item)) (items : List ι) :
    Blind (items.forM step) := by
  induction items with
  | nil => exact blind_pure ()
  | cons item rest ih => exact blind_bind (each item) fun _ => ih

theorem blind_state : Blind (getState : BridgeM β State) :=
  ⟨fun before log code => .ok before.state before.state before log code rfl⟩

theorem blind_settings {next : Settings → BridgeM β α}
    (uncoded : ∀ settings : Settings, next { settings with inProgress := .patched } = next settings)
    (rest : ∀ settings, Blind (next settings)) : Blind (getSettings >>= next) := by
  refine ⟨fun before log code => ?_⟩
  change Ends Eq (next before.settings before) (next { before.settings with inProgress := .patched } (before.recast log))
  rw [uncoded]
  exact (rest before.settings).ends before log code

theorem blind_modify (change : State → State) : Blind (modifyState change : BridgeM β Unit) :=
  ⟨fun _ log code => .ok () () _ log code rfl⟩

theorem blind_tally (change : Statistics → Statistics) : Blind (tally change : BridgeM β Unit) :=
  ⟨fun _ log code => .ok () () _ log code rfl⟩

theorem blind_emit (event : LogEvent) : Blind (emit event : BridgeM β Unit) :=
  ⟨fun _ log code => .ok () () _ (log.push event) code rfl⟩

variable [Bus β]

theorem blind_read (address : Address) : Blind (readByte address : BridgeM β Byte) :=
  ⟨fun _ log code => .ok _ _ _ log code rfl⟩

theorem blind_write (address : Address) (value : Byte) : Blind (writeByte address value : BridgeM β Unit) :=
  ⟨fun _ log code => .ok () () _ log code rfl⟩

theorem blind_modify_byte (address : Address) (clear set : Byte) : Blind (modifyByte address clear set : BridgeM β Unit) :=
  ⟨fun _ log code => .ok () () _ log code rfl⟩

theorem blind_poll (address : Address) (mask : Byte) (limit : UInt32) : Blind (pollFor address mask limit : BridgeM β Bool) :=
  ⟨fun _ log code => .ok _ _ _ log code rfl⟩

theorem blind_wait (address : Address) (mask : Byte) : Blind (waitFor address mask : BridgeM β Unit) := by
  refine ⟨fun before log code => ?_⟩
  rw [wait_for_ends, wait_for_ends]
  change Ends Eq _ (if (Bus.wait before.bus address mask .forever).1 = true then _ else _)
  cases (Bus.wait before.bus address mask .forever).1 with
  | true => exact .ok () () _ log code rfl
  | false => exact .error _ _ log code

end BridgeM

variable [Bus β]

namespace Readiness

omit [Bus β] in
theorem refuse_blind (readiness : Readiness) (request : RetryRequest) :
    Blind (refuse readiness request : BridgeM β Readiness) := by
  refine blind_bind (blind_bind (blind_bind blind_state fun _ => blind_bind (blind_emit _) fun _ => blind_modify _) fun _ => ?_)
    fun _ => blind_pure _
  exact blind_tally _

theorem link_is_up_blind : Blind (linkIsUp : BridgeM β Bool) :=
  blind_bind (blind_read _) fun _ => blind_pure _

theorem check_rolling_blind : Blind (checkRolling : BridgeM β Readiness) := by
  refine blind_bind (blind_read _) fun status => ?_
  dsimp only
  split
  · exact blind_pure _
  · exact refuse_blind _ _

theorem recover_link_blind : Blind (recoverLink : BridgeM β Bool) :=
  blind_bind (blind_write _ _) fun _ => blind_bind (blind_wait _ _) fun _ => blind_bind (blind_write _ _) fun _ =>
    link_is_up_blind

theorem check_drained_blind : Blind (checkDrained : BridgeM β Readiness) := by
  refine blind_bind blind_state fun state => ?_
  split
  · exact blind_pure _
  · split
    · exact check_rolling_blind
    · refine blind_bind recover_link_blind fun up => ?_
      split
      · exact check_rolling_blind
      · exact blind_bind (blind_emit _) fun _ => refuse_blind _ _

theorem check_busy_blind (depth : Option Byte) : Blind (checkBusy depth : BridgeM β Readiness) := by
  have decided (busy : Bool) : Blind
      (if busy then pure .inProgress
        else if depth = some Reg.Backend.depthDrained then checkDrained else checkRolling : BridgeM β Readiness) := by
    split
    · exact blind_pure _
    · split
      · exact check_drained_blind
      · exact check_rolling_blind
  refine blind_bind blind_state fun state => ?_
  dsimp only
  split
  · exact blind_bind (blind_pure _) decided
  · exact blind_bind (blind_read _) fun _ => blind_bind (blind_pure _) decided

theorem check_depth_blind : Blind (checkDepth : BridgeM β Readiness) := by
  refine blind_bind (blind_read _) fun depth => ?_
  split
  · exact blind_bind blind_state fun _ => refuse_blind _ _
  · exact check_busy_blind _

theorem check_link_blind : Blind (checkLink : BridgeM β Readiness) := by
  refine blind_bind (blind_modify _) fun _ => blind_bind link_is_up_blind fun up => blind_bind blind_state fun state => ?_
  split
  · refine blind_bind (blind_modify_byte _ _ _) fun _ => ?_
    split
    · exact check_depth_blind
    · exact check_busy_blind _
  · split
    · exact check_depth_blind
    · exact refuse_blind _ _

theorem check_blind : Blind (check : BridgeM β Readiness) := by
  have evaluates : Blind (evaluate : BridgeM β Readiness) := by
    refine blind_bind blind_state fun state => ?_
    split
    · exact refuse_blind _ _
    · exact check_link_blind
  refine blind_bind evaluates fun readiness => ?_
  split
  · exact blind_pure _
  · exact blind_bind (blind_tally _) fun _ => blind_bind (blind_emit _) fun _ => blind_pure _

end Readiness

namespace Transfer

theorem source_blind (flags : TransferFlags) (channel : Byte) : Blind (source flags channel : BridgeM β (Byte × Address)) := by
  unfold source
  split
  · exact blind_bind blind_state fun _ => blind_pure _
  · refine blind_bind (blind_modify_byte _ _ _) fun _ => blind_bind (blind_read _) fun low => ?_
    exact blind_bind (blind_read _) fun high => blind_pure _

theorem write_addresses_blind (base : Address) : Blind (writeAddresses base : BridgeM β Unit) :=
  blind_bind (blind_write _ _) fun _ => blind_bind (blind_write _ _) fun _ => blind_bind (blind_write _ _) fun _ =>
    blind_write _ _

theorem clear_tags_blind : Blind (clearTags : BridgeM β Unit) :=
  blind_bind (blind_for_each (fun _ => blind_write _ _) _) fun _ => blind_write _ _

theorem write_extended_blind (base : Address) (mode : Byte) : Blind (writeExtended base mode : BridgeM β Transfer) :=
  blind_bind blind_state fun _ => blind_bind (blind_write _ _) fun _ => blind_bind (blind_write _ _) fun _ => blind_pure _

theorem write_normal_blind (flags : TransferFlags) (base : Address) (mode : Byte) :
    Blind (writeNormal flags base mode : BridgeM β Transfer) := by
  refine blind_bind (blind_write _ _) fun _ => blind_bind blind_state fun state => ?_
  split
  · refine blind_bind (blind_write _ _) fun _ => blind_bind (blind_modify_byte _ _ _) fun _ => ?_
    exact blind_bind (blind_modify _) fun _ => blind_pure _
  · exact blind_pure _

theorem program_blind (flags : TransferFlags) (channel : Byte) : Blind (program flags channel : BridgeM β Transfer) := by
  have finishes (transfer : Transfer) : Blind (do
      emit (.transferProgrammed transfer)
      modifyState fun state => { state with lastTransfer := some transfer }
      pure transfer : BridgeM β Transfer) :=
    blind_bind (blind_emit _) fun _ => blind_bind (blind_modify _) fun _ => blind_pure _
  refine blind_bind (blind_wait _ _) fun _ => blind_bind (source_blind _ _) fun (mode, base) => ?_
  refine blind_bind (write_addresses_blind _) fun _ => ?_
  refine blind_bind (blind_bind (blind_write _ _) fun _ => blind_modify _) fun _ => blind_bind clear_tags_blind fun _ => ?_
  dsimp only
  split
  · exact blind_bind (write_extended_blind _ _) finishes
  · exact blind_bind (write_normal_blind _ _ _) finishes

end Transfer

namespace Submission

theorem fill_blind (index : SlotIndex) (param1 : Byte) (slot : Slot) : Blind (fill index param1 slot : BridgeM β Unit) := by
  have loads : Blind (loadCounts : BridgeM β Unit) :=
    blind_bind (blind_modify_byte _ _ _) fun _ => blind_bind blind_state fun _ => blind_bind (blind_write _ _) fun _ =>
      blind_write _ _
  have arms : Blind (armBurst param1 : BridgeM β Unit) := by
    refine blind_bind blind_state fun state => ?_
    split
    · exact blind_pure _
    · exact blind_bind (blind_modify _) fun _ => blind_modify_byte _ _ _
  refine blind_bind loads fun _ => blind_bind arms fun _ => blind_bind (blind_modify _) fun _ => ?_
  exact blind_bind (blind_write _ _) fun _ => blind_write _ _

omit [Bus β] in
theorem record_submission_blind : Blind (recordSubmission : BridgeM β Unit) := by
  refine blind_bind blind_state fun state => ?_
  split
  · exact blind_bind (blind_emit _) fun _ => blind_modify _
  · exact blind_modify _

theorem settle_blind (index : SlotIndex) (slot : Slot) (action : Action) :
    Blind (settle index slot action : BridgeM β Unit) := by
  have windows (needed byteCount : Byte) : Blind (settleWindow index needed byteCount : BridgeM β Unit) := by
    unfold settleWindow
    split
    · exact blind_bind (blind_modify _) fun _ => blind_bind (blind_write _ _) fun _ => blind_modify_byte _ _ _
    · exact blind_bind record_submission_blind fun _ => blind_modify_byte _ _ _
  unfold settle
  split
  · refine blind_bind (blind_modify _) fun _ => blind_bind (blind_modify_byte _ _ _) fun _ => ?_
    exact blind_bind (blind_read _) fun head => blind_bind (blind_modify _) fun _ => record_submission_blind
  · refine blind_bind (windows _ _) fun _ => blind_bind (blind_read _) fun secondary => ?_
    refine blind_bind (blind_bind (blind_modify _) fun _ => blind_pure _) fun _ => ?_
    refine blind_bind (blind_bind (blind_write _ _) fun _ => ?_) fun _ => blind_pure _
    refine blind_bind (blind_write _ _) fun _ => blind_bind (blind_write _ _) fun _ => ?_
    exact blind_bind (blind_modify _) fun _ => blind_pure _

theorem prepare_blind (index : SlotIndex) (param1 param2 : Byte) (action : Action) :
    Blind (prepare index param1 param2 action : BridgeM β TransferFlags) :=
  blind_bind (fill_blind _ _ _) fun _ => blind_bind (blind_read _) fun _ => blind_bind (settle_blind _ _ _) fun _ => blind_pure _

theorem transfer_and_hand_off_blind (flags : TransferFlags) (index : SlotIndex) :
    Blind (transferAndHandOff flags index : BridgeM β Unit) := by
  have hands : Blind (handOff : BridgeM β Unit) := by
    refine blind_bind (blind_modify _) fun _ => blind_bind blind_state fun state => ?_
    split
    · exact blind_modify_byte _ _ _
    · exact blind_write _ _
  exact blind_bind (Transfer.program_blind _ _) fun _ => blind_bind (blind_modify _) fun _ => hands

-- The same answer, or a transfer in progress under the two codes.
inductive Corresponds : Submission → Submission → Prop where
  | same (submission : Submission) (coded : ∀ code, submission ≠ .inProgress code) : Corresponds submission submission
  | inProgress : Corresponds (.inProgress .reference) (.inProgress .patched)

omit [Bus β] in
theorem answer_parallel (action : Action) : Parallel Corresponds (answer action : BridgeM β Submission) (answer action) := by
  unfold answer
  split
  · exact parallel_pure _ _ (.same .queued nofun)
  · refine ⟨fun before log code => ?_⟩
    change Ends Corresponds (.ok (.inProgress before.settings.inProgress) before) (.ok (.inProgress .patched) (before.recast log))
    rw [code]
    exact .ok _ _ before log code .inProgress

theorem accept_parallel (index : SlotIndex) (param1 param2 : Byte) (action : Action) :
    Parallel Corresponds (accept index param1 param2 action : BridgeM β Submission) (accept index param1 param2 action) := by
  rw [accept_prepares]
  refine parallel_bind (prepare_blind _ _ _ _) fun flags _ same => same ▸ ?_
  exact parallel_bind (transfer_and_hand_off_blind _ _) fun _ _ _ => answer_parallel action

theorem held_parallel (index : SlotIndex) :
    Parallel Corresponds (held index : BridgeM β Submission) (held index) := by
  have looks : Blind (dmaActive : BridgeM β Bool) := blind_bind (blind_read _) fun _ => blind_pure _
  refine parallel_bind looks fun transferring _ same => same ▸ ?_
  refine parallel_bind (blind_modify _) fun _ _ _ => parallel_bind (blind_emit _) fun _ _ _ => parallel_pure _ _ ?_
  cases transferring with
  | true => exact .same .deferred nofun
  | false => exact .same .busy nofun

theorem submit_parallel (param1 param2 : Byte) (action : Action) :
    Parallel Corresponds (submit param1 param2 action : BridgeM β Submission) (submit param1 param2 action) := by
  refine parallel_bind blind_state fun before _ same => same ▸ parallel_bind (blind_modify _) fun _ _ _ => ?_
  refine parallel_bind Readiness.check_blind fun readiness _ same => same ▸ ?_
  split
  · refine parallel_bind blind_state fun state _ same => same ▸ ?_
    dsimp only
    split
    · exact accept_parallel _ _ _ _
    · exact held_parallel _
  · exact parallel_bind (blind_modify _) fun _ _ _ => parallel_pure _ _ (.same (.refused readiness) nofun)

end Submission

namespace Transport

-- Nothing was asked on either side, or both answers correspond.
inductive Corresponds : Option Submission → Option Submission → Prop where
  | idle : Corresponds none none
  | answered (submission other : Submission) (corresponds : Submission.Corresponds submission other) :
      Corresponds (some submission) (some other)

theorem classify_parallel : Parallel Corresponds (classify : BridgeM β (Option Submission)) classify := by
  refine parallel_bind (blind_read _) fun status _ same => same ▸ ?_
  split
  · next action _ =>
    have performs : Parallel Submission.Corresponds (perform status action : BridgeM β Submission) (perform status action) := by
      refine parallel_bind (blind_read _) fun low _ same => same ▸ parallel_bind (blind_read _) fun high _ same => same ▸ ?_
      refine parallel_bind (blind_modify _) fun _ _ _ => parallel_bind (blind_read _) fun param1 _ same => same ▸ ?_
      refine parallel_bind (blind_read _) fun param2 _ same => same ▸ parallel_bind (blind_tally _) fun _ _ _ => ?_
      exact parallel_bind (blind_emit _) fun _ _ _ => Submission.submit_parallel _ _ _
    exact parallel_bind performs fun submission other corresponds => parallel_pure _ _ (.answered submission other corresponds)
  · exact parallel_bind (blind_emit _) fun _ _ _ => parallel_bind (blind_tally _) fun _ _ _ => parallel_pure _ _ .idle

end Transport

namespace Endpoint

theorem service_blind (handler : EndpointHandler η β) (own : η) : Blind (service handler own) := by
  have serves (group endpoint : EndpointIndex) (own : η) : Blind (serve handler group endpoint own) :=
    ⟨fun _ log code => .ok _ _ _ log code rfl⟩
  have looks : Blind (nextReady : BridgeM β (Option (EndpointIndex × EndpointIndex))) := by
    refine blind_bind (blind_read _) fun groups => ?_
    split
    · exact blind_pure _
    · exact blind_bind (blind_read _) fun _ => blind_pure _
  have rounds (left : Nat) (own : η) : Blind (serviceRounds handler left own) := by
    induction left generalizing own with
    | zero => exact blind_pure _
    | succ left ih =>
        refine blind_bind looks fun ready => ?_
        split
        · exact blind_pure _
        · exact blind_bind (serves _ _ own) fun own => blind_bind (ih own) fun _ => blind_pure _
  refine blind_bind (rounds serviceBudget own) fun (handled, own) => ?_
  dsimp only
  split
  · exact blind_bind (blind_emit _) fun _ => blind_bind (blind_tally _) fun _ => blind_pure _
  · exact blind_pure _

end Endpoint

namespace Completion

-- The budget of a window is read off settings that both have.
theorem window_flags_blind (event counter : Byte) : Blind (windowFlags event counter : BridgeM β Byte) := by
  refine blind_settings (fun _ => rfl) fun settings => ?_
  refine blind_bind (blind_bind (blind_poll _ _ _) fun _ => blind_pure _) fun waited => ?_
  split
  · exact blind_bind (blind_read _) fun _ => blind_pure _
  · exact blind_bind (blind_emit _) fun _ => blind_bind (blind_read _) fun _ => blind_pure _

theorem handle_blind (event : Byte) : Blind (handle event : BridgeM β Completion) := by
  have updates : Blind (updateCounter : BridgeM β Byte) :=
    blind_bind (blind_read _) fun _ => blind_bind (blind_modify _) fun _ => blind_pure _
  have releases (slot : SlotIndex) : Blind (releaseSlot slot : BridgeM β Bool) := by
    refine blind_bind blind_state fun state => ?_
    split
    · exact blind_bind (blind_emit _) fun _ => blind_bind (blind_modify _) fun _ => blind_pure _
    · exact blind_bind (blind_modify _) fun _ => blind_pure _
  have logs (slot : SlotIndex) (wasInFlight : Bool) : Blind (logCompletion slot wasInFlight : BridgeM β Unit) := by
    unfold logCompletion
    split
    · exact blind_bind (blind_modify _) fun _ => blind_tally _
    · exact blind_emit _
  have rechecks : Blind (recheckCounter : BridgeM β Unit) := by
    refine blind_bind blind_state fun state => ?_
    split
    · exact blind_bind (blind_emit _) fun _ => blind_bind updates fun _ => blind_pure _
    · exact blind_pure _
  have retires : Blind (retire event : BridgeM β Completion) := by
    refine blind_bind (blind_write _ _) fun _ => blind_bind (releases _) fun _ => blind_bind (logs _ _) fun _ => ?_
    exact blind_bind rechecks fun _ => blind_pure _
  have flashes (target : Byte) : Blind (flashControl target : BridgeM β Completion) := by
    refine blind_bind (blind_emit _) fun _ => blind_bind (blind_modify _) fun _ => blind_bind (blind_write _ _) fun _ => ?_
    refine blind_bind (blind_write _ _) fun _ => blind_bind (blind_modify _) fun _ => blind_bind (blind_tally _) fun _ => ?_
    exact blind_pure _
  refine blind_bind (blind_modify _) fun _ => blind_bind updates fun counter => ?_
  refine blind_bind (blind_bind (blind_modify_byte _ _ _) fun _ => blind_modify_byte _ _ _) fun _ => ?_
  refine blind_bind (window_flags_blind _ _) fun flags => blind_bind blind_state fun state => ?_
  split
  · exact retires
  · exact flashes _

end Completion

-- Equal passes, but for the submission.
inductive Pass.Corresponds : Pass → Pass → Prop where
  | done (submission other : Option Submission) (endpoints : ServiceSummary)
      (corresponds : Transport.Corresponds submission other) : Corresponds (.done submission endpoints) (.done other endpoints)
  | latched (request : ResetRequest) : Corresponds (.latched request) (.latched request)

namespace Controller

theorem poll_parallel (handler : EndpointHandler η β) (own : η) :
    Parallel (fun ended other => Pass.Corresponds ended.1 other.1 ∧ other.2 = ended.2)
      (poll handler own) (poll handler own) := by
  refine parallel_bind blind_state fun state _ same => same ▸ ?_
  split
  · next request _ => exact parallel_pure _ _ ⟨.latched request, rfl⟩
  · refine parallel_bind (blind_tally _) fun _ _ _ => ?_
    refine parallel_bind Transport.classify_parallel fun submission other corresponds => ?_
    refine parallel_bind (Endpoint.service_blind handler own) ?_
    rintro ⟨endpoints, own⟩ _ rfl
    exact parallel_pure _ _ ⟨.done submission other endpoints corresponds, rfl⟩

theorem complete_blind (event : Byte) : Blind (complete event : BridgeM β (Except RequestError Completion)) := by
  refine blind_bind blind_state fun state => ?_
  split
  · exact blind_pure _
  · exact blind_bind (Completion.handle_blind event) fun _ => blind_pure _

omit [Bus β] in
theorem take_retry_blind : Blind (takeRetry : BridgeM β (Option RetryRequest)) :=
  blind_bind blind_state fun _ => blind_bind (blind_modify _) fun _ => blind_pure _

end Controller

inductive Answer.Corresponds : Answer → Answer → Prop where
  | passed (pass other : Pass) (corresponds : Pass.Corresponds pass other) : Corresponds (.passed pass) (.passed other)
  | same (answer : Answer) (apart : ∀ pass, answer ≠ .passed pass) : Corresponds answer answer

-- Two controllers that differ in the in-progress code; what they have logged may differ too.
structure Counterparts (first second : Controller β) : Prop where
  code : first.settings.inProgress = .reference
  settings : second.settings = { first.settings with inProgress := .patched }
  bus : second.bus = first.bus
  state : second.state = first.state
  statistics : second.statistics = first.statistics

namespace Counterparts

omit [Bus β] in
theorem recast (controller : Controller β) (log : Array LogEvent) (code : controller.settings.inProgress = .reference) :
    Counterparts controller (controller.recast log) :=
  ⟨code, rfl, rfl, rfl, rfl⟩

omit [Bus β] in
theorem eq_recast {first second : Controller β} (counterparts : Counterparts first second) :
    second = first.recast second.log := by
  obtain ⟨-, settings, bus, state, statistics⟩ := counterparts
  cases second
  cases settings
  cases bus
  cases state
  cases statistics
  rfl

omit [Bus β] in
theorem start (bus : β) : Counterparts (Controller.start bus .reference) (Controller.start bus .patched) :=
  ⟨rfl, rfl, rfl, rfl, rfl⟩

end Counterparts

-- One event on both sides, with counterparts before and after it.
structure Step.Corresponds (first second : Step β) : Prop where
  event : second.event = first.event
  before : Counterparts first.before second.before
  after : Counterparts first.after second.after
  answer : Answer.Corresponds first.answer second.answer
  -- the state that a handler is left in
  own : ∀ {η : Type} (handler : EndpointHandler η β) (own : η), first.event = .pass handler own →
    ∀ pass own' after, Controller.poll handler own first.before = .ok (pass, own') after →
      ∃ other after', Controller.poll handler own second.before = .ok (other, own') after'

omit [Bus β] in
theorem results_correspond {related : α → α → Prop} {answer : α → Answer}
    (agrees : ∀ value other, related value other → Answer.Corresponds (answer value) (answer other))
    {first second : EStateM.Result Stall (Controller β) α} (ends : Ends related first second) :
    Answer.Corresponds (Answer.ofResult answer first).1 (Answer.ofResult answer second).1 ∧
      Counterparts (Answer.ofResult answer first).2 (Answer.ofResult answer second).2 := by
  cases ends with
  | ok value other after log code same => exact ⟨agrees value other same, .recast after log code⟩
  | error stall after log code => exact ⟨.same (.stalled stall) nofun, .recast after log code⟩

theorem event_corresponds (event : Event β) {first second : Controller β} (counterparts : Counterparts first second) :
    Answer.Corresponds (event.run first).1 (event.run second).1 ∧ Counterparts (event.run first).2 (event.run second).2 := by
  rw [counterparts.eq_recast]
  cases event with
  | pass handler own =>
      refine results_correspond ?_ ((Controller.poll_parallel handler own).ends first second.log counterparts.code)
      exact fun value other same => .passed value.1 other.1 same.1
  | completion event =>
      refine results_correspond ?_ ((Controller.complete_blind event).ends first second.log counterparts.code)
      rintro value _ rfl
      exact .same (.completed value) nofun
  | takeRetry =>
      refine results_correspond ?_ (Controller.take_retry_blind.ends first second.log counterparts.code)
      rintro value _ rfl
      exact .same (.retry value) nofun
  | flags fault commandActive transferState powerInit =>
      exact ⟨.same .silent nofun, counterparts.code, rfl, rfl, rfl, rfl⟩
  | hardware bus => exact ⟨.same .silent nofun, counterparts.code, rfl, rfl, rfl, rfl⟩

theorem handler_corresponds (handler : EndpointHandler η β) (own : η) {first second : Controller β}
    (counterparts : Counterparts first second) {pass : Pass} {own' : η} {after : Controller β}
    (ended : Controller.poll handler own first = .ok (pass, own') after) :
    ∃ other after', Controller.poll handler own second = .ok (other, own') after' := by
  have ends := (Controller.poll_parallel handler own).ends first second.log counterparts.code
  rw [← counterparts.eq_recast, ended] at ends
  generalize Controller.poll handler own second = result at ends ⊢
  cases ends with
  | ok _ answered after log code same =>
      obtain ⟨other, left⟩ := answered
      obtain ⟨-, rfl⟩ := same
      exact ⟨other, _, rfl⟩

theorem step_corresponds (event : Event β) {first second : Controller β} (counterparts : Counterparts first second) :
    Step.Corresponds { before := first, event } { before := second, event } where
  event := rfl
  before := counterparts
  after := (event_corresponds event counterparts).2
  answer := (event_corresponds event counterparts).1
  own handler own _ _ _ _ := handler_corresponds handler own counterparts

-- A run whose events may depend on the hardware, as a poke does.
def Run.driven (controller : Controller β) (choices : List (β → Event β)) : Run β :=
  choices.foldl (fun run choose => run.extend (choose run.controller.bus)) { controller }

-- the two runs, step by step
structure Run.Corresponds (run patched : Run β) : Prop where
  controller : Counterparts run.controller patched.controller
  history : List.Forall₂ Step.Corresponds run.history patched.history

theorem Run.Corresponds.extend {run patched : Run β} (corresponds : run.Corresponds patched) (choose : β → Event β) :
    (run.extend (choose run.controller.bus)).Corresponds (patched.extend (choose patched.controller.bus)) := by
  rw [corresponds.controller.bus]
  have step := step_corresponds (choose run.controller.bus) corresponds.controller
  exact ⟨step.after, List.rel_append corresponds.history (.cons step .nil)⟩

theorem patched_run_differs_in_the_code_alone (first second : Controller β) (counterparts : Counterparts first second)
    (choices : List (β → Event β)) :
    let run := Run.driven first choices
    let patched := Run.driven second choices
    Counterparts run.controller patched.controller ∧ List.Forall₂ Step.Corresponds run.history patched.history := by
  have onward (run patched : Run β) (corresponds : run.Corresponds patched) :
      Run.Corresponds (choices.foldl (fun run choose => run.extend (choose run.controller.bus)) run)
        (choices.foldl (fun run choose => run.extend (choose run.controller.bus)) patched) := by
    induction choices generalizing run patched with
    | nil => exact corresponds
    | cons choose rest ih => exact ih _ _ (corresponds.extend choose)
  obtain ⟨controller, history⟩ := onward { controller := first } { controller := second } ⟨counterparts, .nil⟩
  exact ⟨controller, history⟩

-- A simple command that is taken, a poke of its completion window, and the completion.
def patchedChoices : List (Board → Event Board) :=
  [fun _ => .plainPass, fun board => .hardware (board.poke Reg.Completion.basePending Reg.Completion.ready),
    fun _ => .completion 1]

theorem taken_command_told_in_two_codes :
    let first := Controller.start (Board.asking 0x8A 1) .reference
    let second := Controller.start (Board.asking 0x8A 1) .patched
    let run := Run.driven first patchedChoices
    let patched := Run.driven second patchedChoices
    Counterparts first second ∧ Counterparts run.controller patched.controller ∧
      List.Forall₂ Step.Corresponds run.history patched.history ∧
      run.history.map (fun step => step.answer.submission?) = [some (.inProgress .reference), none, none] ∧
      patched.history.map (fun step => step.answer.submission?) = [some (.inProgress .patched), none, none] := by
  intro first second run patched
  have counterparts : Counterparts first second := .start _
  obtain ⟨ended, corresponds⟩ := patched_run_differs_in_the_code_alone first second counterparts patchedChoices
  exact ⟨counterparts, ended, corresponds, by decide +kernel, by decide +kernel⟩

end StorageBridge
