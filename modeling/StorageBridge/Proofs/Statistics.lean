import StorageBridge.Proofs.DecisionLaw
import StorageBridge.Proofs.EndpointTrace
import StorageBridge.Proofs.Latch
import StorageBridge.Proofs.Logs
import StorageBridge.Proofs.RetryChannel

/-!
What the counters of a run count. Each of them is the number of steps of one kind in the history, or of
handler calls, up to the largest number that it holds.
-/

set_option autoImplicit false

namespace StorageBridge

open BridgeM

variable {η β : Type} [Bus β]

def Answer.refuses (answer : Answer) : Bool :=
  match answer.submission? with
  | some (.refused _) => true
  | _ => false

def Answer.exhausts : Answer → Bool
  | .passed (.done _ endpoints) => endpoints.exhausted
  | _ => false

namespace Step

def polls (step : Step β) : Bool :=
  match step.event with
  | .pass _ _ => step.before.state.reset.isNone
  | _ => false

def status (step : Step β) : Byte :=
  (Bus.read step.before.bus Reg.Transport.status).1

def asked (step : Step β) : Bool :=
  [0x28, 0x2A, 0x88, 0x8A].contains step.status

def acts (step : Step β) : Bool :=
  step.polls && step.asked

def idles (step : Step β) : Bool :=
  step.polls && !step.asked

-- an action that the readiness check turned away
def refused (step : Step β) : Bool :=
  step.answer.refuses

def asksAgain (step : Step β) : Bool :=
  match step.answer.submission? with
  | some (.refused .notReady) | some (.refused .retry) | some (.refused (.reject _)) => true
  | _ => false

def exhausts (step : Step β) : Bool :=
  step.answer.exhausts

def handlerCalls (step : Step β) : List Byte :=
  step.effects.filterMap Effect.call?

-- The verdict of the readiness check, once the transport has told its parameters.
def verdict (step : Step β) : Except Stall Readiness :=
  BridgeM.verdict (Readiness.check { step.before with bus := Transport.heard step.before.bus })

end Step

namespace Readiness

def turnsAway : EStateM.Result Stall (Controller β) Readiness → Bool
  | .ok readiness _ => !readiness.isProceed
  | .error _ _ => false

theorem turns_away_seen (before : Controller β) : turnsAway (check before) = (seen before).refuses before.state := by
  unfold Sight.refuses
  rw [← (check_obeys before).verdict]
  cases check before with
  | ok readiness after => rfl
  | error stall after => rfl

theorem check_counts (before : Controller β) :
    (ending (check before)).statistics = { before.statistics with
      refusals := if turnsAway (check before) then countUp before.statistics.refusals else before.statistics.refusals
      retryRequests := (ending (check before)).statistics.retryRequests } := by
  simp only [(check_obeys before).statistics, Sight.count, turns_away_seen]

end Readiness

namespace Submission

def turnsAway : EStateM.Result Stall (Controller β) Submission → Bool
  | .ok (.refused _) _ => true
  | _ => false

theorem accept_keeps_statistics (index : SlotIndex) (param1 param2 : Byte) (action : Action) :
    Keeps Controller.statistics Stalls (accept index param1 param2 action : BridgeM β Submission) := by
  have prepares : Keeps Controller.statistics never (prepare index param1 param2 action : BridgeM β TransferFlags) :=
    keeps_coarser (prepare_keeps index param1 param2 action) fun rest => rest.2.2
  have programs (flags : TransferFlags) :
      Keeps Controller.statistics (· = Transfer.unready) (Transfer.program flags index.toByte : BridgeM β Transfer) :=
    keeps_coarser (Transfer.program_keeps flags index.toByte) fun rest => rest.2.2
  have handsOff : Keeps Controller.statistics Stalls (handOff : BridgeM β Unit) :=
    keeps_coarser (hand_off_keeps Stalls) fun rest => rest.2.2
  rw [accept_prepares]
  refine keeps_bind (keeps_with_stalls prepares fun _ => False.elim) fun flags => keeps_bind ?_ fun _ => ?_
  · refine keeps_bind (keeps_with_stalls (programs flags) fun _ => .inr) fun _ => ?_
    exact keeps_bind ⟨fun _ => rfl⟩ fun _ => handsOff
  · unfold answer
    split
    · exact keeps_pure _ _ _
    · exact ⟨fun _ => rfl⟩

theorem held_declines (index : SlotIndex) (before : Controller β) :
    (ending (held index before)).statistics = before.statistics ∧ turnsAway (held index before) = false := by
  obtain ⟨transferring, after, answered, -⟩ := held_answers index before
  have keeps : Keeps Controller.statistics never (held index : BridgeM β Submission) := ⟨fun _ => rfl⟩
  refine ⟨keeps_ending keeps before, ?_⟩
  rw [answered]
  cases transferring with
  | true => rfl
  | false => rfl

theorem accept_declines_not (index : SlotIndex) (param1 param2 : Byte) (action : Action) (before : Controller β) :
    turnsAway (accept index param1 param2 action before) = false := by
  cases accepted : accept index param1 param2 action before with
  | ok submission after => rcases accept_answer accepted with rfl | rfl <;> rfl
  | error stall after => rfl

-- A submission counts what the readiness check has turned away.
theorem submit_counts (param1 param2 : Byte) (action : Action) (before : Controller β) :
    let result := submit param1 param2 action before
    (ending result).statistics = { before.statistics with
      refusals := if turnsAway result then countUp before.statistics.refusals else before.statistics.refusals
      retryRequests := (ending result).statistics.retryRequests } := by
  intro result
  have counted := Readiness.check_counts (marked action before)
  have outcome : Outcome param1 param2 action before result := submit_outcome param1 param2 action before
  clear_value result
  cases outcome with
  | untrained stall after stalled =>
      rw [stalled] at counted
      exact counted
  | refused readiness between checked refuses =>
      rw [checked] at counted
      simp only [Readiness.turnsAway, refuses] at counted
      exact counted
  | held between checked taken =>
      obtain ⟨kept, declines⟩ := held_declines between.state.ring.index between
      rw [checked] at counted
      rw [kept, declines]
      exact counted
  | accepted between checked free =>
      have kept := keeps_ending (accept_keeps_statistics between.state.ring.index param1 param2 action) between
      rw [checked] at counted
      rw [kept, accept_declines_not]
      exact counted

-- The check turns an action away exactly when its verdict is another than to proceed.
theorem refused_iff_checked (param1 param2 : Byte) (action : Action) (before : Controller β) :
    turnsAway (submit param1 param2 action before) = Readiness.turnsAway (Readiness.check (marked action before)) := by
  have outcome := submit_outcome param1 param2 action before
  generalize submit param1 param2 action before = result at outcome
  cases outcome with
  | untrained stall after stalled => rw [stalled]; rfl
  | refused readiness between checked refuses =>
      rw [checked]
      exact (congrArg (!·) refuses).symm
  | held between checked taken => rw [checked, (held_declines _ _).2]; rfl
  | accepted between checked free => rw [checked, accept_declines_not]; rfl

end Submission

namespace Transport

def asks (bus : β) : Bool :=
  [0x28, 0x2A, 0x88, 0x8A].contains (Bus.read bus Reg.Transport.status).1

omit [Bus β] in
theorem asks_of_status (status : Byte) : [0x28, 0x2A, 0x88, 0x8A].contains status = (Action.ofStatus? status).isSome := by
  have table : ∀ raw : Fin 256,
      [0x28, 0x2A, 0x88, 0x8A].contains (UInt8.ofFin raw) = (Action.ofStatus? (UInt8.ofFin raw)).isSome := by
    decide +kernel
  exact table status.toFin

def turnsAway : EStateM.Result Stall (Controller β) (Option Submission) → Bool
  | .ok (some (.refused _)) _ => true
  | _ => false

theorem classify_counts (before : Controller β) :
    let result := classify before
    (ending result).statistics = { before.statistics with
      actions := if asks before.bus then countUp before.statistics.actions else before.statistics.actions
      idle := if asks before.bus then before.statistics.idle else countUp before.statistics.idle
      refusals := if turnsAway result then countUp before.statistics.refusals else before.statistics.refusals
      retryRequests := (ending result).statistics.retryRequests } := by
  intro result
  let seen := Bus.read before.bus Reg.Transport.status
  have asking : asks before.bus = (Action.ofStatus? seen.1).isSome := asks_of_status seen.1
  rw [asking]
  cases asked : Action.ofStatus? seen.1 with
  | none =>
      obtain ⟨after, classified, counted⟩ : ∃ after, result = .ok none after ∧
          after.statistics = { before.statistics with idle := countUp before.statistics.idle } := by
        simp only [result, classify, bind_read, seen] at asked ⊢
        rw [asked]
        exact ⟨_, rfl, rfl⟩
      rw [classified, show (ending (.ok none after) : Controller β) = after from rfl, counted]
      rfl
  | some action =>
      have classified : result =
          (perform seen.1 action >>= fun submission => pure (some submission)) { before with bus := seen.2 } := by
        simp only [result, classify, bind_read, seen] at asked ⊢
        rw [asked]
      obtain ⟨param1, param2, begun, performed, statistics⟩ : ∃ param1 param2 begun,
          perform seen.1 action { before with bus := seen.2 } = Submission.submit param1 param2 action begun ∧
            begun.statistics = { before.statistics with actions := countUp before.statistics.actions } :=
        ⟨_, _, _, rfl, rfl⟩
      have counted := Submission.submit_counts param1 param2 action begun
      rw [statistics] at counted
      cases ended : Submission.submit param1 param2 action begun with
      | ok submission after =>
          have done : result = .ok (some submission) after := classified.trans (bind_of_ok (performed.trans ended) _)
          rw [ended] at counted
          rw [done]
          cases submission <;> exact counted
      | error stall after =>
          have done : result = .error stall after := classified.trans (bind_of_error (performed.trans ended) _)
          rw [ended] at counted
          rw [done]
          exact counted

end Transport

open Recorder

theorem calls_of_reaches {touched : Address → Prop} {before after : Recorder β}
    (reached : Reaches touched (fun _ _ _ => False) before after) : after.calls = before.calls := by
  induction reached with
  | refl => rfl
  | read address _ ih => exact (calls_read _ address).trans ih
  | write address value _ _ ih => exact (calls_write _ address value).trans ih
  | wait address mask budget _ _ ih =>
      rw [← ih]
      simp [calls, Bus.wait, record, Effect.call?]
  | call offset called _ _ => exact False.elim called

-- A service call counts its handler calls, and itself when its rounds run out.
theorem service_counts (handler : EndpointHandler η β) (own : η) (before : Controller (Recorder β)) :
    ∃ endpoints own' after, Endpoint.service handler.recorded own before = .ok (endpoints, own') after ∧
      ∃ served events, after.bus.calls = before.bus.calls ++ served ∧
        after.statistics = { before.statistics with
          endpointEvents := events
          serviceExhausted :=
            if endpoints.exhausted then countUp before.statistics.serviceExhausted
            else before.statistics.serviceExhausted } ∧
        events.toNat = min 0xFFFFFFFF (before.statistics.endpointEvents.toNat + served.length) := by
  obtain ⟨served, closing, own', last, finished, made, fewer, closes, tallies⟩ :=
    Endpoint.rounds_effects handler Endpoint.serviceBudget own before
  obtain ⟨log, answered⟩ := Endpoint.service_ends finished
  obtain ⟨events, counts, counted⟩ := tallies.statistics
  refine ⟨_, own', _, answered, served.map Endpoint.Round.offset, events, ?_, ?_, ?_⟩
  · rw [Recorder.calls, made, List.filterMap_append, Endpoint.calls_of_rounds closes]
    rfl
  · simp only [counts, decide_eq_true_eq]
  · rw [counted, List.length_map]

namespace Controller

-- What a pass counts, unless the controller is latched.
structure Counts (before : Controller (Recorder β)) (answer : Answer) (after : Controller (Recorder β)) : Prop where
  passes : after.statistics.passes = countUp before.statistics.passes
  actions : after.statistics.actions =
    if Transport.asks before.bus then countUp before.statistics.actions else before.statistics.actions
  idle : after.statistics.idle =
    if Transport.asks before.bus then before.statistics.idle else countUp before.statistics.idle
  refusals : after.statistics.refusals =
    if answer.refuses then countUp before.statistics.refusals else before.statistics.refusals
  serviceExhausted : after.statistics.serviceExhausted =
    if answer.exhausts then countUp before.statistics.serviceExhausted else before.statistics.serviceExhausted
  calls : ∃ served, after.bus.calls = before.bus.calls ++ served ∧
    after.statistics.endpointEvents.toNat = min 0xFFFFFFFF (before.statistics.endpointEvents.toNat + served.length)

theorem poll_counts {before : Controller (Recorder β)} (unlatched : before.state.reset = none)
    (handler : EndpointHandler η β) (own : η) :
    let answered := Answer.ofResult (fun answer => .passed answer.1) (poll handler.recorded own before)
    Counts before answered.1 answered.2 := by
  let counted : Controller (Recorder β) :=
    { before with statistics := { before.statistics with passes := countUp before.statistics.passes } }
  have records : Records (· ∈ Submission.registers) (fun _ _ _ => False)
      (Transport.classify : BridgeM (Recorder β) (Option Submission)) Transport.classify := Transport.classify_records
  have silent := calls_of_reaches (records.reaches counted)
  have classified := Transport.classify_counts counted
  have polled : poll handler.recorded own before =
      (Transport.classify >>= fun submission => Endpoint.service handler.recorded own >>= fun served =>
        pure (.done submission served.1, served.2)) counted := by
    unfold poll
    rw [bind_get_state, unlatched]
    rfl
  rw [polled]
  cases ended : Transport.classify counted with
  | error stall after =>
      have bound := before.statistics.endpointEvents.toNat_lt
      rw [ended] at silent classified
      rw [bind_of_error ended]
      have events : after.statistics.endpointEvents = before.statistics.endpointEvents :=
        (congrArg Statistics.endpointEvents classified :)
      exact
        { passes := (congrArg Statistics.passes classified :)
          actions := (congrArg Statistics.actions classified :)
          idle := (congrArg Statistics.idle classified :)
          refusals := (congrArg Statistics.refusals classified :)
          serviceExhausted := (congrArg Statistics.serviceExhausted classified :)
          calls := by
            refine ⟨[], silent.trans (List.append_nil _).symm, ?_⟩
            change after.statistics.endpointEvents.toNat = _
            rw [events, List.length_nil]
            omega }
  | ok submission between =>
      rw [ended] at silent classified
      rw [bind_of_ok ended]
      obtain ⟨endpoints, own', after, served, calls, events, made, statistics, total⟩ := service_counts handler own between
      rw [bind_of_ok served]
      have exhausted : between.statistics.serviceExhausted = before.statistics.serviceExhausted :=
        (congrArg Statistics.serviceExhausted classified :)
      have refuses : Answer.refuses (.passed (.done submission endpoints)) =
          Transport.turnsAway (.ok submission between : EStateM.Result Stall (Controller (Recorder β)) (Option Submission)) := by
        cases submission with
        | none => rfl
        | some submission => cases submission <;> rfl
      exact
        { passes := (congrArg Statistics.passes statistics :).trans (congrArg Statistics.passes classified :)
          actions := (congrArg Statistics.actions statistics :).trans (congrArg Statistics.actions classified :)
          idle := (congrArg Statistics.idle statistics :).trans (congrArg Statistics.idle classified :)
          refusals := by
            have kept : after.statistics.refusals = between.statistics.refusals := (congrArg Statistics.refusals statistics :)
            have counted := (congrArg Statistics.refusals classified :)
            change after.statistics.refusals = if Answer.refuses (.passed (.done submission endpoints)) then _ else _
            rw [refuses, kept]
            exact counted
          serviceExhausted := by
            have counted := (congrArg Statistics.serviceExhausted statistics :)
            rw [exhausted] at counted
            exact counted
          calls := by
            have events' : after.statistics.endpointEvents = events := (congrArg Statistics.endpointEvents statistics :)
            have events : between.statistics.endpointEvents = before.statistics.endpointEvents :=
              (congrArg Statistics.endpointEvents classified :)
            refine ⟨calls, made.trans (congrArg (· ++ calls) silent), ?_⟩
            change after.statistics.endpointEvents.toNat = _
            rw [events', total, events] }

end Controller

-- what a step adds to the counters
structure Tallied (step : Step β) : Prop where
  passes : step.after.statistics.passes =
    if step.polls then countUp step.before.statistics.passes else step.before.statistics.passes
  actions : step.after.statistics.actions =
    if step.acts then countUp step.before.statistics.actions else step.before.statistics.actions
  idle : step.after.statistics.idle =
    if step.idles then countUp step.before.statistics.idle else step.before.statistics.idle
  refusals : step.after.statistics.refusals =
    if step.refused then countUp step.before.statistics.refusals else step.before.statistics.refusals
  serviceExhausted : step.after.statistics.serviceExhausted =
    if step.exhausts then countUp step.before.statistics.serviceExhausted else step.before.statistics.serviceExhausted
  endpointEvents : step.after.statistics.endpointEvents.toNat =
    min 0xFFFFFFFF (step.before.statistics.endpointEvents.toNat + step.handlerCalls.length)

-- the counters that only passes move
def passCounts (counts : Statistics) : Statistics :=
  { counts with retryRequests := 0, completions := 0, resets := 0 }

theorem tallied_of_quiet {step : Step β} (kept : passCounts step.after.statistics = passCounts step.before.statistics)
    (polls : step.polls = false) (refused : step.refused = false) (exhausts : step.exhausts = false)
    (silent : step.handlerCalls = []) : Tallied step := by
  have bound := step.before.statistics.endpointEvents.toNat_lt
  have acts : step.acts = false := by rw [Step.acts, polls, Bool.false_and]
  have idles : step.idles = false := by rw [Step.idles, polls, Bool.false_and]
  have events : step.after.statistics.endpointEvents = step.before.statistics.endpointEvents :=
    (congrArg Statistics.endpointEvents kept :)
  exact
    { passes := by rw [polls]; exact (congrArg Statistics.passes kept :)
      actions := by rw [acts]; exact (congrArg Statistics.actions kept :)
      idle := by rw [idles]; exact (congrArg Statistics.idle kept :)
      refusals := by rw [refused]; exact (congrArg Statistics.refusals kept :)
      serviceExhausted := by rw [exhausts]; exact (congrArg Statistics.serviceExhausted kept :)
      endpointEvents := by
        rw [events, silent, List.length_nil]
        omega }

theorem pass_tallied (before : Controller β) (handler : EndpointHandler η β) (own : η) :
    Tallied { before, event := .pass handler own } := by
  let step : Step β := { before, event := .pass handler own }
  cases closed : before.state.reset with
  | some request =>
      have plain : step.answer = .passed (.latched request) ∧ step.after = before := by
        rw [Step.answer, Step.after]
        change (Answer.ofResult _ (Controller.poll handler own before)).1 = _ ∧ (Answer.ofResult _ (Controller.poll handler own before)).2 = _
        rw [Controller.poll_of_latched closed]
        exact ⟨rfl, rfl⟩
      have still : before.recorded.state.reset = some request := closed
      have silent : step.handlerCalls = [] := by
        have again : Controller.poll handler.recorded own before.recorded = .ok (.latched request, own) before.recorded :=
          Controller.poll_of_latched still handler.recorded own
        rw [Step.handlerCalls, Step.effects, Step.recorded]
        change ((Answer.ofResult _ (Controller.poll handler.recorded own before.recorded)).2.bus.effects.reverse).filterMap _ = _
        rw [again]
        rfl
      refine tallied_of_quiet ?_ ?_ ?_ ?_ silent
      · exact congrArg (fun controller => passCounts controller.statistics) plain.2
      · exact congrArg Option.isNone closed
      · exact congrArg Answer.refuses plain.1
      · exact congrArg Answer.exhausts plain.1
  | none =>
      have open' : before.recorded.state.reset = none := closed
      have counts : Controller.Counts before.recorded step.recorded.1 step.recorded.2 :=
        Controller.poll_counts open' handler own
      obtain ⟨answer, after⟩ := step.recorded_same
      have statistics : step.after.statistics = step.recorded.2.statistics := by rw [← after]; rfl
      have polls : step.polls = true := congrArg Option.isNone closed
      have acts : step.acts = Transport.asks before.bus := by rw [Step.acts, polls, Bool.true_and]; rfl
      have idles : step.idles = !Transport.asks before.bus := by rw [Step.idles, polls, Bool.true_and]; rfl
      rw [answer] at counts
      obtain ⟨served, calls, events⟩ := counts.calls
      exact
        { passes := by rw [statistics, polls]; exact counts.passes
          actions := by rw [statistics, acts]; exact counts.actions
          idle := by
            have idle : step.recorded.2.statistics.idle =
                if Transport.asks before.bus then before.statistics.idle else countUp before.statistics.idle := counts.idle
            rw [statistics, idles, idle]
            cases Transport.asks before.bus <;> rfl
          refusals := by rw [statistics]; exact counts.refusals
          serviceExhausted := by rw [statistics]; exact counts.serviceExhausted
          endpointEvents := by
            have made : step.handlerCalls = served := calls
            rw [statistics, made]
            exact events }

theorem completion_tallied (before : Controller β) (event : Byte) : Tallied { before, event := .completion event } := by
  let step : Step β := { before, event := .completion event }
  have records : Records Controller.CompletionTouches (fun _ _ _ => False)
      (Controller.complete event : BridgeM (Recorder β) (Except RequestError Completion)) (Controller.complete event) :=
    Controller.complete_records event
  have kept := keeps_ending (Controller.complete_keeps event) before
  have silent : step.handlerCalls = [] := by
    have calls := calls_of_reaches (records.reaches before.recorded)
    rw [Step.handlerCalls, Step.effects, Step.recorded]
    change ((Answer.ofResult .completed (Controller.complete event before.recorded)).2.bus).calls = _
    rw [outcome_ending]
    exact calls
  have answered : step.answer = (Answer.ofResult .completed (Controller.complete event before)).1 := rfl
  have after : step.after = ending (Controller.complete event before) := outcome_ending _ _
  refine tallied_of_quiet ?_ rfl ?_ ?_ silent
  · rw [after]
    exact congrArg (fun rest => passCounts rest.2.2) kept
  · change Answer.refuses step.answer = false
    rw [answered]
    cases Controller.complete event before <;> rfl
  · change Answer.exhausts step.answer = false
    rw [answered]
    cases Controller.complete event before <;> rfl

theorem step_tallied (step : Step β) : Tallied step := by
  obtain ⟨before, event⟩ := step
  cases event with
  | pass handler own => exact pass_tallied before handler own
  | completion event => exact completion_tallied before event
  | takeRetry => exact tallied_of_quiet rfl rfl rfl rfl rfl
  | flags fault commandActive transferState powerInit => exact tallied_of_quiet rfl rfl rfl rfl rfl
  | hardware bus => exact tallied_of_quiet rfl rfl rfl rfl rfl

theorem asks_again_iff (step : Step β) : step.asksAgain = step.answer.asks := by
  unfold Step.asksAgain
  cases step.answer with
  | passed pass =>
      cases pass with
      | latched request => rfl
      | done submission endpoints =>
          cases submission with
          | none => rfl
          | some submission =>
              cases submission with
              | refused readiness => cases readiness <;> rfl
              | _ => rfl
  | _ => rfl

theorem step_asks_again (step : Step β) : step.after.statistics.retryRequests =
    if step.asksAgain then countUp step.before.statistics.retryRequests else step.before.statistics.retryRequests := by
  rw [asks_again_iff]
  by_cases takes : step.event.takes = true
  · obtain ⟨before, event⟩ := step
    cases event with
    | takeRetry => rfl
    | _ => cases takes
  · obtain ⟨request?, asked, left⟩ := event_leaves step.event (Bool.eq_false_iff.mpr takes) step.before
    have counted := congrArg RetryChannel.counted left
    have asks : step.answer.asks = request?.isSome := asked.symm
    rw [asks]
    cases request? with
    | none => exact counted
    | some request => exact counted

theorem asks_iff_request (bus : β) : Transport.asks bus = (Transport.request? bus).isSome := by
  rw [Transport.asks, Transport.asks_of_status, Transport.request?, Option.isSome_map]

-- A check finds the same whatever the action and the parameters are.
theorem check_of_begun {before begun : Controller β} (begins : Transport.Begins before begun) (action : Action) :
    Readiness.turnsAway (Readiness.check (Submission.marked action begun)) =
      Readiness.turnsAway (Readiness.check { before with bus := Transport.heard before.bus }) := by
  obtain ⟨coreState, state⟩ := begins.state
  have same : Readiness.seen (Submission.marked action begun) = Readiness.seen { before with bus := Transport.heard before.bus } :=
    Readiness.seen_of_same begins.bus (by rw [Submission.marked, state]) (by rw [Submission.marked, state])
      (by rw [Submission.marked, state])
  rw [Readiness.turns_away_seen, Readiness.turns_away_seen, same, Submission.marked, state]
  rfl

theorem pass_refused {before : Controller β} {handler : EndpointHandler η β} {own : η}
    {result : EStateM.Result Stall (Controller β) (Pass × η)} (passed : Controller.Passed handler own before result) :
    (Answer.ofResult (fun answer => .passed answer.1) result).1.refuses =
      (before.state.reset.isNone && Transport.asks before.bus &&
        Readiness.turnsAway (Readiness.check { before with bus := Transport.heard before.bus })) := by
  rw [asks_iff_request]
  cases passed with
  | latched request closed =>
      rw [closed]
      rfl
  | idle between after endpoints own' unlatched unasked settings state served =>
      rw [unasked, Option.isSome_none, Bool.and_false, Bool.false_and]
      rfl
  | answered request begun between after submission endpoints own' unlatched asked begins submitted served =>
      have turned := Submission.refused_iff_checked request.param1 request.param2 request.action begun
      rw [submitted, check_of_begun begins] at turned
      rw [unlatched, asked, ← turned]
      cases submission <;> rfl
  | stalled request begun after stall unlatched asked begins submitted =>
      have turned := Submission.refused_iff_checked request.param1 request.param2 request.action begun
      rw [submitted, check_of_begun begins] at turned
      rw [unlatched, asked, ← turned]
      rfl

theorem refused_iff_verdict (step : Step β) :
    step.refused = true ↔ step.acts = true ∧ ∃ readiness, readiness ≠ .proceed ∧ step.verdict = .ok readiness := by
  have away : Readiness.turnsAway (Readiness.check { step.before with bus := Transport.heard step.before.bus }) = true ↔
      ∃ readiness, readiness ≠ .proceed ∧ step.verdict = .ok readiness := by
    unfold Step.verdict
    cases Readiness.check { step.before with bus := Transport.heard step.before.bus } with
    | ok readiness after => cases readiness <;> simp [Readiness.turnsAway, Readiness.isProceed, BridgeM.verdict]
    | error stall after => simp [Readiness.turnsAway, BridgeM.verdict]
  rw [← away]
  have refused : step.refused = (step.acts &&
      Readiness.turnsAway (Readiness.check { step.before with bus := Transport.heard step.before.bus })) := by
    obtain ⟨before, event⟩ := step
    cases event with
    | pass handler own => exact pass_refused (Controller.poll_passed handler own before)
    | completion event =>
        change (Answer.ofResult .completed (Controller.complete event before)).1.refuses = false
        cases Controller.complete event before <;> rfl
    | _ => rfl
  rw [refused, Bool.and_eq_true]

-- A counter that each step of one kind moves counts the steps of that kind.
theorem run_counts (counter : Statistics → UInt32) (moved : Step β → Bool) (fresh : counter {} = 0)
    (moves : ∀ step : Step β, counter step.after.statistics =
      if moved step then countUp (counter step.before.statistics) else counter step.before.statistics)
    (bus : β) (settings : Settings) (events : List (Event β)) :
    let run := Run.of (Controller.start bus settings) events
    (counter run.controller.statistics).toNat = min 0xFFFFFFFF (run.history.countP moved) := by
  refine Run.run_induction (fun run => (counter run.controller.statistics).toNat = min 0xFFFFFFFF (run.history.countP moved))
    (Controller.start bus settings) ?_ ?_ events
  · change (counter {}).toNat = _
    rw [fresh]
    rfl
  · intro earlier event counted
    let step : Step β := { before := (Run.of (Controller.start bus settings) earlier).controller, event }
    have grown : ((Run.of (Controller.start bus settings) earlier).extend event).history.countP moved =
        (Run.of (Controller.start bus settings) earlier).history.countP moved + if moved step then 1 else 0 := by
      simp [Run.extend, step, List.countP_append, List.countP_singleton]
    rw [grown]
    exact saturating_counts counted (moves step)

theorem run_counts_calls (bus : β) (settings : Settings) (events : List (Event β)) :
    let run := Run.of (Controller.start bus settings) events
    run.controller.statistics.endpointEvents.toNat = min 0xFFFFFFFF (run.effects.filterMap Effect.call?).length := by
  refine Run.run_induction (fun run => run.controller.statistics.endpointEvents.toNat =
    min 0xFFFFFFFF (run.effects.filterMap Effect.call?).length) (Controller.start bus settings) rfl ?_ events
  intro earlier event counted
  let step : Step β := { before := (Run.of (Controller.start bus settings) earlier).controller, event }
  have tallied := (step_tallied step).endpointEvents
  have grown : (((Run.of (Controller.start bus settings) earlier).extend event).effects.filterMap Effect.call?).length =
      ((Run.of (Controller.start bus settings) earlier).effects.filterMap Effect.call?).length + step.handlerCalls.length := by
    rw [Run.effects_extend, List.filterMap_append, List.length_append]
    rfl
  change step.after.statistics.endpointEvents.toNat = _
  change (Run.of (Controller.start bus settings) earlier).controller.statistics.endpointEvents.toNat = _ at counted
  rw [grown, tallied, counted]
  omega

theorem passes_act_or_idle (steps : List (Step β)) :
    steps.countP Step.polls = steps.countP Step.acts + steps.countP Step.idles := by
  induction steps with
  | nil => rfl
  | cons step rest ih =>
      rw [List.countP_cons, List.countP_cons, List.countP_cons, ih, Step.acts, Step.idles]
      cases step.polls <;> cases step.asked <;> simp <;> omega

theorem statistics_are_exact (bus : β) (settings : Settings) (events : List (Event β)) :
    let run := Run.of (Controller.start bus settings) events
    let counts := run.controller.statistics
    let count (kind : Step β → Bool) := run.history.countP kind
    counts.passes.toNat = min 0xFFFFFFFF (count Step.polls) ∧
    counts.idle.toNat = min 0xFFFFFFFF (count Step.idles) ∧
    counts.actions.toNat = min 0xFFFFFFFF (count Step.acts) ∧
    count Step.polls = count Step.acts + count Step.idles ∧
    counts.refusals.toNat = min 0xFFFFFFFF (count Step.refused) ∧
    (∀ step ∈ run.history, step.refused = true ↔
      step.acts = true ∧ ∃ readiness, readiness ≠ .proceed ∧ step.verdict = .ok readiness) ∧
    counts.retryRequests.toNat = min 0xFFFFFFFF (count Step.asksAgain) ∧
    counts.endpointEvents.toNat = min 0xFFFFFFFF (run.effects.filterMap Effect.call?).length ∧
    counts.serviceExhausted.toNat = min 0xFFFFFFFF (count Step.exhausts) ∧
    counts.completions.toNat = min 0xFFFFFFFF (count Step.retires) ∧
    counts.resets = if run.controller.state.reset.isSome then 1 else 0 := by
  intro run counts count
  have tallied (step : Step β) : Tallied step := step_tallied step
  refine ⟨?_, ?_, ?_, passes_act_or_idle _, ?_, fun step _ => refused_iff_verdict step, ?_, ?_, ?_, ?_, ?_⟩
  · exact run_counts Statistics.passes Step.polls rfl (fun step => (tallied step).passes) bus settings events
  · exact run_counts Statistics.idle Step.idles rfl (fun step => (tallied step).idle) bus settings events
  · exact run_counts Statistics.actions Step.acts rfl (fun step => (tallied step).actions) bus settings events
  · exact run_counts Statistics.refusals Step.refused rfl (fun step => (tallied step).refusals) bus settings events
  · exact run_counts Statistics.retryRequests Step.asksAgain rfl step_asks_again bus settings events
  · exact run_counts_calls bus settings events
  · exact run_counts Statistics.serviceExhausted Step.exhausts rfl (fun step => (tallied step).serviceExhausted) bus settings events
  · exact (run_balanced bus settings events).completions
  · exact (run_latching bus settings events).count

end StorageBridge
