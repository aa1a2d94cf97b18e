import StorageBridge.Proofs.EndpointDrain

/-!
What a service call does to the bus, whatever the hardware shows and whatever the handler does to it:
round after round it looks up an endpoint in two bitmaps, calls the handler and acknowledges the
endpoint that it looked up. It ends with an empty bitmap or with its last round.
-/

set_option autoImplicit false

namespace StorageBridge.Endpoint

open BridgeM

variable {η β : Type}

def IsLowest (bitmap : Byte) (index : EndpointIndex) : Prop :=
  bitmap.toNat.testBit index.val = true ∧
    ∀ lower : EndpointIndex, lower < index → bitmap.toNat.testBit lower.val = false

-- A round that found an endpoint: the two bitmaps as they were read, and the choice they leave.
structure Round where
  groups : Byte
  endpoints : Byte
  group : EndpointIndex
  endpoint : EndpointIndex
  groupLowest : IsLowest groups group
  endpointLowest : IsLowest endpoints endpoint

namespace Round

def register (round : Round) : Address :=
  Reg.Endpoint.base + UInt16.ofNat round.group.val

def offset (round : Round) : Byte :=
  UInt8.ofNat (8 * round.group.val + round.endpoint.val)

def lookup (round : Round) : List Effect :=
  [.operation (.read Reg.Endpoint.status round.groups), .operation (.read round.register round.endpoints)]

def service (round : Round) : List Effect :=
  [.call round.offset, .operation (.write round.register (1 <<< UInt8.ofNat round.endpoint.val))]

def effects (round : Round) : List Effect :=
  round.lookup ++ round.service

theorem offset_of_indices (round : Round) : EndpointIndex.offset round.group round.endpoint = round.offset := by
  apply UInt8.toNat_inj.mp
  have small : 8 * round.group.val + round.endpoint.val < 256 := by omega
  rw [EndpointIndex.offset_to_nat, offset, UInt8.toNat_ofNat_of_lt' small]

end Round

-- What follows the last round that found an endpoint: nothing when no round is left, and otherwise a
-- lookup that ends at an empty bitmap.
inductive Closes (left : Nat) : List Effect → Prop where
  | exhausted (none : left = 0) : Closes left []
  | noGroup (more : 0 < left) : Closes left [.operation (.read Reg.Endpoint.status 0)]
  | noEndpoint (more : 0 < left) (groups : Byte) (group : EndpointIndex) (lowest : IsLowest groups group) :
      Closes left [.operation (.read Reg.Endpoint.status groups),
        .operation (.read (Reg.Endpoint.base + UInt16.ofNat group.val) 0)]

-- what rounds change beside the bus: the last offset, and the count of events
structure Tallies (before : Controller β) (served : List Round) (after : Controller β) : Prop where
  settings : after.settings = before.settings
  state : after.state = { before.state with
    dispatchOffset := (served.getLast?.map Round.offset).or before.state.dispatchOffset }
  statistics : ∃ events, after.statistics = { before.statistics with endpointEvents := events } ∧
    events.toNat = min 0xFFFFFFFF (before.statistics.endpointEvents.toNat + served.length)

theorem tallies_none {before after : Controller β} (settings : after.settings = before.settings)
    (state : after.state = before.state) (statistics : after.statistics = before.statistics) :
    Tallies before [] after := by
  have bound := before.statistics.endpointEvents.toNat_lt
  refine ⟨settings, state, before.statistics.endpointEvents, statistics, ?_⟩
  rw [List.length_nil]
  omega

theorem Tallies.cons {before between after : Controller β} {round : Round} {served : List Round}
    (settings : between.settings = before.settings)
    (state : between.state = { before.state with dispatchOffset := some round.offset })
    (statistics : between.statistics =
      { before.statistics with endpointEvents := countUp before.statistics.endpointEvents })
    (tallies : Tallies between served after) : Tallies before (round :: served) after := by
  obtain ⟨events, counts, counted⟩ := tallies.statistics
  refine ⟨tallies.settings.trans settings, ?_, events, ?_, ?_⟩
  · have last : ((round :: served).getLast?.map Round.offset).or before.state.dispatchOffset =
        (served.getLast?.map Round.offset).or (some round.offset) := by
      rw [List.getLast?_cons]
      cases served.getLast? with
      | none => rfl
      | some final => rfl
    rw [tallies.state, state, last]
  · rw [counts, statistics]
  · rw [counted, statistics, toNat_countUp, List.length_cons]
    omega

variable [Bus β]

-- How a lookup ends over a recorder.
inductive Looks (left : Nat) (before : Controller (Recorder β)) :
    EStateM.Result Stall (Controller (Recorder β)) (Option (EndpointIndex × EndpointIndex)) → Prop where
  | empty (bus : Recorder β) (closing : List Effect) (closes : Closes left closing)
      (made : bus.effects.reverse = before.bus.effects.reverse ++ closing) : Looks left before (.ok none { before with bus })
  | found (bus : Recorder β) (round : Round)
      (made : bus.effects.reverse = before.bus.effects.reverse ++ round.lookup) :
      Looks left before (.ok (some (round.group, round.endpoint)) { before with bus })

theorem next_ready_looks {left : Nat} (more : 0 < left) (before : Controller (Recorder β)) :
    Looks left before (nextReady before) := by
  let groups := (Bus.read before.bus Reg.Endpoint.status).1
  let seen := (Bus.read before.bus Reg.Endpoint.status).2
  unfold nextReady
  rw [bind_read]
  cases first : EndpointIndex.lowest? groups with
  | none =>
      have zero : groups = 0 := (EndpointIndex.lowest_none_iff _).mp first
      refine .empty seen _ (.noGroup more) ?_
      rw [← zero]
      exact List.reverse_cons
  | some group =>
      let endpoints := (Bus.read seen group.groupRegister).1
      let looked := (Bus.read seen group.groupRegister).2
      have made : looked.effects.reverse = before.bus.effects.reverse ++
          [.operation (.read Reg.Endpoint.status groups), .operation (.read group.groupRegister endpoints)] := by
        simp [looked, seen, groups, endpoints, Bus.read, Recorder.record]
      change Looks left before (.ok ((EndpointIndex.lowest? endpoints).map fun endpoint => (group, endpoint))
        { before with bus := looked })
      cases second : EndpointIndex.lowest? endpoints with
      | none =>
          have zero : endpoints = 0 := (EndpointIndex.lowest_none_iff _).mp second
          rw [zero] at made
          exact .empty looked _ (.noEndpoint more groups group (EndpointIndex.lowest_some first)) made
      | some endpoint =>
          have groupLowest : IsLowest groups group := EndpointIndex.lowest_some first
          have endpointLowest : IsLowest endpoints endpoint := EndpointIndex.lowest_some second
          exact .found looked { groups, endpoints, group, endpoint, groupLowest, endpointLowest } made

theorem serve_effects (handler : EndpointHandler η β) (round : Round) (own : η) (before : Controller (Recorder β)) :
    ∃ own' after, serve handler.recorded round.group round.endpoint own before = .ok own' after ∧
      after.bus.effects.reverse = before.bus.effects.reverse ++ round.service ∧
      after.settings = before.settings ∧
      after.state = { before.state with dispatchOffset := some round.offset } ∧
      after.statistics =
        { before.statistics with endpointEvents := countUp before.statistics.endpointEvents } := by
  refine ⟨_, _, rfl, ?_, rfl, ?_, rfl⟩
  · change (.operation (.write round.register _) :: .call (EndpointIndex.offset round.group round.endpoint) ::
      before.bus.effects).reverse = _
    rw [round.offset_of_indices, List.reverse_cons, List.reverse_cons, List.append_assoc]
    rfl
  · change { before.state with dispatchOffset := some (EndpointIndex.offset round.group round.endpoint) } = _
    rw [round.offset_of_indices]

-- The rounds of a service call over a recorder, one after the other.
theorem rounds_effects (handler : EndpointHandler η β) (rounds : Nat) (own : η) (before : Controller (Recorder β)) :
    ∃ served closing own' after, serviceRounds handler.recorded rounds own before = .ok (served.length, own') after ∧
      after.bus.effects.reverse = before.bus.effects.reverse ++ (served.flatMap Round.effects ++ closing) ∧
      served.length ≤ rounds ∧ Closes (rounds - served.length) closing ∧ Tallies before served after := by
  induction rounds generalizing own before with
  | zero => exact ⟨[], [], own, before, rfl, by simp, by simp, .exhausted rfl, tallies_none rfl rfl rfl⟩
  | succ rounds ih =>
      rw [serviceRounds]
      have looks := next_ready_looks (Nat.succ_pos rounds) before
      cases looked : nextReady before with
      | error stall after =>
          rw [looked] at looks
          cases looks
      | ok ready between =>
          rw [looked] at looks
          rw [bind_of_ok looked]
          cases looks with
          | empty bus closing closes made =>
              exact ⟨[], closing, own, _, rfl, made, by simp, closes, tallies_none rfl rfl rfl⟩
          | found bus round made =>
              obtain ⟨own', acknowledged, serving, effects, settings, state, statistics⟩ :=
                serve_effects handler round own { before with bus }
              obtain ⟨served, closing, own'', after, finishing, more, fewer, closes, tallies⟩ := ih own' acknowledged
              refine ⟨round :: served, closing, own'', after, ?_, ?_, ?_, ?_, tallies.cons settings state statistics⟩
              · simp only [bind_of_ok serving, bind_of_ok finishing]
                rfl
              · rw [more, effects, made]
                simp [Round.effects]
              · simpa using fewer
              · simpa using closes

-- The last of the 32 rounds is reported and counted; the service adds nothing else to them.
theorem service_ends {handler : EndpointHandler η β} {own own' : η} {before last : Controller β} {handled : Nat}
    (finished : serviceRounds handler serviceBudget own before = .ok (handled, own') last) :
    ∃ log, service handler own before = .ok ({ handled, exhausted := decide (handled = 32) }, own')
      { last with
        statistics := { last.statistics with
          serviceExhausted :=
            if handled = 32 then countUp last.statistics.serviceExhausted else last.statistics.serviceExhausted }
        log } := by
  rw [service, bind_of_ok finished]
  by_cases full : handled = 32
  · simp only [decide_eq_true full, if_pos full]
    exact ⟨_, congrFun (if_pos full) last⟩
  · simp only [decide_eq_false full, if_neg full]
    exact ⟨_, congrFun (if_neg full) last⟩

-- The calls among the effects are the handler's, one for each round.
theorem calls_of_rounds {left : Nat} {closing : List Effect} (closes : Closes left closing) (served : List Round) :
    (served.flatMap Round.effects ++ closing).filterMap Effect.call? = served.map Round.offset := by
  have last : closing.filterMap Effect.call? = [] := by
    cases closes with
    | exhausted _ => rfl
    | noGroup _ => rfl
    | noEndpoint _ _ _ _ => rfl
  rw [List.filterMap_append, last, List.append_nil]
  induction served with
  | nil => rfl
  | cons round rest ih =>
      rw [List.flatMap_cons, List.filterMap_append, ih]
      rfl

theorem service_acknowledges_what_it_handles (handler : EndpointHandler η β) (own : η) (before : Controller β) :
    ∃ (served : List Round) (closing : List Effect) (own' : η) (after : Controller β) (events : UInt32),
      service handler own before =
        .ok ({ handled := served.length, exhausted := decide (served.length = 32) }, own') after ∧
      served.length ≤ 32 ∧
      effects (service handler.recorded own) before = served.flatMap Round.effects ++ closing ∧
      Closes (32 - served.length) closing ∧
      calls handler own before = served.map Round.offset ∧
      after.settings = before.settings ∧
      after.state = { before.state with
        dispatchOffset := (served.getLast?.map Round.offset).or before.state.dispatchOffset } ∧
      after.statistics = { before.statistics with
        endpointEvents := events
        serviceExhausted :=
          if served.length = 32 then countUp before.statistics.serviceExhausted
          else before.statistics.serviceExhausted } ∧
      events.toNat = min 0xFFFFFFFF (before.statistics.endpointEvents.toNat + served.length) := by
  obtain ⟨served, closing, own', last, finished, made, fewer, closes, tallies⟩ :=
    rounds_effects handler serviceBudget own before.recorded
  change last.bus.effects.reverse = served.flatMap Round.effects ++ closing at made
  obtain ⟨log, answered⟩ := service_ends finished
  have plain := (service_records handler own).same before.recorded
  rw [answered] at plain
  have shown : effects (service handler.recorded own) before = served.flatMap Round.effects ++ closing := by
    rw [← made, effects, answered]
    rfl
  obtain ⟨events, counts, counted⟩ := tallies.statistics
  refine ⟨served, closing, own', _, events, plain.symm, fewer, shown, closes, ?_, tallies.settings, tallies.state, ?_,
    counted⟩
  · rw [calls, shown, calls_of_rounds closes]
  · simp only [Controller.forget, counts]
    rfl

end StorageBridge.Endpoint
