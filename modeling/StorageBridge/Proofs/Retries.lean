import StorageBridge.Proofs.CalmBoards
import StorageBridge.Proofs.DecisionLaw

/-!
Trying a rejected action again. On a calm board the first try has brought the flags, the link control
and the retry request to a fixed point, so any further try is rejected in the same way and moves
nothing but counters, the journal and the action that was tried last.
-/

set_option autoImplicit false

namespace StorageBridge

open BridgeM

namespace Readiness

-- what a check sees on a calm board
def glimpse (board : Board) : Sight where
  link := board.peek Reg.Backend.linkStatus
  flags := board.peek Reg.Transport.flags
  depth := board.peek Reg.Backend.queueDepth
  engine := board.peek Reg.Backend.status
  trained :=
    if (board.peek Reg.Backend.linkStatus).meets Reg.Backend.linkTrained then some (board.peek Reg.Backend.linkStatus)
    else none
  rolling := board.peek Reg.Backend.rollingStatus

section Calm

variable {before : Controller Board}

theorem past_link_peek {address : Address} (apart : Reg.Transport.flags ≠ address) (before : Controller Board) :
    (pastLink before).peek address = before.bus.peek address := by
  unfold pastLink
  by_cases command : before.state.commandActive = true
  · rw [if_pos command]
    exact Board.peek_modify_other apart _ _
  · rw [if_neg command]
    rfl

theorem past_link_calm (calm : before.bus.scripts = []) : (pastLink before).scripts = [] := by
  unfold pastLink
  by_cases command : before.state.commandActive = true
  · rw [if_pos command]
    exact calm
  · rw [if_neg command]
    exact calm

theorem at_engine_bus (before : Controller Board) : (atEngine before).bus = pastLink before := by
  unfold atEngine
  split <;> rfl

theorem past_engine_bus (before : Controller Board) : (pastEngine (atEngine before)).bus = pastLink before := by
  unfold pastEngine
  split
  · exact at_engine_bus before
  · exact at_engine_bus before

theorem trains_on_calm_board {board : Board} (calm : board.scripts = []) :
    (trains board).1 =
        (if (board.peek Reg.Backend.linkStatus).meets Reg.Backend.linkTrained then some (board.peek Reg.Backend.linkStatus)
        else none) ∧
      (trains board).2.peek Reg.Backend.rollingStatus = board.peek Reg.Backend.rollingStatus := by
  let counted : Board := { board with waitCount := board.waitCount + 1 }
  have waited : Bus.wait board Reg.Backend.linkStatus Reg.Backend.linkTrained .forever =
      ((board.peek Reg.Backend.linkStatus).meets Reg.Backend.linkTrained, counted) := by
    change (((board.startWait _).peek _).meets _, board.startWait _) = _
    rw [Board.start_wait_on_calm_board calm]
    rfl
  unfold trains
  simp only [waited]
  by_cases answered : (board.peek Reg.Backend.linkStatus).meets Reg.Backend.linkTrained = true
  · have spares {address : Address} (apart : Reg.Backend.linkControl ≠ address) :
        (Bus.write counted Reg.Backend.linkControl Reg.Backend.linkSetup).peek address = board.peek address :=
      Board.peek_write_other apart _
    rw [if_pos answered, if_pos answered]
    exact ⟨congrArg some (spares (by decide)), spares (by decide)⟩
  · rw [if_neg answered, if_neg answered]
    exact ⟨rfl, rfl⟩

theorem seen_on_calm_board (calm : before.bus.scripts = []) : seen before = glimpse before.bus := by
  have shows {address : Address} (apart : Reg.Transport.flags ≠ address) :
      (pastLink before).peek address = before.bus.peek address := past_link_peek apart before
  have training : (begun before).bus = Bus.write (pastLink before) Reg.Backend.linkControl Reg.Backend.linkRecover := by
    rw [← past_engine_bus]
    rfl
  have begins {address : Address} (apart : Reg.Transport.flags ≠ address) (other : Reg.Backend.linkControl ≠ address) :
      (begun before).bus.peek address = before.bus.peek address := by
    rw [training, Board.peek_write_other other, shows apart]
  have calmly : (begun before).bus.scripts = [] := by
    rw [training]
    exact past_link_calm calm
  obtain ⟨trained, table⟩ := trains_on_calm_board calmly
  rw [begins (by decide) (by decide)] at trained
  have rolling : (atRolling before).peek Reg.Backend.rollingStatus = before.bus.peek Reg.Backend.rollingStatus := by
    unfold atRolling
    split
    · rw [table, begins (by decide) (by decide)]
    · rw [past_engine_bus, shows (by decide)]
  have engine : (atEngine before).bus.peek Reg.Backend.status = before.bus.peek Reg.Backend.status := by
    rw [at_engine_bus, shows (by decide)]
  have depth : (depthSeen before).1 = before.bus.peek Reg.Backend.queueDepth := shows (by decide)
  rw [seen, glimpse, Sight.mk.injEq]
  exact ⟨rfl, rfl, depth, engine, trained, rolling⟩

end Calm

def Ground.retrains : Ground → Bool
  | .untrained | .unrecovered => true
  | .rolling retrained => retrained
  | _ => false

namespace Sight

-- What a check makes of the transport flags, and of the link control.
def dropped (marked : Bool) (state : State) (old : Byte) : Byte :=
  if !state.fault && state.commandActive then Board.stored marked old (old &&& ~~~Reg.Transport.secondary) else old

def retrained (sight : Sight) (marked : Bool) (old : Byte) : Byte :=
  let recovering := Board.stored marked old Reg.Backend.linkRecover
  if sight.trained.isSome then Board.stored marked recovering Reg.Backend.linkSetup else recovering

def steered (sight : Sight) (marked : Bool) (state : State) (old : Byte) : Byte :=
  if (sight.ground state).retrains then sight.retrained marked old else old

theorem dropped_twice (marked : Bool) (state : State) (old : Byte) :
    dropped marked state (dropped marked state old) = dropped marked state old := by
  have table (marked : Bool) : ∀ raw : Fin 256,
      let once := Board.stored marked (UInt8.ofFin raw) (UInt8.ofFin raw &&& ~~~Reg.Transport.secondary)
      Board.stored marked once (once &&& ~~~Reg.Transport.secondary) = once := by
    cases marked <;> decide +kernel
  unfold dropped
  by_cases drops : (!state.fault && state.commandActive) = true
  · simp only [if_pos drops]
    exact table marked old.toFin
  · simp only [if_neg drops]

theorem steered_twice (sight : Sight) (marked : Bool) (state : State) (old : Byte) :
    sight.steered marked state (sight.steered marked state old) = sight.steered marked state old := by
  have table (marked : Bool) : ∀ raw : Fin 256,
      let once := Board.stored marked (UInt8.ofFin raw) Reg.Backend.linkRecover
      let twice := Board.stored marked once Reg.Backend.linkSetup
      Board.stored marked once Reg.Backend.linkRecover = once ∧
        Board.stored marked (Board.stored marked twice Reg.Backend.linkRecover) Reg.Backend.linkSetup = twice := by
    cases marked <;> decide +kernel
  obtain ⟨once, twice⟩ := table marked old.toFin
  unfold steered
  by_cases retrains : (sight.ground state).retrains = true
  · simp only [if_pos retrains, retrained]
    by_cases trained : sight.trained.isSome = true
    · simp only [if_pos trained]
      exact twice
    · simp only [if_neg trained]
      exact once
  · simp only [if_neg retrains]

section Stores

variable {sight : Sight} {state : State} {memory : Memory} (marks : Address → Bool)

theorem at_link_stores (shown : memory.peek Reg.Transport.flags = sight.flags) (unfaulted : state.fault = false) :
    (sight.atLink state).foldl (BusOp.store marks) memory =
      memory.revise Reg.Transport.flags (dropped (marks Reg.Transport.flags) state) := by
  unfold atLink
  by_cases command : state.commandActive = true
  · have written : Board.stored (marks Reg.Transport.flags) sight.flags (sight.flags &&& ~~~Reg.Transport.secondary) =
        dropped (marks Reg.Transport.flags) state sight.flags := by
      simp [dropped, unfaulted, command]
    rw [if_pos command]
    change memory.revise Reg.Transport.flags (fun old => Board.stored _ old (sight.flags &&& _)) = _
    apply Memory.revise_congr
    rw [shown, written]
  · rw [if_neg command]
    refine (Memory.revise_fixed ?_).symm
    simp [dropped, command]

theorem at_depth_stores (memory : Memory) : sight.atDepth.foldl (BusOp.store marks) memory = memory := by
  unfold atDepth
  split <;> rfl

theorem at_engine_stores (memory : Memory) : (sight.atEngine state).foldl (BusOp.store marks) memory = memory := by
  unfold atEngine
  split <;> rfl

theorem training_stores (memory : Memory) : sight.training.foldl (BusOp.store marks) memory =
    memory.revise Reg.Backend.linkControl (sight.retrained (marks Reg.Backend.linkControl)) := by
  unfold training retrained
  cases sight.trained with
  | none => rfl
  | some shown =>
      exact Memory.revise_twice memory Reg.Backend.linkControl
        (fun old => Board.stored (marks Reg.Backend.linkControl) old Reg.Backend.linkRecover)
        fun old => Board.stored (marks Reg.Backend.linkControl) old Reg.Backend.linkSetup

theorem operations_store (sight : Sight) (state : State) (shown : memory.peek Reg.Transport.flags = sight.flags) :
    (sight.operations state).foldl (BusOp.store marks) memory =
      (memory.revise Reg.Transport.flags (dropped (marks Reg.Transport.flags) state)).revise Reg.Backend.linkControl
        (sight.steered (marks Reg.Backend.linkControl) state) := by
  by_cases faulted : state.fault = true
  · have ground := (ground_fault_iff sight state).mpr faulted
    have kept : memory.revise Reg.Transport.flags (dropped (marks Reg.Transport.flags) state) = memory :=
      Memory.revise_fixed (by simp [dropped, faulted])
    have left : memory.revise Reg.Backend.linkControl (sight.steered (marks Reg.Backend.linkControl) state) = memory :=
      Memory.revise_fixed (by simp [steered, ground, Ground.retrains])
    rw [fault_operations faulted, kept, left]
    rfl
  · have linked := at_link_stores marks shown (Bool.eq_false_iff.mpr faulted)
    have rests (quiet : (sight.ground state).retrains = false) (memory : Memory) :
        memory.revise Reg.Backend.linkControl (sight.steered (marks Reg.Backend.linkControl) state) = memory :=
      Memory.revise_fixed (by simp [steered, quiet])
    have moves (retrains : (sight.ground state).retrains = true) (memory : Memory) :
        memory.revise Reg.Backend.linkControl (sight.steered (marks Reg.Backend.linkControl) state) =
          sight.training.foldl (BusOp.store marks) memory := by
      rw [training_stores]
      exact Memory.revise_congr (if_pos retrains)
    rw [← linked]
    unfold operations
    cases stops : sight.ground state with
    | fault => exact absurd ((ground_fault_iff sight state).mp stops) faulted
    | linkDown => rw [rests (by rw [stops]; rfl)]
    | full =>
        rw [rests (by rw [stops]; rfl)]
        simp only [List.foldl_append, at_depth_stores]
    | busy =>
        rw [rests (by rw [stops]; rfl)]
        simp only [List.foldl_append, at_depth_stores, at_engine_stores]
    | unlogged =>
        rw [rests (by rw [stops]; rfl)]
        simp only [List.foldl_append, at_depth_stores, at_engine_stores]
    | untrained =>
        rw [moves (by rw [stops]; rfl)]
        simp only [List.foldl_append, at_depth_stores, at_engine_stores]
    | unrecovered =>
        rw [moves (by rw [stops]; rfl)]
        simp only [List.foldl_append, at_depth_stores, at_engine_stores]
    | rolling retrained =>
        cases retrained with
        | true =>
            rw [moves (by rw [stops]; rfl)]
            simp only [List.foldl_append, at_depth_stores, at_engine_stores]
            rfl
        | false =>
            rw [rests (by rw [stops]; rfl)]
            simp only [List.foldl_append, at_depth_stores, at_engine_stores]
            rfl

end Stores

end Sight

-- the memory once a check has run on a calm board
def Sight.leaves (sight : Sight) (board : Board) (state : State) : Memory :=
  (board.memory.revise Reg.Transport.flags (Sight.dropped (board.marks Reg.Transport.flags) state)).revise
    Reg.Backend.linkControl (sight.steered (board.marks Reg.Backend.linkControl) state)

theorem leaves_peek {address : Address} (flags : Reg.Transport.flags ≠ address) (control : Reg.Backend.linkControl ≠ address)
    (sight : Sight) (board : Board) (state : State) : (sight.leaves board state).peek address = board.peek address := by
  rw [Sight.leaves, Memory.peek_revise, if_neg control, Memory.peek_revise, if_neg flags]
  rfl

-- Nothing of a board has moved but its memory, its journal and its counts.
def Lies (memory : Memory) (before after : Board) : Prop :=
  ∃ journal waitCount, after = { before with memory, journal, waitCount }

theorem lies_peek {address : Address} (flags : Reg.Transport.flags ≠ address) (control : Reg.Backend.linkControl ≠ address)
    {sight : Sight} {state : State} {board left : Board} (lies : Lies (sight.leaves board state) board left) :
    left.peek address = board.peek address := by
  obtain ⟨journal, waitCount, same⟩ := lies
  rw [same]
  exact leaves_peek flags control sight board state

theorem check_on_calm_board {before : Controller Board} (calm : before.bus.scripts = []) :
    Obeys before (glimpse before.bus) (check before) ∧
      Lies ((glimpse before.bus).leaves before.bus before.state) before.bus (ending (check before)).bus := by
  have obeys := check_obeys before
  rw [seen_on_calm_board calm] at obeys
  obtain ⟨journal, waitCount, reached⟩ := replays_on_calm_board calm obeys.replays
  have shown : before.bus.memory.peek Reg.Transport.flags = (glimpse before.bus).flags := rfl
  rw [Sight.operations_store _ _ _ shown] at reached
  exact ⟨obeys, journal, waitCount, reached⟩

end Readiness

namespace Submission

open Readiness

-- What turns an action away on a calm board, and whether that escalates; nothing of it is in the action.
def declined? (controller : Controller Board) : Option (Submission × Bool) :=
  match (glimpse controller.bus).verdict controller.state with
  | .error _ => none
  | .ok readiness =>
      if readiness.isProceed then
        if (controller.state.ring.slot controller.state.ring.index).isFree then none
        else
          let transferring := (controller.bus.peek Reg.Dma.status).meets Reg.Dma.statusActive
          some (if transferring then .deferred else .busy, transferring)
      else some (.refused readiness, readiness.isRetry && controller.state.transferActive)

-- What is behind an action that the readiness check has answered on a calm board.
structure Checked (before : Controller Board) (action : Action) (readiness : Readiness) (between : Controller Board) : Prop where
  verdict : (glimpse before.bus).verdict before.state = .ok readiness
  settings : between.settings = before.settings
  state : between.state = { (glimpse before.bus).settle before.state with lastAction := some action }
  statistics : ∃ refusals retryRequests, between.statistics = { before.statistics with refusals, retryRequests }
  bus : Lies ((glimpse before.bus).leaves before.bus before.state) before.bus between.bus
  ring : between.state.ring = before.state.ring

theorem check_marked_on_calm_board {before between : Controller Board} {action : Action} {readiness : Readiness}
    (calm : before.bus.scripts = []) (checked : check (marked action before) = .ok readiness between) :
    Checked before action readiness between := by
  have still : (marked action before).bus.scripts = [] := calm
  obtain ⟨obeys, lies⟩ := check_on_calm_board still
  rw [checked] at obeys lies
  have state : between.state = { (glimpse before.bus).settle before.state with lastAction := some action } := obeys.state
  exact
    { verdict := obeys.verdict.symm
      settings := obeys.settings
      state
      statistics := ⟨_, _, obeys.statistics⟩
      bus := lies
      ring := by rw [state]; rfl }

structure TurnedAway (before : Controller Board) (action : Action) (escalates : Bool) (after : Controller Board) : Prop where
  settings : after.settings = before.settings
  state : after.state = { (glimpse before.bus).settle before.state with
    lastAction := some action, escalate := before.state.escalate || escalates }
  statistics : ∃ refusals retryRequests, after.statistics = { before.statistics with refusals, retryRequests }
  bus : Lies ((glimpse before.bus).leaves before.bus before.state) before.bus after.bus

theorem held_on_board (index : SlotIndex) (before : Controller Board) :
    let transferring := (before.bus.peek Reg.Dma.status).meets Reg.Dma.statusActive
    ∃ log, held index before = .ok (if transferring then .deferred else .busy)
      { before with state := { before.state with escalate := before.state.escalate || transferring }, log } :=
  ⟨_, rfl⟩

theorem submit_on_calm_board {before : Controller Board} (calm : before.bus.scripts = []) (param1 param2 : Byte) (action : Action) :
    match declined? before with
    | some (submission, escalates) => ∃ after, submit param1 param2 action before = .ok submission after ∧
        TurnedAway before action escalates after
    | none => ∀ submission after, submit param1 param2 action before = .ok submission after → submission.accepts = true := by
  have outcome := submit_outcome param1 param2 action before
  generalize submit param1 param2 action before = result at outcome
  cases outcome with
  | untrained stall after stalled =>
      have still : (marked action before).bus.scripts = [] := calm
      have decided : BridgeM.verdict (check (marked action before)) = (glimpse before.bus).verdict before.state :=
        (check_on_calm_board still).1.verdict
      rw [stalled] at decided
      simp only [declined?, ← decided, BridgeM.verdict]
      intro submission after answered
      cases answered
  | refused readiness between checked refuses =>
      obtain ⟨verdict, settings, state, statistics, bus, ring⟩ := check_marked_on_calm_board calm checked
      simp only [declined?, verdict, refuses, Bool.false_eq_true, if_false]
      let escalated := { between.state with
        escalate := between.state.escalate || (readiness.isRetry && before.state.transferActive) }
      refine ⟨{ between with state := escalated }, rfl, settings, ?_, statistics, bus⟩
      simp only [escalated, state]
      rfl
  | held between checked taken =>
      obtain ⟨verdict, settings, state, statistics, bus, ring⟩ := check_marked_on_calm_board calm checked
      obtain ⟨log, answered⟩ := held_on_board between.state.ring.index between
      have engine : between.bus.peek Reg.Dma.status = before.bus.peek Reg.Dma.status := lies_peek (by decide) (by decide) bus
      rw [ring] at taken
      simp only [declined?, verdict, isProceed, if_true, taken, Bool.false_eq_true, if_false, answered, engine]
      refine ⟨_, rfl, settings, ?_, statistics, bus⟩
      simp only [state]
      rfl
  | accepted between checked free =>
      obtain ⟨verdict, settings, state, statistics, bus, ring⟩ := check_marked_on_calm_board calm checked
      rw [ring] at free
      simp only [declined?, verdict, isProceed, if_true, free]
      intro submission after answered
      rcases accept_answer answered with rfl | rfl <;> rfl

section Again

variable {before after : Controller Board} {action : Action} {escalates : Bool}

-- Beside the flags, a second look shows what the first one showed.
theorem glimpse_again {sight : Sight} {state : State} {board left : Board} (lies : Lies (sight.leaves board state) board left) :
    glimpse left = { glimpse board with flags := left.peek Reg.Transport.flags } := by
  have link : left.peek Reg.Backend.linkStatus = board.peek Reg.Backend.linkStatus := lies_peek (by decide) (by decide) lies
  have depth : left.peek Reg.Backend.queueDepth = board.peek Reg.Backend.queueDepth := lies_peek (by decide) (by decide) lies
  have engine : left.peek Reg.Backend.status = board.peek Reg.Backend.status := lies_peek (by decide) (by decide) lies
  have rolling : left.peek Reg.Backend.rollingStatus = board.peek Reg.Backend.rollingStatus :=
    lies_peek (by decide) (by decide) lies
  simp only [glimpse, link, depth, engine, rolling]

theorem retry_settle_twice (pending : Option RetryRequest) (request : RetryRequest) :
    RetryRequest.settle (some (RetryRequest.settle pending request)) request = RetryRequest.settle pending request := by
  unfold RetryRequest.settle
  cases pending with
  | none => simp
  | some current =>
      by_cases lower : request.priority < current.priority
      · simp only [if_pos lower]
      · simp only [if_neg lower]
        exact ite_self _

theorem settle_twice (sight : Sight) (state : State) : sight.settle (sight.settle state) = sight.settle state := by
  have asked : sight.request? (sight.settle state) = sight.request? state := rfl
  rw [Sight.settle, asked]
  cases request : sight.request? state with
  | none => by_cases faulted : state.fault = true <;> simp [Sight.settle, request, faulted]
  | some request =>
      by_cases faulted : state.fault = true <;> simp [Sight.settle, request, faulted, retry_settle_twice]

theorem verdict_again (turned : TurnedAway before action escalates after) :
    (glimpse after.bus).verdict after.state = (glimpse before.bus).verdict before.state := by
  rw [glimpse_again turned.bus, turned.state]
  rfl

theorem settle_again (turned : TurnedAway before action escalates after) :
    (glimpse after.bus).settle after.state = after.state := by
  have settled := settle_twice (glimpse before.bus) before.state
  rw [glimpse_again turned.bus, turned.state]
  exact congrArg (fun state : State => { state with lastAction := some action, escalate := before.state.escalate || escalates }) settled

theorem leaves_again (turned : TurnedAway before action escalates after) :
    (glimpse after.bus).leaves after.bus after.state = after.bus.memory := by
  have second := glimpse_again turned.bus
  obtain ⟨journal, waitCount, same⟩ := turned.bus
  have apart : Reg.Transport.flags ≠ Reg.Backend.linkControl := by decide
  have rests := Memory.revise_both_twice apart
    (Sight.dropped_twice (before.bus.marks Reg.Transport.flags) before.state)
    (Sight.steered_twice (glimpse before.bus) (before.bus.marks Reg.Backend.linkControl) before.state) before.bus.memory
  rw [second, turned.state, same]
  exact rests

theorem declined_again {submission : Submission} (turned : TurnedAway before action escalates after)
    (declined : declined? before = some (submission, escalates)) :
    ∃ again, declined? after = some (submission, again) ∧ (escalates || again) = escalates := by
  have ring : after.state.ring = before.state.ring := by rw [turned.state]; rfl
  have active : after.state.transferActive = (before.state.fault && before.state.transferActive) := by rw [turned.state]; rfl
  have engine : after.bus.peek Reg.Dma.status = before.bus.peek Reg.Dma.status := lies_peek (by decide) (by decide) turned.bus
  unfold declined? at declined ⊢
  rw [verdict_again turned, ring, engine, active]
  cases verdict : (glimpse before.bus).verdict before.state with
  | error stall =>
      rw [verdict] at declined
      cases declined
  | ok readiness =>
      rw [verdict] at declined
      dsimp only at declined ⊢
      by_cases proceeds : readiness.isProceed = true
      · rw [if_pos proceeds] at declined ⊢
        by_cases free : (before.state.ring.slot before.state.ring.index).isFree = true
        · rw [if_pos free] at declined
          cases declined
        · rw [if_neg free] at declined ⊢
          cases declined
          exact ⟨_, rfl, Bool.or_self _⟩
      · rw [if_neg proceeds] at declined ⊢
        cases declined
        refine ⟨_, rfl, ?_⟩
        cases readiness.isRetry <;> cases before.state.transferActive <;> simp

end Again

theorem rejected_action_can_be_tried_again {before after : Controller Board} {param1 param2 : Byte} {action : Action}
    {submission : Submission} (calm : before.bus.scripts = [])
    (rejected : submit param1 param2 action before = .ok submission after)
    (declines : (∃ readiness, submission = .refused readiness) ∨ submission = .busy ∨ submission = .deferred)
    (param1' param2' : Byte) (action' : Action) :
    (∃ other, submit param1' param2' action' before = .ok submission other) ∧
      ∃ again, submit param1' param2' action' after = .ok submission again ∧
        again.settings = after.settings ∧
        again.state = { after.state with lastAction := some action' } ∧
        (∃ refusals retryRequests, again.statistics = { after.statistics with refusals, retryRequests }) ∧
        ∃ journal waitCount, again.bus = { after.bus with journal, waitCount } := by
  have turnsAway : submission.accepts = false := by
    rcases declines with ⟨readiness, rfl⟩ | rfl | rfl <;> rfl
  have first := submit_on_calm_board calm param1 param2 action
  have other := submit_on_calm_board calm param1' param2' action'
  cases declined : declined? before with
  | none =>
      rw [declined] at first
      cases turnsAway.symm.trans (first submission after rejected)
  | some reason =>
      obtain ⟨answer, escalates⟩ := reason
      rw [declined] at first other
      obtain ⟨ended, answered, turned⟩ := first
      obtain ⟨otherEnded, otherAnswered, -⟩ := other
      cases rejected.symm.trans answered
      refine ⟨⟨otherEnded, otherAnswered⟩, ?_⟩
      have stillCalm : after.bus.scripts = [] := by
        obtain ⟨journal, waitCount, same⟩ := turned.bus
        rw [same]
        exact calm
      obtain ⟨more, declinedAgain, absorbed⟩ := declined_again turned declined
      have second := submit_on_calm_board stillCalm param1' param2' action'
      rw [declinedAgain] at second
      obtain ⟨again, answeredAgain, turnedAgain⟩ := second
      refine ⟨again, answeredAgain, turnedAgain.settings, ?_, turnedAgain.statistics, ?_⟩
      · have pressed : (after.state.escalate || more) = after.state.escalate := by
          rw [turned.state]
          change (before.state.escalate || escalates || more) = _
          rw [Bool.or_assoc, absorbed]
        rw [turnedAgain.state, settle_again turned, pressed]
      · obtain ⟨journal, waitCount, same⟩ := turnedAgain.bus
        rw [leaves_again turned] at same
        exact ⟨journal, waitCount, same⟩

-- A drained link that is retrained, under an active command state; then the last table rejects.
def resynchronising : Controller Board where
  bus := ((Board.powered.poke Reg.Transport.flags 0x0F).poke Reg.Backend.queueDepth 4).poke Reg.Backend.rollingStatus 7
  settings := .reference
  state := { commandActive := true, transferActive := true }

theorem resynchronising_rejects_again :
    let after := ending (submit 1 0 .simpleIn resynchronising)
    resynchronising.bus.scripts = [] ∧
    submit 1 0 .simpleIn resynchronising = .ok (.refused (.reject 0x0D)) after ∧
    after.bus.peek Reg.Transport.flags = 0x0B ∧
    after.bus.peek Reg.Backend.linkControl = Reg.Backend.linkSetup ∧
    ∃ again, submit 0xE7 9 .extendedOut after = .ok (.refused (.reject 0x0D)) again ∧
      again.state = { after.state with lastAction := some .extendedOut } ∧
      ∃ journal waitCount, again.bus = { after.bus with journal, waitCount } := by
  intro after
  have calm : resynchronising.bus.scripts = [] := rfl
  have rejected : submit 1 0 .simpleIn resynchronising = .ok (.refused (.reject 0x0D)) after := rfl
  obtain ⟨-, again, answered, -, state, -, bus⟩ :=
    rejected_action_can_be_tried_again calm rejected (.inl ⟨_, rfl⟩) 0xE7 9 .extendedOut
  exact ⟨calm, rejected, by decide +kernel, by decide +kernel, again, answered, state, bus⟩

end Submission

end StorageBridge
