import StorageBridge.Proofs.Passes
import StorageBridge.Proofs.Replays
import StorageBridge.Proofs.Waits

/-!
The law of the readiness check, on any hardware. The bytes that the check comes to read decide where it
stops, in a fixed order of the tests, and from there follow the verdict, the request that is left
behind and every operation on the bus, in their order.
-/

set_option autoImplicit false

namespace StorageBridge

def BusOp.address : BusOp → Address
  | read address _ => address
  | write address _ => address
  | wait address _ _ => address

namespace Readiness

open BridgeM

-- The bytes that a check reads. One that it does not come to does not matter.
structure Sight where
  link : Byte
  flags : Byte
  depth : Byte
  engine : Byte
  -- What the link shows once it is trained again; nothing when the training never ends.
  trained : Option Byte
  rolling : Byte

-- where the check stops
inductive Ground where
  | fault
  | linkDown
  | full
  | busy
  | unlogged
  | untrained
  | unrecovered
  | rolling (retrained : Bool)
deriving DecidableEq, Repr

namespace Sight

def up (sight : Sight) : Bool :=
  sight.link.meets Reg.Backend.linkUp

def busy (sight : Sight) : Bool :=
  sight.engine.meets Reg.Backend.statusBusy

def drained (sight : Sight) : Bool :=
  sight.up && sight.depth == 4

def answered (sight : Sight) : Bool :=
  sight.trained.isSome

-- the order of the tests
def ground (sight : Sight) (state : State) : Ground :=
  if state.fault then .fault
  else if !state.commandActive && !sight.up then .linkDown
  else if sight.up && decide (0x80 ≤ sight.depth) then .full
  else if !state.transferState && sight.busy then .busy
  else if sight.drained && state.submitLog != state.completeLog then .unlogged
  else if sight.drained && !state.powerInit then
    match sight.trained with
    | none => .untrained
    | some shown => if shown.meets Reg.Backend.linkUp then .rolling true else .unrecovered
  else .rolling false

end Sight

namespace Ground

-- A verdict, unless the wait for a trained link never ends.
def verdict (rolling : Byte) : Ground → Except Stall Readiness
  | fault | linkDown | unrecovered => .ok .notReady
  | full => .ok .retry
  | busy => .ok .inProgress
  | unlogged => .ok .complete
  | untrained => .error { address := Reg.Backend.linkStatus, mask := Reg.Backend.linkTrained }
  | Ground.rolling _ =>
      match rolling.toNat % 8 with
      | 6 => .ok .retry
      | 7 => .ok (.reject 0x0D)
      | _ => .ok .proceed

def request? (index : SlotIndex) (rolling : Byte) : Ground → Option RetryRequest
  | fault => some { target := 0, flag := 0x3A, priority := 2 }
  | linkDown => some .linkDown
  | full => some (.queueFull index.toByte)
  | unrecovered => some .recoveryFailed
  | Ground.rolling _ =>
      match rolling.toNat % 8 with
      | 6 => some { target := 0, flag := 0x3E, priority := 1 }
      | 7 => some { target := 1, flag := 0x3F, priority := 2 }
      | _ => none
  | _ => none

end Ground

namespace Sight

def verdict (sight : Sight) (state : State) : Except Stall Readiness :=
  (sight.ground state).verdict sight.rolling

def request? (sight : Sight) (state : State) : Option RetryRequest :=
  (sight.ground state).request? state.ring.index sight.rolling

-- A fault leaves the transfer as it is.
def settle (sight : Sight) (state : State) : State :=
  { state with
    transferActive := state.fault && state.transferActive
    dmaMode := if state.fault then state.dmaMode else 0
    retry := (sight.request? state).elim state.retry fun request => some (RetryRequest.settle state.retry request) }

def refuses (sight : Sight) (state : State) : Bool :=
  match sight.verdict state with
  | .ok readiness => !readiness.isProceed
  | .error _ => false

def count (sight : Sight) (state : State) (counts : Statistics) : Statistics :=
  { counts with
    refusals := if sight.refuses state then countUp counts.refusals else counts.refusals
    retryRequests := if (sight.request? state).isSome then countUp counts.retryRequests else counts.retryRequests }

def atLink (sight : Sight) (state : State) : List BusOp :=
  .read Reg.Backend.linkStatus sight.link ::
    if state.commandActive then
      [.read Reg.Transport.flags sight.flags, .write Reg.Transport.flags (sight.flags &&& ~~~Reg.Transport.secondary)]
    else []

def atDepth (sight : Sight) : List BusOp :=
  if sight.up then [.read Reg.Backend.queueDepth sight.depth] else []

def atEngine (sight : Sight) (state : State) : List BusOp :=
  if state.transferState then [] else [.read Reg.Backend.status sight.engine]

def training (sight : Sight) : List BusOp :=
  [.write Reg.Backend.linkControl Reg.Backend.linkRecover, .wait Reg.Backend.linkStatus Reg.Backend.linkTrained .forever] ++
    match sight.trained with
    | none => []
    | some shown => [.write Reg.Backend.linkControl Reg.Backend.linkSetup, .read Reg.Backend.linkStatus shown]

-- All that is done to the bus, up to where the check stops.
def operations (sight : Sight) (state : State) : List BusOp :=
  let looked := sight.atLink state
  let reached := looked ++ sight.atDepth ++ sight.atEngine state
  match sight.ground state with
  | .fault => []
  | .linkDown => looked
  | .full => looked ++ sight.atDepth
  | .busy | .unlogged => reached
  | .untrained | .unrecovered => reached ++ sight.training
  | .rolling retrained =>
      reached ++ (if retrained then sight.training else []) ++ [.read Reg.Backend.rollingStatus sight.rolling]

end Sight

-- A check that stalls has left no request.
theorem request_none_of_stall {sight : Sight} {state : State} {stall : Stall} (stalled : sight.verdict state = .error stall) :
    sight.request? state = none := by
  unfold Sight.verdict at stalled
  unfold Sight.request?
  cases ground : sight.ground state with
  | untrained => rfl
  | rolling retrained =>
      rw [ground, Ground.verdict] at stalled
      split at stalled <;> cases stalled
  | _ =>
      rw [ground] at stalled
      cases stalled

theorem ground_fault_iff (sight : Sight) (state : State) : sight.ground state = .fault ↔ state.fault = true := by
  by_cases faulted : state.fault = true
  · simp [Sight.ground, faulted]
  · simp only [Sight.ground, faulted]
    repeat' split
    all_goals simp_all

theorem fault_operations {sight : Sight} {state : State} (faulted : state.fault = true) : sight.operations state = [] := by
  simp only [Sight.operations, (ground_fault_iff sight state).mpr faulted]

theorem operations_past_link (sight : Sight) {state : State} (unfaulted : state.fault ≠ true) :
    ∃ later, sight.operations state = sight.atLink state ++ later ∧ ∀ op ∈ later,
      op ∈ sight.atDepth ∨ op ∈ sight.atEngine state ∨ op ∈ sight.training ∨
        op = .read Reg.Backend.rollingStatus sight.rolling := by
  have ground := mt (ground_fault_iff sight state).mp unfaulted
  unfold Sight.operations
  cases stops : sight.ground state with
  | fault => exact False.elim (ground stops)
  | linkDown => exact ⟨[], (List.append_nil _).symm, by simp⟩
  | full => exact ⟨sight.atDepth, rfl, by simp +contextual⟩
  | busy => exact ⟨sight.atDepth ++ sight.atEngine state, List.append_assoc _ _ _, by simp +contextual [or_imp]⟩
  | unlogged => exact ⟨sight.atDepth ++ sight.atEngine state, List.append_assoc _ _ _, by simp +contextual [or_imp]⟩
  | untrained =>
      exact ⟨sight.atDepth ++ sight.atEngine state ++ sight.training, by simp, by simp +contextual [or_imp]⟩
  | unrecovered =>
      exact ⟨sight.atDepth ++ sight.atEngine state ++ sight.training, by simp, by simp +contextual [or_imp]⟩
  | rolling retrained =>
      refine ⟨sight.atDepth ++ sight.atEngine state ++ (if retrained then sight.training else []) ++
        [.read Reg.Backend.rollingStatus sight.rolling], by simp, ?_⟩
      cases retrained <;> simp +contextual [or_imp]

theorem address_past_link {sight : Sight} {state : State} {op : BusOp}
    (part : op ∈ sight.atDepth ∨ op ∈ sight.atEngine state ∨ op ∈ sight.training ∨
      op = .read Reg.Backend.rollingStatus sight.rolling) :
    (sight.up = true ∧ op.address = Reg.Backend.queueDepth) ∨
      op.address ∈ [Reg.Backend.status, Reg.Backend.linkControl, Reg.Backend.linkStatus, Reg.Backend.rollingStatus] := by
  rcases part with depth | engine | training | rfl
  · by_cases up : sight.up = true
    · rw [Sight.atDepth, if_pos up, List.mem_singleton] at depth
      exact .inl ⟨up, congrArg BusOp.address depth⟩
    · rw [Sight.atDepth, if_neg up] at depth
      cases depth
  · by_cases transfer : state.transferState = true
    · rw [Sight.atEngine, if_pos transfer] at engine
      cases engine
    · rw [Sight.atEngine, if_neg transfer, List.mem_singleton] at engine
      simp [engine, BusOp.address]
  · unfold Sight.training at training
    cases trained : sight.trained with
    | none =>
        simp only [trained, List.append_nil, List.mem_cons, List.not_mem_nil, or_false] at training
        rcases training with rfl | rfl <;> simp [BusOp.address]
    | some shown =>
        simp only [trained, List.cons_append, List.nil_append, List.mem_cons, List.not_mem_nil, or_false] at training
        rcases training with rfl | rfl | rfl | rfl <;> simp [BusOp.address]
  · simp [BusOp.address]

-- The flags are written at the link, and not later.
theorem flags_written_iff (sight : Sight) (state : State) (value : Byte) :
    .write Reg.Transport.flags value ∈ sight.operations state ↔
      state.fault = false ∧ state.commandActive = true ∧ value = sight.flags &&& ~~~Reg.Transport.secondary := by
  by_cases faulted : state.fault = true
  · simp [fault_operations faulted, faulted]
  · obtain ⟨later, split, parts⟩ := operations_past_link sight faulted
    have past : .write Reg.Transport.flags value ∉ later := by
      intro written
      have ofDepth : Reg.Transport.flags ≠ Reg.Backend.queueDepth := by decide
      have ofOthers : Reg.Transport.flags ∉
          [Reg.Backend.status, Reg.Backend.linkControl, Reg.Backend.linkStatus, Reg.Backend.rollingStatus] := by decide
      rcases address_past_link (parts _ written) with ⟨-, depth⟩ | other
      · exact ofDepth depth
      · exact ofOthers other
    rw [split]
    by_cases command : state.commandActive = true
    · simp [Sight.atLink, past, faulted, command]
    · simp [Sight.atLink, past, faulted, command]

theorem depth_unread_of_down {sight : Sight} (state : State) (down : sight.up = false) (value : Byte) :
    .read Reg.Backend.queueDepth value ∉ sight.operations state := by
  by_cases faulted : state.fault = true
  · simp [fault_operations faulted]
  · obtain ⟨later, split, parts⟩ := operations_past_link sight faulted
    have ofLink : Reg.Backend.queueDepth ≠ Reg.Backend.linkStatus := by decide
    have ofFlags : Reg.Backend.queueDepth ≠ Reg.Transport.flags := by decide
    have ofOthers : Reg.Backend.queueDepth ∉
        [Reg.Backend.status, Reg.Backend.linkControl, Reg.Backend.linkStatus, Reg.Backend.rollingStatus] := by decide
    intro shown
    rw [split, List.mem_append] at shown
    rcases shown with link | past
    · unfold Sight.atLink at link
      split at link <;> simp [ofLink, ofFlags] at link
    · rcases address_past_link (parts _ past) with ⟨up, -⟩ | other
      · cases down.symm.trans up
      · exact ofOthers other

-- A link that is down under an active command state shows no depth, and the logs are not asked.
theorem verdict_of_down {sight : Sight} {state : State} (down : sight.up = false) (command : state.commandActive = true)
    (submitLog completeLog : Byte) : sight.verdict { state with submitLog, completeLog } = sight.verdict state := by
  simp [Sight.verdict, Sight.ground, Sight.drained, down, command]

theorem depth_full_iff (depth : Byte) : depth.meets Reg.Backend.depthFull = decide (0x80 ≤ depth) := by
  have table : ∀ raw : Fin 256, Byte.meets (UInt8.ofFin raw) Reg.Backend.depthFull = decide (0x80 ≤ UInt8.ofFin raw) := by
    decide +kernel
  exact table depth.toFin

variable {β : Type} [Bus β]

-- The training of a link that was told to recover: what the link shows then, and the bus as it is left.
def trains (bus : β) : Option Byte × β :=
  let waited := Bus.wait bus Reg.Backend.linkStatus Reg.Backend.linkTrained .forever
  if waited.1 then
    let shown := Bus.read (Bus.write waited.2 Reg.Backend.linkControl Reg.Backend.linkSetup) Reg.Backend.linkStatus
    (some shown.1, shown.2)
  else (none, waited.2)

def begun (controller : Controller β) : Controller β :=
  recovering (pastEngine (atEngine controller))

-- A drained backend outside power-up has its link trained before the rolling status is read.
def atRolling (controller : Controller β) : β :=
  if linkSeen controller && (depthSeen controller).1 == 4 && !controller.state.powerInit then
    (trains (begun controller).bus).2
  else (pastEngine (atEngine controller)).bus

def seen (controller : Controller β) : Sight where
  link := (Bus.read controller.bus Reg.Backend.linkStatus).1
  flags := (Bus.read (Bus.read controller.bus Reg.Backend.linkStatus).2 Reg.Transport.flags).1
  depth := (depthSeen controller).1
  engine := (Bus.read (atEngine controller).bus Reg.Backend.status).1
  trained := (trains (begun controller).bus).1
  rolling := (Bus.read (atRolling controller) Reg.Backend.rollingStatus).1

-- how the check ends where it stops
def conclude (sight : Sight) (state : State) : BridgeM β Readiness :=
  match sight.verdict state with
  | .error stall => fun controller => .error stall controller
  | .ok readiness =>
      match sight.request? state with
      | none => pure readiness
      | some request => refuse readiness request

structure Stops (before : Controller β) (sight : Sight) (reached : Controller β) : Prop where
  settings : reached.settings = before.settings
  state : reached.state = if before.state.fault then before.state else (forgetTransfer before).state
  statistics : reached.statistics = before.statistics
  replays : Replays sight.answered before.bus (sight.operations before.state) reached.bus

variable {before : Controller β}

theorem check_rolling_concludes (before : Controller β) :
    let shown := (Bus.read before.bus Reg.Backend.rollingStatus).1
    let read : Controller β := { before with bus := (Bus.read before.bus Reg.Backend.rollingStatus).2 }
    checkRolling before =
      match shown.toNat % 8 with
      | 6 => refuse .retry { target := 0, flag := 0x3E, priority := 1 } read
      | 7 => refuse (.reject 0x0D) { target := 1, flag := 0x3F, priority := 2 } read
      | _ => .ok .proceed read := by
  intro shown read
  have masked : shown &&& 7 = UInt8.ofNat (shown.toNat % 8) := by
    apply UInt8.toNat_inj.mp
    rw [UInt8.toNat_and]
    have low : shown.toNat &&& 7 = shown.toNat % 8 := Nat.and_two_pow_sub_one_eq_mod _ 3
    have small : shown.toNat % 8 < 256 := by omega
    rw [UInt8.toNat_ofNat_of_lt' small]
    exact low
  have bound : shown.toNat % 8 < 8 := Nat.mod_lt _ (by decide)
  unfold checkRolling
  rw [bind_read]
  change (if (RollingRow.ofStatus shown).verdict = 0 then pure .proceed else _ : BridgeM β Readiness) read = _
  unfold RollingRow.ofStatus
  rw [masked]
  generalize shown.toNat % 8 = row at bound
  interval_cases row <;> rfl

theorem after_recover_trains (before : Controller β) :
    let trained : Controller β := { before with bus := (trains before.bus).2 }
    afterRecover before =
      match (trains before.bus).1 with
      | none => .error untrained trained
      | some shown =>
          if shown.meets Reg.Backend.linkUp then checkRolling trained
          else refuse .notReady .recoveryFailed { trained with log := trained.log.push .recoveryFailed } := by
  intro trained
  have waits := wait_for_ends Reg.Backend.linkStatus Reg.Backend.linkTrained before
  let waited := Bus.wait before.bus Reg.Backend.linkStatus Reg.Backend.linkTrained .forever
  by_cases answered : waited.1 = true
  · let shown := Bus.read (Bus.write waited.2 Reg.Backend.linkControl Reg.Backend.linkSetup) Reg.Backend.linkStatus
    have link : trains before.bus = (some shown.1, shown.2) := if_pos answered
    rw [if_pos answered] at waits
    have awaits : awaitLink before = .ok (shown.1.meets Reg.Backend.linkUp) { before with bus := shown.2 } :=
      bind_of_ok waits _
    unfold afterRecover
    rw [bind_of_ok awaits]
    simp only [trained, link]
    by_cases up : shown.1.meets Reg.Backend.linkUp = true
    · rw [if_pos up, if_pos up]
    · rw [if_neg up, if_neg up]
      rfl
  · have link : trains before.bus = (none, waited.2) := if_neg answered
    rw [if_neg answered] at waits
    have awaits : awaitLink before = .error untrained { before with bus := waited.2 } := bind_of_error waits _
    unfold afterRecover
    rw [bind_of_error awaits]
    simp only [trained, link]

theorem at_engine_transfer (controller : Controller β) :
    (atEngine controller).state.transferState = controller.state.transferState := by
  unfold atEngine
  split <;> rfl

section Stages

variable (answered : Bool)

theorem past_link_replays (before : Controller β) :
    Replays answered before.bus ((seen before).atLink before.state) (pastLink before) := by
  unfold pastLink Sight.atLink
  by_cases command : before.state.commandActive = true
  · simp only [if_pos command]
    refine ⟨rfl, rfl, ?_⟩
    simp [Replays, Bus.modify, Byte.revise, seen]
  · simp only [if_neg command]
    exact ⟨rfl, rfl⟩

theorem at_engine_replays (before : Controller β) :
    Replays answered (pastLink before) (seen before).atDepth (atEngine before).bus := by
  have same : (seen before).up = linkSeen before := rfl
  unfold Sight.atDepth atEngine
  rw [same]
  by_cases up : linkSeen before = true
  · rw [if_pos up, if_pos up]
    exact ⟨rfl, rfl⟩
  · rw [if_neg up, if_neg up]
    rfl

theorem past_engine_replays (before : Controller β) :
    Replays answered (atEngine before).bus ((seen before).atEngine before.state) (pastEngine (atEngine before)).bus := by
  unfold Sight.atEngine pastEngine
  rw [at_engine_transfer]
  by_cases transfer : before.state.transferState = true
  · simp only [if_pos transfer]
    rfl
  · simp only [if_neg transfer]
    exact ⟨rfl, rfl⟩

theorem training_replays (before : Controller β) :
    Replays (seen before).answered (pastEngine (atEngine before)).bus (seen before).training (trains (begun before).bus).2 := by
  let waited := Bus.wait (begun before).bus Reg.Backend.linkStatus Reg.Backend.linkTrained .forever
  unfold Sight.training Sight.answered seen
  by_cases trained : waited.1 = true
  · have link : trains (begun before).bus = _ := if_pos trained
    rw [link]
    exact ⟨trained, rfl, rfl⟩
  · have link : trains (begun before).bus = _ := if_neg trained
    rw [link]
    exact ⟨Bool.eq_false_iff.mpr trained, rfl⟩

theorem reached_replays (before : Controller β) :
    Replays answered before.bus
      ((seen before).atLink before.state ++ (seen before).atDepth ++ (seen before).atEngine before.state)
      (pastEngine (atEngine before)).bus :=
  ((past_link_replays answered before).append (at_engine_replays answered before)).append (past_engine_replays answered before)

end Stages

def Halts (before : Controller β) (result : EStateM.Result Stall (Controller β) Readiness) : Prop :=
  ∃ reached, Stops before (seen before) reached ∧ result = conclude (seen before) before.state reached

section Halting

variable {reached : Controller β} {readiness : Readiness}

theorem halts_of_answer {ground : Ground} (stops : Stops before (seen before) reached)
    (here : (seen before).ground before.state = ground) (decided : ground.verdict (seen before).rolling = .ok readiness)
    (silent : ground.request? before.state.ring.index (seen before).rolling = none) : Halts before (.ok readiness reached) := by
  refine ⟨reached, stops, ?_⟩
  simp only [conclude, Sight.verdict, Sight.request?, here, decided, silent]
  rfl

theorem halts_of_refusal {ground : Ground} {request : RetryRequest} (stops : Stops before (seen before) reached)
    (here : (seen before).ground before.state = ground) (decided : ground.verdict (seen before).rolling = .ok readiness)
    (asked : ground.request? before.state.ring.index (seen before).rolling = some request) :
    Halts before (refuse readiness request reached) := by
  refine ⟨reached, stops, ?_⟩
  simp only [conclude, Sight.verdict, Sight.request?, here, decided, asked]

theorem halts_of_stall {ground : Ground} {stall : Stall} (stops : Stops before (seen before) reached)
    (here : (seen before).ground before.state = ground) (decided : ground.verdict (seen before).rolling = .error stall) :
    Halts before (.error stall reached) := by
  refine ⟨reached, stops, ?_⟩
  simp only [conclude, Sight.verdict, here, decided]

theorem stops_past_link (unfaulted : before.state.fault = false) (settings : reached.settings = before.settings)
    (state : reached.state = (forgetTransfer before).state) (statistics : reached.statistics = before.statistics)
    (replays : Replays (seen before).answered before.bus ((seen before).operations before.state) reached.bus) : Stops before (seen before) reached :=
  { settings, statistics, replays
    state := by rw [state, unfaulted, if_neg Bool.false_ne_true] }

-- The last table decides; it is read from where the check has come to.
theorem rolling_halts (unfaulted : before.state.fault = false) {retrained : Bool}
    (ground : (seen before).ground before.state = .rolling retrained) {reached : Controller β}
    (settings : reached.settings = before.settings) (state : reached.state = (forgetTransfer before).state)
    (statistics : reached.statistics = before.statistics) (bus : reached.bus = atRolling before)
    (replays : Replays (seen before).answered before.bus
      ((seen before).atLink before.state ++ (seen before).atDepth ++ (seen before).atEngine before.state ++
        if retrained then (seen before).training else []) reached.bus) :
    Halts before (checkRolling reached) := by
  have shown : (seen before).rolling = (Bus.read reached.bus Reg.Backend.rollingStatus).1 := by rw [bus]; rfl
  have stops : Stops before (seen before)
      { reached with bus := (Bus.read reached.bus Reg.Backend.rollingStatus).2 } := by
    refine stops_past_link unfaulted settings state statistics ?_
    simp only [Sight.operations, ground, shown]
    exact replays.append ⟨rfl, rfl⟩
  rw [check_rolling_concludes, ← shown]
  split
  · rename_i throttled
    exact halts_of_refusal stops ground (by simp only [Ground.verdict, throttled]) (by simp only [Ground.request?, throttled])
  · rename_i resynchronised
    exact halts_of_refusal stops ground (by simp only [Ground.verdict, resynchronised])
      (by simp only [Ground.request?, resynchronised])
  · exact halts_of_answer stops ground (by simp [Ground.verdict]) (by simp [Ground.request?])

end Halting

-- The way is open to the engine: no fault, no link that is missed, and no full queue.
structure Open (controller : Controller β) : Prop where
  unfaulted : controller.state.fault = false
  reachable : (!controller.state.commandActive && !(seen controller).up) = false
  room : ((seen controller).up && decide (0x80 ≤ (seen controller).depth)) = false

theorem engine_busy_seen (before : Controller β) :
    engineBusy (atEngine before) = (!before.state.transferState && (seen before).busy) := by
  rw [engineBusy, at_engine_transfer]
  rfl

theorem past_engine_keeps (before : Controller β) :
    (pastEngine (atEngine before)).settings = before.settings ∧
      (pastEngine (atEngine before)).state = (forgetTransfer before).state ∧
      (pastEngine (atEngine before)).statistics = before.statistics := by
  unfold pastEngine atEngine
  split <;> exact ⟨rfl, rfl, rfl⟩

theorem stops_past_engine (unfaulted : before.state.fault = false)
    (here : (seen before).operations before.state =
      (seen before).atLink before.state ++ (seen before).atDepth ++ (seen before).atEngine before.state) :
    Stops before (seen before) (pastEngine (atEngine before)) := by
  obtain ⟨settings, state, statistics⟩ := past_engine_keeps before
  refine stops_past_link unfaulted settings state statistics ?_
  rw [here]
  exact reached_replays _ before

-- Training ends in the last table, or the link is lost, or nothing ends it.
theorem after_recover_halts (way : Open before) (idle : (!before.state.transferState && (seen before).busy) = false)
    (logged : before.state.submitLog = before.state.completeLog) (trains : ((seen before).drained && !before.state.powerInit) = true) :
    Halts before (afterRecover (begun before)) := by
  obtain ⟨settings, state, statistics⟩ := past_engine_keeps before
  have rolling : atRolling before = (Readiness.trains (begun before).bus).2 := if_pos trains
  have replays := (reached_replays _ before).append (training_replays before)
  rw [after_recover_trains]
  change Halts before (match (seen before).trained with | none => _ | some shown => _)
  cases training : (seen before).trained with
  | none =>
      have ground : (seen before).ground before.state = .untrained := by
        simp [Sight.ground, way.unfaulted, way.reachable, way.room, idle, logged, trains, training]
      refine halts_of_stall (stops_past_link way.unfaulted settings state statistics ?_) ground rfl
      simp only [Sight.operations, ground]
      exact replays
  | some shown =>
      by_cases up : shown.meets Reg.Backend.linkUp = true
      · have ground : (seen before).ground before.state = .rolling true := by
          simp [Sight.ground, way.unfaulted, way.reachable, way.room, idle, logged, trains, training, up]
        simp only [if_pos up]
        exact rolling_halts way.unfaulted ground settings state statistics rolling.symm replays
      · have ground : (seen before).ground before.state = .unrecovered := by
          simp [Sight.ground, way.unfaulted, way.reachable, way.room, idle, logged, trains, training, up]
        simp only [if_neg up]
        refine halts_of_refusal (stops_past_link way.unfaulted settings state statistics ?_) ground rfl rfl
        simp only [Sight.operations, ground]
        exact replays

theorem check_busy_halts {depth : Option Byte} (way : Open before)
    (drained : depth = some Reg.Backend.depthDrained ↔ (seen before).drained = true) :
    Halts before (checkBusy depth (atEngine before)) := by
  obtain ⟨settings, state, statistics⟩ := past_engine_keeps before
  rw [check_busy_looks, engine_busy_seen]
  by_cases busy : (!before.state.transferState && (seen before).busy) = true
  · have ground : (seen before).ground before.state = .busy := by
      simp [Sight.ground, way.unfaulted, way.reachable, way.room, busy]
    rw [if_pos busy]
    exact halts_of_answer (stops_past_engine way.unfaulted (by simp only [Sight.operations, ground])) ground rfl rfl
  · have idle := Bool.eq_false_iff.mpr busy
    rw [if_neg busy]
    by_cases deep : depth = some Reg.Backend.depthDrained
    · have dry := drained.mp deep
      rw [if_pos deep]
      by_cases logged : before.state.submitLog = before.state.completeLog
      · rw [check_drained_of_settled (by rw [state]; exact logged), state]
        change Halts before (if before.state.powerInit = true then _ else afterRecover (begun before))
        by_cases power : before.state.powerInit = true
        · have ground : (seen before).ground before.state = .rolling false := by
            simp [Sight.ground, way.unfaulted, way.reachable, way.room, idle, logged, power]
          have rolling : atRolling before = (pastEngine (atEngine before)).bus := if_neg (by simp [power])
          rw [if_pos power]
          exact rolling_halts way.unfaulted ground settings state statistics rolling.symm (by simpa using reached_replays _ before)
        · rw [if_neg power]
          exact after_recover_halts way idle logged (by simp [dry, power])
      · have ground : (seen before).ground before.state = .unlogged := by
          simp [Sight.ground, way.unfaulted, way.reachable, way.room, idle, dry, logged]
        rw [check_drained_of_waiting (by rw [state]; exact logged)]
        exact halts_of_answer (stops_past_engine way.unfaulted (by simp only [Sight.operations, ground])) ground rfl rfl
    · have wet : (seen before).drained = false := Bool.eq_false_iff.mpr fun dry => deep (drained.mpr dry)
      have ground : (seen before).ground before.state = .rolling false := by
        simp [Sight.ground, way.unfaulted, way.reachable, way.room, idle, wet]
      have here : (linkSeen before && (depthSeen before).1 == 4) = false := wet
      have rolling : atRolling before = (pastEngine (atEngine before)).bus := if_neg (by simp [here])
      rw [if_neg deep]
      exact rolling_halts way.unfaulted ground settings state statistics rolling.symm (by simpa using reached_replays _ before)

theorem evaluate_halts (before : Controller β) : Halts before (evaluate before) := by
  have looked : (seen before).up = linkSeen before := rfl
  by_cases faulted : before.state.fault = true
  · have ground : (seen before).ground before.state = .fault := by simp [Sight.ground, faulted]
    have stops : Stops before (seen before) before :=
      { settings := rfl, statistics := rfl
        state := by rw [if_pos faulted]
        replays := by simp only [Sight.operations, ground]; rfl }
    unfold evaluate
    rw [bind_get_state, if_pos faulted]
    exact halts_of_refusal stops ground rfl rfl
  · have unfaulted := Bool.eq_false_iff.mpr faulted
    rw [evaluate_of_unfaulted unfaulted, look_at_link_looks]
    by_cases up : linkSeen before = true
    · have here : atEngine before = pastDepth before := if_pos up
      rw [if_pos up, check_depth_looks, depth_full_iff]
      by_cases full : 0x80 ≤ (depthSeen before).1
      · have ground : (seen before).ground before.state = .full := by
          have deep : decide (0x80 ≤ (seen before).depth) = true := decide_eq_true full
          simp [Sight.ground, unfaulted, looked, up, deep]
        rw [if_pos (decide_eq_true full)]
        refine halts_of_refusal (stops_past_link unfaulted rfl rfl rfl ?_) ground rfl rfl
        simp only [Sight.operations, ground, ← here]
        exact (past_link_replays _ before).append (at_engine_replays _ before)
      · have room : decide (0x80 ≤ (seen before).depth) = false := decide_eq_false full
        rw [if_neg (by simp [full]), ← here]
        have depth : (seen before).depth = (depthSeen before).1 := rfl
        refine check_busy_halts ⟨unfaulted, by simp [looked, up], by simp [room]⟩ ?_
        simp [Sight.drained, looked, up, depth, Reg.Backend.depthDrained]
    · have down := Bool.eq_false_iff.mpr up
      have here : atEngine before = atDepth before := if_neg up
      rw [if_neg up]
      by_cases command : before.state.commandActive = true
      · rw [if_pos command, ← here]
        exact check_busy_halts ⟨unfaulted, by simp [command], by simp [looked, down]⟩ (by simp [Sight.drained, looked, down])
      · have ground : (seen before).ground before.state = .linkDown := by
          simp [Sight.ground, unfaulted, looked, down, command]
        rw [if_neg command]
        refine halts_of_refusal (stops_past_link unfaulted rfl rfl rfl ?_) ground rfl rfl
        simp only [Sight.operations, ground]
        exact past_link_replays _ before

-- All that a check does, told by what it saw.
structure Obeys (before : Controller β) (sight : Sight) (result : EStateM.Result Stall (Controller β) Readiness) : Prop where
  verdict : BridgeM.verdict result = sight.verdict before.state
  settings : (ending result).settings = before.settings
  state : (ending result).state = sight.settle before.state
  statistics : (ending result).statistics = sight.count before.state before.statistics
  replays : Replays sight.answered before.bus (sight.operations before.state) (ending result).bus

omit [Bus β] in
theorem report_ends (readiness : Readiness) (before : Controller β) : ∃ log,
    report readiness before = .ok readiness { before with
      statistics := { before.statistics with
        refusals := if readiness.isProceed then before.statistics.refusals else countUp before.statistics.refusals }
      log } := by
  unfold report
  by_cases proceeds : readiness.isProceed = true
  · simp only [if_pos proceeds]
    exact ⟨_, rfl⟩
  · simp only [if_neg proceeds]
    exact ⟨_, rfl⟩

-- A fault leaves the transfer as it is, and everything else forgets it.
theorem Stops.forgets {sight : Sight} {reached : Controller β} (stops : Stops before sight reached) :
    reached.state = { before.state with
      transferActive := before.state.fault && before.state.transferActive
      dmaMode := if before.state.fault then before.state.dmaMode else 0 } := by
  by_cases faulted : before.state.fault = true
  · have active : (before.state.fault && before.state.transferActive) = before.state.transferActive := by simp [faulted]
    rw [stops.state, if_pos faulted, if_pos faulted, active]
  · have active : (before.state.fault && before.state.transferActive) = false := by simp [faulted]
    rw [stops.state, if_neg faulted, if_neg faulted, active]
    rfl

-- The verdict is reported last, when the request that goes with it has been raised.
theorem report_obeys {sight : Sight} {readiness : Readiness} {reached : Controller β}
    (decided : sight.verdict before.state = .ok readiness) (settings : reached.settings = before.settings)
    (state : reached.state = sight.settle before.state)
    (statistics : reached.statistics = { before.statistics with
      retryRequests :=
        if (sight.request? before.state).isSome then countUp before.statistics.retryRequests
        else before.statistics.retryRequests })
    (replays : Replays sight.answered before.bus (sight.operations before.state) reached.bus) :
    Obeys before sight (report readiness reached) := by
  have refuses : sight.refuses before.state = !readiness.isProceed := by simp only [Sight.refuses, decided]
  obtain ⟨log, reported⟩ := report_ends readiness reached
  rw [reported]
  refine ⟨decided.symm, settings, state, ?_, replays⟩
  rw [Sight.count, refuses]
  change Statistics.mk .. = _
  rw [statistics]
  by_cases proceeds : readiness.isProceed = true
  · simp [proceeds]
  · simp [proceeds]

theorem check_obeys (before : Controller β) : Obeys before (seen before) (check before) := by
  obtain ⟨reached, stops, halted⟩ := evaluate_halts before
  have checked : check before = (conclude (seen before) before.state >>= report) reached := bind_of_same halted report
  rw [checked]
  unfold conclude
  cases decided : (seen before).verdict before.state with
  | error stall =>
      have silent := request_none_of_stall decided
      refine ⟨decided.symm, stops.settings, ?_, ?_, stops.replays⟩
      · change reached.state = _
        simp only [stops.forgets, Sight.settle, silent, Option.elim_none]
      · change reached.statistics = _
        simp [stops.statistics, Sight.count, Sight.refuses, decided, silent]
  | ok readiness =>
      cases asked : (seen before).request? before.state with
      | none =>
          refine report_obeys decided stops.settings ?_ ?_ stops.replays
          · simp only [stops.forgets, Sight.settle, asked, Option.elim_none]
          · simp [stops.statistics, asked]
      | some request =>
          let raised := ending (refuse readiness request reached)
          have obeys : Obeys before (seen before) (report readiness raised) := by
            refine report_obeys decided stops.settings ?_ ?_ stops.replays
            · change { reached.state with retry := some (RetryRequest.settle reached.state.retry request) } = _
              simp only [stops.forgets, Sight.settle, asked, Option.elim_some]
            · change { reached.statistics with retryRequests := countUp reached.statistics.retryRequests } = _
              simp [stops.statistics, asked]
          exact obeys

theorem obeys_beneath {sight : Sight} {result : EStateM.Result Stall (Controller (Recorder β)) Readiness}
    (obeys : Obeys before.recorded sight result) : Obeys before sight (forgetting result) := by
  cases result with
  | ok readiness after => exact ⟨obeys.verdict, obeys.settings, obeys.state, obeys.statistics, obeys.replays.beneath⟩
  | error stall after => exact ⟨obeys.verdict, obeys.settings, obeys.state, obeys.statistics, obeys.replays.beneath⟩

-- What a check sees depends on the bus and on three flags.
theorem seen_of_same {one other : Controller β} (bus : one.bus = other.bus)
    (command : one.state.commandActive = other.state.commandActive)
    (transfer : one.state.transferState = other.state.transferState) (power : one.state.powerInit = other.state.powerInit) :
    seen one = seen other := by
  have link : linkSeen one = linkSeen other := by simp only [linkSeen, bus]
  have past : pastLink one = pastLink other := by simp only [pastLink, bus, command]
  have depth : depthSeen one = depthSeen other := by simp only [depthSeen, past]
  have engine : (atEngine one).bus = (atEngine other).bus := by
    by_cases up : linkSeen other = true
    · simp [atEngine, link, up, pastDepth, depth]
    · simp [atEngine, link, up, atDepth, past]
  have reached : (pastEngine (atEngine one)).bus = (pastEngine (atEngine other)).bus := by
    simp only [pastEngine, at_engine_transfer, engine, transfer]
  have training : (begun one).bus = (begun other).bus := by simp only [begun, recovering, reached]
  have rolling : atRolling one = atRolling other := by simp only [atRolling, link, depth, power, training, reached]
  simp only [seen, bus, depth, engine, training, rolling]

theorem check_obeys_recorded (before : Controller β) : Obeys before (seen before.recorded) (check before) := by
  have records : Records (· ∈ registers) (fun _ _ _ => False) (check : BridgeM (Recorder β) Readiness) check := check_records
  have same : forgetting (check before.recorded) = check before := records.same before.recorded
  rw [← same]
  exact obeys_beneath (check_obeys before.recorded)

theorem check_follows_the_order_of_tests (before : Controller β) :
    ∃ sight : Sight,
      Obeys before sight (check before) ∧
      effects check before = (sight.operations before.state).map Effect.operation ∧
      (before.state.fault = false →
        (ending (check before)).state.transferActive = false ∧ (ending (check before)).state.dmaMode = 0) ∧
      (∀ value, .operation (.write Reg.Transport.flags value) ∈ effects check before ↔
        before.state.fault = false ∧ before.state.commandActive = true ∧
          value = sight.flags &&& ~~~Reg.Transport.secondary) ∧
      (before.state.commandActive = true → sight.up = false →
        (∀ value, .operation (.read Reg.Backend.queueDepth value) ∉ effects check before) ∧
        ∀ submitLog completeLog,
          verdict (check { before with state := { before.state with submitLog, completeLog } }) = verdict (check before)) := by
  have obeys := check_obeys_recorded before
  have done : effects check before = ((seen before.recorded).operations before.state).map Effect.operation := by
    rw [effects, (check_obeys before.recorded).replays.recorded, List.reverse_append, List.reverse_reverse]
    rfl
  refine ⟨seen before.recorded, obeys, done, ?_, ?_, ?_⟩
  · intro unfaulted
    rw [obeys.state]
    simp [Sight.settle, unfaulted]
  · intro value
    rw [done, ← flags_written_iff]
    simp
  · intro command down
    refine ⟨?_, ?_⟩
    · intro value
      rw [done]
      simpa using depth_unread_of_down before.state down value
    · intro submitLog completeLog
      have other := check_obeys_recorded { before with state := { before.state with submitLog, completeLog } }
      have same : seen (Controller.recorded { before with state := { before.state with submitLog, completeLog } }) =
          seen before.recorded := seen_of_same rfl rfl rfl rfl
      rw [other.verdict, same, verdict_of_down down command, ← obeys.verdict]

end Readiness

end StorageBridge
