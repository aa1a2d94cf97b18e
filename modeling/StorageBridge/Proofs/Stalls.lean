import StorageBridge.Proofs.RetryChannel
import StorageBridge.Proofs.Waits

/-!
Where a pass on a simulated board stalls, and what it has done by then. Two waits have no end, for a
trained link and for an idle engine, and a pass stalls exactly when it comes to one of them on a board
that does not answer. Nothing else stalls, and nothing that is computed overflows.
-/

set_option autoImplicit false

namespace StorageBridge

open BridgeM Recorder

variable {η : Type}

namespace BridgeM

variable {β α γ ν μ : Type} [Bus β]

-- A view is kept up to one wait without an end, and after that wait nothing stalls.
structure Awaits (view : Controller β → ν) (address : Address) (mask : Byte) (step : BridgeM β α) : Prop where
  reaches : ∀ before, ∃ between, view between = view before ∧
    ((Bus.wait between.bus address mask .forever).1 = true → ∃ value after, step before = .ok value after) ∧
    ((Bus.wait between.bus address mask .forever).1 = false →
      step before = .error { address, mask } { between with bus := (Bus.wait between.bus address mask .forever).2 })

variable {view : Controller β → ν} {address : Address} {mask : Byte}

theorem awaits_wait : Awaits view address mask (waitFor address mask) := by
  refine ⟨fun before => ⟨before, rfl, fun seen => ?_, fun missed => ?_⟩⟩
  · exact ⟨(), _, (wait_for_ends address mask before).trans (if_pos seen)⟩
  · exact (wait_for_ends address mask before).trans (if_neg (Bool.eq_false_iff.mp missed))

theorem awaits_after {step : BridgeM β α} {next : α → BridgeM β γ} (first : Keeps view never step)
    (rest : ∀ value, Awaits view address mask (next value)) : Awaits view address mask (step >>= next) := by
  refine ⟨fun before => ?_⟩
  obtain ⟨value, middle, ended, kept⟩ := keeps_answers first before
  rw [bind_of_ok ended]
  obtain ⟨between, same, onward⟩ := (rest value).reaches middle
  exact ⟨between, same.trans kept, onward⟩

theorem awaits_before {other : Controller β → μ} {step : BridgeM β α} {next : α → BridgeM β γ}
    (first : Awaits view address mask step) (rest : ∀ value, Keeps other never (next value)) :
    Awaits view address mask (step >>= next) := by
  refine ⟨fun before => ?_⟩
  obtain ⟨between, same, answers, stalls⟩ := first.reaches before
  refine ⟨between, same, fun seen => ?_, fun missed => bind_of_error (stalls missed) next⟩
  obtain ⟨value, middle, ended⟩ := answers seen
  obtain ⟨answer, after, finished, -⟩ := keeps_answers (rest value) middle
  exact ⟨answer, after, (bind_of_ok ended next).trans finished⟩

end BridgeM

-- the registers that programming the engine writes, once it is idle
def Transfer.programmed : List Address :=
  Transfer.registers.erase Reg.Dma.ready

-- a handler call, or a write to a register that programming writes
def Effect.disturbs : Effect → Bool
  | .operation (.write address _) => decide (address ∈ Transfer.programmed)
  | .call _ => true
  | _ => false

-- the fields that programming, a hand-off and the endpoint service change
def State.engine (state : State) : Bool × Byte × Option Transfer × Option Byte :=
  (state.transferActive, state.dmaMode, state.lastTransfer, state.dispatchOffset)

-- what the wait for an idle engine depends on, and what must not happen before it
def Recorder.engine (recorder : Recorder Board) : (Byte × List ReadyScript) × List Effect :=
  (recorder.bus.outlook Reg.Dma.ready, recorder.effects.filter Effect.disturbs)

def Controller.engine (controller : Controller (Recorder Board)) :
    ((Byte × List ReadyScript) × List Effect) × Bool × Byte × Option Transfer × Option Byte :=
  (controller.bus.engine, controller.state.engine)

theorem spares_engine : Spares Recorder.engine (· ∉ Transfer.registers) fun _ _ _ => False := by
  have different {address : Address} (outside : address ∉ Transfer.registers) : address ≠ Reg.Dma.ready := by
    rintro rfl
    exact outside (by decide)
  have unprogrammed {address : Address} (outside : address ∉ Transfer.registers) : address ∉ Transfer.programmed :=
    fun inside => outside (List.mem_of_mem_erase inside)
  constructor
  · exact fun _ _ => rfl
  · intro recorder address value outside
    refine Prod.ext (Board.outlook_write (different outside) _ _) ?_
    exact List.filter_cons_of_neg (by simp [Effect.disturbs, unprogrammed outside])
  · intro recorder address mask budget outside
    exact Prod.ext (Board.outlook_wait (different outside) _ mask budget) rfl
  · exact fun _ _ _ called => called.elim

theorem keeps_engine {α : Type} {touched : Address → Prop} {stalls : Stall → Prop}
    {recorded : BridgeM (Recorder (Recorder Board)) α} {step : BridgeM (Recorder Board) α}
    (records : Records touched (fun _ _ _ => False) recorded step) (apart : ∀ address, touched address → address ∉ Transfer.registers)
    (kept : Keeps (fun controller : Controller (Recorder Board) => controller.state.engine) stalls step) :
    Keeps Controller.engine stalls step := by
  have spared := keeps_spared (records_wider apart records) spares_engine
  have both := keeps_both kept spared
  exact keeps_coarser both fun pair => (pair.2, pair.1)

namespace Submission

theorem queue_off_engine : ∀ address ∈ queueRegisters, address ∉ Transfer.registers :=
  Board.not_mem_of_apart (by decide +kernel)

theorem second_off_engine : ∀ address ∈ Transfer.secondRegisters, address ∉ Transfer.registers :=
  Board.not_mem_of_apart (by decide +kernel)

theorem engine_of_off_queue {α : Type} {step : BridgeM (Recorder Board) α} (kept : Keeps offQueue never step) :
    Keeps (fun controller : Controller (Recorder Board) => controller.state.engine) never step :=
  keeps_coarser kept fun rest => rest.2.1.engine

theorem transfer_and_hand_off_awaits (flags : TransferFlags) (index : SlotIndex) :
    Awaits Controller.engine Reg.Dma.ready Reg.Dma.readyIdle
      (transferAndHandOff flags index : BridgeM (Recorder Board) Unit) := by
  have handsOff : Keeps untouched never (do
      modifyState fun state => { state with transferActive := true }
      handOff : BridgeM (Recorder Board) Unit) :=
    keeps_bind ⟨fun _ => rfl⟩ fun _ => keeps_beside_queue (hand_off_keeps never)
  exact awaits_before (awaits_before awaits_wait fun _ => Transfer.program_idle_keeps never _ _) fun _ => handsOff

theorem accept_awaits (index : SlotIndex) (param1 param2 : Byte) (action : Action) :
    Awaits Controller.engine Reg.Dma.ready Reg.Dma.readyIdle
      (accept index param1 param2 action : BridgeM (Recorder Board) Submission) := by
  have recorded : Keeps Controller.engine never (recordSubmission : BridgeM (Recorder Board) Unit) :=
    keeps_engine record_submission_records queue_off_engine (engine_of_off_queue (record_submission_keeps never))
  refine awaits_after (keeps_engine load_counts_records queue_off_engine ⟨fun _ => rfl⟩) fun _ => ?_
  refine awaits_after (keeps_engine (arm_burst_records _) queue_off_engine (engine_of_off_queue (arm_burst_keeps never _))) fun _ => ?_
  refine awaits_after (keeps_engine (fill_slot_records _ _) queue_off_engine ⟨fun _ => rfl⟩) fun _ => ?_
  refine awaits_after ⟨fun _ => rfl⟩ fun raw => ?_
  dsimp only
  split
  · refine awaits_after ⟨fun _ => rfl⟩ fun _ => ?_
    refine awaits_after (keeps_engine (records_modify _ _ (by decide)) queue_off_engine ⟨fun _ => rfl⟩) fun _ => ?_
    refine awaits_after ⟨fun _ => rfl⟩ fun head => awaits_after ⟨fun _ => rfl⟩ fun _ => awaits_after recorded fun _ => ?_
    exact awaits_before (transfer_and_hand_off_awaits _ _) fun _ => keeps_pure Controller.engine _ _
  · refine awaits_after (keeps_engine (settle_window_records _ _ _) queue_off_engine (engine_of_off_queue (settle_window_keeps never _ _ _))) fun _ => ?_
    refine awaits_after ⟨fun _ => rfl⟩ fun secondary => awaits_after ⟨fun _ => rfl⟩ fun _ => ?_
    refine awaits_after (keeps_engine (Transfer.resolve_secondary_records _) second_off_engine ⟨fun _ => rfl⟩) fun _ => ?_
    have answered : Keeps untouched never (do
        let settings ← getSettings
        pure (.inProgress settings.inProgress) : BridgeM (Recorder Board) Submission) :=
      keeps_bind ⟨fun _ => rfl⟩ fun _ => keeps_pure _ _ _
    exact awaits_before (transfer_and_hand_off_awaits _ _) fun _ => answered

end Submission

-- The check comes to the wait for a trained link, and the board does not answer.
structure LinkStalls (controller : Controller Board) : Prop where
  fault : controller.state.fault = false
  up : controller.bus.shows Reg.Backend.linkStatus Reg.Backend.linkUp = true
  drained : controller.bus.peek Reg.Backend.queueDepth = Reg.Backend.depthDrained
  idle : controller.bus.shows Reg.Backend.status Reg.Backend.statusBusy = false ∨ controller.state.transferState = true
  settled : controller.state.submitLog = controller.state.completeLog
  running : controller.state.powerInit = false
  untrained : controller.bus.answers Reg.Backend.linkStatus Reg.Backend.linkTrained = false

-- The action gets a slot and comes to the wait for an idle engine, and the board does not answer.
structure EngineStalls (controller : Controller Board) : Prop where
  proceeds : ∃ between, Readiness.check controller = .ok .proceed between
  free : (controller.state.ring.slot controller.state.ring.index).isFree = true
  unready : controller.bus.answers Reg.Dma.ready Reg.Dma.readyIdle = false

namespace Readiness

theorem foretold_error_iff (controller : Controller Board) (stall : Stall) :
    foretold controller = .error stall ↔ LinkStalls controller ∧ stall = untrained := by
  constructor
  · intro stalls
    unfold foretold foretoldAtEngine at stalls
    have waits : LinkStalls controller := by constructor <;> grind
    exact ⟨waits, by grind⟩
  · rintro ⟨⟨fault, up, drained, idle, settled, running, missed⟩, rfl⟩
    have room : controller.bus.shows Reg.Backend.queueDepth Reg.Backend.depthFull = false := by
      rw [Board.shows, drained]
      decide
    have engine : (!controller.state.transferState && controller.bus.shows Reg.Backend.status Reg.Backend.statusBusy) = false := by
      rcases idle with quiet | set
      · simp [quiet]
      · simp [set]
    simp [foretold, foretoldAtEngine, fault, up, room, engine, drained, settled, running, missed]

theorem checked_iff {β α : Type} {result : EStateM.Result Stall (Controller β) α} (value : α) :
    verdict result = .ok value ↔ ∃ after, result = .ok value after := by
  cases result with
  | ok answer after => simp [verdict]
  | error stall after => simp [verdict]

theorem verdict_recorded {α : Type} {touched : Address → Prop} {calls : Byte → Board → Board → Prop}
    {recorded : BridgeM (Recorder Board) α} {plain : BridgeM Board α} (records : Records touched calls recorded plain)
    (before : Controller (Recorder Board)) : verdict (recorded before) = verdict (plain before.forget) := by
  rw [← records.same before]
  cases recorded before with
  | ok value after => rfl
  | error stall after => rfl

-- The transfer is forgotten before the check can say proceed.
theorem proceed_forgets {β : Type} [Bus β] {before after : Controller β} (checked : check before = .ok .proceed after) :
    after.state.transferActive = false ∧ after.state.dmaMode = 0 := by
  obtain ⟨between, evaluated⟩ := evaluated_of_checked checked
  have same : after = between := by
    unfold check at checked
    rw [bind_of_ok evaluated] at checked
    cases checked
    rfl
  rw [same]
  unfold evaluate at evaluated
  rw [bind_get_state] at evaluated
  split at evaluated
  · cases evaluated
  · rw [check_link_forgets] at evaluated
    have kept := keeps_ok look_at_link_keeps evaluated
    exact ⟨congrArg (fun rest => rest.2.1.transferActive) kept, congrArg (fun rest => rest.2.1.dmaMode) kept⟩

end Readiness

-- What a stall leaves as it was: no register that programming writes was written, no handler was
-- called, and the last transfer and the dispatch offset stand.
structure Undisturbed (before after : Controller (Recorder Board)) : Prop where
  effects : after.bus.effects.filter Effect.disturbs = before.bus.effects.filter Effect.disturbs
  lastTransfer : after.state.lastTransfer = before.state.lastTransfer
  dispatchOffset : after.state.dispatchOffset = before.state.dispatchOffset

-- how a part of a pass ends on a board: it stalls where it should, and nowhere else
def StallsRightly {α : Type} (before : Controller (Recorder Board)) : EStateM.Result Stall (Controller (Recorder Board)) α → Prop
  | .ok _ _ => ¬ LinkStalls before.forget ∧ ¬ EngineStalls before.forget
  | .error stall after =>
      Undisturbed before after ∧
        (LinkStalls before.forget ∧ stall = Readiness.untrained ∨
          EngineStalls before.forget ∧ stall = Transfer.unready ∧
            after.state.transferActive = false ∧ after.state.dmaMode = 0)

-- what the check leaves as it was
def Controller.aside (controller : Controller (Recorder Board)) :
    ((Byte × List ReadyScript) × List Effect) × Option Transfer × Option Byte × CommandRing :=
  (controller.bus.engine, controller.state.lastTransfer, controller.state.dispatchOffset, controller.state.ring)

namespace Submission

theorem readiness_off_engine : ∀ address ∈ Readiness.registers, address ∉ Transfer.registers :=
  Board.not_mem_of_apart (by decide +kernel)

theorem check_keeps_aside : Keeps Controller.aside (· = Readiness.untrained) (Readiness.check : BridgeM (Recorder Board) Readiness) := by
  have spared := keeps_spared (records_wider readiness_off_engine Readiness.check_records) spares_engine
  have both := keeps_both Readiness.check_keeps spared
  exact keeps_coarser both fun pair =>
    (pair.2, pair.1.2.1.lastTransfer, pair.1.2.1.dispatchOffset, pair.1.2.1.ring)

-- the gate of the plain board, told from the run on a recorder
theorem check_foretold_recorded (action : Action) (before : Controller (Recorder Board)) :
    verdict (Readiness.check (marked action before)) = Readiness.foretold before.forget := by
  have records : Records (· ∈ Readiness.registers) (fun _ _ _ => False)
      (Readiness.check : BridgeM (Recorder Board) Readiness) Readiness.check := Readiness.check_records
  exact (Readiness.verdict_recorded records _).trans (Readiness.check_foretold _)

theorem proceeds_iff (controller : Controller Board) :
    (∃ between, Readiness.check controller = .ok .proceed between) ↔ Readiness.foretold controller = .ok .proceed := by
  rw [← Readiness.checked_iff, Readiness.check_foretold]

theorem trained_of_answer {controller : Controller Board} {readiness : Readiness}
    (answered : Readiness.foretold controller = .ok readiness) : ¬ LinkStalls controller := by
  intro stalls
  have missed := (Readiness.foretold_error_iff controller Readiness.untrained).mpr ⟨stalls, rfl⟩
  rw [answered] at missed
  cases missed

theorem accept_stalls_rightly {param1 param2 : Byte} {action : Action} {before between : Controller (Recorder Board)}
    (checked : Readiness.check (marked action before) = .ok .proceed between)
    (free : (between.state.ring.slot between.state.ring.index).isFree = true) :
    StallsRightly before (accept between.state.ring.index param1 param2 action between) := by
  have said := check_foretold_recorded action before
  rw [checked] at said
  have aside : between.aside = before.aside := (keeps_ok check_keeps_aside checked).trans rfl
  simp only [Controller.aside, Prod.mk.injEq] at aside
  obtain ⟨bus, lastTransfer, dispatchOffset, ring⟩ := aside
  obtain ⟨idle, modeless⟩ := Readiness.proceed_forgets checked
  obtain ⟨waiting, engine, answers, stalls⟩ := (accept_awaits between.state.ring.index param1 param2 action).reaches between
  have outlook : waiting.bus.bus.outlook Reg.Dma.ready = before.bus.bus.outlook Reg.Dma.ready :=
    (congrArg (fun view => view.1.1) engine).trans (congrArg Prod.fst bus)
  have seen : (Bus.wait waiting.bus Reg.Dma.ready Reg.Dma.readyIdle .forever).1 =
      before.bus.bus.answers Reg.Dma.ready Reg.Dma.readyIdle := Board.answers_of_outlook outlook _
  cases ready : before.bus.bus.answers Reg.Dma.ready Reg.Dma.readyIdle with
  | true =>
      obtain ⟨submission, after, ended⟩ := answers (seen.trans ready)
      rw [ended]
      exact ⟨trained_of_answer said.symm, fun unready => Bool.false_ne_true (unready.unready.symm.trans ready)⟩
  | false =>
      rw [stalls (seen.trans ready)]
      have fields : waiting.state.engine = between.state.engine := congrArg Prod.snd engine
      simp only [State.engine, Prod.mk.injEq] at fields
      obtain ⟨active, mode, transfer, offset⟩ := fields
      refine ⟨⟨?_, transfer.trans lastTransfer, offset.trans dispatchOffset⟩, .inr ⟨⟨?_, ?_, ready⟩, rfl, active.trans idle, mode.trans modeless⟩⟩
      · exact (congrArg (fun view => view.1.2) engine).trans (congrArg Prod.snd bus)
      · exact (proceeds_iff before.forget).mpr said.symm
      · rw [ring] at free
        exact free

theorem submit_stalls_rightly (param1 param2 : Byte) (action : Action) (before : Controller (Recorder Board)) :
    StallsRightly before (submit param1 param2 action before) := by
  have outcome := submit_outcome param1 param2 action before
  have said := check_foretold_recorded action before
  generalize submit param1 param2 action before = result at outcome
  cases outcome with
  | untrained stall after stalled =>
      rw [stalled] at said
      have kept : after.aside = before.aside := (keeps_error check_keeps_aside stalled).1.trans rfl
      simp only [Controller.aside, Prod.mk.injEq] at kept
      obtain ⟨bus, lastTransfer, dispatchOffset, -⟩ := kept
      exact ⟨⟨congrArg Prod.snd bus, lastTransfer, dispatchOffset⟩,
        .inl ((Readiness.foretold_error_iff before.forget stall).mp said.symm)⟩
  | refused readiness between checked refuses =>
      rw [checked] at said
      refine ⟨trained_of_answer said.symm, fun unready => ?_⟩
      have proceeds := (proceeds_iff before.forget).mp unready.proceeds
      cases said.trans proceeds
      cases refuses
  | held between checked taken =>
      rw [checked] at said
      obtain ⟨submission, after, ended, -⟩ := keeps_answers (held_channel between.state.ring.index) between
      rw [ended]
      refine ⟨trained_of_answer said.symm, fun unready => ?_⟩
      have ring : between.state.ring = before.state.ring :=
        congrArg (fun aside => aside.2.2.2) (keeps_ok check_keeps_aside checked)
      rw [ring] at taken
      exact Bool.false_ne_true (taken.symm.trans unready.free)
  | accepted between checked free => exact accept_stalls_rightly checked free

end Submission

-- what the gate and the queue look at
def State.gate (state : State) : Bool × Bool × Bool × Bool × Byte × Byte × CommandRing :=
  (state.fault, state.commandActive, state.transferState, state.powerInit, state.submitLog, state.completeLog, state.ring)

theorem foretold_of_gate {one other : Controller Board} (bus : one.bus = other.bus) (gate : one.state.gate = other.state.gate) :
    Readiness.foretold one = Readiness.foretold other := by
  simp only [State.gate, Prod.mk.injEq] at gate
  obtain ⟨fault, command, transfer, power, submitted, completed, -⟩ := gate
  simp only [Readiness.foretold, Readiness.foretoldAtEngine, bus, fault, command, transfer, power, submitted, completed]

theorem link_stalls_of_gate {one other : Controller Board} (bus : one.bus = other.bus) (gate : one.state.gate = other.state.gate) :
    LinkStalls one ↔ LinkStalls other := by
  have stalls (controller : Controller Board) :
      LinkStalls controller ↔ Readiness.foretold controller = .error Readiness.untrained := by
    simp [Readiness.foretold_error_iff]
  rw [stalls, stalls, foretold_of_gate bus gate]

theorem engine_stalls_of_gate {one other : Controller Board} (bus : one.bus = other.bus) (gate : one.state.gate = other.state.gate) :
    EngineStalls one ↔ EngineStalls other := by
  have carry {one other : Controller Board} (bus : one.bus = other.bus) (gate : one.state.gate = other.state.gate)
      (stalls : EngineStalls one) : EngineStalls other := by
    have ring : one.state.ring = other.state.ring := congrArg (fun gate => gate.2.2.2.2.2.2) gate
    refine ⟨?_, ?_, ?_⟩
    · rw [Submission.proceeds_iff, ← foretold_of_gate bus gate]
      exact (Submission.proceeds_iff one).mp stalls.proceeds
    · rw [← ring]
      exact stalls.free
    · rw [← bus]
      exact stalls.unready
  exact ⟨carry bus gate, carry bus.symm gate.symm⟩

namespace StallsRightly

variable {α γ : Type} {before begun : Controller (Recorder Board)}

theorem from_begun {result : EStateM.Result Stall (Controller (Recorder Board)) α} (bus : begun.forget.bus = before.forget.bus)
    (gate : begun.state.gate = before.state.gate) (calm : Undisturbed before begun) (rightly : StallsRightly begun result) :
    StallsRightly before result := by
  have link : LinkStalls begun.forget ↔ LinkStalls before.forget := link_stalls_of_gate bus gate
  have engine : EngineStalls begun.forget ↔ EngineStalls before.forget := engine_stalls_of_gate bus gate
  cases result with
  | ok value after => exact ⟨fun stalls => rightly.1 (link.mpr stalls), fun stalls => rightly.2 (engine.mpr stalls)⟩
  | error stall after =>
      obtain ⟨undisturbed, reason⟩ := rightly
      refine ⟨⟨undisturbed.effects.trans calm.effects, undisturbed.lastTransfer.trans calm.lastTransfer,
        undisturbed.dispatchOffset.trans calm.dispatchOffset⟩, ?_⟩
      exact reason.imp (fun both => ⟨link.mp both.1, both.2⟩) fun all => ⟨engine.mp all.1, all.2⟩

theorem then_answers {view : Controller (Recorder Board) → Unit} {step : BridgeM (Recorder Board) α} {next : α → BridgeM (Recorder Board) γ}
    (rightly : StallsRightly before (step begun)) (answers : ∀ value, Keeps view never (next value)) :
    StallsRightly before ((step >>= next) begun) := by
  cases started : step begun with
  | error stall after =>
      rw [bind_of_error started]
      rwa [started] at rightly
  | ok value between =>
      obtain ⟨answer, after, ended, -⟩ := keeps_answers (answers value) between
      rw [bind_of_ok started, ended]
      rwa [started] at rightly

end StallsRightly

-- The pass comes to a submission: it is not latched, and the status byte asks for an action.
def Submits (controller : Controller Board) : Prop :=
  controller.state.reset = none ∧ controller.bus.peek Reg.Transport.status ∈ [0x28, 0x2A, 0x88, 0x8A]

theorem asks_iff (status : Byte) : status ∈ [0x28, 0x2A, 0x88, 0x8A] ↔ (Action.ofStatus? status).isSome = true := by
  have table : ∀ raw : Fin 256, UInt8.ofFin raw ∈ [(0x28 : Byte), 0x2A, 0x88, 0x8A] ↔ (Action.ofStatus? (UInt8.ofFin raw)).isSome = true := by
    decide +kernel
  exact table status.toFin

theorem classify_stalls_rightly (action : Action) (before : Controller (Recorder Board))
    (asks : Action.ofStatus? (before.bus.bus.peek Reg.Transport.status) = some action) :
    StallsRightly before (Transport.classify before) := by
  have seen : (Bus.read before.bus Reg.Transport.status).1 = before.bus.bus.peek Reg.Transport.status := rfl
  rw [Transport.classify, bind_read, seen, asks]
  have answered (submission : Submission) : Keeps (fun _ => ()) never
      (pure (some submission) : BridgeM (Recorder Board) (Option Submission)) := keeps_pure _ _ _
  refine StallsRightly.then_answers ?_ answered
  refine StallsRightly.from_begun ?_ ?_ ?_ (Submission.submit_stalls_rightly _ _ action _)
  · rfl
  · rfl
  · exact ⟨rfl, rfl, rfl⟩

theorem classify_idle (before : Controller (Recorder Board))
    (idle : Action.ofStatus? (before.bus.bus.peek Reg.Transport.status) = none) :
    ∃ after, Transport.classify before = .ok none after := by
  have seen : (Bus.read before.bus Reg.Transport.status).1 = before.bus.bus.peek Reg.Transport.status := rfl
  rw [Transport.classify, bind_read, seen, idle]
  exact ⟨_, rfl⟩

theorem poll_ends (handler : EndpointHandler η (Recorder Board)) (own : η) (before : Controller (Recorder Board)) :
    (¬ Submits before.forget → ∃ answer after, Controller.poll handler own before = .ok answer after) ∧
      (Submits before.forget → StallsRightly before (Controller.poll handler own before)) := by
  have served (submission : Option Submission) : Keeps (fun _ => ()) never
      (Endpoint.service handler own >>= fun ended => pure (.done submission ended.1, ended.2) :
        BridgeM (Recorder Board) (Pass × η)) :=
    keeps_bind (keeps_coarser (Endpoint.service_keeps handler own) fun _ => ()) fun _ => keeps_pure _ _ _
  unfold Controller.poll
  rw [bind_get_state]
  cases latched : before.state.reset with
  | some request =>
      refine ⟨fun _ => ⟨_, _, rfl⟩, fun submits => ?_⟩
      cases latched.symm.trans submits.1
  | none =>
      dsimp only
      rw [bind_tally]
      constructor
      · intro quiet
        have idle : Action.ofStatus? (before.bus.bus.peek Reg.Transport.status) = none := by
          refine Option.not_isSome_iff_eq_none.mp fun asks => quiet ⟨latched, (asks_iff _).mpr asks⟩
        obtain ⟨between, classified⟩ := classify_idle
          { before with statistics := { before.statistics with passes := countUp before.statistics.passes } } idle
        obtain ⟨answer, after, ended, -⟩ := keeps_answers (served none) between
        exact ⟨answer, after, (bind_of_ok classified _).trans ended⟩
      · intro submits
        obtain ⟨action, asks⟩ := Option.isSome_iff_exists.mp ((asks_iff _).mp submits.2)
        refine StallsRightly.from_begun ?_ ?_ ?_ (StallsRightly.then_answers (classify_stalls_rightly action _ ?_) served)
        · rfl
        · rfl
        · exact ⟨rfl, rfl, rfl⟩
        · exact asks

-- A pass that stalls came to a submission, and its run on a recorder stalls the same way.
theorem poll_stalled {handler : EndpointHandler η Board} {own : η} {controller after : Controller Board} {stall : Stall}
    (ended : Controller.poll handler own controller = .error stall after) :
    ∃ recorded, Controller.poll handler.recorded own controller.recorded = .error stall recorded ∧ recorded.forget = after ∧
      Submits controller ∧
      StallsRightly controller.recorded (.error stall recorded : EStateM.Result Stall (Controller (Recorder Board)) (Pass × η)) := by
  obtain ⟨quiet, rightly⟩ := poll_ends handler.recorded own controller.recorded
  have same := (Controller.poll_records handler own).same controller.recorded
  rw [show Controller.poll handler own controller.recorded.forget = _ from ended] at same
  cases run : Controller.poll handler.recorded own controller.recorded with
  | ok answer recorded =>
      rw [run] at same
      cases same
  | error reason recorded =>
      rw [run] at same
      cases same
      have submits : Submits controller := by
        by_contra not
        obtain ⟨answer, other, answered⟩ := quiet not
        cases run.symm.trans answered
      have held := rightly submits
      rw [run] at held
      exact ⟨recorded, rfl, rfl, submits, held⟩

theorem poll_stalls {controller : Controller Board} (handler : EndpointHandler η Board) (own : η)
    (submits : Submits controller) (stalls : LinkStalls controller ∨ EngineStalls controller) :
    ∃ stall after, Controller.poll handler own controller = .error stall after := by
  have rightly := (poll_ends handler.recorded own controller.recorded).2 submits
  have same := (Controller.poll_records handler own).same controller.recorded
  cases run : Controller.poll handler.recorded own controller.recorded with
  | error stall recorded =>
      rw [run] at same
      exact ⟨stall, recorded.forget, same.symm⟩
  | ok answer recorded =>
      rw [run] at rightly
      exact (stalls.elim rightly.1 rightly.2).elim

theorem service_rounds_bounded {β : Type} [Bus β] (handler : EndpointHandler η β) (rounds : Nat) :
    ∀ own before handled own' after, Endpoint.serviceRounds handler rounds own before = .ok (handled, own') after → handled ≤ rounds := by
  induction rounds with
  | zero =>
      rintro own before handled own' after ⟨⟩
      exact Nat.le_refl 0
  | succ rounds ih =>
      intro own before handled own' after ended
      obtain ⟨ready, between, _, ended⟩ := ok_of_bind ended
      cases ready with
      | none =>
          cases ended
          omega
      | some found =>
          obtain ⟨moved, served, _, ended⟩ := ok_of_bind ended
          obtain ⟨⟨fewer, last⟩, finished, rest, ended⟩ := ok_of_bind ended
          have bound := ih moved served fewer last finished rest
          cases ended
          omega

-- No sum of the core wraps around, and no row lies outside its table. Slots, groups and endpoints are
-- bounded by their types.
structure ExactSums : Prop where
  slots : ∀ (index : SlotIndex) (offset : Address), offset.toNat < 4 →
    (index.registers + offset).toNat = 0xC100 + 4 * index.val + offset.toNat
  tags : ∀ i < Reg.Dma.tagLength, (Reg.Dma.tag + UInt16.ofNat i).toNat = Reg.Dma.tag.toNat + i
  groups : ∀ group : EndpointIndex, group.groupRegister.toNat = Reg.Endpoint.base.toNat + group.val
  offsets : ∀ group endpoint : EndpointIndex, (EndpointIndex.offset group endpoint).toNat = 8 * group.val + endpoint.val
  windows : ∀ event counter, (Completion.window event counter).toNat = (if event = 0 then 0xB100 else 0xB180) + 4 * counter.toNat
  rows : ∀ status : Byte, (status &&& 7).toNat < 8 ∧ (status &&& 3).toNat < 4
  rounds : ∀ {η β : Type} [Bus β] (handler : EndpointHandler η β) (own own' : η) (before after : Controller β)
    (summary : ServiceSummary), Endpoint.service handler own before = .ok (summary, own') after → summary.handled ≤ 32

theorem exact_sums : ExactSums where
  slots := fun index _ small => index.registers_to_nat small
  tags := by decide +kernel
  groups := by decide +kernel
  offsets := EndpointIndex.offset_to_nat
  windows := Completion.window_to_nat
  rows := by
    intro status
    have table : ∀ raw : Fin 256, (UInt8.ofFin raw &&& 7).toNat < 8 ∧ (UInt8.ofFin raw &&& 3).toNat < 4 := by decide +kernel
    exact table status.toFin
  rounds := by
    intro η β _ handler own own' before after summary ended
    obtain ⟨⟨handled, last⟩, between, served, ended⟩ := ok_of_bind ended
    have bound := service_rounds_bounded handler _ own before handled last between served
    dsimp only at ended
    split at ended
    · cases ended
      exact bound
    · cases ended
      exact bound

theorem pass_stalls_at_unanswered_waits (controller : Controller Board) (handler : EndpointHandler η Board) (own : η) :
    let polled := Controller.poll handler own controller
    ((∃ stall after, polled = .error stall after) ↔
      Submits controller ∧ (LinkStalls controller ∨ EngineStalls controller)) ∧
    (∀ stall after, polled = .error stall after →
      (LinkStalls controller ∧ stall = Readiness.untrained ∨
        EngineStalls controller ∧ stall = Transfer.unready ∧
          after.state.transferActive = false ∧ after.state.dmaMode = 0) ∧
      after.state.lastTransfer = controller.state.lastTransfer ∧
      after.state.dispatchOffset = controller.state.dispatchOffset ∧
      after.state.retry = controller.state.retry ∧
      ∀ effect ∈ BridgeM.effects (Controller.poll handler.recorded own) controller, effect.disturbs = false) ∧
    (∀ event, ∃ answer after, Controller.complete event controller = .ok answer after) ∧
    (∃ request after, Controller.takeRetry controller = .ok request after) ∧
    ExactSums := by
  intro polled
  refine ⟨⟨?_, fun ⟨submits, stalls⟩ => poll_stalls handler own submits stalls⟩, ?_, ?_, ⟨_, _, rfl⟩, exact_sums⟩
  · rintro ⟨stall, after, ended⟩
    obtain ⟨recorded, -, -, submits, -, reason⟩ := poll_stalled ended
    exact ⟨submits, reason.imp And.left And.left⟩
  · intro stall after ended
    obtain ⟨recorded, run, rfl, -, undisturbed, reason⟩ := poll_stalled ended
    have left := poll_leaves handler own controller
    rw [show Controller.poll handler own controller = _ from ended] at left
    refine ⟨reason, undisturbed.lastTransfer, undisturbed.dispatchOffset, congrArg RetryChannel.pending left, fun effect made => ?_⟩
    have made : effect ∈ recorded.bus.effects := by
      rw [BridgeM.effects, run] at made
      exact List.mem_reverse.mp made
    have none : recorded.bus.effects.filter Effect.disturbs = [] := undisturbed.effects
    exact Bool.eq_false_iff.mpr fun disturbs => List.filter_eq_nil_iff.mp none effect made disturbs
  · intro event
    obtain ⟨answer, after, ended, -⟩ := keeps_answers (complete_channel event) controller
    exact ⟨answer, after, ended⟩

end StorageBridge
