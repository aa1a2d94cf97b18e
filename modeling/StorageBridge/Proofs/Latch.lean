import StorageBridge.Proofs.Footprints
import StorageBridge.Proofs.Simulation

/-!
The flash-control latch. It closes with the first completion that answers with a reset request and
stays closed: the trigger register is written in that step only, right after the target, and nothing
follows.
-/

set_option autoImplicit false

namespace StorageBridge

open BridgeM Recorder

variable {η β : Type}

-- the transition that fired, the target sent to flash control last, and how many fired
structure Latch where
  reset : Option ResetRequest
  target : Byte
  resets : UInt32

def Controller.latch (controller : Controller β) : Latch :=
  { reset := controller.state.reset
    target := controller.state.flashTarget
    resets := controller.statistics.resets }

def latchOf (rest : Settings × State × Statistics) : Latch :=
  { reset := rest.2.1.reset, target := rest.2.1.flashTarget, resets := rest.2.2.resets }

def Answer.reset? : Answer → Option ResetRequest
  | .completed (.ok (.reset request)) => some request
  | _ => none

namespace Effect

def trigger (value : Byte) : Effect :=
  .operation (.write Reg.Flash.control value)

def flash (request : ResetRequest) : List Effect :=
  [.operation (.write Reg.Flash.target request.target), trigger Reg.Flash.go]

def Untriggered (effects : List Effect) : Prop :=
  ∀ value, trigger value ∉ effects

theorem untriggered_append {earlier later : List Effect} (first : Untriggered earlier) (second : Untriggered later) :
    Untriggered (earlier ++ later) := by
  intro value member
  rcases List.mem_append.mp member with member | member
  · exact first value member
  · exact second value member

end Effect

open Effect

theorem untriggered_of_reaches [Bus β] {touched : Address → Prop} {calls : Byte → β → β → Prop} {before after : Recorder β}
    (apart : ¬ touched Reg.Flash.control) (empty : before.effects = []) (reached : Reaches touched calls before after) :
    Untriggered after.effects.reverse := by
  obtain ⟨made, grown, within⟩ := effects_within reached
  intro value member
  rw [grown, empty, List.append_nil, List.mem_reverse] at member
  exact apart (within _ member)

namespace Controller

theorem flash_apart_from_pass : ¬ PassTouches Reg.Flash.control := by
  unfold PassTouches
  decide

variable [Bus β]

theorem poll_keeps_latch (handler : EndpointHandler η β) (own : η) :
    Keeps latch Submission.Stalls (poll handler own) := by
  have classifies : Keeps latch Submission.Stalls (Transport.classify : BridgeM β (Option Submission)) :=
    keeps_coarser Transport.classify_keeps latchOf
  have serves (own : η) : Keeps latch never (Endpoint.service handler own) :=
    keeps_coarser (Endpoint.service_keeps handler own) latchOf
  refine keeps_bind ⟨fun _ => rfl⟩ fun state => ?_
  split
  · exact keeps_pure _ _ _
  · refine keeps_bind ⟨fun _ => rfl⟩ fun _ => keeps_bind classifies fun submission => ?_
    exact keeps_bind (keeps_with_stalls (serves _) fun _ => False.elim) fun _ => keeps_pure _ _ _

end Controller

namespace Completion

-- a completion up to the point where it decides, with the flags that the window showed and the counter
def inspect [Bus β] (event : Byte) : BridgeM β (Byte × Byte) := do
  modifyState fun state => { state with pendingEvent := event }
  let counter ← updateCounter
  pulseLatch
  let flags ← windowFlags event counter
  pure (flags, counter)

def conclude [Bus β] (event flags counter : Byte) : BridgeM β Completion := do
  let state ← getState
  if flags = state.expectedFlags then retire event else flashControl (resetTarget event flags counter)

theorem flash_apart : ¬ Touches Reg.Flash.control := by
  rintro (same | ⟨event, counter, same⟩)
  · exact absurd same (by decide)
  · have shown := congrArg UInt16.toNat same
    rw [window_to_nat] at shown
    have flash : Reg.Flash.control.toNat = 0xA001 := rfl
    split at shown <;> omega

variable [Bus β]

theorem handle_concludes (event : Byte) (before : Controller β) :
    handle event before = (inspect event >>= fun seen => conclude event seen.1 seen.2) before := by
  simp only [inspect, bind_assoc, pure_bind]
  rfl

theorem inspect_records {calls : Byte → β → β → Prop} (event : Byte) :
    Records Touches calls (inspect event : BridgeM (Recorder β) (Byte × Byte)) (inspect event) := by
  refine records_bind (records_silent (fun _ => rfl) fun _ => rfl) fun _ => records_bind update_counter_records fun counter => ?_
  exact records_bind pulse_latch_records fun _ => records_bind (window_flags_records _ _) fun _ => records_pure _

theorem inspect_keeps_latch (event : Byte) : Keeps Controller.latch never (inspect event : BridgeM β (Byte × Byte)) := by
  have shows (event counter : Byte) : Keeps Controller.latch never (windowFlags event counter : BridgeM β Byte) :=
    keeps_coarser (window_flags_keeps_state event counter) latchOf
  refine keeps_bind ⟨fun _ => rfl⟩ fun _ => keeps_bind ⟨fun _ => rfl⟩ fun counter => keeps_bind ⟨fun _ => rfl⟩ fun _ => ?_
  exact keeps_bind (shows _ _) fun _ => keeps_pure _ _ _

-- How a completion ends over a recorder: with a slot retired, or with the transition fired as the last
-- thing that happens.
inductive Handled (before : Controller (Recorder β)) : EStateM.Result Stall (Controller (Recorder β)) Completion → Prop where
  | retired (slot : SlotIndex) (after : Controller (Recorder β)) (kept : after.latch = before.latch)
      (reached : Reaches Touches (fun _ _ _ => False) before.bus after.bus) : Handled before (.ok (.completed slot) after)
  | fired (request : ResetRequest) (between : Recorder β) (after : Controller (Recorder β))
      (latch : after.latch = { reset := some request, target := request.target, resets := countUp before.latch.resets })
      (reached : Reaches Touches (fun _ _ _ => False) before.bus between)
      (effects : after.bus.effects = (flash request).reverse ++ between.effects) :
      Handled before (.ok (.reset request) after)

theorem handle_handled (event : Byte) (before : Controller (Recorder β)) : Handled before (handle event before) := by
  obtain ⟨⟨flags, counter⟩, shown, inspected, kept⟩ := keeps_answers (inspect_keeps_latch event) before
  have inspects : Records Touches (fun _ _ _ => False) (inspect event : BridgeM (Recorder β) (Byte × Byte)) (inspect event) :=
    inspect_records event
  have reached := inspects.reaches before
  rw [inspected] at reached
  rw [handle_concludes, bind_of_ok inspected]
  unfold conclude
  rw [bind_get_state]
  dsimp only
  by_cases expected : flags = shown.state.expectedFlags
  · rw [if_pos expected]
    have keeps : Keeps Controller.latch never (retire event : BridgeM (Recorder β) Completion) :=
      keeps_coarser (retire_keeps event) latchOf
    have retires : Records Touches (fun _ _ _ => False) (retire event : BridgeM (Recorder β) Completion) (retire event) :=
      retire_records event
    obtain ⟨completion, after, retired, rfl, -⟩ := retire_ledger event shown
    have onward := retires.reaches shown
    rw [retired] at onward ⊢
    exact .retired _ after ((keeps_ok keeps retired).trans kept) (reaches_trans reached onward)
  · rw [if_neg expected]
    refine .fired { target := resetTarget event flags counter } shown.bus _ ?_ reached rfl
    rw [← kept]
    rfl

end Completion

variable [Bus β]

namespace Controller

variable {controller : Controller β} {request : ResetRequest}

theorem poll_of_latched (latched : controller.state.reset = some request) (handler : EndpointHandler η β) (own : η) :
    poll handler own controller = .ok (.latched request, own) controller := by
  unfold poll
  rw [bind_get_state, latched]
  rfl

theorem complete_of_latched (latched : controller.state.reset = some request) (event : Byte) :
    complete event controller = .ok (.error .resetLatched) controller := by
  unfold complete
  rw [bind_get_state, latched]
  rfl

theorem complete_of_unlatched (unlatched : controller.state.reset = none) (event : Byte) :
    complete event controller = (Completion.handle event >>= fun completion => pure (.ok completion)) controller := by
  unfold complete
  rw [bind_get_state, unlatched]

end Controller

-- What a step does to the latch and to flash control.
inductive Turns (step : Step β) : Prop where
  | quiet (kept : step.after.latch = step.before.latch) (unasked : step.answer.reset? = none)
      (untriggered : Untriggered step.effects) (silent : ∀ request, step.before.state.reset = some request → step.effects = [])
  | fired (request : ResetRequest) (earlier : List Effect) (unlatched : step.before.state.reset = none)
      (asked : step.answer.reset? = some request)
      (latch : step.after.latch =
        { reset := some request, target := request.target, resets := countUp step.before.statistics.resets })
      (effects : step.effects = earlier ++ flash request) (untriggered : Untriggered earlier)

theorem pass_turns (before : Controller β) (handler : EndpointHandler η β) (own : η) :
    Turns { before, event := .pass handler own } := by
  let result := Controller.poll handler.recorded own before.recorded
  have ended : Step.recorded { before, event := .pass handler own } = Answer.ofResult (fun answer => .passed answer.1) result :=
    rfl
  have kept : (Controller.poll handler own before |> ending).latch = before.latch :=
    keeps_ending (Controller.poll_keeps_latch handler own) before
  have reached := (Controller.poll_records handler own).reaches before.recorded
  refine .quiet ?_ ?_ ?_ fun request latched => ?_
  · exact (congrArg Controller.latch (outcome_ending _ _)).trans kept
  · change (Answer.ofResult _ (Controller.poll handler own before)).1.reset? = none
    cases Controller.poll handler own before with
    | ok answer after => rfl
    | error stall after => rfl
  · unfold Step.effects
    rw [ended, outcome_ending]
    exact untriggered_of_reaches Controller.flash_apart_from_pass rfl reached
  · have closed : before.recorded.state.reset = some request := latched
    have idle : result = .ok (.latched request, own) before.recorded :=
      Controller.poll_of_latched closed handler.recorded own
    unfold Step.effects
    rw [ended, idle]
    rfl

theorem Step.latch_recorded (step : Step β) : step.after.latch = step.recorded.2.latch := by
  obtain ⟨-, same⟩ := step.recorded_same
  rw [← same]
  rfl

theorem completion_turns_latched {before : Controller β} {request : ResetRequest} (latched : before.state.reset = some request)
    (event : Byte) : Turns { before, event := .completion event } := by
  let step : Step β := { before, event := .completion event }
  have closed : before.recorded.state.reset = some request := latched
  have ended : step.recorded = Answer.ofResult .completed (Controller.complete event before.recorded) := rfl
  rw [Controller.complete_of_latched closed] at ended
  have effects : step.effects = [] := by
    rw [Step.effects, ended]
    rfl
  refine .quiet ?_ ?_ ?_ fun _ _ => effects
  · rw [step.latch_recorded, ended]
    rfl
  · rw [← step.recorded_same.1, ended]
    rfl
  · rw [effects]
    exact fun _ => List.not_mem_nil

theorem completion_turns_unlatched {before : Controller β} (unlatched : before.state.reset = none) (event : Byte) :
    Turns { before, event := .completion event } := by
  let step : Step β := { before, event := .completion event }
  have answered := step.recorded_same.1
  have closed : before.recorded.state.reset = none := unlatched
  have ended : step.recorded = Answer.ofResult .completed (Controller.complete event before.recorded) := rfl
  rw [Controller.complete_of_unlatched closed] at ended
  have handled := Completion.handle_handled event before.recorded
  cases finished : Completion.handle event before.recorded with
  | error stall after =>
      rw [finished] at handled
      cases handled
  | ok completion after =>
      rw [finished] at handled
      rw [bind_of_ok finished] at ended
      cases handled with
      | retired slot _ kept reached =>
          refine .quiet ?_ ?_ ?_ fun request latched => by cases unlatched.symm.trans latched
          · rw [step.latch_recorded, ended]
            exact kept
          · rw [← answered, ended]
            rfl
          · rw [Step.effects, ended]
            exact untriggered_of_reaches Completion.flash_apart rfl reached
      | fired request between _ turned reached made =>
          refine .fired request between.effects.reverse unlatched ?_ ?_ ?_
            (untriggered_of_reaches Completion.flash_apart rfl reached)
          · rw [← answered, ended]
            rfl
          · rw [step.latch_recorded, ended]
            exact turned
          · have shown : step.effects = after.bus.effects.reverse := by
              rw [Step.effects, ended]
              rfl
            rw [shown, made, List.reverse_append, List.reverse_reverse]

theorem step_turns (step : Step β) : Turns step := by
  obtain ⟨before, event⟩ := step
  cases event with
  | pass handler own => exact pass_turns before handler own
  | completion event =>
      cases status : before.state.reset with
      | some request => exact completion_turns_latched status event
      | none => exact completion_turns_unlatched status event
  | takeRetry => exact .quiet rfl rfl (fun _ => List.not_mem_nil) fun _ _ => rfl
  | flags fault commandActive transferState powerInit => exact .quiet rfl rfl (fun _ => List.not_mem_nil) fun _ _ => rfl
  | hardware bus => exact .quiet rfl rfl (fun _ => List.not_mem_nil) fun _ _ => rfl

theorem Run.effects_extend (run : Run β) (event : Event β) :
    (run.extend event).effects = run.effects ++ Step.effects { before := run.controller, event } := by
  simp [Run.effects, Run.extend]

-- what the latch of a run tells about its history
structure Latching (run : Run β) : Prop where
  first : run.controller.state.reset = run.history.findSome? fun step => step.answer.reset?
  count : run.controller.statistics.resets = if run.controller.state.reset.isSome then 1 else 0
  unlatched : run.controller.state.reset = none → Untriggered run.effects
  latched : ∀ request, run.controller.state.reset = some request → run.controller.state.flashTarget = request.target ∧
    ∃ earlier, run.effects = earlier ++ flash request ∧ Untriggered earlier

theorem Latching.extend {run : Run β} (latching : Latching run) (event : Event β) : Latching (run.extend event) := by
  let step : Step β := { before := run.controller, event }
  have asked : (run.extend event).history.findSome? (fun step => step.answer.reset?) =
      (run.history.findSome? fun step => step.answer.reset?).or step.answer.reset? := by
    simp [Run.extend, step, List.findSome?_append]
  have effects : (run.extend event).effects = run.effects ++ step.effects := run.effects_extend event
  cases step_turns step with
  | quiet kept unasked untriggered silent =>
      have reset : (run.extend event).controller.state.reset = run.controller.state.reset := congrArg Latch.reset kept
      have target : (run.extend event).controller.state.flashTarget = run.controller.state.flashTarget :=
        congrArg Latch.target kept
      have resets : (run.extend event).controller.statistics.resets = run.controller.statistics.resets :=
        congrArg Latch.resets kept
      refine ⟨?_, ?_, fun none => ?_, fun request latched => ?_⟩
      · rw [reset, asked, unasked, Option.or_none]
        exact latching.first
      · rw [resets, reset]
        exact latching.count
      · rw [effects]
        exact untriggered_append (latching.unlatched (reset.symm.trans none)) untriggered
      · rw [reset] at latched
        rw [target, effects, silent request latched, List.append_nil]
        exact latching.latched request latched
  | fired request earlier unlatched answered latch made untriggered =>
      have before : run.controller.state.reset = none := unlatched
      have reset : (run.extend event).controller.state.reset = some request := congrArg Latch.reset latch
      have target : (run.extend event).controller.state.flashTarget = request.target := congrArg Latch.target latch
      have resets : (run.extend event).controller.statistics.resets = countUp run.controller.statistics.resets :=
        congrArg Latch.resets latch
      refine ⟨?_, ?_, fun none => ?_, fun other latched => ?_⟩
      · rw [reset, asked, answered, ← latching.first, before]
        rfl
      · rw [resets, reset, latching.count, before]
        rfl
      · rw [reset] at none
        cases none
      · rw [reset] at latched
        cases latched
        refine ⟨target, run.effects ++ earlier, ?_, untriggered_append (latching.unlatched before) untriggered⟩
        rw [effects, made, List.append_assoc]

theorem run_latching (bus : β) (settings : Settings) (events : List (Event β)) :
    Latching (Run.of (Controller.start bus settings) events) := by
  refine Run.run_induction Latching (Controller.start bus settings) ⟨rfl, rfl, ?_, ?_⟩ (fun _ event latching => latching.extend event) events
  · exact fun _ _ => List.not_mem_nil
  · intro request latched
    cases latched

theorem flash_transition_latches_once (bus : β) (settings : Settings) (events : List (Event β)) :
    let run := Run.of (Controller.start bus settings) events
    let controller := run.controller
    controller.state.reset = (run.history.findSome? fun step => step.answer.reset?) ∧
    controller.statistics.resets = (if controller.state.reset.isSome then 1 else 0) ∧
    (controller.state.reset = none → ∀ value, .operation (.write Reg.Flash.control value) ∉ run.effects) ∧
    ∀ request, controller.state.reset = some request →
      controller.state.flashTarget = request.target ∧
      (∃ earlier, run.effects = earlier ++
          [.operation (.write Reg.Flash.target request.target), .operation (.write Reg.Flash.control Reg.Flash.go)] ∧
        ∀ value, .operation (.write Reg.Flash.control value) ∉ earlier) ∧
      (∀ (η : Type) (handler : EndpointHandler η β) (own : η),
        Controller.poll handler own controller = .ok (.latched request, own) controller) ∧
      (∀ event, Controller.complete event controller = .ok (.error .resetLatched) controller) ∧
      Controller.takeRetry controller =
        .ok controller.state.retry { controller with state := { controller.state with retry := none } } := by
  intro run controller
  obtain ⟨first, count, unlatched, latched⟩ := run_latching bus settings events
  refine ⟨first, count, unlatched, fun request closed => ?_⟩
  obtain ⟨target, effects⟩ := latched request closed
  exact ⟨target, effects, fun _ handler own => Controller.poll_of_latched closed handler own,
    Controller.complete_of_latched closed, rfl⟩

end StorageBridge
