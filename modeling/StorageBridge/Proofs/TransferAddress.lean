import StorageBridge.Proofs.InFlight
import StorageBridge.Proofs.TransferTrace

/-!
Which address a transfer uses. The flags that the action reads decide: mirrored buffers are taken at
the window that the last simple action picked, any other address is the one that the hardware reports
at that moment. While a command state is active the check drops a flag first.
-/

set_option autoImplicit false

namespace StorageBridge

open BridgeM

variable {η β : Type} [Bus β]

open Transfer (addressRegisters seen)

namespace Submission

open Transfer

-- How a taken action comes to the address of its transfer, over a recorder.
structure Locates (before : Controller (Recorder β)) (action : Action) (looked filled : Recorder β) (transfer : Transfer)
    (after : Controller (Recorder β)) : Prop where
  approach : Roams addressRegisters before.bus looked
  reads : Roams addressRegisters (Readiness.gated before.state.commandActive looked) filled
  sources : ∃ sourced again,
    Sourced ((Bus.read filled Reg.Transport.flags).1.meets 0x06) (bufferWindow before.state.bufferBase action)
      before.state.ring.index.toByte transfer.mode transfer.base sourced ∧
    seen after = seen before ++ Readiness.gateEffects before.state.commandActive (Bus.read looked Reg.Transport.flags).1 ++
      [.operation (.read Reg.Transport.flags (Bus.read filled Reg.Transport.flags).1)] ++
      sourced ++ programming transfer again
  last : after.state.lastTransfer = some transfer

theorem submit_locates {param1 param2 : Byte} {action : Action} {before after : Controller (Recorder β)}
    {submission : Submission} (submitted : submit param1 param2 action before = .ok submission after)
    (accepts : submission.accepts = true) : ∃ looked filled transfer, Locates before action looked filled transfer after := by
  have outcome := submit_outcome param1 param2 action before
  generalize submit param1 param2 action before = result at outcome submitted
  cases outcome with
  | untrained stall stalled failed => cases submitted
  | refused readiness between checked refuses =>
      cases submitted
      cases accepts
  | held between checked taken =>
      obtain ⟨transferring, _, answered, -⟩ := held_answers between.state.ring.index between
      obtain ⟨rfl, -⟩ := EStateM.Result.ok.inj (answered.symm.trans submitted)
      cases transferring <;> cases accepts
  | accepted between checked free =>
      have kept : Readiness.untouched between = Readiness.untouched (marked action before) :=
        keeps_ok Readiness.check_keeps checked
      have index : between.state.ring.index = before.state.ring.index := congrArg (fun rest => rest.2.1.ring.index) kept
      have base : between.state.bufferBase = before.state.bufferBase := congrArg (fun rest => rest.2.1.bufferBase) kept
      have unfaulted : (marked action before).state.fault = false := Readiness.unfaulted_of_checked checked (by decide)
      obtain ⟨looked, approach, gate⟩ := Readiness.check_gates (marked action before) unfaulted
      rw [checked] at gate
      change Roams addressRegisters (Readiness.gated before.state.commandActive looked) between.bus at gate
      obtain ⟨filled, transfer, sourced, again, fills, sources, grown, last⟩ := accept_seen submitted
      rw [index, base] at sources
      refine ⟨looked, filled, transfer, approach, roams_trans gate fills, ⟨sourced, again, sources, ?_⟩, last⟩
      have checkSeen : seen between =
          seen before ++ Readiness.gateEffects before.state.commandActive (Bus.read looked Reg.Transport.flags).1 := by
        unfold seen
        rw [Recorder.roams_seen gate, Readiness.gated_seen, Recorder.roams_seen approach]
        rfl
      rw [grown, checkSeen]

end Submission

open Submission (Locates bufferWindow)

theorem heard_roams (bus : β) : Roams addressRegisters bus (Transport.heard bus) := by
  unfold Transport.heard
  exact .read _ (by decide) (.read _ (by decide) (.read _ (by decide) (.read _ (by decide) (.read _ (by decide) .refl))))

theorem locates_of_begins {before begun after : Controller (Recorder β)} {action : Action} {looked filled : Recorder β}
    {transfer : Transfer} (begins : Transport.Begins before begun)
    (locates : Locates begun action looked filled transfer after) : Locates before action looked filled transfer after := by
  obtain ⟨coreState, state⟩ := begins.state
  have heard : Roams addressRegisters before.bus begun.bus := begins.bus ▸ heard_roams before.bus
  obtain ⟨approach, reads, ⟨sourced, again, sources, grown⟩, last⟩ := locates
  rw [state] at reads sources grown
  have begunSeen : seen begun = seen before := Recorder.roams_seen heard
  rw [begunSeen] at grown
  exact ⟨roams_trans heard approach, reads, ⟨sourced, again, sources, grown⟩, last⟩

theorem locates_of_served {handler : EndpointHandler η β} {own own' : η} {endpoints : ServiceSummary} {action : Action}
    {before between after : Controller (Recorder β)} {looked filled : Recorder β} {transfer : Transfer}
    (locates : Locates before action looked filled transfer between)
    (served : Endpoint.service handler.recorded own between = .ok (endpoints, own') after) :
    Locates before action looked filled transfer after := by
  obtain ⟨approach, reads, ⟨sourced, again, sources, grown⟩, last⟩ := locates
  have kept := keeps_ok (Endpoint.service_keeps handler.recorded own) served
  refine ⟨approach, reads, ⟨sourced, again, sources, ?_⟩, ?_⟩
  · rw [Endpoint.service_seen served, grown]
  · exact (congrArg (fun rest => rest.2.1.lastTransfer) kept).trans last

omit [Bus β] in
theorem accepted_of_asked {asked request : Request} {taken handsOff handedOff : Bool}
    (happened : Happening.ofRequest (some asked) taken handsOff = .accepted request handedOff) :
    asked = request ∧ taken = true ∧ handsOff = handedOff := by
  cases taken with
  | true =>
      obtain ⟨rfl, rfl⟩ := Happening.accepted.inj happened
      exact ⟨rfl, rfl, rfl⟩
  | false => cases happened

theorem completion_accepts_nothing (event : Byte) (before : Controller β) :
    (Step.happening { before, event := .completion event }).accepted? = none := by
  unfold Step.happening
  generalize Step.answer { before, event := .completion event } = answer
  cases answer with
  | completed result =>
      cases result with
      | ok completion => cases completion <;> rfl
      | error failure => rfl
  | _ => rfl

-- An accepted action that was handed off is one that its pass answered.
theorem step_locates {step : Step β} {request : Request} (accepted : step.happening = .accepted request true) :
    ∃ looked filled transfer, Locates step.before.recorded request.action looked filled transfer step.recorded.2 := by
  have same := step.recorded_same.1
  obtain ⟨before, event⟩ := step
  cases event with
  | pass handler own =>
      let step : Step β := { before, event := .pass handler own }
      obtain ⟨result, passed, answer, after⟩ := Controller.pass_step handler.recorded own before.recorded
      have happened : step.event.happening (Transport.request? before.bus) step.answer = .accepted request true := accepted
      rw [show step.answer = _ from same.symm.trans answer] at happened
      rw [show step.recorded.2 = _ from after]
      cases passed with
      | latched reset closed => cases happened
      | idle between after endpoints own' unlatched unasked settings state served => cases happened
      | answered asked begun between after submission endpoints own' unlatched requested begins submitted served =>
          have here : Transport.request? before.bus = some asked := requested
          change Happening.ofRequest (Transport.request? before.bus) submission.accepts true = _ at happened
          rw [here] at happened
          obtain ⟨rfl, accepts, -⟩ := accepted_of_asked happened
          obtain ⟨looked, filled, transfer, locates⟩ := Submission.submit_locates submitted accepts
          exact ⟨looked, filled, transfer, locates_of_served (locates_of_begins begins locates) served⟩
      | stalled asked begun after stall unlatched requested begins submitted =>
          have here : Transport.request? before.bus = some asked := requested
          change Happening.ofRequest (Transport.request? before.bus) (decide (stall = Transfer.unready)) false = _ at happened
          rw [here] at happened
          cases (accepted_of_asked happened).2.2
  | completion event =>
      have nothing := completion_accepts_nothing event before
      rw [accepted] at nothing
      cases nothing
  | takeRetry => cases accepted
  | flags fault commandActive transferState powerInit => cases accepted
  | hardware bus => cases accepted

theorem gated_plain {among : β → Prop} {held : β → Byte} (plain : Plain Reg.Transport.flags among held) (command : Bool)
    {looked : β} (here : among looked) :
    among (Readiness.gated command looked) ∧ held (Readiness.gated command looked) =
      if command then (held looked).revise Reg.Transport.secondary 0 else held looked := by
  cases command with
  | true =>
      have written := plain.write _ Reg.Transport.flags
        ((Bus.read looked Reg.Transport.flags).1.revise Reg.Transport.secondary 0) (plain.read looked Reg.Transport.flags here).1
      rw [if_pos rfl] at written
      refine ⟨written.1, written.2.trans ?_⟩
      rw [plain.shows looked here, if_pos rfl]
  | false => exact ⟨here, rfl⟩

theorem flags_of_plain {among : β → Prop} {held : β → Byte} (plain : Plain Reg.Transport.flags among held)
    {before after : Controller (Recorder β)} {action : Action} {looked filled : Recorder β} {transfer : Transfer}
    (locates : Locates before action looked filled transfer after) (here : among before.bus.bus) :
    (Bus.read filled Reg.Transport.flags).1 =
      if before.state.commandActive then (held before.bus.bus).revise Reg.Transport.secondary 0 else held before.bus.bus := by
  have watching : Reg.Transport.flags ∈ addressRegisters := by decide
  obtain ⟨atLink, same⟩ := roams_plain plain watching (Recorder.roams_beneath locates.approach) here
  have beneath : (Readiness.gated before.state.commandActive looked).bus =
      Readiness.gated before.state.commandActive looked.bus := by
    cases before.state.commandActive with
    | true => rfl
    | false => rfl
  have reads := Recorder.roams_beneath locates.reads
  rw [beneath] at reads
  obtain ⟨gate, revised⟩ := gated_plain plain before.state.commandActive atLink
  obtain ⟨atFlags, kept⟩ := roams_plain plain watching reads gate
  calc (Bus.read filled Reg.Transport.flags).1 = held filled.bus := plain.shows filled.bus atFlags
    _ = held (Readiness.gated before.state.commandActive looked.bus) := kept
    _ = _ := by rw [revised, same]

namespace Submission

-- The buffers are picked whether or not the engine becomes idle.
theorem accept_picks (index : SlotIndex) (param1 param2 : Byte) (action : Action) (before : Controller β) :
    (ending (accept index param1 param2 action before)).state.bufferBase = bufferWindow before.state.bufferBase action := by
  obtain ⟨filled, prepared, prepares, -, -, picked⟩ := prepare_reads index param1 param2 action before
  let base (controller : Controller β) := controller.state.bufferBase
  let flags := flagsFor action (Bus.read filled Reg.Transport.flags).1
  have programs : Keeps base (· = Transfer.unready) (Transfer.program flags index.toByte : BridgeM β Transfer) :=
    keeps_coarser (Transfer.program_keeps _ _) fun rest => rest.2.1.bufferBase
  have hands : Keeps base (· = Transfer.unready) (handOff : BridgeM β Unit) :=
    keeps_coarser (hand_off_keeps _) fun rest => rest.2.1.bufferBase
  have answers : Keeps base (· = Transfer.unready) (answer action : BridgeM β Submission) := by
    unfold answer
    split
    · exact keeps_pure _ _ _
    · exact keeps_bind ⟨fun _ => rfl⟩ fun _ => keeps_pure _ _ _
  have rest : Keeps base (· = Transfer.unready)
      (transferAndHandOff flags index >>= fun _ => answer action : BridgeM β Submission) :=
    keeps_bind (keeps_bind programs fun _ => keeps_bind ⟨fun _ => rfl⟩ fun _ => hands) fun _ => answers
  rw [accept_prepares, bind_of_ok prepares]
  exact (keeps_ending rest prepared).trans picked

theorem submit_picks (param1 param2 : Byte) (action : Action) (before : Controller β) :
    match submit param1 param2 action before with
    | .ok submission after => after.state.bufferBase =
        if submission.accepts then bufferWindow before.state.bufferBase action else before.state.bufferBase
    | .error stall after => after.state.bufferBase =
        if stall = Transfer.unready then bufferWindow before.state.bufferBase action else before.state.bufferBase := by
  have outcome := submit_outcome param1 param2 action before
  have checkKept := congrArg (fun rest => rest.2.1.bufferBase) (keeps_ending Readiness.check_keeps (marked action before))
  generalize submit param1 param2 action before = result at outcome
  cases outcome with
  | untrained stall after stalled =>
      have ready : stall ≠ Transfer.unready := by
        rw [(keeps_error Readiness.check_keeps stalled).2]
        decide
      rw [stalled] at checkKept
      exact checkKept.trans (if_neg ready).symm
  | refused readiness between checked refuses =>
      rw [checked] at checkKept
      exact checkKept
  | held between checked taken =>
      rw [checked] at checkKept
      obtain ⟨transferring, after, answered, state⟩ := held_answers between.state.ring.index between
      rw [answered]
      have kept : after.state.bufferBase = before.state.bufferBase := by
        rw [state]
        exact checkKept
      cases transferring with
      | true => exact kept
      | false => exact kept
  | accepted between checked free =>
      rw [checked] at checkKept
      change between.state.bufferBase = before.state.bufferBase at checkKept
      have picked := accept_picks between.state.ring.index param1 param2 action between
      have handsOff := accept_ledger { action, param1, param2 } between
      rw [checkKept] at picked
      change HandsOff _ (accept between.state.ring.index param1 param2 action between) at handsOff
      generalize accept between.state.ring.index param1 param2 action between = result at picked handsOff
      cases handsOff with
      | handedOff submission after accepts moved => exact picked.trans (if_pos accepts).symm
      | unready after moved => exact picked

end Submission

def Happening.pick (current : Address) (happening : Happening) : Address :=
  match happening.accepted? with
  | some request => bufferWindow current request.action
  | none => current

omit [Bus β] in
theorem pick_asked (current : Address) (asked : Request) (taken handsOff : Bool) :
    (Happening.ofRequest (some asked) taken handsOff).pick current =
      if taken then bufferWindow current asked.action else current := by
  cases taken with
  | true => rfl
  | false => rfl

theorem pass_picks (handler : EndpointHandler η β) (own : η) (before : Controller β) :
    let step : Step β := { before, event := .pass handler own }
    step.after.state.bufferBase = step.happening.pick before.state.bufferBase := by
  intro step
  obtain ⟨result, passed, answer, ended⟩ := Controller.pass_step handler own before
  have happening : step.happening = step.event.happening (Transport.request? before.bus) step.answer := rfl
  rw [happening, ended, answer]
  have begunBase {begun : Controller β} (begins : Transport.Begins before begun) :
      begun.state.bufferBase = before.state.bufferBase := by
    obtain ⟨_, state⟩ := begins.state
    rw [state]
  have servedBase {own' : η} {endpoints : ServiceSummary} {between after : Controller β}
      (served : Endpoint.service handler own between = .ok (endpoints, own') after) :
      after.state.bufferBase = between.state.bufferBase :=
    congrArg (fun rest => rest.2.1.bufferBase) (keeps_ok (Endpoint.service_keeps handler own) served)
  cases passed with
  | latched request closed => rfl
  | idle between after endpoints own' unlatched unasked settings state served =>
      exact (servedBase served).trans (congrArg State.bufferBase state)
  | answered request begun between after submission endpoints own' unlatched asked begins submitted served =>
      have picked := Submission.submit_picks request.param1 request.param2 request.action begun
      rw [submitted, begunBase begins] at picked
      change after.state.bufferBase =
        (Happening.ofRequest (Transport.request? before.bus) submission.accepts true).pick before.state.bufferBase
      rw [asked, pick_asked, servedBase served]
      exact picked
  | stalled request begun after stall unlatched asked begins submitted =>
      have picked := Submission.submit_picks request.param1 request.param2 request.action begun
      rw [submitted, begunBase begins] at picked
      change after.state.bufferBase =
        (Happening.ofRequest (Transport.request? before.bus) (decide (stall = Transfer.unready)) false).pick
          before.state.bufferBase
      rw [asked, pick_asked]
      simpa only [decide_eq_true_eq] using picked

theorem step_picks (step : Step β) : step.after.state.bufferBase = step.happening.pick step.before.state.bufferBase := by
  obtain ⟨before, event⟩ := step
  cases event with
  | pass handler own => exact pass_picks handler own before
  | completion event =>
      obtain ⟨result, after, ended, kept⟩ := keeps_answers (Controller.complete_keeps event) before
      let step : Step β := { before, event := .completion event }
      have base : step.after.state.bufferBase = before.state.bufferBase := by
        have ends : step.after = after := congrArg (fun result => (Answer.ofResult Answer.completed result).2) ended
        rw [ends]
        exact congrArg (fun rest => rest.2.1.bufferBase) kept
      have nothing : step.happening.accepted? = none := completion_accepts_nothing event before
      change step.after.state.bufferBase = _
      rw [base, Happening.pick, nothing]
  | takeRetry => rfl
  | flags fault commandActive transferState powerInit => rfl
  | hardware bus => rfl

def isSimple (request : Request) : Bool :=
  !request.action.isExtended

-- the buffers that the last simple action picked
def pickedWindow (accepted : List Request) : Address :=
  match (accepted.filter isSimple).getLast? with
  | some request => if request.action.isInbound then Reg.Buffer.alternate else Reg.Buffer.main
  | none => Reg.Buffer.main

omit [Bus β] in
theorem picked_window_snoc (accepted : List Request) (request : Request) :
    pickedWindow (accepted ++ [request]) = bufferWindow (pickedWindow accepted) request.action := by
  unfold pickedWindow bufferWindow
  rw [List.filter_append]
  cases extended : request.action.isExtended with
  | true => simp [isSimple, extended]
  | false => simp [isSimple, extended]

theorem buffer_base_picked (bus : β) (settings : Settings) (events : List (Event β)) :
    let run := Run.of (Controller.start bus settings) events
    run.controller.state.bufferBase = pickedWindow (acceptedRequests run.happenings) := by
  refine Run.run_induction (fun run => run.controller.state.bufferBase = pickedWindow (acceptedRequests run.happenings))
    (Controller.start bus settings) rfl ?_ events
  intro events event ih
  let last : Step β := { before := (Run.of (Controller.start bus settings) events).controller, event }
  change last.after.state.bufferBase = _
  have before : last.before.state.bufferBase = _ := ih
  rw [Run.happenings_extend, acceptedRequests, List.filterMap_append, step_picks last, Happening.pick, before]
  change _ = pickedWindow (_ ++ [last.happening].filterMap Happening.accepted?)
  cases accepted : last.happening.accepted? with
  | some request =>
      rw [List.filterMap_cons_some accepted, List.filterMap_nil]
      exact (picked_window_snoc _ request).symm
  | none =>
      rw [List.filterMap_cons_none accepted, List.filterMap_nil, List.append_nil]
      rfl

omit [Bus β] in
theorem dropped_meets (held : Byte) : (held.revise Reg.Transport.secondary 0).meets 0x06 = held.meets 0x02 := by
  have table : ∀ raw : Fin 256,
      (Byte.revise (UInt8.ofFin raw) Reg.Transport.secondary 0).meets 0x06 = Byte.meets (UInt8.ofFin raw) 0x02 := by
    decide +kernel
  exact table held.toFin

theorem transfer_address_follows_flags_and_history (bus : β) (settings : Settings) (events : List (Event β)) :
    ∀ (earlier : List (Step β)) (step : Step β) (later : List (Step β)) (request : Request),
      (Run.of (Controller.start bus settings) events).history = earlier ++ step :: later →
      step.happening = .accepted request true →
      let before := step.before.state
      let window := pickedWindow (acceptedRequests (earlier.map Step.happening) ++ [request])
      ∃ (shown raw : Byte) (transfer : Transfer) (sourced : List Effect) (again : Nat),
        step.after.state.lastTransfer = some transfer ∧
        step.effects.filter (Effect.concerns addressRegisters) =
          Readiness.gateEffects before.commandActive shown ++ [.operation (.read Reg.Transport.flags raw)] ++ sourced ++
            transfer.programming again ∧
        (raw.meets 0x06 = true → sourced = [] ∧ transfer.base = window ∧ transfer.mode = 0x20) ∧
        (raw.meets 0x06 = false → ∃ low high, sourced = Transfer.hardwareReads low high ∧
          transfer.base = Address.ofBytes low high ∧ transfer.mode = before.ring.index.toByte ||| 0x80) ∧
        ∀ (among : β → Prop) (held : β → Byte), Plain Reg.Transport.flags among held → among step.before.bus →
          raw = (if before.commandActive then (held step.before.bus).revise Reg.Transport.secondary 0
            else held step.before.bus) ∧
          (before.commandActive = true → (raw.meets 0x06 = true ↔ (held step.before.bus).meets 0x02 = true)) := by
  intro earlier step later request split accepted before window
  obtain ⟨looked, filled, transfer, locates⟩ := step_locates accepted
  obtain ⟨sourced, again, sources, grown⟩ := locates.sources
  obtain ⟨sooner, begins⟩ := Run.step_begins (Controller.start bus settings) events earlier step later split
  have picked : bufferWindow before.bufferBase request.action = window := by
    have base := buffer_base_picked bus settings sooner
    rw [begins] at base
    change before.bufferBase = pickedWindow (acceptedRequests (earlier.map Step.happening)) at base
    rw [base, ← picked_window_snoc]
  change Transfer.Sourced _ (bufferWindow before.bufferBase request.action) before.ring.index.toByte _ _ _ at sources
  rw [picked] at sources
  let raw := (Bus.read filled Reg.Transport.flags).1
  refine ⟨(Bus.read looked Reg.Transport.flags).1, raw, transfer, sourced, again, ?_, grown, ?_, ?_, ?_⟩
  · rw [← step.recorded_same.2]
    exact locates.last
  · exact sources.of_mirrored
  · exact sources.of_direct
  · intro among held plain here
    have same : raw = if before.commandActive then (held step.before.bus).revise Reg.Transport.secondary 0
        else held step.before.bus := flags_of_plain plain locates here
    refine ⟨same, fun command => ?_⟩
    rw [same, if_pos command, dropped_meets]

theorem unmarked_register_plain (address : Address) :
    Plain address (fun board : Board => address ∉ board.oneToClear) fun board => board.peek address where
  shows _ _ := rfl
  read _ _ unmarked := ⟨unmarked, rfl⟩
  write board other value unmarked := by
    refine ⟨unmarked, ?_⟩
    by_cases same : other = address
    · rw [if_pos same, same]
      exact Board.peek_write unmarked value
    · rw [if_neg same]
      exact Board.peek_write_other same value
  wait _ _ mask budget unmarked different := ⟨unmarked, Board.peek_wait_other different mask budget⟩

-- A simple inbound command, then both mirror flags under a command state.
def windowEvents : List (Event Board) :=
  [.hardware (.asking 0x2A 1), .plainPass, .flags false true false false,
    .hardware ((Board.asking 0x88 1).poke Reg.Transport.flags 0x06)]

theorem extended_transfer_uses_picked_window :
    let sooner := Run.of (Controller.start Board.powered .reference) windowEvents
    let step : Step Board := { before := sooner.controller, event := .plainPass }
    let request : Request := { action := .extendedOut, param1 := 1, param2 := 0 }
    (Run.of (Controller.start Board.powered .reference) (windowEvents ++ [.plainPass])).history = sooner.history ++ [step] ∧
      step.happening = .accepted request true ∧ step.before.state.commandActive = true ∧
      step.before.bus.peek Reg.Transport.flags = 0x06 ∧
      ∃ transfer, step.after.state.lastTransfer = some transfer ∧ transfer.base = 0xA000 ∧ transfer.mode = 0x20 := by
  intro sooner step request
  have split : (Run.of (Controller.start Board.powered .reference) (windowEvents ++ [.plainPass])).history =
      sooner.history ++ [step] := by
    rw [Run.of_snoc]
    rfl
  have accepted : step.happening = .accepted request true := by decide +kernel
  have command : step.before.state.commandActive = true := by decide +kernel
  have flags : step.before.bus.peek Reg.Transport.flags = 0x06 := by decide +kernel
  have unmarked : Reg.Transport.flags ∉ step.before.bus.oneToClear := by decide +kernel
  have picked : pickedWindow (acceptedRequests (sooner.history.map Step.happening) ++ [request]) = 0xA000 := by decide +kernel
  obtain ⟨_, raw, transfer, _, _, last, -, mirrored, -, plain⟩ := transfer_address_follows_flags_and_history Board.powered
    .reference (windowEvents ++ [.plainPass]) sooner.history step [] request split accepted
  obtain ⟨-, shows⟩ := plain _ _ (unmarked_register_plain Reg.Transport.flags) unmarked
  have asked : raw.meets 0x06 = true := (shows command).mpr (by rw [flags]; decide)
  obtain ⟨-, base, mode⟩ := mirrored asked
  exact ⟨split, accepted, command, flags, transfer, last, base.trans picked, mode⟩

end StorageBridge
