import StorageBridge.Proofs.Footprints
import StorageBridge.Proofs.Simulation
import StorageBridge.Proofs.Verdicts

/-!
What an action that is turned away leaves behind. The readiness check works on the controller and on
the hardware before it knows its verdict; whatever the verdict, it has touched the transport flags and
the link control at most, and the queue not at all. An action that is taken moves the ring on by one.
-/

set_option autoImplicit false

namespace StorageBridge

open BridgeM

variable {β : Type} [Bus β]

namespace Readiness

-- While a command state is active, the check writes the transport flags back without one of them.
def dropped (controller : Controller β) : List (Address × Byte) :=
  if controller.state.commandActive then
    let flags := Bus.read (Bus.read controller.bus Reg.Backend.linkStatus).2 Reg.Transport.flags
    [(Reg.Transport.flags, flags.1.revise Reg.Transport.secondary 0)]
  else []

def retraining : List (Address × Byte) :=
  [(Reg.Backend.linkControl, Reg.Backend.linkRecover), (Reg.Backend.linkControl, Reg.Backend.linkSetup)]

-- What the check has written, given the whole of it: nothing under a fault, else the flags that it
-- drops and as much of the retraining as it came to.
def Wrote (controller : Controller β) (written : List (Address × Byte)) : Prop :=
  ∃ retrained, written = (if controller.state.fault then [] else dropped controller) ++ retrained ∧
    retrained <+: retraining ∧ (retrained ≠ [] → Retrains controller)

theorem wrote_dropped {controller : Controller β} (unfaulted : controller.state.fault = false) :
    Wrote controller (dropped controller) :=
  ⟨[], by simp [unfaulted], by simp, by simp⟩

theorem past_link_writes (before : Controller (Recorder β)) :
    (pastLink before).writes = before.bus.writes ++ dropped before := by
  unfold pastLink dropped Bus.modify
  cases before.state.commandActive <;> simp

theorem past_depth_writes (before : Controller (Recorder β)) :
    (pastDepth before).bus.writes = before.bus.writes ++ dropped before := by
  simp [pastDepth, depthSeen, past_link_writes]

theorem past_engine_writes (before : Controller (Recorder β)) :
    (pastEngine (atEngine before)).bus.writes = before.bus.writes ++ dropped before := by
  have seen : (atEngine before).bus.writes = before.bus.writes ++ dropped before := by
    cases up : linkSeen before with
    | true => simp [atEngine, up, past_depth_writes]
    | false => simp [atEngine, up, atDepth, past_link_writes]
  unfold pastEngine
  cases (atEngine before).state.transferState <;> simp [seen]

theorem check_rolling_writes (before : Controller (Recorder β)) :
    (ending (checkRolling before)).bus.writes = before.bus.writes := by
  unfold checkRolling
  rw [bind_read]
  split
  · exact Recorder.writes_read _ _
  · exact Recorder.writes_read _ _

theorem after_recover_writes (before : Controller (Recorder β)) :
    ∃ trained, (ending (afterRecover before)).bus.writes = before.bus.writes ++ trained ∧
      trained <+: [(Reg.Backend.linkControl, Reg.Backend.linkSetup)] := by
  let waited := Bus.wait before.bus Reg.Backend.linkStatus Reg.Backend.linkTrained .forever
  have same : waited.2.writes = before.bus.writes := Recorder.writes_wait _ _ _ _
  have waits := wait_for_ends Reg.Backend.linkStatus Reg.Backend.linkTrained before
  cases seen : waited.1 with
  | false =>
      rw [if_neg (Bool.eq_false_iff.mp seen)] at waits
      have stalls : awaitLink before = .error untrained { before with bus := waited.2 } := bind_of_error waits _
      refine ⟨[], ?_, by simp⟩
      unfold afterRecover
      rw [bind_of_error stalls, List.append_nil]
      exact same
  | true =>
      rw [if_pos seen] at waits
      let set := Bus.write waited.2 Reg.Backend.linkControl Reg.Backend.linkSetup
      let looked := Bus.read set Reg.Backend.linkStatus
      have answers : awaitLink before = .ok (looked.1.meets Reg.Backend.linkUp) { before with bus := looked.2 } :=
        bind_of_ok waits _
      refine ⟨[(Reg.Backend.linkControl, Reg.Backend.linkSetup)], ?_, List.prefix_refl _⟩
      have written : looked.2.writes = before.bus.writes ++ [(Reg.Backend.linkControl, Reg.Backend.linkSetup)] := by
        simp [looked, set, same]
      unfold afterRecover
      rw [bind_of_ok answers, ← written]
      split
      · exact check_rolling_writes _
      · rfl

omit [Bus β] in
theorem is_proceed_iff (readiness : Readiness) : readiness.isProceed = true ↔ readiness = .proceed := by
  cases readiness <;> simp [isProceed]

theorem decided_wrote {before : Controller (Recorder β)} {result : EStateM.Result Stall (Controller (Recorder β)) Readiness}
    (decided : Decided before result) :
    ∃ written, (ending result).bus.writes = before.bus.writes ++ written ∧ Wrote before written := by
  cases decided with
  | fault faulted => exact ⟨[], (List.append_nil _).symm, [], by simp [faulted], by simp, by simp⟩
  | linkDown unfaulted _ _ => exact ⟨_, past_link_writes before, wrote_dropped unfaulted⟩
  | full unfaulted _ _ => exact ⟨_, past_depth_writes before, wrote_dropped unfaulted⟩
  | busy unfaulted _ => exact ⟨_, past_engine_writes before, wrote_dropped unfaulted⟩
  | waiting drained _ => exact ⟨_, past_engine_writes before, wrote_dropped drained.fault⟩
  | rolling unfaulted _ _ =>
      exact ⟨_, (check_rolling_writes _).trans (past_engine_writes before), wrote_dropped unfaulted⟩
  | retraining retrains =>
      obtain ⟨trained, written, short⟩ := after_recover_writes (recovering (pastEngine (atEngine before)))
      have begun : (recovering (pastEngine (atEngine before))).bus.writes =
          before.bus.writes ++ dropped before ++ [(Reg.Backend.linkControl, Reg.Backend.linkRecover)] := by
        rw [← past_engine_writes]
        exact Recorder.writes_write _ _ _
      let retrained := (Reg.Backend.linkControl, Reg.Backend.linkRecover) :: trained
      refine ⟨dropped before ++ retrained, ?_, retrained, ?_, ?_, fun _ => retrains⟩
      · rw [written, begun]
        simp [retrained]
      · simp [retrains.drained.fault]
      · exact List.cons_prefix_cons.mpr ⟨rfl, short⟩

theorem check_wrote (before : Controller (Recorder β)) :
    ∃ written, (ending (check before)).bus.writes = before.bus.writes ++ written ∧ Wrote before written := by
  obtain ⟨_, _, ended⟩ := check_ends before
  rw [ended]
  exact decided_wrote (evaluate_decides before)

theorem check_of_fault {before : Controller β} (faulted : before.state.fault = true) :
    ∃ after, check before = .ok .notReady after ∧ after.bus = before.bus ∧
      after.state.transferActive = before.state.transferActive ∧ after.state.dmaMode = before.state.dmaMode := by
  have evaluated : evaluate before = refuse .notReady .fault before := by
    unfold evaluate
    rw [bind_get_state, if_pos faulted]
  exact ⟨_, bind_of_ok evaluated _, rfl, rfl, rfl⟩

def verdicts : List Readiness :=
  [.proceed, .complete, .notReady, .retry, .inProgress, .reject 0x0D]

theorem check_rolling_verdict {before after : Controller β} {readiness : Readiness}
    (checked : checkRolling before = .ok readiness after) : readiness ∈ verdicts := by
  have rows (status : Byte) : Readiness.ofCode (RollingRow.ofStatus status).verdict ∈ verdicts := by
    unfold RollingRow.ofStatus
    split <;> decide
  unfold checkRolling at checked
  rw [bind_read] at checked
  split at checked
  · cases checked
    decide
  · cases checked
    exact rows _

theorem decided_verdict {before after : Controller β} {result : EStateM.Result Stall (Controller β) Readiness}
    {readiness : Readiness} (decided : Decided before result) (ended : result = .ok readiness after) :
    readiness ∈ verdicts := by
  cases decided with
  | fault _ => cases ended; decide
  | linkDown _ _ _ => cases ended; decide
  | full _ _ _ => cases ended; decide
  | busy _ _ => cases ended; decide
  | waiting _ _ => cases ended; decide
  | rolling _ _ _ => exact check_rolling_verdict ended
  | retraining _ =>
      obtain ⟨up, between, -, rest⟩ := ok_of_bind ended
      cases up with
      | true => exact check_rolling_verdict rest
      | false => cases rest; decide

theorem check_verdict {before after : Controller β} {readiness : Readiness} (checked : check before = .ok readiness after) :
    readiness ∈ verdicts := by
  obtain ⟨between, evaluated⟩ := evaluated_of_checked checked
  exact decided_verdict (evaluate_decides before) evaluated

end Readiness

namespace Submission

def marked (action : Action) (controller : Controller β) : Controller β :=
  { controller with state := { controller.state with lastAction := some action } }

-- a recorder shows what the bus beneath shows, and the action is not looked at
theorem wrote_of_recorded {controller : Controller β} {action : Action} {written : List (Address × Byte)}
    (wrote : Readiness.Wrote (marked action controller.recorded) written) : Readiness.Wrote controller written := by
  obtain ⟨retrained, split, short, retrains⟩ := wrote
  have past : (Readiness.pastLink (marked action controller.recorded)).bus = Readiness.pastLink controller := by
    change (if controller.state.commandActive = true then _ else _ : Recorder β).bus = _
    unfold Readiness.pastLink
    cases controller.state.commandActive <;> rfl
  have seen : (Readiness.depthSeen (marked action controller.recorded)).2.bus = (Readiness.depthSeen controller).2 :=
    congrArg (fun bus => (Bus.read bus Reg.Backend.queueDepth).2) past
  refine ⟨retrained, split, short, fun begun => ?_⟩
  obtain ⟨drained, settled, running⟩ := retrains begun
  refine ⟨⟨drained.fault, drained.link, ?_, ?_⟩, settled, running⟩
  · exact (congrArg (fun bus => (Bus.read bus Reg.Backend.queueDepth).1) past).symm.trans drained.depth
  · refine drained.engine.imp_right fun idle => ?_
    exact (congrArg (fun bus => (Bus.read bus Reg.Backend.status).1.meets Reg.Backend.statusBusy) seen).symm.trans idle

-- How a submission ends, once the readiness check has run.
inductive Outcome (param1 param2 : Byte) (action : Action) (before : Controller β) :
    EStateM.Result Stall (Controller β) Submission → Prop where
  | untrained (stall : Stall) (after : Controller β)
      (stalled : Readiness.check (marked action before) = .error stall after) :
      Outcome param1 param2 action before (.error stall after)
  | refused (readiness : Readiness) (between : Controller β)
      (checked : Readiness.check (marked action before) = .ok readiness between) (refuses : readiness.isProceed = false) :
      Outcome param1 param2 action before
        ((escalateIf (readiness.isRetry && before.state.transferActive) >>= fun _ => pure (.refused readiness)) between)
  | held (between : Controller β) (checked : Readiness.check (marked action before) = .ok .proceed between)
      (taken : (between.state.ring.slot between.state.ring.index).isFree = false) :
      Outcome param1 param2 action before (held between.state.ring.index between)
  | accepted (between : Controller β) (checked : Readiness.check (marked action before) = .ok .proceed between)
      (free : (between.state.ring.slot between.state.ring.index).isFree = true) :
      Outcome param1 param2 action before (accept between.state.ring.index param1 param2 action between)

theorem submit_outcome (param1 param2 : Byte) (action : Action) (before : Controller β) :
    Outcome param1 param2 action before (submit param1 param2 action before) := by
  unfold submit
  rw [bind_get_state, bind_modify_state]
  change Outcome param1 param2 action before ((Readiness.check >>= _) (marked action before))
  cases checked : Readiness.check (marked action before) with
  | error stall after =>
      rw [bind_of_error checked]
      exact .untrained stall after checked
  | ok readiness between =>
      rw [bind_of_ok checked]
      cases proceeds : readiness.isProceed with
      | false => exact .refused readiness between checked proceeds
      | true =>
          obtain rfl := (Readiness.is_proceed_iff readiness).mp proceeds
          rw [if_pos rfl]
          unfold place
          rw [bind_get_state]
          cases free : (between.state.ring.slot between.state.ring.index).isFree with
          | true => exact .accepted between checked free
          | false => exact .held between checked free

-- all but what a rejection may change
def spared (controller : Controller β) : Settings × State × Statistics :=
  (controller.settings,
    { controller.state with lastAction := none, transferActive := false, dmaMode := 0, escalate := false, retry := none },
    { controller.statistics with refusals := 0, retryRequests := 0 })

structure Intact (before after : Controller β) (effects : List Effect) : Prop where
  kept : spared after = spared before
  wrote : Readiness.Wrote before (effects.filterMap Effect.write?)
  faulted : before.state.fault = true →
    effects = [] ∧ after.state.transferActive = before.state.transferActive ∧ after.state.dmaMode = before.state.dmaMode

-- Everything that turns an action away, and everything that takes it. A wait that does not end belongs
-- to one of the two: the link is retrained before the action is taken, the engine is awaited after.
def Rejects : EStateM.Result Stall (Controller β) Submission → Prop
  | .ok submission _ => submission.accepts = false
  | .error stall _ => stall = Readiness.untrained

def Takes : EStateM.Result Stall (Controller β) Submission → Prop
  | .ok submission _ => submission.accepts = true
  | .error stall _ => stall = Transfer.unready

omit [Bus β] in
theorem not_takes_of_rejects {result : EStateM.Result Stall (Controller β) Submission} (rejects : Rejects result) :
    ¬ Takes result := by
  intro takes
  cases result with
  | ok submission after => cases rejects.symm.trans takes
  | error stall after => exact absurd (rejects.symm.trans takes) (by decide)

omit [Bus β] in
theorem rejects_or_takes_of_submitted {request : Request} {before : Controller β}
    {result : EStateM.Result Stall (Controller β) Submission} (submitted : Submitted request before.ledger result) :
    (Rejects result ∧ (ending result).state.ring.index = before.state.ring.index) ∨
      (Takes result ∧ (ending result).state.ring.index = before.state.ring.index.next) := by
  have accepted := before.ledger.accept_accepted request
  cases submitted with
  | declined submission after declines kept => exact .inl ⟨declines, congrArg (fun ledger => ledger.ring.index) kept⟩
  | untrained after kept => exact .inl ⟨rfl, congrArg (fun ledger => ledger.ring.index) kept⟩
  | taken _ free handsOff =>
      cases handsOff with
      | handedOff submission after accepts moved =>
          have burst := (before.ledger.accept request).hand_off_only_burst
          exact .inr ⟨accepts, (congrArg (fun ledger => ledger.ring.index) moved).trans (burst.index.trans accepted.index)⟩
      | unready after moved => exact .inr ⟨rfl, (congrArg (fun ledger => ledger.ring.index) moved).trans accepted.index⟩

theorem check_spares (action : Action) (before : Controller β) :
    spared (ending (Readiness.check (marked action before))) = spared before := by
  have keeps : Keeps spared (· = Readiness.untrained) (Readiness.check : BridgeM β Readiness) :=
    keeps_coarser Readiness.check_keeps fun rest =>
      (rest.1, { rest.2.1 with lastAction := none, escalate := false }, rest.2.2)
  exact keeps_ending keeps (marked action before)

-- What is known once the check is over holds of a rejection when nothing more was written.
theorem intact_of_check (action : Action) {controller : Controller β} {after : Controller (Recorder β)}
    (kept : spared after = spared (ending (Readiness.check (marked action controller.recorded))))
    (written : after.bus.writes = (ending (Readiness.check (marked action controller.recorded))).bus.writes)
    (faulted : controller.state.fault = true → after.bus.effects = [] ∧
      after.state.transferActive = controller.state.transferActive ∧ after.state.dmaMode = controller.state.dmaMode) :
    Intact controller after.forget after.bus.effects.reverse := by
  obtain ⟨made, split, wrote⟩ := Readiness.check_wrote (marked action controller.recorded)
  refine ⟨kept.trans (check_spares action controller.recorded), ?_, fun fault => ?_⟩
  · have all : after.bus.writes = made := written.trans split
    change Readiness.Wrote controller after.bus.writes
    rw [all]
    exact wrote_of_recorded wrote
  · obtain ⟨none, active, mode⟩ := faulted fault
    exact ⟨by rw [none]; rfl, active, mode⟩

theorem recorded_intact (controller : Controller β) (param1 param2 : Byte) (action : Action)
    (rejects : Rejects (submit param1 param2 action controller.recorded)) :
    Intact controller (ending (submit param1 param2 action controller.recorded)).forget
      (BridgeM.effects (submit param1 param2 action) controller) := by
  have outcome := submit_outcome param1 param2 action controller.recorded
  unfold BridgeM.effects
  generalize submit param1 param2 action controller.recorded = result at rejects outcome
  have faulted (fault : (marked action controller.recorded).state.fault = true) := Readiness.check_of_fault fault
  cases outcome with
  | untrained stall after stalled =>
      refine intact_of_check action (by rw [stalled]; rfl) (by rw [stalled]; rfl) fun fault => ?_
      obtain ⟨_, answered, -⟩ := faulted fault
      cases stalled.symm.trans answered
  | refused readiness between checked refuses =>
      refine intact_of_check action (by rw [checked]; rfl) (by rw [checked]; rfl) fun fault => ?_
      obtain ⟨_, answered, bus, active, mode⟩ := faulted fault
      cases checked.symm.trans answered
      exact ⟨congrArg Recorder.effects bus, active, mode⟩
  | held between checked taken =>
      refine intact_of_check action (by rw [checked]; rfl) ?_ fun fault => ?_
      · rw [checked]
        exact Recorder.writes_read _ _
      · obtain ⟨_, answered, -⟩ := faulted fault
        cases checked.symm.trans answered
  | accepted between checked free =>
      have handsOff := accept_ledger { action, param1, param2 } between
      generalize accept between.state.ring.index param1 param2 action between = result at rejects handsOff
      cases handsOff with
      | handedOff submission after accepts moved => cases rejects.symm.trans accepts
      | unready after moved => cases rejects

theorem rejected_intact (controller : Controller β) (param1 param2 : Byte) (action : Action)
    (rejects : Rejects (submit param1 param2 action controller)) :
    Intact controller (ending (submit param1 param2 action controller))
      (BridgeM.effects (submit param1 param2 action) controller) := by
  have records : Records (· ∈ registers) (fun _ _ _ => False) (submit param1 param2 action : BridgeM (Recorder β) Submission)
      (submit param1 param2 action) := submit_records param1 param2 action
  have intact := recorded_intact controller param1 param2 action
  have same := records.same controller.recorded
  change _ = submit param1 param2 action controller at same
  rw [← same] at rejects ⊢
  cases ended : submit param1 param2 action controller.recorded with
  | ok submission after =>
      rw [ended] at intact rejects
      exact intact rejects
  | error stall after =>
      rw [ended] at intact rejects
      exact intact rejects

-- Which answer it is, the last bind of each path tells; the stages before it are peeled off.
theorem accept_answer {index : SlotIndex} {param1 param2 : Byte} {action : Action} {before after : Controller β}
    {submission : Submission} (accepted : accept index param1 param2 action before = .ok submission after) :
    submission = .queued ∨ submission = .inProgress after.settings.inProgress := by
  iterate 4 obtain ⟨_, _, -, accepted⟩ := ok_of_bind accepted
  dsimp only at accepted
  by_cases extended : action.isExtended
  · rw [if_pos extended] at accepted
    iterate 6 obtain ⟨_, _, -, accepted⟩ := ok_of_bind accepted
    cases accepted
    exact .inl rfl
  · rw [if_neg extended] at accepted
    iterate 5 obtain ⟨_, _, -, accepted⟩ := ok_of_bind accepted
    cases accepted
    exact .inr rfl

-- the answers that a submission can give, with the in-progress code of the settings
def Answers (settings : Settings) (submission : Submission) : Prop :=
  (∃ readiness ∈ Readiness.verdicts, readiness ≠ .proceed ∧ submission = .refused readiness) ∨
    submission = .deferred ∨ submission = .busy ∨ submission = .queued ∨ submission = .inProgress settings.inProgress

theorem outcome_answers {param1 param2 : Byte} {action : Action} {before after : Controller β}
    {result : EStateM.Result Stall (Controller β) Submission} {submission : Submission}
    (outcome : Outcome param1 param2 action before result) (ended : result = .ok submission after) :
    Answers after.settings submission := by
  cases outcome with
  | untrained stall stalled failed => cases ended
  | refused readiness between checked refuses =>
      cases ended
      refine .inl ⟨readiness, Readiness.check_verdict checked, ?_, rfl⟩
      rintro rfl
      cases refuses
  | held between checked taken =>
      cases ended
      split
      · exact .inr (.inl rfl)
      · exact .inr (.inr (.inl rfl))
  | accepted between checked free => exact .inr (.inr (.inr (accept_answer ended)))

-- With the reference settings the codes of the two accepting answers are theirs alone.
theorem accepts_iff_code {settings : Settings} {submission : Submission} (answers : Answers settings submission)
    (reference : settings.inProgress = .reference) :
    submission.code = 0x09 ∨ submission.code = 0x0A ↔ submission.accepts = true := by
  rcases answers with ⟨readiness, known, -, rfl⟩ | rfl | rfl | rfl | rfl
  · have others : ∀ readiness ∈ Readiness.verdicts, ¬ (readiness.code = 0x09 ∨ readiness.code = 0x0A) := by decide
    exact ⟨fun coded => absurd coded (others readiness known), fun accepts => by cases accepts⟩
  · decide
  · decide
  · decide
  · rw [reference]
    decide

end Submission

open Submission

theorem rejected_action_leaves_queue_and_engines (controller : Controller β) (param1 param2 : Byte) (action : Action) :
    let result := submit param1 param2 action controller
    let after := ending result
    (Rejects result → Intact controller after (BridgeM.effects (submit param1 param2 action) controller)) ∧
      (Takes result → after.state.ring.index = controller.state.ring.index.next) ∧
      (Rejects result ∨ Takes result) ∧
      (∀ submission after, result = .ok submission after →
        submission ≠ .refused .proceed ∧
          (controller.settings.inProgress = .reference →
            (submission.code = 0x09 ∨ submission.code = 0x0A ↔
              after.state.ring.index = controller.state.ring.index.next))) := by
  intro result after
  have moves : (Rejects result ∧ after.state.ring.index = controller.state.ring.index) ∨
      (Takes result ∧ after.state.ring.index = controller.state.ring.index.next) :=
    rejects_or_takes_of_submitted (submit_ledger { action, param1, param2 } controller)
  refine ⟨rejected_intact controller param1 param2 action, fun takes => ?_, moves.imp And.left And.left, ?_⟩
  · rcases moves with ⟨rejects, -⟩ | ⟨-, moved⟩
    · exact absurd takes (not_takes_of_rejects rejects)
    · exact moved
  · intro submission ended answered
    have answers : Answers ended.settings submission :=
      outcome_answers (submit_outcome param1 param2 action controller) answered
    have settings : ended.settings = controller.settings :=
      congrArg Prod.fst (keeps_ok (submit_keeps param1 param2 action) answered)
    have same : after = ended := congrArg ending answered
    rw [settings] at answers
    rw [answered, same] at moves
    refine ⟨?_, fun reference => ?_⟩
    · rintro rfl
      rcases answers with ⟨_, -, refuses, refused⟩ | refused | refused | refused | refused <;> cases refused
      exact refuses rfl
    · have onward (index : SlotIndex) : index ≠ index.next := by
        revert index
        decide
      rw [accepts_iff_code answers reference]
      rcases moves with ⟨rejects, stayed⟩ | ⟨takes, moved⟩
      · change submission.accepts = false at rejects
        simp [rejects, stayed, onward]
      · exact ⟨fun _ => moved, fun _ => takes⟩

end StorageBridge
