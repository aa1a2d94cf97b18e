import StorageBridge.Proofs.Counts

/-!
The two logs of a run. A step submits when the slot that it took is left valid, and retires when its
completion names a valid slot. The logs count these steps modulo 32, also when a step stalls.
-/

set_option autoImplicit false

namespace StorageBridge

variable {β : Type} [Bus β]

namespace Step

def submits (step : Step β) : Bool :=
  match step.happening with
  | .accepted _ _ => !(step.after.state.ring.slot step.before.state.ring.index).isFree
  | _ => false

def retires (step : Step β) : Bool :=
  match step.happening with
  | .retired slot => !(step.before.state.ring.slot slot).isFree
  | _ => false

theorem submits_of_accepted {step : Step β} {request : Request} {handedOff : Bool}
    (accepted : step.happening = .accepted request handedOff) : step.submits = request.needsCommand := by
  have moves := step_moves step
  rw [accepted] at moves
  have left : step.after.state.ring.slot step.before.state.ring.index =
      if request.needsCommand then request.slot else .empty :=
    (CommandRing.slot_of_put moves.accepted.slots _).trans (if_pos rfl)
  unfold submits
  rw [accepted]
  dsimp only
  rw [left]
  cases request.needsCommand with
  | true => rw [if_pos rfl, request.slot_valid, Bool.not_false]
  | false => rw [if_neg Bool.false_ne_true, Slot.isFree_empty, Bool.not_true]

end Step

-- What a step does to the logs, to the completion count and to the number of valid slots.
structure Logged (step : Step β) : Prop where
  submitLog : step.after.state.submitLog =
    if step.submits then (step.before.state.submitLog + 1) &&& 0x1F else step.before.state.submitLog
  completeLog : step.after.state.completeLog =
    if step.retires then (step.before.state.completeLog + 1) &&& 0x1F else step.before.state.completeLog
  completions : step.after.statistics.completions =
    if step.retires then countUp step.before.statistics.completions else step.before.statistics.completions
  taken : step.after.state.ring.taken + (if step.retires then 1 else 0) =
    step.before.state.ring.taken + (if step.submits then 1 else 0)

theorem step_logged (step : Step β) : Logged step := by
  have moves := step_moves step
  cases happened : step.happening with
  | accepted request handedOff =>
      rw [happened] at moves
      have submits := Step.submits_of_accepted happened
      have retires : step.retires = false := by rw [Step.retires, happened]
      exact
        { submitLog := by rw [submits]; exact moves.accepted.submitLog
          completeLog := by rw [retires]; exact moves.accepted.completeLog
          completions := by rw [retires]; exact moves.accepted.completions
          taken := by rw [retires, submits]; exact taken_of_accepted moves }
  | retired slot =>
      rw [happened] at moves
      have submits : step.submits = false := by rw [Step.submits, happened]
      have retires : step.retires = !(step.before.state.ring.slot slot).isFree := by rw [Step.retires, happened]
      exact
        { submitLog := by rw [submits]; exact moves.retired.submitLog
          completeLog := by rw [retires]; exact moves.retired.completeLog
          completions := by rw [retires]; exact moves.retired.completions
          taken := by rw [retires, submits]; exact taken_of_retired moves }
  | other =>
      rw [happened] at moves
      have same : step.after.ledger = step.before.ledger := moves.applied
      have submits : step.submits = false := by rw [Step.submits, happened]
      have retires : step.retires = false := by rw [Step.retires, happened]
      exact
        { submitLog := by rw [submits]; exact congrArg Ledger.submitLog same
          completeLog := by rw [retires]; exact congrArg Ledger.completeLog same
          completions := by rw [retires]; exact congrArg Ledger.completions same
          taken := by rw [submits, retires]; exact congrArg (fun ledger : Ledger => ledger.ring.taken) same }

theorem to_nat_next_log (log : Byte) : ((log + 1) &&& 0x1F).toNat = (log.toNat + 1) % 32 := by
  rw [UInt8.toNat_and, UInt8.toNat_add]
  have masked : (log.toNat + 1) % 256 &&& 31 = (log.toNat + 1) % 256 % 32 := Nat.and_two_pow_sub_one_eq_mod _ 5
  exact masked.trans (Nat.mod_mod_of_dvd _ (by decide))

theorem log_counts {log next : Byte} {count : Nat} {moved : Bool} (counted : log.toNat = count % 32)
    (moves : next = if moved then (log + 1) &&& 0x1F else log) :
    next.toNat = (count + (if moved then 1 else 0)) % 32 := by
  cases moved with
  | true =>
      rw [moves, if_pos rfl, if_pos rfl, to_nat_next_log, counted]
      omega
  | false =>
      rw [moves, if_neg Bool.false_ne_true, if_neg Bool.false_ne_true]
      exact counted

theorem saturating_counts {counter next : UInt32} {count : Nat} {moved : Bool}
    (counted : counter.toNat = min 0xFFFFFFFF count) (moves : next = if moved then countUp counter else counter) :
    next.toNat = min 0xFFFFFFFF (count + (if moved then 1 else 0)) := by
  cases moved with
  | true =>
      rw [moves, if_pos rfl, if_pos rfl, toNat_countUp, counted]
      omega
  | false =>
      rw [moves, if_neg Bool.false_ne_true, if_neg Bool.false_ne_true]
      exact counted

structure Balanced (run : Run β) : Prop where
  submitLog : run.controller.state.submitLog.toNat = run.history.countP Step.submits % 32
  completeLog : run.controller.state.completeLog.toNat = run.history.countP Step.retires % 32
  completions : run.controller.statistics.completions.toNat = min 0xFFFFFFFF (run.history.countP Step.retires)
  conserved : run.controller.state.ring.taken + run.history.countP Step.retires = run.history.countP Step.submits

theorem Balanced.extend {run : Run β} (balanced : Balanced run) (event : Event β) : Balanced (run.extend event) := by
  let step : Step β := { before := run.controller, event }
  have logged : Logged step := step_logged step
  have submitted : (run.extend event).history.countP Step.submits =
      run.history.countP Step.submits + (if step.submits then 1 else 0) := by
    simp [Run.extend, step, List.countP_append, List.countP_singleton]
  have retired : (run.extend event).history.countP Step.retires =
      run.history.countP Step.retires + (if step.retires then 1 else 0) := by
    simp [Run.extend, step, List.countP_append, List.countP_singleton]
  refine ⟨?_, ?_, ?_, ?_⟩
  · rw [submitted]
    exact log_counts balanced.submitLog logged.submitLog
  · rw [retired]
    exact log_counts balanced.completeLog logged.completeLog
  · rw [retired]
    exact saturating_counts balanced.completions logged.completions
  · have taken := logged.taken
    have conserved := balanced.conserved
    change step.after.state.ring.taken + _ = _
    change step.after.state.ring.taken + _ = run.controller.state.ring.taken + _ at taken
    rw [submitted, retired]
    omega

theorem run_balanced (bus : β) (settings : Settings) (events : List (Event β)) :
    Balanced (Run.of (Controller.start bus settings) events) :=
  Run.run_induction Balanced (Controller.start bus settings)
    ⟨rfl, rfl, rfl, congrArg (· + 0) CommandRing.taken_empty⟩ (fun _ event balanced => balanced.extend event) events

-- The logs cannot tell a full ring from an empty one.
theorem logs_equal_iff {run : Run β} (balanced : Balanced run) :
    run.controller.state.submitLog = run.controller.state.completeLog ↔
      run.controller.state.ring.taken = 0 ∨ run.controller.state.ring.taken = 32 := by
  obtain ⟨submitLog, completeLog, -, conserved⟩ := balanced
  have bound := run.controller.state.ring.taken_le
  rw [← UInt8.toNat_inj]
  omega

theorem completion_never_submits {step : Step β} {event : Byte} (completes : step.event = .completion event) :
    step.submits = false := by
  unfold Step.submits Step.happening
  rw [completes]
  cases step.answer with
  | completed result =>
      cases result with
      | ok completion => cases completion <;> rfl
      | error _ => rfl
  | _ => rfl

theorem logs_count_submissions_and_retirements (bus : β) (settings : Settings) (events : List (Event β)) :
    let run := Run.of (Controller.start bus settings) events
    let state := run.controller.state
    let submitted := run.history.countP Step.submits
    let retired := run.history.countP Step.retires
    ((state.submitLog.toNat : Int) - state.completeLog.toNat) % 32 = (state.ring.taken : Int) % 32 ∧
    state.submitLog.toNat = submitted % 32 ∧
    state.completeLog.toNat = retired % 32 ∧
    run.controller.statistics.completions.toNat = min 0xFFFFFFFF retired ∧
    ∀ step ∈ run.history, ∀ event, step.event = .completion event → step.retires = false →
      step.after.state.submitLog = step.before.state.submitLog ∧
      step.after.state.completeLog = step.before.state.completeLog := by
  intro run state submitted retired
  obtain ⟨submitLog, completeLog, completions, conserved⟩ := run_balanced bus settings events
  refine ⟨?_, submitLog, completeLog, completions, ?_⟩
  · change state.ring.taken + retired = submitted at conserved
    change state.submitLog.toNat = submitted % 32 at submitLog
    change state.completeLog.toNat = retired % 32 at completeLog
    omega
  · intro step _ event completes kept
    have logged := step_logged step
    have submits := logged.submitLog
    have retires := logged.completeLog
    rw [completion_never_submits completes, if_neg Bool.false_ne_true] at submits
    rw [kept, if_neg Bool.false_ne_true] at retires
    exact ⟨submits, retires⟩

end StorageBridge
