import StorageBridge.Proofs.Passes

/-!
Whether a transfer is active and whether the caller should press its retry, told by the history of a
run. The readiness check forgets the transfer, unless a fault turns the action away: a transfer is
active while nothing but faults came after the action that started it. A call to press the retry is
never taken back.
-/

set_option autoImplicit false

namespace StorageBridge

open BridgeM

variable {β : Type}

namespace Submission

def Starts (answer : Option Submission) : Prop :=
  answer = some .queued ∨ ∃ code, answer = some (.inProgress code)

def RefusesTry (answer : Option Submission) : Prop :=
  answer = some (.refused .notReady) ∨ answer = some (.refused .retry)

-- what the two flags are after an action
structure Flags (before : State) (answer : Option Submission) (after : State) : Prop where
  active : after.transferActive = true ↔
    Starts answer ∨ before.transferActive = true ∧ before.fault = true ∧ answer = some (.refused .notReady)
  escalate : after.escalate = true ↔
    before.escalate = true ∨ answer = some .deferred ∨ RefusesTry answer ∧ before.transferActive = true

theorem starts_iff_accepts (submission : Submission) : Starts (some submission) ↔ submission.accepts = true := by
  cases submission <;> simp [Starts, accepts]

theorem refuses_try_iff (readiness : Readiness) : RefusesTry (some (.refused readiness)) ↔ readiness.isRetry = true := by
  cases readiness <;> simp [RefusesTry, Readiness.isRetry]

end Submission

variable [Bus β]

namespace Readiness

-- The check forgets the transfer, except under a fault, which turns every action away.
structure Forgets (before : State) (readiness : Option Readiness) (after : State) : Prop where
  active : after.transferActive = (before.fault && before.transferActive)
  escalate : after.escalate = before.escalate
  faulted : before.fault = true → readiness = some .notReady

theorem check_forgets (before : Controller β) :
    match check before with
    | .ok readiness after => Forgets before.state (some readiness) after.state
    | .error _ after => Forgets before.state none after.state := by
  have kept := keeps_ending check_keeps before
  have escalate : (ending (check before)).state.escalate = before.state.escalate :=
    congrArg (fun rest => rest.2.1.escalate) kept
  cases faulted : before.state.fault with
  | true =>
      obtain ⟨after, answered, -, active, -⟩ := check_of_fault faulted
      rw [answered] at escalate ⊢
      exact { active := by rw [faulted, Bool.true_and]; exact active, escalate, faulted := fun _ => rfl }
  | false =>
      obtain ⟨_, _, ended⟩ := check_ends before
      have active : (ending (check before)).state.transferActive = (before.state.fault && before.state.transferActive) := by
        rw [ended, evaluate_of_unfaulted faulted, faulted, Bool.false_and]
        exact congrArg (fun rest => rest.2.1.transferActive) (keeps_ending look_at_link_keeps (forgetTransfer before))
      have spared (readiness : Option Readiness) : before.state.fault = true → readiness = some .notReady :=
        fun fault => absurd (faulted.symm.trans fault) Bool.false_ne_true
      cases checked : check before with
      | ok readiness after =>
          rw [checked] at active escalate
          exact ⟨active, escalate, spared _⟩
      | error stall after =>
          rw [checked] at active escalate
          exact ⟨active, escalate, spared _⟩

namespace Forgets

variable {before after : State} {readiness : Option Readiness}

theorem unfaulted (forgets : Forgets before readiness after) (goesOn : readiness ≠ some .notReady) : before.fault = false :=
  Bool.eq_false_iff.mpr fun faulted => goesOn (forgets.faulted faulted)

theorem inactive (forgets : Forgets before readiness after) (goesOn : readiness ≠ some .notReady) :
    after.transferActive = false := by
  rw [forgets.active, forgets.unfaulted goesOn, Bool.false_and]

end Forgets

end Readiness

namespace Submission

-- An action that is taken starts a transfer, unless the engine never becomes idle.
theorem accept_starts (index : SlotIndex) (param1 param2 : Byte) (action : Action) (before : Controller β) :
    match accept index param1 param2 action before with
    | .ok submission after =>
        submission.accepts = true ∧ after.state.transferActive = true ∧ after.state.escalate = before.state.escalate
    | .error _ after =>
        after.state.transferActive = before.state.transferActive ∧ after.state.escalate = before.state.escalate := by
  rw [accept_prepares]
  obtain ⟨flags, prepared, prepares, same⟩ := keeps_answers (prepare_keeps index param1 param2 action) before
  have active : prepared.state.transferActive = before.state.transferActive :=
    congrArg (fun rest => rest.2.1.transferActive) same
  have escalate : prepared.state.escalate = before.state.escalate := congrArg (fun rest => rest.2.1.escalate) same
  rw [bind_of_ok prepares]
  cases programs : Transfer.program flags index.toByte prepared with
  | error stall after =>
      have kept := (keeps_error (Transfer.program_keeps flags index.toByte) programs).1
      have stalls : transferAndHandOff flags index prepared = .error stall after := bind_of_error programs _
      rw [bind_of_error stalls]
      exact ⟨(congrArg (fun rest => rest.2.1.transferActive) kept).trans active,
        (congrArg (fun rest => rest.2.1.escalate) kept).trans escalate⟩
  | ok transfer programmed =>
      have kept := keeps_ok (Transfer.program_keeps flags index.toByte) programs
      let started : Controller β := { programmed with state := { programmed.state with transferActive := true } }
      obtain ⟨_, after, handsOff, queue⟩ := keeps_answers (hand_off_keeps never) started
      have ends : transferAndHandOff flags index prepared = .ok () after := by
        unfold transferAndHandOff
        rw [bind_of_ok programs, bind_modify_state]
        exact handsOff
      obtain ⟨submission, answers, accepted⟩ := prepared_answers action after
      rw [bind_of_ok ends, answers]
      refine ⟨accepted, congrArg (fun rest => rest.2.1.transferActive) queue, ?_⟩
      calc after.state.escalate = programmed.state.escalate := congrArg (fun rest => rest.2.1.escalate) queue
        _ = prepared.state.escalate := congrArg (fun rest => rest.2.1.escalate) kept
        _ = before.state.escalate := escalate

theorem submit_flags (param1 param2 : Byte) (action : Action) (before : Controller β) :
    match submit param1 param2 action before with
    | .ok submission after => Flags before.state (some submission) after.state
    | .error _ after => Flags before.state none after.state := by
  have outcome := submit_outcome param1 param2 action before
  have forgets := Readiness.check_forgets (marked action before)
  generalize submit param1 param2 action before = result at outcome
  cases outcome with
  | untrained stall after stalled =>
      rw [stalled] at forgets
      have escalate : after.state.escalate = before.state.escalate := forgets.escalate
      exact
        { active := by simp [Starts, forgets.inactive (by simp)]
          escalate := by simp [RefusesTry, escalate] }
  | refused readiness between checked refuses =>
      rw [checked] at forgets
      have active : between.state.transferActive = (before.state.fault && before.state.transferActive) := forgets.active
      have escalate : between.state.escalate = before.state.escalate := forgets.escalate
      have faulted : before.state.fault = true → readiness = .notReady := fun fault =>
        Option.some.inj (forgets.faulted fault)
      exact
        { active := by
            change between.state.transferActive = true ↔ _
            rw [starts_iff_accepts, active]
            cases fault : before.state.fault with
            | true => simp [accepts, faulted fault]
            | false => simp [accepts]
          escalate := by
            change (between.state.escalate || (readiness.isRetry && before.state.transferActive)) = true ↔ _
            rw [refuses_try_iff, escalate]
            simp }
  | held between checked taken =>
      rw [checked] at forgets
      have inactive := forgets.inactive (by simp)
      have escalate : between.state.escalate = before.state.escalate := forgets.escalate
      obtain ⟨transferring, after, answered, state⟩ := held_answers between.state.ring.index between
      rw [answered]
      cases transferring with
      | true =>
          exact
            { active := by simp [Starts, state, inactive]
              escalate := by simp [state] }
      | false =>
          exact
            { active := by simp [Starts, state, inactive]
              escalate := by simp [RefusesTry, state, escalate] }
  | accepted between checked free =>
      rw [checked] at forgets
      have inactive := forgets.inactive (by simp)
      have escalate : between.state.escalate = before.state.escalate := forgets.escalate
      have starts := accept_starts between.state.ring.index param1 param2 action between
      cases ended : accept between.state.ring.index param1 param2 action between with
      | ok submission after =>
          rw [ended] at starts
          obtain ⟨accepted, active, same⟩ := starts
          exact
            { active := by simp [starts_iff_accepts, accepted, active]
              escalate := by
                rw [same, escalate]
                rcases (starts_iff_accepts submission).mpr accepted with answered | ⟨code, answered⟩
                · simp [answered, RefusesTry]
                · simp [answered, RefusesTry] }
      | error stall after =>
          rw [ended] at starts
          obtain ⟨active, same⟩ := starts
          exact
            { active := by simp [Starts, active, inactive]
              escalate := by simp [RefusesTry, same, escalate] }

end Submission

namespace Step

-- the action that a pass runs
def request? (step : Step β) : Option Request :=
  match step.event with
  | .pass _ _ => if step.before.state.reset.isNone then Transport.request? step.before.bus else none
  | _ => none

def submission? (step : Step β) : Option Submission :=
  step.answer.submission?

def Starts (step : Step β) : Prop :=
  Submission.Starts step.submission?

-- The action is turned away because of the fault, before the check forgets anything.
def FaultRejects (step : Step β) : Prop :=
  step.before.state.fault = true ∧ step.submission? = some (.refused .notReady)

def Presses (step : Step β) : Prop :=
  step.submission? = some .deferred ∨
    Submission.RefusesTry step.submission? ∧ step.before.state.transferActive = true

structure Accounts (step : Step β) : Prop where
  active : step.after.state.transferActive = true ↔
    step.Starts ∨ step.before.state.transferActive = true ∧ (step.request?.isSome → step.FaultRejects)
  escalate : step.after.state.escalate = true ↔ step.before.state.escalate = true ∨ step.Presses

theorem accounts_of_idle {step : Step β} (unasked : step.request? = none) (unanswered : step.submission? = none)
    (active : step.after.state.transferActive = step.before.state.transferActive)
    (escalate : step.after.state.escalate = step.before.state.escalate) : step.Accounts :=
  { active := by simp [Starts, Submission.Starts, unasked, unanswered, active]
    escalate := by simp [Presses, Submission.RefusesTry, unanswered, escalate] }

theorem accounts_of_flags {step : Step β} {between : State} (asked : step.request?.isSome)
    (flags : Submission.Flags step.before.state step.submission? between)
    (active : step.after.state.transferActive = between.transferActive)
    (escalate : step.after.state.escalate = between.escalate) : step.Accounts :=
  { active := by
      rw [active, flags.active]
      simp only [Starts, FaultRejects, asked, true_imp_iff]
    escalate := by rw [escalate, flags.escalate]; rfl }

theorem service_spares_flags {η : Type} {handler : EndpointHandler η β} {own own' : η} {endpoints : ServiceSummary}
    {before after : Controller β} (served : Endpoint.service handler own before = .ok (endpoints, own') after) :
    after.state.transferActive = before.state.transferActive ∧ after.state.escalate = before.state.escalate :=
  have kept := keeps_ok (Endpoint.service_keeps handler own) served
  ⟨congrArg (fun rest => rest.2.1.transferActive) kept, congrArg (fun rest => rest.2.1.escalate) kept⟩

theorem flags_of_begins {before begun : Controller β} {answer : Option Submission} {after : State}
    (begins : Transport.Begins before begun) (flags : Submission.Flags begun.state answer after) :
    Submission.Flags before.state answer after := by
  obtain ⟨coreState, state⟩ := begins.state
  rw [state] at flags
  exact ⟨flags.active, flags.escalate⟩

theorem pass_accounts {η : Type} (handler : EndpointHandler η β) (own : η) (before : Controller β) :
    Step.Accounts { before, event := .pass handler own } := by
  let step : Step β := { before, event := .pass handler own }
  obtain ⟨result, passed, answer, after⟩ := Controller.pass_step handler own before
  have submission : step.submission? = (Answer.ofResult (fun answer => .passed answer.1) result).1.submission? :=
    congrArg Answer.submission? answer
  have active := congrArg (fun controller => controller.state.transferActive) after
  have escalate := congrArg (fun controller => controller.state.escalate) after
  cases passed with
  | latched request closed =>
      refine accounts_of_idle ?_ submission active escalate
      simp [Step.request?, closed]
  | idle between after endpoints own' unlatched unasked settings state served =>
      obtain ⟨sameActive, sameEscalate⟩ := service_spares_flags served
      refine accounts_of_idle ?_ submission ?_ ?_
      · simp [Step.request?, unlatched, unasked]
      · exact active.trans (sameActive.trans (by rw [state]))
      · exact escalate.trans (sameEscalate.trans (by rw [state]))
  | answered request begun between after given endpoints own' unlatched asked begins submitted served =>
      obtain ⟨sameActive, sameEscalate⟩ := service_spares_flags served
      have requested : step.request?.isSome := by simp [step, Step.request?, unlatched, asked]
      have flags := Submission.submit_flags request.param1 request.param2 request.action begun
      rw [submitted] at flags
      refine accounts_of_flags requested ?_ (active.trans sameActive) (escalate.trans sameEscalate)
      rw [submission]
      exact flags_of_begins begins flags
  | stalled request begun after stall unlatched asked begins submitted =>
      have requested : step.request?.isSome := by simp [step, Step.request?, unlatched, asked]
      have flags := Submission.submit_flags request.param1 request.param2 request.action begun
      rw [submitted] at flags
      refine accounts_of_flags requested ?_ active escalate
      rw [submission]
      exact flags_of_begins begins flags

theorem accounts (step : Step β) : step.Accounts := by
  obtain ⟨before, event⟩ := step
  cases event with
  | pass handler own => exact pass_accounts handler own before
  | completion event =>
      obtain ⟨result, after, ended, kept⟩ := keeps_answers (Controller.complete_keeps event) before
      have ends : Event.run before (.completion event) = (.completed result, after) :=
        congrArg (Answer.ofResult .completed) ended
      have active : after.state.transferActive = before.state.transferActive :=
        congrArg (fun rest => rest.2.1.transferActive) kept
      have escalate : after.state.escalate = before.state.escalate := congrArg (fun rest => rest.2.1.escalate) kept
      refine accounts_of_idle rfl ?_ ?_ ?_
      · exact congrArg (fun ended => ended.1.submission?) ends
      · exact (congrArg (fun ended => ended.2.state.transferActive) ends).trans active
      · exact (congrArg (fun ended => ended.2.state.escalate) ends).trans escalate
  | takeRetry => exact accounts_of_idle rfl rfl rfl rfl
  | flags fault commandActive transferState powerInit => exact accounts_of_idle rfl rfl rfl rfl
  | hardware bus => exact accounts_of_idle rfl rfl rfl rfl

end Step

theorem transfer_active_iff (bus : β) (settings : Settings) (events : List (Event β)) :
    let run := Run.of (Controller.start bus settings) events
    run.controller.state.transferActive = true ↔
      ∃ earlier step later, run.history = earlier ++ step :: later ∧ step.Starts ∧
        ∀ next ∈ later, next.request?.isSome → next.FaultRejects := by
  refine Run.run_induction (fun run => run.controller.state.transferActive = true ↔
    ∃ earlier step later, run.history = earlier ++ step :: later ∧ step.Starts ∧
      ∀ next ∈ later, next.request?.isSome → next.FaultRejects) (Controller.start bus settings) ?_ ?_ events
  · simp [Controller.start, State.initial]
  · intro events event ih
    let run := Run.of (Controller.start bus settings) events
    let last : Step β := { before := run.controller, event }
    change last.after.state.transferActive = true ↔ _
    rw [last.accounts.active, ih]
    constructor
    · rintro (starts | ⟨⟨earlier, step, later, split, starts, faults⟩, rejected⟩)
      · exact ⟨run.history, last, [], rfl, starts, by simp⟩
      · refine ⟨earlier, step, later ++ [last], snoc_split.mpr (.inr ⟨later, rfl, split⟩), starts, ?_⟩
        simpa [or_imp, forall_and] using ⟨faults, rejected⟩
    · rintro ⟨earlier, step, later, split, starts, faults⟩
      rcases snoc_split.mp split with ⟨rfl, rfl, rfl⟩ | ⟨rest, rfl, same⟩
      · exact .inl starts
      · refine .inr ⟨⟨earlier, step, rest, same, starts, fun next member => ?_⟩, ?_⟩
        · exact faults next (List.mem_append_left _ member)
        · exact faults last (List.mem_append_right _ (List.mem_singleton_self last))

theorem escalate_iff (bus : β) (settings : Settings) (events : List (Event β)) :
    let run := Run.of (Controller.start bus settings) events
    run.controller.state.escalate = true ↔ ∃ step ∈ run.history, step.Presses := by
  refine Run.run_induction (fun run => run.controller.state.escalate = true ↔ ∃ step ∈ run.history, step.Presses)
    (Controller.start bus settings) ?_ ?_ events
  · simp [Controller.start, State.initial]
  · intro events event ih
    let last : Step β := { before := (Run.of (Controller.start bus settings) events).controller, event }
    change last.after.state.escalate = true ↔ _
    rw [last.accounts.escalate, ih]
    simp [Run.extend, or_and_right, exists_or, last]

-- the answers that leave the retry as it is
def Submission.Quiet : Submission → Prop
  | .refused .notReady | .refused .retry | .deferred => False
  | _ => True

theorem escalate_of_quiet {step : Step β} {submission : Submission} (answered : step.submission? = some submission)
    (quiet : submission.Quiet) : step.after.state.escalate = step.before.state.escalate := by
  have silent : ¬ step.Presses := by
    unfold Step.Presses Submission.RefusesTry
    rw [answered]
    rintro (deferred | ⟨refused | refused, -⟩)
    · cases deferred; exact quiet
    · cases refused; exact quiet
    · cases refused; exact quiet
  have same := step.accounts.escalate
  rw [or_iff_left silent] at same
  exact Bool.eq_iff_iff.mpr same

theorem transfer_and_retry_flags_tell_the_history (bus : β) (settings : Settings) (events : List (Event β)) :
    let run := Run.of (Controller.start bus settings) events
    (run.controller.state.transferActive = true ↔
      ∃ earlier step later, run.history = earlier ++ step :: later ∧ step.Starts ∧
        ∀ next ∈ later, next.request?.isSome → next.FaultRejects) ∧
    (run.controller.state.escalate = true ↔ ∃ step ∈ run.history, step.Presses) ∧
    ∀ step ∈ run.history, (step.before.state.escalate = true → step.after.state.escalate = true) ∧
      ∀ submission, step.submission? = some submission → submission.Quiet →
        step.after.state.escalate = step.before.state.escalate := by
  intro run
  refine ⟨transfer_active_iff bus settings events, escalate_iff bus settings events, fun step _ => ⟨fun set => ?_, ?_⟩⟩
  · exact step.accounts.escalate.mpr (.inl set)
  · exact fun submission answered quiet => escalate_of_quiet answered quiet

-- A fault turns the second action away: its caller should press the retry, and the transfer goes on.
example :
    let run := Run.of (Controller.start (Pins.asking 0) .reference)
      [.plainPass, .flags true false false false, .plainPass]
    run.controller.state.transferActive = true ∧ run.controller.state.escalate = true := by
  decide +kernel

end StorageBridge
