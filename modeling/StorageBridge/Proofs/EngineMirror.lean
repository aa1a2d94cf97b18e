import StorageBridge.Proofs.TransferAddress

/-!
The engine registers over a whole run. Each transfer that is recorded shows in them. The offset register
may have been left with a byte that the state does not know of; the first simple command that is taken
up writes both, and from then on they agree.
-/

set_option autoImplicit false

namespace StorageBridge

open BridgeM

namespace Submission

variable {agrees : Byte → Byte → Prop} {before : Controller Board}

-- A simple command settles the offset, whatever the register told of it before.
theorem submit_settles {action : Action} (simple : action.isExtended = false) (param1 param2 : Byte)
    (mirrored : Transfer.Mirrored agrees before) :
    match submit param1 param2 action before with
    | .ok submission after => submission.accepts = true → Transfer.Mirrored Eq after
    | .error stall after => stall = Transfer.unready → Transfer.Mirrored Eq after := by
  have checked := Transfer.check_mirrors (marked action before) (Transfer.mirrored_of_tied before _ rfl mirrored)
  have outcome := submit_outcome param1 param2 action before
  generalize submit param1 param2 action before = result at outcome
  cases outcome with
  | untrained stall after stalled =>
      intro unready
      rw [(keeps_error Readiness.check_keeps stalled).2] at unready
      cases unready
  | refused readiness between passed refuses => exact nofun
  | held between passed taken =>
      obtain ⟨transferring, after, answered, -⟩ := held_answers between.state.ring.index between
      rw [answered]
      cases transferring <;> exact nofun
  | accepted between passed free =>
      rw [passed] at checked
      change Transfer.Mirrored agrees between at checked
      have settled := accept_programs between.state.ring.index param1 param2 action checked
      rw [settledBy, if_neg (Bool.eq_false_iff.mp simple)] at settled
      cases ended : accept between.state.ring.index param1 param2 action between with
      | ok submission after =>
          rw [ended] at settled
          exact fun _ => settled
      | error stall after =>
          rw [ended] at settled
          exact fun _ => settled

end Submission

namespace Transfer

variable {agrees : Byte → Byte → Prop}

theorem mirrored_of_begins {before begun : Controller Board} (begins : Transport.Begins before begun)
    (mirrored : Mirrored agrees before) : Mirrored agrees begun := by
  obtain ⟨coreState, state⟩ := begins.state
  refine mirrored_of_tied before begun (Prod.ext (congrArg (Board.shown mirrors) begins.bus) ?_) mirrored
  change fields begun.state = fields before.state
  rw [state]
  rfl

-- A pass that takes up a simple command settles the offset, also when it stalls on the engine.
theorem pass_settles {η : Type} {handler : EndpointHandler η Board} {own : η} {before : Controller Board} {request : Request}
    {handedOff : Bool} (calm : ∀ offset own board, (handler offset own board).2.shown mirrors = board.shown mirrors)
    (accepted : Step.happening { before, event := .pass handler own } = .accepted request handedOff)
    (simple : request.action.isExtended = false) (mirrored : Mirrored agrees before) :
    Mirrored Eq (Step.after { before, event := .pass handler own }) := by
  let step : Step Board := { before, event := .pass handler own }
  obtain ⟨result, passed, answer, ended⟩ := Controller.pass_step handler own before
  have happened : step.event.happening (Transport.request? before.bus) step.answer = .accepted request handedOff := accepted
  rw [answer] at happened
  rw [ended]
  cases passed with
  | latched reset closed => cases happened
  | idle between after endpoints own' unlatched unasked settings state served => cases happened
  | answered asked begun between after submission endpoints own' unlatched shown begins submitted served =>
      change Happening.ofRequest (Transport.request? before.bus) submission.accepts true = _ at happened
      rw [shown] at happened
      obtain ⟨rfl, accepts, -⟩ := accepted_of_asked happened
      have settled := Submission.submit_settles simple asked.param1 asked.param2 (mirrored_of_begins begins mirrored)
      rw [submitted] at settled
      have kept := mirrored_lasts.service calm own between (settled accepts)
      rw [served] at kept
      exact kept
  | stalled asked begun after stall unlatched shown begins submitted =>
      change Happening.ofRequest (Transport.request? before.bus) (decide (stall = Transfer.unready)) false = _ at happened
      rw [shown] at happened
      obtain ⟨rfl, taken, -⟩ := accepted_of_asked happened
      have settled := Submission.submit_settles simple asked.param1 asked.param2 (mirrored_of_begins begins mirrored)
      rw [submitted] at settled
      exact settled (of_decide_eq_true taken)

theorem step_settles {step : Step Board} {request : Request} {handedOff : Bool}
    (spares : step.event.Spares mirrors step.before.bus) (accepted : step.happening = .accepted request handedOff)
    (simple : request.action.isExtended = false) (mirrored : Mirrored agrees step.before) : Mirrored Eq step.after := by
  obtain ⟨before, event⟩ := step
  cases event with
  | pass handler own => exact pass_settles spares accepted simple mirrored
  | completion event =>
      have nothing := completion_accepts_nothing event before
      rw [accepted] at nothing
      cases nothing
  | takeRetry => cases accepted
  | flags fault commandActive transferState powerInit => cases accepted
  | hardware bus => cases accepted

theorem run_settles [Std.Refl agrees] {controller : Controller Board} (initial : Mirrored agrees controller)
    (events : List (Event Board))
    (spared : ∀ step ∈ (Run.of controller events).history, step.event.Spares mirrors step.before.bus)
    (settles : ∃ request ∈ acceptedRequests (Run.of controller events).happenings, request.action.isExtended = false) :
    Mirrored Eq (Run.of controller events).controller := by
  refine Run.run_induction (fun run => (∀ step ∈ run.history, step.event.Spares mirrors step.before.bus) →
    (∃ request ∈ acceptedRequests run.happenings, request.action.isExtended = false) → Mirrored Eq run.controller)
    controller ?_ ?_ events spared settles
  · rintro - ⟨request, member, -⟩
    cases member
  · rintro events event ih spared ⟨request, member, simple⟩
    let last : Step Board := { before := (Run.of controller events).controller, event }
    have sooner := fun step member => spared step (List.mem_append_left _ member)
    have spares : last.event.Spares mirrors last.before.bus :=
      spared last (List.mem_append_right _ (List.mem_singleton.mpr rfl))
    rw [Run.happenings_extend, acceptedRequests, List.filterMap_append] at member
    rcases List.mem_append.mp member with earlier | now
    · exact mirrored_lasts.step last spares (ih sooner ⟨request, earlier, simple⟩)
    · obtain ⟨happening, here, accepted⟩ := List.mem_filterMap.mp now
      obtain rfl := List.mem_singleton.mp here
      change last.happening.accepted? = some request at accepted
      cases happened : last.happening with
      | accepted asked handedOff =>
          rw [happened] at accepted
          cases accepted
          exact step_settles spares happened simple (mirrored_lasts.run initial events sooner)
      | retired slot =>
          rw [happened] at accepted
          cases accepted
      | other =>
          rw [happened] at accepted
          cases accepted

end Transfer

-- How the offset register stands to the offset that is recorded, on a board that held a byte there when
-- the run began: they agree, or the register still holds that byte and nothing was recorded.
def Transfer.OffsetSince (held shown recorded : Byte) : Prop :=
  shown = recorded ∨ (held ≠ 0 ∧ shown = held ∧ recorded = 0)

instance (held : Byte) : Std.Refl (Transfer.OffsetSince held) :=
  ⟨fun _ => .inl rfl⟩

theorem Transfer.mirrored_at_start {board : Board} (unmarked : ∀ address ∈ mirrors, address ∉ board.oneToClear)
    (settings : Settings) :
    Mirrored (OffsetSince (board.peek Reg.Dma.bufferOffset)) (Controller.start board settings) :=
  { unmarked
    shows := fun transfer recorded => by cases recorded
    offset := by
      by_cases zero : board.peek Reg.Dma.bufferOffset = 0
      · exact .inl zero
      · exact .inr ⟨zero, rfl, rfl⟩
    active := ⟨nofun, fun nonzero => absurd rfl nonzero⟩
    recorded := fun active => by cases active }

-- The engine was used before, and its offset register was left at five.
def Board.used : Board :=
  Board.powered.poke Reg.Dma.bufferOffset 5

theorem Board.used_unmarked : ∀ address ∈ Transfer.mirrors, address ∉ Board.used.oneToClear :=
  Board.not_mem_of_apart (show Board.apart Transfer.mirrors Board.used.oneToClear = true by decide +kernel)

-- the host asks for a simple command that fits its window
def simpleRequest : List (Event Board) :=
  [.hardware ((Board.asking 0x2A 1).poke Reg.Dma.bufferOffset 5), .plainPass]

end StorageBridge
