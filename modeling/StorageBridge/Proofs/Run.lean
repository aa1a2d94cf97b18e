import StorageBridge.Controller.Passes

/-!
Runs of a controller. The platform polls, reports completions, takes retry requests and sets the
readiness flags in any order, and the hardware may be another one after each of them. A pass that
stalls leaves the controller as it stands, and the run goes on from there.
-/

set_option autoImplicit false

namespace StorageBridge

inductive Event (β : Type) : Type 1 where
  | pass {η : Type} (handler : EndpointHandler η β) (own : η)
  | completion (event : Byte)
  | takeRetry
  | flags (fault commandActive transferState powerInit : Bool)
  | hardware (bus : β)

inductive Answer where
  | passed (pass : Pass)
  | completed (result : Except RequestError Completion)
  | retry (request : Option RetryRequest)
  | stalled (stall : Stall)
  | silent

variable {β : Type}

def Answer.ofResult {α : Type} (answer : α → Answer) : EStateM.Result Stall (Controller β) α → Answer × Controller β
  | .ok value after => (answer value, after)
  | .error stall after => (.stalled stall, after)

def Event.run [Bus β] (before : Controller β) : Event β → Answer × Controller β
  | pass handler own => Answer.ofResult (fun answer => .passed answer.1) (Controller.poll handler own before)
  | completion event => Answer.ofResult .completed (Controller.complete event before)
  | takeRetry => Answer.ofResult .retry (Controller.takeRetry before)
  | flags fault commandActive transferState powerInit =>
      (.silent, { before with state := { before.state with fault, commandActive, transferState, powerInit } })
  | hardware bus => (.silent, { before with bus })

structure Step (β : Type) : Type 1 where
  before : Controller β
  event : Event β

def Step.answer [Bus β] (step : Step β) : Answer :=
  (step.event.run step.before).1

def Step.after [Bus β] (step : Step β) : Controller β :=
  (step.event.run step.before).2

-- the steps made so far, oldest first, and the controller as they left it
structure Run (β : Type) : Type 1 where
  history : List (Step β) := []
  controller : Controller β

-- where a list that grew by one item can be split
theorem snoc_split {α : Type _} {items earlier later : List α} {last item : α} :
    items ++ [last] = earlier ++ item :: later ↔
      (later = [] ∧ earlier = items ∧ item = last) ∨ ∃ rest, later = rest ++ [last] ∧ items = earlier ++ item :: rest := by
  constructor
  · intro same
    rcases List.eq_nil_or_concat later with rfl | ⟨rest, final, rfl⟩
    · obtain ⟨rfl, ends⟩ := List.append_inj' same rfl
      exact .inl ⟨rfl, rfl, (List.cons.inj ends).1.symm⟩
    · rw [List.concat_eq_append, ← List.cons_append, ← List.append_assoc] at same
      obtain ⟨rfl, ends⟩ := List.append_inj' same rfl
      obtain rfl := (List.cons.inj ends).1
      exact .inr ⟨rest, List.concat_eq_append, rfl⟩
  · rintro (⟨rfl, rfl, rfl⟩ | ⟨rest, rfl, rfl⟩)
    · rfl
    · rw [List.append_assoc, List.cons_append]

namespace Run

variable [Bus β]

def extend (run : Run β) (event : Event β) : Run β :=
  let step : Step β := { before := run.controller, event }
  { history := run.history ++ [step], controller := step.after }

def of (controller : Controller β) (events : List (Event β)) : Run β :=
  events.foldl extend { controller }

theorem of_append (controller : Controller β) (earlier later : List (Event β)) :
    of controller (earlier ++ later) = later.foldl extend (of controller earlier) :=
  List.foldl_append

theorem of_snoc (controller : Controller β) (events : List (Event β)) (event : Event β) :
    of controller (events ++ [event]) = (of controller events).extend event :=
  of_append controller events [event]

-- What holds at the start and is kept by every event holds in every run.
theorem run_induction (holds : Run β → Prop) (controller : Controller β) (initial : holds { controller })
    (next : ∀ events event, holds (of controller events) → holds ((of controller events).extend event))
    (events : List (Event β)) : holds (of controller events) := by
  have onward (earlier : List (Event β)) (held : holds (of controller earlier)) :
      holds (of controller (earlier ++ events)) := by
    induction events generalizing earlier with
    | nil => rwa [List.append_nil]
    | cons event rest ih =>
        rw [List.append_cons]
        apply ih
        rw [of_snoc]
        exact next earlier event held
  exact onward [] initial

-- Every step of a run begins where a shorter run ends.
theorem step_begins (controller : Controller β) (events : List (Event β)) :
    ∀ earlier step later, (of controller events).history = earlier ++ step :: later →
      ∃ sooner, of controller sooner = { history := earlier, controller := step.before } := by
  refine run_induction (fun run => ∀ earlier step later, run.history = earlier ++ step :: later →
    ∃ sooner, of controller sooner = { history := earlier, controller := step.before }) controller ?_ ?_ events
  · intro earlier step later split
    simp at split
  · intro events event ih earlier step later split
    rcases snoc_split.mp split with ⟨_, rfl, rfl⟩ | ⟨rest, _, same⟩
    · exact ⟨events, rfl⟩
    · exact ih earlier step rest same

end Run

-- Hardware whose registers never move, for runs that are followed to their end.
structure Pins where
  shown : Address → Byte

instance : Bus Pins where
  read pins address := (pins.shown address, pins)
  write pins _ _ := pins
  wait pins address mask _ := ((pins.shown address).meets mask, pins)

-- The host asks for an extended transfer as a burst of one; the link is up and trained and the engine
-- idle.
def Pins.asking (depth : Byte) : Pins where
  shown address :=
    if address = Reg.Transport.status then 0x88
    else if address = Reg.Transport.param1 then 1
    else if address = Reg.Backend.linkStatus then Reg.Backend.linkUp ||| Reg.Backend.linkTrained
    else if address = Reg.Backend.queueDepth then depth
    else if address = Reg.Dma.ready then Reg.Dma.readyIdle
    else 0

def Event.plainPass : Event β :=
  .pass (fun _ own bus => (own, bus)) ()

end StorageBridge
