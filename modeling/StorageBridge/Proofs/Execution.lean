import StorageBridge.Controller.Basic

/-!
How steps of the core run: what a bind does, which view of the controller a step keeps, and where it
may stall.
-/

set_option autoImplicit false

namespace StorageBridge.BridgeM

variable {β α γ ν μ : Type}

def ending : EStateM.Result Stall (Controller β) α → Controller β
  | .ok _ after => after
  | .error _ after => after

theorem bind_of_ok {step : BridgeM β α} {before after : Controller β} {value : α}
    (ended : step before = .ok value after) (next : α → BridgeM β γ) :
    (step >>= next) before = next value after := by
  change EStateM.bind step next before = _
  simp only [EStateM.bind, ended]

theorem bind_of_error {step : BridgeM β α} {before after : Controller β} {stall : Stall}
    (ended : step before = .error stall after) (next : α → BridgeM β γ) :
    (step >>= next) before = .error stall after := by
  change EStateM.bind step next before = _
  simp only [EStateM.bind, ended]

theorem ok_of_bind {step : BridgeM β α} {next : α → BridgeM β γ} {before after : Controller β} {answer : γ}
    (ended : (step >>= next) before = .ok answer after) :
    ∃ value between, step before = .ok value between ∧ next value between = .ok answer after := by
  cases started : step before with
  | ok value between => exact ⟨value, between, rfl, (bind_of_ok started next).symm.trans ended⟩
  | error stall stalled => cases (bind_of_error started next).symm.trans ended

theorem bind_of_same {step other : BridgeM β α} {before between : Controller β} (same : step before = other between)
    (next : α → BridgeM β γ) : (step >>= next) before = (other >>= next) between := by
  change EStateM.bind step next before = EStateM.bind other next between
  simp only [EStateM.bind, same]

theorem bind_pure (value : α) (next : α → BridgeM β γ) (before : Controller β) :
    (pure value >>= next) before = next value before := rfl

theorem bind_get_state (next : State → BridgeM β γ) (before : Controller β) :
    (getState >>= next) before = next before.state before := rfl

theorem bind_modify_state (change : State → State) (next : Unit → BridgeM β γ) (before : Controller β) :
    (modifyState change >>= next) before = next () { before with state := change before.state } := rfl

theorem bind_tally (change : Statistics → Statistics) (next : Unit → BridgeM β γ) (before : Controller β) :
    (tally change >>= next) before = next () { before with statistics := change before.statistics } := rfl

theorem bind_read [Bus β] (address : Address) (next : Byte → BridgeM β γ) (before : Controller β) :
    (readByte address >>= next) before =
      next (Bus.read before.bus address).1 { before with bus := (Bus.read before.bus address).2 } := rfl

theorem bind_modify_byte [Bus β] (address : Address) (clear set : Byte) (next : Unit → BridgeM β γ) (before : Controller β) :
    (modifyByte address clear set >>= next) before = next () { before with bus := Bus.modify before.bus address clear set } := rfl

theorem wait_for_ends [Bus β] (address : Address) (mask : Byte) (before : Controller β) :
    waitFor address mask before =
      if (Bus.wait before.bus address mask .forever).1 then
        .ok () { before with bus := (Bus.wait before.bus address mask .forever).2 }
      else .error { address, mask } { before with bus := (Bus.wait before.bus address mask .forever).2 } := rfl

-- A frame condition is an equation on a view that leaves out what the step may change. It holds
-- whether the step answers or stalls, and a stall is one of those named.
structure Keeps (view : Controller β → ν) (stalls : Stall → Prop) (step : BridgeM β α) : Prop where
  ends : ∀ before, match step before with
    | .ok _ after => view after = view before
    | .error stall after => view after = view before ∧ stalls stall

def never : Stall → Prop := fun _ => False

theorem keeps_ok {view : Controller β → ν} {stalls : Stall → Prop} {step : BridgeM β α}
    {before after : Controller β} {value : α} (kept : Keeps view stalls step)
    (ended : step before = .ok value after) : view after = view before := by
  have same := kept.ends before
  simpa only [ended] using same

theorem keeps_error {view : Controller β → ν} {stalls : Stall → Prop} {step : BridgeM β α}
    {before after : Controller β} {stall : Stall} (kept : Keeps view stalls step)
    (ended : step before = .error stall after) : view after = view before ∧ stalls stall := by
  have same := kept.ends before
  simpa only [ended] using same

theorem keeps_answers {view : Controller β → ν} {step : BridgeM β α} (kept : Keeps view never step)
    (before : Controller β) : ∃ value after, step before = .ok value after ∧ view after = view before := by
  cases ended : step before with
  | ok value after => exact ⟨value, after, rfl, keeps_ok kept ended⟩
  | error stall after => exact False.elim (keeps_error kept ended).2

theorem ends_of_ok {step : BridgeM β α} {next : α → BridgeM β γ} {holds : EStateM.Result Stall (Controller β) γ → Prop}
    {before between : Controller β} {value : α} (ended : step before = .ok value between)
    (rest : holds (next value between)) : holds ((step >>= next) before) := by
  rw [bind_of_ok ended]
  exact rest

theorem ends_after_keeping {view : Controller β → ν} {step : BridgeM β α} {next : α → BridgeM β γ}
    {holds : EStateM.Result Stall (Controller β) γ → Prop} {before : Controller β} (kept : Keeps view never step)
    (rest : ∀ value between, view between = view before → holds (next value between)) :
    holds ((step >>= next) before) := by
  obtain ⟨value, between, ended, same⟩ := keeps_answers kept before
  exact ends_of_ok ended (rest value between same)

theorem keeps_bind {view : Controller β → ν} {stalls : Stall → Prop} {step : BridgeM β α}
    {next : α → BridgeM β γ} (first : Keeps view stalls step)
    (rest : ∀ value, Keeps view stalls (next value)) : Keeps view stalls (step >>= next) := by
  refine ⟨fun before => ?_⟩
  cases started : step before with
  | ok value between =>
      have kept := (rest value).ends between
      rw [bind_of_ok started]
      rwa [keeps_ok first started] at kept
  | error stall after =>
      rw [bind_of_error started]
      exact keeps_error first started

theorem keeps_pure (view : Controller β → ν) (stalls : Stall → Prop) (value : α) :
    Keeps view stalls (pure value) :=
  ⟨fun _ => rfl⟩

theorem keeps_for_each {ι : Type} {view : Controller β → ν} {stalls : Stall → Prop} {step : ι → BridgeM β Unit}
    (each : ∀ item, Keeps view stalls (step item)) (items : List ι) : Keeps view stalls (items.forM step) := by
  induction items with
  | nil => exact keeps_pure _ _ _
  | cons item rest ih => exact keeps_bind (each item) fun _ => ih

theorem keeps_ending {view : Controller β → ν} {stalls : Stall → Prop} {step : BridgeM β α}
    (kept : Keeps view stalls step) (before : Controller β) : view (ending (step before)) = view before := by
  cases ended : step before with
  | ok value after => exact keeps_ok kept ended
  | error stall after => exact (keeps_error kept ended).1

-- What a fine view keeps, every coarser view keeps.
theorem keeps_coarser {fine : Controller β → ν} {stalls : Stall → Prop} {step : BridgeM β α}
    (kept : Keeps fine stalls step) (coarsen : ν → μ) :
    Keeps (fun controller => coarsen (fine controller)) stalls step := by
  refine ⟨fun before => ?_⟩
  cases ended : step before with
  | ok value after => exact congrArg coarsen (keeps_ok kept ended)
  | error stall after =>
      obtain ⟨same, named⟩ := keeps_error kept ended
      exact ⟨congrArg coarsen same, named⟩

theorem keeps_with_stalls {view : Controller β → ν} {stalls named : Stall → Prop} {step : BridgeM β α}
    (kept : Keeps view stalls step) (included : ∀ stall, stalls stall → named stall) : Keeps view named step := by
  refine ⟨fun before => ?_⟩
  cases ended : step before with
  | ok value after => exact keeps_ok kept ended
  | error stall after =>
      obtain ⟨same, stalled⟩ := keeps_error kept ended
      exact ⟨same, included stall stalled⟩

theorem keeps_wait [Bus β] {view : Controller β → ν} {stalls : Stall → Prop}
    (blind : ∀ controller bus, view { controller with bus } = view controller)
    (address : Address) (mask : Byte) (named : stalls { address, mask }) :
    Keeps view stalls (waitFor address mask) := by
  refine ⟨fun before => ?_⟩
  cases seen : (Bus.wait before.bus address mask .forever).1 with
  | true => simp only [waitFor, seen, if_true, blind]
  | false => simp only [waitFor, seen, Bool.false_eq_true, if_false, blind, named, and_self]

end StorageBridge.BridgeM
