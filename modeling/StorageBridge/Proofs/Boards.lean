import StorageBridge.Board.Basic
import StorageBridge.Proofs.Footprints
import StorageBridge.Proofs.Frames
import StorageBridge.Proofs.Memory

/-!
The core over a simulated board. An invariant that ties some registers to the state lasts through a
run when the readiness check, the acceptance of an action and a completion keep it, and when neither
the hardware nor a handler moves those registers.
-/

set_option autoImplicit false

namespace StorageBridge

open BridgeM Recorder

namespace Byte

variable {clear set mask : Byte}

theorem revise_and (old clear set mask : Byte) :
    old.revise clear set &&& mask = (old &&& (~~~clear &&& mask)) ||| (set &&& mask) := by
  apply UInt8.eq_of_toBitVec_eq
  ext i bound
  simp [revise, Bool.and_or_distrib_right, Bool.and_assoc]

theorem revise_meets_other (kept : ~~~clear &&& mask = mask) (unset : set &&& mask = 0) (old : Byte) :
    (old.revise clear set).meets mask = old.meets mask := by
  simp [meets, revise_and, kept, unset]

theorem revise_meets_set (added : set &&& mask = mask) (nonzero : mask ≠ 0) (old : Byte) :
    (old.revise clear set).meets mask = true := by
  simp [meets, revise_and, added, nonzero]

theorem revise_meets_cleared (dropped : ~~~clear &&& mask = 0) (unset : set &&& mask = 0) (old : Byte) :
    (old.revise clear set).meets mask = false := by
  simp [meets, revise_and, dropped, unset]

end Byte

namespace Board

variable {board : Board} {address other : Address} {watched : List Address}

theorem peek_write (unmarked : address ∉ board.oneToClear) (value : Byte) :
    (Bus.write board address value).peek address = value := by
  have stored : board.written address value = value := if_neg unmarked
  exact (Memory.peek_poke _ _ _ _).trans ((if_pos rfl).trans stored)

theorem peek_write_other (different : address ≠ other) (value : Byte) :
    (Bus.write board address value).peek other = board.peek other :=
  (Memory.peek_poke _ _ _ _).trans (if_neg different)

theorem peek_modify (unmarked : address ∉ board.oneToClear) (clear set : Byte) :
    (Bus.modify board address clear set).peek address = (board.peek address).revise clear set :=
  peek_write unmarked _

theorem peek_modify_other (different : address ≠ other) (clear set : Byte) :
    (Bus.modify board address clear set).peek other = board.peek other :=
  peek_write_other different _

theorem peek_wait_other (different : address ≠ other) (mask : Byte) (budget : WaitBudget) :
    (Bus.wait board address mask budget).2.peek other = board.peek other :=
  (Memory.peek_poke _ _ _ _).trans (if_neg different)

def apart (addresses watched : List Address) : Bool :=
  addresses.all fun address => !watched.contains address

theorem not_mem_of_apart {addresses : List Address} (disjoint : apart addresses watched = true) :
    ∀ address ∈ addresses, address ∉ watched := by
  simpa [apart] using disjoint

-- what registers hold, and whether a written one clears them
def shown (watched : List Address) (board : Board) : List (Byte × Bool) :=
  watched.map fun address => (board.peek address, decide (address ∈ board.oneToClear))

theorem shown_eq_iff {a b : Board} : a.shown watched = b.shown watched ↔
    ∀ address ∈ watched, a.peek address = b.peek address ∧ (address ∈ a.oneToClear ↔ address ∈ b.oneToClear) := by
  simp [shown, List.map_inj_left]

theorem shown_write (outside : address ∉ watched) (value : Byte) :
    (Bus.write board address value).shown watched = board.shown watched := by
  refine shown_eq_iff.mpr fun other member => ⟨peek_write_other ?_ value, Iff.rfl⟩
  rintro rfl
  exact outside member

theorem shown_modify (outside : address ∉ watched) (clear set : Byte) :
    (Bus.modify board address clear set).shown watched = board.shown watched :=
  shown_write outside _

theorem shown_wait (outside : address ∉ watched) (mask : Byte) (budget : WaitBudget) :
    (Bus.wait board address mask budget).2.shown watched = board.shown watched := by
  refine shown_eq_iff.mpr fun other member => ⟨peek_wait_other ?_ mask budget, Iff.rfl⟩
  rintro rfl
  exact outside member

theorem spares_shown {touched : Address → Prop} {calls : Byte → Board → Board → Prop}
    (apart : ∀ address, touched address → address ∉ watched)
    (calm : ∀ offset board moved, calls offset board moved → moved.shown watched = board.shown watched) :
    Spares (shown watched) touched calls :=
  { read := fun _ _ => rfl
    write := fun _ address value touched => shown_write (apart address touched) value
    wait := fun _ address mask budget touched => shown_wait (apart address touched) mask budget
    call := calm }

end Board

namespace BridgeM

variable {β α γ ν μ : Type} {holds : Controller β → Prop}

-- A stall counts: what holds before the step holds where it stalls, too.
def Preserves (holds : Controller β → Prop) (step : BridgeM β α) : Prop :=
  ∀ before, holds before → holds (ending (step before))

-- The first step may need more than what all the others keep.
theorem holds_after_bind {step : BridgeM β α} {next : α → BridgeM β γ} {before : Controller β}
    (first : holds (ending (step before))) (rest : ∀ value, Preserves holds (next value)) :
    holds (ending ((step >>= next) before)) := by
  cases ended : step before with
  | ok value after =>
      rw [ended] at first
      rw [bind_of_ok ended]
      exact rest value after first
  | error stall after =>
      rw [ended] at first
      rwa [bind_of_error ended]

-- Where the first step never stalls, the others may start from something else than what they bring about.
theorem holds_after_answer {between : Controller β → Prop} {view : Controller β → ν} {step : BridgeM β α}
    {next : α → BridgeM β γ} {before : Controller β} (answers : Keeps view never step) (first : between (ending (step before)))
    (rest : ∀ value after, between after → holds (ending (next value after))) : holds (ending ((step >>= next) before)) := by
  obtain ⟨value, after, ended, -⟩ := keeps_answers answers before
  rw [ended] at first
  rw [bind_of_ok ended]
  exact rest value after first

theorem preserves_bind {step : BridgeM β α} {next : α → BridgeM β γ} (first : Preserves holds step)
    (rest : ∀ value, Preserves holds (next value)) : Preserves holds (step >>= next) :=
  fun before held => holds_after_bind (first before held) rest

theorem preserves_kept {view : Controller β → ν} {stalls : Stall → Prop} {step : BridgeM β α}
    (framed : ∀ before after, view after = view before → holds before → holds after) (kept : Keeps view stalls step) :
    Preserves holds step :=
  fun before => framed before _ (keeps_ending kept before)

theorem keeps_both {first : Controller β → ν} {second : Controller β → μ} {stalls named : Stall → Prop} {step : BridgeM β α}
    (one : Keeps first stalls step) (other : Keeps second named step) :
    Keeps (fun controller => (first controller, second controller)) stalls step := by
  refine ⟨fun before => ?_⟩
  cases ended : step before with
  | ok value after => exact Prod.ext (keeps_ok one ended) (keeps_ok other ended)
  | error stall after =>
      obtain ⟨same, stalled⟩ := keeps_error one ended
      exact ⟨Prod.ext same (keeps_error other ended).1, stalled⟩

end BridgeM

-- the parts of the state that registers tell
structure Published where
  ring : CommandRing
  secondaryUpdate : Bool
  transferActive : Bool
  dmaMode : Byte
  bufferOffset : Byte
  lastTransfer : Option Transfer

def State.published (state : State) : Published :=
  { ring := state.ring
    secondaryUpdate := state.secondaryUpdate
    transferActive := state.transferActive
    dmaMode := state.dmaMode
    bufferOffset := state.bufferOffset
    lastTransfer := state.lastTransfer }

-- what an invariant on the watched registers and on some fields of the state depends on
def Controller.tied {ν : Type} (watched : List Address) (fields : State → ν) (controller : Controller Board) :
    List (Byte × Bool) × ν :=
  (controller.bus.shown watched, fields controller.state)

theorem preserves_apart {α ν : Type} {watched : List Address} {fields : State → ν} {holds : Controller Board → Prop}
    {touched : Address → Prop} {stalls : Stall → Prop} {recorded : BridgeM (Recorder Board) α} {step : BridgeM Board α}
    (tied : ∀ before after : Controller Board, after.tied watched fields = before.tied watched fields → holds before → holds after)
    (records : Records touched (fun _ _ _ => False) recorded step) (apart : ∀ address, touched address → address ∉ watched)
    (kept : Keeps (fun controller : Controller Board => fields controller.state) stalls step) : Preserves holds step :=
  preserves_kept tied (keeps_both (keeps_spared records (Board.spares_shown apart fun _ _ _ => False.elim)) kept)

structure Lasting (watched : List Address) (holds : Controller Board → Prop) : Prop where
  framed : ∀ before after, after.tied watched State.published = before.tied watched State.published → holds before → holds after
  checked : Preserves holds Readiness.check
  accepted : ∀ before param1 param2 action, holds before →
    holds (ending (Submission.accept before.state.ring.index param1 param2 action before))
  completed : ∀ event, Preserves holds (Completion.handle event)
  apart : ∀ address ∈ Endpoint.registers, address ∉ watched

-- Nobody but the core moves the watched registers.
def Event.Spares (watched : List Address) (before : Board) : Event Board → Prop
  | pass handler _ => ∀ offset own board, (handler offset own board).2.shown watched = board.shown watched
  | hardware board => board.shown watched = before.shown watched
  | _ => True

namespace Lasting

variable {η : Type} {watched : List Address} {holds : Controller Board → Prop}

theorem silent {α : Type} {step : BridgeM Board α} (lasting : Lasting watched holds)
    (same : ∀ before, (ending (step before)).tied watched State.published = before.tied watched State.published) : Preserves holds step :=
  fun before => lasting.framed before _ (same before)

theorem place (lasting : Lasting watched holds) (param1 param2 : Byte) (action : Action) :
    Preserves holds (Submission.place param1 param2 action) := by
  intro before held
  unfold Submission.place
  rw [bind_get_state]
  by_cases free : (before.state.ring.slot before.state.ring.index).isFree = true
  · rw [if_pos free]
    exact lasting.accepted before param1 param2 action held
  · rw [if_neg free]
    exact lasting.framed before _ rfl held

theorem submit (lasting : Lasting watched holds) (param1 param2 : Byte) (action : Action) :
    Preserves holds (Submission.submit param1 param2 action) := by
  refine preserves_bind (lasting.silent fun _ => rfl) fun before => ?_
  refine preserves_bind (lasting.silent fun _ => rfl) fun _ => preserves_bind lasting.checked fun readiness => ?_
  split
  · exact lasting.place param1 param2 action
  · exact lasting.silent fun _ => rfl

theorem classify (lasting : Lasting watched holds) : Preserves holds Transport.classify := by
  refine preserves_bind (lasting.silent fun _ => rfl) fun status => ?_
  split
  · refine preserves_bind ?_ fun _ => lasting.silent fun _ => rfl
    refine preserves_bind (lasting.silent fun _ => rfl) fun low => ?_
    refine preserves_bind (lasting.silent fun _ => rfl) fun high => ?_
    refine preserves_bind (lasting.silent fun _ => rfl) fun _ => ?_
    refine preserves_bind (lasting.silent fun _ => rfl) fun param1 => ?_
    refine preserves_bind (lasting.silent fun _ => rfl) fun param2 => ?_
    refine preserves_bind (lasting.silent fun _ => rfl) fun _ => ?_
    exact preserves_bind (lasting.silent fun _ => rfl) fun _ => lasting.submit param1 param2 _
  · exact lasting.silent fun _ => rfl

theorem service (lasting : Lasting watched holds) {handler : EndpointHandler η Board}
    (calm : ∀ offset own board, (handler offset own board).2.shown watched = board.shown watched) (own : η) :
    Preserves holds (Endpoint.service handler own) := by
  have spares : Spares (Board.shown watched) (· ∈ Endpoint.registers) (handled handler) := by
    refine Board.spares_shown lasting.apart ?_
    rintro offset board _ ⟨own, rfl⟩
    exact calm offset own board
  have shows := keeps_spared (Endpoint.service_records handler own) spares
  have states : Keeps (fun controller : Controller Board => controller.state.published) never (Endpoint.service handler own) :=
    keeps_coarser (Endpoint.service_keeps handler own) fun rest => rest.2.1.published
  exact preserves_kept lasting.framed (keeps_both shows states)

theorem poll (lasting : Lasting watched holds) {handler : EndpointHandler η Board}
    (calm : ∀ offset own board, (handler offset own board).2.shown watched = board.shown watched) (own : η) :
    Preserves holds (Controller.poll handler own) := by
  refine preserves_bind (lasting.silent fun _ => rfl) fun state => ?_
  split
  · exact lasting.silent fun _ => rfl
  · refine preserves_bind (lasting.silent fun _ => rfl) fun _ => preserves_bind lasting.classify fun submission => ?_
    exact preserves_bind (lasting.service calm own) fun _ => lasting.silent fun _ => rfl

theorem complete (lasting : Lasting watched holds) (event : Byte) : Preserves holds (Controller.complete event) := by
  refine preserves_bind (lasting.silent fun _ => rfl) fun state => ?_
  split
  · exact lasting.silent fun _ => rfl
  · exact preserves_bind (lasting.completed event) fun _ => lasting.silent fun _ => rfl

theorem step (lasting : Lasting watched holds) (step : Step Board) (spares : step.event.Spares watched step.before.bus)
    (held : holds step.before) : holds step.after := by
  obtain ⟨before, event⟩ := step
  cases event with
  | pass handler own =>
      rw [Step.after, Event.run, outcome_ending]
      exact lasting.poll spares own before held
  | completion event =>
      rw [Step.after, Event.run, outcome_ending]
      exact lasting.complete event before held
  | takeRetry => exact lasting.framed before _ rfl held
  | flags fault commandActive transferState powerInit => exact lasting.framed before _ rfl held
  | hardware board => exact lasting.framed before _ (Prod.ext spares rfl) held

theorem run (lasting : Lasting watched holds) {controller : Controller Board} (initial : holds controller)
    (events : List (Event Board))
    (spares : ∀ step ∈ (Run.of controller events).history, step.event.Spares watched step.before.bus) :
    holds (Run.of controller events).controller := by
  refine Run.run_induction (fun run => (∀ step ∈ run.history, step.event.Spares watched step.before.bus) →
    holds run.controller) controller (fun _ => initial) ?_ events spares
  intro events event ih spares
  have earlier := ih fun step member => spares step (List.mem_append_left _ member)
  exact lasting.step _ (spares _ (List.mem_append_right _ (List.mem_singleton.mpr rfl))) earlier

end Lasting

-- A board that is ready, with a status byte and a first parameter from the host.
def Board.asking (status param1 : Byte) : Board :=
  (Board.powered.poke Reg.Transport.status status).poke Reg.Transport.param1 param1

end StorageBridge
