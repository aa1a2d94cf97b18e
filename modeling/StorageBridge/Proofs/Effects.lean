import StorageBridge.Controller.Passes
import StorageBridge.Proofs.Operations

/-!
What a step does to the outside: operations on the bus and calls of endpoint handlers. A recorder
remembers them and changes nothing else, so a step runs on it as on the bus beneath. What a bus shows
at addresses that a step neither writes nor waits on stays as it is.
-/

set_option autoImplicit false

namespace StorageBridge

variable {η β α γ ν : Type}

-- What a handler does with the bus is its own affair; only the call is an effect of the core.
inductive Effect where
  | operation (op : BusOp)
  | call (offset : Byte)
deriving DecidableEq, Repr

namespace Effect

def write? : Effect → Option (Address × Byte)
  | operation (.write address value) => some (address, value)
  | _ => none

def Within (touched : Address → Prop) : Effect → Prop
  | operation (.write address _) => touched address
  | operation (.wait address _ _) => touched address
  | _ => True

end Effect

structure Recorder (β : Type) where
  bus : β
  -- Newest first.
  effects : List Effect := []

namespace Recorder

def record (recorder : Recorder β) (effect : Effect) (bus : β) : Recorder β :=
  { bus, effects := effect :: recorder.effects }

instance [Bus β] : Bus (Recorder β) where
  read recorder address :=
    let (value, bus) := Bus.read recorder.bus address
    (value, recorder.record (.operation (.read address value)) bus)
  write recorder address value :=
    recorder.record (.operation (.write address value)) (Bus.write recorder.bus address value)
  wait recorder address mask budget :=
    let (seen, bus) := Bus.wait recorder.bus address mask budget
    (seen, recorder.record (.operation (.wait address mask budget)) bus)

end Recorder

def EndpointHandler.recorded (handler : EndpointHandler η β) : EndpointHandler η (Recorder β) :=
  fun offset own recorder =>
    let (own, bus) := handler offset own recorder.bus
    (own, recorder.record (.call offset) bus)

namespace Controller

def recorded (controller : Controller β) : Controller (Recorder β) :=
  { bus := { bus := controller.bus }
    settings := controller.settings
    state := controller.state
    statistics := controller.statistics
    log := controller.log }

def forget (controller : Controller (Recorder β)) : Controller β :=
  { bus := controller.bus.bus
    settings := controller.settings
    state := controller.state
    statistics := controller.statistics
    log := controller.log }

end Controller

variable [Bus β]

namespace Recorder

-- what was written, oldest first
def writes (recorder : Recorder β) : List (Address × Byte) :=
  recorder.effects.reverse.filterMap Effect.write?

@[simp] theorem writes_read (recorder : Recorder β) (address : Address) :
    (Bus.read recorder address).2.writes = recorder.writes := by
  simp [writes, Bus.read, record, Effect.write?]

@[simp] theorem writes_write (recorder : Recorder β) (address : Address) (value : Byte) :
    (Bus.write recorder address value).writes = recorder.writes ++ [(address, value)] := by
  simp [writes, Bus.write, record, Effect.write?]

@[simp] theorem writes_wait (recorder : Recorder β) (address : Address) (mask : Byte) (budget : WaitBudget) :
    (Bus.wait recorder address mask budget).2.writes = recorder.writes := by
  simp [writes, Bus.wait, record, Effect.write?]

-- How a step gets from one bus to another: reads anywhere, writes and waits at the addresses that it
-- touches, and handler calls, which move the bus as `calls` says.
inductive Reaches (touched : Address → Prop) (calls : Byte → β → β → Prop) (before : Recorder β) :
    Recorder β → Prop where
  | refl : Reaches touched calls before before
  | read {between : Recorder β} (address : Address) (reached : Reaches touched calls before between) :
      Reaches touched calls before (Bus.read between address).2
  | write {between : Recorder β} (address : Address) (value : Byte) (inside : touched address)
      (reached : Reaches touched calls before between) : Reaches touched calls before (Bus.write between address value)
  | wait {between : Recorder β} (address : Address) (mask : Byte) (budget : WaitBudget) (inside : touched address)
      (reached : Reaches touched calls before between) :
      Reaches touched calls before (Bus.wait between address mask budget).2
  | call {between : Recorder β} {bus : β} (offset : Byte) (called : calls offset between.bus bus)
      (reached : Reaches touched calls before between) :
      Reaches touched calls before (between.record (.call offset) bus)

variable {touched wider : Address → Prop} {calls : Byte → β → β → Prop} {before between after : Recorder β}

theorem reaches_trans (first : Reaches touched calls before between) (second : Reaches touched calls between after) :
    Reaches touched calls before after := by
  induction second with
  | refl => exact first
  | read address _ ih => exact .read address ih
  | write address value inside _ ih => exact .write address value inside ih
  | wait address mask budget inside _ ih => exact .wait address mask budget inside ih
  | call offset called _ ih => exact .call offset called ih

theorem reaches_wider (included : ∀ address, touched address → wider address)
    (reached : Reaches touched calls before after) : Reaches wider calls before after := by
  induction reached with
  | refl => exact .refl
  | read address _ ih => exact .read address ih
  | write address value inside _ ih => exact .write address value (included address inside) ih
  | wait address mask budget inside _ ih => exact .wait address mask budget (included address inside) ih
  | call offset called _ ih => exact .call offset called ih

theorem effects_within (reached : Reaches touched calls before after) :
    ∃ made, after.effects = made ++ before.effects ∧ ∀ effect ∈ made, effect.Within touched := by
  have grown {bus : Recorder β} (effect : Effect) (inside : effect.Within touched)
      (sooner : ∃ made, bus.effects = made ++ before.effects ∧ ∀ effect ∈ made, effect.Within touched) :
      ∃ made, effect :: bus.effects = made ++ before.effects ∧ ∀ effect ∈ made, effect.Within touched := by
    obtain ⟨made, split, each⟩ := sooner
    exact ⟨effect :: made, by rw [split, List.cons_append], List.forall_mem_cons.mpr ⟨inside, each⟩⟩
  induction reached with
  | refl => exact ⟨[], rfl, List.forall_mem_nil _⟩
  | read address _ ih => exact grown _ trivial ih
  | write address value inside _ ih => exact grown (.operation (.write address value)) inside ih
  | wait address mask budget inside _ ih => exact grown (.operation (.wait address mask budget)) inside ih
  | call offset called _ ih => exact grown (.call offset) trivial ih

-- a view of the bus that nothing inside the footprint changes
structure Spares (view : β → ν) (touched : Address → Prop) (calls : Byte → β → β → Prop) : Prop where
  read : ∀ bus address, view (Bus.read bus address).2 = view bus
  write : ∀ bus address value, touched address → view (Bus.write bus address value) = view bus
  wait : ∀ bus address mask budget, touched address → view (Bus.wait bus address mask budget).2 = view bus
  call : ∀ offset bus moved, calls offset bus moved → view moved = view bus

theorem reaches_spares {view : β → ν} (spares : Spares view touched calls) (reached : Reaches touched calls before after) :
    view after.bus = view before.bus := by
  induction reached with
  | refl => rfl
  | read address _ ih => exact (spares.read _ address).trans ih
  | write address value inside _ ih => exact (spares.write _ address value inside).trans ih
  | wait address mask budget inside _ ih => exact (spares.wait _ address mask budget inside).trans ih
  | call offset called _ ih => exact (spares.call offset _ _ called).trans ih

end Recorder

namespace BridgeM

open Recorder

def forgetting : EStateM.Result Stall (Controller (Recorder β)) α → EStateM.Result Stall (Controller β) α
  | .ok value after => .ok value after.forget
  | .error stall after => .error stall after.forget

-- The same step over a recorder and over the bus beneath, with the footprint that it keeps to.
structure Records (touched : Address → Prop) (calls : Byte → β → β → Prop) (recorded : BridgeM (Recorder β) α)
    (plain : BridgeM β α) : Prop where
  same : ∀ before, forgetting (recorded before) = plain before.forget
  reaches : ∀ before, Reaches touched calls before.bus (ending (recorded before)).bus

variable {touched wider : Address → Prop} {calls : Byte → β → β → Prop}

theorem records_silent {recorded : BridgeM (Recorder β) α} {plain : BridgeM β α}
    (same : ∀ before, forgetting (recorded before) = plain before.forget)
    (silent : ∀ before, (ending (recorded before)).bus = before.bus) : Records touched calls recorded plain :=
  ⟨same, fun before => by rw [silent]; exact .refl⟩

theorem records_pure (value : α) : Records touched calls (pure value : BridgeM (Recorder β) α) (pure value) :=
  records_silent (fun _ => rfl) fun _ => rfl

theorem records_bind {recorded : BridgeM (Recorder β) α} {plain : BridgeM β α} {recordedNext : α → BridgeM (Recorder β) γ}
    {plainNext : α → BridgeM β γ} (first : Records touched calls recorded plain)
    (rest : ∀ value, Records touched calls (recordedNext value) (plainNext value)) :
    Records touched calls (recorded >>= recordedNext) (plain >>= plainNext) := by
  refine ⟨fun before => ?_, fun before => ?_⟩
  · have same := first.same before
    cases ended : recorded before with
    | ok value between =>
        rw [ended] at same
        rw [bind_of_ok ended, bind_of_ok same.symm]
        exact (rest value).same between
    | error stall after =>
        rw [ended] at same
        rw [bind_of_error ended, bind_of_error same.symm]
        rfl
  · have reached := first.reaches before
    cases ended : recorded before with
    | ok value between =>
        rw [ended] at reached
        rw [bind_of_ok ended]
        exact reaches_trans reached ((rest value).reaches between)
    | error stall after =>
        rw [ended] at reached
        rw [bind_of_error ended]
        exact reached

theorem records_ite {condition : Prop} [Decidable condition] {recorded recordedElse : BridgeM (Recorder β) α}
    {plain plainElse : BridgeM β α} (holds : condition → Records touched calls recorded plain)
    (fails : ¬ condition → Records touched calls recordedElse plainElse) :
    Records touched calls (if condition then recorded else recordedElse) (if condition then plain else plainElse) := by
  by_cases decided : condition
  · rw [if_pos decided, if_pos decided]
    exact holds decided
  · rw [if_neg decided, if_neg decided]
    exact fails decided

theorem records_for_each {ι : Type} {recorded : ι → BridgeM (Recorder β) Unit} {plain : ι → BridgeM β Unit} (items : List ι)
    (each : ∀ item ∈ items, Records touched calls (recorded item) (plain item)) :
    Records touched calls (items.forM recorded) (items.forM plain) := by
  induction items with
  | nil => exact records_pure ()
  | cons item rest ih =>
      exact records_bind (each item List.mem_cons_self) fun _ => ih fun other member => each other (List.mem_cons_of_mem item member)

theorem records_wider {recorded : BridgeM (Recorder β) α} {plain : BridgeM β α}
    (included : ∀ address, touched address → wider address) (records : Records touched calls recorded plain) :
    Records wider calls recorded plain :=
  ⟨records.same, fun before => reaches_wider included (records.reaches before)⟩

theorem records_read (address : Address) :
    Records touched calls (readByte address : BridgeM (Recorder β) Byte) (readByte address) :=
  ⟨fun _ => rfl, fun _ => .read address .refl⟩

theorem records_write {address : Address} (value : Byte) (inside : touched address) :
    Records touched calls (writeByte address value : BridgeM (Recorder β) Unit) (writeByte address value) :=
  ⟨fun _ => rfl, fun _ => .write address value inside .refl⟩

theorem records_modify {address : Address} (clear set : Byte) (inside : touched address) :
    Records touched calls (modifyByte address clear set : BridgeM (Recorder β) Unit) (modifyByte address clear set) :=
  ⟨fun _ => rfl, fun _ => .write address _ inside (.read address .refl)⟩

theorem records_poll {address : Address} (mask : Byte) (limit : UInt32) (inside : touched address) :
    Records touched calls (pollFor address mask limit : BridgeM (Recorder β) Bool) (pollFor address mask limit) :=
  ⟨fun _ => rfl, fun _ => .wait address mask (.polls limit) inside .refl⟩

theorem records_wait {address : Address} (mask : Byte) (inside : touched address) :
    Records touched calls (waitFor address mask : BridgeM (Recorder β) Unit) (waitFor address mask) := by
  refine ⟨fun before => ?_, fun before => ?_⟩
  · rw [wait_for_ends, wait_for_ends]
    change forgetting (if (Bus.wait before.bus.bus address mask .forever).1 = true then _ else _) =
      if (Bus.wait before.bus.bus address mask .forever).1 = true then _ else _
    cases (Bus.wait before.bus.bus address mask .forever).1 with
    | true => rfl
    | false => rfl
  · rw [wait_for_ends]
    cases (Bus.wait before.bus address mask .forever).1 with
    | true => exact .wait address mask .forever inside .refl
    | false => exact .wait address mask .forever inside .refl

-- What a handler may do to the bus, whatever its own state.
def handled (handler : EndpointHandler η β) : Byte → β → β → Prop :=
  fun offset bus moved => ∃ own, (handler offset own bus).2 = moved

theorem records_call (handler : EndpointHandler η β) (offset : Byte) (own : η) :
    Records touched (handled handler) (Endpoint.callHandler handler.recorded offset own)
      (Endpoint.callHandler handler offset own) :=
  ⟨fun _ => rfl, fun _ => .call offset ⟨own, rfl⟩ .refl⟩

theorem keeps_spared {view : β → ν} {recorded : BridgeM (Recorder β) α} {plain : BridgeM β α}
    (records : Records touched calls recorded plain) (spares : Spares view touched calls) :
    Keeps (fun controller => view controller.bus) (fun _ => True) plain := by
  refine ⟨fun before => ?_⟩
  have same := records.same before.recorded
  have shown := reaches_spares spares (records.reaches before.recorded)
  change _ = plain before at same
  rw [← same]
  cases ended : recorded before.recorded with
  | ok value after =>
      rw [ended] at shown
      exact shown
  | error stall after =>
      rw [ended] at shown
      exact ⟨shown, trivial⟩

-- what a step does to the outside, oldest first
def effects (recorded : BridgeM (Recorder β) α) (controller : Controller β) : List Effect :=
  (ending (recorded controller.recorded)).bus.effects.reverse

end BridgeM

end StorageBridge
