import StorageBridge.Proofs.Frames
import StorageBridge.Proofs.Run

/-!
The ledger of a controller: its ring, the two log counters and the completion count. Whatever
happens to a controller, its ledger does one of three things: it accepts a request into the free slot
at the index, it retires a slot, or it stays as it is. Which one is told by the event and its answer.
-/

set_option autoImplicit false

namespace StorageBridge

structure Request where
  action : Action
  param1 : Byte
  param2 : Byte
deriving DecidableEq, Repr

namespace Request

def slot (request : Request) : Slot :=
  { control := .forAction request.action (request.param1 >>> 5), byteCount := request.param2 }

def window (request : Request) : Nat :=
  (if request.action.isInbound then 8 else 4) + request.param1.toNat / 32

-- An extended request always leaves a command for the backend. A simple one does when its bytes do
-- not fit the window, which is counted in units of eight bytes.
def needsCommand (request : Request) : Bool :=
  request.action.isExtended || decide (8 * (request.window + 1) ≤ request.param2.toNat)

theorem slot_window (request : Request) : request.slot.control.window = request.param1 >>> 5 := by
  have table : ∀ raw : Fin 256,
      (SlotControl.forAction request.action (UInt8.ofFin raw >>> 5)).window = UInt8.ofFin raw >>> 5 := by
    cases request.action <;> decide +kernel
  exact table request.param1.toFin

theorem slot_valid (request : Request) : request.slot.isFree = false := by
  have table : ∀ raw : Fin 256,
      (SlotControl.forAction request.action (UInt8.ofFin raw >>> 5)).bits.meets SlotControl.valid = true := by
    cases request.action <;> decide +kernel
  have valid : request.slot.control.bits.meets SlotControl.valid = true := table request.param1.toFin
  rw [Slot.isFree, valid]
  rfl

theorem slot_not_done (request : Request) : request.slot.control.bits.meets SlotControl.done = false := by
  have table : ∀ raw : Fin 256,
      (SlotControl.forAction request.action (UInt8.ofFin raw >>> 5)).bits.meets SlotControl.done = false := by
    cases request.action <;> decide +kernel
  exact table request.param1.toFin

-- The byte arithmetic of the window never wraps.
theorem fits_window_iff (request : Request) :
    request.slot.byteCount >>> 3 ≤
        (Submission.windowClass request.action.isInbound + request.slot.control.window) &&& 0x1F ↔
      ¬ 8 * (request.window + 1) ≤ request.param2.toNat := by
  have table (inbound : Bool) : ∀ raw : Fin 256,
      ((Submission.windowClass inbound + UInt8.ofFin raw >>> 5) &&& 0x1F).toNat =
        (if inbound then 8 else 4) + raw.val / 32 := by
    cases inbound <;> decide +kernel
  have total : ((Submission.windowClass request.action.isInbound + request.param1 >>> 5) &&& 0x1F).toNat =
      request.window := table request.action.isInbound request.param1.toFin
  have units : (request.slot.byteCount >>> 3).toNat = request.param2.toNat / 8 := by
    simp [slot, Nat.shiftRight_eq_div_pow]
  rw [slot_window, UInt8.le_iff_toNat_le, units, total]
  omega

end Request

variable {β : Type}

namespace Transport

-- what a pass reads beside the status byte
def parameters [Bus β] (bus : β) : Byte × Byte :=
  let (_, bus) := Bus.read bus Reg.Transport.coreLow
  let (_, bus) := Bus.read bus Reg.Transport.coreHigh
  let (param1, bus) := Bus.read bus Reg.Transport.param1
  let (param2, _) := Bus.read bus Reg.Transport.param2
  (param1, param2)

def request? [Bus β] (bus : β) : Option Request :=
  let seen := Bus.read bus Reg.Transport.status
  (Action.ofStatus? seen.1).map fun action =>
    { action, param1 := (parameters seen.2).1, param2 := (parameters seen.2).2 }

end Transport

def Submission.accepts : Submission → Bool
  | queued | inProgress _ => true
  | _ => false

inductive Happening where
  -- a request took a slot; without the hand-off when the engine never became idle
  | accepted (request : Request) (handedOff : Bool)
  | retired (slot : SlotIndex)
  | other
deriving DecidableEq, Repr

def Happening.ofRequest (asked : Option Request) (taken handedOff : Bool) : Happening :=
  match asked with
  | some request => if taken then .accepted request handedOff else .other
  | none => .other

-- The request is the one that the bus shows when the pass begins, and a retired slot the one that the
-- event names.
def Event.happening (asked : Option Request) : Event β → Answer → Happening
  | .pass _ _, .passed (.done (some submission) _) => .ofRequest asked submission.accepts true
  | .pass _ _, .stalled stall => .ofRequest asked (stall = Transfer.unready) false
  | .completion event, .completed (.ok (.completed _)) => .retired (SlotIndex.wrap event)
  | _, _ => .other

def Step.happening [Bus β] (step : Step β) : Happening :=
  step.event.happening (Transport.request? step.before.bus) step.answer

def Run.happenings [Bus β] (run : Run β) : List Happening :=
  run.history.map Step.happening

theorem Run.happenings_extend [Bus β] (run : Run β) (event : Event β) :
    (run.extend event).happenings =
      run.happenings ++ [Step.happening { before := run.controller, event }] :=
  List.map_append

structure Ledger where
  ring : CommandRing
  submitLog : Byte
  completeLog : Byte
  completions : UInt32

def Controller.ledger (controller : Controller β) : Ledger :=
  { ring := controller.state.ring
    submitLog := controller.state.submitLog
    completeLog := controller.state.completeLog
    completions := controller.statistics.completions }

theorem CommandRing.slot_of_put {ring next : CommandRing} {changed : SlotIndex} {value : Slot}
    (slots : next.slots = (ring.put changed value).slots) (slot : SlotIndex) :
    next.slot slot = if changed = slot then value else ring.slot slot := by
  rw [← CommandRing.slot_put]
  simp only [CommandRing.slot, slots]

namespace Ledger

def arm (ledger : Ledger) (length : Fin 32) : Ledger :=
  if ledger.ring.busy then ledger else { ledger with ring := ledger.ring.arm length }

def occupy (ledger : Ledger) (slot : Slot) : Ledger :=
  { ledger with ring := ledger.ring.occupy slot }

def submitted (ledger : Ledger) : Ledger :=
  { ledger with ring := ledger.ring.submitted, submitLog := (ledger.submitLog + 1) &&& 0x1F }

def clear (ledger : Ledger) (index : SlotIndex) : Ledger :=
  { ledger with ring := ledger.ring.clear index }

def handOff (ledger : Ledger) : Ledger :=
  { ledger with ring := ledger.ring.step }

def accept (ledger : Ledger) (request : Request) : Ledger :=
  let filled := (ledger.arm (SlotIndex.wrap request.param1)).occupy request.slot
  if request.needsCommand then filled.submitted else filled.clear ledger.ring.index

def retire (ledger : Ledger) (slot : SlotIndex) : Ledger :=
  let released := { ledger with ring := ledger.ring.release slot }
  if (ledger.ring.slot slot).isFree then released
  else { released with
    completeLog := (ledger.completeLog + 1) &&& 0x1F
    completions := countUp ledger.completions }

def apply (ledger : Ledger) : Happening → Ledger
  | .accepted request handedOff =>
      if handedOff then (ledger.accept request).handOff else ledger.accept request
  | .retired slot => ledger.retire slot
  | .other => ledger

-- A request is accepted only where the slot at the index is free.
structure Moves (before : Ledger) (happening : Happening) (after : Ledger) : Prop where
  applied : after = before.apply happening
  free : ∀ request handedOff, happening = .accepted request handedOff →
    (before.ring.slot before.ring.index).isFree = true

-- Nothing but the burst changes: its counter, whether one runs, and the issue pointer.
structure OnlyBurst (before after : Ledger) : Prop where
  slots : after.ring.slots = before.ring.slots
  index : after.ring.index = before.ring.index
  outstanding : after.ring.outstanding = before.ring.outstanding
  submitLog : after.submitLog = before.submitLog
  completeLog : after.completeLog = before.completeLog
  completions : after.completions = before.completions

-- The slot at the index is filled, or left empty when no command is needed, and the index moves on.
structure Accepted (before : Ledger) (request : Request) (after : Ledger) : Prop where
  slots : after.ring.slots =
    (before.ring.put before.ring.index (if request.needsCommand then request.slot else .empty)).slots
  index : after.ring.index = before.ring.index.next
  outstanding : after.ring.outstanding =
    if request.needsCommand ∧ before.ring.outstanding < 32 then before.ring.outstanding + 1
    else before.ring.outstanding
  submitLog : after.submitLog = if request.needsCommand then (before.submitLog + 1) &&& 0x1F else before.submitLog
  completeLog : after.completeLog = before.completeLog
  completions : after.completions = before.completions

-- The slot is emptied, and the completion is logged when the slot held a command.
structure Retired (before : Ledger) (slot : SlotIndex) (after : Ledger) : Prop where
  slots : after.ring.slots = (before.ring.put slot .empty).slots
  index : after.ring.index = before.ring.index
  outstanding : after.ring.outstanding = before.ring.outstanding - 1
  submitLog : after.submitLog = before.submitLog
  completeLog : after.completeLog =
    if !(before.ring.slot slot).isFree then (before.completeLog + 1) &&& 0x1F else before.completeLog
  completions : after.completions =
    if !(before.ring.slot slot).isFree then countUp before.completions else before.completions

theorem arm_only_burst (ledger : Ledger) (length : Fin 32) : OnlyBurst ledger (ledger.arm length) := by
  by_cases busy : ledger.ring.busy = true
  · simp only [arm, if_pos busy]
    exact ⟨rfl, rfl, rfl, rfl, rfl, rfl⟩
  · simp only [arm, if_neg busy]
    exact ⟨rfl, rfl, rfl, rfl, rfl, rfl⟩

theorem hand_off_only_burst (ledger : Ledger) : OnlyBurst ledger ledger.handOff := by
  by_cases last : ledger.ring.counter - 1 = 0
  · simp only [handOff, CommandRing.step, if_pos last]
    exact ⟨rfl, rfl, rfl, rfl, rfl, rfl⟩
  · simp only [handOff, CommandRing.step, if_neg last]
    exact ⟨rfl, rfl, rfl, rfl, rfl, rfl⟩

theorem submitted_ring (ledger : Ledger) :
    ledger.submitted.ring = { ledger.ring with
      outstanding := if ledger.ring.outstanding < 32 then ledger.ring.outstanding + 1 else ledger.ring.outstanding } := by
  by_cases room : ledger.ring.outstanding < 32
  · have spare : ¬ 32 ≤ ledger.ring.outstanding := by omega
    simp [submitted, CommandRing.submitted, CommandRing.isSaturated, room, spare]
  · have saturated : 32 ≤ ledger.ring.outstanding := by omega
    simp [submitted, CommandRing.submitted, CommandRing.isSaturated, room, saturated]

theorem accept_accepted (ledger : Ledger) (request : Request) : Accepted ledger request (ledger.accept request) := by
  have burst := ledger.arm_only_burst (SlotIndex.wrap request.param1)
  have placed : ((ledger.arm (SlotIndex.wrap request.param1)).occupy request.slot).ring.slots =
      (ledger.ring.put ledger.ring.index request.slot).slots := by
    simp only [occupy, CommandRing.occupy, CommandRing.put, burst.slots, burst.index]
  have moved : ((ledger.arm (SlotIndex.wrap request.param1)).occupy request.slot).ring.index = ledger.ring.index.next :=
    congrArg SlotIndex.next burst.index
  have counted : ((ledger.arm (SlotIndex.wrap request.param1)).occupy request.slot).ring.outstanding =
      ledger.ring.outstanding := burst.outstanding
  by_cases needs : request.needsCommand = true
  · have accepted : ledger.accept request =
        ((ledger.arm (SlotIndex.wrap request.param1)).occupy request.slot).submitted := if_pos needs
    rw [accepted]
    exact
      { slots := by rw [submitted_ring, if_pos needs]; exact placed
        index := by rw [submitted_ring]; exact moved
        outstanding := by simp only [submitted_ring, counted, needs, true_and]
        submitLog := by rw [if_pos needs]; exact congrArg (fun log => (log + 1) &&& 0x1F) burst.submitLog
        completeLog := burst.completeLog
        completions := burst.completions }
  · have accepted : ledger.accept request =
        ((ledger.arm (SlotIndex.wrap request.param1)).occupy request.slot).clear ledger.ring.index := if_neg needs
    rw [accepted]
    exact
      { slots := by simp only [clear, CommandRing.clear, CommandRing.put, placed, Vector.set_set, if_neg needs]
        index := moved
        outstanding := by rw [if_neg (fun both => needs both.1)]; exact counted
        submitLog := by rw [if_neg needs]; exact burst.submitLog
        completeLog := burst.completeLog
        completions := burst.completions }

theorem Accepted.then_burst {before between after : Ledger} {request : Request} (accepted : Accepted before request between)
    (burst : OnlyBurst between after) : Accepted before request after :=
  { slots := burst.slots.trans accepted.slots
    index := burst.index.trans accepted.index
    outstanding := burst.outstanding.trans accepted.outstanding
    submitLog := burst.submitLog.trans accepted.submitLog
    completeLog := burst.completeLog.trans accepted.completeLog
    completions := burst.completions.trans accepted.completions }

theorem retire_ring (ledger : Ledger) (slot : SlotIndex) : (ledger.retire slot).ring = ledger.ring.release slot := by
  unfold retire
  split
  · rfl
  · rfl

theorem retire_retired (ledger : Ledger) (slot : SlotIndex) : Retired ledger slot (ledger.retire slot) := by
  by_cases free : (ledger.ring.slot slot).isFree = true
  · simp only [retire, if_pos free]
    exact ⟨rfl, rfl, rfl, rfl, by rw [free]; rfl, by rw [free]; rfl⟩
  · simp only [retire, if_neg free]
    rw [Bool.not_eq_true] at free
    exact ⟨rfl, rfl, rfl, rfl, by rw [free]; rfl, by rw [free]; rfl⟩

namespace Moves

variable {before after : Ledger}

theorem other (kept : after = before) : before.Moves .other after :=
  ⟨kept, fun _ _ same => by cases same⟩

theorem accepted {request : Request} {handedOff : Bool} (moves : before.Moves (.accepted request handedOff) after) :
    Accepted before request after := by
  rw [moves.applied]
  cases handedOff with
  | true => exact (before.accept_accepted request).then_burst (before.accept request).hand_off_only_burst
  | false => exact before.accept_accepted request

theorem retired {slot : SlotIndex} (moves : before.Moves (.retired slot) after) : Retired before slot after := by
  rw [moves.applied]
  exact before.retire_retired slot

end Moves

end Ledger

end StorageBridge
