import StorageBridge.Proofs.InFlight

/-!
The counts of a run. The two logs count the commands left in slots and the commands retired from
them, and their difference is the number of valid slots. The outstanding count also goes down for a
completion of a free slot, and from then on it may be too small.
-/

set_option autoImplicit false

namespace StorageBridge

namespace CommandRing

def taken (ring : CommandRing) : Nat :=
  ring.slots.countP fun slot => !slot.isFree

def Exact (ring : CommandRing) : Prop :=
  ring.outstanding = ring.taken

instance (ring : CommandRing) : Decidable ring.Exact :=
  inferInstanceAs (Decidable (ring.outstanding = ring.taken))

theorem taken_empty : empty.taken = 0 := by
  simp [taken, empty, Vector.countP_replicate]

theorem taken_le (ring : CommandRing) : ring.taken ≤ 32 :=
  Vector.countP_le_size

theorem taken_put {ring next : CommandRing} {index : SlotIndex} {value : Slot}
    (slots : next.slots = (ring.put index value).slots) :
    next.taken + (if !(ring.slot index).isFree then 1 else 0) = ring.taken + (if !value.isFree then 1 else 0) := by
  have within : (if !(ring.slot index).isFree then 1 else 0) ≤ ring.taken :=
    Vector.boole_getElem_le_countP (p := fun slot : Slot => !slot.isFree) index.isLt
  have counted : next.taken =
      ring.taken - (if !(ring.slot index).isFree then 1 else 0) + (if !value.isFree then 1 else 0) := by
    unfold taken
    rw [slots]
    exact Vector.countP_set index.isLt
  rw [counted]
  omega

theorem taken_eq_zero_iff (ring : CommandRing) : ring.taken = 0 ↔ ∀ slot, (ring.slot slot).isFree = true := by
  simp only [taken, Vector.countP_eq_zero, Bool.not_eq_true', Bool.not_eq_false]
  constructor
  · intro free slot
    exact free _ (Vector.getElem_mem slot.isLt)
  · intro free slot member
    obtain ⟨index, bound, rfl⟩ := Vector.mem_iff_getElem.mp member
    exact free ⟨index, bound⟩

end CommandRing

theorem taken_of_accepted {before after : Ledger} {request : Request} {handedOff : Bool}
    (moves : before.Moves (.accepted request handedOff) after) :
    after.ring.taken = before.ring.taken + (if request.needsCommand then 1 else 0) := by
  have counted := CommandRing.taken_put moves.accepted.slots
  rw [moves.free request handedOff rfl, Bool.not_true, if_neg Bool.false_ne_true, Nat.add_zero] at counted
  rw [counted]
  cases request.needsCommand with
  | true => rw [if_pos rfl, if_pos rfl, request.slot_valid, Bool.not_false, if_pos rfl]
  | false => rw [if_neg Bool.false_ne_true, if_neg Bool.false_ne_true, Slot.isFree_empty, Bool.not_true, if_neg Bool.false_ne_true]

theorem taken_of_retired {before after : Ledger} {slot : SlotIndex} (moves : before.Moves (.retired slot) after) :
    after.ring.taken + (if !(before.ring.slot slot).isFree then 1 else 0) = before.ring.taken :=
  CommandRing.taken_put moves.retired.slots

-- The slot that a request takes is free, so the count of 32 is never reached before it.
theorem outstanding_of_accepted {before after : Ledger} {request : Request} {handedOff : Bool}
    (moves : before.Moves (.accepted request handedOff) after) (bounded : before.ring.outstanding ≤ before.ring.taken) :
    after.ring.outstanding = before.ring.outstanding + (if request.needsCommand then 1 else 0) := by
  rw [moves.accepted.outstanding]
  by_cases needs : request.needsCommand = true
  · have taken := taken_of_accepted moves
    have room := after.ring.taken_le
    rw [if_pos needs] at taken
    rw [if_pos ⟨needs, by omega⟩, if_pos needs]
  · rw [if_neg (fun both => needs both.1), if_neg needs, Nat.add_zero]

theorem outstanding_bounded_of_moves {happening : Happening} {before after : Ledger} (moves : before.Moves happening after)
    (bounded : before.ring.outstanding ≤ before.ring.taken) : after.ring.outstanding ≤ after.ring.taken := by
  cases happening with
  | accepted request handedOff =>
      rw [taken_of_accepted moves, outstanding_of_accepted moves bounded]
      exact Nat.add_le_add_right bounded _
  | retired slot =>
      have taken := taken_of_retired moves
      rw [moves.retired.outstanding]
      by_cases valid : (!(before.ring.slot slot).isFree) = true
      · rw [if_pos valid] at taken
        omega
      · rw [if_neg valid] at taken
        omega
  | other =>
      rw [moves.applied]
      exact bounded

variable {β : Type} [Bus β]

-- a completion of a free slot, counted against the commands that are outstanding
def Step.Miscounts (step : Step β) : Prop :=
  ∃ slot, step.happening = .retired slot ∧ (step.before.state.ring.slot slot).isFree = true ∧
    step.before.state.ring.outstanding ≠ 0

theorem exact_after_iff (step : Step β) (exact : step.before.state.ring.Exact) :
    step.after.state.ring.Exact ↔ ¬ step.Miscounts := by
  have moves := step_moves step
  change step.before.ledger.ring.outstanding = step.before.ledger.ring.taken at exact
  change step.after.ledger.ring.outstanding = step.after.ledger.ring.taken ↔ _
  cases happened : step.happening with
  | accepted request handedOff =>
      rw [happened] at moves
      have spared : ¬ step.Miscounts := by
        rintro ⟨slot, named, -⟩
        cases happened.symm.trans named
      rw [outstanding_of_accepted moves (Nat.le_of_eq exact), taken_of_accepted moves, exact]
      exact iff_of_true rfl spared
  | retired slot =>
      rw [happened] at moves
      have taken := taken_of_retired moves
      have counted := moves.retired.outstanding
      have wrong : step.Miscounts ↔
          (step.before.ledger.ring.slot slot).isFree = true ∧ step.before.ledger.ring.outstanding ≠ 0 := by
        constructor
        · rintro ⟨_, named, missed⟩
          cases happened.symm.trans named
          exact missed
        · exact fun missed => ⟨slot, happened, missed⟩
      rw [wrong]
      by_cases free : (step.before.ledger.ring.slot slot).isFree = true
      · rw [free, Bool.not_true, if_neg Bool.false_ne_true] at taken
        simp only [free, true_and, Decidable.not_not]
        omega
      · rw [Bool.not_eq_true] at free
        rw [free, Bool.not_false, if_pos rfl] at taken
        simp only [free, Bool.false_eq_true, false_and, not_false_eq_true, iff_true]
        omega
  | other =>
      rw [happened] at moves
      have spared : ¬ step.Miscounts := by
        rintro ⟨slot, named, -⟩
        cases happened.symm.trans named
      have same : step.after.ledger = step.before.ledger := moves.applied
      rw [same]
      exact iff_of_true exact spared

theorem outstanding_le_taken (bus : β) (settings : Settings) (events : List (Event β)) :
    let ring := (Run.of (Controller.start bus settings) events).controller.state.ring
    ring.outstanding ≤ ring.taken :=
  ledger_induction (fun _ ledger => ledger.ring.outstanding ≤ ledger.ring.taken) (Controller.start bus settings)
    (Nat.zero_le _) (fun _ _ _ _ moves bounded => outstanding_bounded_of_moves moves bounded) events

theorem idle_of_resting (ring : CommandRing) (bounded : ring.outstanding ≤ ring.taken) (still : ring.busy = false)
    (free : ∀ slot, (ring.slot slot).isFree = true) : ring.isIdle = true := by
  rw [ring.taken_eq_zero_iff.mpr free] at bounded
  simp [CommandRing.isIdle, still, Nat.le_zero.mp bounded]

theorem idle_iff_of_exact (ring : CommandRing) (exact : ring.Exact) :
    ring.isIdle = true ↔ ring.busy = false ∧ ∀ slot, (ring.slot slot).isFree = true := by
  unfold CommandRing.Exact at exact
  simp [CommandRing.isIdle, exact, ring.taken_eq_zero_iff]

theorem exact_throughout_iff (controller : Controller β) (initial : controller.state.ring.Exact) (events : List (Event β)) :
    (∀ step ∈ (Run.of controller events).history, step.after.state.ring.Exact) ↔
      ∀ step ∈ (Run.of controller events).history, ¬ step.Miscounts := by
  have both := Run.run_induction
    (fun run => ((∀ step ∈ run.history, step.after.state.ring.Exact) → run.controller.state.ring.Exact) ∧
      ((∀ step ∈ run.history, step.after.state.ring.Exact) ↔ ∀ step ∈ run.history, ¬ step.Miscounts))
    controller ⟨fun _ => initial, by simp⟩ ?_ events
  · exact both.2
  · intro events event ⟨ends, same⟩
    simp only [Run.extend, List.forall_mem_append, List.forall_mem_singleton]
    refine ⟨And.right, ?_⟩
    rw [same]
    exact and_congr_right fun clean => exact_after_iff _ (ends (same.mpr clean))

theorem outstanding_exact_iff_none_miscounted (bus : β) (settings : Settings) (events : List (Event β)) :
    let run := Run.of (Controller.start bus settings) events
    let ring := run.controller.state.ring
    ((∀ step ∈ run.history, step.after.state.ring.Exact) ↔ ∀ step ∈ run.history, ¬ step.Miscounts) ∧
    (ring.Exact → (ring.isIdle = true ↔ ring.busy = false ∧ ∀ slot, (ring.slot slot).isFree = true)) ∧
    ring.outstanding ≤ ring.taken ∧
    (ring.busy = false → (∀ slot, (ring.slot slot).isFree = true) → ring.isIdle = true) := by
  intro run ring
  have bounded : ring.outstanding ≤ ring.taken := outstanding_le_taken bus settings events
  refine ⟨?_, idle_iff_of_exact ring, bounded, idle_of_resting ring bounded⟩
  exact exact_throughout_iff (Controller.start bus settings) CommandRing.taken_empty.symm events

theorem free_slot_completion_miscounts :
    let run := Run.of (Controller.start (Pins.asking 0) .reference) [.plainPass, .completion 5]
    let ring := run.controller.state.ring
    ring.outstanding = 0 ∧ ring.taken = 1 ∧ ring.isIdle = true := by
  decide +kernel

end StorageBridge
