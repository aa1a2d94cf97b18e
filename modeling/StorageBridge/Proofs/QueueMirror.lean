import StorageBridge.Proofs.Boards
import StorageBridge.Proofs.Simulation

/-!
The backend registers mirror the ring: the control bits of the queue, the issue pointer, and the
registers of every slot that holds a command. Ring and registers are written one after the other, in
several places; in between they differ, but no wait stands there.
-/

set_option autoImplicit false

namespace StorageBridge

open BridgeM Recorder

namespace SlotIndex

-- The blocks of the slots do not overlap.
theorem registers_inj {a b : SlotIndex} {p q : Address} (smallP : p.toNat < 4) (smallQ : q.toNat < 4)
    (same : a.registers + p = b.registers + q) : a = b ∧ p = q := by
  have numbers := congrArg UInt16.toNat same
  rw [registers_to_nat a smallP, registers_to_nat b smallQ] at numbers
  exact ⟨Fin.ext (by omega), UInt16.toNat_inj.mp (by omega)⟩

theorem registers_ne {index : SlotIndex} {offset other : Address} (small : offset.toNat < 4) (below : other.toNat < 0xC100) :
    index.registers + offset ≠ other := by
  intro same
  have numbers := congrArg UInt16.toNat same
  rw [registers_to_nat index small] at numbers
  omega

end SlotIndex

namespace CommandRing

theorem slot_of_slots {ring next : CommandRing} (slots : next.slots = ring.slots) (slot : SlotIndex) :
    next.slot slot = ring.slot slot := by
  simp only [CommandRing.slot, slots]

theorem submitted_counts (ring : CommandRing) : ∃ outstanding, ring.submitted = { ring with outstanding } := by
  by_cases saturated : ring.isSaturated = true
  · exact ⟨ring.outstanding, if_pos saturated⟩
  · exact ⟨ring.outstanding + 1, if_neg saturated⟩

theorem step_of_last {ring : CommandRing} (last : ring.counter - 1 = 0) :
    ring.step = { ring with counter := ring.counter - 1, busy := false } :=
  if_pos last

theorem step_of_more {ring : CommandRing} (more : ring.counter - 1 ≠ 0) :
    ring.step = { ring with counter := ring.counter - 1, issue := ring.issue.next } :=
  if_neg more

end CommandRing

namespace Submission

def mirrors : List Address :=
  [Reg.Backend.queueControl, Reg.Backend.issue] ++ (List.finRange 32).flatMap fun slot : SlotIndex =>
    [slot.registers + Reg.Backend.slotControl, slot.registers + Reg.Backend.slotCount]

theorem queue_control_mirrors : Reg.Backend.queueControl ∈ mirrors := by
  simp [mirrors]

theorem issue_mirrors : Reg.Backend.issue ∈ mirrors := by
  simp [mirrors]

theorem slot_control_mirrors (slot : SlotIndex) : slot.registers + Reg.Backend.slotControl ∈ mirrors :=
  List.mem_append_right _ (List.mem_flatMap.mpr ⟨slot, List.mem_finRange slot, List.mem_cons_self⟩)

theorem slot_count_mirrors (slot : SlotIndex) : slot.registers + Reg.Backend.slotCount ∈ mirrors :=
  List.mem_append_right _
    (List.mem_flatMap.mpr ⟨slot, List.mem_finRange slot, List.mem_cons_of_mem _ List.mem_cons_self⟩)

theorem mirrors_high {address : Address} (member : address ∈ mirrors) : 0xC000 ≤ address.toNat := by
  have all : mirrors.all (fun address => 0xC000 ≤ address.toNat) = true := by decide +kernel
  exact of_decide_eq_true (List.all_eq_true.mp all address member)

theorem slot_status_apart (slot : SlotIndex) : slot.registers + Reg.Backend.slotStatus ∉ mirrors := by
  revert slot
  decide +kernel

theorem completion_apart (address : Address) (touched : Controller.CompletionTouches address) : address ∉ mirrors := by
  intro member
  have high := mirrors_high member
  have low := Controller.completion_touches_to_nat touched
  omega

end Submission

-- What the registers of the backend show of a ring.
structure Board.ShowsQueue (board : Board) (state : State) : Prop where
  busy : (board.peek Reg.Backend.queueControl).meets Reg.Backend.queueBusy = state.ring.busy
  update : (board.peek Reg.Backend.queueControl).meets Reg.Backend.queueSecondaryUpdate = state.secondaryUpdate
  issue : board.peek Reg.Backend.issue = state.ring.issue.toByte
  slots : ∀ slot : SlotIndex, (state.ring.slot slot).isFree = false →
    board.peek (slot.registers + Reg.Backend.slotControl) = (state.ring.slot slot).control.bits ∧
      board.peek (slot.registers + Reg.Backend.slotCount) = (state.ring.slot slot).byteCount

namespace Submission

structure Mirrored (controller : Controller Board) : Prop where
  unmarked : ∀ address ∈ mirrors, address ∉ controller.bus.oneToClear
  shows : controller.bus.ShowsQueue controller.state

-- The registers may stay as they are while slots are freed.
theorem mirrored_of_shown {before after : Controller Board} (mirrored : Mirrored before)
    (shown : after.bus.shown mirrors = before.bus.shown mirrors) (busy : after.state.ring.busy = before.state.ring.busy)
    (update : after.state.secondaryUpdate = before.state.secondaryUpdate)
    (issue : after.state.ring.issue = before.state.ring.issue)
    (slots : ∀ slot, (after.state.ring.slot slot).isFree = false →
      after.state.ring.slot slot = before.state.ring.slot slot) : Mirrored after := by
  have same := Board.shown_eq_iff.mp shown
  have shows := mirrored.shows
  refine ⟨fun address member => ?_, ?_, ?_, ?_, fun slot valid => ?_⟩
  · rw [(same address member).2]
    exact mirrored.unmarked address member
  · rw [(same _ queue_control_mirrors).1, busy]
    exact shows.busy
  · rw [(same _ queue_control_mirrors).1, update]
    exact shows.update
  · rw [(same _ issue_mirrors).1, issue]
    exact shows.issue
  · have held := slots slot valid
    rw [held] at valid ⊢
    rw [(same _ (slot_control_mirrors slot)).1, (same _ (slot_count_mirrors slot)).1]
    exact shows.slots slot valid

-- What happens below the blocks of the slots leaves the slots alone.
theorem mirrored_of_fixed {before after : Controller Board} (mirrored : Mirrored before)
    (marks : after.bus.oneToClear = before.bus.oneToClear)
    (beyond : ∀ other : Address, 0xC100 ≤ other.toNat → after.bus.peek other = before.bus.peek other)
    (slots : ∀ slot, after.state.ring.slot slot = before.state.ring.slot slot)
    (busy : (after.bus.peek Reg.Backend.queueControl).meets Reg.Backend.queueBusy = after.state.ring.busy)
    (update : (after.bus.peek Reg.Backend.queueControl).meets Reg.Backend.queueSecondaryUpdate = after.state.secondaryUpdate)
    (issue : after.bus.peek Reg.Backend.issue = after.state.ring.issue.toByte) : Mirrored after := by
  have block (slot : SlotIndex) {offset : Address} (small : offset.toNat < 4) :
      after.bus.peek (slot.registers + offset) = before.bus.peek (slot.registers + offset) := by
    apply beyond
    rw [SlotIndex.registers_to_nat slot small]
    omega
  refine ⟨by rw [marks]; exact mirrored.unmarked, busy, update, issue, fun slot valid => ?_⟩
  rw [slots] at valid ⊢
  rw [block slot (by decide), block slot (by decide)]
  exact mirrored.shows.slots slot valid

theorem mirrored_of_control {before after : Controller Board} {clear set : Byte} (mirrored : Mirrored before)
    (bus : after.bus = Bus.modify before.bus Reg.Backend.queueControl clear set)
    (busy : ((before.bus.peek Reg.Backend.queueControl).revise clear set).meets Reg.Backend.queueBusy = after.state.ring.busy)
    (update : ((before.bus.peek Reg.Backend.queueControl).revise clear set).meets Reg.Backend.queueSecondaryUpdate =
      after.state.secondaryUpdate)
    (issue : after.state.ring.issue = before.state.ring.issue)
    (slots : ∀ slot, after.state.ring.slot slot = before.state.ring.slot slot) : Mirrored after := by
  have control : after.bus.peek Reg.Backend.queueControl = (before.bus.peek Reg.Backend.queueControl).revise clear set := by
    rw [bus]
    exact Board.peek_modify (mirrored.unmarked _ queue_control_mirrors) clear set
  have away {other : Address} (different : Reg.Backend.queueControl ≠ other) : after.bus.peek other = before.bus.peek other := by
    rw [bus]
    exact Board.peek_modify_other different clear set
  refine mirrored_of_fixed mirrored (by rw [bus]; rfl) (fun other high => away ?_) slots ?_ ?_ ?_
  · rintro rfl
    exact absurd high (by decide)
  · rw [control, busy]
  · rw [control, update]
  · rw [away (by decide), issue]
    exact mirrored.shows.issue

theorem mirrored_of_issue {before after : Controller Board} (mirrored : Mirrored before)
    (bus : after.bus = Bus.write before.bus Reg.Backend.issue after.state.ring.issue.toByte)
    (busy : after.state.ring.busy = before.state.ring.busy)
    (update : after.state.secondaryUpdate = before.state.secondaryUpdate)
    (slots : ∀ slot, after.state.ring.slot slot = before.state.ring.slot slot) : Mirrored after := by
  have away {other : Address} (different : Reg.Backend.issue ≠ other) : after.bus.peek other = before.bus.peek other := by
    rw [bus]
    exact Board.peek_write_other different _
  refine mirrored_of_fixed mirrored (by rw [bus]; rfl) (fun other high => away ?_) slots ?_ ?_ ?_
  · rintro rfl
    exact absurd high (by decide)
  · rw [away (by decide), busy]
    exact mirrored.shows.busy
  · rw [away (by decide), update]
    exact mirrored.shows.update
  · rw [bus]
    exact Board.peek_write (mirrored.unmarked _ issue_mirrors) _

-- One slot of the ring changes, and of the registers those of its block at most.
theorem mirrored_of_put {before after : Controller Board} {index : SlotIndex} {value : Slot} (mirrored : Mirrored before)
    (marks : after.bus.oneToClear = before.bus.oneToClear)
    (slots : after.state.ring.slots = (before.state.ring.put index value).slots)
    (busy : after.state.ring.busy = before.state.ring.busy) (issue : after.state.ring.issue = before.state.ring.issue)
    (update : after.state.secondaryUpdate = before.state.secondaryUpdate)
    (elsewhere : ∀ other, (∀ offset : Address, offset.toNat < 4 → index.registers + offset ≠ other) →
      after.bus.peek other = before.bus.peek other)
    (shown : value.isFree = false →
      after.bus.peek (index.registers + Reg.Backend.slotControl) = value.control.bits ∧
        after.bus.peek (index.registers + Reg.Backend.slotCount) = value.byteCount) : Mirrored after := by
  have shows := mirrored.shows
  have fixed {other : Address} (below : other.toNat < 0xC100) : after.bus.peek other = before.bus.peek other :=
    elsewhere other fun _ small => SlotIndex.registers_ne small below
  have beside {other : SlotIndex} (different : index ≠ other) {offset : Address} (small : offset.toNat < 4) :
      after.bus.peek (other.registers + offset) = before.bus.peek (other.registers + offset) :=
    elsewhere _ fun _ small' same => different (SlotIndex.registers_inj small' small same).1
  refine ⟨by rw [marks]; exact mirrored.unmarked, ?_, ?_, ?_, fun other valid => ?_⟩
  · rw [fixed (by decide), busy]
    exact shows.busy
  · rw [fixed (by decide), update]
    exact shows.update
  · rw [fixed (by decide), issue]
    exact shows.issue
  · rw [CommandRing.slot_of_put slots] at valid ⊢
    by_cases here : index = other
    · rw [if_pos here] at valid ⊢
      rw [← here]
      exact shown valid
    · rw [if_neg here] at valid ⊢
      rw [beside here (by decide), beside here (by decide)]
      exact shows.slots other valid

theorem load_counts_mirrors : Preserves Mirrored loadCounts := by
  intro before mirrored
  refine mirrored_of_shown mirrored ?_ rfl rfl rfl fun _ _ => rfl
  change (Bus.write (Bus.write (Bus.modify before.bus _ _ _) _ _) _ _).shown mirrors = _
  rw [Board.shown_write (by decide +kernel), Board.shown_write (by decide +kernel), Board.shown_modify (by decide +kernel)]

theorem arm_burst_mirrors (param1 : Byte) : Preserves Mirrored (armBurst param1) := by
  intro before mirrored
  unfold armBurst
  rw [bind_get_state]
  cases running : before.state.ring.busy with
  | true => exact mirrored
  | false =>
      refine mirrored_of_control mirrored rfl ?_ ?_ rfl fun _ => rfl
      · exact Byte.revise_meets_set (by decide) (by decide) _
      · exact (Byte.revise_meets_other (by decide) (by decide) _).trans mirrored.shows.update

theorem fill_slot_mirrors {before : Controller Board} (mirrored : Mirrored before) (slot : Slot) :
    Mirrored (ending (fillSlot before.state.ring.index slot before)) := by
  let index := before.state.ring.index
  let half := Bus.write before.bus (index.registers + Reg.Backend.slotControl) slot.control.bits
  let filled := Bus.write half (index.registers + Reg.Backend.slotCount) slot.byteCount
  have elsewhere (other : Address) (outside : ∀ offset : Address, offset.toNat < 4 → index.registers + offset ≠ other) :
      filled.peek other = before.bus.peek other :=
    (Board.peek_write_other (outside _ (by decide)) _).trans (Board.peek_write_other (outside _ (by decide)) _)
  refine mirrored_of_put mirrored rfl rfl rfl rfl rfl elsewhere fun _ => ⟨?_, ?_⟩
  · have apart : index.registers + Reg.Backend.slotCount ≠ index.registers + Reg.Backend.slotControl := fun same =>
      absurd (SlotIndex.registers_inj (by decide) (by decide) same).2 (by decide)
    exact (Board.peek_write_other apart _).trans (Board.peek_write (mirrored.unmarked _ (slot_control_mirrors index)) _)
  · have unmarked : index.registers + Reg.Backend.slotCount ∉ half.oneToClear :=
      mirrored.unmarked _ (slot_count_mirrors index)
    exact Board.peek_write unmarked _

theorem record_submission_mirrors : Preserves Mirrored (recordSubmission : BridgeM Board Unit) := by
  have counts : Preserves Mirrored
      (modifyState fun state =>
        { state with ring := state.ring.submitted, submitLog := (state.submitLog + 1) &&& 0x1F } : BridgeM Board Unit) := by
    intro before mirrored
    obtain ⟨outstanding, counted⟩ := before.state.ring.submitted_counts
    have busy := congrArg CommandRing.busy counted
    have issue := congrArg CommandRing.issue counted
    have slots := congrArg CommandRing.slots counted
    exact mirrored_of_shown mirrored rfl busy rfl issue fun slot _ => CommandRing.slot_of_slots slots slot
  refine preserves_bind (fun _ => id) fun state => ?_
  split
  · exact preserves_bind (fun _ mirrored => mirrored_of_shown mirrored rfl rfl rfl rfl fun _ _ => rfl) fun _ => counts
  · exact counts

-- A slot that is freed needs no registers, and its status register is not part of the mirror.
theorem settle_window_mirrors (index : SlotIndex) (needed byteCount : Byte) :
    Preserves Mirrored (settleWindow index needed byteCount) := by
  have marks : Preserves Mirrored
      (modifyByte (index.registers + Reg.Backend.slotStatus) Reg.Backend.slotStatusMask
        (needed &&& Reg.Backend.slotStatusMask)) := fun before mirrored =>
    mirrored_of_shown mirrored (Board.shown_modify (slot_status_apart index) _ _) rfl rfl rfl fun _ _ => rfl
  unfold settleWindow
  by_cases fits : byteCount >>> 3 ≤ needed &&& 0x1F
  · rw [if_pos fits]
    intro before mirrored
    let cleared : Controller Board :=
      { before with
        bus := Bus.write before.bus (index.registers + Reg.Backend.slotControl) 0
        state := { before.state with ring := before.state.ring.clear index } }
    have elsewhere (other : Address) (outside : ∀ offset : Address, offset.toNat < 4 → index.registers + offset ≠ other) :
        cleared.bus.peek other = before.bus.peek other := Board.peek_write_other (outside _ (by decide)) _
    have emptied : Mirrored cleared :=
      mirrored_of_put mirrored rfl rfl rfl rfl rfl elsewhere fun valid => by cases valid
    exact marks cleared emptied
  · rw [if_neg fits]
    exact preserves_bind record_submission_mirrors fun _ => marks

theorem hand_off_mirrors : Preserves Mirrored handOff := by
  intro before mirrored
  by_cases last : before.state.ring.counter - 1 = 0
  · have stepped := CommandRing.step_of_last last
    have busy := congrArg CommandRing.busy stepped
    have issue := congrArg CommandRing.issue stepped
    have slots := congrArg CommandRing.slots stepped
    have ended : handOff before = .ok () { before with
        bus := Bus.modify before.bus Reg.Backend.queueControl Reg.Backend.queueBusy 0
        state := { before.state with ring := before.state.ring.step } } := by
      unfold handOff
      rw [bind_modify_state, bind_get_state, stepped]
      exact congrFun (if_pos last) _
    rw [ended]
    refine mirrored_of_control mirrored rfl ?_ ?_ issue (CommandRing.slot_of_slots slots)
    · exact (Byte.revise_meets_cleared (by decide) (by decide) _).trans busy.symm
    · exact (Byte.revise_meets_other (by decide) (by decide) _).trans mirrored.shows.update
  · have stepped := CommandRing.step_of_more last
    have busy := congrArg CommandRing.busy stepped
    have slots := congrArg CommandRing.slots stepped
    have ended : handOff before = .ok () { before with
        bus := Bus.write before.bus Reg.Backend.issue before.state.ring.step.issue.toByte
        state := { before.state with ring := before.state.ring.step } } := by
      unfold handOff
      rw [bind_modify_state, bind_get_state, stepped]
      exact congrFun (if_neg last) _
    rw [ended]
    exact mirrored_of_issue mirrored rfl busy rfl (CommandRing.slot_of_slots slots)

-- the fields that the registers of the queue tell
def fields (state : State) : CommandRing × Bool :=
  (state.ring, state.secondaryUpdate)

theorem mirrored_of_tied (before after : Controller Board) (same : after.tied mirrors fields = before.tied mirrors fields)
    (mirrored : Mirrored before) : Mirrored after := by
  obtain ⟨shown, rest⟩ := Prod.mk.inj same
  obtain ⟨ring, update⟩ := Prod.mk.inj rest
  refine mirrored_of_shown mirrored shown ?_ update ?_ fun slot _ => ?_
  · rw [ring]
  · rw [ring]
  · rw [ring]

theorem check_mirrors : Preserves Mirrored (Readiness.check : BridgeM Board Readiness) := by
  have apart := Board.not_mem_of_apart (show Board.apart Readiness.registers mirrors = true by decide +kernel)
  exact preserves_apart mirrored_of_tied Readiness.check_records apart
    (keeps_coarser Readiness.check_keeps fun rest => fields rest.2.1)

theorem transfer_and_hand_off_mirrors (flags : TransferFlags) (index : SlotIndex) :
    Preserves Mirrored (transferAndHandOff flags index : BridgeM Board Unit) := by
  have apart := Board.not_mem_of_apart (show Board.apart Transfer.registers mirrors = true by decide +kernel)
  have programs : Preserves Mirrored (Transfer.program flags index.toByte : BridgeM Board Transfer) :=
    preserves_apart mirrored_of_tied (Transfer.program_records _ _) apart
      (keeps_coarser (Transfer.program_keeps _ _) fun rest => fields rest.2.1)
  refine preserves_bind programs fun _ => ?_
  exact preserves_bind (fun before => mirrored_of_tied before _ rfl) fun _ => hand_off_mirrors

theorem finish_extended_mirrors (flags : TransferFlags) (index : SlotIndex) :
    Preserves Mirrored (finishExtended flags index : BridgeM Board Submission) := by
  intro before mirrored
  let updated : Controller Board :=
    { before with
      bus := Bus.modify before.bus Reg.Backend.queueControl 0 Reg.Backend.queueSecondaryUpdate
      state := { before.state with secondaryUpdate := true } }
  have told : Mirrored updated := by
    refine mirrored_of_control mirrored rfl ?_ ?_ rfl fun _ => rfl
    · exact (Byte.revise_meets_other (by decide) (by decide) _).trans mirrored.shows.busy
    · exact Byte.revise_meets_set (by decide) (by decide) _
  unfold finishExtended
  rw [bind_modify_state, bind_modify_byte]
  refine preserves_bind (fun _ => id) (fun head => ?_) updated told
  refine preserves_bind (fun before => mirrored_of_tied before _ rfl) fun _ => ?_
  refine preserves_bind record_submission_mirrors fun _ => ?_
  exact preserves_bind (transfer_and_hand_off_mirrors _ _) fun _ _ => id

theorem finish_simple_mirrors (flags : TransferFlags) (index : SlotIndex) (inbound : Bool) (slot : Slot) :
    Preserves Mirrored (finishSimple flags index inbound slot : BridgeM Board Submission) := by
  have apart := Board.not_mem_of_apart (show Board.apart Transfer.secondRegisters mirrors = true by decide +kernel)
  have resolves (secondary : Byte) : Preserves Mirrored (Transfer.resolveSecondary secondary : BridgeM Board Byte) := by
    have kept : Keeps (fun controller : Controller Board => fields controller.state) never
        (Transfer.resolveSecondary secondary) := ⟨fun _ => rfl⟩
    exact preserves_apart mirrored_of_tied (Transfer.resolve_secondary_records _) apart kept
  refine preserves_bind (settle_window_mirrors _ _ _) fun _ => preserves_bind (fun _ => id) fun secondary => ?_
  refine preserves_bind (fun before => mirrored_of_tied before _ rfl) fun _ => ?_
  refine preserves_bind (resolves secondary) fun _ => preserves_bind (transfer_and_hand_off_mirrors _ _) fun _ => ?_
  exact preserves_bind (fun _ => id) fun _ _ => id

theorem accept_mirrors (before : Controller Board) (param1 param2 : Byte) (action : Action) (mirrored : Mirrored before) :
    Mirrored (ending (accept before.state.ring.index param1 param2 action before)) := by
  let loaded := ending (loadCounts before)
  have loading : loadCounts before = .ok () loaded := rfl
  obtain ⟨armed, arming, moved⟩ := arm_burst_ledger param1 loaded
  have burst := loaded.ledger.arm_only_burst (SlotIndex.wrap param1)
  rw [← moved] at burst
  have index : armed.state.ring.index = before.state.ring.index := burst.index
  let slot : Slot := { control := .forAction action (param1 >>> 5), byteCount := param2 }
  have ready := arm_burst_mirrors param1 loaded (load_counts_mirrors before mirrored)
  rw [arming] at ready
  change Mirrored armed at ready
  have filled := fill_slot_mirrors ready slot
  rw [index] at filled
  let placed := ending (fillSlot before.state.ring.index slot armed)
  have filling : fillSlot before.state.ring.index slot armed = .ok () placed := rfl
  unfold accept
  rw [bind_of_ok loading, bind_of_ok arming, bind_of_ok filling]
  refine preserves_bind (fun _ => id) (fun raw => ?_) placed filled
  dsimp only
  split
  · exact finish_extended_mirrors _ _
  · exact finish_simple_mirrors _ _ _ _

theorem handle_mirrors (event : Byte) : Preserves Mirrored (Completion.handle event : BridgeM Board Completion) := by
  intro before mirrored
  have shown : (ending (Completion.handle event before)).bus.shown mirrors = before.bus.shown mirrors :=
    keeps_ending (keeps_spared (Completion.handle_records event)
      (Board.spares_shown completion_apart fun _ _ _ => False.elim)) before
  have update : (ending (Completion.handle event before)).state.secondaryUpdate = before.state.secondaryUpdate :=
    congrArg (fun rest => rest.2.1.secondaryUpdate) (keeps_ending (Completion.handle_keeps event) before)
  obtain ⟨completion, after, ended, moved⟩ := Completion.handle_ledger event before
  rw [ended] at shown update ⊢
  change Mirrored after
  rcases moved with ⟨-, retired⟩ | ⟨-, kept⟩
  · have ring : after.state.ring = before.state.ring.release (SlotIndex.wrap event) :=
      (congrArg Ledger.ring retired).trans (before.ledger.retire_ring _)
    refine mirrored_of_shown mirrored shown ?_ update ?_ fun slot valid => ?_
    · rw [ring]
      rfl
    · rw [ring]
      rfl
    · have slots : after.state.ring.slots = (before.state.ring.put (SlotIndex.wrap event) .empty).slots := by
        rw [ring]
        rfl
      rw [CommandRing.slot_of_put slots] at valid ⊢
      split at valid
      · cases valid
      · rename_i other
        exact if_neg other
  · have ring : after.state.ring = before.state.ring := congrArg Ledger.ring kept
    exact mirrored_of_tied before after (Prod.ext shown (Prod.ext ring update)) mirrored

theorem mirrored_lasts : Lasting mirrors Mirrored :=
  { framed := fun before after same => by
      have shown := congrArg Prod.fst same
      have rest := congrArg (fun tied => (tied.2.ring, tied.2.secondaryUpdate)) same
      exact mirrored_of_tied before after (Prod.ext shown rest)
    checked := check_mirrors
    accepted := accept_mirrors
    completed := handle_mirrors
    apart := Board.not_mem_of_apart (show Board.apart Endpoint.registers mirrors = true by decide +kernel) }

theorem mirrored_of_fresh {board : Board} (fresh : board = .powered ∨ board = .blank) (settings : Settings) :
    Mirrored (Controller.start board settings) := by
  have unmarked : Board.apart mirrors board.oneToClear = true := by
    rcases fresh with rfl | rfl <;> decide +kernel
  have control : board.peek Reg.Backend.queueControl = 0 := by
    rcases fresh with rfl | rfl <;> decide +kernel
  have issue : board.peek Reg.Backend.issue = 0 := by
    rcases fresh with rfl | rfl <;> decide +kernel
  have empty (slot : SlotIndex) : ((Controller.start board settings).state.ring.slot slot).isFree = true :=
    congrArg Slot.isFree (CommandRing.slot_empty slot)
  refine ⟨Board.not_mem_of_apart unmarked, ?_, ?_, issue, fun slot valid => ?_⟩
  · change (board.peek Reg.Backend.queueControl).meets Reg.Backend.queueBusy = false
    rw [control, Byte.zero_meets]
  · change (board.peek Reg.Backend.queueControl).meets Reg.Backend.queueSecondaryUpdate = false
    rw [control, Byte.zero_meets]
  · cases valid.symm.trans (empty slot)

end Submission

theorem backend_registers_mirror_ring (board : Board) (fresh : board = .powered ∨ board = .blank) (settings : Settings)
    (events : List (Event Board))
    (spared : ∀ step ∈ (Run.of (Controller.start board settings) events).history,
      step.event.Spares Submission.mirrors step.before.bus) :
    let controller := (Run.of (Controller.start board settings) events).controller
    controller.bus.ShowsQueue controller.state := by
  have initial : Submission.Mirrored (Controller.start board settings) := Submission.mirrored_of_fresh fresh settings
  exact (Submission.mirrored_lasts.run initial events spared).shows

-- the first command of a burst of two
theorem burst_of_two_mirrored :
    let run := Run.of (Controller.start Board.powered .reference) [.hardware (.asking 0x88 2), .plainPass]
    (∀ step ∈ run.history, step.event.Spares Submission.mirrors step.before.bus) ∧
      run.controller.state.ring.busy = true ∧ run.controller.bus.ShowsQueue run.controller.state := by
  intro run
  have spared : ∀ step ∈ run.history, step.event.Spares Submission.mirrors step.before.bus := by
    intro step member
    rcases List.mem_pair.mp member with rfl | rfl
    · change (Board.asking 0x88 2).shown Submission.mirrors = Board.powered.shown Submission.mirrors
      decide +kernel
    · exact fun _ _ _ => rfl
  exact ⟨spared, by decide +kernel, backend_registers_mirror_ring .powered (.inl rfl) .reference _ spared⟩

end StorageBridge
