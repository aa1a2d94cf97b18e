import StorageBridge.Proofs.Effects
import StorageBridge.Proofs.Run

/-!
The footprint of each stage of the core: the registers that it may write or wait on. Each stage runs
over a recorder as over the bus beneath, so what a pass or a completion does to the outside can be
read off a recorder.
-/

set_option autoImplicit false

namespace StorageBridge

open BridgeM

variable {η β : Type} [Bus β] {calls : Byte → β → β → Prop}

namespace Readiness

def registers : List Address :=
  [Reg.Transport.flags, Reg.Backend.linkControl, Reg.Backend.linkStatus]

theorem refuse_records {touched : Address → Prop} (readiness : Readiness) (request : RetryRequest) :
    Records touched calls (refuse readiness request : BridgeM (Recorder β) Readiness) (refuse readiness request) :=
  records_silent (fun _ => rfl) fun _ => rfl

theorem link_is_up_records {touched : Address → Prop} :
    Records touched calls (linkIsUp : BridgeM (Recorder β) Bool) linkIsUp :=
  records_bind (records_read _) fun _ => records_pure _

theorem check_rolling_records {touched : Address → Prop} :
    Records touched calls (checkRolling : BridgeM (Recorder β) Readiness) checkRolling := by
  refine records_bind (records_read _) fun status => ?_
  exact records_ite (fun _ => records_pure _) fun _ => refuse_records _ _

theorem recover_link_records :
    Records (· ∈ registers) calls (recoverLink : BridgeM (Recorder β) Bool) recoverLink := by
  refine records_bind (records_write _ (by decide)) fun _ => ?_
  refine records_bind (records_wait _ (by decide)) fun _ => ?_
  exact records_bind (records_write _ (by decide)) fun _ => link_is_up_records

theorem check_drained_records :
    Records (· ∈ registers) calls (checkDrained : BridgeM (Recorder β) Readiness) checkDrained := by
  refine records_bind (records_silent (fun _ => rfl) fun _ => rfl) fun state => ?_
  refine records_ite (fun _ => records_pure _) fun _ => records_ite (fun _ => check_rolling_records) fun _ => ?_
  refine records_bind recover_link_records fun up => records_ite (fun _ => check_rolling_records) fun _ => ?_
  exact records_bind (records_silent (fun _ => rfl) fun _ => rfl) fun _ => refuse_records _ _

theorem check_busy_records (depth : Option Byte) :
    Records (· ∈ registers) calls (checkBusy depth : BridgeM (Recorder β) Readiness) (checkBusy depth) := by
  have decided (busy : Bool) : Records (· ∈ registers) calls
      (if busy then pure .inProgress
        else if depth = some Reg.Backend.depthDrained then checkDrained else checkRolling : BridgeM (Recorder β) Readiness)
      (if busy then pure .inProgress
        else if depth = some Reg.Backend.depthDrained then checkDrained else checkRolling) :=
    records_ite (fun _ => records_pure _) fun _ => records_ite (fun _ => check_drained_records) fun _ => check_rolling_records
  refine records_bind (records_silent (fun _ => rfl) fun _ => rfl) fun state => ?_
  dsimp only
  refine records_ite (fun _ => ?_) fun _ => ?_
  · exact records_bind (records_pure _) decided
  · exact records_bind (records_read _) fun _ => records_bind (records_pure _) decided

theorem check_depth_records :
    Records (· ∈ registers) calls (checkDepth : BridgeM (Recorder β) Readiness) checkDepth := by
  refine records_bind (records_read _) fun depth => records_ite (fun _ => ?_) fun _ => check_busy_records _
  exact records_bind (records_silent (fun _ => rfl) fun _ => rfl) fun _ => refuse_records _ _

theorem check_link_records :
    Records (· ∈ registers) calls (checkLink : BridgeM (Recorder β) Readiness) checkLink := by
  refine records_bind (records_silent (fun _ => rfl) fun _ => rfl) fun _ => ?_
  refine records_bind link_is_up_records fun up => ?_
  refine records_bind (records_silent (fun _ => rfl) fun _ => rfl) fun state => records_ite (fun _ => ?_) fun _ => ?_
  · refine records_bind (records_modify _ _ (by decide)) fun _ => ?_
    exact records_ite (fun _ => check_depth_records) fun _ => check_busy_records _
  · exact records_ite (fun _ => check_depth_records) fun _ => refuse_records _ _

theorem evaluate_records :
    Records (· ∈ registers) calls (evaluate : BridgeM (Recorder β) Readiness) evaluate := by
  refine records_bind (records_silent (fun _ => rfl) fun _ => rfl) fun state => ?_
  exact records_ite (fun _ => refuse_records _ _) fun _ => check_link_records

theorem check_records :
    Records (· ∈ registers) calls (check : BridgeM (Recorder β) Readiness) check := by
  refine records_bind evaluate_records fun readiness => records_ite (fun _ => records_pure _) fun _ => ?_
  exact records_silent (fun _ => rfl) fun _ => rfl

end Readiness

namespace Transfer

def registers : List Address :=
  [Reg.Dma.ready, Reg.Dma.control, Reg.Dma.sourceLow, Reg.Dma.sourceHigh, Reg.Dma.destinationLow,
    Reg.Dma.destinationHigh, Reg.Dma.mode] ++
    (List.range Reg.Dma.tagLength).map (fun i => Reg.Dma.tag + UInt16.ofNat i) ++
    [Reg.Dma.trailer, Reg.Dma.bufferMode, Reg.Dma.length, Reg.Dma.status]

def secondRegisters : List Address :=
  [Reg.Dma.secondLow, Reg.Dma.secondHigh, Reg.Dma.bufferOffset]

theorem source_records (flags : TransferFlags) (channel : Byte) :
    Records (· ∈ registers) calls (source flags channel : BridgeM (Recorder β) (Byte × Address)) (source flags channel) := by
  refine records_ite (fun _ => records_silent (fun _ => rfl) fun _ => rfl) fun _ => ?_
  refine records_bind (records_modify _ _ (by decide)) fun _ => ?_
  exact records_bind (records_read _) fun _ => records_bind (records_read _) fun _ => records_pure _

theorem write_addresses_records (base : Address) :
    Records (· ∈ registers) calls (writeAddresses base : BridgeM (Recorder β) Unit) (writeAddresses base) := by
  refine records_bind (records_write _ (by decide)) fun _ => records_bind (records_write _ (by decide)) fun _ => ?_
  exact records_bind (records_write _ (by decide)) fun _ => records_write _ (by decide)

theorem write_mode_records (mode : Byte) :
    Records (· ∈ registers) calls (writeMode mode : BridgeM (Recorder β) Unit) (writeMode mode) :=
  records_bind (records_write _ (by decide)) fun _ => records_silent (fun _ => rfl) fun _ => rfl

theorem clear_tags_records :
    Records (· ∈ registers) calls (clearTags : BridgeM (Recorder β) Unit) clearTags := by
  have inside : ∀ i ∈ List.range Reg.Dma.tagLength, Reg.Dma.tag + UInt16.ofNat i ∈ registers := by decide
  exact records_bind (records_for_each _ fun i member => records_write _ (inside i member)) fun _ =>
    records_write _ (by decide)

theorem write_extended_records (base : Address) (mode : Byte) :
    Records (· ∈ registers) calls (writeExtended base mode : BridgeM (Recorder β) Transfer) (writeExtended base mode) := by
  refine records_bind (records_silent (fun _ => rfl) fun _ => rfl) fun state => ?_
  exact records_bind (records_write _ (by decide)) fun _ => records_bind (records_write _ (by decide)) fun _ => records_pure _

theorem write_normal_records (flags : TransferFlags) (base : Address) (mode : Byte) :
    Records (· ∈ registers) calls (writeNormal flags base mode : BridgeM (Recorder β) Transfer) (writeNormal flags base mode) := by
  refine records_bind (records_write _ (by decide)) fun _ => ?_
  refine records_bind (records_silent (fun _ => rfl) fun _ => rfl) fun state => ?_
  refine records_ite (fun _ => ?_) fun _ => records_pure _
  refine records_bind (records_write _ (by decide)) fun _ => records_bind (records_modify _ _ (by decide)) fun _ => ?_
  exact records_bind (records_silent (fun _ => rfl) fun _ => rfl) fun _ => records_pure _

theorem program_idle_records (flags : TransferFlags) (channel : Byte) :
    Records (· ∈ registers) calls (programIdle flags channel : BridgeM (Recorder β) Transfer) (programIdle flags channel) := by
  refine records_bind (source_records _ _) fun (mode, base) => records_bind (write_addresses_records _) fun _ => ?_
  refine records_bind (write_mode_records _) fun _ => records_bind clear_tags_records fun _ => ?_
  dsimp only
  refine records_ite (fun _ => ?_) fun _ => ?_
  · exact records_bind (write_extended_records _ _) fun _ => records_silent (fun _ => rfl) fun _ => rfl
  · exact records_bind (write_normal_records _ _ _) fun _ => records_silent (fun _ => rfl) fun _ => rfl

theorem program_records (flags : TransferFlags) (channel : Byte) :
    Records (· ∈ registers) calls (program flags channel : BridgeM (Recorder β) Transfer) (program flags channel) :=
  records_bind (records_wait _ (by decide)) fun _ => program_idle_records _ _

theorem resolve_secondary_records (secondary : Byte) :
    Records (· ∈ secondRegisters) calls (resolveSecondary secondary : BridgeM (Recorder β) Byte) (resolveSecondary secondary) := by
  refine records_bind (records_write _ (by decide)) fun _ => records_bind (records_write _ (by decide)) fun _ => ?_
  refine records_bind (records_write _ (by decide)) fun _ => ?_
  exact records_bind (records_silent (fun _ => rfl) fun _ => rfl) fun _ => records_pure _

end Transfer

theorem SlotIndex.registers_to_nat (index : SlotIndex) {offset : Address} (small : offset.toNat < 4) :
    (index.registers + offset).toNat = 0xC100 + 4 * index.val + offset.toNat := by
  have bound := index.isLt
  simp [registers, Reg.Backend.slotBase, Reg.Backend.slotStride]
  omega

theorem EndpointIndex.offset_to_nat : ∀ group endpoint : EndpointIndex,
    (offset group endpoint).toNat = 8 * group.val + endpoint.val := by
  decide +kernel

namespace Submission

def slotRegisters (index : SlotIndex) : List Address :=
  [index.registers + Reg.Backend.slotControl, index.registers + Reg.Backend.slotCount, index.registers + Reg.Backend.slotStatus]

def queueRegisters : List Address :=
  [Reg.Backend.deviceStatus, Reg.Backend.countA, Reg.Backend.countB, Reg.Backend.queueControl, Reg.Backend.issue] ++
    (List.finRange 32).flatMap slotRegisters

def registers : List Address :=
  Readiness.registers ++ queueRegisters ++ Transfer.secondRegisters ++ Transfer.registers

theorem slot_registers_inside (index : SlotIndex) {address : Address} (inside : address ∈ slotRegisters index) :
    address ∈ queueRegisters :=
  List.mem_append_right _ (List.mem_flatMap.mpr ⟨index, List.mem_finRange index, inside⟩)

theorem queue_inside {address : Address} (inside : address ∈ queueRegisters) : address ∈ registers := by
  simp [registers, inside]

theorem transfer_inside {address : Address} (inside : address ∈ Transfer.registers) : address ∈ registers := by
  simp [registers, inside]

theorem second_inside {address : Address} (inside : address ∈ Transfer.secondRegisters) : address ∈ registers := by
  simp [registers, inside]

theorem readiness_inside {address : Address} (inside : address ∈ Readiness.registers) : address ∈ registers := by
  simp [registers, inside]

theorem record_submission_records {touched : Address → Prop} :
    Records touched calls (recordSubmission : BridgeM (Recorder β) Unit) recordSubmission := by
  refine records_bind (records_silent (fun _ => rfl) fun _ => rfl) fun state => records_ite (fun _ => ?_) fun _ => ?_
  · exact records_silent (fun _ => rfl) fun _ => rfl
  · exact records_silent (fun _ => rfl) fun _ => rfl

theorem load_counts_records :
    Records (· ∈ queueRegisters) calls (loadCounts : BridgeM (Recorder β) Unit) loadCounts := by
  refine records_bind (records_modify _ _ (by decide)) fun _ => ?_
  refine records_bind (records_silent (fun _ => rfl) fun _ => rfl) fun state => ?_
  exact records_bind (records_write _ (by decide)) fun _ => records_write _ (by decide)

theorem arm_burst_records (param1 : Byte) :
    Records (· ∈ queueRegisters) calls (armBurst param1 : BridgeM (Recorder β) Unit) (armBurst param1) := by
  refine records_bind (records_silent (fun _ => rfl) fun _ => rfl) fun state => records_ite (fun _ => records_pure _) fun _ => ?_
  exact records_bind (records_silent (fun _ => rfl) fun _ => rfl) fun _ => records_modify _ _ (by decide)

theorem fill_slot_records (index : SlotIndex) (slot : Slot) :
    Records (· ∈ queueRegisters) calls (fillSlot index slot : BridgeM (Recorder β) Unit) (fillSlot index slot) := by
  refine records_bind (records_silent (fun _ => rfl) fun _ => rfl) fun _ => ?_
  refine records_bind (records_write _ (slot_registers_inside index (by simp [slotRegisters]))) fun _ => ?_
  exact records_write _ (slot_registers_inside index (by simp [slotRegisters]))

theorem hand_off_records :
    Records (· ∈ queueRegisters) calls (handOff : BridgeM (Recorder β) Unit) handOff := by
  refine records_bind (records_silent (fun _ => rfl) fun _ => rfl) fun _ => ?_
  refine records_bind (records_silent (fun _ => rfl) fun _ => rfl) fun state => records_ite (fun _ => ?_) fun _ => ?_
  · exact records_modify _ _ (by decide)
  · exact records_write _ (by decide)

theorem transfer_and_hand_off_records (flags : TransferFlags) (index : SlotIndex) :
    Records (· ∈ registers) calls (transferAndHandOff flags index : BridgeM (Recorder β) Unit)
      (transferAndHandOff flags index) := by
  refine records_bind (records_wider (fun _ => transfer_inside) (Transfer.program_records _ _)) fun _ => ?_
  refine records_bind (records_silent (fun _ => rfl) fun _ => rfl) fun _ => ?_
  exact records_wider (fun _ => queue_inside) hand_off_records

theorem finish_extended_records (flags : TransferFlags) (index : SlotIndex) :
    Records (· ∈ registers) calls (finishExtended flags index : BridgeM (Recorder β) Submission)
      (finishExtended flags index) := by
  refine records_bind (records_silent (fun _ => rfl) fun _ => rfl) fun _ => ?_
  refine records_bind (records_modify _ _ (queue_inside (by decide))) fun _ => records_bind (records_read _) fun head => ?_
  refine records_bind (records_silent (fun _ => rfl) fun _ => rfl) fun _ => records_bind record_submission_records fun _ => ?_
  exact records_bind (transfer_and_hand_off_records _ _) fun _ => records_pure _

theorem settle_window_records (index : SlotIndex) (needed byteCount : Byte) :
    Records (· ∈ queueRegisters) calls (settleWindow index needed byteCount : BridgeM (Recorder β) Unit)
      (settleWindow index needed byteCount) := by
  have marked : Records (· ∈ queueRegisters) calls
      (modifyByte (index.registers + Reg.Backend.slotStatus) Reg.Backend.slotStatusMask
        (needed &&& Reg.Backend.slotStatusMask) : BridgeM (Recorder β) Unit)
      (modifyByte (index.registers + Reg.Backend.slotStatus) Reg.Backend.slotStatusMask
        (needed &&& Reg.Backend.slotStatusMask)) :=
    records_modify _ _ (slot_registers_inside index (by simp [slotRegisters]))
  refine records_ite (fun _ => ?_) fun _ => records_bind record_submission_records fun _ => marked
  refine records_bind (records_silent (fun _ => rfl) fun _ => rfl) fun _ => ?_
  exact records_bind (records_write _ (slot_registers_inside index (by simp [slotRegisters]))) fun _ => marked

theorem finish_simple_records (flags : TransferFlags) (index : SlotIndex) (inbound : Bool) (slot : Slot) :
    Records (· ∈ registers) calls (finishSimple flags index inbound slot : BridgeM (Recorder β) Submission)
      (finishSimple flags index inbound slot) := by
  refine records_bind (records_wider (fun _ => queue_inside) (settle_window_records _ _ _)) fun _ => ?_
  refine records_bind (records_read _) fun secondary => records_bind (records_silent (fun _ => rfl) fun _ => rfl) fun _ => ?_
  refine records_bind (records_wider (fun _ => second_inside) (Transfer.resolve_secondary_records _)) fun _ => ?_
  refine records_bind (transfer_and_hand_off_records _ _) fun _ => ?_
  exact records_bind (records_silent (fun _ => rfl) fun _ => rfl) fun _ => records_pure _

theorem accept_records (index : SlotIndex) (param1 param2 : Byte) (action : Action) :
    Records (· ∈ registers) calls (accept index param1 param2 action : BridgeM (Recorder β) Submission)
      (accept index param1 param2 action) := by
  refine records_bind (records_wider (fun _ => queue_inside) load_counts_records) fun _ => ?_
  refine records_bind (records_wider (fun _ => queue_inside) (arm_burst_records _)) fun _ => ?_
  refine records_bind (records_wider (fun _ => queue_inside) (fill_slot_records _ _)) fun _ => ?_
  refine records_bind (records_read _) fun raw => ?_
  dsimp only
  exact records_ite (fun _ => finish_extended_records _ _) fun _ => finish_simple_records _ _ _ _

theorem held_records {touched : Address → Prop} (index : SlotIndex) :
    Records touched calls (held index : BridgeM (Recorder β) Submission) (held index) := by
  refine records_bind (records_bind (records_read _) fun _ => records_pure _) fun transferring => ?_
  exact records_silent (fun _ => rfl) fun _ => rfl

theorem place_records (param1 param2 : Byte) (action : Action) :
    Records (· ∈ registers) calls (place param1 param2 action : BridgeM (Recorder β) Submission)
      (place param1 param2 action) := by
  refine records_bind (records_silent (fun _ => rfl) fun _ => rfl) fun state => ?_
  exact records_ite (fun _ => accept_records _ _ _ _) fun _ => held_records _

theorem submit_records (param1 param2 : Byte) (action : Action) :
    Records (· ∈ registers) calls (submit param1 param2 action : BridgeM (Recorder β) Submission)
      (submit param1 param2 action) := by
  refine records_bind (records_silent (fun _ => rfl) fun _ => rfl) fun before => ?_
  refine records_bind (records_silent (fun _ => rfl) fun _ => rfl) fun _ => ?_
  refine records_bind (records_wider (fun _ => readiness_inside) Readiness.check_records) fun readiness => ?_
  refine records_ite (fun _ => place_records _ _ _) fun _ => ?_
  exact records_bind (records_silent (fun _ => rfl) fun _ => rfl) fun _ => records_pure _

end Submission

namespace Transport

theorem classify_records :
    Records (· ∈ Submission.registers) calls (classify : BridgeM (Recorder β) (Option Submission)) classify := by
  refine records_bind (records_read _) fun status => ?_
  cases Action.ofStatus? status with
  | none => exact records_silent (fun _ => rfl) fun _ => rfl
  | some action =>
      refine records_bind ?_ fun _ => records_pure _
      refine records_bind (records_read _) fun low => records_bind (records_read _) fun high => ?_
      refine records_bind (records_silent (fun _ => rfl) fun _ => rfl) fun _ => ?_
      refine records_bind (records_read _) fun param1 => records_bind (records_read _) fun param2 => ?_
      refine records_bind (records_silent (fun _ => rfl) fun _ => rfl) fun _ => ?_
      exact records_bind (records_silent (fun _ => rfl) fun _ => rfl) fun _ => Submission.submit_records _ _ _

end Transport

namespace Endpoint

def registers : List Address :=
  (List.finRange 8).map EndpointIndex.groupRegister

theorem group_inside (group : EndpointIndex) : group.groupRegister ∈ registers :=
  List.mem_map_of_mem (List.mem_finRange group)

theorem next_ready_records {touched : Address → Prop} :
    Records touched calls (nextReady : BridgeM (Recorder β) (Option (EndpointIndex × EndpointIndex))) nextReady := by
  refine records_bind (records_read _) fun groups => ?_
  cases EndpointIndex.lowest? groups with
  | none => exact records_pure _
  | some group => exact records_bind (records_read _) fun _ => records_pure _

theorem serve_records (handler : EndpointHandler η β) (group endpoint : EndpointIndex) (own : η) :
    Records (· ∈ registers) (handled handler) (serve handler.recorded group endpoint own) (serve handler group endpoint own) := by
  refine records_bind (records_silent (fun _ => rfl) fun _ => rfl) fun _ => records_bind (records_call _ _ _) fun own => ?_
  refine records_bind (records_silent (fun _ => rfl) fun _ => rfl) fun _ => ?_
  exact records_bind (records_write _ (group_inside group)) fun _ => records_pure _

theorem service_rounds_records (handler : EndpointHandler η β) (rounds : Nat) (own : η) :
    Records (· ∈ registers) (handled handler) (serviceRounds handler.recorded rounds own)
      (serviceRounds handler rounds own) := by
  induction rounds generalizing own with
  | zero => exact records_pure _
  | succ rounds ih =>
      refine records_bind next_ready_records fun ready => ?_
      cases ready with
      | none => exact records_pure _
      | some found => exact records_bind (serve_records _ _ _ _) fun own => records_bind (ih own) fun _ => records_pure _

theorem service_records (handler : EndpointHandler η β) (own : η) :
    Records (· ∈ registers) (handled handler) (service handler.recorded own) (service handler own) := by
  refine records_bind (service_rounds_records _ _ _) fun (handled, own) => ?_
  dsimp only
  refine records_ite (fun _ => ?_) fun _ => records_pure _
  exact records_silent (fun _ => rfl) fun _ => rfl

end Endpoint

namespace Completion

-- the engine status and the windows
def Touches (address : Address) : Prop :=
  address = Reg.Dma.status ∨ ∃ event counter, address = window event counter

theorem window_to_nat (event counter : Byte) :
    (window event counter).toNat = (if event = 0 then 0xB100 else 0xB180) + 4 * counter.toNat := by
  have bound := counter.toNat_lt
  unfold window
  split
  · simp [Reg.Completion.baseIdle, Reg.Completion.stride]
    omega
  · simp [Reg.Completion.basePending, Reg.Completion.stride]
    omega

theorem update_counter_records {touched : Address → Prop} :
    Records touched calls (updateCounter : BridgeM (Recorder β) Byte) updateCounter := by
  refine records_bind (records_read _) fun status => ?_
  exact records_silent (fun _ => rfl) fun _ => rfl

theorem pulse_latch_records : Records Touches calls (pulseLatch : BridgeM (Recorder β) Unit) pulseLatch :=
  records_bind (records_modify _ _ (.inl rfl)) fun _ => records_modify _ _ (.inl rfl)

theorem window_flags_records (event counter : Byte) :
    Records Touches calls (windowFlags event counter : BridgeM (Recorder β) Byte) (windowFlags event counter) := by
  refine records_bind (records_silent (fun _ => rfl) fun _ => rfl) fun settings => ?_
  refine records_bind (records_bind (records_poll _ _ (.inr ⟨event, counter, rfl⟩)) fun _ => records_pure _) fun waited => ?_
  cases waited with
  | ok _ => exact records_bind (records_read _) fun _ => records_pure _
  | error _ =>
      refine records_bind (records_silent (fun _ => rfl) fun _ => rfl) fun _ => ?_
      exact records_bind (records_read _) fun _ => records_pure _

theorem release_slot_records {touched : Address → Prop} (slot : SlotIndex) :
    Records touched calls (releaseSlot slot : BridgeM (Recorder β) Bool) (releaseSlot slot) := by
  refine records_bind (records_silent (fun _ => rfl) fun _ => rfl) fun state => records_ite (fun _ => ?_) fun _ => ?_
  · exact records_silent (fun _ => rfl) fun _ => rfl
  · exact records_silent (fun _ => rfl) fun _ => rfl

theorem log_completion_records {touched : Address → Prop} (slot : SlotIndex) (wasInFlight : Bool) :
    Records touched calls (logCompletion slot wasInFlight : BridgeM (Recorder β) Unit) (logCompletion slot wasInFlight) := by
  refine records_ite (fun _ => ?_) fun _ => ?_
  · exact records_silent (fun _ => rfl) fun _ => rfl
  · exact records_silent (fun _ => rfl) fun _ => rfl

theorem recheck_counter_records {touched : Address → Prop} :
    Records touched calls (recheckCounter : BridgeM (Recorder β) Unit) recheckCounter := by
  refine records_bind (records_silent (fun _ => rfl) fun _ => rfl) fun state => records_ite (fun _ => ?_) fun _ => records_pure _
  refine records_bind (records_silent (fun _ => rfl) fun _ => rfl) fun _ => ?_
  exact records_bind update_counter_records fun _ => records_pure _

theorem retire_records (event : Byte) :
    Records Touches calls (retire event : BridgeM (Recorder β) Completion) (retire event) := by
  refine records_bind (records_write _ (.inl rfl)) fun _ => records_bind (release_slot_records _) fun wasInFlight => ?_
  exact records_bind (log_completion_records _ _) fun _ => records_bind recheck_counter_records fun _ => records_pure _

def flashRegisters : List Address :=
  [Reg.Flash.target, Reg.Flash.control]

theorem flash_control_records (target : Byte) :
    Records (· ∈ flashRegisters) calls (flashControl target : BridgeM (Recorder β) Completion) (flashControl target) := by
  refine records_bind (records_silent (fun _ => rfl) fun _ => rfl) fun _ => ?_
  refine records_bind (records_silent (fun _ => rfl) fun _ => rfl) fun _ => ?_
  refine records_bind (records_write _ (by decide)) fun _ => records_bind (records_write _ (by decide)) fun _ => ?_
  exact records_silent (fun _ => rfl) fun _ => rfl

theorem handle_records (event : Byte) :
    Records (fun address => Touches address ∨ address ∈ flashRegisters) calls
      (handle event : BridgeM (Recorder β) Completion) (handle event) := by
  refine records_bind (records_silent (fun _ => rfl) fun _ => rfl) fun _ => records_bind update_counter_records fun counter => ?_
  refine records_bind (records_wider (fun _ => .inl) pulse_latch_records) fun _ => ?_
  refine records_bind (records_wider (fun _ => .inl) (window_flags_records _ _)) fun flags => ?_
  refine records_bind (records_silent (fun _ => rfl) fun _ => rfl) fun state => records_ite (fun _ => ?_) fun _ => ?_
  · exact records_wider (fun _ => .inl) (retire_records _)
  · exact records_wider (fun _ => .inr) (flash_control_records _)

end Completion

namespace Controller

def PassTouches (address : Address) : Prop :=
  address ∈ Submission.registers ∨ address ∈ Endpoint.registers

def CompletionTouches (address : Address) : Prop :=
  Completion.Touches address ∨ address ∈ Completion.flashRegisters

-- where the registers of a completion lie
theorem completion_touches_to_nat {address : Address} (touched : CompletionTouches address) :
    address.toNat = 0xA000 ∨ address.toNat = 0xA001 ∨ address.toNat = 0xB018 ∨
      (0xB100 ≤ address.toNat ∧ address.toNat < 0xC000) := by
  rcases touched with (rfl | ⟨event, counter, rfl⟩) | flash
  · exact .inr (.inr (.inl rfl))
  · have bound := counter.toNat_lt
    rw [Completion.window_to_nat]
    split <;> omega
  · simp only [Completion.flashRegisters, List.mem_cons, List.not_mem_nil, or_false] at flash
    rcases flash with rfl | rfl
    · exact .inl rfl
    · exact .inr (.inl rfl)

theorem poll_records (handler : EndpointHandler η β) (own : η) :
    Records PassTouches (handled handler) (poll handler.recorded own) (poll handler own) := by
  refine records_bind (records_silent (fun _ => rfl) fun _ => rfl) fun state => ?_
  cases state.reset with
  | some request => exact records_pure _
  | none =>
      refine records_bind (records_silent (fun _ => rfl) fun _ => rfl) fun _ => ?_
      refine records_bind (records_wider (fun _ => .inl) Transport.classify_records) fun submission => ?_
      refine records_bind (records_wider (fun _ => .inr) (Endpoint.service_records _ _)) fun (endpoints, own) => ?_
      exact records_pure _

theorem complete_records (event : Byte) :
    Records CompletionTouches calls (complete event : BridgeM (Recorder β) (Except RequestError Completion))
      (complete event) := by
  refine records_bind (records_silent (fun _ => rfl) fun _ => rfl) fun state => ?_
  cases state.reset with
  | some request => exact records_pure _
  | none => exact records_bind (Completion.handle_records event) fun _ => records_pure _

end Controller

omit [Bus β] in
theorem outcome_ending {α : Type} (answer : α → Answer) (result : EStateM.Result Stall (Controller β) α) :
    (Answer.ofResult answer result).2 = ending result := by
  cases result with
  | ok value after => rfl
  | error stall after => rfl

def Event.recorded : Event β → Event (Recorder β)
  | pass handler own => .pass handler.recorded own
  | completion event => .completion event
  | takeRetry => .takeRetry
  | flags fault commandActive transferState powerInit => .flags fault commandActive transferState powerInit
  | hardware bus => .hardware { bus }

namespace Step

-- the step once more, on a recorder that begins empty
def recorded (step : Step β) : Answer × Controller (Recorder β) :=
  step.event.recorded.run step.before.recorded

-- what the core does to the outside in a step, oldest first
def effects (step : Step β) : List Effect :=
  step.recorded.2.bus.effects.reverse

theorem recorded_same (step : Step β) : step.recorded.1 = step.answer ∧ step.recorded.2.forget = step.after := by
  have results {α : Type} {recorded : BridgeM (Recorder β) α} {plain : BridgeM β α} (answer : α → Answer)
      (same : forgetting (recorded step.before.recorded) = plain step.before) :
      (Answer.ofResult answer (recorded step.before.recorded)).1 = (Answer.ofResult answer (plain step.before)).1 ∧
        (Answer.ofResult answer (recorded step.before.recorded)).2.forget =
          (Answer.ofResult answer (plain step.before)).2 := by
    rw [← same]
    cases recorded step.before.recorded with
    | ok value after => exact ⟨rfl, rfl⟩
    | error stall after => exact ⟨rfl, rfl⟩
  obtain ⟨before, event⟩ := step
  cases event with
  | pass handler own => exact results _ ((Controller.poll_records handler own).same before.recorded)
  | completion event =>
      have records : Records Controller.CompletionTouches (fun _ _ _ => False)
          (Controller.complete event : BridgeM (Recorder β) (Except RequestError Completion)) (Controller.complete event) :=
        Controller.complete_records event
      exact results _ (records.same before.recorded)
  | takeRetry => exact ⟨rfl, rfl⟩
  | flags fault commandActive transferState powerInit => exact ⟨rfl, rfl⟩
  | hardware bus => exact ⟨rfl, rfl⟩

end Step

def Run.effects (run : Run β) : List Effect :=
  run.history.flatMap Step.effects

end StorageBridge
