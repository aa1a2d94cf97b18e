import StorageBridge.Proofs.Counts
import StorageBridge.Proofs.QueueMirror
import StorageBridge.Proofs.Stalls
import StorageBridge.Proofs.WriteOrder

/-!
What an action that is taken leaves behind on a board: the ring, the logs, and the registers of the queue
and of the engine. A register holds what was written to it last, so each is found in the list of
operations with nothing after it that touches it.
-/

set_option autoImplicit false

namespace StorageBridge

open BridgeM Recorder

namespace Submission

-- The check lets the action through, its slot is free, and the engine answers.
structure Proceeds (controller : Controller Board) : Prop where
  checked : ∃ between, Readiness.check controller = .ok .proceed between
  free : (controller.state.ring.slot controller.state.ring.index).isFree = true
  answers : controller.bus.answers Reg.Dma.ready Reg.Dma.readyIdle = true

-- The controller between the check and the slot: all that the action needs is as it was.
structure Admitted (before between : Controller Board) : Prop where
  kept : spared between = spared before
  outlook : ∀ address, address ∉ Readiness.registers → between.bus.outlook address = before.bus.outlook address
  marks : between.bus.oneToClear = before.bus.oneToClear

theorem admitted_of_checked {action : Action} {before between : Controller Board} {readiness : Readiness}
    (checked : Readiness.check (marked action before) = .ok readiness between) : Admitted before between := by
  have spares := check_spares action before
  rw [checked] at spares
  refine ⟨spares, fun address outside => ?_, ?_⟩
  · have apart : ∀ other ∈ Readiness.registers, other ≠ address := fun other member same => outside (same ▸ member)
    have kept := keeps_ok (keeps_spared Readiness.check_records (Board.spares_outlook apart)) checked
    exact kept
  · have kept := keeps_ok (keeps_spared Readiness.check_records (Board.spares_marks _)) checked
    exact kept

namespace Admitted

variable {before between : Controller Board}

theorem ledger (admitted : Admitted before between) : between.ledger = before.ledger :=
  congrArg (fun rest => Ledger.mk rest.2.1.ring rest.2.1.submitLog rest.2.1.completeLog rest.2.2.completions) admitted.kept

theorem ring (admitted : Admitted before between) : between.state.ring = before.state.ring :=
  congrArg Ledger.ring admitted.ledger

theorem coreState (admitted : Admitted before between) : between.state.coreState = before.state.coreState :=
  congrArg (fun rest => rest.2.1.coreState) admitted.kept

theorem settings (admitted : Admitted before between) : between.settings = before.settings :=
  congrArg Prod.fst admitted.kept

theorem peek (admitted : Admitted before between) {address : Address} (outside : address ∉ Readiness.registers) :
    between.bus.peek address = before.bus.peek address :=
  congrArg Prod.fst (admitted.outlook address outside)

end Admitted

theorem preparing_off {request : Request} {state : State} {sight : Sight} {address : Address}
    (unqueued : ¬ Queued state.ring.index address) (away : address.toNat < 0xC005 ∨ 0xC007 < address.toNat) :
    ∀ op ∈ preparing request state sight, (Effect.operation op).Within (· ≠ address) := by
  have loads (register : Address) (inside : 0xC005 ≤ register.toNat ∧ register.toNat ≤ 0xC007) : register ≠ address := by
    rintro rfl
    omega
  refine List.forall_mem_append.mpr ⟨?_, fun op member => ?_⟩
  · refine List.forall_mem_cons.mpr ⟨trivial, List.forall_mem_cons.mpr ⟨loads _ (by decide), ?_⟩⟩
    exact List.forall_mem_cons.mpr ⟨loads _ (by decide), List.forall_mem_singleton.mpr (loads _ (by decide))⟩
  · exact within_wider (fun other queued (same : other = address) => unqueued (same ▸ queued))
      (queueing_within request state sight op member)

theorem unqueued_of_to_nat {index : SlotIndex} {address : Address} (low : 0xB014 < address.toNat) (high : address.toNat < 0xC100)
    (control : address.toNat ≠ 0xC008) : ¬ Queued index address := by
  intro queued
  have place := queued_to_nat queued
  unfold InBlockOf at place
  omega

theorem submit_takes (request : Request) {before : Controller Board} (proceeds : Proceeds before) :
    ∃ between sight bus log, Admitted before between ∧
      submit request.param1 request.param2 request.action before =
        .ok (if request.action.isExtended then .queued else .inProgress between.settings.inProgress)
          { between with bus, log, state := handed request between.state sight } ∧
      Replays true between.bus (taking request between.state sight) bus := by
  have passes : verdict (Readiness.check (marked request.action before)) = .ok .proceed :=
    (Readiness.check_foretold _).trans ((proceeds_iff before).mp proceeds.checked)
  obtain ⟨between, checked⟩ := Controller.ended_of_verdict passes
  have admitted := admitted_of_checked checked
  have outcome := submit_outcome request.param1 request.param2 request.action before
  generalize submit request.param1 request.param2 request.action before = result at outcome ⊢
  cases outcome with
  | untrained stall after stalled => cases checked.symm.trans stalled
  | refused readiness other same refuses =>
      cases checked.symm.trans same
      cases refuses
  | held other same taken =>
      cases checked.symm.trans same
      rw [admitted.ring, proceeds.free] at taken
      cases taken
  | accepted other same free =>
      cases checked.symm.trans same
      have taken := accept_taken request between
      generalize accept between.state.ring.index request.param1 request.param2 request.action between = result at taken ⊢
      cases taken with
      | handedOff sight bus log path => exact ⟨between, sight, bus, log, admitted, rfl, path⟩
      | unready sight bus log path =>
          obtain ⟨reached, first, unanswered, -⟩ := path.split
          have unqueued : ¬ Queued between.state.ring.index Reg.Dma.ready :=
            unqueued_of_to_nat (by decide) (by decide) (by decide)
          have outlook : reached.outlook Reg.Dma.ready = before.bus.outlook Reg.Dma.ready := by
            rw [first.performed, Board.outlook_performed (preparing_off unqueued (.inl (by decide)))]
            exact admitted.outlook _ (by decide)
          have answers := Board.answers_of_outlook outlook Reg.Dma.readyIdle
          rw [proceeds.answers] at answers
          cases unanswered.symm.trans answers

theorem settling_within (request : Request) (index : SlotIndex) (sight : Sight) :
    ∀ op ∈ settling request index sight, (Effect.operation op).Within fun address =>
      address = Reg.Backend.queueControl ∨ address = index.registers + Reg.Backend.slotStatus ∨
        (request.needsCommand = false ∧ address = index.registers + Reg.Backend.slotControl) ∨
        address ∈ Transfer.secondRegisters := by
  have low : Reg.Dma.secondLow ∈ Transfer.secondRegisters := by decide
  have high : Reg.Dma.secondHigh ∈ Transfer.secondRegisters := by decide
  have offset : Reg.Dma.bufferOffset ∈ Transfer.secondRegisters := by decide
  unfold settling
  cases request.action.isExtended with
  | true => simp [updating, Effect.Within]
  | false => cases needs : request.needsCommand <;> simp [noting, resolving, needs, Effect.Within, low, high, offset]

section Registers

variable {request : Request} {state : State} {sight : Sight} {before after : Board}

theorem arming_within (busy : Bool) (held : Byte) :
    ∀ op ∈ arming busy held, (Effect.operation op).Within (· = Reg.Backend.queueControl) := by
  cases busy <;> simp [arming, Effect.Within]

theorem finishing_off {address : Address} (outside : ¬ Closing address) :
    ∀ op ∈ finishing request state sight, (Effect.operation op).Within (· ≠ address) := fun op member =>
  within_wider (fun other closing (same : other = address) => outside (same ▸ closing))
    (finishing_within request state sight op member)

theorem later_off {address : Address} (unqueued : ¬ Queued state.ring.index address) (outside : ¬ Closing address) :
    ∀ op ∈ queueing request state sight ++ finishing request state sight, (Effect.operation op).Within (· ≠ address) := by
  refine List.forall_mem_append.mpr ⟨fun op member => ?_, finishing_off outside⟩
  exact within_wider (fun other queued (same : other = address) => unqueued (same ▸ queued))
    (queueing_within request state sight op member)

theorem loaded_registers (path : Replays true before (taking request state sight) after)
    (plain : ∀ address ∈ [Reg.Backend.deviceStatus, Reg.Backend.countA, Reg.Backend.countB], address ∉ before.oneToClear) :
    after.peek Reg.Backend.countA = state.coreState.1 ∧ after.peek Reg.Backend.countB = state.coreState.2 ∧
      after.peek Reg.Backend.deviceStatus = before.peek Reg.Backend.deviceStatus &&& ~~~0x01 := by
  let later := queueing request state sight ++ finishing request state sight
  let revised := sight.device.revise Reg.Backend.devicePending 0
  have first : Replays true before ([] ++ .read Reg.Backend.deviceStatus sight.device :: _) after := path
  have device : Replays true before ([.read Reg.Backend.deviceStatus sight.device] ++ .write Reg.Backend.deviceStatus revised ::
      ([.write Reg.Backend.countA state.coreState.1, .write Reg.Backend.countB state.coreState.2] ++ later)) after := path
  have countA : Replays true before ([.read Reg.Backend.deviceStatus sight.device, .write Reg.Backend.deviceStatus revised] ++
      .write Reg.Backend.countA state.coreState.1 :: ([.write Reg.Backend.countB state.coreState.2] ++ later)) after := path
  have countB : Replays true before ([.read Reg.Backend.deviceStatus sight.device, .write Reg.Backend.deviceStatus revised,
      .write Reg.Backend.countA state.coreState.1] ++ .write Reg.Backend.countB state.coreState.2 :: later) after := path
  have seen : sight.device = before.peek Reg.Backend.deviceStatus := first.seen_of_apart (List.forall_mem_nil _)
  have cleared : revised = before.peek Reg.Backend.deviceStatus &&& ~~~0x01 := by
    simp [revised, seen, Byte.revise, Reg.Backend.devicePending]
  have off {address : Address} (low : 0xC005 ≤ address.toNat) (high : address.toNat < 0xC008) :
      ∀ op ∈ later, (Effect.operation op).Within (· ≠ address) := by
    refine later_off (fun queued => ?_) fun closing => ?_
    · have place := queued_to_nat queued
      unfold InBlockOf at place
      omega
    · have place := closing_to_nat closing
      omega
  refine ⟨countA.peek_of_last (plain _ (by simp)) ?_, countB.peek_of_last (plain _ (by simp)) ?_,
    (device.peek_of_last (plain _ (by simp)) ?_).trans cleared⟩
  · exact List.forall_mem_cons.mpr ⟨show Reg.Backend.countB ≠ Reg.Backend.countA by decide, off (by decide) (by decide)⟩
  · exact off (by decide) (by decide)
  · refine List.forall_mem_cons.mpr ⟨show Reg.Backend.countA ≠ Reg.Backend.deviceStatus by decide, ?_⟩
    exact List.forall_mem_cons.mpr ⟨show Reg.Backend.countB ≠ Reg.Backend.deviceStatus by decide, off (by decide) (by decide)⟩

theorem finishing_off_slot {offset : Address} (small : offset.toNat < 4) :
    ∀ op ∈ finishing request state sight, (Effect.operation op).Within (· ≠ state.ring.index.registers + offset) := by
  refine finishing_off fun closing => ?_
  have place := closing_to_nat closing
  rw [SlotIndex.registers_to_nat state.ring.index small] at place
  omega

theorem resolved_off {offset : Address} (small : offset.toNat < 4) :
    ∀ op ∈ resolving sight.secondary ++ finishing request state sight,
      (Effect.operation op).Within (· ≠ state.ring.index.registers + offset) := by
  have below {address : Address} (low : address.toNat < 0xC100) : address ≠ state.ring.index.registers + offset :=
    (SlotIndex.registers_ne small low).symm
  refine List.forall_mem_append.mpr ⟨?_, finishing_off_slot small⟩
  simp [resolving, Effect.Within, below (show Reg.Dma.secondLow.toNat < 0xC100 by decide),
    below (show Reg.Dma.secondHigh.toNat < 0xC100 by decide), below (show Reg.Dma.bufferOffset.toNat < 0xC100 by decide)]

-- Nothing after the slot is filled touches its count, nor its control when a command is needed.
theorem settled_off {offset : Address} (small : offset.toNat < 2)
    (kept : offset = Reg.Backend.slotControl → request.needsCommand = true) :
    ∀ op ∈ settling request state.ring.index sight ++ finishing request state sight,
      (Effect.operation op).Within (· ≠ state.ring.index.registers + offset) := by
  have inside : offset.toNat < 4 := by omega
  have below {address : Address} (low : address.toNat < 0xC100) : address ≠ state.ring.index.registers + offset :=
    (SlotIndex.registers_ne inside low).symm
  refine List.forall_mem_append.mpr ⟨fun op member => ?_, finishing_off_slot inside⟩
  refine within_wider (fun other settles => ?_) (settling_within request state.ring.index sight op member)
  rcases settles with rfl | rfl | ⟨unneeded, rfl⟩ | second
  · exact below (by decide)
  · intro same
    obtain rfl := (SlotIndex.registers_inj (by decide) inside same).2
    exact absurd small (by decide)
  · intro same
    obtain rfl := (SlotIndex.registers_inj (by decide) inside same).2
    cases unneeded.symm.trans (kept rfl)
  · have place := second_to_nat second
    exact below (by omega)

theorem slot_control_shown (path : Replays true before (taking request state sight) after)
    (unmarked : state.ring.index.registers + Reg.Backend.slotControl ∉ before.oneToClear) :
    after.peek (state.ring.index.registers + Reg.Backend.slotControl) =
      if request.needsCommand then request.slot.control.bits else 0 := by
  let opening := loading state.coreState sight.device ++ arming state.ring.busy sight.arming
  let base := state.ring.index.registers
  cases needs : request.needsCommand with
  | true =>
      have split : taking request state sight = opening ++ .write (base + Reg.Backend.slotControl) request.slot.control.bits ::
          (.write (base + Reg.Backend.slotCount) request.slot.byteCount :: .read Reg.Transport.flags sight.flags ::
            (settling request state.ring.index sight ++ finishing request state sight)) := by
        simp [opening, base, taking, preparing, queueing, filling]
      have count : base + Reg.Backend.slotCount ≠ base + Reg.Backend.slotControl := fun same =>
        absurd (SlotIndex.registers_inj (by decide) (by decide) same).2 (by decide)
      rw [split] at path
      refine path.peek_of_last unmarked (List.forall_mem_cons.mpr ⟨count, List.forall_mem_cons.mpr ⟨trivial, ?_⟩⟩)
      exact settled_off (by decide) fun _ => needs
  | false =>
      have simple : request.action.isExtended = false :=
        Bool.eq_false_iff.mpr fun extended => Bool.eq_false_iff.mp needs (needs_of_extended extended)
      have split : taking request state sight =
          (opening ++ (filling state.ring.index request.slot ++ [.read Reg.Transport.flags sight.flags])) ++
            .write (base + Reg.Backend.slotControl) 0 :: (.read (base + Reg.Backend.slotStatus) sight.slotStatus ::
              .write (base + Reg.Backend.slotStatus) (withWindow request sight.slotStatus) ::
                (resolving sight.secondary ++ finishing request state sight)) := by
        simp [opening, base, taking, preparing, queueing, settling, noting, needs, simple]
      have status : base + Reg.Backend.slotStatus ≠ base + Reg.Backend.slotControl := fun same =>
        absurd (SlotIndex.registers_inj (by decide) (by decide) same).2 (by decide)
      rw [split] at path
      refine path.peek_of_last unmarked (List.forall_mem_cons.mpr ⟨trivial, List.forall_mem_cons.mpr ⟨status, ?_⟩⟩)
      exact resolved_off (by decide)

theorem slot_count_shown (path : Replays true before (taking request state sight) after)
    (unmarked : state.ring.index.registers + Reg.Backend.slotCount ∉ before.oneToClear) :
    after.peek (state.ring.index.registers + Reg.Backend.slotCount) = request.param2 := by
  let opening := loading state.coreState sight.device ++ arming state.ring.busy sight.arming
  have split : taking request state sight =
      (opening ++ [.write (state.ring.index.registers + Reg.Backend.slotControl) request.slot.control.bits]) ++
        .write (state.ring.index.registers + Reg.Backend.slotCount) request.slot.byteCount ::
          (.read Reg.Transport.flags sight.flags ::
            (settling request state.ring.index sight ++ finishing request state sight)) := by
    simp [opening, taking, preparing, queueing, filling]
  rw [split] at path
  refine path.peek_of_last unmarked (List.forall_mem_cons.mpr ⟨trivial, ?_⟩)
  exact settled_off (by decide) fun same => absurd same (by decide)

theorem with_window (request : Request) (held : Byte) :
    withWindow request held = (held &&& 0xF0) ||| (UInt8.ofNat request.window &&& 0x0F) := by
  have table (inbound : Bool) : ∀ raw : Fin 256,
      windowClass inbound + UInt8.ofFin raw >>> 5 = UInt8.ofNat ((if inbound then 8 else 4) + raw.val / 32) := by
    cases inbound <;> decide +kernel
  have needed : windowClass request.action.isInbound + request.param1 >>> 5 = UInt8.ofNat request.window :=
    table request.action.isInbound request.param1.toFin
  rw [withWindow, request.slot_window, needed]
  rfl

-- Nothing before its window is noted touches the status of the slot.
theorem opening_off_status (cleared : List BusOp)
    (clears : ∀ op ∈ cleared, op = .write (state.ring.index.registers + Reg.Backend.slotControl) 0) :
    ∀ op ∈ loading state.coreState sight.device ++ (arming state.ring.busy sight.arming ++
        (filling state.ring.index request.slot ++ .read Reg.Transport.flags sight.flags :: cleared)),
      (Effect.operation op).Within (· ≠ state.ring.index.registers + Reg.Backend.slotStatus) := by
  have below {address : Address} (low : address.toNat < 0xC100) :
      address ≠ state.ring.index.registers + Reg.Backend.slotStatus :=
    (SlotIndex.registers_ne (by decide) low).symm
  have control : state.ring.index.registers + Reg.Backend.slotControl ≠ state.ring.index.registers + Reg.Backend.slotStatus :=
    fun same => absurd (SlotIndex.registers_inj (by decide) (by decide) same).2 (by decide)
  have count : state.ring.index.registers + Reg.Backend.slotCount ≠ state.ring.index.registers + Reg.Backend.slotStatus :=
    fun same => absurd (SlotIndex.registers_inj (by decide) (by decide) same).2 (by decide)
  have loads : ∀ op ∈ loading state.coreState sight.device,
      (Effect.operation op).Within (· ≠ state.ring.index.registers + Reg.Backend.slotStatus) := by
    simp [loading, Effect.Within, below (show Reg.Backend.deviceStatus.toNat < 0xC100 by decide),
      below (show Reg.Backend.countA.toNat < 0xC100 by decide), below (show Reg.Backend.countB.toNat < 0xC100 by decide)]
  have arms : ∀ op ∈ arming state.ring.busy sight.arming,
      (Effect.operation op).Within (· ≠ state.ring.index.registers + Reg.Backend.slotStatus) := fun op member =>
    within_wider (fun address (same : address = Reg.Backend.queueControl) => same ▸ below (by decide))
      (arming_within _ _ op member)
  have fills : ∀ op ∈ filling state.ring.index request.slot,
      (Effect.operation op).Within (· ≠ state.ring.index.registers + Reg.Backend.slotStatus) :=
    List.forall_mem_cons.mpr ⟨control, List.forall_mem_singleton.mpr count⟩
  refine List.forall_mem_append.mpr ⟨loads, List.forall_mem_append.mpr ⟨arms, List.forall_mem_append.mpr ⟨fills, ?_⟩⟩⟩
  refine List.forall_mem_cons.mpr ⟨trivial, fun op member => ?_⟩
  obtain rfl := clears op member
  exact control

theorem slot_status_shown (path : Replays true before (taking request state sight) after)
    (unmarked : state.ring.index.registers + Reg.Backend.slotStatus ∉ before.oneToClear) :
    after.peek (state.ring.index.registers + Reg.Backend.slotStatus) =
      if request.action.isExtended then before.peek (state.ring.index.registers + Reg.Backend.slotStatus)
      else (before.peek (state.ring.index.registers + Reg.Backend.slotStatus) &&& 0xF0) |||
        (UInt8.ofNat request.window &&& 0x0F) := by
  let opening (cleared : List BusOp) := loading state.coreState sight.device ++ (arming state.ring.busy sight.arming ++
    (filling state.ring.index request.slot ++ .read Reg.Transport.flags sight.flags :: cleared))
  cases extended : request.action.isExtended with
  | true =>
      have split : taking request state sight =
          opening [] ++ (updating sight.update sight.head ++ finishing request state sight) := by
        simp [opening, taking, preparing, queueing, settling, extended]
      have update : Reg.Backend.queueControl ≠ state.ring.index.registers + Reg.Backend.slotStatus :=
        (SlotIndex.registers_ne (by decide) (by decide)).symm
      rw [split] at path
      refine path.peek_of_apart (List.forall_mem_append.mpr ⟨opening_off_status [] (List.forall_mem_nil _), ?_⟩)
      refine List.forall_mem_append.mpr ⟨?_, finishing_off_slot (by decide)⟩
      exact List.forall_mem_cons.mpr ⟨trivial, List.forall_mem_cons.mpr ⟨update, List.forall_mem_singleton.mpr trivial⟩⟩
  | false =>
      let address := state.ring.index.registers + Reg.Backend.slotStatus
      let cleared : List BusOp :=
        if request.needsCommand then [] else [.write (state.ring.index.registers + Reg.Backend.slotControl) 0]
      have opens : ∀ op ∈ opening cleared, (Effect.operation op).Within (· ≠ address) := by
        refine opening_off_status cleared ?_
        cases needs : request.needsCommand <;> simp [cleared, needs]
      have split : taking request state sight = opening cleared ++ .read address sight.slotStatus ::
          (.write address (withWindow request sight.slotStatus) ::
            (resolving sight.secondary ++ finishing request state sight)) := by
        simp [opening, cleared, address, taking, preparing, queueing, settling, noting, extended]
      rw [split] at path
      have seen : sight.slotStatus = before.peek address := path.seen_of_apart opens
      rw [List.append_cons] at path
      have noted := path.peek_of_last unmarked (resolved_off (by decide))
      rw [noted, with_window, seen]
      rfl

theorem image_shown (path : Replays true before (taking request state sight) after)
    (plain : ∀ address ∈ Transfer.mirrors, address ∉ before.oneToClear) :
    ∀ entry ∈ (transferOf request state sight).image, after.peek entry.1 = entry.2 := by
  rintro ⟨address, value⟩ entry
  have mirror := Transfer.image_mirrors _ address (List.mem_map_of_mem entry)
  have place : 0xB000 ≤ address.toNat ∧ address.toNat < 0xB018 := Transfer.mirrors_between mirror
  obtain ⟨reached, prepares, finishes⟩ := path.split
  have parts : Replays true reached
      ((Transfer.idling :: configuring request state sight) ++ handing _ sight.closing) after := finishes
  obtain ⟨programmed, programs, hands⟩ := parts.split
  have unmarked : address ∉ reached.oneToClear := by
    rw [prepares.performed, Board.marks_performed]
    exact plain address mirror
  have apart : address ≠ Reg.Dma.ready := by
    rintro rfl
    exact absurd mirror (by decide)
  have held : programmed.peek address = value :=
    Transfer.peek_programmed_written apart unmarked (Transfer.write_mem_operations.mpr (.inr (.inl entry)))
      (fun _ => Transfer.image_agreed entry) programs
  rw [← held]
  refine hands.peek_of_apart fun op member => within_wider (fun other closing => ?_) (handing_within _ _ op member)
  rintro rfl
  rcases closing with rfl | rfl
  · exact absurd place (by decide)
  · exact absurd place (by decide)

theorem head_seen (extended : request.action.isExtended = true) (path : Replays true before (taking request state sight) after) :
    sight.head = before.peek Reg.Backend.head := by
  let earlier := loading state.coreState sight.device ++ (arming state.ring.busy sight.arming ++
    (filling state.ring.index request.slot ++ [.read Reg.Transport.flags sight.flags,
      .read Reg.Backend.queueControl sight.update,
      .write Reg.Backend.queueControl (sight.update.revise 0 Reg.Backend.queueSecondaryUpdate)]))
  have prepares : preparing request state sight = earlier ++ [.read Reg.Backend.head sight.head] := by
    simp [earlier, preparing, queueing, settling, updating, extended]
  have unqueued : ¬ Queued state.ring.index Reg.Backend.head := unqueued_of_to_nat (by decide) (by decide) (by decide)
  rw [taking, prepares, List.append_assoc] at path
  refine path.seen_of_apart fun op member => ?_
  have inside : op ∈ preparing request state sight := prepares ▸ List.mem_append_left _ member
  exact preparing_off unqueued (.inr (by decide)) op inside

theorem buffer_mode_shown (path : Replays true before (taking request state sight) after)
    (plain : ∀ address ∈ Transfer.mirrors, address ∉ before.oneToClear) :
    after.peek Reg.Dma.bufferMode = if request.action.isExtended then 0x04 else 0x03 := by
  have chosen : (transferOf request state sight).bufferMode = if request.action.isExtended then 0x04 else 0x03 := by
    have table (extended : Bool) : ∀ raw : Fin 256,
        TransferFlags.isExtended (if extended then (TransferFlags.ofByte (UInt8.ofFin raw)).withExtended
          else (TransferFlags.ofByte (UInt8.ofFin raw)).withoutExtended) = extended := by
      cases extended <;> decide +kernel
    have kind : (flagsFor request.action sight.flags).isExtended = request.action.isExtended :=
      table request.action.isExtended sight.flags.toFin
    simp [transferOf, Transfer.asked, kind, Reg.Dma.bufferExtended, Reg.Dma.bufferNormal]
  rw [← chosen]
  exact image_shown path plain (Reg.Dma.bufferMode, _) (by simp [Transfer.image, Transfer.bufferImage])

end Registers

section States

variable (request : Request) (sight : Sight)

theorem handed_ledger (between : Controller Board) (bus : Board) (log : Array LogEvent) :
    Controller.ledger { between with bus, log, state := handed request between.state sight } =
      (between.ledger.accept request).handOff := by
  unfold handed prepared routed counted placed Ledger.accept Ledger.arm
  cases busy : between.state.ring.busy <;> cases needs : request.needsCommand <;> cases request.action.isExtended <;>
    simp [Controller.ledger, Ledger.occupy, Ledger.submitted, Ledger.clear, Ledger.handOff, busy]

theorem handed_update (state : State) :
    (handed request state sight).secondaryUpdate = (if request.action.isExtended then true else state.secondaryUpdate) ∧
      (handed request state sight).indexDistance =
        if request.action.isExtended then (state.ring.index.next.distanceFrom (SlotIndex.wrap sight.head)).toByte
        else state.indexDistance := by
  have moved : (counted request state.ring.index (placed request state)).ring.index = state.ring.index.next := by
    unfold counted placed
    cases state.ring.busy <;> cases request.needsCommand <;> simp [submitted_index] <;> rfl
  unfold handed prepared routed
  cases extended : request.action.isExtended with
  | true => simp [moved]
  | false => exact ⟨rfl, rfl⟩

end States

-- A command is counted, and its slot and registers hold it.
structure Commanded (request : Request) (before after : Controller Board) : Prop where
  slot : after.state.ring.slot before.state.ring.index = request.slot
  control : after.bus.peek (before.state.ring.index.registers + Reg.Backend.slotControl) = request.slot.control.bits
  submitLog : after.state.submitLog.toNat = (before.state.submitLog.toNat + 1) % 32
  saturating : after.state.ring.outstanding =
    if before.state.ring.outstanding < 32 then before.state.ring.outstanding + 1 else before.state.ring.outstanding
  -- as it is after every run: no more commands are outstanding than slots are taken
  outstanding : before.state.ring.outstanding ≤ before.state.ring.taken →
    after.state.ring.outstanding = before.state.ring.outstanding + 1

-- No command is needed: the slot is free again, and nothing is counted.
structure Uncommanded (before after : Controller Board) : Prop where
  slot : after.state.ring.slot before.state.ring.index = .empty
  control : after.bus.peek (before.state.ring.index.registers + Reg.Backend.slotControl) = 0
  submitLog : after.state.submitLog = before.state.submitLog
  outstanding : after.state.ring.outstanding = before.state.ring.outstanding

structure TakenExtended (request : Request) (before : Controller Board) (submission : Submission) (after : Controller Board) :
    Prop where
  answer : submission = .queued
  commanded : Commanded request before after
  update : after.state.secondaryUpdate = true
  distance : (after.state.indexDistance.toNat : Int) =
    (before.state.ring.index.val + 1 - (before.bus.peek Reg.Backend.head &&& 0x1F).toNat) % 32
  bufferMode : after.bus.peek Reg.Dma.bufferMode = 0x04
  status : after.bus.peek (before.state.ring.index.registers + Reg.Backend.slotStatus) =
    before.bus.peek (before.state.ring.index.registers + Reg.Backend.slotStatus)

structure TakenSimple (request : Request) (before : Controller Board) (submission : Submission) (after : Controller Board) :
    Prop where
  answer : submission = .inProgress before.settings.inProgress
  commanded : 8 * (request.window + 1) ≤ request.param2.toNat → Commanded request before after
  uncommanded : request.param2.toNat < 8 * (request.window + 1) → Uncommanded before after
  update : after.state.secondaryUpdate = before.state.secondaryUpdate
  distance : after.state.indexDistance = before.state.indexDistance
  bufferMode : after.bus.peek Reg.Dma.bufferMode = 0x03
  status : after.bus.peek (before.state.ring.index.registers + Reg.Backend.slotStatus) =
    (before.bus.peek (before.state.ring.index.registers + Reg.Backend.slotStatus) &&& 0xF0) |||
      (UInt8.ofNat request.window &&& 0x0F)

-- What an accepted action leaves behind.
structure TakenUp (request : Request) (before : Controller Board) (submission : Submission) (after : Controller Board) :
    Prop where
  others : ∀ slot, slot ≠ before.state.ring.index → after.state.ring.slot slot = before.state.ring.slot slot
  index : after.state.ring.index.val = (before.state.ring.index.val + 1) % 32
  counts : after.bus.peek Reg.Backend.countA = before.state.coreState.1 ∧
    after.bus.peek Reg.Backend.countB = before.state.coreState.2
  device : after.bus.peek Reg.Backend.deviceStatus = before.bus.peek Reg.Backend.deviceStatus &&& ~~~0x01
  byteCount : after.bus.peek (before.state.ring.index.registers + Reg.Backend.slotCount) = request.param2
  extended : request.action.isExtended = true → TakenExtended request before submission after
  simple : request.action.isExtended = false → TakenSimple request before submission after

theorem submit_log_to_nat (log : Byte) : ((log + 1) &&& 0x1F).toNat = (log.toNat + 1) % 32 := by
  have table : ∀ raw : Fin 256, ((UInt8.ofFin raw + 1) &&& 0x1F).toNat = (raw.val + 1) % 32 := by decide +kernel
  exact table log.toFin

theorem distance_to_int (index : SlotIndex) (head : Byte) :
    ((index.next.distanceFrom (SlotIndex.wrap head)).toByte.toNat : Int) = (index.val + 1 - (head &&& 0x1F).toNat) % 32 := by
  have masked : (head &&& 0x1F).toNat = head.toNat % 32 := by
    have table : ∀ raw : Fin 256, (UInt8.ofFin raw &&& 0x1F).toNat = raw.val % 32 := by decide +kernel
    exact table head.toFin
  have table : ∀ ahead behind : SlotIndex,
      ((ahead.next.distanceFrom behind).toByte.toNat : Int) = (ahead.val + 1 - behind.val) % 32 := by decide +kernel
  rw [masked]
  exact table index (SlotIndex.wrap head)

section Moves

variable {request : Request} {before after : Controller Board}
  (moves : before.ledger.Moves (.accepted request true) after.ledger)
  (control : after.bus.peek (before.state.ring.index.registers + Reg.Backend.slotControl) =
    if request.needsCommand then request.slot.control.bits else 0)

include moves

theorem slot_of_moves (slot : SlotIndex) :
    after.state.ring.slot slot =
      if before.state.ring.index = slot then if request.needsCommand then request.slot else .empty
      else before.state.ring.slot slot :=
  CommandRing.slot_of_put moves.accepted.slots slot

include control

theorem commanded_of_moves (needs : request.needsCommand = true) : Commanded request before after := by
  have slot := (slot_of_moves moves before.state.ring.index).trans (if_pos rfl)
  have logged : after.state.submitLog = _ := moves.accepted.submitLog
  have outstanding : after.state.ring.outstanding = _ := moves.accepted.outstanding
  have grown (bounded : before.state.ring.outstanding ≤ before.state.ring.taken) : after.state.ring.outstanding = _ :=
    outstanding_of_accepted moves bounded
  simp only [needs, if_true, true_and] at slot control logged outstanding grown
  exact ⟨slot, control, logged ▸ submit_log_to_nat _, outstanding, grown⟩

theorem uncommanded_of_moves (needless : request.needsCommand = false) : Uncommanded before after := by
  have slot := (slot_of_moves moves before.state.ring.index).trans (if_pos rfl)
  have logged : after.state.submitLog = _ := moves.accepted.submitLog
  have outstanding : after.state.ring.outstanding = _ := moves.accepted.outstanding
  simp only [needless, Bool.false_eq_true, if_false, false_and] at slot control logged outstanding
  exact ⟨slot, control, logged, outstanding⟩

end Moves

-- The registers after an action that was taken, told from the controller before its check.
structure Shown (request : Request) (before : Controller Board) (after : Board) : Prop where
  countA : after.peek Reg.Backend.countA = before.state.coreState.1
  countB : after.peek Reg.Backend.countB = before.state.coreState.2
  device : after.peek Reg.Backend.deviceStatus = before.bus.peek Reg.Backend.deviceStatus &&& ~~~0x01
  control : after.peek (before.state.ring.index.registers + Reg.Backend.slotControl) =
    if request.needsCommand then request.slot.control.bits else 0
  byteCount : after.peek (before.state.ring.index.registers + Reg.Backend.slotCount) = request.param2
  status : after.peek (before.state.ring.index.registers + Reg.Backend.slotStatus) =
    if request.action.isExtended then before.bus.peek (before.state.ring.index.registers + Reg.Backend.slotStatus)
    else (before.bus.peek (before.state.ring.index.registers + Reg.Backend.slotStatus) &&& 0xF0) |||
      (UInt8.ofNat request.window &&& 0x0F)
  bufferMode : after.peek Reg.Dma.bufferMode = if request.action.isExtended then 0x04 else 0x03

theorem slot_off_readiness (index : SlotIndex) {offset : Address} (small : offset.toNat < 4) :
    index.registers + offset ∉ Readiness.registers := by
  intro member
  simp only [Readiness.registers, List.mem_cons, List.not_mem_nil, or_false] at member
  rcases member with flags | control | link
  · exact SlotIndex.registers_ne small (by decide) flags
  · exact SlotIndex.registers_ne small (by decide) control
  · exact SlotIndex.registers_ne small (by decide) link

section Admission

variable {request : Request} {before between : Controller Board} {sight : Sight} {bus : Board}

theorem registers_shown (admitted : Admitted before between)
    (plain : ∀ address ∈ before.bus.oneToClear,
      ¬ (0xB000 ≤ address.toNat ∧ address.toNat ≤ 0xB01A) ∧ ¬ (0xC000 ≤ address.toNat ∧ address.toNat < 0xC180))
    (path : Replays true between.bus (taking request between.state sight) bus) : Shown request before bus := by
  have same : between.state.ring.index = before.state.ring.index := congrArg CommandRing.index admitted.ring
  have engine {address : Address} (inside : 0xB000 ≤ address.toNat ∧ address.toNat ≤ 0xB01A) :
      address ∉ between.bus.oneToClear := fun marked => (plain address (admitted.marks ▸ marked)).1 inside
  have backend {address : Address} (inside : 0xC000 ≤ address.toNat ∧ address.toNat < 0xC180) :
      address ∉ between.bus.oneToClear := fun marked => (plain address (admitted.marks ▸ marked)).2 inside
  have slot {offset : Address} (small : offset.toNat < 4) :
      between.state.ring.index.registers + offset ∉ between.bus.oneToClear := by
    have place := SlotIndex.registers_to_nat between.state.ring.index small
    exact backend (by omega)
  have loaded : ∀ address ∈ [Reg.Backend.deviceStatus, Reg.Backend.countA, Reg.Backend.countB],
      address ∉ between.bus.oneToClear := by
    simp [backend (show 0xC000 ≤ Reg.Backend.deviceStatus.toNat ∧ _ by decide),
      backend (show 0xC000 ≤ Reg.Backend.countA.toNat ∧ _ by decide),
      backend (show 0xC000 ≤ Reg.Backend.countB.toNat ∧ _ by decide)]
  have mode := buffer_mode_shown path fun address mirror => engine (by
    have place := Transfer.mirrors_between mirror
    omega)
  obtain ⟨countA, countB, device⟩ := loaded_registers path loaded
  have control := slot_control_shown path (slot (by decide))
  have byteCount := slot_count_shown path (slot (by decide))
  have status := slot_status_shown path (slot (by decide))
  rw [admitted.coreState] at countA countB
  rw [admitted.peek (by decide)] at device
  rw [same] at control byteCount status
  rw [admitted.peek (slot_off_readiness _ (by decide))] at status
  exact ⟨countA, countB, device, control, byteCount, status, mode⟩

theorem moves_of_admitted (admitted : Admitted before between)
    (free : (before.state.ring.slot before.state.ring.index).isFree = true)
    (sight : Sight) (bus : Board) (log : Array LogEvent) :
    before.ledger.Moves (.accepted request true)
      (Controller.ledger { between with bus, log, state := handed request between.state sight }) where
  applied := by
    rw [handed_ledger, admitted.ledger]
    rfl
  free _ _ _ := free

theorem extended_update (extended : request.action.isExtended = true) (admitted : Admitted before between)
    (path : Replays true between.bus (taking request between.state sight) bus) :
    (handed request between.state sight).secondaryUpdate = true ∧
      ((handed request between.state sight).indexDistance.toNat : Int) =
        (before.state.ring.index.val + 1 - (before.bus.peek Reg.Backend.head &&& 0x1F).toNat) % 32 := by
  obtain ⟨update, distance⟩ := handed_update request sight between.state
  rw [extended, if_pos rfl] at update distance
  rw [head_seen extended path, admitted.peek (by decide), admitted.ring] at distance
  exact ⟨update, distance ▸ distance_to_int _ _⟩

theorem simple_update (simple : request.action.isExtended = false) (admitted : Admitted before between) (sight : Sight) :
    (handed request between.state sight).secondaryUpdate = before.state.secondaryUpdate ∧
      (handed request between.state sight).indexDistance = before.state.indexDistance := by
  obtain ⟨update, distance⟩ := handed_update request sight between.state
  rw [simple, if_neg Bool.false_ne_true] at update distance
  exact ⟨update.trans (congrArg (fun rest => rest.2.1.secondaryUpdate) admitted.kept),
    distance.trans (congrArg (fun rest => rest.2.1.indexDistance) admitted.kept)⟩

end Admission

theorem submit_takes_up (request : Request) (before : Controller Board)
    (plain : ∀ address ∈ before.bus.oneToClear,
      ¬ (0xB000 ≤ address.toNat ∧ address.toNat ≤ 0xB01A) ∧ ¬ (0xC000 ≤ address.toNat ∧ address.toNat < 0xC180))
    (proceeds : Proceeds before) :
    ∃ submission after, submit request.param1 request.param2 request.action before = .ok submission after ∧
      TakenUp request before submission after := by
  obtain ⟨between, sight, bus, log, admitted, submits, path⟩ := submit_takes request proceeds
  let after : Controller Board := { between with bus, log, state := handed request between.state sight }
  have moves : before.ledger.Moves (.accepted request true) after.ledger :=
    moves_of_admitted admitted proceeds.free sight bus log
  have shown := registers_shown admitted plain path
  have inProgress := congrArg (fun settings => Submission.inProgress settings.inProgress) admitted.settings
  refine ⟨_, after, submits, ?_⟩
  refine
    { others := fun slot other => (slot_of_moves moves slot).trans (if_neg other.symm)
      index := (congrArg Fin.val moves.accepted.index).trans (Fin.val_add _ _)
      counts := ⟨shown.countA, shown.countB⟩
      device := shown.device
      byteCount := shown.byteCount
      extended := fun extended => ?_
      simple := fun simple => ?_ }
  · obtain ⟨update, distance⟩ := extended_update extended admitted path
    exact
      { answer := if_pos extended
        commanded := commanded_of_moves moves shown.control (needs_of_extended extended)
        update := update
        distance := distance
        bufferMode := shown.bufferMode.trans (if_pos extended)
        status := shown.status.trans (if_pos extended) }
  · obtain ⟨update, distance⟩ := simple_update simple admitted sight
    have needs := needs_of_simple simple
    have plainly : ¬ request.action.isExtended = true := Bool.eq_false_iff.mp simple
    exact
      { answer := (if_neg plainly).trans inProgress
        commanded := fun long => commanded_of_moves moves shown.control (needs.trans (decide_eq_true long))
        uncommanded := fun short =>
          uncommanded_of_moves moves shown.control (needs.trans (decide_eq_false (Nat.not_le.mpr short)))
        update := update
        distance := distance
        bufferMode := shown.bufferMode.trans (if_neg plainly)
        status := shown.status.trans (if_neg plainly) }

-- The smallest byte count that does not fit its window, on a board after power-up.
theorem powered_action_taken_up :
    let before := Controller.start Board.powered .reference
    let request : Request := { action := .simpleOut, param1 := 0x63, param2 := 0x40 }
    (∀ address ∈ before.bus.oneToClear,
      ¬ (0xB000 ≤ address.toNat ∧ address.toNat ≤ 0xB01A) ∧ ¬ (0xC000 ≤ address.toNat ∧ address.toNat < 0xC180)) ∧
    Proceeds before ∧
    ∃ submission after, submit request.param1 request.param2 request.action before = .ok submission after ∧
      TakenUp request before submission after ∧ after.state.ring.slot 0 = { control := ⟨0x83⟩, byteCount := 0x40 } ∧
      after.state.ring.outstanding = 1 := by
  intro before request
  have marks : Board.powered.oneToClear.all (fun address => decide (address.toNat < 0xB000)) = true := by decide +kernel
  have plain : ∀ address ∈ before.bus.oneToClear,
      ¬ (0xB000 ≤ address.toNat ∧ address.toNat ≤ 0xB01A) ∧ ¬ (0xC000 ≤ address.toNat ∧ address.toNat < 0xC180) := by
    intro address member
    have low := of_decide_eq_true (List.all_eq_true.mp marks address member)
    omega
  have proceeds : Proceeds before :=
    { checked := (proceeds_iff before).mpr (by decide +kernel)
      free := CommandRing.slot_empty 0 ▸ rfl
      answers := by decide +kernel }
  obtain ⟨submission, after, submits, taken⟩ := submit_takes_up request before plain proceeds
  have simple : Action.simpleOut.isExtended = false := by decide
  have filled : Request.slot { action := .simpleOut, param1 := 0x63, param2 := 0x40 } =
      { control := ⟨0x83⟩, byteCount := 0x40 } := by decide
  have commanded := (taken.simple simple).commanded (by decide)
  refine ⟨plain, proceeds, submission, after, submits, taken, commanded.slot.trans filled, ?_⟩
  exact commanded.outstanding (Nat.zero_le _)

end Submission

end StorageBridge
