import StorageBridge.Proofs.BoardReplays
import StorageBridge.Proofs.TransferMirror

/-!
Programming a transfer, operation by operation. The flags decide which operations there are; what they
read decides the values. On a board every register then holds what was written to it last.
-/

set_option autoImplicit false

namespace StorageBridge

open BridgeM

variable {β : Type}

namespace Transfer

-- What programming reads: the control register and the address that the hardware reports, then the
-- status of an engine that is armed again.
structure Sight where
  control : Byte := 0
  low : Byte := 0
  high : Byte := 0
  status : Byte := 0

def asked (flags : TransferFlags) (channel : Byte) (state : State) (hardware : Address) : Transfer where
  base := if flags.isMirrored then state.bufferBase else hardware
  length := if flags.isExtended then state.extendedLength else 0
  mode := if flags.isMirrored then Reg.Dma.modeMirrored else channel ||| Reg.Dma.modeDirect
  bufferMode := if flags.isExtended then Reg.Dma.bufferExtended else Reg.Dma.bufferNormal

def storing (entries : List (Address × Byte)) : List BusOp :=
  entries.map fun entry => .write entry.1 entry.2

def steering (flags : TransferFlags) (channel control low high : Byte) : List BusOp :=
  if flags.isMirrored then []
  else
    [.read Reg.Dma.control control,
      .write Reg.Dma.control (control.revise (~~~Reg.Dma.controlKeep) (channel &&& ~~~Reg.Dma.controlKeep)),
      .read Reg.Dma.hardwareLow low, .read Reg.Dma.hardwareHigh high]

-- A normal transfer of the secondary buffers is armed again while no other is active.
def rearms (flags : TransferFlags) (state : State) : Bool :=
  !flags.isExtended && (!state.transferActive && flags.isSecondary)

def rearming (flags : TransferFlags) (state : State) (status : Byte) : List BusOp :=
  if rearms flags state then
    [.write Reg.Dma.mode Reg.Dma.modeMirrored, .read Reg.Dma.status status,
      .write Reg.Dma.status (status.revise 0 Reg.Dma.statusMarker)]
  else []

def operations (flags : TransferFlags) (channel : Byte) (state : State) (sight : Sight) : List BusOp :=
  steering flags channel sight.control sight.low sight.high ++
    storing (asked flags channel state (Address.ofBytes sight.low sight.high)).image ++ rearming flags state sight.status

def idling : BusOp :=
  .wait Reg.Dma.ready Reg.Dma.readyIdle .forever

-- the controller once a transfer is programmed
def engaged (transfer : Transfer) (controller : Controller β) (bus : β) : Controller β :=
  { controller with
    bus
    state := { controller.state with dmaMode := transfer.mode, lastTransfer := some transfer }
    log := controller.log.push (.transferProgrammed transfer) }

section Operations

variable [Bus β] {answered : Bool}

theorem replays_storing (bus : β) (entries : List (Address × Byte)) :
    Replays answered bus (storing entries) (entries.foldl (fun bus entry => Bus.write bus entry.1 entry.2) bus) := by
  induction entries generalizing bus with
  | nil => rfl
  | cons entry rest ih => exact ih (Bus.write bus entry.1 entry.2)

theorem source_replays (answered : Bool) (flags : TransferFlags) (channel : Byte) (before : Controller β) :
    ∃ mode base control low high bus, source flags channel before = .ok (mode, base) { before with bus } ∧
      mode = (asked flags channel before.state (Address.ofBytes low high)).mode ∧
      base = (asked flags channel before.state (Address.ofBytes low high)).base ∧
      Replays answered before.bus (steering flags channel control low high) bus := by
  unfold source asked steering
  cases flags.isMirrored with
  | true => exact ⟨_, _, 0, 0, 0, before.bus, rfl, rfl, rfl, rfl⟩
  | false => exact ⟨_, _, _, _, _, _, rfl, rfl, rfl, rfl, rfl, rfl, rfl⟩

theorem opening_replays (answered : Bool) (base : Address) (mode : Byte) (before : Controller β) : ∃ bus,
    (∀ rest : BridgeM β Transfer,
      (writeAddresses base >>= fun _ => writeMode mode >>= fun _ => clearTags >>= fun _ => rest) before =
        rest { before with bus, state := { before.state with dmaMode := mode } }) ∧
    Replays answered before.bus (storing (opening base mode)) bus := by
  let write (bus : β) (entry : Address × Byte) := Bus.write bus entry.1 entry.2
  have addressing : writeAddresses base before = .ok () { before with bus := (addressImage base).foldl write before.bus } := rfl
  have moding (bus : β) : writeMode mode { before with bus } =
      .ok () { before with bus := write bus (Reg.Dma.mode, mode), state := { before.state with dmaMode := mode } } := rfl
  have clearing (controller : Controller β) :
      clearTags controller = .ok () { controller with bus := tagImage.foldl write controller.bus } := rfl
  refine ⟨(opening base mode).foldl write before.bus, fun rest => ?_, replays_storing before.bus _⟩
  rw [bind_of_ok addressing, bind_of_ok (moding _), bind_of_ok (clearing _)]
  simp only [opening, List.foldl_append]
  rfl

-- An engine that is armed again gets the mode that it has.
theorem buffer_stage_replays (answered : Bool) (flags : TransferFlags) (base : Address) {mode : Byte} (before : Controller β)
    (current : before.state.dmaMode = mode) (mirrored : flags.isSecondary = true → mode = Reg.Dma.modeMirrored) :
    ∃ transfer status bus,
      (if flags.isExtended then writeExtended base mode else writeNormal flags base mode) before =
        .ok transfer { before with bus } ∧
      transfer = { base, mode
                   length := if flags.isExtended then before.state.extendedLength else 0
                   bufferMode := if flags.isExtended then Reg.Dma.bufferExtended else Reg.Dma.bufferNormal } ∧
        Replays answered before.bus (storing transfer.bufferImage ++ rearming flags before.state status) bus := by
  unfold rearming rearms
  cases extended : flags.isExtended with
  | true => exact ⟨_, 0, _, rfl, rfl, replays_storing before.bus [(Reg.Dma.bufferMode, _), (Reg.Dma.length, _)]⟩
  | false =>
      let buffered := Bus.write before.bus Reg.Dma.bufferMode Reg.Dma.bufferNormal
      cases again : !before.state.transferActive && flags.isSecondary with
      | true =>
          obtain rfl := mirrored (Bool.and_eq_true_iff.mp again).2
          let armed := Bus.write buffered Reg.Dma.mode Reg.Dma.modeMirrored
          have kept : { before.state with dmaMode := Reg.Dma.modeMirrored } = before.state := by rw [← current]
          have ended : writeNormal flags base Reg.Dma.modeMirrored before =
              .ok { base, length := 0, mode := Reg.Dma.modeMirrored, bufferMode := Reg.Dma.bufferNormal }
                { before with
                  bus := Bus.modify armed Reg.Dma.status 0 Reg.Dma.statusMarker
                  state := { before.state with dmaMode := Reg.Dma.modeMirrored } } := congrFun (if_pos again) _
          rw [kept] at ended
          exact ⟨_, _, _, ended, rfl, rfl, rfl⟩
      | false =>
          have ended : writeNormal flags base mode before =
              .ok { base, length := 0, mode, bufferMode := Reg.Dma.bufferNormal } { before with bus := buffered } :=
            congrFun (if_neg (Bool.eq_false_iff.mp again)) _
          exact ⟨_, 0, buffered, ended, rfl, rfl⟩

theorem program_idle_replays (answered : Bool) (flags : TransferFlags) (channel : Byte) (before : Controller β) :
    ∃ sight transfer bus, programIdle flags channel before = .ok transfer (engaged transfer before bus) ∧
      transfer = asked flags channel before.state (Address.ofBytes sight.low sight.high) ∧
      Replays answered before.bus (operations flags channel before.state sight) bus := by
  obtain ⟨mode, base, control, low, high, sourced, sourcing, chosenMode, chosenBase, first⟩ :=
    source_replays answered flags channel before
  have mirrored (secondary : flags.isSecondary = true) : mode = Reg.Dma.modeMirrored :=
    chosenMode.trans (if_pos (mirrored_is_secondary secondary))
  obtain ⟨opened, opens, second⟩ := opening_replays answered base mode { before with bus := sourced }
  obtain ⟨transfer, status, bus, buffering, built, third⟩ := buffer_stage_replays answered flags base
    { before with bus := opened, state := { before.state with dmaMode := mode } } rfl mirrored
  have chosen : transfer = asked flags channel before.state (Address.ofBytes low high) := by
    rw [built, chosenMode, chosenBase]
    rfl
  refine ⟨{ control, low, high, status }, transfer, bus, ?_, chosen, ?_⟩
  · subst built
    unfold programIdle
    rw [bind_of_ok sourcing]
    refine (opens _).trans ?_
    -- Both branches go on in the same way.
    cases extended : flags.isExtended with
    | true =>
        rw [extended] at buffering
        exact bind_of_ok buffering _
    | false =>
        rw [extended] at buffering
        exact bind_of_ok buffering _
  · have image : transfer.image = opening base mode ++ transfer.bufferImage := by rw [built]; rfl
    have order : operations flags channel before.state { control, low, high, status } =
        steering flags channel control low high ++
          (storing (opening base mode) ++ (storing transfer.bufferImage ++ rearming flags before.state status)) := by
      rw [operations, ← chosen, image]
      simp only [storing, List.map_append, List.append_assoc]
    rw [order]
    exact first.append (second.append third)

theorem program_replays (flags : TransferFlags) (channel : Byte) (before : Controller β)
    (idle : (Bus.wait before.bus Reg.Dma.ready Reg.Dma.readyIdle .forever).1 = true) :
    ∃ sight transfer bus, program flags channel before = .ok transfer (engaged transfer before bus) ∧
      transfer = asked flags channel before.state (Address.ofBytes sight.low sight.high) ∧
      Replays true before.bus (idling :: operations flags channel before.state sight) bus := by
  let waited : Controller β := { before with bus := (Bus.wait before.bus Reg.Dma.ready Reg.Dma.readyIdle .forever).2 }
  have waits : waitFor Reg.Dma.ready Reg.Dma.readyIdle before = .ok () waited := (wait_for_ends _ _ before).trans (if_pos idle)
  obtain ⟨sight, transfer, bus, programs, chosen, path⟩ := program_idle_replays true flags channel waited
  exact ⟨sight, transfer, bus, (bind_of_ok waits _).trans programs, chosen, idle, path⟩

theorem program_stalls (flags : TransferFlags) (channel : Byte) (before : Controller β)
    (busy : (Bus.wait before.bus Reg.Dma.ready Reg.Dma.readyIdle .forever).1 = false) :
    ∃ bus, program flags channel before = .error unready { before with bus } ∧ Replays false before.bus [idling] bus := by
  have waits := (wait_for_ends Reg.Dma.ready Reg.Dma.readyIdle before).trans (if_neg (Bool.eq_false_iff.mp busy))
  exact ⟨_, bind_of_error waits _, busy, rfl⟩

end Operations

-- what programming reads, told from the board beforehand
def glimpse (board : Board) : Sight where
  control := board.peek Reg.Dma.control
  low := board.peek Reg.Dma.hardwareLow
  high := board.peek Reg.Dma.hardwareHigh
  status := board.peek Reg.Dma.status

section Members

variable {flags : TransferFlags} {channel : Byte} {state : State} {sight : Sight} {address : Address} {value : Byte}

theorem write_mem_storing {entries : List (Address × Byte)} :
    .write address value ∈ storing entries ↔ (address, value) ∈ entries := by
  simp only [storing, List.mem_map, BusOp.write.injEq]
  exact ⟨fun ⟨entry, member, first, second⟩ => by rw [← first, ← second]; exact member, fun member => ⟨_, member, rfl, rfl⟩⟩

theorem write_mem_steering {control low high : Byte} : .write address value ∈ steering flags channel control low high ↔
    flags.isMirrored = false ∧ address = Reg.Dma.control ∧ value = (control &&& 0xC0) ||| (channel &&& 0x3F) := by
  have kept : control.revise (~~~Reg.Dma.controlKeep) (channel &&& ~~~Reg.Dma.controlKeep) =
      (control &&& 0xC0) ||| (channel &&& 0x3F) := rfl
  unfold steering
  cases flags.isMirrored with
  | true => simp
  | false => simp [kept]

theorem write_mem_rearming {status : Byte} : .write address value ∈ rearming flags state status ↔
    rearms flags state = true ∧
      (address = Reg.Dma.mode ∧ value = Reg.Dma.modeMirrored ∨ address = Reg.Dma.status ∧ value = status ||| 0x40) := by
  have marked : status.revise 0 Reg.Dma.statusMarker = status ||| 0x40 := by
    simp [Byte.revise, Reg.Dma.statusMarker]
  unfold rearming
  cases rearms flags state with
  | true => simp [marked]
  | false => simp

theorem write_mem_operations : .write address value ∈ operations flags channel state sight ↔
    (flags.isMirrored = false ∧ address = Reg.Dma.control ∧ value = (sight.control &&& 0xC0) ||| (channel &&& 0x3F)) ∨
      (address, value) ∈ (asked flags channel state (Address.ofBytes sight.low sight.high)).image ∨
      (rearms flags state = true ∧
        (address = Reg.Dma.mode ∧ value = Reg.Dma.modeMirrored ∨ address = Reg.Dma.status ∧ value = sight.status ||| 0x40)) := by
  rw [operations, List.mem_append, List.mem_append, write_mem_storing, write_mem_steering, write_mem_rearming, or_assoc]

theorem wait_not_mem_operations (mask : Byte) (budget : WaitBudget) :
    .wait address mask budget ∉ operations flags channel state sight := by
  simp only [operations, steering, storing, rearming]
  cases flags.isMirrored <;> cases rearms flags state <;> simp

end Members

theorem not_mem_image_of_outside (transfer : Transfer) {address : Address} (outside : address ∉ mirrors) (value : Byte) :
    (address, value) ∉ transfer.image :=
  fun member => outside (transfer.image_mirrors address (List.mem_map_of_mem member))

section Registers

variable {flags : TransferFlags} {channel : Byte} {state : State} {sight : Sight} {value : Byte}

theorem operations_within {address : Address} (written : .write address value ∈ operations flags channel state sight) :
    address = Reg.Dma.control ∨ address = Reg.Dma.status ∨
      address ∈ (asked flags channel state (Address.ofBytes sight.low sight.high)).image.map Prod.fst := by
  rcases write_mem_operations.mp written with ⟨-, control, -⟩ | entry | ⟨-, ⟨mode, -⟩ | ⟨status, -⟩⟩
  · exact .inl control
  · exact .inr (.inr (List.mem_map_of_mem entry))
  · refine .inr (.inr ?_)
    rw [mode, image, List.map_append, List.map_append, List.map_append]
    simp
  · exact .inr (.inl status)

theorem ready_not_mem_operations : .write Reg.Dma.ready value ∉ operations flags channel state sight := by
  intro written
  rcases operations_within written with control | status | image
  · exact absurd control (by decide)
  · exact absurd status (by decide)
  · exact absurd (image_mirrors _ _ image) (by decide)

theorem write_control_mem_operations : .write Reg.Dma.control value ∈ operations flags channel state sight ↔
    flags.isMirrored = false ∧ value = (sight.control &&& 0xC0) ||| (channel &&& 0x3F) := by
  have off := not_mem_image_of_outside (asked flags channel state (Address.ofBytes sight.low sight.high))
    (show Reg.Dma.control ∉ mirrors by decide) value
  have mode : Reg.Dma.control ≠ Reg.Dma.mode := by decide
  have status : Reg.Dma.control ≠ Reg.Dma.status := by decide
  simp [write_mem_operations, off, mode, status]

theorem write_status_mem_operations : .write Reg.Dma.status value ∈ operations flags channel state sight ↔
    rearms flags state = true ∧ value = sight.status ||| 0x40 := by
  have off := not_mem_image_of_outside (asked flags channel state (Address.ofBytes sight.low sight.high))
    (show Reg.Dma.status ∉ mirrors by decide) value
  have control : Reg.Dma.status ≠ Reg.Dma.control := by decide
  have mode : Reg.Dma.status ≠ Reg.Dma.mode := by decide
  simp [write_mem_operations, off, control, mode]

-- A length is written in extended mode only.
theorem write_length_not_mem_operations (short : flags.isExtended = false) :
    .write Reg.Dma.length value ∉ operations flags channel state sight := by
  have normal : (asked flags channel state (Address.ofBytes sight.low sight.high)).bufferMode = Reg.Dma.bufferNormal := by
    simp [asked, short]
  have off : (Reg.Dma.length, value) ∉ (asked flags channel state (Address.ofBytes sight.low sight.high)).image := by
    intro member
    have address : Reg.Dma.length ∈ mirrors.take 11 := by
      have address := List.mem_map_of_mem (f := Prod.fst) member
      rwa [image_addresses, normal] at address
    exact absurd address (by decide)
  have control : Reg.Dma.length ≠ Reg.Dma.control := by decide
  have mode : Reg.Dma.length ≠ Reg.Dma.mode := by decide
  have status : Reg.Dma.length ≠ Reg.Dma.status := by decide
  simp [write_mem_operations, off, control, mode, status]

end Registers

section Glimpses

variable {flags : TransferFlags} {channel : Byte} {state : State} {sight : Sight} {before after : Board}

theorem steering_glimpsed (direct : flags.isMirrored = false)
    (replays : Replays true before (idling :: operations flags channel state sight) after) :
    sight.control = (glimpse before).control ∧ sight.low = (glimpse before).low ∧ sight.high = (glimpse before).high := by
  let revised := sight.control.revise (~~~Reg.Dma.controlKeep) (channel &&& ~~~Reg.Dma.controlKeep)
  simp only [operations, steering, direct, Bool.false_eq_true, if_false, List.cons_append] at replays
  have control : Replays true before ([idling] ++ .read Reg.Dma.control sight.control :: _) after := replays
  have low : Replays true before
      ([idling, .read Reg.Dma.control sight.control, .write Reg.Dma.control revised] ++
        .read Reg.Dma.hardwareLow sight.low :: _) after := replays
  have high : Replays true before
      ([idling, .read Reg.Dma.control sight.control, .write Reg.Dma.control revised, .read Reg.Dma.hardwareLow sight.low] ++
        .read Reg.Dma.hardwareHigh sight.high :: _) after := replays
  refine ⟨control.seen_of_apart ?_, low.seen_of_apart ?_, high.seen_of_apart ?_⟩
  all_goals
    simp [idling, Effect.Within, Reg.Dma.ready, Reg.Dma.control, Reg.Dma.hardwareLow, Reg.Dma.hardwareHigh]

theorem status_glimpsed (again : rearms flags state = true)
    (replays : Replays true before (idling :: operations flags channel state sight) after) :
    sight.status = (glimpse before).status := by
  let chosen := steering flags channel sight.control sight.low sight.high ++
    storing (asked flags channel state (Address.ofBytes sight.low sight.high)).image
  let marked := sight.status.revise 0 Reg.Dma.statusMarker
  have path : Replays true before ((idling :: chosen ++ [.write Reg.Dma.mode Reg.Dma.modeMirrored]) ++
      .read Reg.Dma.status sight.status :: [.write Reg.Dma.status marked]) after := by
    simpa [chosen, operations, rearming, again] using replays
  have unwaited (address : Address) (mask : Byte) (budget : WaitBudget) : .wait address mask budget ∉ chosen := fun member =>
    wait_not_mem_operations mask budget (List.mem_append_left _ member)
  have apart : ∀ op ∈ chosen, (Effect.operation op).Within (· ≠ Reg.Dma.status) := by
    refine within_of_writes unwaited fun address value member => ?_
    rcases List.mem_append.mp member with steers | stores
    · rw [(write_mem_steering.mp steers).2.1]
      decide
    · rintro rfl
      exact not_mem_image_of_outside _ (by decide) value (write_mem_storing.mp stores)
  refine path.seen_of_apart (List.forall_mem_cons.mpr ⟨?_, List.forall_mem_append.mpr ⟨apart, ?_⟩⟩)
  · exact show Reg.Dma.ready ≠ Reg.Dma.status by decide
  · exact List.forall_mem_singleton.mpr (show Reg.Dma.mode ≠ Reg.Dma.status by decide)

theorem operations_glimpsed (replays : Replays true before (idling :: operations flags channel state sight) after) :
    operations flags channel state sight = operations flags channel state (glimpse before) ∧
      asked flags channel state (Address.ofBytes sight.low sight.high) =
        asked flags channel state (Address.ofBytes (glimpse before).low (glimpse before).high) := by
  have steered : steering flags channel sight.control sight.low sight.high =
        steering flags channel (glimpse before).control (glimpse before).low (glimpse before).high ∧
      asked flags channel state (Address.ofBytes sight.low sight.high) =
        asked flags channel state (Address.ofBytes (glimpse before).low (glimpse before).high) := by
    cases mirrored : flags.isMirrored with
    | true => simp only [steering, asked, mirrored, if_true, and_self]
    | false =>
        obtain ⟨control, low, high⟩ := steering_glimpsed mirrored replays
        rw [control, low, high]
        exact ⟨rfl, rfl⟩
  have rearmed : rearming flags state sight.status = rearming flags state (glimpse before).status := by
    cases again : rearms flags state with
    | true => rw [status_glimpsed again replays]
    | false => simp only [rearming, again, Bool.false_eq_true, if_false]
  exact ⟨by rw [operations, operations, steered.1, steered.2, rearmed], steered.2⟩

-- where a register ends up that programming does not wait on
theorem peek_programmed {address : Address} (apart : address ≠ Reg.Dma.ready)
    (replays : Replays true before (idling :: operations flags channel state sight) after) :
    after.peek address =
      (operations flags channel state sight).foldl (BusOp.settle (before.marks address) address) (before.peek address) := by
  have unwaited (mask : Byte) (budget : WaitBudget) :
      .wait address mask budget ∉ idling :: operations flags channel state sight := by
    simp [idling, apart, wait_not_mem_operations]
  rw [replays.performed, Board.peek_performed unwaited]
  rfl

theorem peek_programmed_unwritten {address : Address} (apart : address ≠ Reg.Dma.ready)
    (unwritten : ∀ value, .write address value ∉ operations flags channel state sight)
    (replays : Replays true before (idling :: operations flags channel state sight) after) :
    after.peek address = before.peek address := by
  refine replays.peek_of_apart (List.forall_mem_cons.mpr ⟨Ne.symm apart, ?_⟩)
  refine within_of_writes (fun _ => wait_not_mem_operations) fun other value member => ?_
  rintro rfl
  exact unwritten value member

theorem peek_programmed_written {address : Address} {value : Byte} (apart : address ≠ Reg.Dma.ready)
    (unmarked : address ∉ before.oneToClear) (written : .write address value ∈ operations flags channel state sight)
    (agreed : ∀ other, .write address other ∈ operations flags channel state sight → other = value)
    (replays : Replays true before (idling :: operations flags channel state sight) after) : after.peek address = value := by
  have plain : before.marks address = false := decide_eq_false unmarked
  rw [peek_programmed apart replays, plain, Board.settled_of_agreed written agreed]

-- Every register of the image is written with one value only, the mode of an engine that is armed again included.
theorem image_agreed {address : Address} {value other : Byte}
    (entry : (address, value) ∈ (asked flags channel state (Address.ofBytes sight.low sight.high)).image)
    (written : .write address other ∈ operations flags channel state sight) : other = value := by
  generalize image : asked flags channel state (Address.ofBytes sight.low sight.high) = transfer at entry
  have once {other : Byte} (member : (address, other) ∈ transfer.image) : other = value :=
    congrArg Prod.snd (List.inj_on_of_nodup_map transfer.image_distinct member entry rfl)
  have mirrored : address ∈ mirrors := transfer.image_mirrors address (List.mem_map_of_mem entry)
  have away {outside : Address} (away : outside ∉ mirrors) : address ≠ outside := fun same => away (same ▸ mirrored)
  rcases write_mem_operations.mp written with ⟨-, steered, -⟩ | member | ⟨again, ⟨rfl, rfl⟩ | ⟨status, -⟩⟩
  · exact absurd steered (away (by decide))
  · exact once (image ▸ member)
  · have secondary : flags.isSecondary = true := by
      simp only [rearms, Bool.and_eq_true] at again
      exact again.2.2
    have mode : transfer.mode = Reg.Dma.modeMirrored := by
      rw [← image]
      exact if_pos (mirrored_is_secondary secondary)
    rw [← mode]
    exact once (by simp [Transfer.image])
  · exact absurd status (away (by decide))

end Glimpses

-- the registers that programming writes, in order
def writtenRegisters (raw channel : Byte) (before : Controller Board) : List Address :=
  (ending (program ⟨raw⟩ channel before.recorded)).bus.writes.map Prod.fst

-- A transfer that was programmed, with its flags as they came.
structure Configured (raw channel : Byte) (before : Controller Board) (transfer : Transfer) (after : Controller Board) :
    Prop where
  mirrored : raw &&& 0x06 ≠ 0 →
    transfer.mode = 0x20 ∧ transfer.base = before.state.bufferBase ∧ Reg.Dma.control ∉ writtenRegisters raw channel before
  direct : raw &&& 0x06 = 0 →
    transfer.mode = channel ||| 0x80 ∧
      transfer.base = Address.ofBytes (before.bus.peek Reg.Dma.hardwareLow) (before.bus.peek Reg.Dma.hardwareHigh) ∧
      after.bus.peek Reg.Dma.control = (before.bus.peek Reg.Dma.control &&& 0xC0) ||| (channel &&& 0x3F)
  extended : raw &&& 0x10 ≠ 0 →
    transfer.bufferMode = 0x04 ∧ transfer.length = before.state.extendedLength ∧
      after.bus.peek Reg.Dma.length = before.state.extendedLength ∧ Reg.Dma.status ∉ writtenRegisters raw channel before
  normal : raw &&& 0x10 = 0 →
    transfer.bufferMode = 0x03 ∧ transfer.length = 0 ∧ Reg.Dma.length ∉ writtenRegisters raw channel before
  marked : raw &&& 0x10 = 0 → before.state.transferActive = false ∧ raw &&& 0x04 ≠ 0 →
    after.bus.peek Reg.Dma.status = before.bus.peek Reg.Dma.status ||| 0x40
  unmarked : ¬ (before.state.transferActive = false ∧ raw &&& 0x04 ≠ 0) → Reg.Dma.status ∉ writtenRegisters raw channel before
  -- Source, destination, mode, tags and buffer mode, and the length of an extended transfer.
  shows : after.bus.ShowsTransfer transfer
  state : after.state = { before.state with dmaMode := transfer.mode, lastTransfer := some transfer }
  settings : after.settings = before.settings
  statistics : after.statistics = before.statistics
  log : after.log = before.log.push (.transferProgrammed transfer)
  ready : after.bus.peek Reg.Dma.ready = (before.bus.startWait Reg.Dma.ready).peek Reg.Dma.ready
  frame : ∀ address, address ≠ Reg.Dma.ready → address ∉ writtenRegisters raw channel before →
    after.bus.peek address = before.bus.peek address
  within : ∀ address ∈ writtenRegisters raw channel before,
    address = Reg.Dma.control ∨ address = Reg.Dma.status ∨ address ∈ transfer.image.map Prod.fst
  marks : after.bus.oneToClear = before.bus.oneToClear

theorem mem_written_registers {raw channel : Byte} {before : Controller Board}
    (idle : before.bus.answers Reg.Dma.ready Reg.Dma.readyIdle = true) {address : Address} :
    address ∈ writtenRegisters raw channel before ↔
      ∃ value, .write address value ∈ operations ⟨raw⟩ channel before.state (glimpse before.bus) := by
  obtain ⟨sight, transfer, bus, programs, -, replays⟩ := program_replays ⟨raw⟩ channel before.recorded idle
  have writes : bus.writes = _ := replays.writes
  have same := (operations_glimpsed replays.beneath).1
  have state : before.recorded.state = before.state := rfl
  rw [state] at writes same
  rw [same] at writes
  unfold writtenRegisters
  rw [programs]
  change address ∈ bus.writes.map Prod.fst ↔ _
  rw [writes]
  let ops := idling :: operations ⟨raw⟩ channel before.state (glimpse before.bus)
  change address ∈ (ops.filterMap BusOp.write?).map Prod.fst ↔ _
  have written {op : BusOp} {value : Byte} : op.write? = some (address, value) ↔ op = .write address value := by
    cases op <;> simp [BusOp.write?]
  have first : idling.write? = none := rfl
  simp [ops, first, written]

section Programmed

variable {raw channel : Byte} {before : Controller Board} {bus : Board}

theorem image_programmed (plain : ∀ address ∈ before.bus.oneToClear, address.toNat < 0xB000 ∨ 0xB01A < address.toNat)
    (replays : Replays true before.bus (idling :: operations ⟨raw⟩ channel before.state (glimpse before.bus)) bus) :
    ∀ entry ∈ (asked ⟨raw⟩ channel before.state (Address.ofBytes (glimpse before.bus).low (glimpse before.bus).high)).image,
      bus.peek entry.1 = entry.2 := by
  rintro ⟨address, value⟩ entry
  have mirror := image_mirrors _ address (List.mem_map_of_mem entry)
  have bounds : 0xB000 ≤ address.toNat ∧ address.toNat < 0xB018 := mirrors_between mirror
  have unmarked : address ∉ before.bus.oneToClear := by
    intro marked
    have away := plain address marked
    omega
  have written := write_mem_operations.mpr (.inr (.inl entry))
  refine peek_programmed_written ?_ unmarked written (fun _ => image_agreed entry) replays
  rintro rfl
  exact absurd mirror (by decide)

theorem control_programmed (direct : raw &&& 0x06 = 0) (unmarked : Reg.Dma.control ∉ before.bus.oneToClear)
    (replays : Replays true before.bus (idling :: operations ⟨raw⟩ channel before.state (glimpse before.bus)) bus) :
    bus.peek Reg.Dma.control = (before.bus.peek Reg.Dma.control &&& 0xC0) ||| (channel &&& 0x3F) :=
  peek_programmed_written (by decide) unmarked (write_control_mem_operations.mpr ⟨bne_eq_false_iff_eq.mpr direct, rfl⟩)
    (fun _ written => (write_control_mem_operations.mp written).2) replays

theorem rearms_iff {state : State} : rearms ⟨raw⟩ state = true ↔
    raw &&& 0x10 = 0 ∧ state.transferActive = false ∧ raw &&& 0x04 ≠ 0 := by
  have extended : TransferFlags.isExtended ⟨raw⟩ = (raw &&& 0x10 != 0) := rfl
  have secondary : TransferFlags.isSecondary ⟨raw⟩ = (raw &&& 0x04 != 0) := rfl
  simp [rearms, extended, secondary]

theorem status_programmed (again : rearms ⟨raw⟩ before.state = true) (unmarked : Reg.Dma.status ∉ before.bus.oneToClear)
    (replays : Replays true before.bus (idling :: operations ⟨raw⟩ channel before.state (glimpse before.bus)) bus) :
    bus.peek Reg.Dma.status = before.bus.peek Reg.Dma.status ||| 0x40 :=
  peek_programmed_written (by decide) unmarked (write_status_mem_operations.mpr ⟨again, rfl⟩)
    (fun _ written => (write_status_mem_operations.mp written).2) replays

theorem ready_programmed
    (replays : Replays true before.bus (idling :: operations ⟨raw⟩ channel before.state (glimpse before.bus)) bus) :
    bus.peek Reg.Dma.ready = (before.bus.startWait Reg.Dma.ready).peek Reg.Dma.ready := by
  obtain ⟨-, onward⟩ := replays
  rw [onward.performed, Board.peek_performed fun _ _ => wait_not_mem_operations _ _,
    Board.settled_of_unwritten _ fun _ => ready_not_mem_operations]
  rfl

-- What is asked for, by the bits of the flags.
theorem asked_for (raw channel : Byte) (state : State) (hardware : Address) :
    (raw &&& 0x06 ≠ 0 →
      (asked ⟨raw⟩ channel state hardware).mode = 0x20 ∧ (asked ⟨raw⟩ channel state hardware).base = state.bufferBase) ∧
    (raw &&& 0x06 = 0 →
      (asked ⟨raw⟩ channel state hardware).mode = channel ||| 0x80 ∧ (asked ⟨raw⟩ channel state hardware).base = hardware) ∧
    (raw &&& 0x10 ≠ 0 →
      (asked ⟨raw⟩ channel state hardware).bufferMode = 0x04 ∧
        (asked ⟨raw⟩ channel state hardware).length = state.extendedLength) ∧
    (raw &&& 0x10 = 0 →
      (asked ⟨raw⟩ channel state hardware).bufferMode = 0x03 ∧ (asked ⟨raw⟩ channel state hardware).length = 0) := by
  have mirrored : TransferFlags.isMirrored ⟨raw⟩ = true ↔ raw &&& 0x06 ≠ 0 := bne_iff_ne
  have extended : TransferFlags.isExtended ⟨raw⟩ = true ↔ raw &&& 0x10 ≠ 0 := bne_iff_ne
  refine ⟨fun given => ?_, fun given => ?_, fun given => ?_, fun given => ?_⟩
  · exact ⟨if_pos (mirrored.mpr given), if_pos (mirrored.mpr given)⟩
  · exact ⟨if_neg fun is => mirrored.mp is given, if_neg fun is => mirrored.mp is given⟩
  · exact ⟨if_pos (extended.mpr given), if_pos (extended.mpr given)⟩
  · exact ⟨if_neg fun is => extended.mp is given, if_neg fun is => extended.mp is given⟩

theorem asked_has_kind (flags : TransferFlags) (channel : Byte) (state : State) (hardware : Address) :
    (asked flags channel state hardware).HasKind := by
  unfold HasKind asked
  cases flags.isExtended with
  | true => exact .inl rfl
  | false => exact .inr ⟨rfl, rfl⟩

section Written

variable (answered : before.bus.answers Reg.Dma.ready Reg.Dma.readyIdle = true)

include answered

theorem control_unwritten (given : raw &&& 0x06 ≠ 0) : Reg.Dma.control ∉ writtenRegisters raw channel before := by
  intro touched
  obtain ⟨value, written⟩ := (mem_written_registers answered).mp touched
  have straight := (write_control_mem_operations.mp written).1
  exact given (bne_eq_false_iff_eq.mp straight)

theorem length_unwritten (given : raw &&& 0x10 = 0) : Reg.Dma.length ∉ writtenRegisters raw channel before := by
  intro touched
  obtain ⟨value, written⟩ := (mem_written_registers answered).mp touched
  exact write_length_not_mem_operations (bne_eq_false_iff_eq.mpr given) written

theorem rearms_of_written (touched : Reg.Dma.status ∈ writtenRegisters raw channel before) :
    rearms ⟨raw⟩ before.state = true := by
  obtain ⟨value, written⟩ := (mem_written_registers answered).mp touched
  exact (write_status_mem_operations.mp written).1

end Written

end Programmed

theorem program_configures (raw channel : Byte) (before : Controller Board)
    (plain : ∀ address ∈ before.bus.oneToClear, address.toNat < 0xB000 ∨ 0xB01A < address.toNat)
    (idle : before.bus.shows Reg.Dma.ready Reg.Dma.readyIdle = true ∨
      ∃ script ∈ before.bus.scripts, script.fires Reg.Dma.ready = true ∧ script.mask.meets Reg.Dma.readyIdle = true) :
    ∃ transfer after, program ⟨raw⟩ channel before = .ok transfer after ∧ Configured raw channel before transfer after := by
  have answered := (Board.answers_iff before.bus Reg.Dma.ready Reg.Dma.readyIdle).mpr idle
  obtain ⟨sight, transfer, bus, programs, chosen, replays⟩ := program_replays ⟨raw⟩ channel before answered
  obtain ⟨seen, asks⟩ := operations_glimpsed replays
  rw [seen] at replays
  rw [asks] at chosen
  subst chosen
  let hardware := Address.ofBytes (glimpse before.bus).low (glimpse before.bus).high
  obtain ⟨mirrored, direct, extended, normal⟩ := asked_for raw channel before.state hardware
  have unmarked (address : Address) (inside : 0xB000 ≤ address.toNat ∧ address.toNat ≤ 0xB01A) :
      address ∉ before.bus.oneToClear := by
    intro marked
    have away := plain address marked
    omega
  have image := image_programmed plain replays
  refine ⟨_, engaged (asked ⟨raw⟩ channel before.state hardware) before bus, programs, ?_⟩
  refine
    { mirrored := fun given => ⟨(mirrored given).1, (mirrored given).2, control_unwritten answered given⟩
      direct := fun given => ⟨(direct given).1, (direct given).2, control_programmed given (unmarked _ (by decide)) replays⟩
      extended := fun given => ⟨(extended given).1, (extended given).2, ?_, ?_⟩
      normal := fun given => ⟨(normal given).1, (normal given).2, length_unwritten answered given⟩
      marked := fun given again => status_programmed (rearms_iff.mpr ⟨given, again⟩) (unmarked _ (by decide)) replays
      unmarked := fun still touched => still (rearms_iff.mp (rearms_of_written answered touched)).2
      shows := Board.shows_of_image (asked_has_kind _ _ _ _) image
      state := rfl
      settings := rfl
      statistics := rfl
      log := rfl
      ready := ready_programmed replays
      frame := fun address apart untouched => ?_
      within := fun address touched => ?_
      marks := ?_ }
  · have buffer := (extended given).1
    have entry : (Reg.Dma.length, (asked ⟨raw⟩ channel before.state hardware).length) ∈
        (asked ⟨raw⟩ channel before.state hardware).image := by
      simp [Transfer.image, bufferImage, buffer, Reg.Dma.bufferExtended]
    exact (image _ entry).trans (extended given).2
  · exact fun touched => given (rearms_iff.mp (rearms_of_written answered touched)).1
  · refine peek_programmed_unwritten apart (fun value written => ?_) replays
    exact untouched ((mem_written_registers answered).mpr ⟨value, written⟩)
  · obtain ⟨value, written⟩ := (mem_written_registers answered).mp touched
    exact operations_within written
  · change bus.oneToClear = _
    rw [replays.performed, Board.marks_performed]

-- The mirrored source and the marked status, on a board after power-up.
theorem secondary_transfer_configured :
    (∀ address ∈ Board.powered.oneToClear, address.toNat < 0xB000 ∨ 0xB01A < address.toNat) ∧
      Board.powered.shows Reg.Dma.ready Reg.Dma.readyIdle = true ∧
      ∃ transfer after, program ⟨0xE4⟩ 5 (Controller.start Board.powered .reference) = .ok transfer after ∧
        Configured 0xE4 5 (Controller.start .powered .reference) transfer after ∧ after.bus.peek Reg.Dma.status = 0x40 := by
  have marks : Board.powered.oneToClear.all (fun address => decide (address.toNat < 0xB000)) = true := by decide +kernel
  have plain : ∀ address ∈ Board.powered.oneToClear, address.toNat < 0xB000 ∨ 0xB01A < address.toNat := fun address member =>
    .inl (of_decide_eq_true (List.all_eq_true.mp marks address member))
  have idle : Board.powered.shows Reg.Dma.ready Reg.Dma.readyIdle = true := by decide +kernel
  obtain ⟨transfer, after, programs, configured⟩ :=
    program_configures 0xE4 5 (Controller.start .powered .reference) plain (.inl idle)
  refine ⟨plain, idle, transfer, after, programs, configured, ?_⟩
  have held : Board.powered.peek Reg.Dma.status = 0 := by decide +kernel
  have marked := configured.marked (by decide) ⟨rfl, by decide⟩
  change after.bus.peek Reg.Dma.status = Board.powered.peek Reg.Dma.status ||| 0x40 at marked
  rw [marked, held]
  rfl

end Transfer

end StorageBridge
