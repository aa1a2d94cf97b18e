import StorageBridge.Proofs.Boards
import StorageBridge.Proofs.Passes

/-!
The engine registers mirror the recorded transfer. Programming a transfer writes its image, a list of
registers with their bytes, and records it; the readiness check may forget that a transfer runs, but
not what was recorded. The offset register is written by simple commands alone.
-/

set_option autoImplicit false

namespace StorageBridge

open BridgeM Recorder

namespace Board

variable {board : Board} {entries : List (Address × Byte)}

-- writes one after the other
def store (board : Board) (entries : List (Address × Byte)) : Board :=
  entries.foldl (fun board entry => Bus.write board entry.1 entry.2) board

theorem store_append (board : Board) (first second : List (Address × Byte)) :
    (board.store first).store second = board.store (first ++ second) :=
  List.foldl_append.symm

theorem one_to_clear_store (board : Board) (entries : List (Address × Byte)) :
    (board.store entries).oneToClear = board.oneToClear := by
  induction entries generalizing board with
  | nil => rfl
  | cons entry rest ih => exact ih (Bus.write board entry.1 entry.2)

theorem peek_store_other {address : Address} (outside : address ∉ entries.map Prod.fst) :
    (board.store entries).peek address = board.peek address := by
  induction entries generalizing board with
  | nil => rfl
  | cons entry rest ih =>
      rw [List.map_cons, List.mem_cons, not_or] at outside
      obtain ⟨different, away⟩ := outside
      exact (ih away).trans (peek_write_other (Ne.symm different) _)

theorem peek_store (distinct : (entries.map Prod.fst).Nodup)
    (unmarked : ∀ address ∈ entries.map Prod.fst, address ∉ board.oneToClear) :
    ∀ entry ∈ entries, (board.store entries).peek entry.1 = entry.2 := by
  induction entries generalizing board with
  | nil => exact List.forall_mem_nil _
  | cons first rest ih =>
      obtain ⟨once, others⟩ := List.nodup_cons.mp distinct
      obtain ⟨here, later⟩ := List.forall_mem_cons.mp unmarked
      refine List.forall_mem_cons.mpr ⟨?_, ih others later⟩
      exact (peek_store_other once).trans (peek_write here _)

theorem peek_write_same {address : Address} {value : Byte} (unmarked : address ∉ board.oneToClear)
    (held : board.peek address = value) (other : Address) : (Bus.write board address value).peek other = board.peek other := by
  by_cases same : address = other
  · rw [← same, peek_write unmarked, held]
  · exact peek_write_other same value

end Board

namespace Readiness

variable {β : Type} [Bus β]

-- A fault leaves the transfer as it is, and everything else forgets it.
theorem check_settles (before : Controller β) :
    settled (ending (check before)) = settled before ∨ settled (ending (check before)) = settled (forgetTransfer before) := by
  obtain ⟨_, _, ended⟩ := check_ends before
  rw [ended]
  change settled (ending (evaluate before)) = _ ∨ settled (ending (evaluate before)) = _
  unfold evaluate
  rw [bind_get_state]
  cases before.state.fault with
  | true => exact .inl (keeps_ending (refuse_keeps never _ _) before)
  | false =>
      right
      rw [if_neg Bool.false_ne_true, check_link_forgets]
      exact keeps_ending look_at_link_keeps (forgetTransfer before)

end Readiness

namespace Transfer

def addressImage (base : Address) : List (Address × Byte) :=
  [(Reg.Dma.sourceLow, base.low), (Reg.Dma.sourceHigh, base.high), (Reg.Dma.destinationLow, base.low),
    (Reg.Dma.destinationHigh, base.high)]

def tagImage : List (Address × Byte) :=
  (List.range Reg.Dma.tagLength).map (fun i => (Reg.Dma.tag + UInt16.ofNat i, 0)) ++ [(Reg.Dma.trailer, 0)]

def bufferImage (transfer : Transfer) : List (Address × Byte) :=
  (Reg.Dma.bufferMode, transfer.bufferMode) ::
    if transfer.bufferMode = Reg.Dma.bufferExtended then [(Reg.Dma.length, transfer.length)] else []

-- the registers of a transfer, in the order in which they are written
def image (transfer : Transfer) : List (Address × Byte) :=
  addressImage transfer.base ++ [(Reg.Dma.mode, transfer.mode)] ++ tagImage ++ transfer.bufferImage

-- A length is programmed in extended mode only.
def HasKind (transfer : Transfer) : Prop :=
  transfer.bufferMode = Reg.Dma.bufferExtended ∨ (transfer.bufferMode = Reg.Dma.bufferNormal ∧ transfer.length = 0)

def mirrors : List Address :=
  [Reg.Dma.sourceLow, Reg.Dma.sourceHigh, Reg.Dma.destinationLow, Reg.Dma.destinationHigh, Reg.Dma.mode] ++
    (List.range Reg.Dma.tagLength).map (fun i => Reg.Dma.tag + UInt16.ofNat i) ++
    [Reg.Dma.trailer, Reg.Dma.bufferMode, Reg.Dma.length, Reg.Dma.bufferOffset]

theorem image_addresses (transfer : Transfer) :
    transfer.image.map Prod.fst = mirrors.take (if transfer.bufferMode = Reg.Dma.bufferExtended then 12 else 11) := by
  unfold image bufferImage
  split
  · rfl
  · rfl

theorem image_distinct (transfer : Transfer) : (transfer.image.map Prod.fst).Nodup := by
  rw [image_addresses]
  exact (show mirrors.Nodup by decide).sublist (List.take_sublist _ _)

theorem offset_outside (transfer : Transfer) : Reg.Dma.bufferOffset ∉ transfer.image.map Prod.fst := by
  rw [image_addresses]
  split
  · decide
  · decide

theorem image_mirrors (transfer : Transfer) : ∀ address ∈ transfer.image.map Prod.fst, address ∈ mirrors := by
  rw [image_addresses]
  exact fun address => List.mem_of_mem_take

theorem mirrored_is_secondary {flags : TransferFlags} (secondary : flags.isSecondary = true) : flags.isMirrored = true := by
  have table : ∀ raw : Fin 256, Byte.meets (UInt8.ofFin raw) TransferFlags.mirrorSecondary = true →
      Byte.meets (UInt8.ofFin raw) (TransferFlags.mirrorPrimary ||| TransferFlags.mirrorSecondary) = true := by
    decide +kernel
  exact table flags.bits.toFin secondary

theorem source_ends (flags : TransferFlags) (channel : Byte) (before : Controller Board) :
    ∃ mode base sourced, source flags channel before = .ok (mode, base) sourced ∧ sourced.state = before.state ∧
      sourced.bus.shown mirrors = before.bus.shown mirrors ∧ mode ≠ 0 ∧
      (flags.isSecondary = true → mode = Reg.Dma.modeMirrored) := by
  unfold source
  cases mirrored : flags.isMirrored with
  | true => exact ⟨_, _, before, rfl, rfl, rfl, by decide, fun _ => rfl⟩
  | false =>
      refine ⟨_, _, _, rfl, rfl, Board.shown_modify (by decide +kernel) _ _, ?_, fun secondary => ?_⟩
      · simp [Reg.Dma.modeDirect]
      · cases mirrored.symm.trans (mirrored_is_secondary secondary)

theorem write_addresses_stores (base : Address) (before : Controller Board) :
    writeAddresses base before = .ok () { before with bus := before.bus.store (addressImage base) } := rfl

theorem write_mode_stores (mode : Byte) (before : Controller Board) :
    writeMode mode before = .ok ()
      { before with
        bus := before.bus.store [(Reg.Dma.mode, mode)]
        state := { before.state with dmaMode := mode } } := rfl

theorem clear_tags_stores (before : Controller Board) :
    clearTags before = .ok () { before with bus := before.bus.store tagImage } := rfl

-- What the last stage adds, on the registers of the mirror.
structure Buffered (before : Controller Board) (transfer : Transfer) (after : Controller Board) : Prop where
  kind : transfer.HasKind
  state : after.state = { before.state with dmaMode := transfer.mode }
  shown : after.bus.shown mirrors = (before.bus.store transfer.bufferImage).shown mirrors

theorem write_extended_buffers (base : Address) (mode : Byte) {before : Controller Board}
    (current : before.state.dmaMode = mode) :
    ∃ transfer after, writeExtended base mode before = .ok transfer after ∧ transfer.base = base ∧ transfer.mode = mode ∧
      Buffered before transfer after := by
  subst current
  exact ⟨_, _, rfl, rfl, rfl, .inl rfl, rfl, rfl⟩

-- An engine that is armed again gets the mode that it has.
theorem write_normal_buffers (flags : TransferFlags) (base : Address) (mode : Byte) {before : Controller Board}
    (unmarked : ∀ address ∈ mirrors, address ∉ before.bus.oneToClear) (current : before.state.dmaMode = mode)
    (written : before.bus.peek Reg.Dma.mode = mode) (mirrored : flags.isSecondary = true → mode = Reg.Dma.modeMirrored) :
    ∃ transfer after, writeNormal flags base mode before = .ok transfer after ∧ transfer.base = base ∧ transfer.mode = mode ∧
      Buffered before transfer after := by
  let buffered := Bus.write before.bus Reg.Dma.bufferMode Reg.Dma.bufferNormal
  by_cases again : (!before.state.transferActive && flags.isSecondary) = true
  · have same := mirrored (Bool.and_eq_true_iff.mp again).2
    let armed := Bus.write buffered Reg.Dma.mode Reg.Dma.modeMirrored
    have ended : writeNormal flags base mode before =
        .ok { base, length := 0, mode := Reg.Dma.modeMirrored, bufferMode := Reg.Dma.bufferNormal }
          { before with
            bus := Bus.modify armed Reg.Dma.status 0 Reg.Dma.statusMarker
            state := { before.state with dmaMode := Reg.Dma.modeMirrored } } := congrFun (if_pos again) _
    have held : buffered.peek Reg.Dma.mode = Reg.Dma.modeMirrored := by
      rw [← same, ← written]
      exact Board.peek_write_other (by decide) _
    have plain : Reg.Dma.mode ∉ buffered.oneToClear := unmarked _ (by decide)
    have shown : armed.shown mirrors = buffered.shown mirrors :=
      Board.shown_eq_iff.mpr fun other _ => ⟨Board.peek_write_same plain held other, Iff.rfl⟩
    refine ⟨_, _, ended, rfl, same.symm, .inr ⟨rfl, rfl⟩, rfl, ?_⟩
    exact (Board.shown_modify (by decide +kernel) _ _).trans shown
  · have ended : writeNormal flags base mode before =
        .ok { base, length := 0, mode, bufferMode := Reg.Dma.bufferNormal } { before with bus := buffered } :=
      congrFun (if_neg again) _
    subst current
    exact ⟨_, _, ended, rfl, rfl, .inr ⟨rfl, rfl⟩, rfl, rfl⟩

-- the registers before those of the buffer
def opening (base : Address) (mode : Byte) : List (Address × Byte) :=
  addressImage base ++ [(Reg.Dma.mode, mode)] ++ tagImage

def opened (base : Address) (mode : Byte) (before : Controller Board) : Controller Board :=
  { before with bus := before.bus.store (opening base mode), state := { before.state with dmaMode := mode } }

theorem opening_stores (base : Address) (mode : Byte) (rest : BridgeM Board Transfer) (before : Controller Board) :
    (writeAddresses base >>= fun _ => writeMode mode >>= fun _ => clearTags >>= fun _ => rest) before =
      rest (opened base mode before) := by
  rw [bind_of_ok (write_addresses_stores base before), bind_of_ok (write_mode_stores mode _), bind_of_ok (clear_tags_stores _)]
  simp only [Board.store_append]
  rfl

theorem opening_writes_mode (base : Address) (mode : Byte) {board : Board}
    (unmarked : ∀ address ∈ mirrors, address ∉ board.oneToClear) :
    (board.store (opening base mode)).peek Reg.Dma.mode = mode := by
  have addresses : (opening base mode).map Prod.fst = mirrors.take 10 := rfl
  have distinct : ((opening base mode).map Prod.fst).Nodup := addresses ▸ by decide
  refine Board.peek_store distinct (fun address member => ?_) (Reg.Dma.mode, mode) (by simp [opening])
  rw [addresses] at member
  exact unmarked address (List.mem_of_mem_take member)

theorem buffer_stage_buffers (flags : TransferFlags) (base : Address) (mode : Byte) {before : Controller Board}
    (unmarked : ∀ address ∈ mirrors, address ∉ before.bus.oneToClear)
    (mirrored : flags.isSecondary = true → mode = Reg.Dma.modeMirrored) :
    ∃ transfer after,
      (if flags.isExtended then writeExtended base mode else writeNormal flags base mode) (opened base mode before) =
          .ok transfer after ∧
        transfer.base = base ∧ transfer.mode = mode ∧ Buffered (opened base mode before) transfer after := by
  cases flags.isExtended with
  | true => exact write_extended_buffers base mode rfl
  | false =>
      refine write_normal_buffers flags base mode (fun address member => ?_) rfl (opening_writes_mode base mode unmarked) mirrored
      exact (Board.one_to_clear_store _ _).symm ▸ unmarked address member

-- The engine registers get the image of the transfer, on hardware that may have moved elsewhere.
structure Stored (before : Controller Board) (bus : Board) (transfer : Transfer) (after : Controller Board) : Prop where
  kind : transfer.HasKind
  mode : transfer.mode ≠ 0
  state : after.state = { before.state with dmaMode := transfer.mode, lastTransfer := some transfer }
  moved : bus.shown mirrors = before.bus.shown mirrors
  shown : after.bus.shown mirrors = (bus.store transfer.image).shown mirrors

theorem program_idle_stores (flags : TransferFlags) (channel : Byte) {before : Controller Board}
    (unmarked : ∀ address ∈ mirrors, address ∉ before.bus.oneToClear) :
    ∃ bus transfer after, programIdle flags channel before = .ok transfer after ∧ Stored before bus transfer after := by
  obtain ⟨mode, base, sourced, sourcing, state, moved, nonzero, mirrored⟩ := source_ends flags channel before
  have plain : ∀ address ∈ mirrors, address ∉ sourced.bus.oneToClear := fun address member marked =>
    unmarked address member ((Board.shown_eq_iff.mp moved address member).2.mp marked)
  obtain ⟨transfer, buffered, buffering, rfl, rfl, ends⟩ := buffer_stage_buffers flags base mode plain mirrored
  let after : Controller Board := { buffered with
    state := { buffered.state with lastTransfer := some transfer }
    log := buffered.log.push (.transferProgrammed transfer) }
  have ended : programIdle flags channel before = .ok transfer after := by
    unfold programIdle
    rw [bind_of_ok sourcing]
    refine (opening_stores _ _ _ sourced).trans ?_
    -- Both branches go on in the same way.
    cases extended : flags.isExtended with
    | true =>
        rw [extended] at buffering
        exact bind_of_ok buffering _
    | false =>
        rw [extended] at buffering
        exact bind_of_ok buffering _
  have shown : after.bus.shown mirrors = (sourced.bus.store transfer.image).shown mirrors := by
    have stored := Board.store_append sourced.bus (opening transfer.base transfer.mode) transfer.bufferImage
    exact ends.shown.trans (congrArg (Board.shown mirrors) stored)
  refine ⟨sourced.bus, transfer, after, ended, ends.kind, nonzero, ?_, moved, shown⟩
  change { buffered.state with lastTransfer := some transfer } = _
  rw [ends.state, ← state]
  rfl

-- The registers of the mirror agree with what the state records. In which sense the offset agrees is a
-- parameter: the engine may have been left with an offset that the state does not know of.
structure Mirrored (agrees : Byte → Byte → Prop) (controller : Controller Board) : Prop where
  unmarked : ∀ address ∈ mirrors, address ∉ controller.bus.oneToClear
  shows : ∀ transfer, controller.state.lastTransfer = some transfer →
    transfer.HasKind ∧ ∀ entry ∈ transfer.image, controller.bus.peek entry.1 = entry.2
  offset : agrees (controller.bus.peek Reg.Dma.bufferOffset) controller.state.bufferOffset
  active : controller.state.transferActive = true ↔ controller.state.dmaMode ≠ 0
  recorded : controller.state.transferActive = true →
    ∃ transfer, controller.state.lastTransfer = some transfer ∧ transfer.mode = controller.state.dmaMode

variable {agrees : Byte → Byte → Prop}

-- A transfer that was programmed is running.
def started (controller : Controller Board) : Controller Board :=
  { controller with state := { controller.state with transferActive := true } }

theorem mirrored_of_stored {before after : Controller Board} {bus : Board} {transfer : Transfer} (mirrored : Mirrored agrees before)
    (stored : Stored before bus transfer after) : Mirrored agrees (started after) := by
  have moves := Board.shown_eq_iff.mp stored.moved
  have shows := Board.shown_eq_iff.mp stored.shown
  have plain : ∀ address ∈ mirrors, address ∉ bus.oneToClear := fun address member marked =>
    mirrored.unmarked address member ((moves address member).2.mp marked)
  have last : (started after).state.lastTransfer = some transfer := congrArg State.lastTransfer stored.state
  have mode : (started after).state.dmaMode = transfer.mode := congrArg State.dmaMode stored.state
  have resolved : (started after).state.bufferOffset = before.state.bufferOffset := by
    change after.state.bufferOffset = _
    rw [stored.state]
  refine ⟨fun address member => ?_, fun other same => ?_, ?_, ?_, fun _ => ⟨transfer, last, mode.symm⟩⟩
  · change address ∉ after.bus.oneToClear
    rw [(shows address member).2, Board.one_to_clear_store]
    exact plain address member
  · obtain rfl := Option.some.inj (last.symm.trans same)
    refine ⟨stored.kind, fun entry member => ?_⟩
    have inside : ∀ address ∈ transfer.image.map Prod.fst, address ∉ bus.oneToClear := fun address member =>
      plain address (transfer.image_mirrors address member)
    have mirror := transfer.image_mirrors entry.1 (List.mem_map_of_mem member)
    exact (shows entry.1 mirror).1.trans (Board.peek_store transfer.image_distinct inside entry member)
  · have kept : (started after).bus.peek Reg.Dma.bufferOffset = before.bus.peek Reg.Dma.bufferOffset :=
      ((shows _ (by decide)).1.trans (Board.peek_store_other transfer.offset_outside)).trans (moves _ (by decide)).1
    rw [kept, resolved]
    exact mirrored.offset
  · rw [mode]
    exact ⟨fun _ => stored.mode, fun _ => rfl⟩

-- the fields that the registers of the engine tell
def fields (state : State) : Option Transfer × Byte × Bool × Byte :=
  (state.lastTransfer, state.bufferOffset, state.transferActive, state.dmaMode)

theorem mirrored_of_tied (before after : Controller Board) (same : after.tied mirrors fields = before.tied mirrors fields)
    (mirrored : Mirrored agrees before) : Mirrored agrees after := by
  obtain ⟨shown, rest⟩ := Prod.mk.inj same
  obtain ⟨last, rest⟩ := Prod.mk.inj rest
  obtain ⟨offset, rest⟩ := Prod.mk.inj rest
  obtain ⟨active, mode⟩ := Prod.mk.inj rest
  have shows := Board.shown_eq_iff.mp shown
  refine ⟨fun address member => ?_, fun transfer recorded => ?_, ?_, ?_, ?_⟩
  · rw [(shows address member).2]
    exact mirrored.unmarked address member
  · rw [last] at recorded
    obtain ⟨kind, image⟩ := mirrored.shows transfer recorded
    refine ⟨kind, fun entry member => ?_⟩
    rw [(shows entry.1 (transfer.image_mirrors entry.1 (List.mem_map_of_mem member))).1]
    exact image entry member
  · rw [(shows Reg.Dma.bufferOffset (by decide)).1, offset]
    exact mirrored.offset
  · rw [active, mode]
    exact mirrored.active
  · rw [active, mode, last]
    exact mirrored.recorded

-- A transfer that is forgotten leaves its image in the registers.
theorem mirrored_of_forgotten {before : Controller Board} (mirrored : Mirrored agrees before) :
    Mirrored agrees (Readiness.forgetTransfer before) := by
  refine ⟨mirrored.unmarked, mirrored.shows, mirrored.offset, ?_, fun active => ?_⟩
  · simp [Readiness.forgetTransfer]
  · cases active

theorem check_mirrors : Preserves (Mirrored agrees) (Readiness.check : BridgeM Board Readiness) := by
  intro before mirrored
  have apart := Board.not_mem_of_apart (show Board.apart Readiness.registers mirrors = true by decide +kernel)
  have shown : (ending (Readiness.check before)).bus.shown mirrors = before.bus.shown mirrors :=
    keeps_ending (keeps_spared Readiness.check_records (Board.spares_shown apart fun _ _ _ => False.elim)) before
  rcases Readiness.check_settles before with kept | forgot
  · have same := congrArg (fun rest => fields rest.2.1) kept
    exact mirrored_of_tied before _ (Prod.ext shown same) mirrored
  · have same := congrArg (fun rest => fields rest.2.1) forgot
    exact mirrored_of_tied (Readiness.forgetTransfer before) _ (Prod.ext shown same) (mirrored_of_forgotten mirrored)

-- Programming either never begins or is followed through.
theorem program_mirrors (flags : TransferFlags) (channel : Byte) {before : Controller Board}
    (mirrored : Mirrored agrees before) :
    (∃ transfer after, program flags channel before = .ok transfer after ∧ Mirrored agrees (started after)) ∨
      ∃ after, program flags channel before = .error unready after ∧ Mirrored agrees after := by
  have waits := wait_for_ends Reg.Dma.ready Reg.Dma.readyIdle before
  let waited : Controller Board := { before with bus := (Bus.wait before.bus Reg.Dma.ready Reg.Dma.readyIdle .forever).2 }
  have shown : waited.bus.shown mirrors = before.bus.shown mirrors := Board.shown_wait (by decide +kernel) Reg.Dma.readyIdle .forever
  have idle : Mirrored agrees waited := mirrored_of_tied before waited (Prod.ext shown rfl) mirrored
  cases ready : (Bus.wait before.bus Reg.Dma.ready Reg.Dma.readyIdle .forever).1 with
  | true =>
      rw [if_pos ready] at waits
      obtain ⟨bus, transfer, after, programs, stored⟩ := program_idle_stores flags channel idle.unmarked
      exact .inl ⟨transfer, after, (bind_of_ok waits _).trans programs, mirrored_of_stored idle stored⟩
  | false =>
      rw [if_neg (Bool.eq_false_iff.mp ready)] at waits
      exact .inr ⟨waited, bind_of_error waits _, idle⟩

-- From where the second buffer is resolved, the register and the state tell the same offset.
theorem resolve_settles (secondary : Byte) {before : Controller Board} (mirrored : Mirrored agrees before) :
    Mirrored Eq (ending (resolveSecondary secondary before)) := by
  let buffer := SecondaryBuffer.ofStatus secondary
  let offset := buffer.offset + (secondary >>> 4)
  let second := Bus.write (Bus.write before.bus Reg.Dma.secondLow buffer.low) Reg.Dma.secondHigh buffer.high
  let after : Controller Board :=
    { before with
      bus := Bus.write second Reg.Dma.bufferOffset offset
      state := { before.state with bufferOffset := offset } }
  have shown : second.shown mirrors = before.bus.shown mirrors :=
    (Board.shown_write (by decide +kernel) _).trans (Board.shown_write (by decide +kernel) _)
  have same := Board.shown_eq_iff.mp shown
  have plain : Reg.Dma.bufferOffset ∉ second.oneToClear := mirrored.unmarked _ (by decide)
  have written : after.bus.peek Reg.Dma.bufferOffset = after.state.bufferOffset := Board.peek_write plain offset
  change Mirrored Eq after
  refine ⟨mirrored.unmarked, fun transfer recorded => ?_, written, mirrored.active, mirrored.recorded⟩
  obtain ⟨kind, image⟩ := mirrored.shows transfer recorded
  refine ⟨kind, fun entry member => ?_⟩
  have address := List.mem_map_of_mem (f := Prod.fst) member
  have apart : Reg.Dma.bufferOffset ≠ entry.1 := fun here => transfer.offset_outside (here ▸ address)
  have kept : after.bus.peek entry.1 = before.bus.peek entry.1 :=
    (Board.peek_write_other apart offset).trans (same entry.1 (transfer.image_mirrors _ address)).1
  exact kept.trans (image entry member)

end Transfer

namespace Submission

variable {agrees : Byte → Byte → Prop}

theorem queue_apart : ∀ address ∈ queueRegisters, address ∉ Transfer.mirrors :=
  Board.not_mem_of_apart (by decide +kernel)

-- The stages of the queue change neither the registers of the engine nor what is recorded of it.
theorem preserves_beside_queue {α : Type} {recorded : BridgeM (Recorder Board) α} {step : BridgeM Board α}
    (records : Records (· ∈ queueRegisters) (fun _ _ _ => False) recorded step) (kept : Keeps offQueue never step) :
    Preserves (Transfer.Mirrored agrees) step :=
  preserves_apart Transfer.mirrored_of_tied records queue_apart (keeps_coarser kept fun rest => Transfer.fields rest.2.1)

theorem transfer_and_hand_off_programs (flags : TransferFlags) (index : SlotIndex) :
    Preserves (Transfer.Mirrored agrees) (transferAndHandOff flags index : BridgeM Board Unit) := by
  intro before mirrored
  unfold transferAndHandOff
  rcases Transfer.program_mirrors flags index.toByte mirrored with ⟨transfer, after, programmed, running⟩ | ⟨after, stalled, idle⟩
  · rw [bind_of_ok programmed, bind_modify_state]
    exact preserves_beside_queue hand_off_records (hand_off_keeps never) (Transfer.started after) running
  · rw [bind_of_error stalled]
    exact idle

theorem fill_programs (index : SlotIndex) (param1 : Byte) (slot : Slot) :
    Preserves (Transfer.Mirrored agrees) (fill index param1 slot : BridgeM Board Unit) := by
  refine preserves_bind (preserves_beside_queue load_counts_records ⟨fun _ => rfl⟩) fun _ => ?_
  refine preserves_bind (preserves_beside_queue (arm_burst_records _) (arm_burst_keeps never _)) fun _ => ?_
  exact preserves_beside_queue (fill_slot_records _ _) ⟨fun _ => rfl⟩

-- How the offset agrees once an action is taken up: a simple one writes the register and records the byte.
def settledBy (agrees : Byte → Byte → Prop) (action : Action) : Byte → Byte → Prop :=
  if action.isExtended then agrees else Eq

variable {before : Controller Board}

theorem settle_programs (index : SlotIndex) (slot : Slot) (action : Action) (mirrored : Transfer.Mirrored agrees before) :
    Transfer.Mirrored (settledBy agrees action) (ending (settle index slot action before)) := by
  unfold settle settledBy
  cases action.isExtended with
  | true =>
      rw [if_pos rfl, if_pos rfl]
      have updates : Preserves (Transfer.Mirrored agrees)
          (modifyByte Reg.Backend.queueControl 0 Reg.Backend.queueSecondaryUpdate : BridgeM Board Unit) :=
        preserves_beside_queue (records_modify _ _ (by decide +kernel)) ⟨fun _ => rfl⟩
      refine holds_after_bind (Transfer.mirrored_of_tied before _ rfl mirrored) fun _ => preserves_bind updates fun _ => ?_
      refine preserves_bind (fun _ => id) fun head => ?_
      refine preserves_bind (fun before => Transfer.mirrored_of_tied before _ rfl) fun _ => ?_
      exact preserves_beside_queue record_submission_records (record_submission_keeps never)
  | false =>
      rw [if_neg Bool.false_ne_true, if_neg Bool.false_ne_true]
      have windows (needed : Byte) : Preserves (Transfer.Mirrored agrees) (settleWindow index needed slot.byteCount) :=
        preserves_beside_queue (settle_window_records _ _ _) (settle_window_keeps never _ _ _)
      have picks (primary : Byte) : Keeps Controller.bus never (Transfer.selectBuffer primary : BridgeM Board Address) :=
        ⟨fun _ => rfl⟩
      refine holds_after_answer (settle_window_keeps never _ _ _) (windows _ before mirrored) fun _ settled kept => ?_
      rw [bind_read]
      refine holds_after_answer (picks _) (Transfer.mirrored_of_tied settled _ rfl kept) fun _ picked kept => ?_
      exact holds_after_bind (Transfer.resolve_settles _ kept) fun _ _ => id

theorem prepare_programs (index : SlotIndex) (param1 param2 : Byte) (action : Action) (mirrored : Transfer.Mirrored agrees before) :
    Transfer.Mirrored (settledBy agrees action) (ending (prepare index param1 param2 action before)) := by
  refine holds_after_answer (fill_keeps _ _ _) (fill_programs index param1 _ before mirrored) fun _ filled kept => ?_
  rw [bind_read]
  exact holds_after_bind (settle_programs index _ action kept) fun _ _ => id

theorem accept_programs (index : SlotIndex) (param1 param2 : Byte) (action : Action) (mirrored : Transfer.Mirrored agrees before) :
    Transfer.Mirrored (settledBy agrees action) (ending (accept index param1 param2 action before)) := by
  have answers : Preserves (Transfer.Mirrored (settledBy agrees action)) (answer action : BridgeM Board Submission) := by
    intro prepared kept
    obtain ⟨submission, answered, -⟩ := prepared_answers action prepared
    rwa [answered]
  rw [accept_prepares]
  refine holds_after_bind (prepare_programs index param1 param2 action mirrored) fun flags => ?_
  exact preserves_bind (transfer_and_hand_off_programs flags index) fun _ => answers

theorem agrees_of_settled [Std.Refl agrees] {action : Action} {shown recorded : Byte}
    (settled : settledBy agrees action shown recorded) : agrees shown recorded := by
  unfold settledBy at settled
  cases extended : action.isExtended with
  | true => rwa [if_pos extended] at settled
  | false =>
      rw [if_neg (Bool.eq_false_iff.mp extended)] at settled
      exact of_eq settled

end Submission

namespace Transfer

variable {agrees : Byte → Byte → Prop}

theorem mirrors_between {address : Address} (member : address ∈ mirrors) :
    0xB000 ≤ address.toNat ∧ address.toNat < 0xB018 := by
  have all : mirrors.all (fun address => 0xB000 ≤ address.toNat ∧ address.toNat < 0xB018) = true := by decide +kernel
  exact of_decide_eq_true (List.all_eq_true.mp all address member)

theorem completion_apart (address : Address) (touched : Controller.CompletionTouches address) : address ∉ mirrors := by
  intro member
  have inside := mirrors_between member
  have outside := Controller.completion_touches_to_nat touched
  omega

theorem handle_mirrors (event : Byte) : Preserves (Mirrored agrees) (Completion.handle event : BridgeM Board Completion) :=
  preserves_apart mirrored_of_tied (Completion.handle_records event) completion_apart
    (keeps_coarser (Completion.handle_keeps event) fun rest => fields rest.2.1)

theorem mirrored_lasts [Std.Refl agrees] : Lasting mirrors (Mirrored agrees) :=
  { framed := fun before after same => by
      have shown := congrArg Prod.fst same
      have rest := congrArg (fun tied =>
        (tied.2.lastTransfer, tied.2.bufferOffset, tied.2.transferActive, tied.2.dmaMode)) same
      exact mirrored_of_tied before after (Prod.ext shown rest)
    checked := check_mirrors
    accepted := fun before param1 param2 action mirrored => by
      have settled := Submission.accept_programs before.state.ring.index param1 param2 action mirrored
      exact { settled with offset := Submission.agrees_of_settled settled.offset }
    completed := handle_mirrors
    apart := Board.not_mem_of_apart (show Board.apart Endpoint.registers mirrors = true by decide +kernel) }

end Transfer

-- What the registers of the engine show of a transfer.
structure Board.ShowsTransfer (board : Board) (transfer : Transfer) : Prop where
  source : Address.ofBytes (board.peek Reg.Dma.sourceLow) (board.peek Reg.Dma.sourceHigh) = transfer.base
  destination : Address.ofBytes (board.peek Reg.Dma.destinationLow) (board.peek Reg.Dma.destinationHigh) = transfer.base
  mode : board.peek Reg.Dma.mode = transfer.mode
  tags : ∀ i < Reg.Dma.tagLength, board.peek (Reg.Dma.tag + UInt16.ofNat i) = 0
  trailer : board.peek Reg.Dma.trailer = 0
  bufferMode : board.peek Reg.Dma.bufferMode = transfer.bufferMode
  length : (transfer.bufferMode = 0x04 ∧ board.peek Reg.Dma.length = transfer.length) ∨
    (transfer.bufferMode = 0x03 ∧ transfer.length = 0)

theorem Board.shows_of_image {board : Board} {transfer : Transfer} (kind : transfer.HasKind)
    (image : ∀ entry ∈ transfer.image, board.peek entry.1 = entry.2) : board.ShowsTransfer transfer := by
  have register (address : Address) (value : Byte) (member : (address, value) ∈ transfer.image) : board.peek address = value :=
    image (address, value) member
  refine ⟨?_, ?_, ?_, fun i bound => ?_, ?_, ?_, ?_⟩
  · rw [register Reg.Dma.sourceLow transfer.base.low (by simp [Transfer.image, Transfer.addressImage]),
      register Reg.Dma.sourceHigh transfer.base.high (by simp [Transfer.image, Transfer.addressImage])]
    exact Address.ofBytes_low_high transfer.base
  · rw [register Reg.Dma.destinationLow transfer.base.low (by simp [Transfer.image, Transfer.addressImage]),
      register Reg.Dma.destinationHigh transfer.base.high (by simp [Transfer.image, Transfer.addressImage])]
    exact Address.ofBytes_low_high transfer.base
  · exact register _ _ (by simp [Transfer.image])
  · have tag : (Reg.Dma.tag + UInt16.ofNat i, 0) ∈ Transfer.tagImage :=
      List.mem_append_left _ (List.mem_map_of_mem (List.mem_range.mpr bound))
    exact register _ _ (by simp [Transfer.image, tag])
  · exact register _ _ (by simp [Transfer.image, Transfer.tagImage])
  · exact register _ _ (by simp [Transfer.image, Transfer.bufferImage])
  · refine kind.imp_left fun extended => ⟨extended, ?_⟩
    exact register _ _ (by simp [Transfer.image, Transfer.bufferImage, extended, Reg.Dma.bufferExtended])

end StorageBridge
