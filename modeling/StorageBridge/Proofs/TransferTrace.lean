import StorageBridge.Proofs.EndpointTrace
import StorageBridge.Proofs.TransferMirror
import StorageBridge.Proofs.Watches

/-!
What an action that is taken does at the registers of its address. The check may drop a flag there;
then the flags are read, the address is read from the hardware unless the buffers are mirrored, and
both address pairs and the mode are written. Everything else that a pass does stays away from them.
-/

set_option autoImplicit false

namespace StorageBridge

open BridgeM

variable {η β : Type} [Bus β]

-- the registers that decide the address of a transfer, and those that take it
def Transfer.addressRegisters : List Address :=
  [Reg.Transport.flags, Reg.Dma.hardwareLow, Reg.Dma.hardwareHigh, Reg.Dma.sourceLow, Reg.Dma.sourceHigh,
    Reg.Dma.destinationLow, Reg.Dma.destinationHigh, Reg.Dma.mode]

open Transfer (addressRegisters)

namespace Readiness

theorem check_rolling_avoids : Avoids addressRegisters (checkRolling : BridgeM β Readiness) := by
  refine avoids_bind (avoids_read (by decide)) fun status => ?_
  dsimp only
  split
  · exact avoids_silent fun _ => rfl
  · exact avoids_silent fun _ => rfl

theorem recover_link_avoids : Avoids addressRegisters (recoverLink : BridgeM β Bool) := by
  refine avoids_bind (avoids_write _ (by decide)) fun _ => avoids_bind (avoids_wait _ (by decide)) fun _ => ?_
  refine avoids_bind (avoids_write _ (by decide)) fun _ => avoids_bind (avoids_read (by decide)) fun _ => ?_
  exact avoids_silent fun _ => rfl

theorem check_drained_avoids : Avoids addressRegisters (checkDrained : BridgeM β Readiness) := by
  refine avoids_bind (avoids_silent fun _ => rfl) fun state => ?_
  split
  · exact avoids_silent fun _ => rfl
  · split
    · exact check_rolling_avoids
    · refine avoids_bind recover_link_avoids fun up => ?_
      split
      · exact check_rolling_avoids
      · exact avoids_silent fun _ => rfl

theorem check_busy_avoids (depth : Option Byte) : Avoids addressRegisters (checkBusy depth : BridgeM β Readiness) := by
  refine avoids_bind (avoids_silent fun _ => rfl) fun state => ?_
  have decided (busy : Bool) : Avoids addressRegisters
      (if busy then pure .inProgress
        else if depth = some Reg.Backend.depthDrained then checkDrained else checkRolling : BridgeM β Readiness) := by
    split
    · exact avoids_silent fun _ => rfl
    · split
      · exact check_drained_avoids
      · exact check_rolling_avoids
  dsimp only
  split
  · exact decided false
  · exact avoids_bind (avoids_read (by decide)) fun _ => decided _

theorem check_depth_avoids : Avoids addressRegisters (checkDepth : BridgeM β Readiness) := by
  refine avoids_bind (avoids_read (by decide)) fun depth => ?_
  split
  · exact avoids_silent fun _ => rfl
  · exact check_busy_avoids _

-- what the check does to the flags once it has looked at the link
def gated (command : Bool) (looked : β) : β :=
  if command then Bus.modify looked Reg.Transport.flags Reg.Transport.secondary 0 else looked

def gateEffects (command : Bool) (shown : Byte) : List Effect :=
  if command then
    [.operation (.read Reg.Transport.flags shown),
      .operation (.write Reg.Transport.flags (shown.revise Reg.Transport.secondary 0))]
  else []

theorem gated_seen (command : Bool) (looked : Recorder β) :
    (gated command looked).seenAt addressRegisters =
      looked.seenAt addressRegisters ++ gateEffects command (Bus.read looked Reg.Transport.flags).1 := by
  unfold gated gateEffects
  cases command with
  | true =>
      refine (Recorder.seen_at_write (by decide) (Bus.read looked Reg.Transport.flags).2 _).trans ?_
      rw [Recorder.seen_at_read (by decide), List.append_assoc]
      rfl
  | false => exact (List.append_nil _).symm

theorem look_at_link_gates (before : Controller β) :
    ∃ looked, Roams addressRegisters before.bus looked ∧
      Roams addressRegisters (gated before.state.commandActive looked) (ending (lookAtLink before)).bus := by
  let looked := (Bus.read before.bus Reg.Backend.linkStatus).2
  have looks : linkIsUp before = .ok (linkSeen before) { before with bus := looked } := rfl
  refine ⟨looked, .read _ (by decide) .refl, ?_⟩
  unfold lookAtLink
  rw [bind_of_ok looks, bind_get_state]
  change Roams _ _ (ending ((if before.state.commandActive = true then _ else _ : BridgeM β Readiness) _)).bus
  cases command : before.state.commandActive with
  | true =>
      have goesOn : Avoids addressRegisters (if linkSeen before then checkDepth else checkBusy none : BridgeM β Readiness) := by
        split
        · exact check_depth_avoids
        · exact check_busy_avoids _
      exact goesOn.ends { before with bus := gated true looked }
  | false =>
      have goesOn : Avoids addressRegisters
          (if linkSeen before then checkDepth else refuse .notReady .linkDown : BridgeM β Readiness) := by
        split
        · exact check_depth_avoids
        · exact avoids_silent fun _ => rfl
      exact goesOn.ends { before with bus := looked }

theorem check_gates (before : Controller β) (unfaulted : before.state.fault = false) :
    ∃ looked, Roams addressRegisters before.bus looked ∧
      Roams addressRegisters (gated before.state.commandActive looked) (ending (check before)).bus := by
  obtain ⟨_, _, ended⟩ := check_ends before
  rw [ended, evaluate_of_unfaulted unfaulted]
  exact look_at_link_gates (forgetTransfer before)

end Readiness

namespace Submission

-- the buffers that are mirrored once an action is taken
def bufferWindow (current : Address) (action : Action) : Address :=
  if action.isExtended then current else if action.isInbound then Reg.Buffer.alternate else Reg.Buffer.main

theorem slot_registers_apart (index : SlotIndex) :
    index.registers + Reg.Backend.slotControl ∉ addressRegisters ∧
      index.registers + Reg.Backend.slotCount ∉ addressRegisters ∧
      index.registers + Reg.Backend.slotStatus ∉ addressRegisters := by
  revert index
  decide +kernel

theorem record_submission_avoids : Avoids addressRegisters (recordSubmission : BridgeM β Unit) := by
  refine avoids_bind (avoids_silent fun _ => rfl) fun state => ?_
  split
  · exact avoids_silent fun _ => rfl
  · exact avoids_silent fun _ => rfl

theorem fill_avoids (index : SlotIndex) (param1 : Byte) (slot : Slot) :
    Avoids addressRegisters (fill index param1 slot : BridgeM β Unit) := by
  have loads : Avoids addressRegisters (loadCounts : BridgeM β Unit) := by
    refine avoids_bind (avoids_modify _ _ (by decide)) fun _ => avoids_bind (avoids_silent fun _ => rfl) fun _ => ?_
    exact avoids_bind (avoids_write _ (by decide)) fun _ => avoids_write _ (by decide)
  have arms : Avoids addressRegisters (armBurst param1 : BridgeM β Unit) := by
    refine avoids_bind (avoids_silent fun _ => rfl) fun state => ?_
    split
    · exact avoids_silent fun _ => rfl
    · exact avoids_bind (avoids_silent fun _ => rfl) fun _ => avoids_modify _ _ (by decide)
  obtain ⟨control, count, -⟩ := slot_registers_apart index
  refine avoids_bind loads fun _ => avoids_bind arms fun _ => avoids_bind (avoids_silent fun _ => rfl) fun _ => ?_
  exact avoids_bind (avoids_write _ control) fun _ => avoids_write _ count

theorem settle_window_avoids (index : SlotIndex) (needed byteCount : Byte) :
    Avoids addressRegisters (settleWindow index needed byteCount : BridgeM β Unit) := by
  obtain ⟨control, -, status⟩ := slot_registers_apart index
  unfold settleWindow
  split
  · refine avoids_bind (avoids_silent fun _ => rfl) fun _ => avoids_bind (avoids_write _ control) fun _ => ?_
    exact avoids_modify _ _ status
  · exact avoids_bind record_submission_avoids fun _ => avoids_modify _ _ status

theorem settle_avoids (index : SlotIndex) (slot : Slot) (action : Action) :
    Avoids addressRegisters (settle index slot action : BridgeM β Unit) := by
  unfold settle
  split
  · refine avoids_bind (avoids_silent fun _ => rfl) fun _ => avoids_bind (avoids_modify _ _ (by decide)) fun _ => ?_
    refine avoids_bind (avoids_read (by decide)) fun head => avoids_bind (avoids_silent fun _ => rfl) fun _ => ?_
    exact record_submission_avoids
  · refine avoids_bind (settle_window_avoids _ _ _) fun _ => avoids_bind (avoids_read (by decide)) fun secondary => ?_
    refine avoids_bind (avoids_silent fun _ => rfl) fun _ => avoids_bind ?_ fun _ => avoids_silent fun _ => rfl
    refine avoids_bind (avoids_write _ (by decide)) fun _ => avoids_bind (avoids_write _ (by decide)) fun _ => ?_
    exact avoids_bind (avoids_write _ (by decide)) fun _ => avoids_silent fun _ => rfl

theorem settle_picks (index : SlotIndex) (slot : Slot) (action : Action) (before : Controller β) :
    ∃ after, settle index slot action before = .ok () after ∧
      after.state.bufferBase = bufferWindow before.state.bufferBase action := by
  by_cases extended : action.isExtended = true
  · let base (controller : Controller β) := controller.state.bufferBase
    have counts : Keeps base never (recordSubmission : BridgeM β Unit) :=
      keeps_coarser (record_submission_keeps never) fun rest => rest.2.1.bufferBase
    have kept : Keeps base never (settle index slot action : BridgeM β Unit) := by
      unfold settle
      rw [if_pos extended]
      refine keeps_bind ⟨fun _ => rfl⟩ fun _ => keeps_bind ⟨fun _ => rfl⟩ fun _ => keeps_bind ⟨fun _ => rfl⟩ fun head => ?_
      exact keeps_bind ⟨fun _ => rfl⟩ fun _ => counts
    obtain ⟨_, after, settled, same⟩ := keeps_answers kept before
    exact ⟨after, settled, same.trans (if_pos extended).symm⟩
  · let needed := windowClass action.isInbound + slot.control.window
    obtain ⟨_, windowed, settles, kept⟩ := keeps_answers (settle_window_keeps never index needed slot.byteCount) before
    unfold settle bufferWindow
    rw [if_neg extended, if_neg extended, bind_of_ok settles]
    refine ⟨_, rfl, ?_⟩
    cases action.isInbound with
    | true => rfl
    | false => rfl

omit [Bus β] in
theorem mirrored_flags (action : Action) (raw : Byte) : (flagsFor action raw).isMirrored = raw.meets 0x06 := by
  have table : ∀ byte : Fin 256,
      (TransferFlags.ofByte (UInt8.ofFin byte)).withExtended.isMirrored = Byte.meets (UInt8.ofFin byte) 0x06 ∧
        (TransferFlags.ofByte (UInt8.ofFin byte)).withoutExtended.isMirrored = Byte.meets (UInt8.ofFin byte) 0x06 := by
    decide +kernel
  unfold flagsFor
  split
  · exact (table raw.toFin).1
  · exact (table raw.toFin).2

-- The flags are read once the slot is filled, and nothing else is looked at.
theorem prepare_reads (index : SlotIndex) (param1 param2 : Byte) (action : Action) (before : Controller β) :
    ∃ filled after,
      prepare index param1 param2 action before = .ok (flagsFor action (Bus.read filled Reg.Transport.flags).1) after ∧
      Roams addressRegisters before.bus filled ∧
      Roams addressRegisters (Bus.read filled Reg.Transport.flags).2 after.bus ∧
      after.state.bufferBase = bufferWindow before.state.bufferBase action := by
  let slot : Slot := { control := .forAction action (param1 >>> 5), byteCount := param2 }
  obtain ⟨_, filled, fills, same⟩ := keeps_answers (fill_keeps index param1 slot) before
  let seen := Bus.read filled.bus Reg.Transport.flags
  obtain ⟨after, settles, base⟩ := settle_picks index slot action { filled with bus := seen.2 }
  have kept : filled.state.bufferBase = before.state.bufferBase := congrArg (fun rest => rest.2.1.bufferBase) same
  refine ⟨filled.bus, after, ?_, avoids_ok (fill_avoids index param1 slot) fills,
    avoids_ok (settle_avoids index slot action) settles, by rw [base, kept]⟩
  unfold prepare
  rw [bind_of_ok fills, bind_read, bind_of_ok settles]
  rfl

end Submission

namespace Transfer

def hardwareReads (low high : Byte) : List Effect :=
  [.operation (.read Reg.Dma.hardwareLow low), .operation (.read Reg.Dma.hardwareHigh high)]

-- Where the mode and the address of a transfer come from, with what is read for them.
inductive Sourced (mirrored : Bool) (window : Address) (channel : Byte) : Byte → Address → List Effect → Prop where
  | window (asked : mirrored = true) : Sourced mirrored window channel Reg.Dma.modeMirrored window []
  | hardware (low high : Byte) (unasked : mirrored = false) :
      Sourced mirrored window channel (channel ||| Reg.Dma.modeDirect) (Address.ofBytes low high) (hardwareReads low high)

theorem Sourced.of_mirrored {mirrored : Bool} {window base : Address} {channel mode : Byte} {read : List Effect}
    (sourced : Sourced mirrored window channel mode base read) (asked : mirrored = true) :
    read = [] ∧ base = window ∧ mode = Reg.Dma.modeMirrored := by
  cases sourced with
  | window _ => exact ⟨rfl, rfl, rfl⟩
  | hardware low high unasked => cases asked.symm.trans unasked

theorem Sourced.of_direct {mirrored : Bool} {window base : Address} {channel mode : Byte} {read : List Effect}
    (sourced : Sourced mirrored window channel mode base read) (unasked : mirrored = false) :
    ∃ low high, read = hardwareReads low high ∧ base = Address.ofBytes low high ∧
      mode = channel ||| Reg.Dma.modeDirect := by
  cases sourced with
  | window asked => cases asked.symm.trans unasked
  | hardware low high _ => exact ⟨low, high, rfl, rfl, rfl⟩

def stores (entries : List (Address × Byte)) : List Effect :=
  entries.map fun entry => .operation (.write entry.1 entry.2)

-- what is written of a transfer, with its mode once more each time the engine is armed again
def programming (transfer : Transfer) (again : Nat) : List Effect :=
  stores (addressImage transfer.base) ++ stores (List.replicate (again + 1) (Reg.Dma.mode, transfer.mode))

def seen (controller : Controller (Recorder β)) : List Effect :=
  controller.bus.seenAt addressRegisters

theorem seen_of_avoiding {α : Type} {step : BridgeM (Recorder β) α} {before after : Controller (Recorder β)} {value : α}
    (avoids : Avoids addressRegisters step) (ended : step before = .ok value after) : seen after = seen before :=
  Recorder.roams_seen (avoids_ok avoids ended)

theorem source_seen (flags : TransferFlags) (channel : Byte) (before : Controller (Recorder β)) :
    ∃ mode base sourced after, source flags channel before = .ok (mode, base) after ∧ after.state = before.state ∧
      Sourced flags.isMirrored before.state.bufferBase channel mode base sourced ∧ seen after = seen before ++ sourced := by
  unfold source
  cases mirrored : flags.isMirrored with
  | true => exact ⟨_, _, [], before, rfl, rfl, .window rfl, (List.append_nil _).symm⟩
  | false =>
      let arranged := Bus.modify before.bus Reg.Dma.control (~~~Reg.Dma.controlKeep) (channel &&& ~~~Reg.Dma.controlKeep)
      have roamed : Roams addressRegisters before.bus arranged := .write _ _ (by decide) (.read _ (by decide) .refl)
      refine ⟨_, _, _, _, rfl, rfl, .hardware _ _ rfl, ?_⟩
      change (Bus.read (Bus.read arranged Reg.Dma.hardwareLow).2 Reg.Dma.hardwareHigh).2.seenAt addressRegisters = _
      rw [Recorder.seen_at_read (by decide), Recorder.seen_at_read (by decide), Recorder.roams_seen roamed, List.append_assoc]
      rfl

theorem write_addresses_seen (base : Address) (before : Controller (Recorder β)) :
    ∃ bus, writeAddresses base before = .ok () { before with bus } ∧
      seen { before with bus } = seen before ++ stores (addressImage base) := by
  refine ⟨_, rfl, ?_⟩
  unfold seen
  iterate 4 rw [Recorder.seen_at_write (by decide)]
  simp [stores, addressImage]

theorem write_mode_seen (mode : Byte) (before : Controller (Recorder β)) :
    ∃ after, writeMode mode before = .ok () after ∧ seen after = seen before ++ stores [(Reg.Dma.mode, mode)] :=
  ⟨_, rfl, Recorder.seen_at_write (by decide) before.bus mode⟩

theorem clear_tags_avoids : Avoids addressRegisters (clearTags : BridgeM β Unit) := by
  have apart : ∀ i ∈ List.range Reg.Dma.tagLength, Reg.Dma.tag + UInt16.ofNat i ∉ addressRegisters := by decide
  exact avoids_bind (avoids_for_each _ fun i member => avoids_write _ (apart i member)) fun _ => avoids_write _ (by decide)

-- An engine that is armed again gets its mode once more.
theorem buffer_stage_seen (flags : TransferFlags) (base : Address) {mode : Byte}
    (mirrored : flags.isSecondary = true → mode = Reg.Dma.modeMirrored) (before : Controller (Recorder β)) :
    ∃ transfer after again,
      (if flags.isExtended then writeExtended base mode else writeNormal flags base mode) before = .ok transfer after ∧
        transfer.base = base ∧ transfer.mode = mode ∧
        seen after = seen before ++ stores (List.replicate again (Reg.Dma.mode, mode)) := by
  cases flags.isExtended with
  | true =>
      have avoids : Avoids addressRegisters (writeExtended base mode : BridgeM (Recorder β) Transfer) := by
        refine avoids_bind (avoids_silent fun _ => rfl) fun state => avoids_bind (avoids_write _ (by decide)) fun _ => ?_
        exact avoids_bind (avoids_write _ (by decide)) fun _ => avoids_silent fun _ => rfl
      have ended : writeExtended base mode before = .ok _ _ := rfl
      exact ⟨_, _, 0, ended, rfl, rfl, (seen_of_avoiding avoids ended).trans (List.append_nil _).symm⟩
  | false =>
      let buffered := Bus.write before.bus Reg.Dma.bufferMode Reg.Dma.bufferNormal
      have roamed : Roams addressRegisters before.bus buffered := .write _ _ (by decide) .refl
      by_cases arms : (!before.state.transferActive && flags.isSecondary) = true
      · have same := mirrored (Bool.and_eq_true_iff.mp arms).2
        let armed := Bus.write buffered Reg.Dma.mode Reg.Dma.modeMirrored
        have ended : writeNormal flags base mode before =
            .ok { base, length := 0, mode := Reg.Dma.modeMirrored, bufferMode := Reg.Dma.bufferNormal }
              { before with
                bus := Bus.modify armed Reg.Dma.status 0 Reg.Dma.statusMarker
                state := { before.state with dmaMode := Reg.Dma.modeMirrored } } := congrFun (if_pos arms) _
        have marked : Roams addressRegisters armed (Bus.modify armed Reg.Dma.status 0 Reg.Dma.statusMarker) :=
          .write _ _ (by decide) (.read _ (by decide) .refl)
        refine ⟨_, _, 1, ended, rfl, same.symm, ?_⟩
        unfold seen
        rw [Recorder.roams_seen marked, Recorder.seen_at_write (by decide), Recorder.roams_seen roamed, same]
        rfl
      · have ended : writeNormal flags base mode before =
            .ok { base, length := 0, mode, bufferMode := Reg.Dma.bufferNormal } { before with bus := buffered } :=
          congrFun (if_neg arms) _
        exact ⟨_, _, 0, ended, rfl, rfl, (Recorder.roams_seen roamed).trans (List.append_nil _).symm⟩

theorem mode_of_secondary {flags : TransferFlags} {window base : Address} {channel mode : Byte} {sourced : List Effect}
    (sources : Sourced flags.isMirrored window channel mode base sourced) (secondary : flags.isSecondary = true) :
    mode = Reg.Dma.modeMirrored :=
  (sources.of_mirrored (mirrored_is_secondary secondary)).2.2

theorem program_idle_seen (flags : TransferFlags) (channel : Byte) (before : Controller (Recorder β)) :
    ∃ transfer sourced again after, programIdle flags channel before = .ok transfer after ∧
      Sourced flags.isMirrored before.state.bufferBase channel transfer.mode transfer.base sourced ∧
      seen after = seen before ++ sourced ++ programming transfer again ∧
      after.state.lastTransfer = some transfer := by
  obtain ⟨mode, base, sourced, read, sourcing, -, sources, readSeen⟩ := source_seen flags channel before
  obtain ⟨bus, addressing, addressed⟩ := write_addresses_seen base read
  obtain ⟨moded, moding, modeSeen⟩ := write_mode_seen mode { read with bus }
  obtain ⟨_, tagged, clearing, -⟩ := keeps_answers (clear_tags_keeps never) moded
  have tagsSeen := seen_of_avoiding clear_tags_avoids clearing
  obtain ⟨transfer, buffered, again, buffering, rfl, rfl, bufferSeen⟩ :=
    buffer_stage_seen flags base (mode_of_secondary sources) tagged
  let after : Controller (Recorder β) := { buffered with
    state := { buffered.state with lastTransfer := some transfer }
    log := buffered.log.push (.transferProgrammed transfer) }
  refine ⟨transfer, sourced, again, after, ?_, sources, ?_, rfl⟩
  · unfold programIdle
    rw [bind_of_ok sourcing]
    dsimp only
    rw [bind_of_ok addressing, bind_of_ok moding, bind_of_ok clearing]
    -- Both branches go on in the same way.
    cases extended : flags.isExtended with
    | true =>
        rw [extended] at buffering
        exact bind_of_ok buffering _
    | false =>
        rw [extended] at buffering
        exact bind_of_ok buffering _
  · change seen buffered = _
    rw [bufferSeen, tagsSeen, modeSeen, addressed, readSeen]
    simp [programming, stores, List.replicate_succ]

end Transfer

namespace Submission

open Transfer

theorem hand_off_avoids : Avoids addressRegisters (handOff : BridgeM β Unit) := by
  refine avoids_bind (avoids_silent fun _ => rfl) fun _ => avoids_bind (avoids_silent fun _ => rfl) fun state => ?_
  split
  · exact avoids_modify _ _ (by decide)
  · exact avoids_write _ (by decide)

theorem accept_seen {index : SlotIndex} {param1 param2 : Byte} {action : Action} {before after : Controller (Recorder β)}
    {submission : Submission} (accepted : accept index param1 param2 action before = .ok submission after) :
    ∃ filled transfer sourced again, Roams addressRegisters before.bus filled ∧
      Sourced ((Bus.read filled Reg.Transport.flags).1.meets 0x06) (bufferWindow before.state.bufferBase action) index.toByte
        transfer.mode transfer.base sourced ∧
      seen after = seen before ++ [.operation (.read Reg.Transport.flags (Bus.read filled Reg.Transport.flags).1)] ++
        sourced ++ programming transfer again ∧
      after.state.lastTransfer = some transfer := by
  obtain ⟨filled, prepared, prepares, first, second, base⟩ := prepare_reads index param1 param2 action before
  rw [accept_prepares, bind_of_ok prepares] at accepted
  obtain ⟨_, handed, transfers, answers⟩ := ok_of_bind accepted
  obtain ⟨_, engaged, programs, hands⟩ := ok_of_bind transfers
  obtain ⟨_, waited, waits, idle⟩ := ok_of_bind programs
  obtain ⟨transfer, sourced, again, _, programmed, sources, programSeen, last⟩ := program_idle_seen _ _ waited
  obtain ⟨-, rfl⟩ := EStateM.Result.ok.inj (programmed.symm.trans idle)
  obtain ⟨_, answered, -⟩ := prepared_answers action handed
  obtain ⟨-, rfl⟩ := EStateM.Result.ok.inj (answered.symm.trans answers)
  rw [bind_modify_state] at hands
  have spares : Keeps (fun controller => controller.state.bufferBase) (· = unready)
      (waitFor Reg.Dma.ready Reg.Dma.readyIdle : BridgeM (Recorder β) Unit) := keeps_wait (fun _ _ => rfl) _ _ rfl
  have kept : waited.state.bufferBase = prepared.state.bufferBase := keeps_ok spares waits
  have handSeen := seen_of_avoiding hand_off_avoids hands
  have waitSeen := seen_of_avoiding (avoids_wait _ (by decide)) waits
  have prepareSeen : seen prepared =
      seen before ++ [.operation (.read Reg.Transport.flags (Bus.read filled Reg.Transport.flags).1)] := by
    unfold seen
    rw [Recorder.roams_seen second, Recorder.seen_at_read (by decide), Recorder.roams_seen first]
  rw [mirrored_flags, kept, base] at sources
  refine ⟨filled, transfer, sourced, again, first, sources, ?_, ?_⟩
  · rw [handSeen]
    refine programSeen.trans ?_
    rw [waitSeen, prepareSeen]
  · exact (congrArg (fun rest => rest.2.1.lastTransfer) (keeps_ok (hand_off_keeps never) hands)).trans last

end Submission

namespace Endpoint

omit [Bus β] in
theorem round_apart (served : List Round) {left : Nat} {closing : List Effect} (closes : Closes left closing) :
    (served.flatMap Round.effects ++ closing).filter (Effect.concerns addressRegisters) = [] := by
  have status : Reg.Endpoint.status ∉ addressRegisters := by decide
  have groups (group : EndpointIndex) : Reg.Endpoint.base + UInt16.ofNat group.val ∉ addressRegisters := by
    revert group
    decide
  have last : closing.filter (Effect.concerns addressRegisters) = [] := by
    cases closes with
    | exhausted _ => rfl
    | noGroup _ => simp [Effect.concerns, status]
    | noEndpoint _ bitmap group _ => simp [Effect.concerns, status, groups group]
  rw [List.filter_append, last, List.append_nil]
  induction served with
  | nil => rfl
  | cons round rest ih =>
      rw [List.flatMap_cons, List.filter_append, ih, List.append_nil]
      simp [Round.effects, Round.lookup, Round.service, Round.register, Effect.concerns, status, groups round.group]

theorem service_seen {handler : EndpointHandler η β} {own own' : η} {endpoints : ServiceSummary}
    {before after : Controller (Recorder β)}
    (served : service handler.recorded own before = .ok (endpoints, own') after) :
    Transfer.seen after = Transfer.seen before := by
  obtain ⟨rounds, closing, _, last, finished, made, -, closes, -⟩ := rounds_effects handler serviceBudget own before
  obtain ⟨log, ended⟩ := service_ends finished
  obtain ⟨-, rfl⟩ := EStateM.Result.ok.inj (ended.symm.trans served)
  change last.bus.effects.reverse.filter _ = before.bus.effects.reverse.filter _
  rw [made, List.filter_append, round_apart rounds closes, List.append_nil]

end Endpoint

end StorageBridge
