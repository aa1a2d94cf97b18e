import StorageBridge.Proofs.Passes
import StorageBridge.Proofs.TransferLaw

/-!
Taking an action, operation by operation. The action and the ring decide which operations there are, and
what they read decides the bytes. An engine that stays busy cuts the list off at its wait.
-/

set_option autoImplicit false

namespace StorageBridge

open BridgeM

variable {β : Type}

namespace Submission

-- What taking an action reads: the device status, the queue control before each of its changes, the
-- flags of the host, the head, the status of the slot and of the backend, and what the transfer reads.
structure Sight where
  device : Byte := 0
  arming : Byte := 0
  flags : Byte := 0
  update : Byte := 0
  head : Byte := 0
  slotStatus : Byte := 0
  secondary : Byte := 0
  transfer : Transfer.Sight := {}
  closing : Byte := 0

def loading (core : Byte × Byte) (device : Byte) : List BusOp :=
  [.read Reg.Backend.deviceStatus device, .write Reg.Backend.deviceStatus (device.revise Reg.Backend.devicePending 0),
    .write Reg.Backend.countA core.1, .write Reg.Backend.countB core.2]

def arming (busy : Bool) (held : Byte) : List BusOp :=
  if busy then []
  else [.read Reg.Backend.queueControl held, .write Reg.Backend.queueControl (held.revise 0 Reg.Backend.queueBusy)]

def filling (index : SlotIndex) (slot : Slot) : List BusOp :=
  [.write (index.registers + Reg.Backend.slotControl) slot.control.bits,
    .write (index.registers + Reg.Backend.slotCount) slot.byteCount]

def updating (held head : Byte) : List BusOp :=
  [.read Reg.Backend.queueControl held,
    .write Reg.Backend.queueControl (held.revise 0 Reg.Backend.queueSecondaryUpdate), .read Reg.Backend.head head]

-- the status of a slot with the window noted in its field
def withWindow (request : Request) (held : Byte) : Byte :=
  held.revise Reg.Backend.slotStatusMask
    ((windowClass request.action.isInbound + request.slot.control.window) &&& Reg.Backend.slotStatusMask)

-- A slot that needs no command is emptied again before its window is noted.
def noting (request : Request) (index : SlotIndex) (held : Byte) : List BusOp :=
  (if request.needsCommand then [] else [.write (index.registers + Reg.Backend.slotControl) 0]) ++
    [.read (index.registers + Reg.Backend.slotStatus) held,
      .write (index.registers + Reg.Backend.slotStatus) (withWindow request held)]

def secondOffset (secondary : Byte) : Byte :=
  (SecondaryBuffer.ofStatus secondary).offset + (secondary >>> 4)

def resolving (secondary : Byte) : List BusOp :=
  [.read Reg.Backend.status secondary, .write Reg.Dma.secondLow (SecondaryBuffer.ofStatus secondary).low,
    .write Reg.Dma.secondHigh (SecondaryBuffer.ofStatus secondary).high,
    .write Reg.Dma.bufferOffset (secondOffset secondary)]

def settling (request : Request) (index : SlotIndex) (sight : Sight) : List BusOp :=
  if request.action.isExtended then updating sight.update sight.head
  else noting request index sight.slotStatus ++ resolving sight.secondary

-- all between the counts and the transfer
def queueing (request : Request) (state : State) (sight : Sight) : List BusOp :=
  arming state.ring.busy sight.arming ++ (filling state.ring.index request.slot ++
    .read Reg.Transport.flags sight.flags :: settling request state.ring.index sight)

def preparing (request : Request) (state : State) (sight : Sight) : List BusOp :=
  loading state.coreState sight.device ++ queueing request state sight

-- the state once the slot is filled
def placed (request : Request) (state : State) : State :=
  let armed := if state.ring.busy then state.ring else state.ring.arm (SlotIndex.wrap request.param1)
  { state with ring := armed.occupy request.slot }

-- A command is counted, and a slot that needs none is emptied again.
def counted (request : Request) (index : SlotIndex) (state : State) : State :=
  { state with
    ring := if request.needsCommand then state.ring.submitted else state.ring.clear index
    submitLog := if request.needsCommand then (state.submitLog + 1) &&& 0x1F else state.submitLog }

def routed (request : Request) (sight : Sight) (state : State) : State :=
  if request.action.isExtended then
    { state with
      secondaryUpdate := true
      indexDistance := (state.ring.index.distanceFrom (SlotIndex.wrap sight.head)).toByte }
  else
    { state with
      bufferBase := if request.action.isInbound then Reg.Buffer.alternate else Reg.Buffer.main
      bufferOffset := secondOffset sight.secondary }

-- the state once the action is prepared
def prepared (request : Request) (state : State) (sight : Sight) : State :=
  routed request sight (counted request state.ring.index (placed request state))

-- The last operation of an action: the next slot is issued, or the burst is over.
def handing (ring : CommandRing) (held : Byte) : List BusOp :=
  if ring.counter = 0 then
    [.read Reg.Backend.queueControl held, .write Reg.Backend.queueControl (held.revise Reg.Backend.queueBusy 0)]
  else [.write Reg.Backend.issue ring.issue.toByte]

def configuring (request : Request) (state : State) (sight : Sight) : List BusOp :=
  Transfer.operations (flagsFor request.action sight.flags) state.ring.index.toByte (prepared request state sight) sight.transfer

def transferOf (request : Request) (state : State) (sight : Sight) : Transfer :=
  Transfer.asked (flagsFor request.action sight.flags) state.ring.index.toByte (prepared request state sight)
    (Address.ofBytes sight.transfer.low sight.transfer.high)

def handed (request : Request) (state : State) (sight : Sight) : State :=
  let prepared := prepared request state sight
  let transfer := transferOf request state sight
  { prepared with ring := prepared.ring.step, transferActive := true, dmaMode := transfer.mode, lastTransfer := some transfer }

def finishing (request : Request) (state : State) (sight : Sight) : List BusOp :=
  Transfer.idling :: (configuring request state sight ++ handing (handed request state sight).ring sight.closing)

-- all operations of an action that is handed off
def taking (request : Request) (state : State) (sight : Sight) : List BusOp :=
  preparing request state sight ++ finishing request state sight

-- How taking an action ends: handed off, or at the wait for the engine.
inductive Taken (request : Request) (before : Controller β) [Bus β] : EStateM.Result Stall (Controller β) Submission → Prop where
  | handedOff (sight : Sight) (bus : β) (log : Array LogEvent)
      (path : Replays true before.bus (taking request before.state sight) bus) :
      Taken request before (.ok (if request.action.isExtended then .queued else .inProgress before.settings.inProgress)
        { before with bus, log, state := handed request before.state sight })
  | unready (sight : Sight) (bus : β) (log : Array LogEvent)
      (path : Replays false before.bus (preparing request before.state sight ++ [Transfer.idling]) bus) :
      Taken request before (.error Transfer.unready { before with bus, log, state := prepared request before.state sight })

section Stages

variable [Bus β]

theorem load_counts_replays (before : Controller β) : ∃ device bus,
    loadCounts before = .ok () { before with bus } ∧
      ∀ answered, Replays answered before.bus (loading before.state.coreState device) bus :=
  ⟨_, _, rfl, fun _ => ⟨rfl, rfl⟩⟩

theorem arm_burst_replays (param1 : Byte) (before : Controller β) : ∃ held bus,
    armBurst param1 before =
        .ok () { before with
          bus
          state := { before.state with
            ring := if before.state.ring.busy then before.state.ring else before.state.ring.arm (SlotIndex.wrap param1) } } ∧
      ∀ answered, Replays answered before.bus (arming before.state.ring.busy held) bus := by
  unfold armBurst arming
  rw [bind_get_state]
  cases before.state.ring.busy with
  | true => exact ⟨0, before.bus, rfl, fun _ => rfl⟩
  | false => exact ⟨_, _, rfl, fun _ => ⟨rfl, rfl⟩⟩

theorem fill_slot_replays (index : SlotIndex) (slot : Slot) (before : Controller β) : ∃ bus,
    fillSlot index slot before =
        .ok () { before with bus, state := { before.state with ring := before.state.ring.occupy slot } } ∧
      ∀ answered, Replays answered before.bus (filling index slot) bus :=
  ⟨_, rfl, fun _ => rfl⟩

omit [Bus β] in
theorem record_submission_ends (before : Controller β) : ∃ log,
    recordSubmission before =
      .ok () { before with
        log
        state := { before.state with
          ring := before.state.ring.submitted, submitLog := (before.state.submitLog + 1) &&& 0x1F } } := by
  unfold recordSubmission
  rw [bind_get_state]
  cases before.state.ring.isSaturated with
  | true => exact ⟨_, rfl⟩
  | false => exact ⟨before.log, rfl⟩

omit [Bus β] in
theorem needs_of_extended {request : Request} (extended : request.action.isExtended = true) : request.needsCommand = true := by
  simp [Request.needsCommand, extended]

omit [Bus β] in
theorem needs_of_simple {request : Request} (simple : request.action.isExtended = false) :
    request.needsCommand = decide (8 * (request.window + 1) ≤ request.param2.toNat) := by
  simp [Request.needsCommand, simple]

omit [Bus β] in
theorem submitted_index (ring : CommandRing) : ring.submitted.index = ring.index := by
  unfold CommandRing.submitted
  split
  · rfl
  · rfl

theorem settle_window_replays {request : Request} (simple : request.action.isExtended = false)
    (index : SlotIndex) (before : Controller β) : ∃ held bus log,
    settleWindow index (windowClass request.action.isInbound + request.slot.control.window) request.slot.byteCount before =
        .ok () { before with bus, log, state := counted request index before.state } ∧
      ∀ answered, Replays answered before.bus (noting request index held) bus := by
  have fits := request.fits_window_iff
  have needs := needs_of_simple simple
  unfold settleWindow noting counted
  by_cases long : 8 * (request.window + 1) ≤ request.param2.toNat
  · obtain ⟨log, recorded⟩ := record_submission_ends before
    rw [if_neg fun small => fits.mp small long, bind_of_ok recorded, needs, decide_eq_true long]
    exact ⟨_, _, log, rfl, fun _ => ⟨rfl, rfl⟩⟩
  · rw [if_pos (fits.mpr long), needs, decide_eq_false long]
    exact ⟨_, _, before.log, rfl, fun _ => ⟨rfl, rfl⟩⟩

theorem settle_replays (request : Request) (index : SlotIndex) (before : Controller β) : ∃ sight bus log,
    settle index request.slot request.action before =
        .ok () { before with bus, log, state := routed request sight (counted request index before.state) } ∧
      ∀ answered, Replays answered before.bus (settling request index sight) bus := by
  cases extended : request.action.isExtended with
  | true =>
      let updated := Bus.modify before.bus Reg.Backend.queueControl 0 Reg.Backend.queueSecondaryUpdate
      let head := Bus.read updated Reg.Backend.head
      obtain ⟨log, recorded⟩ := record_submission_ends { before with
        bus := head.2
        state := { before.state with
          secondaryUpdate := true
          indexDistance := (before.state.ring.index.distanceFrom (SlotIndex.wrap head.1)).toByte } }
      have index : before.state.ring.submitted.index = before.state.ring.index := submitted_index _
      unfold settle settling routed counted
      simp only [extended, needs_of_extended extended, if_true, index]
      exact ⟨{ update := _, head := _ }, _, log, recorded, fun _ => ⟨rfl, rfl, rfl⟩⟩
  | false =>
      obtain ⟨held, noted, log, settles, first⟩ := settle_window_replays extended index before
      have base : (if (if request.action.isInbound then 1 else 0 : Byte) = 0 then Reg.Buffer.main else Reg.Buffer.alternate) =
          if request.action.isInbound then Reg.Buffer.alternate else Reg.Buffer.main := by
        cases request.action.isInbound <;> rfl
      unfold settle settling routed
      simp only [extended, Bool.false_eq_true, if_false]
      rw [bind_of_ok settles, ← base]
      exact ⟨{ slotStatus := held, secondary := _ }, _, log, rfl, fun answered => (first answered).append ⟨rfl, rfl⟩⟩

theorem prepare_replays (request : Request) (before : Controller β) : ∃ sight bus log,
    prepare before.state.ring.index request.param1 request.param2 request.action before =
        .ok (flagsFor request.action sight.flags) { before with bus, log, state := prepared request before.state sight } ∧
      ∀ answered, Replays answered before.bus (preparing request before.state sight) bus := by
  obtain ⟨device, loaded, loads, first⟩ := load_counts_replays before
  obtain ⟨held, armed, arms, second⟩ := arm_burst_replays request.param1 { before with bus := loaded }
  obtain ⟨filled, fills, third⟩ := fill_slot_replays before.state.ring.index request.slot { before with
    bus := armed
    state := { before.state with
      ring := if before.state.ring.busy then before.state.ring else before.state.ring.arm (SlotIndex.wrap request.param1) } }
  let flags := Bus.read filled Reg.Transport.flags
  obtain ⟨sight, bus, log, settles, fourth⟩ := settle_replays request before.state.ring.index
    { before with bus := flags.2, state := placed request before.state }
  refine ⟨{ sight with device, arming := held, flags := flags.1 }, bus, log, ?_, ?_⟩
  · have fill : fill before.state.ring.index request.param1 request.slot before =
        .ok () { before with bus := filled, state := placed request before.state } :=
      (bind_of_ok loads _).trans ((bind_of_ok arms _).trans fills)
    exact (bind_of_ok fill _).trans (bind_of_ok settles _)
  · exact fun answered => (first answered).append ((second answered).append ((third answered).append ⟨rfl, fourth answered⟩))

theorem hand_off_replays (before : Controller β) : ∃ held bus,
    handOff before = .ok () { before with bus, state := { before.state with ring := before.state.ring.step } } ∧
      ∀ answered, Replays answered before.bus (handing before.state.ring.step held) bus := by
  unfold handOff
  rw [bind_modify_state, bind_get_state]
  by_cases last : before.state.ring.step.counter = 0
  · have ops (held : Byte) : handing before.state.ring.step held = _ := if_pos last
    rw [if_pos last]
    refine ⟨(Bus.read before.bus Reg.Backend.queueControl).1, _, rfl, fun _ => ?_⟩
    rw [ops]
    exact ⟨rfl, rfl⟩
  · have ops (held : Byte) : handing before.state.ring.step held = _ := if_neg last
    rw [if_neg last]
    refine ⟨0, _, rfl, fun _ => ?_⟩
    rw [ops]
    rfl

omit [Bus β] in
theorem answer_ends (action : Action) (before : Controller β) :
    answer action before = .ok (if action.isExtended then .queued else .inProgress before.settings.inProgress) before := by
  unfold answer
  cases action.isExtended with
  | true => rfl
  | false => rfl

theorem accept_taken (request : Request) (before : Controller β) :
    Taken request before (accept before.state.ring.index request.param1 request.param2 request.action before) := by
  rw [accept_prepares]
  obtain ⟨sight, bus, log, prepares, first⟩ := prepare_replays request before
  rw [bind_of_ok prepares]
  let between : Controller β := { before with bus, log, state := prepared request before.state sight }
  cases idle : (Bus.wait bus Reg.Dma.ready Reg.Dma.readyIdle .forever).1 with
  | true =>
      obtain ⟨seen, transfer, programmed, programs, chosen, second⟩ :=
        Transfer.program_replays (flagsFor request.action sight.flags) before.state.ring.index.toByte between idle
      let started : Controller β :=
        { Transfer.engaged transfer between programmed with
          state := { (Transfer.engaged transfer between programmed).state with transferActive := true } }
      obtain ⟨held, after, handsOff, third⟩ := hand_off_replays started
      have finishes : transferAndHandOff (flagsFor request.action sight.flags) before.state.ring.index between = _ :=
        (bind_of_ok programs _).trans handsOff
      rw [bind_of_ok finishes, answer_ends]
      subst chosen
      exact .handedOff { sight with transfer := seen, closing := held } after _ ((first true).append (second.append (third true)))
  | false =>
      obtain ⟨after, stalls, second⟩ :=
        Transfer.program_stalls (flagsFor request.action sight.flags) before.state.ring.index.toByte between idle
      have stalled : transferAndHandOff (flagsFor request.action sight.flags) before.state.ring.index between = _ :=
        bind_of_error stalls _
      rw [bind_of_error stalled]
      exact .unready sight after log ((first false).append second)

-- An action is taken only after the check has let it through.
theorem taken_of_takes (request : Request) {before : Controller β}
    (takes : Takes (submit request.param1 request.param2 request.action before)) :
    ∃ between, Readiness.check (marked request.action before) = .ok .proceed between ∧
      Taken request between (submit request.param1 request.param2 request.action before) := by
  have outcome := submit_outcome request.param1 request.param2 request.action before
  generalize submit request.param1 request.param2 request.action before = result at outcome takes
  cases outcome with
  | untrained stall after stalled =>
      obtain rfl : stall = Transfer.unready := takes
      obtain ⟨-, named⟩ := keeps_error Readiness.check_keeps stalled
      exact absurd named (by decide)
  | refused readiness between checked refuses => cases takes
  | held between checked taken =>
      obtain ⟨transferring, after, answers, -⟩ := held_answers between.state.ring.index between
      rw [answers] at takes
      cases transferring <;> cases takes
  | accepted between checked free => exact ⟨between, checked, accept_taken request between⟩

end Stages

end Submission

end StorageBridge
