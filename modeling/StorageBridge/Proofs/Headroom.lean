import StorageBridge.Proofs.CompletionLaw
import StorageBridge.Proofs.Counts
import StorageBridge.Proofs.Warnings

/-!
Where the counts and the byte sums of the core have room. The ring never counts more outstanding
commands than it has valid slots, whatever is called and whatever the caller does to the rest of the
controller, so a command that is submitted can always be counted. The sums of the window, of the buffer
offset and of the flash target stay far below 256.
-/

set_option autoImplicit false

namespace StorageBridge

open BridgeM

variable {η β : Type}

-- What can be called, and what a caller can do in between. It can release any slot and replace the ring
-- by an empty one, and all but the ring and the log is its own to overwrite.
inductive Call (β : Type) : Type 1 where
  | platform (event : Event β)
  | submit (request : Request)
  | handle (event : Byte)
  | release (slot : SlotIndex)
  | emptyRing
  | edit (others : Controller β)

namespace Call

variable [Bus β]

def run (before : Controller β) : Call β → Controller β
  | platform event => (event.run before).2
  | submit request => ending (Submission.submit request.param1 request.param2 request.action before)
  | handle event => ending (Completion.handle event before)
  | release slot => ending (Completion.releaseSlot slot before)
  | emptyRing => { before with state := { before.state with ring := .empty } }
  | edit others => { others with state := { others.state with ring := before.state.ring }, log := before.log }

def runAll (before : Controller β) (calls : List (Call β)) : Controller β :=
  calls.foldl run before

def isEdit : Call β → Bool
  | edit _ => true
  | _ => false

end Call

-- A free slot leaves room for one more command.
theorem CommandRing.taken_of_free {ring : CommandRing} {index : SlotIndex} (free : (ring.slot index).isFree = true) :
    ring.taken ≤ 31 := by
  let request : Request := { action := .extendedOut, param1 := 0, param2 := 0 }
  have counted : (ring.put index request.slot).taken + (if !(ring.slot index).isFree then 1 else 0) =
      ring.taken + (if !request.slot.isFree then 1 else 0) := CommandRing.taken_put rfl
  have within := (ring.put index request.slot).taken_le
  rw [free, request.slot_valid] at counted
  simp only [Bool.not_true, Bool.false_eq_true, if_false, Bool.not_false, if_true] at counted
  omega

theorem CommandRing.release_bounded {ring : CommandRing} (bounded : ring.outstanding ≤ ring.taken) (slot : SlotIndex) :
    (ring.release slot).outstanding ≤ (ring.release slot).taken := by
  let ledger : Ledger := { ring, submitLog := 0, completeLog := 0, completions := 0 }
  have moves : ledger.Moves (.retired slot) (ledger.retire slot) := ⟨rfl, fun _ _ named => by cases named⟩
  have kept := outstanding_bounded_of_moves moves bounded
  rwa [ledger.retire_ring] at kept

-- A move that submits counts its command.
theorem counted_of_moves {happening : Happening} {before after : Ledger} (moves : before.Moves happening after)
    (bounded : before.ring.outstanding ≤ before.ring.taken) (submitted : after.submitLog ≠ before.submitLog) :
    before.ring.outstanding ≤ 31 ∧ after.ring.outstanding = before.ring.outstanding + 1 := by
  cases happening with
  | accepted request handedOff =>
      by_cases needs : request.needsCommand = true
      · have counted := outstanding_of_accepted moves bounded
        have room := CommandRing.taken_of_free (moves.free request handedOff rfl)
        rw [if_pos needs] at counted
        exact ⟨by omega, counted⟩
      · exact absurd (moves.accepted.submitLog.trans (if_neg needs)) submitted
  | retired slot => exact absurd moves.retired.submitLog submitted
  | other => exact absurd (congrArg Ledger.submitLog moves.applied) submitted

-- The ring counts no more commands than it has valid slots, and every command could be counted.
structure Roomy (controller : Controller β) : Prop where
  bounded : controller.state.ring.outstanding ≤ controller.state.ring.taken
  unwarned : Unwarned controller

theorem silent_roomy {α : Type} {step : BridgeM β α}
    (silent : ∀ before, (ending (step before)).state.ring = before.state.ring ∧ (ending (step before)).log = before.log) :
    Preserves Roomy step := by
  intro before roomy
  obtain ⟨ring, log⟩ := silent before
  exact ⟨by rw [ring]; exact roomy.bounded, unwarned_of_log log roomy.unwarned⟩

theorem kept_roomy {α : Type} {stalls : Stall → Prop} {step : BridgeM β α}
    (kept : Keeps (fun controller => controller.state.ring) stalls step) (unwarned : Preserves Unwarned step) :
    Preserves Roomy step := by
  intro before roomy
  have ring : (ending (step before)).state.ring = before.state.ring := keeps_ending kept before
  exact ⟨by rw [ring]; exact roomy.bounded, unwarned before roomy.unwarned⟩

variable [Bus β]

namespace Submission

omit [Bus β] in
theorem moves_of_submitted {request : Request} {ledger : Ledger} {result : EStateM.Result Stall (Controller β) Submission}
    (submitted : Submitted request ledger result) : ∃ happening, ledger.Moves happening (ending result).ledger := by
  cases result with
  | ok submission after => exact ⟨_, submitted_moves submitted⟩
  | error stall after => exact ⟨_, stalled_moves submitted⟩

theorem place_roomy (param1 param2 : Byte) (action : Action) :
    Preserves Roomy (place param1 param2 action : BridgeM β Submission) := by
  intro before roomy
  obtain ⟨happening, moves⟩ := moves_of_submitted (place_ledger { action, param1, param2 } before)
  refine ⟨outstanding_bounded_of_moves moves roomy.bounded, ?_⟩
  unfold place
  rw [bind_get_state]
  by_cases free : (before.state.ring.slot before.state.ring.index).isFree = true
  · rw [if_pos free]
    have room := CommandRing.taken_of_free free
    exact accept_unwarned _ _ _ _ (Nat.le_trans roomy.bounded room) roomy.unwarned
  · rw [if_neg free]
    exact held_unwarned _ before roomy.unwarned

theorem submit_roomy (param1 param2 : Byte) (action : Action) :
    Preserves Roomy (submit param1 param2 action : BridgeM β Submission) := by
  have checked : Preserves Roomy (Readiness.check : BridgeM β Readiness) :=
    kept_roomy (keeps_coarser Readiness.check_keeps fun rest => rest.2.1.ring) Readiness.check_unwarned
  refine preserves_bind (silent_roomy fun _ => ⟨rfl, rfl⟩) fun before => ?_
  refine preserves_bind (silent_roomy fun _ => ⟨rfl, rfl⟩) fun _ => preserves_bind checked fun readiness => ?_
  split
  · exact place_roomy param1 param2 action
  · exact silent_roomy fun _ => ⟨rfl, rfl⟩

end Submission

theorem Transport.classify_roomy : Preserves Roomy (Transport.classify : BridgeM β (Option Submission)) := by
  have reported {event : LogEvent} (other : event.isOverflow = false) : Preserves Roomy (emit event : BridgeM β Unit) := by
    have kept : Keeps (fun controller : Controller β => controller.state.ring) never (emit event : BridgeM β Unit) :=
      ⟨fun _ => rfl⟩
    exact kept_roomy kept (emit_unwarned other)
  refine preserves_bind (silent_roomy fun _ => ⟨rfl, rfl⟩) fun status => ?_
  split
  · refine preserves_bind ?_ fun _ => silent_roomy fun _ => ⟨rfl, rfl⟩
    refine preserves_bind (silent_roomy fun _ => ⟨rfl, rfl⟩) fun low => ?_
    refine preserves_bind (silent_roomy fun _ => ⟨rfl, rfl⟩) fun high => ?_
    refine preserves_bind (silent_roomy fun _ => ⟨rfl, rfl⟩) fun _ => ?_
    refine preserves_bind (silent_roomy fun _ => ⟨rfl, rfl⟩) fun param1 => ?_
    refine preserves_bind (silent_roomy fun _ => ⟨rfl, rfl⟩) fun param2 => ?_
    refine preserves_bind (silent_roomy fun _ => ⟨rfl, rfl⟩) fun _ => ?_
    exact preserves_bind (reported rfl) fun _ => Submission.submit_roomy param1 param2 _
  · exact preserves_bind (reported rfl) fun _ => silent_roomy fun _ => ⟨rfl, rfl⟩

theorem Completion.handle_moves (event : Byte) (before : Controller β) :
    ∃ happening, before.ledger.Moves happening (ending (Completion.handle event before)).ledger := by
  obtain ⟨completion, after, ended, handled⟩ := Completion.handle_ledger event before
  rw [ended]
  rcases handled with ⟨-, moved⟩ | ⟨-, same⟩
  · exact ⟨.retired (SlotIndex.wrap event), moved, fun _ _ named => by cases named⟩
  · exact ⟨.other, .other same⟩

theorem Completion.handle_roomy (event : Byte) : Preserves Roomy (Completion.handle event : BridgeM β Completion) := by
  intro before roomy
  obtain ⟨happening, moves⟩ := Completion.handle_moves event before
  exact ⟨outstanding_bounded_of_moves moves roomy.bounded, Completion.handle_unwarned event before roomy.unwarned⟩

namespace Controller

theorem poll_roomy (handler : EndpointHandler η β) (own : η) : Preserves Roomy (poll handler own) := by
  have served : Preserves Roomy (Endpoint.service handler own) :=
    kept_roomy (keeps_coarser (Endpoint.service_keeps handler own) fun rest => rest.2.1.ring) (service_unwarned handler own)
  refine preserves_bind (silent_roomy fun _ => ⟨rfl, rfl⟩) fun state => ?_
  split
  · exact silent_roomy fun _ => ⟨rfl, rfl⟩
  · refine preserves_bind (silent_roomy fun _ => ⟨rfl, rfl⟩) fun _ => ?_
    refine preserves_bind Transport.classify_roomy fun submission => preserves_bind served fun _ => ?_
    exact silent_roomy fun _ => ⟨rfl, rfl⟩

theorem complete_roomy (event : Byte) : Preserves Roomy (complete event : BridgeM β (Except RequestError Completion)) := by
  refine preserves_bind (silent_roomy fun _ => ⟨rfl, rfl⟩) fun state => ?_
  split
  · exact silent_roomy fun _ => ⟨rfl, rfl⟩
  · exact preserves_bind (Completion.handle_roomy event) fun _ => silent_roomy fun _ => ⟨rfl, rfl⟩

end Controller

namespace Call

theorem run_roomy {before : Controller β} (roomy : Roomy before) (call : Call β) : Roomy (call.run before) := by
  cases call with
  | platform event =>
      cases event with
      | pass handler own =>
          rw [run, Event.run, outcome_ending]
          exact Controller.poll_roomy handler own before roomy
      | completion event =>
          rw [run, Event.run, outcome_ending]
          exact Controller.complete_roomy event before roomy
      | takeRetry => exact ⟨roomy.bounded, roomy.unwarned⟩
      | flags fault commandActive transferState powerInit => exact ⟨roomy.bounded, roomy.unwarned⟩
      | hardware bus => exact ⟨roomy.bounded, roomy.unwarned⟩
  | submit request => exact Submission.submit_roomy request.param1 request.param2 request.action before roomy
  | handle event => exact Completion.handle_roomy event before roomy
  | release slot =>
      have unwarned := Completion.release_slot_unwarned slot before roomy.unwarned
      rw [Completion.release_slot_ends] at unwarned
      rw [run, Completion.release_slot_ends]
      exact ⟨CommandRing.release_bounded roomy.bounded slot, unwarned⟩
  | emptyRing => exact ⟨Nat.zero_le _, roomy.unwarned⟩
  | edit others => exact ⟨roomy.bounded, roomy.unwarned⟩

theorem run_counted {before : Controller β} (bounded : before.state.ring.outstanding ≤ before.state.ring.taken)
    {call : Call β} (called : call.isEdit = false) (submitted : (call.run before).state.submitLog ≠ before.state.submitLog) :
    before.state.ring.outstanding ≤ 31 ∧ (call.run before).state.ring.outstanding = before.state.ring.outstanding + 1 := by
  have counted (moved : ∃ happening, before.ledger.Moves happening (call.run before).ledger) :
      before.state.ring.outstanding ≤ 31 ∧ (call.run before).state.ring.outstanding = before.state.ring.outstanding + 1 := by
    obtain ⟨happening, moves⟩ := moved
    exact counted_of_moves moves bounded submitted
  cases call with
  | platform event => exact counted ⟨_, step_moves { before, event }⟩
  | submit request => exact counted (Submission.moves_of_submitted (Submission.submit_ledger request before))
  | handle event => exact counted (Completion.handle_moves event before)
  | release slot =>
      rw [run, Completion.release_slot_ends] at submitted
      exact absurd rfl submitted
  | emptyRing => exact absurd rfl submitted
  | edit others => cases called

theorem run_all_roomy {before : Controller β} (roomy : Roomy before) (calls : List (Call β)) : Roomy (runAll before calls) := by
  induction calls generalizing before with
  | nil => exact roomy
  | cons call rest ih => exact ih (run_roomy roomy call)

end Call

-- A mask of ones changes nothing that it is wide enough for.
theorem Byte.and_ones (bits : Nat) {byte mask : Byte} (ones : mask.toNat = 2 ^ bits - 1) (small : byte.toNat < 2 ^ bits) :
    byte &&& mask = byte := by
  apply UInt8.toNat_inj.mp
  rw [UInt8.toNat_and, ones, Nat.and_two_pow_sub_one_of_lt_two_pow small]

theorem Request.window_sum (request : Request) :
    let base := Submission.windowClass request.action.isInbound
    let window := request.slot.control.window
    (base + window).toNat = base.toNat + window.toNat ∧ (base + window).toNat ≤ 15 := by
  intro base window
  have low : base.toNat ≤ 8 := by
    cases inbound : request.action.isInbound with
    | true => simp [base, inbound, Submission.windowClass]
    | false => simp [base, inbound, Submission.windowClass]
  have high : window.toNat = request.param1.toNat / 32 := by
    simp [window, request.slot_window, Nat.shiftRight_eq_div_pow]
  have raw := request.param1.toNat_lt
  rw [UInt8.toNat_add]
  omega

theorem SecondaryBuffer.offset_sum (secondary : Byte) :
    let base := (SecondaryBuffer.ofStatus secondary).offset
    (base + (secondary >>> 4)).toNat = base.toNat + (secondary >>> 4).toNat ∧ (base + (secondary >>> 4)).toNat ≤ 0x3F := by
  intro base
  have low : base.toNat ≤ 0x30 := by
    simp only [base, SecondaryBuffer.ofStatus]
    split <;> decide
  have high : (secondary >>> 4).toNat = secondary.toNat / 16 := by
    simp [Nat.shiftRight_eq_div_pow]
  have raw := secondary.toNat_lt
  rw [UInt8.toNat_add]
  omega

-- A transition is to a target whose parts do not overlap, on any hardware.
theorem Completion.reset_target_small {event : Byte} {before after : Controller β} {request : ResetRequest}
    (transitions : Completion.handle event before = .ok (.reset request) after) :
    ∃ flags counter : Byte, flags.toNat ≤ 7 ∧ counter.toNat ≤ 7 ∧
      request.target.toNat = 16 * flags.toNat + counter.toNat + if event = 0 then 0 else 8 := by
  obtain ⟨_, noted, _, counts⟩ := ok_of_bind transitions
  obtain ⟨counter, counted, updated, pulses⟩ := ok_of_bind counts
  obtain ⟨_, pulsed, _, shows⟩ := ok_of_bind pulses
  obtain ⟨flags, shown, flagged, decides⟩ := ok_of_bind shows
  have counterSmall : counter.toNat < 8 := by
    obtain ⟨status, read, _, counting⟩ := ok_of_bind updated
    obtain ⟨_, moved, _, answers⟩ := ok_of_bind counting
    cases answers
    exact masked_small _
  have flagsSmall : flags.toNat < 8 := by
    obtain ⟨settings, _, _, waits⟩ := ok_of_bind flagged
    obtain ⟨waited, _, _, reports⟩ := ok_of_bind waits
    split at reports
    · cases reports
      exact masked_small _
    · cases reports
      exact masked_small _
  rw [bind_get_state] at decides
  by_cases expected : flags = shown.state.expectedFlags
  · rw [if_pos expected] at decides
    obtain ⟨completion, _, retired, rfl, -⟩ := retire_ledger event shown
    cases retired.symm.trans decides
  · rw [if_neg expected] at decides
    cases decides
    exact ⟨flags, counter, Nat.le_of_lt_succ flagsSmall, Nat.le_of_lt_succ counterSmall,
      reset_target_to_nat event flagsSmall counterSmall⟩

theorem only_masked_counters_wrap (bus : β) (settings : Settings) (calls : List (Call β)) :
    let controller := Call.runAll (Controller.start bus settings) calls
    let ring := controller.state.ring
    ring.outstanding ≤ ring.taken ∧
    (∀ outstanding, .outstandingOverflow outstanding ∉ controller.log) ∧
    (∀ call : Call β, call.isEdit = false → (call.run controller).state.submitLog ≠ controller.state.submitLog →
      ring.outstanding ≤ 31 ∧ (call.run controller).state.ring.outstanding = ring.outstanding + 1) ∧
    (∀ before : Controller β, Submission.recordSubmission before = .ok ()
      { before with
        state := { before.state with
          ring := before.state.ring.submitted, submitLog := (before.state.submitLog + 1) &&& 0x1F }
        log := if 31 < before.state.ring.outstanding
          then before.log.push (.outstandingOverflow before.state.ring.outstanding) else before.log }) ∧
    (∀ request : Request,
      let base := Submission.windowClass request.action.isInbound
      let window := request.slot.control.window
      (base + window).toNat = base.toNat + window.toNat ∧ (base + window).toNat ≤ 15 ∧
        (base + window) &&& 0x1F = base + window ∧ (base + window) &&& Reg.Backend.slotStatusMask = base + window) ∧
    (∀ secondary (before : Controller β), ∃ offset after,
      Transfer.resolveSecondary secondary before = .ok offset after ∧
        offset.toNat = (SecondaryBuffer.ofStatus secondary).offset.toNat + (secondary >>> 4).toNat ∧ offset.toNat ≤ 0x3F) ∧
    ∀ event (before : Controller β) request after, Completion.handle event before = .ok (.reset request) after →
      ∃ flags counter : Byte, flags.toNat ≤ 7 ∧ counter.toNat ≤ 7 ∧
        request.target.toNat = 16 * flags.toNat + counter.toNat + (if event = 0 then 0 else 8) ∧
        request.target.toNat ≤ 0x7F := by
  intro controller ring
  have initial : Roomy (Controller.start bus settings) := by
    refine ⟨Nat.zero_le _, fun event member => ?_⟩
    rw [Array.mem_singleton.mp member]
    rfl
  have roomy : Roomy controller := Call.run_all_roomy initial calls
  refine ⟨roomy.bounded, ?_, fun call => Call.run_counted roomy.bounded, Submission.record_submission_reports, ?_, ?_, ?_⟩
  · intro outstanding member
    cases roomy.unwarned _ member
  · intro request base window
    obtain ⟨sum, small⟩ := request.window_sum
    exact ⟨sum, small, Byte.and_ones 5 rfl (Nat.lt_of_le_of_lt small (by decide)),
      Byte.and_ones 4 rfl (Nat.lt_of_le_of_lt small (by decide))⟩
  · intro secondary before
    exact ⟨_, _, rfl, SecondaryBuffer.offset_sum secondary⟩
  · intro event before request after transitions
    obtain ⟨flags, counter, flagsSmall, counterSmall, target⟩ := Completion.reset_target_small transitions
    refine ⟨flags, counter, flagsSmall, counterSmall, target, ?_⟩
    split at target <;> omega

end StorageBridge
