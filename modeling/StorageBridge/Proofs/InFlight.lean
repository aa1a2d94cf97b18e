import StorageBridge.Proofs.Simulation

/-!
The ring against the history of a run. The history alone says where each accepted request was placed
and which commands are still in flight; the ring holds exactly those commands, slot by slot.
-/

set_option autoImplicit false

namespace StorageBridge

def Happening.accepted? : Happening → Option Request
  | .accepted request _ => some request
  | _ => none

def acceptedRequests (happenings : List Happening) : List Request :=
  happenings.filterMap Happening.accepted?

-- where the next accepted request goes
def place (happenings : List Happening) : SlotIndex :=
  Fin.ofNat 32 (acceptedRequests happenings).length

def Displaces (earlier : List Happening) (slot : SlotIndex) : Happening → Prop
  | .accepted _ _ => place earlier = slot
  | .retired retired => retired = slot
  | .other => False

-- The request is the latest one placed in the slot, it left a command there, and the slot has not
-- been retired since.
def InFlight (happenings : List Happening) (slot : SlotIndex) (request : Request) : Prop :=
  ∃ earlier handedOff later,
    happenings = earlier ++ .accepted request handedOff :: later ∧
    place earlier = slot ∧ request.needsCommand = true ∧
    ∀ between next rest, later = between ++ next :: rest →
      ¬ Displaces (earlier ++ .accepted request handedOff :: between) slot next

theorem place_snoc_accepted (happenings : List Happening) (request : Request) (handedOff : Bool) :
    place (happenings ++ [.accepted request handedOff]) = (place happenings).next := by
  have longer : (acceptedRequests (happenings ++ [.accepted request handedOff])).length =
      (acceptedRequests happenings).length + 1 := by
    simp [acceptedRequests, Happening.accepted?]
  unfold place SlotIndex.next
  rw [longer]
  apply Fin.ext
  simp [Fin.val_add]

theorem place_snoc_rejected (happenings : List Happening) {happening : Happening}
    (rejected : happening.accepted? = none) : place (happenings ++ [happening]) = place happenings := by
  simp [place, acceptedRequests, rejected]

theorem in_flight_snoc {happenings : List Happening} {happening : Happening} {slot : SlotIndex} {request : Request} :
    InFlight (happenings ++ [happening]) slot request ↔
      (¬ Displaces happenings slot happening ∧ InFlight happenings slot request) ∨
        ((∃ handedOff, happening = .accepted request handedOff) ∧ place happenings = slot ∧ request.needsCommand = true) := by
  constructor
  · rintro ⟨earlier, handedOff, later, split, placed, needs, kept⟩
    rcases snoc_split.mp split with ⟨rfl, rfl, same⟩ | ⟨rest, rfl, rfl⟩
    · exact .inr ⟨⟨handedOff, same.symm⟩, placed, needs⟩
    · refine .inl ⟨kept rest happening [] rfl, earlier, handedOff, rest, rfl, placed, needs, ?_⟩
      intro between next more same
      refine kept between next (more ++ [happening]) ?_
      rw [same, List.append_assoc, List.cons_append]
  · rintro (⟨stays, earlier, handedOff, later, rfl, placed, needs, kept⟩ | ⟨⟨handedOff, rfl⟩, placed, needs⟩)
    · refine ⟨earlier, handedOff, later ++ [happening], ?_, placed, needs, ?_⟩
      · rw [List.append_assoc, List.cons_append]
      · intro between next more same
        rcases snoc_split.mp same with ⟨_, rfl, rfl⟩ | ⟨rest, _, split⟩
        · exact stays
        · exact kept between next rest split
    · refine ⟨happenings, handedOff, [], rfl, placed, needs, ?_⟩
      intro between next more same
      simp at same

structure Tabulates (happenings : List Happening) (ring : CommandRing) : Prop where
  index : ring.index = place happenings
  held : ∀ slot request, InFlight happenings slot request → ring.slot slot = request.slot
  vacant : ∀ slot, (∀ request, ¬ InFlight happenings slot request) → ring.slot slot = .empty

namespace Tabulates

theorem initial : Tabulates [] .empty := by
  refine ⟨rfl, ?_, fun slot _ => CommandRing.slot_empty slot⟩
  rintro slot request ⟨earlier, handedOff, later, split, _⟩
  simp at split

-- The slot that is displaced is the only one that changes, and it holds what the happening leaves.
theorem displacing {happenings : List Happening} {happening : Happening} {ring next : CommandRing}
    (tabulates : Tabulates happenings ring) (changed : SlotIndex) (value : Slot)
    (slots : next.slots = (ring.put changed value).slots) (index : next.index = place (happenings ++ [happening]))
    (displaces : ∀ slot, Displaces happenings slot happening ↔ changed = slot)
    (left : ∀ request handedOff, happening = .accepted request handedOff → request.needsCommand = true → value = request.slot)
    (cleared : (∀ request handedOff, happening = .accepted request handedOff → ¬ request.needsCommand = true) → value = .empty) :
    Tabulates (happenings ++ [happening]) next := by
  have shown (slot : SlotIndex) : next.slot slot = if changed = slot then value else ring.slot slot :=
    CommandRing.slot_of_put slots slot
  refine ⟨index, fun slot request flying => ?_, fun slot none => ?_⟩
  · rw [shown]
    rcases in_flight_snoc.mp flying with ⟨stays, before⟩ | ⟨⟨handedOff, accepted⟩, placed, needs⟩
    · rw [if_neg (fun same => stays ((displaces slot).mpr same))]
      exact tabulates.held slot request before
    · have here : changed = slot := by
        rw [← displaces, accepted]
        exact placed
      rw [if_pos here]
      exact left request handedOff accepted needs
  · rw [shown]
    by_cases here : changed = slot
    · rw [if_pos here]
      refine cleared fun request handedOff accepted needs => none request (in_flight_snoc.mpr (.inr ⟨⟨handedOff, accepted⟩, ?_, needs⟩))
      have moved := (displaces slot).mpr here
      rwa [accepted] at moved
    · rw [if_neg here]
      refine tabulates.vacant slot fun request before => none request (in_flight_snoc.mpr (.inl ⟨?_, before⟩))
      rwa [displaces]

theorem moves {happenings : List Happening} {happening : Happening} {before after : Ledger}
    (tabulates : Tabulates happenings before.ring) (moves : before.Moves happening after) :
    Tabulates (happenings ++ [happening]) after.ring := by
  cases happening with
  | accepted request handedOff =>
      have accepted := moves.accepted
      refine tabulates.displacing before.ring.index _ accepted.slots ?_ ?_ ?_ ?_
      · rw [accepted.index, tabulates.index, place_snoc_accepted]
      · intro slot
        rw [tabulates.index]
        exact Iff.rfl
      · rintro other handed named needs
        cases named
        exact if_pos needs
      · intro spare
        exact if_neg (spare request handedOff rfl)
  | retired slot =>
      have retired := moves.retired
      refine tabulates.displacing slot .empty retired.slots ?_ (fun _ => Iff.rfl) ?_ (fun _ => rfl)
      · rw [place_snoc_rejected happenings rfl, retired.index]
        exact tabulates.index
      · rintro request handedOff named
        cases named
  | other =>
      have same (slot : SlotIndex) (request : Request) :
          InFlight (happenings ++ [.other]) slot request ↔ InFlight happenings slot request := by
        simp [in_flight_snoc, Displaces]
      rw [show after = before from moves.applied]
      refine ⟨?_, ?_, ?_⟩
      · rw [place_snoc_rejected happenings rfl]
        exact tabulates.index
      · intro slot request flying
        exact tabulates.held slot request ((same slot request).mp flying)
      · intro slot none
        exact tabulates.vacant slot fun request flying => none request ((same slot request).mpr flying)

variable {happenings : List Happening} {ring : CommandRing}

theorem valid_iff (tabulates : Tabulates happenings ring) (slot : SlotIndex) :
    (ring.slot slot).isFree = false ↔ ∃ request, InFlight happenings slot request := by
  constructor
  · intro valid
    refine Classical.byContradiction fun none => ?_
    rw [tabulates.vacant slot (not_exists.mp none)] at valid
    cases valid
  · rintro ⟨request, flying⟩
    rw [tabulates.held slot request flying]
    exact request.slot_valid

theorem free_is_empty (tabulates : Tabulates happenings ring) (slot : SlotIndex)
    (free : (ring.slot slot).isFree = true) : ring.slot slot = .empty := by
  refine tabulates.vacant slot (not_exists.mp fun flying => ?_)
  rw [(tabulates.valid_iff slot).mpr flying] at free
  cases free

theorem never_done (tabulates : Tabulates happenings ring) (slot : SlotIndex) :
    (ring.slot slot).control.bits.meets SlotControl.done = false := by
  by_cases flying : ∃ request, InFlight happenings slot request
  · obtain ⟨request, flying⟩ := flying
    rw [tabulates.held slot request flying]
    exact request.slot_not_done
  · rw [tabulates.vacant slot (not_exists.mp flying)]
    rfl

end Tabulates

variable {β : Type} [Bus β]

theorem run_tabulates (bus : β) (settings : Settings) (events : List (Event β)) :
    Tabulates (Run.of (Controller.start bus settings) events).happenings
      (Run.of (Controller.start bus settings) events).controller.state.ring :=
  ledger_induction (fun happenings ledger => Tabulates happenings ledger.ring) (Controller.start bus settings)
    .initial (fun _ _ _ _ moves tabulates => tabulates.moves moves) events

-- The slot that a request takes was empty, and no other slot changes.
structure Fills (step : Step β) (request : Request) (slot : SlotIndex) : Prop where
  index : step.before.state.ring.index = slot
  free : step.before.state.ring.slot slot = .empty
  filled : step.after.state.ring.slots =
    (step.before.state.ring.put slot (if request.needsCommand then request.slot else .empty)).slots

theorem step_fills {happenings : List Happening} {step : Step β} (tabulates : Tabulates happenings step.before.state.ring)
    {request : Request} {handedOff : Bool} (accepted : step.happening = .accepted request handedOff) :
    Fills step request (place happenings) := by
  have moves := step_moves step
  rw [accepted] at moves
  have free := moves.free request handedOff rfl
  have slots := moves.accepted.slots
  have index : step.before.ledger.ring.index = place happenings := tabulates.index
  simp only [index] at slots free
  exact ⟨index, tabulates.free_is_empty _ free, slots⟩

-- A command stays in flight until its slot is retired.
theorem step_keeps_in_flight {happenings : List Happening} {step : Step β}
    (tabulates : Tabulates happenings step.before.state.ring) {slot : SlotIndex} {request : Request}
    (flying : InFlight happenings slot request) (kept : step.happening ≠ .retired slot) :
    InFlight (happenings ++ [step.happening]) slot request := by
  refine in_flight_snoc.mpr (.inl ⟨?_, flying⟩)
  cases happened : step.happening with
  | accepted taken handedOff =>
      intro here
      have fills := step_fills tabulates happened
      have occupied := (tabulates.valid_iff slot).mpr ⟨request, flying⟩
      rw [← show place happenings = slot from here, fills.free] at occupied
      cases occupied
  | retired retired =>
      rintro rfl
      exact kept happened
  | other => exact False.elim

theorem ring_holds_commands_in_flight (bus : β) (settings : Settings) (events : List (Event β)) :
    let run := Run.of (Controller.start bus settings) events
    let ring := run.controller.state.ring
    ring.index = place run.happenings ∧
    (∀ slot, (ring.slot slot).isFree = false ↔ ∃ request, InFlight run.happenings slot request) ∧
    (∀ slot request, InFlight run.happenings slot request → ring.slot slot = request.slot) ∧
    (∀ slot, (ring.slot slot).control.bits.meets SlotControl.done = false) ∧
    (∀ slot, (ring.slot slot).isFree = true → ring.slot slot = .empty) ∧
    ∀ earlier step later, run.history = earlier ++ step :: later →
      let happenings := earlier.map Step.happening
      (∀ request handedOff, step.happening = .accepted request handedOff → Fills step request (place happenings)) ∧
      (∀ slot request, InFlight happenings slot request → step.happening ≠ .retired slot →
        InFlight (happenings ++ [step.happening]) slot request) := by
  intro run ring
  have tabulates : Tabulates run.happenings ring := run_tabulates bus settings events
  refine ⟨tabulates.index, tabulates.valid_iff, tabulates.held, tabulates.never_done, tabulates.free_is_empty, ?_⟩
  intro earlier step later split happenings
  obtain ⟨sooner, begins⟩ := Run.step_begins (Controller.start bus settings) events earlier step later split
  have before : Tabulates happenings step.before.state.ring := by
    have reached := run_tabulates bus settings sooner
    rwa [begins] at reached
  exact ⟨fun _ _ accepted => step_fills before accepted, fun _ _ flying kept => step_keeps_in_flight before flying kept⟩

end StorageBridge
