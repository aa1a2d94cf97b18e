import StorageBridge.Proofs.Acceptance

/-!
The order in which an action reaches the hardware: its counts first, then the queue and its slot, then the
engine, and the hand-off last. An engine that stays busy is never handed anything.
-/

set_option autoImplicit false

namespace StorageBridge

open BridgeM

variable {η β : Type}

def Effect.WritesTo (registers : Address → Prop) : Effect → Prop
  | operation (.write address _) => registers address
  | _ => False

-- Every effect of the first kind stands before every one of the second.
def Precede (first second : Effect → Prop) (trace : List Effect) : Prop :=
  trace.Pairwise fun sooner later => second sooner → ¬ first later

theorem not_writes_of_within {touched registers : Address → Prop} (apart : ∀ address, touched address → ¬ registers address)
    {effect : Effect} (within : effect.Within touched) : ¬ effect.WritesTo registers := by
  cases effect with
  | call offset => exact id
  | operation op =>
      cases op with
      | read address value => exact id
      | write address value => exact apart address within
      | wait address mask budget => exact id

theorem within_wider {narrow wide : Address → Prop} (included : ∀ address, narrow address → wide address) {effect : Effect}
    (within : effect.Within narrow) : effect.Within wide := by
  cases effect with
  | call offset => trivial
  | operation op =>
      cases op with
      | read address value => trivial
      | write address value => exact included address within
      | wait address mask budget => exact included address within

theorem writes_to_meets {touched narrow wide : Address → Prop} {effect : Effect} (within : effect.Within touched)
    (writes : effect.WritesTo narrow) (included : ∀ address, touched address → narrow address → wide address) :
    effect.WritesTo wide := by
  cases effect with
  | call offset => exact writes
  | operation op =>
      cases op with
      | read address value => exact writes
      | wait address mask budget => exact writes
      | write address value => exact included address within writes

theorem writes_to_wider {narrow wide : Address → Prop} (included : ∀ address, narrow address → wide address) {effect : Effect}
    (writes : effect.WritesTo narrow) : effect.WritesTo wide := by
  have anywhere : effect.Within fun _ => True := by
    cases effect with
    | call offset => trivial
    | operation op => cases op <;> trivial
  exact writes_to_meets anywhere writes fun address _ => included address

theorem precede_of_split {first second : Effect → Prop} {earlier later : List Effect}
    (notYet : ∀ effect ∈ earlier, ¬ second effect) (noMore : ∀ effect ∈ later, ¬ first effect) :
    Precede first second (earlier ++ later) := by
  refine List.pairwise_append.mpr ⟨?_, ?_, ?_⟩
  · exact List.pairwise_of_forall_mem_list fun sooner member _ _ isSecond => absurd isSecond (notYet sooner member)
  · exact List.pairwise_of_forall_mem_list fun _ _ later member _ => noMore later member
  · exact fun sooner member _ _ isSecond => absurd isSecond (notYet sooner member)

theorem CommandRing.step_busy {ring : CommandRing} (busy : ring.busy = true) : ring.step.busy = true ↔ ring.step.counter ≠ 0 := by
  unfold step
  by_cases last : ring.counter - 1 = 0
  · simp [last]
  · simp [last, busy]

namespace Submission

def InSlotBlock (address : Address) : Prop :=
  0xC100 ≤ address.toNat ∧ address.toNat < 0xC100 + 4 * 32

def InBlockOf (index : SlotIndex) (address : Address) : Prop :=
  0xC100 + 4 * index.val ≤ address.toNat ∧ address.toNat < 0xC100 + 4 * index.val + 4

def InEngine (address : Address) : Prop :=
  0xB000 ≤ address.toNat ∧ address.toNat ≤ 0xB01A

def IsCount (address : Address) : Prop :=
  address = Reg.Backend.countA ∨ address = Reg.Backend.countB

-- what is written only once both counts are
def BeyondCounts (address : Address) : Prop :=
  address = Reg.Backend.queueControl ∨ InSlotBlock address ∨ address = Reg.Backend.issue ∨ InEngine address

-- the registers that carry the address and the mode of a transfer
def steered : List Address :=
  [Reg.Dma.mode, Reg.Dma.sourceLow, Reg.Dma.sourceHigh, Reg.Dma.destinationLow, Reg.Dma.destinationHigh]

-- What is known of the run of an action that takes the slot at the index.
structure Ordered (index : SlotIndex) (core : Byte × Byte) (run : List Effect) : Prop where
  countA : (run.filterMap Effect.write?).filter (fun entry => entry.1 = Reg.Backend.countA) = [(Reg.Backend.countA, core.1)]
  countB : (run.filterMap Effect.write?).filter (fun entry => entry.1 = Reg.Backend.countB) = [(Reg.Backend.countB, core.2)]
  countsInOrder : Precede (Effect.WritesTo (· = Reg.Backend.countA)) (Effect.WritesTo (· = Reg.Backend.countB)) run
  countsFirst : Precede (Effect.WritesTo IsCount) (Effect.WritesTo BeyondCounts) run
  ownBlock : ∀ effect ∈ run, effect.WritesTo InSlotBlock → effect.WritesTo (InBlockOf index)
  slotFirst : Precede (Effect.WritesTo InSlotBlock) (Effect.WritesTo (· ∈ steered)) run

-- The run ends with the hand-off, to a burst that goes on or at the end of one.
def Delivers (ring : CommandRing) (run : List Effect) : Prop :=
  ∃ earlier, .operation Transfer.idling ∈ earlier ∧
    ((ring.busy = true ∧ run = earlier ++ [.operation (.write Reg.Backend.issue ring.issue.toByte)]) ∨
      (ring.busy = false ∧ ∃ held, run = earlier ++ [.operation (.read Reg.Backend.queueControl held),
        .operation (.write Reg.Backend.queueControl (held.revise Reg.Backend.queueBusy 0))]))

-- The run ends at the wait. The queue control only gained bits, and nothing was issued.
structure Halts (run : List Effect) : Prop where
  waiting : ∃ earlier, run = earlier ++ [.operation Transfer.idling]
  unissued : ∀ value, .operation (.write Reg.Backend.issue value) ∉ run
  queueControl : ∀ value, .operation (.write Reg.Backend.queueControl value) ∈ run →
    ∃ held, .operation (.read Reg.Backend.queueControl held) ∈ run ∧
      (value = held ||| Reg.Backend.queueBusy ∨ value = held ||| Reg.Backend.queueSecondaryUpdate)

def Queued (index : SlotIndex) (address : Address) : Prop :=
  address = Reg.Backend.queueControl ∨ InBlockOf index address ∨ address ∈ Transfer.secondRegisters

def Closing (address : Address) : Prop :=
  InEngine address ∨ address = Reg.Backend.queueControl ∨ address = Reg.Backend.issue

theorem block_of_offset (index : SlotIndex) {offset : Address} (small : offset.toNat < 4) :
    InBlockOf index (index.registers + offset) := by
  rw [InBlockOf, SlotIndex.registers_to_nat index small]
  omega

theorem queueing_within (request : Request) (state : State) (sight : Sight) :
    ∀ op ∈ queueing request state sight, (Effect.operation op).Within (Queued state.ring.index) := by
  have control : InBlockOf state.ring.index (state.ring.index.registers + Reg.Backend.slotControl) :=
    block_of_offset _ (by decide)
  have count : InBlockOf state.ring.index (state.ring.index.registers + Reg.Backend.slotCount) :=
    block_of_offset _ (by decide)
  have status : InBlockOf state.ring.index (state.ring.index.registers + Reg.Backend.slotStatus) :=
    block_of_offset _ (by decide)
  have low : Reg.Dma.secondLow ∈ Transfer.secondRegisters := by decide
  have high : Reg.Dma.secondHigh ∈ Transfer.secondRegisters := by decide
  have offset : Reg.Dma.bufferOffset ∈ Transfer.secondRegisters := by decide
  refine List.forall_mem_append.mpr ⟨?_, List.forall_mem_append.mpr ⟨?_, List.forall_mem_cons.mpr ⟨trivial, ?_⟩⟩⟩
  · unfold arming
    cases state.ring.busy with
    | true => simp
    | false => simp [Effect.Within, Queued]
  · simp [filling, Effect.Within, Queued, control, count]
  · unfold settling
    cases request.action.isExtended with
    | true => simp [updating, Effect.Within, Queued]
    | false =>
        unfold noting
        cases request.needsCommand with
        | true => simp [resolving, Effect.Within, Queued, status, low, high, offset]
        | false => simp [resolving, Effect.Within, Queued, control, status, low, high, offset]

theorem operations_within_engine (flags : TransferFlags) (channel : Byte) (state : State) (sight : Transfer.Sight) :
    ∀ op ∈ Transfer.operations flags channel state sight, (Effect.operation op).Within InEngine := by
  refine within_of_writes (fun _ => Transfer.wait_not_mem_operations) fun address value member => ?_
  rcases Transfer.operations_within member with rfl | rfl | image
  · exact ⟨by decide, by decide⟩
  · exact ⟨by decide, by decide⟩
  · have bounds : 0xB000 ≤ address.toNat ∧ address.toNat < 0xB018 :=
      Transfer.mirrors_between (Transfer.image_mirrors _ address image)
    unfold InEngine
    omega

theorem handing_within (ring : CommandRing) (held : Byte) :
    ∀ op ∈ handing ring held, (Effect.operation op).Within fun address =>
      address = Reg.Backend.queueControl ∨ address = Reg.Backend.issue := by
  unfold handing
  split
  · simp [Effect.Within]
  · simp [Effect.Within]

-- what is written before the counts
def Opening (address : Address) : Prop :=
  address ∈ Readiness.registers ∨ address = Reg.Backend.deviceStatus

-- where the registers of each part lie
theorem opening_to_nat {address : Address} (opening : Opening address) :
    address.toNat = 0x9005 ∨ address.toNat = 0xC000 ∨ address.toNat = 0xC001 ∨ address.toNat = 0xC005 := by
  rcases opening with member | rfl
  · simp only [Readiness.registers, List.mem_cons, List.not_mem_nil, or_false] at member
    rcases member with rfl | rfl | rfl
    · exact .inl rfl
    · exact .inr (.inr (.inl rfl))
    · exact .inr (.inl rfl)
  · exact .inr (.inr (.inr rfl))

theorem count_to_nat {address : Address} (count : IsCount address) : address.toNat = 0xC006 ∨ address.toNat = 0xC007 := by
  rcases count with rfl | rfl
  · exact .inl rfl
  · exact .inr rfl

theorem beyond_to_nat {address : Address} (beyond : BeyondCounts address) :
    address.toNat = 0xC008 ∨ (0xC100 ≤ address.toNat ∧ address.toNat < 0xC180) ∨ address.toNat = 0xC00A ∨
      (0xB000 ≤ address.toNat ∧ address.toNat ≤ 0xB01A) := by
  rcases beyond with rfl | slot | rfl | engine
  · exact .inl rfl
  · exact .inr (.inl slot)
  · exact .inr (.inr (.inl rfl))
  · exact .inr (.inr (.inr engine))

theorem second_to_nat {address : Address} (second : address ∈ Transfer.secondRegisters) :
    0xB012 ≤ address.toNat ∧ address.toNat ≤ 0xB014 := by
  simp only [Transfer.secondRegisters, List.mem_cons, List.not_mem_nil, or_false] at second
  rcases second with rfl | rfl | rfl <;> decide

theorem queued_to_nat {index : SlotIndex} {address : Address} (queued : Queued index address) :
    address.toNat = 0xC008 ∨ InBlockOf index address ∨ (0xB012 ≤ address.toNat ∧ address.toNat ≤ 0xB014) := by
  rcases queued with rfl | own | second
  · exact .inl rfl
  · exact .inr (.inl own)
  · exact .inr (.inr (second_to_nat second))

theorem steered_to_nat {address : Address} (member : address ∈ steered) : 0xB000 ≤ address.toNat ∧ address.toNat ≤ 0xB004 := by
  simp only [steered, List.mem_cons, List.not_mem_nil, or_false] at member
  rcases member with rfl | rfl | rfl | rfl | rfl <;> decide

theorem steered_in_engine {address : Address} (member : address ∈ steered) : InEngine address := by
  have place := steered_to_nat member
  unfold InEngine
  omega

theorem closing_to_nat {address : Address} (closing : Closing address) :
    (0xB000 ≤ address.toNat ∧ address.toNat ≤ 0xB01A) ∨ address.toNat = 0xC008 ∨ address.toNat = 0xC00A := by
  rcases closing with engine | rfl | rfl
  · exact .inl engine
  · exact .inr (.inl rfl)
  · exact .inr (.inr rfl)

section Apart

variable {index : SlotIndex} {address : Address}

theorem opening_apart (opening : Opening address) : ¬ IsCount address ∧ ¬ BeyondCounts address := by
  have place := opening_to_nat opening
  refine ⟨fun count => ?_, fun beyond => ?_⟩
  · have elsewhere := count_to_nat count
    omega
  · have elsewhere := beyond_to_nat beyond
    omega

theorem count_not_beyond (count : IsCount address) : ¬ BeyondCounts address := by
  intro beyond
  have place := count_to_nat count
  have elsewhere := beyond_to_nat beyond
  omega

theorem queued_apart (queued : Queued index address) : ¬ IsCount address ∧ address ∉ steered := by
  have place := queued_to_nat queued
  have bound := index.isLt
  unfold InBlockOf at place
  refine ⟨fun count => ?_, fun member => ?_⟩
  · have elsewhere := count_to_nat count
    omega
  · have elsewhere := steered_to_nat member
    omega

theorem own_of_queued (queued : Queued index address) (slot : InSlotBlock address) : InBlockOf index address := by
  unfold InSlotBlock at slot
  rcases queued_to_nat queued with control | own | second
  · omega
  · exact own
  · omega

theorem closing_apart (closing : Closing address) : ¬ IsCount address ∧ ¬ InSlotBlock address := by
  have place := closing_to_nat closing
  refine ⟨fun count => ?_, fun slot => ?_⟩
  · have elsewhere := count_to_nat count
    omega
  · unfold InSlotBlock at slot
    omega

end Apart

theorem filter_writes_away {effects : List Effect} {register : Address}
    (away : ∀ effect ∈ effects, ¬ effect.WritesTo (· = register)) :
    (effects.filterMap Effect.write?).filter (fun entry => entry.1 = register) = [] := by
  refine List.filter_eq_nil_iff.mpr fun entry member => ?_
  obtain ⟨effect, inside, written⟩ := List.mem_filterMap.mp member
  have silent := away effect inside
  cases effect with
  | call offset => cases written
  | operation op =>
      cases op with
      | read address value => cases written
      | wait address mask budget => cases written
      | write address value =>
          obtain rfl : (address, value) = entry := Option.some.inj written
          simpa [Effect.WritesTo] using silent

section Parts

variable {index : SlotIndex} {core : Byte × Byte} {opening queueing closing : List Effect}

def loadA (core : Byte × Byte) : Effect :=
  .operation (.write Reg.Backend.countA core.1)

def loadB (core : Byte × Byte) : Effect :=
  .operation (.write Reg.Backend.countB core.2)

def loads (core : Byte × Byte) : List Effect :=
  [loadA core, loadB core]

theorem loads_beyond_nothing : ∀ effect ∈ loads core, ¬ effect.WritesTo BeyondCounts := by
  intro effect member
  rcases List.mem_pair.mp member with rfl | rfl
  · exact count_not_beyond (.inl rfl)
  · exact count_not_beyond (.inr rfl)

theorem beyond_of_slot {effect : Effect} (writes : effect.WritesTo InSlotBlock) : effect.WritesTo BeyondCounts :=
  writes_to_wider (fun _ slot => .inr (.inl slot)) writes

theorem beyond_of_steered {effect : Effect} (writes : effect.WritesTo (· ∈ steered)) : effect.WritesTo BeyondCounts :=
  writes_to_wider (fun _ member => .inr (.inr (.inr (steered_in_engine member)))) writes

-- The counts stand between what may be written before them and what may be written after them.
structure Staged (index : SlotIndex) (opening queueing closing : List Effect) : Prop where
  opens : ∀ effect ∈ opening, effect.Within Opening
  queues : ∀ effect ∈ queueing, effect.Within (Queued index)
  closes : ∀ effect ∈ closing, effect.Within Closing

namespace Staged

variable (staged : Staged index opening queueing closing)

include staged

theorem opening_counts_nothing : ∀ effect ∈ opening, ¬ effect.WritesTo IsCount := fun effect member =>
  not_writes_of_within (fun _ opening => (opening_apart opening).1) (staged.opens effect member)

theorem opening_beyond_nothing : ∀ effect ∈ opening, ¬ effect.WritesTo BeyondCounts := fun effect member =>
  not_writes_of_within (fun _ opening => (opening_apart opening).2) (staged.opens effect member)

theorem later_counts_nothing : ∀ effect ∈ queueing ++ closing, ¬ effect.WritesTo IsCount := by
  refine List.forall_mem_append.mpr ⟨fun effect member => ?_, fun effect member => ?_⟩
  · exact not_writes_of_within (fun _ queued => (queued_apart queued).1) (staged.queues effect member)
  · exact not_writes_of_within (fun _ closing => (closing_apart closing).1) (staged.closes effect member)

theorem closing_fills_nothing : ∀ effect ∈ closing, ¬ effect.WritesTo InSlotBlock := fun effect member =>
  not_writes_of_within (fun _ closing => (closing_apart closing).2) (staged.closes effect member)

theorem count_writes {register : Address} (count : IsCount register) :
    ((opening ++ (loads core ++ (queueing ++ closing))).filterMap Effect.write?).filter (fun entry => entry.1 = register) =
      [(Reg.Backend.countA, core.1), (Reg.Backend.countB, core.2)].filter fun entry => entry.1 = register := by
  have isCount {effect : Effect} (writes : effect.WritesTo (· = register)) : effect.WritesTo IsCount :=
    writes_to_wider (fun _ same => same ▸ count) writes
  have sooner := filter_writes_away fun effect member writes => staged.opening_counts_nothing effect member (isCount writes)
  have later := filter_writes_away fun effect member writes => staged.later_counts_nothing effect member (isCount writes)
  have both : (loads core).filterMap Effect.write? = [(Reg.Backend.countA, core.1), (Reg.Backend.countB, core.2)] := rfl
  rw [List.filterMap_append, List.filterMap_append, List.filter_append, List.filter_append, sooner, later, both,
    List.nil_append, List.append_nil]

theorem counts_in_order :
    Precede (Effect.WritesTo (· = Reg.Backend.countA)) (Effect.WritesTo (· = Reg.Backend.countB))
      (opening ++ (loads core ++ (queueing ++ closing))) := by
  have split : opening ++ (loads core ++ (queueing ++ closing)) =
      (opening ++ [loadA core]) ++ (loadB core :: (queueing ++ closing)) := by simp [loads]
  rw [split]
  refine precede_of_split (List.forall_mem_append.mpr ⟨fun effect member writes => ?_, ?_⟩)
    (List.forall_mem_cons.mpr ⟨?_, fun effect member writes => ?_⟩)
  · exact staged.opening_counts_nothing effect member (writes_to_wider (fun _ => .inr) writes)
  · simp [loadA, Effect.WritesTo, Reg.Backend.countA, Reg.Backend.countB]
  · simp [loadB, Effect.WritesTo, Reg.Backend.countA, Reg.Backend.countB]
  · exact staged.later_counts_nothing effect member (writes_to_wider (fun _ => .inl) writes)

theorem counts_first :
    Precede (Effect.WritesTo IsCount) (Effect.WritesTo BeyondCounts) (opening ++ (loads core ++ (queueing ++ closing))) := by
  rw [← List.append_assoc]
  refine precede_of_split (List.forall_mem_append.mpr ⟨?_, loads_beyond_nothing⟩) staged.later_counts_nothing
  exact staged.opening_beyond_nothing

theorem own_block : ∀ effect ∈ opening ++ (loads core ++ (queueing ++ closing)),
    effect.WritesTo InSlotBlock → effect.WritesTo (InBlockOf index) := by
  refine List.forall_mem_append.mpr ⟨fun effect member slot => ?_, List.forall_mem_append.mpr ⟨fun effect member slot => ?_,
    List.forall_mem_append.mpr ⟨fun effect member slot => ?_, fun effect member slot => ?_⟩⟩⟩
  · exact absurd (beyond_of_slot slot) (staged.opening_beyond_nothing effect member)
  · exact absurd (beyond_of_slot slot) (loads_beyond_nothing effect member)
  · exact writes_to_meets (staged.queues effect member) slot fun _ => own_of_queued
  · exact absurd slot (staged.closing_fills_nothing effect member)

theorem slot_first :
    Precede (Effect.WritesTo InSlotBlock) (Effect.WritesTo (· ∈ steered)) (opening ++ (loads core ++ (queueing ++ closing))) := by
  have split : opening ++ (loads core ++ (queueing ++ closing)) = (opening ++ (loads core ++ queueing)) ++ closing := by
    simp
  rw [split]
  refine precede_of_split (List.forall_mem_append.mpr ⟨?_, List.forall_mem_append.mpr ⟨?_, ?_⟩⟩) staged.closing_fills_nothing
  · exact fun effect member writes => staged.opening_beyond_nothing effect member (beyond_of_steered writes)
  · exact fun effect member writes => loads_beyond_nothing effect member (beyond_of_steered writes)
  · exact fun effect member => not_writes_of_within (fun _ queued => (queued_apart queued).2) (staged.queues effect member)

theorem ordered : Ordered index core (opening ++ (loads core ++ (queueing ++ closing))) where
  countA := (staged.count_writes (.inl rfl)).trans rfl
  countB := (staged.count_writes (.inr rfl)).trans rfl
  countsInOrder := staged.counts_in_order
  countsFirst := staged.counts_first
  ownBlock := staged.own_block
  slotFirst := staged.slot_first

end Staged

end Parts

theorem queue_control_gains {request : Request} {state : State} {sight : Sight} {value : Byte}
    (written : .write Reg.Backend.queueControl value ∈ queueing request state sight) :
    ∃ held, .read Reg.Backend.queueControl held ∈ queueing request state sight ∧
      (value = held ||| Reg.Backend.queueBusy ∨ value = held ||| Reg.Backend.queueSecondaryUpdate) := by
  have own (offset : Address) (small : offset.toNat < 4) :
      Reg.Backend.queueControl ≠ state.ring.index.registers + offset := by
    intro same
    have place := congrArg UInt16.toNat same
    rw [SlotIndex.registers_to_nat _ small] at place
    have control : Reg.Backend.queueControl.toNat = 0xC008 := rfl
    omega
  have gains (held mask : Byte) : held.revise 0 mask = held ||| mask := by simp [Byte.revise]
  have control := own Reg.Backend.slotControl (by decide)
  have count := own Reg.Backend.slotCount (by decide)
  have status := own Reg.Backend.slotStatus (by decide)
  have low : Reg.Backend.queueControl ≠ Reg.Dma.secondLow := by decide
  have high : Reg.Backend.queueControl ≠ Reg.Dma.secondHigh := by decide
  have offset : Reg.Backend.queueControl ≠ Reg.Dma.bufferOffset := by decide
  rcases List.mem_append.mp written with arms | rest
  · have armed : state.ring.busy = false ∧ value = sight.arming ||| Reg.Backend.queueBusy := by
      rw [← gains]
      cases busy : state.ring.busy with
      | true => simp [arming, busy] at arms
      | false => simpa [arming, busy] using arms
    exact ⟨sight.arming, List.mem_append_left _ (by simp [arming, armed.1]), .inl armed.2⟩
  · have updated : request.action.isExtended = true ∧ value = sight.update ||| Reg.Backend.queueSecondaryUpdate := by
      rw [← gains]
      cases extended : request.action.isExtended with
      | true => simpa [filling, settling, updating, extended, control, count] using rest
      | false =>
          cases needs : request.needsCommand <;>
            simp [filling, settling, noting, resolving, extended, needs, control, count, status, low, high, offset] at rest
    exact ⟨sight.update, by simp [queueing, settling, updating, updated.1], .inr updated.2⟩

theorem placed_busy (request : Request) (state : State) : (placed request state).ring.busy = true := by
  unfold placed
  cases busy : state.ring.busy with
  | true => exact busy
  | false => rfl

theorem prepared_busy (request : Request) (state : State) (sight : Sight) : (prepared request state sight).ring.busy = true := by
  have counts (index : SlotIndex) (state : State) : (counted request index state).ring.busy = state.ring.busy := by
    unfold counted CommandRing.submitted
    cases request.needsCommand with
    | true => cases state.ring.isSaturated <;> rfl
    | false => rfl
  have routes (state : State) : (routed request sight state).ring = state.ring := by
    unfold routed
    cases request.action.isExtended <;> rfl
  rw [prepared, routes, counts]
  exact placed_busy request state

theorem parts_of_loading (core : Byte × Byte) (device : Byte) (later : List BusOp) :
    (loading core device ++ later).map Effect.operation =
      [.operation (.read Reg.Backend.deviceStatus device),
        .operation (.write Reg.Backend.deviceStatus (device.revise Reg.Backend.devicePending 0))] ++
      (loads core ++ later.map Effect.operation) := rfl

section Runs

variable (request : Request) (state : State) (sight : Sight) {checked : List Effect}

theorem ordered_of_checked {closing : List BusOp} (checks : ∀ effect ∈ checked, effect.Within (· ∈ Readiness.registers))
    (closes : ∀ op ∈ closing, (Effect.operation op).Within Closing) :
    Ordered state.ring.index state.coreState
      (checked ++ (preparing request state sight ++ closing).map Effect.operation) := by
  rw [preparing, List.append_assoc, parts_of_loading, List.map_append, ← List.append_assoc]
  refine Staged.ordered ⟨List.forall_mem_append.mpr ⟨fun effect member => ?_, ?_⟩, ?_, ?_⟩
  · exact within_wider (fun _ => .inl) (checks effect member)
  · simp [Effect.Within, Opening]
  · exact List.forall_mem_map.mpr (queueing_within request state sight)
  · exact List.forall_mem_map.mpr closes

theorem finishing_within : ∀ op ∈ finishing request state sight, (Effect.operation op).Within Closing := by
  refine List.forall_mem_cons.mpr ⟨.inl ⟨by decide, by decide⟩, List.forall_mem_append.mpr ⟨?_, ?_⟩⟩
  · exact fun op member => within_wider (fun _ => .inl) (operations_within_engine _ _ _ _ op member)
  · exact fun op member => within_wider (fun _ => .inr) (handing_within _ _ op member)

theorem delivered (checks : ∀ effect ∈ checked, effect.Within (· ∈ Readiness.registers)) :
    Ordered state.ring.index state.coreState (checked ++ (taking request state sight).map Effect.operation) ∧
      Delivers (handed request state sight).ring (checked ++ (taking request state sight).map Effect.operation) := by
  refine ⟨ordered_of_checked request state sight checks (finishing_within request state sight), ?_⟩
  let earlier := checked ++
    (preparing request state sight ++ Transfer.idling :: configuring request state sight).map Effect.operation
  have split : checked ++ (taking request state sight).map Effect.operation =
      earlier ++ (handing (handed request state sight).ring sight.closing).map Effect.operation := by
    simp [earlier, taking, finishing]
  rw [split]
  have steps : (handed request state sight).ring = (prepared request state sight).ring.step := rfl
  have busy := CommandRing.step_busy (prepared_busy request state sight)
  rw [← steps] at busy
  refine ⟨earlier, by simp [earlier], ?_⟩
  by_cases last : (handed request state sight).ring.counter = 0
  · have ended : (handed request state sight).ring.busy = false := by simpa [last] using busy
    refine .inr ⟨ended, sight.closing, ?_⟩
    rw [handing, if_pos last]
    rfl
  · refine .inl ⟨busy.mpr last, ?_⟩
    rw [handing, if_neg last]
    rfl

theorem halted (checks : ∀ effect ∈ checked, effect.Within (· ∈ Readiness.registers)) :
    Ordered state.ring.index state.coreState
        (checked ++ (preparing request state sight ++ [Transfer.idling]).map Effect.operation) ∧
      Halts (checked ++ (preparing request state sight ++ [Transfer.idling]).map Effect.operation) := by
  let run := checked ++ (preparing request state sight ++ [Transfer.idling]).map Effect.operation
  have queueing {address : Address} {value : Byte} (beyond : BeyondCounts address)
      (member : .operation (.write address value) ∈ run) : .write address value ∈ queueing request state sight := by
    have elsewhere : .operation (.write address value) ∉ checked := fun member =>
      (opening_apart (.inl (checks _ member))).2 beyond
    have device : address ≠ Reg.Backend.deviceStatus := fun same => (opening_apart (.inr same)).2 beyond
    have counts : ¬ IsCount address := fun count => count_not_beyond count beyond
    rw [IsCount, not_or] at counts
    simpa [run, elsewhere, preparing, loading, Transfer.idling, device, counts.1, counts.2] using member
  refine ⟨ordered_of_checked request state sight checks ?_, ?_, fun value member => ?_, fun value member => ?_⟩
  · simp [Transfer.idling, Effect.Within, Closing, InEngine, Reg.Dma.ready]
  · exact ⟨checked ++ (preparing request state sight).map Effect.operation, by simp⟩
  · have place := queued_to_nat (queueing_within request state sight _ (queueing (.inr (.inr (.inl rfl))) member))
    have issue : Reg.Backend.issue.toNat = 0xC00A := rfl
    unfold InBlockOf at place
    omega
  · obtain ⟨held, read, gains⟩ := queue_control_gains (queueing (.inl rfl) member)
    exact ⟨held, by simp [preparing, read], gains⟩

end Runs

-- An action that is taken is delivered in this order, or stays at the wait.
theorem submit_ordered [Bus β] (request : Request) {before : Controller (Recorder β)}
    (takes : Takes (submit request.param1 request.param2 request.action before)) : ∃ run,
    (ending (submit request.param1 request.param2 request.action before)).bus.effects = run.reverse ++ before.bus.effects ∧
      Ordered before.state.ring.index before.state.coreState run ∧
      ((∃ submission after, submit request.param1 request.param2 request.action before = .ok submission after ∧
          Delivers after.state.ring run) ∨
        (∃ after, submit request.param1 request.param2 request.action before = .error Transfer.unready after ∧ Halts run)) := by
  obtain ⟨between, checked, taken⟩ := taken_of_takes request takes
  generalize submit request.param1 request.param2 request.action before = result at taken ⊢
  have records : Records (· ∈ Readiness.registers) (fun _ _ _ => False) (Readiness.check : BridgeM (Recorder β) Readiness)
      Readiness.check := Readiness.check_records
  obtain ⟨made, adds, within⟩ := Recorder.effects_within (records.reaches (marked request.action before))
  have kept := congrArg (fun rest => rest.2.1) (check_spares request.action before)
  rw [checked] at adds kept
  have index : between.state.ring.index = before.state.ring.index := congrArg (fun state => state.ring.index) kept
  have core : between.state.coreState = before.state.coreState := congrArg (fun state => state.coreState) kept
  have checks : ∀ effect ∈ made.reverse, effect.Within (· ∈ Readiness.registers) := fun effect member =>
    within effect (List.mem_reverse.mp member)
  rw [← index, ← core]
  cases taken with
  | handedOff sight bus log path =>
      obtain ⟨ordered, delivers⟩ := delivered request between.state sight checks
      refine ⟨_, ?_, ordered, .inl ⟨_, _, rfl, delivers⟩⟩
      change bus.effects = _
      have sooner : between.bus.effects = made ++ before.bus.effects := adds
      rw [path.recorded, sooner, List.reverse_append, List.reverse_reverse, List.append_assoc]
  | unready sight bus log path =>
      obtain ⟨ordered, halts⟩ := halted request between.state sight checks
      refine ⟨_, ?_, ordered, .inr ⟨_, rfl, halts⟩⟩
      change bus.effects = _
      have sooner : between.bus.effects = made ++ before.bus.effects := adds
      rw [path.recorded, sooner, List.reverse_append, List.reverse_reverse, List.append_assoc]

end Submission

namespace Controller

-- what a pass reads of the transport before it submits
def listening (status : Byte) (core : Byte × Byte) (request : Request) : List BusOp :=
  [.read Reg.Transport.status status, .read Reg.Transport.coreLow core.1, .read Reg.Transport.coreHigh core.2,
    .read Reg.Transport.param1 request.param1, .read Reg.Transport.param2 request.param2]

theorem poll_submits [Bus β] (handler : EndpointHandler η β) (own : η) {before : Controller β} {request : Request}
    (unlatched : before.state.reset = none) (asked : Transport.request? before.bus = some request) :
    ∃ status core begun, Action.ofStatus? status = some request.action ∧
      begun.state = { before.state with scratch := 0, coreState := core } ∧
      Replays true before.bus (listening status core request) begun.bus ∧
      poll handler own before =
        (Submission.submit request.param1 request.param2 request.action >>= fun submission =>
          Endpoint.service handler own >>= fun served => pure (.done (some submission) served.1, served.2)) begun := by
  let seen := Bus.read before.bus Reg.Transport.status
  let counted : Controller β :=
    { before with statistics := { before.statistics with passes := countUp before.statistics.passes } }
  let told : Controller β := { counted with bus := seen.2 }
  obtain ⟨action, status, rfl⟩ := Option.map_eq_some_iff.mp asked
  have classified : Transport.classify counted =
      (Transport.perform seen.1 action >>= fun submission => pure (some submission)) told := by
    simp only [Transport.classify, bind_read, counted]
    rw [status]
  obtain ⟨core, begun, performed, state, path⟩ : ∃ core begun,
      Transport.perform seen.1 action told =
          Submission.submit (Transport.parameters seen.2).1 (Transport.parameters seen.2).2 action begun ∧
        begun.state = { before.state with scratch := 0, coreState := core } ∧
        Replays true before.bus (listening seen.1 core
          { action, param1 := (Transport.parameters seen.2).1, param2 := (Transport.parameters seen.2).2 }) begun.bus :=
    ⟨(_, _), _, rfl, rfl, rfl, rfl, rfl, rfl, rfl, rfl⟩
  refine ⟨seen.1, core, begun, status, state, path, ?_⟩
  unfold poll
  rw [bind_get_state, unlatched]
  have polled := bind_of_same classified fun submission =>
    Endpoint.service handler own >>= fun served => pure (Pass.done submission served.1, served.2)
  rw [bind_assoc] at polled
  exact polled.trans (bind_of_same performed _)

variable [Bus β]

-- A pass hears the transport, runs the submission and serves endpoints.
structure Presents (handler : EndpointHandler η β) (own : η) (before : Controller β) (core : Byte × Byte)
    (run served : List Effect) : Prop where
  heard : ∃ status request, ∃ begun : Controller (Recorder β),
    Action.ofStatus? status = some request.action ∧ Transport.request? before.bus = some request ∧
      begun.bus.effects = ((listening status core request).map Effect.operation).reverse ∧
      (ending (Submission.submit request.param1 request.param2 request.action begun)).bus.effects =
        ((listening status core request).map Effect.operation ++ run).reverse ∧
      BridgeM.effects (poll handler.recorded own) before = (listening status core request).map Effect.operation ++ run ++ served
  endpoints : ∀ effect ∈ served, effect.Within (· ∈ Endpoint.registers)

theorem recorded_of_polled {handler : EndpointHandler η β} {own own' : η} {before after : Controller β} {pass : Pass}
    (ended : poll handler own before = .ok (pass, own') after) :
    ∃ recorded, poll handler.recorded own before.recorded = .ok (pass, own') recorded ∧ recorded.forget = after := by
  have same := (poll_records handler own).same before.recorded
  cases polled : poll handler.recorded own before.recorded with
  | error stall recorded =>
      rw [polled] at same
      cases same.trans ended
  | ok value recorded =>
      rw [polled] at same
      cases same.trans ended
      exact ⟨recorded, rfl, rfl⟩

theorem recorded_of_stalled {handler : EndpointHandler η β} {own : η} {before after : Controller β} {stall : Stall}
    (ended : poll handler own before = .error stall after) :
    ∃ recorded, poll handler.recorded own before.recorded = .error stall recorded := by
  have same := (poll_records handler own).same before.recorded
  cases polled : poll handler.recorded own before.recorded with
  | ok value recorded =>
      rw [polled] at same
      cases same.trans ended
  | error stall recorded =>
      rw [polled] at same
      cases same.trans ended
      exact ⟨recorded, rfl⟩

theorem presents_of_effects {handler : EndpointHandler η β} {own : η} {before : Controller β} {status : Byte}
    {core : Byte × Byte} {request : Request} {begun : Controller (Recorder β)} {run served : List Effect}
    (asks : Action.ofStatus? status = some request.action) (asked : Transport.request? before.bus = some request)
    (path : Replays true before.recorded.bus (listening status core request) begun.bus)
    (adds : (ending (Submission.submit request.param1 request.param2 request.action begun)).bus.effects =
      run.reverse ++ begun.bus.effects)
    (serves : (ending (poll handler.recorded own before.recorded)).bus.effects =
      served.reverse ++ (ending (Submission.submit request.param1 request.param2 request.action begun)).bus.effects)
    (endpoints : ∀ effect ∈ served, effect.Within (· ∈ Endpoint.registers)) : Presents handler own before core run served := by
  have heard : begun.bus.effects = ((listening status core request).map Effect.operation).reverse :=
    path.recorded.trans (List.append_nil _)
  rw [heard, ← List.reverse_append] at adds
  refine ⟨⟨status, request, begun, asks, asked, heard, adds, ?_⟩, endpoints⟩
  rw [BridgeM.effects, serves, adds, ← List.reverse_append, List.reverse_reverse]

theorem delivered_pass_ordered {handler : EndpointHandler η β} {own own' : η} {before after : Controller β}
    {submission : Submission} {endpoints : ServiceSummary}
    (ended : poll handler own before = .ok (.done (some submission) endpoints, own') after)
    (accepts : submission.accepts = true) :
    ∃ core run served, Presents handler own before core run served ∧
      Submission.Ordered before.state.ring.index core run ∧ Submission.Delivers after.state.ring run := by
  obtain ⟨recorded, polled, rfl⟩ := recorded_of_polled ended
  have passed := poll_passed handler.recorded own before.recorded
  rw [polled] at passed
  cases passed with
  | answered request _ _ _ _ _ _ unlatched asked =>
      obtain ⟨status, core, begun, asks, state, path, runs⟩ := poll_submits handler.recorded own unlatched asked
      obtain ⟨taken, between, submitted, rest⟩ := ok_of_bind (runs.symm.trans polled)
      obtain ⟨_, _, serves, answered⟩ := ok_of_bind rest
      cases answered
      have takes : Submission.Takes (Submission.submit request.param1 request.param2 request.action begun) := by
        rw [submitted]
        exact accepts
      obtain ⟨run, adds, ordered, ⟨_, _, same, delivers⟩ | ⟨_, stalls, -⟩⟩ := Submission.submit_ordered request takes
      · cases submitted.symm.trans same
        rw [state] at ordered
        obtain ⟨made, served, within⟩ := Recorder.effects_within ((Endpoint.service_records handler own).reaches between)
        rw [serves] at served
        have ring : recorded.state.ring = between.state.ring :=
          congrArg (fun rest => rest.2.1.ring) (keeps_ok (Endpoint.service_keeps handler.recorded own) serves)
        refine ⟨core, run, made.reverse, presents_of_effects asks asked path adds ?_ fun effect member => ?_, ordered, ?_⟩
        · rw [polled, submitted, List.reverse_reverse]
          exact served
        · exact within effect (List.mem_reverse.mp member)
        · exact ring.symm ▸ delivers
      · cases submitted.symm.trans stalls

theorem halted_pass_ordered {handler : EndpointHandler η β} {own : η} {before after : Controller β}
    (ended : poll handler own before = .error Transfer.unready after) :
    ∃ core run, Presents handler own before core run [] ∧
      Submission.Ordered before.state.ring.index core run ∧ Submission.Halts run := by
  obtain ⟨recorded, polled⟩ := recorded_of_stalled ended
  have passed := poll_passed handler.recorded own before.recorded
  rw [polled] at passed
  cases passed with
  | stalled request _ _ _ unlatched asked =>
      obtain ⟨status, core, begun, asks, state, path, runs⟩ := poll_submits handler.recorded own unlatched asked
      cases submitted : Submission.submit request.param1 request.param2 request.action begun with
      | ok submission between =>
          obtain ⟨endpoints, own', after, served⟩ := service_answers handler.recorded own between
          rw [bind_of_ok submitted, bind_of_ok served, polled] at runs
          cases runs
      | error stall stopped =>
          rw [bind_of_error submitted, polled] at runs
          cases runs
          have takes : Submission.Takes (Submission.submit request.param1 request.param2 request.action begun) := by
            rw [submitted]
            rfl
          obtain ⟨run, adds, ordered, ⟨_, _, same, -⟩ | ⟨_, _, halts⟩⟩ := Submission.submit_ordered request takes
          · cases submitted.symm.trans same
          · rw [state] at ordered
            refine ⟨core, run, presents_of_effects asks asked path adds ?_ (List.forall_mem_nil _), ordered, halts⟩
            rw [polled, submitted]
            rfl

theorem pass_counts_first_hand_off_last (handler : EndpointHandler η β) (own : η) (before : Controller β) :
    (∀ submission endpoints own' after, poll handler own before = .ok (.done (some submission) endpoints, own') after →
      submission.accepts = true → ∃ core run served, Presents handler own before core run served ∧
        Submission.Ordered before.state.ring.index core run ∧ Submission.Delivers after.state.ring run) ∧
      (∀ after, poll handler own before = .error Transfer.unready after →
        ∃ core run, Presents handler own before core run [] ∧
          Submission.Ordered before.state.ring.index core run ∧ Submission.Halts run) :=
  ⟨fun _ _ _ _ ended accepts => delivered_pass_ordered ended accepts, fun _ ended => halted_pass_ordered ended⟩

omit [Bus β] in
theorem ended_of_verdict {α : Type} {result : EStateM.Result Stall (Controller β) α} {value : α}
    (told : verdict result = .ok value) : ∃ after, result = .ok value after := by
  cases result with
  | ok answer after =>
      cases told
      exact ⟨after, rfl⟩
  | error stall after => cases told

omit [Bus β] in
theorem stalled_of_verdict {α : Type} {result : EStateM.Result Stall (Controller β) α} {stall : Stall}
    (told : verdict result = .error stall) : ∃ after, result = .error stall after := by
  cases result with
  | ok answer after => cases told
  | error named after =>
      cases told
      exact ⟨after, rfl⟩

-- hardware on which the engine never becomes idle
def engagedPins : Pins where
  shown address := if address = Reg.Dma.ready then 0 else (Pins.asking 0).shown address

theorem pins_counts_first_hand_off_last :
    let handler : EndpointHandler Unit Pins := fun _ own bus => (own, bus)
    let idle := Controller.start (Pins.asking 0) .reference
    let engaged := Controller.start engagedPins .reference
    (∃ endpoints after, poll handler () idle = .ok (.done (some .queued) endpoints, ()) after ∧
      ∃ core run served, Presents handler () idle core run served ∧
        Submission.Ordered 0 core run ∧ Submission.Delivers after.state.ring run) ∧
      ∃ after, poll handler () engaged = .error Transfer.unready after ∧
        ∃ core run, Presents handler () engaged core run [] ∧ Submission.Ordered 0 core run ∧ Submission.Halts run := by
  intro handler idle engaged
  have queues : verdict (poll handler () idle) = .ok (.done (some .queued) { handled := 0, exhausted := false }, ()) := by
    decide +kernel
  have waits : verdict (poll handler () engaged) = .error Transfer.unready := by decide +kernel
  obtain ⟨after, delivered⟩ := ended_of_verdict queues
  obtain ⟨stopped, stalled⟩ := stalled_of_verdict waits
  refine ⟨⟨_, after, delivered, ?_⟩, stopped, stalled, ?_⟩
  · exact (pass_counts_first_hand_off_last handler () idle).1 .queued _ () after delivered rfl
  · exact (pass_counts_first_hand_off_last handler () engaged).2 stopped stalled

end Controller

end StorageBridge
