import StorageBridge.Proofs.Boards

/-!
Draining the endpoints of a simulated board. While the group registers clear by ones and the handler
drops a group that it empties from the first bitmap, a service call serves the 32 lowest pending
endpoints in order, and two calls serve all that are pending.
-/

set_option autoImplicit false

namespace StorageBridge

open BridgeM

variable {η : Type}

theorem cons_filter_of_least {offsets : List Nat} (increasing : offsets.Pairwise (· < ·)) {least : Nat}
    (head : offsets.head? = some least) : offsets = least :: offsets.filter (· ≠ least) := by
  cases offsets with
  | nil => cases head
  | cons first rest =>
      obtain rfl : first = least := Option.some.inj head
      have above := (List.pairwise_cons.mp increasing).1
      have kept : rest.filter (· ≠ first) = rest :=
        List.filter_eq_self.mpr fun offset member => decide_eq_true (Nat.ne_of_gt (above offset member))
      rw [List.filter_cons_of_neg (by simp), kept]

namespace EndpointIndex

theorem lowest_none_iff (bitmap : Byte) : lowest? bitmap = none ↔ bitmap = 0 := by
  have table : ∀ raw : Fin 256, lowest? (UInt8.ofFin raw) = none ↔ UInt8.ofFin raw = 0 := by decide +kernel
  exact table bitmap.toFin

theorem lowest_some {bitmap : Byte} {index : EndpointIndex} (found : lowest? bitmap = some index) :
    bitmap.toNat.testBit index.val = true ∧ ∀ lower : EndpointIndex, lower < index → bitmap.toNat.testBit lower.val = false := by
  have table : ∀ (raw : Fin 256) (index : EndpointIndex), lowest? (UInt8.ofFin raw) = some index →
      (UInt8.ofFin raw).toNat.testBit index.val = true ∧
        ∀ lower : EndpointIndex, lower < index → (UInt8.ofFin raw).toNat.testBit lower.val = false := by decide +kernel
  exact table bitmap.toFin index found

theorem test_bit_acknowledged (bitmap : Byte) (index other : EndpointIndex) :
    (bitmap &&& ~~~index.bit).toNat.testBit other.val = (bitmap.toNat.testBit other.val && decide (other ≠ index)) := by
  have mask : ∀ index other : EndpointIndex, (~~~index.bit).toNat.testBit other.val = decide (other ≠ index) := by
    decide +kernel
  rw [UInt8.toNat_and, Nat.testBit_and, mask]

-- only the last bit leaves nothing behind
theorem acknowledged_eq_zero_iff {bitmap : Byte} {index : EndpointIndex} (set : bitmap.toNat.testBit index.val = true) :
    bitmap &&& ~~~index.bit = 0 ↔ bitmap = index.bit := by
  have table : ∀ (raw : Fin 256) (index : EndpointIndex), (UInt8.ofFin raw).toNat.testBit index.val = true →
      (UInt8.ofFin raw &&& ~~~index.bit = 0 ↔ UInt8.ofFin raw = index.bit) := by decide +kernel
  exact table bitmap.toFin index set

theorem group_register_inj : ∀ group other : EndpointIndex, group.groupRegister = other.groupRegister → group = other := by
  decide +kernel

theorem group_register_ne_status : ∀ group : EndpointIndex, group.groupRegister ≠ Reg.Endpoint.status := by
  decide +kernel

end EndpointIndex

namespace Board

-- Endpoint `offset % 8` of group `offset / 8` is ready.
def pends (board : Board) (offset : Nat) : Bool :=
  (board.peek (Reg.Endpoint.base + UInt16.ofNat (offset / 8))).toNat.testBit (offset % 8)

-- the offsets whose bits are set in the group registers, lowest first
def pending (board : Board) : List Nat :=
  (List.range 64).filter board.pends

-- The first bitmap names the groups that are not empty, and the group registers clear by ones.
structure Bitmapped (board : Board) : Prop where
  oneToClear : ∀ group : EndpointIndex, group.groupRegister ∈ board.oneToClear
  groups : ∀ group : EndpointIndex,
    (board.peek Reg.Endpoint.status).toNat.testBit group.val = true ↔ board.peek group.groupRegister ≠ 0

def ready? (board : Board) : Option (EndpointIndex × EndpointIndex) :=
  match EndpointIndex.lowest? (board.peek Reg.Endpoint.status) with
  | none => none
  | some group => (EndpointIndex.lowest? (board.peek group.groupRegister)).map fun endpoint => (group, endpoint)

variable {board : Board} {group endpoint : EndpointIndex}

theorem pending_increases (board : Board) : board.pending.Pairwise (· < ·) :=
  List.pairwise_lt_range.filter _

theorem pending_length_le (board : Board) : board.pending.length ≤ 64 :=
  (List.length_filter_le _ _).trans List.length_range.le

theorem pends_split (board : Board) {offset : Nat} (small : offset < 64) : ∃ group endpoint : EndpointIndex,
    offset = 8 * group.val + endpoint.val ∧ board.pends offset = (board.peek group.groupRegister).toNat.testBit endpoint.val :=
  ⟨⟨offset / 8, by omega⟩, ⟨offset % 8, by omega⟩, (Nat.div_add_mod offset 8).symm, rfl⟩

theorem pends_at (board : Board) (group endpoint : EndpointIndex) :
    board.pends (8 * group.val + endpoint.val) = (board.peek group.groupRegister).toNat.testBit endpoint.val := by
  have quotient : (8 * group.val + endpoint.val) / 8 = group.val := by omega
  have remainder : (8 * group.val + endpoint.val) % 8 = endpoint.val := by omega
  rw [pends, quotient, remainder]
  rfl

theorem ready_none (bitmapped : board.Bitmapped) (idle : board.ready? = none) : board.pending = [] := by
  have empty (group : EndpointIndex) : board.peek group.groupRegister = 0 := by
    cases first : EndpointIndex.lowest? (board.peek Reg.Endpoint.status) with
    | none =>
        have clear := (EndpointIndex.lowest_none_iff _).mp first
        by_contra nonempty
        simpa [clear] using (bitmapped.groups group).mpr nonempty
    | some lowest =>
        have nonempty := (bitmapped.groups lowest).mp (EndpointIndex.lowest_some first).1
        simp only [ready?, first, Option.map_eq_none_iff] at idle
        exact absurd ((EndpointIndex.lowest_none_iff _).mp idle) nonempty
  refine List.filter_eq_nil_iff.mpr fun offset member => ?_
  obtain ⟨group, endpoint, rfl, pends⟩ := board.pends_split (List.mem_range.mp member)
  simp [pends, empty group]

theorem ready_some (bitmapped : board.Bitmapped) (ready : board.ready? = some (group, endpoint)) :
    board.pends (8 * group.val + endpoint.val) = true ∧
      ∀ lower < 8 * group.val + endpoint.val, board.pends lower = false := by
  cases first : EndpointIndex.lowest? (board.peek Reg.Endpoint.status) with
  | none => simp [ready?, first] at ready
  | some lowest =>
      simp only [ready?, first, Option.map_eq_some_iff, Prod.mk.injEq] at ready
      obtain ⟨_, second, rfl, rfl⟩ := ready
      obtain ⟨_, groupsBelow⟩ := EndpointIndex.lowest_some first
      obtain ⟨set, endpointsBelow⟩ := EndpointIndex.lowest_some second
      refine ⟨(board.pends_at _ _).trans set, fun lower less => ?_⟩
      have small : lower < 64 := by omega
      obtain ⟨other, index, rfl, pends⟩ := board.pends_split small
      rw [pends]
      by_cases same : other = lowest
      · subst same
        exact endpointsBelow index (Fin.lt_def.mpr (by omega))
      · -- a lower group is not in the first bitmap, so its register is empty
        have empty : board.peek other.groupRegister = 0 := by
          by_contra nonempty
          have named := (bitmapped.groups other).mpr nonempty
          have different := Fin.val_ne_of_ne same
          rw [groupsBelow other (Fin.lt_def.mpr (by omega))] at named
          cases named
        simp [empty]

-- The two bitmaps lead to the lowest pending endpoint.
theorem pending_of_ready (bitmapped : board.Bitmapped) (ready : board.ready? = some (group, endpoint)) :
    board.pending.head? = some (8 * group.val + endpoint.val) := by
  obtain ⟨pends, below⟩ := ready_some bitmapped ready
  rw [pending, List.head?_filter, List.find?_range_eq_some]
  exact ⟨pends, List.mem_range.mpr (by omega), fun lower less => by simp [below lower less]⟩

-- what acknowledging an endpoint leaves in the group registers
theorem peek_acknowledged (marked : group.groupRegister ∈ board.oneToClear) (endpoint other : EndpointIndex) :
    (Bus.write board group.groupRegister endpoint.bit).peek other.groupRegister =
      if other = group then board.peek group.groupRegister &&& ~~~endpoint.bit else board.peek other.groupRegister := by
  by_cases same : other = group
  · subst same
    have cleared : board.written other.groupRegister endpoint.bit = board.peek other.groupRegister &&& ~~~endpoint.bit :=
      if_pos marked
    rw [if_pos rfl, ← cleared]
    exact (Memory.peek_poke _ _ _ _).trans (if_pos rfl)
  · rw [if_neg same]
    exact peek_write_other (fun equal => same (EndpointIndex.group_register_inj _ _ equal).symm) _

theorem pending_acknowledged (marked : group.groupRegister ∈ board.oneToClear) (endpoint : EndpointIndex) :
    (Bus.write board group.groupRegister endpoint.bit).pending =
      board.pending.filter (· ≠ 8 * group.val + endpoint.val) := by
  rw [pending, pending, List.filter_filter]
  refine List.filter_congr fun offset member => ?_
  obtain ⟨other, index, rfl, pends⟩ := board.pends_split (List.mem_range.mp member)
  rw [pends, pends_at, peek_acknowledged marked]
  by_cases same : other = group
  · subst same
    rw [if_pos rfl, EndpointIndex.test_bit_acknowledged, Bool.and_comm]
    congr 1
    simp only [ne_eq, Nat.add_left_cancel_iff, Fin.val_inj]
  · have different := Fin.val_ne_of_ne same
    have apart : 8 * other.val + index.val ≠ 8 * group.val + endpoint.val := by omega
    rw [if_neg same, decide_eq_true apart, Bool.true_and]

end Board

-- A handler that drops the group from the first bitmap when it serves the last endpoint of the group.
structure Clears (handler : EndpointHandler η Board) : Prop where
  status : ∀ (group endpoint : EndpointIndex) own board,
    (handler (EndpointIndex.offset group endpoint) own board).2.peek Reg.Endpoint.status =
      if board.peek group.groupRegister = endpoint.bit then board.peek Reg.Endpoint.status &&& ~~~group.bit
      else board.peek Reg.Endpoint.status
  groups : ∀ (group endpoint : EndpointIndex) own board,
    (handler (EndpointIndex.offset group endpoint) own board).2.shown Endpoint.registers = board.shown Endpoint.registers

namespace Board

variable {handler : EndpointHandler η Board} {board : Board} {group endpoint : EndpointIndex}

theorem shown_group {a b : Board} (same : a.shown Endpoint.registers = b.shown Endpoint.registers) (group : EndpointIndex) :
    a.peek group.groupRegister = b.peek group.groupRegister ∧
      (group.groupRegister ∈ a.oneToClear ↔ group.groupRegister ∈ b.oneToClear) :=
  shown_eq_iff.mp same group.groupRegister (Endpoint.group_inside group)

theorem pending_of_shown {a b : Board} (same : a.shown Endpoint.registers = b.shown Endpoint.registers) :
    a.pending = b.pending := by
  refine List.filter_congr fun offset member => ?_
  obtain ⟨group, endpoint, rfl, pends⟩ := a.pends_split (List.mem_range.mp member)
  rw [pends, pends_at, (shown_group same group).1]

-- the board after a handler call and its acknowledgement
def served (handler : EndpointHandler η Board) (group endpoint : EndpointIndex) (own : η) (board : Board) : Board :=
  Bus.write (handler (EndpointIndex.offset group endpoint) own board).2 group.groupRegister endpoint.bit

theorem bitmapped_served (clears : Clears handler) (bitmapped : board.Bitmapped)
    (ready : board.ready? = some (group, endpoint)) (own : η) : (board.served handler group endpoint own).Bitmapped := by
  have shown := shown_group (clears.groups group endpoint own board)
  have marked : group.groupRegister ∈ (handler (EndpointIndex.offset group endpoint) own board).2.oneToClear :=
    (shown group).2.mpr (bitmapped.oneToClear group)
  have set : (board.peek group.groupRegister).toNat.testBit endpoint.val = true :=
    (board.pends_at _ _).symm.trans (ready_some bitmapped ready).1
  refine ⟨fun other => (shown other).2.mpr (bitmapped.oneToClear other), fun other => ?_⟩
  rw [served, peek_write_other (EndpointIndex.group_register_ne_status group), clears.status, peek_acknowledged marked,
    (shown group).1, (shown other).1]
  by_cases last : board.peek group.groupRegister = endpoint.bit
  · rw [if_pos last, EndpointIndex.test_bit_acknowledged]
    by_cases same : other = group
    · subst same
      simp [(EndpointIndex.acknowledged_eq_zero_iff set).mpr last]
    · rw [if_neg same, decide_eq_true same, Bool.and_true]
      exact bitmapped.groups other
  · rw [if_neg last]
    by_cases same : other = group
    · subst same
      have nonempty : board.peek other.groupRegister ≠ 0 := by
        intro empty
        simp [empty] at set
      have more := (not_congr (EndpointIndex.acknowledged_eq_zero_iff set)).mpr last
      rw [if_pos rfl]
      exact iff_of_true ((bitmapped.groups other).mpr nonempty) more
    · rw [if_neg same]
      exact bitmapped.groups other

theorem pending_served (clears : Clears handler) (bitmapped : board.Bitmapped)
    (ready : board.ready? = some (group, endpoint)) (own : η) :
    board.pending = (8 * group.val + endpoint.val) :: (board.served handler group endpoint own).pending := by
  have calm := clears.groups group endpoint own board
  have marked := (shown_group calm group).2.mpr (bitmapped.oneToClear group)
  rw [served, pending_acknowledged marked, pending_of_shown calm]
  exact cons_filter_of_least board.pending_increases (pending_of_ready bitmapped ready)

end Board

def Effect.call? : Effect → Option Byte
  | call offset => some offset
  | _ => none

namespace Recorder

variable {β : Type}

-- the handler calls, oldest first
def calls (recorder : Recorder β) : List Byte :=
  recorder.effects.reverse.filterMap Effect.call?

@[simp] theorem calls_read [Bus β] (recorder : Recorder β) (address : Address) :
    (Bus.read recorder address).2.calls = recorder.calls := by
  simp [calls, Bus.read, record, Effect.call?]

@[simp] theorem calls_write [Bus β] (recorder : Recorder β) (address : Address) (value : Byte) :
    (Bus.write recorder address value).calls = recorder.calls := by
  simp [calls, Bus.write, record, Effect.call?]

@[simp] theorem calls_call (recorder : Recorder β) (offset : Byte) (bus : β) :
    (recorder.record (.call offset) bus).calls = recorder.calls ++ [offset] := by
  simp [calls, record, Effect.call?]

end Recorder

namespace Endpoint

variable {handler : EndpointHandler η Board}

theorem next_ready_answers (before : Controller (Recorder Board)) : ∃ after,
    nextReady before = .ok before.bus.bus.ready? after ∧ after.bus.bus = before.bus.bus ∧ after.bus.calls = before.bus.calls := by
  have seen (address : Address) : (Bus.read before.bus address).1 = before.bus.bus.peek address := rfl
  rw [nextReady, bind_read, seen, Board.ready?]
  cases EndpointIndex.lowest? (before.bus.bus.peek Reg.Endpoint.status) with
  | none => exact ⟨_, rfl, rfl, Recorder.calls_read _ _⟩
  | some group => exact ⟨_, rfl, rfl, (Recorder.calls_read _ _).trans (Recorder.calls_read _ _)⟩

theorem serve_answers (handler : EndpointHandler η Board) (group endpoint : EndpointIndex) (own : η)
    (before : Controller (Recorder Board)) : ∃ own' after,
    serve handler.recorded group endpoint own before = .ok own' after ∧
      after.bus.bus = before.bus.bus.served handler group endpoint own ∧
      after.bus.calls = before.bus.calls ++ [EndpointIndex.offset group endpoint] :=
  ⟨_, _, rfl, rfl, (Recorder.calls_write _ _ _).trans (Recorder.calls_call _ _ _)⟩

-- The rounds eat the pending endpoints from the front.
theorem rounds_drain (clears : Clears handler) (rounds : Nat) (own : η) (before : Controller (Recorder Board))
    (bitmapped : before.bus.bus.Bitmapped) : ∃ own' after,
    serviceRounds handler.recorded rounds own before = .ok (min rounds before.bus.bus.pending.length, own') after ∧
      after.bus.bus.Bitmapped ∧ after.bus.bus.pending = before.bus.bus.pending.drop rounds ∧
      after.bus.calls.map UInt8.toNat = before.bus.calls.map UInt8.toNat ++ before.bus.bus.pending.take rounds := by
  induction rounds generalizing own before with
  | zero => exact ⟨own, before, by rw [Nat.zero_min]; rfl, bitmapped, rfl, by simp⟩
  | succ rounds ih =>
      obtain ⟨looked, answered, sameBus, sameCalls⟩ := next_ready_answers before
      rw [serviceRounds, bind_of_ok answered]
      cases ready : before.bus.bus.ready? with
      | none =>
          have nothing := Board.ready_none bitmapped ready
          refine ⟨own, looked, ?_, ?_, ?_, ?_⟩
          · rw [nothing, List.length_nil, Nat.min_zero]
            rfl
          · rwa [sameBus]
          · rw [sameBus, nothing, List.drop_nil]
          · rw [sameCalls, nothing, List.take_nil, List.append_nil]
      | some found =>
          obtain ⟨group, endpoint⟩ := found
          obtain ⟨moved, between, served, bus, called⟩ := serve_answers handler group endpoint own looked
          rw [sameBus] at bus
          have split := Board.pending_served clears bitmapped ready own
          have kept := Board.bitmapped_served clears bitmapped ready own
          rw [← bus] at split kept
          obtain ⟨own', after, finished, bitmapped', left, calls⟩ := ih moved between kept
          refine ⟨own', after, ?_, bitmapped', ?_, ?_⟩
          · simp only [bind_of_ok served, bind_of_ok finished]
            rw [split, List.length_cons, Nat.add_min_add_right]
            rfl
          · rw [left, split, List.drop_succ_cons]
          · rw [calls, called, sameCalls, split, List.take_succ_cons, List.map_append, List.append_assoc, List.map_singleton,
              EndpointIndex.offset_to_nat]
            rfl

-- what a service call calls, in order
def calls {β : Type} [Bus β] (handler : EndpointHandler η β) (own : η) (before : Controller β) : List Byte :=
  (BridgeM.effects (service handler.recorded own) before).filterMap Effect.call?

-- A service call that serves the 32 lowest pending endpoints, each once and in order, and no other.
structure Drains (handler : EndpointHandler η Board) (own : η) (before after : Controller Board) : Prop where
  answers : ∃ own', service handler own before =
    .ok ({ handled := min 32 before.bus.pending.length, exhausted := decide (32 ≤ before.bus.pending.length) }, own') after
  called : (calls handler own before).map UInt8.toNat = before.bus.pending.take 32
  increasing : (calls handler own before).Pairwise (· < ·)
  left : after.bus.pending = before.bus.pending.drop 32
  bitmapped : after.bus.Bitmapped

theorem service_drains (clears : Clears handler) (own : η) (before : Controller Board) (bitmapped : before.bus.Bitmapped) :
    ∃ after, Drains handler own before after := by
  obtain ⟨own', last, finished, kept, left, called⟩ := rounds_drain clears serviceBudget own before.recorded bitmapped
  change serviceRounds _ _ _ _ = .ok (min 32 before.bus.pending.length, own') last at finished
  change last.bus.calls.map UInt8.toNat = before.bus.pending.take 32 at called
  change last.bus.bus.pending = before.bus.pending.drop 32 at left
  have ended : ∃ after, service handler.recorded own before.recorded =
      .ok ({ handled := min 32 before.bus.pending.length, exhausted := decide (32 ≤ before.bus.pending.length) }, own') after ∧
        after.bus = last.bus := by
    rw [service, bind_of_ok finished]
    by_cases full : 32 ≤ before.bus.pending.length
    · rw [Nat.min_eq_left full, decide_eq_true full]
      exact ⟨_, rfl, rfl⟩
    · rw [decide_eq_false full]
      dsimp only
      rw [if_neg (by unfold serviceBudget; omega)]
      exact ⟨_, rfl, rfl⟩
  obtain ⟨after, answered, sameBus⟩ := ended
  have plain := (service_records handler own).same before.recorded
  rw [answered] at plain
  have made : (calls handler own before).map UInt8.toNat = before.bus.pending.take 32 := by
    rw [← called, ← sameBus, calls, BridgeM.effects, answered]
    rfl
  refine ⟨after.forget, ⟨own', plain.symm⟩, made, ?_, ?_, ?_⟩
  · have sorted := before.bus.pending_increases.sublist (List.take_sublist 32 _)
    rw [← made, List.pairwise_map] at sorted
    exact sorted.imp fun less => UInt8.lt_iff_toNat_lt.mpr less
  · change after.bus.bus.pending = _
    rw [sameBus, left]
  · change after.bus.bus.Bitmapped
    rwa [sameBus]

end Endpoint

open Endpoint

-- At most 64 endpoints are pending, so two calls reach them all; a third finds none.
theorem service_drains_pending_in_order {handler : EndpointHandler η Board} (clears : Clears handler) (first : Controller Board)
    (bitmapped : first.bus.Bitmapped) (own : η) :
    first.bus.pending.Pairwise (· < ·) ∧ first.bus.pending.length ≤ 64 ∧
    ∃ second, Drains handler own first second ∧ ∀ next, ∃ third, Drains handler next second third ∧
      (calls handler own first ++ calls handler next second).map UInt8.toNat = first.bus.pending ∧ third.bus.pending = [] ∧
      ∀ last, ∃ fourth, Drains handler last third fourth ∧ calls handler last third = [] := by
  obtain ⟨second, one⟩ := service_drains clears own first bitmapped
  refine ⟨first.bus.pending_increases, first.bus.pending_length_le, second, one, fun next => ?_⟩
  obtain ⟨third, two⟩ := service_drains clears next second one.bitmapped
  have rest : second.bus.pending.length ≤ 32 := by
    have bound := first.bus.pending_length_le
    rw [one.left, List.length_drop]
    omega
  have empty : third.bus.pending = [] := by
    rw [two.left]
    exact List.drop_eq_nil_of_le rest
  refine ⟨third, two, ?_, empty, fun last => ?_⟩
  · rw [List.map_append, one.called, two.called, List.take_of_length_le rest, one.left, List.take_append_drop]
  · obtain ⟨fourth, three⟩ := service_drains clears last third two.bitmapped
    have nothing := three.called
    rw [empty, List.take_nil, List.map_eq_nil_iff] at nothing
    exact ⟨fourth, three, nothing⟩

-- the hardware side of an acknowledgement: an emptied group leaves the first bitmap
def dropEmptied : EndpointHandler Unit Board := fun offset own board =>
  let group : EndpointIndex := Fin.ofNat 8 (offset.toNat / 8)
  let endpoint : EndpointIndex := Fin.ofNat 8 offset.toNat
  if board.peek group.groupRegister = endpoint.bit then
    (own, board.poke Reg.Endpoint.status (board.peek Reg.Endpoint.status &&& ~~~group.bit))
  else (own, board)

theorem drop_emptied_board (group endpoint : EndpointIndex) (own : Unit) (board : Board) :
    (dropEmptied (EndpointIndex.offset group endpoint) own board).2 =
      if board.peek group.groupRegister = endpoint.bit then
        board.poke Reg.Endpoint.status (board.peek Reg.Endpoint.status &&& ~~~group.bit)
      else board := by
  have indices : ∀ group endpoint : EndpointIndex,
      Fin.ofNat 8 ((EndpointIndex.offset group endpoint).toNat / 8) = group ∧
        Fin.ofNat 8 (EndpointIndex.offset group endpoint).toNat = endpoint := by decide +kernel
  obtain ⟨sameGroup, sameEndpoint⟩ := indices group endpoint
  rw [dropEmptied, sameGroup, sameEndpoint]
  by_cases last : board.peek group.groupRegister = endpoint.bit
  · simp only [if_pos last]
  · simp only [if_neg last]

theorem drop_emptied_clears : Clears dropEmptied := by
  refine ⟨fun group endpoint own board => ?_, fun group endpoint own board => ?_⟩
  · rw [drop_emptied_board]
    by_cases last : board.peek group.groupRegister = endpoint.bit
    · rw [if_pos last, if_pos last]
      exact (Memory.peek_poke _ _ _ _).trans (if_pos rfl)
    · rw [if_neg last, if_neg last]
  · rw [drop_emptied_board]
    by_cases last : board.peek group.groupRegister = endpoint.bit
    · rw [if_pos last]
      refine Board.shown_eq_iff.mpr fun address member => ⟨?_, Iff.rfl⟩
      obtain ⟨other, _, rfl⟩ := List.mem_map.mp member
      exact (Memory.peek_poke _ _ _ _).trans (if_neg other.group_register_ne_status.symm)
    · rw [if_neg last]

-- a powered board on which every endpoint is ready
def Board.ringing : Board :=
  (List.finRange 8).foldl (fun board group => board.poke (EndpointIndex.groupRegister group) 0xFF)
    (Board.powered.poke Reg.Endpoint.status 0xFF)

theorem ringing_drains_in_two_calls : Clears dropEmptied ∧ Board.ringing.Bitmapped ∧ Board.ringing.pending.length = 64 ∧
    ∃ second, Drains dropEmptied () (.start .ringing {}) second ∧ ∀ next, ∃ third, Drains dropEmptied next second third ∧
      (calls dropEmptied () (.start .ringing {}) ++ calls dropEmptied next second).map UInt8.toNat = List.range 64 := by
  have bitmapped : Board.ringing.Bitmapped := ⟨by decide +kernel, by decide +kernel⟩
  have all : Board.ringing.pending = List.range 64 := by decide +kernel
  obtain ⟨_, _, second, one, more⟩ :=
    service_drains_pending_in_order drop_emptied_clears (.start .ringing {}) bitmapped ()
  refine ⟨drop_emptied_clears, bitmapped, by rw [all, List.length_range], second, one, fun next => ?_⟩
  obtain ⟨third, two, served, _⟩ := more next
  exact ⟨third, two, served.trans all⟩

end StorageBridge
