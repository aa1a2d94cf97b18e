import StorageBridge.Board.Bench
import StorageBridge.Proofs.Waits

/-!
Polling against what a bus shows on successive reads. It ends at the first read that shows a bit of the
mask, or at the limit, and without either it does not end. The simulated board looks once at a register
that does not move and says what polling it would.
-/

set_option autoImplicit false

namespace StorageBridge

open BridgeM

namespace Bus

variable {β : Type} [Bus β] {bus next : β} {address : Address} {mask : Byte} {first limit : Nat}

-- the bus once the register has been read that many times
def afterReads (bus : β) (address : Address) : Nat → β
  | 0 => bus
  | count + 1 => afterReads (read bus address).2 address count

-- what the read in that place shows, counted from zero
def nthRead (bus : β) (address : Address) (place : Nat) : Byte :=
  (read (afterReads bus address place) address).1

-- the places of the reads that show a bit of the mask
def hits (bus : β) (address : Address) (mask : Byte) : Set Nat :=
  {place | (nthRead bus address place).meets mask = true}

theorem hits_succ (place : Nat) : place + 1 ∈ hits bus address mask ↔ place ∈ hits (read bus address).2 address mask :=
  Iff.rfl

theorem later_first (least : IsLeast (hits bus address mask) (first + 1)) :
    ¬ (read bus address).1.meets mask = true ∧ IsLeast (hits (read bus address).2 address mask) first := by
  obtain ⟨hit, lowest⟩ := least
  refine ⟨fun met => ?_, (hits_succ first).mp hit, fun place later => ?_⟩
  · have atOnce : first + 1 ≤ 0 := lowest met
    omega
  · have bound : first + 1 ≤ place + 1 := lowest ((hits_succ place).mpr later)
    omega

theorem spins_on_iff :
    SpinsOn (look address) mask next bus ↔ next = (read bus address).2 ∧ ¬ (read bus address).1.meets mask = true := by
  constructor
  · rintro ⟨value, shown, missed⟩
    have same : read bus address = (value, next) := Option.some.inj shown
    rw [same]
    exact ⟨rfl, Bool.eq_false_iff.mp missed⟩
  · rintro ⟨rfl, missed⟩
    exact ⟨(read bus address).1, rfl, Bool.eq_false_iff.mpr missed⟩

theorem ends_of_hit {place : Nat} (hit : place ∈ hits bus address mask) : SpinEnds (look address) mask bus := by
  induction place generalizing bus with
  | zero =>
      refine Acc.intro _ fun next reads => ?_
      exact absurd hit (spins_on_iff.mp reads).2
  | succ place ih =>
      refine Acc.intro _ fun next reads => ?_
      rw [(spins_on_iff.mp reads).1]
      exact ih ((hits_succ place).mp hit)

theorem hit_of_ends (ends : SpinEnds (look address) mask bus) : (hits bus address mask).Nonempty := by
  induction ends with
  | intro bus _ ih =>
      by_cases met : (read bus address).1.meets mask = true
      · exact ⟨0, met⟩
      · obtain ⟨place, later⟩ := ih (read bus address).2 (spins_on_iff.mpr ⟨rfl, met⟩)
        exact ⟨place + 1, (hits_succ place).mpr later⟩

theorem ends_iff (bus : β) (address : Address) (mask : Byte) :
    SpinEnds (look address) mask bus ↔ (hits bus address mask).Nonempty :=
  ⟨hit_of_ends, fun ⟨_, hit⟩ => ends_of_hit hit⟩

theorem spin_within_succ (bus : β) (address : Address) (mask : Byte) (limit : Nat) :
    spinWithin (look address) mask (limit + 1) bus =
      if (read bus address).1.meets mask then some (true, (read bus address).2)
      else spinWithin (look address) mask limit (read bus address).2 := rfl

theorem spin_forever_met (met : (read bus address).1.meets mask = true) (ends : SpinEnds (look address) mask bus) :
    spinForever (look address) mask bus ends = some (read bus address).2 := by
  rw [spinForever]
  exact dif_pos met

theorem spin_forever_missed (missed : ¬ (read bus address).1.meets mask = true) (ends : SpinEnds (look address) mask bus) :
    ∃ later, spinForever (look address) mask bus ends = spinForever (look address) mask (read bus address).2 later := by
  refine ⟨ends.inv (spins_on_iff.mpr ⟨rfl, missed⟩), ?_⟩
  rw [spinForever]
  exact dif_neg missed

theorem spin_within_of_first (least : IsLeast (hits bus address mask) first) (within : first < limit) :
    spinWithin (look address) mask limit bus = some (true, afterReads bus address (first + 1)) := by
  induction limit generalizing bus first with
  | zero => exact absurd within (Nat.not_lt_zero first)
  | succ limit ih =>
      rw [spin_within_succ]
      cases first with
      | zero => exact if_pos least.1
      | succ first =>
          obtain ⟨missed, later⟩ := later_first least
          rw [if_neg missed, ih later (Nat.lt_of_succ_lt_succ within)]
          rfl

theorem spin_within_of_missed (missed : ∀ place ∈ hits bus address mask, limit ≤ place) :
    spinWithin (look address) mask limit bus = some (false, afterReads bus address limit) := by
  induction limit generalizing bus with
  | zero => rfl
  | succ limit ih =>
      have unmet : ¬ (read bus address).1.meets mask = true := fun met => absurd (missed 0 met) (Nat.not_succ_le_zero limit)
      rw [spin_within_succ, if_neg unmet]
      exact ih fun place later => Nat.le_of_succ_le_succ (missed (place + 1) later)

theorem spin_forever_of_first (least : IsLeast (hits bus address mask) first) (ends : SpinEnds (look address) mask bus) :
    spinForever (look address) mask bus ends = some (afterReads bus address (first + 1)) := by
  induction first generalizing bus with
  | zero => exact spin_forever_met least.1 ends
  | succ first ih =>
      obtain ⟨missed, least⟩ := later_first least
      obtain ⟨later, onward⟩ := spin_forever_missed missed ends
      exact onward.trans (ih least later)

theorem spin_eq_of_first (least : IsLeast (hits bus address mask) first) (ends) :
    spin bus address mask .forever ends = some (true, afterReads bus address (first + 1)) :=
  congrArg (Option.map fun bus => (true, bus)) (spin_forever_of_first least (ends rfl))

theorem spin_sees_iff (bus : β) (address : Address) (mask : Byte) (limit : UInt32) (ends) :
    (∃ after, spin bus address mask (.polls limit) ends = some (true, after)) ↔
      ∃ place ∈ hits bus address mask, place < limit.toNat := by
  classical
  constructor
  · rintro ⟨after, seen⟩
    by_contra none
    have missed : ∀ place ∈ hits bus address mask, limit.toNat ≤ place := by
      intro place hit
      by_contra within
      exact none ⟨place, hit, Nat.lt_of_not_le within⟩
    cases (spin_within_of_missed missed).symm.trans seen
  · rintro ⟨place, hit, within⟩
    have nonempty : (hits bus address mask).Nonempty := ⟨place, hit⟩
    have least := nonempty.isLeast_natFind
    exact ⟨_, spin_within_of_first least (Nat.lt_of_le_of_lt (least.2 hit) within)⟩

end Bus

-- So many reads of the register, and nothing else, is what a traced bus tells of them.
theorem Traced.after_reads {β : Type} [Bus β] (traced : Traced β) (address : Address) (count : Nat) :
    (Bus.afterReads traced address count).bus = Bus.afterReads traced.bus address count ∧
      (Bus.afterReads traced address count).trace.toList = traced.trace.toList ++
        (List.range count).map fun place => .read address (Bus.nthRead traced.bus address place) := by
  induction count generalizing traced with
  | zero => exact ⟨rfl, (List.append_nil _).symm⟩
  | succ count ih =>
      obtain ⟨beneath, told⟩ := ih (Bus.read traced address).2
      refine ⟨beneath, told.trans ?_⟩
      have pushed : (Bus.read traced address).2.trace.toList =
          traced.trace.toList ++ [.read address (Bus.nthRead traced.bus address 0)] := Array.toList_push
      rw [pushed, List.range_succ_eq_map, List.map_cons, List.map_map, List.append_assoc]
      rfl

namespace Board

variable {board : Board} {address : Address} {mask : Byte}

-- Reading moves nothing on a board.
theorem after_reads (board : Board) (address : Address) (count : Nat) : Bus.afterReads board address count = board := by
  induction count with
  | zero => rfl
  | succ count ih => exact ih

theorem mem_hits_iff (place : Nat) : place ∈ Bus.hits board address mask ↔ board.shows address mask = true := by
  change (Bus.read (Bus.afterReads board address place) address).1.meets mask = true ↔ _
  rw [after_reads]
  rfl

theorem first_of_shown (shown : board.shows address mask = true) : IsLeast (Bus.hits board address mask) 0 :=
  ⟨(mem_hits_iff 0).mpr shown, fun place _ => Nat.zero_le place⟩

theorem ends_iff_shown (board : Board) (address : Address) (mask : Byte) :
    SpinEnds (Bus.look address) mask board ↔ board.shows address mask = true := by
  rw [Bus.ends_iff]
  exact ⟨fun ⟨place, hit⟩ => (mem_hits_iff place).mp hit, fun shown => ⟨0, (mem_hits_iff 0).mpr shown⟩⟩

theorem spin_within_limit (board : Board) (address : Address) (mask : Byte) (limit : UInt32) (ends) :
    Bus.spin board address mask (.polls limit) ends = some (limit != 0 && board.shows address mask, board) := by
  by_cases seen : (limit != 0 && board.shows address mask) = true
  · obtain ⟨allowed, shown⟩ := Bool.and_eq_true_iff.mp seen
    have within : 0 < limit.toNat := UInt32.pos_iff_ne_zero.mpr (bne_iff_ne.mp allowed)
    rw [seen]
    exact (Bus.spin_within_of_first (first_of_shown shown) within).trans (by rw [after_reads])
  · have missed : ∀ place ∈ Bus.hits board address mask, limit.toNat ≤ place := by
      intro place hit
      have spent : limit = 0 := by
        by_contra allowed
        exact seen (Bool.and_eq_true_iff.mpr ⟨bne_iff_ne.mpr allowed, (mem_hits_iff place).mp hit⟩)
      rw [spent]
      exact Nat.zero_le place
    rw [Bool.eq_false_iff.mpr seen]
    exact (Bus.spin_within_of_missed missed).trans (by rw [after_reads])

theorem spin_forever_ends (board : Board) (address : Address) (mask : Byte) (ends) :
    Bus.spin board address mask .forever ends = some (true, board) := by
  have shown := (ends_iff_shown board address mask).mp (ends rfl)
  exact (Bus.spin_eq_of_first (first_of_shown shown) ends).trans (by rw [after_reads])

end Board

theorem polling_ends_at_the_first_hit :
    (∀ {β : Type} [Bus β] (bus : β) (address : Address) (mask : Byte),
      let hits := Bus.hits bus address mask
      let after := Bus.afterReads bus address
      (∀ limit : UInt32,
        let polled := Bus.spin bus address mask (.polls limit) nofun
        ((∃ seen, polled = some (true, seen)) ↔ ∃ place ∈ hits, place < limit.toNat) ∧
        (∀ first < limit.toNat, IsLeast hits first → polled = some (true, after (first + 1))) ∧
        ((∀ place ∈ hits, limit.toNat ≤ place) → polled = some (false, after limit.toNat))) ∧
      (SpinEnds (Bus.look address) mask bus ↔ hits.Nonempty) ∧
      ∀ ends first, IsLeast hits first → Bus.spin bus address mask .forever ends = some (true, after (first + 1))) ∧
    (∀ {β : Type} [Bus β] (traced : Traced β) (address : Address) (count : Nat),
      (Bus.afterReads traced address count).bus = Bus.afterReads traced.bus address count ∧
      (Bus.afterReads traced address count).trace.toList = traced.trace.toList ++
        (List.range count).map fun place => .read address (Bus.nthRead traced.bus address place)) ∧
    ∀ (before : Controller Board) (address : Address) (mask : Byte),
      let board := before.bus
      let started := board.startWait address
      let after := { before with bus := started }
      (∀ limit : UInt32,
        let waited := Bus.wait board address mask (.polls limit)
        (waited.1 = true ↔ 0 < limit ∧ (started.peek address).meets mask = true) ∧
        Bus.spin started address mask (.polls limit) nofun = some waited ∧
        waitBounded address mask limit before =
          .ok (if waited.1 then .ok () else .error (.waitExpired address mask)) after) ∧
      (let waited := Bus.wait board address mask .forever
       let ending := SpinEnds (Bus.look address) mask started
       (waited.1 = true ↔ ending) ∧
       (∀ ends, Bus.spin started address mask .forever ends = some waited) ∧
       (ending → waitFor address mask before = .ok () after) ∧
       (¬ ending → waitFor address mask before = .error { address, mask } after)) ∧
      ∀ budget,
        let moved := (Bus.wait board address mask budget).2
        moved = started ∧
        (∃ byte table, moved =
          { board with memory := board.memory.poke address byte, table, waitCount := board.waitCount + 1 }) ∧
        ∀ other, address ≠ other → moved.peek other = board.peek other := by
  refine ⟨?_, fun traced address count => traced.after_reads address count, ?_⟩
  · intro β _ bus address mask hits after
    refine ⟨fun limit => ⟨Bus.spin_sees_iff bus address mask limit nofun, ?_, ?_⟩,
      Bus.ends_iff bus address mask, fun ends first least => Bus.spin_eq_of_first least ends⟩
    · exact fun first within least => Bus.spin_within_of_first least within
    · exact fun missed => Bus.spin_within_of_missed missed
  · intro before address mask board started after
    refine ⟨fun limit => ?_, ?_, fun budget => ⟨rfl, ⟨_, _, rfl⟩, fun other different => ?_⟩⟩
    · have sees : (Bus.wait board address mask (.polls limit)).1 = (limit != 0 && (started.peek address).meets mask) := rfl
      refine ⟨?_, started.spin_within_limit address mask limit nofun, rfl⟩
      rw [sees, Bool.and_eq_true_iff, bne_iff_ne, UInt32.pos_iff_ne_zero]
    · intro waited ending
      have shown : ending ↔ board.answers address mask = true := started.ends_iff_shown address mask
      have answer := wait_on_board address mask before
      refine ⟨shown.symm, fun ends => ?_, fun ends => ?_, fun endless => ?_⟩
      · have seen : waited = (true, started) := Prod.ext (shown.mp (ends rfl)) rfl
        rw [seen]
        exact started.spin_forever_ends address mask ends
      · exact answer.trans (if_pos (shown.mp ends))
      · exact answer.trans (if_neg fun answered => endless (shown.mpr answered))
    · exact Board.peek_wait_other different mask budget

-- the third of three values fed to a register shows the bit
theorem fed_register_hits_at_the_third_read :
    let bench := (Bench.ofBoard Board.blank).feed 0xB100 [0x00, 0x40, 0x81]
    IsLeast (Bus.hits bench 0xB100 0x80) 2 ∧
      Bus.spin bench 0xB100 0x80 (.polls 4) nofun = some (true, Bus.afterReads bench 0xB100 3) ∧
      ∃ ends, Bus.spin bench 0xB100 0x80 .forever ends = some (true, Bus.afterReads bench 0xB100 3) := by
  intro bench
  obtain ⟨polls, -⟩ := polling_ends_at_the_first_hit
  obtain ⟨within, ends, forever⟩ := polls bench 0xB100 0x80
  have least : IsLeast (Bus.hits bench 0xB100 0x80) 2 := by
    have shown : ([0, 1, 2].map fun place => (Bus.nthRead bench 0xB100 place).meets 0x80) = [false, false, true] := by decide
    simp only [List.map_cons, List.map_nil, List.cons.injEq] at shown
    obtain ⟨missed, missedAgain, met, -⟩ := shown
    refine ⟨met, fun place hit => ?_⟩
    match place with
    | 0 => exact absurd hit (Bool.eq_false_iff.mp missed)
    | 1 => exact absurd hit (Bool.eq_false_iff.mp missedAgain)
    | place + 2 => exact Nat.le_add_left 2 place
  obtain ⟨-, sees, -⟩ := within 4
  exact ⟨least, sees 2 (by decide) least, fun _ => ends.mpr ⟨2, least.1⟩, forever _ 2 least⟩

end StorageBridge
