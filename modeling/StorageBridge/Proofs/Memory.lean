import Mathlib
import StorageBridge.Board.Memory

/-!
The laws of the register memory: what a register holds after a write is `get_set`, and two memories
that show the same bytes are equal.
-/

set_option autoImplicit false

namespace StorageBridge

namespace Cells

@[simp] theorem get_fill (value : Byte) (n address : Nat) : (fill value n).get address = value := by
  induction n with
  | zero => rfl
  | succ n ih => simp [fill, get, ih]

theorem mod_two_pow_succ_eq_iff (a b n : Nat) :
    a % 2 ^ (n + 1) = b % 2 ^ (n + 1) ↔ a.testBit n = b.testBit n ∧ a % 2 ^ n = b % 2 ^ n := by
  have lowA := Nat.mod_lt a (Nat.two_pow_pos n)
  have lowB := Nat.mod_lt b (Nat.two_pow_pos n)
  have bitA := Nat.mod_two_eq_zero_or_one (a / 2 ^ n)
  have bitB := Nat.mod_two_eq_zero_or_one (b / 2 ^ n)
  rw [Nat.mod_pow_succ, Nat.mod_pow_succ, Nat.testBit_eq_decide_div_mod_eq,
    Nat.testBit_eq_decide_div_mod_eq]
  rcases bitA with bitA | bitA <;> rcases bitB with bitB | bitB <;> simp [bitA, bitB] <;> omega

theorem get_set {n : Nat} (cells : Cells n) (a b : Nat) (value : Byte) :
    (cells.set a value).get b = if a % 2 ^ n = b % 2 ^ n then value else cells.get b := by
  induction cells with
  | cell old => simp [set, get, Nat.mod_one]
  | pair low high ihLow ihHigh =>
      rw [set]
      simp only [mod_two_pow_succ_eq_iff]
      split <;> rename_i bitA <;> simp only [get] <;> split <;> rename_i bitB
      · simp [ihHigh, bitA, bitB]
      · simp [bitA, bitB]
      · simp [bitA, bitB]
      · simp [ihLow, bitA, bitB]

theorem get_mod {n : Nat} (cells : Cells n) (address : Nat) :
    cells.get (address % 2 ^ n) = cells.get address := by
  induction cells generalizing address with
  | cell => rfl
  | @pair n low high ihLow ihHigh =>
      have tail : address % 2 ^ (n + 1) % 2 ^ n = address % 2 ^ n :=
        Nat.mod_mod_of_dvd _ (Nat.pow_dvd_pow 2 (Nat.le_succ n))
      have bit : (address % 2 ^ (n + 1)).testBit n = address.testBit n := by
        simp [Nat.testBit_mod_two_pow]
      simp only [get, bit]
      rw [← ihLow (address % 2 ^ (n + 1)), ← ihHigh (address % 2 ^ (n + 1)), tail, ihLow, ihHigh]

theorem ext_get {n : Nat} {a b : Cells n} (same : ∀ address, a.get address = b.get address) : a = b := by
  induction a with
  | cell value =>
      cases b with
      | cell other => simpa [get] using same 0
  | @pair n low high ihLow ihHigh =>
      cases b with
      | pair low' high' =>
          have clear (address : Nat) : (address % 2 ^ n).testBit n = false :=
            Nat.testBit_lt_two_pow (Nat.mod_lt _ (Nat.two_pow_pos n))
          have top (address : Nat) : (2 ^ n + address % 2 ^ n).testBit n = true := by
            rw [Nat.testBit_two_pow_add_eq, clear]; rfl
          have drop (address : Nat) : (2 ^ n + address % 2 ^ n) % 2 ^ n = address % 2 ^ n := by simp
          have lows : low = low' := by
            apply ihLow
            intro address
            have shown := same (address % 2 ^ n)
            simpa only [get, clear, Bool.false_eq_true, if_false, get_mod] using shown
          have highs : high = high' := by
            apply ihHigh
            intro address
            have shown := same (2 ^ n + address % 2 ^ n)
            simp only [get, top, if_true] at shown
            rw [← get_mod high, ← get_mod high', drop, get_mod, get_mod] at shown
            exact shown
          rw [lows, highs]

end Cells

namespace Memory

@[simp] theorem peek_zero (address : Address) : zero.peek address = 0 :=
  Cells.get_fill 0 16 _

theorem peek_poke (memory : Memory) (a b : Address) (value : Byte) :
    (memory.poke a value).peek b = if a = b then value else memory.peek b := by
  have boundA : a.toNat % 2 ^ 16 = a.toNat := Nat.mod_eq_of_lt a.toNat_lt
  have boundB : b.toNat % 2 ^ 16 = b.toNat := Nat.mod_eq_of_lt b.toNat_lt
  simp only [peek, poke, Cells.get_set, boundA, boundB, UInt16.toNat_inj]

end Memory

end StorageBridge
