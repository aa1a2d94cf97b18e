/-!
Event counters. A counter that has reached the largest value of 32 bits stays there.
-/

set_option autoImplicit false

namespace StorageBridge

def countUp (count : UInt32) : UInt32 :=
  if count = 0xFFFFFFFF then count else count + 1

structure Statistics where
  passes : UInt32 := 0
  -- status bytes that asked for an action, and those that did not
  actions : UInt32 := 0
  idle : UInt32 := 0
  endpointEvents : UInt32 := 0
  -- service calls that used up their rounds
  serviceExhausted : UInt32 := 0
  -- readiness answers other than proceed
  refusals : UInt32 := 0
  retryRequests : UInt32 := 0
  -- completions of slots that were in flight
  completions : UInt32 := 0
  resets : UInt32 := 0
deriving DecidableEq, Repr

theorem toNat_countUp (count : UInt32) : (countUp count).toNat = min 0xFFFFFFFF (count.toNat + 1) := by
  have bound := count.toNat_lt
  unfold countUp
  split
  · rename_i top
    subst top
    rfl
  · rename_i below
    have different : count.toNat ≠ 4294967295 := fun same => below (UInt32.toNat_inj.mp same)
    rw [UInt32.toNat_add, UInt32.toNat_one, Nat.mod_eq_of_lt (by omega)]
    omega

end StorageBridge
