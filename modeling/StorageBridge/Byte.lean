/-!
Register bytes and addresses, and the few bit operations that registers need.
-/

set_option autoImplicit false

namespace StorageBridge

abbrev Byte := UInt8

abbrev Address := UInt16

namespace Byte

-- Whether `value` has one of the bits of `mask`.
def meets (value mask : Byte) : Bool :=
  value &&& mask != 0

-- The bits of `clear` are dropped, then those of `set` are added.
def revise (old clear set : Byte) : Byte :=
  (old &&& ~~~clear) ||| set

def single (i : Fin 8) : Byte :=
  1 <<< UInt8.ofNat i.val

@[simp] theorem meets_zero (value : Byte) : meets value 0 = false := by
  simp [meets]

@[simp] theorem zero_meets (mask : Byte) : meets 0 mask = false := by
  simp [meets]

end Byte

namespace Address

def low (address : Address) : Byte :=
  address.toUInt8

def high (address : Address) : Byte :=
  (address >>> 8).toUInt8

def ofBytes (low high : Byte) : Address :=
  (high.toUInt16 <<< 8) ||| low.toUInt16

theorem ofBytes_low_high (address : Address) : ofBytes address.low address.high = address := by
  apply UInt16.eq_of_toBitVec_eq
  ext i bound
  by_cases inLow : i < 8
  · simp [ofBytes, low, high, inLow, bound, -UInt16.toUInt16_toUInt8, BitVec.getLsbD_eq_getElem]
  · have inHigh : i - 8 < 8 := by omega
    have back : 8 + (i - 8) = i := by omega
    simp [ofBytes, low, high, inLow, inHigh, back, bound, -UInt16.toUInt16_toUInt8, BitVec.getLsbD_eq_getElem]

end Address

end StorageBridge
