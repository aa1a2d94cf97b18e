import StorageBridge.Byte

/-!
The register memory of a board: one byte for each of the 65536 addresses, kept in a perfect binary
tree whose path is the address, top bit first.
-/

set_option autoImplicit false

namespace StorageBridge

-- Bytes for all addresses of `n` bits.
inductive Cells : Nat → Type where
  | cell (value : Byte) : Cells 0
  | pair {n : Nat} (low high : Cells n) : Cells (n + 1)
deriving DecidableEq

namespace Cells

def fill (value : Byte) : (n : Nat) → Cells n
  | 0 => .cell value
  | n + 1 => let half := fill value n; .pair half half

-- Only the low `n` bits of the address count.
def get : {n : Nat} → Cells n → Nat → Byte
  | _, .cell value, _ => value
  | n + 1, .pair low high, address =>
      if address.testBit n then high.get address else low.get address

def set : {n : Nat} → Cells n → Nat → Byte → Cells n
  | _, .cell _, _, value => .cell value
  | n + 1, .pair low high, address, value =>
      if address.testBit n then .pair low (high.set address value)
      else .pair (low.set address value) high

def nonzero : {n : Nat} → Cells n → Nat → List (Nat × Byte)
  | _, .cell value, base => if value = 0 then [] else [(base, value)]
  | n + 1, .pair low high, base => low.nonzero base ++ high.nonzero (base + 2 ^ n)

end Cells

abbrev Memory := Cells 16

namespace Memory

def zero : Memory := Cells.fill 0 16

def peek (memory : Memory) (address : Address) : Byte :=
  Cells.get memory address.toNat

def poke (memory : Memory) (address : Address) (value : Byte) : Memory :=
  Cells.set memory address.toNat value

end Memory

end StorageBridge
