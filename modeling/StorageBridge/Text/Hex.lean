import StorageBridge.Byte

/-!
Hexadecimal text: a mark, then lower-case digits at the full width of the value.
-/

set_option autoImplicit false

namespace StorageBridge

-- The lowest `width` hexadecimal digits of `n`, most significant first.
def hexDigits : Nat → Nat → List Char
  | 0, _ => []
  | width + 1, n => hexDigits width (n / 16) ++ [Nat.digitChar (n % 16)]

theorem length_hexDigits (width n : Nat) : (hexDigits width n).length = width := by
  induction width generalizing n with
  | zero => rfl
  | succ width ih => simp [hexDigits, ih]

def Byte.hex (value : Byte) : String :=
  "0x" ++ String.ofList (hexDigits 2 value.toNat)

def Address.hex (address : Address) : String :=
  "0x" ++ String.ofList (hexDigits 4 address.toNat)

end StorageBridge
