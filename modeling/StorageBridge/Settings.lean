import StorageBridge.Byte

/-!
Settings of a controller.
-/

set_option autoImplicit false

namespace StorageBridge

inductive InProgressCode where
  | reference
  | patched
deriving DecidableEq, Repr

-- The patched code is also the code of a deferred submission.
def InProgressCode.code : InProgressCode → Byte
  | reference => 0x0A
  | patched => 0x05

structure Settings where
  inProgress : InProgressCode := .reference
  extendedLength : Byte := 0x40
  completionBase : UInt32 := 1000
  completionStep : UInt32 := 250
deriving DecidableEq, Repr

namespace Settings

def reference : Settings := {}

def patched : Settings := { inProgress := .patched }

-- The poll budget for the completion window of a counter. A sum that does not fit is cut to the
-- largest budget.
def completionBudget (settings : Settings) (counter : Byte) : UInt32 :=
  UInt32.ofNat (min 0xFFFFFFFF
    (settings.completionBase.toNat + settings.completionStep.toNat * counter.toNat))

end Settings

end StorageBridge
