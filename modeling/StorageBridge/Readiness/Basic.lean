import StorageBridge.Retry

/-!
Readiness of the backend: whether an action may touch it, and if not, why. Each answer has a code.
-/

set_option autoImplicit false

namespace StorageBridge

inductive Readiness where
  | proceed
  -- The backend has drained and completions are still to be logged.
  | complete
  | notReady
  | retry
  -- Poll again without submitting again.
  | inProgress
  | reject (code : Byte)
deriving DecidableEq, Repr

namespace Readiness

def code : Readiness → Byte
  | proceed => 0x00
  | complete => 0x01
  | notReady => 0x02
  | retry => 0x05
  | inProgress => 0x0B
  | reject code => code

def ofCode (code : Byte) : Readiness :=
  match code with
  | 0x00 => proceed
  | 0x01 => complete
  | 0x02 => notReady
  | 0x05 => retry
  | 0x0B => inProgress
  | _ => reject code

def isProceed : Readiness → Bool
  | proceed => true
  | _ => false

def isRetry : Readiness → Bool
  | notReady | retry => true
  | _ => false

def name : Readiness → String
  | proceed => "Proceed"
  | complete => "Complete"
  | notReady => "NotReady"
  | retry => "Retry"
  | inProgress => "InProgress"
  | reject _ => "Reject"

def describe (readiness : Readiness) : String :=
  match readiness with
  | reject code => readiness.name ++ "(" ++ toString code.toNat ++ ")"
  | _ => readiness.name

theorem code_ofCode (raw : Byte) : (ofCode raw).code = raw := by
  unfold ofCode
  split <;> rfl

end Readiness

-- A row of the rolling table: a readiness code, and the request raised when it is not 0.
structure RollingRow where
  verdict : Byte
  request : RetryRequest
deriving DecidableEq, Repr

-- The low three bits of the rolling status select the row. Rows 0 to 5 let everything pass, row 6
-- throttles, row 7 asks for a resynchronisation.
def RollingRow.ofStatus (status : Byte) : RollingRow :=
  match status &&& 7 with
  | 6 => { verdict := 0x05, request := { target := 0, flag := 0x3E, priority := 1 } }
  | 7 => { verdict := 0x0D, request := { target := 1, flag := 0x3F, priority := 2 } }
  | _ => { verdict := 0x00, request := { target := 0, flag := 0, priority := 0 } }

end StorageBridge
