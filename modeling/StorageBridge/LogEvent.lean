import StorageBridge.Readiness.Basic
import StorageBridge.Slot
import StorageBridge.Transfer.Basic

/-!
What the controller reports while it works: the events, their levels and their texts.
-/

set_option autoImplicit false

namespace StorageBridge

inductive LogLevel where
  | error
  | warn
  | info
  | debug
  | trace
deriving DecidableEq, Repr

def LogLevel.label : LogLevel → String
  | error => "ERROR"
  | warn => "WARN"
  | info => "INFO"
  | debug => "DEBUG"
  | trace => "TRACE"

inductive LogEvent where
  | started (code : Byte)
  -- A pending request held its place against a newer one.
  | retryKept (pending request : RetryRequest)
  | retryRecorded (request : RetryRequest)
  | refused (readiness : Readiness)
  | recoveryFailed
  | slotHeld (slot : SlotIndex) (transferring : Bool)
  | outstandingOverflow (outstanding : Nat)
  | outstandingUnderflow (slot : SlotIndex)
  | transferProgrammed (transfer : Transfer)
  | statusIdle (status : Byte)
  | statusClassified (status : Byte) (action : Action) (param1 param2 : Byte)
  | serviceExhausted (budget : Nat)
  | completionLate (error : RequestError) (polls : UInt32)
  | slotNotInFlight (slot : SlotIndex)
  | counterBehind (counter : Byte) (outstanding : Nat)
  | flashTransition (target : Byte)
deriving DecidableEq, Repr

namespace LogEvent

def level : LogEvent → LogLevel
  | started .. => .info
  | retryKept .. => .trace
  | retryRecorded .. => .debug
  | refused .. => .debug
  | recoveryFailed => .warn
  | slotHeld .. => .debug
  | outstandingOverflow .. => .warn
  | outstandingUnderflow .. => .warn
  | transferProgrammed .. => .trace
  | statusIdle .. => .trace
  | statusClassified .. => .debug
  | serviceExhausted .. => .warn
  | completionLate .. => .warn
  | slotNotInFlight .. => .warn
  | counterBehind .. => .debug
  | flashTransition .. => .error

def text : LogEvent → String
  | started code =>
      "bridge: register map v" ++ toString Reg.mapVersion ++ ", in-progress code " ++ code.hex
  | retryKept pending request =>
      "defer: keeping flag " ++ pending.flag.hex ++ " over lower priority " ++ request.flag.hex
  | retryRecorded request =>
      "defer: target=" ++ toString request.target.toNat ++ " flag=" ++ request.flag.hex ++
        " priority=" ++ toString request.priority.toNat
  | refused readiness => "gate: " ++ readiness.describe ++ " (code " ++ readiness.code.hex ++ ")"
  | recoveryFailed => "gate: link recovery failed"
  | slotHeld slot transferring =>
      "queue: slot " ++ toString slot.val ++ " held" ++ if transferring then ", transfer running" else ""
  | outstandingOverflow outstanding => "queue: outstanding overflow at " ++ toString outstanding
  | outstandingUnderflow slot => "queue: outstanding underflow releasing slot " ++ toString slot.val
  | transferProgrammed transfer =>
      "dma: base=" ++ transfer.base.hex ++ " mode=" ++ transfer.mode.hex ++
        " buf_mode=" ++ transfer.bufferMode.hex ++ " len=" ++ toString transfer.length.toNat
  | statusIdle status => "classifier: status " ++ status.hex ++ " idle"
  | statusClassified status action param1 param2 =>
      "classifier: status " ++ status.hex ++ " -> " ++ action.name ++
        " p1=" ++ param1.hex ++ " p2=" ++ param2.hex
  | serviceExhausted budget => "dispatch: budget of " ++ toString budget ++ " exhausted"
  | completionLate error polls =>
      "completion: " ++ error.message ++ " after " ++ toString polls.toNat ++ " polls"
  | slotNotInFlight slot => "completion: slot " ++ toString slot.val ++ " was not in flight"
  | counterBehind counter outstanding =>
      "completion: counter " ++ toString counter.toNat ++ " behind outstanding " ++
        toString outstanding ++ ", rereading"
  | flashTransition target =>
      "completion: state transition, flash control target " ++ target.hex

end LogEvent

end StorageBridge
