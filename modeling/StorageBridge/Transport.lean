import StorageBridge.Submission

/-!
The host transport: its status byte either asks for an action, which is submitted with the
parameters beside it, or is idle traffic, which touches nothing.
-/

set_option autoImplicit false

namespace StorageBridge.Transport

open BridgeM

variable {β : Type} [Bus β]

def perform (status : Byte) (action : Action) : BridgeM β Submission := do
  let low ← readByte Reg.Transport.coreLow
  let high ← readByte Reg.Transport.coreHigh
  modifyState fun state => { state with scratch := 0, coreState := (low, high) }
  let param1 ← readByte Reg.Transport.param1
  let param2 ← readByte Reg.Transport.param2
  tally fun counts => { counts with actions := countUp counts.actions }
  emit (.statusClassified status action param1 param2)
  Submission.submit param1 param2 action

def classify : BridgeM β (Option Submission) := do
  let status ← readByte Reg.Transport.status
  match Action.ofStatus? status with
  | some action =>
      let submission ← perform status action
      pure (some submission)
  | none =>
      emit (.statusIdle status)
      tally fun counts => { counts with idle := countUp counts.idle }
      pure none

end StorageBridge.Transport
