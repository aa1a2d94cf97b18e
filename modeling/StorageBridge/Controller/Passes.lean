import StorageBridge.Completion
import StorageBridge.Endpoint.Service
import StorageBridge.Transport

/-!
What the platform calls: a main-loop pass, a completion event, and the pending retry request. Once a
flash-control transition is latched, passes and events do nothing more.
-/

set_option autoImplicit false

namespace StorageBridge

inductive Pass where
  -- The answer to the transport status, if it asked for anything, and the endpoint service.
  | done (submission : Option Submission) (endpoints : ServiceSummary)
  -- The controller is latched; the platform must reset.
  | latched (request : ResetRequest)
deriving DecidableEq, Repr

namespace Controller

open BridgeM

variable {η β : Type}

def poll [Bus β] (handler : EndpointHandler η β) (own : η) : BridgeM β (Pass × η) := do
  let state ← getState
  match state.reset with
  | some request => pure (.latched request, own)
  | none =>
      tally fun counts => { counts with passes := countUp counts.passes }
      let submission ← Transport.classify
      let (endpoints, own) ← Endpoint.service handler own
      pure (.done submission endpoints, own)

def complete [Bus β] (event : Byte) : BridgeM β (Except RequestError Completion) := do
  let state ← getState
  match state.reset with
  | some _ => pure (.error .resetLatched)
  | none =>
      let completion ← Completion.handle event
      pure (.ok completion)

def takeRetry : BridgeM β (Option RetryRequest) := do
  let state ← getState
  modifyState fun state => { state with retry := none }
  pure state.retry

end Controller

end StorageBridge
