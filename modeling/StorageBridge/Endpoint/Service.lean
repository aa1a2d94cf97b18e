import StorageBridge.Controller.Basic
import StorageBridge.Endpoint.Index

/-!
Endpoint service: the first bitmap picks a group, the bitmap of the group picks an endpoint, the
handler runs, and the endpoint's bit is written back to acknowledge it. A service call makes a
bounded number of rounds, so that a bit that never goes away cannot hold up the main loop.
-/

set_option autoImplicit false

namespace StorageBridge

-- What runs for an endpoint: it gets the dispatch offset, a state of its own, and the bus.
abbrev EndpointHandler (η β : Type) := Byte → η → β → η × β

structure ServiceSummary where
  handled : Nat
  -- The rounds ran out; endpoints may still be ready.
  exhausted : Bool
deriving DecidableEq, Repr

namespace Endpoint

open BridgeM

def serviceBudget : Nat := 32

variable {η β : Type}

def callHandler (handler : EndpointHandler η β) (offset : Byte) (own : η) : BridgeM β η := fun controller =>
  let (own, bus) := handler offset own controller.bus
  .ok own { controller with bus }

variable [Bus β]

def nextReady : BridgeM β (Option (EndpointIndex × EndpointIndex)) := do
  let groups ← readByte Reg.Endpoint.status
  match EndpointIndex.lowest? groups with
  | none => pure none
  | some group =>
      let endpoints ← readByte group.groupRegister
      pure ((EndpointIndex.lowest? endpoints).map fun endpoint => (group, endpoint))

def serve (handler : EndpointHandler η β) (group endpoint : EndpointIndex) (own : η) : BridgeM β η := do
  let offset := EndpointIndex.offset group endpoint
  modifyState fun state => { state with dispatchOffset := some offset }
  let own ← callHandler handler offset own
  tally fun counts => { counts with endpointEvents := countUp counts.endpointEvents }
  writeByte group.groupRegister endpoint.bit
  pure own

def serviceRounds (handler : EndpointHandler η β) : Nat → η → BridgeM β (Nat × η)
  | 0, own => pure (0, own)
  | rounds + 1, own => do
      let ready ← nextReady
      match ready with
      | none => pure (0, own)
      | some (group, endpoint) =>
          let own ← serve handler group endpoint own
          let (handled, own) ← serviceRounds handler rounds own
          pure (handled + 1, own)

def service (handler : EndpointHandler η β) (own : η) : BridgeM β (ServiceSummary × η) := do
  let (handled, own) ← serviceRounds handler serviceBudget own
  if handled = serviceBudget then
    emit (.serviceExhausted serviceBudget)
    tally fun counts => { counts with serviceExhausted := countUp counts.serviceExhausted }
    pure ({ handled, exhausted := true }, own)
  else pure ({ handled, exhausted := false }, own)

end Endpoint

end StorageBridge
