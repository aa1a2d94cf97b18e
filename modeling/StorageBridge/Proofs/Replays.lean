import StorageBridge.Proofs.Effects

/-!
A list of bus operations as a path from one bus to another. Each read on the path shows the value that
stands in the list, and the waits all see their bit or all do not. A recorder that goes along a path
records it.
-/

set_option autoImplicit false

namespace StorageBridge

variable {β : Type} [Bus β]

def Replays (answered : Bool) : β → List BusOp → β → Prop
  | before, [], after => after = before
  | before, .read address value :: rest, after =>
      (Bus.read before address).1 = value ∧ Replays answered (Bus.read before address).2 rest after
  | before, .write address value :: rest, after => Replays answered (Bus.write before address value) rest after
  | before, .wait address mask budget :: rest, after =>
      (Bus.wait before address mask budget).1 = answered ∧ Replays answered (Bus.wait before address mask budget).2 rest after

namespace Replays

variable {answered : Bool} {before between after : β} {earlier later : List BusOp}

theorem append (first : Replays answered before earlier between) (second : Replays answered between later after) :
    Replays answered before (earlier ++ later) after := by
  induction earlier generalizing before with
  | nil =>
      obtain rfl : between = before := first
      exact second
  | cons op rest ih =>
      cases op with
      | read address value => exact ⟨first.1, ih first.2⟩
      | write address value => exact ih first
      | wait address mask budget => exact ⟨first.1, ih first.2⟩

theorem beneath {before after : Recorder β} {ops : List BusOp} (replays : Replays answered before ops after) :
    Replays answered before.bus ops after.bus := by
  induction ops generalizing before with
  | nil => exact congrArg Recorder.bus replays
  | cons op rest ih =>
      cases op with
      | read address value => exact ⟨replays.1, ih replays.2⟩
      | write address value => exact ih replays
      | wait address mask budget => exact ⟨replays.1, ih replays.2⟩

theorem recorded {before after : Recorder β} {ops : List BusOp} (replays : Replays answered before ops after) :
    after.effects = (ops.map Effect.operation).reverse ++ before.effects := by
  induction ops generalizing before with
  | nil =>
      obtain rfl : after = before := replays
      rfl
  | cons op rest ih =>
      cases op with
      | read address value =>
          obtain ⟨rfl, onward⟩ := replays
          rw [ih onward, List.map_cons, List.reverse_cons, List.append_assoc]
          rfl
      | write address value =>
          rw [ih replays, List.map_cons, List.reverse_cons, List.append_assoc]
          rfl
      | wait address mask budget =>
          rw [ih replays.2, List.map_cons, List.reverse_cons, List.append_assoc]
          rfl

end Replays

end StorageBridge
