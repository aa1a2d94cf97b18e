import StorageBridge.Bus.Trace
import StorageBridge.Proofs.Execution

/-!
Which operations a step makes on the bus. A bus with a trace shows them: the trace only grows, and
what a step adds to it is the same whether the step answers or stalls.
-/

set_option autoImplicit false

namespace StorageBridge

variable {β α γ : Type}

namespace Traced

def Extends (allowed : BusOp → Prop) (before after : Traced β) : Prop :=
  ∃ ops : Array BusOp, after.trace = before.trace ++ ops ∧ ∀ op ∈ ops, allowed op

variable {allowed : BusOp → Prop}

theorem extends_refl (bus : Traced β) : Extends allowed bus bus :=
  ⟨#[], by simp, by simp⟩

theorem extends_trans {before between after : Traced β} (first : Extends allowed before between)
    (second : Extends allowed between after) : Extends allowed before after := by
  obtain ⟨earlier, grown, early⟩ := first
  obtain ⟨later, regrown, late⟩ := second
  refine ⟨earlier ++ later, ?_, ?_⟩
  · rw [regrown, grown, Array.append_assoc]
  · intro op member
    rcases Array.mem_append.mp member with member | member
    · exact early op member
    · exact late op member

theorem extends_of_push {before after : Traced β} {op : BusOp} (grown : after.trace = before.trace.push op)
    (named : allowed op) : Extends allowed before after := by
  refine ⟨#[op], by rw [grown, Array.push_eq_append], ?_⟩
  intro made member
  rwa [Array.mem_singleton.mp member]

variable [Bus β]

theorem extends_read (bus : Traced β) (address : Address) (named : ∀ value, allowed (.read address value)) :
    Extends allowed bus (Bus.read bus address).2 :=
  extends_of_push rfl (named (Bus.read bus.bus address).1)

theorem extends_write (bus : Traced β) (address : Address) (value : Byte) (named : allowed (.write address value)) :
    Extends allowed bus (Bus.write bus address value) :=
  extends_of_push rfl named

theorem extends_wait (bus : Traced β) (address : Address) (mask : Byte) (budget : WaitBudget)
    (named : allowed (.wait address mask budget)) : Extends allowed bus (Bus.wait bus address mask budget).2 :=
  extends_of_push rfl named

theorem extends_modify (bus : Traced β) (address : Address) (clear set : Byte)
    (reads : ∀ value, allowed (.read address value)) (writes : ∀ value, allowed (.write address value)) :
    Extends allowed bus (Bus.modify bus address clear set) :=
  extends_trans (extends_read bus address reads) (extends_write _ address _ (writes _))

end Traced

namespace BridgeM

structure Performs (allowed : BusOp → Prop) (step : BridgeM (Traced β) α) : Prop where
  ends : ∀ before : Controller (Traced β), before.bus.Extends allowed (ending (step before)).bus

variable {allowed : BusOp → Prop}

theorem performs_bind {step : BridgeM (Traced β) α} {next : α → BridgeM (Traced β) γ} (first : Performs allowed step)
    (rest : ∀ value, Performs allowed (next value)) : Performs allowed (step >>= next) := by
  refine ⟨fun before => ?_⟩
  have extended := first.ends before
  cases ended : step before with
  | ok value between =>
      rw [ended] at extended
      rw [bind_of_ok ended]
      exact Traced.extends_trans extended ((rest value).ends between)
  | error stall after =>
      rw [ended] at extended
      rw [bind_of_error ended]
      exact extended

theorem performs_nothing {step : BridgeM (Traced β) α} (silent : ∀ before, (ending (step before)).bus = before.bus) :
    Performs allowed step :=
  ⟨fun before => by rw [silent]; exact Traced.extends_refl _⟩

variable [Bus β]

theorem performs_read {address : Address} (named : ∀ value, allowed (.read address value)) :
    Performs allowed (readByte address : BridgeM (Traced β) Byte) :=
  ⟨fun before => Traced.extends_read before.bus address named⟩

theorem performs_write {address : Address} {value : Byte} (named : allowed (.write address value)) :
    Performs allowed (writeByte address value : BridgeM (Traced β) Unit) :=
  ⟨fun before => Traced.extends_write before.bus address value named⟩

theorem performs_wait {address : Address} {mask : Byte} (named : allowed (.wait address mask .forever)) :
    Performs allowed (waitFor address mask : BridgeM (Traced β) Unit) := by
  refine ⟨fun before => ?_⟩
  have extended := Traced.extends_wait before.bus address mask .forever named
  unfold waitFor
  dsimp only
  split
  · exact extended
  · exact extended

end BridgeM

end StorageBridge
