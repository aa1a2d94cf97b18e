import StorageBridge.Proofs.Passes

/-!
What a step does at registers that are watched. Between two looks at them the bus roams: registers
are read, written and waited on elsewhere only, so nothing is added to the record of what was done at
the watched ones, and a plain register among them holds what it held.
-/

set_option autoImplicit false

namespace StorageBridge

open BridgeM

variable {β α γ : Type}

inductive Roams [Bus β] (watched : List Address) (before : β) : β → Prop where
  | refl : Roams watched before before
  | read {between : β} (address : Address) (outside : address ∉ watched) (roamed : Roams watched before between) :
      Roams watched before (Bus.read between address).2
  | write {between : β} (address : Address) (value : Byte) (outside : address ∉ watched)
      (roamed : Roams watched before between) : Roams watched before (Bus.write between address value)
  | wait {between : β} (address : Address) (mask : Byte) (budget : WaitBudget) (outside : address ∉ watched)
      (roamed : Roams watched before between) : Roams watched before (Bus.wait between address mask budget).2

-- On these buses the register shows what it holds, and holds what was written to it last.
structure Plain [Bus β] (address : Address) (among : β → Prop) (held : β → Byte) : Prop where
  shows : ∀ bus, among bus → (Bus.read bus address).1 = held bus
  read : ∀ bus other, among bus → among (Bus.read bus other).2 ∧ held (Bus.read bus other).2 = held bus
  write : ∀ bus other value, among bus →
    among (Bus.write bus other value) ∧ held (Bus.write bus other value) = if other = address then value else held bus
  wait : ∀ bus other mask budget, among bus → other ≠ address →
    among (Bus.wait bus other mask budget).2 ∧ held (Bus.wait bus other mask budget).2 = held bus

structure Avoids [Bus β] (watched : List Address) (step : BridgeM β α) : Prop where
  ends : ∀ before, Roams watched before.bus (ending (step before)).bus

section Roaming

variable [Bus β] {watched : List Address} {before between after : β}

theorem roams_trans (first : Roams watched before between) (second : Roams watched between after) :
    Roams watched before after := by
  induction second with
  | refl => exact first
  | read address outside _ ih => exact .read address outside ih
  | write address value outside _ ih => exact .write address value outside ih
  | wait address mask budget outside _ ih => exact .wait address mask budget outside ih

theorem roams_plain {address : Address} {among : β → Prop} {held : β → Byte} (plain : Plain address among held)
    (watching : address ∈ watched) (roamed : Roams watched before after) (here : among before) :
    among after ∧ held after = held before := by
  induction roamed with
  | refl => exact ⟨here, rfl⟩
  | read other outside _ ih =>
      obtain ⟨stays, same⟩ := plain.read _ other ih.1
      exact ⟨stays, same.trans ih.2⟩
  | write other value outside _ ih =>
      obtain ⟨stays, same⟩ := plain.write _ other value ih.1
      rw [if_neg fun equal : other = address => outside (equal ▸ watching)] at same
      exact ⟨stays, same.trans ih.2⟩
  | wait other mask budget outside _ ih =>
      obtain ⟨stays, same⟩ := plain.wait _ other mask budget ih.1 fun equal => outside (equal ▸ watching)
      exact ⟨stays, same.trans ih.2⟩

theorem avoids_ok {step : BridgeM β α} {before after : Controller β} {value : α} (avoids : Avoids watched step)
    (ended : step before = .ok value after) : Roams watched before.bus after.bus := by
  have roamed := avoids.ends before
  rwa [ended] at roamed

theorem avoids_silent {step : BridgeM β α} (silent : ∀ before, (ending (step before)).bus = before.bus) :
    Avoids watched step :=
  ⟨fun before => by rw [silent]; exact .refl⟩

theorem avoids_bind {step : BridgeM β α} {next : α → BridgeM β γ} (first : Avoids watched step)
    (rest : ∀ value, Avoids watched (next value)) : Avoids watched (step >>= next) := by
  refine ⟨fun before => ?_⟩
  have roamed := first.ends before
  cases ended : step before with
  | ok value between =>
      rw [ended] at roamed
      rw [bind_of_ok ended]
      exact roams_trans roamed ((rest value).ends between)
  | error stall after =>
      rw [ended] at roamed
      rw [bind_of_error ended]
      exact roamed

theorem avoids_for_each {ι : Type} {step : ι → BridgeM β Unit} (items : List ι)
    (each : ∀ item ∈ items, Avoids watched (step item)) : Avoids watched (items.forM step) := by
  induction items with
  | nil => exact avoids_silent fun _ => rfl
  | cons item rest ih =>
      refine avoids_bind (each item List.mem_cons_self) fun _ => ih fun other member => ?_
      exact each other (List.mem_cons_of_mem item member)

theorem avoids_read {address : Address} (outside : address ∉ watched) :
    Avoids watched (readByte address : BridgeM β Byte) :=
  ⟨fun _ => .read address outside .refl⟩

theorem avoids_write {address : Address} (value : Byte) (outside : address ∉ watched) :
    Avoids watched (writeByte address value : BridgeM β Unit) :=
  ⟨fun _ => .write address value outside .refl⟩

theorem avoids_modify {address : Address} (clear set : Byte) (outside : address ∉ watched) :
    Avoids watched (modifyByte address clear set : BridgeM β Unit) :=
  ⟨fun _ => .write address _ outside (.read address outside .refl)⟩

theorem avoids_wait {address : Address} (mask : Byte) (outside : address ∉ watched) :
    Avoids watched (waitFor address mask : BridgeM β Unit) := by
  refine ⟨fun before => ?_⟩
  rw [wait_for_ends]
  split
  · exact .wait address mask .forever outside .refl
  · exact .wait address mask .forever outside .refl

end Roaming

def Effect.concerns (watched : List Address) : Effect → Bool
  | .operation (.read address _) => decide (address ∈ watched)
  | .operation (.write address _) => decide (address ∈ watched)
  | .operation (.wait address _ _) => decide (address ∈ watched)
  | .call _ => false

namespace Recorder

-- what was done at the watched registers, oldest first
def seenAt (watched : List Address) (recorder : Recorder β) : List Effect :=
  recorder.effects.reverse.filter (Effect.concerns watched)

theorem seen_at_record (watched : List Address) (recorder : Recorder β) (effect : Effect) (bus : β) :
    (recorder.record effect bus).seenAt watched =
      recorder.seenAt watched ++ if effect.concerns watched then [effect] else [] := by
  simp only [seenAt, record, List.reverse_cons, List.filter_append, List.filter_cons, List.filter_nil]

variable [Bus β] {watched : List Address} {before after : Recorder β}

theorem roams_seen (roamed : Roams watched before after) : after.seenAt watched = before.seenAt watched := by
  induction roamed with
  | refl => rfl
  | read address outside _ ih =>
      refine (seen_at_record watched _ (.operation (.read address _)) _).trans ?_
      simp [Effect.concerns, outside, ih]
  | write address value outside _ ih =>
      refine (seen_at_record watched _ (.operation (.write address value)) _).trans ?_
      simp [Effect.concerns, outside, ih]
  | wait address mask budget outside _ ih =>
      refine (seen_at_record watched _ (.operation (.wait address mask budget)) _).trans ?_
      simp [Effect.concerns, outside, ih]

theorem roams_beneath (roamed : Roams watched before after) : Roams watched before.bus after.bus := by
  induction roamed with
  | refl => exact .refl
  | read address outside _ ih => exact .read address outside ih
  | write address value outside _ ih => exact .write address value outside ih
  | wait address mask budget outside _ ih => exact .wait address mask budget outside ih

theorem seen_at_read {address : Address} (inside : address ∈ watched) (recorder : Recorder β) :
    (Bus.read recorder address).2.seenAt watched =
      recorder.seenAt watched ++ [.operation (.read address (Bus.read recorder address).1)] := by
  refine (seen_at_record watched recorder (.operation (.read address _)) _).trans ?_
  simp [Effect.concerns, inside, Bus.read]

theorem seen_at_write {address : Address} (inside : address ∈ watched) (recorder : Recorder β) (value : Byte) :
    (Bus.write recorder address value).seenAt watched =
      recorder.seenAt watched ++ [.operation (.write address value)] := by
  refine (seen_at_record watched recorder (.operation (.write address value)) _).trans ?_
  simp [Effect.concerns, inside]

end Recorder

end StorageBridge
