import StorageBridge.Bus.Basic

/-!
Polling: read again and again until a bit of the mask appears or the reads allowed are used up. A bus
whose registers change on their own waits in this way. What is read from may run out in the middle of a
wait, which then has no answer.
-/

set_option autoImplicit false

namespace StorageBridge

variable {σ : Type}

-- Reads at most `limit` times and stops at the first value that meets the mask. Returns whether one
-- did, and the reader as the last read left it.
def spinWithin {m : Type → Type} [Monad m] (read : σ → m (Byte × σ)) (mask : Byte) : Nat → σ → m (Bool × σ)
  | 0, s => pure (false, s)
  | limit + 1, s => do
      let (value, s) ← read s
      if value.meets mask then pure (true, s) else spinWithin read mask limit s

-- Without a limit, polling reads on after a value that does not meet the mask.
def SpinsOn (read : σ → Option (Byte × σ)) (mask : Byte) (next s : σ) : Prop :=
  ∃ value, read s = some (value, next) ∧ value.meets mask = false

-- It does not read on for good.
def SpinEnds (read : σ → Option (Byte × σ)) (mask : Byte) (s : σ) : Prop :=
  Acc (SpinsOn read mask) s

-- Reads until a value meets the mask. There is no bound on the reads, only a proof that they end.
def spinForever (read : σ → Option (Byte × σ)) (mask : Byte) (s : σ) (ends : SpinEnds read mask s) : Option σ :=
  match shown : read s with
  | none => none
  | some (value, next) =>
      if met : value.meets mask then some next
      else spinForever read mask next (ends.inv ⟨value, shown, Bool.eq_false_iff.mpr met⟩)
termination_by (⟨s, ends⟩ : { s // Acc (SpinsOn read mask) s })
decreasing_by exact ⟨value, shown, Bool.eq_false_iff.mpr met⟩

-- A wait by polling: whether it saw the bit, and the reader afterwards.
def spinUntil (read : σ → Option (Byte × σ)) (mask : Byte) (s : σ) :
    (budget : WaitBudget) → (budget = .forever → SpinEnds read mask s) → Option (Bool × σ)
  | .polls limit, _ => spinWithin read mask limit.toNat s
  | .forever, ends => (spinForever read mask s (ends rfl)).map fun s => (true, s)

namespace Bus

variable {β : Type} [Bus β]

-- There is always a next read of a register.
def look (address : Address) (bus : β) : Option (Byte × β) :=
  some (read bus address)

def spin (bus : β) (address : Address) (mask : Byte) (budget : WaitBudget)
    (ends : budget = .forever → SpinEnds (look address) mask bus) : Option (Bool × β) :=
  spinUntil (look address) mask bus budget ends

end Bus

abbrev Recording := List Byte

namespace Recording

def next? : Recording → Option (Byte × Recording)
  | [] => none
  | value :: rest => some (value, rest)

theorem ends (mask : Byte) (recording : Recording) : SpinEnds next? mask recording := by
  induction recording with
  | nil =>
      refine Acc.intro _ fun next reads => ?_
      obtain ⟨value, shown, -⟩ := reads
      cases shown
  | cons value rest ih =>
      refine Acc.intro _ fun next reads => ?_
      obtain ⟨value, shown, -⟩ := reads
      cases shown
      exact ih

-- A wait on the recording: whether the bit was seen, and the values left over. There is no answer
-- when the wait would go on after the last value.
def wait? (recording : Recording) (mask : Byte) (budget : WaitBudget) : Option (Bool × Recording) :=
  spinUntil next? mask recording budget fun _ => recording.ends mask

end Recording

end StorageBridge
