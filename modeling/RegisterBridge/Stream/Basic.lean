import RegisterBridge.Stream.Error

/-!
# Byte streams

A byte stream is any type with a read and a write that answer at once.  Its
calls may be interrupted, but only finitely often in a row: every stream comes
with a bound on the interruptions ahead, which each interruption lowers.  That
bound is what makes the loops that repeat an interrupted call end.

A caller may also die inside a call; such a call has no answer.
-/

namespace RegisterBridge

/-- How a call or an operation ends. -/
inductive Outcome (ε α : Type) where
  /-- It gives a value. -/
  | ok (value : α)
  /-- It fails. -/
  | error (cause : ε)
  /-- The caller dies inside a call on the stream. -/
  | died
deriving DecidableEq, Repr

namespace Outcome

variable {ε φ α β : Type}

/-- Change the value. -/
def map (f : α → β) : Outcome ε α → Outcome ε β
  | ok value => ok (f value)
  | error cause => error cause
  | died => died

/-- Change the cause of a failure. -/
def mapError (f : ε → φ) : Outcome ε α → Outcome φ α
  | ok value => ok value
  | error cause => error (f cause)
  | died => died

/-- Whether the caller died. -/
def isDied : Outcome ε α → Bool
  | died => true
  | _ => false

/-- A result without deaths as an outcome. -/
def ofExcept : Except ε α → Outcome ε α
  | .ok value => ok value
  | .error cause => error cause

@[simp]
theorem isDied_map (f : α → β) (outcome : Outcome ε α) :
    (outcome.map f).isDied = outcome.isDied := by
  cases outcome <;> rfl

theorem map_eq_ok_iff {f : α → β} {outcome : Outcome ε α} {result : β} :
    outcome.map f = ok result ↔ ∃ value, outcome = ok value ∧ f value = result := by
  cases outcome <;> simp [map]

theorem map_eq_error_iff {f : α → β} {outcome : Outcome ε α} {cause : ε} :
    outcome.map f = error cause ↔ outcome = error cause := by
  cases outcome <;> simp [map]

theorem map_eq_died_iff {f : α → β} {outcome : Outcome ε α} :
    outcome.map f = died ↔ outcome = died := by
  cases outcome <;> simp [map]

end Outcome

/-- Whether a call was interrupted. -/
def Outcome.isInterrupted {α : Type} : Outcome StreamError α → Bool
  | .error cause => cause.isInterrupted
  | _ => false

/-- A stream of bytes that answers every call and is interrupted only finitely
often in a row. -/
class ByteStream (σ : Type) where
  /-- Read up to a number of bytes. -/
  read : σ → Nat → Outcome StreamError (List UInt8) × σ
  /-- Offer bytes; the answer is how many of them were taken. -/
  write : σ → List UInt8 → Outcome StreamError Nat × σ
  /-- A bound on the interruptions in a row still to come. -/
  interruptionsLeft : σ → Nat
  /-- A read gives no more than was wanted. -/
  length_read : ∀ {stream want data},
    (read stream want).1 = .ok data → data.length ≤ want
  /-- A write takes no more than was offered. -/
  count_write : ∀ {stream bytes count},
    (write stream bytes).1 = .ok count → count ≤ bytes.length
  /-- An interrupted read lowers the bound. -/
  interrupted_read : ∀ {stream want},
    (read stream want).1.isInterrupted = true →
      interruptionsLeft (read stream want).2 < interruptionsLeft stream
  /-- An interrupted write lowers the bound. -/
  interrupted_write : ∀ {stream bytes},
    (write stream bytes).1.isInterrupted = true →
      interruptionsLeft (write stream bytes).2 < interruptionsLeft stream

/-- Something that is given back to the system when it is no longer needed. -/
class Release (σ : Type) where
  /-- Close it; what is left is what the other end holds. -/
  release : σ → Except StreamError Unit × σ

/-- A byte stream that can be closed and has a name for diagnostics. -/
class Transport (σ : Type) extends ByteStream σ, Release σ where
  /-- The name shown in diagnostics. -/
  name : σ → String

end RegisterBridge
