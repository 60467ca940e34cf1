import RegisterBridge.Event
import RegisterBridge.Stream.Basic

/-!
# Wires

A wire is a byte stream together with the transcript of the calls made on it
and the events reported meanwhile, both with the latest first.  Operations talk
to their stream through a wire, so what they did can be looked at afterwards.

`offer` and `fetch` repeat a call until it is not interrupted.
-/

namespace RegisterBridge

/-- What a read is for. -/
inductive Purpose where
  /-- Waiting for the header of an answer. -/
  | header
  /-- Taking the payload of an answer. -/
  | body
  /-- Dropping an oversized answer. -/
  | drain
deriving DecidableEq, Repr

/-- One call on a stream and its answer. -/
inductive Call where
  | read (purpose : Purpose) (want : Nat) (got : Outcome StreamError (List UInt8))
  | write (offered : List UInt8) (taken : Outcome StreamError Nat)
deriving DecidableEq, Repr

/-- The bytes that a call settles the offer of: those of a write that is not
interrupted. -/
def Call.settled? : Call → Option (List UInt8)
  | write offered taken => if taken.isInterrupted then none else some offered
  | read .. => none

/-- A stream, the calls made on it and the events reported meanwhile. -/
structure Wire (σ : Type) where
  stream : σ
  /-- The calls, latest first. -/
  calls : List Call := []
  /-- The events, latest first. -/
  events : List Event := []

namespace Wire

variable {σ : Type}

/-- The calls in the order they were made. -/
def transcript (wire : Wire σ) : List Call :=
  wire.calls.reverse

/-- The events in the order they were reported. -/
def journal (wire : Wire σ) : List Event :=
  wire.events.reverse

/-- Everything offered to the stream, in order.  An offer counts once, however
often its write was interrupted. -/
def offers (wire : Wire σ) : List (List UInt8) :=
  wire.transcript.filterMap Call.settled?

/-- The same stream with nothing on record. -/
def fresh (wire : Wire σ) : Wire σ :=
  { stream := wire.stream }

/-- Report an event. -/
def report (wire : Wire σ) (event : Event) : Wire σ :=
  { wire with events := event :: wire.events }

variable [ByteStream σ]

/-- Read from the stream and record the call. -/
def read (wire : Wire σ) (purpose : Purpose) (want : Nat) :
    Outcome StreamError (List UInt8) × Wire σ :=
  match wire with
  | ⟨stream, calls, events⟩ =>
    match ByteStream.read stream want with
    | (got, stream) => (got, ⟨stream, .read purpose want got :: calls, events⟩)

/-- Write to the stream and record the call. -/
def write (wire : Wire σ) (bytes : List UInt8) : Outcome StreamError Nat × Wire σ :=
  match wire with
  | ⟨stream, calls, events⟩ =>
    match ByteStream.write stream bytes with
    | (taken, stream) => (taken, ⟨stream, .write bytes taken :: calls, events⟩)

/-- A bound on the interruptions in a row still to come. -/
def interruptionsLeft (wire : Wire σ) : Nat :=
  ByteStream.interruptionsLeft wire.stream

theorem length_read {wire : Wire σ} {purpose : Purpose} {want : Nat} {data : List UInt8}
    (got : (wire.read purpose want).1 = .ok data) : data.length ≤ want :=
  ByteStream.length_read got

theorem count_write {wire : Wire σ} {bytes : List UInt8} {count : Nat}
    (taken : (wire.write bytes).1 = .ok count) : count ≤ bytes.length :=
  ByteStream.count_write taken

theorem interrupted_read {wire : Wire σ} {purpose : Purpose} {want : Nat}
    (interrupted : (wire.read purpose want).1.isInterrupted = true) :
    (wire.read purpose want).2.interruptionsLeft < wire.interruptionsLeft :=
  ByteStream.interrupted_read interrupted

theorem interrupted_write {wire : Wire σ} {bytes : List UInt8}
    (interrupted : (wire.write bytes).1.isInterrupted = true) :
    (wire.write bytes).2.interruptionsLeft < wire.interruptionsLeft :=
  ByteStream.interrupted_write interrupted

/-- Read until the read is not interrupted. -/
def fetch (wire : Wire σ) (purpose : Purpose) (want : Nat) :
    Outcome StreamError (List UInt8) × Wire σ :=
  match _step : wire.read purpose want with
  | (got, next) => if got.isInterrupted then next.fetch purpose want else (got, next)
termination_by wire.interruptionsLeft
decreasing_by
  have lower := @interrupted_read σ _ wire purpose want
  rw [_step] at lower
  exact lower ‹_›

/-- Write until the write is not interrupted. -/
def offer (wire : Wire σ) (bytes : List UInt8) : Outcome StreamError Nat × Wire σ :=
  match _step : wire.write bytes with
  | (taken, next) => if taken.isInterrupted then next.offer bytes else (taken, next)
termination_by wire.interruptionsLeft
decreasing_by
  have lower := @interrupted_write σ _ wire bytes
  rw [_step] at lower
  exact lower ‹_›

/-- The unfolding rule of `fetch`. -/
theorem fetch_eq (wire : Wire σ) (purpose : Purpose) (want : Nat) :
    wire.fetch purpose want =
      if (wire.read purpose want).1.isInterrupted then
        (wire.read purpose want).2.fetch purpose want
      else wire.read purpose want := by
  rw [fetch]

/-- The unfolding rule of `offer`. -/
theorem offer_eq (wire : Wire σ) (bytes : List UInt8) :
    wire.offer bytes =
      if (wire.write bytes).1.isInterrupted then (wire.write bytes).2.offer bytes
      else wire.write bytes := by
  rw [offer]

/-- An offer is one offer, whatever becomes of it. -/
theorem offers_offer (wire : Wire σ) (bytes : List UInt8) :
    (wire.offer bytes).2.offers = wire.offers ++ [bytes] := by
  fun_induction offer wire bytes with
  | case1 wire taken next step interrupted ih =>
      rw [write] at step
      cases step
      rw [ih]
      simp_all [offers, transcript, Call.settled?]
  | case2 wire taken next step settled =>
      rw [write] at step
      cases step
      simp_all [offers, transcript, Call.settled?]

section Views

variable {β : Type} {view : Call → Option β}

/-- A read cannot be seen in a view of the transcript that passes over reads. -/
theorem filterMap_transcript_read (passes : ∀ purpose want got, view (.read purpose want got) = none)
    (wire : Wire σ) (purpose : Purpose) (want : Nat) :
    (wire.read purpose want).2.transcript.filterMap view = wire.transcript.filterMap view := by
  simp [read, transcript, passes]

/-- Nor can a fetch. -/
theorem filterMap_transcript_fetch
    (passes : ∀ purpose want got, view (.read purpose want got) = none) (wire : Wire σ)
    (purpose : Purpose) (want : Nat) :
    (wire.fetch purpose want).2.transcript.filterMap view = wire.transcript.filterMap view := by
  fun_induction fetch wire purpose want with
  | case1 wire got next step interrupted ih =>
      rw [ih, ← filterMap_transcript_read passes wire purpose want, step]
  | case2 wire got next step settled =>
      rw [← filterMap_transcript_read passes wire purpose want, step]

end Views

/-- A fetch gives no more than was wanted. -/
theorem length_fetch {wire : Wire σ} {purpose : Purpose} {want : Nat} {data : List UInt8}
    (got : (wire.fetch purpose want).1 = .ok data) : data.length ≤ want := by
  fun_induction fetch wire purpose want with
  | case1 wire result next step interrupted ih => exact ih got
  | case2 wire result next step settled =>
      exact @length_read σ _ wire purpose want data (by rw [step]; exact got)

end Wire

end RegisterBridge
