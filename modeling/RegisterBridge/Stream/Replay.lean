import RegisterBridge.Stream.Basic

/-!
# Replayed streams

A replayed stream answers the calls made so far with the answers they got, and
stops the caller at the first call that has no answer yet, which it notes.
Whoever can make that call appends the answer and starts over, so that a run
over a stream of the outside world is a sequence of runs over replayed ones.
-/

namespace RegisterBridge

/-- The answer a call got. -/
inductive Reply where
  | read (got : Except StreamError (List UInt8))
  | write (taken : Except StreamError Nat)

/-- A call without an answer. -/
inductive OpenCall where
  | read (want : Nat)
  | write (bytes : List UInt8)
deriving DecidableEq, Repr

/-- Whether an answer is an interruption. -/
def Reply.interrupts : Reply → Bool
  | read (.error error) => error.isInterrupted
  | write (.error error) => error.isInterrupted
  | _ => false

/-- A stream that repeats the answers its calls got. -/
structure Replay where
  replies : List Reply := []
  /-- The call at which the caller was stopped. -/
  stoppedAt : Option OpenCall := none

namespace Replay

/-- Answer a read. -/
def read (stream : Replay) (want : Nat) : Outcome StreamError (List UInt8) × Replay :=
  match stream.replies with
  | .read (.ok data) :: replies => (.ok (data.take want), { stream with replies })
  | .read (.error error) :: replies => (.error error, { stream with replies })
  | _ => (.died, ⟨[], some (.read want)⟩)

/-- Answer a write. -/
def write (stream : Replay) (bytes : List UInt8) : Outcome StreamError Nat × Replay :=
  match stream.replies with
  | .write (.ok count) :: replies => (.ok (min count bytes.length), { stream with replies })
  | .write (.error error) :: replies => (.error error, { stream with replies })
  | _ => (.died, ⟨[], some (.write bytes)⟩)

end Replay

instance : ByteStream Replay where
  read := Replay.read
  write := Replay.write
  interruptionsLeft stream := stream.replies.countP Reply.interrupts
  length_read := by
    intro stream want data got
    unfold Replay.read at got
    split at got <;> cases got
    exact List.length_take_le ..
  count_write := by
    intro stream bytes count taken
    unfold Replay.write at taken
    split at taken <;> cases taken
    exact Nat.min_le_right ..
  interrupted_read := by
    intro stream want interrupted
    unfold Replay.read at *
    split at interrupted <;> simp [Outcome.isInterrupted] at interrupted
    simp [*, Reply.interrupts]
  interrupted_write := by
    intro stream bytes interrupted
    unfold Replay.write at *
    split at interrupted <;> simp [Outcome.isInterrupted] at interrupted
    simp [*, Reply.interrupts]

instance : Release Replay where
  release stream := (.ok (), stream)

end RegisterBridge
