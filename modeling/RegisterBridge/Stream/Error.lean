/-!
# Stream errors

A call on a stream, a port or a file fails with an error that has a kind,
which decides how the failure is handled, and a text, which is shown.  An error
that the operating system numbers gets both from its number.
-/

namespace RegisterBridge

/-- The kinds of failure of a call. -/
inductive FaultKind where
  | notFound
  | permissionDenied
  | connectionRefused
  | connectionReset
  | connectionAborted
  | notConnected
  | brokenPipe
  | alreadyExists
  | wouldBlock
  | invalidInput
  | invalidData
  | timedOut
  | writeZero
  | interrupted
  | unsupported
  | unexpectedEof
  | outOfMemory
  | resourceBusy
  | isADirectory
  | inputOutput
  | other
  | uncategorized
deriving DecidableEq, Repr

/-- The text of an error that has no text of its own. -/
def FaultKind.description : FaultKind → String
  | .notFound => "entity not found"
  | .permissionDenied => "permission denied"
  | .connectionRefused => "connection refused"
  | .connectionReset => "connection reset"
  | .connectionAborted => "connection aborted"
  | .notConnected => "not connected"
  | .brokenPipe => "broken pipe"
  | .alreadyExists => "entity already exists"
  | .wouldBlock => "operation would block"
  | .invalidInput => "invalid input parameter"
  | .invalidData => "invalid data"
  | .timedOut => "timed out"
  | .writeZero => "write zero"
  | .interrupted => "operation interrupted"
  | .unsupported => "unsupported"
  | .unexpectedEof => "unexpected end of file"
  | .outOfMemory => "out of memory"
  | .resourceBusy => "resource busy"
  | .isADirectory => "is a directory"
  | .inputOutput => "input/output error"
  | .other => "other error"
  | .uncategorized => "uncategorized error"

/-- A failed call: its kind and the text shown for it. -/
structure StreamError where
  kind : FaultKind
  text : String
deriving DecidableEq, Repr

namespace StreamError

/-- The error of a kind that says no more than its kind. -/
def ofKind (kind : FaultKind) : StreamError :=
  ⟨kind, kind.description⟩

/-- Kind and description of the errors that the operating system numbers. -/
def ofNumberTable : Nat → FaultKind × String
  | 1 => (.permissionDenied, "Operation not permitted")
  | 2 => (.notFound, "No such file or directory")
  | 4 => (.interrupted, "Interrupted system call")
  | 5 => (.inputOutput, "Input/output error")
  | 9 => (.uncategorized, "Bad file descriptor")
  | 11 => (.wouldBlock, "Resource temporarily unavailable")
  | 13 => (.permissionDenied, "Permission denied")
  | 16 => (.resourceBusy, "Device or resource busy")
  | 17 => (.alreadyExists, "File exists")
  | 19 => (.uncategorized, "No such device")
  | 21 => (.isADirectory, "Is a directory")
  | 22 => (.invalidInput, "Invalid argument")
  | 25 => (.uncategorized, "Inappropriate ioctl for device")
  | 32 => (.brokenPipe, "Broken pipe")
  | 110 => (.timedOut, "Connection timed out")
  | n => (.uncategorized, s!"Unknown error {n}")

/-- The error with a number of the operating system. -/
def ofNumber (n : Nat) : StreamError :=
  let (kind, description) := ofNumberTable n
  ⟨kind, s!"{description} (os error {n})"⟩

/-- Whether the call was cut short and can be made again at once. -/
def isInterrupted (error : StreamError) : Bool :=
  error.kind == .interrupted

/-- Whether the call found nothing to read yet. -/
def isNothingYet (error : StreamError) : Bool :=
  error.kind == .wouldBlock || error.kind == .timedOut

end StreamError

end RegisterBridge
