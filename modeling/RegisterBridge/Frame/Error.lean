import RegisterBridge.Stream.Error

/-!
# Frame errors

What can go wrong when one command or one answer goes over a stream.
-/

namespace RegisterBridge

/-- Why a command was not sent or an answer not received. -/
inductive FrameError where
  /-- The payload fits neither the length field nor the largest command. -/
  | payloadTooLarge (size max : Nat)
  /-- No header arrived within the polls allowed. -/
  | timeout (polls : Nat)
  /-- A read gave part of a header. -/
  | tornHeader (received : Nat)
  /-- The header announces more than an answer may carry. -/
  | answerTooLarge (size max : Nat)
  /-- The read of the payload gave too little. -/
  | shortRead (expected actual : Nat)
  /-- The stream failed. -/
  | io (error : StreamError)
deriving DecidableEq, Repr

/-- The wording of a frame error. -/
def FrameError.message : FrameError → String
  | .payloadTooLarge size max => s!"payload too large ({size} bytes, max {max})"
  | .timeout polls => s!"no answer header after {polls} polls"
  | .tornHeader received => s!"torn answer header ({received} of 4 bytes)"
  | .answerTooLarge size max => s!"answer payload too large ({size} bytes, max {max})"
  | .shortRead expected actual => s!"short answer read ({actual} of {expected} bytes)"
  | .io error => "frame I/O error: " ++ error.text

end RegisterBridge
