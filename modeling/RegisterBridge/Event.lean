import RegisterBridge.Link.Error

/-!
# Events

What is worth telling the operator while the work goes on.  Events never change
an answer.
-/

namespace RegisterBridge

/-- How urgent an event is. -/
inductive EventLevel where
  | info
  | warn
deriving DecidableEq, Repr

/-- Something that happened on the way. -/
inductive Event where
  /-- The stream took fewer bytes than the command has. -/
  | incompleteCommand (tag : Tag) (written expected : Nat)
  /-- The stream ran dry inside an oversized answer. -/
  | partlyDrained (remaining : Nat)
  /-- The firmware answered the version query without a verdict. -/
  | emptyVersionAnswer
  /-- An earlier caller died while it held the link. -/
  | poisonedLock
  | deviceOpened (path : String) (baudRate : UInt32)
  | unusableCandidate (path : String) (error : LinkError)
  | linkEstablished (path : String)
  | linkClosed (transport : String)
deriving DecidableEq, Repr

namespace Event

/-- The level of an event. -/
def level : Event → EventLevel
  | incompleteCommand .. => .warn
  | partlyDrained _ => .warn
  | emptyVersionAnswer => .warn
  | poisonedLock => .warn
  | deviceOpened .. => .info
  | unusableCandidate .. => .warn
  | linkEstablished _ => .info
  | linkClosed _ => .info

/-- The wording of an event and its fields. -/
def text : Event → String
  | incompleteCommand tag written expected =>
      s!"incomplete command written tag={tag.name} written={written} expected={expected}"
  | partlyDrained remaining =>
      s!"oversized answer only partly drained remaining={remaining}"
  | emptyVersionAnswer => "empty firmware version answer, assuming compatible"
  | poisonedLock => "link lock poisoned by a panicked caller, continuing"
  | deviceOpened path baudRate =>
      "opened serial device path=" ++ Text.quote path ++ s!" baud={baudRate.toNat}"
  | unusableCandidate path error =>
      "no usable bridge on candidate path=" ++ Text.quote path ++ " err=" ++ error.message
  | linkEstablished path => "link established path=" ++ Text.quote path
  | linkClosed transport => s!"link closed transport={transport}"

/-- The line of an event in a log. -/
def line (event : Event) : String :=
  match event.level with
  | .info => "INFO " ++ event.text
  | .warn => "WARN " ++ event.text

end Event

end RegisterBridge
