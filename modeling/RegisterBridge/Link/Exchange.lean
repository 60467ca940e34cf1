import RegisterBridge.Frame.Reader
import RegisterBridge.Frame.Writer
import RegisterBridge.Link.Error

/-!
# Exchanges

An exchange sends one command and takes whatever answer comes next.  It borrows
the two buffers of the link state in turn; a buffer is lost with a caller that
dies while holding it.
-/

namespace RegisterBridge

/-- A wire with the buffers its exchanges reuse. -/
structure LinkState (σ : Type) where
  wire : Wire σ
  encodeBuffer : Scratch := .empty
  decodeBuffer : Scratch := .empty

namespace LinkState

variable {σ : Type} [ByteStream σ]

/-- Send a command. -/
def send (state : LinkState σ) (command : Command) : Outcome LinkError Nat × LinkState σ :=
  match state with
  | ⟨wire, encodeBuffer, decodeBuffer⟩ =>
    match CommandWriter.send ⟨wire, encodeBuffer⟩ command with
    | (.ok written, ⟨wire, encodeBuffer⟩) => (.ok written, ⟨wire, encodeBuffer, decodeBuffer⟩)
    | (.error error, ⟨wire, encodeBuffer⟩) =>
        (.error (.frame error), ⟨wire, encodeBuffer, decodeBuffer⟩)
    | (.died, ⟨wire, _⟩) => (.died, ⟨wire, .empty, decodeBuffer⟩)

/-- Receive an answer. -/
def receive (state : LinkState σ) : Outcome LinkError Answer × LinkState σ :=
  match state with
  | ⟨wire, encodeBuffer, decodeBuffer⟩ =>
    match AnswerReader.readAnswer ⟨wire, decodeBuffer⟩ with
    | (.ok answer, ⟨wire, decodeBuffer⟩) => (.ok answer, ⟨wire, encodeBuffer, decodeBuffer⟩)
    | (.error error, ⟨wire, decodeBuffer⟩) =>
        (.error (.frame error), ⟨wire, encodeBuffer, decodeBuffer⟩)
    | (.died, ⟨wire, _⟩) => (.died, ⟨wire, encodeBuffer, .empty⟩)

/-- Send a command and receive the answer.  A failed send is followed by no
read; a short write is. -/
def execute (state : LinkState σ) (command : Command) :
    Outcome LinkError Answer × LinkState σ :=
  match state.send command with
  | (.ok _, state) => state.receive
  | (.error error, state) => (.error error, state)
  | (.died, state) => (.died, state)

end LinkState

end RegisterBridge
