import RegisterBridge.Frame.Basic
import RegisterBridge.Frame.Scratch
import RegisterBridge.Stream.Wire

/-!
# Sending commands

A command goes out in one effective write.  The protocol does not acknowledge
partial sends, so a short write is reported and the exchange goes on.
-/

namespace RegisterBridge

/-- A wire and the buffer in which commands for it are encoded. -/
structure CommandWriter (σ : Type) where
  wire : Wire σ
  buffer : Scratch := .empty

namespace CommandWriter

variable {σ : Type} [ByteStream σ]

/-- Offer the bytes in the buffer as the command with a tag. -/
def flush (writer : CommandWriter σ) (tag : Tag) : Outcome FrameError Nat × CommandWriter σ :=
  match writer with
  | ⟨wire, buffer⟩ =>
    match wire.offer buffer.bytes with
    | (.ok written, wire) =>
        if written = buffer.bytes.length then (.ok written, ⟨wire, buffer⟩)
        else
          (.ok written,
            ⟨wire.report (.incompleteCommand tag written buffer.bytes.length), buffer⟩)
    | (.error error, wire) => (.error (.io error), ⟨wire, buffer⟩)
    | (.died, wire) => (.died, ⟨wire, buffer⟩)

/-- Encode a command and send it.  The value is the number of bytes the stream
took. -/
def send (writer : CommandWriter σ) (command : Command) :
    Outcome FrameError Nat × CommandWriter σ :=
  if command.payload.length ≤ maxCommandPayload then
    match writer with
    | ⟨wire, buffer⟩ =>
      match command.appendTo buffer.clear.bytes with
      | .ok bytes => flush ⟨wire, ⟨bytes⟩⟩ command.tag
      | .error error => (.error error, ⟨wire, buffer.clear⟩)
  else
    (.error (.payloadTooLarge command.payload.length maxCommandPayload), writer)

/-- A command within the limit is offered as its own bytes, whatever the buffer
held before. -/
theorem send_of_le {writer : CommandWriter σ} {command : Command}
    (fits : command.payload.length ≤ maxCommandPayload) :
    writer.send command = flush ⟨writer.wire, ⟨command.encode⟩⟩ command.tag := by
  have small : command.payload.length ≤ maxFrameLength :=
    Nat.le_trans fits (by decide)
  simp [send, fits, Command.appendTo, small]

end CommandWriter

end RegisterBridge
