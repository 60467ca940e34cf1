import RegisterBridge.Frame.Basic
import RegisterBridge.Frame.Scratch
import RegisterBridge.Stream.Wire

/-!
# Receiving answers

An answer is awaited by polling for its header a fixed number of times.  After
the header the payload comes in one read, with the padding byte if the answer
ends on a full USB packet.  An answer that is too large is read to its end and
dropped, so that the next header starts the next answer.
-/

namespace RegisterBridge

/-- Header polls before an answer counts as missing. -/
def maxHeaderPolls : Nat := 15

/-- A wire and the buffer in which its answers are decoded. -/
structure AnswerReader (σ : Type) where
  wire : Wire σ
  buffer : Scratch := .empty

/-- What one poll for a header shows. -/
inductive Poll where
  | found (tag : Tag) (header : Header)
  | torn (received : Nat)
  /-- Nothing, a failure, or four bytes that start with no tag. -/
  | unsuccessful
deriving DecidableEq, Repr

/-- Judge the bytes that a poll read. -/
def Poll.ofBytes : List UInt8 → Poll
  | [] => .unsuccessful
  | [tag, high, low, address] =>
      match Tag.ofByte? tag with
      | some known => .found known (Header.decode tag high low address)
      | none => .unsuccessful
  | bytes => .torn bytes.length

namespace Wire

variable {σ : Type} [ByteStream σ]

/-- Poll for a header, `attempts` more times. -/
def pollHeader : Nat → Wire σ → Outcome FrameError (Tag × Header) × Wire σ
  | 0, wire => (.error (.timeout maxHeaderPolls), wire)
  | attempts + 1, wire =>
    match wire.read .header headerSize with
    | (.ok bytes, wire) =>
      match Poll.ofBytes bytes with
      | .found tag header => (.ok (tag, header), wire)
      | .torn received => (.error (.tornHeader received), wire)
      | .unsuccessful => pollHeader attempts wire
    | (.error _, wire) => pollHeader attempts wire
    | (.died, wire) => (.died, wire)

end Wire

namespace AnswerReader

variable {σ : Type} [ByteStream σ]

/-- Poll for the header of the next answer. -/
def pollHeader (reader : AnswerReader σ) :
    Outcome FrameError (Tag × Header) × AnswerReader σ :=
  match reader with
  | ⟨wire, buffer⟩ =>
    match wire.pollHeader maxHeaderPolls with
    | (found, wire) => (found, ⟨wire, buffer⟩)

/-- Read and drop bytes until none remain or the stream runs dry; the value is
the number of bytes not obtained. -/
def drain (reader : AnswerReader σ) (remaining : Nat) : Outcome Empty Nat × AnswerReader σ :=
  if remaining = 0 then (.ok 0, reader)
  else
    match reader with
    | ⟨wire, buffer⟩ =>
      match wire.fetch .drain (min remaining buffer.bytes.length) with
      | (.ok [], wire) => (.ok remaining, ⟨wire, buffer⟩)
      | (.ok (byte :: rest), wire) =>
          drain ⟨wire, buffer.fill (byte :: rest)⟩ (remaining - (rest.length + 1))
      | (.error _, wire) => (.ok remaining, ⟨wire, buffer⟩)
      | (.died, wire) => (.died, ⟨wire, buffer⟩)
termination_by remaining

/-- Drop `size` bytes of an oversized answer, and report what was missing. -/
def discard (reader : AnswerReader σ) (size : Nat) : Outcome Empty Unit × AnswerReader σ :=
  match drain ⟨reader.wire, reader.buffer.clear.resize (maxAnswerPayload + 1)⟩ size with
  | (.ok 0, reader) => (.ok (), reader)
  | (.ok remaining, ⟨wire, buffer⟩) => (.ok (), ⟨wire.report (.partlyDrained remaining), buffer⟩)
  | (.died, reader) => (.died, reader)

/-- Read the payload that a header announces into the buffer. -/
def readBody (reader : AnswerReader σ) (tag : Tag) (header : Header) :
    Outcome FrameError Answer × AnswerReader σ :=
  let size := answerReadLength header.length
  match reader with
  | ⟨wire, buffer⟩ =>
    let buffer := buffer.clear.resize size
    if size = 0 then (.ok ⟨tag, header.address, []⟩, ⟨wire, buffer⟩)
    else
      match wire.fetch .body size with
      | (.ok data, wire) =>
          if data.length < size then
            (.error (.shortRead size data.length), ⟨wire, buffer.fill data⟩)
          else
            (.ok ⟨tag, header.address, ((buffer.fill data).truncate header.length).bytes⟩,
              ⟨wire, .empty⟩)
      | (.error error, wire) =>
          if error.isNothingYet then (.error (.shortRead size 0), ⟨wire, buffer⟩)
          else (.error (.io error), ⟨wire, buffer⟩)
      | (.died, wire) => (.died, ⟨wire, buffer⟩)

/-- Read what follows a header. -/
def readRest (reader : AnswerReader σ) (tag : Tag) (header : Header) :
    Outcome FrameError Answer × AnswerReader σ :=
  if header.length ≤ maxAnswerPayload then reader.readBody tag header
  else
    match reader.discard (answerReadLength header.length) with
    | (.ok (), reader) => (.error (.answerTooLarge header.length maxAnswerPayload), reader)
    | (.died, reader) => (.died, reader)

/-- Read the next answer. -/
def readAnswer (reader : AnswerReader σ) : Outcome FrameError Answer × AnswerReader σ :=
  match reader.pollHeader with
  | (.ok (tag, header), reader) => reader.readRest tag header
  | (.error error, reader) => (.error error, reader)
  | (.died, reader) => (.died, reader)

end AnswerReader

end RegisterBridge
