import RegisterBridge.Frame.Error
import RegisterBridge.Frame.Tag

/-!
# Frames

A frame is a header of four bytes (tag, length with its high byte first,
register address) and a payload of that length.  Commands and answers have the
same form; only an answer that would end on a full USB packet is followed by
one byte of padding.

`decodeCommands?` reads a sequence of frames back and is the inverse of
encoding them one after the other.
-/

namespace RegisterBridge

/-! ## Limits of the protocol -/

/-- Bytes of a header. -/
def headerSize : Nat := 4

/-- Bytes of a USB packet. -/
def usbPacketSize : Nat := 64

/-- Default size of the largest chunk of a write burst. -/
def defaultAtomicTx : Nat := 600

/-- Default size of the largest chunk of a read burst. -/
def defaultAtomicRx : Nat := 900

/-- Largest payload of a command. -/
def maxCommandPayload : Nat := 600

/-- Largest payload of an answer. -/
def maxAnswerPayload : Nat := 4096

/-- Largest payload the length field can announce. -/
def maxFrameLength : Nat := 65535

/-! ## Encoding -/

/-- A command for the firmware. -/
structure Command where
  tag : Tag
  address : UInt8
  payload : List UInt8
deriving DecidableEq, Repr

/-- An answer of the firmware. -/
structure Answer where
  tag : Tag
  address : UInt8
  payload : List UInt8
deriving DecidableEq, Repr

/-- A decoded header. -/
structure Header where
  tag : UInt8
  length : Nat
  address : UInt8
deriving DecidableEq, Repr

/-- A number below `65536` as two bytes, high byte first. -/
def bigEndian16 (n : Nat) : List UInt8 :=
  [(n / 256).toUInt8, (n % 256).toUInt8]

/-- A number below `2 ^ 32` as four bytes, high byte first. -/
def bigEndian32 (n : Nat) : List UInt8 :=
  bigEndian16 (n / 65536) ++ bigEndian16 (n % 65536)

namespace Command

/-- Bytes of a command on the wire. -/
def wireSize (command : Command) : Nat :=
  headerSize + command.payload.length

/-- The bytes of a command, which are meaningful up to the largest length. -/
def encode (command : Command) : List UInt8 :=
  command.tag.byte :: bigEndian16 command.payload.length ++
    command.address :: command.payload

/-- Append the bytes of a command to a buffer. -/
def appendTo (buffer : List UInt8) (command : Command) : Except FrameError (List UInt8) :=
  if command.payload.length ≤ maxFrameLength then
    .ok (buffer ++ command.encode)
  else
    .error (.payloadTooLarge command.payload.length maxFrameLength)

end Command

/-! ## Decoding -/

/-- The header in four bytes. -/
def Header.decode (tag high low address : UInt8) : Header :=
  ⟨tag, 256 * high.toNat + low.toNat, address⟩

/-- Whether an answer with a payload of some length is padded. -/
def isPadded (length : Nat) : Bool :=
  (headerSize + length) % usbPacketSize == 0

/-- It is if it would end on a full packet. -/
theorem isPadded_iff {length : Nat} : isPadded length = true ↔ (4 + length) % 64 = 0 := by
  simp [isPadded, headerSize, usbPacketSize]

/-- Bytes to read after a header that announces `length`: the payload and its
padding. -/
def answerReadLength (length : Nat) : Nat :=
  if isPadded length then length + 1 else length

theorem answerReadLength_eq (length : Nat) :
    answerReadLength length = if (4 + length) % 64 = 0 then length + 1 else length := by
  simp only [answerReadLength, isPadded_iff]

/-- Nanoseconds to wait after a header that announces `length`. -/
def settleDelay (length : Nat) : Nat :=
  (length + 1) * 6000

/-- Take one command off the front of a byte string. -/
def decodeCommand? : List UInt8 → Option (Command × List UInt8)
  | tag :: high :: low :: address :: rest =>
      let header := Header.decode tag high low address
      match Tag.ofByte? header.tag with
      | some tag =>
          if header.length ≤ rest.length then
            some (⟨tag, header.address, rest.take header.length⟩, rest.drop header.length)
          else none
      | none => none
  | _ => none

theorem decodeCommand?_shorter {bytes rest : List UInt8} {command : Command}
    (found : decodeCommand? bytes = some (command, rest)) :
    rest.length < bytes.length := by
  unfold decodeCommand? at found
  split at found <;> try contradiction
  dsimp only at found
  split at found <;> try contradiction
  split at found <;> try contradiction
  cases found
  simp
  omega

/-- Read a byte string that is one command after the other, up to its end. -/
def decodeCommands? (bytes : List UInt8) : Option (List Command) :=
  if bytes = [] then some []
  else
    match _found : decodeCommand? bytes with
    | some (command, rest) => (decodeCommands? rest).map (command :: ·)
    | none => none
termination_by bytes.length
decreasing_by exact decodeCommand?_shorter _found

/-! ## Lengths -/

@[simp]
theorem length_bigEndian16 (n : Nat) : (bigEndian16 n).length = 2 := rfl

@[simp]
theorem Command.length_encode (command : Command) :
    command.encode.length = command.wireSize := by
  simp [encode, wireSize, headerSize, bigEndian16]
  omega

theorem toNat_bigEndian16 {n : Nat} (small : n ≤ maxFrameLength) :
    256 * (n / 256).toUInt8.toNat + (n % 256).toUInt8.toNat = n := by
  simp [maxFrameLength] at *
  omega

theorem Header.length_decode_le (tag high low address : UInt8) :
    (Header.decode tag high low address).length ≤ maxFrameLength := by
  have := high.toNat_lt
  have := low.toNat_lt
  simp only [decode, maxFrameLength]
  omega

/-- A whole command comes off the front of what follows it. -/
theorem decodeCommand?_encode_append {command : Command}
    (fits : command.payload.length ≤ maxFrameLength) (rest : List UInt8) :
    decodeCommand? (command.encode ++ rest) = some (command, rest) := by
  rcases command with ⟨tag, address, payload⟩
  have length_eq := toNat_bigEndian16 fits
  simp only at length_eq
  simp only [Command.encode, bigEndian16, List.cons_append, List.nil_append,
    decodeCommand?, Header.decode, Tag.ofByte?_byte, length_eq]
  simp

end RegisterBridge
