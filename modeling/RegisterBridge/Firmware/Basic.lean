import RegisterBridge.Firmware.Memory
import RegisterBridge.Firmware.Ring
import RegisterBridge.Frame.Basic

/-!
# The firmware

A model of the firmware at the other end: a register memory with a burst
cursor, and a queue of answer bytes waiting to be read.  Every whole command is
answered at once.  A behaviour describes how a device departs from the rule,
for links to be tried against; the default departs in nothing.
-/

namespace RegisterBridge

/-- How a device answers. -/
structure Behaviour where
  /-- The payload of the answer to a version query. -/
  verdict : List UInt8 := [1]
  /-- Copies of the register in the answer to a register read. -/
  registerCopies : Nat := 1
  /-- Bytes missing at the end of a chunk that is read. -/
  truncate : Nat := 0
  /-- Bytes added at the end of a chunk that is read. -/
  extend : Nat := 0
  /-- The tag of every answer, instead of the tag of its command. -/
  echoTag : Option UInt8 := none
  /-- The bits in which the address of an answer differs from its command's. -/
  echoFlip : UInt8 := 0
  /-- The number of commands that are obeyed; all, if absent. -/
  obeyed : Option Nat := none
  /-- The bytes that take the place of the answer to the command with an
  index. -/
  replacements : Array (Option (List UInt8)) := #[]
  /-- Whether answers are padded. -/
  pads : Bool := true
  /-- The byte that fills up a padded answer. -/
  padding : UInt8 := 0xee

/-- A device: its behaviour, memory and cursor, the answer bytes not read yet,
and the commands it received. -/
structure Firmware where
  behaviour : Behaviour := {}
  memory : Array UInt8 := Firmware.initialMemory
  cursor : Nat := 0
  pending : Ring := {}
  received : Array Command := #[]

namespace Firmware

/-- The size that a read request asks for. -/
def requestedSize : List UInt8 → Nat
  | high :: low :: _ => 256 * high.toNat + low.toNat
  | _ => 0

/-- Store a chunk at the cursor. -/
def storeChunk (firmware : Firmware) (data : List UInt8) : Firmware :=
  match firmware with
  | ⟨behaviour, memory, cursor, pending, received⟩ =>
      ⟨behaviour, store memory cursor data, cursor + data.length, pending, received⟩

/-- Load a chunk from the cursor. -/
def loadChunk (firmware : Firmware) (size : Nat) : List UInt8 × Firmware :=
  match firmware with
  | ⟨behaviour, memory, cursor, pending, received⟩ =>
      ((load memory cursor size).take (size - behaviour.truncate) ++
          List.replicate behaviour.extend 0x55,
        ⟨behaviour, memory, cursor + size, pending, received⟩)

/-- Move the cursor. -/
def seek (firmware : Firmware) (position : Nat) : Firmware :=
  match firmware with
  | ⟨behaviour, memory, _, pending, received⟩ =>
      ⟨behaviour, memory, position, pending, received⟩

/-- Write a register. -/
def setRegister (firmware : Firmware) (address : UInt8) : List UInt8 → Firmware
  | value :: _ =>
    match firmware with
    | ⟨behaviour, memory, cursor, pending, received⟩ =>
        ⟨behaviour, poke memory address.toNat value, cursor, pending, received⟩
  | [] => firmware

/-- Carry out a command and give the payload of its answer. -/
def obey (firmware : Firmware) (command : Command) : List UInt8 × Firmware :=
  let address := command.address.toNat
  match command.tag with
  | .readRegister =>
      (List.replicate firmware.behaviour.registerCopies (peek firmware.memory address),
        firmware)
  | .writeRegister => ([], firmware.setRegister command.address command.payload)
  | .firmwareVersion => (firmware.behaviour.verdict, firmware)
  | .writeBurstFirst | .writeBurstAtomic =>
      ([], (firmware.seek address).storeChunk command.payload)
  | .writeBurstMiddle | .writeBurstEnd => ([], firmware.storeChunk command.payload)
  | .readBurstFirst | .readBurstAtomic =>
      (firmware.seek address).loadChunk (requestedSize command.payload)
  | .readBurstMiddle | .readBurstEnd => firmware.loadChunk (requestedSize command.payload)
  | _ => ([], firmware)

/-- The bytes of an answer with a payload. -/
def answerBytes (behaviour : Behaviour) (command : Command) (payload : List UInt8) :
    List UInt8 :=
  behaviour.echoTag.getD command.tag.byte :: bigEndian16 payload.length ++
    (command.address ^^^ behaviour.echoFlip) :: payload

/-- The padding behind an answer with a payload: one byte if the answer, with the four bytes
of its header, fills packets of 64 bytes to the end. -/
def paddingBytes (behaviour : Behaviour) (payload : List UInt8) : List UInt8 :=
  if behaviour.pads = true ∧ (4 + payload.length) % 64 = 0 then [behaviour.padding] else []

/-- Append bytes to those waiting to be read. -/
def enqueue (firmware : Firmware) (bytes : List UInt8) : Firmware :=
  match firmware with
  | ⟨behaviour, memory, cursor, pending, received⟩ =>
      ⟨behaviour, memory, cursor, pending.append bytes, received⟩

/-- Take note of a command. -/
def note (firmware : Firmware) (command : Command) : Firmware :=
  match firmware with
  | ⟨behaviour, memory, cursor, pending, received⟩ =>
      ⟨behaviour, memory, cursor, pending, received.push command⟩

/-- Answer the command with an index. -/
def answer (firmware : Firmware) (index : Nat) (command : Command) (payload : List UInt8) :
    Firmware :=
  let behaviour := firmware.behaviour
  match behaviour.replacements[index]?.join with
  | some bytes => firmware.enqueue bytes
  | none =>
      (firmware.enqueue (answerBytes behaviour command payload)).enqueue
        (paddingBytes behaviour payload)

/-- Receive a command: obey and answer it, unless the behaviour forbids. -/
def handle (firmware : Firmware) (command : Command) : Firmware :=
  let index := firmware.received.size
  let silent := firmware.behaviour.obeyed.any (· ≤ index)
  let firmware := firmware.note command
  if silent then firmware
  else
    match firmware.obey command with
    | (payload, firmware) => firmware.answer index command payload

/-- Receive bytes.  They count only if they start with a whole command. -/
def accept (firmware : Firmware) (bytes : List UInt8) : Firmware :=
  match decodeCommand? bytes with
  | some (command, _) => firmware.handle command
  | none => firmware

/-- Give up to `want` of the bytes waiting to be read. -/
def give (firmware : Firmware) (want : Nat) : List UInt8 × Firmware :=
  match firmware with
  | ⟨behaviour, memory, cursor, pending, received⟩ =>
    match pending.take want with
    | (data, pending) => (data, ⟨behaviour, memory, cursor, pending, received⟩)

theorem length_give_le (firmware : Firmware) (want : Nat) :
    (firmware.give want).1.length ≤ want := by
  exact List.length_take_le ..

end Firmware

end RegisterBridge
