import RegisterBridge.Firmware.Terminal
import RegisterBridge.Proofs.Burst.Layout
import RegisterBridge.Proofs.Dialogue.Reception

/-!
# Exchanges with a device

A device that departs in nothing answers every command with one frame.  The main
statement is that an exchange with it gives what it makes of the command, and
that no byte of the answer is left waiting.

A device may be a stream by itself or sit behind one.  The two differ only in reads
that find nothing waiting, and exchanges make no such read.
-/

namespace RegisterBridge

namespace Firmware

/-- The device departs in nothing, but may pad with any byte. -/
def Plain (firmware : Firmware) : Prop :=
  ∃ padding, firmware.behaviour = { padding }

/-- A device that departs in nothing, with some memory and cursor and some bytes
waiting to be read. -/
structure Holds (firmware : Firmware) (memory : Array UInt8) (cursor : Nat)
    (waiting : List UInt8) : Prop where
  plain : firmware.Plain
  memory_eq : firmware.memory = memory
  cursor_eq : firmware.cursor = cursor
  waiting_eq : firmware.pending.bytes = waiting

/-- A command with nothing waiting gives the payload of its answer and a memory
and cursor. -/
def Obeys (command : Command) (memory : Array UInt8) (cursor : Nat) (payload : List UInt8)
    (memory' : Array UInt8) (cursor' : Nat) : Prop :=
  ∀ firmware : Firmware, firmware.Holds memory cursor [] →
    (firmware.obey command).1 = payload ∧ (firmware.obey command).2.Holds memory' cursor' []

/-- A way to reach devices: the stream to a device gives what is waiting there, if
anything is, and hands over every write. -/
structure Reach (σ : Type) [ByteStream σ] where
  stream : Firmware → σ
  read_eq : ∀ {firmware : Firmware} {want : Nat}, firmware.pending.bytes ≠ [] →
    ByteStream.read (stream firmware) want =
      (.ok (firmware.give want).1, stream (firmware.give want).2)
  write_eq : ∀ {firmware : Firmware} {bytes : List UInt8},
    ByteStream.write (stream firmware) bytes = (.ok bytes.length, stream (firmware.accept bytes))

/-- A device is a stream by itself. -/
def Reach.direct : Reach Firmware where
  stream firmware := firmware
  read_eq _ := rfl
  write_eq := rfl

/-- Behind a terminal a device is reached too. -/
def Reach.terminal : Reach Terminal where
  stream firmware := ⟨firmware⟩
  read_eq waiting := if_neg waiting
  write_eq := rfl

variable {firmware : Firmware} {memory memory' : Array UInt8} {cursor cursor' : Nat}
  {payload : List UInt8} {σ : Type} [ByteStream σ] (reach : Reach σ)

theorem Holds.note {waiting : List UInt8} (holds : firmware.Holds memory cursor waiting)
    (command : Command) : (firmware.note command).Holds memory cursor waiting :=
  ⟨holds.plain, holds.memory_eq, holds.cursor_eq, holds.waiting_eq⟩

/-- A read gives bytes from the front of those waiting. -/
theorem Holds.read_eq {data rest : List UInt8}
    (holds : firmware.Holds memory cursor (data ++ rest)) (nonempty : data ≠ []) :
    ∃ next, ByteStream.read (reach.stream firmware) data.length = (.ok data, reach.stream next) ∧
      next.Holds memory cursor rest := by
  have waiting : firmware.pending.bytes ≠ [] := by
    rw [holds.waiting_eq]
    exact List.append_ne_nil_of_left_ne_nil nonempty rest
  refine ⟨(firmware.give data.length).2, ?_, ?_⟩
  · have given : (firmware.give data.length).1 = data := by
      simp [give, holds.waiting_eq]
    rw [reach.read_eq waiting, given]
  · refine ⟨holds.plain, holds.memory_eq, holds.cursor_eq, ?_⟩
    simp [give, holds.waiting_eq]

/-- The answer to a command is one frame, with its padding. -/
theorem Holds.answer (holds : firmware.Holds memory cursor [])
    (fits : payload.length ≤ maxFrameLength) (index : Nat) (command : Command) :
    ∃ header body, Answer.Image ⟨command.tag, command.address, payload⟩ header body ∧
      (firmware.answer index command payload).Holds memory cursor (header ++ body) := by
  rcases firmware with ⟨behaviour, memory, cursor, pending, received⟩
  rcases holds with ⟨⟨padding, rfl⟩, rfl, rfl, waiting⟩
  refine ⟨command.tag.byte :: bigEndian16 payload.length ++ [command.address],
    payload ++ paddingBytes { padding } payload,
    ⟨fits, rfl, paddingBytes { padding } payload, ?_, ?_⟩, ⟨padding, rfl⟩, rfl, rfl, ?_⟩
  · simp [Command.encode]
  · simp only [paddingBytes, true_and]
    split <;> rfl
  · simp only at waiting
    simp [Firmware.answer, enqueue, answerBytes, waiting]

theorem Holds.seek {waiting : List UInt8} (holds : firmware.Holds memory cursor waiting)
    (position : Nat) : (firmware.seek position).Holds memory position waiting :=
  ⟨holds.plain, holds.memory_eq, rfl, holds.waiting_eq⟩

theorem Holds.storeChunk {waiting : List UInt8} (holds : firmware.Holds memory cursor waiting)
    (data : List UInt8) :
    (firmware.storeChunk data).Holds (store memory cursor data) (cursor + data.length) waiting := by
  rcases firmware with ⟨behaviour, memory, cursor, pending, received⟩
  rcases holds with ⟨plain, rfl, rfl, waiting_eq⟩
  exact ⟨plain, rfl, rfl, waiting_eq⟩

theorem Holds.loadChunk {waiting : List UInt8} (holds : firmware.Holds memory cursor waiting)
    (size : Nat) :
    (firmware.loadChunk size).1 = load memory cursor size ∧
      (firmware.loadChunk size).2.Holds memory (cursor + size) waiting := by
  rcases firmware with ⟨behaviour, memory, cursor, pending, received⟩
  rcases holds with ⟨⟨padding, rfl⟩, rfl, rfl, waiting_eq⟩
  refine ⟨?_, ⟨padding, rfl⟩, rfl, rfl, waiting_eq⟩
  have whole : (load memory cursor size).length ≤ size - 0 := Nat.le_of_eq (length_load ..)
  calc
    (load memory cursor size).take (size - 0) ++ [] = (load memory cursor size).take (size - 0) :=
      List.append_nil _
    _ = load memory cursor size := List.take_of_length_le whole

/-! ## Commands -/

theorem obeys_readRegister (address : UInt8) (data : List UInt8) (memory : Array UInt8)
    (cursor : Nat) :
    Obeys ⟨.readRegister, address, data⟩ memory cursor [peek memory address.toNat] memory
      cursor := by
  rintro ⟨behaviour, memory, cursor, pending, received⟩ ⟨⟨padding, rfl⟩, rfl, rfl, waiting⟩
  exact ⟨rfl, ⟨padding, rfl⟩, rfl, rfl, waiting⟩

theorem obeys_writeRegister (address value : UInt8) (data : List UInt8) (memory : Array UInt8)
    (cursor : Nat) :
    Obeys ⟨.writeRegister, address, value :: data⟩ memory cursor []
      (poke memory address.toNat value) cursor := by
  rintro ⟨behaviour, memory, cursor, pending, received⟩ ⟨⟨padding, rfl⟩, rfl, rfl, waiting⟩
  exact ⟨rfl, ⟨padding, rfl⟩, rfl, rfl, waiting⟩

theorem obeys_firmwareVersion (address : UInt8) (data : List UInt8) (memory : Array UInt8)
    (cursor : Nat) :
    Obeys ⟨.firmwareVersion, address, data⟩ memory cursor [1] memory cursor := by
  rintro ⟨behaviour, memory, cursor, pending, received⟩ ⟨⟨padding, rfl⟩, rfl, rfl, waiting⟩
  exact ⟨rfl, ⟨padding, rfl⟩, rfl, rfl, waiting⟩

section Chunks

variable {address : UInt8} {offset : Nat}

/-- A chunk is stored at its offset, provided the cursor is there unless the
chunk starts its burst. -/
theorem obeys_writeChunk (placed : offset ≠ 0 → cursor = address.toNat + offset) (ends : Bool)
    (data : List UInt8) (memory : Array UInt8) :
    Obeys ⟨.burst .write (Burst.placeOf offset ends), address, data⟩ memory cursor []
      (store memory (address.toNat + offset) data)
      (address.toNat + offset + data.length) := by
  intro firmware holds
  by_cases start : offset = 0
  · subst start
    have obeyed : firmware.obey ⟨.burst .write (Burst.placeOf 0 ends), address, data⟩ =
        ([], (firmware.seek address.toNat).storeChunk data) := by
      cases ends <;> rfl
    rw [obeyed]
    exact ⟨rfl, (holds.seek address.toNat).storeChunk data⟩
  · have obeyed : firmware.obey ⟨.burst .write (Burst.placeOf offset ends), address, data⟩ =
        ([], firmware.storeChunk data) := by
      rw [Burst.placeOf, if_neg start]
      cases ends <;> rfl
    rw [obeyed, ← placed start]
    exact ⟨rfl, holds.storeChunk data⟩

/-- A chunk is loaded from its offset, provided the cursor is there unless the
chunk starts its burst. -/
theorem obeys_readChunk (placed : offset ≠ 0 → cursor = address.toNat + offset) (ends : Bool)
    {size : Nat} (small : size ≤ maxFrameLength) (memory : Array UInt8) :
    Obeys ⟨.burst .read (Burst.placeOf offset ends), address, bigEndian16 size⟩ memory cursor
      (load memory (address.toNat + offset) size) memory (address.toNat + offset + size) := by
  intro firmware holds
  have size_eq : requestedSize (bigEndian16 size) = size := toNat_bigEndian16 small
  by_cases start : offset = 0
  · subst start
    have obeyed :
        firmware.obey ⟨.burst .read (Burst.placeOf 0 ends), address, bigEndian16 size⟩ =
          (firmware.seek address.toNat).loadChunk (requestedSize (bigEndian16 size)) := by
      cases ends <;> rfl
    rw [obeyed, size_eq]
    exact (holds.seek address.toNat).loadChunk size
  · have obeyed :
        firmware.obey ⟨.burst .read (Burst.placeOf offset ends), address, bigEndian16 size⟩ =
          firmware.loadChunk (requestedSize (bigEndian16 size)) := by
      rw [Burst.placeOf, if_neg start]
      cases ends <;> rfl
    rw [obeyed, size_eq, ← placed start]
    exact holds.loadChunk size

end Chunks

/-! ## Exchanges -/

/-- A whole command is received as it was encoded. -/
theorem accept_encode {command : Command} (fits : command.payload.length ≤ maxFrameLength)
    (firmware : Firmware) : firmware.accept command.encode = firmware.handle command := by
  have decoded := decodeCommand?_encode_append fits []
  rw [List.append_nil] at decoded
  rw [accept, decoded]

/-- A device that departs in nothing obeys and answers every command. -/
theorem Holds.handle (holds : firmware.Holds memory cursor []) {command : Command}
    (obeys : Obeys command memory cursor payload memory' cursor')
    (fits : payload.length ≤ maxFrameLength) :
    ∃ header body, Answer.Image ⟨command.tag, command.address, payload⟩ header body ∧
      (firmware.handle command).Holds memory' cursor' (header ++ body) := by
  obtain ⟨payload_eq, obeyed⟩ := obeys _ (holds.note command)
  have handled : firmware.handle command =
      ((firmware.note command).obey command).2.answer firmware.received.size command
        ((firmware.note command).obey command).1 := by
    obtain ⟨padding, behaviour_eq⟩ := holds.plain
    rw [Firmware.handle, behaviour_eq]
    rfl
  rw [handled, payload_eq]
  exact obeyed.answer fits _ command

/-- An exchange with a device that has nothing waiting gives the answer to the
command, and leaves nothing waiting. -/
theorem Holds.runOn_exchange (holds : firmware.Holds memory cursor []) {command : Command}
    (obeys : Obeys command memory cursor payload memory' cursor')
    (fits : command.payload.length ≤ maxCommandPayload)
    (small : payload.length ≤ maxAnswerPayload) :
    ∃ left, (Dialogue.exchange command).runOn (reach.stream firmware) =
        (.ok ⟨command.tag, command.address, payload⟩, reach.stream left) ∧
      left.Holds memory' cursor' [] := by
  obtain ⟨header, body, image, answered⟩ :=
    holds.handle obeys (Nat.le_trans small (by decide))
  have header_nonempty : header ≠ [] := by simp [image.parts.1]
  obtain ⟨opened, header_read, opened_holds⟩ := answered.read_eq reach header_nonempty
  obtain ⟨left, body_read, unread, left_holds⟩ : ∃ left,
      (body ≠ [] →
        ByteStream.read (reach.stream opened) body.length = (.ok body, reach.stream left)) ∧
        (body = [] → opened = left) ∧ left.Holds memory' cursor' [] := by
    by_cases empty : body = []
    · exact ⟨opened, fun nonempty => absurd empty nonempty, fun _ => rfl, empty ▸ opened_holds⟩
    · rw [← List.append_nil body] at opened_holds
      obtain ⟨left, body_read, left_holds⟩ := opened_holds.read_eq reach empty
      exact ⟨left, fun _ => body_read, fun none => absurd none empty, left_holds⟩
  have sent : (Dialogue.send command).runOn (reach.stream firmware) =
      (.ok command.wireSize, reach.stream (firmware.handle command)) := by
    have short : command.payload.length ≤ maxFrameLength := Nat.le_trans fits (by decide)
    have written : ByteStream.write (reach.stream firmware) command.encode =
        (.ok command.wireSize, reach.stream (firmware.handle command)) := by
      rw [reach.write_eq, accept_encode short, command.length_encode]
    rw [Dialogue.send, if_pos fits, Dialogue.transmit, Dialogue.runOn_offer written rfl]
    simp
  have received : Dialogue.answer.runOn (reach.stream (firmware.handle command)) =
      (.ok ⟨command.tag, command.address, payload⟩, reach.stream left) := by
    have polls_left : maxHeaderPolls ≠ 0 := by decide
    rw [Dialogue.answer,
      Dialogue.runOn_andThen (Dialogue.runOn_awaitHeader_found image header_read polls_left)]
    exact Dialogue.runOn_rest_of_le image small body_read fun none => congrArg _ (unread none)
  refine ⟨left, ?_, left_holds⟩
  rw [Dialogue.exchange, Dialogue.runOn_map, Dialogue.runOn_andThen sent, received]
  rfl

end Firmware

end RegisterBridge
