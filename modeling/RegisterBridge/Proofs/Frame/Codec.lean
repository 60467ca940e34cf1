import RegisterBridge.Frame.Basic

/-!
# Commands in a buffer

Commands are encoded at the end of a buffer, one after the other, and any of them may
be refused.  The encoder puts one field after the other into the buffer, so it has to
be shown that a refusal leaves nothing behind.

The main statement is that what was put into the buffer reads back as exactly the
commands that were not refused, and that nothing else reads back: the byte strings
that can be read to their end are the encodings of what they read as.
-/

namespace RegisterBridge

namespace Command

/-! ## The encoder and its buffer -/

/-- Put bytes at the end of the buffer. -/
def put (bytes : List UInt8) : EStateM FrameError (List UInt8) Unit :=
  modify (· ++ bytes)

/-- Put a command at the end of the buffer, field after field.  A failure comes with
the buffer as it is at that moment. -/
def encodeInto (command : Command) : EStateM FrameError (List UInt8) Unit := do
  if maxFrameLength < command.payload.length then
    throw (.payloadTooLarge command.payload.length maxFrameLength)
  put [command.tag.byte]
  put (bigEndian16 command.payload.length)
  put [command.address]
  put command.payload

/-- Put commands into the buffer one after the other, whatever becomes of each. -/
def encodeAll : List Command → List UInt8 → List (Except FrameError Unit) × List UInt8
  | [], buffer => ([], buffer)
  | command :: rest, buffer =>
    match command.encodeInto.run buffer with
    | .ok () buffer => ((encodeAll rest buffer).map (.ok () :: ·) id)
    | .error error buffer => ((encodeAll rest buffer).map (.error error :: ·) id)

/-- The length field can hold the length of the payload. -/
def Fits (command : Command) : Prop :=
  command.payload.length ≤ maxFrameLength

instance (command : Command) : Decidable command.Fits :=
  inferInstanceAs (Decidable (_ ≤ _))

variable {command : Command} {buffer : List UInt8}

/-- The fields of a command that fits are its encoding. -/
theorem run_encodeInto_of_fits (fits : command.Fits) (buffer : List UInt8) :
    command.encodeInto.run buffer = .ok () (buffer ++ command.encode) := by
  have small : ¬maxFrameLength < command.payload.length := Nat.not_lt.mpr fits
  have fields : buffer ++ [command.tag.byte] ++ bigEndian16 command.payload.length ++
      [command.address] ++ command.payload = buffer ++ command.encode := by
    simp [encode]
  rw [encodeInto, if_neg small, ← fields]
  rfl

/-- A command that does not fit is refused before anything is put into the buffer. -/
theorem run_encodeInto_of_not_fits (large : ¬command.Fits) (buffer : List UInt8) :
    command.encodeInto.run buffer =
      .error (.payloadTooLarge command.payload.length maxFrameLength) buffer := by
  rw [encodeInto, if_pos (Nat.lt_of_not_le large)]
  rfl

/-- The buffer that a call leaves, unless it fails. -/
def newBuffer : EStateM.Result FrameError (List UInt8) Unit → Except FrameError (List UInt8)
  | .ok () buffer => .ok buffer
  | .error error _ => .error error

/-- Appending a command is encoding it into the buffer. -/
theorem appendTo_eq_newBuffer (buffer : List UInt8) (command : Command) :
    command.appendTo buffer = newBuffer (command.encodeInto.run buffer) := by
  by_cases fits : command.Fits
  · rw [run_encodeInto_of_fits fits]
    exact if_pos fits
  · rw [run_encodeInto_of_not_fits fits]
    exact if_neg fits

/-- What the encoder makes of a command. -/
def encodeResult (command : Command) : Except FrameError Unit :=
  if maxFrameLength < command.payload.length then
    .error (.payloadTooLarge command.payload.length maxFrameLength)
  else .ok ()

theorem encodeResult_eq_ok_iff : command.encodeResult = .ok () ↔ command.Fits := by
  rw [encodeResult, Fits]
  split
  · rename_i large
    exact iff_of_false (by simp) (Nat.not_le_of_gt large)
  · rename_i small
    exact iff_of_true rfl (Nat.le_of_not_lt small)

/-- A run adds the commands that fit to the buffer, and nothing else. -/
theorem encodeAll_eq (commands : List Command) (buffer : List UInt8) :
    encodeAll commands buffer =
      (commands.map encodeResult,
        buffer ++ (commands.filter fun command => command.Fits).flatMap encode) := by
  induction commands generalizing buffer with
  | nil => simp [encodeAll]
  | cons command rest ih =>
      rw [encodeAll]
      by_cases fits : command.Fits
      · have result : command.encodeResult = .ok () := encodeResult_eq_ok_iff.mpr fits
        rw [run_encodeInto_of_fits fits]
        simp [ih, result, fits]
      · have result : command.encodeResult = _ := if_pos (Nat.lt_of_not_le fits)
        rw [run_encodeInto_of_not_fits fits]
        simp [ih, result, fits]

end Command

/-! ## Reading back -/

/-- Two bytes are the number that they spell. -/
theorem bigEndian16_of_bytes (high low : UInt8) :
    bigEndian16 (256 * high.toNat + low.toNat) = [high, low] := by
  have low_lt := low.toNat_lt
  have high_eq : (256 * high.toNat + low.toNat) / 256 = high.toNat := by omega
  have low_eq : (256 * high.toNat + low.toNat) % 256 = low.toNat := by omega
  rw [bigEndian16, high_eq, low_eq]
  simp

/-- What comes off the front of a byte string is a command that fits, and the rest is
what is behind its encoding. -/
theorem decodeCommand?_eq_some_iff {bytes rest : List UInt8} {command : Command} :
    decodeCommand? bytes = some (command, rest) ↔
      bytes = command.encode ++ rest ∧ command.Fits := by
  constructor
  · intro found
    unfold decodeCommand? at found
    split at found
    · rename_i first high low address behind
      dsimp only at found
      split at found
      · rename_i tag known
        split at found
        · rename_i whole
          cases found
          have first_eq := Tag.ofByte?_eq_some_iff.mp known
          have length_eq := List.length_take_of_le whole
          refine ⟨?_, ?_⟩
          · rw [Command.encode, length_eq, Header.decode, bigEndian16_of_bytes]
            simp [Header.decode] at first_eq
            simp [first_eq]
          · rw [Command.Fits, length_eq]
            exact Header.length_decode_le ..
        · contradiction
      · contradiction
    · contradiction
  · rintro ⟨rfl, fits⟩
    exact decodeCommand?_encode_append fits rest

/-- A command that fits is read, and then what is behind it. -/
theorem decodeCommands?_encode_append {command : Command} (fits : command.Fits)
    (rest : List UInt8) :
    decodeCommands? (command.encode ++ rest) = (decodeCommands? rest).map (command :: ·) := by
  have nonempty : command.encode ++ rest ≠ [] := by simp [Command.encode]
  rw [decodeCommands?, if_neg nonempty]
  split
  · rename_i read behind found
    rw [decodeCommand?_encode_append fits] at found
    cases found
    rfl
  · rename_i none
    rw [decodeCommand?_encode_append fits] at none
    contradiction

/-- Commands that fit are read back. -/
theorem decodeCommands?_flatMap_encode {commands : List Command}
    (fit : ∀ command ∈ commands, command.Fits) :
    decodeCommands? (commands.flatMap Command.encode) = some commands := by
  induction commands with
  | nil => simp [decodeCommands?]
  | cons command rest ih =>
      have later := ih fun other member => fit other (List.mem_cons_of_mem command member)
      rw [List.flatMap_cons, decodeCommands?_encode_append (fit command List.mem_cons_self), later]
      rfl

/-- What is read to the end is what was encoded. -/
theorem eq_flatMap_encode_of_decodeCommands? {bytes : List UInt8} {commands : List Command}
    (read : decodeCommands? bytes = some commands) :
    bytes = commands.flatMap Command.encode ∧ ∀ command ∈ commands, command.Fits := by
  fun_induction decodeCommands? bytes generalizing commands with
  | case1 =>
      cases read
      exact ⟨rfl, by simp⟩
  | case2 bytes nonempty command rest found ih =>
      obtain ⟨later, later_read, rfl⟩ := Option.map_eq_some_iff.mp read
      obtain ⟨rfl, fits⟩ := decodeCommand?_eq_some_iff.mp found
      obtain ⟨rest_eq, later_fit⟩ := ih later_read
      refine ⟨by rw [List.flatMap_cons, ← rest_eq], ?_⟩
      intro other member
      rcases List.mem_cons.mp member with rfl | member
      · exact fits
      · exact later_fit other member
  | case3 bytes nonempty none => contradiction

/-- The byte strings that can be read to their end are the encodings of commands that
fit. -/
theorem decodeCommands?_eq_some_iff {bytes : List UInt8} {commands : List Command} :
    decodeCommands? bytes = some commands ↔
      bytes = commands.flatMap Command.encode ∧ ∀ command ∈ commands, command.Fits := by
  constructor
  · exact eq_flatMap_encode_of_decodeCommands?
  · rintro ⟨rfl, fit⟩
    exact decodeCommands?_flatMap_encode fit

namespace Command

/-- A byte string can be read to its end exactly if encoding what is read makes it, and
nothing is refused. -/
theorem decodeCommands?_eq_some_iff_encodeAll {bytes : List UInt8} {commands : List Command} :
    decodeCommands? bytes = some commands ↔
      encodeAll commands [] = (List.replicate commands.length (.ok ()), bytes) := by
  have accepted : commands.map encodeResult = List.replicate commands.length (.ok ()) ↔
      ∀ command ∈ commands, command.Fits := by
    rw [List.map_eq_replicate_iff]
    exact forall₂_congr fun command _ => encodeResult_eq_ok_iff
  rw [decodeCommands?_eq_some_iff, encodeAll_eq, Prod.mk.injEq, accepted, List.nil_append,
    and_comm, eq_comm]
  apply and_congr_right
  intro fit
  rw [List.filter_eq_self.mpr fun command member => decide_eq_true (fit command member)]

/-- **Commands in a buffer can be read back.**  A command whose payload the length field
cannot hold is refused and leaves the buffer as it was; every other one is put behind what
the buffer holds, in as many bytes as its size on the wire.  So what a run puts into the
buffer reads back, to its end, as exactly the commands that were not refused.  And a byte
string reads back as some commands exactly if encoding these makes that byte string. -/
theorem encodeAll_decodable (buffer : List UInt8) (commands : List Command) :
    (∀ command : Command,
      command.encodeInto.run buffer =
        (if 65535 < command.payload.length then
          .error (.payloadTooLarge command.payload.length 65535) buffer
        else .ok () (buffer ++ command.encode)) ∧
      command.encode.length = command.wireSize ∧
      command.appendTo buffer = newBuffer (command.encodeInto.run buffer)) ∧
    (∃ appended,
      encodeAll commands buffer =
        (commands.map fun command =>
          if 65535 < command.payload.length then
            .error (.payloadTooLarge command.payload.length 65535)
          else .ok (),
          buffer ++ appended) ∧
      decodeCommands? appended =
        some (commands.filter fun command => command.payload.length ≤ 65535)) ∧
    ∀ (bytes : List UInt8) (read : List Command),
      decodeCommands? bytes = some read ↔
        encodeAll read [] = (List.replicate read.length (.ok ()), bytes) := by
  refine ⟨fun command => ⟨?_, command.length_encode, appendTo_eq_newBuffer buffer command⟩, ?_,
    fun bytes read => decodeCommands?_eq_some_iff_encodeAll⟩
  · split
    · rename_i large
      exact run_encodeInto_of_not_fits (Nat.not_le_of_gt large) buffer
    · rename_i small
      exact run_encodeInto_of_fits (Nat.le_of_not_lt small) buffer
  · refine ⟨_, encodeAll_eq commands buffer, decodeCommands?_flatMap_encode ?_⟩
    intro command member
    exact of_decide_eq_true (List.mem_filter.mp member).2

end Command

end RegisterBridge
