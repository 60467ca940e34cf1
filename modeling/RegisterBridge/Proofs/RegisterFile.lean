import RegisterBridge.Proofs.Burst.Layout
import RegisterBridge.Proofs.Device
import RegisterBridge.Proofs.Dialogue.Operation

/-!
# A link is a register file

Over a device that departs in nothing, the operations of a link are those of a
plain array of cells.  A burst is chunk after chunk, so its proof is an induction
on the layout of the burst, and what has to be kept is that the cursor of the
device stands where the next chunk starts.
-/

namespace RegisterBridge

/-! ## Memory -/

namespace Firmware

variable {memory : Array UInt8}

/-- Bytes that end within the memory are stored without wrapping around. -/
theorem store_eq_overwrite {position : Nat} {bytes : List UInt8}
    (inside : position + bytes.length ≤ memory.size) :
    store memory position bytes = overwrite memory position bytes := by
  induction bytes generalizing memory position with
  | nil => rfl
  | cons byte rest ih =>
      rw [List.length_cons] at inside
      have cell : position % memory.size = position := Nat.mod_eq_of_lt (by omega)
      rw [store, overwrite, poke, cell]
      apply ih
      rw [Array.size_setIfInBounds]
      omega

/-- A register is a cell of the memory. -/
theorem register_inside (whole : memory.size = memorySize) (address : UInt8) :
    address.toNat % memory.size = address.toNat := by
  have last := address.toNat_lt
  rw [whole, memorySize]
  omega

/-- A burst from any register ends within the memory. -/
theorem burst_inside (whole : memory.size = memorySize) (address : UInt8) {size : Nat}
    (small : size ≤ Burst.maxSize) : address.toNat + size ≤ memory.size := by
  have last := address.toNat_lt
  rw [Burst.maxSize] at small
  rw [whole, memorySize]
  omega

end Firmware

namespace Firmware.Holds

open Dialogue (exchange sendChunks gatherChunks)

variable {firmware : Firmware} {memory : Array UInt8} {cursor : Nat} {address : UInt8}
  {size threshold offset : Nat} {chunks : List Burst.Chunk} {σ : Type} [ByteStream σ]
  (reach : Reach σ)

/-! ## Write bursts -/

/-- A chunk of a write burst replaces its cells and moves the cursor to the next
chunk. -/
theorem runOn_writeChunk (holds : firmware.Holds memory cursor [])
    (placed : offset ≠ 0 → cursor = address.toNat + offset) (ends : Bool) {data : Array UInt8}
    {length : Nat} (fits : length ≤ maxCommandPayload) (within : offset + length ≤ data.size)
    (inside : address.toNat + data.size ≤ memory.size) :
    ∃ answer left,
      (exchange (LinkState.writeCommand address data
          ⟨Burst.placeOf offset ends, offset, length⟩)).runOn (reach.stream firmware) =
          (.ok answer, reach.stream left) ∧
        left.Holds
          (overwrite memory (address.toNat + offset) ((data.toList.drop offset).take length))
          (address.toNat + offset + length) [] := by
  have length_eq : ((data.toList.drop offset).take length).length = length := by
    rw [List.length_take, List.length_drop, Array.length_toList]
    omega
  have obeys := obeys_writeChunk placed ends ((data.toList.drop offset).take length) memory
  rw [store_eq_overwrite (by omega), length_eq] at obeys
  rw [LinkState.writeCommand_eq]
  obtain ⟨left, exchanged, left_holds⟩ :=
    holds.runOn_exchange reach obeys (Nat.le_trans (Nat.le_of_eq length_eq) fits)
      (Nat.zero_le _)
  exact ⟨_, left, exchanged, left_holds⟩

/-- The chunks of a write burst replace its cells from their offset on. -/
theorem runOn_sendChunks (covers : Burst.Covers size threshold offset chunks)
    (holds : firmware.Holds memory cursor [])
    (placed : offset ≠ 0 → cursor = address.toNat + offset)
    (fits : threshold ≤ maxCommandPayload) {data : Array UInt8} (size_eq : data.size = size)
    (inside : address.toNat + size ≤ memory.size) :
    ∃ left cursor', (sendChunks address data chunks).runOn (reach.stream firmware) =
        (.ok (), reach.stream left) ∧
      left.Holds (overwrite memory (address.toNat + offset) (data.toList.drop offset))
        cursor' [] := by
  subst size
  induction covers generalizing firmware memory cursor with
  | @last offset left small =>
      have short : data.size - offset ≤ maxCommandPayload := by omega
      obtain ⟨answer, next, exchanged, next_holds⟩ :=
        holds.runOn_writeChunk reach placed true short (by omega) inside
      have whole : (data.toList.drop offset).length = data.size - offset := by
        rw [List.length_drop, Array.length_toList]
      rw [List.take_of_length_le (Nat.le_of_eq whole)] at next_holds
      refine ⟨next, _, ?_, next_holds⟩
      rw [sendChunks, Dialogue.runOn_andThen exchanged]
      rfl
  | @more offset rest left covers ih =>
      obtain ⟨answer, next, exchanged, next_holds⟩ :=
        holds.runOn_writeChunk reach placed false fits (by omega) inside
      obtain ⟨ending, cursor', sent, ending_holds⟩ :=
        ih next_holds (fun _ => Nat.add_assoc ..) (by rw [size_overwrite]; exact inside)
      refine ⟨ending, cursor', ?_, ?_⟩
      · rw [sendChunks, Dialogue.runOn_andThen exchanged]
        exact sent
      · have split_eq : data.toList.drop offset =
            (data.toList.drop offset).take threshold ++ data.toList.drop (offset + threshold) := by
          rw [← List.drop_drop, List.take_append_drop]
        have taken : ((data.toList.drop offset).take threshold).length = threshold := by
          rw [List.length_take, List.length_drop, Array.length_toList]
          omega
        rw [split_eq, overwrite_append, taken, Nat.add_assoc]
        exact ending_holds

/-! ## Read bursts -/

/-- A chunk of a read burst gives its cells and moves the cursor to the next
chunk. -/
theorem runOn_readChunk (holds : firmware.Holds memory cursor [])
    (placed : offset ≠ 0 → cursor = address.toNat + offset) (ends : Bool) {length : Nat}
    (fits : length ≤ maxAnswerPayload) :
    ∃ left,
      (exchange (LinkState.readCommand address
          ⟨Burst.placeOf offset ends, offset, length⟩)).runOn (reach.stream firmware) =
          (.ok ⟨.burst .read (Burst.placeOf offset ends), address,
            load memory (address.toNat + offset) length⟩, reach.stream left) ∧
        left.Holds memory (address.toNat + offset + length) [] := by
  have small : length ≤ maxFrameLength := Nat.le_trans fits (by decide)
  have loaded : (load memory (address.toNat + offset) length).length ≤ maxAnswerPayload := by
    rw [length_load]
    exact fits
  have requested : (bigEndian16 length).length ≤ maxCommandPayload := by
    rw [length_bigEndian16]
    decide
  exact holds.runOn_exchange reach (obeys_readChunk placed ends small memory) requested loaded

/-- The chunks of a read burst fill its destination from their offset on. -/
theorem runOn_gatherChunks (covers : Burst.Covers size threshold offset chunks)
    (holds : firmware.Holds memory cursor [])
    (placed : offset ≠ 0 → cursor = address.toNat + offset)
    (fits : threshold ≤ maxAnswerPayload) (destination : Array UInt8) :
    ∃ left cursor', (gatherChunks address chunks destination).runOn (reach.stream firmware) =
        ((.ok (), overwrite destination offset
          (load memory (address.toNat + offset) (size - offset))), reach.stream left) ∧
      left.Holds memory cursor' [] := by
  induction covers generalizing firmware cursor destination with
  | @last offset left small =>
      have short : size - offset ≤ maxAnswerPayload := by omega
      obtain ⟨next, exchanged, next_holds⟩ := holds.runOn_readChunk reach placed true short
      refine ⟨next, _, ?_, next_holds⟩
      rw [gatherChunks, Dialogue.runOn_bind, exchanged]
      simp [gatherChunks, List.take_of_length_le]
  | @more offset rest left covers ih =>
      obtain ⟨next, exchanged, next_holds⟩ := holds.runOn_readChunk reach placed false fits
      obtain ⟨ending, cursor', gathered, ending_holds⟩ :=
        ih next_holds (fun _ => Nat.add_assoc ..)
          (overwrite destination offset (load memory (address.toNat + offset) threshold))
      refine ⟨ending, cursor', ?_, ending_holds⟩
      have size_eq : size - offset = threshold + (size - (offset + threshold)) := by omega
      rw [gatherChunks, Dialogue.runOn_bind, exchanged, size_eq, load_append, overwrite_append,
        length_load, Nat.add_assoc, ← gathered]
      simp [List.take_of_length_le]

end Firmware.Holds

/-! ## Operations -/

namespace Firmware.Holds

variable {firmware : Firmware} {memory : Array UInt8} {cursor threshold : Nat} {σ : Type}
  [ByteStream σ] (reach : Reach σ)

/-- A write burst does what it does to a register file. -/
theorem runOn_writeBurst (holds : firmware.Holds memory cursor [])
    (whole : memory.size = memorySize) (positive : 0 < threshold)
    (fits : threshold ≤ maxCommandPayload) (address : UInt8) (data : Array UInt8) :
    ∃ left cursor',
      ((Dialogue.writeBurst address data threshold).map (·.map fun _ => Reading.nothing)).runOn
          (reach.stream firmware) =
        ((RegisterFile.perform memory (.writeBurst address data)).1, reach.stream left) ∧
      left.Holds (RegisterFile.perform memory (.writeBurst address data)).2 cursor' [] := by
  rw [RegisterFile.perform, Dialogue.runOn_map, Dialogue.writeBurst]
  cases fault : RegisterFile.sizeFault? data.size with
  | some error =>
      rw [RegisterFile.plan_of_sizeFault positive fault]
      exact ⟨firmware, cursor, rfl, holds⟩
  | none =>
      obtain ⟨small, chunks, planned, covers⟩ :=
        RegisterFile.exists_plan_of_no_fault positive fault
      obtain ⟨left, cursor', sent, left_holds⟩ :=
        holds.runOn_sendChunks reach covers (absurd rfl) fits rfl
          (burst_inside whole address small)
      rw [planned]
      dsimp only
      rw [sent]
      exact ⟨left, cursor', rfl, left_holds⟩

/-- A read burst does what it does to a register file, whatever its destination
held. -/
theorem runOn_readRange (holds : firmware.Holds memory cursor [])
    (whole : memory.size = memorySize) (positive : 0 < threshold)
    (fits : threshold ≤ maxAnswerPayload) (address : UInt8) (destination : Array UInt8) :
    ∃ left cursor',
      ((Dialogue.readRange address destination threshold).map (·.map .registers)).runOn
          (reach.stream firmware) =
        (RegisterFile.readRange memory address destination.size, reach.stream left) ∧
      left.Holds memory cursor' [] := by
  rw [RegisterFile.readRange, Dialogue.runOn_map, Dialogue.readRange, Dialogue.runOn_map,
    Dialogue.readBurst]
  cases fault : RegisterFile.sizeFault? destination.size with
  | some error =>
      rw [RegisterFile.plan_of_sizeFault positive fault]
      exact ⟨firmware, cursor, rfl, holds⟩
  | none =>
      obtain ⟨small, chunks, planned, covers⟩ :=
        RegisterFile.exists_plan_of_no_fault positive fault
      obtain ⟨left, cursor', gathered, left_holds⟩ :=
        holds.runOn_gatherChunks reach covers (absurd rfl) fits destination
      have filled : overwrite destination 0 (load memory address.toNat destination.size) =
          memory.extract address.toNat (address.toNat + destination.size) := by
        rw [overwrite_whole (length_load ..), load_eq_extract (burst_inside whole address small)]
      rw [Nat.add_zero, Nat.sub_zero, filled] at gathered
      rw [planned]
      dsimp only
      rw [gathered]
      exact ⟨left, cursor', rfl, left_holds⟩

/-- The device accepts every version. -/
theorem runOn_checkVersion (holds : firmware.Holds memory cursor []) (expected : UInt32) :
    ∃ left, (Dialogue.checkVersion expected).runOn (reach.stream firmware) =
        (.ok (), reach.stream left) ∧
      left.Holds memory cursor [] := by
  have obeys := obeys_firmwareVersion 0 (bigEndian32 expected.toNat) memory cursor
  obtain ⟨left, exchanged, left_holds⟩ :=
    holds.runOn_exchange reach obeys (show 4 ≤ maxCommandPayload by decide)
      (show 1 ≤ maxAnswerPayload by decide)
  refine ⟨left, ?_, left_holds⟩
  rw [Dialogue.checkVersion, versionQuery, Dialogue.runOn_andThen exchanged]
  rfl

/-- Every operation does what it does to a register file. -/
theorem runOn_ofOperation (holds : firmware.Holds memory cursor [])
    (whole : memory.size = memorySize) {config : LinkConfig} (valid : config.Valid)
    (operation : LinkOperation) :
    ∃ left cursor', (Dialogue.ofOperation config operation).runOn (reach.stream firmware) =
        ((RegisterFile.perform memory operation).1, reach.stream left) ∧
      left.Holds (RegisterFile.perform memory operation).2 cursor' [] := by
  cases operation with
  | checkVersion =>
      obtain ⟨left, checked, left_holds⟩ := holds.runOn_checkVersion reach config.firmwareVersion
      refine ⟨left, cursor, ?_, left_holds⟩
      rw [Dialogue.ofOperation, Dialogue.runOn_map, checked]
      rfl
  | readRegister address =>
      have obeys := obeys_readRegister address [0] memory cursor
      obtain ⟨left, exchanged, left_holds⟩ :=
        holds.runOn_exchange reach obeys (show 1 ≤ maxCommandPayload by decide)
          (show 1 ≤ maxAnswerPayload by decide)
      refine ⟨left, cursor, ?_, left_holds⟩
      rw [Dialogue.ofOperation, Dialogue.runOn_map, Dialogue.runOn_map, Link.readCommand, exchanged,
        RegisterFile.perform, Array.getD_eq_getD_getElem?, peek, register_inside whole]
      rfl
  | writeRegister address value =>
      have obeys := obeys_writeRegister address value [] memory cursor
      rw [poke, register_inside whole] at obeys
      obtain ⟨left, exchanged, left_holds⟩ :=
        holds.runOn_exchange reach obeys (show 1 ≤ maxCommandPayload by decide) (Nat.zero_le _)
      refine ⟨left, cursor, ?_, left_holds⟩
      rw [Dialogue.ofOperation, Dialogue.runOn_map, Dialogue.runOn_map, Link.writeCommand, exchanged]
      rfl
  | readBurst address size =>
      rw [Dialogue.ofOperation]
      split
      · rename_i long
        refine ⟨firmware, cursor, ?_, holds⟩
        have nonempty : size ≠ 0 := by omega
        rw [RegisterFile.perform, RegisterFile.readRange, RegisterFile.sizeFault?, if_neg nonempty,
          if_pos long]
        rfl
      · have read := holds.runOn_readRange reach whole valid.rx_pos valid.rx_le address
          (Array.replicate size 0)
        rw [Array.size_replicate] at read
        exact read
  | readBurstInto address destination =>
      exact holds.runOn_readRange reach whole valid.rx_pos valid.rx_le address destination
  | writeBurst address data =>
      exact holds.runOn_writeBurst reach whole valid.tx_pos valid.tx_le address data

end Firmware.Holds

/-! ## Runs -/

namespace Link

/-- An operation of a link does to a device that departs in nothing what it does to a
register file, however the device is reached. -/
theorem perform_of_holds {σ : Type} [ByteStream σ] (link : Link σ) (reach : Firmware.Reach σ)
    {firmware : Firmware} {memory : Array UInt8} {cursor : Nat}
    (reached : link.wire.stream = reach.stream firmware)
    (holds : firmware.Holds memory cursor []) (whole : memory.size = Firmware.memorySize)
    (operation : LinkOperation) :
    ∃ left cursor', (link.perform operation).1 = (RegisterFile.perform memory operation).1 ∧
      (link.perform operation).2.wire.stream = reach.stream left ∧
      left.Holds (RegisterFile.perform memory operation).2 cursor' [] := by
  obtain ⟨left, cursor', performed, left_holds⟩ :=
    holds.runOn_ofOperation reach whole link.valid operation
  rw [← reached, ← link.perform_runOn] at performed
  exact ⟨left, cursor', congrArg Prod.fst performed, congrArg Prod.snd performed, left_holds⟩

/-- A run does to the device what it does to a register file with its memory. -/
theorem performAll_of_holds (link : Link Firmware) (operations : List LinkOperation)
    {memory : Array UInt8} {cursor : Nat} (holds : link.wire.stream.Holds memory cursor [])
    (whole : memory.size = Firmware.memorySize) :
    (link.performAll operations).1 = (RegisterFile.performAll memory operations).1 ∧
      ∃ cursor', (link.performAll operations).2.wire.stream.Holds
        (RegisterFile.performAll memory operations).2 cursor' [] := by
  induction operations generalizing link memory cursor with
  | nil => exact ⟨rfl, cursor, holds⟩
  | cons operation rest ih =>
      obtain ⟨left, cursor', outcome_eq, stream_eq, left_holds⟩ :=
        link.perform_of_holds .direct rfl holds whole operation
      obtain rfl : (link.perform operation).2.wire.stream = left := stream_eq
      have later := ih (link.perform operation).2 left_holds
        ((RegisterFile.size_perform ..).trans whole)
      rw [performAll_cons, RegisterFile.performAll_cons, outcome_eq, later.1]
      exact ⟨rfl, later.2⟩

/-- Over a device that departs in nothing and has nothing waiting, a link with
valid settings is a register file: every operation of a run ends as it does on
the memory of the device as an array of cells, and leaves the same cells. -/
theorem refines_registerFile {config : LinkConfig} (accepted : config.validate = .ok ())
    {firmware : Firmware} (plain : firmware.Plain)
    (whole : firmware.memory.size = Firmware.memorySize)
    (idle : firmware.pending.bytes = []) :
    ∃ link, ofWire { stream := firmware } config = .ok link ∧
      ∀ operations,
        (link.performAll operations).1 =
          (RegisterFile.performAll firmware.memory operations).1 ∧
        (link.performAll operations).2.wire.stream.memory =
          (RegisterFile.performAll firmware.memory operations).2 ∧
        (link.performAll operations).2.wire.stream.pending.bytes = [] := by
  have valid := LinkConfig.validate_eq_ok_iff.mp accepted
  refine ⟨_, ofWire_of_valid valid _, fun operations => ?_⟩
  obtain ⟨outcomes, cursor', ending⟩ :=
    performAll_of_holds ⟨config, valid, { wire := { stream := firmware } }, false⟩ operations
      ⟨plain, rfl, rfl, idle⟩ whole
  exact ⟨outcomes, ending.memory_eq, ending.waiting_eq⟩

/-- The link with the settings it has unless told otherwise, over a device as it
starts up. -/
theorem refines_registerFile_default :
    ∃ link, ofWire { stream := ({} : Firmware) } {} = .ok link ∧
      ∀ operations,
        (link.performAll operations).1 =
          (RegisterFile.performAll Firmware.initialMemory operations).1 ∧
        (link.performAll operations).2.wire.stream.memory =
          (RegisterFile.performAll Firmware.initialMemory operations).2 ∧
        (link.performAll operations).2.wire.stream.pending.bytes = [] :=
  refines_registerFile rfl ⟨_, rfl⟩ Firmware.size_initialMemory rfl

end Link

end RegisterBridge
