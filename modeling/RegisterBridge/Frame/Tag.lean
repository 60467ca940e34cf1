/-!
# Command tags

Every frame starts with a tag, a lowercase ASCII letter that names the command
and that the answer repeats.  A burst goes out under one of four tags in each
direction, by the place of the chunk in the burst.
-/

namespace RegisterBridge

/-- The commands the firmware understands. -/
inductive Tag where
  | readRegister
  | readBurstFirst
  | readBurstMiddle
  | readBurstEnd
  | readBurstAtomic
  | legacy
  | writeRegister
  | writeBurstFirst
  | writeBurstMiddle
  | writeBurstEnd
  | writeBurstAtomic
  | receive
  | rxRfSetConf
  | rxIfSetConf
  | send
  | txGainSetConf
  | trigger
  | boardSetConf
  | calibrationSnapshot
  | firmwareVersion
  | resetMcu
  | enterBootloader
deriving DecidableEq, Repr

/-- Which way the bytes of a burst go. -/
inductive Direction where
  | read
  | write
deriving DecidableEq, Repr

/-- The place of a chunk in its burst. -/
inductive ChunkKind where
  | first
  | middle
  | final
  /-- The chunk is the whole burst. -/
  | atomic
deriving DecidableEq, Repr

namespace Tag

/-- Every tag once. -/
def all : List Tag :=
  [readRegister, readBurstFirst, readBurstMiddle, readBurstEnd, readBurstAtomic, legacy,
    writeRegister, writeBurstFirst, writeBurstMiddle, writeBurstEnd, writeBurstAtomic,
    receive, rxRfSetConf, rxIfSetConf, send, txGainSetConf, trigger, boardSetConf,
    calibrationSnapshot, firmwareVersion, resetMcu, enterBootloader]

/-- The letter of a tag. -/
def letter : Tag → Char
  | readRegister => 'r'
  | readBurstFirst => 's'
  | readBurstMiddle => 't'
  | readBurstEnd => 'u'
  | readBurstAtomic => 'p'
  | legacy => 'e'
  | writeRegister => 'w'
  | writeBurstFirst => 'x'
  | writeBurstMiddle => 'y'
  | writeBurstEnd => 'z'
  | writeBurstAtomic => 'a'
  | receive => 'b'
  | rxRfSetConf => 'c'
  | rxIfSetConf => 'd'
  | send => 'f'
  | txGainSetConf => 'h'
  | trigger => 'q'
  | boardSetConf => 'i'
  | calibrationSnapshot => 'j'
  | firmwareVersion => 'l'
  | resetMcu => 'm'
  | enterBootloader => 'n'

/-- The byte of a tag on the wire. -/
def byte (tag : Tag) : UInt8 :=
  tag.letter.toNat.toUInt8

/-- The tag with a byte, if there is one. -/
def ofByte? (byte : UInt8) : Option Tag :=
  all.find? fun tag => tag.byte == byte

/-- The name of a tag in messages. -/
def name : Tag → String
  | readRegister => "read"
  | readBurstFirst => "read-burst-first"
  | readBurstMiddle => "read-burst-middle"
  | readBurstEnd => "read-burst-end"
  | readBurstAtomic => "read-burst-atomic"
  | legacy => "legacy"
  | writeRegister => "write"
  | writeBurstFirst => "write-burst-first"
  | writeBurstMiddle => "write-burst-middle"
  | writeBurstEnd => "write-burst-end"
  | writeBurstAtomic => "write-burst-atomic"
  | receive => "receive"
  | rxRfSetConf => "rxrf-setconf"
  | rxIfSetConf => "rxif-setconf"
  | send => "send"
  | txGainSetConf => "txgain-setconf"
  | trigger => "trigger"
  | boardSetConf => "board-setconf"
  | calibrationSnapshot => "calibration-snapshot"
  | firmwareVersion => "firmware-version"
  | resetMcu => "reset"
  | enterBootloader => "bootloader"

/-- The name and the letter. -/
def label (tag : Tag) : String :=
  tag.name ++ " ('" ++ tag.letter.toString ++ "')"

/-- The tag of a chunk of a burst. -/
def burst : Direction → ChunkKind → Tag
  | .read, .first => readBurstFirst
  | .read, .middle => readBurstMiddle
  | .read, .final => readBurstEnd
  | .read, .atomic => readBurstAtomic
  | .write, .first => writeBurstFirst
  | .write, .middle => writeBurstMiddle
  | .write, .final => writeBurstEnd
  | .write, .atomic => writeBurstAtomic

@[simp]
theorem ofByte?_byte (tag : Tag) : ofByte? tag.byte = some tag := by
  cases tag <;> rfl

theorem byte_of_ofByte? {byte : UInt8} {tag : Tag} (found : ofByte? byte = some tag) :
    tag.byte = byte := by
  simpa using List.find?_some found

theorem ofByte?_eq_some_iff {byte : UInt8} {tag : Tag} :
    ofByte? byte = some tag ↔ byte = tag.byte :=
  ⟨fun found => (byte_of_ofByte? found).symm, fun equal => equal ▸ ofByte?_byte tag⟩

end Tag

end RegisterBridge
