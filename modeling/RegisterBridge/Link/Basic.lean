import RegisterBridge.Burst.Transfer
import RegisterBridge.Link.Handshake

/-!
# Links

A link owns a stream and runs one operation on it at a time, from the first
frame to the last.  When a caller dies inside an operation, the lock of the
link is poisoned: later operations go on, and each of them reports that it took
a poisoned lock.
-/

namespace RegisterBridge

/-- An open link.  Its settings are valid. -/
structure Link (σ : Type) where
  config : LinkConfig
  valid : config.Valid
  state : LinkState σ
  /-- Whether a caller died while it held the lock. -/
  poisoned : Bool

namespace Link

variable {σ : Type}

/-- Make a link of a wire without talking to the firmware. -/
def ofWire (wire : Wire σ) (config : LinkConfig) : Except LinkError (Link σ) :=
  match sound : config.fault? with
  | none => .ok ⟨config, LinkConfig.fault?_eq_none_iff.mp sound, { wire }, false⟩
  | some fault => .error (.invalidArgument fault)

/-- Valid settings make a link. -/
theorem ofWire_of_valid {config : LinkConfig} (valid : config.Valid) (wire : Wire σ) :
    ofWire wire config = .ok ⟨config, valid, { wire }, false⟩ := by
  have sound := LinkConfig.fault?_eq_none_iff.mpr valid
  unfold ofWire
  split
  · rfl
  · rename_i fault faulty
    rw [sound] at faulty
    contradiction

/-- Settings that are not valid make none. -/
theorem ofWire_of_fault {config : LinkConfig} {fault : ArgumentFault}
    (faulty : config.fault? = some fault) (wire : Wire σ) :
    ofWire wire config = .error (.invalidArgument fault) := by
  unfold ofWire
  split
  · rename_i sound
    rw [sound] at faulty
    contradiction
  · rename_i found faulty'
    rw [faulty] at faulty'
    cases faulty'
    rfl

/-- The wire of a link. -/
def wire (link : Link σ) : Wire σ :=
  link.state.wire

/-- The same link with nothing on record. -/
def fresh (link : Link σ) : Link σ :=
  match link with
  | ⟨config, valid, ⟨wire, encodeBuffer, decodeBuffer⟩, poisoned⟩ =>
      ⟨config, valid, ⟨wire.fresh, encodeBuffer, decodeBuffer⟩, poisoned⟩

/-- Report an event on the wire of a link. -/
def report (link : Link σ) (event : Event) : Link σ :=
  match link with
  | ⟨config, valid, ⟨wire, encodeBuffer, decodeBuffer⟩, poisoned⟩ =>
      ⟨config, valid, ⟨wire.report event, encodeBuffer, decodeBuffer⟩, poisoned⟩

/-- Take the lock.  A poisoned lock is taken all the same. -/
def lock (link : Link σ) : Link σ :=
  if link.poisoned then link.report .poisonedLock else link

/-- Run an operation under the lock. -/
def locked {α : Type} (link : Link σ)
    (operation : LinkState σ → Outcome LinkError α × LinkState σ) :
    Outcome LinkError α × Link σ :=
  match link.lock with
  | ⟨config, valid, state, poisoned⟩ =>
    match operation state with
    | (outcome, state) => (outcome, ⟨config, valid, state, poisoned || outcome.isDied⟩)

/-- Ask something of the stream of a link, under the lock. -/
def inspect {α : Type} (link : Link σ) (question : σ → α) : α × Link σ :=
  let link := link.lock
  (question link.wire.stream, link)

section Operations

variable [ByteStream σ]

/-- Run the version handshake with the configured version. -/
def checkVersion (link : Link σ) : Outcome LinkError Unit × Link σ :=
  let expected := link.config.firmwareVersion
  link.locked (·.checkVersion expected)

/-- The command that reads a register. -/
def readCommand (address : UInt8) : Command :=
  ⟨.readRegister, address, [0]⟩

theorem fits_readCommand (address : UInt8) :
    (readCommand address).payload.length ≤ maxCommandPayload := by
  simp [readCommand, maxCommandPayload]

/-- The command that writes a register. -/
def writeCommand (address value : UInt8) : Command :=
  ⟨.writeRegister, address, [value]⟩

theorem fits_writeCommand (address value : UInt8) :
    (writeCommand address value).payload.length ≤ maxCommandPayload := by
  simp [writeCommand, maxCommandPayload]

/-- The register value in an answer. -/
def registerValue (answer : Answer) : Outcome LinkError UInt8 :=
  match answer.payload with
  | value :: _ => .ok value
  | [] => .error (.shortAnswer .readRegister 1 0)

/-- Read one register. -/
def readRegister (link : Link σ) (address : UInt8) : Outcome LinkError UInt8 × Link σ :=
  match link.locked (·.execute (readCommand address)) with
  | (.ok answer, link) => (registerValue answer, link)
  | (.error error, link) => (.error error, link)
  | (.died, link) => (.died, link)

/-- Write one register. -/
def writeRegister (link : Link σ) (address value : UInt8) :
    Outcome LinkError Unit × Link σ :=
  match link.locked (·.execute (writeCommand address value)) with
  | (outcome, link) => (outcome.map fun _ => (), link)

/-- Fill a destination from consecutive registers.  The value is the filled
destination. -/
def readBurstInto (link : Link σ) (address : UInt8) (destination : Array UInt8) :
    Outcome LinkError (Array UInt8) × Link σ :=
  let threshold := link.config.atomicRx
  link.locked fun state =>
    match state.readBurst address destination threshold with
    | ⟨outcome, destination, state⟩ => (outcome.map fun _ => destination, state)

/-- Read `size` consecutive registers.  A size that no burst can have is
refused before the lock is taken. -/
def readBurst (link : Link σ) (address : UInt8) (size : Nat) :
    Outcome LinkError (Array UInt8) × Link σ :=
  if Burst.maxSize < size then
    (.error (.invalidArgument (.burstTooLong size Burst.maxSize)), link)
  else link.readBurstInto address (Array.replicate size 0)

/-- Write data to consecutive registers. -/
def writeBurst (link : Link σ) (address : UInt8) (data : Array UInt8) :
    Outcome LinkError Unit × Link σ :=
  let threshold := link.config.atomicTx
  link.locked (·.writeBurst address data threshold)

end Operations

section Transports

variable [Transport σ]

/-- The name of the transport, which is asked for under the lock. -/
def transportName (link : Link σ) : String × Link σ :=
  link.inspect Transport.name

/-- Close the link.  What is left is its wire. -/
def close (link : Link σ) : Except LinkError Unit × Wire σ :=
  match link.wire with
  | ⟨stream, calls, events⟩ =>
    let name := Transport.name stream
    match Release.release stream with
    | (.ok (), stream) => (.ok (), ⟨stream, calls, .linkClosed name :: events⟩)
    | (.error error, stream) =>
        (.error (.transport (.close error)), ⟨stream, calls, events⟩)

end Transports

/-- A link as shown in diagnostics: its settings. -/
def describe (link : Link σ) : String :=
  "Link \x7b config: " ++ link.config.describe ++ " \x7d"

/-- Make a link of a wire and check the firmware version over it. -/
def connect [ByteStream σ] (wire : Wire σ) (config : LinkConfig) :
    Outcome LinkError (Link σ) × Wire σ :=
  match ofWire wire config with
  | .ok link =>
    match link.checkVersion with
    | (outcome, link) => (outcome.map fun _ => link, link.wire)
  | .error error => (.error error, wire)

end Link

end RegisterBridge
