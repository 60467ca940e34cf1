import RegisterBridge.Console.Output
import RegisterBridge.Console.Status

/-!
# Running commands

A command that needs the bridge opens a link, does its one operation, and
closes the link.  Only when all three have succeeded is anything printed.  A
failure says in which of the three phases it happened.
-/

namespace RegisterBridge.Console

/-- What a command finds around it: devices at paths, files, and the program itself. -/
structure Host (δ : Type) where
  ports : Ports δ
  file : String → Except StreamError (List UInt8)
  /-- How the program was built, where that is known. -/
  build : Option Build := none

/-- How a command ends: its outcome, what it printed, and the ports as it
leaves them. -/
structure Report (δ : Type) where
  outcome : Outcome Failure Unit
  printed : List UInt8
  ports : Ports δ
  /-- The events of the command, latest first. -/
  events : List Event

namespace Report

variable {δ : Type}

/-- The exit code of a command.  A command whose caller died has none. -/
def exitCode? (report : Report δ) : Option Nat :=
  match report.outcome with
  | .ok () => some Status.success.code
  | .error failure => some failure.status.code
  | .died => none

/-- What a command writes as its complaint. -/
def complaint (report : Report δ) : String :=
  match report.outcome with
  | .error failure => "error: " ++ failure.message ++ "\n"
  | _ => ""

end Report

/-- What is done on an open link. -/
inductive Operation where
  | probe
  | read (address : UInt8)
  | write (address value : UInt8)
  | dump (address : UInt8) (size : Nat)
  | load (address : UInt8) (payload : Array UInt8)
deriving DecidableEq, Repr

/-- The name of an operation in failures. -/
def Operation.context : Operation → String
  | probe => "probe failed"
  | read _ => "read failed"
  | write .. => "write failed"
  | dump .. => "burst read failed"
  | load .. => "burst write failed"

/-- Find the payload of a load and check its size. -/
def resolvePayload (file : String → Except StreamError (List UInt8)) (source : PayloadSource) :
    Except Failure (List UInt8) := do
  let payload ← match source with
    | .hex text =>
        (Text.parseHex text).mapError fun fault => ⟨.usage, "--hex: " ++ fault.message⟩
    | .file path => (file path).mapError (Failure.ofStreamError ("failed reading " ++ path))
  if payload.length = 0 ∨ Burst.maxSize < payload.length then
    .error ⟨.usage, s!"payload must be 1..={Burst.maxSize} bytes (got {payload.length})"⟩
  else .ok payload

section Bridge

variable {δ : Type} [ByteStream δ] [Release δ]

/-- Open the configured port, or search the default candidates. -/
def Connection.openLink (connection : Connection) (ports : Ports δ) : Opening δ :=
  match connection.port with
  | some path => ports.openPath connection.settings path []
  | none => ports.search connection.settings []

/-- Close a link after its operation gave a value. -/
def conclude {α : Type} (ports : Ports δ) (path : String) (value : α)
    (link : Link (SerialLine δ)) : Outcome Failure α × Ports δ × List Event :=
  match link.close with
  | (closed, wire) =>
    let outcome := match closed with
      | .ok () => .ok value
      | .error error => .error (Failure.ofLinkError "close failed" error)
    (outcome, ports.put path wire.stream.device, wire.events)

/-- Open a link, run an operation on it and close it.  The context names the
operation in failures. -/
def withLink {α : Type} (connection : Connection) (ports : Ports δ) (context : String)
    (operation : Link (SerialLine δ) → Outcome LinkError α × Link (SerialLine δ)) :
    Outcome Failure α × Ports δ × List Event :=
  match connection.openLink ports with
  | ⟨.error error, ports, events, _⟩ =>
      (.error (Failure.ofLinkError "open failed" error), ports, events)
  | ⟨.died, ports, events, _⟩ => (.died, ports, events)
  | ⟨.ok link, ports, _, _⟩ =>
    let path := link.wire.stream.path
    match operation link with
    | (.ok value, link) => conclude ports path value link
    | (.error error, link) =>
        (.error (Failure.ofLinkError context error),
          ports.put path link.wire.stream.device, link.wire.events)
    | (.died, link) => (.died, ports.put path link.wire.stream.device, link.wire.events)

/-- Ask an open link who it is. -/
def identify (baudRate : UInt32) (link : Link (SerialLine δ)) :
    Outcome LinkError Result × Link (SerialLine δ) :=
  match link.portPath with
  | (port, link) =>
    match link.transportName with
    | (transport, link) => (.ok (.bridge port transport baudRate link.config), link)

namespace Operation

/-- Carry out an operation on an open link. -/
def perform (operation : Operation) (baudRate : UInt32) (link : Link (SerialLine δ)) :
    Outcome LinkError Result × Link (SerialLine δ) :=
  match operation with
  | probe => identify baudRate link
  | read address =>
    match link.readRegister address with
    | (outcome, link) => (outcome.map (.register address), link)
  | write address value =>
    match link.writeRegister address value with
    | (outcome, link) => (outcome.map fun _ => .register address value, link)
  | dump address size =>
    match link.readBurst address size with
    | (outcome, link) => (outcome.map fun data => .registers address data.toList, link)
  | load address payload =>
    match link.writeBurst address payload with
    | (outcome, link) => (outcome.map fun _ => .loaded address payload.size, link)

/-- Run an operation on the bridge, and print its result. -/
def run (operation : Operation) (connection : Connection) (format : Format)
    (ports : Ports δ) : Report δ :=
  match withLink connection ports operation.context (operation.perform connection.baudRate) with
  | (.ok result, ports, events) => ⟨.ok (), result.render format, ports, events⟩
  | (.error failure, ports, events) => ⟨.error failure, [], ports, events⟩
  | (.died, ports, events) => ⟨.died, [], ports, events⟩

end Operation

/-- Run a command. -/
def Request.run (request : Request) (connection : Connection) (format : Format)
    (host : Host δ) : Report δ :=
  match request with
  | probe => Operation.probe.run connection format host.ports
  | read address => (Operation.read address).run connection format host.ports
  | write address value => (Operation.write address value).run connection format host.ports
  | dump address size => (Operation.dump address size).run connection format host.ports
  | load address source =>
    match resolvePayload host.file source with
    | .ok payload => (Operation.load address payload.toArray).run connection format host.ports
    | .error failure => ⟨.error failure, [], host.ports, []⟩
  | version extended => ⟨.ok (), textBytes (versionText host.build extended), host.ports, []⟩

/-- Run a whole command line.  The form of the output is the default where none
is asked for. -/
def Invocation.run (invocation : Invocation) (defaultFormat : Format) (host : Host δ) :
    Report δ :=
  invocation.request.run invocation.connection (invocation.format.getD defaultFormat) host

end Bridge

end RegisterBridge.Console
