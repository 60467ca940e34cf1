import RegisterBridge.Console.Arguments
import RegisterBridge.Console.Run
import RegisterBridge.Stream.Replay

/-!
# The command line

The program runs a command over replayed streams: each time the run stops at a
call without an answer, that call is made on the real device and the command is
run again with one answer more.  A line has to be set up beforehand, in raw mode
with its rate and a read time limit.
-/

namespace RegisterBridge.Console

/-- The text shown when help is asked for. -/
def usageText : String :=
  "Usage: picolink [OPTIONS] <COMMAND>\n\n" ++
    "Commands:\n" ++
    "  probe                              Find the bridge and check its firmware version\n" ++
    "  read ADDRESS                       Read one register\n" ++
    "  write ADDRESS VALUE                Write one register\n" ++
    "  dump ADDRESS SIZE                  Read a range of registers\n" ++
    "  load ADDRESS --hex TEXT|--file F   Write a range of registers\n" ++
    "  version [--extended]               Show version information\n\n" ++
    "Options: --port --baud --fw-version --format --log-format --log-level\n"

/-- What is known of the device at a path: why it cannot be opened, or its
handle and the answers it gave. -/
structure Contact where
  path : String
  device : Except StreamError IO.FS.Handle
  replies : List Reply := []

/-- The stream error that an error of the system amounts to. -/
def streamErrorOf (error : IO.Error) : StreamError :=
  let kind : FaultKind := match error with
    | .interrupted .. => .interrupted
    | .noFileOrDirectory .. => .notFound
    | .permissionDenied .. => .permissionDenied
    | .timeExpired .. => .timedOut
    | .resourceBusy .. => .resourceBusy
    | .unexpectedEof => .unexpectedEof
    | .unsupportedOperation .. => .unsupported
    | _ => .uncategorized
  ⟨kind, toString error⟩

/-- The result of an action of the system. -/
def attempt {α : Type} (action : IO α) : BaseIO (Except StreamError α) := do
  match ← action.toBaseIO with
  | .ok value => return .ok value
  | .error error => return .error (streamErrorOf error)

/-- The ports as far as they are known.  A path never tried can be opened, and
stops at its first call. -/
def knownPorts (contacts : List Contact) : Ports Replay where
  device path :=
    match contacts.find? (·.path == path) with
    | some contact => contact.device.map fun _ => { replies := contact.replies }
    | none => .ok {}

/-- The path and the call at which a run stopped. -/
def stoppingCall? (paths : List String) (ports : Ports Replay) : Option (String × OpenCall) :=
  paths.findSome? fun path =>
    match ports.device path with
    | .ok replay => replay.stoppedAt.map (path, ·)
    | .error _ => none

/-- Make a call on a device. -/
def makeCall (handle : IO.FS.Handle) : OpenCall → BaseIO Reply
  | .read want => do
      let got ← attempt (handle.read want.toUSize)
      return .read (got.map (·.data.toList))
  | .write bytes => do
      let taken ← attempt (do handle.write ⟨bytes.toArray⟩; handle.flush)
      return .write (taken.map fun _ => bytes.length)

/-- Open a path, or make a call on the device already open there. -/
def proceed (contacts : List Contact) (path : String) (call : OpenCall) :
    BaseIO (List Contact) := do
  match contacts.find? (·.path == path) with
  | some contact =>
    match contact.device with
    | .ok handle =>
        let reply ← makeCall handle call
        let known := { contact with replies := contact.replies ++ [reply] }
        return known :: contacts.filter (·.path != path)
    | .error _ => return contacts
  | none =>
      let device ← attempt (IO.FS.Handle.mk path .readWrite)
      return { path, device } :: contacts

/-- Run a command to its end, one call of the outside world at a time. -/
partial def converse (run : Ports Replay → Report Replay) (paths : List String)
    (contacts : List Contact) : IO (Report Replay) := do
  let report := run (knownPorts contacts)
  match report.outcome, stoppingCall? paths report.ports with
  | .died, some (path, call) => converse run paths (← proceed contacts path call)
  | _, _ => return report

/-- The file that a command reads, if it reads one. -/
def payloadFile : Request → Option String
  | .load _ (.file path) => some path
  | _ => none

/-- Whether an event is urgent enough for a log. -/
def LogLevel.shows (level : LogLevel) (event : Event) : Bool :=
  match event.level, level with
  | _, .error => false
  | .warn, _ => true
  | .info, .warn => false
  | .info, _ => true

/-- The line of an event in a log of some form. -/
def LogFormat.line (format : LogFormat) (event : Event) : String :=
  match format with
  | .text => event.line
  | .json => Text.jsonRecord [("event", .text event.line)]

/-- Run a command line that was understood. -/
def perform (invocation : Invocation) : IO UInt32 := do
  let stdout ← IO.getStdout
  let format : Format := if ← stdout.isTty then .pretty else .json
  let content ← match payloadFile invocation.request with
    | some path => attempt (IO.FS.readBinFile path)
    | none => pure (.ok .empty)
  let file (_ : String) := content.map (·.data.toList)
  let paths := match invocation.connection.port with
    | some path => [path]
    | none => candidatePaths
  let report ← converse (fun ports => invocation.run format { ports, file }) paths []
  let stderr ← IO.getStderr
  for event in report.events.reverse do
    if invocation.logLevel.shows event then
      stderr.putStrLn (invocation.logFormat.line event)
  stdout.write ⟨report.printed.toArray⟩
  stdout.flush
  stderr.putStr report.complaint
  return (report.exitCode?.getD Status.internal.code).toUInt32

/-- What is shown for a refused command line. -/
def refuse (refusal : Refusal) : IO UInt32 := do
  match refusal with
  | .helpRequested => IO.print usageText
  | .versionRequested => IO.print versionLine
  | _ => IO.eprint usageText
  return refusal.exitCode.toUInt32

end RegisterBridge.Console

/-- The program. -/
def main (arguments : List String) : IO UInt32 := do
  let defaultPort ← IO.getEnv "PICOLINK_PORT"
  match RegisterBridge.Console.parseArguments arguments defaultPort with
  | .ok invocation => RegisterBridge.Console.perform invocation
  | .error refusal => RegisterBridge.Console.refuse refusal
