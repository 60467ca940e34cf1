import RegisterBridge.Port.Search

/-!
# Requests

What the command line asks for: a command with its arguments, how to reach the
bridge, and the form of the output.
-/

namespace RegisterBridge.Console

/-- Where the bytes to be written come from. -/
inductive PayloadSource where
  /-- Hexadecimal text. -/
  | hex (text : String)
  | file (path : String)
deriving DecidableEq, Repr

/-- A command. -/
inductive Request where
  /-- Find the bridge and check its firmware version. -/
  | probe
  /-- Read one register. -/
  | read (address : UInt8)
  /-- Write one register. -/
  | write (address value : UInt8)
  /-- Read a range of registers. -/
  | dump (address : UInt8) (size : Nat)
  /-- Write a range of registers. -/
  | load (address : UInt8) (source : PayloadSource)
  /-- Show version information. -/
  | version (extended : Bool)
deriving DecidableEq, Repr

/-- The form of the output. -/
inductive Format where
  | json
  | pretty
  | raw
deriving DecidableEq, Repr

/-- The form of the log. -/
inductive LogFormat where
  | text
  | json
deriving DecidableEq, Repr

/-- The least urgent events in the log. -/
inductive LogLevel where
  | error
  | warn
  | info
  | debug
  | trace
deriving DecidableEq, Repr

/-- How to reach the bridge. -/
structure Connection where
  /-- The port of the bridge; the default candidates, if absent. -/
  port : Option String := none
  baudRate : UInt32 := defaultBaudRate
  firmwareVersion : UInt32 := defaultFirmwareVersion
deriving DecidableEq, Repr

/-- The settings with which a connection is opened. -/
def Connection.settings (connection : Connection) : OpenSettings where
  serial := { baudRate := connection.baudRate }
  link := { firmwareVersion := connection.firmwareVersion }

/-- A whole command line. -/
structure Invocation where
  request : Request
  connection : Connection := {}
  /-- The form of the output; by the kind of output, if absent. -/
  format : Option Format := none
  logFormat : LogFormat := .text
  logLevel : LogLevel := .warn
deriving DecidableEq, Repr

end RegisterBridge.Console
