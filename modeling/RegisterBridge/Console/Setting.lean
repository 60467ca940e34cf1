import RegisterBridge.Burst.Plan
import RegisterBridge.Console.Refusal
import RegisterBridge.Console.Request
import RegisterBridge.Text.Numeral

/-!
# Settings on the command line

The command line gives values to settings, each at most once.  A draft holds the
values given so far.  Some settings can be given before and after the name of
the command; of those the later one wins.
-/

namespace RegisterBridge.Console

/-- What can be given a value on the command line. -/
inductive Setting where
  | port
  | baud
  | firmwareVersion
  | format
  | logFormat
  | logLevel
  | address
  | value
  | size
  | hex
  | file
deriving DecidableEq, Repr

/-- The values given so far. -/
structure Draft where
  port : Option String := none
  baud : Option UInt32 := none
  firmwareVersion : Option UInt32 := none
  format : Option Format := none
  logFormat : Option LogFormat := none
  logLevel : Option LogLevel := none
  address : Option UInt8 := none
  value : Option UInt8 := none
  size : Option Nat := none
  hex : Option String := none
  file : Option String := none
  extended : Bool := false
deriving DecidableEq, Repr

/-! ## Values -/

/-- A path is not empty. -/
def readPath (text : String) : Except Refusal String :=
  if text = "" then .error .invalidValue else .ok text

/-- A line rate is a decimal integer of 32 bits. -/
def readBaud (text : String) : Except Refusal UInt32 :=
  match Text.integer64? text.toList with
  | some rate =>
      if 0 ≤ rate ∧ rate < UInt32.size then .ok (UInt32.ofNat rate.toNat)
      else .error .malformedValue
  | none => .error .malformedValue

/-- A value read by one of the numeral readers. -/
def readNumeral {α : Type} (result : Except Text.NumeralFault α) : Except Refusal α :=
  result.mapError fun _ => .malformedValue

/-- One of the output forms. -/
def readFormat : String → Except Refusal Format
  | "json" => .ok .json
  | "pretty" => .ok .pretty
  | "raw" => .ok .raw
  | _ => .error .invalidValue

/-- One of the log forms. -/
def readLogFormat : String → Except Refusal LogFormat
  | "text" => .ok .text
  | "json" => .ok .json
  | _ => .error .invalidValue

/-- One of the log levels. -/
def readLogLevel : String → Except Refusal LogLevel
  | "error" => .ok .error
  | "warn" => .ok .warn
  | "info" => .ok .info
  | "debug" => .ok .debug
  | "trace" => .ok .trace
  | _ => .error .invalidValue

/-! ## Drafts -/

/-- A first value for a setting.  A second one is refused, whatever it is. -/
def once {α : Type} (old : Option α) (new : Except Refusal α) : Except Refusal (Option α) :=
  match old with
  | some _ => .error .conflict
  | none => new.map some

namespace Draft

/-- Give a setting a value. -/
def put (draft : Draft) (setting : Setting) (text : String) : Except Refusal Draft := do
  match setting with
  | .port => return { draft with port := ← once draft.port (readPath text) }
  | .baud => return { draft with baud := ← once draft.baud (readBaud text) }
  | .firmwareVersion =>
      let version := readNumeral (Text.parseWord text)
      return { draft with firmwareVersion := ← once draft.firmwareVersion version }
  | .format => return { draft with format := ← once draft.format (readFormat text) }
  | .logFormat => return { draft with logFormat := ← once draft.logFormat (readLogFormat text) }
  | .logLevel => return { draft with logLevel := ← once draft.logLevel (readLogLevel text) }
  | .address =>
      return { draft with address := ← once draft.address (readNumeral (Text.parseByte text)) }
  | .value =>
      return { draft with value := ← once draft.value (readNumeral (Text.parseByte text)) }
  | .size =>
      let size := readNumeral (Text.parseSize Burst.maxSize text)
      return { draft with size := ← once draft.size size }
  | .hex => return { draft with hex := ← once draft.hex (.ok text) }
  | .file => return { draft with file := ← once draft.file (readPath text) }

/-- Turn on the extended version. -/
def putExtended (draft : Draft) : Except Refusal Draft :=
  if draft.extended then .error .conflict else .ok { draft with extended := true }

/-- Whether any setting that can stand before the command is given. -/
def isGiven (draft : Draft) : Bool :=
  draft.port.isSome || draft.baud.isSome || draft.firmwareVersion.isSome ||
    draft.format.isSome || draft.logFormat.isSome || draft.logLevel.isSome

/-- The default port stands in for one that is not given, and has to be a path
then. -/
def withDefaultPort (draft : Draft) (defaultPort : Option String) : Except Refusal Draft :=
  match draft.port, defaultPort with
  | none, some path => do return { draft with port := some (← readPath path) }
  | _, _ => .ok draft

end Draft

end RegisterBridge.Console
