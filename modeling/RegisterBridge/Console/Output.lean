import RegisterBridge.Console.Request
import RegisterBridge.Text.Hex
import RegisterBridge.Text.Json

/-!
# Output

What a command prints when it has succeeded, in each of the three forms: a JSON
record on a line, text for people, or nothing but the data.
-/

namespace RegisterBridge.Console

/-- The result of a command. -/
inductive Result where
  | bridge (port transport : String) (baudRate : UInt32) (config : LinkConfig)
  /-- The value of a register, read or written. -/
  | register (address value : UInt8)
  /-- The values of a range of registers. -/
  | registers (address : UInt8) (data : List UInt8)
  /-- The size of a range of registers written. -/
  | loaded (address : UInt8) (size : Nat)
deriving DecidableEq, Repr

/-- The bytes of a text in UTF-8. -/
def textBytes (text : String) : List UInt8 :=
  text.toUTF8.data.toList

namespace Result

/-- The result as a record. -/
def record : Result → List (String × Text.JsonField)
  | bridge port transport baudRate config =>
      [("port", .text port), ("transport", .text transport),
        ("baud_rate", .number baudRate.toNat),
        ("firmware_version", .text (Text.hexNumber 8 config.firmwareVersion.toNat)),
        ("atomic_tx", .number config.atomicTx), ("atomic_rx", .number config.atomicRx)]
  | register address value =>
      [("address", .number address.toNat), ("value", .number value.toNat)]
  | registers address data =>
      [("address", .number address.toNat), ("size", .number data.length),
        ("data", .text (Text.hexString data))]
  | loaded address size => [("address", .number address.toNat), ("size", .number size)]

/-- The result for people. -/
def pretty : Result → String
  | bridge port transport baudRate config =>
      "Bridge:\n" ++
        s!"  Port:             {port}\n" ++
        s!"  Transport:        {transport} @ {baudRate.toNat} baud\n" ++
        "  Firmware version: " ++ Text.hexNumber 8 config.firmwareVersion.toNat ++
          " (accepted)\n" ++
        s!"  Chunk limits:     tx={config.atomicTx} rx={config.atomicRx}\n"
  | register address value =>
      Text.hexNumber 2 address.toNat ++ " = " ++ Text.hexNumber 2 value.toNat ++ "\n"
  | registers address data => Text.hexDump address data
  | loaded address size =>
      s!"wrote {size} bytes at " ++ Text.hexNumber 2 address.toNat ++ "\n"

/-- The data of the result alone. -/
def raw : Result → List UInt8
  | bridge port .. => textBytes (port ++ "\n")
  | register _ value => [value]
  | registers _ data => data
  | loaded .. => []

/-- The bytes printed for a result. -/
def render (result : Result) : Format → List UInt8
  | .json => textBytes (Text.jsonRecord result.record ++ "\n")
  | .pretty => textBytes result.pretty
  | .raw => result.raw

end Result

/-! ## Versions -/

/-- How a program was built.  What was not recorded then is absent. -/
structure Build where
  target : Option String := none
  system : String
  architecture : String
  compiler : Option String := none
  revision : Option String := none
deriving DecidableEq, Repr

/-- What is told of a build. -/
def Build.text (build : Build) : String :=
  "target: " ++ build.target.getD "unknown" ++ "\n" ++
    "target_os: " ++ build.system ++ "\n" ++
    "target_arch: " ++ build.architecture ++ "\n" ++
    "rustc: " ++ build.compiler.getD "unknown" ++ "\n" ++
    "git_hash: " ++ build.revision.getD "unknown" ++ "\n"

/-- The name and version of the program. -/
def versionLine : String := "picolink 0.1.0\n"

/-- What the version command prints.  A build that is not known is passed over. -/
def versionText (build : Option Build) (extended : Bool) : String :=
  if extended then
    "name: picolink\n" ++
      "version: 0.1.0\n" ++
      (build.map Build.text).getD "" ++
      "firmware_version: " ++ Text.hexNumber 8 defaultFirmwareVersion.toNat ++ "\n" ++
      s!"chunk_limits: tx={defaultAtomicTx} rx={defaultAtomicRx}\n"
  else versionLine

end RegisterBridge.Console
