import RegisterBridge.Console.Run
import RegisterBridge.Firmware.Terminal

/-!
# Test benches

A bench is a small file system for links and commands to be tried on: firmware
behind terminals, plain files and directories.  Only a terminal can be opened
as a port.
-/

namespace RegisterBridge

/-- What a path leads to. -/
inductive Node where
  | terminal (terminal : Terminal)
  | file (content : List UInt8)
  | directory

/-- The nodes of a bench and their paths. -/
structure Bench where
  nodes : List (String × Node)

namespace Bench

/-- The nodes that every bench has. -/
def standardNodes : List (String × Node) :=
  [("/", .directory), ("/dev/null", .file [])]

/-- A bench with the standard nodes and some more. -/
def ofNodes (nodes : List (String × Node)) : Bench :=
  ⟨nodes ++ standardNodes⟩

/-- The answer to opening a path as a port. -/
def openPort (bench : Bench) (path : String) : Except StreamError Terminal :=
  match bench.nodes.lookup path with
  | some (.terminal terminal) => .ok terminal
  | some (.file _) => .error ⟨.other, "Not a typewriter"⟩
  | some .directory => .error ⟨.other, "Is a directory"⟩
  | none => .error ⟨.notFound, "No such file or directory"⟩

/-- The ports of a bench. -/
def ports (bench : Bench) : Ports Terminal :=
  ⟨bench.openPort⟩

/-- The answer to reading a path as a file. -/
def readFile (bench : Bench) (path : String) : Except StreamError (List UInt8) :=
  match bench.nodes.lookup path with
  | some (.file content) => .ok content
  | some .directory => .error (.ofNumber 21)
  | some (.terminal _) => .error (.ofNumber 5)
  | none => .error (.ofNumber 2)

/-- The bench as a command finds it. -/
def host (bench : Bench) : Console.Host Terminal where
  ports := bench.ports
  file := bench.readFile

end Bench

end RegisterBridge
