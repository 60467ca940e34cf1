import RegisterBridge.Console.Setting

/-!
# Reading the command line

Arguments are read from left to right, first those of the program and, after
the name of a command, those of the command.  A value is checked only when the
next argument that needs the checks to be settled comes up, or at the end of
its part of the line; that decides which of two faults is reported.

Behind a double dash every argument is positional.  A value never starts with a
dash unless it is attached with an equals sign or stands behind a double dash.
-/

namespace RegisterBridge.Console

/-- The names of the commands. -/
inductive Verb where
  | probe
  | read
  | write
  | dump
  | load
  | version
deriving DecidableEq, Repr

/-- The command with a name. -/
def Verb.ofName? : String → Option Verb
  | "probe" => some .probe
  | "read" => some .read
  | "write" => some .write
  | "dump" => some .dump
  | "load" => some .load
  | "version" => some .version
  | _ => none

/-- The positional arguments of a command, in order. -/
def Verb.positionals : Verb → List Setting
  | .probe => []
  | .read => [.address]
  | .write => [.address, .value]
  | .dump => [.address, .size]
  | .load => [.address]
  | .version => []

/-- The part of the command line whose arguments are being read. -/
inductive Scope where
  | program
  | command (verb : Verb)
deriving DecidableEq, Repr

/-- What a dashed argument stands for. -/
inductive Flag where
  /-- A setting, whose value follows. -/
  | valued (setting : Setting)
  | extended
  | help
  | version
deriving DecidableEq, Repr

namespace Scope

/-- The positional arguments, in order. -/
def positionals : Scope → List Setting
  | program => []
  | command verb => verb.positionals

/-- The flag with a long name. -/
def long? (scope : Scope) (name : String) : Option Flag :=
  match name, scope with
  | "port", _ => some (.valued .port)
  | "baud", _ => some (.valued .baud)
  | "fw-version", _ => some (.valued .firmwareVersion)
  | "format", _ => some (.valued .format)
  | "log-format", _ => some (.valued .logFormat)
  | "log-level", _ => some (.valued .logLevel)
  | "help", _ => some .help
  | "version", program => some .version
  | "hex", command .load => some (.valued .hex)
  | "file", command .load => some (.valued .file)
  | "extended", command .version => some .extended
  | _, _ => none

/-- The flag with a letter. -/
def short? (scope : Scope) (letter : Char) : Option Flag :=
  match letter, scope with
  | 'h', _ => some .help
  | 'V', program => some .version
  | _, _ => none

end Scope

/-! ## Arguments -/

/-- The shapes of an argument. -/
inductive Argument where
  /-- The double dash. -/
  | escape
  /-- A long name, with the value attached to it. -/
  | long (name : String) (attached : Option String)
  /-- The first letter behind a single dash. -/
  | short (letter : Char)
  /-- Anything else. -/
  | plain
deriving DecidableEq, Repr

/-- The parts of a text before and after its first equals sign. -/
def splitAttached (text : List Char) : String × Option String :=
  match text.dropWhile (· ≠ '=') with
  | _ :: value => (String.ofList (text.takeWhile (· ≠ '=')), some (String.ofList value))
  | [] => (String.ofList text, none)

/-- The shape of an argument. -/
def Argument.ofString (text : String) : Argument :=
  match text.toList with
  | ['-', '-'] => .escape
  | '-' :: '-' :: rest =>
    match splitAttached rest with
    | (name, attached) => .long name attached
  | '-' :: letter :: _ => .short letter
  | _ => .plain

/-- A setting whose value is not checked yet. -/
inductive Pending where
  | none
  /-- The value has yet to come. -/
  | awaiting (setting : Setting)
  | given (setting : Setting) (text : String)
deriving DecidableEq, Repr

/-- What has been read of one part of the line. -/
structure Progress where
  draft : Draft := {}
  pending : Pending := .none
  /-- Whether a double dash has been passed. -/
  escaped : Bool := false
  /-- The number of positional arguments so far. -/
  positionals : Nat := 0
deriving DecidableEq, Repr

namespace Progress

/-- Check the value that is pending. -/
def settle (progress : Progress) : Except Refusal Progress :=
  match progress.pending with
  | .none => .ok progress
  | .awaiting _ => .error .invalidValue
  | .given setting text => do
      let draft ← progress.draft.put setting text
      return { progress with draft, pending := .none }

/-- Take an argument by its position. -/
def takePositional (progress : Progress) (scope : Scope) (text : String) :
    Except Refusal Progress :=
  match scope.positionals[progress.positionals]? with
  | some setting => do
      let progress ← progress.settle
      return { progress with
        pending := .given setting text, positionals := progress.positionals + 1 }
  | none =>
    match scope with
    | .command _ => .error .unknownArgument
    | .program =>
        if progress.escaped ∧ ((Verb.ofName? text).isSome ∨ text = "help") then
          .error .unknownArgument
        else .error .unknownCommand

/-- Take a flag, with the value attached to it. -/
def takeFlag (progress : Progress) (flag : Flag) (attached : Option String) :
    Except Refusal Progress :=
  match flag, attached with
  | .valued setting, some text => do
      let progress ← progress.settle
      let draft ← progress.draft.put setting text
      return { progress with draft }
  | .valued setting, none => do
      let progress ← progress.settle
      return { progress with pending := .awaiting setting }
  | _, some _ => .error .valueForSwitch
  | .extended, none => do
      let progress ← progress.settle
      let draft ← progress.draft.putExtended
      return { progress with draft }
  | .help, none => do
      let _ ← progress.settle
      .error .helpRequested
  | .version, none => do
      let _ ← progress.settle
      .error .versionRequested

/-- Take an argument without dashes: the value that is awaited, or a positional
argument. -/
def takePlain (progress : Progress) (scope : Scope) (text : String) : Except Refusal Progress :=
  match progress.pending with
  | .awaiting setting => .ok { progress with pending := .given setting text }
  | _ => progress.takePositional scope text

/-- Take one argument. -/
def take (progress : Progress) (scope : Scope) (text : String) : Except Refusal Progress :=
  if progress.escaped then progress.takePositional scope text
  else
    match Argument.ofString text with
    | .escape => .ok { progress with escaped := true }
    | .long name attached =>
      match scope.long? name with
      | some flag => progress.takeFlag flag attached
      | none => .error .unknownArgument
    | .short letter =>
      match scope.short? letter with
      | some flag => progress.takeFlag flag none
      | none => .error .unknownArgument
    | .plain => progress.takePlain scope text

/-- Whether the next argument may be the name of a command. -/
def expectsCommand (progress : Progress) : Bool :=
  !progress.escaped &&
    match progress.pending with
    | .awaiting _ => false
    | _ => true

end Progress

/-! ## The program's part -/

/-- The outcome of a request for help on the command that the arguments name. -/
def helpOn : List String → Refusal
  | [] => .helpRequested
  | ["help"] => .helpRequested
  | [name] => if (Verb.ofName? name).isSome then .helpRequested else .unknownCommand
  | _ => .unknownCommand

/-- Read the program's arguments up to the name of a command, and give that
command and the arguments behind it. -/
def readProgram (progress : Progress) :
    List String → Except Refusal (Progress × Option (Verb × List String))
  | [] => .ok (progress, none)
  | text :: rest =>
    let verb := if progress.expectsCommand then Verb.ofName? text else none
    match verb with
    | some verb => .ok (progress, some (verb, rest))
    | none =>
      if progress.expectsCommand ∧ text = "help" then .error (helpOn rest)
      else
        match progress.take .program text with
        | .ok progress => readProgram progress rest
        | .error refusal => .error refusal

/-! ## The command's part -/

/-- A value that has to be given. -/
def required {α : Type} : Option α → Except Refusal α
  | some value => .ok value
  | none => .error .missingArgument

/-- The bytes to write are given in exactly one way. -/
def payloadSource (hex file : Option String) : Except Refusal PayloadSource :=
  match hex, file with
  | some text, none => .ok (.hex text)
  | none, some path => .ok (.file path)
  | none, none => .error .missingArgument
  | some _, some _ => .error .conflict

/-- The request that a draft makes of a command. -/
def Verb.request (verb : Verb) (draft : Draft) : Except Refusal Request :=
  match verb with
  | .probe => .ok .probe
  | .read => do return .read (← required draft.address)
  | .write => do return .write (← required draft.address) (← required draft.value)
  | .dump => do return .dump (← required draft.address) (← required draft.size)
  | .load => do
      let source ← payloadSource draft.hex draft.file
      return .load (← required draft.address) source
  | .version => .ok (.version draft.extended)

/-- Read the arguments of a command to the end of the line. -/
def readCommand (verb : Verb) (arguments : List String) : Except Refusal Draft := do
  let progress ← arguments.foldlM (fun progress text => progress.take (.command verb) text)
    ({} : Progress)
  return (← progress.settle).draft

/-- Join what was given before and after the name of a command. -/
def joinDrafts (request : Request) (before after : Draft) (defaultPort : Option String) :
    Invocation where
  request
  connection := {
    port := after.port <|> before.port <|> defaultPort
    baudRate := (after.baud <|> before.baud).getD defaultBaudRate
    firmwareVersion :=
      (after.firmwareVersion <|> before.firmwareVersion).getD defaultFirmwareVersion }
  format := after.format <|> before.format
  logFormat := (after.logFormat <|> before.logFormat).getD .text
  logLevel := (after.logLevel <|> before.logLevel).getD .warn

/-- Read a whole command line.  The default port is used where no port is
given. -/
def parseArguments (arguments : List String) (defaultPort : Option String) :
    Except Refusal Invocation := do
  match ← readProgram {} arguments with
  | (progress, some (verb, rest)) =>
      let after ← readCommand verb rest
      let _ ← after.withDefaultPort defaultPort
      let request ← verb.request after
      let before := (← progress.settle).draft
      let _ ← before.withDefaultPort defaultPort
      return joinDrafts request before after defaultPort
  | (progress, none) =>
      let draft ← (← progress.settle).draft.withDefaultPort defaultPort
      if draft.isGiven then .error .missingCommand else .error .nothingRequested

end RegisterBridge.Console
