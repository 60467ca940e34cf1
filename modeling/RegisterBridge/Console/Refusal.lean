/-!
# Refused command lines

A command line that is not carried out: because it is wrong, or because it asks
for help or for the version.
-/

namespace RegisterBridge.Console

/-- Why a command line is not carried out. -/
inductive Refusal where
  | helpRequested
  | versionRequested
  /-- Nothing at all was asked for. -/
  | nothingRequested
  /-- An option has no value, an empty path, or none of the values allowed. -/
  | invalidValue
  /-- A value is not of the form asked for. -/
  | malformedValue
  | unknownArgument
  | unknownCommand
  /-- A value is attached to a switch. -/
  | valueForSwitch
  /-- Two arguments exclude each other, or one is repeated. -/
  | conflict
  | missingArgument
  | missingCommand
deriving DecidableEq, Repr

/-- The exit code of a refused command line. -/
def Refusal.exitCode : Refusal → Nat
  | .helpRequested => 0
  | .versionRequested => 0
  | _ => 2

end RegisterBridge.Console
