import RegisterBridge.Link.Error

/-!
# Exit statuses

A command ends with success or with a failure that carries an exit status and a
message.  The status of a failure of the link follows from its kind; where a
call was refused for lack of permission, the status says so.
-/

namespace RegisterBridge.Console

/-- How a command exits. -/
inductive Status where
  | success
  | failure
  | transportError
  | versionMismatch
  | permissionDenied
  | dataInvalid
  | usage
  | noDevice
  | timeout
  | internal
deriving DecidableEq, Repr

/-- The exit code of a status. -/
def Status.code : Status → Nat
  | .success => 0
  | .failure => 1
  | .transportError => 3
  | .versionMismatch => 40
  | .permissionDenied => 50
  | .dataInvalid => 60
  | .usage => 64
  | .noDevice => 69
  | .timeout => 124
  | .internal => 125

/-- A failed command. -/
structure Failure where
  status : Status
  message : String
deriving DecidableEq, Repr

namespace Failure

/-- The status of a failed call outside a link. -/
def statusOfKind : FaultKind → Status
  | .permissionDenied => .permissionDenied
  | .timedOut => .timeout
  | .wouldBlock => .timeout
  | .notFound => .failure
  | _ => .internal

/-- The failure that a failed call outside a link makes of a command. -/
def ofStreamError (context : String) (error : StreamError) : Failure :=
  ⟨statusOfKind error.kind, context ++ ": " ++ error.text⟩

/-- The status of a link error. -/
def statusOfLinkError (error : LinkError) : Status :=
  match error.kind with
  | .invalidArgument => .usage
  | .noDeviceFound => .noDevice
  | .versionMismatch => .versionMismatch
  | .timeout => .timeout
  | .protocolError => .dataInvalid
  | .shortRead => .dataInvalid
  | .io =>
      if error.streamError?.any (·.kind == .permissionDenied) then .permissionDenied
      else .transportError
  | .invalidState => .internal

/-- The failure that a link error makes of a command. -/
def ofLinkError (context : String) (error : LinkError) : Failure :=
  ⟨statusOfLinkError error, context ++ ": " ++ error.message⟩

end Failure

end RegisterBridge.Console
