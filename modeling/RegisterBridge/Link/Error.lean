import RegisterBridge.Frame.Error
import RegisterBridge.Frame.Tag
import RegisterBridge.Text.Hex

/-!
# Link errors

Everything an operation on a link can fail with, its wording, and the coarse
kinds by which callers tell failures apart.
-/

namespace RegisterBridge

/-- A failure of the transport below the frames. -/
inductive TransportError where
  /-- The device at a path cannot be opened. -/
  | openFailed (path : String) (error : StreamError)
  /-- A call on the transport failed. -/
  | io (error : StreamError)
  /-- The transport cannot be closed. -/
  | close (error : StreamError)
deriving DecidableEq, Repr

/-- The wording of a transport error. -/
def TransportError.message : TransportError → String
  | .openFailed path error => s!"failed to open {path}: " ++ error.text
  | .io error => "transport I/O error: " ++ error.text
  | .close error => "failed to close transport: " ++ error.text

/-- The failed call behind a transport error. -/
def TransportError.streamError : TransportError → StreamError
  | .openFailed _ error => error
  | .io error => error
  | .close error => error

/-- What is wrong with an argument. -/
inductive ArgumentFault where
  /-- Bursts cannot be cut into empty chunks. -/
  | zeroThreshold
  /-- The size field of a burst cannot hold the size. -/
  | burstTooLong (size limit : Nat)
  /-- A chunk limit of a configuration is out of range. -/
  | chunkLimit (setting : String) (limit got : Nat)
  /-- A fault found by a caller, in its words. -/
  | described (text : String)
deriving DecidableEq, Repr

/-- The wording of an argument fault. -/
def ArgumentFault.message : ArgumentFault → String
  | .zeroThreshold => "burst chunk threshold must be non-zero"
  | .burstTooLong size limit => s!"burst of {size} bytes exceeds {limit}"
  | .chunkLimit setting limit got => s!"{setting} must be in 1..={limit} (got {got})"
  | .described text => text

/-- What cannot be carried on with. -/
inductive StateFault where
  /-- A burst of no bytes has no last chunk. -/
  | emptyChunk
  /-- A fault found by a caller, in its words. -/
  | described (text : String)
deriving DecidableEq, Repr

/-- The wording of a state fault. -/
def StateFault.message : StateFault → String
  | .emptyChunk => "burst would end with a zero-length chunk"
  | .described text => text

/-- Why an operation on a link failed. -/
inductive LinkError where
  | transport (error : TransportError)
  | frame (error : FrameError)
  | invalidArgument (fault : ArgumentFault)
  /-- None of the candidates has a bridge. -/
  | noDeviceFound (tried : Nat)
  /-- The firmware refused the version it was told. -/
  | versionMismatch (expected : UInt32)
  /-- The answer carries fewer bytes than were asked for. -/
  | shortAnswer (tag : Tag) (expected actual : Nat)
  | invalidState (fault : StateFault)
deriving DecidableEq, Repr

/-- The kinds of link errors. -/
inductive ErrorKind where
  | invalidArgument
  | noDeviceFound
  | versionMismatch
  | timeout
  | protocolError
  | shortRead
  | io
  | invalidState
deriving DecidableEq, Repr

/-- The name of a kind in messages. -/
def ErrorKind.name : ErrorKind → String
  | .invalidArgument => "invalid argument"
  | .noDeviceFound => "no device found"
  | .versionMismatch => "version mismatch"
  | .timeout => "timeout"
  | .protocolError => "protocol error"
  | .shortRead => "short read"
  | .io => "i/o error"
  | .invalidState => "invalid state"

/-- The kind of a frame error. -/
def FrameError.kind : FrameError → ErrorKind
  | .payloadTooLarge .. => .invalidArgument
  | .timeout _ => .timeout
  | .tornHeader _ => .protocolError
  | .answerTooLarge .. => .protocolError
  | .shortRead .. => .shortRead
  | .io _ => .io

namespace LinkError

/-- The kind of a link error. -/
def kind : LinkError → ErrorKind
  | transport _ => .io
  | frame error => error.kind
  | invalidArgument _ => .invalidArgument
  | noDeviceFound _ => .noDeviceFound
  | versionMismatch _ => .versionMismatch
  | shortAnswer .. => .shortRead
  | invalidState _ => .invalidState

/-- The wording of a link error. -/
def message : LinkError → String
  | transport error => "transport error: " ++ error.message
  | frame error => "frame error: " ++ error.message
  | invalidArgument fault => "invalid argument: " ++ fault.message
  | noDeviceFound tried => s!"no device found ({tried} candidates tried)"
  | versionMismatch expected =>
      "firmware rejected version " ++ Text.hexNumber 8 expected.toNat
  | shortAnswer tag expected actual =>
      "short answer to " ++ tag.label ++ s!" ({actual} of {expected} bytes)"
  | invalidState fault => "invalid state: " ++ fault.message

/-- The failed call behind a link error, if there is one. -/
def streamError? : LinkError → Option StreamError
  | transport error => some error.streamError
  | frame (.io error) => some error
  | _ => none

end LinkError

end RegisterBridge
