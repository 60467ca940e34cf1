import RegisterBridge.Port.Line

/-!
# Finding the bridge

A link is opened on one path, or on the first of several candidates that turns
out to be a bridge.  A search passes over candidates that cannot be opened or
do not answer; a firmware that refuses the version ends it.
-/

namespace RegisterBridge

/-- The settings for finding and opening a link. -/
structure OpenSettings where
  /-- The paths tried in order. -/
  candidates : List String := candidatePaths
  serial : SerialSettings := {}
  link : LinkConfig := {}
deriving DecidableEq, Repr

/-- A device that was opened, and the calls made on it, latest first. -/
structure Visit where
  path : String
  calls : List Call
deriving DecidableEq, Repr

/-- How opening a link ends: the link or the failure, the ports as they are
left, all events, latest first, and the devices that were opened, in order. -/
structure Opening (δ : Type) where
  outcome : Outcome LinkError (Link (SerialLine δ))
  ports : Ports δ
  events : List Event
  visits : List Visit := []

namespace Opening

variable {δ : Type}

/-- The opening that ends at the device at a path. -/
def endingAt (ports : Ports δ) (path : String) (outcome : Outcome LinkError (Link (SerialLine δ)))
    (wire : Wire (SerialLine δ)) : Opening δ :=
  ⟨outcome, ports.put path wire.stream.device, wire.events, [⟨path, wire.calls⟩]⟩

/-- The opening that ends with a link to the device at a path. -/
def established (ports : Ports δ) (path : String) (link : Link (SerialLine δ)) : Opening δ :=
  let link := link.report (.linkEstablished path)
  endingAt ports path (.ok link) link.wire

/-- The same opening with a visit before it. -/
def after (visit : Visit) (opening : Opening δ) : Opening δ :=
  { opening with visits := visit :: opening.visits }

end Opening

namespace Ports

variable {δ : Type} [ByteStream δ]

/-- Open a link to the bridge at one path.  Failures are returned as they
happen. -/
def openPath (ports : Ports δ) (settings : OpenSettings) (path : String)
    (events : List Event) : Opening δ :=
  match ports.openLine settings.serial path events with
  | .error error => { outcome := .error (.transport error), ports, events }
  | .ok wire =>
    match Link.connect wire settings.link with
    | (.ok link, _) => .established ports path link
    | (.error error, wire) => .endingAt ports path (.error error) wire
    | (.died, wire) => .endingAt ports path .died wire

/-- Search the candidates that are left, out of `total`. -/
def searchFrom (settings : OpenSettings) (total : Nat) :
    List String → Ports δ → List Event → Opening δ
  | [], ports, events => { outcome := .error (.noDeviceFound total), ports, events }
  | path :: rest, ports, events =>
    match ports.openLine settings.serial path events with
    | .error _ => searchFrom settings total rest ports events
    | .ok wire =>
      match Link.connect wire settings.link with
      | (.ok link, _) => .established ports path link
      | (.error (.versionMismatch expected), wire) =>
          .endingAt ports path (.error (.versionMismatch expected)) wire
      | (.error error, wire) =>
          (searchFrom settings total rest (ports.put path wire.stream.device)
            (.unusableCandidate path error :: wire.events)).after ⟨path, wire.calls⟩
      | (.died, wire) => .endingAt ports path .died wire

/-- Find the bridge among the candidates and open a link to it. -/
def search (ports : Ports δ) (settings : OpenSettings) (events : List Event) : Opening δ :=
  match settings.link.validate with
  | .ok () => searchFrom settings settings.candidates.length settings.candidates ports events
  | .error error => { outcome := .error error, ports, events }

end Ports

end RegisterBridge
