import RegisterBridge.Link.Basic

/-!
# Serial lines

A bridge sits behind a serial device with a path.  What opening each path gives
is described by `Ports`; an opened device becomes a line, which reads and
writes through it and remembers its path.
-/

namespace RegisterBridge

/-- The line rate of the bridge unless told otherwise. -/
def defaultBaudRate : UInt32 := 921600

/-- The number of device nodes a bridge may appear as. -/
def candidateCount : Nat := 10

/-- The device nodes a bridge may appear as, in probe order. -/
def candidatePaths : List String :=
  (List.range candidateCount).map fun index => "/dev/ttyACM" ++ toString index

/-- The settings of a serial line. -/
structure SerialSettings where
  baudRate : UInt32 := defaultBaudRate
  /-- How long a read waits for data, in milliseconds. -/
  readTimeout : Nat := 100
deriving DecidableEq, Repr

/-- An opened device and the path it was opened from. -/
structure SerialLine (δ : Type) where
  path : String
  device : δ

namespace SerialLine

variable {δ : Type}

/-- Put a line around the answer of its device. -/
def around {α : Type} (path : String) : α × δ → α × SerialLine δ
  | (answer, device) => (answer, ⟨path, device⟩)

instance [ByteStream δ] : ByteStream (SerialLine δ) where
  read | ⟨path, device⟩, want => around path (ByteStream.read device want)
  write | ⟨path, device⟩, bytes => around path (ByteStream.write device bytes)
  interruptionsLeft line := ByteStream.interruptionsLeft line.device
  length_read got := ByteStream.length_read got
  count_write taken := ByteStream.count_write taken
  interrupted_read interrupted := ByteStream.interrupted_read interrupted
  interrupted_write interrupted := ByteStream.interrupted_write interrupted

instance [ByteStream δ] [Release δ] : Transport (SerialLine δ) where
  release | ⟨path, device⟩ => around path (Release.release device)
  name _ := "usb-cdc-serial"

end SerialLine

/-- What opening a path gives: a device, or the reason it cannot be opened. -/
structure Ports (δ : Type) where
  device : String → Except StreamError δ

namespace Ports

variable {δ : Type}

/-- Leave a device at a path. -/
def put (ports : Ports δ) (path : String) (device : δ) : Ports δ where
  device other := if other = path then .ok device else ports.device other

@[simp]
theorem device_put_self (ports : Ports δ) (path : String) (device : δ) :
    (ports.put path device).device path = .ok device := by
  simp [put]

theorem device_put_of_ne (ports : Ports δ) {path other : String} (device : δ)
    (different : other ≠ path) : (ports.put path device).device other = ports.device other := by
  simp [put, different]

/-- Open the device at a path. -/
def openLine (ports : Ports δ) (settings : SerialSettings) (path : String)
    (events : List Event) : Except TransportError (Wire (SerialLine δ)) :=
  match ports.device path with
  | .ok device =>
      .ok { stream := ⟨path, device⟩, events := .deviceOpened path settings.baudRate :: events }
  | .error error => .error (.openFailed path error)

end Ports

/-- The path of the device behind a link, which is asked for under the lock. -/
def Link.portPath {δ : Type} (link : Link (SerialLine δ)) : String × Link (SerialLine δ) :=
  link.inspect (·.path)

end RegisterBridge
