import RegisterBridge.Stream.Basic

/-!
# Sockets

One end of a socket pair.  The bytes the peer sent are read in order, and then
reads give nothing.  Writes are taken whole, unless the peer has hung up.
-/

namespace RegisterBridge

/-- One end of a socket pair. -/
structure Socket where
  /-- The bytes from the peer not read yet. -/
  incoming : List UInt8 := []
  /-- Whether the peer is gone. -/
  hungUp : Bool := false
  /-- The writes the peer received, latest first. -/
  outgoing : List (List UInt8) := []

namespace Socket

/-- All bytes the peer received. -/
def sent (socket : Socket) : List UInt8 :=
  socket.outgoing.reverse.flatten

/-- Answer a read. -/
def read (socket : Socket) (want : Nat) : Outcome StreamError (List UInt8) × Socket :=
  (.ok (socket.incoming.take want), { socket with incoming := socket.incoming.drop want })

/-- Answer a write. -/
def write (socket : Socket) (bytes : List UInt8) : Outcome StreamError Nat × Socket :=
  if socket.hungUp then (.error (.ofNumber 32), socket)
  else (.ok bytes.length, { socket with outgoing := bytes :: socket.outgoing })

end Socket

instance : Transport Socket where
  read := Socket.read
  write := Socket.write
  interruptionsLeft _ := 0
  length_read := by
    intro socket want data got
    cases got
    exact List.length_take_le ..
  count_write := by
    intro socket bytes count taken
    unfold Socket.write at taken
    split at taken <;> cases taken
    exact Nat.le_refl _
  interrupted_read := by
    intro socket want interrupted
    simp [Socket.read, Outcome.isInterrupted] at interrupted
  interrupted_write := by
    intro socket bytes interrupted
    unfold Socket.write at interrupted
    split at interrupted <;>
      simp [Outcome.isInterrupted, StreamError.isInterrupted, StreamError.ofNumber,
        StreamError.ofNumberTable] at interrupted
  release socket := (.ok (), socket)
  name _ := "unix-stream"

end RegisterBridge
