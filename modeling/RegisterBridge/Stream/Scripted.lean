import RegisterBridge.Firmware.Basic
import RegisterBridge.Stream.Basic

/-!
# Scripted streams

A scripted stream answers its calls from two scripts, one for reads and one for
writes.  A read never crosses the end of a chunk of its script.  When a script
is used up, an optional firmware in memory takes over; without one, reads give
nothing, and writes are taken whole either way.
-/

namespace RegisterBridge

/-- The scripted answer to a read. -/
inductive ReadStep where
  /-- Bytes to be read from, by as many reads as it takes. -/
  | chunk (bytes : List UInt8)
  | fail (error : StreamError)
  /-- The caller dies. -/
  | die
deriving DecidableEq, Repr

/-- The scripted answer to a write. -/
inductive WriteStep where
  /-- Take at most a number of bytes. -/
  | accept (limit : Nat)
  | fail (error : StreamError)
  /-- The caller dies. -/
  | die
deriving DecidableEq, Repr

/-- Whether a read step interrupts the caller. -/
def ReadStep.interrupts : ReadStep → Bool
  | fail error => error.isInterrupted
  | _ => false

/-- Whether a write step interrupts the caller. -/
def WriteStep.interrupts : WriteStep → Bool
  | fail error => error.isInterrupted
  | _ => false

/-- A firmware in memory, whose ring is read in single copies. -/
structure Peer where
  firmware : Firmware
  /-- The most bytes a read gives; all, if absent. -/
  readLimit : Option Nat := none

namespace Peer

/-- Read from a peer: no further than its limit and the end of its ring. -/
def give (peer : Peer) (want : Nat) : List UInt8 × Peer :=
  match peer with
  | ⟨firmware, readLimit⟩ =>
    let count := min (min want (readLimit.getD want)) firmware.pending.frontLength
    match firmware.give count with
    | (data, firmware) => (data, ⟨firmware, readLimit⟩)

/-- Write to a peer. -/
def accept (peer : Peer) (bytes : List UInt8) : Peer :=
  match peer with
  | ⟨firmware, readLimit⟩ => ⟨firmware.accept bytes, readLimit⟩

theorem length_give_le (peer : Peer) (want : Nat) : (peer.give want).1.length ≤ want :=
  Nat.le_trans (peer.firmware.length_give_le _) (by omega)

end Peer

/-- A stream that answers from scripts, and then from a peer. -/
structure Scripted where
  /-- What is left of the chunk being read. -/
  chunk : List UInt8 := []
  reads : List ReadStep := []
  writes : List WriteStep := []
  peer : Option Peer := none
  /-- The error that closing ends with, if any. -/
  closeError : Option StreamError := none

namespace Scripted

/-- The interruptions still in the scripts. -/
def interruptionsLeft (stream : Scripted) : Nat :=
  stream.reads.countP ReadStep.interrupts + stream.writes.countP WriteStep.interrupts

/-- Read from the peer behind the script. -/
def readPeer (want : Nat) : Option Peer → List UInt8 × Option Peer
  | some peer =>
    match peer.give want with
    | (data, peer) => (data, some peer)
  | none => ([], none)

/-- Answer a read. -/
def read (stream : Scripted) (want : Nat) : Outcome StreamError (List UInt8) × Scripted :=
  match stream with
  | ⟨byte :: chunk, reads, writes, peer, closeError⟩ =>
      (.ok ((byte :: chunk).take want),
        ⟨(byte :: chunk).drop want, reads, writes, peer, closeError⟩)
  | ⟨[], .chunk bytes :: reads, writes, peer, closeError⟩ =>
      (.ok (bytes.take want), ⟨bytes.drop want, reads, writes, peer, closeError⟩)
  | ⟨[], .fail error :: reads, writes, peer, closeError⟩ =>
      (.error error, ⟨[], reads, writes, peer, closeError⟩)
  | ⟨[], .die :: reads, writes, peer, closeError⟩ =>
      (.died, ⟨[], reads, writes, peer, closeError⟩)
  | ⟨[], [], writes, peer, closeError⟩ =>
    match readPeer want peer with
    | (data, peer) => (.ok data, ⟨[], [], writes, peer, closeError⟩)

/-- Answer a write. -/
def write (stream : Scripted) (bytes : List UInt8) : Outcome StreamError Nat × Scripted :=
  match stream with
  | ⟨chunk, reads, .accept limit :: writes, peer, closeError⟩ =>
      let count := min limit bytes.length
      (.ok count,
        ⟨chunk, reads, writes, peer.map (·.accept (bytes.take count)), closeError⟩)
  | ⟨chunk, reads, .fail error :: writes, peer, closeError⟩ =>
      (.error error, ⟨chunk, reads, writes, peer, closeError⟩)
  | ⟨chunk, reads, .die :: writes, peer, closeError⟩ =>
      (.died, ⟨chunk, reads, writes, peer, closeError⟩)
  | ⟨chunk, reads, [], peer, closeError⟩ =>
      (.ok bytes.length, ⟨chunk, reads, [], peer.map (·.accept bytes), closeError⟩)

theorem length_read {stream : Scripted} {want : Nat} {data : List UInt8}
    (got : (stream.read want).1 = .ok data) : data.length ≤ want := by
  rcases stream with ⟨_ | ⟨byte, chunk⟩, _ | ⟨⟨bytes⟩ | error | _, reads⟩, writes, peer, closeError⟩
  case nil.nil =>
    cases peer with
    | none => cases got; simp
    | some peer => cases got; exact peer.length_give_le want
  all_goals cases got
  all_goals exact List.length_take_le ..

theorem count_write {stream : Scripted} {bytes : List UInt8} {count : Nat}
    (taken : (stream.write bytes).1 = .ok count) : count ≤ bytes.length := by
  rcases stream with ⟨chunk, reads, _ | ⟨limit | error | _, writes⟩, peer, closeError⟩
  all_goals cases taken
  · exact Nat.le_refl _
  · exact Nat.min_le_right ..

theorem interrupted_read {stream : Scripted} {want : Nat}
    (interrupted : (stream.read want).1.isInterrupted = true) :
    (stream.read want).2.interruptionsLeft < stream.interruptionsLeft := by
  rcases stream with ⟨_ | ⟨byte, chunk⟩, _ | ⟨⟨bytes⟩ | error | _, reads⟩, writes, peer, closeError⟩
  all_goals simp [read, Outcome.isInterrupted] at interrupted
  simp [read, interruptionsLeft, ReadStep.interrupts, interrupted]

theorem interrupted_write {stream : Scripted} {bytes : List UInt8}
    (interrupted : (stream.write bytes).1.isInterrupted = true) :
    (stream.write bytes).2.interruptionsLeft < stream.interruptionsLeft := by
  rcases stream with ⟨chunk, reads, _ | ⟨limit | error | _, writes⟩, peer, closeError⟩
  all_goals simp [write, Outcome.isInterrupted] at interrupted
  simp [write, interruptionsLeft, WriteStep.interrupts, interrupted]

end Scripted

instance : Transport Scripted where
  read := Scripted.read
  write := Scripted.write
  interruptionsLeft := Scripted.interruptionsLeft
  length_read := Scripted.length_read
  count_write := Scripted.count_write
  interrupted_read := Scripted.interrupted_read
  interrupted_write := Scripted.interrupted_write
  release stream :=
    match stream.closeError with
    | some error => (.error error, stream)
    | none => (.ok (), stream)
  name _ := "fake"

end RegisterBridge
