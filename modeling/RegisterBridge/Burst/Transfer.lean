import RegisterBridge.Burst.Plan
import RegisterBridge.Link.Exchange

/-!
# Burst transfers

The chunks of a burst are exchanged strictly in order, every one with the base
address: the firmware keeps its own cursor.  The first exchange that fails ends
the burst.
-/

namespace RegisterBridge

/-- Put bytes over a buffer from an offset on.  Bytes past its end are
dropped. -/
def overwrite (buffer : Array UInt8) (offset : Nat) : List UInt8 → Array UInt8
  | [] => buffer
  | byte :: rest => overwrite (buffer.setIfInBounds offset byte) (offset + 1) rest

@[simp]
theorem size_overwrite (buffer : Array UInt8) (offset : Nat) (bytes : List UInt8) :
    (overwrite buffer offset bytes).size = buffer.size := by
  induction bytes generalizing buffer offset with
  | nil => rfl
  | cons byte rest ih => simp [overwrite, ih]

/-- Bytes put one after the other are put together. -/
theorem overwrite_append (buffer : Array UInt8) (offset : Nat) (first second : List UInt8) :
    overwrite buffer offset (first ++ second) =
      overwrite (overwrite buffer offset first) (offset + first.length) second := by
  induction first generalizing buffer offset with
  | nil => rfl
  | cons byte rest ih =>
      rw [List.cons_append, overwrite, ih, overwrite, List.length_cons, Nat.add_assoc,
        Nat.add_comm 1]

/-- Exactly the cells that the bytes are put over are replaced. -/
theorem getElem?_overwrite (buffer : Array UInt8) (offset : Nat) (bytes : List UInt8)
    (index : Nat) :
    (overwrite buffer offset bytes)[index]? =
      if offset ≤ index ∧ index < offset + bytes.length ∧ index < buffer.size then
        bytes[index - offset]?
      else buffer[index]? := by
  induction bytes generalizing buffer offset with
  | nil =>
      rw [overwrite, List.length_nil, if_neg (by omega)]
  | cons byte rest ih =>
      rw [overwrite, ih, Array.size_setIfInBounds, List.length_cons]
      by_cases here : index = offset
      · subst index
        rw [if_neg (by omega), Array.getElem?_setIfInBounds_self]
        by_cases inside : offset < buffer.size
        · rw [if_pos inside, if_pos (by omega), Nat.sub_self]
          rfl
        · rw [if_neg inside, if_neg (by omega), Array.getElem?_eq_none (Nat.le_of_not_lt inside)]
      · rw [Array.getElem?_setIfInBounds_ne (Ne.symm here)]
        by_cases later : offset + 1 ≤ index ∧ index < offset + 1 + rest.length ∧
            index < buffer.size
        · have next_index : index - offset = index - (offset + 1) + 1 := by omega
          rw [if_pos later, if_pos (by omega), next_index, List.getElem?_cons_succ]
        · rw [if_neg later, if_neg (by omega)]

/-- Bytes that fill a buffer from end to end are all it holds. -/
theorem overwrite_whole {buffer : Array UInt8} {bytes : List UInt8}
    (whole : bytes.length = buffer.size) : overwrite buffer 0 bytes = bytes.toArray := by
  apply Array.ext_getElem?
  intro index
  rw [getElem?_overwrite]
  by_cases inside : index < buffer.size
  · rw [if_pos (by omega), Nat.sub_zero]
    exact List.getElem?_toArray.symm
  · have outside : bytes.toArray.size ≤ index := by
      rw [List.size_toArray, whole]
      exact Nat.le_of_not_lt inside
    rw [if_neg (by omega), Array.getElem?_eq_none (Nat.le_of_not_lt inside),
      Array.getElem?_eq_none outside]

/-- How a read burst ends: its outcome and what it left in the destination. -/
structure Gathering (σ : Type) where
  outcome : Outcome LinkError Unit
  destination : Array UInt8
  state : LinkState σ

namespace LinkState

variable {σ : Type} [ByteStream σ]

/-- The command that carries a chunk of a write burst. -/
def writeCommand (address : UInt8) (data : Array UInt8) (chunk : Burst.Chunk) : Command :=
  ⟨.burst .write chunk.kind, address,
    (data.extract chunk.offset (chunk.offset + chunk.length)).toList⟩

/-- The command that requests a chunk of a read burst. -/
def readCommand (address : UInt8) (chunk : Burst.Chunk) : Command :=
  ⟨.burst .read chunk.kind, address, bigEndian16 chunk.length⟩

theorem fits_readCommand (address : UInt8) (chunk : Burst.Chunk) :
    (readCommand address chunk).payload.length ≤ maxCommandPayload := by
  simp [readCommand, maxCommandPayload]

/-- Send the data of chunk after chunk. -/
def sendChunks (address : UInt8) (data : Array UInt8) :
    List Burst.Chunk → LinkState σ → Outcome LinkError Unit × LinkState σ
  | [], state => (.ok (), state)
  | chunk :: rest, state =>
    match state.execute (writeCommand address data chunk) with
    | (.ok _, state) => sendChunks address data rest state
    | (.error error, state) => (.error error, state)
    | (.died, state) => (.died, state)

/-- Write data to consecutive registers. -/
def writeBurst (state : LinkState σ) (address : UInt8) (data : Array UInt8)
    (threshold : Nat) : Outcome LinkError Unit × LinkState σ :=
  match Burst.plan data.size threshold with
  | .ok chunks => sendChunks address data chunks state
  | .error error => (.error error, state)

/-- Request chunk after chunk and gather the answers.  An answer may be longer
than its chunk, but not shorter. -/
def gatherChunks (address : UInt8) :
    List Burst.Chunk → Array UInt8 → LinkState σ → Gathering σ
  | [], destination, state => ⟨.ok (), destination, state⟩
  | chunk :: rest, destination, state =>
    match state.execute (readCommand address chunk) with
    | (.ok answer, state) =>
        if answer.payload.length < chunk.length then
          ⟨.error (.shortAnswer (.burst .read chunk.kind) chunk.length answer.payload.length),
            destination, state⟩
        else
          gatherChunks address rest
            (overwrite destination chunk.offset (answer.payload.take chunk.length)) state
    | (.error error, state) => ⟨.error error, destination, state⟩
    | (.died, state) => ⟨.died, destination, state⟩

/-- Fill a destination from consecutive registers. -/
def readBurst (state : LinkState σ) (address : UInt8) (destination : Array UInt8)
    (threshold : Nat) : Gathering σ :=
  match Burst.plan destination.size threshold with
  | .ok chunks => gatherChunks address chunks destination state
  | .error error => ⟨.error error, destination, state⟩

end LinkState

end RegisterBridge
