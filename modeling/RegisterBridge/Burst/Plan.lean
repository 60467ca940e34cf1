import RegisterBridge.Frame.Basic
import RegisterBridge.Link.Error

/-!
# Burst plans

A burst goes out in chunks of at most a threshold.  A burst within the
threshold is one atomic chunk; a longer one is a first chunk, middle chunks and
a final chunk, all but the final one as long as the threshold.
-/

namespace RegisterBridge.Burst

/-- The largest burst that the size field of a request can describe. -/
def maxSize : Nat := 65535

/-- One chunk of a burst. -/
structure Chunk where
  kind : ChunkKind
  /-- Where the chunk starts in the burst. -/
  offset : Nat
  length : Nat
deriving DecidableEq, Repr

/-- The number of chunks in a burst. -/
def chunkCount (size threshold : Nat) : Nat :=
  (size + threshold - 1) / threshold

/-- The place of the chunk with an index among `count` chunks. -/
def kindAt (count index : Nat) : ChunkKind :=
  if count = 1 then .atomic
  else if index = 0 then .first
  else if index + 1 = count then .final
  else .middle

/-- The chunk with an index. -/
def chunkAt (size threshold index : Nat) : Chunk where
  kind := kindAt (chunkCount size threshold) index
  offset := threshold * index
  length := min threshold (size - threshold * index)

/-- Cut a burst into chunks. -/
def plan (size threshold : Nat) : Except LinkError (List Chunk) :=
  if threshold = 0 then .error (.invalidArgument .zeroThreshold)
  else if maxSize < size then .error (.invalidArgument (.burstTooLong size maxSize))
  else if size = 0 then .error (.invalidState .emptyChunk)
  else .ok ((List.range (chunkCount size threshold)).map (chunkAt size threshold))

end RegisterBridge.Burst
