/-!
# Ring buffers

A ring buffer keeps bytes in the order they came in, in a ring of cells that
grows when it is full.  The order is all that most readers see; one that copies
cells, and not bytes, also sees where the ring ends, because a single copy gets
no further than that.

A ring that is emptied starts over at its first cell.
-/

namespace RegisterBridge

/-- Bytes in a ring of cells. -/
structure Ring where
  /-- The bytes, oldest first. -/
  bytes : List UInt8 := []
  /-- The cell of the oldest byte. -/
  head : Nat := 0
  /-- The number of cells. -/
  capacity : Nat := 0
deriving DecidableEq, Repr

namespace Ring

/-- The smallest number of cells of a ring that has any. -/
def minCapacity : Nat := 8

/-- The bytes that stand before the end of the ring. -/
def frontLength (ring : Ring) : Nat :=
  min ring.bytes.length (ring.capacity - ring.head)

/-- Where the oldest byte goes when the ring grows to `capacity` cells.  The
shorter of the two stretches of a ring that wraps around is moved. -/
def headAfterGrowth (ring : Ring) (capacity : Nat) : Nat :=
  let before := ring.frontLength
  let after := ring.bytes.length - before
  if after = 0 ∨ (after < before ∧ after ≤ capacity - ring.capacity) then ring.head
  else capacity - before

/-- Make room for `count` more bytes: the ring at least doubles if it has to
grow. -/
def reserve (ring : Ring) (count : Nat) : Ring :=
  let needed := ring.bytes.length + count
  if needed ≤ ring.capacity then ring
  else
    let capacity := max minCapacity (max (2 * ring.capacity) needed)
    { ring with head := ring.headAfterGrowth capacity, capacity }

/-- Append bytes. -/
def append (ring : Ring) (bytes : List UInt8) : Ring :=
  let ring := ring.reserve bytes.length
  { ring with bytes := ring.bytes ++ bytes }

/-- Take the oldest `count` bytes. -/
def take (ring : Ring) (count : Nat) : List UInt8 × Ring :=
  let rest := ring.bytes.drop count
  let head := if rest = [] then 0 else (ring.head + count) % ring.capacity
  (ring.bytes.take count, { ring with bytes := rest, head })

@[simp]
theorem bytes_reserve (ring : Ring) (count : Nat) : (ring.reserve count).bytes = ring.bytes := by
  unfold reserve
  dsimp only
  split <;> rfl

@[simp]
theorem bytes_append (ring : Ring) (bytes : List UInt8) :
    (ring.append bytes).bytes = ring.bytes ++ bytes := by
  simp [append]

@[simp]
theorem take_fst (ring : Ring) (count : Nat) : (ring.take count).1 = ring.bytes.take count :=
  rfl

@[simp]
theorem bytes_take_snd (ring : Ring) (count : Nat) :
    (ring.take count).2.bytes = ring.bytes.drop count :=
  rfl

end Ring

end RegisterBridge
