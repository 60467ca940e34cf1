/-!
# Scratch buffers

Successive exchanges reuse the same buffers.  A buffer is cleared before it is
built up again, so what it held before does not matter; the laws below say so
for every way a buffer is prepared.
-/

namespace RegisterBridge

/-- A buffer that is used again and again. -/
structure Scratch where
  bytes : List UInt8 := []
deriving DecidableEq, Repr

namespace Scratch

/-- A buffer with nothing in it. -/
def empty : Scratch := {}

/-- Forget what the buffer holds. -/
def clear (_ : Scratch) : Scratch := empty

/-- Cut the buffer to a size, or pad it with zeros. -/
def resize (buffer : Scratch) (size : Nat) : Scratch :=
  ⟨buffer.bytes.take size ++ List.replicate (size - buffer.bytes.length) 0⟩

/-- Put data over the start of the buffer. -/
def fill (buffer : Scratch) (data : List UInt8) : Scratch :=
  ⟨data ++ buffer.bytes.drop data.length⟩

/-- Cut the buffer to at most a size. -/
def truncate (buffer : Scratch) (size : Nat) : Scratch :=
  ⟨buffer.bytes.take size⟩

@[simp]
theorem clear_eq (first second : Scratch) : first.clear = second.clear := rfl

@[simp]
theorem bytes_clear (buffer : Scratch) : buffer.clear.bytes = [] := rfl

@[simp]
theorem length_resize (buffer : Scratch) (size : Nat) :
    (buffer.resize size).bytes.length = size := by
  simp [resize]
  omega

theorem fill_of_length_eq {buffer : Scratch} {data : List UInt8}
    (whole : buffer.bytes.length = data.length) : (buffer.fill data).bytes = data := by
  simp [fill, ← whole]

theorem length_fill {buffer : Scratch} {data : List UInt8}
    (fits : data.length ≤ buffer.bytes.length) :
    (buffer.fill data).bytes.length = buffer.bytes.length := by
  simp [fill]
  omega

/-- A buffer that is filled from end to end and cut back holds the start of the
data. -/
theorem truncate_fill_resize (buffer : Scratch) {data : List UInt8} {size : Nat}
    (whole : data.length = size) (length : Nat) :
    (((buffer.clear.resize size).fill data).truncate length).bytes = data.take length := by
  rw [truncate, fill_of_length_eq (by simp [whole])]

end Scratch

end RegisterBridge
