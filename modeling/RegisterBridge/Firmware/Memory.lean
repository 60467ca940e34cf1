/-!
# Register memory

The memory of the bridge is a ring of cells.  A run of bytes is loaded from or
stored at a position and wraps around at the end.
-/

namespace RegisterBridge.Firmware

/-- The number of cells of a memory, enough for the longest burst from the last
register. -/
def memorySize : Nat := 0x10100

/-- The memory of a device as it starts up. -/
def initialMemory : Array UInt8 :=
  (Array.range memorySize).map fun index => (index % 251).toUInt8

/-- The cell at a position. -/
def peek (memory : Array UInt8) (position : Nat) : UInt8 :=
  (memory[position % memory.size]?).getD 0

/-- Replace the cell at a position. -/
def poke (memory : Array UInt8) (position : Nat) (value : UInt8) : Array UInt8 :=
  memory.setIfInBounds (position % memory.size) value

/-- The bytes from a position on. -/
def load (memory : Array UInt8) (position length : Nat) : List UInt8 :=
  (List.range length).map fun index => peek memory (position + index)

/-- Store bytes from a position on. -/
def store (memory : Array UInt8) (position : Nat) : List UInt8 → Array UInt8
  | [] => memory
  | byte :: rest => store (poke memory position byte) (position + 1) rest

@[simp]
theorem size_initialMemory : initialMemory.size = memorySize := by
  simp [initialMemory]

@[simp]
theorem size_poke (memory : Array UInt8) (position : Nat) (value : UInt8) :
    (poke memory position value).size = memory.size := by
  simp [poke]

@[simp]
theorem size_store (memory : Array UInt8) (position : Nat) (bytes : List UInt8) :
    (store memory position bytes).size = memory.size := by
  induction bytes generalizing memory position with
  | nil => rfl
  | cons byte rest ih => simp [store, ih]

@[simp]
theorem length_load (memory : Array UInt8) (position length : Nat) :
    (load memory position length).length = length := by
  simp [load]

/-- A run of bytes is loaded in two parts. -/
theorem load_append (memory : Array UInt8) (position first second : Nat) :
    load memory position (first + second) =
      load memory position first ++ load memory (position + first) second := by
  simp [load, List.range_add, Nat.add_assoc]

/-- A cell within the memory. -/
theorem peek_eq_getElem {memory : Array UInt8} {position : Nat} (inside : position < memory.size) :
    peek memory position = memory[position] := by
  simp [peek, Nat.mod_eq_of_lt inside, inside]

/-- A run of bytes within the memory does not wrap around. -/
theorem load_eq_extract {memory : Array UInt8} {position length : Nat}
    (inside : position + length ≤ memory.size) :
    load memory position length = (memory.extract position (position + length)).toList := by
  apply List.ext_getElem
  · rw [length_load, Array.length_toList, Array.size_extract, Nat.min_eq_left inside,
      Nat.add_sub_cancel_left]
  · intro index lower upper
    rw [length_load] at lower
    simp [load, peek_eq_getElem (show position + index < memory.size by omega)]

end RegisterBridge.Firmware
