import RegisterBridge.Link.Operation

/-!
# The layout of a burst

A plan lists its chunks by index.  Here the same chunks are laid out one after
the other: as long as more than the threshold remains, a chunk of that length,
and then one chunk with the rest.  Every proof about bursts is an induction on
this relation.  At the end stand the slices of data that chunks name and the sizes
that have a plan.
-/

namespace RegisterBridge

namespace Burst

/-- The place of a chunk that starts at an offset and ends the burst or not. -/
def placeOf (offset : Nat) (ends : Bool) : ChunkKind :=
  if offset = 0 then if ends then .atomic else .first
  else if ends then .final else .middle

/-- The chunks take a burst of `size` bytes from an offset to its end. -/
inductive Covers (size threshold : Nat) : Nat → List Chunk → Prop
  | last {offset : Nat} (left : offset < size) (fits : size ≤ offset + threshold) :
      Covers size threshold offset [⟨placeOf offset true, offset, size - offset⟩]
  | more {offset : Nat} {rest : List Chunk} (left : offset + threshold < size)
      (covers : Covers size threshold (offset + threshold) rest) :
      Covers size threshold offset (⟨placeOf offset false, offset, threshold⟩ :: rest)

variable {size threshold : Nat}

/-- The number of chunks is the least that holds the burst. -/
theorem chunkCount_bounds (positive : 0 < threshold) (nonempty : 0 < size) :
    size ≤ threshold * chunkCount size threshold ∧
      threshold * chunkCount size threshold < size + threshold := by
  have divided := Nat.div_add_mod (size + threshold - 1) threshold
  have remainder := Nat.mod_lt (size + threshold - 1) positive
  rw [chunkCount]
  omega

theorem kindAt_eq_placeOf (positive : 0 < threshold) {count index : Nat}
    (inside : index < count) :
    kindAt count index = placeOf (threshold * index) (decide (index + 1 = count)) := by
  rw [kindAt, placeOf]
  cases index with
  | zero =>
      by_cases single : count = 1
      · simp [single]
      · simp [single, Ne.symm single]
  | succ index =>
      have several : count ≠ 1 := by omega
      have started : threshold * (index + 1) ≠ 0 :=
        Nat.mul_ne_zero (Nat.ne_of_gt positive) (Nat.succ_ne_zero index)
      by_cases ends : index + 1 + 1 = count
      · simp [several, started, ends]
      · simp [several, started, ends]

/-- The chunks of a plan from an index on cover the burst from their offset on. -/
theorem covers_chunkAt (positive : 0 < threshold) (nonempty : 0 < size) {left index : Nat}
    (count : index + (left + 1) = chunkCount size threshold) :
    Covers size threshold (threshold * index)
      ((List.range' index (left + 1)).map (chunkAt size threshold)) := by
  have bounds := chunkCount_bounds positive nonempty
  have place := kindAt_eq_placeOf positive (show index < chunkCount size threshold by omega)
  induction left generalizing index with
  | zero =>
      have ends : threshold * chunkCount size threshold = threshold * index + threshold := by
        rw [← count, Nat.mul_succ]
      have length : min threshold (size - threshold * index) = size - threshold * index := by
        omega
      rw [decide_eq_true count] at place
      rw [List.range'_one, List.map_singleton, chunkAt, place, length]
      exact .last (by omega) (by omega)
  | succ left ih =>
      have inside : threshold * index + threshold + threshold ≤
          threshold * chunkCount size threshold := by
        rw [← Nat.mul_succ, ← Nat.mul_succ]
        exact Nat.mul_le_mul_left threshold (by omega)
      have length : min threshold (size - threshold * index) = threshold := by
        omega
      have next_place :=
        kindAt_eq_placeOf positive (show index + 1 < chunkCount size threshold by omega)
      rw [decide_eq_false (by omega)] at place
      rw [List.range'_succ, List.map_cons, chunkAt, place, length]
      apply Covers.more (by omega)
      rw [← Nat.mul_succ]
      exact ih (by omega) next_place

/-- A burst of a size that the size field can hold has a plan, and its chunks
cover the burst. -/
theorem exists_plan (positive : 0 < threshold) (nonempty : 0 < size) (small : size ≤ maxSize) :
    ∃ chunks, plan size threshold = .ok chunks ∧ Covers size threshold 0 chunks := by
  have bounds := chunkCount_bounds positive nonempty
  obtain ⟨left, count⟩ : ∃ left, chunkCount size threshold = left + 1 := by
    apply Nat.exists_eq_succ_of_ne_zero
    intro none_eq
    rw [none_eq] at bounds
    omega
  refine ⟨(List.range (chunkCount size threshold)).map (chunkAt size threshold), ?_, ?_⟩
  · rw [plan, if_neg (Nat.ne_of_gt positive), if_neg (Nat.not_lt.mpr small),
      if_neg (Nat.ne_of_gt nonempty)]
  · rw [count, List.range_eq_range']
    exact covers_chunkAt positive nonempty ((Nat.zero_add _).trans count.symm)

/-- The chunks of any plan cover the burst. -/
theorem covers_of_plan {chunks : List Chunk} (planned : plan size threshold = .ok chunks) :
    Covers size threshold 0 chunks := by
  have succeeded := planned
  unfold plan at succeeded
  split at succeeded
  · contradiction
  split at succeeded
  · contradiction
  split at succeeded
  · contradiction
  rename_i positive small nonempty
  obtain ⟨laid, laid_eq, covers⟩ :=
    exists_plan (Nat.pos_of_ne_zero positive) (Nat.pos_of_ne_zero nonempty)
      (Nat.le_of_not_lt small)
  rw [planned] at laid_eq
  cases laid_eq
  exact covers

theorem Covers.threshold_pos {offset : Nat} {chunks : List Chunk}
    (covers : Covers size threshold offset chunks) : 0 < threshold := by
  induction covers with
  | last left fits => omega
  | more left covers ih => exact ih

/-- No chunk is longer than the threshold. -/
theorem Covers.length_le {offset : Nat} {chunks : List Chunk}
    (covers : Covers size threshold offset chunks) {chunk : Chunk} (member : chunk ∈ chunks) :
    chunk.length ≤ threshold := by
  induction covers with
  | last left fits =>
      cases List.mem_singleton.mp member
      exact Nat.sub_le_of_le_add (by omega)
  | more left covers ih =>
      rcases List.mem_cons.mp member with rfl | member
      · exact Nat.le_refl threshold
      · exact ih member

/-- No chunk reaches past the end of the burst. -/
theorem Covers.ends_within {offset : Nat} {chunks : List Chunk}
    (covers : Covers size threshold offset chunks) {chunk : Chunk} (member : chunk ∈ chunks) :
    chunk.offset + chunk.length ≤ size := by
  induction covers with
  | last left fits =>
      cases List.mem_singleton.mp member
      dsimp only
      omega
  | more left covers ih =>
      rcases List.mem_cons.mp member with rfl | member
      · exact Nat.le_of_lt left
      · exact ih member

/-- No chunk is longer than the first. -/
theorem Covers.length_le_first {offset : Nat} {first chunk : Chunk} {rest : List Chunk}
    (covers : Covers size threshold offset (first :: rest)) (member : chunk ∈ first :: rest) :
    chunk.length ≤ first.length := by
  cases covers with
  | last left fits =>
      cases List.mem_singleton.mp member
      exact Nat.le_refl _
  | more left covers =>
      rcases List.mem_cons.mp member with rfl | member
      · exact Nat.le_refl _
      · exact covers.length_le member

theorem Covers.exists_cons {offset : Nat} {chunks : List Chunk}
    (covers : Covers size threshold offset chunks) : ∃ first rest, chunks = first :: rest := by
  cases covers with
  | last left fits => exact ⟨_, _, rfl⟩
  | more left covers => exact ⟨_, _, rfl⟩

/-- A layout leaves no choice. -/
theorem Covers.unique {offset : Nat} {chunks others : List Chunk}
    (covers : Covers size threshold offset chunks)
    (covers' : Covers size threshold offset others) : chunks = others := by
  induction covers generalizing others with
  | last left fits =>
      cases covers' with
      | last _ _ => rfl
      | more left' _ => omega
  | more left covers ih =>
      cases covers' with
      | last _ fits' => omega
      | more _ covers' => rw [ih covers']

/-- Past the start of a burst there are middle chunks and a final one. -/
theorem Covers.middles_final {offset : Nat} {chunks : List Chunk}
    (covers : Covers size threshold offset chunks) (started : offset ≠ 0) :
    ∃ middles final, chunks = middles ++ [final] ∧
      (∀ chunk ∈ middles, chunk.kind = .middle) ∧ final.kind = .final := by
  induction covers with
  | last left fits => exact ⟨[], _, rfl, by simp, by simp [placeOf, started]⟩
  | more left covers ih =>
      obtain ⟨middles, final, rest_eq, middle, last⟩ := ih (by omega)
      refine ⟨_ :: middles, final, by rw [rest_eq]; rfl, ?_, last⟩
      intro chunk member
      rcases List.mem_cons.mp member with rfl | member
      · simp [placeOf, started]
      · exact middle chunk member

end Burst

/-! ## Slices -/

namespace LinkState

/-- The command for a chunk carries the slice of the data that the chunk names. -/
theorem writeCommand_eq (address : UInt8) (data : Array UInt8) (chunk : Burst.Chunk) :
    writeCommand address data chunk =
      ⟨.burst .write chunk.kind, address,
        (data.toList.drop chunk.offset).take chunk.length⟩ := by
  rw [writeCommand, Array.toList_extract, List.extract_eq_take_drop, Nat.add_sub_cancel_left]

theorem payload_writeCommand (address : UInt8) (data : Array UInt8) (chunk : Burst.Chunk) :
    (writeCommand address data chunk).payload =
      (data.toList.drop chunk.offset).take chunk.length :=
  congrArg Command.payload (writeCommand_eq address data chunk)

theorem length_payload_writeCommand {address : UInt8} {data : Array UInt8} {chunk : Burst.Chunk}
    (inside : chunk.offset + chunk.length ≤ data.size) :
    (writeCommand address data chunk).payload.length = chunk.length := by
  rw [payload_writeCommand, List.length_take, List.length_drop, Array.length_toList]
  omega

/-- If chunks of the threshold are within the limit, so are all commands of a write
burst. -/
theorem fits_writeCommand {threshold offset : Nat} {data : Array UInt8}
    {chunks : List Burst.Chunk} (covers : Burst.Covers data.size threshold offset chunks)
    (fits : threshold ≤ maxCommandPayload) (address : UInt8) :
    ∀ chunk ∈ chunks,
      (writeCommand address data chunk).payload.length ≤ maxCommandPayload := by
  intro chunk member
  rw [length_payload_writeCommand (covers.ends_within member)]
  exact Nat.le_trans (covers.length_le member) fits

end LinkState

/-! ## Sizes -/

namespace RegisterFile

variable {size threshold : Nat}

theorem plan_of_sizeFault {error : LinkError} (positive : 0 < threshold)
    (fault : sizeFault? size = some error) : Burst.plan size threshold = .error error := by
  rw [Burst.plan, if_neg (Nat.ne_of_gt positive)]
  by_cases empty : size = 0
  · subst size
    cases fault
    rfl
  · rw [sizeFault?, if_neg empty] at fault
    split at fault
    · rename_i long
      cases fault
      exact if_pos long
    · contradiction

theorem exists_plan_of_no_fault (positive : 0 < threshold) (sound : sizeFault? size = none) :
    size ≤ Burst.maxSize ∧
      ∃ chunks, Burst.plan size threshold = .ok chunks ∧
        Burst.Covers size threshold 0 chunks := by
  unfold sizeFault? at sound
  split at sound
  · contradiction
  split at sound
  · contradiction
  rename_i nonempty small
  have short := Nat.le_of_not_lt small
  exact ⟨short, Burst.exists_plan positive (Nat.pos_of_ne_zero nonempty) short⟩

end RegisterFile

end RegisterBridge
