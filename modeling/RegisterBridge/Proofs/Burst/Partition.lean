import Mathlib.Algebra.Order.Floor.Div
import RegisterBridge.Proofs.Burst.Layout

/-!
# A plan is the partition of a burst

A burst of some size and a threshold leave no choice in how the burst is cut:
`Partitions` says what the chunks have to be, and the main statement is that a plan
is the one list of chunks that are so, and in which cases there is no plan.

A machine cuts a burst in words that can overflow.  `planWords?` is that loop, which
gives up at the first sum or difference that does not fit; it never does, and its
result is the plan.
-/

namespace RegisterBridge.Burst

variable {size threshold : Nat} {chunks : List Chunk}

/-! ## Partitions -/

/-- The chunks of a burst: as few as possible, one behind the other, all but the last
as long as the threshold, each of the kind that goes with its place. -/
structure Partitions (size threshold : Nat) (chunks : List Chunk) : Prop where
  count : chunks.length = size ⌈/⌉ threshold
  offset : ∀ index (inside : index < chunks.length),
    chunks[index].offset = ((chunks.take index).map Chunk.length).sum
  total : (chunks.map Chunk.length).sum = size
  full : ∀ chunk ∈ chunks.dropLast, chunk.length = threshold
  last : ∀ chunk ∈ chunks.getLast?, 0 < chunk.length ∧ chunk.length ≤ threshold
  kinds : if size ≤ threshold then chunks.map Chunk.kind = [.atomic]
    else ∃ middles, chunks.map Chunk.kind =
      .first :: (List.replicate middles .middle ++ [.final])

theorem chunkCount_eq_ceilDiv (size threshold : Nat) :
    chunkCount size threshold = size ⌈/⌉ threshold :=
  (Nat.ceilDiv_eq_add_pred_div size threshold).symm

/-- All chunks but the last are full, so that the last one has what is left. -/
theorem exists_last (positive : 0 < threshold) (nonempty : 0 < size) :
    ∃ last, chunkCount size threshold = last + 1 ∧ threshold * last < size ∧
      size ≤ threshold * last + threshold ∧ (size ≤ threshold ↔ last = 0) := by
  have bounds := chunkCount_bounds positive nonempty
  obtain ⟨last, count⟩ : ∃ last, chunkCount size threshold = last + 1 := by
    apply Nat.exists_eq_succ_of_ne_zero
    intro none_eq
    rw [none_eq] at bounds
    omega
  rw [count, Nat.mul_succ] at bounds
  refine ⟨last, count, by omega, by omega, fun single => ?_, ?_⟩
  · by_contra later
    have := Nat.le_mul_of_pos_right threshold (Nat.pos_of_ne_zero later)
    omega
  · rintro rfl
    omega

/-- The kinds of the chunks by their index. -/
theorem map_kindAt_range (last : Nat) :
    (List.range (last + 1)).map (kindAt (last + 1)) =
      if last = 0 then [.atomic] else .first :: (List.replicate (last - 1) .middle ++ [.final]) := by
  cases last with
  | zero => rfl
  | succ middles =>
      have middle_eq : (List.range' 1 middles).map (kindAt (middles + 1 + 1)) =
          List.replicate middles .middle := by
        rw [List.map_eq_replicate_iff.mpr]
        · rw [List.length_range']
        · intro index inside
          rw [List.mem_range'_1] at inside
          rw [kindAt, if_neg (by omega), if_neg (by omega), if_neg (by omega)]
      have final_eq : kindAt (middles + 1 + 1) (1 + middles) = .final := by
        rw [kindAt, if_neg (by omega), if_neg (by omega), if_pos (by omega)]
      rw [List.range_eq_range', List.range'_succ, List.range'_concat, List.map_cons,
        List.map_append, Nat.one_mul, middle_eq, List.map_singleton, final_eq,
        if_neg (Nat.succ_ne_zero middles)]
      rfl

/-- Chunks as long as the threshold, taken together. -/
theorem sum_lengths_of_full (full : ∀ chunk ∈ chunks, chunk.length = threshold) :
    (chunks.map Chunk.length).sum = threshold * chunks.length := by
  rw [List.map_eq_replicate_iff.mpr full, List.sum_replicate_nat, Nat.mul_comm]

/-- The chunks with the first few indices, none of which is the last, are full. -/
theorem full_map_chunkAt {last : Nat} (left : threshold * last < size) {count : Nat}
    (few : count ≤ last) :
    ∀ chunk ∈ (List.range count).map (chunkAt size threshold), chunk.length = threshold := by
  intro chunk member
  obtain ⟨index, inside, rfl⟩ := List.mem_map.mp member
  have below : index < last := Nat.lt_of_lt_of_le (List.mem_range.mp inside) few
  have room : threshold * index + threshold ≤ threshold * last :=
    Nat.mul_le_mul_left threshold below
  rw [chunkAt]
  dsimp only
  omega

theorem partitions_map_chunkAt (positive : 0 < threshold) (nonempty : 0 < size) :
    Partitions size threshold
      ((List.range (chunkCount size threshold)).map (chunkAt size threshold)) := by
  obtain ⟨last, count, left, fits, single_iff⟩ := exists_last positive nonempty
  have length_last : (chunkAt size threshold last).length = size - threshold * last := by
    rw [chunkAt]
    dsimp only
    omega
  have concat_eq : (List.range (chunkCount size threshold)).map (chunkAt size threshold) =
      (List.range last).map (chunkAt size threshold) ++ [chunkAt size threshold last] := by
    rw [count, List.range_succ, List.map_append, List.map_singleton]
  have kinds_eq : ((List.range (chunkCount size threshold)).map (chunkAt size threshold)).map
      Chunk.kind = (List.range (last + 1)).map (kindAt (last + 1)) := by
    rw [← count, List.map_map]
    rfl
  constructor
  case count => rw [List.length_map, List.length_range, chunkCount_eq_ceilDiv]
  case offset =>
    intro index inside
    rw [List.length_map, List.length_range, count] at inside
    have few : index ≤ last := Nat.le_of_lt_succ inside
    have front : ((List.range (chunkCount size threshold)).map (chunkAt size threshold)).take
        index = (List.range index).map (chunkAt size threshold) := by
      rw [← List.map_take, List.take_range, Nat.min_eq_left (by omega)]
    rw [front, sum_lengths_of_full (full_map_chunkAt left few)]
    simp [chunkAt]
  case total =>
    rw [concat_eq, List.map_append, List.sum_append,
      sum_lengths_of_full (full_map_chunkAt left (Nat.le_refl last))]
    simp only [List.length_map, List.length_range, List.map_singleton, List.sum_singleton,
      length_last]
    omega
  case full =>
    rw [concat_eq, List.dropLast_concat]
    exact full_map_chunkAt left (Nat.le_refl last)
  case last =>
    rw [concat_eq, List.getLast?_concat]
    intro chunk is_last
    cases is_last
    rw [length_last]
    omega
  case kinds =>
    rw [kinds_eq, map_kindAt_range]
    by_cases single : size ≤ threshold
    · rw [if_pos single, if_pos (single_iff.mp single)]
    · rw [if_neg single, if_neg (mt single_iff.mpr single)]
      exact ⟨last - 1, rfl⟩

namespace Partitions

/-- Nothing but the kinds of a plan is possible. -/
theorem kinds_eq (partitions : Partitions size threshold chunks) {last : Nat}
    (count : chunks.length = last + 1) (single_iff : size ≤ threshold ↔ last = 0) :
    chunks.map Chunk.kind = (List.range (last + 1)).map (kindAt (last + 1)) := by
  have kinds := partitions.kinds
  rw [map_kindAt_range]
  by_cases single : size ≤ threshold
  · rw [if_pos single] at kinds
    rw [kinds, if_pos (single_iff.mp single)]
  · rw [if_neg single] at kinds
    obtain ⟨middles, kinds⟩ := kinds
    have lengths := congrArg List.length kinds
    simp only [List.length_map, List.length_cons, List.length_append, List.length_replicate,
      List.length_nil, count] at lengths
    rw [kinds, if_neg (mt single_iff.mpr single), show last - 1 = middles by omega]

/-- What a partition has taken up to a chunk. -/
theorem sum_take (partitions : Partitions size threshold chunks) {last few : Nat}
    (count : chunks.length = last + 1) (left : threshold * last < size)
    (fits : size ≤ threshold * last + threshold) (small : few ≤ last + 1) :
    ((chunks.take few).map Chunk.length).sum = min (threshold * few) size := by
  by_cases whole : few = last + 1
  · rw [List.take_of_length_le (by omega), partitions.total, whole, Nat.mul_succ,
      Nat.min_eq_right fits]
  · have inside : few ≤ last := by omega
    have full : ∀ chunk ∈ chunks.take few, chunk.length = threshold := by
      intro chunk member
      apply partitions.full
      rw [← Nat.min_eq_left inside, ← List.take_take] at member
      rw [List.dropLast_eq_take, count, Nat.add_sub_cancel]
      exact List.mem_of_mem_take member
    have below := Nat.mul_le_mul_left threshold inside
    rw [sum_lengths_of_full full, List.length_take, count, Nat.min_eq_left small,
      Nat.min_eq_left (by omega)]

/-- Each chunk of a partition is the chunk of the plan with its index. -/
theorem getElem_eq (partitions : Partitions size threshold chunks) (positive : 0 < threshold)
    (nonempty : 0 < size) {index : Nat} (inside : index < chunks.length) :
    chunks[index] = chunkAt size threshold index := by
  obtain ⟨last, count, left, fits, single_iff⟩ := exists_last positive nonempty
  have chunks_count : chunks.length = last + 1 := by
    rw [partitions.count, ← chunkCount_eq_ceilDiv, count]
  have room : threshold * index ≤ threshold * last :=
    Nat.mul_le_mul_left threshold (by omega)
  have kind_eq : chunks[index].kind = kindAt (chunkCount size threshold) index := by
    have at_index := congrArg (·[index]?) (partitions.kinds_eq chunks_count single_iff)
    simpa [inside, show index < last + 1 by omega, count] using at_index
  have before := partitions.sum_take chunks_count left fits (show index ≤ last + 1 by omega)
  have offset_eq : chunks[index].offset = threshold * index := by
    rw [partitions.offset index inside, before]
    omega
  have length_eq : chunks[index].length = min threshold (size - threshold * index) := by
    have behind := partitions.sum_take chunks_count left fits (show index + 1 ≤ last + 1 by omega)
    rw [List.take_add_one, List.getElem?_eq_getElem inside, Option.toList_some, List.map_append,
      List.sum_append, before, List.map_singleton, List.sum_singleton, Nat.mul_succ] at behind
    omega
  rw [chunkAt, ← kind_eq, ← length_eq, ← offset_eq]

end Partitions

/-- A burst that is not empty has one partition. -/
theorem partitions_iff (positive : 0 < threshold) (nonempty : 0 < size) :
    Partitions size threshold chunks ↔
      chunks = (List.range (chunkCount size threshold)).map (chunkAt size threshold) := by
  constructor
  · intro partitions
    apply List.ext_getElem
    · rw [partitions.count, List.length_map, List.length_range, chunkCount_eq_ceilDiv]
    · intro index inside _
      rw [partitions.getElem_eq positive nonempty inside, List.getElem_map, List.getElem_range]
  · rintro rfl
    exact partitions_map_chunkAt positive nonempty

/-! ## Cutting in words -/

section Words

variable {width : Nat}

/-- Cut what remains of a burst from an offset on, chunk after chunk.  There is no
result if the offset overflows or the remainder underflows. -/
def cutWords? (size threshold : BitVec width) (positive : 0 < threshold.toNat)
    (offset remaining : BitVec width) : Option (Except LinkError (List Chunk)) :=
  if _more : threshold < remaining then
    if offset.uaddOverflow threshold || remaining.usubOverflow threshold then none
    else
      (cutWords? size threshold positive (offset + threshold) (remaining - threshold)).map
        (·.map (⟨if offset = 0 then .first else .middle, offset.toNat, threshold.toNat⟩ :: ·))
  else if remaining = 0 then some (.error (.invalidState .emptyChunk))
  else
    some (.ok
      [⟨if size ≤ threshold then .atomic else .final, offset.toNat, remaining.toNat⟩])
termination_by remaining.toNat
decreasing_by
  rw [BitVec.lt_def] at _more
  rw [BitVec.toNat_sub_of_le (BitVec.le_of_lt _more)]
  omega

/-- Plan a burst in words, by a loop over what remains. -/
def planWords? (size threshold : BitVec width) : Option (Except LinkError (List Chunk)) :=
  if positive : 0 < threshold.toNat then
    if maxSize < size.toNat then
      some (.error (.invalidArgument (.burstTooLong size.toNat maxSize)))
    else cutWords? size threshold positive 0 size
  else some (.error (.invalidArgument .zeroThreshold))

/-- The loop neither overflows nor underflows, because the offset and what remains
always add up to the size, and its chunks are laid out from the offset on. -/
theorem cutWords?_eq_some {size threshold offset remaining : BitVec width}
    (positive : 0 < threshold.toNat) (sum_eq : offset.toNat + remaining.toNat = size.toNat)
    (left : 0 < remaining.toNat) (started : offset ≠ 0 → threshold.toNat ≤ offset.toNat) :
    ∃ chunks, cutWords? size threshold positive offset remaining = some (.ok chunks) ∧
      Covers size.toNat threshold.toNat offset.toNat chunks := by
  fun_induction cutWords? size threshold positive offset remaining with
  | case1 offset remaining more overflows =>
      -- Both results are at most the size, which is a word.
      have size_lt := size.isLt
      rw [BitVec.lt_def] at more
      simp only [BitVec.uaddOverflow, BitVec.usubOverflow, Bool.or_eq_true,
        decide_eq_true_eq] at overflows
      omega
  | case2 offset remaining more fits ih =>
      have size_lt := size.isLt
      rw [BitVec.lt_def] at more
      have next_eq : (offset + threshold).toNat = offset.toNat + threshold.toNat :=
        BitVec.toNat_add_of_lt (by omega)
      have left_eq : (remaining - threshold).toNat = remaining.toNat - threshold.toNat :=
        BitVec.toNat_sub_of_le (BitVec.le_def.mpr (Nat.le_of_lt more))
      obtain ⟨chunks, cut, covers⟩ :=
        ih (by omega) (by omega) fun _ => by omega
      refine ⟨_, by rw [cut]; rfl, ?_⟩
      have kind_eq : (if offset = 0 then ChunkKind.first else .middle) =
          placeOf offset.toNat false := by
        simp [placeOf, ← BitVec.toNat_inj]
      rw [kind_eq]
      rw [next_eq] at covers
      exact .more (by omega) covers
  | case3 offset more => simp at left
  | case4 offset remaining more nonempty =>
      rw [BitVec.lt_def] at more
      refine ⟨_, rfl, ?_⟩
      have single_iff : size ≤ threshold ↔ offset.toNat = 0 := by
        rw [BitVec.le_def]
        refine ⟨fun single => ?_, fun start => by omega⟩
        by_contra moved
        have ahead := started (mt (by simp [← BitVec.toNat_inj]) moved)
        omega
      have kind_eq : (if size ≤ threshold then ChunkKind.atomic else .final) =
          placeOf offset.toNat true := by
        simp [placeOf, single_iff]
      have rest_eq : remaining.toNat = size.toNat - offset.toNat := by omega
      rw [kind_eq, rest_eq]
      exact .last (by omega) (by omega)

/-- In words of any width, the loop comes to the plan. -/
theorem planWords?_eq_plan (size threshold : BitVec width) :
    planWords? size threshold = some (plan size.toNat threshold.toNat) := by
  by_cases positive : 0 < threshold.toNat
  · rw [planWords?, dif_pos positive]
    by_cases long : maxSize < size.toNat
    · rw [if_pos long, plan, if_neg (Nat.ne_of_gt positive), if_pos long]
    · rw [if_neg long]
      by_cases empty : size = 0
      · subst empty
        rw [cutWords?]
        simp [plan, Nat.ne_of_gt positive]
      · have nonempty : 0 < size.toNat := by
          rw [Nat.pos_iff_ne_zero]
          exact mt (by simp [← BitVec.toNat_inj]) empty
        have whole : (0 : BitVec width).toNat + size.toNat = size.toNat := by simp
        obtain ⟨chunks, cut, covers⟩ :=
          cutWords?_eq_some positive whole nonempty (absurd rfl)
        obtain ⟨others, planned, covers'⟩ :=
          exists_plan positive nonempty (Nat.le_of_not_lt long)
        rw [BitVec.ofNat_eq_ofNat, BitVec.toNat_zero] at covers
        rw [planned, cut, covers.unique covers']
  · rw [planWords?, dif_neg positive, plan, if_pos (Nat.eq_zero_of_not_pos positive)]

/-- One byte over an exact multiple of the threshold, in sixteen bits. -/
example : planWords? 1201#16 600#16 =
    some (.ok [⟨.first, 0, 600⟩, ⟨.middle, 600, 600⟩, ⟨.final, 1200, 1⟩]) := by
  cbv

end Words

/-! ## Plans -/

/-- The three ways a plan can end. -/
theorem plan_cases (size threshold : Nat) :
    (threshold = 0 ∨ maxSize < size) ∧
        (∃ fault, plan size threshold = .error (.invalidArgument fault)) ∨
      (0 < threshold ∧ size = 0) ∧ plan size threshold = .error (.invalidState .emptyChunk) ∨
      (0 < threshold ∧ 0 < size ∧ size ≤ maxSize) ∧
        plan size threshold =
          .ok ((List.range (chunkCount size threshold)).map (chunkAt size threshold)) := by
  rw [plan]
  by_cases unlimited : threshold = 0
  · exact .inl ⟨.inl unlimited, _, if_pos unlimited⟩
  rw [if_neg unlimited]
  by_cases long : maxSize < size
  · exact .inl ⟨.inr long, _, if_pos long⟩
  rw [if_neg long]
  by_cases empty : size = 0
  · exact .inr (.inl ⟨⟨Nat.pos_of_ne_zero unlimited, empty⟩, if_pos empty⟩)
  · exact .inr (.inr ⟨⟨Nat.pos_of_ne_zero unlimited, Nat.pos_of_ne_zero empty,
      Nat.le_of_not_lt long⟩, if_neg empty⟩)

/-- **A plan is the partition of its burst.**  There is none for a threshold of zero or
a size that no burst can have; an empty burst with a threshold ends in a state without a
last chunk; every other burst has exactly one partition, and that is its plan.  A loop
in words of any width, which stops at the first overflow, comes to the same result. -/
theorem plan_partitions (size threshold : Nat) :
    ((∃ error, plan size threshold = .error error ∧ error.kind = .invalidArgument) ↔
      threshold = 0 ∨ maxSize < size) ∧
    ((∃ error, plan size threshold = .error error ∧ error.kind = .invalidState) ↔
      0 < threshold ∧ size = 0) ∧
    ((∃ chunks, plan size threshold = .ok chunks ∧
        ∀ others, Partitions size threshold others ↔ others = chunks) ↔
      0 < threshold ∧ 0 < size ∧ size ≤ maxSize) ∧
    ∀ (width : Nat) (sizeWord thresholdWord : BitVec width),
      planWords? sizeWord thresholdWord =
        some (plan sizeWord.toNat thresholdWord.toNat) := by
  rw [← and_assoc, ← and_assoc]
  refine ⟨?_, fun width => planWords?_eq_plan⟩
  rcases plan_cases size threshold with
    ⟨refused, fault, plan_eq⟩ | ⟨⟨positive, empty⟩, plan_eq⟩ |
      ⟨⟨positive, nonempty, small⟩, plan_eq⟩
  · rw [plan_eq]
    exact ⟨⟨iff_of_true ⟨_, rfl, rfl⟩ refused, iff_of_false (by simp [LinkError.kind]) (by omega)⟩,
      iff_of_false (by simp) (by omega)⟩
  · rw [plan_eq]
    exact ⟨⟨iff_of_false (by simp [LinkError.kind]) (by omega),
      iff_of_true ⟨_, rfl, rfl⟩ ⟨positive, empty⟩⟩, iff_of_false (by simp) (by omega)⟩
  · rw [plan_eq]
    exact ⟨⟨iff_of_false (by simp) (by omega), iff_of_false (by simp) (by omega)⟩,
      iff_of_true ⟨_, rfl, fun others => partitions_iff positive nonempty⟩
        ⟨positive, nonempty, small⟩⟩

end RegisterBridge.Burst
