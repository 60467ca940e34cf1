import RegisterBridge.Proofs.Burst.Layout
import RegisterBridge.Proofs.Dialogue.Offers
import RegisterBridge.Stream.Scripted

/-!
# How far a burst gets

A burst exchanges the commands of its chunks in order, up to the first exchange
that does not go well.  Bursts in the two directions differ in their commands and
in which answers they take; what they have in common is followed here as one
loop.  The main statement is that a burst offers the commands of a front part of
its plan, and that the last exchange of that part decides how the burst ends.
-/

namespace RegisterBridge

namespace Burst

/-- What a burst does with the chunks of its plan: the command it exchanges for a
chunk, and what it makes of how the exchange ends. -/
structure Course where
  command : Chunk → Command
  verdict : Chunk → Outcome LinkError Answer → Outcome LinkError Unit

namespace Course

/-- A write burst sends each chunk of the data to the address of the burst, under the tag
of its place, and takes every answer. -/
def write (address : UInt8) (data : Array UInt8) : Course where
  command chunk :=
    ⟨.burst .write chunk.kind, address, (data.toList.drop chunk.offset).take chunk.length⟩
  verdict _ exchanged := exchanged.map fun _ => ()

/-- A read burst sends the length of each chunk, high byte first, to the address of the
burst, and takes an answer that is at least as long. -/
def read (address : UInt8) : Course where
  command chunk :=
    ⟨.burst .read chunk.kind, address,
      [(chunk.length / 256).toUInt8, (chunk.length % 256).toUInt8]⟩
  verdict
    | chunk, .ok answer =>
        if answer.payload.length < chunk.length then
          .error (.shortAnswer (.burst .read chunk.kind) chunk.length answer.payload.length)
        else .ok ()
    | _, .error error => .error error
    | _, .died => .died

theorem write_command (address : UInt8) (data : Array UInt8) :
    (write address data).command = LinkState.writeCommand address data :=
  funext fun chunk => (LinkState.writeCommand_eq address data chunk).symm

theorem read_command (address : UInt8) : (read address).command = LinkState.readCommand address :=
  rfl

theorem read_verdict_ok (address : UInt8) (chunk : Chunk) (answer : Answer) :
    (read address).verdict chunk (.ok answer) =
      if answer.payload.length < chunk.length then
        .error (.shortAnswer (.burst .read chunk.kind) chunk.length answer.payload.length)
      else .ok () :=
  rfl

variable {σ : Type} [ByteStream σ] {course : Course} {chunk : Chunk} {chunks rest : List Chunk}
  {state before : LinkState σ}

/-- Follow a course over chunk after chunk. -/
def follow (course : Course) : List Chunk → LinkState σ → Outcome LinkError Unit × LinkState σ
  | [], state => (.ok (), state)
  | chunk :: rest, state =>
    match state.execute (course.command chunk) with
    | (exchanged, next) =>
      match course.verdict chunk exchanged with
      | .ok () => course.follow rest next
      | .error error => (.error error, next)
      | .died => (.died, next)

/-- After an exchange that goes well the course is followed further. -/
theorem follow_of_ok
    (well : course.verdict chunk (state.execute (course.command chunk)).1 = .ok ()) :
    course.follow (chunk :: rest) state =
      course.follow rest (state.execute (course.command chunk)).2 := by
  rw [follow]
  dsimp only
  rw [well]

/-- Any other exchange is the last one. -/
theorem follow_of_ne_ok
    (ends : course.verdict chunk (state.execute (course.command chunk)).1 ≠ .ok ()) :
    course.follow (chunk :: rest) state =
      (course.verdict chunk (state.execute (course.command chunk)).1,
        (state.execute (course.command chunk)).2) := by
  rw [follow]
  dsimp only
  split
  · contradiction
  · rename_i verdict_eq
    rw [verdict_eq]
  · rename_i verdict_eq
    rw [verdict_eq]

/-- The chunks are exchanged one after the other.  Every exchange goes well, and
it offers the command of its chunk and nothing else. -/
inductive Exchanges (course : Course) : LinkState σ → List Chunk → LinkState σ → Prop
  | nil (state : LinkState σ) : course.Exchanges state [] state
  | cons {state ending : LinkState σ} {chunk : Chunk} {rest : List Chunk}
      (well : course.verdict chunk (state.execute (course.command chunk)).1 = .ok ())
      (offered : (state.execute (course.command chunk)).2.wire.offers =
        state.wire.offers ++ [(course.command chunk).encode])
      (later : course.Exchanges (state.execute (course.command chunk)).2 rest ending) :
      course.Exchanges state (chunk :: rest) ending

/-- A burst ends at a chunk of its plan.  The chunks `sent` before it are
exchanged well, which leads to the state `before`; the exchange of the chunk
itself gives the result of the burst and is the last thing that happens. -/
structure EndsAt (course : Course) (chunks : List Chunk) (state : LinkState σ)
    (sent : List Chunk) (last : Chunk) (before : LinkState σ)
    (ended : Outcome LinkError Unit × LinkState σ) : Prop where
  front : sent ++ [last] <+: chunks
  exchanges : course.Exchanges state sent before
  outcome : ended.1 = course.verdict last (before.execute (course.command last)).1
  ending : ended.2 = (before.execute (course.command last)).2
  offers : ended.2.wire.offers =
    state.wire.offers ++ (sent ++ [last]).map fun chunk => (course.command chunk).encode
  complete : ended.1 = .ok () ↔
    sent ++ [last] = chunks ∧
      course.verdict last (before.execute (course.command last)).1 = .ok ()

/-- A burst ends at its first chunk if there is no other or the exchange does not
go well. -/
theorem endsAt_first
    (offered : (state.execute (course.command chunk)).2.wire.offers =
      state.wire.offers ++ [(course.command chunk).encode])
    (only : course.verdict chunk (state.execute (course.command chunk)).1 = .ok () → rest = []) :
    course.EndsAt (chunk :: rest) state [] chunk state
      (course.verdict chunk (state.execute (course.command chunk)).1,
        (state.execute (course.command chunk)).2) where
  front := ⟨rest, rfl⟩
  exchanges := .nil state
  outcome := rfl
  ending := rfl
  offers := offered
  complete := ⟨fun well => ⟨by rw [only well]; rfl, well⟩, And.right⟩

/-- A burst whose first chunk is exchanged well ends where the rest of it ends. -/
theorem EndsAt.cons {sent : List Chunk} {last : Chunk}
    {ended : Outcome LinkError Unit × LinkState σ}
    (offered : (state.execute (course.command chunk)).2.wire.offers =
      state.wire.offers ++ [(course.command chunk).encode])
    (well : course.verdict chunk (state.execute (course.command chunk)).1 = .ok ())
    (later : course.EndsAt rest (state.execute (course.command chunk)).2 sent last before ended) :
    course.EndsAt (chunk :: rest) state (chunk :: sent) last before ended where
  front := (List.prefix_cons_inj chunk).mpr later.front
  exchanges := .cons well offered later.exchanges
  outcome := later.outcome
  ending := later.ending
  offers := by
    rw [later.offers, offered]
    simp
  complete := by
    rw [later.complete]
    simp

/-- Commands within the limit are offered in order, up to the exchange at which
the burst ends. -/
theorem exists_endsAt_follow (course : Course) (state : LinkState σ) (chunk : Chunk)
    (rest : List Chunk)
    (fits : ∀ other ∈ chunk :: rest, (course.command other).payload.length ≤ maxCommandPayload) :
    ∃ sent last before, course.EndsAt (chunk :: rest) state sent last before
      (course.follow (chunk :: rest) state) := by
  induction rest generalizing state chunk with
  | nil =>
      have offered := state.offers_execute (fits chunk List.mem_cons_self)
      refine ⟨[], chunk, state, ?_⟩
      by_cases well : course.verdict chunk (state.execute (course.command chunk)).1 = .ok ()
      · rw [follow_of_ok well, follow, ← well]
        exact endsAt_first offered fun _ => rfl
      · rw [follow_of_ne_ok well]
        exact endsAt_first offered fun _ => rfl
  | cons next rest ih =>
      have offered := state.offers_execute (fits chunk List.mem_cons_self)
      by_cases well : course.verdict chunk (state.execute (course.command chunk)).1 = .ok ()
      · obtain ⟨sent, last, before, later⟩ := ih (state.execute (course.command chunk)).2 next
          fun other member => fits other (List.mem_cons_of_mem chunk member)
        rw [follow_of_ok well]
        exact ⟨chunk :: sent, last, before, later.cons offered well⟩
      -- Chunks are left, but the exchange did not go well: no later one is offered.
      · rw [follow_of_ne_ok well]
        exact ⟨[], chunk, state, endsAt_first offered (absurd · well)⟩

end Course

end Burst

namespace LinkState

open Burst (Course)

variable {σ : Type} [ByteStream σ]

/-! ## Bursts in both directions -/

/-- Sending chunks follows the course of a write burst. -/
theorem sendChunks_eq_follow (address : UInt8) (data : Array UInt8)
    (chunks : List Burst.Chunk) (state : LinkState σ) :
    sendChunks address data chunks state = (Course.write address data).follow chunks state := by
  induction chunks generalizing state with
  | nil => rfl
  | cons chunk rest ih =>
      rw [sendChunks, Course.follow, Course.write_command]
      rcases state.execute (writeCommand address data chunk) with ⟨answer | error | _, next⟩
      · exact ih next
      · rfl
      · rfl

/-- Gathering chunks follows the course of a read burst, whatever becomes of the
destination. -/
theorem gatherChunks_eq_follow (address : UInt8) (chunks : List Burst.Chunk)
    (destination : Array UInt8) (state : LinkState σ) :
    ((gatherChunks address chunks destination state).outcome,
        (gatherChunks address chunks destination state).state) =
      (Course.read address).follow chunks state := by
  induction chunks generalizing destination state with
  | nil => rfl
  | cons chunk rest ih =>
      rw [gatherChunks, Course.follow, Course.read_command]
      rcases state.execute (readCommand address chunk) with ⟨answer | error | _, next⟩
      · dsimp only
        rw [Course.read_verdict_ok]
        by_cases short : answer.payload.length < chunk.length
        · rw [if_pos short, if_pos short]
        · rw [if_neg short, if_neg short]
          exact ih _ next
      · rfl
      · rfl

/-- The slices of the chunks from an offset on are the data from there on. -/
theorem flatMap_slice_of_covers {data : Array UInt8} {threshold offset : Nat}
    {chunks : List Burst.Chunk} (covers : Burst.Covers data.size threshold offset chunks) :
    chunks.flatMap (fun chunk => (data.toList.drop chunk.offset).take chunk.length) =
      data.toList.drop offset := by
  induction covers with
  | @last offset left fits =>
      have whole : (data.toList.drop offset).length ≤ data.size - offset := by simp
      rw [List.flatMap_singleton, List.take_of_length_le whole]
  | @more offset rest left covers ih =>
      rw [List.flatMap_cons, ih, ← List.drop_drop, List.take_append_drop]

/-- A burst sends a front part of its plan.  Whatever the stream does, there is a
chunk of the plan such that the commands offered are those of the chunks up to it,
each after the exchange of the one before has gone well, and the exchange of that
chunk decides: the burst succeeds exactly if the chunk is the last of the plan and
is exchanged well, and otherwise ends right there as the exchange did.

A frame of a write burst carries the slice of the data that its chunk names, so all
data of one that succeeds has been offered; a frame of a read burst carries the length
of its chunk in two bytes, high byte first, in full. -/
theorem bursts_send_front (state : LinkState σ) (address : UInt8) {threshold : Nat}
    (positive : 0 < threshold) :
    (∀ data : Array UInt8, 0 < data.size → data.size ≤ Burst.maxSize →
      threshold ≤ maxCommandPayload →
      ∃ chunks sent last before, Burst.plan data.size threshold = .ok chunks ∧
        (Course.write address data).EndsAt chunks state sent last before
          (state.writeBurst address data threshold) ∧
        (state.writeBurst address data threshold).2.wire.offers = state.wire.offers ++
          (sent ++ [last]).map (fun chunk => Command.encode
            ⟨.burst .write chunk.kind, address,
              (data.toList.drop chunk.offset).take chunk.length⟩) ∧
        ((state.writeBurst address data threshold).1 = .ok () →
          (sent ++ [last]).flatMap
            (fun chunk => (data.toList.drop chunk.offset).take chunk.length) = data.toList)) ∧
    ∀ destination : Array UInt8, 0 < destination.size → destination.size ≤ Burst.maxSize →
      ∃ chunks sent last before, Burst.plan destination.size threshold = .ok chunks ∧
        (Course.read address).EndsAt chunks state sent last before
          ((state.readBurst address destination threshold).outcome,
            (state.readBurst address destination threshold).state) ∧
        (state.readBurst address destination threshold).state.wire.offers = state.wire.offers ++
          (sent ++ [last]).map (fun chunk => Command.encode
            ⟨.burst .read chunk.kind, address,
              [(chunk.length / 256).toUInt8, (chunk.length % 256).toUInt8]⟩) ∧
        ∀ chunk ∈ chunks,
          256 * (chunk.length / 256).toUInt8.toNat + (chunk.length % 256).toUInt8.toNat =
            chunk.length := by
  constructor
  · intro data nonempty small fits
    obtain ⟨chunks, planned, covers⟩ := Burst.exists_plan positive nonempty small
    have payload_fits := fits_writeCommand covers fits address
    rw [← Course.write_command] at payload_fits
    obtain ⟨first, rest, rfl⟩ := covers.exists_cons
    obtain ⟨sent, last, before, ends⟩ :=
      (Course.write address data).exists_endsAt_follow state first rest payload_fits
    rw [writeBurst, planned]
    dsimp only
    rw [sendChunks_eq_follow]
    refine ⟨_, sent, last, before, rfl, ends, ends.offers, fun succeeded => ?_⟩
    rw [(ends.complete.mp succeeded).1]
    exact flatMap_slice_of_covers covers
  · intro destination nonempty small
    obtain ⟨chunks, planned, covers⟩ := Burst.exists_plan positive nonempty small
    have named : ∀ chunk ∈ chunks,
        256 * (chunk.length / 256).toUInt8.toNat + (chunk.length % 256).toUInt8.toNat =
          chunk.length := by
      intro chunk member
      have short : chunk.length ≤ maxFrameLength :=
        Nat.le_trans (Nat.le_trans (Nat.le_add_left ..) (covers.ends_within member)) small
      exact toNat_bigEndian16 short
    obtain ⟨first, rest, rfl⟩ := covers.exists_cons
    obtain ⟨sent, last, before, ends⟩ :=
      (Course.read address).exists_endsAt_follow state first rest fun chunk _ =>
        fits_readCommand address chunk
    rw [← gatherChunks_eq_follow address (first :: rest) destination state] at ends
    rw [readBurst, planned]
    exact ⟨_, sent, last, before, rfl, ends, ends.offers, named⟩

/-- A state whose stream answers one command without a payload and then gives half
a header. -/
def torn : LinkState Scripted :=
  { wire := { stream := { reads := [.chunk [120, 0, 0, 8], .chunk [121, 0]] } } }

/-- A write burst of three chunks ends at its second one, and a read burst of two
chunks at the first, whose answer is too short. -/
theorem bursts_send_front_torn :
    (∃ sent last before,
      (Course.write 8 #[1, 2, 3, 4, 5]).EndsAt
        [⟨.first, 0, 2⟩, ⟨.middle, 2, 2⟩, ⟨.final, 4, 1⟩] torn sent last before
        (torn.writeBurst 8 #[1, 2, 3, 4, 5] 2)) ∧
    (torn.writeBurst 8 #[1, 2, 3, 4, 5] 2).1 = .error (.frame (.tornHeader 2)) ∧
    (torn.writeBurst 8 #[1, 2, 3, 4, 5] 2).2.wire.offers =
      [[120, 0, 2, 8, 1, 2], [121, 0, 2, 8, 3, 4]] ∧
    (∃ sent last before,
      (Course.read 8).EndsAt [⟨.first, 0, 2⟩, ⟨.final, 2, 1⟩] torn sent last before
        ((torn.readBurst 8 #[9, 9, 9] 2).outcome, (torn.readBurst 8 #[9, 9, 9] 2).state)) ∧
    (torn.readBurst 8 #[9, 9, 9] 2).outcome = .error (.shortAnswer .readBurstFirst 2 0) := by
  have positive : 0 < 2 := by decide
  refine ⟨?_, by decide +kernel, by decide +kernel, ?_, by decide +kernel⟩
  · obtain ⟨chunks, sent, last, before, planned, ends, _⟩ :=
      (bursts_send_front torn 8 positive).1 #[1, 2, 3, 4, 5] (by decide) (by decide) (by decide)
    cases planned
    exact ⟨sent, last, before, ends⟩
  · obtain ⟨chunks, sent, last, before, planned, ends, _⟩ :=
      (bursts_send_front torn 8 positive).2 #[9, 9, 9] (by decide) (by decide)
    cases planned
    exact ⟨sent, last, before, ends⟩

end LinkState

end RegisterBridge
