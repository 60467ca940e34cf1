import RegisterBridge.Proofs.Burst.Layout
import RegisterBridge.Proofs.Dialogue.Operation
import RegisterBridge.Stream.Scripted

/-!
# What a read burst gathers

A read burst puts the answers over its destination one after the other.  Its
exchanges do not depend on the destination, so here they are run without one and
the bytes are put together; the destination is overwritten once, at the end.
Chunks leave no gap, so a read burst that succeeds has replaced every byte.

The main statement is that the two reads of a link, into a new destination and
into one of the caller, cannot be told apart, whatever the caller's destination
holds.
-/

namespace RegisterBridge

/-- The end of a read burst without a destination: its outcome and the bytes it
gathered. -/
structure Harvest (σ : Type) where
  outcome : Outcome LinkError Unit
  bytes : List UInt8
  state : LinkState σ

namespace Harvest

variable {σ : Type}

/-- The bytes put over a destination from an offset on. -/
def into (harvest : Harvest σ) (destination : Array UInt8) (offset : Nat) : Gathering σ :=
  ⟨harvest.outcome, overwrite destination offset harvest.bytes, harvest.state⟩

/-- The same end with bytes gathered before. -/
def preceded (harvest : Harvest σ) (earlier : List UInt8) : Harvest σ :=
  { harvest with bytes := earlier ++ harvest.bytes }

theorem into_preceded (harvest : Harvest σ) (earlier : List UInt8) (destination : Array UInt8)
    (offset : Nat) :
    (harvest.preceded earlier).into destination offset =
      harvest.into (overwrite destination offset earlier) (offset + earlier.length) := by
  rw [into, preceded, overwrite_append]
  rfl

end Harvest

/-- What a caller gets of a read burst: the destination, if it succeeds. -/
def Gathering.filled {σ : Type} (gathering : Gathering σ) :
    Outcome LinkError (Array UInt8) × LinkState σ :=
  (gathering.outcome.map fun _ => gathering.destination, gathering.state)

namespace LinkState

variable {σ : Type} [ByteStream σ] {size threshold offset : Nat} {chunk : Burst.Chunk}
  {chunks rest : List Burst.Chunk} {state next : LinkState σ} {answer : Answer}

/-- Request chunk after chunk and put the answers together. -/
def collect (address : UInt8) : List Burst.Chunk → LinkState σ → Harvest σ
  | [], state => ⟨.ok (), [], state⟩
  | chunk :: rest, state =>
    match state.execute (readCommand address chunk) with
    | (.ok answer, state) =>
        if answer.payload.length < chunk.length then
          ⟨.error (.shortAnswer (.burst .read chunk.kind) chunk.length answer.payload.length),
            [], state⟩
        else (collect address rest state).preceded (answer.payload.take chunk.length)
    | (.error error, state) => ⟨.error error, [], state⟩
    | (.died, state) => ⟨.died, [], state⟩

/-- An answer that is long enough gives the bytes of its chunk. -/
theorem collect_of_ok {address : UInt8}
    (executed : state.execute (readCommand address chunk) = (.ok answer, next))
    (long : chunk.length ≤ answer.payload.length) :
    collect address (chunk :: rest) state =
      (collect address rest next).preceded (answer.payload.take chunk.length) := by
  rw [collect, executed]
  exact if_neg (Nat.not_lt.mpr long)

/-- An answer that is too short ends the burst and gives nothing. -/
theorem collect_of_short {address : UInt8}
    (executed : state.execute (readCommand address chunk) = (.ok answer, next))
    (short : answer.payload.length < chunk.length) :
    collect address (chunk :: rest) state =
      ⟨.error (.shortAnswer (.burst .read chunk.kind) chunk.length answer.payload.length),
        [], next⟩ := by
  rw [collect, executed]
  exact if_pos short

/-- One chunk is gathered where it starts, and the chunks after it where it ends. -/
theorem gatherChunks_cons_eq_collect {address : UInt8} {destination : Array UInt8}
    (following : ∀ destination (state : LinkState σ),
      gatherChunks address rest destination state =
        (collect address rest state).into destination (chunk.offset + chunk.length)) :
    gatherChunks address (chunk :: rest) destination state =
      (collect address (chunk :: rest) state).into destination chunk.offset := by
  rw [gatherChunks, collect]
  rcases state.execute (readCommand address chunk) with ⟨answer | error | _, next⟩
  · by_cases short : answer.payload.length < chunk.length
    · simp only [if_pos short]
      rfl
    · have whole : (answer.payload.take chunk.length).length = chunk.length :=
        List.length_take_of_le (Nat.le_of_not_lt short)
      simp only [if_neg short]
      rw [following, Harvest.into_preceded, whole]
  · rfl
  · rfl

/-- Chunks without a gap are gathered into one piece of the destination. -/
theorem gatherChunks_eq_collect (covers : Burst.Covers size threshold offset chunks)
    (address : UInt8) (destination : Array UInt8) (state : LinkState σ) :
    gatherChunks address chunks destination state =
      (collect address chunks state).into destination offset := by
  induction covers generalizing destination state with
  | last left fits => exact gatherChunks_cons_eq_collect fun _ _ => rfl
  | more left covers ih => exact gatherChunks_cons_eq_collect ih

/-- If all goes well, the first answer is long enough, and all goes well behind it. -/
theorem exists_of_collect_cons_ok {address : UInt8}
    (well : (collect address (chunk :: rest) state).outcome = .ok ()) :
    ∃ answer next, state.execute (readCommand address chunk) = (.ok answer, next) ∧
      chunk.length ≤ answer.payload.length ∧ (collect address rest next).outcome = .ok () := by
  rcases executed : state.execute (readCommand address chunk) with ⟨answer | error | _, next⟩
  · by_cases short : answer.payload.length < chunk.length
    · rw [collect_of_short executed short] at well
      contradiction
    · have long := Nat.le_of_not_lt short
      rw [collect_of_ok executed long] at well
      exact ⟨answer, next, rfl, long, well⟩
  · rw [collect, executed] at well
    contradiction
  · rw [collect, executed] at well
    contradiction

/-- A read burst that succeeds has gathered a byte for every place it covers. -/
theorem length_collect (covers : Burst.Covers size threshold offset chunks) {address : UInt8}
    {state : LinkState σ} (well : (collect address chunks state).outcome = .ok ()) :
    (collect address chunks state).bytes.length = size - offset := by
  induction covers generalizing state with
  | last left fits =>
      obtain ⟨answer, next, executed, long, -⟩ := exists_of_collect_cons_ok well
      rw [collect_of_ok executed long, Harvest.preceded, List.length_append,
        List.length_take_of_le long]
      rfl
  | @more offset rest left covers ih =>
      obtain ⟨answer, next, executed, long, well⟩ := exists_of_collect_cons_ok well
      rw [collect_of_ok executed long, Harvest.preceded, List.length_append,
        List.length_take_of_le long, ih well]
      dsimp only
      omega

/-- What a read burst gives does not depend on what its destination held. -/
theorem filled_readBurst_congr (state : LinkState σ) (address : UInt8)
    {first second : Array UInt8} (same : first.size = second.size) (threshold : Nat) :
    (state.readBurst address first threshold).filled =
      (state.readBurst address second threshold).filled := by
  rw [readBurst, readBurst, same]
  cases planned : Burst.plan second.size threshold with
  | error error => rfl
  | ok chunks =>
      have covers := Burst.covers_of_plan planned
      simp only [gatherChunks_eq_collect covers, Gathering.filled, Harvest.into]
      rcases ended : collect address chunks state with ⟨_ | error | _, bytes, ending⟩
      · have whole : bytes.length = second.size := by
          simpa [ended] using length_collect covers (congrArg Harvest.outcome ended)
        rw [overwrite_whole (whole.trans same.symm), overwrite_whole whole]
      · rfl
      · rfl

end LinkState

theorem Burst.plan_of_long {size threshold : Nat} (positive : 0 < threshold)
    (long : maxSize < size) :
    plan size threshold = .error (.invalidArgument (.burstTooLong size maxSize)) := by
  rw [plan, if_neg (Nat.ne_of_gt positive), if_pos long]

namespace Link

variable {σ : Type} {α : Type}

/-- Two operations have the same outcome, and so far the same calls were made on the
same stream. -/
structure Agree (first second : Outcome LinkError α × Link σ) : Prop where
  outcome : first.1 = second.1
  transcript : first.2.wire.transcript = second.2.wire.transcript
  stream : first.2.wire.stream = second.2.wire.stream
  poisoned : first.2.poisoned = second.2.poisoned

theorem Agree.of_eq {first second : Outcome LinkError α × Link σ} (same : first = second) :
    Agree first second := by
  subst same
  exact ⟨rfl, rfl, rfl, rfl⟩

variable [ByteStream σ]

theorem readBurstInto_eq (link : Link σ) (address : UInt8) (destination : Array UInt8) :
    link.readBurstInto address destination =
      link.locked fun state =>
        (state.readBurst address destination link.config.atomicRx).filled :=
  rfl

/-- A destination takes no part in a read burst but by its size. -/
theorem readBurstInto_congr (link : Link σ) (address : UInt8) {first second : Array UInt8}
    (same : first.size = second.size) :
    link.readBurstInto address first = link.readBurstInto address second := by
  rw [readBurstInto_eq, readBurstInto_eq]
  congr 1
  funext state
  exact state.filled_readBurst_congr address same _

/-- A destination that is too large for a burst is refused without a call, but only
after the lock is taken. -/
theorem agree_of_long (link : Link σ) (address : UInt8) {destination : Array UInt8}
    (long : Burst.maxSize < destination.size) :
    Agree (link.readBurst address destination.size)
      (link.readBurstInto address destination) := by
  have ran := link.ran_readBurstInto address destination
  have refused : Dialogue.readRange address destination link.config.atomicRx =
      .done (.error (.invalidArgument (.burstTooLong destination.size Burst.maxSize))) := by
    rw [Dialogue.readRange, Dialogue.readBurst, Burst.plan_of_long link.valid.rx_pos long]
    rfl
  rw [refused] at ran
  rw [readBurst, if_pos long]
  constructor
  · exact ran.outcome.symm
  · rw [ran.wire, Dialogue.run_done, transcript_lock]
  · rw [ran.wire, Dialogue.run_done, stream_lock]
  · rw [ran.poisoned, ran.outcome]
    exact (Bool.or_false _).symm

/-- A read burst into a destination gives as many bytes as the destination has. -/
theorem size_of_readBurstInto {link : Link σ} {address : UInt8} {destination data : Array UInt8}
    (filled : (link.readBurstInto address destination).1 = .ok data) :
    data.size = destination.size := by
  rw [readBurstInto_eq, locked] at filled
  obtain ⟨_, _, rfl⟩ := Outcome.map_eq_ok_iff.mp filled
  rw [LinkState.readBurst]
  cases planned : Burst.plan destination.size link.config.atomicRx with
  | error error => rfl
  | ok chunks =>
      simp only [LinkState.gatherChunks_eq_collect (Burst.covers_of_plan planned), Harvest.into,
        size_overwrite]

/-- **The two reads of a link agree, and the destination takes no part in them.**
Reading registers into a new destination and into one of the caller makes the same
calls, leaves the same stream and has the same outcome, for every size; a size that a
burst can have even leaves the same link.  Whatever the destination of the caller
holds, the outcome and the link are the same, so a read that succeeds leaves nothing of
it. -/
theorem readBurst_agrees (link : Link σ) (address : UInt8) (destination : Array UInt8) :
    Agree (link.readBurst address destination.size) (link.readBurstInto address destination) ∧
      (destination.size ≤ 65535 →
        link.readBurst address destination.size = link.readBurstInto address destination) ∧
      (∀ other : Array UInt8, other.size = destination.size →
        link.readBurstInto address other = link.readBurstInto address destination) ∧
      ∀ data, (link.readBurstInto address destination).1 = .ok data →
        data.size = destination.size := by
  have same : destination.size ≤ 65535 →
      link.readBurst address destination.size = link.readBurstInto address destination := by
    intro small
    have short : ¬Burst.maxSize < destination.size := Nat.not_lt.mpr small
    rw [readBurst, if_neg short]
    exact link.readBurstInto_congr address Array.size_replicate
  refine ⟨?_, same, fun other => link.readBurstInto_congr address,
    fun data => size_of_readBurstInto⟩
  by_cases long : Burst.maxSize < destination.size
  · exact link.agree_of_long address long
  · exact .of_eq (same (Nat.le_of_not_lt long))

/-- A link that reads two registers at a time.  Its stream answers with more than was
asked for, and is interrupted in between. -/
def generous : Link Scripted where
  config := { atomicRx := 2 }
  valid := by decide
  state :=
    { wire :=
        { stream :=
            { reads := [.chunk [115, 0, 3, 8, 1, 2, 99], .fail (.ofKind .interrupted),
                .chunk [117, 0, 1, 8, 3]] } } }
  poisoned := false

/-- Three registers are read in two chunks, whatever the destination holds. -/
theorem readBurst_agrees_generous :
    Agree (generous.readBurst 8 3) (generous.readBurstInto 8 #[7, 7, 7]) ∧
      generous.readBurst 8 3 = generous.readBurstInto 8 #[7, 7, 7] ∧
      generous.readBurstInto 8 #[0xff, 0, 1] = generous.readBurstInto 8 #[7, 7, 7] ∧
      (generous.readBurst 8 3).1 = .ok #[1, 2, 3] := by
  obtain ⟨agree, same, any, -⟩ := readBurst_agrees generous 8 #[7, 7, 7]
  exact ⟨agree, same (by decide), any #[0xff, 0, 1] rfl, by decide +kernel⟩

end Link

end RegisterBridge
