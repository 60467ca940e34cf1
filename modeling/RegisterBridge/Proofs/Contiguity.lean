import Mathlib.Data.List.Chain
import RegisterBridge.Proofs.Burst.Layout
import RegisterBridge.Proofs.Dialogue.Offers

/-!
# Bursts stay in one piece

The traffic of a run is the sequence of commands offered to the stream, each
with the operation that offers it.  The main statement is that a chunk that goes
on with a burst always follows a chunk of the same burst, whatever fails and
whoever dies, so no burst is taken up again once it is cut short.
-/

namespace RegisterBridge

/-! ## Commands of a burst -/

theorem Tag.burst_injective {first second : Direction} {place other : ChunkKind}
    (equal : Tag.burst first place = Tag.burst second other) :
    first = second ∧ place = other := by
  cases first <;> cases second <;> cases place <;> cases other <;>
    simp_all [Tag.burst]

namespace Command

/-- The command goes on with a burst. -/
def Continues (command : Command) (direction : Direction) : Prop :=
  command.tag = .burst direction .middle ∨ command.tag = .burst direction .final

/-- The command leaves its burst to be gone on with. -/
def LeavesOpen (command : Command) (direction : Direction) : Prop :=
  command.tag = .burst direction .first ∨ command.tag = .burst direction .middle

/-- The command may be the first that an operation offers. -/
def Starts (command : Command) : Prop :=
  command.tag = .readRegister ∨ command.tag = .writeRegister ∨
    command.tag = .firmwareVersion ∨
    ∃ direction, command.tag = .burst direction .first ∨ command.tag = .burst direction .atomic

/-- If the second command goes on with a burst, the first one is of that burst. -/
def Precedes (first second : Command) : Prop :=
  ∀ direction, second.Continues direction →
    first.LeavesOpen direction ∧ first.address = second.address

theorem Starts.not_continues {command : Command} (starts : command.Starts)
    (direction : Direction) : ¬command.Continues direction := by
  rw [Continues]
  rcases starts with tag | tag | tag | ⟨other, tag | tag⟩
  all_goals rw [tag]
  · cases direction <;> decide
  · cases direction <;> decide
  · cases direction <;> decide
  · cases other <;> cases direction <;> decide
  · cases other <;> cases direction <;> decide

end Command

/-- The commands are a whole burst: an atomic one, or a first one, middle ones
and a final one. -/
inductive WholeBurst (direction : Direction) (address : UInt8) : List Command → Prop
  | atomic {command : Command} (tag : command.tag = .burst direction .atomic)
      (same : command.address = address) : WholeBurst direction address [command]
  | chunked {first final : Command} {middles : List Command}
      (opens : first.tag = .burst direction .first)
      (goesOn : ∀ command ∈ middles, command.tag = .burst direction .middle)
      (ends : final.tag = .burst direction .final)
      (same : ∀ command ∈ first :: (middles ++ [final]), command.address = address) :
      WholeBurst direction address (first :: (middles ++ [final]))

/-- The commands start as an operation may and keep their bursts together. -/
structure InOrder (commands : List Command) : Prop where
  starts : ∀ command ∈ commands.head?, command.Starts
  adjacent : commands.IsChain Command.Precedes

section Bursts

variable {size threshold : Nat} {direction : Direction} {address : UInt8}
  {command : Burst.Chunk → Command} {chunks : List Burst.Chunk}

/-- Chunks that lie one after the other give commands in order. -/
theorem Burst.Covers.isChain {offset : Nat} (covers : Covers size threshold offset chunks)
    (tag : ∀ chunk, (command chunk).tag = .burst direction chunk.kind)
    (same : ∀ chunk, (command chunk).address = address) :
    (chunks.map command).IsChain Command.Precedes := by
  induction covers with
  | last left fits => exact List.isChain_singleton _
  | @more offset rest left covers ih =>
      cases rest with
      | nil => exact List.isChain_singleton _
      | cons next rest =>
          apply List.IsChain.cons_cons ?_ ih
          intro other continues
          have direction_eq : direction = other := by
            rcases continues with middle | final
            · exact (Tag.burst_injective ((tag next).symm.trans middle)).1
            · exact (Tag.burst_injective ((tag next).symm.trans final)).1
          subst other
          constructor
          · rw [Command.LeavesOpen, tag]
            by_cases start : offset = 0
            · exact .inl (by simp [placeOf, start])
            · exact .inr (by simp [placeOf, start])
          · exact (same _).trans (same next).symm

/-- The first commands of a burst are in order. -/
theorem Burst.Covers.inOrder (covers : Covers size threshold 0 chunks)
    (tag : ∀ chunk, (command chunk).tag = .burst direction chunk.kind)
    (same : ∀ chunk, (command chunk).address = address) {sent unsent : List Burst.Chunk}
    (split_eq : chunks = sent ++ unsent) : InOrder (sent.map command) where
  starts first first_mem := by
    rcases sent with _ | ⟨chunk, sent⟩
    · contradiction
    · cases first_mem
      refine .inr (.inr (.inr ⟨direction, ?_⟩))
      rw [tag]
      cases covers with
      | last left fits =>
          obtain ⟨rfl, _⟩ := List.cons.inj split_eq
          exact .inr rfl
      | more left covers =>
          obtain ⟨rfl, _⟩ := List.cons.inj split_eq
          exact .inl rfl
  adjacent := by
    have chain := covers.isChain tag same
    rw [split_eq, List.map_append] at chain
    exact chain.left_of_append

/-- The commands of all chunks are a whole burst. -/
theorem Burst.Covers.wholeBurst (covers : Covers size threshold 0 chunks)
    (tag : ∀ chunk, (command chunk).tag = .burst direction chunk.kind)
    (same : ∀ chunk, (command chunk).address = address) :
    WholeBurst direction address (chunks.map command) := by
  cases covers with
  | last left fits => exact .atomic (tag _) (same _)
  | more left covers =>
      have started : 0 + threshold ≠ 0 := by
        have positive := covers.threshold_pos
        omega
      obtain ⟨middles, final, rfl, middle, last⟩ := covers.middles_final started
      rw [List.map_cons, List.map_append, List.map_singleton]
      refine .chunked (tag _) ?_ ((tag final).trans (by rw [last])) ?_
      · intro other other_mem
        obtain ⟨chunk, chunk_mem, rfl⟩ := List.mem_map.mp other_mem
        rw [tag, middle chunk chunk_mem]
      · intro other other_mem
        simp only [List.mem_cons, List.mem_append, List.mem_map] at other_mem
        rcases other_mem with rfl | ⟨chunk, _, rfl⟩ | rfl | _
        · exact same _
        · exact same _
        · exact same _
        · contradiction

end Bursts

/-! ## Operations -/

/-- The direction and the address of an operation that is a burst. -/
def LinkOperation.burst? : LinkOperation → Option (Direction × UInt8)
  | .readBurst address _ => some (.read, address)
  | .readBurstInto address _ => some (.read, address)
  | .writeBurst address _ => some (.write, address)
  | _ => none

/-- An operation of a run: how it ended and the commands it offered. -/
structure Turn where
  operation : LinkOperation
  outcome : Outcome LinkError Reading
  commands : List Command

/-- A burst that succeeded offered a whole burst. -/
def Turn.Complete (turn : Turn) : Prop :=
  ∀ direction address reading, turn.operation.burst? = some (direction, address) →
    turn.outcome = .ok reading → WholeBurst direction address turn.commands

/-- An operation that is no burst is complete whatever it does. -/
theorem Turn.complete_of_no_burst {turn : Turn} (no_burst : turn.operation.burst? = none) :
    turn.Complete := by
  intro direction address reading is_burst
  rw [no_burst] at is_burst
  contradiction

/-- A burst is complete if it is whole whenever it succeeds, in whatever words. -/
theorem Turn.complete_map {α : Type} {operation : LinkOperation} {direction : Direction}
    {address : UInt8} {outcome : Outcome LinkError α} {reading : α → Reading}
    {commands : List Command} (burst : operation.burst? = some (direction, address))
    (whole : ∀ value, outcome = .ok value → WholeBurst direction address commands) :
    Turn.Complete ⟨operation, outcome.map reading, commands⟩ := by
  intro other other_address result is_burst succeeded
  rw [burst] at is_burst
  cases is_burst
  obtain ⟨value, value_eq, _⟩ := Outcome.map_eq_ok_iff.mp succeeded
  exact whole value value_eq

theorem inOrder_nil : InOrder [] :=
  ⟨by simp, .nil⟩

theorem inOrder_singleton {command : Command} (starts : command.Starts) : InOrder [command] :=
  ⟨fun _ member => Option.some.inj member ▸ starts, .singleton _⟩

namespace Dialogue

variable {σ : Type} [ByteStream σ]

/-- A write burst offers commands in order, and a whole burst if it succeeds. -/
theorem commands_writeBurst (address : UInt8) (data : Array UInt8) {threshold : Nat}
    (fits : threshold ≤ maxCommandPayload) (wire : Wire σ) :
    ∃ commands, ((writeBurst address data threshold).run wire).2.offers =
        wire.offers ++ commands.map Command.encode ∧ InOrder commands ∧
      (((writeBurst address data threshold).run wire).1 = .ok () →
        WholeBurst .write address commands) := by
  rw [writeBurst]
  cases planned : Burst.plan data.size threshold with
  | error error => exact ⟨[], by simp, inOrder_nil, by simp⟩
  | ok chunks =>
      have covers := Burst.covers_of_plan planned
      have tag : ∀ chunk, (LinkState.writeCommand address data chunk).tag =
          .burst .write chunk.kind := fun _ => rfl
      have same : ∀ chunk, (LinkState.writeCommand address data chunk).address = address :=
        fun _ => rfl
      obtain ⟨sent, unsent, split_eq, offers_eq, whole⟩ :=
        offers_sendChunks (LinkState.fits_writeCommand covers fits address) wire
      refine ⟨_, offers_eq, covers.inOrder tag same split_eq, ?_⟩
      intro succeeded
      rw [whole succeeded, List.append_nil] at split_eq
      exact split_eq ▸ covers.wholeBurst tag same

/-- A read burst offers commands in order, and a whole burst if it succeeds. -/
theorem commands_readRange (address : UInt8) (destination : Array UInt8) (threshold : Nat)
    (wire : Wire σ) :
    ∃ commands, ((readRange address destination threshold).run wire).2.offers =
        wire.offers ++ commands.map Command.encode ∧ InOrder commands ∧
      (∀ filled, ((readRange address destination threshold).run wire).1 = .ok filled →
        WholeBurst .read address commands) := by
  rw [readRange, run_map, readBurst]
  cases planned : Burst.plan destination.size threshold with
  | error error => exact ⟨[], by simp, inOrder_nil, by simp [Outcome.map]⟩
  | ok chunks =>
      have covers := Burst.covers_of_plan planned
      have tag : ∀ chunk, (LinkState.readCommand address chunk).tag =
          .burst .read chunk.kind := fun _ => rfl
      have same : ∀ chunk, (LinkState.readCommand address chunk).address = address :=
        fun _ => rfl
      obtain ⟨sent, unsent, split_eq, offers_eq, whole⟩ :=
        offers_gatherChunks address chunks destination wire
      refine ⟨_, offers_eq, covers.inOrder tag same split_eq, ?_⟩
      intro filled succeeded
      obtain ⟨_, finished, _⟩ := Outcome.map_eq_ok_iff.mp succeeded
      rw [whole finished, List.append_nil] at split_eq
      exact split_eq ▸ covers.wholeBurst tag same

/-- Every operation of a link with valid settings offers commands in order, and
a whole burst if it is a burst that succeeds. -/
theorem commands_ofOperation {config : LinkConfig} (valid : config.Valid)
    (operation : LinkOperation) (wire : Wire σ) :
    ∃ commands,
      ((ofOperation config operation).run wire).2.offers =
        wire.offers ++ commands.map Command.encode ∧
      InOrder commands ∧
      Turn.Complete ⟨operation, ((ofOperation config operation).run wire).1, commands⟩ := by
  cases operation with
  | checkVersion =>
      refine ⟨[versionQuery config.firmwareVersion], ?_, inOrder_singleton ?_, Turn.complete_of_no_burst rfl⟩
      · rw [ofOperation, run_map]
        exact offers_checkVersion _ wire
      · exact .inr (.inr (.inl rfl))
  | readRegister address =>
      refine ⟨[Link.readCommand address], ?_, inOrder_singleton (.inl rfl),
        Turn.complete_of_no_burst rfl⟩
      rw [ofOperation, run_map, run_map]
      exact offers_exchange (Link.fits_readCommand address) wire
  | writeRegister address value =>
      refine ⟨[Link.writeCommand address value], ?_, inOrder_singleton (.inr (.inl rfl)),
        Turn.complete_of_no_burst rfl⟩
      rw [ofOperation, run_map, run_map]
      exact offers_exchange (Link.fits_writeCommand address value) wire
  | readBurst address size =>
      rw [ofOperation]
      split
      · exact ⟨[], by simp, inOrder_nil, by simp [Turn.Complete]⟩
      · obtain ⟨commands, offers_eq, inOrder, whole⟩ :=
          commands_readRange address (Array.replicate size 0) config.atomicRx wire
        rw [run_map]
        exact ⟨commands, offers_eq, inOrder, Turn.complete_map rfl whole⟩
  | readBurstInto address destination =>
      obtain ⟨commands, offers_eq, inOrder, whole⟩ :=
        commands_readRange address destination config.atomicRx wire
      rw [ofOperation, run_map]
      exact ⟨commands, offers_eq, inOrder, Turn.complete_map rfl whole⟩
  | writeBurst address data =>
      obtain ⟨commands, offers_eq, inOrder, whole⟩ :=
        commands_writeBurst address data valid.tx_le wire
      rw [ofOperation, run_map]
      exact ⟨commands, offers_eq, inOrder, Turn.complete_map rfl fun _ => whole⟩

end Dialogue

/-! ## Runs -/

/-- The traffic of a run: its commands in order, each with the index of the turn
that offered it. -/
def traffic : Nat → List Turn → List (Nat × Command)
  | _, [] => []
  | index, turn :: turns => turn.commands.map (index, ·) ++ traffic (index + 1) turns

/-- The second of two commands of a run goes on with a burst only if the first
one is of the same turn, leaves a burst of the same direction open and has the
same address. -/
def Follows (previous next : Nat × Command) : Prop :=
  ∀ direction, next.2.Continues direction →
    previous.1 = next.1 ∧ previous.2.LeavesOpen direction ∧ previous.2.address = next.2.address

/-- In the traffic of a run, right before every command that goes on with a
burst there is one that it follows, and every turn starts with a command of its
own. -/
structure Contiguous (turns : List Turn) : Prop where
  preceded : ∀ {before after next direction},
    traffic 0 turns = before ++ next :: after → next.2.Continues direction →
      ∃ earlier previous, before = earlier ++ [previous] ∧ Follows previous next
  starts : ∀ turn ∈ turns, ∀ command ∈ turn.commands.head?, command.Starts

theorem starts_head_traffic {turns : List Turn}
    (starts : ∀ turn ∈ turns, ∀ command ∈ turn.commands.head?, command.Starts)
    {index : Nat} {first : Nat × Command} (head : first ∈ (traffic index turns).head?) :
    first.2.Starts := by
  induction turns generalizing index with
  | nil => contradiction
  | cons turn turns ih =>
      rw [traffic] at head
      cases commands_eq : turn.commands with
      | nil =>
          rw [commands_eq] at head
          exact ih (fun turn member => starts turn (List.mem_cons_of_mem _ member)) head
      | cons command rest =>
          rw [commands_eq] at head
          cases head
          exact starts turn List.mem_cons_self command (by rw [commands_eq]; rfl)

/-- Turns that are in order each follow one another. -/
theorem isChain_traffic {turns : List Turn} (inOrder : ∀ turn ∈ turns, InOrder turn.commands)
    (index : Nat) : (traffic index turns).IsChain Follows := by
  induction turns generalizing index with
  | nil => exact .nil
  | cons turn turns ih =>
      have rest := fun turn member => inOrder turn (List.mem_cons_of_mem _ member)
      refine List.isChain_append.mpr ⟨?_, ih rest (index + 1), ?_⟩
      · apply (List.isChain_map _).mpr
        apply (inOrder turn List.mem_cons_self).adjacent.imp
        intro previous next precedes direction continues
        exact ⟨rfl, precedes direction continues⟩
      · -- Between turns there is nothing to show: no turn starts by going on.
        intro previous _ next head direction continues
        have starts := starts_head_traffic (fun turn member => (rest turn member).starts) head
        exact absurd continues (starts.not_continues direction)

theorem contiguous_of_inOrder {turns : List Turn}
    (inOrder : ∀ turn ∈ turns, InOrder turn.commands) : Contiguous turns where
  starts turn member := (inOrder turn member).starts
  preceded := by
    intro before after next direction split_eq continues
    have chain := isChain_traffic inOrder 0
    rcases List.eq_nil_or_concat before with rfl | ⟨earlier, previous, rfl⟩
    · have head : next ∈ (traffic 0 turns).head? := by
        rw [split_eq]
        rfl
      have starts := starts_head_traffic (fun turn member => (inOrder turn member).starts) head
      exact absurd continues (starts.not_continues direction)
    · rw [List.concat_eq_append] at split_eq ⊢
      rw [split_eq, List.append_assoc] at chain
      exact ⟨earlier, previous, rfl,
        (List.isChain_cons_cons.mp (List.isChain_append.mp chain).2.1).1⟩

variable {σ : Type} [ByteStream σ]

/-- The turns of a run from one link to another. -/
inductive Link.Run : Link σ → List Turn → Link σ → Prop
  | nil (link : Link σ) : Run link [] link
  | cons {link next ending : Link σ} {turn : Turn} {turns : List Turn}
      (performed : link.perform turn.operation = (turn.outcome, next))
      (offered : next.wire.offers = link.wire.offers ++ turn.commands.map Command.encode)
      (rest : Run next turns ending) : Run link (turn :: turns) ending

theorem Link.Run.offers_eq {link ending : Link σ} {turns : List Turn}
    (run : link.Run turns ending) :
    ending.wire.offers =
      link.wire.offers ++ ((traffic 0 turns).map Prod.snd).map Command.encode := by
  generalize 0 = index
  induction run generalizing index with
  | nil => simp [traffic]
  | @cons link next ending turn turns performed offered rest ih =>
      rw [ih (index + 1), offered, traffic]
      simp

omit [ByteStream σ] in
/-- Taking the lock offers nothing. -/
theorem Link.offers_entry (link : Link σ) (operation : LinkOperation) :
    (if operation.locks then link.lock.wire else link.wire).offers = link.wire.offers := by
  rw [wire_lock]
  cases operation.locks <;> cases link.poisoned <;> rfl

/-- An operation is a turn with commands in order. -/
theorem Link.exists_turn (link : Link σ) (operation : LinkOperation) :
    ∃ turn : Turn, turn.operation = operation ∧
      link.perform operation = (turn.outcome, (link.perform operation).2) ∧
      (link.perform operation).2.wire.offers =
        link.wire.offers ++ turn.commands.map Command.encode ∧
      InOrder turn.commands ∧ turn.Complete := by
  have ran := link.ran_perform operation
  obtain ⟨commands, offers_eq, inOrder, complete⟩ :=
    Dialogue.commands_ofOperation link.valid operation
      (if operation.locks then link.lock.wire else link.wire)
  rw [← ran.outcome] at complete
  rw [← ran.wire, link.offers_entry operation] at offers_eq
  exact ⟨_, rfl, rfl, offers_eq, inOrder, complete⟩

/-- Bursts are never interleaved or gone on with out of place.  Every run is a
sequence of turns, whose commands are all that is offered to the stream.  In the
traffic of the run, a middle or final chunk comes right after a chunk of the same
burst, every operation starts with a command of its own, and every burst that
succeeds is whole.  Operations may fail and callers may die anywhere. -/
theorem Link.bursts_contiguous (link : Link σ) (operations : List LinkOperation) :
    ∃ turns ending, link.Run turns ending ∧
      turns.map Turn.operation = operations ∧
      link.performAll operations = (turns.map Turn.outcome, ending) ∧
      ending.wire.offers =
        link.wire.offers ++ ((traffic 0 turns).map Prod.snd).map Command.encode ∧
      Contiguous turns ∧ ∀ turn ∈ turns, turn.Complete := by
  have turned : ∃ turns ending, link.Run turns ending ∧
      turns.map Turn.operation = operations ∧
      link.performAll operations = (turns.map Turn.outcome, ending) ∧
      ∀ turn ∈ turns, InOrder turn.commands ∧ turn.Complete := by
    induction operations generalizing link with
    | nil =>
        exact ⟨[], link, .nil link, rfl, rfl, fun _ member => absurd member List.not_mem_nil⟩
    | cons operation rest ih =>
        obtain ⟨turn, rfl, performed, offered, inOrder, complete⟩ := link.exists_turn operation
        obtain ⟨turns, ending, run, operations_eq, outcomes_eq, each⟩ :=
          ih (link.perform turn.operation).2
        refine ⟨turn :: turns, ending, .cons performed offered run, ?_, ?_, ?_⟩
        · rw [List.map_cons, operations_eq]
        · rw [performAll_cons, outcomes_eq, performed]
          rfl
        · intro other member
          rcases List.mem_cons.mp member with rfl | member
          · exact ⟨inOrder, complete⟩
          · exact each other member
  obtain ⟨turns, ending, run, operations_eq, outcomes_eq, each⟩ := turned
  exact ⟨turns, ending, run, operations_eq, outcomes_eq, run.offers_eq,
    contiguous_of_inOrder fun turn member => (each turn member).1,
    fun turn member => (each turn member).2⟩

end RegisterBridge
