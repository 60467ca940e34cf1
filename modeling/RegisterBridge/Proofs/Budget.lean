import RegisterBridge.Proofs.Burst.Partition
import RegisterBridge.Proofs.Dialogue.Operation
import RegisterBridge.Proofs.Oversize
import RegisterBridge.Proofs.Payload
import RegisterBridge.Proofs.Polling
import RegisterBridge.Proofs.Sending

/-!
# How many calls an operation makes

Every loop of an operation ends: polling by its attempts, a repeated call by the
interruptions that are left, a drain by what is missing, and a burst by its plan.  Here
their calls are counted, for a stream that may answer anything, and forever.

`Dialogue.Makes` is the rule book: it says what calls a dialogue makes, whatever the
stream, and it is closed under putting dialogues together.  The main statement is that
each exchange keeps to its budget and each operation to its number of exchanges.
-/

namespace RegisterBridge

namespace Call

/-- Whether the call was interrupted. -/
def isInterrupted : Call → Bool
  | read _ _ got => got.isInterrupted
  | write _ taken => taken.isInterrupted

/-- The header that a poll found. -/
def header? : Call → Option Header
  | read .header _ (.ok bytes) =>
    match Poll.ofBytes bytes with
    | .found _ header => some header
    | _ => none
  | _ => none

theorem header?_read_of_unsuccessful {bytes : List UInt8} {want : Nat}
    (judged : Poll.ofBytes bytes = .unsuccessful) :
    (read .header want (.ok bytes)).header? = none := by
  simp [header?, judged]

theorem header?_read_of_found {bytes : List UInt8} {want : Nat} {tag : Tag} {header : Header}
    (judged : Poll.ofBytes bytes = .found tag header) :
    (read .header want (.ok bytes)).header? = some header := by
  simp [header?, judged]

end Call

/-! ## Budgets -/

/-- The bytes that are dropped of an answer with a payload of some length. -/
def drainSize (length : Nat) : Nat :=
  if 4096 < length then answerReadLength length else 0

/-- Writes of a command, of which all but one were interrupted. -/
structure CommandWrites (command : Command) (calls : List Call) : Prop where
  shape : ∀ call ∈ calls, ∃ taken, call = .write command.encode taken
  bound : calls.length ≤ 1 + calls.countP Call.isInterrupted

/-- Reads of a header, which may be interrupted, within a number of attempts. -/
structure HeaderReads (attempts : Nat) (calls : List Call) : Prop where
  shape : ∀ call ∈ calls, ∃ got, call = .read .header 4 got
  bound : calls.length ≤ attempts

/-- Reads behind a header that announces a payload of some length.  Except for interrupted
ones there is one, or one for each byte that is dropped. -/
structure BodyReads (announced : Nat) (calls : List Call) : Prop where
  shape : ∀ call ∈ calls, ∃ purpose want got,
    call = .read purpose want got ∧ purpose ≠ .header
  bound : calls.length ≤ max 1 (drainSize announced) + calls.countP Call.isInterrupted

/-- The calls after a command is sent: reads of a header, and behind the first header that
is found the reads of what it announces. -/
inductive AnswerReads : List Call → Prop
  | headerless {polls : List Call} (polling : HeaderReads 15 polls) : AnswerReads polls
  | announced {polls reads : List Call} {header : Header} (polling : HeaderReads 15 polls)
      (found : polls.findSome? Call.header? = some header)
      (reading : BodyReads header.length reads) : AnswerReads (polls ++ reads)

/-- The calls of one exchange: those that send the command, and then those that await the
answer. -/
inductive ExchangeCalls (command : Command) : List Call → Prop
  | intro {writes reads : List Call} (writing : CommandWrites command writes)
      (awaiting : AnswerReads reads) : ExchangeCalls command (writes ++ reads)

/-- The calls of a number of exchanges, one after the other. -/
def ExchangesWithin (limit : Nat) (calls : List Call) : Prop :=
  ∃ exchanges : List (List Call), calls = exchanges.flatten ∧ exchanges.length ≤ limit ∧
    ∀ exchange ∈ exchanges, ∃ command, ExchangeCalls command exchange

section Laws

variable {command : Command} {attempts limit later : Nat} {call : Call}
  {calls rest : List Call}

theorem AnswerReads.nil : AnswerReads [] :=
  .headerless ⟨by simp, Nat.zero_le _⟩

theorem HeaderReads.cons {got : Outcome StreamError (List UInt8)}
    (reads : HeaderReads attempts calls) :
    HeaderReads (attempts + 1) (.read .header headerSize got :: calls) where
  shape call member := by
    rcases List.mem_cons.mp member with rfl | member
    · exact ⟨got, rfl⟩
    · exact reads.shape call member
  bound := Nat.succ_le_succ reads.bound

theorem HeaderReads.of_nil : HeaderReads attempts [] :=
  ⟨by simp, Nat.zero_le _⟩

theorem BodyReads.of_nil {announced : Nat} : BodyReads announced [] :=
  ⟨by simp, Nat.zero_le _⟩

theorem ExchangesWithin.nil : ExchangesWithin limit [] :=
  ⟨[], rfl, Nat.zero_le _, by simp⟩

theorem ExchangeCalls.within (exchange : ExchangeCalls command calls) :
    ExchangesWithin 1 calls :=
  ⟨[calls], List.flatten_singleton.symm, Nat.le_refl 1, fun _ member =>
    ⟨command, List.mem_singleton.mp member ▸ exchange⟩⟩

theorem ExchangesWithin.append (first : ExchangesWithin limit calls)
    (second : ExchangesWithin later rest) : ExchangesWithin (limit + later) (calls ++ rest) := by
  obtain ⟨exchanges, rfl, bound, each⟩ := first
  obtain ⟨others, rfl, bound', each'⟩ := second
  refine ⟨exchanges ++ others, List.flatten_append.symm, ?_, ?_⟩
  · rw [List.length_append]
    exact Nat.add_le_add bound bound'
  · intro exchange member
    rcases List.mem_append.mp member with member | member
    · exact each exchange member
    · exact each' exchange member

theorem ExchangesWithin.mono (within : ExchangesWithin limit calls) (le : limit ≤ later) :
    ExchangesWithin later calls := by
  obtain ⟨exchanges, calls_eq, bound, each⟩ := within
  exact ⟨exchanges, calls_eq, Nat.le_trans bound le, each⟩

end Laws

/-! ## Repeated calls and drains -/

/-- Of the calls up to the one that settles, all but that one were interrupted. -/
theorem RepeatedCall.SettlesAt.length_le {σ α : Type} {call : RepeatedCall σ α} {stream : σ}
    {count : Nat} (settles : call.SettlesAt stream count)
    (seen : ∀ answer, (call.entry answer).isInterrupted = answer.isInterrupted) :
    (call.calls stream (count + 1)).length ≤
      1 + (call.calls stream (count + 1)).countP Call.isInterrupted := by
  have interrupted : (call.calls stream count).countP Call.isInterrupted =
      (call.calls stream count).length := by
    rw [List.countP_eq_length]
    intro entry member
    obtain ⟨earlier, before, rfl⟩ := List.mem_map.mp member
    rw [seen]
    exact settles.interrupted earlier (List.mem_range.mp before)
  rw [calls_succ, List.length_append, List.countP_append, interrupted, List.length_singleton,
    Nat.add_comm 1]
  exact Nat.add_le_add_right (Nat.le_add_right ..) 1

namespace Drains

variable {σ : Type} [ByteStream σ] {missing left : Nat} {stream last : σ} {calls : List Call}

theorem shape (drains : Drains missing stream calls left last) :
    ∀ call ∈ calls, ∃ purpose want got, call = .read purpose want got ∧ purpose ≠ .header := by
  intro call member
  obtain ⟨front, back, split_eq⟩ := List.append_of_mem member
  obtain ⟨got, call_eq, -⟩ := drains.request split_eq
  exact ⟨_, _, _, call_eq, by decide⟩

/-- A read that gives something makes less missing, and after one that gives nothing there
is no other. -/
theorem length_le (drains : Drains missing stream calls left last) :
    calls.length ≤ missing + calls.countP Call.isInterrupted := by
  induction drains with
  | complete stream => exact Nat.zero_le _
  | stopped positive answered stops => exact Nat.le_add_right_of_le positive
  | @interrupted missing left stream next last error calls positive answered again rest ih =>
      have counted : (Call.read .drain (min missing 4097) (.error error)).isInterrupted := again
      rw [List.length_cons, List.countP_cons_of_pos counted, ← Nat.add_assoc]
      exact Nat.succ_le_succ ih
  | @taken missing left stream next last data calls positive answered some rest ih =>
      have not_none : 0 < data.length := List.length_pos_iff.mpr some
      have fits : data.length ≤ min missing 4097 :=
        ByteStream.length_read (congrArg Prod.fst answered)
      rw [List.length_cons, List.countP_cons_of_neg Bool.false_ne_true]
      omega

end Drains

/-! ## What a dialogue makes -/

namespace Dialogue

variable {α β ε : Type}

/-- Over any wire, the calls that the dialogue makes are related to its value. -/
def Makes (dialogue : Dialogue α) (relation : α → List Call → Prop) : Prop :=
  ∀ (σ : Type) [ByteStream σ] (wire : Wire σ), ∃ calls,
    (dialogue.run wire).2.transcript = wire.transcript ++ calls ∧
      relation (dialogue.run wire).1 calls

section Rules

variable {dialogue : Dialogue α} {relation : α → List Call → Prop}

theorem makes_done {value : α} (holds : relation value []) : (done value).Makes relation :=
  fun _ _ _ => ⟨[], (List.append_nil _).symm, holds⟩

theorem makes_report {event : Event} {rest : Dialogue α} (makes : rest.Makes relation) :
    (report event rest).Makes relation :=
  fun σ _ wire => makes σ (wire.report event)

theorem makes_poll {rest : Outcome StreamError (List UInt8) → Dialogue α}
    (makes : ∀ got, (rest got).Makes fun value calls =>
      relation value (.read .header headerSize got :: calls)) :
    (poll rest).Makes relation := by
  intro σ _ wire
  obtain ⟨calls, transcript_eq, holds⟩ :=
    makes (wire.read .header headerSize).1 σ (wire.read .header headerSize).2
  refine ⟨_, ?_, holds⟩
  rw [run_poll, transcript_eq, Wire.transcript_read, List.append_assoc]
  rfl

theorem Makes.mono {weaker : α → List Call → Prop} (makes : dialogue.Makes relation)
    (implies : ∀ value calls, relation value calls → weaker value calls) :
    dialogue.Makes weaker := by
  intro σ _ wire
  obtain ⟨calls, transcript_eq, holds⟩ := makes σ wire
  exact ⟨calls, transcript_eq, implies _ _ holds⟩

theorem Makes.bind {next : α → Dialogue β} {second : β → List Call → Prop}
    (makes : dialogue.Makes relation)
    (following : ∀ value calls, relation value calls →
      (next value).Makes fun result later => second result (calls ++ later)) :
    (dialogue.bind next).Makes second := by
  intro σ _ wire
  obtain ⟨calls, transcript_eq, holds⟩ := makes σ wire
  obtain ⟨later, later_eq, holds'⟩ := following _ calls holds σ (dialogue.run wire).2
  refine ⟨calls ++ later, ?_, ?_⟩
  · rw [run_bind, later_eq, transcript_eq, List.append_assoc]
  · rw [run_bind]
    exact holds'

/-- The calls stay the same if the value is put in other words. -/
theorem Makes.map {calls_within : List Call → Prop}
    (makes : dialogue.Makes fun _ calls => calls_within calls) (f : α → β) :
    (dialogue.map f).Makes fun _ calls => calls_within calls :=
  makes.bind fun _ calls holds => makes_done (by rwa [List.append_nil])

theorem Makes.andThen {dialogue : Dialogue (Outcome ε α)}
    {next : α → Dialogue (Outcome ε β)} {relation : Outcome ε α → List Call → Prop}
    {calls_within : List Call → Prop} (makes : dialogue.Makes relation)
    (failing : ∀ outcome calls, relation outcome calls → calls_within calls)
    (following : ∀ value calls, relation (.ok value) calls →
      (next value).Makes fun _ later => calls_within (calls ++ later)) :
    (dialogue.andThen next).Makes fun _ calls => calls_within calls := by
  apply makes.bind
  rintro (value | cause | _) calls holds
  · exact following value calls holds
  · exact makes_done (by rw [List.append_nil]; exact failing _ calls holds)
  · exact makes_done (by rw [List.append_nil]; exact failing _ calls holds)

end Rules

/-! ## One exchange -/

theorem makes_send (command : Command) :
    (send command).Makes fun _ calls => CommandWrites command calls := by
  intro σ _ wire
  have sends := sends_send command wire
  generalize (send command).run wire = ended at sends ⊢
  rcases ended with ⟨outcome, next⟩
  cases sends with
  | refused large => exact ⟨[], (List.append_nil _).symm, ⟨by simp, Nat.zero_le _⟩⟩
  | @settled count _ events fits settles decides =>
      refine ⟨_, command.writing.transcript_wireAfter wire (count + 1), ?_,
        settles.length_le fun _ => rfl⟩
      intro call member
      obtain ⟨earlier, -, rfl⟩ := List.mem_map.mp member
      exact ⟨_, rfl⟩

/-- Polls for a header: if one is found, it is in the polls. -/
structure PolledFor (attempts : Nat) (outcome : Outcome FrameError (Tag × Header))
    (calls : List Call) : Prop where
  reads : HeaderReads attempts calls
  found : ∀ tag header, outcome = .ok (tag, header) →
    calls.findSome? Call.header? = some header

theorem makes_awaitHeader (attempts : Nat) :
    (awaitHeader attempts).Makes (PolledFor attempts) := by
  induction attempts with
  | zero => exact makes_done ⟨.of_nil, by simp⟩
  | succ attempts ih =>
      apply makes_poll
      rintro (bytes | error | _)
      · cases judged : Poll.ofBytes bytes with
        | found tag header =>
            simp only [judged]
            refine makes_done ⟨HeaderReads.of_nil.cons, ?_⟩
            rintro _ _ ⟨⟩
            rw [List.findSome?_cons, Call.header?_read_of_found judged]
        | torn received =>
            simp only [judged]
            exact makes_done ⟨HeaderReads.of_nil.cons, by simp⟩
        | unsuccessful =>
            simp only [judged]
            apply ih.mono
            rintro outcome calls ⟨reads, found⟩
            refine ⟨reads.cons, fun tag header ok => ?_⟩
            rw [List.findSome?_cons, Call.header?_read_of_unsuccessful judged]
            exact found tag header ok
      · exact ih.mono fun outcome calls polled => ⟨polled.reads.cons, polled.found⟩
      · exact makes_done ⟨HeaderReads.of_nil.cons, by simp⟩

theorem makes_body (tag : Tag) (header : Header) :
    (body tag header).Makes fun _ calls => BodyReads header.length calls := by
  intro σ _ wire
  by_cases nothing : answerReadLength header.length = 0
  · rw [run_body_of_nothing nothing]
    exact ⟨[], (List.append_nil _).symm, .of_nil⟩
  · obtain ⟨count, settles, wire_eq, -⟩ := @exists_run_body σ _ tag header nothing wire
    refine ⟨header.payloadRead.calls wire.stream (count + 1), ?_, ?_, ?_⟩
    · rw [wire_eq, RepeatedCall.transcript_wireAfter]
    · intro call member
      obtain ⟨earlier, -, rfl⟩ := List.mem_map.mp member
      exact ⟨_, _, _, rfl, by decide⟩
    · have few := settles.length_le fun _ => rfl
      exact Nat.le_trans few (Nat.add_le_add_right (Nat.le_max_left ..) _)

theorem makes_rest (tag : Tag) (header : Header) :
    (rest tag header).Makes fun _ calls => BodyReads header.length calls := by
  by_cases large : maxAnswerPayload < header.length
  · intro σ _ wire
    obtain ⟨calls, left, last, drains, run_eq⟩ :=
      exists_drains (answerReadLength header.length) wire
    have size_eq : drainSize header.length = answerReadLength header.length := if_pos large
    refine ⟨calls, ?_, drains.shape, ?_⟩
    · rw [run_rest_of_large large, run_eq]
      cases calls.any Call.isDied <;> simp [Wire.transcript]
    · rw [size_eq]
      exact Nat.le_trans drains.length_le (Nat.add_le_add_right (Nat.le_max_right ..) _)
  · rw [rest, if_pos (Nat.le_of_not_lt large)]
    exact makes_body tag header

theorem makes_answer : answer.Makes fun _ calls => AnswerReads calls := by
  apply (makes_awaitHeader maxHeaderPolls).andThen
  · exact fun outcome calls polled => .headerless polled.reads
  · rintro ⟨tag, header⟩ calls polled
    exact (makes_rest tag header).mono fun outcome later reading =>
      .announced polled.reads (polled.found tag header rfl) reading

/-- An exchange keeps to its budget. -/
theorem makes_exchange (command : Command) :
    (exchange command).Makes fun _ calls => ExchangeCalls command calls := by
  apply Makes.map
  apply (makes_send command).andThen
  · intro outcome calls writing
    rw [← List.append_nil calls]
    exact .intro writing .nil
  · exact fun written calls writing => makes_answer.mono fun outcome later awaiting =>
      .intro writing awaiting

/-! ## Operations -/

theorem makes_exchange_within (command : Command) :
    (exchange command).Makes fun _ calls => ExchangesWithin 1 calls :=
  (makes_exchange command).mono fun _ _ exchanged => exchanged.within

theorem makes_checkVersion (expected : UInt32) :
    (checkVersion expected).Makes fun _ calls => ExchangesWithin 1 calls := by
  apply (makes_exchange_within _).andThen fun _ _ within => within
  intro answer calls within
  rw [judgeVersion.eq_def]
  have silent : ExchangesWithin 1 (calls ++ []) := by rwa [List.append_nil]
  split
  · exact makes_report (makes_done silent)
  · split
    · exact makes_done silent
    · exact makes_done silent

/-- A transfer makes at most one exchange for each chunk. -/
theorem makes_sendChunks (address : UInt8) (data : Array UInt8) (chunks : List Burst.Chunk) :
    (sendChunks address data chunks).Makes fun _ calls =>
      ExchangesWithin chunks.length calls := by
  induction chunks with
  | nil => exact makes_done .nil
  | cons chunk rest ih =>
      have more : 1 ≤ (chunk :: rest).length := Nat.le_add_left ..
      apply (makes_exchange_within _).andThen fun _ _ within => within.mono more
      intro answer calls within
      apply ih.mono
      intro outcome later within'
      rw [List.length_cons, Nat.add_comm]
      exact within.append within'

theorem makes_gatherChunks (address : UInt8) (chunks : List Burst.Chunk)
    (destination : Array UInt8) :
    (gatherChunks address chunks destination).Makes fun _ calls =>
      ExchangesWithin chunks.length calls := by
  induction chunks generalizing destination with
  | nil => exact makes_done .nil
  | cons chunk rest ih =>
      have more : 1 ≤ (chunk :: rest).length := Nat.le_add_left ..
      apply (makes_exchange_within _).bind
      rintro outcome calls within
      have last : ExchangesWithin (chunk :: rest).length (calls ++ []) := by
        rw [List.append_nil]
        exact within.mono more
      rcases outcome with answer | error | _
      · by_cases short : answer.payload.length < chunk.length
        · simp only [if_pos short]
          exact makes_done last
        · simp only [if_neg short]
          apply (ih _).mono
          intro outcome later within'
          rw [List.length_cons, Nat.add_comm]
          exact within.append within'
      · exact makes_done last
      · exact makes_done last

end Dialogue

theorem Burst.length_of_plan {size threshold : Nat} {chunks : List Chunk}
    (planned : plan size threshold = .ok chunks) : chunks.length = size ⌈/⌉ threshold := by
  rcases plan_cases size threshold with ⟨-, fault, plan_eq⟩ | ⟨-, plan_eq⟩ | ⟨-, plan_eq⟩
  · rw [plan_eq] at planned
    contradiction
  · rw [plan_eq] at planned
    contradiction
  · rw [plan_eq] at planned
    cases planned
    rw [List.length_map, List.length_range, chunkCount_eq_ceilDiv]

namespace Dialogue

/-- A burst makes at most one exchange for each chunk of its plan. -/
theorem makes_writeBurst (address : UInt8) (data : Array UInt8) (threshold : Nat) :
    (writeBurst address data threshold).Makes fun _ calls =>
      ExchangesWithin (data.size ⌈/⌉ threshold) calls := by
  rw [writeBurst]
  cases planned : Burst.plan data.size threshold with
  | error error => exact makes_done .nil
  | ok chunks =>
      rw [← Burst.length_of_plan planned]
      exact makes_sendChunks address data chunks

theorem makes_readRange (address : UInt8) (destination : Array UInt8) (threshold : Nat) :
    (readRange address destination threshold).Makes fun _ calls =>
      ExchangesWithin (destination.size ⌈/⌉ threshold) calls := by
  rw [readRange, readBurst]
  apply Makes.map
  cases planned : Burst.plan destination.size threshold with
  | error error => exact makes_done .nil
  | ok chunks =>
      rw [← Burst.length_of_plan planned]
      exact makes_gatherChunks address chunks destination

end Dialogue

/-- How many exchanges an operation of a link makes at most: one, or one for each chunk of
a burst. -/
def LinkOperation.exchangeLimit (config : LinkConfig) : LinkOperation → Nat
  | .checkVersion => 1
  | .readRegister _ => 1
  | .writeRegister _ _ => 1
  | .readBurst _ size => size ⌈/⌉ config.atomicRx
  | .readBurstInto _ destination => destination.size ⌈/⌉ config.atomicRx
  | .writeBurst _ data => data.size ⌈/⌉ config.atomicTx

theorem Dialogue.makes_ofOperation (config : LinkConfig) (operation : LinkOperation) :
    (ofOperation config operation).Makes fun _ calls =>
      ExchangesWithin (operation.exchangeLimit config) calls := by
  cases operation with
  | checkVersion => exact (makes_checkVersion _).map _
  | readRegister address => exact ((makes_exchange_within _).map _).map _
  | writeRegister address value => exact ((makes_exchange_within _).map _).map _
  | readBurst address size =>
      rw [ofOperation]
      split
      · exact makes_done .nil
      · have whole : (Array.replicate size (0 : UInt8)).size = size := Array.size_replicate
        have makes := (makes_readRange address (Array.replicate size 0) config.atomicRx).map
          (·.map Reading.registers)
        rwa [whole] at makes
  | readBurstInto address destination => exact (makes_readRange address destination _).map _
  | writeBurst address data => exact (makes_writeBurst address data _).map _

/-- **Every operation keeps to its budget.**  An exchange ends over every stream, whatever it
answers: it makes one write and one more for every write that is interrupted, then at most
fifteen reads of a header, and then one read of what the header announces, or as many as there
are bytes to drop if it announces too much, and one more for every such read that is
interrupted.  An operation of a link makes at most one exchange, and a burst at most as many
as it has chunks of the threshold. -/
theorem calls_within_budget {σ : Type} [ByteStream σ] :
    (∀ (state : LinkState σ) (command : Command), ∃ calls,
      (state.execute command).2.wire.transcript = state.wire.transcript ++ calls ∧
        ExchangeCalls command calls) ∧
    ∀ (link : Link σ) (operation : LinkOperation), ∃ exchanges : List (List Call),
      (link.perform operation).2.wire.transcript =
        link.wire.transcript ++ exchanges.flatten ∧
      exchanges.length ≤ operation.exchangeLimit link.config ∧
      ∀ calls ∈ exchanges, ∃ command, ExchangeCalls command calls := by
  constructor
  · intro state command
    obtain ⟨calls, transcript_eq, exchanged⟩ := Dialogue.makes_exchange command σ state.wire
    have wire_eq : (state.execute command).2.wire =
        ((Dialogue.exchange command).run state.wire).2 :=
      congrArg Prod.snd (state.execute_eq_run command)
    exact ⟨calls, by rw [wire_eq, transcript_eq], exchanged⟩
  · intro link operation
    have ran := link.ran_perform operation
    obtain ⟨_, transcript_eq, exchanges, rfl, few, each⟩ :=
      Dialogue.makes_ofOperation link.config operation σ
        (if operation.locks then link.lock.wire else link.wire)
    refine ⟨exchanges, ?_, few, each⟩
    rw [ran.wire, transcript_eq]
    cases operation.locks
    · rfl
    · exact congrArg (· ++ exchanges.flatten) link.transcript_lock

end RegisterBridge
