import RegisterBridge.Proofs.Burst.Gathering
import RegisterBridge.Proofs.Console.Contact

/-!
# Operations as errands

On an open link every operation comes to the same thing: commands are exchanged in an order
that is known beforehand, and each answer has to bring back some bytes.  The relations here
are about a stream and such errands alone.  The main statements tell by them when an
operation succeeds, what it gives then, and how it fails.
-/

namespace RegisterBridge

namespace LinkState

variable {σ : Type} [ByteStream σ]

/-- An exchange over a stream, with nothing on record and new buffers. -/
def exchangeOver (stream : σ) (command : Command) : Outcome LinkError Answer × σ :=
  (execute { wire := { stream } } command).map id (·.wire.stream)

/-- What an exchange gives depends on the stream alone. -/
theorem execute_stream (state : LinkState σ) (command : Command) :
    (state.execute command).map id (·.wire.stream) =
      (Dialogue.exchange command).runOn state.wire.stream := by
  rw [← Dialogue.run_stream, ← state.execute_eq_run]
  rfl

theorem exchangeOver_eq_runOn (stream : σ) (command : Command) :
    exchangeOver stream command = (Dialogue.exchange command).runOn stream :=
  execute_stream { wire := { stream } } command

theorem exchangeOver_of_execute {state next : LinkState σ} {command : Command}
    {outcome : Outcome LinkError Answer} (executed : state.execute command = (outcome, next)) :
    exchangeOver state.wire.stream command = (outcome, next.wire.stream) := by
  rw [exchangeOver_eq_runOn, ← state.execute_stream, executed]
  rfl

end LinkState

open LinkState (exchangeOver)

/-! ## Errands -/

/-- A command, and the number of bytes that its answer has to bring back. -/
structure Errand where
  command : Command
  needs : Nat
deriving DecidableEq, Repr

namespace Errand

variable {σ : Type} [ByteStream σ] {stream next last : σ}
  {errands rest : List Errand} {answer : Answer} {data : List UInt8} {error : LinkError}

/-- Errands are run in order.  Every command is answered, no answer is too short, and the
bytes needed are put together. -/
inductive Done : σ → List Errand → List UInt8 → σ → Prop
  | nil (stream : σ) : Done stream [] [] stream
  | cons {stream next last : σ} {errand : Errand} {rest : List Errand} {answer : Answer}
      {data : List UInt8} (exchanged : exchangeOver stream errand.command = (.ok answer, next))
      (enough : errand.needs ≤ answer.payload.length) (later : Done next rest data last) :
      Done stream (errand :: rest) (answer.payload.take errand.needs ++ data) last

/-- Errands are run in order up to one that fails: its exchange does, or its answer is too
short. -/
inductive Fails : σ → List Errand → LinkError → Prop
  | unanswered {stream next : σ} {errand : Errand} {rest : List Errand} {error : LinkError}
      (exchanged : exchangeOver stream errand.command = (.error error, next)) :
      Fails stream (errand :: rest) error
  | short {stream next : σ} {errand : Errand} {rest : List Errand} {answer : Answer}
      (exchanged : exchangeOver stream errand.command = (.ok answer, next))
      (short : answer.payload.length < errand.needs) :
      Fails stream (errand :: rest)
        (.shortAnswer errand.command.tag errand.needs answer.payload.length)
  | later {stream next : σ} {errand : Errand} {rest : List Errand} {answer : Answer}
      {error : LinkError} (exchanged : exchangeOver stream errand.command = (.ok answer, next))
      (enough : errand.needs ≤ answer.payload.length) (fails : Fails next rest error) :
      Fails stream (errand :: rest) error

/-- Run errands in order, up to the first that fails. -/
def runAll : List Errand → σ → Outcome LinkError (List UInt8) × σ
  | [], stream => (.ok [], stream)
  | errand :: rest, stream =>
    match exchangeOver stream errand.command with
    | (.ok answer, next) =>
        if answer.payload.length < errand.needs then
          (.error (.shortAnswer errand.command.tag errand.needs answer.payload.length), next)
        else (runAll rest next).map (·.map (answer.payload.take errand.needs ++ ·)) id
    | (.error error, next) => (.error error, next)
    | (.died, next) => (.died, next)

/-- After an answer that is long enough the rest is run. -/
theorem runAll_of_enough (errand : Errand)
    (exchanged : exchangeOver stream errand.command = (.ok answer, next))
    (enough : errand.needs ≤ answer.payload.length) :
    runAll (errand :: rest) stream =
      (runAll rest next).map (·.map (answer.payload.take errand.needs ++ ·)) id := by
  rw [runAll, exchanged]
  exact if_neg (Nat.not_lt.mpr enough)

/-- An answer that is too short is the last one. -/
theorem runAll_of_short (errand : Errand)
    (exchanged : exchangeOver stream errand.command = (.ok answer, next))
    (short : answer.payload.length < errand.needs) :
    runAll (errand :: rest) stream =
      (.error (.shortAnswer errand.command.tag errand.needs answer.payload.length), next) := by
  rw [runAll, exchanged]
  exact if_pos short

/-- An exchange that fails is the last one. -/
theorem runAll_of_error (errand : Errand)
    (exchanged : exchangeOver stream errand.command = (.error error, next)) :
    runAll (errand :: rest) stream = (.error error, next) := by
  rw [runAll, exchanged]

theorem runAll_of_died (errand : Errand)
    (exchanged : exchangeOver stream errand.command = (.died, next)) :
    runAll (errand :: rest) stream = (.died, next) := by
  rw [runAll, exchanged]

theorem runAll_eq_ok_iff :
    runAll errands stream = (.ok data, last) ↔ Done stream errands data last := by
  constructor
  · intro ran
    induction errands generalizing stream data with
    | nil =>
        cases ran
        exact .nil last
    | cons errand rest ih =>
        rcases exchanged : exchangeOver stream errand.command with ⟨answer | error | _, next⟩
        · by_cases short : answer.payload.length < errand.needs
          · rw [runAll_of_short _ exchanged short] at ran
            cases ran
          · have enough := Nat.le_of_not_lt short
            rw [runAll_of_enough _ exchanged enough, Prod.ext_iff] at ran
            obtain ⟨collected, later, rfl⟩ := Outcome.map_eq_ok_iff.mp ran.1
            exact .cons exchanged enough (ih (Prod.ext later ran.2))
        · rw [runAll_of_error _ exchanged] at ran
          cases ran
        · rw [runAll_of_died _ exchanged] at ran
          cases ran
  · intro done
    induction done with
    | nil stream => rfl
    | cons exchanged enough later ih =>
        rw [runAll_of_enough _ exchanged enough, ih]
        rfl

theorem runAll_eq_error_iff :
    (runAll errands stream).1 = .error error ↔ Fails stream errands error := by
  constructor
  · intro ran
    induction errands generalizing stream with
    | nil => cases ran
    | cons errand rest ih =>
        rcases exchanged : exchangeOver stream errand.command with ⟨answer | cause | _, next⟩
        · by_cases short : answer.payload.length < errand.needs
          · rw [runAll_of_short _ exchanged short] at ran
            cases ran
            exact .short exchanged short
          · have enough := Nat.le_of_not_lt short
            rw [runAll_of_enough _ exchanged enough] at ran
            exact .later exchanged enough (ih (Outcome.map_eq_error_iff.mp ran))
        · rw [runAll_of_error _ exchanged] at ran
          cases ran
          exact .unanswered exchanged
        · rw [runAll_of_died _ exchanged] at ran
          cases ran
  · intro fails
    induction fails with
    | unanswered exchanged => rw [runAll_of_error _ exchanged]
    | short exchanged short => rw [runAll_of_short _ exchanged short]
    | later exchanged enough fails ih =>
        rw [runAll_of_enough _ exchanged enough]
        exact Outcome.map_eq_error_iff.mpr ih

/-- Run errands that may have been refused beforehand. -/
def runPlanned (planned : Except LinkError (List Errand)) (stream : σ) :
    Outcome LinkError (List UInt8) × σ :=
  match planned with
  | .ok errands => runAll errands stream
  | .error error => (.error error, stream)

end Errand

/-! ## Operations of a link -/

namespace LinkState

variable {σ : Type} [ByteStream σ]

/-- The errand of a chunk of a write burst.  Its answer is not looked at. -/
def writeErrand (address : UInt8) (data : Array UInt8) (chunk : Burst.Chunk) : Errand :=
  ⟨writeCommand address data chunk, 0⟩

/-- The errand of a chunk of a read burst, which brings back the bytes of the chunk. -/
def readErrand (address : UInt8) (chunk : Burst.Chunk) : Errand :=
  ⟨readCommand address chunk, chunk.length⟩

theorem sendChunks_stream (address : UInt8) (data : Array UInt8) (chunks : List Burst.Chunk)
    (state : LinkState σ) :
    (sendChunks address data chunks state).map id (·.wire.stream) =
      (Errand.runAll (chunks.map (writeErrand address data)) state.wire.stream).map
        (·.map fun _ => ()) id := by
  induction chunks generalizing state with
  | nil => rfl
  | cons chunk rest ih =>
      rw [sendChunks, List.map_cons]
      rcases executed : state.execute (writeCommand address data chunk) with
        ⟨answer | error | _, next⟩ <;> have exchanged := exchangeOver_of_execute executed
      · rw [Errand.runAll_of_enough (writeErrand address data chunk) exchanged (Nat.zero_le _)]
        refine (ih next).trans ?_
        rcases Errand.runAll _ _ with ⟨collected | error | _, last⟩ <;> rfl
      · rw [Errand.runAll_of_error (writeErrand address data chunk) exchanged]
        rfl
      · rw [Errand.runAll_of_died (writeErrand address data chunk) exchanged]
        rfl

theorem writeBurst_stream (state : LinkState σ) (address : UInt8) (data : Array UInt8)
    (threshold : Nat) :
    (state.writeBurst address data threshold).map id (·.wire.stream) =
      (Errand.runPlanned
        ((Burst.plan data.size threshold).map (·.map (writeErrand address data)))
        state.wire.stream).map (·.map fun _ => ()) id := by
  rw [writeBurst]
  cases Burst.plan data.size threshold with
  | ok chunks => exact sendChunks_stream address data chunks state
  | error error => rfl

/-- What is collected without a destination is what the errands of the chunks bring back. -/
theorem collect_stream (address : UInt8) (chunks : List Burst.Chunk) (state : LinkState σ) :
    ((collect address chunks state).outcome.map fun _ => (collect address chunks state).bytes,
        (collect address chunks state).state.wire.stream) =
      Errand.runAll (chunks.map (readErrand address)) state.wire.stream := by
  induction chunks generalizing state with
  | nil => rfl
  | cons chunk rest ih =>
      rw [List.map_cons]
      rcases executed : state.execute (readCommand address chunk) with
        ⟨answer | error | _, next⟩ <;> have exchanged := exchangeOver_of_execute executed
      · by_cases short : answer.payload.length < chunk.length
        · rw [collect_of_short executed short,
            Errand.runAll_of_short (readErrand address chunk) exchanged short]
          rfl
        · have enough := Nat.le_of_not_lt short
          rw [collect_of_ok executed enough,
            Errand.runAll_of_enough (readErrand address chunk) exchanged enough, ← ih]
          rcases collect address rest next with ⟨_ | error | _, bytes, ending⟩ <;> rfl
      · rw [collect, executed, Errand.runAll_of_error (readErrand address chunk) exchanged]
        rfl
      · rw [collect, executed, Errand.runAll_of_died (readErrand address chunk) exchanged]
        rfl

/-- So the errands of a read burst bring back a byte for every place that it covers. -/
theorem length_of_done {size threshold offset : Nat} {chunks : List Burst.Chunk}
    (covers : Burst.Covers size threshold offset chunks) {address : UInt8} {stream last : σ}
    {data : List UInt8}
    (done : Errand.Done stream (chunks.map (readErrand address)) data last) :
    data.length = size - offset := by
  have collected := collect_stream address chunks { wire := { stream } }
  rw [Errand.runAll_eq_ok_iff.mpr done, Prod.ext_iff] at collected
  obtain ⟨_, well, rfl⟩ := Outcome.map_eq_ok_iff.mp collected.1
  exact length_collect covers well

/-- A read burst into a new destination gives the bytes that its errands bring back. -/
theorem filled_readBurst_stream (state : LinkState σ) (address : UInt8) (size threshold : Nat) :
    (state.readBurst address (Array.replicate size 0) threshold).filled.map id
        (·.wire.stream) =
      (Errand.runPlanned ((Burst.plan size threshold).map (·.map (readErrand address)))
        state.wire.stream).map (·.map List.toArray) id := by
  rw [readBurst, Array.size_replicate]
  cases planned : Burst.plan size threshold with
  | error error => rfl
  | ok chunks =>
      have covers := Burst.covers_of_plan planned
      have collected := collect_stream address chunks state
      simp only [Except.map, Errand.runPlanned, ← collected,
        gatherChunks_eq_collect covers, Gathering.filled, Harvest.into]
      rcases ended : collect address chunks state with ⟨_ | error | _, bytes, ending⟩
      · have whole : bytes.length = (Array.replicate size (0 : UInt8)).size := by
          simpa [ended] using length_collect covers (congrArg Harvest.outcome ended)
        rw [overwrite_whole whole]
        rfl
      · rfl
      · rfl

end LinkState

namespace Link

variable {σ : Type}

/-- An operation under the lock does to the stream of a link what it does to the stream of
any state. -/
theorem locked_stream {α : Type} (link : Link σ)
    {operation : LinkState σ → Outcome LinkError α × LinkState σ}
    (effect : σ → Outcome LinkError α × σ)
    (same : ∀ state, (operation state).map id (·.wire.stream) = effect state.wire.stream) :
    (link.locked operation).map id (·.wire.stream) = effect link.wire.stream := by
  rw [← link.stream_lock, locked]
  exact same link.lock.state

/-- The errand of reading a register, which brings back its value. -/
def readErrand (address : UInt8) : Errand :=
  ⟨readCommand address, 1⟩

/-- The errand of writing a register. -/
def writeErrand (address value : UInt8) : Errand :=
  ⟨writeCommand address value, 0⟩

variable [ByteStream σ]

theorem exchangeOver_of_locked {link next : Link σ} {command : Command}
    {outcome : Outcome LinkError Answer}
    (executed : link.locked (·.execute command) = (outcome, next)) :
    exchangeOver link.wire.stream command = (outcome, next.wire.stream) := by
  rw [LinkState.exchangeOver_eq_runOn,
    ← link.locked_stream (Dialogue.exchange command).runOn (·.execute_stream command), executed]
  rfl

theorem readBurst_stream (link : Link σ) (address : UInt8) (size : Nat) :
    (link.readBurst address size).map id (·.wire.stream) =
      (Errand.runPlanned
        ((Burst.plan size link.config.atomicRx).map (·.map (LinkState.readErrand address)))
        link.wire.stream).map (·.map List.toArray) id := by
  rw [readBurst]
  by_cases long : Burst.maxSize < size
  · rw [if_pos long, Burst.plan_of_long link.valid.rx_pos long]
    rfl
  · rw [if_neg long, readBurstInto_eq]
    exact link.locked_stream (fun stream => (Errand.runPlanned _ stream).map _ id)
      (·.filled_readBurst_stream address size link.config.atomicRx)

theorem writeBurst_stream (link : Link σ) (address : UInt8) (data : Array UInt8) :
    (link.writeBurst address data).map id (·.wire.stream) =
      (Errand.runPlanned
        ((Burst.plan data.size link.config.atomicTx).map
          (·.map (LinkState.writeErrand address data)))
        link.wire.stream).map (·.map fun _ => ()) id :=
  link.locked_stream (fun stream => (Errand.runPlanned _ stream).map _ id)
    (·.writeBurst_stream address data link.config.atomicTx)

end Link

namespace Console

/-! ## Operations of the console -/

namespace Operation

/-- The errands of an operation on a link with some settings, or why there are none. -/
def errands (config : LinkConfig) : Operation → Except LinkError (List Errand)
  | probe => .ok []
  | read address => .ok [Link.readErrand address]
  | write address value => .ok [Link.writeErrand address value]
  | dump address size =>
      (Burst.plan size config.atomicRx).map (·.map (LinkState.readErrand address))
  | load address payload =>
      (Burst.plan payload.size config.atomicTx).map
        (·.map (LinkState.writeErrand address payload))

/-- The result of an operation whose errands have brought back some bytes.  A read has
brought back the one that it needs. -/
def result (operation : Operation) (baudRate : UInt32) (config : LinkConfig) (path : String)
    (data : List UInt8) : Result :=
  match operation with
  | probe => .bridge path "usb-cdc-serial" baudRate config
  | read address => .register address (data.headD 0)
  | write address value => .register address value
  | dump address _ => .registers address data
  | load address payload => .loaded address payload.size

/-- An operation fails over a stream: it is refused, or one of its errands fails. -/
inductive Fails {σ : Type} [ByteStream σ] (operation : Operation) (config : LinkConfig)
    (stream : σ) (error : LinkError) : Prop where
  | refused (planned : operation.errands config = .error error)
  | errand {errands : List Errand} (planned : operation.errands config = .ok errands)
      (fails : Errand.Fails stream errands error)

variable {δ : Type} [ByteStream δ] [Release δ]

/-- An operation of the console runs its errands. -/
theorem perform_stream (operation : Operation) (baudRate : UInt32) (link : Link (SerialLine δ)) :
    (operation.perform baudRate link).map id (·.wire.stream) =
      (Errand.runPlanned (operation.errands link.config) link.wire.stream).map
        (·.map (operation.result baudRate link.config link.wire.stream.path)) id := by
  cases operation with
  | probe =>
      have identified : (identify baudRate link).1 =
          .ok (.bridge link.lock.wire.stream.path "usb-cdc-serial" baudRate
            link.lock.lock.config) := rfl
      rw [link.stream_lock, link.lock.config_lock, link.config_lock] at identified
      exact Prod.ext identified (link.lock.stream_lock.trans link.stream_lock)
  | read address =>
      rw [perform, Link.readRegister, errands, Errand.runPlanned]
      rcases executed : link.locked (·.execute (Link.readCommand address)) with
        ⟨⟨tag, echo, _ | ⟨value, payload⟩⟩ | error | _, next⟩ <;>
        have exchanged := Link.exchangeOver_of_locked executed
      · rw [Errand.runAll_of_short (Link.readErrand address) exchanged Nat.one_pos]
        rfl
      · rw [Errand.runAll_of_enough (Link.readErrand address) exchanged (Nat.le_add_left ..)]
        rfl
      · rw [Errand.runAll_of_error (Link.readErrand address) exchanged]
        rfl
      · rw [Errand.runAll_of_died (Link.readErrand address) exchanged]
        rfl
  | write address value =>
      rw [perform, Link.writeRegister, errands, Errand.runPlanned]
      rcases executed : link.locked (·.execute (Link.writeCommand address value)) with
        ⟨answer | error | _, next⟩ <;>
        have exchanged := Link.exchangeOver_of_locked executed
      · rw [Errand.runAll_of_enough (Link.writeErrand address value) exchanged (Nat.zero_le _)]
        rfl
      · rw [Errand.runAll_of_error (Link.writeErrand address value) exchanged]
        rfl
      · rw [Errand.runAll_of_died (Link.writeErrand address value) exchanged]
        rfl
  | dump address size =>
      have burst := link.readBurst_stream address size
      rw [perform, errands]
      generalize Errand.runPlanned _ link.wire.stream = ran at burst ⊢
      generalize link.readBurst address size = ended at burst ⊢
      rcases ended with ⟨outcome, next⟩
      rcases ran with ⟨data | error | _, last⟩ <;> cases burst <;> rfl
  | load address payload =>
      have burst := link.writeBurst_stream address payload
      rw [perform, errands]
      generalize Errand.runPlanned _ link.wire.stream = ran at burst ⊢
      generalize link.writeBurst address payload = ended at burst ⊢
      rcases ended with ⟨outcome, next⟩
      rcases ran with ⟨data | error | _, last⟩ <;> cases burst <;> rfl

/-- It succeeds exactly if they are all done, and gives what they bring back. -/
theorem perform_eq_ok_iff {operation : Operation} {link : Link (SerialLine δ)} {result : Result}
    {last : SerialLine δ} (baudRate : UInt32) :
    (∃ next, operation.perform baudRate link = (.ok result, next) ∧ next.wire.stream = last) ↔
      ∃ errands data, operation.errands link.config = .ok errands ∧
        Errand.Done link.wire.stream errands data last ∧
        operation.result baudRate link.config link.wire.stream.path data = result := by
  have ran := operation.perform_stream baudRate link
  constructor
  · rintro ⟨next, performed, rfl⟩
    rw [performed, Prod.ext_iff] at ran
    obtain ⟨succeeded, left⟩ := ran
    obtain ⟨data, succeeded, shown⟩ := Outcome.map_eq_ok_iff.mp succeeded.symm
    cases planned : operation.errands link.config with
    | error refusal =>
        rw [planned] at succeeded
        cases succeeded
    | ok errands =>
        rw [planned] at succeeded left
        have done := Errand.runAll_eq_ok_iff.mp (Prod.ext succeeded left.symm)
        exact ⟨errands, data, rfl, done, shown⟩
  · rintro ⟨errands, data, planned, done, rfl⟩
    rw [planned, Errand.runPlanned, Errand.runAll_eq_ok_iff.mpr done, Prod.ext_iff] at ran
    exact ⟨_, Prod.ext ran.1 rfl, ran.2⟩

/-- It fails exactly if it is refused or one of them fails, for the same reason. -/
theorem perform_eq_error_iff {operation : Operation} {link : Link (SerialLine δ)}
    {error : LinkError} (baudRate : UInt32) :
    (operation.perform baudRate link).1 = .error error ↔
      operation.Fails link.config link.wire.stream error := by
  have outcome_eq := congrArg Prod.fst (operation.perform_stream baudRate link)
  rw [Prod.map_fst, Prod.map_fst, id_eq] at outcome_eq
  rw [outcome_eq, Outcome.map_eq_error_iff]
  constructor
  · intro ran
    cases planned : operation.errands link.config with
    | error refusal =>
        rw [planned] at ran
        cases ran
        exact .refused planned
    | ok errands =>
        rw [planned] at ran
        exact .errand planned (Errand.runAll_eq_error_iff.mp ran)
  · rintro (planned | ⟨planned, fails⟩)
    · rw [planned, Errand.runPlanned]
    · rw [planned]
      exact Errand.runAll_eq_error_iff.mpr fails

end Operation

end Console

end RegisterBridge
