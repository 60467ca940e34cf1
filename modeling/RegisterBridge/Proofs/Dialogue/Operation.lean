import RegisterBridge.Link.Operation
import RegisterBridge.Proofs.Dialogue.Exchange

/-!
# Operations as dialogues

The handshake, the bursts and every operation of a link, once more as
dialogues.  An operation of a link is the run of its dialogue over the wire of
the link, after the lock is taken.
-/

namespace RegisterBridge

/-- The outcome of reading a register by an exchange. -/
def Link.registerOutcome : Outcome LinkError Answer → Outcome LinkError UInt8
  | .ok answer => registerValue answer
  | .error error => .error error
  | .died => .died

namespace Dialogue

/-- Judge the verdict in the payload of an answer to a version query. -/
def judgeVersion (expected : UInt32) : List UInt8 → Dialogue (Outcome LinkError Unit)
  | [] => report .emptyVersionAnswer (done (.ok ()))
  | verdict :: _ =>
      if verdict = versionRefused then done (.error (.versionMismatch expected))
      else done (.ok ())

/-- Ask the firmware whether it is compatible with a version. -/
def checkVersion (expected : UInt32) : Dialogue (Outcome LinkError Unit) :=
  (exchange (versionQuery expected)).andThen fun answer =>
    judgeVersion expected answer.payload

/-- Send the data of chunk after chunk. -/
def sendChunks (address : UInt8) (data : Array UInt8) :
    List Burst.Chunk → Dialogue (Outcome LinkError Unit)
  | [] => done (.ok ())
  | chunk :: rest =>
      (exchange (LinkState.writeCommand address data chunk)).andThen fun _ =>
        sendChunks address data rest

/-- Write data to consecutive registers. -/
def writeBurst (address : UInt8) (data : Array UInt8) (threshold : Nat) :
    Dialogue (Outcome LinkError Unit) :=
  match Burst.plan data.size threshold with
  | .ok chunks => sendChunks address data chunks
  | .error error => done (.error error)

/-- Request chunk after chunk and gather the answers.  The value comes with what
is left in the destination. -/
def gatherChunks (address : UInt8) :
    List Burst.Chunk → Array UInt8 → Dialogue (Outcome LinkError Unit × Array UInt8)
  | [], destination => done (.ok (), destination)
  | chunk :: rest, destination =>
    (exchange (LinkState.readCommand address chunk)).bind fun
      | .ok answer =>
          if answer.payload.length < chunk.length then
            done
              (.error (.shortAnswer (.burst .read chunk.kind) chunk.length
                answer.payload.length), destination)
          else
            gatherChunks address rest
              (overwrite destination chunk.offset (answer.payload.take chunk.length))
      | .error error => done (.error error, destination)
      | .died => done (.died, destination)

/-- Fill a destination from consecutive registers. -/
def readBurst (address : UInt8) (destination : Array UInt8) (threshold : Nat) :
    Dialogue (Outcome LinkError Unit × Array UInt8) :=
  match Burst.plan destination.size threshold with
  | .ok chunks => gatherChunks address chunks destination
  | .error error => done (.error error, destination)

/-- Fill a destination and give it back. -/
def readRange (address : UInt8) (destination : Array UInt8) (threshold : Nat) :
    Dialogue (Outcome LinkError (Array UInt8)) :=
  (readBurst address destination threshold).map fun (outcome, filled) =>
    outcome.map fun _ => filled

/-- What an operation says to the stream of a link with some settings. -/
def ofOperation (config : LinkConfig) : LinkOperation → Dialogue (Outcome LinkError Reading)
  | .checkVersion =>
      (checkVersion config.firmwareVersion).map (·.map fun _ => .nothing)
  | .readRegister address =>
      ((exchange (Link.readCommand address)).map Link.registerOutcome).map (·.map .register)
  | .writeRegister address value =>
      ((exchange (Link.writeCommand address value)).map (·.map fun _ => ())).map
        (·.map fun _ => .nothing)
  | .readBurst address size =>
      if Burst.maxSize < size then
        done (.error (.invalidArgument (.burstTooLong size Burst.maxSize)))
      else
        (readRange address (Array.replicate size 0) config.atomicRx).map (·.map .registers)
  | .readBurstInto address destination =>
      (readRange address destination config.atomicRx).map (·.map .registers)
  | .writeBurst address data =>
      (writeBurst address data config.atomicTx).map (·.map fun _ => .nothing)

end Dialogue

/-- The outcome and the destination of a read burst, and the wire it leaves. -/
def Gathering.view {σ : Type} (gathering : Gathering σ) :
    (Outcome LinkError Unit × Array UInt8) × Wire σ :=
  ((gathering.outcome, gathering.destination), gathering.state.wire)

variable {σ : Type} [ByteStream σ]

namespace LinkState

theorem judgeVersion_eq_run (state : LinkState σ) (expected : UInt32) (payload : List UInt8) :
    (state.judgeVersion expected payload).map id wire =
      (Dialogue.judgeVersion expected payload).run state.wire := by
  cases payload with
  | nil => rfl
  | cons verdict rest =>
      rw [judgeVersion, Dialogue.judgeVersion]
      split <;> rfl

theorem checkVersion_eq_run (state : LinkState σ) (expected : UInt32) :
    (state.checkVersion expected).map id wire =
      (Dialogue.checkVersion expected).run state.wire := by
  rw [checkVersion, Dialogue.checkVersion, Dialogue.run_andThen, ← state.execute_eq_run]
  rcases state.execute (versionQuery expected) with ⟨answer | error | _, next⟩
  · exact judgeVersion_eq_run next expected answer.payload
  · rfl
  · rfl

theorem sendChunks_eq_run (address : UInt8) (data : Array UInt8) (chunks : List Burst.Chunk)
    (state : LinkState σ) :
    (sendChunks address data chunks state).map id wire =
      (Dialogue.sendChunks address data chunks).run state.wire := by
  induction chunks generalizing state with
  | nil => rfl
  | cons chunk rest ih =>
      rw [sendChunks, Dialogue.sendChunks, Dialogue.run_andThen, ← state.execute_eq_run]
      rcases state.execute (writeCommand address data chunk) with ⟨answer | error | _, next⟩
      · exact ih next
      · rfl
      · rfl

theorem writeBurst_eq_run (state : LinkState σ) (address : UInt8) (data : Array UInt8)
    (threshold : Nat) :
    (state.writeBurst address data threshold).map id wire =
      (Dialogue.writeBurst address data threshold).run state.wire := by
  rw [writeBurst, Dialogue.writeBurst]
  cases Burst.plan data.size threshold with
  | ok chunks => exact sendChunks_eq_run address data chunks state
  | error error => rfl

theorem gatherChunks_eq_run (address : UInt8) (chunks : List Burst.Chunk)
    (destination : Array UInt8) (state : LinkState σ) :
    (gatherChunks address chunks destination state).view =
      (Dialogue.gatherChunks address chunks destination).run state.wire := by
  induction chunks generalizing destination state with
  | nil => rfl
  | cons chunk rest ih =>
      rw [gatherChunks, Dialogue.gatherChunks, Dialogue.run_bind, ← state.execute_eq_run]
      rcases state.execute (readCommand address chunk) with ⟨answer | error | _, next⟩
      · simp only [Prod.map, id_eq]
        split
        · rfl
        · exact ih _ next
      · rfl
      · rfl

theorem readBurst_eq_run (state : LinkState σ) (address : UInt8) (destination : Array UInt8)
    (threshold : Nat) :
    (state.readBurst address destination threshold).view =
      (Dialogue.readBurst address destination threshold).run state.wire := by
  rw [readBurst, Dialogue.readBurst]
  cases Burst.plan destination.size threshold with
  | ok chunks => exact gatherChunks_eq_run address chunks destination state
  | error error => rfl

end LinkState

@[simp]
theorem Link.isDied_registerOutcome (outcome : Outcome LinkError Answer) :
    (registerOutcome outcome).isDied = outcome.isDied := by
  rcases outcome with ⟨tag, address, _ | ⟨value, payload⟩⟩ | error | _ <;> rfl

/-- Whether an operation takes the lock.  A read of more registers than any
burst can have is refused before. -/
def LinkOperation.locks : LinkOperation → Bool
  | .readBurst _ size => decide (size ≤ Burst.maxSize)
  | _ => true

namespace Link

/-- What a dialogue makes of a link when it is run over the wire `entry`: its
value is the outcome, and the link stays as it was but for its wire and, when
the caller dies, its lock. -/
structure Ran {α : Type} (link : Link σ) (entry : Wire σ)
    (dialogue : Dialogue (Outcome LinkError α)) (ended : Outcome LinkError α × Link σ) :
    Prop where
  outcome : ended.1 = (dialogue.run entry).1
  wire : ended.2.wire = (dialogue.run entry).2
  config : ended.2.config = link.config
  poisoned : ended.2.poisoned = (link.poisoned || ended.1.isDied)

/-- The outcome may be put in other words, but not a death. -/
theorem Ran.map {α β : Type} {link : Link σ} {entry : Wire σ}
    {dialogue : Dialogue (Outcome LinkError α)} {ended : Outcome LinkError α × Link σ}
    (ran : link.Ran entry dialogue ended) {f : Outcome LinkError α → Outcome LinkError β}
    (deaths : ∀ outcome, (f outcome).isDied = outcome.isDied) :
    link.Ran entry (dialogue.map f) (f ended.1, ended.2) where
  outcome := by rw [ran.outcome, Dialogue.run_map]
  wire := by rw [ran.wire, Dialogue.run_map]
  config := ran.config
  poisoned := by rw [ran.poisoned, deaths]

omit [ByteStream σ] in
/-- The wire after the lock is taken. -/
theorem wire_lock (link : Link σ) :
    link.lock.wire = if link.poisoned then link.wire.report .poisonedLock else link.wire := by
  rw [lock]
  split <;> rfl

omit [ByteStream σ] in
/-- Taking the lock makes no call. -/
theorem transcript_lock (link : Link σ) : link.lock.wire.transcript = link.wire.transcript := by
  rw [wire_lock]
  split <;> rfl

omit [ByteStream σ] in
theorem config_lock (link : Link σ) : link.lock.config = link.config := by
  rw [lock]
  split <;> rfl

omit [ByteStream σ] in
theorem stream_lock (link : Link σ) : link.lock.wire.stream = link.wire.stream := by
  rw [wire_lock]
  split <;> rfl

/-- An operation under the lock is the run of its dialogue. -/
theorem ran_locked {α : Type} (link : Link σ)
    {operation : LinkState σ → Outcome LinkError α × LinkState σ}
    {dialogue : Dialogue (Outcome LinkError α)}
    (same : ∀ state, (operation state).map id LinkState.wire = dialogue.run state.wire) :
    link.Ran link.lock.wire dialogue (link.locked operation) := by
  have config_lock := link.config_lock
  have poisoned_lock : link.lock.poisoned = link.poisoned := by
    rw [lock]
    split <;> rfl
  rw [locked]
  rcases taken : link.lock with ⟨config, valid, state, poisoned⟩
  rw [taken] at config_lock poisoned_lock
  have equal := same state
  exact ⟨congrArg Prod.fst equal, congrArg Prod.snd equal, config_lock,
    congrArg (· || (operation state).1.isDied) poisoned_lock⟩

theorem ran_readBurstInto (link : Link σ) (address : UInt8) (destination : Array UInt8) :
    link.Ran link.lock.wire (Dialogue.readRange address destination link.config.atomicRx)
      (link.readBurstInto address destination) := by
  rw [readBurstInto]
  apply link.ran_locked
  intro state
  rw [Dialogue.readRange, Dialogue.run_map, ← state.readBurst_eq_run]
  rfl

theorem ran_readRegister (link : Link σ) (address : UInt8) :
    link.Ran link.lock.wire ((Dialogue.exchange (readCommand address)).map registerOutcome)
      (link.readRegister address) := by
  have split_eq : link.readRegister address =
      (registerOutcome (link.locked (·.execute (readCommand address))).1,
        (link.locked (·.execute (readCommand address))).2) := by
    rw [readRegister]
    rcases link.locked (·.execute (readCommand address)) with ⟨answer | error | _, ending⟩ <;>
      rfl
  rw [split_eq]
  exact (link.ran_locked fun state => state.execute_eq_run _).map isDied_registerOutcome

/-- Every operation of a link is the run of its dialogue, and the lock is taken
first where there is a need. -/
theorem ran_perform (link : Link σ) (operation : LinkOperation) :
    link.Ran (if operation.locks then link.lock.wire else link.wire)
      (Dialogue.ofOperation link.config operation) (link.perform operation) := by
  cases operation with
  | checkVersion =>
      exact (link.ran_locked fun state => state.checkVersion_eq_run _).map
        (Outcome.isDied_map _)
  | readRegister address =>
      exact (link.ran_readRegister address).map (Outcome.isDied_map _)
  | writeRegister address value =>
      exact ((link.ran_locked fun state => state.execute_eq_run _).map
        (Outcome.isDied_map _)).map (Outcome.isDied_map _)
  | readBurst address size =>
      by_cases long : Burst.maxSize < size
      · have untaken : (LinkOperation.readBurst address size).locks = false := by
          simpa [LinkOperation.locks] using long
        rw [perform, readBurst, if_pos long, Dialogue.ofOperation, if_pos long, untaken]
        exact ⟨rfl, rfl, rfl, by simp [Outcome.isDied, Outcome.map]⟩
      · have taken : (LinkOperation.readBurst address size).locks = true := by
          simpa [LinkOperation.locks] using long
        rw [perform, readBurst, if_neg long, Dialogue.ofOperation, if_neg long, taken]
        exact (link.ran_readBurstInto address _).map (Outcome.isDied_map _)
  | readBurstInto address destination =>
      exact (link.ran_readBurstInto address destination).map (Outcome.isDied_map _)
  | writeBurst address data =>
      exact (link.ran_locked fun state => state.writeBurst_eq_run address data _).map
        (Outcome.isDied_map _)

/-- But for the record, an operation of a link is its dialogue over the stream. -/
theorem perform_runOn (link : Link σ) (operation : LinkOperation) :
    (link.perform operation).map id (·.wire.stream) =
      (Dialogue.ofOperation link.config operation).runOn link.wire.stream := by
  have ran := link.ran_perform operation
  have entry_stream :
      (if operation.locks then link.lock.wire else link.wire).stream = link.wire.stream := by
    cases operation.locks
    · rfl
    · exact link.stream_lock
  rw [← entry_stream, ← Dialogue.run_stream]
  exact Prod.ext ran.outcome (congrArg Wire.stream ran.wire)

end Link

end RegisterBridge
