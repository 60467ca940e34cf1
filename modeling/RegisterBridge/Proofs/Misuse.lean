import RegisterBridge.Proofs.Dialogue.Endings
import RegisterBridge.Stream.Scripted

/-!
# Misuse touches nothing

An operation that is called with arguments it does not take fails before it says
anything to the stream.  The main statement is that this holds of every failure
of these kinds, for all sizes and all chunk limits, and that a link with valid
settings misuses nothing but bursts of a size that no burst can have.
-/

namespace RegisterBridge

/-- The size of an operation that is a burst. -/
def LinkOperation.burstSize? : LinkOperation → Option Nat
  | .readBurst _ size => some size
  | .readBurstInto _ destination => some destination.size
  | .writeBurst _ data => some data.size
  | _ => none

/-- The failure of an operation whose burst has a size that no burst can have. -/
def LinkOperation.sizeFault? (operation : LinkOperation) : Option LinkError :=
  operation.burstSize?.bind RegisterFile.sizeFault?

namespace LinkOperation

/-- The size of a burst is refused as a state exactly if there is nothing to
transfer. -/
theorem sizeFault_invalidState_iff (operation : LinkOperation) :
    (∃ error, operation.sizeFault? = some error ∧ error.kind = .invalidState) ↔
      operation.burstSize? = some 0 := by
  rw [sizeFault?]
  cases operation.burstSize? with
  | none => simp
  | some size =>
      by_cases empty : size = 0
      · simp [RegisterFile.sizeFault?, empty, LinkError.kind]
      · by_cases long : Burst.maxSize < size <;>
          simp [RegisterFile.sizeFault?, empty, long, LinkError.kind]

/-- It is refused as an argument exactly if there is too much. -/
theorem sizeFault_invalidArgument_iff (operation : LinkOperation) :
    (∃ error, operation.sizeFault? = some error ∧ error.kind = .invalidArgument) ↔
      ∃ size, operation.burstSize? = some size ∧ Burst.maxSize < size := by
  rw [sizeFault?]
  cases operation.burstSize? with
  | none => simp
  | some size =>
      by_cases empty : size = 0
      · simp [RegisterFile.sizeFault?, empty, LinkError.kind]
      · by_cases long : Burst.maxSize < size <;>
          simp [RegisterFile.sizeFault?, empty, long, LinkError.kind]

end LinkOperation

namespace Dialogue

variable {threshold : Nat} {fault : Option LinkError}

/-- If there is a fault, the dialogue is refused for it without a word to the
stream; if there is none, what goes wrong is not the caller's. -/
def RefusedFor {α : Type} (fault : Option LinkError) (dialogue : Dialogue (Outcome LinkError α)) :
    Prop :=
  match fault with
  | some error => dialogue = done (.error error)
  | none => dialogue.EndsIn Outcome.Blameless

/-- A value may be put in other words. -/
theorem RefusedFor.map {α β : Type} {dialogue : Dialogue (Outcome LinkError α)}
    (refused : dialogue.RefusedFor fault) (f : α → β) :
    (dialogue.map (·.map f)).RefusedFor fault := by
  cases fault with
  | some error =>
      have same : dialogue = done (.error error) := refused
      rw [same]
      rfl
  | none => exact EndsIn.blameless_map refused f

/-- A write burst is refused for its size alone. -/
theorem writeBurst_refusedFor (positive : 0 < threshold) (fits : threshold ≤ maxCommandPayload)
    (address : UInt8) (data : Array UInt8) :
    (writeBurst address data threshold).RefusedFor (RegisterFile.sizeFault? data.size) := by
  rw [writeBurst]
  cases fault : RegisterFile.sizeFault? data.size with
  | some error =>
      rw [RegisterFile.plan_of_sizeFault positive fault]
      rfl
  | none =>
      obtain ⟨_, chunks, planned, covers⟩ := RegisterFile.exists_plan_of_no_fault positive fault
      rw [planned]
      exact blameless_sendChunks (LinkState.fits_writeCommand covers fits address)

/-- A read burst is refused for its size alone. -/
theorem readRange_refusedFor (positive : 0 < threshold) (address : UInt8)
    (destination : Array UInt8) :
    (readRange address destination threshold).RefusedFor
      (RegisterFile.sizeFault? destination.size) := by
  rw [readRange, readBurst]
  cases fault : RegisterFile.sizeFault? destination.size with
  | some error =>
      rw [RegisterFile.plan_of_sizeFault positive fault]
      rfl
  | none =>
      obtain ⟨_, chunks, planned, _⟩ := RegisterFile.exists_plan_of_no_fault positive fault
      rw [planned]
      apply (blameless_gatherChunks address chunks destination).map
      intro ended blameless
      exact blameless.map _

/-- Reading a number of registers is filling as many zeros: the size that is
checked first is refused by the plan in the same words. -/
theorem ofOperation_readBurst {config : LinkConfig} (valid : config.Valid) (address : UInt8)
    (size : Nat) :
    ofOperation config (.readBurst address size) =
      ofOperation config (.readBurstInto address (Array.replicate size 0)) := by
  rw [ofOperation, ofOperation]
  split
  · rename_i long
    have nonempty : size ≠ 0 := Nat.ne_of_gt (Nat.zero_lt_of_lt long)
    have refused := readRange_refusedFor valid.rx_pos address (Array.replicate size 0)
    rw [Array.size_replicate, RegisterFile.sizeFault?, if_neg nonempty, if_pos long] at refused
    have same : readRange address (Array.replicate size 0) config.atomicRx = done (.error _) :=
      refused
    rw [same]
    rfl
  · rfl

/-- With valid settings an operation is refused for the size of its burst alone. -/
theorem ofOperation_refusedFor {config : LinkConfig} (valid : config.Valid)
    (operation : LinkOperation) :
    (ofOperation config operation).RefusedFor operation.sizeFault? := by
  cases operation with
  | checkVersion => exact (blameless_checkVersion _).blameless_map _
  | readRegister address =>
      have exchanged : (exchange (Link.readCommand address)).EndsIn Outcome.Blameless :=
        blameless_exchange (Link.fits_readCommand address)
      have registered := exchanged.map fun _ blameless => blameless.registerOutcome
      exact registered.blameless_map _
  | writeRegister address value =>
      have exchanged : (exchange (Link.writeCommand address value)).EndsIn Outcome.Blameless :=
        blameless_exchange (Link.fits_writeCommand address value)
      exact (exchanged.blameless_map _).blameless_map _
  | readBurst address size =>
      have refused := readRange_refusedFor valid.rx_pos address (Array.replicate size 0)
      rw [Array.size_replicate] at refused
      rw [ofOperation_readBurst valid]
      exact refused.map _
  | readBurstInto address destination =>
      exact (readRange_refusedFor valid.rx_pos address destination).map _
  | writeBurst address data =>
      exact (writeBurst_refusedFor valid.tx_pos valid.tx_le address data).map _

end Dialogue

variable {σ : Type} [ByteStream σ]

namespace LinkState

/-- A state over a stream that never answers. -/
def silent : LinkState Scripted :=
  { wire := { stream := {} } }

/-- An exchange that fails as misuse leaves the wire as it was. -/
theorem wire_execute_of_misuse {state : LinkState σ} {command : Command} {error : LinkError}
    (failed : (state.execute command).1 = .error error) (misuse : error.IsMisuse) :
    (state.execute command).2.wire = state.wire := by
  have ran := state.execute_eq_run command
  by_cases fits : command.payload.length ≤ maxCommandPayload
  · have blameless := (Dialogue.blameless_exchange fits).run state.wire
    rw [← ran] at blameless
    exact absurd misuse (blameless error failed)
  · rw [Dialogue.exchange_of_too_large fits] at ran
    exact congrArg Prod.snd ran

/-- So does a write burst, whatever its chunk limit. -/
theorem wire_writeBurst_of_misuse {state : LinkState σ} {address : UInt8} {data : Array UInt8}
    {threshold : Nat} {error : LinkError}
    (failed : (state.writeBurst address data threshold).1 = .error error)
    (misuse : error.IsMisuse) : (state.writeBurst address data threshold).2.wire = state.wire := by
  have ran := state.writeBurst_eq_run address data threshold
  rcases Dialogue.writeBurst_refused_or_blameless address data threshold with
    ⟨refusal, refused⟩ | ends
  · rw [refused] at ran
    exact congrArg Prod.snd ran
  · have blameless := ends.run state.wire
    rw [← ran] at blameless
    exact absurd misuse (blameless error failed)

/-- So does a read burst, and its destination is as it was. -/
theorem view_readBurst_of_misuse {state : LinkState σ} {address : UInt8}
    {destination : Array UInt8} {threshold : Nat} {error : LinkError}
    (failed : (state.readBurst address destination threshold).outcome = .error error)
    (misuse : error.IsMisuse) :
    (state.readBurst address destination threshold).state.wire = state.wire ∧
      (state.readBurst address destination threshold).destination = destination := by
  have ran := state.readBurst_eq_run address destination threshold
  rcases Dialogue.readBurst_refused_or_blameless address destination threshold with
    ⟨refusal, refused⟩ | ends
  · rw [refused] at ran
    exact ⟨congrArg Prod.snd ran, congrArg (·.1.2) ran⟩
  · have blameless := ends.run state.wire
    rw [← ran] at blameless
    exact absurd misuse (blameless error failed)

end LinkState

namespace Link

/-- On a link a burst fails as misuse exactly for its size, and nothing else does. -/
theorem outcome_perform_misuse (link : Link σ) (operation : LinkOperation) :
    match operation.sizeFault? with
    | some error => (link.perform operation).1 = .error error
    | none => (link.perform operation).1.Blameless := by
  have refused := Dialogue.ofOperation_refusedFor link.valid operation
  rw [(link.ran_perform operation).outcome]
  cases fault : operation.sizeFault? with
  | some error =>
      rw [fault] at refused
      have same : Dialogue.ofOperation link.config operation = .done (.error error) := refused
      dsimp only
      rw [same]
      rfl
  | none =>
      rw [fault] at refused
      exact Dialogue.EndsIn.run refused _

/-- Such a failure is a fault of the size. -/
theorem fails_iff_sizeFault (link : Link σ) (operation : LinkOperation) {kind : ErrorKind}
    (misuse : kind = .invalidArgument ∨ kind = .invalidState) :
    (∃ error, (link.perform operation).1 = .error error ∧ error.kind = kind) ↔
      ∃ error, operation.sizeFault? = some error ∧ error.kind = kind := by
  have ended := link.outcome_perform_misuse operation
  cases fault : operation.sizeFault? with
  | some error =>
      rw [fault] at ended
      have failed : (link.perform operation).1 = .error error := ended
      simp [failed]
  | none =>
      rw [fault] at ended
      have blameless : (link.perform operation).1.Blameless := ended
      constructor
      · rintro ⟨error, failed, rfl⟩
        exact absurd misuse (blameless error failed)
      · rintro ⟨error, impossible, _⟩
        contradiction

/-- Misuse touches nothing.  If an exchange or a burst fails for its arguments,
whatever they and the chunk limit are, no call has been made on the stream, and the
destination of a read burst is as it was.  On a link, whose settings are valid, a
burst fails so exactly if it is empty or too long, and other operations never do. -/
theorem misuse_touches_nothing :
    (∀ (state : LinkState σ) command error, error.IsMisuse →
      (state.execute command).1 = .error error →
        (state.execute command).2.wire = state.wire) ∧
    (∀ (state : LinkState σ) address data threshold error, error.IsMisuse →
      (state.writeBurst address data threshold).1 = .error error →
        (state.writeBurst address data threshold).2.wire = state.wire) ∧
    (∀ (state : LinkState σ) address destination threshold error, error.IsMisuse →
      (state.readBurst address destination threshold).outcome = .error error →
        (state.readBurst address destination threshold).state.wire = state.wire ∧
          (state.readBurst address destination threshold).destination = destination) ∧
    ∀ (link : Link σ) (operation : LinkOperation),
      ((∃ error, (link.perform operation).1 = .error error ∧ error.kind = .invalidState) ↔
        operation.burstSize? = some 0) ∧
      ((∃ error, (link.perform operation).1 = .error error ∧ error.kind = .invalidArgument) ↔
        ∃ size, operation.burstSize? = some size ∧ Burst.maxSize < size) := by
  refine ⟨fun state command error misuse failed => LinkState.wire_execute_of_misuse failed misuse,
    fun state address data threshold error misuse failed =>
      LinkState.wire_writeBurst_of_misuse failed misuse,
    fun state address destination threshold error misuse failed =>
      LinkState.view_readBurst_of_misuse failed misuse, fun link operation => ⟨?_, ?_⟩⟩
  · rw [link.fails_iff_sizeFault operation (.inr rfl)]
    exact operation.sizeFault_invalidState_iff
  · rw [link.fails_iff_sizeFault operation (.inl rfl)]
    exact operation.sizeFault_invalidArgument_iff

/-- A write burst whose chunks are longer than any command, an exchange of such a
command and an empty read burst leave a stream alone that would not answer. -/
theorem misuse_touches_nothing_silent :
    (LinkState.silent.execute ⟨.writeRegister, 8, List.replicate 601 7⟩).1 =
      .error (.frame (.payloadTooLarge 601 600)) ∧
    (LinkState.silent.execute ⟨.writeRegister, 8, List.replicate 601 7⟩).2.wire =
      LinkState.silent.wire ∧
    (LinkState.silent.writeBurst 8 (Array.replicate 1301 7) 700).1 =
      .error (.frame (.payloadTooLarge 700 600)) ∧
    (LinkState.silent.writeBurst 8 (Array.replicate 1301 7) 700).2.wire =
      LinkState.silent.wire ∧
    (LinkState.silent.readBurst 8 #[] 5000).outcome = .error (.invalidState .emptyChunk) ∧
    (LinkState.silent.readBurst 8 #[] 5000).state.wire = LinkState.silent.wire := by
  have executed : (LinkState.silent.execute ⟨.writeRegister, 8, List.replicate 601 7⟩).1 =
      .error (.frame (.payloadTooLarge 601 600)) := by decide +kernel
  have refused (data : Array UInt8) (size_eq : data.size = 1301) :
      (LinkState.silent.writeBurst 8 data 700).1 = .error (.frame (.payloadTooLarge 700 600)) := by
    have length_eq : (LinkState.writeCommand 8 data ⟨.first, 0, 700⟩).payload.length = 700 :=
      LinkState.length_payload_writeCommand (by rw [size_eq]; decide)
    have ran := LinkState.silent.writeBurst_eq_run 8 data 700
    have planned : Burst.plan 1301 700 = .ok [⟨.first, 0, 700⟩, ⟨.final, 700, 601⟩] := rfl
    rw [Dialogue.writeBurst, size_eq, planned] at ran
    dsimp only at ran
    rw [Dialogue.sendChunks, Dialogue.exchange_of_too_large (by rw [length_eq]; decide),
      length_eq] at ran
    exact congrArg Prod.fst ran
  have written := refused (Array.replicate 1301 7) Array.size_replicate
  have read : (LinkState.silent.readBurst 8 #[] 5000).outcome =
      .error (.invalidState .emptyChunk) := rfl
  obtain ⟨execute_quiet, write_quiet, read_quiet, _⟩ := @misuse_touches_nothing Scripted _
  exact ⟨executed, execute_quiet _ _ _ (.inl rfl) executed, written,
    write_quiet _ _ _ _ _ (.inl rfl) written, read,
    (read_quiet _ _ _ _ _ (.inr rfl) read).1⟩

end Link

end RegisterBridge
