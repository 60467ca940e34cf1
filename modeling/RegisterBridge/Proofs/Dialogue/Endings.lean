import RegisterBridge.Proofs.Burst.Layout
import RegisterBridge.Proofs.Dialogue.Operation

/-!
# What a dialogue can end with

A stream may answer as it likes, but what can go wrong in a dialogue is bounded
by the dialogue itself.  An exchange of a command within the limit fails only with
what comes from the stream, and so does a burst once its first command is within
the limit, for no later chunk is longer.
-/

namespace RegisterBridge

/-- If the outcome is a failure, its cause is one of the allowed ones. -/
def Outcome.FailsOnly {ε α : Type} (outcome : Outcome ε α) (allowed : ε → Prop) : Prop :=
  ∀ cause, outcome = .error cause → allowed cause

namespace Outcome

variable {ε φ α β : Type} {allowed other : ε → Prop} {outcome : Outcome ε α}

@[simp]
theorem failsOnly_ok (value : α) : (ok value : Outcome ε α).FailsOnly allowed := by
  simp [FailsOnly]

@[simp]
theorem failsOnly_died : (died : Outcome ε α).FailsOnly allowed := by
  simp [FailsOnly]

@[simp]
theorem failsOnly_error_iff {cause : ε} :
    (error cause : Outcome ε α).FailsOnly allowed ↔ allowed cause := by
  simp [FailsOnly]

theorem failsOnly_map_iff {f : α → β} :
    (outcome.map f).FailsOnly allowed ↔ outcome.FailsOnly allowed := by
  cases outcome <;> simp [map]

theorem FailsOnly.map (fails : outcome.FailsOnly allowed) (f : α → β) :
    (outcome.map f).FailsOnly allowed :=
  failsOnly_map_iff.mpr fails

theorem FailsOnly.mapError (fails : outcome.FailsOnly allowed) {f : ε → φ} {wider : φ → Prop}
    (covers : ∀ cause, allowed cause → wider (f cause)) :
    (outcome.mapError f).FailsOnly wider := by
  cases outcome with
  | ok value => exact failsOnly_ok _
  | error cause => exact failsOnly_error_iff.mpr (covers cause (fails cause rfl))
  | died => exact failsOnly_died

theorem FailsOnly.mono (fails : outcome.FailsOnly allowed)
    (wider : ∀ cause, allowed cause → other cause) : outcome.FailsOnly other :=
  fun cause failed => wider cause (fails cause failed)

end Outcome

namespace Dialogue

variable {α β ε : Type}

/-- Whatever the stream does, the value at the end is an allowed one. -/
def EndsIn (allowed : α → Prop) : Dialogue α → Prop
  | done value => allowed value
  | report _ rest => rest.EndsIn allowed
  | poll rest => ∀ got, (rest got).EndsIn allowed
  | fetch _ _ rest => ∀ got, (rest got).EndsIn allowed
  | offer _ rest => ∀ taken, (rest taken).EndsIn allowed

variable {allowed : α → Prop} {dialogue : Dialogue α}

theorem EndsIn.run {σ : Type} [ByteStream σ] (ends : dialogue.EndsIn allowed) (wire : Wire σ) :
    allowed (dialogue.run wire).1 := by
  induction dialogue generalizing wire with
  | done value => exact ends
  | report event rest ih => exact ih ends (wire.report event)
  | poll rest ih => exact ih _ (ends _) _
  | fetch purpose want rest ih => exact ih _ (ends _) _
  | offer bytes rest ih => exact ih _ (ends _) _

theorem EndsIn.bind {next : α → Dialogue β} {wanted : β → Prop}
    (ends : dialogue.EndsIn allowed)
    (goesOn : ∀ value, allowed value → (next value).EndsIn wanted) :
    (dialogue.bind next).EndsIn wanted := by
  induction dialogue with
  | done value => exact goesOn value ends
  | report event rest ih => exact ih ends
  | poll rest ih => exact fun got => ih got (ends got)
  | fetch purpose want rest ih => exact fun got => ih got (ends got)
  | offer bytes rest ih => exact fun taken => ih taken (ends taken)

theorem EndsIn.map {f : α → β} {wanted : β → Prop} (ends : dialogue.EndsIn allowed)
    (maps : ∀ value, allowed value → wanted (f value)) : (dialogue.map f).EndsIn wanted :=
  ends.bind maps

theorem EndsIn.mono {wider : α → Prop} (ends : dialogue.EndsIn allowed)
    (implies : ∀ value, allowed value → wider value) : dialogue.EndsIn wider := by
  induction dialogue with
  | done value => exact implies value ends
  | report event rest ih => exact ih ends
  | poll rest ih => exact fun got => ih got (ends got)
  | fetch purpose want rest ih => exact fun got => ih got (ends got)
  | offer bytes rest ih => exact fun taken => ih taken (ends taken)

/-- Failures of the first dialogue are failures of both. -/
theorem EndsIn.andThen {causes : ε → Prop} {dialogue : Dialogue (Outcome ε α)}
    {next : α → Dialogue (Outcome ε β)} (ends : dialogue.EndsIn (·.FailsOnly causes))
    (goesOn : ∀ value, (next value).EndsIn (·.FailsOnly causes)) :
    (dialogue.andThen next).EndsIn (·.FailsOnly causes) := by
  apply ends.bind
  intro outcome fails
  cases outcome with
  | ok value => exact goesOn value
  | error cause => exact Outcome.failsOnly_error_iff.mpr (fails cause rfl)
  | died => exact Outcome.failsOnly_died

end Dialogue

/-! ## Exchanges -/

/-- The error is not the fault of the command. -/
def FrameError.FromStream : FrameError → Prop
  | .payloadTooLarge .. => False
  | _ => True

/-- The error comes from an exchange, and from the stream. -/
def LinkError.FromStream (error : LinkError) : Prop :=
  ∃ cause : FrameError, error = .frame cause ∧ cause.FromStream

namespace Dialogue

theorem endsIn_awaitHeader (attempts : Nat) :
    (awaitHeader attempts).EndsIn (·.FailsOnly FrameError.FromStream) := by
  induction attempts with
  | zero => exact Outcome.failsOnly_error_iff.mpr trivial
  | succ attempts ih =>
      rintro (bytes | error | _)
      · cases judged : Poll.ofBytes bytes with
        | found tag header => simp [judged, EndsIn]
        | torn received => simp [judged, EndsIn, FrameError.FromStream]
        | unsuccessful => simpa [judged] using ih
      · exact ih
      · exact Outcome.failsOnly_died

theorem endsIn_body (tag : Tag) (header : Header) :
    (body tag header).EndsIn (·.FailsOnly FrameError.FromStream) := by
  unfold body
  dsimp only
  split
  · exact Outcome.failsOnly_ok _
  · rintro (data | error | _)
    · dsimp only
      split
      · exact Outcome.failsOnly_error_iff.mpr trivial
      · exact Outcome.failsOnly_ok _
    · dsimp only
      split <;> exact Outcome.failsOnly_error_iff.mpr trivial
    · exact Outcome.failsOnly_died

/-- Nothing is allowed to fail in a drain, so nothing about it has to be shown. -/
theorem endsIn_trivial {α : Type} (dialogue : Dialogue α) :
    dialogue.EndsIn fun _ => True := by
  induction dialogue with
  | done value => trivial
  | report event rest ih => exact ih
  | poll rest ih => exact ih
  | fetch purpose want rest ih => exact ih
  | offer bytes rest ih => exact ih

theorem endsIn_rest (tag : Tag) (header : Header) :
    (rest tag header).EndsIn (·.FailsOnly FrameError.FromStream) := by
  unfold rest
  split
  · exact endsIn_body tag header
  · apply (endsIn_trivial _).bind
    rintro (_ | impossible | _) _
    · exact Outcome.failsOnly_error_iff.mpr trivial
    · exact impossible.elim
    · exact Outcome.failsOnly_died

/-- Awaiting an answer fails only for what the stream does. -/
theorem endsIn_answer : answer.EndsIn (·.FailsOnly FrameError.FromStream) :=
  (endsIn_awaitHeader maxHeaderPolls).andThen fun (tag, header) => endsIn_rest tag header

theorem endsIn_transmit (command : Command) :
    (transmit command).EndsIn (·.FailsOnly FrameError.FromStream) := by
  rintro (written | error | _)
  · dsimp only
    split <;> exact Outcome.failsOnly_ok _
  · exact Outcome.failsOnly_error_iff.mpr trivial
  · exact Outcome.failsOnly_died

/-- An exchange of a command within the limit fails only for what the stream does. -/
theorem endsIn_exchange {command : Command}
    (fits : command.payload.length ≤ maxCommandPayload) :
    (exchange command).EndsIn (·.FailsOnly LinkError.FromStream) := by
  rw [exchange, send, if_pos fits]
  apply ((endsIn_transmit command).andThen fun _ => endsIn_answer).map
  intro outcome fails
  exact fails.mapError fun cause fromStream => ⟨cause, rfl, fromStream⟩

/-- A command beyond the limit is refused without a word to the stream. -/
theorem exchange_of_too_large {command : Command}
    (large : ¬command.payload.length ≤ maxCommandPayload) :
    exchange command =
      done (.error (.frame (.payloadTooLarge command.payload.length maxCommandPayload))) := by
  rw [exchange, send, if_neg large]
  rfl

end Dialogue

/-! ## Misuse -/

/-- The failure is the caller's: an argument or a state that the operation does
not take. -/
def LinkError.IsMisuse (error : LinkError) : Prop :=
  error.kind = .invalidArgument ∨ error.kind = .invalidState

/-- What comes from the stream is not the caller's fault. -/
theorem LinkError.FromStream.not_isMisuse {error : LinkError} (fromStream : error.FromStream) :
    ¬error.IsMisuse := by
  obtain ⟨cause, rfl, outside⟩ := fromStream
  cases cause with
  | payloadTooLarge size max => exact outside.elim
  | _ => simp [IsMisuse, kind, FrameError.kind]

/-- The outcome is not a failure of the caller's. -/
def Outcome.Blameless {α : Type} (outcome : Outcome LinkError α) : Prop :=
  outcome.FailsOnly fun error => ¬error.IsMisuse

/-- An answer without a value is too short, which is not the caller's fault. -/
theorem Outcome.Blameless.registerOutcome {exchanged : Outcome LinkError Answer}
    (blameless : exchanged.Blameless) : (Link.registerOutcome exchanged).Blameless := by
  rcases exchanged with ⟨tag, address, _ | ⟨value, payload⟩⟩ | error | _
  · exact failsOnly_error_iff.mpr (by simp [LinkError.IsMisuse, LinkError.kind])
  · exact failsOnly_ok _
  · exact failsOnly_error_iff.mpr (blameless error rfl)
  · exact failsOnly_died

namespace Dialogue

/-- A value may be put in other words. -/
theorem EndsIn.blameless_map {α β : Type} {dialogue : Dialogue (Outcome LinkError α)}
    (ends : dialogue.EndsIn Outcome.Blameless) (f : α → β) :
    (dialogue.map (·.map f)).EndsIn Outcome.Blameless :=
  ends.map fun _ blameless => Outcome.FailsOnly.map blameless f

theorem blameless_exchange {command : Command}
    (fits : command.payload.length ≤ maxCommandPayload) :
    (exchange command).EndsIn Outcome.Blameless :=
  (endsIn_exchange fits).mono fun _ fails => fails.mono fun _ => LinkError.FromStream.not_isMisuse

theorem blameless_checkVersion (expected : UInt32) :
    (checkVersion expected).EndsIn Outcome.Blameless := by
  apply (blameless_exchange (fits_versionQuery expected)).andThen
  rintro ⟨tag, address, _ | ⟨verdict, payload⟩⟩
  · exact Outcome.failsOnly_ok _
  · dsimp only [judgeVersion]
    split
    · exact Outcome.failsOnly_error_iff.mpr (by simp [LinkError.IsMisuse, LinkError.kind])
    · exact Outcome.failsOnly_ok _

theorem blameless_sendChunks {address : UInt8} {data : Array UInt8} {chunks : List Burst.Chunk}
    (fits : ∀ chunk ∈ chunks,
      (LinkState.writeCommand address data chunk).payload.length ≤ maxCommandPayload) :
    (sendChunks address data chunks).EndsIn Outcome.Blameless := by
  induction chunks with
  | nil => exact Outcome.failsOnly_ok _
  | cons chunk rest ih =>
      apply (blameless_exchange (fits chunk List.mem_cons_self)).andThen
      intro _
      exact ih fun other member => fits other (List.mem_cons_of_mem chunk member)

theorem blameless_gatherChunks (address : UInt8) (chunks : List Burst.Chunk)
    (destination : Array UInt8) :
    (gatherChunks address chunks destination).EndsIn fun ended => ended.1.Blameless := by
  induction chunks generalizing destination with
  | nil => exact Outcome.failsOnly_ok _
  | cons chunk rest ih =>
      apply (blameless_exchange (LinkState.fits_readCommand address chunk)).bind
      rintro (answer | error | _) blameless
      · dsimp only
        split
        · exact Outcome.failsOnly_error_iff.mpr (by simp [LinkError.IsMisuse, LinkError.kind])
        · exact ih _
      · exact Outcome.failsOnly_error_iff.mpr (blameless error rfl)
      · exact Outcome.failsOnly_died

/-- A write burst is refused as a whole, or what goes wrong is not the caller's
fault: if the first chunk is within the limit, so are all others. -/
theorem writeBurst_refused_or_blameless (address : UInt8) (data : Array UInt8)
    (threshold : Nat) :
    (∃ error, writeBurst address data threshold = done (.error error)) ∨
      (writeBurst address data threshold).EndsIn Outcome.Blameless := by
  rw [writeBurst]
  cases planned : Burst.plan data.size threshold with
  | error error => exact .inl ⟨error, rfl⟩
  | ok chunks =>
      have covers := Burst.covers_of_plan planned
      obtain ⟨first, rest, rfl⟩ := covers.exists_cons
      have length_eq : ∀ chunk ∈ first :: rest,
          (LinkState.writeCommand address data chunk).payload.length = chunk.length :=
        fun chunk member => LinkState.length_payload_writeCommand (covers.ends_within member)
      by_cases fits :
          (LinkState.writeCommand address data first).payload.length ≤ maxCommandPayload
      · right
        apply blameless_sendChunks
        intro chunk member
        rw [length_eq first List.mem_cons_self] at fits
        rw [length_eq chunk member]
        exact Nat.le_trans (covers.length_le_first member) fits
      · left
        dsimp only
        rw [sendChunks, exchange_of_too_large fits]
        exact ⟨_, rfl⟩

/-- A read burst is refused as a whole, with its destination as it was, or what
goes wrong is not the caller's fault. -/
theorem readBurst_refused_or_blameless (address : UInt8) (destination : Array UInt8)
    (threshold : Nat) :
    (∃ error, readBurst address destination threshold = done (.error error, destination)) ∨
      (readBurst address destination threshold).EndsIn fun ended => ended.1.Blameless := by
  rw [readBurst]
  cases Burst.plan destination.size threshold with
  | error error => exact .inl ⟨error, rfl⟩
  | ok chunks => exact .inr (blameless_gatherChunks address chunks destination)

end Dialogue

end RegisterBridge
