import RegisterBridge.Proofs.Dialogue.Operation

/-!
# What is offered to the stream

Only sending offers anything: awaiting an answer is mute.  An exchange offers
exactly the bytes of its command, and a transfer of chunks offers the commands
of the chunks in order, up to the one whose exchange is the last.  The writes
themselves may be more, for an interrupted write is repeated.
-/

namespace RegisterBridge

/-- The bytes of a write, an interrupted one too. -/
def Call.written? : Call → Option (List UInt8)
  | write bytes _ => some bytes
  | read .. => none

/-- What each write held, in order. -/
def Wire.writes {σ : Type} (wire : Wire σ) : List (List UInt8) :=
  wire.transcript.filterMap Call.written?

/-- An offer is a write, made once and then again after each interruption. -/
theorem Wire.writes_offer {σ : Type} [ByteStream σ] (wire : Wire σ) (bytes : List UInt8) :
    ∃ repeats, (wire.offer bytes).2.writes =
      wire.writes ++ List.replicate (repeats + 1) bytes := by
  fun_induction offer wire bytes with
  | case1 wire taken next step interrupted ih =>
      rw [write] at step
      cases step
      obtain ⟨repeats, writes_eq⟩ := ih
      refine ⟨repeats + 1, writes_eq.trans ?_⟩
      simp [writes, transcript, Call.written?, List.replicate_succ]
  | case2 wire taken next step settled =>
      rw [write] at step
      cases step
      exact ⟨0, by simp [writes, transcript, Call.written?]⟩

namespace Dialogue

variable {α β ε : Type}

/-- The dialogue never offers anything. -/
def Mute : Dialogue α → Prop
  | done _ => True
  | report _ rest => rest.Mute
  | poll rest => ∀ got, (rest got).Mute
  | fetch _ _ rest => ∀ got, (rest got).Mute
  | offer _ _ => False

theorem Mute.bind {dialogue : Dialogue α} {next : α → Dialogue β} (mute : dialogue.Mute)
    (next_mute : ∀ value, (next value).Mute) : (dialogue.bind next).Mute := by
  induction dialogue with
  | done value => exact next_mute value
  | report event rest ih => exact ih mute
  | poll rest ih => exact fun got => ih got (mute got)
  | fetch purpose want rest ih => exact fun got => ih got (mute got)
  | offer bytes rest ih => exact mute.elim

theorem Mute.andThen {dialogue : Dialogue (Outcome ε α)}
    {next : α → Dialogue (Outcome ε β)} (mute : dialogue.Mute)
    (next_mute : ∀ value, (next value).Mute) : (dialogue.andThen next).Mute := by
  apply mute.bind
  intro outcome
  cases outcome with
  | ok value => exact next_mute value
  | error cause => trivial
  | died => trivial

theorem mute_awaitHeader (attempts : Nat) : (awaitHeader attempts).Mute := by
  induction attempts with
  | zero => trivial
  | succ attempts ih =>
      rintro (bytes | error | _)
      · cases judged : Poll.ofBytes bytes with
        | found tag header => simp [judged, Mute]
        | torn received => simp [judged, Mute]
        | unsuccessful => simpa [judged] using ih
      · exact ih
      · trivial

theorem mute_drain (remaining : Nat) : (drain remaining).Mute := by
  fun_induction drain remaining with
  | case1 => trivial
  | case2 remaining missing ih =>
      rintro ((_ | ⟨byte, data⟩) | error | _)
      · trivial
      · exact ih data
      · trivial
      · trivial

theorem mute_body (tag : Tag) (header : Header) : (body tag header).Mute := by
  unfold body
  dsimp only
  split
  · trivial
  · rintro (data | error | _)
    · dsimp only
      split <;> trivial
    · dsimp only
      split <;> trivial
    · trivial

theorem mute_discard (size : Nat) : (discard size).Mute := by
  apply (mute_drain size).andThen
  intro remaining
  cases remaining <;> trivial

theorem mute_rest (tag : Tag) (header : Header) : (rest tag header).Mute := by
  unfold rest
  split
  · exact mute_body tag header
  · apply (mute_discard _).bind
    rintro (_ | impossible | _)
    · trivial
    · exact impossible.elim
    · trivial

/-- Awaiting an answer offers nothing. -/
theorem mute_answer : answer.Mute :=
  (mute_awaitHeader maxHeaderPolls).andThen fun (tag, header) => mute_rest tag header

variable {σ : Type} [ByteStream σ]

/-- A mute run cannot be seen in a view of the transcript that passes over reads. -/
theorem Mute.filterMap_transcript_run {view : Call → Option β}
    (passes : ∀ purpose want got, view (.read purpose want got) = none)
    {dialogue : Dialogue α} (mute : dialogue.Mute) (wire : Wire σ) :
    (dialogue.run wire).2.transcript.filterMap view = wire.transcript.filterMap view := by
  induction dialogue generalizing wire with
  | done value => rfl
  | report event rest ih => exact ih mute (wire.report event)
  | poll rest ih =>
      rw [run_poll, ih _ (mute _), Wire.filterMap_transcript_read passes]
  | fetch purpose want rest ih =>
      rw [run_fetch, ih _ (mute _), Wire.filterMap_transcript_fetch passes]
  | offer bytes rest ih => exact mute.elim

/-- What is seen of a send is seen of the offer of its command. -/
theorem filterMap_transcript_send {view : Call → Option β} {command : Command}
    (fits : command.payload.length ≤ maxCommandPayload) (wire : Wire σ) :
    ((send command).run wire).2.transcript.filterMap view =
      (wire.offer command.encode).2.transcript.filterMap view := by
  rw [send, if_pos fits, transmit, run_offer]
  rcases wire.offer command.encode with ⟨written | error | _, next⟩
  · dsimp only
    split <;> rfl
  · rfl
  · rfl

/-- What is seen of an exchange is seen of the offer of its command: awaiting the
answer is mute. -/
theorem filterMap_transcript_exchange {view : Call → Option β}
    (passes : ∀ purpose want got, view (.read purpose want got) = none) {command : Command}
    (fits : command.payload.length ≤ maxCommandPayload) (wire : Wire σ) :
    ((exchange command).run wire).2.transcript.filterMap view =
      (wire.offer command.encode).2.transcript.filterMap view := by
  rw [exchange, run_map, run_andThen, ← filterMap_transcript_send fits wire]
  rcases (send command).run wire with ⟨written | error | _, next⟩
  · exact mute_answer.filterMap_transcript_run passes next
  · rfl
  · rfl

/-- An exchange offers its command and nothing else, whatever becomes of it. -/
theorem offers_exchange {command : Command}
    (fits : command.payload.length ≤ maxCommandPayload) (wire : Wire σ) :
    ((exchange command).run wire).2.offers = wire.offers ++ [command.encode] :=
  (filterMap_transcript_exchange (fun _ _ _ => rfl) fits wire).trans
    (wire.offers_offer command.encode)

/-- Every write of an exchange is of its command. -/
theorem writes_exchange {command : Command}
    (fits : command.payload.length ≤ maxCommandPayload) (wire : Wire σ) :
    ∃ repeats, ((exchange command).run wire).2.writes =
      wire.writes ++ List.replicate (repeats + 1) command.encode := by
  obtain ⟨repeats, writes_eq⟩ := wire.writes_offer command.encode
  exact ⟨repeats,
    (filterMap_transcript_exchange (fun _ _ _ => rfl) fits wire).trans writes_eq⟩

/-- The calls of a handshake are those of its exchange: none is made to judge the
answer. -/
theorem transcript_checkVersion (expected : UInt32) (wire : Wire σ) :
    ((checkVersion expected).run wire).2.transcript =
      ((exchange (versionQuery expected)).run wire).2.transcript := by
  rw [checkVersion, run_andThen]
  rcases (exchange (versionQuery expected)).run wire with
    ⟨⟨tag, address, _ | ⟨verdict, payload⟩⟩ | error | _, next⟩
  · rfl
  · dsimp only [judgeVersion]
    split <;> rfl
  · rfl
  · rfl

theorem offers_checkVersion (expected : UInt32) (wire : Wire σ) :
    ((checkVersion expected).run wire).2.offers =
      wire.offers ++ [(versionQuery expected).encode] := by
  rw [Wire.offers, transcript_checkVersion]
  exact offers_exchange (fits_versionQuery expected) wire

/-- A transfer offers the commands of its first chunks, and of all of them if it
succeeds. -/
theorem offers_sendChunks {address : UInt8} {data : Array UInt8} {chunks : List Burst.Chunk}
    (fits : ∀ chunk ∈ chunks,
      (LinkState.writeCommand address data chunk).payload.length ≤ maxCommandPayload)
    (wire : Wire σ) :
    ∃ sent unsent, chunks = sent ++ unsent ∧
      ((sendChunks address data chunks).run wire).2.offers =
        wire.offers ++ (sent.map (LinkState.writeCommand address data)).map Command.encode ∧
      (((sendChunks address data chunks).run wire).1 = .ok () → unsent = []) := by
  induction chunks generalizing wire with
  | nil => exact ⟨[], [], rfl, by simp [sendChunks], fun _ => rfl⟩
  | cons chunk rest ih =>
      have offered := offers_exchange (fits chunk List.mem_cons_self) wire
      rw [sendChunks, run_andThen]
      generalize (exchange (LinkState.writeCommand address data chunk)).run wire = ended
        at offered ⊢
      rcases ended with ⟨answer | error | _, next⟩
      · obtain ⟨sent, unsent, split_eq, offers_eq, whole⟩ :=
          ih (fun chunk member => fits chunk (List.mem_cons_of_mem _ member)) next
        refine ⟨chunk :: sent, unsent, by rw [split_eq]; rfl, ?_, whole⟩
        exact offers_eq.trans (by rw [offered]; simp)
      · exact ⟨[chunk], rest, rfl, offered, by simp⟩
      · exact ⟨[chunk], rest, rfl, offered, by simp⟩

/-- A request for chunks offers the commands of its first chunks, and of all of
them if it succeeds. -/
theorem offers_gatherChunks (address : UInt8) (chunks : List Burst.Chunk)
    (destination : Array UInt8) (wire : Wire σ) :
    ∃ sent unsent, chunks = sent ++ unsent ∧
      ((gatherChunks address chunks destination).run wire).2.offers =
        wire.offers ++ (sent.map (LinkState.readCommand address)).map Command.encode ∧
      (((gatherChunks address chunks destination).run wire).1.1 = .ok () → unsent = []) := by
  induction chunks generalizing destination wire with
  | nil => exact ⟨[], [], rfl, by simp [gatherChunks], fun _ => rfl⟩
  | cons chunk rest ih =>
      have offered := offers_exchange (LinkState.fits_readCommand address chunk) wire
      rw [gatherChunks, run_bind]
      generalize (exchange (LinkState.readCommand address chunk)).run wire = ended
        at offered ⊢
      rcases ended with ⟨answer | error | _, next⟩
      · dsimp only
        split
        · exact ⟨[chunk], rest, rfl, offered, by simp⟩
        · obtain ⟨sent, unsent, split_eq, offers_eq, whole⟩ := ih _ next
          refine ⟨chunk :: sent, unsent, by rw [split_eq]; rfl, ?_, whole⟩
          exact offers_eq.trans (by rw [offered]; simp)
      · exact ⟨[chunk], rest, rfl, offered, by simp⟩
      · exact ⟨[chunk], rest, rfl, offered, by simp⟩

end Dialogue

/-- An exchange offers its command and nothing else, whatever the buffers hold. -/
theorem LinkState.offers_execute {σ : Type} [ByteStream σ] (state : LinkState σ)
    {command : Command} (fits : command.payload.length ≤ maxCommandPayload) :
    (state.execute command).2.wire.offers = state.wire.offers ++ [command.encode] := by
  have ran := congrArg Prod.snd (state.execute_eq_run command)
  have wire_eq : (state.execute command).2.wire =
      ((Dialogue.exchange command).run state.wire).2 := ran
  rw [wire_eq]
  exact Dialogue.offers_exchange fits state.wire

end RegisterBridge
