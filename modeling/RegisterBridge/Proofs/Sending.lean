import Mathlib.Data.List.Basic
import RegisterBridge.Proofs.Dialogue.Exchange
import RegisterBridge.Proofs.RepeatedCall
import RegisterBridge.Stream.Scripted

/-!
# Sending one command after the other

All commands of a writer are encoded in the same buffer, and any of them may be
refused, interrupted, taken in part or lost.  `Sends` tells what one send does in
terms of its own command and of the stream alone, and `SendsAll` puts such sends
together.  The main statement is that every run of a writer is of that form, and
that an exchange awaits an answer after a send that succeeds, a short one too, and
not after one that fails.
-/

namespace RegisterBridge

namespace Command

/-- The write of a command. -/
def writing {σ : Type} [ByteStream σ] (command : Command) : RepeatedCall σ Nat :=
  .write command.encode

/-- What the answer to that write makes of the send, with the events that are reported. -/
inductive Decides (command : Command) :
    Outcome StreamError Nat → Outcome FrameError Nat → List Event → Prop
  | whole {written : Nat} (whole : written = 4 + command.payload.length) :
      Decides command (.ok written) (.ok written) []
  | short {written : Nat} (short : written < 4 + command.payload.length) :
      Decides command (.ok written) (.ok written)
        [.incompleteCommand command.tag written (4 + command.payload.length)]
  | failed (error : StreamError) : Decides command (.error error) (.error (.io error)) []
  | died : Decides command .died .died []

/-- The bytes of a command that the stream took, by the outcome of the send. -/
def taken (command : Command) : Outcome FrameError Nat → List UInt8
  | .ok written => command.encode.take written
  | _ => []

theorem Decides.accepted_eq {command : Command} {answer : Outcome StreamError Nat}
    {outcome : Outcome FrameError Nat} {events : List Event}
    (decides : command.Decides answer outcome events) :
    (Call.write command.encode answer).accepted?.getD [] = command.taken outcome := by
  cases decides <;> rfl

end Command

/-! ## One send -/

/-- A send of a command over a wire has an outcome and leaves another wire.  A payload above
the limit is refused without a call.  Any other command is written up to the first answer
that is not an interruption, which decides. -/
inductive Sends {σ : Type} [ByteStream σ] (command : Command) (wire : Wire σ) :
    Outcome FrameError Nat → Wire σ → Prop
  | refused (large : 600 < command.payload.length) :
      Sends command wire (.error (.payloadTooLarge command.payload.length 600)) wire
  | settled {count : Nat} {outcome : Outcome FrameError Nat} {events : List Event}
      (fits : command.payload.length ≤ 600)
      (settles : command.writing.SettlesAt wire.stream count)
      (decides : command.Decides (command.writing.answerAt wire.stream count) outcome events) :
      Sends command wire outcome
        { command.writing.wireAfter wire (count + 1) with events := events ++ wire.events }

namespace Dialogue

variable {σ : Type} [ByteStream σ]

theorem sends_transmit {command : Command} (fits : command.payload.length ≤ 600)
    (wire : Wire σ) :
    Sends command wire ((transmit command).run wire).1 ((transmit command).run wire).2 := by
  obtain ⟨count, settles, offer_eq⟩ : ∃ count, command.writing.SettlesAt wire.stream count ∧
      wire.offer command.encode =
        (command.writing.answerAt wire.stream count,
          command.writing.wireAfter wire (count + 1)) :=
    wire.exists_settlesAt_offer command.encode
  rw [transmit, run_offer, offer_eq]
  rcases answered : command.writing.answerAt wire.stream count with written | error | _
  · have within : written ≤ command.encode.length := ByteStream.count_write answered
    rw [Command.length_encode] at within
    by_cases whole : written = command.wireSize
    · have decides := Command.Decides.whole whole
      rw [← answered] at decides
      simp only [if_pos whole, run_done]
      exact .settled fits settles decides
    · have decides := Command.Decides.short (Nat.lt_of_le_of_ne within whole)
      rw [← answered] at decides
      simp only [if_neg whole, run_report, run_done]
      exact .settled fits settles decides
  · have decides := @Command.Decides.failed command error
    rw [← answered] at decides
    exact .settled fits settles decides
  · have decides := @Command.Decides.died command
    rw [← answered] at decides
    exact .settled fits settles decides

theorem sends_send (command : Command) (wire : Wire σ) :
    Sends command wire ((send command).run wire).1 ((send command).run wire).2 := by
  rw [send]
  split
  · rename_i fits
    exact sends_transmit fits wire
  · rename_i large
    exact .refused (Nat.lt_of_not_le large)

end Dialogue

/-- What a send does depends on its command and the wire, and not on the buffer. -/
theorem CommandWriter.sends_send {σ : Type} [ByteStream σ] (writer : CommandWriter σ)
    (command : Command) :
    Sends command writer.wire (writer.send command).1 (writer.send command).2.wire := by
  have sent := writer.send_eq_run command
  have outcome_eq : (writer.send command).1 = ((Dialogue.send command).run writer.wire).1 :=
    congrArg Prod.fst sent
  have wire_eq : (writer.send command).2.wire = ((Dialogue.send command).run writer.wire).2 :=
    congrArg Prod.snd sent
  rw [outcome_eq, wire_eq]
  exact Dialogue.sends_send command writer.wire

namespace Sends

variable {σ : Type} [ByteStream σ] {command : Command} {wire next : Wire σ}
  {outcome : Outcome FrameError Nat}

/-- All calls of a send are writes of its own command. -/
theorem exists_transcript_eq (sends : Sends command wire outcome next) :
    ∃ calls, next.transcript = wire.transcript ++ calls ∧
      ∀ call ∈ calls, ∃ answer, call = .write command.encode answer := by
  cases sends with
  | refused large => exact ⟨[], (List.append_nil _).symm, by simp⟩
  | @settled count _ _ fits settles decides =>
      refine ⟨_, command.writing.transcript_wireAfter wire (count + 1), ?_⟩
      intro call member
      obtain ⟨earlier, -, rfl⟩ := List.mem_map.mp member
      exact ⟨_, rfl⟩

/-- The stream takes just the part of the command that the outcome tells. -/
theorem bytesAccepted_eq (sends : Sends command wire outcome next) :
    Call.bytesAccepted next.transcript =
      Call.bytesAccepted wire.transcript ++ command.taken outcome := by
  cases sends with
  | refused large => exact (List.append_nil _).symm
  | @settled count _ _ fits settles decides =>
      have accepted : Call.bytesAccepted (command.writing.calls wire.stream (count + 1)) =
          command.taken outcome := by
        rw [← decides.accepted_eq, Call.bytesAccepted, settles.flatMap_calls]
        · rfl
        · rintro (taken | error | _) interrupted
          · contradiction
          · rfl
          · contradiction
      calc
        _ = Call.bytesAccepted (command.writing.wireAfter wire (count + 1)).transcript := rfl
        _ = _ := by rw [RepeatedCall.transcript_wireAfter, Call.bytesAccepted_append, accepted]

/-- A send is one offer of its own command, unless the command is refused. -/
theorem offers_eq (sends : Sends command wire outcome next) :
    next.offers =
      wire.offers ++ if command.payload.length ≤ 600 then [command.encode] else [] := by
  cases sends with
  | refused large => rw [if_neg (Nat.not_le_of_gt large), List.append_nil]
  | @settled count _ _ fits settles decides =>
      have offered : (command.writing.calls wire.stream (count + 1)).filterMap Call.settled? =
          [command.encode] := by
        rw [List.filterMap_eq_flatMap_toList, settles.flatMap_calls]
        · exact congrArg Option.toList (if_neg (ne_true_of_eq_false settles.settled))
        · exact fun answer interrupted => congrArg Option.toList (if_pos interrupted)
      rw [if_pos fits]
      calc
        _ = (command.writing.wireAfter wire (count + 1)).transcript.filterMap Call.settled? := rfl
        _ = _ := by rw [RepeatedCall.transcript_wireAfter, List.filterMap_append, offered]; rfl

end Sends

/-! ## A run of sends -/

/-- Send commands one after the other, whatever becomes of each. -/
def CommandWriter.sendAll {σ : Type} [ByteStream σ] (writer : CommandWriter σ) :
    List Command → List (Outcome FrameError Nat) × CommandWriter σ
  | [] => ([], writer)
  | command :: commands =>
      match writer.send command with
      | (outcome, next) =>
        match next.sendAll commands with
        | (outcomes, last) => (outcome :: outcomes, last)

/-- Sends of some commands in turn, each over the wire that the one before leaves. -/
inductive SendsAll {σ : Type} [ByteStream σ] :
    List Command → Wire σ → List (Outcome FrameError Nat) → Wire σ → Prop
  | nil (wire : Wire σ) : SendsAll [] wire [] wire
  | cons {command : Command} {commands : List Command} {wire next last : Wire σ}
      {outcome : Outcome FrameError Nat} {outcomes : List (Outcome FrameError Nat)}
      (first : Sends command wire outcome next) (rest : SendsAll commands next outcomes last) :
      SendsAll (command :: commands) wire (outcome :: outcomes) last

/-- The sends of a writer do not depend on one another but for the stream. -/
theorem CommandWriter.sendsAll_sendAll {σ : Type} [ByteStream σ] (writer : CommandWriter σ)
    (commands : List Command) :
    SendsAll commands writer.wire (writer.sendAll commands).1
      (writer.sendAll commands).2.wire := by
  induction commands generalizing writer with
  | nil => exact .nil writer.wire
  | cons command commands ih => exact .cons (writer.sends_send command) (ih _)

namespace SendsAll

variable {σ : Type} [ByteStream σ] {commands : List Command} {wire last : Wire σ}
  {outcomes : List (Outcome FrameError Nat)}

/-- The stream takes a front part of each command, in turn, and nothing else. -/
theorem bytesAccepted_eq (sends : SendsAll commands wire outcomes last) :
    Call.bytesAccepted last.transcript =
      Call.bytesAccepted wire.transcript ++
        (List.zipWith Command.taken commands outcomes).flatten := by
  induction sends with
  | nil wire => exact (List.append_nil _).symm
  | cons first rest ih =>
      rw [ih, first.bytesAccepted_eq, List.zipWith_cons_cons, List.flatten_cons,
        List.append_assoc]

/-- Each command within the limit is offered once, in turn. -/
theorem offers_eq (sends : SendsAll commands wire outcomes last) :
    last.offers = wire.offers ++
      (commands.filter fun command => command.payload.length ≤ 600).map Command.encode := by
  induction sends with
  | nil wire => exact (List.append_nil _).symm
  | @cons command commands wire next last outcome outcomes first rest ih =>
      rw [ih, first.offers_eq, List.append_assoc]
      simp only [List.filter_cons, decide_eq_true_eq]
      split <;> rfl

end SendsAll

/-! ## Exchanges -/

namespace AnswerReader

variable {σ : Type} [ByteStream σ]

/-- Awaiting an answer starts with a poll for its header. -/
theorem exists_transcript_readAnswer (reader : AnswerReader σ) :
    ∃ got later, reader.readAnswer.2.wire.transcript =
      reader.wire.transcript ++ .read .header 4 got :: later := by
  have wire_eq : reader.readAnswer.2.wire = (Dialogue.answer.run reader.wire).2 :=
    congrArg Prod.snd reader.readAnswer_eq_run
  have polled : (reader.wire.read .header headerSize).2.transcript <+:
      (Dialogue.answer.run reader.wire).2.transcript :=
    Dialogue.transcript_prefix_run _ _
  rw [Wire.transcript_read, ← wire_eq] at polled
  obtain ⟨later, transcript_eq⟩ := polled
  exact ⟨_, later, by rw [← transcript_eq, List.append_assoc]; rfl⟩

end AnswerReader

namespace LinkState

variable {σ : Type} [ByteStream σ] {state : LinkState σ} {command : Command}

/-- An exchange whose send fails is over. -/
theorem execute_of_send_error {error : FrameError}
    (failed : (CommandWriter.send ⟨state.wire, state.encodeBuffer⟩ command).1 = .error error) :
    (state.execute command).1 = .error (.frame error) ∧
      (state.execute command).2.wire =
        (CommandWriter.send ⟨state.wire, state.encodeBuffer⟩ command).2.wire := by
  rw [execute, send]
  rcases sent : CommandWriter.send ⟨state.wire, state.encodeBuffer⟩ command with
    ⟨_, ⟨wire, buffer⟩⟩
  rw [sent] at failed
  cases failed
  exact ⟨rfl, rfl⟩

/-- An exchange whose send succeeds awaits the answer, however much was taken. -/
theorem execute_of_send_ok {written : Nat}
    (sent : (CommandWriter.send ⟨state.wire, state.encodeBuffer⟩ command).1 = .ok written) :
    let answered := AnswerReader.readAnswer
      ⟨(CommandWriter.send ⟨state.wire, state.encodeBuffer⟩ command).2.wire, state.decodeBuffer⟩
    (state.execute command).1 = answered.1.mapError .frame ∧
      (state.execute command).2.wire = answered.2.wire := by
  rw [execute, send]
  rcases sending : CommandWriter.send ⟨state.wire, state.encodeBuffer⟩ command with
    ⟨_, ⟨wire, buffer⟩⟩
  rw [sending] at sent
  cases sent
  dsimp only [receive]
  rcases AnswerReader.readAnswer ⟨wire, state.decodeBuffer⟩ with
    ⟨answer | error | _, ⟨next, decoded⟩⟩ <;> exact ⟨rfl, rfl⟩

end LinkState

/-- **Each send is one effective write of its own command.**  In every run of a writer,
each send does what its own command and the stream make it do: a payload above the limit
is refused without a call, and any other command is written, as its own bytes, up to the
first answer that is not an interruption, which decides.  So each command within the
limit is offered once, and the stream takes of each command the front part that its
outcome tells, and nothing else.  In an exchange, a send that fails is followed by no
call at all, and one that succeeds by the receipt of an answer, even if the command was
taken in part. -/
theorem effective_writes {σ : Type} [ByteStream σ] :
    (∀ (writer : CommandWriter σ) (commands : List Command),
      let ended := writer.sendAll commands
      SendsAll commands writer.wire ended.1 ended.2.wire ∧
        ended.2.wire.offers = writer.wire.offers ++
          (commands.filter fun command => command.payload.length ≤ 600).map Command.encode ∧
        Call.bytesAccepted ended.2.wire.transcript =
          Call.bytesAccepted writer.wire.transcript ++
            (List.zipWith Command.taken commands ended.1).flatten) ∧
    ∀ (state : LinkState σ) (command : Command),
      let sent := CommandWriter.send ⟨state.wire, state.encodeBuffer⟩ command
      let ended := state.execute command
      Sends command state.wire sent.1 sent.2.wire ∧
        (∀ error, sent.1 = .error error →
          ended.1 = .error (.frame error) ∧ ended.2.wire = sent.2.wire ∧
            ∃ calls, ended.2.wire.transcript = state.wire.transcript ++ calls ∧
              ∀ call ∈ calls, ∃ answer, call = .write command.encode answer) ∧
        ∀ written, sent.1 = .ok written →
          let answered := AnswerReader.readAnswer ⟨sent.2.wire, state.decodeBuffer⟩
          ended.1 = answered.1.mapError .frame ∧ ended.2.wire = answered.2.wire ∧
            ∃ got later, ended.2.wire.transcript =
              sent.2.wire.transcript ++ .read .header 4 got :: later := by
  constructor
  · intro writer commands ended
    have sends := writer.sendsAll_sendAll commands
    exact ⟨sends, sends.offers_eq, sends.bytesAccepted_eq⟩
  · intro state command sent ended
    have sends : Sends command state.wire sent.1 sent.2.wire :=
      CommandWriter.sends_send ⟨state.wire, state.encodeBuffer⟩ command
    refine ⟨sends, ?_, ?_⟩
    · intro error failed
      obtain ⟨outcome_eq, wire_eq⟩ := LinkState.execute_of_send_error failed
      rw [wire_eq]
      exact ⟨outcome_eq, rfl, sends.exists_transcript_eq⟩
    · intro written taken answered
      obtain ⟨outcome_eq, wire_eq⟩ := LinkState.execute_of_send_ok taken
      rw [wire_eq]
      exact ⟨outcome_eq, rfl, AnswerReader.exists_transcript_readAnswer _⟩

/-- A wire whose stream interrupts a write before anything else. -/
def reluctant (answers : List WriteStep) : Wire Scripted where
  stream := { writes := .fail (.ofKind .interrupted) :: answers }

/-- A short write, a refused payload, a failed write and a whole one, in a buffer that held
something else.  In an exchange, the short write goes on to the answer, and the failed one
does not. -/
theorem effective_writes_reluctant :
    Call.bytesAccepted (CommandWriter.sendAll
        ⟨reluctant [.accept 3, .fail (.ofKind .brokenPipe)], ⟨[9, 9]⟩⟩
        [⟨.readRegister, 8, [0]⟩, ⟨.writeRegister, 8, List.replicate 601 7⟩,
          ⟨.writeRegister, 8, [7]⟩, ⟨.readRegister, 9, [0]⟩]).2.wire.transcript =
      [114, 0, 1] ++ [114, 0, 1, 9, 0] ∧
    (∃ got later,
      (LinkState.execute ⟨reluctant [.accept 3], ⟨[9]⟩, .empty⟩
        ⟨.readRegister, 8, [0]⟩).2.wire.transcript =
        (CommandWriter.send ⟨reluctant [.accept 3], ⟨[9]⟩⟩
          ⟨.readRegister, 8, [0]⟩).2.wire.transcript ++ .read .header 4 got :: later) ∧
    (LinkState.execute ⟨reluctant [.fail (.ofKind .brokenPipe)], ⟨[9]⟩, .empty⟩
      ⟨.readRegister, 8, [0]⟩).1 = .error (.frame (.io (.ofKind .brokenPipe))) := by
  obtain ⟨run, exchange⟩ := @effective_writes Scripted _
  have short : (CommandWriter.send ⟨reluctant [.accept 3], ⟨[9]⟩⟩ ⟨.readRegister, 8, [0]⟩).1 =
      .ok 3 := by
    decide +kernel
  have failed : (CommandWriter.send ⟨reluctant [.fail (.ofKind .brokenPipe)], ⟨[9]⟩⟩
      ⟨.readRegister, 8, [0]⟩).1 = .error (.io (.ofKind .brokenPipe)) := by
    decide +kernel
  refine ⟨?_, ?_, ?_⟩
  · rw [(run _ _).2.2]
    decide +kernel
  · exact ((exchange ⟨reluctant [.accept 3], ⟨[9]⟩, .empty⟩ _).2.2 3 short).2.2
  · exact ((exchange ⟨reluctant [.fail (.ofKind .brokenPipe)], ⟨[9]⟩, .empty⟩ _).2.1 _ failed).1

end RegisterBridge
