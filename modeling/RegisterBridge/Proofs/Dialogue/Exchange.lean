import RegisterBridge.Link.Exchange
import RegisterBridge.Proofs.Dialogue

/-!
# Exchanges as dialogues

An exchange reuses two buffers.  Here it is once more as a dialogue, which has
no buffers; the main statement is that the two make the same run, whatever the
buffers hold.
-/

namespace RegisterBridge

namespace Dialogue

/-- Poll for a header, `attempts` more times. -/
def awaitHeader : Nat → Dialogue (Outcome FrameError (Tag × Header))
  | 0 => done (.error (.timeout maxHeaderPolls))
  | attempts + 1 => poll fun
    | .ok bytes =>
      match Poll.ofBytes bytes with
      | .found tag header => done (.ok (tag, header))
      | .torn received => done (.error (.tornHeader received))
      | .unsuccessful => awaitHeader attempts
    | .error _ => awaitHeader attempts
    | .died => done .died

/-- Drop bytes until none remain or the stream runs dry; the value is the number
of bytes not obtained. -/
def drain (remaining : Nat) : Dialogue (Outcome Empty Nat) :=
  if remaining = 0 then done (.ok 0)
  else
    fetch .drain (min remaining (maxAnswerPayload + 1)) fun
      | .ok [] => done (.ok remaining)
      | .ok (_ :: rest) => drain (remaining - (rest.length + 1))
      | .error _ => done (.ok remaining)
      | .died => done .died
termination_by remaining

/-- Drop `size` bytes of an oversized answer, and report what was missing. -/
def discard (size : Nat) : Dialogue (Outcome Empty Unit) :=
  (drain size).andThen fun
    | 0 => done (.ok ())
    | remaining => report (.partlyDrained remaining) (done (.ok ()))

/-- Take the payload that a header announces. -/
def body (tag : Tag) (header : Header) : Dialogue (Outcome FrameError Answer) :=
  let size := answerReadLength header.length
  if size = 0 then done (.ok ⟨tag, header.address, []⟩)
  else
    fetch .body size fun
      | .ok data =>
          if data.length < size then done (.error (.shortRead size data.length))
          else done (.ok ⟨tag, header.address, data.take header.length⟩)
      | .error error =>
          if error.isNothingYet then done (.error (.shortRead size 0))
          else done (.error (.io error))
      | .died => done .died

/-- Take what follows a header. -/
def rest (tag : Tag) (header : Header) : Dialogue (Outcome FrameError Answer) :=
  if header.length ≤ maxAnswerPayload then body tag header
  else
    (discard (answerReadLength header.length)).bind fun
      | .ok () => done (.error (.answerTooLarge header.length maxAnswerPayload))
      | .died => done .died

/-- Await an answer. -/
def answer : Dialogue (Outcome FrameError Answer) :=
  (awaitHeader maxHeaderPolls).andThen fun (tag, header) => rest tag header

/-- Offer a command within the limit. -/
def transmit (command : Command) : Dialogue (Outcome FrameError Nat) :=
  offer command.encode fun
    | .ok written =>
        if written = command.wireSize then done (.ok written)
        else
          report (.incompleteCommand command.tag written command.wireSize)
            (done (.ok written))
    | .error error => done (.error (.io error))
    | .died => done .died

/-- Send a command. -/
def send (command : Command) : Dialogue (Outcome FrameError Nat) :=
  if command.payload.length ≤ maxCommandPayload then transmit command
  else done (.error (.payloadTooLarge command.payload.length maxCommandPayload))

/-- Send a command and await the answer. -/
def exchange (command : Command) : Dialogue (Outcome LinkError Answer) :=
  ((send command).andThen fun _ => answer).map (·.mapError .frame)

end Dialogue

variable {σ : Type} [ByteStream σ]

/-- One read of a drain. -/
theorem Dialogue.run_drain {remaining : Nat} (missing : remaining ≠ 0) (wire : Wire σ) :
    (drain remaining).run wire =
      match wire.fetch .drain (min remaining (maxAnswerPayload + 1)) with
      | (.ok [], next) => (.ok remaining, next)
      | (.ok (_ :: data), next) => (drain (remaining - (data.length + 1))).run next
      | (.error _, next) => (.ok remaining, next)
      | (.died, next) => (.died, next) := by
  rw [drain, if_neg missing, run_fetch]
  rcases wire.fetch .drain (min remaining (maxAnswerPayload + 1)) with
    ⟨(_ | ⟨byte, data⟩) | error | _, next⟩ <;> rfl

theorem Wire.pollHeader_eq_run (attempts : Nat) (wire : Wire σ) :
    wire.pollHeader attempts = (Dialogue.awaitHeader attempts).run wire := by
  induction attempts generalizing wire with
  | zero => rfl
  | succ attempts ih =>
      rw [pollHeader, Dialogue.awaitHeader, Dialogue.run_poll]
      rcases wire.read .header headerSize with ⟨bytes | error | _, next⟩
      · cases judged : Poll.ofBytes bytes with
        | found tag header => simp [judged]
        | torn received => simp [judged]
        | unsuccessful => simpa [judged] using ih next
      · exact ih next
      · rfl

namespace AnswerReader

/-- Draining over a buffer of the right size is the drain dialogue. -/
theorem drain_eq_run {reader : AnswerReader σ} {remaining : Nat}
    (whole : reader.buffer.bytes.length = maxAnswerPayload + 1) :
    (reader.drain remaining).map id wire = (Dialogue.drain remaining).run reader.wire := by
  fun_induction drain reader remaining with
  | case1 reader => simp [Dialogue.drain]
  | case2 remaining missing wire buffer next step =>
      rw [whole] at step
      rw [Dialogue.run_drain missing, step]
      rfl
  | case3 remaining missing wire buffer byte data next step ih =>
      -- The buffer keeps its size because no read gives more than it can hold.
      have fits : (byte :: data).length ≤ min remaining buffer.bytes.length :=
        Wire.length_fetch (congrArg Prod.fst step)
      have kept := Scratch.length_fill (Nat.le_trans fits (Nat.min_le_right ..))
      rw [whole] at step
      rw [Dialogue.run_drain missing, step]
      exact ih (kept.trans whole)
  | case4 remaining missing wire buffer error next step =>
      rw [whole] at step
      rw [Dialogue.run_drain missing, step]
      rfl
  | case5 remaining missing wire buffer next step =>
      rw [whole] at step
      rw [Dialogue.run_drain missing, step]
      rfl

theorem discard_eq_run (reader : AnswerReader σ) (size : Nat) :
    (reader.discard size).map id wire = (Dialogue.discard size).run reader.wire := by
  have drained := @drain_eq_run σ _
    ⟨reader.wire, reader.buffer.clear.resize (maxAnswerPayload + 1)⟩ size (by simp)
  rw [discard, Dialogue.discard, Dialogue.run_andThen, ← drained]
  rcases drain ⟨reader.wire, reader.buffer.clear.resize (maxAnswerPayload + 1)⟩ size with
    ⟨(_ | remaining) | impossible | _, ⟨wire, buffer⟩⟩
  · rfl
  · rfl
  · exact impossible.elim
  · rfl

/-- The payload is the part of the buffer that the read filled, up to the
announced length. -/
theorem readBody_eq_run (reader : AnswerReader σ) (tag : Tag) (header : Header) :
    (reader.readBody tag header).map id wire = (Dialogue.body tag header).run reader.wire := by
  rcases reader with ⟨wire, buffer⟩
  rw [readBody, Dialogue.body]
  dsimp only
  split
  · rfl
  · rw [Dialogue.run_fetch]
    rcases fetched : wire.fetch .body (answerReadLength header.length) with
      ⟨data | error | _, next⟩
    · have fits : data.length ≤ answerReadLength header.length :=
        Wire.length_fetch (congrArg Prod.fst fetched)
      dsimp only
      split
      · rfl
      · rename_i whole
        rw [Scratch.truncate_fill_resize _ (Nat.le_antisymm fits (Nat.le_of_not_lt whole))]
        rfl
    · dsimp only
      split <;> rfl
    · rfl

theorem readRest_eq_run (reader : AnswerReader σ) (tag : Tag) (header : Header) :
    (reader.readRest tag header).map id wire = (Dialogue.rest tag header).run reader.wire := by
  rw [readRest, Dialogue.rest]
  split
  · exact reader.readBody_eq_run tag header
  · rw [Dialogue.run_bind, ← reader.discard_eq_run]
    rcases reader.discard (answerReadLength header.length) with
      ⟨_ | impossible | _, ⟨wire, buffer⟩⟩
    · rfl
    · exact impossible.elim
    · rfl

/-- Receiving an answer is the answer dialogue, whatever the buffer holds. -/
theorem readAnswer_eq_run (reader : AnswerReader σ) :
    reader.readAnswer.map id wire = Dialogue.answer.run reader.wire := by
  rcases reader with ⟨wire, buffer⟩
  rw [readAnswer, pollHeader, Dialogue.answer, Dialogue.run_andThen, Wire.pollHeader_eq_run]
  rcases (Dialogue.awaitHeader maxHeaderPolls).run wire with
    ⟨⟨tag, header⟩ | error | _, next⟩
  · exact readRest_eq_run ⟨next, buffer⟩ tag header
  · rfl
  · rfl

/-- Once a header is found, the rest of the answer dialogue remains. -/
theorem readAnswer_eq_run_rest {reader next : AnswerReader σ} {tag : Tag} {header : Header}
    (found : reader.pollHeader = (.ok (tag, header), next)) :
    reader.readAnswer.map id wire = (Dialogue.rest tag header).run next.wire := by
  rw [readAnswer, found]
  exact next.readRest_eq_run tag header

end AnswerReader

namespace CommandWriter

theorem flush_eq_run (wire : Wire σ) (command : Command) :
    (flush ⟨wire, ⟨command.encode⟩⟩ command.tag).map id CommandWriter.wire =
      (Dialogue.transmit command).run wire := by
  rw [flush, Dialogue.transmit, Dialogue.run_offer]
  rcases wire.offer command.encode with ⟨written | error | _, next⟩
  · simp only [Command.length_encode]
    split <;> rfl
  · rfl
  · rfl

/-- Sending a command is the send dialogue, whatever the buffer holds. -/
theorem send_eq_run (writer : CommandWriter σ) (command : Command) :
    (writer.send command).map id wire = (Dialogue.send command).run writer.wire := by
  rw [Dialogue.send]
  split
  · rename_i fits
    rw [send_of_le fits]
    exact flush_eq_run writer.wire command
  · rename_i large
    rw [send, if_neg large]
    rfl

end CommandWriter

namespace LinkState

theorem receive_eq_run (state : LinkState σ) :
    state.receive.map id wire =
      (Dialogue.answer.map (·.mapError LinkError.frame)).run state.wire := by
  rcases state with ⟨wire, encodeBuffer, decodeBuffer⟩
  have received := AnswerReader.readAnswer_eq_run ⟨wire, decodeBuffer⟩
  rw [Dialogue.run_map, ← received, receive]
  rcases AnswerReader.readAnswer ⟨wire, decodeBuffer⟩ with
    ⟨answer | error | _, ⟨next, decoded⟩⟩ <;> rfl

/-- An exchange is the exchange dialogue, whatever the buffers hold. -/
theorem execute_eq_run (state : LinkState σ) (command : Command) :
    (state.execute command).map id wire = (Dialogue.exchange command).run state.wire := by
  rcases state with ⟨wire, encodeBuffer, decodeBuffer⟩
  have sent := CommandWriter.send_eq_run ⟨wire, encodeBuffer⟩ command
  rw [Dialogue.exchange, Dialogue.run_map, Dialogue.run_andThen, ← sent, execute, send]
  rcases CommandWriter.send ⟨wire, encodeBuffer⟩ command with
    ⟨written | error | _, ⟨next, encoded⟩⟩
  · have received := receive_eq_run ⟨next, encoded, decodeBuffer⟩
    rw [Dialogue.run_map] at received
    exact received
  · rfl
  · rfl

end LinkState

end RegisterBridge
