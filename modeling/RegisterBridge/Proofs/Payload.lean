import RegisterBridge.Proofs.Dialogue.Exchange
import RegisterBridge.Proofs.RepeatedCall
import RegisterBridge.Stream.Scripted

/-!
# The payload of an answer

After a header that announces no more than an answer may carry, the payload and
its padding are read at once.  The main statement is that the first answer to
that read that is not an interruption decides, whatever else the stream and the
buffer hold, and that nothing is read where nothing is announced.
-/

namespace RegisterBridge

theorem length_le_answerReadLength (length : Nat) : length ≤ answerReadLength length := by
  rw [answerReadLength_eq]
  split
  · exact Nat.le_succ length
  · exact Nat.le_refl length

namespace Header

/-- The read of what the header announces. -/
def payloadRead {σ : Type} [ByteStream σ] (header : Header) : RepeatedCall σ (List UInt8) :=
  .read .body (answerReadLength header.length)

/-- What the answer to that read makes of the answer of the firmware. -/
inductive Decides (tag : Tag) (header : Header) :
    Outcome StreamError (List UInt8) → Outcome FrameError Answer → Prop
  | whole {data : List UInt8} (whole : data.length = answerReadLength header.length) :
      Decides tag header (.ok data) (.ok ⟨tag, header.address, data.take header.length⟩)
  | short {data : List UInt8} (short : data.length < answerReadLength header.length) :
      Decides tag header (.ok data)
        (.error (.shortRead (answerReadLength header.length) data.length))
  | nothingYet {error : StreamError} (kind : error.kind = .wouldBlock ∨ error.kind = .timedOut) :
      Decides tag header (.error error)
        (.error (.shortRead (answerReadLength header.length) 0))
  | failed {error : StreamError} (kind : error.kind ≠ .wouldBlock ∧ error.kind ≠ .timedOut) :
      Decides tag header (.error error) (.error (.io error))
  | died : Decides tag header .died .died

variable {tag : Tag} {header : Header} {got : Outcome StreamError (List UInt8)}

/-- An answer has the payload that was announced, in full. -/
theorem Decides.of_ok {answer : Answer} (decides : Decides tag header got (.ok answer)) :
    answer.tag = tag ∧ answer.address = header.address ∧
      answer.payload.length = header.length := by
  cases decides with
  | whole whole =>
      refine ⟨rfl, rfl, ?_⟩
      rw [List.length_take, whole]
      exact Nat.min_eq_left (length_le_answerReadLength header.length)

end Header

namespace Dialogue

variable {σ : Type} [ByteStream σ] {tag : Tag} {header : Header}

/-- Nothing is read where nothing is announced. -/
theorem run_body_of_nothing (nothing : answerReadLength header.length = 0) (wire : Wire σ) :
    (body tag header).run wire = (.ok ⟨tag, header.address, []⟩, wire) := by
  rw [body, if_pos nothing, run_done]

/-- The payload is read up to the first answer that is not an interruption, which
decides. -/
theorem exists_run_body (missing : answerReadLength header.length ≠ 0) (wire : Wire σ) :
    ∃ count, header.payloadRead.SettlesAt wire.stream count ∧
      ((body tag header).run wire).2 = header.payloadRead.wireAfter wire (count + 1) ∧
      header.Decides tag (header.payloadRead.answerAt wire.stream count)
        ((body tag header).run wire).1 := by
  obtain ⟨count, settles, fetch_eq⟩ : ∃ count, header.payloadRead.SettlesAt wire.stream count ∧
      wire.fetch .body (answerReadLength header.length) =
        (header.payloadRead.answerAt wire.stream count,
          header.payloadRead.wireAfter wire (count + 1)) :=
    wire.exists_settlesAt_fetch .body (answerReadLength header.length)
  refine ⟨count, settles, ?_⟩
  rw [body, if_neg missing, run_fetch, fetch_eq]
  rcases got : header.payloadRead.answerAt wire.stream count with data | error | _
  · have fits : data.length ≤ answerReadLength header.length := ByteStream.length_read got
    by_cases short : data.length < answerReadLength header.length
    · simp only [if_pos short, run_done, true_and]
      exact .short short
    · simp only [if_neg short, run_done, true_and]
      exact .whole (Nat.le_antisymm fits (Nat.le_of_not_lt short))
  · by_cases nothingYet : error.isNothingYet = true
    · simp only [if_pos nothingYet, run_done, true_and]
      exact .nothingYet (by simpa [StreamError.isNothingYet] using nothingYet)
    · simp only [if_neg nothingYet, run_done, true_and]
      exact .failed (by simpa [StreamError.isNothingYet] using nothingYet)
  · exact ⟨rfl, .died⟩

end Dialogue

namespace AnswerReader

variable {σ : Type} [ByteStream σ] {reader next : AnswerReader σ} {tag : Tag} {header : Header}

/-- Behind a header that announces no more than an answer may carry, reading the
answer is reading its payload, whatever the buffer holds. -/
theorem readAnswer_eq_run_body (found : reader.pollHeader = (.ok (tag, header), next))
    (small : header.length ≤ maxAnswerPayload) :
    reader.readAnswer.map id wire = (Dialogue.body tag header).run next.wire := by
  rw [readAnswer_eq_run_rest found, Dialogue.rest, if_pos small]

/-- **The first settled read of a payload decides.**  Let a header be found that
announces no more than an answer may carry.  If it announces nothing, the answer is
empty and no call is made.  Otherwise all calls are reads of exactly what is announced
and its padding, up to the first answer that is not an interruption, and that answer
alone decides.  An answer of the firmware always has the payload announced, in full. -/
theorem readAnswer_payload (found : reader.pollHeader = (.ok (tag, header), next))
    (small : header.length ≤ 4096) :
    (answerReadLength header.length = 0 →
      reader.readAnswer.1 = .ok ⟨tag, header.address, []⟩ ∧
        reader.readAnswer.2.wire = next.wire) ∧
    (answerReadLength header.length ≠ 0 →
      ∃ count, header.payloadRead.SettlesAt next.wire.stream count ∧
        reader.readAnswer.2.wire = header.payloadRead.wireAfter next.wire (count + 1) ∧
        header.Decides tag (header.payloadRead.answerAt next.wire.stream count)
          reader.readAnswer.1) ∧
    ∀ answer, reader.readAnswer.1 = .ok answer →
      answer.tag = tag ∧ answer.address = header.address ∧
        answer.payload.length = header.length := by
  have ended := readAnswer_eq_run_body found small
  have outcome_eq : reader.readAnswer.1 = ((Dialogue.body tag header).run next.wire).1 :=
    congrArg Prod.fst ended
  have wire_eq : reader.readAnswer.2.wire = ((Dialogue.body tag header).run next.wire).2 :=
    congrArg Prod.snd ended
  rw [outcome_eq, wire_eq]
  by_cases nothing : answerReadLength header.length = 0
  · rw [Dialogue.run_body_of_nothing nothing]
    refine ⟨fun _ => ⟨rfl, rfl⟩, fun missing => absurd nothing missing, ?_⟩
    rintro answer ⟨⟩
    have length_eq := Nat.le_zero.mp (nothing ▸ length_le_answerReadLength header.length)
    exact ⟨rfl, rfl, length_eq.symm⟩
  · obtain ⟨count, settles, after, decides⟩ :=
      @Dialogue.exists_run_body σ _ tag header nothing next.wire
    refine ⟨fun none => absurd none nothing, fun _ => ⟨count, settles, after, decides⟩, ?_⟩
    intro answer answered
    exact (answered ▸ decides).of_ok

/-- A reader whose stream gives the header of a padded answer, then an interruption and
then some data. -/
def padded (data : List UInt8) : AnswerReader Scripted where
  wire :=
    { stream :=
        { reads := [.chunk [114, 0, 60, 2], .fail (.ofKind .interrupted), .chunk data] } }
  buffer := ⟨[1, 2, 3]⟩

/-- The same reader behind the header. -/
def paddedRest (data : List UInt8) : AnswerReader Scripted :=
  (padded data).pollHeader.2

/-- With its padding byte the answer is whole, and without it the read is short. -/
theorem readAnswer_payload_padded :
    (∃ count, (Header.payloadRead ⟨114, 60, 2⟩).SettlesAt
        (paddedRest (List.replicate 61 7)).wire.stream count ∧
      (padded (List.replicate 61 7)).readAnswer.2.wire =
        (Header.payloadRead ⟨114, 60, 2⟩).wireAfter (paddedRest (List.replicate 61 7)).wire
          (count + 1)) ∧
    (padded (List.replicate 61 7)).readAnswer.1 =
      .ok ⟨.readRegister, 2, List.replicate 60 7⟩ ∧
    (padded (List.replicate 60 7)).readAnswer.1 = .error (.shortRead 61 60) := by
  have found : (padded (List.replicate 61 7)).pollHeader =
      (.ok (.readRegister, ⟨114, 60, 2⟩), paddedRest (List.replicate 61 7)) :=
    rfl
  have missing : answerReadLength 60 ≠ 0 := by decide
  obtain ⟨-, settled, -⟩ := readAnswer_payload found (by decide)
  obtain ⟨count, settles, after, -⟩ := settled missing
  exact ⟨⟨count, settles, after⟩, by decide +kernel, by decide +kernel⟩

end AnswerReader

end RegisterBridge
