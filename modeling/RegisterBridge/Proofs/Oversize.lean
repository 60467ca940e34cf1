import Mathlib.Data.List.Basic
import RegisterBridge.Proofs.Dialogue.Exchange
import RegisterBridge.Proofs.RepeatedCall
import RegisterBridge.Stream.Scripted

/-!
# Answers that are too large

An answer that announces more than it may carry is read to the end of its frame
and dropped, as far as the stream gives it.  The stream chooses how much each
read gives, so what a drain does is told by a relation that follows the answers
of the stream.  The main statement is that a drain takes no byte beyond the
frame, that it leaves bytes of the frame only where the stream gave out, and that
just those are reported.
-/

namespace RegisterBridge

/-- The caller dies in the call. -/
def Call.isDied : Call → Bool
  | read _ _ got => got.isDied
  | write _ taken => taken.isDied

@[simp]
theorem Call.isDied_read (purpose : Purpose) (want : Nat)
    (got : Outcome StreamError (List UInt8)) : (read purpose want got).isDied = got.isDied :=
  rfl

/-- The read gives nothing or fails, and is no interruption. -/
inductive Outcome.GivesOut : Outcome StreamError (List UInt8) → Prop
  | dry : GivesOut (.ok [])
  | failed {error : StreamError} (settled : error.isInterrupted = false) : GivesOut (.error error)
  | died : GivesOut .died

/-- The stream gives out in a read. -/
def Call.GivesOut : Call → Prop
  | read _ _ got => got.GivesOut
  | write .. => False

/-! ## The calls of a drain -/

/-- A drain of some bytes makes some calls on a stream and leaves some of the bytes.
Every call is for what is missing, or for as much as the buffer holds. -/
inductive Drains {σ : Type} [ByteStream σ] : Nat → σ → List Call → Nat → σ → Prop
  | complete (stream : σ) : Drains 0 stream [] 0 stream
  | stopped {missing : Nat} {stream next : σ} {got : Outcome StreamError (List UInt8)}
      (positive : 0 < missing) (answered : ByteStream.read stream (min missing 4097) = (got, next))
      (stops : got.GivesOut) :
      Drains missing stream [.read .drain (min missing 4097) got] missing next
  | interrupted {missing left : Nat} {stream next last : σ} {error : StreamError}
      {calls : List Call} (positive : 0 < missing)
      (answered : ByteStream.read stream (min missing 4097) = (.error error, next))
      (again : error.isInterrupted = true) (rest : Drains missing next calls left last) :
      Drains missing stream (.read .drain (min missing 4097) (.error error) :: calls) left last
  | taken {missing left : Nat} {stream next last : σ} {data : List UInt8} {calls : List Call}
      (positive : 0 < missing)
      (answered : ByteStream.read stream (min missing 4097) = (.ok data, next))
      (some : data ≠ []) (rest : Drains (missing - data.length) next calls left last) :
      Drains missing stream (.read .drain (min missing 4097) (.ok data) :: calls) left last

/-- A drain goes on after an interruption. -/
theorem Outcome.not_givesOut_of_interrupted {error : StreamError}
    (again : error.isInterrupted = true) : ¬GivesOut (.error error) := by
  rintro ⟨⟩
  simp_all

/-- A drain goes on after a read that gives something. -/
theorem Outcome.not_givesOut_of_ne_nil {data : List UInt8} (some : data ≠ []) :
    ¬GivesOut (.ok data) := by
  rintro ⟨⟩
  contradiction

namespace Drains

variable {σ : Type} [ByteStream σ] {missing left : Nat} {stream last : σ} {calls : List Call}

/-- What is taken and what is left make up what was missing. -/
theorem account (drains : Drains missing stream calls left last) :
    (Call.bytesReceived calls).length + left = missing := by
  induction drains with
  | complete stream => rfl
  | stopped positive answered stops =>
      cases stops <;> simp [Call.bytesReceived, Call.received?]
  | interrupted positive answered again rest ih =>
      simpa [Outcome.bytes] using ih
  | @taken missing left stream next last data calls positive answered some rest ih =>
      have fits : data.length ≤ min missing 4097 :=
        ByteStream.length_read (congrArg Prod.fst answered)
      simp only [Call.bytesReceived_read, Outcome.bytes, List.length_append]
      omega

/-- Every call is for what is missing when it is made.  A call at which the stream gives
out is the last one. -/
theorem request (drains : Drains missing stream calls left last) {front back : List Call}
    {call : Call} (split_eq : calls = front ++ call :: back) :
    ∃ got, call =
        .read .drain (min (missing - (Call.bytesReceived front).length) 4097) got ∧
      (Call.bytesReceived front).length < missing ∧ (call.GivesOut → back = []) := by
  induction drains generalizing front with
  | complete stream => simp at split_eq
  | @stopped missing stream next got positive answered stops =>
      cases front with
      | nil =>
          cases split_eq
          exact ⟨got, rfl, positive, fun _ => rfl⟩
      | cons first front => simp at split_eq
  | @interrupted missing left stream next last error calls positive answered again rest ih =>
      cases front with
      | nil =>
          cases split_eq
          exact ⟨.error error, rfl, positive, (Outcome.not_givesOut_of_interrupted again).elim⟩
      | cons first front =>
          obtain ⟨rfl, later_eq⟩ := List.cons.inj split_eq
          simpa [Outcome.bytes] using ih later_eq
  | @taken missing left stream next last data calls positive answered some rest ih =>
      cases front with
      | nil =>
          cases split_eq
          exact ⟨.ok data, rfl, positive, (Outcome.not_givesOut_of_ne_nil some).elim⟩
      | cons first front =>
          obtain ⟨rfl, later_eq⟩ := List.cons.inj split_eq
          obtain ⟨got, call_eq, within, final⟩ := ih later_eq
          refine ⟨got, ?_, ?_, final⟩
          · rw [call_eq, Call.bytesReceived_read, List.length_append, Nat.sub_add_eq]
            rfl
          · rw [Call.bytesReceived_read, List.length_append]
            exact Nat.add_lt_of_lt_sub' within

/-- Bytes are left exactly if the stream gave out. -/
theorem left_pos_iff (drains : Drains missing stream calls left last) :
    0 < left ↔ ∃ call ∈ calls, call.GivesOut := by
  induction drains with
  | complete stream => simp
  | stopped positive answered stops =>
      exact ⟨fun _ => ⟨_, List.mem_singleton_self _, stops⟩, fun _ => positive⟩
  | interrupted positive answered again rest ih =>
      rw [ih, List.exists_mem_cons_iff]
      exact (or_iff_right (Outcome.not_givesOut_of_interrupted again)).symm
  | taken positive answered some rest ih =>
      rw [ih, List.exists_mem_cons_iff]
      exact (or_iff_right (Outcome.not_givesOut_of_ne_nil some)).symm

end Drains

namespace Dialogue

variable {σ : Type} [ByteStream σ]

/-- One call of a drain. -/
theorem run_drain_read {missing : Nat} (positive : 0 < missing) (wire : Wire σ) :
    (drain missing).run wire =
      match wire.read .drain (min missing 4097) with
      | (.ok [], next) => (.ok missing, next)
      | (.ok (_ :: data), next) => (drain (missing - (data.length + 1))).run next
      | (.error error, next) =>
          if error.isInterrupted then (drain missing).run next else (.ok missing, next)
      | (.died, next) => (.died, next) := by
  -- The size also stands in the test for an interruption, so it is reduced before that
  -- test appears.
  have want_eq : maxAnswerPayload + 1 = 4097 := rfl
  have unfolded := run_drain (σ := σ) (Nat.ne_of_gt positive)
  rw [want_eq] at unfolded
  rw [unfolded, Wire.fetch_eq]
  rcases wire.read .drain (min missing 4097) with ⟨(_ | ⟨byte, data⟩) | error | _, next⟩
  case error =>
      cases again : error.isInterrupted with
      | false => simp [Outcome.isInterrupted, again]
      | true => simp [Outcome.isInterrupted, again, unfolded]
  all_goals rfl

/-- Every drain makes the calls of some drain of the stream, and dies in them or ends with
what they leave. -/
theorem exists_drains (missing : Nat) (wire : Wire σ) :
    ∃ calls left last, Drains missing wire.stream calls left last ∧
      (drain missing).run wire =
        (if calls.any Call.isDied then .died else .ok left,
          ⟨last, calls.reverse ++ wire.calls, wire.events⟩) := by
  rcases Nat.eq_zero_or_pos missing with rfl | positive
  · exact ⟨[], 0, wire.stream, .complete _, by simp [drain]⟩
  · -- Data makes less missing, and an interruption lowers the bound of the stream.
    rw [run_drain_read positive, Wire.read]
    rcases answered : ByteStream.read wire.stream (min missing 4097) with
      ⟨(_ | ⟨byte, data⟩) | error | _, next⟩
    · exact ⟨_, _, _, .stopped positive answered .dry, rfl⟩
    · obtain ⟨calls, left, last, rest, run_eq⟩ := exists_drains (missing - (data.length + 1))
        ⟨next, .read .drain (min missing 4097) (.ok (byte :: data)) :: wire.calls, wire.events⟩
      refine ⟨_, left, last, .taken positive answered (List.cons_ne_nil _ _) rest, ?_⟩
      simpa [Outcome.isDied] using run_eq
    · cases again : error.isInterrupted with
      | false =>
          refine ⟨_, _, _, .stopped positive answered (.failed again), ?_⟩
          simp [again, Outcome.isDied]
      | true =>
          have lower := @ByteStream.interrupted_read σ _ wire.stream (min missing 4097)
          rw [answered] at lower
          have fewer := lower again
          obtain ⟨calls, left, last, rest, run_eq⟩ := exists_drains missing
            ⟨next, .read .drain (min missing 4097) (.error error) :: wire.calls, wire.events⟩
          refine ⟨_, left, last, .interrupted positive answered again rest, ?_⟩
          simpa [again, Outcome.isDied] using run_eq
    · exact ⟨_, _, _, .stopped positive answered .died, rfl⟩
termination_by (missing, ByteStream.interruptionsLeft wire.stream)

variable {tag : Tag} {header : Header}

/-- What follows the header of an answer that is too large is a drain of the frame, and a
report on what is left of it. -/
theorem run_rest_of_large (large : maxAnswerPayload < header.length) (wire : Wire σ) :
    (rest tag header).run wire =
      match (drain (answerReadLength header.length)).run wire with
      | (.ok left, next) =>
          (.error (.answerTooLarge header.length maxAnswerPayload),
            { next with
              events := (if left = 0 then [] else [.partlyDrained left]) ++ next.events })
      | (.died, next) => (.died, next) := by
  rw [rest, if_neg (Nat.not_le_of_gt large), run_bind, discard, run_andThen]
  rcases (drain (answerReadLength header.length)).run wire with
    ⟨(_ | left) | impossible | _, next⟩
  · rfl
  · rfl
  · exact impossible.elim
  · rfl

end Dialogue

namespace AnswerReader

variable {σ : Type} [ByteStream σ] {reader next : AnswerReader σ} {tag : Tag} {header : Header}

/-- **Oversized answers are drained exactly.**  Let a header be found that announces more
than an answer may carry.  Then just the calls of a drain of the frame are made: each is a
read of what is missing of the frame, or of as much as the buffer holds, and none follows
a read at which the stream gives out.  What the calls take off the stream and what is left
make up the frame, and something is left exactly if the stream gave out.  Unless the caller
dies, the answer is refused for its size, and what is left is reported, if anything is. -/
theorem readAnswer_drains (found : reader.pollHeader = (.ok (tag, header), next))
    (large : 4096 < header.length) :
    let size := answerReadLength header.length
    ∃ calls left,
      Drains size next.wire.stream calls left reader.readAnswer.2.wire.stream ∧
      reader.readAnswer.2.wire.transcript = next.wire.transcript ++ calls ∧
      (∀ front call back, calls = front ++ call :: back →
        ∃ got, call = .read .drain (min (size - (Call.bytesReceived front).length) 4097) got ∧
          (Call.bytesReceived front).length < size ∧ (call.GivesOut → back = [])) ∧
      (Call.bytesReceived calls).length + left = size ∧
      (0 < left ↔ ∃ call ∈ calls, call.GivesOut) ∧
      (calls.any Call.isDied = false →
        reader.readAnswer.1 = .error (.answerTooLarge header.length 4096) ∧
          reader.readAnswer.2.wire.journal =
            next.wire.journal ++ if left = 0 then [] else [.partlyDrained left]) ∧
      (calls.any Call.isDied = true →
        reader.readAnswer.1 = .died ∧ reader.readAnswer.2.wire.journal = next.wire.journal) := by
  intro size
  obtain ⟨calls, left, last, drains, run_eq⟩ := Dialogue.exists_drains size next.wire
  have ended := readAnswer_eq_run_rest found
  rw [Dialogue.run_rest_of_large large, run_eq] at ended
  refine ⟨calls, left, ?_⟩
  cases died : calls.any Call.isDied with
  | false =>
      rw [died] at ended
      have outcome_eq : reader.readAnswer.1 = .error (.answerTooLarge header.length 4096) :=
        congrArg Prod.fst ended
      have wire_eq : reader.readAnswer.2.wire = _ := congrArg Prod.snd ended
      rw [wire_eq]
      refine ⟨drains, by simp [Wire.transcript], fun _ _ _ => drains.request, drains.account,
        drains.left_pos_iff, fun _ => ⟨outcome_eq, ?_⟩,
        fun dead => absurd dead Bool.false_ne_true⟩
      cases left <;> simp [Wire.journal]
  | true =>
      rw [died] at ended
      have outcome_eq : reader.readAnswer.1 = .died := congrArg Prod.fst ended
      have wire_eq : reader.readAnswer.2.wire = _ := congrArg Prod.snd ended
      rw [wire_eq]
      exact ⟨drains, by simp [Wire.transcript], fun _ _ _ => drains.request, drains.account,
        drains.left_pos_iff, fun alive => absurd alive.symm Bool.false_ne_true,
        fun _ => ⟨outcome_eq, rfl⟩⟩

/-- A reader whose stream gives the header of an answer of 5000 bytes and breaks off in
the answer. -/
def oversized : AnswerReader Scripted where
  wire :=
    { stream :=
        { reads := [.chunk [114, 0x13, 0x88, 8], .chunk [1, 2, 3], .fail (.ofKind .interrupted),
            .chunk [4], .fail (.ofKind .timedOut), .chunk [5]] } }
  buffer := ⟨[9, 9]⟩

/-- The four bytes that came are taken, the rest is reported, and nothing behind the
failure is touched. -/
theorem readAnswer_drains_oversized :
    oversized.readAnswer.1 = .error (.answerTooLarge 5000 4096) ∧
      oversized.readAnswer.2.wire.journal = [.partlyDrained 4996] ∧
      ∃ calls left,
        oversized.readAnswer.2.wire.transcript =
          oversized.pollHeader.2.wire.transcript ++ calls ∧
        (Call.bytesReceived calls).length + left = 5000 := by
  have found : oversized.pollHeader =
      (.ok (.readRegister, ⟨114, 5000, 8⟩), oversized.pollHeader.2) :=
    rfl
  obtain ⟨calls, left, -, transcript_eq, -, account, -⟩ := readAnswer_drains found (by decide)
  exact ⟨by decide +kernel, by decide +kernel, calls, left, transcript_eq, account⟩

end AnswerReader

end RegisterBridge
