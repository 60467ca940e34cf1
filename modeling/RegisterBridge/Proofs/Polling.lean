import RegisterBridge.Frame.Reader
import RegisterBridge.Proofs.RepeatedCall
import RegisterBridge.Stream.Replay
import RegisterBridge.Stream.Scripted

/-!
# Polling for a header

A header is awaited by reading four bytes at a time, fifteen times at most.  A
read is unsuccessful if it gives nothing, fails or gives four bytes that start
with no tag.  The main statement is that the first read that is not unsuccessful
decides, by its own bytes alone, and that no read is made after it.
-/

namespace RegisterBridge

/-! ## What a read shows -/

namespace Poll

/-- The read does not end the polling. -/
inductive Unsuccessful : Outcome StreamError (List UInt8) → Prop
  | empty : Unsuccessful (.ok [])
  | failed (error : StreamError) : Unsuccessful (.error error)
  | noTag {first high low address : UInt8} (unknown : ∀ tag : Tag, tag.byte ≠ first) :
      Unsuccessful (.ok [first, high, low, address])

/-- The read ends the polling with a result. -/
inductive Decides : Outcome StreamError (List UInt8) → Outcome FrameError (Tag × Header) → Prop
  | torn {data : List UInt8} (some : 1 ≤ data.length) (part : data.length ≤ 3) :
      Decides (.ok data) (.error (.tornHeader data.length))
  | found (tag : Tag) (high low address : UInt8) :
      Decides (.ok [tag.byte, high, low, address])
        (.ok (tag, ⟨tag.byte, 256 * high.toNat + low.toNat, address⟩))
  | died : Decides .died .died

variable {got : Outcome StreamError (List UInt8)} {data : List UInt8}

theorem ofByte?_eq_none_iff {byte : UInt8} :
    Tag.ofByte? byte = none ↔ ∀ tag : Tag, tag.byte ≠ byte := by
  simp only [Option.eq_none_iff_forall_ne_some, ne_eq, Tag.ofByte?_eq_some_iff, @eq_comm _ byte]

/-- A read of at most four bytes is unsuccessful or decides. -/
theorem unsuccessful_or_decides (short : ∀ data, got = .ok data → data.length ≤ headerSize) :
    Unsuccessful got ∨ ∃ result, Decides got result := by
  rcases got with data | error | _
  · have bound := short data rfl
    match data, bound with
    | [], _ => exact .inl .empty
    | [_], _ => exact .inr ⟨_, .torn (by simp) (by simp)⟩
    | [_, _], _ => exact .inr ⟨_, .torn (by simp) (by simp)⟩
    | [_, _, _], _ => exact .inr ⟨_, .torn (by simp) (by simp)⟩
    | [first, high, low, address], _ =>
      cases known : Tag.ofByte? first with
      | none => exact .inl (.noTag (ofByte?_eq_none_iff.mp known))
      | some tag =>
          rw [Tag.ofByte?_eq_some_iff] at known
          subst known
          exact .inr ⟨_, .found tag high low address⟩
  · exact .inl (.failed error)
  · exact .inr ⟨_, .died⟩

theorem ofBytes_of_torn (some : 1 ≤ data.length) (part : data.length ≤ 3) :
    ofBytes data = .torn data.length := by
  match data, some, part with
  | [_], _, _ => rfl
  | [_, _], _, _ => rfl
  | [_, _, _], _, _ => rfl

end Poll

namespace Wire

variable {σ : Type} [ByteStream σ] {wire : Wire σ} {attempts : Nat}

/-! ## One read -/

/-- The reads that poll for a header. -/
def headerPoll : RepeatedCall σ (List UInt8) :=
  .read .header headerSize

theorem read_header_eq (wire : Wire σ) :
    wire.read .header headerSize =
      (headerPoll.answerAt wire.stream 0, headerPoll.wireAfter wire 1) :=
  rfl

theorem length_headerPoll {stream : σ} {count : Nat} {data : List UInt8}
    (got : headerPoll.answerAt stream count = .ok data) : data.length ≤ headerSize :=
  ByteStream.length_read got

/-- An unsuccessful read costs one attempt. -/
theorem pollHeader_of_unsuccessful
    (unsuccessful : Poll.Unsuccessful (headerPoll.answerAt wire.stream 0)) :
    wire.pollHeader (attempts + 1) = (headerPoll.wireAfter wire 1).pollHeader attempts := by
  rw [pollHeader, read_header_eq]
  generalize headerPoll.answerAt wire.stream 0 = got at unsuccessful ⊢
  cases unsuccessful with
  | empty => rfl
  | failed error => rfl
  | noTag unknown => simp [Poll.ofBytes, Poll.ofByte?_eq_none_iff.mpr unknown]

/-- A read that decides is the last one. -/
theorem pollHeader_of_decides {result : Outcome FrameError (Tag × Header)}
    (decides : Poll.Decides (headerPoll.answerAt wire.stream 0) result) :
    wire.pollHeader (attempts + 1) = (result, headerPoll.wireAfter wire 1) := by
  rw [pollHeader, read_header_eq]
  generalize headerPoll.answerAt wire.stream 0 = got at decides ⊢
  cases decides with
  | torn some part => simp [Poll.ofBytes_of_torn some part]
  | found tag high low address => simp [Poll.ofBytes, Header.decode]
  | died => rfl

/-! ## All reads -/

/-- Unsuccessful reads cost an attempt each. -/
theorem pollHeader_of_all_unsuccessful {reads : Nat}
    (unsuccessful : ∀ earlier < reads,
      Poll.Unsuccessful (headerPoll.answerAt wire.stream earlier)) :
    wire.pollHeader (reads + attempts) =
      (headerPoll.wireAfter wire reads).pollHeader attempts := by
  induction reads generalizing attempts with
  | zero => rw [Nat.zero_add, RepeatedCall.wireAfter_zero]
  | succ reads ih =>
      have last := unsuccessful reads (Nat.lt_succ_self reads)
      rw [Nat.add_right_comm, Nat.add_assoc,
        ih fun earlier before => unsuccessful earlier (Nat.lt_succ_of_lt before),
        pollHeader_of_unsuccessful last, RepeatedCall.wireAfter_add]

/-- The first read that decides ends the polling, if there are attempts enough. -/
theorem pollHeader_of_first {last : Nat} (within : last < attempts)
    {result : Outcome FrameError (Tag × Header)}
    (unsuccessful : ∀ earlier < last,
      Poll.Unsuccessful (headerPoll.answerAt wire.stream earlier))
    (decides : Poll.Decides (headerPoll.answerAt wire.stream last) result) :
    wire.pollHeader attempts = (result, headerPoll.wireAfter wire (last + 1)) := by
  obtain ⟨left, rfl⟩ := Nat.exists_eq_add_of_lt within
  rw [Nat.add_assoc, pollHeader_of_all_unsuccessful unsuccessful, pollHeader_of_decides decides,
    RepeatedCall.wireAfter_add]

/-! ## One array for all reads -/

/-- Poll through one array of four bytes.  Every read is put over what the array
holds, which is not cleared in between. -/
def pollThrough : Nat → Scratch → Wire σ → Outcome FrameError (Tag × Header) × Wire σ
  | 0, _, wire => (.error (.timeout maxHeaderPolls), wire)
  | attempts + 1, array, wire =>
    match wire.read .header array.bytes.length with
    | (.ok data, wire) =>
        if data.length = 0 then pollThrough attempts (array.fill data) wire
        else if data.length < headerSize then (.error (.tornHeader data.length), wire)
        else
          match Poll.ofBytes (array.fill data).bytes with
          | .found tag header => (.ok (tag, header), wire)
          | _ => pollThrough attempts (array.fill data) wire
    | (.error _, wire) => pollThrough attempts array wire
    | (.died, wire) => (.died, wire)

/-- No byte of an earlier read is ever taken for one of a header. -/
theorem pollThrough_eq_pollHeader {array : Scratch} (whole : array.bytes.length = headerSize) :
    wire.pollThrough attempts array = wire.pollHeader attempts := by
  induction attempts generalizing wire array with
  | zero => rfl
  | succ attempts ih =>
      have short := fun data => @length_headerPoll σ _ wire.stream 0 data
      have kept {data : List UInt8} (fits : data.length ≤ headerSize) :
          (array.fill data).bytes.length = headerSize := by
        rw [Scratch.length_fill (by rw [whole]; exact fits), whole]
      rw [pollThrough, whole]
      rcases Poll.unsuccessful_or_decides short with unsuccessful | ⟨result, decides⟩
      · rw [pollHeader_of_unsuccessful unsuccessful, read_header_eq]
        generalize headerPoll.answerAt wire.stream 0 = got at unsuccessful
        cases unsuccessful with
        | empty => exact ih (kept (Nat.zero_le _))
        | failed error => exact ih whole
        | @noTag first high low address unknown =>
            -- Four bytes fill the array from end to end.
            have filled := @Scratch.fill_of_length_eq array [first, high, low, address] whole
            have none := Poll.ofByte?_eq_none_iff.mpr unknown
            simp only [filled, Poll.ofBytes, none]
            exact ih (kept (Nat.le_refl _))
      · rw [pollHeader_of_decides decides, read_header_eq]
        generalize headerPoll.answerAt wire.stream 0 = got at decides
        cases decides with
        | @torn data some part =>
            have short : data.length < headerSize := Nat.lt_succ_of_le part
            dsimp only
            rw [if_neg (Nat.ne_of_gt some), if_pos short]
        | found tag high low address =>
            have filled := @Scratch.fill_of_length_eq array [tag.byte, high, low, address] whole
            simp [filled, Poll.ofBytes, Header.decode, headerSize]
        | died => rfl

end Wire

/-! ## The law of polling -/

namespace Replay

/-- A stream that answers reads from a list. -/
def ofReads (answers : List (Except StreamError (List UInt8))) : Replay where
  replies := answers.map .read

/-- Any answers of at most four bytes are the answers of some stream to its polls. -/
theorem answerAt_ofReads {answers : List (Except StreamError (List UInt8))}
    (short : ∀ data, .ok data ∈ answers → data.length ≤ headerSize) {count : Nat}
    (within : count < answers.length) :
    Wire.headerPoll.answerAt (ofReads answers) count = .ofExcept answers[count] := by
  induction answers generalizing count with
  | nil => contradiction
  | cons answer later ih =>
      cases count with
      | zero =>
          cases answer with
          | error error => rfl
          | ok data =>
              exact congrArg Outcome.ok (List.take_of_length_le (short data List.mem_cons_self))
      | succ count =>
          have left : Wire.headerPoll.streamAfter (ofReads (answer :: later)) 1 =
              ofReads later := by
            cases answer <;> rfl
          have shifted : Wire.headerPoll.answerAt (ofReads (answer :: later)) (count + 1) =
              Wire.headerPoll.answerAt (ofReads later) count := by
            rw [Nat.add_comm, RepeatedCall.answerAt_add, left]
          rw [shifted]
          exact ih (fun data member => short data (List.mem_cons_of_mem _ member))
            (Nat.lt_of_succ_lt_succ within)

end Replay

namespace AnswerReader

open Wire (headerPoll)

variable {σ : Type} [ByteStream σ]

/-- Polling makes so many reads of four bytes and no other call, takes what they give
and nothing more, and ends with a result. -/
structure PollsFor (reader : AnswerReader σ) (reads : Nat)
    (result : Outcome FrameError (Tag × Header)) : Prop where
  outcome : reader.pollHeader.1 = result
  ending : reader.pollHeader.2 = ⟨headerPoll.wireAfter reader.wire reads, reader.buffer⟩
  transcript : reader.pollHeader.2.wire.transcript =
    reader.wire.transcript ++ (List.range reads).map fun earlier =>
      .read .header 4 (headerPoll.answerAt reader.wire.stream earlier)
  taken : Call.bytesReceived reader.pollHeader.2.wire.transcript =
    Call.bytesReceived reader.wire.transcript ++ (List.range reads).flatMap fun earlier =>
      (headerPoll.answerAt reader.wire.stream earlier).bytes

theorem pollsFor_of_pollHeader {reader : AnswerReader σ} {reads : Nat}
    {result : Outcome FrameError (Tag × Header)}
    (polled : reader.wire.pollHeader maxHeaderPolls =
      (result, headerPoll.wireAfter reader.wire reads)) :
    reader.PollsFor reads result := by
  have ended : reader.pollHeader =
      (result, ⟨headerPoll.wireAfter reader.wire reads, reader.buffer⟩) := by
    rw [pollHeader, polled]
  constructor
  · rw [ended]
  · rw [ended]
  · rw [ended, RepeatedCall.transcript_wireAfter]
    rfl
  · rw [ended, RepeatedCall.transcript_wireAfter, Call.bytesReceived_append]
    exact congrArg _ (RepeatedCall.bytesReceived_calls_read ..)

/-- **The first read that is not unsuccessful decides.**  Look at the answers that a
stream gives to reads of four bytes, one after the other.  If one of the first
fifteen is not unsuccessful, the first such one is the last read that polling makes,
and its bytes alone make the result.  Otherwise polling is over after fifteen reads,
and it takes nothing if these gave nothing.  All this is the same if the reads are put
into one array that is never cleared. -/
theorem pollHeader_first_decisive (reader : AnswerReader σ) :
    (∀ last < 15,
      (∀ earlier < last, Poll.Unsuccessful (headerPoll.answerAt reader.wire.stream earlier)) →
      ¬Poll.Unsuccessful (headerPoll.answerAt reader.wire.stream last) →
      ∃ result, Poll.Decides (headerPoll.answerAt reader.wire.stream last) result ∧
        reader.PollsFor (last + 1) result) ∧
    ((∀ earlier < 15, Poll.Unsuccessful (headerPoll.answerAt reader.wire.stream earlier)) →
      reader.PollsFor 15 (.error (.timeout 15)) ∧
      ((∀ earlier < 15, (headerPoll.answerAt reader.wire.stream earlier).bytes = []) →
        Call.bytesReceived reader.pollHeader.2.wire.transcript =
          Call.bytesReceived reader.wire.transcript)) ∧
    ∀ array : Scratch, array.bytes.length = 4 →
      reader.wire.pollThrough 15 array = reader.pollHeader.map id wire := by
  refine ⟨fun last within unsuccessful decisive => ?_, fun unsuccessful => ?_, fun array whole => ?_⟩
  · obtain ⟨result, decides⟩ :=
      (Poll.unsuccessful_or_decides fun _ => Wire.length_headerPoll).resolve_left decisive
    exact ⟨result, decides,
      pollsFor_of_pollHeader (Wire.pollHeader_of_first within unsuccessful decides)⟩
  · have polls : reader.PollsFor 15 (.error (.timeout 15)) :=
      pollsFor_of_pollHeader (@Wire.pollHeader_of_all_unsuccessful σ _ reader.wire 0 15 unsuccessful)
    refine ⟨polls, fun nothing => ?_⟩
    have none : ((List.range 15).flatMap fun earlier =>
        (headerPoll.answerAt reader.wire.stream earlier).bytes) = [] :=
      List.flatMap_eq_nil_iff.mpr fun earlier member => nothing earlier (List.mem_range.mp member)
    rw [polls.taken, none, List.append_nil]
  · exact Wire.pollThrough_eq_pollHeader whole

/-- Fourteen unsuccessful answers, of every kind. -/
def fourteenUnsuccessful : List (Except StreamError (List UInt8)) :=
  [.error (.ofKind .interrupted), .ok [], .ok [0, 0, 1, 9], .error (.ofKind .brokenPipe)] ++
    List.replicate 10 (.error (.ofKind .timedOut))

/-- Answers of which the fifteenth is a header. -/
def lateAnswers : List (Except StreamError (List UInt8)) :=
  fourteenUnsuccessful ++ [.ok [114, 1, 2, 7]]

/-- A reader whose stream gives a header to the fifteenth read. -/
def late : AnswerReader Replay where
  wire := { stream := .ofReads lateAnswers }
  buffer := ⟨[1, 2, 3]⟩

/-- A reader whose stream gives nothing. -/
def silent : AnswerReader Scripted where
  wire := { stream := {} }

theorem pollHeader_first_decisive_late :
    late.PollsFor 15 (.ok (.readRegister, ⟨114, 258, 7⟩)) ∧
    silent.PollsFor 15 (.error (.timeout 15)) ∧
    Call.bytesReceived silent.pollHeader.2.wire.transcript = [] := by
  have kinds : ∀ answer ∈ fourteenUnsuccessful, Poll.Unsuccessful (.ofExcept answer) := by
    have unknown : ∀ tag : Tag, tag.byte ≠ 0 := by
      intro tag
      cases tag <;> decide
    intro answer member
    simp only [fourteenUnsuccessful, List.mem_append, List.mem_cons, List.mem_replicate,
      List.not_mem_nil, or_false] at member
    rcases member with (rfl | rfl | rfl | rfl) | ⟨-, rfl⟩
    · exact .failed _
    · exact .empty
    · exact .noTag unknown
    · exact .failed _
    · exact .failed _
  have unsuccessful : ∀ earlier < 14,
      Poll.Unsuccessful (headerPoll.answerAt late.wire.stream earlier) := by
    intro earlier (before : earlier < fourteenUnsuccessful.length)
    have short : ∀ data, .ok data ∈ lateAnswers → data.length ≤ headerSize := by
      simp [lateAnswers, fourteenUnsuccessful, headerSize]
    have within : earlier < lateAnswers.length := Nat.lt_succ_of_lt before
    have front : lateAnswers[earlier] = fourteenUnsuccessful[earlier] :=
      List.getElem_append_left before
    rw [late, Replay.answerAt_ofReads short within, front]
    exact kinds _ (List.getElem_mem before)
  have decisive : ¬Poll.Unsuccessful (headerPoll.answerAt late.wire.stream 14) := by
    have answer_eq : headerPoll.answerAt late.wire.stream 14 = .ok [114, 1, 2, 7] := by
      decide +kernel
    rw [answer_eq]
    rintro ⟨⟩
    rename_i unknown
    exact unknown .readRegister rfl
  obtain ⟨result, -, polls⟩ :=
    (pollHeader_first_decisive late).1 14 (by decide) unsuccessful decisive
  have outcome_eq : late.pollHeader.1 = .ok (.readRegister, ⟨114, 258, 7⟩) := by
    decide +kernel
  obtain rfl := polls.outcome.symm.trans outcome_eq
  have empty : ∀ earlier, headerPoll.answerAt silent.wire.stream earlier = .ok [] := by
    intro earlier
    rw [RepeatedCall.answerAt, RepeatedCall.streamAfter, Function.iterate_fixed rfl]
    rfl
  obtain ⟨timeout, nothing⟩ := (pollHeader_first_decisive silent).2.1
    fun earlier _ => by rw [empty]; exact .empty
  exact ⟨polls, timeout, nothing fun earlier _ => by rw [empty]; rfl⟩

end AnswerReader

end RegisterBridge
