import RegisterBridge.Proofs.Dialogue.Reception
import RegisterBridge.Stream.Scripted

/-!
# Delivery of answers

A scripted stream delivers answers when their frames lie in its chunks one after
the other.  A header, or a payload that is not too large, must lie in one chunk;
a larger payload may be cut anywhere; and before a header some polls may be
unsuccessful.  The main statement is that every read of an answer then takes
exactly one frame.
-/

namespace RegisterBridge

namespace Scripted

/-! ## Bytes that come next -/

/-- The next read gives the piece, which is the front of a chunk.  Nothing is
read for an empty piece. -/
inductive Next (piece : List UInt8) : Scripted → Scripted → Prop
  | within {rest : List UInt8} {reads : List ReadStep} {writes : List WriteStep}
      {peer : Option Peer} {closeError : Option StreamError} :
      Next piece ⟨piece ++ rest, reads, writes, peer, closeError⟩
        ⟨rest, reads, writes, peer, closeError⟩
  | opening {rest : List UInt8} {reads : List ReadStep} {writes : List WriteStep}
      {peer : Option Peer} {closeError : Option StreamError} (nonempty : piece ≠ []) :
      Next piece ⟨[], .chunk (piece ++ rest) :: reads, writes, peer, closeError⟩
        ⟨rest, reads, writes, peer, closeError⟩

/-- A piece may take up a chunk to its end. -/
theorem Next.whole_chunk {piece : List UInt8} (nonempty : piece ≠ []) (reads : List ReadStep) :
    Next piece { reads := .chunk piece :: reads } { reads } := by
  have opened := @Next.opening piece [] reads [] none none nonempty
  rwa [List.append_nil] at opened

/-- The bytes come next, cut into chunks anywhere. -/
inductive Flows : List UInt8 → Scripted → Scripted → Prop
  | done (stream : Scripted) : Flows [] stream stream
  | more {byte : UInt8} {bytes : List UInt8} {stream next last : Scripted}
      (step : Next [byte] stream next) (rest : Flows bytes next last) :
      Flows (byte :: bytes) stream last

/-- Flows compose. -/
theorem Flows.append {first second : List UInt8} {stream next last : Scripted}
    (flows : Flows first stream next) (rest : Flows second next last) :
    Flows (first ++ second) stream last := by
  induction flows with
  | done stream => exact rest
  | more step _ ih => exact .more step (ih rest)

/-- Bytes in one chunk flow. -/
theorem Next.flows {piece : List UInt8} {stream last : Scripted}
    (next : Next piece stream last) : Flows piece stream last := by
  induction piece generalizing stream with
  | nil =>
      cases next with
      | within => exact .done _
      | opening nonempty => contradiction
  | cons byte piece ih =>
      cases next with
      | within => exact .more .within (ih .within)
      | opening nonempty => exact .more (.opening (List.cons_ne_nil _ _)) (ih .within)

/-- A piece is read at once. -/
theorem Next.read_eq {piece : List UInt8} {stream next : Scripted}
    (comes : Next piece stream next) (nonempty : piece ≠ []) :
    ByteStream.read stream piece.length = (.ok piece, next) := by
  cases piece with
  | nil => contradiction
  | cons byte piece =>
      cases comes with
      | within => simp [ByteStream.read, read]
      | opening nonempty => simp [ByteStream.read, read]

/-- A flow goes on after what is taken from the chunk being read. -/
theorem Flows.drop_chunk {bytes chunk : List UInt8} {reads : List ReadStep}
    {writes : List WriteStep} {peer : Option Peer} {closeError : Option StreamError}
    {last : Scripted} (flows : Flows bytes ⟨chunk, reads, writes, peer, closeError⟩ last)
    {want : Nat} (enough : want ≤ bytes.length) :
    ∃ left, bytes = chunk.take want ++ left ∧
      Flows left ⟨chunk.drop want, reads, writes, peer, closeError⟩ last := by
  induction want generalizing bytes chunk with
  | zero => exact ⟨bytes, rfl, flows⟩
  | succ want ih =>
      cases chunk with
      | nil => exact ⟨bytes, rfl, flows⟩
      | cons byte chunk =>
          cases flows with
          | done stream => contradiction
          | more step rest =>
              cases step with
              | within =>
                  obtain ⟨left, rfl, later⟩ := ih rest (Nat.le_of_succ_le_succ enough)
                  exact ⟨left, rfl, later⟩

/-- A read of no more than what flows takes a front part of it, and not nothing. -/
theorem Flows.read_eq {bytes : List UInt8} {stream last : Scripted}
    (flows : Flows bytes stream last) {want : Nat} (positive : 0 < want)
    (enough : want ≤ bytes.length) :
    ∃ byte taken left next, bytes = byte :: taken ++ left ∧
      ByteStream.read stream want = (.ok (byte :: taken), next) ∧ Flows left next last := by
  obtain ⟨want, rfl⟩ := Nat.exists_eq_succ_of_ne_zero (Nat.ne_of_gt positive)
  cases flows with
  | done stream => contradiction
  | more step rest =>
      have shorter := Nat.le_of_succ_le_succ enough
      cases step with
      | within =>
          obtain ⟨left, rfl, later⟩ := rest.drop_chunk shorter
          exact ⟨_, _, left, _, rfl, rfl, later⟩
      | opening nonempty =>
          obtain ⟨left, rfl, later⟩ := rest.drop_chunk shorter
          exact ⟨_, _, left, _, rfl, rfl, later⟩

/-- Nothing is left to be read. -/
structure Exhausted (stream : Scripted) : Prop where
  chunk : stream.chunk = []
  reads : stream.reads = []
  peer : stream.peer = none

theorem Exhausted.read_eq {stream : Scripted} (exhausted : stream.Exhausted) (want : Nat) :
    ByteStream.read stream want = (.ok [], stream) := by
  rcases stream with ⟨chunk, reads, writes, peer, closeError⟩
  rcases exhausted with ⟨rfl, rfl, rfl⟩
  rfl

end Scripted

/-! ## Polls -/

/-- A poll gets nothing out of the step: an empty read, an error, or four bytes
that start with no tag. -/
inductive ReadStep.Unsuccessful : ReadStep → Prop
  | empty : Unsuccessful (.chunk [])
  | fail (error : StreamError) : Unsuccessful (.fail error)
  | noTag {tag high low address : UInt8} (unknown : Tag.ofByte? tag = none) :
      Unsuccessful (.chunk [tag, high, low, address])

/-- So many unsuccessful polls come next. -/
inductive Scripted.Polled : Nat → Scripted → Scripted → Prop
  | none (stream : Scripted) : Polled 0 stream stream
  | more {polls : Nat} {step : ReadStep} {reads : List ReadStep} {writes : List WriteStep}
      {peer : Option Peer} {closeError : Option StreamError} {last : Scripted}
      (unsuccessful : step.Unsuccessful)
      (rest : Polled polls ⟨[], reads, writes, peer, closeError⟩ last) :
      Polled (polls + 1) ⟨[], step :: reads, writes, peer, closeError⟩ last

namespace Dialogue

open Scripted (Next Flows Polled Exhausted)

/-- An unsuccessful poll costs an attempt and nothing else. -/
theorem runOn_awaitHeader_unsuccessful {step : ReadStep} (unsuccessful : step.Unsuccessful)
    (attempts : Nat) (reads : List ReadStep) (writes : List WriteStep) (peer : Option Peer)
    (closeError : Option StreamError) :
    (awaitHeader (attempts + 1)).runOn
        (⟨[], step :: reads, writes, peer, closeError⟩ : Scripted) =
      (awaitHeader attempts).runOn ⟨[], reads, writes, peer, closeError⟩ := by
  rw [awaitHeader, runOn_poll]
  cases unsuccessful with
  | empty => rfl
  | fail error => rfl
  | noTag unknown =>
      simp [ByteStream.read, Scripted.read, headerSize, Poll.ofBytes, unknown]

theorem runOn_awaitHeader_polled {polls : Nat} {stream next : Scripted}
    (polled : Polled polls stream next) {attempts : Nat} (few : polls ≤ attempts) :
    (awaitHeader attempts).runOn stream = (awaitHeader (attempts - polls)).runOn next := by
  induction polled generalizing attempts with
  | none stream => rfl
  | more unsuccessful rest ih =>
      obtain ⟨attempts, rfl⟩ := Nat.exists_eq_add_of_le' few
      rw [← Nat.add_assoc, runOn_awaitHeader_unsuccessful unsuccessful, ih (Nat.le_add_left ..)]
      congr 2
      omega

/-- Polling an exhausted stream is a time-out in the end. -/
theorem runOn_awaitHeader_exhausted {stream : Scripted} (exhausted : stream.Exhausted)
    (attempts : Nat) :
    (awaitHeader attempts).runOn stream = (.error (.timeout maxHeaderPolls), stream) := by
  induction attempts with
  | zero => rfl
  | succ attempts ih =>
      rw [awaitHeader, runOn_poll, exhausted.read_eq]
      exact ih

/-- A drain of all that flows leaves nothing of it. -/
theorem runOn_drain {bytes : List UInt8} {stream last : Scripted}
    (flows : Flows bytes stream last) :
    (drain bytes.length).runOn stream = (.ok 0, last) := by
  induction size_eq : bytes.length using Nat.strongRecOn generalizing bytes stream with
  | ind size ih =>
      subst size
      by_cases drained : bytes.length = 0
      · cases List.length_eq_zero_iff.mp drained
        cases flows
        rw [drain]
        rfl
      · have positive : 0 < min bytes.length (maxAnswerPayload + 1) :=
          Nat.lt_min.mpr ⟨Nat.pos_of_ne_zero drained, Nat.succ_pos _⟩
        obtain ⟨byte, taken, left, next, split_eq, read_eq, rest⟩ :=
          flows.read_eq positive (Nat.min_le_left ..)
        have length_eq : bytes.length = taken.length + 1 + left.length := by
          rw [split_eq, List.length_append, List.length_cons]
        rw [drain, if_neg drained, runOn_fetch read_eq rfl]
        dsimp only
        rw [length_eq, Nat.add_sub_cancel_left]
        exact ih left.length (by omega) rest rfl

end Dialogue

/-! ## Frames -/

/-- What the reader should make of an answer on the wire. -/
def Answer.received (answer : Answer) : Outcome FrameError Answer :=
  if answer.payload.length ≤ maxAnswerPayload then .ok answer
  else .error (.answerTooLarge answer.payload.length maxAnswerPayload)

namespace Scripted

/-- The body of a frame comes next.  It may be cut if the payload is too large
to be kept. -/
inductive Comes (length : Nat) (body : List UInt8) (stream last : Scripted) : Prop
  | whole (small : length ≤ maxAnswerPayload) (next : Next body stream last)
  | cut (large : maxAnswerPayload < length) (flows : Flows body stream last)

/-- The frame of an answer comes next, after fewer unsuccessful polls than are
made for one answer. -/
inductive Arrives (answer : Answer) (stream last : Scripted) : Prop
  | intro {polls : Nat} {start opened : Scripted} {header body : List UInt8}
      (polled : Polled polls stream start) (few : polls < maxHeaderPolls)
      (image : answer.Image header body) (first : Next header start opened)
      (rest : Comes answer.payload.length body opened last)

/-- A stream delivers answers one after the other.  Each one comes with what is
left of the stream after its frame. -/
inductive Delivers : Scripted → List (Answer × Scripted) → Scripted → Prop
  | nil (stream : Scripted) : Delivers stream [] stream
  | cons {answer : Answer} {stream next last : Scripted} {later : List (Answer × Scripted)}
      (arrives : Arrives answer stream next) (rest : Delivers next later last) :
      Delivers stream ((answer, next) :: later) last

end Scripted

namespace Dialogue

open Scripted (Next Comes Arrives)

/-- What comes after the header of an answer is taken as the rest of it. -/
theorem runOn_rest {answer : Answer} {header body : List UInt8} {stream last : Scripted}
    (image : answer.Image header body)
    (comes : Comes answer.payload.length body stream last) :
    (rest answer.tag ⟨answer.tag.byte, answer.payload.length, answer.address⟩).runOn stream =
      (answer.received, last) := by
  cases comes with
  | whole small next =>
      rw [Answer.received, if_pos small]
      apply runOn_rest_of_le image small next.read_eq
      rintro rfl
      cases next with
      | within => rfl
      | opening nonempty => contradiction
  | cut large flows =>
      have drained : (discard body.length).runOn stream = (.ok (), last) :=
        runOn_andThen (runOn_drain flows) _
      have above : ¬answer.payload.length ≤ maxAnswerPayload := Nat.not_le.mpr large
      rw [rest, if_neg above, Answer.received, if_neg above, ← image.length_body,
        runOn_bind, drained]
      rfl

/-- The answer that arrives is received, and nothing beyond its frame is read. -/
theorem runOn_answer {answer : Answer} {stream last : Scripted}
    (arrives : Arrives answer stream last) :
    Dialogue.answer.runOn stream = (answer.received, last) := by
  rcases arrives with ⟨polled, few, image, first, comes⟩
  rename_i polls start opened header body
  have nonempty : header ≠ [] := by
    rw [image.parts.1]
    exact List.cons_ne_nil _ _
  have found : (awaitHeader maxHeaderPolls).runOn stream =
      (.ok (answer.tag, ⟨answer.tag.byte, answer.payload.length, answer.address⟩), opened) := by
    rw [runOn_awaitHeader_polled polled (Nat.le_of_lt few)]
    exact runOn_awaitHeader_found image (first.read_eq nonempty) (Nat.sub_ne_zero_of_lt few)
  rw [Dialogue.answer, runOn_andThen found]
  exact runOn_rest image comes

end Dialogue

/-! ## Readers -/

namespace AnswerReader

/-- Read one answer after the other.  Each outcome comes with the stream it
leaves. -/
def readAnswers {σ : Type} [ByteStream σ] :
    Nat → AnswerReader σ → List (Outcome FrameError Answer × σ) × AnswerReader σ
  | 0, reader => ([], reader)
  | count + 1, reader =>
    match reader.readAnswer with
    | (outcome, reader) =>
      match readAnswers count reader with
      | (later, ending) => ((outcome, reader.wire.stream) :: later, ending)

/-- Reading an answer is the answer dialogue over the stream. -/
theorem readAnswer_runOn {σ : Type} [ByteStream σ] (reader : AnswerReader σ) :
    reader.readAnswer.map id (·.wire.stream) = Dialogue.answer.runOn reader.wire.stream := by
  rw [← Dialogue.run_stream, ← reader.readAnswer_eq_run]
  rfl

/-- Every answer that a stream delivers is read in its turn, whatever the buffer
holds.  Those within the limit are received as they are and longer ones are
refused, each read leaves the stream at the end of its own frame, and once the
stream is used up the next read runs into the time limit. -/
theorem readAnswers_of_delivers {reader : AnswerReader Scripted} {last : Scripted}
    {deliveries : List (Answer × Scripted)}
    (delivers : reader.wire.stream.Delivers deliveries last) :
    ∃ ending,
      reader.readAnswers deliveries.length =
        (deliveries.map (Prod.map Answer.received id), ending) ∧
      ending.wire.stream = last ∧
      (last.Exhausted → ending.readAnswer.1 = .error (.timeout maxHeaderPolls)) := by
  generalize stream_eq : reader.wire.stream = stream at delivers
  induction delivers generalizing reader with
  | nil stream =>
      refine ⟨reader, rfl, stream_eq, fun exhausted => ?_⟩
      have read_eq := reader.readAnswer_runOn
      rw [stream_eq, Dialogue.answer, Dialogue.andThen, Dialogue.runOn_bind,
        Dialogue.runOn_awaitHeader_exhausted exhausted] at read_eq
      exact congrArg Prod.fst read_eq
  | @cons answer stream next last later arrives rest ih =>
      have read_eq := reader.readAnswer_runOn
      rw [stream_eq, Dialogue.runOn_answer arrives] at read_eq
      have outcome_eq : reader.readAnswer.1 = answer.received := congrArg Prod.fst read_eq
      have left_eq : reader.readAnswer.2.wire.stream = next := congrArg Prod.snd read_eq
      obtain ⟨ending, later_eq, rest_eq⟩ := ih left_eq
      refine ⟨ending, ?_, rest_eq⟩
      rw [List.length_cons, readAnswers]
      dsimp only
      rw [later_eq, outcome_eq, left_eq]
      rfl

/-- A padded answer after a failed poll shares its chunk with the header of an
answer whose payload is too large and cut. -/
theorem readAnswers_padded_then_cut :
    ∃ ending,
      readAnswers 2
          ⟨{ stream :=
              { reads :=
                  [.fail (.ofKind .timedOut),
                    .chunk ([114, 0, 60, 2] ++ (List.replicate 60 7 ++ [255] ++ [112, 16, 1, 8])),
                    .chunk (List.replicate 4000 0), .chunk (List.replicate 97 0)] } },
            ⟨[1, 2, 3]⟩⟩ =
        ([(.ok ⟨.readRegister, 2, List.replicate 60 7⟩,
            { chunk := [112, 16, 1, 8],
              reads := [.chunk (List.replicate 4000 0), .chunk (List.replicate 97 0)] }),
          (.error (.answerTooLarge 4097 4096), {})], ending) ∧
      ending.wire.stream = ({} : Scripted) ∧
      ending.readAnswer.1 = .error (.timeout maxHeaderPolls) := by
  have image : Answer.Image ⟨.readRegister, 2, List.replicate 60 7⟩ [114, 0, 60, 2]
      (List.replicate 60 7 ++ [255]) :=
    ⟨by decide, rfl, [255], rfl, rfl⟩
  have padded (reads : List ReadStep) : Scripted.Arrives
      ⟨.readRegister, 2, List.replicate 60 7⟩
      { reads := .fail (.ofKind .timedOut) ::
          .chunk ([114, 0, 60, 2] ++ (List.replicate 60 7 ++ [255] ++ [112, 16, 1, 8])) :: reads }
      { chunk := [112, 16, 1, 8], reads } :=
    .intro (.more (.fail _) (.none _)) (by decide) image (.opening (by decide))
      (.whole (by decide) .within)
  have cut {payload : List UInt8} (length_eq : payload.length = 4097) (reads : List ReadStep)
      (flows : Scripted.Flows payload { reads } {}) :
      Scripted.Arrives ⟨.readBurstAtomic, 8, payload⟩ { chunk := [112, 16, 1, 8], reads } {} := by
    have image : Answer.Image ⟨.readBurstAtomic, 8, payload⟩ [112, 16, 1, 8] payload := by
      refine ⟨by rw [length_eq]; decide, rfl, [], ?_, by rw [length_eq]; rfl⟩
      rw [Command.encode, length_eq, List.append_nil]
      rfl
    exact .intro (.none _) (by decide) image .within (.cut (by rw [length_eq]; decide) flows)
  have zeros (count : Nat) (reads : List ReadStep) :
      Scripted.Flows (List.replicate (count + 1) 0)
        { reads := .chunk (List.replicate (count + 1) 0) :: reads } { reads } :=
    (Scripted.Next.whole_chunk (List.cons_ne_nil _ _) reads).flows
  have length_eq :
      (List.replicate 4000 (0 : UInt8) ++ List.replicate 97 0).length = 4097 := by
    rw [List.length_append, List.length_replicate, List.length_replicate]
  have refused : Answer.received
      ⟨.readBurstAtomic, 8, List.replicate 4000 0 ++ List.replicate 97 0⟩ =
        .error (.answerTooLarge 4097 4096) := by
    rw [Answer.received, length_eq]
    rfl
  have delivers := Scripted.Delivers.cons (padded _)
    (.cons (cut length_eq _ ((zeros 3999 _).append (zeros 96 []))) (.nil _))
  obtain ⟨ending, outcomes, left, timeout⟩ :=
    @readAnswers_of_delivers ⟨{ stream := _ }, ⟨[1, 2, 3]⟩⟩ _ _ delivers
  refine ⟨ending, ?_, left, timeout ⟨rfl, rfl, rfl⟩⟩
  simp only [List.map_cons, List.map_nil, Prod.map, refused] at outcomes
  exact outcomes

end AnswerReader

end RegisterBridge
