import RegisterBridge.Proofs.Burst.Gathering
import RegisterBridge.Proofs.Dialogue.Reception
import RegisterBridge.Proofs.Polling

/-!
# Read bursts that are answered

A stream serves a read burst when it takes the command of one chunk after the other
and gives an answer to each.  Answers may have any tag and any address, and they may
be longer or shorter than their chunk.  The relations here are about the stream alone:
how it answers the calls that are made for a chunk, and where that leaves it.

The main statement is that the destination holds the front parts of the answers, one
after the other, up to the first answer that is too short, and that the stream is left
at the end of the last answer used.
-/

namespace RegisterBridge

/-! ## Calls that succeed in the end -/

namespace RepeatedCall

variable {σ α : Type} {call : RepeatedCall σ α} {stream last : σ} {value : α}

/-- After any number of interruptions the call gives a value, which leaves the stream
where it says. -/
inductive Yields (call : RepeatedCall σ α) (value : α) (stream : σ) : σ → Prop
  | intro {count : Nat} (settles : call.SettlesAt stream count)
      (answer : call.answerAt stream count = .ok value) :
      Yields call value stream (call.streamAfter stream (count + 1))

/-- A call may give the value at once. -/
theorem Yields.of_answer (answer : call.answer stream = (.ok value, last)) :
    call.Yields value stream last := by
  have first : call.answerAt stream 0 = .ok value := congrArg Prod.fst answer
  have left : call.streamAfter stream 1 = last := congrArg Prod.snd answer
  rw [← left]
  exact .intro (settlesAt_zero (by rw [first]; rfl)) first

end RepeatedCall

namespace Wire

variable {σ : Type}

/-- A wire has come by bytes since an earlier one, and left its stream somewhere. -/
structure Took (wire : Wire σ) (bytes : List UInt8) (last : σ) (next : Wire σ) : Prop where
  stream : next.stream = last
  received : Call.bytesReceived next.transcript =
    Call.bytesReceived wire.transcript ++ bytes

theorem Took.refl (wire : Wire σ) : wire.Took [] wire.stream wire :=
  ⟨rfl, (List.append_nil _).symm⟩

theorem Took.trans {wire next ending : Wire σ} {first second : List UInt8} {middle last : σ}
    (took : wire.Took first middle next) (took' : next.Took second last ending) :
    wire.Took (first ++ second) last ending where
  stream := took'.stream
  received := by rw [took'.received, took.received, List.append_assoc]

/-- Calls take the bytes that their reads give. -/
theorem took_wireAfter {α : Type} (call : RepeatedCall σ α) (wire : Wire σ) (count : Nat) :
    wire.Took (Call.bytesReceived (call.calls wire.stream count))
      (call.streamAfter wire.stream count) (call.wireAfter wire count) :=
  ⟨rfl, by rw [RepeatedCall.transcript_wireAfter, Call.bytesReceived_append]⟩

/-- Of the calls up to the one that settles, only that one can give anything. -/
theorem took_of_settlesAt {α : Type} {call : RepeatedCall σ α} {wire : Wire σ} {count : Nat}
    (settles : call.SettlesAt wire.stream count)
    (silent : ∀ answer, answer.isInterrupted = true →
      (call.entry answer).received?.getD [] = []) :
    wire.Took ((call.entry (call.answerAt wire.stream count)).received?.getD [])
      (call.streamAfter wire.stream (count + 1)) (call.wireAfter wire (count + 1)) := by
  have took := took_wireAfter call wire (count + 1)
  rwa [Call.bytesReceived, settles.flatMap_calls silent] at took

variable [ByteStream σ]

/-- What a read gives in the end is fetched. -/
theorem exists_fetch_of_yields {purpose : Purpose} {want : Nat} {wire : Wire σ}
    {data : List UInt8} {last : σ}
    (yields : (RepeatedCall.read purpose want).Yields data wire.stream last) :
    ∃ next, wire.fetch purpose want = (.ok data, next) ∧ wire.Took data last next := by
  cases yields with
  | intro settles answer =>
      obtain ⟨_, settles', fetch_eq⟩ := wire.exists_settlesAt_fetch purpose want
      cases settles.unique settles'
      have took := took_of_settlesAt settles <| by
        rintro (data | error | _) interrupted
        · contradiction
        · rfl
        · contradiction
      rw [answer] at fetch_eq took
      exact ⟨_, fetch_eq, took⟩

/-- An offer that is taken in the end is settled, and nothing is received meanwhile. -/
theorem exists_offer_of_yields {bytes : List UInt8} {wire : Wire σ} {written : Nat} {last : σ}
    (yields : (RepeatedCall.write bytes).Yields written wire.stream last) :
    ∃ next, wire.offer bytes = (.ok written, next) ∧ wire.Took [] last next := by
  cases yields with
  | intro settles answer =>
      obtain ⟨_, settles', offer_eq⟩ := wire.exists_settlesAt_offer bytes
      cases settles.unique settles'
      rw [answer] at offer_eq
      exact ⟨_, offer_eq, took_of_settlesAt settles fun _ _ => rfl⟩

end Wire

/-! ## Answers that are given -/

/-- A poll gives nothing and takes nothing. -/
inductive Poll.Idle : Outcome StreamError (List UInt8) → Prop
  | empty : Idle (.ok [])
  | failed (error : StreamError) : Idle (.error error)

theorem Poll.Idle.unsuccessful {got : Outcome StreamError (List UInt8)} (idle : Poll.Idle got) :
    Poll.Unsuccessful got := by
  cases idle with
  | empty => exact .empty
  | failed error => exact .failed error

theorem Poll.Idle.bytes_eq {got : Outcome StreamError (List UInt8)} (idle : Poll.Idle got) :
    got.bytes = [] := by
  cases idle <;> rfl

/-- The header of an answer decides a poll that reads it. -/
theorem Answer.Image.decides {answer : Answer} {header body : List UInt8}
    (image : answer.Image header body) :
    Poll.Decides (.ok header)
      (.ok (answer.tag, ⟨answer.tag.byte, answer.payload.length, answer.address⟩)) := by
  have found := Poll.Decides.found answer.tag (answer.payload.length / 256).toUInt8
    (answer.payload.length % 256).toUInt8 answer.address
  rw [toNat_bigEndian16 image.fits] at found
  rw [image.parts.1]
  exact found

open Wire (headerPoll)

section Supply

variable {σ : Type} [ByteStream σ]

/-- A stream gives the body of an answer whole to the read that is made for it.  No
read is made for an empty one. -/
inductive Completes (body : List UInt8) (stream : σ) : σ → Prop
  | nothing (empty : body = []) : Completes body stream stream
  | whole {last : σ} (nonempty : body ≠ [])
      (yields : (RepeatedCall.read .body body.length).Yields body stream last) :
      Completes body stream last

/-- A stream gives a whole answer within the limits, before the polls for it run out.
The bytes are the image of the answer. -/
inductive Supplies (answer : Answer) (stream : σ) : List UInt8 → σ → Prop
  | intro {polls : Nat} {header body : List UInt8} {last : σ} (few : polls < maxHeaderPolls)
      (idle : ∀ earlier < polls, Poll.Idle (headerPoll.answerAt stream earlier))
      (image : answer.Image header body) (small : answer.payload.length ≤ maxAnswerPayload)
      (found : headerPoll.answerAt stream polls = .ok header)
      (completes : Completes body (headerPoll.streamAfter stream (polls + 1)) last) :
      Supplies answer stream (header ++ body) last

/-- A stream serves chunks of a read burst: it takes the command of each, if only in
part, and then gives the answer that stands with it.  The bytes are the images of the
answers. -/
inductive Serves (address : UInt8) :
    σ → List (Burst.Chunk × Answer) → List UInt8 → σ → Prop
  | nil (stream : σ) : Serves address stream [] [] stream
  | cons {stream opened next last : σ} {chunk : Burst.Chunk} {answer : Answer}
      {later : List (Burst.Chunk × Answer)} {image images : List UInt8} {written : Nat}
      (accepts : (RepeatedCall.write (LinkState.readCommand address chunk).encode).Yields
        written stream opened)
      (supplies : Supplies answer opened image next)
      (rest : Serves address next later images last) :
      Serves address stream ((chunk, answer) :: later) (image ++ images) last

/-- Chunks that are served are served in two parts, wherever they are cut. -/
theorem Serves.exists_of_append {address : UInt8} {stream last : σ}
    {first second : List (Burst.Chunk × Answer)} {images : List UInt8}
    (serves : Serves address stream (first ++ second) images last) :
    ∃ middle front back, images = front ++ back ∧ Serves address stream first front middle ∧
      Serves address middle second back last := by
  induction first generalizing stream images with
  | nil => exact ⟨stream, [], images, rfl, .nil stream, serves⟩
  | cons pair first ih =>
      cases serves with
      | cons accepts supplies rest =>
          obtain ⟨middle, front, back, rfl, served, later⟩ := ih rest
          exact ⟨middle, _, back, (List.append_assoc ..).symm, .cons accepts supplies served,
            later⟩

end Supply

/-! ## Exchanges -/

namespace Dialogue

variable {σ : Type} [ByteStream σ] {answer : Answer} {wire : Wire σ} {image : List UInt8}
  {last : σ}

/-- A body that completes its answer is taken. -/
theorem exists_run_body_of_completes {header body : List UInt8} (shape : answer.Image header body)
    (completes : Completes body wire.stream last) :
    ∃ next,
      (Dialogue.body answer.tag
          ⟨answer.tag.byte, answer.payload.length, answer.address⟩).run wire =
        (.ok answer, next) ∧
      wire.Took body last next := by
  have payload_eq := shape.take_body
  rw [Dialogue.body]
  dsimp only
  rw [← shape.length_body]
  cases completes with
  | nothing empty =>
      subst empty
      rw [List.take_nil] at payload_eq
      refine ⟨wire, ?_, .refl wire⟩
      rw [if_pos List.length_nil, run_done, payload_eq]
  | whole nonempty yields =>
      have missing : body.length ≠ 0 := fun none => nonempty (List.length_eq_zero_iff.mp none)
      obtain ⟨next, fetch_eq, took⟩ := Wire.exists_fetch_of_yields yields
      refine ⟨next, ?_, took⟩
      rw [if_neg missing, run_fetch, fetch_eq]
      simp [payload_eq]

/-- Idle polls take nothing, and the one that finds the header takes it. -/
theorem took_headerPoll {polls : Nat} {header : List UInt8}
    (idle : ∀ earlier < polls, Poll.Idle (headerPoll.answerAt wire.stream earlier))
    (found : headerPoll.answerAt wire.stream polls = .ok header) :
    wire.Took header (headerPoll.streamAfter wire.stream (polls + 1))
      (headerPoll.wireAfter wire (polls + 1)) := by
  have took := Wire.took_wireAfter headerPoll wire (polls + 1)
  have nothing : ((List.range polls).flatMap fun earlier =>
      (headerPoll.answerAt wire.stream earlier).bytes) = [] :=
    List.flatMap_eq_nil_iff.mpr fun earlier member =>
      (idle earlier (List.mem_range.mp member)).bytes_eq
  have received : Call.bytesReceived (headerPoll.calls wire.stream (polls + 1)) = header :=
    calc
      _ = (List.range (polls + 1)).flatMap fun earlier =>
          (headerPoll.answerAt wire.stream earlier).bytes :=
        RepeatedCall.bytesReceived_calls_read ..
      _ = header := by
        rw [List.range_succ, List.flatMap_append, nothing, List.flatMap_singleton, found]
        rfl
  rwa [received] at took

/-- An answer that is supplied is received, and nothing beyond it is taken. -/
theorem exists_run_answer_of_supplies (supplies : Supplies answer wire.stream image last) :
    ∃ next, Dialogue.answer.run wire = (.ok answer, next) ∧ wire.Took image last next := by
  cases supplies with
  | @intro polls header body _ few idle shape small found completes =>
      have decides := shape.decides
      rw [← found] at decides
      have polled := Wire.pollHeader_of_first few
        (fun earlier before => (idle earlier before).unsuccessful) decides
      obtain ⟨next, body_eq, took⟩ :=
        @exists_run_body_of_completes σ _ answer (headerPoll.wireAfter wire (polls + 1)) last
          header body shape completes
      refine ⟨next, ?_, (took_headerPoll idle found).trans took⟩
      rw [Dialogue.answer, run_andThen, ← Wire.pollHeader_eq_run, polled]
      dsimp only
      rw [rest, if_pos small]
      exact body_eq

/-- A command that the stream takes is sent, even if it is taken in part. -/
theorem exists_run_send_of_yields {command : Command} {written : Nat}
    (fits : command.payload.length ≤ maxCommandPayload)
    (accepts : (RepeatedCall.write command.encode).Yields written wire.stream last) :
    ∃ next, (send command).run wire = (.ok written, next) ∧ wire.Took [] last next := by
  obtain ⟨next, offer_eq, took⟩ := Wire.exists_offer_of_yields accepts
  rw [send, if_pos fits, transmit, run_offer, offer_eq]
  dsimp only
  split
  · exact ⟨next, rfl, took⟩
  · exact ⟨_, rfl, took.stream, took.received⟩

end Dialogue

namespace LinkState

variable {σ : Type} [ByteStream σ] {state : LinkState σ} {address : UInt8}

/-- An exchange whose command is taken and whose answer is supplied gives that answer. -/
theorem exists_execute_of_supplies {chunk : Burst.Chunk} {answer : Answer} {written : Nat}
    {opened last : σ} {image : List UInt8}
    (accepts : (RepeatedCall.write (readCommand address chunk).encode).Yields written
      state.wire.stream opened)
    (supplies : Supplies answer opened image last) :
    ∃ next, state.execute (readCommand address chunk) = (.ok answer, next) ∧
      state.wire.Took image last next.wire := by
  obtain ⟨sent, send_eq, sending⟩ :=
    Dialogue.exists_run_send_of_yields (fits_readCommand address chunk) accepts
  rw [← sending.stream] at supplies
  obtain ⟨ending, answer_eq, receiving⟩ := Dialogue.exists_run_answer_of_supplies supplies
  have run_eq : (Dialogue.exchange (readCommand address chunk)).run state.wire =
      (.ok answer, ending) := by
    rw [Dialogue.exchange, Dialogue.run_map, Dialogue.run_andThen, send_eq]
    dsimp only
    rw [answer_eq]
    rfl
  have executed := state.execute_eq_run (readCommand address chunk)
  rw [run_eq] at executed
  have outcome_eq : (state.execute (readCommand address chunk)).1 = .ok answer :=
    congrArg Prod.fst executed
  have wire_eq : (state.execute (readCommand address chunk)).2.wire = ending :=
    congrArg Prod.snd executed
  refine ⟨_, Prod.ext outcome_eq rfl, ?_⟩
  rw [wire_eq]
  exact sending.trans receiving

/-! ## Bursts -/

/-- The front parts of the answers, each as long as its chunk. -/
def gathered (pairs : List (Burst.Chunk × Answer)) : List UInt8 :=
  pairs.flatMap fun (chunk, answer) => answer.payload.take chunk.length

theorem gathered_cons (chunk : Burst.Chunk) (answer : Answer)
    (pairs : List (Burst.Chunk × Answer)) :
    gathered ((chunk, answer) :: pairs) = answer.payload.take chunk.length ++ gathered pairs :=
  List.flatMap_cons

/-- Every answer has a byte for each place of its chunk. -/
def LongEnough (pairs : List (Burst.Chunk × Answer)) : Prop :=
  ∀ pair ∈ pairs, pair.1.length ≤ pair.2.payload.length

/-- A front of the plan that is served with long answers is gathered. -/
theorem exists_collect_of_serves {pairs : List (Burst.Chunk × Answer)} {images : List UInt8}
    {last : σ} (serves : Serves address state.wire.stream pairs images last)
    (long : LongEnough pairs) (rest : List Burst.Chunk) :
    ∃ next, collect address (pairs.map Prod.fst ++ rest) state =
        (collect address rest next).preceded (gathered pairs) ∧
      state.wire.Took images last next.wire := by
  generalize stream_eq : state.wire.stream = stream at serves
  induction serves generalizing state with
  | nil stream =>
      subst stream_eq
      exact ⟨state, rfl, .refl state.wire⟩
  | @cons stream opened next last chunk answer later image images written accepts supplies _ ih =>
      subst stream_eq
      obtain ⟨reached, executed, took⟩ := exists_execute_of_supplies accepts supplies
      obtain ⟨ending, collected, took'⟩ :=
        ih (fun pair member => long pair (List.mem_cons_of_mem _ member)) took.stream
      refine ⟨ending, ?_, took.trans took'⟩
      rw [List.map_cons, List.cons_append,
        collect_of_ok executed (long (chunk, answer) List.mem_cons_self), collected,
        gathered_cons]
      simp only [Harvest.preceded, List.append_assoc]

/-- The bytes gathered before a chunk fill the burst up to the chunk. -/
theorem length_gathered {size threshold offset : Nat} {pairs : List (Burst.Chunk × Answer)}
    {chunk : Burst.Chunk} {rest : List Burst.Chunk}
    (covers : Burst.Covers size threshold offset (pairs.map Prod.fst ++ chunk :: rest))
    (long : LongEnough pairs) : offset + (gathered pairs).length = chunk.offset := by
  induction pairs generalizing offset with
  | nil =>
      cases covers with
      | last left fits => rfl
      | more left covers => rfl
  | cons pair pairs ih =>
      rcases pair with ⟨first, answer⟩
      have enough := long (first, answer) List.mem_cons_self
      generalize behind : pairs.map Prod.fst ++ chunk :: rest = later at ih
      rw [List.map_cons, List.cons_append, behind] at covers
      rw [gathered_cons, List.length_append, List.length_take_of_le enough, ← Nat.add_assoc]
      cases covers with
      | last left fits => simp at behind
      | more left covers =>
          exact ih covers fun pair member => long pair (List.mem_cons_of_mem _ member)

end LinkState

/-- Bytes put over the front of a buffer leave what is behind them. -/
theorem toList_overwrite_zero {buffer : Array UInt8} {bytes : List UInt8}
    (fits : bytes.length ≤ buffer.size) :
    (overwrite buffer 0 bytes).toList = bytes ++ buffer.toList.drop bytes.length := by
  apply List.ext_getElem?
  intro index
  rw [Array.getElem?_toList, getElem?_overwrite, Nat.sub_zero]
  by_cases front : index < bytes.length
  · rw [if_pos ⟨Nat.zero_le _, by rwa [Nat.zero_add], Nat.lt_of_lt_of_le front fits⟩,
      List.getElem?_append_left front]
  · have behind := Nat.le_of_not_lt front
    rw [if_neg fun inside => front (by rw [← Nat.zero_add bytes.length]; exact inside.2.1),
      List.getElem?_append_right behind, List.getElem?_drop, Nat.add_sub_cancel' behind,
      Array.getElem?_toList]

namespace LinkState

variable {σ : Type} [ByteStream σ]

/-- A read burst has an outcome, holds bytes in front of what its destination held before,
and has taken the images of the answers, which leaves the stream at their end. -/
structure GathersFrom (state : LinkState σ) (destination : Array UInt8) (images : List UInt8)
    (last : σ) (outcome : Outcome LinkError Unit) (bytes : List UInt8)
    (ended : Gathering σ) : Prop where
  outcome : ended.outcome = outcome
  destination : ended.destination.toList = bytes ++ destination.toList.drop bytes.length
  stream : ended.state.wire.stream = last
  received : Call.bytesReceived ended.state.wire.transcript =
    Call.bytesReceived state.wire.transcript ++ images

/-- **A read burst gathers exactly the answers.**  Let a stream serve the chunks of the plan.
If every answer is long enough for its chunk, the burst succeeds, the destination is the front
parts of the answers one after the other, and exactly these answers are taken off the stream.
If the stream serves a front of the plan and the answer to the last chunk of that front is the
first that is too short, the burst ends with the lengths of that chunk and that answer, exactly
the answers so far are taken, the destination holds what was gathered up to the chunk, and it is
unchanged from there on. -/
theorem readBurst_gathers (state : LinkState σ) (address : UInt8) (destination : Array UInt8)
    {threshold : Nat} (positive : 0 < threshold) (nonempty : 0 < destination.size)
    (small : destination.size ≤ 65535) :
    ∃ chunks, Burst.plan destination.size threshold = .ok chunks ∧
      (∀ pairs images last, pairs.map Prod.fst = chunks →
        Serves address state.wire.stream pairs images last → LongEnough pairs →
        state.GathersFrom destination images last (.ok ()) (gathered pairs)
            (state.readBurst address destination threshold) ∧
          (gathered pairs).length = destination.size) ∧
      ∀ pairs chunk answer rest images last, pairs.map Prod.fst ++ chunk :: rest = chunks →
        Serves address state.wire.stream (pairs ++ [(chunk, answer)]) images last →
        LongEnough pairs → answer.payload.length < chunk.length →
        state.GathersFrom destination images last
            (.error (.shortAnswer (.burst .read chunk.kind) chunk.length answer.payload.length))
            (gathered pairs) (state.readBurst address destination threshold) ∧
          (gathered pairs).length = chunk.offset := by
  obtain ⟨chunks, planned, covers⟩ := Burst.exists_plan positive nonempty small
  have burst_eq : state.readBurst address destination threshold =
      (collect address chunks state).into destination 0 := by
    rw [readBurst, planned]
    exact gatherChunks_eq_collect covers address destination state
  rw [burst_eq]
  refine ⟨chunks, planned, ?_, ?_⟩
  · rintro pairs images last rfl serves long
    obtain ⟨next, collected, took⟩ := exists_collect_of_serves serves long []
    have bytes_eq : (collect address (pairs.map Prod.fst) state) =
        ⟨.ok (), gathered pairs, next⟩ := by
      simpa [collect, Harvest.preceded] using collected
    have whole : (gathered pairs).length = destination.size := by
      simpa [bytes_eq] using length_collect covers (congrArg Harvest.outcome bytes_eq)
    rw [bytes_eq]
    exact ⟨⟨rfl, toList_overwrite_zero (Nat.le_of_eq whole), took.stream, took.received⟩, whole⟩
  · rintro pairs chunk answer rest images last rfl serves long short
    obtain ⟨middle, front, _, rfl, served, later⟩ := serves.exists_of_append
    cases later with
    | cons accepts supplies done =>
        cases done
        obtain ⟨next, collected, took⟩ := exists_collect_of_serves served long (chunk :: rest)
        rw [← took.stream] at accepts
        obtain ⟨ending, executed, took'⟩ := exists_execute_of_supplies accepts supplies
        have offset_eq : (gathered pairs).length = chunk.offset :=
          (Nat.zero_add _).symm.trans (length_gathered covers long)
        have inside := covers.ends_within (List.mem_append_right _ List.mem_cons_self)
        have all := took.trans took'
        rw [List.append_nil, collected, collect_of_short executed short]
        refine ⟨⟨rfl, ?_, all.stream, all.received⟩, offset_eq⟩
        rw [Harvest.into, Harvest.preceded, List.append_nil]
        apply toList_overwrite_zero
        rw [offset_eq]
        exact Nat.le_trans (Nat.le_add_right ..) inside

/-- A stream that takes a command in part, fails a poll and gives a long and padded answer,
and then something else. -/
def padded (later : List UInt8) : Scripted where
  reads := [.fail (.ofKind .timedOut), .chunk [114, 0, 60, 2], .chunk (List.replicate 61 7),
    .chunk later]
  writes := [.accept 3]

/-- A state over that stream. -/
def expecting (later : List UInt8) : LinkState Scripted where
  wire := { stream := padded later }
  encodeBuffer := ⟨[1, 2, 3]⟩

/-- The stream serves two chunks with the long answer and with what comes after it. -/
theorem serves_padded {answer : Answer} {later header body : List UInt8} {last : Scripted}
    (supplies : Supplies answer { reads := [.chunk later] } (header ++ body) last) :
    Serves 8 (padded later)
      [(⟨.first, 0, 2⟩, ⟨.readRegister, 2, List.replicate 60 7⟩), (⟨.final, 2, 1⟩, answer)]
      ([114, 0, 60, 2] ++ List.replicate 61 7 ++ (header ++ body ++ [])) last := by
  have opened : (RepeatedCall.write (readCommand 8 ⟨.first, 0, 2⟩).encode).Yields 3
      (padded later) { padded later with writes := [] } :=
    .of_answer rfl
  have idle : ∀ earlier < 1, Poll.Idle
      (headerPoll.answerAt { padded later with writes := [] } earlier) := by
    rintro (_ | earlier) before
    · exact .failed _
    · contradiction
  have shape : Answer.Image ⟨.readRegister, 2, List.replicate 60 7⟩ [114, 0, 60, 2]
      (List.replicate 61 7) :=
    ⟨by decide, rfl, [7], rfl, rfl⟩
  have completes : Completes (List.replicate 61 7)
      (headerPoll.streamAfter { padded later with writes := [] } 2)
      { reads := [.chunk later] } :=
    .whole (List.cons_ne_nil _ _) (.of_answer rfl)
  exact .cons opened (.intro (by decide) idle shape (by decide) rfl completes)
    (.cons (.of_answer rfl) supplies (.nil last))

/-- A second answer without a payload is too short for its chunk; one with a byte, under
another tag and another address, is not. -/
theorem readBurst_gathers_padded :
    (∃ images, (expecting [117, 0, 0, 8]).GathersFrom #[9, 9, 9] images {}
      (.error (.shortAnswer .readBurstEnd 1 0)) [7, 7]
      ((expecting [117, 0, 0, 8]).readBurst 8 #[9, 9, 9] 2)) ∧
    ∃ images, (expecting [113, 0, 1, 5, 3]).GathersFrom #[9, 9, 9] images {} (.ok ()) [7, 7, 3]
      ((expecting [113, 0, 1, 5, 3]).readBurst 8 #[9, 9, 9] 2) := by
  have positive : 0 < 2 := by decide
  have none : ∀ {stream : Scripted}, ∀ earlier < 0,
      Poll.Idle (headerPoll.answerAt stream earlier) :=
    fun earlier before => absurd before earlier.not_lt_zero
  constructor
  · have shape : Answer.Image ⟨.readBurstEnd, 8, []⟩ [117, 0, 0, 8] [] :=
      ⟨by decide, rfl, [], rfl, rfl⟩
    have supplies : Supplies ⟨.readBurstEnd, 8, []⟩
        ({ reads := [.chunk [117, 0, 0, 8]] } : Scripted) ([117, 0, 0, 8] ++ []) {} :=
      .intro (by decide) none shape (by decide) rfl (.nothing rfl)
    obtain ⟨chunks, planned, -, ends⟩ :=
      readBurst_gathers (expecting [117, 0, 0, 8]) 8 #[9, 9, 9] positive (by decide) (by decide)
    cases planned
    have long : LongEnough [(⟨.first, 0, 2⟩, ⟨.readRegister, 2, List.replicate 60 7⟩)] := by
      simp [LongEnough]
    exact ⟨_, (ends [_] _ _ [] _ _ rfl (serves_padded supplies) long (by decide)).1⟩
  · have shape : Answer.Image ⟨.trigger, 5, [3]⟩ [113, 0, 1, 5] [3] :=
      ⟨by decide, rfl, [], rfl, rfl⟩
    have supplies : Supplies ⟨.trigger, 5, [3]⟩
        ({ reads := [.chunk [113, 0, 1, 5, 3]] } : Scripted) ([113, 0, 1, 5] ++ [3]) {} :=
      .intro (by decide) none shape (by decide) rfl (.whole (by decide) (.of_answer rfl))
    obtain ⟨chunks, planned, succeeds, -⟩ :=
      readBurst_gathers (expecting [113, 0, 1, 5, 3]) 8 #[9, 9, 9] positive (by decide)
        (by decide)
    cases planned
    have long : LongEnough [(⟨.first, 0, 2⟩, ⟨.readRegister, 2, List.replicate 60 7⟩),
        (⟨.final, 2, 1⟩, ⟨.trigger, 5, [3]⟩)] := by
      simp [LongEnough]
    exact ⟨_, (succeeds _ _ _ rfl (serves_padded supplies) long).1⟩

end LinkState

end RegisterBridge
