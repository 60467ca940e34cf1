import RegisterBridge.Proofs.Handshake

/-!
# Interruptions are invisible

A stream may be interrupted in front of any of its answers.  `Interrupted` is a stream
with such interruptions put in, as many as one likes in front of each answer that is
still to come, and `weave` puts the interrupted calls into a record.  The main statement
is that a link says the same over the interrupted stream and ends the same way, with
exactly those calls repeated.

Polls for a header are counted and not repeated, so no interruption may be in front of
them; that is all that is asked of the interruptions.
-/

namespace RegisterBridge

/-! ## Interruptions -/

/-- The error of a call that is interrupted. -/
def StreamError.interruption (text : String) : StreamError :=
  ⟨.interrupted, text⟩

/-- The call polls for a header. -/
def Call.isPoll : Call → Bool
  | read .header _ _ => true
  | _ => false

/-- The same call, but interrupted. -/
def Call.interruptedWith (text : String) : Call → Call
  | read purpose want _ => read purpose want (.error (.interruption text))
  | write bytes _ => write bytes (.error (.interruption text))

/-- The interruptions in front of the answers that are still to come, for each read and
for each write in turn, by the text of their errors. -/
structure Interruptions where
  reads : List (List String) := []
  writes : List (List String) := []
deriving DecidableEq, Repr

namespace Interruptions

/-- The interruptions in front of the answer to a call. -/
def before (interruptions : Interruptions) : Call → List String
  | .read .. => interruptions.reads.headD []
  | .write .. => interruptions.writes.headD []

/-- The interruptions that are left behind the answer to a call. -/
def pass (interruptions : Interruptions) : Call → Interruptions
  | .read .. => { interruptions with reads := interruptions.reads.tail }
  | .write .. => { interruptions with writes := interruptions.writes.tail }

/-- The interruptions that are left behind the answers to some calls. -/
def after (interruptions : Interruptions) (calls : List Call) : Interruptions :=
  calls.foldl pass interruptions

/-- The calls with an interrupted one for every interruption in front of an answer. -/
def weave (interruptions : Interruptions) : List Call → List Call
  | [] => []
  | call :: calls =>
      (interruptions.before call).map call.interruptedWith ++
        call :: (interruptions.pass call).weave calls

/-- No call that polls for a header is interrupted. -/
def Harmless (interruptions : Interruptions) : List Call → Prop
  | [] => True
  | call :: calls =>
      (call.isPoll = true → interruptions.before call = []) ∧
        (interruptions.pass call).Harmless calls

instance decidableHarmless (interruptions : Interruptions) :
    (calls : List Call) → Decidable (interruptions.Harmless calls)
  | [] => inferInstanceAs (Decidable True)
  | call :: calls =>
      have := decidableHarmless (interruptions.pass call) calls
      inferInstanceAs (Decidable (_ ∧ _))

/-- The number of interruptions still to come. -/
def count (interruptions : Interruptions) : Nat :=
  interruptions.reads.flatten.length + interruptions.writes.flatten.length

variable (interruptions : Interruptions) (calls : List Call) (call : Call)

theorem after_concat :
    interruptions.after (calls ++ [call]) = (interruptions.after calls).pass call := by
  simp [after]

theorem weave_concat :
    interruptions.weave (calls ++ [call]) =
      interruptions.weave calls ++
        ((interruptions.after calls).before call).map call.interruptedWith ++ [call] := by
  induction calls generalizing interruptions with
  | nil => simp [weave, after]
  | cons first rest ih =>
      rw [List.cons_append, weave, ih, weave]
      simp [after]

variable {interruptions calls}

theorem Harmless.of_prefix {longer : List Call} (harmless : interruptions.Harmless longer)
    (front : calls <+: longer) : interruptions.Harmless calls := by
  induction calls generalizing interruptions longer with
  | nil => trivial
  | cons call calls ih =>
      obtain ⟨rest, rfl⟩ := front
      exact ⟨harmless.1, ih harmless.2 (List.prefix_append ..)⟩

/-- A poll behind some calls is not interrupted. -/
theorem Harmless.before_poll {poll : Call}
    (harmless : interruptions.Harmless (calls ++ [poll])) (polls : poll.isPoll = true) :
    (interruptions.after calls).before poll = [] := by
  induction calls generalizing interruptions with
  | nil => exact harmless.1 polls
  | cons call calls ih => exact ih harmless.2

/-- A view of the calls that passes over interrupted ones, but for polls, sees nothing
of the interruptions. -/
theorem Harmless.filterMap_weave {β : Type} {view : Call → Option β}
    (harmless : interruptions.Harmless calls)
    (blind : ∀ (call : Call) text, call.isPoll = false → view (call.interruptedWith text) = none) :
    (interruptions.weave calls).filterMap view = calls.filterMap view := by
  induction calls generalizing interruptions with
  | nil => rfl
  | cons call calls ih =>
      have unseen : ((interruptions.before call).map call.interruptedWith).filterMap view = [] := by
        cases polls : call.isPoll with
        | true => rw [harmless.1 polls, List.map_nil, List.filterMap_nil]
        | false =>
            rw [List.filterMap_map, List.filterMap_eq_nil_iff]
            exact fun text _ => blind call text polls
      rw [weave, List.filterMap_append, unseen, List.nil_append, List.filterMap_cons,
        List.filterMap_cons, ih harmless.2]

end Interruptions

/-! ## Interrupted streams -/

/-- A stream that is interrupted in front of some of its answers. -/
structure Interrupted (σ : Type) where
  stream : σ
  interruptions : Interruptions

namespace Interrupted

variable {σ : Type} [ByteStream σ]

/-- Answer a read, unless it is interrupted. -/
def read (want : Nat) : Interrupted σ → Outcome StreamError (List UInt8) × Interrupted σ
  | ⟨stream, ⟨(text :: texts) :: reads, writes⟩⟩ =>
      (.error (.interruption text), ⟨stream, ⟨texts :: reads, writes⟩⟩)
  | ⟨stream, ⟨reads, writes⟩⟩ =>
    match ByteStream.read stream want with
    | (got, stream) => (got, ⟨stream, ⟨reads.tail, writes⟩⟩)

/-- Answer a write, unless it is interrupted. -/
def write (bytes : List UInt8) : Interrupted σ → Outcome StreamError Nat × Interrupted σ
  | ⟨stream, ⟨reads, (text :: texts) :: writes⟩⟩ =>
      (.error (.interruption text), ⟨stream, ⟨reads, texts :: writes⟩⟩)
  | ⟨stream, ⟨reads, writes⟩⟩ =>
    match ByteStream.write stream bytes with
    | (taken, stream) => (taken, ⟨stream, ⟨reads, writes.tail⟩⟩)

/-- A read without an interruption in front of its answer is a read of the stream. -/
theorem read_of_before_eq_nil {stream : σ} {reads writes : List (List String)}
    (none : reads.headD [] = []) (want : Nat) :
    read want ⟨stream, ⟨reads, writes⟩⟩ =
      ((ByteStream.read stream want).1,
        ⟨(ByteStream.read stream want).2, ⟨reads.tail, writes⟩⟩) := by
  match reads, none with
  | [], _ => rfl
  | [] :: _, _ => rfl

/-- A write without an interruption in front of its answer is a write to the stream. -/
theorem write_of_before_eq_nil {stream : σ} {reads writes : List (List String)}
    (none : writes.headD [] = []) (bytes : List UInt8) :
    write bytes ⟨stream, ⟨reads, writes⟩⟩ =
      ((ByteStream.write stream bytes).1,
        ⟨(ByteStream.write stream bytes).2, ⟨reads, writes.tail⟩⟩) := by
  match writes, none with
  | [], _ => rfl
  | [] :: _, _ => rfl

end Interrupted

instance {σ : Type} [ByteStream σ] : ByteStream (Interrupted σ) where
  read stream want := stream.read want
  write stream bytes := stream.write bytes
  interruptionsLeft stream :=
    ByteStream.interruptionsLeft stream.stream + stream.interruptions.count
  length_read := by
    rintro ⟨stream, _ | ⟨_ | ⟨text, texts⟩, reads⟩, writes⟩ want data got
    · exact ByteStream.length_read got
    · exact ByteStream.length_read got
    · contradiction
  count_write := by
    rintro ⟨stream, reads, _ | ⟨_ | ⟨text, texts⟩, writes⟩⟩ bytes count taken
    · exact ByteStream.count_write taken
    · exact ByteStream.count_write taken
    · contradiction
  interrupted_read := by
    rintro ⟨stream, _ | ⟨_ | ⟨text, texts⟩, reads⟩, writes⟩ want interrupted
    · exact Nat.add_lt_add_right (ByteStream.interrupted_read interrupted) _
    · have lower := ByteStream.interrupted_read interrupted
      rw [Interrupted.read_of_before_eq_nil rfl]
      simpa [Interruptions.count] using lower
    · simp [Interrupted.read, Interruptions.count]
  interrupted_write := by
    rintro ⟨stream, reads, _ | ⟨_ | ⟨text, texts⟩, writes⟩⟩ bytes interrupted
    · exact Nat.add_lt_add_right (ByteStream.interrupted_write interrupted) _
    · have lower := ByteStream.interrupted_write interrupted
      rw [Interrupted.write_of_before_eq_nil rfl]
      simpa [Interruptions.count] using lower
    · simp [Interrupted.write, Interruptions.count]

/-! ## Runs over interrupted streams -/

namespace Wire

variable {σ : Type}

/-- A wire to the interrupted stream, with the interrupted calls on record. -/
def woven (wire : Wire σ) (interruptions : Interruptions) : Wire (Interrupted σ) where
  stream := ⟨wire.stream, interruptions.after wire.transcript⟩
  calls := (interruptions.weave wire.transcript).reverse
  events := wire.events

theorem transcript_woven (wire : Wire σ) (interruptions : Interruptions) :
    (wire.woven interruptions).transcript = interruptions.weave wire.transcript :=
  List.reverse_reverse _

theorem woven_report (wire : Wire σ) (interruptions : Interruptions) (event : Event) :
    (wire.woven interruptions).report event = (wire.report event).woven interruptions :=
  rfl

variable [ByteStream σ]

theorem transcript_read (wire : Wire σ) (purpose : Purpose) (want : Nat) :
    (wire.read purpose want).2.transcript =
      wire.transcript ++ [.read purpose want (wire.read purpose want).1] := by
  simp [read, transcript]

theorem transcript_write (wire : Wire σ) (bytes : List UInt8) :
    (wire.write bytes).2.transcript = wire.transcript ++ [.write bytes (wire.write bytes).1] := by
  simp [write, transcript]

/-- The read of the interrupted stream behind which the stream has answered, with the
interrupted reads on record. -/
theorem woven_read (wire : Wire σ) (interruptions : Interruptions) (purpose : Purpose)
    (want : Nat) :
    (wire.read purpose want).2.woven interruptions =
      ⟨⟨(ByteStream.read wire.stream want).2,
          ⟨(interruptions.after wire.transcript).reads.tail,
            (interruptions.after wire.transcript).writes⟩⟩,
        .read purpose want (wire.read purpose want).1 ::
          (((interruptions.after wire.transcript).reads.headD []).map fun text =>
            .read purpose want (.error (.interruption text))).reverse ++
            (wire.woven interruptions).calls,
        wire.events⟩ := by
  rw [woven, transcript_read, Interruptions.after_concat, Interruptions.weave_concat]
  simp only [List.reverse_append, List.reverse_cons, List.reverse_nil, List.nil_append,
    List.cons_append, woven]
  rfl

theorem woven_write (wire : Wire σ) (interruptions : Interruptions) (bytes : List UInt8) :
    (wire.write bytes).2.woven interruptions =
      ⟨⟨(ByteStream.write wire.stream bytes).2,
          ⟨(interruptions.after wire.transcript).reads,
            (interruptions.after wire.transcript).writes.tail⟩⟩,
        .write bytes (wire.write bytes).1 ::
          (((interruptions.after wire.transcript).writes.headD []).map fun text =>
            .write bytes (.error (.interruption text))).reverse ++
            (wire.woven interruptions).calls,
        wire.events⟩ := by
  rw [woven, transcript_write, Interruptions.after_concat, Interruptions.weave_concat]
  simp only [List.reverse_append, List.reverse_cons, List.reverse_nil, List.nil_append,
    List.cons_append, woven]
  rfl

/-- A read without an interruption in front of its answer is the read of the stream. -/
theorem read_woven {wire : Wire σ} {interruptions : Interruptions} (purpose : Purpose) (want : Nat)
    (none : (interruptions.after wire.transcript).reads.headD [] = []) :
    (wire.woven interruptions).read purpose want =
      ((wire.read purpose want).1, (wire.read purpose want).2.woven interruptions) := by
  have answered : ByteStream.read (wire.woven interruptions).stream want = _ :=
    Interrupted.read_of_before_eq_nil none want
  rw [woven_read, none, read, answered]
  rfl

theorem write_woven {wire : Wire σ} {interruptions : Interruptions} (bytes : List UInt8)
    (none : (interruptions.after wire.transcript).writes.headD [] = []) :
    (wire.woven interruptions).write bytes =
      ((wire.write bytes).1, (wire.write bytes).2.woven interruptions) := by
  have answered : ByteStream.write (wire.woven interruptions).stream bytes = _ :=
    Interrupted.write_of_before_eq_nil none bytes
  rw [woven_write, none, write, answered]
  rfl

/-- A fetch reads on behind the interruptions in front of the answer. -/
theorem fetch_interrupted (stream : σ) (texts : List String) (reads writes : List (List String))
    (calls : List Call) (events : List Event) (purpose : Purpose) (want : Nat) :
    fetch ⟨(⟨stream, ⟨texts :: reads, writes⟩⟩ : Interrupted σ), calls, events⟩ purpose want =
      fetch ⟨⟨stream, ⟨[] :: reads, writes⟩⟩,
        (texts.map fun text => .read purpose want (.error (.interruption text))).reverse ++ calls,
        events⟩ purpose want := by
  induction texts generalizing calls with
  | nil => rfl
  | cons text texts ih =>
      rw [fetch_eq, List.map_cons, List.reverse_cons, List.append_assoc]
      exact ih _

theorem offer_interrupted (stream : σ) (texts : List String) (reads writes : List (List String))
    (calls : List Call) (events : List Event) (bytes : List UInt8) :
    offer ⟨(⟨stream, ⟨reads, texts :: writes⟩⟩ : Interrupted σ), calls, events⟩ bytes =
      offer ⟨⟨stream, ⟨reads, [] :: writes⟩⟩,
        (texts.map fun text => .write bytes (.error (.interruption text))).reverse ++ calls,
        events⟩ bytes := by
  induction texts generalizing calls with
  | nil => rfl
  | cons text texts ih =>
      rw [offer_eq, List.map_cons, List.reverse_cons, List.append_assoc]
      exact ih _

/-- A fetch over the interrupted stream comes to the first answer of the stream. -/
theorem fetch_woven_eq (wire : Wire σ) (interruptions : Interruptions) (purpose : Purpose)
    (want : Nat) :
    (wire.woven interruptions).fetch purpose want =
      if (wire.read purpose want).1.isInterrupted then
        ((wire.read purpose want).2.woven interruptions).fetch purpose want
      else ((wire.read purpose want).1, (wire.read purpose want).2.woven interruptions) := by
  rcases due : interruptions.after wire.transcript with ⟨_ | ⟨texts, reads⟩, writes⟩
  · rw [fetch_eq, read_woven purpose want (by rw [due]; rfl)]
  · have entry : wire.woven interruptions =
        ⟨⟨wire.stream, ⟨texts :: reads, writes⟩⟩, (wire.woven interruptions).calls,
          wire.events⟩ := by
      rw [← due]
      rfl
    have next := woven_read wire interruptions purpose want
    rw [due] at next
    rw [entry, fetch_interrupted, fetch_eq, next]
    rfl

theorem offer_woven_eq (wire : Wire σ) (interruptions : Interruptions) (bytes : List UInt8) :
    (wire.woven interruptions).offer bytes =
      if (wire.write bytes).1.isInterrupted then
        ((wire.write bytes).2.woven interruptions).offer bytes
      else ((wire.write bytes).1, (wire.write bytes).2.woven interruptions) := by
  rcases due : interruptions.after wire.transcript with ⟨reads, _ | ⟨texts, writes⟩⟩
  · rw [offer_eq, write_woven bytes (by rw [due]; rfl)]
  · have entry : wire.woven interruptions =
        ⟨⟨wire.stream, ⟨reads, texts :: writes⟩⟩, (wire.woven interruptions).calls,
          wire.events⟩ := by
      rw [← due]
      rfl
    have next := woven_write wire interruptions bytes
    rw [due] at next
    rw [entry, offer_interrupted, offer_eq, next]
    rfl

/-- A fetch is not disturbed by interruptions. -/
theorem fetch_woven (wire : Wire σ) (interruptions : Interruptions) (purpose : Purpose)
    (want : Nat) :
    (wire.woven interruptions).fetch purpose want =
      ((wire.fetch purpose want).1, (wire.fetch purpose want).2.woven interruptions) := by
  fun_induction fetch wire purpose want with
  | case1 wire got next step interrupted ih =>
      rw [fetch_woven_eq, step]
      exact (if_pos interrupted).trans ih
  | case2 wire got next step settled =>
      rw [fetch_woven_eq, step]
      exact if_neg settled

/-- Nor is an offer. -/
theorem offer_woven (wire : Wire σ) (interruptions : Interruptions) (bytes : List UInt8) :
    (wire.woven interruptions).offer bytes =
      ((wire.offer bytes).1, (wire.offer bytes).2.woven interruptions) := by
  fun_induction offer wire bytes with
  | case1 wire taken next step interrupted ih =>
      rw [offer_woven_eq, step]
      exact (if_pos interrupted).trans ih
  | case2 wire taken next step settled =>
      rw [offer_woven_eq, step]
      exact if_neg settled

end Wire

namespace Dialogue

variable {α σ : Type} [ByteStream σ]

/-- A run adds to the record. -/
theorem transcript_prefix_run (dialogue : Dialogue α) (wire : Wire σ) :
    wire.transcript <+: (dialogue.run wire).2.transcript := by
  rw [dialogue.run_eq_fresh_after wire, Wire.transcript_after]
  exact List.prefix_append ..

/-- A dialogue says the same over an interrupted stream, as long as no poll is
interrupted. -/
theorem run_woven (dialogue : Dialogue α) {wire : Wire σ} {interruptions : Interruptions}
    (harmless : interruptions.Harmless (dialogue.run wire).2.transcript) :
    dialogue.run (wire.woven interruptions) =
      ((dialogue.run wire).1, (dialogue.run wire).2.woven interruptions) := by
  induction dialogue generalizing wire with
  | done value => rfl
  | report event rest ih =>
      rw [run_report, Wire.woven_report, ih harmless, run_report]
  | poll rest ih =>
      rw [run_poll] at harmless
      -- The poll is in the record of the whole run, so it is not interrupted.
      have polled := harmless.of_prefix (transcript_prefix_run _ _)
      rw [Wire.transcript_read] at polled
      rw [run_poll, Wire.read_woven .header headerSize (polled.before_poll rfl), ih _ harmless,
        run_poll]
  | fetch purpose want rest ih =>
      rw [run_fetch] at harmless
      rw [run_fetch, Wire.fetch_woven, ih _ harmless, run_fetch]
  | offer bytes rest ih =>
      rw [run_offer] at harmless
      rw [run_offer, Wire.offer_woven, ih _ harmless, run_offer]

end Dialogue

/-! ## Links over interrupted streams -/

namespace Call

/-- The bytes that a write made the stream take. -/
def accepted? : Call → Option (List UInt8)
  | write bytes (.ok count) => some (bytes.take count)
  | _ => none

/-- The bytes that a read took off the stream. -/
def received? : Call → Option (List UInt8)
  | read _ _ (.ok data) => some data
  | _ => none

/-- The answer to a poll for a header. -/
def polled? : Call → Option (Outcome StreamError (List UInt8))
  | read .header _ got => some got
  | _ => none

end Call

namespace Link

variable {σ : Type}

/-- A link over the interrupted stream, with the interrupted calls on record. -/
structure Woven (link : Link σ) (interruptions : Interruptions) (woven : Link (Interrupted σ)) :
    Prop where
  wire : woven.wire = link.wire.woven interruptions
  config : woven.config = link.config
  poisoned : woven.poisoned = link.poisoned

variable [ByteStream σ]

theorem transcript_prefix_perform (link : Link σ) (operation : LinkOperation) :
    link.wire.transcript <+: (link.perform operation).2.wire.transcript := by
  have entry : (if operation.locks then link.lock.wire else link.wire).transcript =
      link.wire.transcript := by
    rw [wire_lock]
    cases operation.locks <;> cases link.poisoned <;> rfl
  rw [(link.ran_perform operation).wire, ← entry]
  exact Dialogue.transcript_prefix_run _ _

theorem transcript_prefix_performAll (link : Link σ) (operations : List LinkOperation) :
    link.wire.transcript <+: (link.performAll operations).2.wire.transcript := by
  induction operations generalizing link with
  | nil => exact List.prefix_rfl
  | cons operation rest ih =>
      rw [performAll_cons]
      exact (link.transcript_prefix_perform operation).trans (ih _)

variable {link : Link σ} {interruptions : Interruptions} {woven : Link (Interrupted σ)}

/-- One operation. -/
theorem Woven.perform (related : link.Woven interruptions woven) {operation : LinkOperation}
    (harmless : interruptions.Harmless (link.perform operation).2.wire.transcript) :
    (woven.perform operation).1 = (link.perform operation).1 ∧
      (link.perform operation).2.Woven interruptions (woven.perform operation).2 := by
  have ran := link.ran_perform operation
  have ran_woven := woven.ran_perform operation
  have entry_eq : (if operation.locks then woven.lock.wire else woven.wire) =
      (if operation.locks then link.lock.wire else link.wire).woven interruptions := by
    rw [wire_lock, wire_lock, related.poisoned, related.wire]
    cases operation.locks <;> cases link.poisoned <;> rfl
  rw [ran.wire] at harmless
  have run_eq := Dialogue.run_woven _ harmless
  rw [related.config, entry_eq] at ran_woven
  have outcome_eq : (woven.perform operation).1 = (link.perform operation).1 := by
    rw [ran_woven.outcome, ran.outcome, run_eq]
  refine ⟨outcome_eq, ?_, ?_, ?_⟩
  · rw [ran_woven.wire, ran.wire, run_eq]
  · rw [ran_woven.config, ran.config, related.config]
  · rw [ran_woven.poisoned, ran.poisoned, related.poisoned, outcome_eq]

/-- And so a whole run. -/
theorem Woven.performAll (related : link.Woven interruptions woven)
    {operations : List LinkOperation}
    (harmless : interruptions.Harmless (link.performAll operations).2.wire.transcript) :
    (woven.performAll operations).1 = (link.performAll operations).1 ∧
      (link.performAll operations).2.Woven interruptions (woven.performAll operations).2 := by
  induction operations generalizing link woven with
  | nil => exact ⟨rfl, related⟩
  | cons operation rest ih =>
      rw [performAll_cons] at harmless
      obtain ⟨outcome_eq, next⟩ :=
        related.perform (harmless.of_prefix (transcript_prefix_performAll _ rest))
      obtain ⟨outcomes_eq, ending⟩ := ih next harmless
      rw [performAll_cons, performAll_cons, outcome_eq, outcomes_eq]
      exact ⟨rfl, ending⟩

/-- **Interruptions are invisible.**  Put any interruptions in front of the answers of a
stream, but none in front of a poll for a header that a run of a link makes.  Over the
interrupted stream the run ends the same way: each operation has the same outcome, the
calls are the same but for the interrupted ones, each of which is made again just as it
was, and the events, the lock and the stream that is left are the same.  So every command
is offered once, and the bytes accepted, the bytes received and the polls for a header
are those of the run without interruptions. -/
theorem interruptions_invisible {config : LinkConfig} (valid : config.Valid) (stream : σ)
    (interruptions : Interruptions) (operations : List LinkOperation)
    (harmless : interruptions.Harmless
      ((new valid { stream }).performAll operations).2.wire.transcript) :
    let plain := (new valid { stream }).performAll operations
    let interrupted := (new valid { stream := Interrupted.mk stream interruptions }).performAll
      operations
    interrupted.1 = plain.1 ∧
      interrupted.2.wire.transcript = interruptions.weave plain.2.wire.transcript ∧
      interrupted.2.wire.journal = plain.2.wire.journal ∧
      interrupted.2.wire.stream =
        ⟨plain.2.wire.stream, interruptions.after plain.2.wire.transcript⟩ ∧
      interrupted.2.poisoned = plain.2.poisoned ∧
      interrupted.2.wire.offers = plain.2.wire.offers ∧
      interrupted.2.wire.transcript.filterMap Call.accepted? =
        plain.2.wire.transcript.filterMap Call.accepted? ∧
      interrupted.2.wire.transcript.filterMap Call.received? =
        plain.2.wire.transcript.filterMap Call.received? ∧
      interrupted.2.wire.transcript.filterMap Call.polled? =
        plain.2.wire.transcript.filterMap Call.polled? := by
  intro plain interrupted
  have fresh : (new valid { stream }).Woven interruptions
      (new valid { stream := Interrupted.mk stream interruptions }) :=
    ⟨rfl, rfl, rfl⟩
  obtain ⟨outcomes_eq, ending⟩ := fresh.performAll harmless
  have transcript_eq : interrupted.2.wire.transcript =
      interruptions.weave plain.2.wire.transcript := by
    rw [ending.wire, Wire.transcript_woven]
  refine ⟨outcomes_eq, transcript_eq, ?_, ?_, ending.poisoned, ?_, ?_, ?_, ?_⟩
  · rw [Wire.journal, ending.wire]
    rfl
  · rw [ending.wire]
    rfl
  · rw [Wire.offers, transcript_eq]
    exact harmless.filterMap_weave fun call text _ => by cases call <;> rfl
  · rw [transcript_eq]
    exact harmless.filterMap_weave fun call text _ => by cases call <;> rfl
  · rw [transcript_eq]
    exact harmless.filterMap_weave fun call text _ => by cases call <;> rfl
  · rw [transcript_eq]
    apply harmless.filterMap_weave
    rintro (⟨_ | _ | _, want, got⟩ | ⟨bytes, taken⟩) text unpolled
    · contradiction
    all_goals rfl

/-- A stream that answers a write and a read, and then breaks off in an answer that is too
large. -/
def breakingOff : Scripted where
  reads := [.chunk [119, 0, 0, 8], .chunk [114, 0, 1, 8], .chunk [7],
    .chunk [114, 0x13, 0x88, 8], .chunk [1, 2, 3]]

/-- Interruptions in front of writes, of a body and of a drain. -/
def disturbances : Interruptions where
  reads := [[], [], ["a"], [], ["b"], ["c", "d"]]
  writes := [["e"], [], ["f", "g"]]

theorem interruptions_invisible_breakingOff :
    let operations : List LinkOperation := [.writeRegister 8 7, .readRegister 8, .readRegister 8]
    let interrupted :=
      (new LinkConfig.default_valid { stream := Interrupted.mk breakingOff disturbances }).performAll
        operations
    disturbances.Harmless
        ((new LinkConfig.default_valid { stream := breakingOff }).performAll
          operations).2.wire.transcript ∧
      interrupted.1 =
        [.ok .nothing, .ok (.register 7), .error (.frame (.answerTooLarge 5000 4096))] ∧
      interrupted.2.wire.offers =
        [[119, 0, 1, 8, 7], [114, 0, 1, 8, 0], [114, 0, 1, 8, 0]] := by
  intro operations interrupted
  have harmless : disturbances.Harmless
      ((new LinkConfig.default_valid { stream := breakingOff }).performAll
        operations).2.wire.transcript := by
    decide +kernel
  have outcomes_eq :
      ((new LinkConfig.default_valid { stream := breakingOff }).performAll operations).1 =
        [.ok .nothing, .ok (.register 7), .error (.frame (.answerTooLarge 5000 4096))] := by
    decide +kernel
  have offers_eq :
      ((new LinkConfig.default_valid { stream := breakingOff }).performAll
        operations).2.wire.offers =
        [[119, 0, 1, 8, 7], [114, 0, 1, 8, 0], [114, 0, 1, 8, 0]] := by
    decide +kernel
  obtain ⟨same, -, -, -, -, offered, -⟩ :=
    interruptions_invisible LinkConfig.default_valid breakingOff disturbances operations harmless
  exact ⟨harmless, same.trans outcomes_eq, offered.trans offers_eq⟩

end Link

end RegisterBridge
