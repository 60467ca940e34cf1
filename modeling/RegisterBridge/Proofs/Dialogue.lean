import RegisterBridge.Frame.Basic
import RegisterBridge.Stream.Wire

/-!
# Dialogues

A dialogue is what a client says to a stream, apart from any stream: the calls
it makes, each depending on the answers to those before, the events it reports
and the value it ends with.  A dialogue has no state of its own, so what its run
does follows from the answers alone.

The conduct of a run is all that can be seen of it from outside.  The main
statement is that it does not depend on what the wire has on record already.
-/

namespace RegisterBridge

/-- A client of a stream that ends with a value. -/
inductive Dialogue (α : Type) where
  | done (value : α)
  | report (event : Event) (rest : Dialogue α)
  /-- One read of a header. -/
  | poll (rest : Outcome StreamError (List UInt8) → Dialogue α)
  /-- A read that is repeated while it is interrupted. -/
  | fetch (purpose : Purpose) (want : Nat)
      (rest : Outcome StreamError (List UInt8) → Dialogue α)
  /-- A write that is repeated while it is interrupted. -/
  | offer (bytes : List UInt8) (rest : Outcome StreamError Nat → Dialogue α)

namespace Dialogue

variable {α β ε φ : Type}

/-- Go on with another dialogue, which depends on the value of the first. -/
def bind : Dialogue α → (α → Dialogue β) → Dialogue β
  | done value, next => next value
  | report event rest, next => report event (rest.bind next)
  | poll rest, next => poll fun got => (rest got).bind next
  | fetch purpose want rest, next => fetch purpose want fun got => (rest got).bind next
  | offer bytes rest, next => offer bytes fun taken => (rest taken).bind next

/-- Change the value. -/
def map (f : α → β) (dialogue : Dialogue α) : Dialogue β :=
  dialogue.bind fun value => done (f value)

/-- Go on unless the first dialogue fails or its caller dies. -/
def andThen (dialogue : Dialogue (Outcome ε α)) (next : α → Dialogue (Outcome ε β)) :
    Dialogue (Outcome ε β) :=
  dialogue.bind fun
    | .ok value => next value
    | .error cause => done (.error cause)
    | .died => done .died

/-- Run a dialogue over a wire. -/
def run {σ : Type} [ByteStream σ] : Dialogue α → Wire σ → α × Wire σ
  | done value, wire => (value, wire)
  | report event rest, wire => rest.run (wire.report event)
  | poll rest, wire =>
    match wire.read .header headerSize with
    | (got, wire) => (rest got).run wire
  | fetch purpose want rest, wire =>
    match wire.fetch purpose want with
    | (got, wire) => (rest got).run wire
  | offer bytes rest, wire =>
    match wire.offer bytes with
    | (taken, wire) => (rest taken).run wire

variable {σ : Type} [ByteStream σ]

@[simp]
theorem run_done (value : α) (wire : Wire σ) : (done value).run wire = (value, wire) :=
  rfl

@[simp]
theorem run_report (event : Event) (rest : Dialogue α) (wire : Wire σ) :
    (report event rest).run wire = rest.run (wire.report event) :=
  rfl

@[simp]
theorem run_poll (rest : Outcome StreamError (List UInt8) → Dialogue α) (wire : Wire σ) :
    (poll rest).run wire =
      (rest (wire.read .header headerSize).1).run (wire.read .header headerSize).2 :=
  rfl

@[simp]
theorem run_fetch (purpose : Purpose) (want : Nat)
    (rest : Outcome StreamError (List UInt8) → Dialogue α) (wire : Wire σ) :
    (fetch purpose want rest).run wire =
      (rest (wire.fetch purpose want).1).run (wire.fetch purpose want).2 :=
  rfl

@[simp]
theorem run_offer (bytes : List UInt8) (rest : Outcome StreamError Nat → Dialogue α)
    (wire : Wire σ) :
    (offer bytes rest).run wire = (rest (wire.offer bytes).1).run (wire.offer bytes).2 :=
  rfl

/-- The second of two dialogues runs over the wire that the first one leaves. -/
@[simp]
theorem run_bind (dialogue : Dialogue α) (next : α → Dialogue β) (wire : Wire σ) :
    (dialogue.bind next).run wire = (next (dialogue.run wire).1).run (dialogue.run wire).2 := by
  induction dialogue generalizing wire with
  | done value => rfl
  | report event rest ih => exact ih (wire.report event)
  | poll rest ih =>
      exact ih (wire.read .header headerSize).1 (wire.read .header headerSize).2
  | fetch purpose want rest ih =>
      exact ih (wire.fetch purpose want).1 (wire.fetch purpose want).2
  | offer bytes rest ih => exact ih (wire.offer bytes).1 (wire.offer bytes).2

@[simp]
theorem run_map (f : α → β) (dialogue : Dialogue α) (wire : Wire σ) :
    (dialogue.map f).run wire = (f (dialogue.run wire).1, (dialogue.run wire).2) := by
  simp [map]

/-- How a dialogue goes on after a first one. -/
theorem run_andThen (dialogue : Dialogue (Outcome ε α)) (next : α → Dialogue (Outcome ε β))
    (wire : Wire σ) :
    (dialogue.andThen next).run wire =
      match dialogue.run wire with
      | (.ok value, wire) => (next value).run wire
      | (.error cause, wire) => (.error cause, wire)
      | (.died, wire) => (.died, wire) := by
  rw [andThen, run_bind]
  rcases dialogue.run wire with ⟨value | cause | _, wire⟩ <;> rfl

end Dialogue

/-! ## Records -/

namespace Wire

variable {σ : Type}

/-- A wire whose record goes on from the record of an earlier wire. -/
def after (later earlier : Wire σ) : Wire σ :=
  ⟨later.stream, later.calls ++ earlier.calls, later.events ++ earlier.events⟩

@[simp]
theorem fresh_after (wire : Wire σ) : wire.fresh.after wire = wire :=
  rfl

@[simp]
theorem stream_after (later earlier : Wire σ) : (later.after earlier).stream = later.stream :=
  rfl

@[simp]
theorem transcript_after (later earlier : Wire σ) :
    (later.after earlier).transcript = earlier.transcript ++ later.transcript := by
  simp [after, transcript]

@[simp]
theorem journal_after (later earlier : Wire σ) :
    (later.after earlier).journal = earlier.journal ++ later.journal := by
  simp [after, journal]

theorem report_after (later earlier : Wire σ) (event : Event) :
    (later.after earlier).report event = (later.report event).after earlier :=
  rfl

variable [ByteStream σ]

theorem read_after (later earlier : Wire σ) (purpose : Purpose) (want : Nat) :
    (later.after earlier).read purpose want =
      ((later.read purpose want).1, (later.read purpose want).2.after earlier) :=
  rfl

theorem write_after (later earlier : Wire σ) (bytes : List UInt8) :
    (later.after earlier).write bytes =
      ((later.write bytes).1, (later.write bytes).2.after earlier) :=
  rfl

/-- What is fetched does not depend on the record. -/
theorem fetch_after (later earlier : Wire σ) (purpose : Purpose) (want : Nat) :
    (later.after earlier).fetch purpose want =
      ((later.fetch purpose want).1, (later.fetch purpose want).2.after earlier) := by
  fun_induction fetch later purpose want with
  | case1 later got next step interrupted ih =>
      rw [fetch_eq, read_after, step]
      exact (if_pos interrupted).trans ih
  | case2 later got next step settled =>
      rw [fetch_eq, read_after, step]
      exact if_neg settled

/-- What becomes of an offer does not depend on the record. -/
theorem offer_after (later earlier : Wire σ) (bytes : List UInt8) :
    (later.after earlier).offer bytes =
      ((later.offer bytes).1, (later.offer bytes).2.after earlier) := by
  fun_induction offer later bytes with
  | case1 later taken next step interrupted ih =>
      rw [offer_eq, write_after, step]
      exact (if_pos interrupted).trans ih
  | case2 later taken next step settled =>
      rw [offer_eq, write_after, step]
      exact if_neg settled

end Wire

/-- All that can be seen of a run from outside: its result, the calls it makes,
the events it reports and the stream it leaves. -/
structure Conduct (σ α : Type) where
  result : α
  calls : List Call
  events : List Event
  stream : σ

/-- The conduct of a run that starts over a wire and ends with a result and
another wire. -/
def Wire.conduct {σ α : Type} (wire : Wire σ) (ended : α × Wire σ) : Conduct σ α where
  result := ended.1
  calls := ended.2.transcript.drop wire.transcript.length
  events := ended.2.journal.drop wire.journal.length
  stream := ended.2.stream

namespace Dialogue

variable {α β ε σ : Type} [ByteStream σ]

/-- A run over a wire with a longer record does the same and records it behind. -/
theorem run_after (dialogue : Dialogue α) (later earlier : Wire σ) :
    dialogue.run (later.after earlier) =
      ((dialogue.run later).1, (dialogue.run later).2.after earlier) := by
  induction dialogue generalizing later with
  | done value => rfl
  | report event rest ih =>
      rw [run_report, Wire.report_after, ih, run_report]
  | poll rest ih =>
      rw [run_poll, Wire.read_after, ih, run_poll]
  | fetch purpose want rest ih =>
      rw [run_fetch, Wire.fetch_after, ih, run_fetch]
  | offer bytes rest ih =>
      rw [run_offer, Wire.offer_after, ih, run_offer]

/-- A run over a wire is the run over the same stream with nothing on record,
recorded behind what is there. -/
theorem run_eq_fresh_after (dialogue : Dialogue α) (wire : Wire σ) :
    dialogue.run wire =
      ((dialogue.run wire.fresh).1, (dialogue.run wire.fresh).2.after wire) := by
  calc
    dialogue.run wire = dialogue.run (wire.fresh.after wire) := by rw [Wire.fresh_after]
    _ = _ := dialogue.run_after wire.fresh wire

/-- A run adds to the events. -/
theorem events_run (dialogue : Dialogue α) (wire : Wire σ) :
    wire.events <:+ (dialogue.run wire).2.events := by
  rw [dialogue.run_eq_fresh_after wire]
  exact List.suffix_append ..

/-- The conduct of a run depends on the stream alone. -/
theorem conduct_run (dialogue : Dialogue α) (wire : Wire σ) :
    wire.conduct (dialogue.run wire) = wire.fresh.conduct (dialogue.run wire.fresh) := by
  rw [dialogue.run_eq_fresh_after wire]
  simp only [Wire.conduct, Wire.transcript_after, Wire.journal_after, Wire.stream_after,
    List.drop_left]
  rfl

/-! ## Streams without records -/

/-- The value of a run over a stream and the stream it leaves. -/
def runOn (dialogue : Dialogue α) (stream : σ) : α × σ :=
  (dialogue.run { stream }).map id Wire.stream

/-- What a run gives, but for the record, depends on the stream alone. -/
theorem run_stream (dialogue : Dialogue α) (wire : Wire σ) :
    (dialogue.run wire).map id Wire.stream = dialogue.runOn wire.stream := by
  rw [dialogue.run_eq_fresh_after wire]
  rfl

@[simp]
theorem runOn_done (value : α) (stream : σ) : (done value).runOn stream = (value, stream) :=
  rfl

@[simp]
theorem runOn_report (event : Event) (rest : Dialogue α) (stream : σ) :
    (report event rest).runOn stream = rest.runOn stream :=
  rest.run_stream (Wire.report { stream } event)

@[simp]
theorem runOn_poll (rest : Outcome StreamError (List UInt8) → Dialogue α) (stream : σ) :
    (poll rest).runOn stream =
      (rest (ByteStream.read stream headerSize).1).runOn (ByteStream.read stream headerSize).2 :=
  run_stream (rest (ByteStream.read stream headerSize).1)
    (Wire.read { stream } .header headerSize).2

@[simp]
theorem runOn_bind (dialogue : Dialogue α) (next : α → Dialogue β) (stream : σ) :
    (dialogue.bind next).runOn stream =
      (next (dialogue.runOn stream).1).runOn (dialogue.runOn stream).2 := by
  rw [runOn, run_bind]
  exact run_stream _ _

@[simp]
theorem runOn_map (f : α → β) (dialogue : Dialogue α) (stream : σ) :
    (dialogue.map f).runOn stream = (dialogue.runOn stream).map f id := by
  rw [map, runOn_bind]
  rfl

/-- How a dialogue goes on after a first one that succeeds. -/
theorem runOn_andThen {dialogue : Dialogue (Outcome ε α)} {stream next : σ} {value : α}
    (succeeds : dialogue.runOn stream = (.ok value, next))
    (following : α → Dialogue (Outcome ε β)) :
    (dialogue.andThen following).runOn stream = (following value).runOn next := by
  rw [andThen, runOn_bind, succeeds]

/-- A read that is not interrupted is made once. -/
theorem runOn_fetch {stream next : σ} {purpose : Purpose} {want : Nat}
    {got : Outcome StreamError (List UInt8)} (read : ByteStream.read stream want = (got, next))
    (settled : got.isInterrupted = false)
    (rest : Outcome StreamError (List UInt8) → Dialogue α) :
    (fetch purpose want rest).runOn stream = (rest got).runOn next := by
  have once : Wire.fetch { stream } purpose want = Wire.read { stream } purpose want := by
    rw [Wire.fetch_eq, Wire.read, read]
    simp [settled]
  rw [runOn, run_fetch, once, Wire.read, read]
  exact run_stream _ _

/-- A write that is not interrupted is made once. -/
theorem runOn_offer {stream next : σ} {bytes : List UInt8} {taken : Outcome StreamError Nat}
    (write : ByteStream.write stream bytes = (taken, next))
    (settled : taken.isInterrupted = false) (rest : Outcome StreamError Nat → Dialogue α) :
    (offer bytes rest).runOn stream = (rest taken).runOn next := by
  have once : Wire.offer { stream } bytes = Wire.write { stream } bytes := by
    rw [Wire.offer_eq, Wire.write, write]
    simp [settled]
  rw [runOn, run_offer, once, Wire.write, write]
  exact run_stream _ _

end Dialogue

end RegisterBridge
