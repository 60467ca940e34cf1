import Mathlib.Logic.Function.Iterate
import RegisterBridge.Proofs.Interruption

/-!
# Repeated calls

The same call can be made on a stream again and again.  How it is answered each
time depends on the stream alone, so the answers to come are known before
anything is run, and one can speak of the first answer of some kind.

The main statements say what the loops do that repeat an interrupted call: they
make it up to the first answer that is not an interruption, and end with that
answer.
-/

namespace RegisterBridge

/-- A call that can be made on a stream any number of times. -/
structure RepeatedCall (σ α : Type) where
  /-- The answer of the stream and what it leaves of the stream. -/
  answer : σ → Outcome StreamError α × σ
  /-- The call as it is recorded with its answer. -/
  entry : Outcome StreamError α → Call

namespace RepeatedCall

variable {σ α : Type}

/-- A read of some size. -/
def read [ByteStream σ] (purpose : Purpose) (want : Nat) : RepeatedCall σ (List UInt8) where
  answer stream := ByteStream.read stream want
  entry := .read purpose want

/-- A write of some bytes. -/
def write [ByteStream σ] (bytes : List UInt8) : RepeatedCall σ Nat where
  answer stream := ByteStream.write stream bytes
  entry := .write bytes

section Rows

variable (call : RepeatedCall σ α) (stream : σ) (wire : Wire σ) (count : Nat)

/-- The stream after the first calls. -/
def streamAfter : σ :=
  (fun left => (call.answer left).2)^[count] stream

/-- The answer to the call that follows the first calls. -/
def answerAt : Outcome StreamError α :=
  (call.answer (call.streamAfter stream count)).1

/-- The record of the first calls. -/
def calls : List Call :=
  (List.range count).map fun earlier => call.entry (call.answerAt stream earlier)

/-- The wire after the first calls. -/
def wireAfter : Wire σ where
  stream := call.streamAfter wire.stream count
  calls := (call.calls wire.stream count).reverse ++ wire.calls
  events := wire.events

variable (first later : Nat)

theorem streamAfter_add :
    call.streamAfter stream (first + later) =
      call.streamAfter (call.streamAfter stream first) later := by
  rw [streamAfter, Nat.add_comm, Function.iterate_add_apply]
  rfl

theorem answerAt_add :
    call.answerAt stream (first + later) =
      call.answerAt (call.streamAfter stream first) later := by
  rw [answerAt, streamAfter_add]
  rfl

theorem calls_add :
    call.calls stream (first + later) =
      call.calls stream first ++ call.calls (call.streamAfter stream first) later := by
  rw [calls, List.range_add, List.map_append, List.map_map]
  simp only [Function.comp_def, answerAt_add]
  rfl

theorem calls_succ :
    call.calls stream (count + 1) =
      call.calls stream count ++ [call.entry (call.answerAt stream count)] := by
  rw [calls, List.range_succ, List.map_append]
  rfl

@[simp]
theorem wireAfter_zero : call.wireAfter wire 0 = wire :=
  rfl

/-- Rows of calls can be put together. -/
theorem wireAfter_add :
    call.wireAfter wire (first + later) = call.wireAfter (call.wireAfter wire first) later := by
  rw [wireAfter, streamAfter_add, calls_add, List.reverse_append, List.append_assoc]
  rfl

@[simp]
theorem transcript_wireAfter :
    (call.wireAfter wire count).transcript = wire.transcript ++ call.calls wire.stream count := by
  simp [wireAfter, Wire.transcript]

/-- The answer after the first calls is the first one that is not an interruption. -/
structure SettlesAt : Prop where
  interrupted : ∀ earlier < count, (call.answerAt stream earlier).isInterrupted = true
  settled : (call.answerAt stream count).isInterrupted = false

end Rows

variable {call : RepeatedCall σ α} {stream : σ} {count : Nat}

theorem settlesAt_zero (settled : (call.answerAt stream 0).isInterrupted = false) :
    call.SettlesAt stream 0 :=
  ⟨fun earlier before => absurd before earlier.not_lt_zero, settled⟩

/-- An interruption puts off the answer that settles the call. -/
theorem SettlesAt.succ (interrupted : (call.answerAt stream 0).isInterrupted = true)
    (later : call.SettlesAt (call.streamAfter stream 1) count) :
    call.SettlesAt stream (count + 1) where
  interrupted
    | 0, _ => interrupted
    | earlier + 1, before => later.interrupted earlier (Nat.lt_of_succ_lt_succ before)
  settled := later.settled

/-- There is only one first answer that is not an interruption. -/
theorem SettlesAt.unique {first second : Nat} (settles : call.SettlesAt stream first)
    (settles' : call.SettlesAt stream second) : first = second := by
  rcases Nat.lt_trichotomy first second with before | same | before
  · have interrupted := settles'.interrupted first before
    rw [settles.settled] at interrupted
    contradiction
  · exact same
  · have interrupted := settles.interrupted second before
    rw [settles'.settled] at interrupted
    contradiction

/-- A view of the calls that passes over interrupted ones sees the answer that settles
the call, and nothing else. -/
theorem SettlesAt.flatMap_calls (settles : call.SettlesAt stream count) {β : Type}
    {view : Call → List β}
    (passes : ∀ answer, answer.isInterrupted = true → view (call.entry answer) = []) :
    (call.calls stream (count + 1)).flatMap view =
      view (call.entry (call.answerAt stream count)) := by
  have unseen : (call.calls stream count).flatMap view = [] := by
    rw [List.flatMap_eq_nil_iff]
    intro entry member
    obtain ⟨earlier, before, rfl⟩ := List.mem_map.mp member
    exact passes _ (settles.interrupted earlier (List.mem_range.mp before))
  rw [calls_succ, List.flatMap_append, unseen, List.nil_append, List.flatMap_singleton]

end RepeatedCall

/-! ## Loops -/

namespace Wire

variable {σ : Type} [ByteStream σ]

/-- A fetch makes its read up to the first answer that is not an interruption, and
ends with that answer. -/
theorem exists_settlesAt_fetch (wire : Wire σ) (purpose : Purpose) (want : Nat) :
    ∃ count, (RepeatedCall.read purpose want).SettlesAt wire.stream count ∧
      wire.fetch purpose want =
        ((RepeatedCall.read purpose want).answerAt wire.stream count,
          (RepeatedCall.read purpose want).wireAfter wire (count + 1)) := by
  fun_induction fetch wire purpose want with
  | case1 wire got next step interrupted ih =>
      cases step
      obtain ⟨count, later, fetch_eq⟩ := ih
      refine ⟨count + 1, later.succ interrupted, ?_⟩
      rw [Nat.add_comm (count + 1) 1, RepeatedCall.wireAfter_add]
      exact fetch_eq
  | case2 wire got next step settled =>
      cases step
      exact ⟨0, RepeatedCall.settlesAt_zero (eq_false_of_ne_true settled), rfl⟩

/-- An offer makes its write up to the first answer that is not an interruption, and
ends with that answer. -/
theorem exists_settlesAt_offer (wire : Wire σ) (bytes : List UInt8) :
    ∃ count, (RepeatedCall.write bytes).SettlesAt wire.stream count ∧
      wire.offer bytes =
        ((RepeatedCall.write bytes).answerAt wire.stream count,
          (RepeatedCall.write bytes).wireAfter wire (count + 1)) := by
  fun_induction offer wire bytes with
  | case1 wire taken next step interrupted ih =>
      cases step
      obtain ⟨count, later, offer_eq⟩ := ih
      refine ⟨count + 1, later.succ interrupted, ?_⟩
      rw [Nat.add_comm (count + 1) 1, RepeatedCall.wireAfter_add]
      exact offer_eq
  | case2 wire taken next step settled =>
      cases step
      exact ⟨0, RepeatedCall.settlesAt_zero (eq_false_of_ne_true settled), rfl⟩

end Wire

/-! ## Bytes that go over the stream -/

/-- The bytes that a read gives. -/
def Outcome.bytes : Outcome StreamError (List UInt8) → List UInt8
  | .ok data => data
  | _ => []

namespace Call

/-- The bytes that calls took off the stream, in order. -/
def bytesReceived (calls : List Call) : List UInt8 :=
  calls.flatMap fun call => call.received?.getD []

/-- The bytes that calls made the stream take, in order. -/
def bytesAccepted (calls : List Call) : List UInt8 :=
  calls.flatMap fun call => call.accepted?.getD []

@[simp]
theorem bytesReceived_append (first second : List Call) :
    bytesReceived (first ++ second) = bytesReceived first ++ bytesReceived second :=
  List.flatMap_append

@[simp]
theorem bytesAccepted_append (first second : List Call) :
    bytesAccepted (first ++ second) = bytesAccepted first ++ bytesAccepted second :=
  List.flatMap_append

@[simp]
theorem bytesReceived_read (purpose : Purpose) (want : Nat)
    (got : Outcome StreamError (List UInt8)) (later : List Call) :
    bytesReceived (read purpose want got :: later) = got.bytes ++ bytesReceived later := by
  cases got <;> rfl

end Call

namespace RepeatedCall

variable {σ : Type} [ByteStream σ]

/-- Reads in a row take what they give off the stream, and nothing else. -/
theorem bytesReceived_calls_read (purpose : Purpose) (want : Nat) (stream : σ) (count : Nat) :
    Call.bytesReceived ((read purpose want).calls stream count) =
      (List.range count).flatMap fun earlier =>
        ((read purpose want).answerAt stream earlier).bytes := by
  rw [calls, Call.bytesReceived, List.flatMap_map]
  congr 1
  funext earlier
  rw [read]
  cases answerAt _ stream earlier <;> rfl

end RepeatedCall

end RegisterBridge
