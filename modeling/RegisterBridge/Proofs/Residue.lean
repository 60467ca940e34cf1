import RegisterBridge.Proofs.Dialogue.Operation

/-!
# Nothing is left over

A link keeps its buffers from one operation to the next, loses them with a
caller that dies, and goes on.  The main statement is that none of this can be
seen: an operation behaves as it would over other buffers, and as it would on a
new link over the same stream.  Only the poisoned lock is reported.
-/

namespace RegisterBridge

namespace Conduct

variable {σ α : Type}

/-- The same conduct with some events before its own. -/
def warned (conduct : Conduct σ α) (warnings : List Event) : Conduct σ α :=
  { conduct with events := warnings ++ conduct.events }

end Conduct

section Runs

variable {σ α : Type} [ByteStream σ]

/-- Runs over wires with the same stream have the same conduct. -/
theorem Dialogue.conduct_run_eq (dialogue : Dialogue α) {first second : Wire σ}
    (same : first.stream = second.stream) :
    first.conduct (dialogue.run first) = second.conduct (dialogue.run second) := by
  have fresh_eq : first.fresh = second.fresh := by rw [Wire.fresh, Wire.fresh, same]
  rw [dialogue.conduct_run first, dialogue.conduct_run second, fresh_eq]

/-- An event that is reported first of all is the first event of the conduct. -/
theorem Dialogue.conduct_run_report (dialogue : Dialogue α) (wire : Wire σ) (event : Event) :
    wire.conduct (dialogue.run (wire.report event)) =
      (wire.conduct (dialogue.run wire)).warned [event] := by
  have reported : wire.report event =
      wire.fresh.after ((wire.fresh.report event).after wire) :=
    rfl
  rw [reported, dialogue.run_after, dialogue.run_eq_fresh_after wire]
  simp [Wire.conduct, Conduct.warned, Wire.report, Wire.fresh, Wire.journal, Wire.transcript,
    Wire.after]

end Runs

namespace LinkState

variable {σ α : Type}

/-- The same state over another stream. -/
def withStream (state : LinkState σ) (stream : σ) : LinkState σ :=
  { state with wire := { state.wire with stream } }

/-- The conduct of an operation on a state. -/
def conduct (state : LinkState σ) (ended : α × LinkState σ) : Conduct σ α :=
  state.wire.conduct (ended.map id wire)

/-- Every operation has the same conduct on two states, and a read burst leaves
the same in its destination. -/
structure Alike [ByteStream σ] (first second : LinkState σ) : Prop where
  execute : ∀ command,
    first.conduct (first.execute command) = second.conduct (second.execute command)
  checkVersion : ∀ expected,
    first.conduct (first.checkVersion expected) = second.conduct (second.checkVersion expected)
  writeBurst : ∀ address data threshold,
    first.conduct (first.writeBurst address data threshold) =
      second.conduct (second.writeBurst address data threshold)
  readBurst : ∀ address destination threshold,
    first.wire.conduct (first.readBurst address destination threshold).view =
      second.wire.conduct (second.readBurst address destination threshold).view

/-- States over the same stream are alike, whatever their buffers hold. -/
theorem alike_of_stream_eq [ByteStream σ] {first second : LinkState σ}
    (same : first.wire.stream = second.wire.stream) : first.Alike second where
  execute command := by
    simp only [conduct, execute_eq_run]
    exact Dialogue.conduct_run_eq _ same
  checkVersion expected := by
    simp only [conduct, checkVersion_eq_run]
    exact Dialogue.conduct_run_eq _ same
  writeBurst address data threshold := by
    simp only [conduct, writeBurst_eq_run]
    exact Dialogue.conduct_run_eq _ same
  readBurst address destination threshold := by
    simp only [readBurst_eq_run]
    exact Dialogue.conduct_run_eq _ same

end LinkState

namespace Link

variable {σ α : Type}

/-- The conduct of an operation on a link. -/
def conduct (link : Link σ) (ended : α × Link σ) : Conduct σ α :=
  link.wire.conduct (ended.map id wire)

/-- A new link with the same settings over the stream as it was left. -/
def renewed (link : Link σ) : Link σ :=
  ⟨link.config, link.valid, { wire := link.wire.fresh }, false⟩

theorem ofWire_renewed (link : Link σ) :
    ofWire { stream := link.wire.stream } link.config = .ok link.renewed :=
  ofWire_of_valid link.valid _

/-- What a link warns of whenever its lock is taken. -/
def warnings (link : Link σ) : List Event :=
  if link.poisoned then [.poisonedLock] else []

variable [ByteStream σ]

/-- The conduct of what a dialogue makes of a link. -/
theorem Ran.conduct_eq {link : Link σ} {entry : Wire σ}
    {dialogue : Dialogue (Outcome LinkError α)} {ended : Outcome LinkError α × Link σ}
    (ran : link.Ran entry dialogue ended) :
    link.conduct ended = link.wire.conduct (dialogue.run entry) :=
  congrArg link.wire.conduct (Prod.ext ran.outcome ran.wire)

/-- An operation on a link is the operation on the renewed link, but for the
warning where it takes the lock. -/
theorem conduct_perform (link : Link σ) (operation : LinkOperation) :
    link.conduct (link.perform operation) =
      (link.renewed.conduct (link.renewed.perform operation)).warned
        (if operation.locks then link.warnings else []) := by
  have renewed_run : link.renewed.conduct (link.renewed.perform operation) =
      link.wire.conduct ((Dialogue.ofOperation link.config operation).run link.wire) := by
    rw [(link.renewed.ran_perform operation).conduct_eq, wire_lock]
    simp only [renewed, Bool.false_eq_true, if_false, ite_self]
    exact Dialogue.conduct_run_eq _ rfl
  rw [(link.ran_perform operation).conduct_eq, renewed_run, wire_lock, warnings]
  cases operation.locks <;> cases link.poisoned
  · rfl
  · rfl
  · rfl
  · exact Dialogue.conduct_run_report ..

/-- A run leaves the settings of a link alone. -/
theorem config_performAll (link : Link σ) (operations : List LinkOperation) :
    (link.performAll operations).2.config = link.config := by
  induction operations generalizing link with
  | nil => rfl
  | cons operation rest ih =>
      rw [performAll_cons]
      exact (ih _).trans (link.ran_perform operation).config

/-- The lock is poisoned once a caller has died. -/
theorem poisoned_performAll (link : Link σ) (operations : List LinkOperation) :
    (link.performAll operations).2.poisoned =
      (link.poisoned || (link.performAll operations).1.any Outcome.isDied) := by
  induction operations generalizing link with
  | nil => simp [performAll]
  | cons operation rest ih =>
      rw [performAll_cons, ih, (link.ran_perform operation).poisoned, List.any_cons,
        Bool.or_assoc]

omit [ByteStream σ] in
/-- Whatever is asked of the stream is asked for under the lock. -/
theorem conduct_inspect (link : Link σ) (question : σ → α) :
    link.conduct (link.inspect question) =
      (link.renewed.conduct (link.renewed.inspect question)).warned link.warnings := by
  rcases link with ⟨config, valid, ⟨⟨stream, calls, events⟩, encodeBuffer, decodeBuffer⟩, _ | _⟩
  · simp [conduct, Wire.conduct, inspect, lock, renewed, warnings, wire, Wire.fresh,
      Wire.transcript, Wire.journal, Conduct.warned]
  · simp [conduct, Wire.conduct, inspect, lock, renewed, warnings, wire, Wire.fresh,
      Wire.transcript, Wire.journal, Conduct.warned, report, Wire.report]

omit [ByteStream σ] in
/-- Closing does not take the lock. -/
theorem conduct_close [Transport σ] (link : Link σ) :
    link.wire.conduct link.close = link.renewed.wire.conduct link.renewed.close := by
  rcases link with ⟨config, valid, ⟨⟨stream, calls, events⟩, encodeBuffer, decodeBuffer⟩, poisoned⟩
  simp only [close, renewed, wire, Wire.fresh]
  rcases Release.release stream with ⟨error | _, left⟩ <;>
    simp [Wire.conduct, Wire.transcript, Wire.journal]

/-- A link behaves as another one in everything that can be asked of it, but for
a warning wherever it takes the lock. -/
structure BehavesAs (link other : Link σ) (warning : List Event) : Prop where
  perform : ∀ operation,
    link.conduct (link.perform operation) =
      (other.conduct (other.perform operation)).warned
        (if operation.locks then warning else [])
  /-- Whatever is asked of the stream, such as `transportName` and `portPath`. -/
  inspect : ∀ {β : Type} (question : σ → β),
    link.conduct (link.inspect question) =
      (other.conduct (other.inspect question)).warned warning
  close : ∀ [Transport σ], link.wire.conduct link.close = other.wire.conduct other.close
  config : link.config = other.config
  describe : link.describe = other.describe

/-- Every link behaves as the renewed link with its own warnings. -/
theorem behavesAs_renewed (link : Link σ) : link.BehavesAs link.renewed link.warnings where
  perform := link.conduct_perform
  inspect := link.conduct_inspect
  close := link.conduct_close
  config := rfl
  describe := rfl

/-- Nothing is left over from earlier operations.  Whatever the buffers of a
state hold, every operation has the same conduct; and after any run, in which
operations may fail and callers die, a link behaves as a new link over the
stream as it was left, except that it warns of its lock once for every operation
that takes it after a death. -/
theorem no_residue :
    (∀ (stream : σ) (first second : LinkState σ),
      (first.withStream stream).Alike (second.withStream stream)) ∧
    ∀ (link : Link σ) (earlier : List LinkOperation), ∃ renewed,
      ofWire { stream := (link.performAll earlier).2.wire.stream } link.config = .ok renewed ∧
        (link.performAll earlier).2.BehavesAs renewed
          (if link.poisoned || (link.performAll earlier).1.any Outcome.isDied then
            [.poisonedLock]
          else []) := by
  constructor
  · intro stream first second
    exact LinkState.alike_of_stream_eq rfl
  · intro link earlier
    refine ⟨(link.performAll earlier).2.renewed, ?_, ?_⟩
    · rw [← link.config_performAll earlier]
      exact ofWire_renewed _
    · rw [← link.poisoned_performAll earlier]
      exact behavesAs_renewed _

end Link

end RegisterBridge
