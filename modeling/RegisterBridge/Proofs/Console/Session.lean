import RegisterBridge.Proofs.Console.Forms
import RegisterBridge.Proofs.Console.Opening

/-!
# Commands in three phases

A command on the bridge opens a link, runs the errands of its operation and releases the
device.  The relations here say by the devices alone when a command gets through all three
phases, and when and why a phase fails after those before it have gone well.  The main
statement is that a report tells exactly that: it shows the result of a command that got
through, and of any other command nothing but the failure of the first phase that failed.
-/

namespace RegisterBridge

open LinkState (exchangeOver)

namespace Console

variable {δ : Type} [ByteStream δ] [Release δ]

/-! ## Closing -/

/-- Releasing the device is all there is to the end of a command.  A device that is not
released is a failure to close. -/
theorem conclude_of_release {α : Type} {link : Link (SerialLine δ)}
    {released : Except StreamError Unit} {left : δ}
    (release : Release.release link.wire.stream.device = (released, left)) (ports : Ports δ)
    (path : String) (value : α) :
    ∃ events, conclude ports path value link =
      (((Outcome.ofExcept released).map fun () => value).mapError fun error =>
        .ofLinkError "close failed" (.transport (.close error)), ports.put path left, events) := by
  rw [conclude, Link.close]
  generalize link.wire = wire at release ⊢
  rcases wire with ⟨⟨line, device⟩, calls, events⟩
  have release_eq : Release.release (⟨line, device⟩ : SerialLine δ) = (released, ⟨line, left⟩) :=
    congrArg (SerialLine.around line) release
  dsimp only
  rw [release_eq]
  cases released <;> exact ⟨_, rfl⟩

/-- What follows the opening of a link. -/
theorem withLink_of_opened {α : Type} {connection : Connection} {ports : Ports δ}
    {link : Link (SerialLine δ)} (opened : (connection.openLink ports).outcome = .ok link)
    (context : String)
    (operation : Link (SerialLine δ) → Outcome LinkError α × Link (SerialLine δ)) :
    withLink connection ports context operation =
      match operation link with
      | (.ok value, next) =>
          conclude (connection.openLink ports).ports link.wire.stream.path value next
      | (.error error, next) =>
          (.error (Failure.ofLinkError context error),
            (connection.openLink ports).ports.put link.wire.stream.path next.wire.stream.device,
            next.wire.events)
      | (.died, next) =>
          (.died,
            (connection.openLink ports).ports.put link.wire.stream.path next.wire.stream.device,
            next.wire.events) := by
  rw [withLink]
  generalize connection.openLink ports = opening at opened ⊢
  rcases opening with ⟨outcome, left, events, visits⟩
  cases opened
  rfl

/-! ## Phases -/

/-- The phases of a command on the bridge. -/
inductive Phase where
  | opening
  | operating
  | closing
deriving DecidableEq, Repr

/-- What a failure in a phase of a command is introduced with. -/
def Phase.context (operation : Operation) : Phase → String
  | opening => "open failed"
  | operating => operation.context
  | closing => "close failed"

namespace Operation

/-- A command gets through: its connection is opened, the errands of its operation are all
done, and the device is released.  That gives a result and leaves the device at its path. -/
inductive Completes (operation : Operation) (connection : Connection) (ports : Ports δ) :
    Result → String → δ → Prop
  | intro {line last : SerialLine δ} {errands : List Errand} {data : List UInt8} {left : δ}
      (opens : connection.Opens ports line)
      (planned : operation.errands connection.settings.link = .ok errands)
      (done : Errand.Done line errands data last)
      (released : Release.release last.device = (.ok (), left)) :
      Completes operation connection ports
        (operation.result connection.baudRate connection.settings.link line.path data)
        line.path left

/-- A command fails in a phase, after the phases before it have gone well. -/
inductive FailsIn (operation : Operation) (connection : Connection) (ports : Ports δ) :
    Phase → LinkError → Prop
  | opening {error : LinkError} (fails : connection.OpenFails ports error) :
      FailsIn operation connection ports .opening error
  | operating {line : SerialLine δ} {error : LinkError} (opens : connection.Opens ports line)
      (fails : operation.Fails connection.settings.link line error) :
      FailsIn operation connection ports .operating error
  | closing {line last : SerialLine δ} {errands : List Errand} {data : List UInt8}
      {error : StreamError} {left : δ} (opens : connection.Opens ports line)
      (planned : operation.errands connection.settings.link = .ok errands)
      (done : Errand.Done line errands data last)
      (unreleased : Release.release last.device = (.error error, left)) :
      FailsIn operation connection ports .closing (.transport (.close error))

variable {operation : Operation} {connection : Connection} {ports : Ports δ}

/-- Once the errands of an operation are done, all that is left of its command is to release
the device. -/
theorem withLink_of_done {line last : SerialLine δ} {errands : List Errand} {data : List UInt8}
    {released : Except StreamError Unit} {left : δ} (opens : connection.Opens ports line)
    (planned : operation.errands connection.settings.link = .ok errands)
    (done : Errand.Done line errands data last)
    (release : Release.release last.device = (released, left)) :
    ∃ events, withLink connection ports operation.context
        (operation.perform connection.baudRate) =
      (((Outcome.ofExcept released).map fun () =>
          operation.result connection.baudRate connection.settings.link line.path data).mapError
            fun error => .ofLinkError "close failed" (.transport (.close error)),
        (connection.openLink ports).ports.put line.path left, events) := by
  obtain ⟨link, opened, config_eq, rfl⟩ := Connection.exists_link_of_opens opens
  rw [← config_eq] at planned ⊢
  obtain ⟨next, performed, rfl⟩ := (perform_eq_ok_iff connection.baudRate).mpr
    ⟨_, _, planned, done, rfl⟩
  rw [withLink_of_opened opened, performed]
  exact conclude_of_release release (connection.openLink ports).ports link.wire.stream.path _

/-- A command that gets through prints its result and leaves the device at its path. -/
theorem run_of_completes {result : Result} {path : String} {left : δ}
    (completes : operation.Completes connection ports result path left) (format : Format) :
    ∃ (others : Ports δ) (events : List Event), operation.run connection format ports =
      ⟨.ok (), result.shown format, others.put path left, events⟩ := by
  obtain ⟨opens, planned, done, released⟩ := completes
  obtain ⟨events, ended⟩ := withLink_of_done opens planned done released
  rw [run, ended, ← render_eq_shown]
  exact ⟨_, events, rfl⟩

/-- A command that fails in a phase tells of that phase. -/
theorem run_of_failsIn {phase : Phase} {error : LinkError}
    (fails : operation.FailsIn connection ports phase error) (format : Format) :
    (operation.run connection format ports).outcome =
      .error (.ofLinkError (phase.context operation) error) := by
  cases fails with
  | opening fails =>
      have failed := Connection.openLink_eq_error_iff.mpr fails
      rw [run, withLink]
      generalize connection.openLink ports = opening at failed ⊢
      rcases opening with ⟨outcome, left, events, visits⟩
      cases failed
      rfl
  | operating opens fails =>
      obtain ⟨link, opened, config_eq, rfl⟩ := Connection.exists_link_of_opens opens
      rw [← config_eq] at fails
      have performed := (perform_eq_error_iff connection.baudRate).mpr fails
      rw [run, withLink_of_opened opened]
      generalize operation.perform connection.baudRate link = ended at performed ⊢
      rcases ended with ⟨outcome, next⟩
      cases performed
      rfl
  | closing opens planned done unreleased =>
      obtain ⟨events, ended⟩ := withLink_of_done opens planned done unreleased
      rw [run, ended]
      rfl

/-- A command gets through, or it fails in a phase, or its caller dies. -/
theorem completes_or_fails (operation : Operation) (connection : Connection) (format : Format)
    (ports : Ports δ) :
    (∃ result path left, operation.Completes connection ports result path left) ∨
      (∃ phase error, operation.FailsIn connection ports phase error) ∨
      (operation.run connection format ports).outcome = .died := by
  rcases opened : (connection.openLink ports).outcome with link | error | _
  · have footing_eq := congrArg (Outcome.map Link.footing) opened
    obtain ⟨opens, config_eq⟩ := Connection.footing_openLink_eq_ok_iff.mp footing_eq
    rcases ended : operation.perform connection.baudRate link with ⟨result | error | _, next⟩
    · obtain ⟨errands, data, planned, done, rfl⟩ :=
        (perform_eq_ok_iff connection.baudRate).mp ⟨next, ended, rfl⟩
      rw [← config_eq] at planned
      rcases released : Release.release next.wire.stream.device with ⟨_ | error, left⟩
      · exact .inr (.inl ⟨_, _, .closing opens planned done released⟩)
      · exact .inl ⟨_, _, _, .intro opens planned done released⟩
    · have fails := (perform_eq_error_iff connection.baudRate).mp (congrArg Prod.fst ended)
      rw [← config_eq] at fails
      exact .inr (.inl ⟨_, _, .operating opens fails⟩)
    · right
      right
      rw [run, withLink_of_opened opened, ended]
  · exact .inr (.inl ⟨_, _, .opening (Connection.openLink_eq_error_iff.mp opened)⟩)
  · right
    right
    rw [run, withLink]
    generalize connection.openLink ports = opening at opened ⊢
    rcases opening with ⟨outcome, left, events, visits⟩
    cases opened
    rfl

/-- What is shown of a register read is the first byte of the answer. -/
theorem result_read {address : UInt8} {result : Result} {path : String} {left : δ}
    (completes : (read address).Completes connection ports result path left) :
    ∃ line last answer value, connection.Opens ports line ∧
      exchangeOver line (Link.readCommand address) = (.ok answer, last) ∧
      answer.payload.head? = some value ∧ result = .register address value := by
  obtain ⟨opens, planned, done, -⟩ := completes
  cases planned
  obtain _ | ⟨exchanged, enough, later⟩ := done
  cases later
  rename_i answer
  obtain ⟨tag, echo, _ | ⟨value, payload⟩⟩ := answer
  · cases enough
  · exact ⟨_, _, _, value, opens, exchanged, rfl, rfl⟩

/-- What is shown of a range read is what the answers to its chunks brought back, a byte for
each register. -/
theorem result_dump {address : UInt8} {size : Nat} {result : Result} {path : String} {left : δ}
    (completes : (dump address size).Completes connection ports result path left) :
    ∃ line last chunks data, connection.Opens ports line ∧
      Burst.plan size connection.settings.link.atomicRx = .ok chunks ∧
      Errand.Done line (chunks.map (LinkState.readErrand address)) data last ∧
      data.length = size ∧ result = .registers address data := by
  obtain ⟨opens, planned, done, -⟩ := completes
  rw [errands] at planned
  cases laid : Burst.plan size connection.settings.link.atomicRx with
  | error error =>
      rw [laid] at planned
      cases planned
  | ok chunks =>
      rw [laid] at planned
      cases planned
      have length_eq := LinkState.length_of_done (Burst.covers_of_plan laid) done
      exact ⟨_, _, chunks, _, opens, rfl, done, length_eq, rfl⟩

end Operation

/-! ## Reports -/

/-- A report of an operation is all or nothing: it tells of the whole command or of the first
phase that failed, and prints only in the first case. -/
structure Report.AllOrNothing (report : Report δ) (operation : Operation)
    (connection : Connection) (format : Format) (ports : Ports δ) : Prop where
  /-- Nothing is printed unless the command succeeds. -/
  silent : report.outcome ≠ .ok () → report.printed = []
  succeeds_iff : report.outcome = .ok () ↔
    ∃ result path left, operation.Completes connection ports result path left
  shows {result : Result} {path : String} {left : δ}
    (completes : operation.Completes connection ports result path left) :
      report.exitCode? = some Status.success.code ∧ report.printed = result.shown format ∧
        report.ports.device path = .ok left
  fails_iff (failure : Failure) : report.outcome = .error failure ↔
    ∃ phase error, operation.FailsIn connection ports phase error ∧
      failure = .ofLinkError (phase.context operation) error
  tells {phase : Phase} {error : LinkError}
    (fails : operation.FailsIn connection ports phase error) :
      report.exitCode? = some (Failure.statusOfLinkError error).code ∧
        report.complaint =
          "error: " ++ (phase.context operation ++ ": " ++ error.message) ++ "\n"

/-- What is printed after a success is the result of a whole command. -/
theorem Report.AllOrNothing.exists_shown {report : Report δ} {operation : Operation}
    {connection : Connection} {format : Format} {ports : Ports δ}
    (whole : report.AllOrNothing operation connection format ports)
    (succeeded : report.outcome = .ok ()) :
    ∃ result path left, operation.Completes connection ports result path left ∧
      report.printed = result.shown format := by
  obtain ⟨result, path, left, completes⟩ := whole.succeeds_iff.mp succeeded
  exact ⟨result, path, left, completes, (whole.shows completes).2.1⟩

namespace Operation

theorem printed_run_of_not_ok {operation : Operation} {connection : Connection}
    {format : Format} {ports : Ports δ}
    (unsuccessful : (operation.run connection format ports).outcome ≠ .ok ()) :
    (operation.run connection format ports).printed = [] := by
  rw [run] at unsuccessful ⊢
  generalize withLink connection ports operation.context _ = ended at unsuccessful ⊢
  rcases ended with ⟨result | failure | _, left, events⟩
  · exact absurd rfl unsuccessful
  · rfl
  · rfl

theorem allOrNothing_run (operation : Operation) (connection : Connection) (format : Format)
    (ports : Ports δ) :
    (operation.run connection format ports).AllOrNothing operation connection format ports where
  silent := printed_run_of_not_ok
  succeeds_iff := by
    constructor
    · intro succeeded
      rcases operation.completes_or_fails connection format ports with
        completes | ⟨phase, error, fails⟩ | died
      · exact completes
      · rw [run_of_failsIn fails] at succeeded
        cases succeeded
      · rw [died] at succeeded
        cases succeeded
    · rintro ⟨result, path, left, completes⟩
      obtain ⟨others, events, run_eq⟩ := run_of_completes completes format
      rw [run_eq]
  shows completes := by
    obtain ⟨others, events, run_eq⟩ := run_of_completes completes format
    rw [run_eq]
    exact ⟨rfl, rfl, others.device_put_self _ _⟩
  fails_iff failure := by
    constructor
    · intro failed
      rcases operation.completes_or_fails connection format ports with
        ⟨result, path, left, completes⟩ | ⟨phase, error, fails⟩ | died
      · obtain ⟨others, events, run_eq⟩ := run_of_completes completes format
        rw [run_eq] at failed
        cases failed
      · rw [run_of_failsIn fails] at failed
        cases failed
        exact ⟨phase, error, fails, rfl⟩
      · rw [died] at failed
        cases failed
    · rintro ⟨phase, error, fails, rfl⟩
      exact run_of_failsIn fails format
  tells fails := by
    rw [Report.exitCode?, Report.complaint, run_of_failsIn fails]
    exact ⟨rfl, rfl⟩

end Operation

namespace Request

/-- A command on the bridge comes to an operation, or is a load without a usable payload. -/
theorem operation_or_unusable {request : Request}
    (bridged : ∀ extended, request ≠ .version extended)
    (file : String → Except StreamError (List UInt8)) :
    (∃ operation, request.operation? file = some operation) ∨
      ∃ address source, request = .load address source ∧ source.Unusable file := by
  cases request with
  | load address source =>
      rw [operation?]
      cases resolved : resolvePayload file source with
      | ok payload => exact .inl ⟨_, rfl⟩
      | error failure =>
          exact .inr ⟨address, source, rfl, resolvePayload_fails_iff.mp ⟨failure, resolved⟩⟩
  | version extended => exact absurd rfl (bridged extended)
  | _ => exact .inl ⟨_, rfl⟩

/-- A load prints nothing in raw form, whether it succeeds or not. -/
theorem printed_load_raw (address : UInt8) (source : PayloadSource) (connection : Connection)
    (host : Host δ) : ((load address source).run connection .raw host).printed = [] := by
  rw [run]
  cases resolvePayload host.file source with
  | error failure => rfl
  | ok payload =>
      have whole := (Operation.load address payload.toArray).allOrNothing_run connection .raw
        host.ports
      by_cases succeeded : ((Operation.load address payload.toArray).run connection .raw
        host.ports).outcome = .ok ()
      · obtain ⟨_, _, _, ⟨-, -, -, -⟩, shown⟩ := whole.exists_shown succeeded
        exact shown
      · exact whole.silent succeeded

/-- **The output of a command is all or nothing.**  For every command on the bridge, whatever
the form of the output, the files and the devices: unless the command succeeds nothing is
printed.  It succeeds exactly if a device accepted the version, every exchange of the operation
succeeded and the device was released; then its result is printed once, written out in the form
that was asked for.  If the link fails, the command complains of the first phase that failed,
with the exit code of that failure.

A load whose payload cannot be used fails before all phases.  What is shown of a register or a
range of registers read is what the device answered; a load shows nothing in raw form. -/
theorem prints_all_or_nothing (request : Request)
    (bridged : ∀ extended, request ≠ .version extended) (connection : Connection)
    (format : Format) (host : Host δ) :
    ((∃ operation, request.operation? host.file = some operation ∧
        (request.run connection format host).AllOrNothing operation connection format
          host.ports) ∨
      ∃ address source, request = .load address source ∧ source.Unusable host.file ∧
        ∃ failure, request.run connection format host =
          ⟨.error failure, [], host.ports, []⟩) ∧
    (∀ address, request = .read address →
      (request.run connection format host).outcome = .ok () →
      ∃ line last answer value, connection.Opens host.ports line ∧
        exchangeOver line (Link.readCommand address) = (.ok answer, last) ∧
        answer.payload.head? = some value ∧
        (request.run connection format host).printed =
          (Result.register address value).shown format) ∧
    (∀ address size, request = .dump address size →
      (request.run connection format host).outcome = .ok () →
      ∃ line last chunks data, connection.Opens host.ports line ∧
        Burst.plan size connection.settings.link.atomicRx = .ok chunks ∧
        Errand.Done line (chunks.map (LinkState.readErrand address)) data last ∧
        data.length = size ∧
        (request.run connection format host).printed =
          (Result.registers address data).shown format) ∧
    ((∃ address source, request = .load address source) → format = .raw →
      (request.run connection format host).printed = []) := by
  refine ⟨?_, ?_, ?_, ?_⟩
  · rcases operation_or_unusable bridged host.file with
      ⟨operation, comes⟩ | ⟨address, source, rfl, unusable⟩
    · rw [run_of_operation comes]
      exact .inl ⟨operation, comes, operation.allOrNothing_run connection format host.ports⟩
    · obtain ⟨failure, refused⟩ := run_load_of_unusable unusable address connection format
      exact .inr ⟨address, source, rfl, unusable, failure, refused host.ports⟩
  · rintro address rfl succeeded
    have whole := (Operation.read address).allOrNothing_run connection format host.ports
    obtain ⟨result, path, left, completes, shown⟩ := whole.exists_shown succeeded
    obtain ⟨line, last, answer, value, opens, exchanged, first, rfl⟩ :=
      Operation.result_read completes
    exact ⟨line, last, answer, value, opens, exchanged, first, shown⟩
  · rintro address size rfl succeeded
    have whole := (Operation.dump address size).allOrNothing_run connection format host.ports
    obtain ⟨result, path, left, completes, shown⟩ := whole.exists_shown succeeded
    obtain ⟨line, last, chunks, data, opens, planned, done, length_eq, rfl⟩ :=
      Operation.result_dump completes
    exact ⟨line, last, chunks, data, opens, planned, done, length_eq, shown⟩
  · rintro ⟨address, source, rfl⟩ rfl
    exact printed_load_raw address source connection host

/-- A device that accepts the version and answers one read, with a script of its writes and of
its end, and no files. -/
def readableHost (writes : List WriteStep) (closeError : Option StreamError) : Host Scripted where
  ports.device _ := .ok
    { reads := [.chunk [108, 0, 1, 0], .chunk [1], .chunk [114, 0, 1, 5], .chunk [42]]
      writes, closeError }
  file _ := .error ⟨.notFound, "no such file"⟩

/-- The value is printed in each form if the device is released.  If it is not released nothing
is, although the value was read.  A device that does not even take the command is a failure to
read. -/
theorem prints_all_or_nothing_unreleased :
    (((read 5).run { port := some "p" } .raw (readableHost [] none)).printed = [42] ∧
      ((read 5).run { port := some "p" } .json (readableHost [] none)).printed =
        textBytes "\x7b\"address\":5,\"value\":42\x7d\n" ∧
      ((read 5).run { port := some "p" } .pretty (readableHost [] none)).printed =
        textBytes "0x05 = 0x2a\n") ∧
    (((read 5).run { port := some "p" } .raw
        (readableHost [] (some ⟨.notFound, "gone"⟩))).printed = [] ∧
      ((read 5).run { port := some "p" } .raw
        (readableHost [] (some ⟨.notFound, "gone"⟩))).complaint =
          "error: close failed: transport error: failed to close transport: gone\n") ∧
    (((read 5).run { port := some "p" } .raw
        (readableHost [.accept 64, .fail ⟨.permissionDenied, "denied"⟩]
          (some ⟨.notFound, "gone"⟩))).printed = [] ∧
      ((read 5).run { port := some "p" } .raw
        (readableHost [.accept 64, .fail ⟨.permissionDenied, "denied"⟩]
          (some ⟨.notFound, "gone"⟩))).complaint =
          "error: read failed: frame error: frame I/O error: denied\n") := by
  refine ⟨⟨by decide +kernel, by decide +kernel, by decide +kernel⟩, ⟨?_, by decide +kernel⟩,
    ⟨?_, by decide +kernel⟩⟩
  · obtain ⟨⟨_, ⟨⟩, report⟩ | ⟨_, _, ⟨⟩, -⟩, -⟩ := prints_all_or_nothing (read 5) (by simp)
      { port := some "p" } .raw (readableHost [] (some ⟨.notFound, "gone"⟩))
    exact report.silent (by decide +kernel)
  · obtain ⟨⟨_, ⟨⟩, report⟩ | ⟨_, _, ⟨⟩, -⟩, -⟩ := prints_all_or_nothing (read 5) (by simp)
      { port := some "p" } .raw
      (readableHost [.accept 64, .fail ⟨.permissionDenied, "denied"⟩] (some ⟨.notFound, "gone"⟩))
    exact report.silent (by decide +kernel)

end Request

end Console

end RegisterBridge
