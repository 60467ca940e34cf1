import RegisterBridge.Console.Run
import RegisterBridge.Proofs.Console.CommandLine
import RegisterBridge.Proofs.Misuse
import RegisterBridge.Proofs.Search

/-!
# Nothing is blamed on the caller after contact

Some failures are those of a command that should not have been carried out: its
arguments are wrong, a file is not there, something is amiss within.  What a command
line holds is checked when it is read, and the payload of a load before the bridge is
opened.  The main statement is that these checks leave nothing for the link to refuse:
once a device has been opened, no command exits with one of their codes.
-/

namespace RegisterBridge

/-! ## Openings on record -/

/-- An opening is on record: its events go on from those before it, every device that
it opened is among them, and a link that it gives holds them all. -/
structure Opening.Recorded {δ : Type} (opening : Opening δ) (baudRate : UInt32)
    (before : List Event) : Prop where
  goesOn : before <:+ opening.events
  opened : ∀ visit ∈ opening.visits, .deviceOpened visit.path baudRate ∈ opening.events
  handedOver : ∀ link, opening.outcome = .ok link → link.wire.events = opening.events

/-- What a search remarks on is added to the events. -/
theorem Opening.events_remarked {δ : Type} (opening : Opening δ) (path : String) :
    opening.events <:+ opening.remarked path := by
  rw [remarked.eq_def]
  split
  · exact List.suffix_cons ..
  · exact List.suffix_rfl

namespace Ports

variable {δ : Type} (ports : Ports δ) (path : String)

/-- What connecting reports is among the events of the opening. -/
theorem events_ofConnected
    (connected : Outcome LinkError (Link (SerialLine δ)) × Wire (SerialLine δ)) :
    connected.2.events <:+ (Opening.ofConnected ports path connected).events := by
  rcases connected with ⟨link | error | _, next⟩
  · exact List.suffix_cons ..
  · exact List.suffix_rfl
  · exact List.suffix_rfl

variable [ByteStream δ] {settings : OpenSettings}

theorem recorded_openPath (valid : settings.link.Valid) (events : List Event) :
    (ports.openPath settings path events).Recorded settings.serial.baudRate events := by
  cases found : ports.device path with
  | error error =>
      rw [openPath_of_error found]
      exact ⟨List.suffix_rfl, by simp, by simp⟩
  | ok device =>
      rw [openPath_of_ok found]
      have connecting : (opened settings.serial path device events).events <:+
          (Link.connect (opened settings.serial path device events) settings.link).2.events := by
        rw [Link.wire_connect valid]
        exact Dialogue.events_run ..
      have goesOn := connecting.trans (events_ofConnected ports path _)
      constructor
      · exact (List.suffix_cons ..).trans goesOn
      · intro visit visited
        obtain rfl := List.mem_singleton.mp visited
        exact goesOn.subset List.mem_cons_self
      · intro link established
        obtain ⟨connected, ended, rfl⟩ := Outcome.map_eq_ok_iff.mp established
        have wire_eq := Link.wire_of_connect_ok (Prod.ext ended rfl)
        simp only [Opening.ofConnected, ended]
        exact congrArg (.linkEstablished path :: ·.events) wire_eq

theorem blameless_openPath (valid : settings.link.Valid) (events : List Event) :
    (ports.openPath settings path events).outcome.Blameless := by
  cases found : ports.device path with
  | error error =>
      rw [openPath_of_error found]
      exact Outcome.failsOnly_error_iff.mpr (by simp [LinkError.IsMisuse, LinkError.kind])
  | ok device =>
      rw [openPath_of_ok found]
      have checked := (Dialogue.blameless_checkVersion settings.link.firmwareVersion).run
        (opened settings.serial path device events)
      rw [← Link.outcome_connect valid] at checked
      exact (Outcome.failsOnly_map_iff.mp checked).map _

theorem recorded_searchFrom (valid : settings.link.Valid) (total : Nat)
    (candidates : List String) (events : List Event) :
    (searchFrom settings total candidates ports events).Recorded
      settings.serial.baudRate events := by
  induction candidates generalizing ports events with
  | nil => exact ⟨List.suffix_rfl, by simp [searchFrom], by simp [searchFrom]⟩
  | cons path rest ih =>
      have first := recorded_openPath ports path valid events
      rw [searchFrom_cons]
      split
      · exact first
      · have later := ih (ports.openPath settings path events).ports
          ((ports.openPath settings path events).remarked path)
        have goesOn := (Opening.events_remarked _ path).trans later.goesOn
        refine ⟨first.goesOn.trans goesOn, ?_, later.handedOver⟩
        intro visit visited
        rcases List.mem_append.mp visited with visited | visited
        · exact goesOn.subset (first.opened visit visited)
        · exact later.opened visit visited

theorem blameless_searchFrom (valid : settings.link.Valid) (total : Nat)
    (candidates : List String) (events : List Event) :
    (searchFrom settings total candidates ports events).outcome.Blameless := by
  induction candidates generalizing ports events with
  | nil => exact Outcome.failsOnly_error_iff.mpr (by simp [LinkError.IsMisuse, LinkError.kind])
  | cons path rest ih =>
      rw [searchFrom_cons]
      split
      · exact blameless_openPath ports path valid events
      · exact ih _ _

end Ports

namespace Link

/-- Closing fails for what the transport does. -/
theorem close_not_isMisuse {σ : Type} [Transport σ] {link : Link σ} {error : LinkError}
    (failed : link.close.1 = .error error) : ¬error.IsMisuse := by
  rw [close] at failed
  dsimp only at failed
  split at failed
  · cases failed
  · cases failed
    simp [LinkError.IsMisuse, LinkError.kind]

/-- Closing adds to the events. -/
theorem events_close {σ : Type} [Transport σ] (link : Link σ) :
    link.wire.events <:+ link.close.2.events := by
  rw [close]
  dsimp only
  split
  · exact List.suffix_cons ..
  · exact List.suffix_rfl

/-- So does taking the lock. -/
theorem events_lock {σ : Type} (link : Link σ) : link.wire.events <:+ link.lock.wire.events := by
  rw [wire_lock]
  split
  · exact List.suffix_cons ..
  · exact List.suffix_rfl

/-- So does every operation. -/
theorem events_perform {σ : Type} [ByteStream σ] (link : Link σ) (operation : LinkOperation) :
    link.wire.events <:+ (link.perform operation).2.wire.events := by
  rw [(link.ran_perform operation).wire]
  refine List.IsSuffix.trans ?_ (Dialogue.events_run ..)
  split
  · exact link.events_lock
  · exact List.suffix_rfl

end Link

/-- The sizes without a fault are those that a burst can have. -/
theorem RegisterFile.sizeFault_eq_none_iff {size : Nat} :
    sizeFault? size = none ↔ 0 < size ∧ size ≤ Burst.maxSize := by
  rw [sizeFault?]
  by_cases empty : size = 0
  · rw [if_pos empty]
    exact iff_of_false (by simp) (by omega)
  · rw [if_neg empty]
    by_cases long : Burst.maxSize < size
    · rw [if_pos long]
      exact iff_of_false (by simp) (by omega)
    · rw [if_neg long]
      exact iff_of_true rfl (by omega)

namespace Console

/-! ## Statuses -/

/-- The statuses of commands that should not have been carried out. -/
def Status.BeforeContact (status : Status) : Prop :=
  status = .failure ∨ status = .usage ∨ status = .internal

theorem Status.beforeContact_iff_code {status : Status} :
    status.BeforeContact ↔ status.code ∈ [1, 64, 125] := by
  cases status <;> simp [BeforeContact, code]

/-- A link error that is not the caller's fault has none of these statuses. -/
theorem Failure.not_beforeContact_ofLinkError {error : LinkError} (blameless : ¬error.IsMisuse)
    (context : String) : ¬(ofLinkError context error).status.BeforeContact := by
  rw [ofLinkError, statusOfLinkError]
  cases kind_eq : error.kind with
  | invalidArgument => exact absurd (.inl kind_eq) blameless
  | invalidState => exact absurd (.inr kind_eq) blameless
  | io =>
      dsimp only
      split <;> simp [Status.BeforeContact]
  | _ => simp [Status.BeforeContact]

/-- A report of a failure has the code of its status. -/
theorem Report.exitCode_of_not_beforeContact {δ : Type} {report : Report δ}
    (allowed : report.outcome.FailsOnly (¬·.status.BeforeContact)) :
    ∀ code ∈ [1, 64, 125], report.exitCode? ≠ some code := by
  intro code early exits
  rw [exitCode?] at exits
  split at exits
  · cases exits
    simp [Status.code] at early
  · rename_i failure failed
    cases exits
    exact allowed failure failed (Status.beforeContact_iff_code.mpr early)
  · cases exits

/-! ## Phases -/

/-- The operation of a link that an operation is.  A probe asks the firmware for
nothing more than the handshake did. -/
def Operation.linkOperation? : Operation → Option LinkOperation
  | probe => none
  | read address => some (.readRegister address)
  | write address value => some (.writeRegister address value)
  | dump address size => some (.readBurst address size)
  | load address payload => some (.writeBurst address payload)

/-- The size of a burst, if the operation is one, is a size that a burst can have. -/
def Operation.Sound (operation : Operation) : Prop :=
  ∀ linkOperation, operation.linkOperation? = some linkOperation →
    linkOperation.sizeFault? = none

/-- Connections differ from the default in the version alone. -/
theorem Connection.valid_settings (connection : Connection) : connection.settings.link.Valid :=
  ⟨LinkConfig.default_valid.tx_pos, LinkConfig.default_valid.tx_le,
    LinkConfig.default_valid.rx_pos, LinkConfig.default_valid.rx_le⟩

variable {δ : Type} [ByteStream δ]

theorem Connection.recorded_openLink (connection : Connection) (ports : Ports δ) :
    (connection.openLink ports).Recorded connection.baudRate [] := by
  have valid := connection.valid_settings
  rw [openLink]
  split
  · exact ports.recorded_openPath _ valid []
  · rw [Ports.search, LinkConfig.validate_eq_ok_iff.mpr valid]
    exact ports.recorded_searchFrom valid _ _ []

theorem Connection.blameless_openLink (connection : Connection) (ports : Ports δ) :
    (connection.openLink ports).outcome.Blameless := by
  have valid := connection.valid_settings
  rw [openLink]
  split
  · exact ports.blameless_openPath _ valid []
  · rw [Ports.search, LinkConfig.validate_eq_ok_iff.mpr valid]
    exact ports.blameless_searchFrom valid _ _ []

variable [Release δ]

/-- An operation of a sound size is never refused by its link. -/
theorem Operation.blameless_perform {operation : Operation} (sound : operation.Sound)
    (baudRate : UInt32) (link : Link (SerialLine δ)) :
    (operation.perform baudRate link).1.Blameless := by
  have ended (linkOperation : LinkOperation)
      (same : operation.linkOperation? = some linkOperation) :
      (link.perform linkOperation).1.Blameless := by
    have misuse := link.outcome_perform_misuse linkOperation
    rw [sound linkOperation same] at misuse
    exact misuse
  cases operation with
  | probe => exact Outcome.failsOnly_ok _
  | read address => exact (Outcome.failsOnly_map_iff.mp (ended _ rfl)).map _
  | write address value => exact (Outcome.failsOnly_map_iff.mp (ended _ rfl)).map _
  | dump address size => exact (Outcome.failsOnly_map_iff.mp (ended _ rfl)).map _
  | load address payload => exact (Outcome.failsOnly_map_iff.mp (ended _ rfl)).map _

theorem Operation.events_perform (operation : Operation) (baudRate : UInt32)
    (link : Link (SerialLine δ)) :
    link.wire.events <:+ (operation.perform baudRate link).2.wire.events := by
  cases operation with
  | probe => exact link.events_lock.trans link.lock.events_lock
  | read address => exact link.events_perform (.readRegister address)
  | write address value => exact link.events_perform (.writeRegister address value)
  | dump address size => exact link.events_perform (.readBurst address size)
  | load address payload => exact link.events_perform (.writeBurst address payload)

/-- The events of a command go on from those of the opening. -/
theorem goesOn_withLink {α : Type} (connection : Connection) (ports : Ports δ) (context : String)
    {operation : Link (SerialLine δ) → Outcome LinkError α × Link (SerialLine δ)}
    (goesOn : ∀ link, link.wire.events <:+ (operation link).2.wire.events) :
    (connection.openLink ports).events <:+
      (withLink connection ports context operation).2.2 := by
  have recorded := connection.recorded_openLink ports
  rw [withLink]
  rcases opened : connection.openLink ports with ⟨link | error | _, ports, events, visits⟩
  · rw [opened] at recorded
    have performed := goesOn link
    rw [recorded.handedOver link rfl] at performed
    dsimp only
    rcases ended : operation link with ⟨value | error | _, link⟩ <;> rw [ended] at performed
    · exact performed.trans link.events_close
    · exact performed
    · exact performed
  · exact List.suffix_rfl
  · exact List.suffix_rfl

/-- No phase of a command blames the caller. -/
theorem withLink_not_beforeContact {α : Type} (connection : Connection) (ports : Ports δ)
    (context : String)
    {operation : Link (SerialLine δ) → Outcome LinkError α × Link (SerialLine δ)}
    (blameless : ∀ link, (operation link).1.Blameless) :
    (withLink connection ports context operation).1.FailsOnly
      (¬·.status.BeforeContact) := by
  have opening := connection.blameless_openLink ports
  rw [withLink]
  rcases opened : connection.openLink ports with ⟨link | error | _, ports, events, visits⟩ <;>
    rw [opened] at opening
  · have performed := blameless link
    dsimp only
    rcases ended : operation link with ⟨value | error | _, link⟩ <;> rw [ended] at performed
    · dsimp only [conclude]
      cases closed : link.close.1 with
      | ok => exact Outcome.failsOnly_ok _
      | error error =>
          exact Outcome.failsOnly_error_iff.mpr
            (Failure.not_beforeContact_ofLinkError (Link.close_not_isMisuse closed) _)
    · exact Outcome.failsOnly_error_iff.mpr
        (Failure.not_beforeContact_ofLinkError (performed error rfl) _)
    · exact Outcome.failsOnly_died
  · exact Outcome.failsOnly_error_iff.mpr
      (Failure.not_beforeContact_ofLinkError (opening error rfl) _)
  · exact Outcome.failsOnly_died

/-! ## Payloads -/

/-- A source gives some bytes as the payload. -/
inductive PayloadSource.Gives (file : String → Except StreamError (List UInt8)) :
    PayloadSource → List UInt8 → Prop where
  | hex {text : String} {payload : List UInt8} (read : Text.parseHex text = .ok payload) :
      Gives file (.hex text) payload
  | file {path : String} {payload : List UInt8} (read : file path = .ok payload) :
      Gives file (.file path) payload

/-- A source gives no payload that could be loaded. -/
inductive PayloadSource.Unusable (file : String → Except StreamError (List UInt8)) :
    PayloadSource → Prop where
  | malformed {text : String} {fault : Text.HexFault} (bad : Text.parseHex text = .error fault) :
      Unusable file (.hex text)
  | unreadable {path : String} {error : StreamError} (bad : file path = .error error) :
      Unusable file (.file path)
  | empty {source : PayloadSource} (gives : source.Gives file []) : Unusable file source
  | tooLong {source : PayloadSource} {payload : List UInt8} (gives : source.Gives file payload)
      (long : Burst.maxSize < payload.length) : Unusable file source

section Payloads

variable {file : String → Except StreamError (List UInt8)} {source : PayloadSource}
  {payload : List UInt8}

/-- A payload that a source gives is taken if a burst can have its size. -/
theorem resolvePayload_of_gives (gives : source.Gives file payload) :
    resolvePayload file source =
      if payload.length = 0 ∨ Burst.maxSize < payload.length then
        .error ⟨.usage, s!"payload must be 1..={Burst.maxSize} bytes (got {payload.length})"⟩
      else .ok payload := by
  cases gives with
  | hex read =>
      rw [resolvePayload, read]
      rfl
  | file read =>
      rw [resolvePayload, read]
      rfl

/-- A source gives a payload, or gives none and is refused. -/
theorem PayloadSource.gives_or_refused (file : String → Except StreamError (List UInt8))
    (source : PayloadSource) :
    (∃ payload, source.Gives file payload) ∨
      source.Unusable file ∧ ∃ failure, resolvePayload file source = .error failure := by
  cases source with
  | hex text =>
      cases read : Text.parseHex text with
      | ok payload => exact .inl ⟨payload, .hex read⟩
      | error fault =>
          right
          refine ⟨.malformed read, ⟨.usage, "--hex: " ++ fault.message⟩, ?_⟩
          rw [resolvePayload, read]
          rfl
  | file path =>
      cases read : file path with
      | ok payload => exact .inl ⟨payload, .file read⟩
      | error error =>
          right
          refine ⟨.unreadable read, .ofStreamError ("failed reading " ++ path) error, ?_⟩
          rw [resolvePayload, read]
          rfl

theorem PayloadSource.Gives.unique {other : List UInt8} (gives : source.Gives file payload)
    (also : source.Gives file other) : payload = other := by
  cases gives with
  | hex read =>
      cases also with
      | hex read' => exact Except.ok.inj (read.symm.trans read')
  | file read =>
      cases also with
      | file read' => exact Except.ok.inj (read.symm.trans read')

/-- The sources that are refused are those that give no payload for a load. -/
theorem resolvePayload_fails_iff :
    (∃ failure, resolvePayload file source = .error failure) ↔ source.Unusable file := by
  rcases source.gives_or_refused file with ⟨payload, gives⟩ | ⟨unusable, refused⟩
  · rw [resolvePayload_of_gives gives]
    constructor
    · rintro ⟨failure, refused⟩
      split at refused
      · rename_i outside
        rcases outside with empty | long
        · rw [List.length_eq_zero_iff] at empty
          exact .empty (empty ▸ gives)
        · exact .tooLong gives long
      · cases refused
    · rintro (bad | bad | gives' | ⟨gives', long⟩)
      · cases gives with
        | hex read => rw [read] at bad; cases bad
      · cases gives with
        | file read => rw [read] at bad; cases bad
      · obtain rfl := gives.unique gives'
        exact ⟨_, if_pos (.inl rfl)⟩
      · obtain rfl := gives.unique gives'
        exact ⟨_, if_pos (.inr long)⟩
  · exact iff_of_true refused unusable

theorem resolvePayload_eq_ok_iff :
    resolvePayload file source = .ok payload ↔
      source.Gives file payload ∧ 0 < payload.length ∧ payload.length ≤ Burst.maxSize := by
  rcases source.gives_or_refused file with ⟨found, gives⟩ | ⟨unusable, failure, refused⟩
  · rw [resolvePayload_of_gives gives]
    constructor
    · intro taken
      split at taken
      · cases taken
      · cases taken
        exact ⟨gives, by omega, by omega⟩
    · rintro ⟨gives', positive, within⟩
      obtain rfl := gives.unique gives'
      exact if_neg (by omega)
  · rw [refused]
    constructor
    · exact fun impossible => by cases impossible
    · rintro ⟨gives, positive, within⟩
      rw [resolvePayload_of_gives gives, if_neg (by omega)] at refused
      cases refused

end Payloads

/-! ## Requests -/

/-- The operation on the bridge that a request comes to, if it comes to one. -/
def Request.operation? (file : String → Except StreamError (List UInt8)) :
    Request → Option Operation
  | probe => some .probe
  | read address => some (.read address)
  | write address value => some (.write address value)
  | dump address size => some (.dump address size)
  | load address source =>
    match resolvePayload file source with
    | .ok payload => some (.load address payload.toArray)
    | .error _ => none
  | version _ => none

namespace Request

variable {request : Request} {operation : Operation} {connection : Connection} {format : Format}
  {host : Host δ}

theorem run_of_operation (comes : request.operation? host.file = some operation) :
    request.run connection format host = operation.run connection format host.ports := by
  cases request with
  | load address source =>
      rw [operation?] at comes
      rw [run]
      cases resolved : resolvePayload host.file source with
      | ok payload =>
          rw [resolved] at comes
          cases comes
          rfl
      | error failure =>
          rw [resolved] at comes
          cases comes
  | version extended => cases comes
  | _ =>
      cases comes
      rfl

/-- A request that comes to no operation leaves the ports alone. -/
theorem run_of_no_operation (none : request.operation? host.file = none) :
    (request.run connection format host).ports = host.ports ∧
      (request.run connection format host).events = [] := by
  cases request with
  | load address source =>
      rw [operation?] at none
      rw [run]
      cases resolved : resolvePayload host.file source with
      | ok payload =>
          rw [resolved] at none
          cases none
      | error failure => exact ⟨rfl, rfl⟩
  | version extended => exact ⟨rfl, rfl⟩
  | _ => cases none

/-- A load without a usable payload fails without a look at the ports. -/
theorem run_load_of_unusable {source : PayloadSource} (unusable : source.Unusable host.file)
    (address : UInt8) (connection : Connection) (format : Format) :
    ∃ failure, ∀ ports : Ports δ, (load address source).run connection format
      { host with ports } = ⟨.error failure, [], ports, []⟩ := by
  obtain ⟨failure, refused⟩ := resolvePayload_fails_iff.mpr unusable
  refine ⟨failure, fun ports => ?_⟩
  rw [run]
  dsimp only
  rw [refused]

/-- What was checked when the line and the payload were read is what a burst asks for. -/
theorem sound_operation {file : String → Except StreamError (List UInt8)}
    (sound : request.Sound) (comes : request.operation? file = some operation) :
    operation.Sound := by
  cases request with
  | dump address size =>
      cases comes
      rintro _ ⟨⟩
      exact RegisterFile.sizeFault_eq_none_iff.mpr sound
  | load address source =>
      rw [operation?] at comes
      cases resolved : resolvePayload file source with
      | ok payload =>
          rw [resolved] at comes
          cases comes
          rintro _ ⟨⟩
          exact RegisterFile.sizeFault_eq_none_iff.mpr (resolvePayload_eq_ok_iff.mp resolved).2
      | error failure =>
          rw [resolved] at comes
          cases comes
  | version extended => cases comes
  | _ =>
      cases comes
      rintro _ ⟨⟩ <;> rfl

end Request

namespace Operation

/-- How a command ends, but for what it prints. -/
theorem run_eq_withLink (operation : Operation) (connection : Connection) (format : Format)
    (ports : Ports δ) :
    (operation.run connection format ports).outcome =
        (withLink connection ports operation.context
          (operation.perform connection.baudRate)).1.map (fun _ => ()) ∧
      (operation.run connection format ports).events =
        (withLink connection ports operation.context
          (operation.perform connection.baudRate)).2.2 := by
  rw [run]
  rcases withLink connection ports operation.context (operation.perform connection.baudRate)
    with ⟨result | failure | _, ports, events⟩
  · exact ⟨rfl, rfl⟩
  · exact ⟨rfl, rfl⟩
  · exact ⟨rfl, rfl⟩

/-- Every device that was opened is among the events of the command. -/
theorem opened_run (operation : Operation) (connection : Connection) (format : Format)
    (ports : Ports δ) :
    ∀ visit ∈ (connection.openLink ports).visits,
      .deviceOpened visit.path connection.baudRate ∈
        (operation.run connection format ports).events := by
  intro visit visited
  have goesOn := goesOn_withLink connection ports operation.context
    (operation.events_perform connection.baudRate)
  rw [(operation.run_eq_withLink connection format ports).2]
  exact goesOn.subset ((connection.recorded_openLink ports).opened visit visited)

/-- An operation of a sound size does not end with a status of misuse. -/
theorem run_not_beforeContact {operation : Operation} (sound : operation.Sound)
    (connection : Connection) (format : Format) (ports : Ports δ) :
    (operation.run connection format ports).outcome.FailsOnly (¬·.status.BeforeContact) := by
  rw [(operation.run_eq_withLink connection format ports).1]
  exact (withLink_not_beforeContact connection ports operation.context
    (blameless_perform sound connection.baudRate)).map _

end Operation

namespace Request

variable {request : Request}

/-- **No sound request is at fault once it has reached a device**, whatever the files hold
and the devices do: if a device was opened, the command does not exit with a code of usage,
of a missing file or of a fault within.

So it is because opening, the operation and closing are never refused as misuse, and
because a load whose payload is malformed, unreadable, empty or too long comes to no
operation: it fails without a look at the ports.  Whatever is opened is reported. -/
theorem Sound.blameless_after_contact (sound : request.Sound) (connection : Connection)
    (format : Format) (host : Host δ) :
    ((∃ path baudRate,
        Event.deviceOpened path baudRate ∈ (request.run connection format host).events) →
      ∀ code ∈ [1, 64, 125], (request.run connection format host).exitCode? ≠ some code) ∧
    (∀ operation, request.operation? host.file = some operation →
      (∀ visit ∈ (connection.openLink host.ports).visits,
        .deviceOpened visit.path connection.baudRate ∈
          (request.run connection format host).events) ∧
      (connection.openLink host.ports).outcome.Blameless ∧
      ∀ link : Link (SerialLine δ),
        (operation.perform connection.baudRate link).1.Blameless ∧
        ∀ error, link.close.1 = .error error → ¬error.IsMisuse) ∧
    (∀ address source, request = .load address source → source.Unusable host.file →
      ∃ failure, ∀ ports : Ports δ,
        request.run connection format { host with ports } = ⟨.error failure, [], ports, []⟩) := by
  refine ⟨?_, ?_, ?_⟩
  · rintro ⟨path, baudRate, reported⟩
    cases comes : request.operation? host.file with
    | none =>
        rw [(run_of_no_operation comes).2] at reported
        cases reported
    | some operation =>
        rw [run_of_operation comes]
        exact Report.exitCode_of_not_beforeContact
          (Operation.run_not_beforeContact (sound_operation sound comes) _ _ _)
  · intro operation comes
    refine ⟨?_, connection.blameless_openLink host.ports, fun link =>
      ⟨Operation.blameless_perform (sound_operation sound comes) _ link,
        fun error => Link.close_not_isMisuse⟩⟩
    rw [run_of_operation comes]
    exact operation.opened_run _ _ _
  · rintro address source rfl unusable
    exact run_load_of_unusable unusable address connection format

end Request

namespace Invocation

variable {arguments : List String} {defaultPort : Option String} {invocation : Invocation}

/-- **No command is at fault once it has reached a device.**  For every command line
that can be read, whatever the files hold and the devices do: if a device was opened,
the command does not exit with a code of usage, of a missing file or of a fault within.
For the request that is read off a command line is sound. -/
theorem contact_precludes_misuse (parsed : parseArguments arguments defaultPort = .ok invocation)
    (defaultFormat : Format) (host : Host δ) :
    ((∃ path baudRate,
        Event.deviceOpened path baudRate ∈ (invocation.run defaultFormat host).events) →
      ∀ code ∈ [1, 64, 125], (invocation.run defaultFormat host).exitCode? ≠ some code) ∧
    (∀ operation, invocation.request.operation? host.file = some operation →
      (∀ visit ∈ (invocation.connection.openLink host.ports).visits,
        .deviceOpened visit.path invocation.connection.baudRate ∈
          (invocation.run defaultFormat host).events) ∧
      (invocation.connection.openLink host.ports).outcome.Blameless ∧
      ∀ link : Link (SerialLine δ),
        (operation.perform invocation.connection.baudRate link).1.Blameless ∧
        ∀ error, link.close.1 = .error error → ¬error.IsMisuse) ∧
    (∀ address source, invocation.request = .load address source → source.Unusable host.file →
      ∃ failure, ∀ ports : Ports δ,
        invocation.run defaultFormat { host with ports } = ⟨.error failure, [], ports, []⟩) := by
  have sound := sound_of_parseArguments parsed
  exact sound.blameless_after_contact invocation.connection
    (invocation.format.getD defaultFormat) host

/-- A device that accepts the version and says nothing more, and no files. -/
def stalledHost : Host Scripted where
  ports := { device := fun _ => .ok { reads := [.chunk [108, 0, 1, 0], .chunk [1]] } }
  file := fun _ => .error ⟨.notFound, "no such file"⟩

/-- The longest dump that can be asked for reaches the device, which is silent; a load of
half a byte does not get so far. -/
theorem contact_precludes_misuse_stalled :
    (∀ code ∈ [1, 64, 125],
      ((⟨.dump 16 65535, { port := some "p" }, none, .text, .warn⟩ : Invocation).run .json
        stalledHost).exitCode? ≠ some code) ∧
    ∃ failure, ∀ ports : Ports Scripted,
      (⟨.load 0 (.hex "abc"), {}, none, .text, .warn⟩ : Invocation).run .json
        { stalledHost with ports } = ⟨.error failure, [], ports, []⟩ := by
  have dumps : parseArguments ["dump", "0x10", "65535", "--port", "p"] none =
      .ok ⟨.dump 16 65535, { port := some "p" }, none, .text, .warn⟩ :=
    eq_ok_of_toOption (by decide +kernel)
  have loads : parseArguments ["load", "0", "--hex=abc"] none =
      .ok ⟨.load 0 (.hex "abc"), {}, none, .text, .warn⟩ :=
    eq_ok_of_toOption (by decide +kernel)
  have malformed : Text.parseHex "abc" = .error (.oddLength 3) := rfl
  obtain ⟨exits, contact, -⟩ := contact_precludes_misuse dumps .json stalledHost
  obtain ⟨-, -, refused⟩ := contact_precludes_misuse loads .json stalledHost
  have opens : (({ port := some "p" } : Connection).openLink stalledHost.ports).visits.map
      Visit.path = ["p"] := Ports.visited_openPath _ _
  obtain ⟨visit, visited, -⟩ := List.mem_map.mp (opens ▸ List.mem_singleton_self "p")
  exact ⟨exits ⟨_, _, (contact _ rfl).1 visit visited⟩, refused 0 _ rfl (.malformed malformed)⟩

end Invocation

end Console

end RegisterBridge
