import RegisterBridge.Proofs.Console.Errands

/-!
# Opening a connection

A connection comes to a path, and the device there decides whether it is opened: it has to
answer the version query and not to refuse the version.  The relations here say by the devices
alone which line an opening gives, and why there is none.
-/

namespace RegisterBridge

open LinkState (exchangeOver)

/-! ## Handshakes over a stream -/

theorem versionVerdict_eq_ok_iff {expected : UInt32} {exchanged : Outcome LinkError Answer} :
    versionVerdict expected exchanged = .ok () ↔
      ∃ answer, exchanged = .ok answer ∧ answer.payload.head? ≠ some versionRefused := by
  cases exchanged with
  | ok answer =>
      rw [versionVerdict]
      split <;> simp [*]
  | error error => simp [versionVerdict]
  | died => simp [versionVerdict]

theorem versionVerdict_eq_error_iff {expected : UInt32} {exchanged : Outcome LinkError Answer}
    {error : LinkError} :
    versionVerdict expected exchanged = .error error ↔
      exchanged = .error error ∨
        ∃ answer, exchanged = .ok answer ∧ answer.payload.head? = some versionRefused ∧
          error = .versionMismatch expected := by
  cases exchanged with
  | ok answer =>
      rw [versionVerdict]
      split <;> simp [*, eq_comm]
  | error cause => simp [versionVerdict]
  | died => simp [versionVerdict]

/-- A handshake is one exchange, which is judged. -/
theorem Dialogue.runOn_checkVersion {σ : Type} [ByteStream σ] (expected : UInt32) (stream : σ) :
    (checkVersion expected).runOn stream =
      (exchangeOver stream (versionQuery expected)).map (versionVerdict expected) id := by
  rw [LinkState.exchangeOver_eq_runOn, checkVersion, andThen, runOn_bind]
  rcases (exchange (versionQuery expected)).runOn stream with
    ⟨⟨tag, address, _ | ⟨verdict, payload⟩⟩ | error | _, next⟩
  · rfl
  · simp only [judgeVersion, versionVerdict, Prod.map_apply, List.head?_cons,
      Option.some.injEq]
    split <;> rfl
  · rfl
  · rfl

/-- What is needed of a link that was just opened: its settings and its stream. -/
def Link.footing {σ : Type} (link : Link σ) : LinkConfig × σ :=
  (link.config, link.wire.stream)

/-- Connecting gives a link if the exchange of the handshake is judged well. -/
theorem Link.footing_connect {σ : Type} [ByteStream σ] {config : LinkConfig}
    (valid : config.Valid) (wire : Wire σ) :
    (connect wire config).1.map footing =
      (versionVerdict config.firmwareVersion
        (exchangeOver wire.stream (versionQuery config.firmwareVersion)).1).map fun _ =>
          (config, (exchangeOver wire.stream (versionQuery config.firmwareVersion)).2) := by
  have ran := ran_new valid wire
  have checked := (Dialogue.checkVersion config.firmwareVersion).run_stream wire
  rw [Dialogue.runOn_checkVersion, Prod.ext_iff] at checked
  obtain ⟨outcome_eq, stream_eq⟩ := checked
  replace outcome_eq := ran.outcome.trans outcome_eq
  replace stream_eq := (congrArg Wire.stream ran.wire).trans stream_eq
  have config_eq : (new valid wire).checkVersion.2.config = config := ran.config
  rw [Prod.map_fst] at outcome_eq
  rw [Prod.map_snd, id_eq] at stream_eq
  rw [connect_of_valid valid, ← outcome_eq, ← stream_eq]
  cases (new valid wire).checkVersion.1 with
  | ok => simp [Outcome.map, footing, config_eq]
  | error error => rfl
  | died => rfl

namespace Ports

variable {δ : Type} [ByteStream δ] {ports : Ports δ} {path : String} {device : δ}

theorem footing_openPath {settings : OpenSettings} (valid : settings.link.Valid)
    (found : ports.device path = .ok device) (events : List Event) :
    (ports.openPath settings path events).outcome.map Link.footing =
      (versionVerdict settings.link.firmwareVersion
        (exchangeOver (⟨path, device⟩ : SerialLine δ)
          (versionQuery settings.link.firmwareVersion)).1).map fun _ =>
          (settings.link, (exchangeOver (⟨path, device⟩ : SerialLine δ)
            (versionQuery settings.link.firmwareVersion)).2) := by
  have connected := Link.footing_connect valid (opened settings.serial path device events)
  rw [openPath_of_ok found]
  refine Eq.trans ?_ connected
  rw [Opening.ofConnected]
  cases (Link.connect (opened settings.serial path device events) settings.link).1 <;> rfl

end Ports

namespace Console

variable {δ : Type} [ByteStream δ]

/-! ## Opening -/

/-- The path that a connection comes to: the one that it names, or else the first candidate
whose opening decides a search. -/
def Connection.path? (connection : Connection) (ports : Ports δ) : Option String :=
  match connection.port with
  | some path => some path
  | none => ports.firstDecisive? connection.settings []

/-- A connection is opened: there is a device at the path it comes to, which answers the
version query and does not refuse the version.  That leaves a line to the device. -/
inductive Connection.Opens (connection : Connection) (ports : Ports δ) : SerialLine δ → Prop
  | intro {path : String} {device : δ} {answer : Answer} {line : SerialLine δ}
      (comes : connection.path? ports = some path) (found : ports.device path = .ok device)
      (answered : exchangeOver (⟨path, device⟩ : SerialLine δ)
        (versionQuery connection.firmwareVersion) = (.ok answer, line))
      (accepted : answer.payload.head? ≠ some versionRefused) : Opens connection ports line

/-- A connection is not opened, for a reason. -/
inductive Connection.OpenFails (connection : Connection) (ports : Ports δ) : LinkError → Prop
  | nowhere (nowhere : connection.path? ports = none) :
      OpenFails connection ports (.noDeviceFound candidateCount)
  | missing {path : String} {error : StreamError} (comes : connection.path? ports = some path)
      (missing : ports.device path = .error error) :
      OpenFails connection ports (.transport (.openFailed path error))
  | unanswered {path : String} {device : δ} {error : LinkError} {line : SerialLine δ}
      (comes : connection.path? ports = some path) (found : ports.device path = .ok device)
      (unanswered : exchangeOver (⟨path, device⟩ : SerialLine δ)
        (versionQuery connection.firmwareVersion) = (.error error, line)) :
      OpenFails connection ports error
  | refused {path : String} {device : δ} {answer : Answer} {line : SerialLine δ}
      (comes : connection.path? ports = some path) (found : ports.device path = .ok device)
      (answered : exchangeOver (⟨path, device⟩ : SerialLine δ)
        (versionQuery connection.firmwareVersion) = (.ok answer, line))
      (refused : answer.payload.head? = some versionRefused) :
      OpenFails connection ports (.versionMismatch connection.firmwareVersion)

namespace Connection

variable {connection : Connection} {ports : Ports δ}

/-- No candidate occurs twice, so a search comes to the devices as they are in the
beginning. -/
theorem nodup_candidates (connection : Connection) : connection.settings.candidates.Nodup := by
  have distinct : candidatePaths.Nodup := by decide +kernel
  exact distinct

/-- A connection that comes to a path opens it, after some events. -/
theorem openLink_of_path {path : String} (comes : connection.path? ports = some path) :
    ∃ events, (connection.openLink ports).outcome =
      (ports.openPath connection.settings path events).outcome := by
  rw [path?] at comes
  rw [openLink]
  cases given : connection.port with
  | some named =>
      rw [given] at comes
      cases comes
      exact ⟨[], rfl⟩
  | none =>
      rw [given] at comes
      have found := Ports.search_eq_firstDecisive connection.valid_settings
        connection.nodup_candidates ports []
      dsimp only at comes
      rw [comes] at found
      obtain ⟨events, outcome_eq, -⟩ := found
      exact ⟨events, outcome_eq⟩

/-- One that comes to none has found no device. -/
theorem openLink_of_nowhere (nowhere : connection.path? ports = none) :
    (connection.openLink ports).outcome = .error (.noDeviceFound candidateCount) := by
  rw [path?] at nowhere
  rw [openLink]
  cases given : connection.port with
  | some named =>
      rw [given] at nowhere
      cases nowhere
  | none =>
      rw [given] at nowhere
      have found := Ports.search_eq_firstDecisive connection.valid_settings
        connection.nodup_candidates ports []
      dsimp only at nowhere
      rw [nowhere] at found
      exact found

/-- The device at the path decides: it cannot be opened, or its handshake is judged. -/
theorem footing_openLink_of_found {path : String} {device : δ}
    (comes : connection.path? ports = some path) (found : ports.device path = .ok device) :
    (connection.openLink ports).outcome.map Link.footing =
      (versionVerdict connection.firmwareVersion
        (exchangeOver (⟨path, device⟩ : SerialLine δ)
          (versionQuery connection.firmwareVersion)).1).map fun _ =>
        (connection.settings.link, (exchangeOver (⟨path, device⟩ : SerialLine δ)
          (versionQuery connection.firmwareVersion)).2) := by
  obtain ⟨events, outcome_eq⟩ := openLink_of_path comes
  rw [outcome_eq]
  exact Ports.footing_openPath connection.valid_settings found events

theorem openLink_of_missing {path : String} {error : StreamError}
    (comes : connection.path? ports = some path) (missing : ports.device path = .error error) :
    (connection.openLink ports).outcome = .error (.transport (.openFailed path error)) := by
  obtain ⟨events, outcome_eq⟩ := openLink_of_path comes
  rw [outcome_eq, Ports.openPath_of_error missing]

/-- Opening gives a link with the settings of the connection over a line that it opens. -/
theorem footing_openLink_eq_ok_iff {config : LinkConfig} {line : SerialLine δ} :
    (connection.openLink ports).outcome.map Link.footing = .ok (config, line) ↔
      connection.Opens ports line ∧ connection.settings.link = config := by
  constructor
  · intro opened
    cases comes : connection.path? ports with
    | none =>
        rw [openLink_of_nowhere comes] at opened
        cases opened
    | some path =>
        cases found : ports.device path with
        | error error =>
            rw [openLink_of_missing comes found] at opened
            cases opened
        | ok device =>
            rw [footing_openLink_of_found comes found] at opened
            obtain ⟨_, judged, footing_eq⟩ := Outcome.map_eq_ok_iff.mp opened
            obtain ⟨answer, answered, accepted⟩ := versionVerdict_eq_ok_iff.mp judged
            obtain ⟨rfl, rfl⟩ := Prod.mk.inj footing_eq
            exact ⟨.intro comes found (Prod.ext answered rfl) accepted, rfl⟩
  · rintro ⟨⟨comes, found, answered, accepted⟩, rfl⟩
    rw [footing_openLink_of_found comes found, answered,
      versionVerdict_eq_ok_iff.mpr ⟨_, rfl, accepted⟩]
    rfl

/-- So a connection that is opened gives a link over the line. -/
theorem exists_link_of_opens {line : SerialLine δ} (opens : connection.Opens ports line) :
    ∃ link, (connection.openLink ports).outcome = .ok link ∧
      link.config = connection.settings.link ∧ link.wire.stream = line := by
  obtain ⟨link, opened, footing_eq⟩ := Outcome.map_eq_ok_iff.mp
    (footing_openLink_eq_ok_iff.mpr ⟨opens, rfl⟩)
  exact ⟨link, opened, Prod.mk.inj footing_eq⟩

/-- Opening fails exactly for the reasons that there are. -/
theorem openLink_eq_error_iff {error : LinkError} :
    (connection.openLink ports).outcome = .error error ↔ connection.OpenFails ports error := by
  rw [← Outcome.map_eq_error_iff (f := Link.footing)]
  constructor
  · intro failed
    cases comes : connection.path? ports with
    | none =>
        rw [openLink_of_nowhere comes] at failed
        cases failed
        exact .nowhere comes
    | some path =>
        cases found : ports.device path with
        | error cause =>
            rw [openLink_of_missing comes found] at failed
            cases failed
            exact .missing comes found
        | ok device =>
            rw [footing_openLink_of_found comes found] at failed
            rcases versionVerdict_eq_error_iff.mp (Outcome.map_eq_error_iff.mp failed) with
              unanswered | ⟨answer, answered, refused, rfl⟩
            · exact .unanswered comes found (Prod.ext unanswered rfl)
            · exact .refused comes found (Prod.ext answered rfl) refused
  · intro fails
    cases fails with
    | nowhere nowhere =>
        rw [openLink_of_nowhere nowhere]
        rfl
    | missing comes missing =>
        rw [openLink_of_missing comes missing]
        rfl
    | unanswered comes found unanswered =>
        rw [footing_openLink_of_found comes found, unanswered]
        rfl
    | refused comes found answered refused =>
        rw [footing_openLink_of_found comes found, answered,
          versionVerdict_eq_error_iff.mpr (.inr ⟨_, rfl, refused, rfl⟩)]
        rfl

end Connection

end Console

end RegisterBridge
