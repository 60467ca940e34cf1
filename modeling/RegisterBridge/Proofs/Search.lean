import RegisterBridge.Port.Search
import RegisterBridge.Proofs.Handshake

/-!
# What a search finds

A search is a fold of opening single paths: it passes over the candidates whose
opening decides nothing, and it ends with the first one whose opening does.  The
main statement says so for every list of candidates and all devices, and that a
search asks each device it opens for its version and sends nothing else.
-/

namespace RegisterBridge

/-- The outcome ends a search: a link, a refused version, or the caller's death. -/
def Outcome.isDecisive {α : Type} : Outcome LinkError α → Bool
  | .error (.versionMismatch _) => true
  | .error _ => false
  | _ => true

@[simp]
theorem Outcome.isDecisive_map {α β : Type} (f : α → β) (outcome : Outcome LinkError α) :
    (outcome.map f).isDecisive = outcome.isDecisive := by
  cases outcome with
  | ok value => rfl
  | error cause => cases cause <;> rfl
  | died => rfl

/-- What was offered on a visit.  An offer counts once, however often its write was
interrupted. -/
def Visit.offers (visit : Visit) : List (List UInt8) :=
  visit.calls.reverse.filterMap Call.settled?

/-- What each write of a visit held. -/
def Visit.writes (visit : Visit) : List (List UInt8) :=
  visit.calls.reverse.filterMap Call.written?

/-- All that was sent on a visit is one version query, repeated if it was
interrupted. -/
structure Visit.Asks (visit : Visit) (version : UInt32) : Prop where
  offers_eq : visit.offers = [versionFrame version]
  writes_eq : ∃ repeats, visit.writes = List.replicate (repeats + 1) (versionFrame version)

namespace Link

variable {σ : Type} [ByteStream σ]

/-- The wire of a link that was opened is the wire it was opened over. -/
theorem wire_of_connect_ok {wire next : Wire σ} {config : LinkConfig} {link : Link σ}
    (connected : connect wire config = (.ok link, next)) : link.wire = next := by
  rw [connect] at connected
  split at connected
  · rw [Prod.mk.injEq, Outcome.map_eq_ok_iff] at connected
    obtain ⟨⟨_, -, rfl⟩, rfl⟩ := connected
    rfl
  · simp at connected

/-- Whether connecting decides a search depends on the stream alone. -/
theorem isDecisive_connect {config : LinkConfig} (valid : config.Valid) {wire other : Wire σ}
    (same : wire.stream = other.stream) :
    (connect wire config).1.isDecisive = (connect other config).1.isDecisive := by
  have verdict (wire : Wire σ) : (connect wire config).1.isDecisive =
      ((Dialogue.checkVersion config.firmwareVersion).runOn wire.stream).1.isDecisive := by
    rw [← Dialogue.run_stream, ← Outcome.isDecisive_map fun _ => (), outcome_connect valid]
    rfl
  rw [verdict, verdict, same]

end Link

/-! ## Opening one path -/

/-- The opening that ends with what connecting to the device at a path gives. -/
def Opening.ofConnected {δ : Type} (ports : Ports δ) (path : String)
    (connected : Outcome LinkError (Link (SerialLine δ)) × Wire (SerialLine δ)) :
    Opening δ where
  outcome := connected.1.map (·.report (.linkEstablished path))
  ports := ports.put path connected.2.stream.device
  events :=
    match connected.1 with
    | .ok _ => .linkEstablished path :: connected.2.events
    | _ => connected.2.events
  visits := [⟨path, connected.2.calls⟩]

namespace Ports

variable {δ : Type}

/-- The wire to a device right after it was opened. -/
def opened (serial : SerialSettings) (path : String) (device : δ) (events : List Event) :
    Wire (SerialLine δ) where
  stream := ⟨path, device⟩
  events := .deviceOpened path serial.baudRate :: events

variable [ByteStream δ] {ports : Ports δ} {path : String} {device : δ}

theorem openPath_of_ok (found : ports.device path = .ok device) (settings : OpenSettings)
    (events : List Event) :
    ports.openPath settings path events =
      .ofConnected ports path
        (Link.connect (opened settings.serial path device events) settings.link) := by
  have line_eq : ports.openLine settings.serial path events =
      .ok (opened settings.serial path device events) := by
    rw [openLine, found]
    rfl
  rw [openPath, line_eq]
  dsimp only
  rcases connected : Link.connect (opened settings.serial path device events) settings.link
    with ⟨link | error | _, next⟩
  · obtain rfl := Link.wire_of_connect_ok connected
    rfl
  · rfl
  · rfl

theorem openPath_of_error {error : StreamError} (missing : ports.device path = .error error)
    (settings : OpenSettings) (events : List Event) :
    ports.openPath settings path events =
      { outcome := .error (.transport (.openFailed path error)), ports, events } := by
  rw [openPath, openLine, missing]

/-- The one device that is opened, if it can be. -/
theorem visited_openPath (settings : OpenSettings) (events : List Event) :
    (ports.openPath settings path events).visits.map Visit.path =
      [path].filter fun path => (ports.device path).isOk := by
  cases found : ports.device path with
  | ok device => simp [openPath_of_ok found, Opening.ofConnected, found, Except.isOk, Except.toBool]
  | error error => simp [openPath_of_error found, found, Except.isOk, Except.toBool]

/-- A device that is opened is asked for its version. -/
theorem asks_openPath {settings : OpenSettings} (valid : settings.link.Valid)
    {events : List Event} :
    ∀ visit ∈ (ports.openPath settings path events).visits,
      visit.Asks settings.link.firmwareVersion := by
  cases found : ports.device path with
  | ok device =>
      rw [openPath_of_ok found]
      simp only [Opening.ofConnected, List.forall_mem_singleton]
      exact ⟨Link.offers_connect valid _, Link.writes_connect valid _⟩
  | error error => simp [openPath_of_error found]

/-- Opening one path leaves all others alone. -/
theorem device_openPath_of_ne {other : String} (different : other ≠ path)
    (settings : OpenSettings) (events : List Event) :
    (ports.openPath settings path events).ports.device other = ports.device other := by
  cases found : ports.device path with
  | ok device =>
      rw [openPath_of_ok found]
      exact device_put_of_ne ports _ different
  | error error => rw [openPath_of_error found]

/-- A device that can be opened can be opened again. -/
theorem isOk_openPath (settings : OpenSettings) (events : List Event) (other : String) :
    ((ports.openPath settings path events).ports.device other).isOk =
      (ports.device other).isOk := by
  by_cases same : other = path
  · subst same
    cases found : ports.device other with
    | ok device => simp [openPath_of_ok found, Opening.ofConnected, Except.isOk, Except.toBool]
    | error error => rw [openPath_of_error found, found]
  · rw [device_openPath_of_ne same]

/-- Whether opening a path decides a search depends on its device alone. -/
theorem isDecisive_openPath {other : Ports δ} {settings : OpenSettings}
    (valid : settings.link.Valid) (same : ports.device path = other.device path)
    (events journal : List Event) :
    (ports.openPath settings path events).outcome.isDecisive =
      (other.openPath settings path journal).outcome.isDecisive := by
  cases found : ports.device path with
  | ok device =>
      rw [openPath_of_ok found, openPath_of_ok (same.symm.trans found)]
      simp only [Opening.ofConnected, Outcome.isDecisive_map]
      exact Link.isDecisive_connect valid rfl
  | error error => rw [openPath_of_error found, openPath_of_error (same.symm.trans found)]

/-- What opening a path gives depends on its device and the journal alone. -/
theorem outcome_openPath {other : Ports δ} (same : ports.device path = other.device path)
    (settings : OpenSettings) (events : List Event) :
    (ports.openPath settings path events).outcome =
        (other.openPath settings path events).outcome ∧
      (ports.openPath settings path events).ports.device path =
        (other.openPath settings path events).ports.device path := by
  cases found : ports.device path with
  | ok device =>
      rw [openPath_of_ok found, openPath_of_ok (same.symm.trans found)]
      simp [Opening.ofConnected]
  | error error =>
      rw [openPath_of_error found, openPath_of_error (same.symm.trans found)]
      exact ⟨rfl, same⟩

end Ports

/-! ## What is asked -/

/-- What became of the devices of some ports when paths were tried one after the
other: those that could be opened were opened, each was asked for its version and
nothing else, and the devices of other paths are as they were. -/
structure Tried {δ : Type} (settings : OpenSettings) (ports : Ports δ) (tried : List String)
    (left : Ports δ) (visits : List Visit) : Prop where
  opened : visits.map Visit.path = tried.filter fun path => (ports.device path).isOk
  asked : ∀ visit ∈ visits, visit.Asks settings.link.firmwareVersion
  untouched : ∀ path, path ∉ tried → left.device path = ports.device path
  openable : ∀ path, (left.device path).isOk = (ports.device path).isOk

namespace Tried

variable {δ : Type} {settings : OpenSettings} {ports left : Ports δ} {tried : List String}
  {visits : List Visit}

theorem nil : Tried settings ports [] ports [] where
  opened := rfl
  asked := by simp
  untouched _ _ := rfl
  openable _ := rfl

/-- One more path. -/
theorem openPath [ByteStream δ] (valid : settings.link.Valid)
    (before : Tried settings ports tried left visits) (path : String) (events : List Event) :
    Tried settings ports (tried ++ [path]) (left.openPath settings path events).ports
      (visits ++ (left.openPath settings path events).visits) where
  opened := by
    have same : (fun path => (left.device path).isOk) = fun path => (ports.device path).isOk :=
      funext before.openable
    rw [List.map_append, List.filter_append, before.opened, Ports.visited_openPath, same]
  asked := by
    intro visit member
    rcases List.mem_append.mp member with earlier | last
    · exact before.asked visit earlier
    · exact Ports.asks_openPath valid visit last
  untouched other unseen := by
    rw [List.mem_append, List.mem_singleton, not_or] at unseen
    rw [Ports.device_openPath_of_ne unseen.2, before.untouched other unseen.1]
  openable other := by
    rw [Ports.isOk_openPath, before.openable]

end Tried

/-! ## Passing over candidates -/

/-- Where a search stands between two candidates. -/
structure Standing (δ : Type) where
  ports : Ports δ
  events : List Event
  visits : List Visit := []

/-- The events that a search goes on with after an opening: a device that was
opened without success is remarked on. -/
def Opening.remarked {δ : Type} (opening : Opening δ) (path : String) : List Event :=
  match opening.outcome, opening.visits with
  | .error error, _ :: _ => .unusableCandidate path error :: opening.events
  | _, _ => opening.events

/-- The same opening with visits before it. -/
def Opening.behind {δ : Type} (visits : List Visit) (opening : Opening δ) : Opening δ :=
  { opening with visits := visits ++ opening.visits }

/-- A search ends with the first candidate that is left, or passes over it. -/
theorem Ports.searchFrom_cons {δ : Type} [ByteStream δ] (settings : OpenSettings) (total : Nat)
    (path : String) (rest : List String) (ports : Ports δ) (events : List Event) :
    searchFrom settings total (path :: rest) ports events =
      if (ports.openPath settings path events).outcome.isDecisive then
        ports.openPath settings path events
      else
        (searchFrom settings total rest (ports.openPath settings path events).ports
          ((ports.openPath settings path events).remarked path)).behind
            (ports.openPath settings path events).visits := by
  rw [searchFrom, openPath, openLine]
  cases ports.device path with
  | error error => rfl
  | ok device =>
      -- The condition and its instance are reduced together; otherwise the connection
      -- could not be abstracted from both.
      simp only
      generalize Link.connect (_ : Wire (SerialLine δ)) settings.link = connected
      rcases connected with ⟨link | error | _, next⟩
      · rfl
      · cases error <;> rfl
      · rfl

namespace Standing

variable {δ : Type} [ByteStream δ] (settings : OpenSettings)

/-- The opening of the next candidate. -/
def opening (standing : Standing δ) (path : String) : Opening δ :=
  (standing.ports.openPath settings path standing.events).behind standing.visits

/-- Where a search stands after it has passed over a candidate. -/
def passOver (standing : Standing δ) (path : String) : Standing δ :=
  let opening := standing.ports.openPath settings path standing.events
  ⟨opening.ports, opening.remarked path, standing.visits ++ opening.visits⟩

/-- The search of the candidates that are left, out of `total`. -/
def search (total : Nat) (standing : Standing δ) (candidates : List String) : Opening δ :=
  (Ports.searchFrom settings total candidates standing.ports standing.events).behind
    standing.visits

/-- The end of a search that has found nothing. -/
def exhausted (total : Nat) (standing : Standing δ) : Opening δ :=
  ⟨.error (.noDeviceFound total), standing.ports, standing.events, standing.visits⟩

theorem search_nil (total : Nat) (standing : Standing δ) :
    standing.search settings total [] = standing.exhausted total := by
  simp [search, Ports.searchFrom, exhausted, Opening.behind]

/-- A search ends with the next candidate or passes over it. -/
theorem search_cons (total : Nat) (standing : Standing δ) (path : String)
    (rest : List String) :
    standing.search settings total (path :: rest) =
      if (standing.opening settings path).outcome.isDecisive then
        standing.opening settings path
      else (standing.passOver settings path).search settings total rest := by
  have outcome_eq : (standing.opening settings path).outcome =
      (standing.ports.openPath settings path standing.events).outcome := rfl
  rw [search, Ports.searchFrom_cons, outcome_eq]
  split
  · rfl
  · simp [search, passOver, Opening.behind]

/-- A search passes over candidates in turn, as the opening of each of them decides
nothing. -/
inductive PassesOver : Standing δ → List String → Standing δ → Prop where
  | nil (standing : Standing δ) : PassesOver standing [] standing
  | cons {standing ending : Standing δ} {path : String} {rest : List String} :
      (standing.opening settings path).outcome.isDecisive = false →
      PassesOver (standing.passOver settings path) rest ending →
      PassesOver standing (path :: rest) ending

/-- How a search concludes that has come to the candidates that are left: with the
first of them, whose opening decides it, or without any. -/
inductive Concludes (total : Nat) (standing : Standing δ) :
    List String → Opening δ → Prop where
  | exhausted : Concludes total standing [] (standing.exhausted total)
  | decided {path : String} {rest : List String} :
      (standing.opening settings path).outcome.isDecisive = true →
      Concludes total standing (path :: rest) (standing.opening settings path)

/-- A search passes over all candidates, or up to the first that decides it. -/
theorem exists_passesOver (total : Nat) (standing : Standing δ) (candidates : List String) :
    ∃ passed rest ending, candidates = passed ++ rest ∧
      PassesOver settings standing passed ending ∧
      ending.Concludes settings total rest (standing.search settings total candidates) := by
  induction candidates generalizing standing with
  | nil =>
      rw [search_nil]
      exact ⟨[], [], standing, rfl, .nil standing, .exhausted⟩
  | cons path rest ih =>
      rw [search_cons]
      cases decides : (standing.opening settings path).outcome.isDecisive with
      | true =>
          exact ⟨[], path :: rest, standing, rfl, .nil standing, .decided decides⟩
      | false =>
          obtain ⟨passed, left, ending, split_eq, passes, concludes⟩ :=
            ih (standing.passOver settings path)
          exact ⟨path :: passed, left, ending, congrArg (path :: ·) split_eq,
            .cons decides passes, concludes⟩

variable {settings} {standing ending : Standing δ} {passed : List String}

/-- What is asked of devices that are passed over. -/
theorem PassesOver.tried {ports : Ports δ} {before : List String}
    (valid : settings.link.Valid) (passes : PassesOver settings standing passed ending)
    (tried : Tried settings ports before standing.ports standing.visits) :
    Tried settings ports (before ++ passed) ending.ports ending.visits := by
  induction passes generalizing before with
  | nil standing => simpa using tried
  | @cons standing ending path rest decides passes ih =>
      have next := ih (tried.openPath valid path standing.events)
      rwa [List.append_assoc] at next

/-- Candidates that are passed over, and none of them twice, would have decided
nothing in the beginning. -/
theorem PassesOver.indecisive {ports : Ports δ} (valid : settings.link.Valid)
    (passes : PassesOver settings standing passed ending) (distinct : passed.Nodup)
    (same : ∀ path ∈ passed, standing.ports.device path = ports.device path)
    (events : List Event) :
    ∀ path ∈ passed, (ports.openPath settings path events).outcome.isDecisive = false := by
  induction passes with
  | nil standing => simp
  | @cons standing ending path rest decides passes ih =>
      obtain ⟨absent, distinct⟩ := List.nodup_cons.mp distinct
      rw [List.forall_mem_cons] at same ⊢
      constructor
      · rw [← decides]
        exact (Ports.isDecisive_openPath valid same.1 standing.events events).symm
      -- The first path does not occur again, so opening it leaves the rest alone.
      · apply ih distinct
        intro other member
        have different : other ≠ path := ne_of_mem_of_not_mem member absent
        exact (Ports.device_openPath_of_ne different settings standing.events).trans
          (same.2 other member)

end Standing

/-! ## Searches -/

namespace Ports

variable {δ : Type} [ByteStream δ]

/-- The first candidate in order whose opening, on the ports as they are in the
beginning, decides a search. -/
def firstDecisive? (ports : Ports δ) (settings : OpenSettings) (events : List Event) :
    Option String :=
  settings.candidates.find? fun path =>
    (ports.openPath settings path events).outcome.isDecisive

theorem search_of_valid (ports : Ports δ) {settings : OpenSettings}
    (valid : settings.link.Valid) (events : List Event) :
    ports.search settings events =
      Standing.search settings settings.candidates.length ⟨ports, events, []⟩
        settings.candidates := by
  rw [search, LinkConfig.validate_eq_ok_iff.mpr valid]
  rfl

/-- With settings that are not valid, an opened device is left alone. -/
theorem openPath_of_fault {ports : Ports δ} {settings : OpenSettings} {fault : ArgumentFault}
    (faulty : settings.link.fault? = some fault) (path : String) (events : List Event) :
    (∀ other, (ports.openPath settings path events).ports.device other = ports.device other) ∧
      ∀ visit ∈ (ports.openPath settings path events).visits, visit.calls = [] := by
  cases found : ports.device path with
  | ok device =>
      rw [openPath_of_ok found, Link.connect_of_fault faulty]
      refine ⟨fun other => ?_, by simp [Opening.ofConnected, opened]⟩
      by_cases same : other = path
      · subst same
        simp [Opening.ofConnected, opened, found]
      · exact device_put_of_ne ports _ same
  | error error => simp [openPath_of_error found]

/-- A search passes over candidates up to the first one that decides it. -/
theorem search_passesOver {settings : OpenSettings} (valid : settings.link.Valid)
    (ports : Ports δ) (events : List Event) :
    ∃ passed rest standing, settings.candidates = passed ++ rest ∧
      Standing.PassesOver settings ⟨ports, events, []⟩ passed standing ∧
      standing.Concludes settings settings.candidates.length rest
        (ports.search settings events) ∧
      Tried settings ports (passed ++ rest.take 1) (ports.search settings events).ports
        (ports.search settings events).visits := by
  obtain ⟨passed, rest, standing, split_eq, passes, concludes⟩ :=
    Standing.exists_passesOver settings settings.candidates.length ⟨ports, events, []⟩
      settings.candidates
  have tried : Tried settings ports passed standing.ports standing.visits :=
    passes.tried valid .nil
  rw [← search_of_valid ports valid] at concludes
  refine ⟨passed, rest, standing, split_eq, passes, concludes, ?_⟩
  generalize ports.search settings events = result at concludes ⊢
  cases concludes with
  | exhausted => simpa [Standing.exhausted] using tried
  | @decided path rest _ => exact tried.openPath valid path standing.events

/-- If no candidate occurs twice, the result of a search is that of the first one
whose opening decides it in the beginning, but for the events on record. -/
theorem search_eq_firstDecisive {settings : OpenSettings} (valid : settings.link.Valid)
    (distinct : settings.candidates.Nodup) (ports : Ports δ) (events : List Event) :
    match ports.firstDecisive? settings events with
    | some path => ∃ journal,
        (ports.search settings events).outcome =
            (ports.openPath settings path journal).outcome ∧
          (ports.search settings events).ports.device path =
            (ports.openPath settings path journal).ports.device path
    | none =>
        (ports.search settings events).outcome =
          .error (.noDeviceFound settings.candidates.length) := by
  obtain ⟨passed, rest, standing, split_eq, passes, concludes, -⟩ :=
    search_passesOver valid ports events
  rw [split_eq] at distinct
  obtain ⟨distinct, -, apart⟩ := List.nodup_append.mp distinct
  have indecisive := passes.indecisive valid distinct (fun _ _ => rfl) events
  have passed_eq : passed.find? (fun path =>
      (ports.openPath settings path events).outcome.isDecisive) = none := by
    simpa [List.find?_eq_none] using indecisive
  have first_eq : ports.firstDecisive? settings events = rest.find? fun path =>
      (ports.openPath settings path events).outcome.isDecisive := by
    rw [firstDecisive?, split_eq, List.find?_append, passed_eq, Option.none_or]
  generalize ports.search settings events = result at concludes ⊢
  cases concludes with
  | exhausted =>
      rw [first_eq, List.find?_nil]
      rfl
  | @decided path rest decides =>
      -- The deciding candidate has not been tried before: its device is the one that
      -- was there in the beginning.
      have absent : path ∉ passed :=
        fun member => apart path member path List.mem_cons_self rfl
      have same : standing.ports.device path = ports.device path :=
        (passes.tried valid .nil).untouched path absent
      have decisive : (ports.openPath settings path events).outcome.isDecisive = true := by
        rw [← decides]
        exact isDecisive_openPath valid same.symm events standing.events
      rw [List.find?_cons, decisive] at first_eq
      rw [first_eq]
      exact ⟨standing.events, outcome_openPath same settings standing.events⟩

/-- **A search is a fold of opening single paths.**  With valid settings it passes
over the candidates whose opening decides nothing, each on the ports as they are by
then, and ends as the opening of the first one that does, or without a device.  On
the way, every device that can be opened is opened and asked for its version alone,
and the devices of later candidates are left alone.  With settings that are not
valid nothing is opened, and opening a single path sends nothing. -/
theorem search_decides (ports : Ports δ) (settings : OpenSettings) (events : List Event) :
    (settings.link.Valid →
      (∃ passed rest standing, settings.candidates = passed ++ rest ∧
        Standing.PassesOver settings ⟨ports, events, []⟩ passed standing ∧
        standing.Concludes settings settings.candidates.length rest
          (ports.search settings events) ∧
        Tried settings ports (passed ++ rest.take 1) (ports.search settings events).ports
          (ports.search settings events).visits) ∧
      (settings.candidates.Nodup →
        match ports.firstDecisive? settings events with
        | some path => ∃ journal,
            (ports.search settings events).outcome =
                (ports.openPath settings path journal).outcome ∧
              (ports.search settings events).ports.device path =
                (ports.openPath settings path journal).ports.device path
        | none =>
            (ports.search settings events).outcome =
              .error (.noDeviceFound settings.candidates.length))) ∧
    (¬settings.link.Valid → ∃ fault, settings.link.fault? = some fault ∧
      ports.search settings events = ⟨.error (.invalidArgument fault), ports, events, []⟩ ∧
      ∀ path,
        (∀ other,
          (ports.openPath settings path events).ports.device other = ports.device other) ∧
        ∀ visit ∈ (ports.openPath settings path events).visits, visit.calls = []) := by
  constructor
  · intro valid
    exact ⟨search_passesOver valid ports events,
      fun distinct => search_eq_firstDecisive valid distinct ports events⟩
  · intro invalid
    rw [← LinkConfig.fault?_eq_none_iff] at invalid
    obtain ⟨fault, faulty⟩ := Option.ne_none_iff_exists'.mp invalid
    refine ⟨fault, faulty, ?_, fun path => openPath_of_fault faulty path events⟩
    rw [search, LinkConfig.validate, faulty]

/-- Ports with nothing at the first path, a silent device at the second and bridges at
all others. -/
def bench : Ports Scripted where
  device
    | "/dev/ttyACM0" => .error ⟨.notFound, "no such device"⟩
    | "/dev/ttyACM1" => .ok {}
    | _ => .ok { reads := [.chunk [108, 0, 1, 0], .chunk [1]] }

theorem search_decides_bench :
    (∃ journal, (bench.search {} []).outcome = (bench.openPath {} "/dev/ttyACM2" journal).outcome) ∧
    (∃ fault, bench.search { link := { atomicRx := 0 } } [] =
      ⟨.error (.invalidArgument fault), bench, [], []⟩) := by
  have first : bench.firstDecisive? {} [] = some "/dev/ttyACM2" := by decide +kernel
  have distinct : ({} : OpenSettings).candidates.Nodup := by decide +kernel
  have invalid : ¬({ atomicRx := 0 } : LinkConfig).Valid := by decide
  have found := ((search_decides bench {} []).1 LinkConfig.default_valid).2 distinct
  rw [first] at found
  obtain ⟨journal, outcome_eq, -⟩ := found
  obtain ⟨fault, -, refused, -⟩ :=
    (search_decides bench { link := { atomicRx := 0 } } []).2 invalid
  exact ⟨⟨journal, outcome_eq⟩, fault, refused⟩

end Ports

end RegisterBridge
