import RegisterBridge.Firmware.Bench
import RegisterBridge.Proofs.Console.Contact
import RegisterBridge.Proofs.Console.Forms
import RegisterBridge.Proofs.RegisterFile

/-!
# What was loaded can be dumped

A command on a device that departs in nothing is a handshake, one operation on a link
and the end of the link, so it does to the memory of the device what the operation does
to a register file.  The main statement follows a load and the commands after it: a dump
gives back the payload, and the hexadecimal text of the dump loads the same bytes.
-/

namespace RegisterBridge

/-! ## Cells that were overwritten -/

/-- The bytes that were put over some cells are what the cells hold. -/
theorem extract_overwrite {cells : Array UInt8} {offset : Nat} {bytes : List UInt8}
    (inside : offset + bytes.length ≤ cells.size) :
    (overwrite cells offset bytes).extract offset (offset + bytes.length) = bytes.toArray := by
  apply Array.ext_getElem?
  intro index
  rw [Array.getElem?_extract, getElem?_overwrite, size_overwrite]
  by_cases within : index < bytes.length
  · rw [if_pos (by omega), if_pos (by omega), Nat.add_sub_cancel_left, List.getElem?_toArray]
  · rw [if_neg (by omega), List.getElem?_toArray, List.getElem?_eq_none (Nat.le_of_not_lt within)]

/-- To put them there once more changes nothing. -/
theorem overwrite_overwrite (cells : Array UInt8) (offset : Nat) (bytes : List UInt8) :
    overwrite (overwrite cells offset bytes) offset bytes = overwrite cells offset bytes := by
  apply Array.ext_getElem?
  intro index
  rw [getElem?_overwrite, getElem?_overwrite, size_overwrite]
  split <;> rfl

/-! ## Devices behind ports -/

/-- A device that is reached behind a stream is reached on a line too. -/
def Firmware.Reach.line {σ : Type} [ByteStream σ] (reach : Reach σ) (path : String) :
    Reach (SerialLine σ) where
  stream firmware := ⟨path, reach.stream firmware⟩
  read_eq waiting := congrArg (SerialLine.around path) (reach.read_eq waiting)
  write_eq := congrArg (SerialLine.around path) reach.write_eq

/-- The device at a path departs in nothing, has nothing waiting and has some memory of
full size. -/
structure Ports.Serves (ports : Ports Terminal) (path : String) (memory : Array UInt8) : Prop where
  whole : memory.size = Firmware.memorySize
  device : ∃ firmware cursor, ports.device path = .ok ⟨firmware⟩ ∧ firmware.Holds memory cursor []

namespace Link

variable {σ : Type} [ByteStream σ] {firmware : Firmware} {memory : Array UInt8} {cursor : Nat}

/-- Connecting to a device that departs in nothing gives a link, and leaves its memory
as it was. -/
theorem connect_of_holds (reach : Firmware.Reach σ) (holds : firmware.Holds memory cursor [])
    {config : LinkConfig} (valid : config.Valid) (wire : Wire σ)
    (reached : wire.stream = reach.stream firmware) :
    ∃ link left, (connect wire config).1 = .ok link ∧
      link.wire.stream = reach.stream left ∧ left.Holds memory cursor [] := by
  obtain ⟨left, checked, left_holds⟩ := holds.runOn_checkVersion reach config.firmwareVersion
  have ran := ran_new valid wire
  rw [← reached, ← Dialogue.run_stream] at checked
  refine ⟨(new valid wire).checkVersion.2, left, ?_, ?_, left_holds⟩
  · have accepted : (new valid wire).checkVersion.1 = .ok () :=
      ran.outcome.trans (congrArg Prod.fst checked)
    rw [connect_of_valid valid, accepted]
    rfl
  · rw [ran.wire]
    exact congrArg Prod.snd checked

end Link

namespace Console

/-! ## Ways to a port -/

/-- A connection leads to a path: it names the path, or the path is the first of the
candidates that can be opened. -/
inductive Connection.LeadsTo (connection : Connection) (ports : Ports Terminal)
    (path : String) : Prop where
  | named (given : connection.port = some path)
  | found {before after : List String} (given : connection.port = none)
      (candidates : candidatePaths = before ++ path :: after)
      (missing : ∀ other ∈ before, ∃ error, ports.device other = .error error)

end Console

/-- A search passes over candidates that cannot be opened. -/
theorem Ports.searchFrom_of_missing {δ : Type} [ByteStream δ] {ports : Ports δ}
    {before : List String} (missing : ∀ other ∈ before, ∃ error, ports.device other = .error error)
    (settings : OpenSettings) (total : Nat) (rest : List String) (events : List Event) :
    searchFrom settings total (before ++ rest) ports events =
      searchFrom settings total rest ports events := by
  induction before with
  | nil => rfl
  | cons path before ih =>
      obtain ⟨error, unopened⟩ := missing path List.mem_cons_self
      rw [List.cons_append, searchFrom, openLine, unopened]
      exact ih fun other member => missing other (List.mem_cons_of_mem path member)

namespace Console

variable {ports : Ports Terminal} {path : String} {memory : Array UInt8} {connection : Connection}

/-- Then it opens the path. -/
theorem Connection.LeadsTo.openLink_eq (leads : connection.LeadsTo ports path)
    (decisive : (ports.openPath connection.settings path []).outcome.isDecisive = true) :
    connection.openLink ports = ports.openPath connection.settings path [] := by
  rw [openLink]
  cases leads with
  | named given => rw [given]
  | found given candidates missing =>
      have listed : connection.settings.candidates = _ := candidates
      rw [given]
      dsimp only
      rw [Ports.search, LinkConfig.validate_eq_ok_iff.mpr connection.valid_settings, listed]
      dsimp only
      rw [Ports.searchFrom_of_missing missing, Ports.searchFrom_cons, if_pos decisive]

/-- A connection that leads to a device that departs in nothing gives a link to it. -/
theorem Connection.LeadsTo.exists_link (leads : connection.LeadsTo ports path)
    (serves : ports.Serves path memory) :
    ∃ link left cursor, (connection.openLink ports).outcome = .ok link ∧
      link.wire.stream = (Firmware.Reach.terminal.line path).stream left ∧
      left.Holds memory cursor [] ∧
      ∀ other, other ≠ path → (connection.openLink ports).ports.device other = ports.device other := by
  obtain ⟨firmware, cursor, found, holds⟩ := serves.device
  obtain ⟨link, left, connected, reached, left_holds⟩ :=
    Link.connect_of_holds (Firmware.Reach.terminal.line path) holds connection.valid_settings
      (Ports.opened connection.settings.serial path ⟨firmware⟩ []) rfl
  have opened : (ports.openPath connection.settings path []).outcome =
      .ok (link.report (.linkEstablished path)) := by
    rw [Ports.openPath_of_ok found]
    exact congrArg (Outcome.map _) connected
  rw [leads.openLink_eq (by rw [opened]; rfl)]
  exact ⟨_, left, cursor, opened, reached, left_holds, fun other different =>
    Ports.device_openPath_of_ne different _ _⟩

/-! ## Commands -/

/-- An operation presents a reading of its link operation as a result. -/
inductive Operation.Presents : Operation → Reading → Result → Prop where
  | read {address value : UInt8} :
      Presents (.read address) (.register value) (.register address value)
  | write {address value : UInt8} :
      Presents (.write address value) .nothing (.register address value)
  | dump {address : UInt8} {size : Nat} {data : Array UInt8} :
      Presents (.dump address size) (.registers data) (.registers address data.toList)
  | load {address : UInt8} {payload : Array UInt8} :
      Presents (.load address payload) .nothing (.loaded address payload.size)

/-- An operation whose link operation succeeds gives the result that presents the
reading. -/
theorem Operation.perform_of_presents {δ : Type} [ByteStream δ] [Release δ]
    {operation : Operation} {linkOperation : LinkOperation} {reading : Reading} {result : Result}
    (same : operation.linkOperation? = some linkOperation)
    (presents : operation.Presents reading result) (baudRate : UInt32)
    {link : Link (SerialLine δ)} (succeeds : (link.perform linkOperation).1 = .ok reading) :
    operation.perform baudRate link = (.ok result, (link.perform linkOperation).2) := by
  cases presents with
  | read =>
      cases same
      obtain ⟨value, succeeds, ⟨⟩⟩ := Outcome.map_eq_ok_iff.mp succeeds
      exact Prod.ext (congrArg (Outcome.map _) succeeds) rfl
  | write =>
      cases same
      obtain ⟨_, succeeds, -⟩ := Outcome.map_eq_ok_iff.mp succeeds
      exact Prod.ext (congrArg (Outcome.map _) succeeds) rfl
  | dump =>
      cases same
      obtain ⟨data, succeeds, ⟨⟩⟩ := Outcome.map_eq_ok_iff.mp succeeds
      exact Prod.ext (congrArg (Outcome.map _) succeeds) rfl
  | load =>
      cases same
      obtain ⟨_, succeeds, -⟩ := Outcome.map_eq_ok_iff.mp succeeds
      exact Prod.ext (congrArg (Outcome.map _) succeeds) rfl

/-- A command that succeeded printed a result and left the device at a path with some
memory; the devices at other paths are as they were. -/
structure Report.Done (report : Report Terminal) (ports : Ports Terminal) (path : String)
    (memory : Array UInt8) (printed : List UInt8) : Prop where
  exits : report.exitCode? = some 0
  prints : report.printed = printed
  serves : report.ports.Serves path memory
  others : ∀ other, other ≠ path → report.ports.device other = ports.device other

/-- Closing a link to a terminal succeeds and leaves the device. -/
theorem conclude_terminal {α : Type} (ports : Ports Terminal) (path : String) (value : α)
    (link : Link (SerialLine Terminal)) :
    conclude ports path value link =
      (.ok value, ports.put path link.wire.stream.device,
        .linkClosed "usb-cdc-serial" :: link.wire.events) :=
  rfl

/-- A command on a device that departs in nothing does what its operation does to a
register file. -/
theorem Operation.done_run {operation : Operation} {linkOperation : LinkOperation}
    {reading : Reading} {result : Result} (leads : connection.LeadsTo ports path)
    (serves : ports.Serves path memory) (same : operation.linkOperation? = some linkOperation)
    (presents : operation.Presents reading result)
    (succeeds : (RegisterFile.perform memory linkOperation).1 = .ok reading) (format : Format) :
    (operation.run connection format ports).Done ports path
      (RegisterFile.perform memory linkOperation).2 (result.render format) := by
  obtain ⟨link, left, cursor, opened, reached, left_holds, others⟩ := leads.exists_link serves
  obtain ⟨ending, cursor', outcome_eq, ending_reached, ending_holds⟩ :=
    link.perform_of_holds _ reached left_holds serves.whole linkOperation
  have performed := operation.perform_of_presents same presents connection.baudRate
    (outcome_eq.trans succeeds)
  rw [run, withLink]
  rcases opening : connection.openLink ports with ⟨outcome, openedPorts, events, visits⟩
  rw [opening] at opened others
  cases opened
  dsimp only
  rw [performed]
  dsimp only
  rw [conclude_terminal, reached, ending_reached]
  refine ⟨rfl, rfl, ⟨(RegisterFile.size_perform ..).trans serves.whole, ending, cursor', ?_,
    ending_holds⟩, ?_⟩
  · exact openedPorts.device_put_self path _
  · intro other different
    exact (openedPorts.device_put_of_ne _ different).trans (others other different)

/-- The size of a payload that can be loaded. -/
theorem sizeFault_of_payload {payload : List UInt8} (nonempty : payload ≠ [])
    (fits : payload.length ≤ Burst.maxSize) : RegisterFile.sizeFault? payload.length = none :=
  RegisterFile.sizeFault_eq_none_iff.mpr ⟨List.length_pos_iff.mpr nonempty, fits⟩

section RoundTrip

variable {file : String → Except StreamError (List UInt8)} {source : PayloadSource}
  {payload : List UInt8} {host : Host Terminal}

/-- A load puts its payload over the cells from its address on. -/
theorem done_load (leads : connection.LeadsTo host.ports path)
    (serves : host.ports.Serves path memory) (gives : source.Gives host.file payload)
    (nonempty : payload ≠ []) (fits : payload.length ≤ Burst.maxSize) (address : UInt8)
    (format : Format) :
    ((Request.load address source).run connection format host).Done host.ports path
      (overwrite memory address.toNat payload)
      ((Result.loaded address payload.length).render format) := by
  have resolved := resolvePayload_eq_ok_iff.mpr ⟨gives, List.length_pos_iff.mpr nonempty, fits⟩
  have comes : (Request.load address source).operation? host.file =
      some (.load address payload.toArray) := by
    rw [Request.operation?, resolved]
  have performed : RegisterFile.perform memory (.writeBurst address payload.toArray) =
      (.ok .nothing, overwrite memory address.toNat payload) := by
    rw [RegisterFile.perform, List.size_toArray, sizeFault_of_payload nonempty fits]
  have done := Operation.done_run leads serves rfl .load (congrArg Prod.fst performed) format
  rw [performed] at done
  rw [Request.run_of_operation comes]
  exact done

/-- A dump prints the cells from its address on, and changes none. -/
theorem done_dump (leads : connection.LeadsTo ports path) (serves : ports.Serves path memory)
    {size : Nat} (fine : RegisterFile.sizeFault? size = none) (address : UInt8)
    (format : Format) :
    ((Operation.dump address size).run connection format ports).Done ports path memory
      ((Result.registers address
        (memory.extract address.toNat (address.toNat + size)).toList).render format) := by
  have performed : RegisterFile.perform memory (.readBurst address size) =
      (.ok (.registers (memory.extract address.toNat (address.toNat + size))), memory) := by
    rw [RegisterFile.perform, RegisterFile.readRange, fine]
  have done := Operation.done_run leads serves rfl .dump (congrArg Prod.fst performed) format
  rw [performed] at done
  exact done

/-- A source carries some bytes: as a text that renders them, or as a file. -/
inductive PayloadSource.Carries (file : String → Except StreamError (List UInt8))
    (payload : List UInt8) : PayloadSource → Prop where
  | hex {text : String} (renders : Text.Renders payload text) : Carries file payload (.hex text)
  | file {path : String} (read : file path = .ok payload) : Carries file payload (.file path)

/-- What a source carries it gives. -/
theorem PayloadSource.Carries.gives (carries : source.Carries file payload) :
    source.Gives file payload := by
  cases carries with
  | hex renders => exact .hex (Text.parseHex_of_renders renders)
  | file read => exact .file read

/-- **What was loaded can be dumped.**  Let a connection lead to a device that departs in
nothing, and let a source carry a payload of a size that a burst can have.  Then a load
succeeds, puts the payload over the cells from its address on and leaves all others as
they were.  As long as the device keeps that memory, a dump of as many cells succeeds and
shows the payload in every form, and loading the hexadecimal text of such a dump
succeeds and changes nothing. -/
theorem load_then_dump (leads : connection.LeadsTo host.ports path)
    (serves : host.ports.Serves path memory) (carries : source.Carries host.file payload)
    (nonempty : payload ≠ []) (fits : payload.length ≤ Burst.maxSize) (address : UInt8)
    (format : Format) :
    ∃ memory', (∀ cell, memory'[cell]? =
        if address.toNat ≤ cell ∧ cell < address.toNat + payload.length then
          payload[cell - address.toNat]?
        else memory[cell]?) ∧
      ((Request.load address source).run connection format host).Done host.ports path memory'
        ((Result.loaded address payload.length).render format) ∧
      ∀ (later : Host Terminal) (way : Connection), way.LeadsTo later.ports path →
        later.ports.Serves path memory' → ∀ form : Format,
          ((Request.dump address payload.length).run way form later).Done later.ports path memory'
            (form.shown address payload) ∧
          ((Request.load address (.hex (Text.hexString payload))).run way form later).Done
            later.ports path memory' ((Result.loaded address payload.length).render form) := by
  have inside := Firmware.burst_inside serves.whole address fits
  refine ⟨overwrite memory address.toNat payload, ?_,
    done_load leads serves carries.gives nonempty fits address format, ?_⟩
  · intro cell
    rw [getElem?_overwrite]
    by_cases within : address.toNat ≤ cell ∧ cell < address.toNat + payload.length
    · rw [if_pos (by omega), if_pos within]
    · rw [if_neg (by omega), if_neg within]
  · intro later way leads' serves' form
    have dumped := done_dump leads' serves' (sizeFault_of_payload nonempty fits) address form
    have again := done_load leads' serves'
      (PayloadSource.Carries.hex (Text.renders_hexString payload)).gives nonempty fits address form
    rw [extract_overwrite inside, render_eq_shown] at dumped
    rw [overwrite_overwrite] at again
    exact ⟨dumped, again⟩

/-- A bench with a device behind the second candidate, and nothing behind the first. -/
def loadBench : Bench :=
  .ofNodes [("/dev/ttyACM1", .terminal ⟨{}⟩)]

/-- A text with blanks in its marker and its digits, and with digits of both cases, is
loaded through a search and dumped through the port that was found. -/
theorem load_then_dump_bench :
    ∃ memory' : Array UInt8, memory'[16]? = some 0xde ∧ memory'[20]? = some 20 ∧
      ((Request.load 16 (.hex "0 xDe aD\tbe E\nF")).run {} .raw loadBench.host).Done
        loadBench.host.ports "/dev/ttyACM1" memory' [] ∧
      ∀ later : Host Terminal, later.ports.Serves "/dev/ttyACM1" memory' →
        ((Request.dump 16 4).run { port := some "/dev/ttyACM1" } .raw later).Done later.ports
          "/dev/ttyACM1" memory' [0xde, 0xad, 0xbe, 0xef] := by
  have renders : Text.Renders [0xde, 0xad, 0xbe, 0xef] "0 xDe aD\tbe E\nF" := by
    refine ⟨['0', 'x'], "DeaDbeEF".toList, ?_, ?_, ?_⟩ <;> decide +kernel
  have leads : ({} : Connection).LeadsTo loadBench.host.ports "/dev/ttyACM1" := by
    have candidates : candidatePaths =
        ["/dev/ttyACM0"] ++ "/dev/ttyACM1" :: candidatePaths.drop 2 := rfl
    refine .found rfl candidates ?_
    rintro other member
    obtain rfl := List.mem_singleton.mp member
    exact ⟨_, rfl⟩
  have serves : loadBench.host.ports.Serves "/dev/ttyACM1" Firmware.initialMemory :=
    ⟨Firmware.size_initialMemory, {}, 0, rfl, ⟨_, rfl⟩, rfl, rfl, rfl⟩
  obtain ⟨memory', cells, loaded, follows⟩ := load_then_dump leads serves (.hex renders)
    (by simp) (by decide) 16 .raw
  refine ⟨memory', (cells 16).trans rfl, (cells 20).trans ?_, loaded, fun later serves' =>
    (follows later _ (.named rfl) serves' .raw).1⟩
  have inside : 20 < Firmware.memorySize := by decide
  rw [Firmware.initialMemory, if_neg (by decide), Array.getElem?_map, Array.getElem?_range,
    if_pos inside]
  rfl

end RoundTrip

end Console

end RegisterBridge
