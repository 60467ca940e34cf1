import RegisterBridge.Proofs.Dialogue.Endings
import RegisterBridge.Proofs.Dialogue.Offers
import RegisterBridge.Stream.Scripted

/-!
# The verdict of a handshake

To connect is to make a link and to run the version handshake over it: one
exchange, judged by the first byte of its answer.  The main statement ties the
way connecting ends to the way the exchange ends, for every stream and all
settings.
-/

namespace RegisterBridge

/-! ## The frame of a version query -/

/-- The frame that announces a version: `l`, a length of 4, address 0, and the
version with its most significant byte first. -/
def versionFrame (version : UInt32) : List UInt8 :=
  [108, 0, 4, 0, (version >>> 24).toUInt8, (version >>> 16).toUInt8, (version >>> 8).toUInt8,
    version.toUInt8]

theorem bigEndian32_toNat (n : UInt32) :
    bigEndian32 n.toNat =
      [(n >>> 24).toUInt8, (n >>> 16).toUInt8, (n >>> 8).toUInt8, n.toUInt8] := by
  simp only [bigEndian32, bigEndian16, List.cons_append, List.nil_append, List.cons.injEq,
    ← UInt8.toNat_inj]
  simp [Nat.shiftRight_eq_div_pow]
  omega

theorem encode_versionQuery (version : UInt32) :
    (versionQuery version).encode = versionFrame version := by
  have tag_eq : Tag.firmwareVersion.byte = 108 := rfl
  have length_eq : bigEndian16 4 = [0, 4] := rfl
  simp [versionQuery, Command.encode, bigEndian32_toNat, tag_eq, length_eq, versionFrame]

/-! ## The verdict -/

/-- What an exchange of the version query comes to. -/
def versionVerdict (expected : UInt32) : Outcome LinkError Answer → Outcome LinkError Unit
  | .ok answer =>
      if answer.payload.head? = some versionRefused then .error (.versionMismatch expected)
      else .ok ()
  | .error error => .error error
  | .died => .died

theorem Dialogue.outcome_checkVersion {σ : Type} [ByteStream σ] (expected : UInt32)
    (wire : Wire σ) :
    ((checkVersion expected).run wire).1 =
      versionVerdict expected ((exchange (versionQuery expected)).run wire).1 := by
  rw [checkVersion, run_andThen]
  rcases (exchange (versionQuery expected)).run wire with
    ⟨⟨tag, address, _ | ⟨verdict, payload⟩⟩ | error | _, next⟩
  · rfl
  · simp only [judgeVersion, versionVerdict, List.head?_cons, Option.some.injEq]
    split <;> rfl
  · rfl
  · rfl

namespace Link

variable {σ : Type}

/-- How connecting ends, told by how the exchange of the version query ends.  A
zero in front of an answer refuses the version, every other answer accepts it,
and what goes wrong in the exchange is passed on. -/
structure Verdict (expected : UInt32) (exchanged : Outcome LinkError Answer)
    (connected : Outcome LinkError (Link σ)) : Prop where
  mismatch_iff : ∀ version, connected = .error (.versionMismatch version) ↔
    version = expected ∧ ∃ answer, exchanged = .ok answer ∧ answer.payload.head? = some 0
  ok_iff : (∃ link, connected = .ok link) ↔
    ∃ answer, exchanged = .ok answer ∧ answer.payload.head? ≠ some 0
  failure : ∀ error, exchanged = .error error →
    connected = .error error ∧ ∃ cause, error = .frame cause
  death : exchanged = .died → connected = .died

/-- An exchange fails with frame errors alone, so a failure is never taken for a
refusal. -/
theorem Verdict.of_versionVerdict {expected : UInt32} {exchanged : Outcome LinkError Answer}
    {connected : Outcome LinkError (Link σ)}
    (same : connected.map (fun _ => ()) = versionVerdict expected exchanged)
    (fails : exchanged.FailsOnly LinkError.FromStream) :
    Verdict expected exchanged connected := by
  cases exchanged with
  | ok answer =>
      by_cases refused : answer.payload.head? = some versionRefused
      · rw [versionVerdict, if_pos refused] at same
        obtain rfl := Outcome.map_eq_error_iff.mp same
        constructor <;> simp_all [versionRefused, eq_comm]
      · rw [versionVerdict, if_neg refused] at same
        obtain ⟨link, rfl, -⟩ := Outcome.map_eq_ok_iff.mp same
        constructor <;> simp_all [versionRefused]
  | error error =>
      -- A frame error is no version mismatch.
      obtain ⟨cause, rfl, -⟩ := fails error rfl
      obtain rfl := Outcome.map_eq_error_iff.mp same
      constructor <;> simp
  | died =>
      obtain rfl := Outcome.map_eq_died_iff.mp same
      constructor <;> simp

/-! ## Connecting -/

variable [ByteStream σ]

/-- Settings that are not valid are refused before the stream is used. -/
theorem connect_of_fault {config : LinkConfig} {fault : ArgumentFault}
    (faulty : config.fault? = some fault) (wire : Wire σ) :
    connect wire config = (.error (.invalidArgument fault), wire) := by
  rw [connect, ofWire_of_fault faulty]

/-- A link that was just made. -/
def new {config : LinkConfig} (valid : config.Valid) (wire : Wire σ) : Link σ :=
  ⟨config, valid, { wire }, false⟩

/-- With valid settings, connecting is the handshake of a new link. -/
theorem connect_of_valid {config : LinkConfig} (valid : config.Valid) (wire : Wire σ) :
    connect wire config =
      ((new valid wire).checkVersion.1.map fun _ => (new valid wire).checkVersion.2,
        (new valid wire).checkVersion.2.wire) := by
  rw [connect, ofWire_of_valid valid]
  rfl

theorem ran_new {config : LinkConfig} (valid : config.Valid) (wire : Wire σ) :
    (new valid wire).Ran wire (Dialogue.checkVersion config.firmwareVersion)
      (new valid wire).checkVersion :=
  (new valid wire).ran_locked fun state => state.checkVersion_eq_run config.firmwareVersion

theorem outcome_connect {config : LinkConfig} (valid : config.Valid) (wire : Wire σ) :
    (connect wire config).1.map (fun _ => ()) =
      ((Dialogue.checkVersion config.firmwareVersion).run wire).1 := by
  rw [connect_of_valid valid, ← (ran_new valid wire).outcome]
  cases (new valid wire).checkVersion.1 <;> rfl

theorem wire_connect {config : LinkConfig} (valid : config.Valid) (wire : Wire σ) :
    (connect wire config).2 =
      ((Dialogue.checkVersion config.firmwareVersion).run wire).2 := by
  rw [connect_of_valid valid, ← (ran_new valid wire).wire]

/-- The exchange by which connecting checks the version. -/
def versionExchange (wire : Wire σ) (config : LinkConfig) :
    Outcome LinkError Answer × LinkState σ :=
  LinkState.execute { wire } (versionQuery config.firmwareVersion)

theorem versionExchange_eq_run (wire : Wire σ) (config : LinkConfig) :
    (versionExchange wire config).map id LinkState.wire =
      (Dialogue.exchange (versionQuery config.firmwareVersion)).run wire :=
  LinkState.execute_eq_run { wire } (versionQuery config.firmwareVersion)

theorem transcript_connect {config : LinkConfig} (valid : config.Valid) (wire : Wire σ) :
    (connect wire config).2.transcript = (versionExchange wire config).2.wire.transcript := by
  have exchanged := congrArg Prod.snd (versionExchange_eq_run wire config)
  rw [wire_connect valid, Dialogue.transcript_checkVersion]
  exact congrArg Wire.transcript exchanged.symm

/-- Connecting offers the version query and nothing else. -/
theorem offers_connect {config : LinkConfig} (valid : config.Valid) (wire : Wire σ) :
    (connect wire config).2.offers = wire.offers ++ [versionFrame config.firmwareVersion] := by
  rw [wire_connect valid, Dialogue.offers_checkVersion, encode_versionQuery]

theorem writes_connect {config : LinkConfig} (valid : config.Valid) (wire : Wire σ) :
    ∃ repeats, (connect wire config).2.writes =
      wire.writes ++ List.replicate (repeats + 1) (versionFrame config.firmwareVersion) := by
  rw [wire_connect valid, Wire.writes, Dialogue.transcript_checkVersion, ← encode_versionQuery]
  exact Dialogue.writes_exchange (fits_versionQuery config.firmwareVersion) wire

theorem verdict_connect {config : LinkConfig} (valid : config.Valid) (wire : Wire σ) :
    Verdict config.firmwareVersion (versionExchange wire config).1 (connect wire config).1 := by
  have exchanged := congrArg Prod.fst (versionExchange_eq_run wire config)
  have outcome_eq : (versionExchange wire config).1 =
      ((Dialogue.exchange (versionQuery config.firmwareVersion)).run wire).1 := exchanged
  rw [outcome_eq]
  apply Verdict.of_versionVerdict
  · rw [outcome_connect valid, Dialogue.outcome_checkVersion]
  · exact (Dialogue.endsIn_exchange (fits_versionQuery config.firmwareVersion)).run wire

/-- **The verdict of a handshake.**  With settings that are not valid, connecting
fails for them and leaves the stream alone.  With valid ones it makes the calls of
one exchange, every write of which is the version query, and ends as the answer
says: only a zero in front of it refuses the version.  What goes wrong in the
exchange is never a refusal, and a refusal is nothing else. -/
theorem connect_verdict (wire : Wire σ) (config : LinkConfig) :
    (¬config.Valid → ∃ fault, config.fault? = some fault ∧
      connect wire config = (.error (.invalidArgument fault), wire)) ∧
    (config.Valid →
      (connect wire config).2.transcript = (versionExchange wire config).2.wire.transcript ∧
      (connect wire config).2.offers =
        wire.offers ++ [versionFrame config.firmwareVersion] ∧
      (∃ repeats, (connect wire config).2.writes =
        wire.writes ++ List.replicate (repeats + 1) (versionFrame config.firmwareVersion)) ∧
      Verdict config.firmwareVersion (versionExchange wire config).1 (connect wire config).1) := by
  constructor
  · intro invalid
    rw [← LinkConfig.fault?_eq_none_iff] at invalid
    obtain ⟨fault, faulty⟩ := Option.ne_none_iff_exists'.mp invalid
    exact ⟨fault, faulty, connect_of_fault faulty wire⟩
  · intro valid
    exact ⟨transcript_connect valid wire, offers_connect valid wire, writes_connect valid wire,
      verdict_connect valid wire⟩

/-- A firmware that refuses the version in an answer with another tag and address. -/
def refusing : Wire Scripted where
  stream := { reads := [.chunk [114, 0, 1, 7], .chunk [0]] }

theorem connect_verdict_refusing :
    (∃ fault, connect refusing { atomicTx := 0 } = (.error (.invalidArgument fault), refusing)) ∧
    (connect refusing {}).2.offers = [[108, 0, 4, 0, 1, 10, 0, 6]] ∧
    (connect refusing {}).1 = .error (.versionMismatch 0x010a0006) := by
  have invalid : ¬({ atomicTx := 0 } : LinkConfig).Valid := by decide
  obtain ⟨fault, -, refused⟩ := (connect_verdict refusing { atomicTx := 0 }).1 invalid
  obtain ⟨-, offers_eq, -, verdict⟩ := (connect_verdict refusing {}).2 LinkConfig.default_valid
  have answered : (versionExchange refusing {}).1 = .ok ⟨.readRegister, 7, [0]⟩ := by
    decide +kernel
  refine ⟨⟨fault, refused⟩, offers_eq, ?_⟩
  exact (verdict.mismatch_iff _).mpr ⟨rfl, _, answered, rfl⟩

end Link

end RegisterBridge
