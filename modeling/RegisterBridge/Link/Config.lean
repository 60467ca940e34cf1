import RegisterBridge.Frame.Basic
import RegisterBridge.Link.Error

/-!
# Link settings

A link is configured with the firmware version it announces and with the
largest chunk of a burst in each direction.  The chunk limits have to fit the
largest command and the largest answer.
-/

namespace RegisterBridge

/-- The firmware version a link announces unless told otherwise. -/
def defaultFirmwareVersion : UInt32 := 0x010a0006

/-- The settings of a link. -/
structure LinkConfig where
  firmwareVersion : UInt32 := defaultFirmwareVersion
  /-- Largest chunk of a write burst. -/
  atomicTx : Nat := defaultAtomicTx
  /-- Largest chunk of a read burst. -/
  atomicRx : Nat := defaultAtomicRx
deriving DecidableEq, Repr

namespace LinkConfig

/-- The chunk limits are positive and fit the frames. -/
structure Valid (config : LinkConfig) : Prop where
  tx_pos : 0 < config.atomicTx
  tx_le : config.atomicTx ≤ maxCommandPayload
  rx_pos : 0 < config.atomicRx
  rx_le : config.atomicRx ≤ maxAnswerPayload

/-- The first chunk limit that is out of range. -/
def fault? (config : LinkConfig) : Option ArgumentFault :=
  if config.atomicTx = 0 ∨ maxCommandPayload < config.atomicTx then
    some (.chunkLimit "atomic_tx" maxCommandPayload config.atomicTx)
  else if config.atomicRx = 0 ∨ maxAnswerPayload < config.atomicRx then
    some (.chunkLimit "atomic_rx" maxAnswerPayload config.atomicRx)
  else none

/-- Check the settings. -/
def validate (config : LinkConfig) : Except LinkError Unit :=
  match config.fault? with
  | some fault => .error (.invalidArgument fault)
  | none => .ok ()

theorem fault?_eq_none_iff {config : LinkConfig} : config.fault? = none ↔ config.Valid := by
  unfold fault?
  constructor
  · intro sound
    split at sound <;> try contradiction
    split at sound <;> try contradiction
    constructor <;> omega
  · rintro ⟨tx_pos, tx_le, rx_pos, rx_le⟩
    rw [if_neg (by omega), if_neg (by omega)]

theorem validate_eq_ok_iff {config : LinkConfig} : config.validate = .ok () ↔ config.Valid := by
  rw [← fault?_eq_none_iff, validate]
  cases config.fault? <;> simp

instance (config : LinkConfig) : Decidable config.Valid :=
  decidable_of_iff _ fault?_eq_none_iff

theorem default_valid : ({} : LinkConfig).Valid := by decide

/-- The settings as a record, for diagnostics. -/
def describe (config : LinkConfig) : String :=
  "LinkConfig \x7b firmware_version: " ++ toString config.firmwareVersion.toNat ++
    ", atomic_tx: " ++ toString config.atomicTx ++
    ", atomic_rx: " ++ toString config.atomicRx ++ " \x7d"

end LinkConfig

end RegisterBridge
