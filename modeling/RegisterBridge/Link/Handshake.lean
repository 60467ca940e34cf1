import RegisterBridge.Link.Config
import RegisterBridge.Link.Exchange

/-!
# Version handshake

The host announces the firmware version it expects.  Only a zero in the first
byte of the answer refuses it; every other answer, an empty one too, accepts.
-/

namespace RegisterBridge

/-- The first byte of an answer that accepts the version. -/
def versionAccepted : UInt8 := 1

/-- The first byte of an answer that refuses the version. -/
def versionRefused : UInt8 := 0

/-- The query that announces a version. -/
def versionQuery (expected : UInt32) : Command :=
  ⟨.firmwareVersion, 0, bigEndian32 expected.toNat⟩

theorem fits_versionQuery (expected : UInt32) :
    (versionQuery expected).payload.length ≤ maxCommandPayload := by
  simp [versionQuery, bigEndian32, maxCommandPayload]

namespace LinkState

variable {σ : Type}

/-- The verdict in the payload of an answer to the query. -/
def judgeVersion (state : LinkState σ) (expected : UInt32) :
    List UInt8 → Outcome LinkError Unit × LinkState σ
  | [] => (.ok (), { state with wire := state.wire.report .emptyVersionAnswer })
  | verdict :: _ =>
      if verdict = versionRefused then (.error (.versionMismatch expected), state)
      else (.ok (), state)

/-- Ask the firmware whether it is compatible with a version. -/
def checkVersion [ByteStream σ] (state : LinkState σ) (expected : UInt32) :
    Outcome LinkError Unit × LinkState σ :=
  match state.execute (versionQuery expected) with
  | (.ok answer, state) => state.judgeVersion expected answer.payload
  | (.error error, state) => (.error error, state)
  | (.died, state) => (.died, state)

end LinkState

end RegisterBridge
