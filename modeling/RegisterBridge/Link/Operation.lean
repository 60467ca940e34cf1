import RegisterBridge.Link.Basic

/-!
# Operations on a link

The operations of a link as data, so that one can speak of runs of any length,
and what they mean: on a register file, an operation reads or replaces exactly
the cells it names.
-/

namespace RegisterBridge

/-- An operation on an open link. -/
inductive LinkOperation where
  | checkVersion
  | readRegister (address : UInt8)
  | writeRegister (address value : UInt8)
  | readBurst (address : UInt8) (size : Nat)
  /-- Read into a destination with some contents. -/
  | readBurstInto (address : UInt8) (destination : Array UInt8)
  | writeBurst (address : UInt8) (data : Array UInt8)
deriving DecidableEq, Repr

/-- What an operation gives. -/
inductive Reading where
  | nothing
  | register (value : UInt8)
  | registers (data : Array UInt8)
deriving DecidableEq, Repr

namespace Link

variable {σ : Type} [ByteStream σ]

/-- Carry out an operation. -/
def perform (link : Link σ) (operation : LinkOperation) : Outcome LinkError Reading × Link σ :=
  match operation with
  | .checkVersion =>
    match link.checkVersion with
    | (outcome, link) => (outcome.map fun _ => .nothing, link)
  | .readRegister address =>
    match link.readRegister address with
    | (outcome, link) => (outcome.map .register, link)
  | .writeRegister address value =>
    match link.writeRegister address value with
    | (outcome, link) => (outcome.map fun _ => .nothing, link)
  | .readBurst address size =>
    match link.readBurst address size with
    | (outcome, link) => (outcome.map .registers, link)
  | .readBurstInto address destination =>
    match link.readBurstInto address destination with
    | (outcome, link) => (outcome.map .registers, link)
  | .writeBurst address data =>
    match link.writeBurst address data with
    | (outcome, link) => (outcome.map fun _ => .nothing, link)

/-- Carry out operations one after the other, whatever becomes of each. -/
def performAll (link : Link σ) :
    List LinkOperation → List (Outcome LinkError Reading) × Link σ
  | [] => ([], link)
  | operation :: rest =>
    match link.perform operation with
    | (outcome, link) =>
      match link.performAll rest with
      | (outcomes, link) => (outcome :: outcomes, link)

theorem performAll_cons (link : Link σ) (operation : LinkOperation)
    (rest : List LinkOperation) :
    link.performAll (operation :: rest) =
      ((link.perform operation).1 :: ((link.perform operation).2.performAll rest).1,
        ((link.perform operation).2.performAll rest).2) :=
  rfl

end Link

namespace RegisterFile

/-- The failure of a burst whose size no burst can have. -/
def sizeFault? (size : Nat) : Option LinkError :=
  if size = 0 then some (.invalidState .emptyChunk)
  else if Burst.maxSize < size then
    some (.invalidArgument (.burstTooLong size Burst.maxSize))
  else none

/-- The result of reading a range of cells. -/
def readRange (cells : Array UInt8) (address : UInt8) (size : Nat) :
    Outcome LinkError Reading :=
  match sizeFault? size with
  | some error => .error error
  | none => .ok (.registers (cells.extract address.toNat (address.toNat + size)))

/-- What an operation means on a register file. -/
def perform (cells : Array UInt8) : LinkOperation → Outcome LinkError Reading × Array UInt8
  | .checkVersion => (.ok .nothing, cells)
  | .readRegister address => (.ok (.register (cells.getD address.toNat 0)), cells)
  | .writeRegister address value =>
      (.ok .nothing, cells.setIfInBounds address.toNat value)
  | .readBurst address size => (readRange cells address size, cells)
  | .readBurstInto address destination => (readRange cells address destination.size, cells)
  | .writeBurst address data =>
    match sizeFault? data.size with
    | some error => (.error error, cells)
    | none => (.ok .nothing, overwrite cells address.toNat data.toList)

/-- What operations one after the other mean on a register file. -/
def performAll (cells : Array UInt8) :
    List LinkOperation → List (Outcome LinkError Reading) × Array UInt8
  | [] => ([], cells)
  | operation :: rest =>
    match perform cells operation with
    | (outcome, cells) =>
      match performAll cells rest with
      | (outcomes, cells) => (outcome :: outcomes, cells)

theorem performAll_cons (cells : Array UInt8) (operation : LinkOperation)
    (rest : List LinkOperation) :
    performAll cells (operation :: rest) =
      ((perform cells operation).1 :: (performAll (perform cells operation).2 rest).1,
        (performAll (perform cells operation).2 rest).2) :=
  rfl

/-- No operation changes the number of cells. -/
@[simp]
theorem size_perform (cells : Array UInt8) (operation : LinkOperation) :
    (perform cells operation).2.size = cells.size := by
  cases operation with
  | writeRegister address value => exact Array.size_setIfInBounds
  | writeBurst address data =>
      rw [perform]
      split
      · rfl
      · exact size_overwrite ..
  | _ => rfl

end RegisterFile

end RegisterBridge
