import RegisterBridge.Text.Hex

/-!
# Numerals

A number is written in decimal, or in hexadecimal behind `0x` or `0X`.  Blanks
around it are ignored and a plus sign may stand before the digits.  Every
reader has a widest value, and a text it refuses is quoted in the message.
-/

namespace RegisterBridge.Text

/-- The value of a digit in a radix of at most sixteen. -/
def digitValue? (radix : Nat) (c : Char) : Option Nat :=
  (hexValue? c).filter (· < radix)

/-- The value of a non-empty run of digits. -/
def digitsValue? (radix : Nat) : List Char → Option Nat
  | [] => none
  | digits => digits.foldlM (fun value c => (digitValue? radix c).map (radix * value + ·)) 0

/-- Drop one leading plus sign. -/
def dropPlus : List Char → List Char
  | '+' :: rest => rest
  | text => text

/-- A natural number below `bound`, with an optional plus sign. -/
def natural? (radix bound : Nat) (text : List Char) : Option Nat :=
  (digitsValue? radix (dropPlus text)).filter (· < bound)

/-- A decimal integer from `-2 ^ 63` to `2 ^ 63 - 1`, with an optional sign. -/
def integer64? (text : List Char) : Option Int :=
  match text with
  | '-' :: digits => ((digitsValue? 10 digits).filter (· ≤ Nat.pow 2 63)).map fun n => -(n : Int)
  | text => (natural? 10 (Nat.pow 2 63) text).map Int.ofNat

/-- Why a text is not the number asked for. -/
inductive NumeralFault where
  /-- The trimmed text is no numeral below `2 ^ 64`. -/
  | malformed (trimmed : String)
  /-- The value needs more bits than the reader has. -/
  | tooWide (text : String) (bits : Nat)
  /-- The value is no size of a burst. -/
  | burstSize (value limit : Nat)
deriving DecidableEq, Repr

/-- The wording of a fault. -/
def NumeralFault.message : NumeralFault → String
  | .malformed trimmed => "invalid number: " ++ quote trimmed
  | .tooWide text bits => s!"{text} does not fit in {bits} bits"
  | .burstSize value limit => s!"burst size must be in 1..={limit} (got {value})"

/-- The value of a trimmed numeral. -/
def numeralValue? (text : List Char) : Option Nat :=
  match text with
  | '0' :: 'x' :: digits => natural? 16 (Nat.pow 2 64) digits
  | '0' :: 'X' :: digits => natural? 16 (Nat.pow 2 64) digits
  | text => natural? 10 (Nat.pow 2 64) text

/-- Read a number below `2 ^ 64`. -/
def parseNumber (text : String) : Except NumeralFault Nat :=
  let trimmed := trim text.toList
  match numeralValue? trimmed with
  | some value => .ok value
  | none => .error (.malformed (String.ofList trimmed))

/-- Read a number that fits in `bits` bits. -/
def parseBits (bits : Nat) (text : String) : Except NumeralFault Nat :=
  match parseNumber text with
  | .ok value => if value < Nat.pow 2 bits then .ok value else .error (.tooWide text bits)
  | .error fault => .error fault

/-- Read a register address or value. -/
def parseByte (text : String) : Except NumeralFault UInt8 :=
  (parseBits 8 text).map UInt8.ofNat

/-- Read a firmware version. -/
def parseWord (text : String) : Except NumeralFault UInt32 :=
  (parseBits 32 text).map UInt32.ofNat

/-- Read a size from 1 to `limit`. -/
def parseSize (limit : Nat) (text : String) : Except NumeralFault Nat :=
  match parseNumber text with
  | .ok value =>
      if value = 0 ∨ limit < value then .error (.burstSize value limit) else .ok value
  | .error fault => .error fault

end RegisterBridge.Text
