import RegisterBridge.Text.Blank
import RegisterBridge.Text.Quoted

/-!
# Hexadecimal text

Bytes are written as pairs of lowercase digits, in one run or as a dump with a
labelled line per sixteen bytes.  Reading drops every blank and one leading
`0x`, then takes the text two bytes of its UTF-8 form at a time.  A pair is two
digits of either case, or a plus sign and one digit.
-/

namespace RegisterBridge.Text

/-! ## Writing -/

/-- The two digits of a byte, high half first. -/
def hexByte (byte : UInt8) : List Char :=
  [Nat.digitChar (byte.toNat / 16), Nat.digitChar (byte.toNat % 16)]

/-- All bytes in one run of digits. -/
def hexString (data : List UInt8) : String :=
  String.ofList (data.flatMap hexByte)

/-- A number with its `0x` marker and at least `width` digits. -/
def hexNumber (width n : Nat) : String :=
  let digits := Nat.toDigits 16 n
  String.ofList (['0', 'x'] ++ List.replicate (width - digits.length) '0' ++ digits)

/-- Bytes on one line of a dump. -/
def dumpWidth : Nat := 16

/-- The bytes of a dump, cut into lines. -/
def dumpRows : List UInt8 → List (List UInt8)
  | [] => []
  | byte :: rest =>
      (byte :: rest).take dumpWidth :: dumpRows ((byte :: rest).drop dumpWidth)
termination_by data => data.length
decreasing_by
  simp only [dumpWidth, List.length_drop, List.length_cons]
  omega

/-- One line of a dump: the label and its bytes. -/
def dumpLine (label : Nat) (row : List UInt8) : String :=
  hexNumber 4 label ++ ": " ++
    String.intercalate " " (row.map fun byte => String.ofList (hexByte byte)) ++ "\n"

/-- A dump of registers from `address` on.  Labels count on past the last
register address. -/
def hexDump (address : UInt8) (data : List UInt8) : String :=
  String.join <| (dumpRows data).zipIdx.map fun (row, index) =>
    dumpLine (address.toNat + dumpWidth * index) row

/-! ## Reading -/

/-- The value of a hexadecimal digit of either case. -/
def hexValue? (c : Char) : Option Nat :=
  let n := c.toNat
  if 0x30 ≤ n ∧ n ≤ 0x39 then some (n - 0x30)
  else if 0x61 ≤ n ∧ n ≤ 0x66 then some (n - 0x61 + 10)
  else if 0x41 ≤ n ∧ n ≤ 0x46 then some (n - 0x41 + 10)
  else none

/-- The byte that two characters stand for.  A plus sign in front of a single
digit counts as a sign. -/
def pairValue? (first second : Char) : Option UInt8 :=
  if first = '+' then (hexValue? second).map UInt8.ofNat
  else
    match hexValue? first, hexValue? second with
    | some high, some low => some (UInt8.ofNat (16 * high + low))
    | _, _ => none

/-- Why a text holds no bytes. -/
inductive HexFault where
  /-- The digits, counted in UTF-8 bytes, do not pair up. -/
  | oddLength (size : Nat)
  /-- A pair is no byte; it is empty when a character straddles its edge. -/
  | badPair (pair : String)
deriving DecidableEq, Repr

/-- The wording of a fault. -/
def HexFault.message : HexFault → String
  | .oddLength size => s!"odd number of hex digits ({size})"
  | .badPair pair => "invalid hex byte " ++ quote pair

/-- Drop one leading `0x` or `0X`. -/
def dropHexMarker : List Char → List Char
  | '0' :: 'x' :: rest => rest
  | '0' :: 'X' :: rest => rest
  | text => text

/-- Read pair after pair; `done` holds the bytes read so far, last first. -/
def readPairs (done : List UInt8) : List Char → Except HexFault (List UInt8)
  | [] => .ok done.reverse
  | [c] => .error (.badPair (if c.utf8Size = 2 then String.ofList [c] else ""))
  | c :: d :: rest =>
      if c.utf8Size = 2 then .error (.badPair (String.ofList [c]))
      else if c.utf8Size = 1 ∧ d.utf8Size = 1 then
        match pairValue? c d with
        | some byte => readPairs (byte :: done) rest
        | none => .error (.badPair (String.ofList [c, d]))
      else .error (.badPair "")

/-- The size of a text in UTF-8. -/
def utf8Length (text : List Char) : Nat :=
  text.foldl (fun size c => size + c.utf8Size) 0

/-- Read a text as bytes. -/
def parseHex (text : String) : Except HexFault (List UInt8) :=
  let digits := dropHexMarker (dropBlanks text.toList)
  let size := utf8Length digits
  if size % 2 = 0 then readPairs [] digits else .error (.oddLength size)

end RegisterBridge.Text
