/-!
# Blank characters

White space is the set of Unicode characters with the property White_Space.
Numbers are read after trimming it from both ends, and hexadecimal text after
dropping it everywhere.
-/

namespace RegisterBridge.Text

/-- The characters with the property White_Space. -/
def isBlank (c : Char) : Bool :=
  let n := c.toNat
  (0x09 ≤ n && n ≤ 0x0d) || n == 0x20 || n == 0x85 || n == 0xa0 || n == 0x1680 ||
    (0x2000 ≤ n && n ≤ 0x200a) || n == 0x2028 || n == 0x2029 || n == 0x202f ||
    n == 0x205f || n == 0x3000

/-- Drop the blanks in front. -/
def trimStart (text : List Char) : List Char :=
  text.dropWhile isBlank

/-- Drop the blanks at the end. -/
def trimEnd (text : List Char) : List Char :=
  (text.reverse.dropWhile isBlank).reverse

/-- Drop the blanks at both ends. -/
def trim (text : List Char) : List Char :=
  trimEnd (trimStart text)

/-- Drop every blank. -/
def dropBlanks (text : List Char) : List Char :=
  text.filter fun c => !isBlank c

theorem dropBlanks_append (first second : List Char) :
    dropBlanks (first ++ second) = dropBlanks first ++ dropBlanks second :=
  List.filter_append ..

end RegisterBridge.Text
