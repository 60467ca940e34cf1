import RegisterBridge.Text.Printable

/-!
# Quoted text

Messages show foreign text between double quotes.  A quote and a backslash are
written behind a backslash, four controls have letters of their own, and every
other character without a printable form is written as its code in braces.
-/

namespace RegisterBridge.Text

/-- A code in lowercase hexadecimal between braces. -/
def codeEscape (c : Char) : List Char :=
  ['\\', 'u', '\x7b'] ++ Nat.toDigits 16 c.toNat ++ ['\x7d']

/-- The quoted form of one character. -/
def quoteChar (c : Char) : List Char :=
  match c with
  | '"' => ['\\', '"']
  | '\\' => ['\\', '\\']
  | '\t' => ['\\', 't']
  | '\n' => ['\\', 'n']
  | '\r' => ['\\', 'r']
  | '\x00' => ['\\', '0']
  | c => if isPrintable c then [c] else codeEscape c

/-- Text between quotes, every character in its quoted form. -/
def quote (text : String) : String :=
  String.ofList ('"' :: text.toList.flatMap quoteChar ++ ['"'])

end RegisterBridge.Text
