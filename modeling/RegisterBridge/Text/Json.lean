/-!
# Records as JSON text

A record is written on one line as its fields in order, without blanks.
-/

namespace RegisterBridge.Text

/-- The value of a field. -/
inductive JsonField where
  | number (value : Nat)
  | text (value : String)

/-- A control without a letter of its own, as four hexadecimal digits. -/
def jsonCode (c : Char) : List Char :=
  let n := c.toNat
  ['\\', 'u', '0', '0', Nat.digitChar (n / 16), Nat.digitChar (n % 16)]

/-- One character of a JSON text. -/
def jsonChar (c : Char) : List Char :=
  match c with
  | '"' => ['\\', '"']
  | '\\' => ['\\', '\\']
  | '\x08' => ['\\', 'b']
  | '\x0c' => ['\\', 'f']
  | '\n' => ['\\', 'n']
  | '\r' => ['\\', 'r']
  | '\t' => ['\\', 't']
  | c => if c.toNat < 0x20 then jsonCode c else [c]

/-- A text between quotes. -/
def jsonText (text : String) : String :=
  String.ofList ('"' :: text.toList.flatMap jsonChar ++ ['"'])

/-- The written form of a field's value. -/
def JsonField.render : JsonField → String
  | .number value => toString value
  | .text value => jsonText value

/-- A record with its fields in order. -/
def jsonRecord (fields : List (String × JsonField)) : String :=
  "\x7b" ++
    String.intercalate "," (fields.map fun (name, value) =>
      jsonText name ++ ":" ++ value.render) ++
    "\x7d"

end RegisterBridge.Text
