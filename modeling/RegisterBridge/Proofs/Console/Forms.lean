import RegisterBridge.Console.Output
import RegisterBridge.Proofs.Text.Dump
import RegisterBridge.Proofs.Text.Hex

/-!
# The forms of the output

Every result is printed in one of three forms: its data alone, a record on one line, or
text for people.  Here the forms are written out, with the names of all fields, their
order and every mark between them; a byte is two digits behind its marker.  The main
statement is that exactly this is printed.
-/

namespace RegisterBridge

namespace Text

/-- A byte behind its marker is written with two digits. -/
theorem hexNumber_byte (byte : UInt8) :
    hexNumber 2 byte.toNat = "0x" ++ String.ofList (hexByte byte) := by
  have inByte := byte.toNat_lt
  apply String.toList_inj.mp
  rw [hexNumber, hexByte, String.toList_append, Nat.toDigits_eq_if (by decide)]
  simp only [String.toList_ofList]
  by_cases single : byte.toNat < 16
  · rw [if_pos single, Nat.div_eq_of_lt single, Nat.mod_eq_of_lt single]
    rfl
  · rw [if_neg single, Nat.toDigits_eq_if (by decide), if_pos (by omega)]
    rfl

/-- In JSON a number with its marker stands as it is. -/
theorem jsonText_hexNumber {width : Nat} (positive : 0 < width) (n : Nat) :
    jsonText (hexNumber width n) = "\"" ++ hexNumber width n ++ "\"" := by
  apply jsonText_of_plain
  intro c member
  have all : ∀ c ∈ 'x' :: hexAlphabet, jsonChar c == [c] := List.all_eq_true.mp (by decide)
  exact eq_of_beq (all c (mem_of_mem_hexNumber positive member))

end Text

namespace Console

/-- The bytes that are printed for some registers: the registers themselves, a record
that holds them in hexadecimal, or a dump of them. -/
def Format.shown (address : UInt8) (data : List UInt8) : Format → List UInt8
  | raw => data
  | json =>
      textBytes ("\x7b\"address\":" ++ toString address.toNat ++ ",\"size\":" ++
        toString data.length ++ ",\"data\":\"" ++ Text.hexString data ++ "\"\x7d\n")
  | pretty => textBytes (Text.hexDump address data)

/-- The bytes that are printed for a result. -/
def Result.shown : Result → Format → List UInt8
  | bridge port .., .raw => textBytes (port ++ "\n")
  | bridge port transport baudRate config, .json =>
      textBytes ("\x7b\"port\":" ++ Text.jsonText port ++ ",\"transport\":" ++
        Text.jsonText transport ++ ",\"baud_rate\":" ++ toString baudRate.toNat ++
        ",\"firmware_version\":\"" ++ Text.hexNumber 8 config.firmwareVersion.toNat ++
        "\",\"atomic_tx\":" ++ toString config.atomicTx ++ ",\"atomic_rx\":" ++
        toString config.atomicRx ++ "\x7d\n")
  | bridge port transport baudRate config, .pretty =>
      textBytes ("Bridge:\n  Port:             " ++ port ++ "\n  Transport:        " ++
        transport ++ " @ " ++ toString baudRate.toNat ++ " baud\n  Firmware version: " ++
        Text.hexNumber 8 config.firmwareVersion.toNat ++ " (accepted)\n  Chunk limits:     tx=" ++
        toString config.atomicTx ++ " rx=" ++ toString config.atomicRx ++ "\n")
  | register _ value, .raw => [value]
  | register address value, .json =>
      textBytes ("\x7b\"address\":" ++ toString address.toNat ++ ",\"value\":" ++
        toString value.toNat ++ "\x7d\n")
  | register address value, .pretty =>
      textBytes ("0x" ++ String.ofList (Text.hexByte address) ++ " = 0x" ++
        String.ofList (Text.hexByte value) ++ "\n")
  | registers address data, format => format.shown address data
  | loaded .., .raw => []
  | loaded address size, .json =>
      textBytes ("\x7b\"address\":" ++ toString address.toNat ++ ",\"size\":" ++
        toString size ++ "\x7d\n")
  | loaded address size, .pretty =>
      textBytes ("wrote " ++ toString size ++ " bytes at 0x" ++
        String.ofList (Text.hexByte address) ++ "\n")

/-- The names of fields stand in JSON as they are. -/
theorem jsonText_fieldName :
    ∀ name ∈ ["port", "transport", "baud_rate", "firmware_version", "atomic_tx", "atomic_rx",
      "address", "value", "size", "data"], Text.jsonText name = "\"" ++ name ++ "\"" := by
  decide +kernel

/-- What is printed for a result, in every form. -/
theorem render_eq_shown (result : Result) (format : Format) :
    result.render format = result.shown format := by
  -- The texts are compared character by character.
  cases format with
  | raw => cases result <;> rfl
  | json =>
      have named := jsonText_fieldName
      simp only [List.forall_mem_cons, List.not_mem_nil, false_imp_iff, implies_true,
        and_true] at named
      cases result <;>
        refine congrArg textBytes (String.toList_inj.mp ?_) <;>
        simp [Result.record, Text.jsonRecord, Text.JsonField.render, named,
          Text.jsonText_hexNumber, Text.jsonText_hexString]
  | pretty =>
      have filled (text : String) : toString text = text := rfl
      cases result <;>
        refine congrArg textBytes (String.toList_inj.mp ?_) <;>
        simp [Result.pretty, Text.hexNumber_byte, filled]

end Console

end RegisterBridge
