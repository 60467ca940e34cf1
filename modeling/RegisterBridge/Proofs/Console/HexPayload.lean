import RegisterBridge.Proofs.Console.Contact
import RegisterBridge.Proofs.Text.Reading

/-!
# Loads of hexadecimal text

A load either refuses its text, and then leaves every port alone, or writes the bytes
that are read off the text.  Without a plus sign in it such text is hexadecimal.  With
one, a pair of a sign and a digit is read as a byte too, so that some texts that are not
hexadecimal are written.
-/

namespace RegisterBridge.Console

variable {δ : Type} [ByteStream δ] [Release δ]

/-- A load of a text refuses it, or writes the bytes that are read off it. -/
theorem run_load_hex (text : String) (address : UInt8) (connection : Connection) (format : Format)
    (host : Host δ) :
    (∃ failure, failure.status = .usage ∧
      (Request.load address (.hex text)).run connection format host =
        ⟨.error failure, [], host.ports, []⟩) ∨
    ∃ data, Text.parseHex text = .ok data ∧
      (Request.load address (.hex text)).run connection format host =
        (Operation.load address data.toArray).run connection format host.ports := by
  rw [Request.run]
  cases read : Text.parseHex text with
  | error fault =>
      have refused : resolvePayload host.file (.hex text) =
          .error ⟨.usage, "--hex: " ++ fault.message⟩ := by
        rw [resolvePayload, read]
        rfl
      rw [refused]
      exact .inl ⟨_, rfl, rfl⟩
  | ok data =>
      rw [resolvePayload_of_gives (.hex read)]
      -- No bytes, and more than a burst takes, are refused before the port is opened.
      by_cases outside : data.length = 0 ∨ Burst.maxSize < data.length
      · rw [if_pos outside]
        exact .inl ⟨_, rfl, rfl⟩
      · rw [if_neg outside]
        exact .inr ⟨data, rfl, rfl⟩

/-- A text is read exactly if it falls into pairs of two digits or a sign and a digit, and
is refused otherwise.  The texts that are read are the hexadecimal ones, each as its
bytes, save those that are read with a sign.  Nothing but what is read is loaded. -/
theorem hex_payload_exact (text : String) (address : UInt8) (connection : Connection)
    (format : Format) (host : Host δ) :
    (∀ data, Text.parseHex text = .ok data ↔
      Text.Paired Text.IsReadPair (Text.hexBody text) data) ∧
    ((∀ data, ¬Text.Paired Text.IsReadPair (Text.hexBody text) data) →
      ∃ fault, Text.parseHex text = .error fault) ∧
    ((∀ data, Text.parseHex text = .ok data ↔ Text.IsHexFor text data) ↔
      ¬∃ data, Text.parseHex text = .ok data ∧ '+' ∈ Text.hexBody text) ∧
    ((∃ failure, failure.status = .usage ∧
        (Request.load address (.hex text)).run connection format host =
          ⟨.error failure, [], host.ports, []⟩) ∨
      ∃ data, Text.parseHex text = .ok data ∧
        (Request.load address (.hex text)).run connection format host =
          (Operation.load address data.toArray).run connection format host.ports) := by
  refine ⟨fun _ => Text.parseHex_eq_ok_iff, ?_, ?_,
    run_load_hex text address connection format host⟩
  · intro unpaired
    cases read : Text.parseHex text with
    | ok data => exact absurd (Text.parseHex_eq_ok_iff.mp read) (unpaired data)
    | error fault => exact ⟨fault, rfl⟩
  · constructor
    · rintro agrees ⟨data, read, signed⟩
      exact ((agrees data).mp read).plus_not_mem signed
    · intro unsigned data
      constructor
      · intro read
        exact Text.isHexFor_of_parseHex read fun signed => unsigned ⟨data, read, signed⟩
      · exact Text.IsHexFor.parseHex_eq

/-- A sign and a digit are loaded as a byte, and are not hexadecimal. -/
theorem hex_payload_signed :
    Text.parseHex "+f" = .ok [0x0f] ∧ (∀ data, ¬Text.IsHexFor "+f" data) ∧
      ∀ file, resolvePayload file (.hex "+f") = .ok [0x0f] := by
  have read : Text.parseHex "+f" = .ok [0x0f] := rfl
  refine ⟨read, fun data hex => hex.plus_not_mem (by decide), fun file => ?_⟩
  exact resolvePayload_of_gives (.hex read)

end RegisterBridge.Console
