import RegisterBridge.Proofs.Text.Reading
import RegisterBridge.Text.Json

/-!
# Renderings of bytes in hexadecimal

A text renders bytes if it is their digits, in either case, perhaps behind a marker, and
with blanks anywhere.  Reading gives the bytes back from each of their renderings: the
digits fall into pairs for the bytes, and no digit is taken for a part of a marker, since
`x` is no digit.  Spellings are renderings told from the text that is written: it with
other letters, a marker in front, and blanks put in.
-/

namespace RegisterBridge.Text

/-! ## Renderings -/

/-- A text renders bytes: but for blanks it is their digits, in either case, perhaps
behind a marker. -/
def Renders (data : List UInt8) (text : String) : Prop :=
  ∃ marker digits, marker ∈ [[], ['0', 'x'], ['0', 'X']] ∧
    dropBlanks text.toList = marker ++ digits ∧ digits.map Char.toLower = data.flatMap hexByte

variable {data : List UInt8} {digits : List Char}

/-- The pairs for a byte are its two digits, each in either case. -/
theorem isPair_of_toLower {first second : Char} {byte : UInt8}
    (high : first.toLower = Nat.digitChar (byte.toNat / 16))
    (low : second.toLower = Nat.digitChar (byte.toNat % 16)) : IsPair first second byte := by
  have inByte := byte.toNat_lt
  refine ⟨byte.toNat / 16, byte.toNat % 16, ⟨?_, high⟩, ⟨?_, low⟩, ?_⟩ <;> omega

/-- The digits of bytes, in either case, fall into pairs for them. -/
theorem paired_of_toLower (lower : digits.map Char.toLower = data.flatMap hexByte) :
    Paired IsPair digits data := by
  induction data generalizing digits with
  | nil =>
      obtain rfl := List.map_eq_nil_iff.mp lower
      exact .nil
  | cons byte rest ih =>
      obtain ⟨first, _, rfl, high, lower⟩ := List.map_eq_cons_iff.mp lower
      obtain ⟨second, others, rfl, low, lower⟩ := List.map_eq_cons_iff.mp lower
      exact .cons (isPair_of_toLower high low) (ih lower)

/-- Digits do not look like a marker. -/
theorem dropHexMarker_of_paired (paired : Paired IsPair digits data) :
    dropHexMarker digits = digits := by
  unfold dropHexMarker
  split
  · have member : 'x' ∈ hexAlphabet := mem_hexAlphabet_of_paired paired (by simp)
    exact absurd member (by decide)
  · have member : 'X' ∈ hexAlphabet := mem_hexAlphabet_of_paired paired (by simp)
    exact absurd member (by decide)
  · rfl

/-- Every rendering of bytes is read as the bytes. -/
theorem parseHex_of_renders {text : String} (renders : Renders data text) :
    parseHex text = .ok data := by
  obtain ⟨marker, digits, marked, shown, lower⟩ := renders
  have paired := paired_of_toLower lower
  have body : hexBody text = digits := by
    rw [hexBody, shown]
    -- Without a marker the digits must not be taken for one.
    simp only [List.mem_cons, List.not_mem_nil, or_false] at marked
    rcases marked with rfl | rfl | rfl
    · exact dropHexMarker_of_paired paired
    · rfl
    · rfl
  exact (isHexFor_iff_paired.mpr (body ▸ paired)).parseHex_eq

/-! ## The rendering that is written -/

/-- The digits of a byte are lower case characters that are neither blank nor escaped in
JSON. -/
theorem plain_digitChar {value : Nat} (small : value < 16) :
    (Nat.digitChar value).toLower = Nat.digitChar value ∧
      isBlank (Nat.digitChar value) = false ∧
      jsonChar (Nat.digitChar value) = [Nat.digitChar value] := by
  have all : ∀ value < 16, (Nat.digitChar value).toLower = Nat.digitChar value ∧
      isBlank (Nat.digitChar value) = false ∧
      jsonChar (Nat.digitChar value) = [Nat.digitChar value] := by decide
  exact all value small

/-- The text that is written for bytes consists of the characters of digits. -/
theorem exists_digitChar_of_mem {c : Char} (member : c ∈ data.flatMap hexByte) :
    ∃ value < 16, c = Nat.digitChar value := by
  obtain ⟨byte, -, shown⟩ := List.mem_flatMap.mp member
  have inByte := byte.toNat_lt
  simp only [hexByte, List.mem_cons, List.not_mem_nil, or_false] at shown
  rcases shown with rfl | rfl
  · exact ⟨_, by omega, rfl⟩
  · exact ⟨_, by omega, rfl⟩

theorem plain_of_mem {c : Char} (member : c ∈ data.flatMap hexByte) :
    c.toLower = c ∧ isBlank c = false ∧ jsonChar c = [c] := by
  obtain ⟨value, small, rfl⟩ := exists_digitChar_of_mem member
  exact plain_digitChar small

/-- Text that is the written text of bytes but for blanks renders the bytes. -/
theorem renders_of_dropBlanks {text : String}
    (shown : dropBlanks text.toList = data.flatMap hexByte) : Renders data text := by
  refine ⟨[], data.flatMap hexByte, List.mem_cons_self, shown, ?_⟩
  exact (List.map_congr_left fun c member => (plain_of_mem member).1).trans (List.map_id _)

/-- What is written for bytes has no blanks. -/
theorem dropBlanks_flatMap_hexByte (data : List UInt8) :
    dropBlanks (data.flatMap hexByte) = data.flatMap hexByte := by
  rw [dropBlanks, List.filter_eq_self]
  intro c member
  simp [(plain_of_mem member).2.1]

theorem renders_hexString (data : List UInt8) : Renders data (hexString data) := by
  apply renders_of_dropBlanks
  rw [hexString, String.toList_ofList]
  exact dropBlanks_flatMap_hexByte data

/-- A text without characters that JSON escapes stands in it as it is. -/
theorem jsonText_of_plain {text : String} (plain : ∀ c ∈ text.toList, jsonChar c = [c]) :
    jsonText text = "\"" ++ text ++ "\"" := by
  have unescaped : text.toList.flatMap jsonChar = text.toList := calc
    text.toList.flatMap jsonChar = (text.toList.map jsonChar).flatten := List.flatMap_def
    _ = (text.toList.map fun c => [c]).flatten := congrArg _ (List.map_congr_left plain)
    _ = text.toList.flatMap fun c => [c] := List.flatMap_def.symm
    _ = text.toList := List.flatMap_singleton' _
  rw [jsonText, unescaped, List.cons_append]
  simp [← String.toList_inj]

/-- Digits are such a text. -/
theorem jsonText_hexString (data : List UInt8) :
    jsonText (hexString data) = "\"" ++ hexString data ++ "\"" := by
  apply jsonText_of_plain
  intro c member
  rw [hexString, String.toList_ofList] at member
  exact (plain_of_mem member).2.2

/-! ## Spellings -/

/-- A text with blanks put in, at any places. -/
inductive Spaced : List Char → List Char → Prop where
  | nil : Spaced [] []
  | keep (c : Char) {text wide : List Char} (rest : Spaced text wide) :
      Spaced (c :: text) (c :: wide)
  | blank {c : Char} {text wide : List Char} (blank : isBlank c = true)
      (rest : Spaced text wide) : Spaced text (c :: wide)

/-- A text with some letters changed to upper case. -/
def Recased (text recased : List Char) : Prop :=
  List.Forall₂ (fun old new => new = old ∨ new = old.toUpper) text recased

/-- A text spells bytes if it comes from the text that is written for them: with letters
changed to upper case, a marker in front, and blanks at any places, also between the
digits of a byte and in the marker. -/
def Spells (data : List UInt8) (text : String) : Prop :=
  ∃ marker digits, marker ∈ [[], ['0', 'x'], ['0', 'X']] ∧
    Recased (hexString data).toList digits ∧ Spaced (marker ++ digits) text.toList

/-- The blanks that were put in are dropped. -/
theorem Spaced.dropBlanks_eq {text wide : List Char} (spaced : Spaced text wide) :
    dropBlanks wide = dropBlanks text := by
  induction spaced with
  | nil => rfl
  | keep c rest ih =>
      rw [dropBlanks, dropBlanks, List.filter_cons, List.filter_cons]
      exact if_congr Iff.rfl (congrArg _ ih) ih
  | blank blank rest ih =>
      rw [dropBlanks, List.filter_cons_of_neg (by simp [blank])]
      exact ih

/-- In lower case the digits are what they were. -/
theorem Recased.map_toLower {text recased : List Char} (changed : Recased text recased)
    (digits : ∀ c ∈ text, ∃ value < 16, c = Nat.digitChar value) :
    recased.map Char.toLower = text := by
  have back : ∀ value < 16, (Nat.digitChar value).toLower = Nat.digitChar value ∧
      (Nat.digitChar value).toUpper.toLower = Nat.digitChar value := by decide
  induction changed with
  | nil => rfl
  | cons change rest ih =>
      obtain ⟨⟨value, small, rfl⟩, others⟩ := List.forall_mem_cons.mp digits
      rw [List.map_cons, ih others]
      rcases change with rfl | rfl
      · rw [(back value small).1]
      · rw [(back value small).2]

/-- No blank is a digit or stands in a marker. -/
theorem dropBlanks_of_paired {marker : List Char} (marked : marker ∈ [[], ['0', 'x'], ['0', 'X']])
    (paired : Paired IsPair digits data) : dropBlanks (marker ++ digits) = marker ++ digits := by
  rw [dropBlanks, List.filter_eq_self]
  have inMarker : ∀ marker ∈ [[], ['0', 'x'], ['0', 'X']], marker.all fun c => !isBlank c := by
    decide
  intro c member
  rcases List.mem_append.mp member with front | digit
  · exact List.all_eq_true.mp (inMarker marker marked) c front
  · exact not_isBlank_of_mem_hexAlphabet (mem_hexAlphabet_of_paired paired digit)

/-- A spelling is a rendering. -/
theorem renders_of_spells {text : String} (spells : Spells data text) : Renders data text := by
  obtain ⟨marker, digits, marked, recased, spaced⟩ := spells
  rw [hexString, String.toList_ofList] at recased
  have lower := recased.map_toLower fun c => exists_digitChar_of_mem
  refine ⟨marker, digits, marked, ?_, lower⟩
  rw [spaced.dropBlanks_eq, dropBlanks_of_paired marked (paired_of_toLower lower)]

/-- What is written for bytes is read as the bytes, in every spelling; so different bytes
are written differently. -/
theorem spellings_read_back (data : List UInt8) :
    (∀ text, Spells data text → parseHex text = .ok data) ∧
      parseHex (hexString data) = .ok data ∧ Function.Injective hexString := by
  have written (data : List UInt8) : parseHex (hexString data) = .ok data :=
    parseHex_of_renders (renders_hexString data)
  refine ⟨fun text spells => parseHex_of_renders (renders_of_spells spells), written data, ?_⟩
  intro first second same
  apply Except.ok.inj
  calc
    .ok first = parseHex (hexString first) := (written first).symm
    _ = parseHex (hexString second) := by rw [same]
    _ = .ok second := written second

/-- Blanks in the marker and between the digits of a byte, and both cases of letters. -/
theorem spellings_read_back_spread :
    Spells [0xde, 0xad] "\t0 X\u2003dE\u00a0aD\n" ∧
      parseHex "\t0 X\u2003dE\u00a0aD\n" = .ok [0xde, 0xad] := by
  have spells : Spells [0xde, 0xad] "\t0 X\u2003dE\u00a0aD\n" := by
    refine ⟨['0', 'X'], ['d', 'E', 'a', 'D'], by simp, ?_, ?_⟩
    · refine .cons (.inl rfl) (.cons (.inr rfl) (.cons (.inl rfl) (.cons (.inr rfl) .nil)))
    · refine .blank rfl (.keep '0' (.blank rfl (.keep 'X' (.blank rfl (.keep 'd' (.keep 'E'
        (.blank rfl (.keep 'a' (.keep 'D' (.blank rfl .nil))))))))))
  exact ⟨spells, (spellings_read_back [0xde, 0xad]).1 _ spells⟩

end RegisterBridge.Text
