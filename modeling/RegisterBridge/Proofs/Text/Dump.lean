import Mathlib.Data.List.Forall2
import RegisterBridge.Proofs.Text.Hex
import RegisterBridge.Proofs.Text.Numeral

/-!
# Reading dumps

A dump is a line for every sixteen bytes, with a label that says where they are.  No
character of a label or of a row of bytes is taken for the end of either, so that a dump
falls apart again: without its labels it is a rendering of the bytes, and the label of the
first line is a numeral of the address.
-/

namespace RegisterBridge.Text

/-! ## Rows -/

theorem length_dumpRows (data : List UInt8) :
    (dumpRows data).length = (data.length + 15) / 16 := by
  induction data using dumpRows.induct with
  | case1 => rw [dumpRows]; rfl
  | case2 byte rest ih =>
      rw [dumpRows, List.length_cons, ih, List.length_drop, List.length_cons, dumpWidth]
      omega

/-- A row holds the bytes from its place on, sixteen at most. -/
theorem getElem_dumpRows {data : List UInt8} {index : Nat}
    (inside : index < (dumpRows data).length) :
    (dumpRows data)[index] = (data.drop (16 * index)).take 16 := by
  induction data using dumpRows.induct generalizing index with
  | case1 =>
      rw [dumpRows] at inside
      exact absurd inside (Nat.not_lt_zero index)
  | case2 byte rest ih =>
      simp only [dumpRows] at inside ⊢
      cases index with
      | zero => rfl
      | succ index =>
          rw [List.getElem_cons_succ, ih, List.drop_drop, dumpWidth, Nat.mul_succ, Nat.add_comm 16]

/-- Row after row stands what stands for byte after byte. -/
theorem flatMap_dumpRows (write : UInt8 → List Char) (data : List UInt8) :
    (dumpRows data).flatMap (·.flatMap write) = data.flatMap write := by
  induction data using dumpRows.induct with
  | case1 => rw [dumpRows]; rfl
  | case2 byte rest ih =>
      rw [dumpRows, List.flatMap_cons, ih, ← List.flatMap_append, List.take_append_drop]

/-! ## Words with separators -/

section Separators

variable {separator : Char} {words : List (List Char)}

theorem intercalate_cons (separator : Char) (word : List Char) (words : List (List Char)) :
    [separator].intercalate (word :: words) = word ++ words.flatMap (separator :: ·) := by
  induction words generalizing word with
  | nil => rw [List.intercalate_singleton, List.flatMap_nil, List.append_nil]
  | cons next words ih =>
      rw [List.intercalate_cons_cons, ih, List.flatMap_cons, List.append_assoc]
      rfl

/-- Between words stands nothing but separators. -/
theorem eq_or_mem_of_mem_intercalate {c : Char} (member : c ∈ [separator].intercalate words) :
    c = separator ∨ ∃ word ∈ words, c ∈ word := by
  cases words with
  | nil => cases member
  | cons word words =>
      rw [intercalate_cons, List.mem_append, List.mem_flatMap] at member
      rcases member with first | ⟨other, inside, here⟩
      · exact .inr ⟨word, List.mem_cons_self, first⟩
      · rcases List.mem_cons.mp here with rfl | here
        · exact .inl rfl
        · exact .inr ⟨other, List.mem_cons_of_mem word inside, here⟩

/-- Without blanks the words follow one another. -/
theorem dropBlanks_intercalate (blank : isBlank separator = true) (words : List (List Char)) :
    dropBlanks ([separator].intercalate words) = words.flatMap dropBlanks := by
  cases words with
  | nil => rfl
  | cons word words =>
      have dropped (word : List Char) : dropBlanks (separator :: word) = dropBlanks word :=
        List.filter_cons_of_neg (by simp [blank])
      rw [intercalate_cons, dropBlanks_append, List.flatMap_cons]
      congr 1
      rw [dropBlanks, List.filter_flatMap]
      exact congrArg (words.flatMap ·) (funext dropped)

end Separators

/-- Ended lines are told apart if no line holds what ends it. -/
theorem splitOn_lines {lines : List (List Char)} (clean : ∀ line ∈ lines, '\n' ∉ line) :
    (lines.flatMap (· ++ ['\n'])).splitOn '\n' = lines ++ [[]] := by
  induction lines with
  | nil => rfl
  | cons line lines ih =>
      obtain ⟨first, others⟩ := List.forall_mem_cons.mp clean
      rw [List.flatMap_cons, List.append_assoc, List.singleton_append,
        List.splitOn_append_cons_self_of_not_mem first, ih others]
      rfl

/-! ## Lines -/

/-- A line of a dump: a marker and a label of at least four digits, a colon, and the bytes
as two digits each, with single spaces between them and in front. -/
def IsDumpLine (place : Nat) (row : List UInt8) (line : List Char) : Prop :=
  ∃ label words, IsWritten 4 label place ∧
    List.Forall₂ (fun word byte => word.length = 2 ∧ IsWritten 2 word byte.toNat) words row ∧
    line = ['0', 'x'] ++ label ++ [':', ' '] ++ [' '].intercalate words

/-- A line of a dump, without what ends it. -/
def lineText (place : Nat) (row : List UInt8) : List Char :=
  (hexNumber 4 place).toList ++ ':' :: ' ' :: [' '].intercalate (row.map hexByte)

/-- The lines of a dump. -/
def dumpTexts (address : UInt8) (data : List UInt8) : List (List Char) :=
  (dumpRows data).zipIdx.map fun (row, index) => lineText (address.toNat + dumpWidth * index) row

theorem toList_dumpLine (place : Nat) (row : List UInt8) :
    (dumpLine place row).toList = lineText place row ++ ['\n'] := by
  simp [dumpLine, lineText, String.toList_intercalate, Function.comp_def]

theorem toList_hexDump (address : UInt8) (data : List UInt8) :
    (hexDump address data).toList = (dumpTexts address data).flatMap (· ++ ['\n']) := by
  rw [hexDump, String.toList_join, List.flatMap_map, dumpTexts, List.flatMap_map]
  simp only [toList_dumpLine]

/-- A number with its marker is written as its numeral. -/
theorem exists_isWritten_hexNumber {width : Nat} (positive : 0 < width) (n : Nat) :
    ∃ digits, (hexNumber width n).toList = ['0', 'x'] ++ digits ∧ IsWritten width digits n := by
  refine ⟨_, ?_, isWritten_padded positive n⟩
  rw [hexNumber, String.toList_ofList, List.append_assoc]

theorem isDumpLine_lineText (place : Nat) (row : List UInt8) :
    IsDumpLine place row (lineText place row) := by
  obtain ⟨label, shown, written⟩ := exists_isWritten_hexNumber (show 0 < 4 by decide) place
  refine ⟨label, row.map hexByte, written, ?_, ?_⟩
  · rw [List.forall₂_map_left_iff, List.forall₂_same]
    exact fun byte _ => ⟨rfl, isWritten_hexByte byte⟩
  · rw [lineText, shown, List.append_assoc (['0', 'x'] ++ label)]
    rfl

/-- A label is a marker and digits. -/
theorem mem_of_mem_hexNumber {width n : Nat} (positive : 0 < width) {c : Char}
    (member : c ∈ (hexNumber width n).toList) : c ∈ 'x' :: hexAlphabet := by
  obtain ⟨digits, shown, written⟩ := exists_isWritten_hexNumber positive n
  rw [shown] at member
  rcases List.mem_append.mp member with marker | digit
  · have all : ['0', 'x'] ⊆ 'x' :: hexAlphabet := by simp [hexAlphabet]
    exact all marker
  · exact List.mem_cons_of_mem _ (exists_isDigit_iff.mp (written.denotes.isDigit_of_mem digit))

/-- No line is ended early. -/
theorem newline_not_mem_lineText (place : Nat) (row : List UInt8) : '\n' ∉ lineText place row := by
  intro member
  rcases List.mem_append.mp member with label | bytes
  · exact absurd (mem_of_mem_hexNumber (by decide) label) (by decide)
  · simp only [List.mem_cons, Char.reduceEq, false_or] at bytes
    rcases eq_or_mem_of_mem_intercalate bytes with space | ⟨word, inside, here⟩
    · cases space
    · obtain ⟨byte, -, rfl⟩ := List.mem_map.mp inside
      have digit := exists_isDigit_iff.mp ((isWritten_hexByte byte).denotes.isDigit_of_mem here)
      exact absurd digit (by decide)

theorem newline_not_mem_of_mem_dumpTexts {address : UInt8} {data : List UInt8} {line : List Char}
    (member : line ∈ dumpTexts address data) : '\n' ∉ line := by
  obtain ⟨_, -, rfl⟩ := List.mem_map.mp member
  exact newline_not_mem_lineText _ _

/-! ## Taking a dump apart -/

/-- What stands in front of the first colon. -/
def labelOf (line : List Char) : List Char :=
  line.takeWhile (· ≠ ':')

/-- What stands behind the first colon. -/
def dropLabel (line : List Char) : List Char :=
  (line.dropWhile (· ≠ ':')).drop 1

/-- A text without the labels of its lines. -/
def unlabelled (text : String) : String :=
  String.ofList (['\n'].intercalate ((text.toList.splitOn '\n').map dropLabel))

/-- The label of the first line of a text. -/
def firstLabel (text : String) : String :=
  String.ofList (labelOf text.toList)

theorem ne_colon_of_mem_hexNumber {width n : Nat} (positive : 0 < width) {c : Char}
    (member : c ∈ (hexNumber width n).toList) : decide (c ≠ ':') = true := by
  rw [decide_eq_true_eq]
  rintro rfl
  exact absurd (mem_of_mem_hexNumber positive member) (by decide)

theorem labelOf_append {width n : Nat} (positive : 0 < width) (rest : List Char) :
    labelOf ((hexNumber width n).toList ++ ':' :: rest) = (hexNumber width n).toList := by
  rw [labelOf, List.takeWhile_append_of_pos fun c => ne_colon_of_mem_hexNumber positive,
    List.takeWhile_cons_of_neg (by decide), List.append_nil]

theorem dropLabel_lineText (place : Nat) (row : List UInt8) :
    dropLabel (lineText place row) = ' ' :: [' '].intercalate (row.map hexByte) := by
  rw [dropLabel, lineText,
    List.dropWhile_append_of_pos fun c => ne_colon_of_mem_hexNumber (show 0 < 4 by decide),
    List.dropWhile_cons_of_neg (by decide)]
  rfl

/-- Behind its label a line shows its bytes. -/
theorem dropBlanks_dropLabel (place : Nat) (row : List UInt8) :
    dropBlanks (dropLabel (lineText place row)) = row.flatMap hexByte := by
  have words : (row.map hexByte).flatMap dropBlanks = dropBlanks (row.flatMap hexByte) := by
    rw [List.flatMap_map, dropBlanks, List.filter_flatMap]
    rfl
  calc
    dropBlanks (dropLabel (lineText place row))
      = dropBlanks ([' '].intercalate (row.map hexByte)) := by rw [dropLabel_lineText]; rfl
    _ = (row.map hexByte).flatMap dropBlanks := dropBlanks_intercalate rfl _
    _ = row.flatMap hexByte := by rw [words, dropBlanks_flatMap_hexByte]

/-- Without labels and blanks a dump is what is written for the bytes. -/
theorem dropBlanks_unlabelled (address : UInt8) (data : List UInt8) :
    dropBlanks (unlabelled (hexDump address data)).toList = data.flatMap hexByte := by
  rw [unlabelled, String.toList_ofList, toList_hexDump,
    splitOn_lines fun line => newline_not_mem_of_mem_dumpTexts, dropBlanks_intercalate rfl]
  calc
    ((dumpTexts address data ++ [[]]).map dropLabel).flatMap dropBlanks
      = (dumpTexts address data).flatMap fun line => dropBlanks (dropLabel line) := by
        -- Behind the last line there is an empty piece, which adds nothing.
        rw [List.map_append, List.flatMap_append, List.flatMap_map]
        exact List.append_nil _
    _ = (dumpRows data).zipIdx.flatMap fun line => line.1.flatMap hexByte := by
        rw [dumpTexts, List.flatMap_map]
        simp only [dropBlanks_dropLabel]
    _ = ((dumpRows data).zipIdx.map Prod.fst).flatMap (·.flatMap hexByte) :=
        (List.flatMap_map ..).symm
    _ = data.flatMap hexByte := by rw [List.zipIdx_map_fst, flatMap_dumpRows]

theorem parseHex_unlabelled (address : UInt8) (data : List UInt8) :
    parseHex (unlabelled (hexDump address data)) = .ok data :=
  parseHex_of_renders (renders_of_dropBlanks (dropBlanks_unlabelled address data))

/-- The first line of a dump is labelled with the address. -/
theorem firstLabel_hexDump (address : UInt8) {data : List UInt8} (nonempty : data ≠ []) :
    firstLabel (hexDump address data) = hexNumber 4 address.toNat := by
  obtain ⟨byte, rest, rfl⟩ := List.exists_cons_of_ne_nil nonempty
  rw [firstLabel, toList_hexDump, dumpTexts, dumpRows, List.zipIdx_cons, List.map_cons,
    List.flatMap_cons]
  simp only [lineText, List.append_assoc, List.cons_append, Nat.mul_zero, Nat.add_zero]
  rw [labelOf_append (by decide), String.ofList_toList]

/-- No end of a text without blanks is trimmed. -/
theorem trim_eq_self {text : List Char} (plain : ∀ c ∈ text, !isBlank c) : trim text = text := by
  have kept (text : List Char) (plain : ∀ c ∈ text, !isBlank c) :
      text.dropWhile isBlank = text := by
    cases text with
    | nil => rfl
    | cons c rest =>
        exact List.dropWhile_cons_of_neg (by simpa using plain c List.mem_cons_self)
  rw [trim, trimStart, trimEnd, kept text plain, kept text.reverse, List.reverse_reverse]
  intro c member
  exact plain c (List.mem_reverse.mp member)

/-- A number is read back from its numeral. -/
theorem parseNumber_hexNumber {width n : Nat} (positive : 0 < width) (small : n < UInt64.size) :
    parseNumber (hexNumber width n) = .ok n := by
  have plain : ∀ c ∈ (hexNumber width n).toList, !isBlank c := by
    intro c member
    rcases List.mem_cons.mp (mem_of_mem_hexNumber positive member) with rfl | digit
    · rfl
    · exact not_isBlank_of_mem_hexAlphabet digit
  obtain ⟨digits, shown, written⟩ := exists_isWritten_hexNumber positive n
  rw [parseNumber_eq_ok_iff, trim_eq_self plain, shown]
  exact numeralValue_eq_some_iff.mpr ⟨small, .inl (.hex (.inl rfl) written.denotes)⟩

theorem parseByte_firstLabel (address : UInt8) {data : List UInt8} (nonempty : data ≠ []) :
    parseByte (firstLabel (hexDump address data)) = .ok address := by
  rw [parseByte_eq_ok_iff, firstLabel_hexDump address nonempty]
  exact parseNumber_hexNumber (by decide) (Nat.lt_trans address.toNat_lt (by decide))

/-- Line by line the lines of a dump are as they should be. -/
theorem isDumpLine_getElem_dumpTexts {address : UInt8} {data : List UInt8} {index : Nat}
    (inside : index < (dumpTexts address data).length) :
    IsDumpLine (address.toNat + 16 * index) ((data.drop (16 * index)).take 16)
      (dumpTexts address data)[index] := by
  have row : index < (dumpRows data).length := by
    rwa [dumpTexts, List.length_map, List.length_zipIdx] at inside
  simp only [dumpTexts, List.getElem_map, List.getElem_zipIdx, getElem_dumpRows row, Nat.zero_add]
  exact isDumpLine_lineText _ _

/-- A dump has a line for every sixteen bytes, the last line perhaps with fewer, and every
line shows its place and its bytes.  Without the labels it is read as the bytes, and the
first label as the address, so that what is not the same is not dumped the same. -/
theorem hexDump_lossless (address : UInt8) (data : List UInt8) :
    (∃ lines : List (List Char),
      (hexDump address data).toList = lines.flatMap (· ++ ['\n']) ∧
      lines.length = (data.length + 15) / 16 ∧ (∀ line ∈ lines, '\n' ∉ line) ∧
      ∀ index, ∀ inside : index < lines.length,
        IsDumpLine (address.toNat + 16 * index) ((data.drop (16 * index)).take 16)
          lines[index]) ∧
    parseHex (unlabelled (hexDump address data)) = .ok data ∧
    (data ≠ [] → parseByte (firstLabel (hexDump address data)) = .ok address) ∧
    ∀ otherAddress otherData, data ≠ [] →
      hexDump otherAddress otherData = hexDump address data →
        otherAddress = address ∧ otherData = data := by
  refine ⟨⟨dumpTexts address data, toList_hexDump address data, ?_,
      fun _ => newline_not_mem_of_mem_dumpTexts, fun _ => isDumpLine_getElem_dumpTexts⟩,
    parseHex_unlabelled address data, parseByte_firstLabel address, ?_⟩
  · rw [dumpTexts, List.length_map, List.length_zipIdx, length_dumpRows]
  · intro otherAddress otherData nonempty same
    have bytes : otherData = data := by
      apply Except.ok.inj
      calc
        .ok otherData = parseHex (unlabelled (hexDump otherAddress otherData)) :=
            (parseHex_unlabelled otherAddress otherData).symm
        _ = parseHex (unlabelled (hexDump address data)) := by rw [same]
        _ = .ok data := parseHex_unlabelled address data
    subst bytes
    refine ⟨?_, rfl⟩
    apply Except.ok.inj
    calc
      .ok otherAddress = parseByte (firstLabel (hexDump otherAddress otherData)) :=
          (parseByte_firstLabel otherAddress nonempty).symm
      _ = parseByte (firstLabel (hexDump address otherData)) := by rw [same]
      _ = .ok address := parseByte_firstLabel address nonempty

end RegisterBridge.Text
