import RegisterBridge.Burst.Plan
import RegisterBridge.Proofs.Text.Digits

/-!
# Which texts are numbers

A numeral is a run of decimal digits, perhaps behind a plus sign, or a marker and a run
of hexadecimal digits.  The readers of numbers accept the numerals of the numbers in
their range, and besides them hexadecimal digits behind a marker and a plus sign.
-/

namespace RegisterBridge.Text

/-! ## Numerals -/

/-- The letter in a marker. -/
def IsMarkerLetter (letter : Char) : Prop := letter = 'x' ∨ letter = 'X'

/-- A text is a numeral for a number. -/
inductive IsNumeral : List Char → Nat → Prop where
  | decimal {digits : List Char} {value : Nat} (denotes : Denotes 10 digits value) :
      IsNumeral digits value
  | plus {digits : List Char} {value : Nat} (denotes : Denotes 10 digits value) :
      IsNumeral ('+' :: digits) value
  | hex {letter : Char} {digits : List Char} {value : Nat} (marked : IsMarkerLetter letter)
      (denotes : Denotes 16 digits value) : IsNumeral ('0' :: letter :: digits) value

/-- A text is a marker, a plus sign and the hexadecimal digits of a number. -/
inductive IsSignedHex : List Char → Nat → Prop where
  | plus {letter : Char} {digits : List Char} {value : Nat} (marked : IsMarkerLetter letter)
      (denotes : Denotes 16 digits value) : IsSignedHex ('0' :: letter :: '+' :: digits) value

variable {radix bound value : Nat} {letter : Char} {text digits : List Char}

theorem not_denotes_plus (inside : radix ≤ 16) : ¬Denotes radix ('+' :: digits) value := by
  intro denotes
  obtain ⟨_, digit⟩ := denotes.isDigit_of_mem List.mem_cons_self
  exact not_isDigit_plus inside digit

/-- A marker is no part of a decimal numeral. -/
theorem not_denotes_marker (marked : IsMarkerLetter letter) :
    ¬Denotes 10 ('0' :: letter :: digits) value := by
  intro denotes
  obtain ⟨_, digit⟩ := denotes.isDigit_of_mem (List.mem_cons_of_mem _ List.mem_cons_self)
  have read := (digitValue_eq_some_iff (by decide)).mpr digit
  rcases marked with rfl | rfl
  · cases read
  · cases read

/-- Behind a marker a numeral has hexadecimal digits only. -/
theorem isNumeral_marked_iff (marked : IsMarkerLetter letter) :
    IsNumeral ('0' :: letter :: digits) value ↔ Denotes 16 digits value := by
  constructor
  · intro numeral
    cases numeral with
    | decimal denotes => exact absurd denotes (not_denotes_marker marked)
    | hex _ denotes => exact denotes
  · exact .hex marked

theorem isSignedHex_marked_iff (marked : IsMarkerLetter letter) :
    IsSignedHex ('0' :: letter :: text) value ↔
      ∃ digits, text = '+' :: digits ∧ Denotes 16 digits value := by
  constructor
  · rintro ⟨-, denotes⟩
    exact ⟨_, rfl, denotes⟩
  · rintro ⟨digits, rfl, denotes⟩
    exact .plus marked denotes

/-- With a sign behind the marker a text is no numeral. -/
theorem IsSignedHex.not_isNumeral (signed : IsSignedHex text value) {other : Nat} :
    ¬IsNumeral text other := by
  obtain ⟨marked, -⟩ := signed
  rw [isNumeral_marked_iff marked]
  exact not_denotes_plus (Nat.le_refl 16)

/-! ## Reading -/

/-- Digits are read with or without a plus sign. -/
theorem natural_eq_some_iff (inside : radix ≤ 16) :
    natural? radix bound text = some value ↔
      value < bound ∧ (Denotes radix text value ∨
        ∃ digits, text = '+' :: digits ∧ Denotes radix digits value) := by
  rw [natural?, Option.filter_eq_some_iff, digitsValue_eq_some_iff inside, decide_eq_true_eq,
    and_comm]
  refine and_congr_right fun _ => ?_
  unfold dropPlus
  split
  · constructor
    · intro denotes
      exact .inr ⟨_, rfl, denotes⟩
    · rintro (impossible | ⟨_, ⟨⟩, denotes⟩)
      · exact absurd impossible (not_denotes_plus inside)
      · exact denotes
  · rename_i unsigned
    constructor
    · exact .inl
    · rintro (denotes | ⟨digits, rfl, -⟩)
      · exact denotes
      · exact absurd rfl (unsigned digits)

/-- Behind a marker the readers take digits with or without a sign. -/
theorem natural_marked_eq_some_iff (marked : IsMarkerLetter letter) :
    natural? 16 (Nat.pow 2 64) text = some value ↔
      value < UInt64.size ∧
        (IsNumeral ('0' :: letter :: text) value ∨ IsSignedHex ('0' :: letter :: text) value) := by
  rw [isNumeral_marked_iff marked, isSignedHex_marked_iff marked]
  exact natural_eq_some_iff (Nat.le_refl 16)

/-- A number is read off exactly the numerals and the signed hexadecimal digits. -/
theorem numeralValue_eq_some_iff :
    numeralValue? text = some value ↔
      value < UInt64.size ∧ (IsNumeral text value ∨ IsSignedHex text value) := by
  unfold numeralValue?
  split
  · exact natural_marked_eq_some_iff (.inl rfl)
  · exact natural_marked_eq_some_iff (.inr rfl)
  · rename_i lower upper
    -- The last case of the reader is every text that starts with no marker.
    have unmarked {letter : Char} {digits : List Char} (marked : IsMarkerLetter letter) :
        text ≠ '0' :: letter :: digits := by
      rcases marked with rfl | rfl
      · exact lower digits
      · exact upper digits
    rw [natural_eq_some_iff (by decide)]
    refine and_congr_right fun _ => ?_
    constructor
    · rintro (denotes | ⟨digits, rfl, denotes⟩)
      · exact .inl (.decimal denotes)
      · exact .inl (.plus denotes)
    · rintro ((denotes | denotes | ⟨marked, -⟩) | ⟨marked, -⟩)
      · exact .inl denotes
      · exact .inr ⟨_, rfl, denotes⟩
      · exact absurd rfl (unmarked marked)
      · exact absurd rfl (unmarked marked)

variable {text : String}

theorem parseNumber_eq_ok_iff :
    parseNumber text = .ok value ↔ numeralValue? (trim text.toList) = some value := by
  rw [parseNumber]
  cases numeralValue? (trim text.toList) with
  | none => simp
  | some found => simp

/-- A number that is not read is quoted without the blanks around it. -/
theorem parseNumber_of_none (none : numeralValue? (trim text.toList) = none) :
    parseNumber text = .error (.malformed (String.ofList (trim text.toList))) := by
  rw [parseNumber, none]

/-- A reader with fewer bits takes the numbers that fit. -/
theorem parseBits_eq_ok_iff {bits : Nat} :
    parseBits bits text = .ok value ↔ parseNumber text = .ok value ∧ value < Nat.pow 2 bits := by
  rw [parseBits]
  cases parseNumber text with
  | error fault => simp
  | ok found =>
      dsimp only
      split
      · rename_i fits
        rw [Except.ok.injEq]
        constructor
        · rintro rfl
          exact ⟨rfl, fits⟩
        · exact And.left
      · rename_i wide
        constructor
        · intro impossible
          cases impossible
        · rintro ⟨⟨⟩, fits⟩
          exact absurd fits wide

/-- A reader of machine words gives the word of the number. -/
theorem map_parseBits_eq_ok_iff {α : Type} {bits : Nat} {ofNat : Nat → α} {toNat : α → Nat}
    (small : ∀ word, toNat word < Nat.pow 2 bits) (back : ∀ word, ofNat (toNat word) = word)
    (whole : ∀ value < Nat.pow 2 bits, toNat (ofNat value) = value) {word : α} :
    (parseBits bits text).map ofNat = .ok word ↔ parseNumber text = .ok (toNat word) := by
  constructor
  · intro read
    cases parsed : parseBits bits text with
    | error fault =>
        rw [parsed] at read
        cases read
    | ok value =>
        rw [parsed] at read
        cases read
        obtain ⟨number, fits⟩ := parseBits_eq_ok_iff.mp parsed
        rw [whole value fits]
        exact number
  · intro number
    rw [parseBits_eq_ok_iff.mpr ⟨number, small word⟩]
    exact congrArg Except.ok (back word)

theorem parseByte_eq_ok_iff {byte : UInt8} :
    parseByte text = .ok byte ↔ parseNumber text = .ok byte.toNat :=
  map_parseBits_eq_ok_iff UInt8.toNat_lt (fun _ => UInt8.ofNat_toNat)
    fun _ small => Nat.mod_eq_of_lt small

theorem parseWord_eq_ok_iff {word : UInt32} :
    parseWord text = .ok word ↔ parseNumber text = .ok word.toNat :=
  map_parseBits_eq_ok_iff UInt32.toNat_lt (fun _ => UInt32.ofNat_toNat)
    fun _ small => Nat.mod_eq_of_lt small

/-- A number within a bound is read if some number within the bound is read and is it. -/
theorem parseNumber_eq_ok_iff_exists_le {bound : Nat} (inside : value ≤ bound) :
    parseNumber text = .ok value ↔
      ∃ read ≤ bound, parseNumber text = .ok read ∧ value = read := by
  constructor
  · intro number
    exact ⟨value, inside, number, rfl⟩
  · rintro ⟨_, -, number, rfl⟩
    exact number

/-- The reader of sizes takes the numbers from 1 to its limit. -/
theorem parseSize_eq_ok_iff {limit size : Nat} :
    parseSize limit text = .ok size ↔ parseNumber text = .ok size ∧ 1 ≤ size ∧ size ≤ limit := by
  rw [parseSize]
  cases parseNumber text with
  | error fault => simp
  | ok found =>
      dsimp only
      split
      · rename_i outside
        constructor
        · intro impossible
          cases impossible
        · rintro ⟨⟨⟩, inside⟩
          omega
      · rename_i inside
        rw [Except.ok.injEq]
        constructor
        · rintro rfl
          exact ⟨rfl, by omega, by omega⟩
        · exact And.left

/-- The texts that are read as a number are, but for blanks around them, the numerals below
`2 ^ 64` and the signed hexadecimal digits; all others are refused.  Only the latter stand
between the reader and the numerals.  The readers of bytes, words and sizes take the same
texts if the number is in their range, and give the number. -/
theorem numbers_exact (text : String) :
    (∀ value, parseNumber text = .ok value ↔ value < UInt64.size ∧
      (IsNumeral (trim text.toList) value ∨ IsSignedHex (trim text.toList) value)) ∧
    ((∀ value, parseNumber text ≠ .ok value) →
      parseNumber text = .error (.malformed (String.ofList (trim text.toList)))) ∧
    ((∀ value, parseNumber text = .ok value ↔
        value < UInt64.size ∧ IsNumeral (trim text.toList) value) ↔
      ¬∃ value < UInt64.size, IsSignedHex (trim text.toList) value) ∧
    (∀ byte, parseByte text = .ok byte ↔
      ∃ value ≤ 255, parseNumber text = .ok value ∧ byte.toNat = value) ∧
    (∀ word, parseWord text = .ok word ↔
      ∃ value ≤ 4294967295, parseNumber text = .ok value ∧ word.toNat = value) ∧
    (∀ size, parseSize Burst.maxSize text = .ok size ↔
      parseNumber text = .ok size ∧ 1 ≤ size ∧ size ≤ 65535) := by
  have reads (value : Nat) : parseNumber text = .ok value ↔ value < UInt64.size ∧
      (IsNumeral (trim text.toList) value ∨ IsSignedHex (trim text.toList) value) :=
    parseNumber_eq_ok_iff.trans numeralValue_eq_some_iff
  refine ⟨reads, ?_, ?_, ?_, ?_, fun _ => parseSize_eq_ok_iff⟩
  · intro unread
    apply parseNumber_of_none
    apply Option.eq_none_iff_forall_ne_some.mpr
    intro value found
    exact unread value (parseNumber_eq_ok_iff.mpr found)
  · constructor
    · rintro agrees ⟨value, small, signed⟩
      have numeral := (agrees value).mp ((reads value).mpr ⟨small, .inr signed⟩)
      exact signed.not_isNumeral numeral.2
    · intro unsigned value
      rw [reads]
      refine and_congr_right fun small => ?_
      constructor
      · rintro (numeral | signed)
        · exact numeral
        · exact absurd ⟨value, small, signed⟩ unsigned
      · exact .inl
  · intro byte
    exact parseByte_eq_ok_iff.trans
      (parseNumber_eq_ok_iff_exists_le (Nat.le_of_lt_succ byte.toNat_lt))
  · intro word
    exact parseWord_eq_ok_iff.trans
      (parseNumber_eq_ok_iff_exists_le (Nat.le_of_lt_succ word.toNat_lt))

/-- A sign behind the marker is read, though the text is no numeral. -/
theorem numbers_exact_signed :
    parseNumber "0x+5" = .ok 5 ∧ ∀ value, ¬IsNumeral (trim "0x+5".toList) value := by
  have digit : Denotes 16 ['5'] 5 := .digit ⟨by decide, rfl⟩
  have signed : IsSignedHex (trim "0x+5".toList) 5 := .plus (.inl rfl) digit
  exact ⟨rfl, fun value => signed.not_isNumeral⟩

end RegisterBridge.Text
