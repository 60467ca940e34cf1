import RegisterBridge.Proofs.Text.Digits

/-!
# Which texts are read as bytes

Without blanks and one marker, a text that is read falls into pairs of characters, one
for each byte.  A pair is two digits, or a plus sign and one digit: nothing else is read,
whatever bytes a character has in UTF-8.  Hexadecimal text proper has pairs of digits
only, and every spelling of it is read as the bytes that it spells.
-/

namespace RegisterBridge.Text

/-! ## Pairs -/

/-- Two digits stand for a byte. -/
def IsPair (first second : Char) (byte : UInt8) : Prop :=
  ∃ high low, IsDigit 16 first high ∧ IsDigit 16 second low ∧ byte.toNat = 16 * high + low

/-- A plus sign and a digit stand for a byte below sixteen. -/
def IsSignedPair (first second : Char) (byte : UInt8) : Prop :=
  first = '+' ∧ IsDigit 16 second byte.toNat

/-- A pair that is read. -/
def IsReadPair (first second : Char) (byte : UInt8) : Prop :=
  IsPair first second byte ∨ IsSignedPair first second byte

/-- Behind a plus sign the byte is the value of the digit. -/
theorem pairValue_plus_eq_some_iff {second : Char} {byte : UInt8} :
    pairValue? '+' second = some byte ↔ IsDigit 16 second byte.toNat := by
  rw [pairValue?, if_pos rfl, Option.map_eq_some_iff]
  constructor
  · rintro ⟨value, read, rfl⟩
    have digit := hexValue_eq_some_iff.mp read
    have inByte : value < UInt8.size := Nat.lt_trans digit.small (by decide)
    rwa [UInt8.toNat_ofNat_of_lt' inByte]
  · intro digit
    exact ⟨byte.toNat, hexValue_eq_some_iff.mpr digit, UInt8.ofNat_toNat⟩

/-- Without a sign two digits give a byte. -/
theorem pairValue_unsigned_eq_some_iff {first second : Char} {byte : UInt8}
    (unsigned : first ≠ '+') : pairValue? first second = some byte ↔ IsPair first second byte := by
  rw [pairValue?, if_neg unsigned]
  constructor
  · intro read
    split at read
    · rename_i high low first_read second_read
      cases read
      have high_digit := hexValue_eq_some_iff.mp first_read
      have low_digit := hexValue_eq_some_iff.mp second_read
      have inByte : 16 * high + low < UInt8.size := by
        have high_small := high_digit.small
        have low_small := low_digit.small
        rw [UInt8.size]
        omega
      exact ⟨high, low, high_digit, low_digit, UInt8.toNat_ofNat_of_lt' inByte⟩
    · cases read
  · rintro ⟨high, low, first_digit, second_digit, value⟩
    rw [hexValue_eq_some_iff.mpr first_digit, hexValue_eq_some_iff.mpr second_digit]
    dsimp only
    rw [← value, UInt8.ofNat_toNat]

/-- A byte is read off exactly the pairs. -/
theorem pairValue_eq_some_iff {first second : Char} {byte : UInt8} :
    pairValue? first second = some byte ↔ IsReadPair first second byte := by
  by_cases plus : first = '+'
  · subst plus
    rw [pairValue_plus_eq_some_iff]
    constructor
    · intro digit
      exact .inr ⟨rfl, digit⟩
    · rintro (⟨_, _, digit, _⟩ | ⟨-, digit⟩)
      · exact absurd digit (not_isDigit_plus (Nat.le_refl 16))
      · exact digit
  · rw [pairValue_unsigned_eq_some_iff plus]
    constructor
    · exact .inl
    · rintro (pair | ⟨sign, -⟩)
      · exact pair
      · exact absurd sign plus

/-- Both characters of a pair are single bytes of UTF-8. -/
theorem IsReadPair.utf8Size {first second : Char} {byte : UInt8}
    (pair : IsReadPair first second byte) : first.utf8Size = 1 ∧ second.utf8Size = 1 := by
  rcases pair with ⟨high, low, first_digit, second_digit, -⟩ | ⟨rfl, digit⟩
  · exact ⟨first_digit.utf8Size, second_digit.utf8Size⟩
  · exact ⟨rfl, digit.utf8Size⟩

/-! ## Texts of pairs -/

/-- A text falls into pairs that stand for bytes. -/
inductive Paired (Pair : Char → Char → UInt8 → Prop) : List Char → List UInt8 → Prop where
  | nil : Paired Pair [] []
  | cons {first second : Char} {byte : UInt8} {text : List Char} {data : List UInt8}
      (pair : Pair first second byte) (rest : Paired Pair text data) :
      Paired Pair (first :: second :: text) (byte :: data)

section Paired

variable {Pair Other : Char → Char → UInt8 → Prop} {text : List Char} {data : List UInt8}

theorem Paired.length_eq (paired : Paired Pair text data) : text.length = 2 * data.length := by
  induction paired with
  | nil => rfl
  | cons pair rest ih =>
      rw [List.length_cons, List.length_cons, List.length_cons, ih]
      omega

/-- Pairs that are pairs of another kind too wherever they stand. -/
theorem Paired.imp (paired : Paired Pair text data)
    (also : ∀ first second byte, first ∈ text → second ∈ text → Pair first second byte →
      Other first second byte) : Paired Other text data := by
  induction paired with
  | nil => exact .nil
  | cons pair rest ih =>
      refine .cons (also _ _ _ (by simp) (by simp) pair) (ih ?_)
      intro first second byte first_member second_member
      exact also first second byte (List.mem_cons_of_mem _ (List.mem_cons_of_mem _ first_member))
        (List.mem_cons_of_mem _ (List.mem_cons_of_mem _ second_member))

/-- What holds of both characters of every pair holds of every character. -/
theorem Paired.forall_mem {P : Char → Prop} (paired : Paired Pair text data)
    (both : ∀ first second byte, Pair first second byte → P first ∧ P second) :
    ∀ c ∈ text, P c := by
  induction paired with
  | nil => simp
  | cons pair rest ih =>
      obtain ⟨first, second⟩ := both _ _ _ pair
      rintro c (_ | ⟨_, _ | ⟨_, member⟩⟩)
      · exact first
      · exact second
      · exact ih c member

end Paired

/-- Pairs of digits make a text of digits. -/
theorem mem_hexAlphabet_of_paired {text : List Char} {data : List UInt8}
    (paired : Paired IsPair text data) {c : Char} (member : c ∈ text) : c ∈ hexAlphabet := by
  refine paired.forall_mem (P := (· ∈ hexAlphabet)) ?_ c member
  rintro first second byte ⟨high, low, first_digit, second_digit, -⟩
  exact ⟨exists_isDigit_iff.mp ⟨high, first_digit⟩, exists_isDigit_iff.mp ⟨low, second_digit⟩⟩

/-- Pair after pair, exactly the texts of pairs are read. -/
theorem readPairs_eq_ok_iff {done : List UInt8} {text : List Char} {data : List UInt8} :
    readPairs done text = .ok data ↔
      ∃ rest, Paired IsReadPair text rest ∧ data = done.reverse ++ rest := by
  constructor
  · -- What is done grows on the way, so that the rest is asserted behind it.
    intro read
    induction done, text using readPairs.induct with
    | case1 done =>
        cases read
        exact ⟨[], .nil, (List.append_nil _).symm⟩
    | case2 done c => cases read
    | case3 done c d rest two => rw [readPairs, if_pos two] at read; cases read
    | case4 done c d rest two single byte value ih =>
        rw [readPairs, if_neg two, if_pos single, value] at read
        obtain ⟨others, paired, rfl⟩ := ih read
        refine ⟨byte :: others, .cons (pairValue_eq_some_iff.mp value) paired, ?_⟩
        rw [List.reverse_cons, List.append_assoc]
        rfl
    | case5 done c d rest two single none =>
        rw [readPairs, if_neg two, if_pos single, none] at read
        cases read
    | case6 done c d rest two wide => rw [readPairs, if_neg two, if_neg wide] at read; cases read
  · rintro ⟨rest, paired, rfl⟩
    induction paired generalizing done with
    | nil => rw [readPairs, List.append_nil]
    | cons pair rest ih =>
        obtain ⟨first_size, second_size⟩ := pair.utf8Size
        rw [readPairs, if_neg (by omega), if_pos ⟨first_size, second_size⟩,
          pairValue_eq_some_iff.mpr pair]
        dsimp only
        rw [ih, List.reverse_cons, List.append_assoc]
        rfl

/-- The size of text of single bytes is its length. -/
theorem utf8Length_eq_length {text : List Char} (single : ∀ c ∈ text, c.utf8Size = 1) :
    utf8Length text = text.length := by
  have counted (size : Nat) :
      text.foldl (fun size c => size + c.utf8Size) size = size + text.length := by
    induction text generalizing size with
    | nil => rfl
    | cons c rest ih =>
        rw [List.foldl_cons, ih fun other member => single other (List.mem_cons_of_mem c member),
          single c List.mem_cons_self, List.length_cons]
        omega
  exact (counted 0).trans (Nat.zero_add _)

/-- What is read in pairs: the text without blanks and without one leading marker. -/
def hexBody (text : String) : List Char :=
  dropHexMarker (dropBlanks text.toList)

/-- A text is read as bytes exactly if its body falls into pairs for them. -/
theorem parseHex_eq_ok_iff {text : String} {data : List UInt8} :
    parseHex text = .ok data ↔ Paired IsReadPair (hexBody text) data := by
  have whole : readPairs [] (hexBody text) = .ok data ↔ Paired IsReadPair (hexBody text) data := by
    rw [readPairs_eq_ok_iff]
    constructor
    · rintro ⟨rest, paired, rfl⟩
      exact paired
    · intro paired
      exact ⟨data, paired, rfl⟩
  rw [parseHex]
  change (if utf8Length (hexBody text) % 2 = 0 then readPairs [] (hexBody text)
    else .error (.oddLength (utf8Length (hexBody text)))) = .ok data ↔ _
  split
  · exact whole
  · rename_i odd
    constructor
    · intro impossible
      cases impossible
    · -- Pairs are made of single bytes, so that bytes count as characters do.
      intro paired
      have single := paired.forall_mem fun _ _ _ pair => pair.utf8Size
      have even := paired.length_eq
      rw [utf8Length_eq_length single] at odd
      omega

/-! ## Hexadecimal text -/

/-- A text is hexadecimal for some bytes: its body is an even number of digits, and the
bytes are the values of the pairs of digits in turn. -/
structure IsHexFor (text : String) (data : List UInt8) : Prop where
  digits : ∀ c ∈ hexBody text, c ∈ hexAlphabet
  even : (hexBody text).length % 2 = 0
  pairs : Paired IsPair (hexBody text) data

variable {text : String} {data : List UInt8}

/-- It is enough that the body falls into pairs of digits. -/
theorem isHexFor_iff_paired : IsHexFor text data ↔ Paired IsPair (hexBody text) data := by
  constructor
  · exact IsHexFor.pairs
  · intro pairs
    refine ⟨fun c => mem_hexAlphabet_of_paired pairs, ?_, pairs⟩
    rw [pairs.length_eq]
    exact Nat.mul_mod_right 2 _

/-- Hexadecimal text is read as its bytes. -/
theorem IsHexFor.parseHex_eq (hex : IsHexFor text data) : parseHex text = .ok data :=
  parseHex_eq_ok_iff.mpr (hex.pairs.imp fun _ _ _ _ _ => .inl)

/-- A text that is read is hexadecimal if no pair of it has a sign. -/
theorem isHexFor_of_parseHex (read : parseHex text = .ok data) (unsigned : '+' ∉ hexBody text) :
    IsHexFor text data := by
  apply isHexFor_iff_paired.mpr
  apply (parseHex_eq_ok_iff.mp read).imp
  rintro first second byte member - (pair | ⟨rfl, -⟩)
  · exact pair
  · exact absurd member unsigned

/-- A sign is no digit. -/
theorem IsHexFor.plus_not_mem (hex : IsHexFor text data) : '+' ∉ hexBody text := by
  intro member
  exact absurd (hex.digits '+' member) (by decide)

end RegisterBridge.Text
