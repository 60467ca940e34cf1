import Mathlib.Data.List.Induction
import RegisterBridge.Text.Numeral

/-!
# What digits denote

A digit of a radix is a character with a value below the radix, in either case.  A run
of digits denotes a number: one digit its value, and a run with a digit behind it the
radix times what the run denotes and the value of that digit.  The readers of digits
accept exactly such runs, and every number and byte is denoted by what is written for it.
-/

namespace RegisterBridge.Text

/-! ## Digits -/

/-- A character is the digit of a value, in lower or in upper case. -/
structure IsDigit (radix : Nat) (c : Char) (value : Nat) : Prop where
  small : value < radix
  lower : c.toLower = Nat.digitChar value

/-- The hexadecimal digits of either case. -/
def hexAlphabet : List Char :=
  ['0', '1', '2', '3', '4', '5', '6', '7', '8', '9',
    'a', 'b', 'c', 'd', 'e', 'f', 'A', 'B', 'C', 'D', 'E', 'F']

theorem hexValue_digitChar {value : Nat} (small : value < 16) :
    hexValue? (Nat.digitChar value) = some value := by
  have all : ∀ value < 16, hexValue? (Nat.digitChar value) = some value := by decide
  exact all value small

theorem toNat_digitChar {value : Nat} (small : value < 16) :
    (Nat.digitChar value).toNat = if value < 10 then 0x30 + value else 0x57 + value := by
  have all : ∀ value < 16,
      (Nat.digitChar value).toNat = if value < 10 then 0x30 + value else 0x57 + value := by decide
  exact all value small

/-- A letter in upper case is 32 places before the one in lower case. -/
theorem toNat_toLower (c : Char) :
    c.toLower.toNat = if 65 ≤ c.toNat ∧ c.toNat ≤ 90 then c.toNat + 32 else c.toNat := by
  unfold Char.toLower
  split
  · rename_i upper
    have bounds : 65 ≤ c.toNat ∧ c.toNat ≤ 90 := upper
    rw [if_pos bounds]
    exact Nat.mod_eq_of_lt (show c.toNat + 32 < _ by omega)
  · rename_i other
    exact (if_neg other).symm

/-- The case of a digit does not matter. -/
theorem hexValue_toLower (c : Char) : hexValue? c.toLower = hexValue? c := by
  rw [hexValue?, hexValue?, toNat_toLower]
  by_cases upper : 65 ≤ c.toNat ∧ c.toNat ≤ 90
  · rw [if_pos upper]
    grind
  · rw [if_neg upper]

variable {radix value : Nat} {c : Char}

/-- The value of a hexadecimal digit is read off exactly the digits. -/
theorem hexValue_eq_some_iff : hexValue? c = some value ↔ IsDigit 16 c value := by
  constructor
  · intro read
    rw [← hexValue_toLower] at read
    have lowered := toNat_toLower c
    have found : value < 16 ∧ c.toLower.toNat = (Nat.digitChar value).toNat := by
      simp only [hexValue?] at read
      split at read
      · cases read
        rw [toNat_digitChar (by omega)]
        split <;> omega
      · split at read
        · cases read
          rw [toNat_digitChar (by omega)]
          split <;> omega
        · split at read
          · -- No capital is left after the change to lower case.
            split at lowered <;> omega
          · cases read
    exact ⟨found.1, Char.toNat_inj.mp found.2⟩
  · rintro ⟨small, lower⟩
    rw [← hexValue_toLower, lower, hexValue_digitChar small]

/-- So it is in every smaller radix. -/
theorem digitValue_eq_some_iff (inside : radix ≤ 16) :
    digitValue? radix c = some value ↔ IsDigit radix c value := by
  rw [digitValue?, Option.filter_eq_some_iff, hexValue_eq_some_iff, decide_eq_true_eq]
  constructor
  · rintro ⟨digit, small⟩
    exact ⟨small, digit.lower⟩
  · rintro ⟨small, lower⟩
    exact ⟨⟨Nat.lt_of_lt_of_le small inside, lower⟩, small⟩

/-- The digits are those of the alphabet. -/
theorem exists_isDigit_iff : (∃ value, IsDigit 16 c value) ↔ c ∈ hexAlphabet := by
  constructor
  · rintro ⟨value, digit⟩
    have read := hexValue_eq_some_iff.mpr digit
    have code : c.toNat ∈ hexAlphabet.map Char.toNat := by
      simp only [hexValue?] at read
      simp only [hexAlphabet, List.map_cons, List.map_nil, List.mem_cons, List.not_mem_nil,
        or_false]
      grind
    obtain ⟨other, member, same⟩ := List.mem_map.mp code
    exact Char.toNat_inj.mp same ▸ member
  · intro member
    have all : ∀ c ∈ hexAlphabet, (hexValue? c).isSome := List.all_eq_true.mp (by decide)
    obtain ⟨value, read⟩ := Option.isSome_iff_exists.mp (all c member)
    exact ⟨value, hexValue_eq_some_iff.mp read⟩

/-- No digit is a blank. -/
theorem not_isBlank_of_mem_hexAlphabet (member : c ∈ hexAlphabet) : !isBlank c := by
  have all : ∀ c ∈ hexAlphabet, !isBlank c := List.all_eq_true.mp (by decide)
  exact all c member

theorem not_isDigit_plus (inside : radix ≤ 16) : ¬IsDigit radix '+' value := by
  intro digit
  cases (digitValue_eq_some_iff inside).mpr digit

/-- A digit is a single byte of UTF-8. -/
theorem IsDigit.utf8Size (digit : IsDigit 16 c value) : c.utf8Size = 1 := by
  have all : ∀ c ∈ hexAlphabet, c.utf8Size == 1 := List.all_eq_true.mp (by decide)
  exact eq_of_beq (all c (exists_isDigit_iff.mp ⟨value, digit⟩))

/-- The character that is written for a value is a digit of it, in lower case. -/
theorem isDigit_digitChar (small : value < 16) : IsDigit 16 (Nat.digitChar value) value := by
  have all : ∀ value < 16, (Nat.digitChar value).toLower = Nat.digitChar value := by decide
  exact ⟨small, all value small⟩

/-! ## Runs of digits -/

/-- A run of digits denotes a number. -/
inductive Denotes (radix : Nat) : List Char → Nat → Prop where
  | digit {c : Char} {value : Nat} (digit : IsDigit radix c value) : Denotes radix [c] value
  | append {digits : List Char} {c : Char} {high low : Nat} (front : Denotes radix digits high)
      (digit : IsDigit radix c low) : Denotes radix (digits ++ [c]) (radix * high + low)

variable {digits : List Char}

theorem Denotes.ne_nil (denotes : Denotes radix digits value) : digits ≠ [] := by
  cases denotes <;> simp

/-- Every character of a run is a digit. -/
theorem Denotes.isDigit_of_mem (denotes : Denotes radix digits value) {c : Char}
    (member : c ∈ digits) : ∃ value, IsDigit radix c value := by
  induction denotes with
  | digit digit =>
      rw [List.mem_singleton] at member
      exact ⟨_, member ▸ digit⟩
  | append front digit ih =>
      rcases List.mem_append.mp member with inFront | last
      · exact ih inFront
      · rw [List.mem_singleton] at last
        exact ⟨_, last ▸ digit⟩

/-- A zero in front changes nothing. -/
theorem Denotes.zero_cons (denotes : Denotes radix digits value) (positive : 0 < radix) :
    Denotes radix ('0' :: digits) value := by
  have zero : IsDigit radix '0' 0 := ⟨positive, rfl⟩
  induction denotes with
  | digit digit =>
      have behind := Denotes.append (.digit zero) digit
      rwa [Nat.mul_zero, Nat.zero_add] at behind
  | append front digit ih => exact .append ih digit

/-- Nor do many. -/
theorem Denotes.zeros_append (denotes : Denotes radix digits value) (positive : 0 < radix)
    (count : Nat) : Denotes radix (List.replicate count '0' ++ digits) value := by
  induction count with
  | zero => exact denotes
  | succ count ih => exact ih.zero_cons positive

/-- A digit behind a run that has been read. -/
theorem digitsValue_concat (radix : Nat) (digits : List Char) (c : Char) :
    digitsValue? radix (digits ++ [c]) =
      if digits = [] then digitValue? radix c
      else (digitsValue? radix digits).bind fun high =>
        (digitValue? radix c).map (radix * high + ·) := by
  cases digits with
  | nil => simp [digitsValue?]
  | cons first rest => simp [digitsValue?, List.foldlM_append, Option.bind_assoc]

/-- The value of a run is read off exactly the runs of digits. -/
theorem digitsValue_eq_some_iff (inside : radix ≤ 16) :
    digitsValue? radix digits = some value ↔ Denotes radix digits value := by
  constructor
  · -- From the end, since what a run denotes grows there.
    intro read
    induction digits using List.reverseRecOn generalizing value with
    | nil => cases read
    | append_singleton digits c ih =>
        rw [digitsValue_concat] at read
        split at read
        · rename_i empty
          subst empty
          exact .digit ((digitValue_eq_some_iff inside).mp read)
        · obtain ⟨high, front, last⟩ := Option.bind_eq_some_iff.mp read
          obtain ⟨low, digit, rfl⟩ := Option.map_eq_some_iff.mp last
          exact .append (ih front) ((digitValue_eq_some_iff inside).mp digit)
  · intro denotes
    induction denotes with
    | digit digit =>
        exact (digitsValue_concat radix [] _).trans ((digitValue_eq_some_iff inside).mpr digit)
    | append front digit ih =>
        rw [digitsValue_concat, if_neg front.ne_nil, ih, (digitValue_eq_some_iff inside).mpr digit]
        rfl

/-! ## What is written -/

/-- A number is written in lower case with at least `width` digits, and has no zero in
front that is not needed for these. -/
structure IsWritten (width : Nat) (digits : List Char) (value : Nat) : Prop where
  denotes : Denotes 16 digits value
  lower : ∀ c ∈ digits, c.toLower = c
  wide : width ≤ digits.length
  shortest : width < digits.length → digits.head? ≠ some '0'

theorem denotes_toDigits (n : Nat) : Denotes 16 (Nat.toDigits 16 n) n := by
  induction n using Nat.strongRecOn with
  | ind n ih =>
      rw [Nat.toDigits_eq_if (by decide)]
      split
      · rename_i single
        exact .digit (isDigit_digitChar single)
      · rename_i several
        have whole := (ih (n / 16) (by omega)).append
          (isDigit_digitChar (Nat.mod_lt n (show 0 < 16 by decide)))
        rwa [Nat.div_add_mod] at whole

theorem toLower_of_mem_toDigits {n : Nat} (member : c ∈ Nat.toDigits 16 n) : c.toLower = c := by
  induction n using Nat.strongRecOn with
  | ind n ih =>
      rw [Nat.toDigits_eq_if (by decide)] at member
      split at member
      · rename_i single
        rw [List.mem_singleton.mp member]
        exact (isDigit_digitChar single).lower
      · rename_i several
        rcases List.mem_append.mp member with front | last
        · exact ih (n / 16) (by omega) front
        · rw [List.mem_singleton.mp last]
          exact (isDigit_digitChar (Nat.mod_lt n (by decide))).lower

/-- The shortest form of a number other than zero starts with another digit than zero. -/
theorem head_toDigits {n : Nat} (positive : 0 < n) :
    (Nat.toDigits 16 n).head? ≠ some '0' := by
  induction n using Nat.strongRecOn with
  | ind n ih =>
      rw [Nat.toDigits_eq_if (by decide)]
      split
      · intro zero
        rw [List.head?_singleton, Option.some.injEq, Nat.digitChar_eq_zero] at zero
        exact absurd zero (Nat.ne_of_gt positive)
      · rename_i several
        rw [List.head?_append, Option.or_of_isSome (List.isSome_head?.mpr Nat.toDigits_ne_nil)]
        exact ih (n / 16) (by omega) (by omega)

/-- The shortest form of a number behind the zeros that are missing. -/
theorem isWritten_padded {width : Nat} (positive : 0 < width) (n : Nat) :
    IsWritten width
      (List.replicate (width - (Nat.toDigits 16 n).length) '0' ++ Nat.toDigits 16 n) n where
  denotes := (denotes_toDigits n).zeros_append (by decide) _
  lower := by
    intro c member
    rcases List.mem_append.mp member with zero | digit
    · rw [List.eq_of_mem_replicate zero]
      rfl
    · exact toLower_of_mem_toDigits digit
  wide := by
    rw [List.length_append, List.length_replicate]
    omega
  shortest := by
    rw [List.length_append, List.length_replicate]
    intro long
    -- A run longer than it has to be is not padded, and zero is never that long.
    have unpadded : width - (Nat.toDigits 16 n).length = 0 := by omega
    have nonzero : n ≠ 0 := by
      rintro rfl
      rw [Nat.toDigits_zero, List.length_singleton] at long
      omega
    rw [unpadded]
    exact head_toDigits (Nat.pos_of_ne_zero nonzero)

/-- A byte is written with two digits. -/
theorem isWritten_hexByte (byte : UInt8) : IsWritten 2 (hexByte byte) byte.toNat where
  denotes := by
    have inByte := byte.toNat_lt
    have high : IsDigit 16 (Nat.digitChar (byte.toNat / 16)) (byte.toNat / 16) :=
      isDigit_digitChar (by omega)
    have low : IsDigit 16 (Nat.digitChar (byte.toNat % 16)) (byte.toNat % 16) :=
      isDigit_digitChar (by omega)
    have whole := (Denotes.digit high).append low
    rwa [Nat.div_add_mod] at whole
  lower := by
    intro c member
    have inByte := byte.toNat_lt
    simp only [hexByte, List.mem_cons, List.not_mem_nil, or_false] at member
    rcases member with rfl | rfl
    · exact (isDigit_digitChar (by omega)).lower
    · exact (isDigit_digitChar (by omega)).lower
  wide := Nat.le_refl 2
  shortest := fun long => absurd long (Nat.lt_irrefl 2)

end RegisterBridge.Text
