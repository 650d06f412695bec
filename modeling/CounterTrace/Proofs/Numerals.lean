import Mathlib.Algebra.Group.Nat.Defs
import Mathlib.Data.List.Induction
import Mathlib.Data.List.TakeWhile
import CounterTrace.Marker.Rule
import CounterTrace.Proofs.Trees

/-!
# Numbers within the limits

A number can be written if it is below a fixed power of ten. Every number that is read is below it,
and the number in the name of a control file is so far below it that its small multiples can be
written too. A settings file can hold the same numbers, or one digit less of the negative ones where
the sign counts.

## Main results

* `Numeral.isWritable_iff` — which numbers can be written
* `Numeral.isReadable_iff` — which numbers a settings file can hold
* `controlFileId?_eq_some_iff` — which names are those of control files
* `Node.IsName.exists_controlFileId?_eq_ok` — the name of an entry can always be read
* `Node.IsName.controlFileId?_lt` — and the number in it is small
-/

namespace CounterTrace

namespace Numeral

variable {digits : List Char} {n : Nat} {m : Int}

theorem isDigit_iff {c : Char} : c.isDigit ↔ 48 ≤ c.toNat ∧ c.toNat ≤ 57 := by
  simp only [Char.isDigit, Bool.and_eq_true, decide_eq_true_eq, ge_iff_le, UInt32.le_iff_toNat_le]
  exact Iff.rfl

theorem lt_ten_of_isDigit {c : Char} (digit : c.isDigit) : c.toNat - 48 < 10 := by
  obtain ⟨-, upper⟩ := isDigit_iff.mp digit
  omega

/-- The digit at the end has the least weight. -/
theorem value_concat (digits : List Char) (c : Char) :
    value (digits ++ [c]) = 10 * value digits + (c.toNat - 48) := by
  rw [value, List.foldl_concat]
  rfl

/-- A run of digits stands for a number below the power of ten that has one more digit. -/
theorem value_lt (decimal : ∀ c ∈ digits, c.isDigit) : value digits < 10 ^ digits.length := by
  -- The last digit is the one with the least weight, so the induction takes digits off the end.
  induction digits using List.reverseRecOn with
  | nil => decide
  | append_singleton digits c ih =>
    have front := ih fun other member => decimal other (by simp [member])
    have last : c.toNat - 48 < 10 := lt_ten_of_isDigit (decimal c (by simp))
    rw [value_concat, List.length_append, List.length_singleton, Nat.pow_succ]
    omega

/-- Which numbers can be written. -/
theorem isWritable_iff : isWritable m ↔ m.natAbs < 10 ^ maxDigits := by
  have positive : 0 < maxDigits := by decide
  rw [isWritable, decide_eq_true_eq, Nat.length_toDigits_le_iff (by omega) positive]

/-- The sign takes the place of one digit at most. -/
theorem maxDigitsBehind_bounds [SignRule] (negative : Bool) :
    maxDigits - 1 ≤ maxDigitsBehind negative ∧ maxDigitsBehind negative ≤ maxDigits := by
  rw [maxDigitsBehind]
  split <;> omega

/-- Without a sign there is room for every digit. -/
theorem maxDigitsBehind_le [SignRule] (negative : Bool) :
    maxDigitsBehind negative ≤ maxDigitsBehind false := by
  have room : maxDigitsBehind false = maxDigits := by simp [maxDigitsBehind]
  rw [room]
  exact (maxDigitsBehind_bounds negative).2

/-- Which numbers a settings file can hold. -/
theorem isReadable_iff [SignRule] :
    isReadable m ↔ m.natAbs < 10 ^ maxDigitsBehind (decide (m < 0)) := by
  have positive : 0 < maxDigits - 1 := by decide
  have room := (maxDigitsBehind_bounds (decide (m < 0))).1
  rw [isReadable, decide_eq_true_eq, Nat.length_toDigits_le_iff (by omega) (by omega)]

/-- A settings file can hold an integer if its digits are not too many. -/
theorem isReadable_iff_length [SignRule] :
    isReadable m ↔ ¬ maxDigitsBehind (decide (m < 0)) < (Nat.toDigits 10 m.natAbs).length := by
  rw [isReadable, decide_eq_true_eq, Nat.not_lt]

/-- What a settings file can hold can be written. -/
theorem isWritable_of_isReadable [SignRule] (readable : isReadable m) : isWritable m := by
  rw [isReadable, decide_eq_true_eq] at readable
  rw [isWritable, decide_eq_true_eq]
  exact readable.trans (maxDigitsBehind_bounds _).2

/-- Where only digits count, a settings file can hold whatever can be written. -/
theorem isReadable_digitsOnly (m : Int) : @isReadable digitsOnly m = isWritable m := by
  simp [isReadable, isWritable, maxDigitsBehind]

theorem value_toDigits (n : Nat) : value (Nat.toDigits 10 n) = n :=
  Nat.ofDigitChars_ten_toDigits

/-! ### The characters of numbers -/

theorem toList_text (m : Int) :
    (text m).toList = (if m < 0 then ['-'] else []) ++ Nat.toDigits 10 m.natAbs := by
  rw [text, String.toList_ofList]

theorem exists_digitChar_of_mem_toDigits {base : Nat} (large : 1 < base) {c : Char}
    (member : c ∈ Nat.toDigits base n) : ∃ digit < base, c = Nat.digitChar digit := by
  -- The digits in front of the last are those of the quotient by the base.
  induction n using Nat.strongRecOn with
  | ind n ih =>
    rw [Nat.toDigits_eq_if large] at member
    split at member
    · rename_i small
      exact ⟨n, small, by simpa using member⟩
    · rename_i notSmall
      rcases List.mem_append.mp member with front | last
      · exact ih (n / base) (Nat.div_lt_self (by omega) large) front
      · exact ⟨n % base, Nat.mod_lt n (by omega), by simpa using last⟩

/-- The decimal text of a number is made of digits, and a minus sign. -/
theorem mem_text {c : Char} (member : c ∈ (text m).toList) : c = '-' ∨ c.isDigit := by
  rw [toList_text] at member
  rcases List.mem_append.mp member with sign | digits
  · split at sign
    · exact Or.inl (by simpa using sign)
    · cases sign
  · exact Or.inr (Nat.isDigit_of_mem_toDigits (by omega) (by omega) digits)

theorem notMem_text {c : Char} (sign : c ≠ '-') (digit : c.isDigit = false) (m : Int) :
    c ∉ (text m).toList := by
  intro member
  rcases mem_text member with minus | decimal
  · exact sign minus
  · simp [digit] at decimal

/-- The digits of an address, and the zeros that fill it up. -/
theorem mem_leftpad_toDigits {c : Char} {width : Nat}
    (member : c ∈ (Nat.toDigits 16 n).leftpad width '0') : c ∈ "0123456789abcdef".toList := by
  rw [List.leftpad, List.mem_append] at member
  rcases member with zero | digit
  · obtain rfl := (List.mem_replicate.mp zero).2
    decide
  · obtain ⟨digit, small, rfl⟩ := exists_digitChar_of_mem_toDigits (by omega) digit
    have digits : ∀ digit < 16, Nat.digitChar digit ∈ "0123456789abcdef".toList := by decide
    exact digits _ small

/-- The text of an address is made of hexadecimal digits, the `x` behind the first of them, and a
minus sign. -/
theorem mem_address {c : Char} (member : c ∈ (address m).toList) :
    c = '-' ∨ c = 'x' ∨ c ∈ "0123456789abcdef".toList := by
  -- A mark in front, zeros up to the width, and the digits.
  obtain ⟨front, width, known, shape⟩ : ∃ front width, front ⊆ ['0', 'x', '-'] ∧
      (address m).toList = front ++ (Nat.toDigits 16 m.natAbs).leftpad width '0' := by
    rw [address]
    split
    · exact ⟨"0x-".toList, _, by simp, String.toList_ofList⟩
    · exact ⟨"0x".toList, _, by simp, String.toList_ofList⟩
  rw [shape, List.mem_append] at member
  rcases member with mark | digit
  · have mark := known mark
    simp only [List.mem_cons, List.not_mem_nil, or_false] at mark
    rcases mark with rfl | rfl | rfl <;> decide
  · exact Or.inr (Or.inr (mem_leftpad_toDigits digit))

theorem notMem_address {c : Char} (mark : c ≠ '-' ∧ c ≠ 'x')
    (hexadecimal : c ∉ "0123456789abcdef".toList) (m : Int) : c ∉ (address m).toList := by
  intro member
  rcases mem_address member with minus | letter | digit
  · exact mark.1 minus
  · exact mark.2 letter
  · exact hexadecimal digit

end Numeral

theorem Failure.readNumeral_eq_ok {digits : List Char} (short : digits.length ≤ Numeral.maxDigits) :
    readNumeral digits = .ok (Numeral.value digits) := by
  simp only [readNumeral, Numeral.read_eq_ok short]

theorem Failure.readNumeral_eq_error {digits : List Char}
    (long : Numeral.maxDigits < digits.length) :
    readNumeral digits = .error (.numeralTooLong digits.length) := by
  simp only [readNumeral, Numeral.read_eq_error long]

/-! ### The numbers in names -/

variable {name : String} {id : Nat}

namespace Rule

/-- What follows an expected text is the rest of the text. -/
theorem after?_eq_some_iff {expected text rest : List Char} :
    after? (· == ·) expected text = some rest ↔ text = expected ++ rest := by
  induction expected generalizing text with
  | nil => simp [after?]
  | cons c expected ih =>
    cases text with
    | nil => simp [after?]
    | cons first text =>
      rw [after?]
      by_cases same : c = first
      · subst same
        simp [ih]
      · simp [same, Ne.symm same]

/-- The name of a control file is the stem, at least one digit, and the ending. -/
theorem matchName?_eq_some_iff {text : List Char} {found : Match} :
    matchName? text = some found ↔
      ∃ digits, digits ≠ [] ∧ (∀ c ∈ digits, c.isDigit) ∧ text = stem ++ digits ++ ending ∧
        found = ⟨0, text.length, digits⟩ := by
  rw [matchName?]
  constructor
  · intro known
    split at known
    · cases known
    · rename_i rest after
      obtain rfl := after?_eq_some_iff.mp after
      dsimp only at known
      split at known
      · rename_i shape
        -- What was taken and what was left give back the text behind the stem.
        obtain rfl := Option.some_inj.mp known
        simp only [Bool.and_eq_true, Bool.not_eq_true', List.isEmpty_eq_false_iff, beq_iff_eq]
          at shape
        refine ⟨_, shape.1, fun c member => List.mem_takeWhile_imp member, ?_, rfl⟩
        rw [← shape.2, List.append_assoc, List.takeWhile_append_dropWhile]
      · cases known
  · rintro ⟨digits, named, decimal, rfl, rfl⟩
    have after : after? (· == ·) stem (stem ++ digits ++ ending) = some (digits ++ ending) :=
      after?_eq_some_iff.mpr (List.append_assoc _ _ _)
    -- The ending starts with no digit, so that the run stops in front of it.
    have taken : (digits ++ ending).takeWhile Char.isDigit = digits := by
      rw [List.takeWhile_append_of_pos decimal]
      simp [ending]
    have left : (digits ++ ending).dropWhile Char.isDigit = ending := by
      rw [List.dropWhile_append_of_pos decimal]
      rfl
    rw [after]
    dsimp only
    rw [taken, left, if_pos (by simp [named])]

/-- The digits in a name are not more than its characters. -/
theorem digits_of_matchName? {text : List Char} {found : Match}
    (known : matchName? text = some found) :
    (∀ c ∈ found.digits, c.isDigit) ∧ found.digits.length ≤ text.length := by
  obtain ⟨digits, -, decimal, rfl, rfl⟩ := matchName?_eq_some_iff.mp known
  refine ⟨decimal, ?_⟩
  simp only [List.length_append]
  omega

end Rule

/-- The name of a control file with an identifier: the stem, the digits of the identifier, which are
not too many, and the ending. -/
theorem controlFileId?_eq_some_iff :
    controlFileId? name = .ok (some id) ↔
      ∃ digits, digits ≠ [] ∧ (∀ c ∈ digits, c.isDigit) ∧ digits.length ≤ Numeral.maxDigits ∧
        name.toList = Rule.stem ++ digits ++ Rule.ending ∧ id = Numeral.value digits := by
  rw [controlFileId?]
  constructor
  · intro known
    split at known
    · cases known
    · rename_i found matched
      obtain ⟨digits, named, decimal, shape, rfl⟩ := Rule.matchName?_eq_some_iff.mp matched
      dsimp only at known
      rcases Nat.lt_or_ge Numeral.maxDigits digits.length with long | short
      · rw [Failure.readNumeral_eq_error long] at known
        cases known
      · rw [Failure.readNumeral_eq_ok short] at known
        obtain rfl : Numeral.value digits = id := by simpa [Except.map] using known
        exact ⟨digits, named, decimal, short, shape, rfl⟩
  · rintro ⟨digits, named, decimal, short, shape, rfl⟩
    rw [Rule.matchName?_eq_some_iff.mpr ⟨digits, named, decimal, shape, rfl⟩]
    dsimp only
    rw [Failure.readNumeral_eq_ok short]
    rfl

private theorem length_toList_le (text : String) : text.toList.length ≤ text.utf8ByteSize := by
  have counted : ∀ chars : List Char, chars.length ≤ (String.ofList chars).utf8ByteSize := by
    intro chars
    induction chars with
    | nil => exact Nat.zero_le _
    | cons c chars ih =>
      have split : String.ofList (c :: chars) = String.singleton c ++ String.ofList chars := by
        rw [← String.toList_inj]
        simp
      have positive := c.utf8Size_pos
      rw [split, String.utf8ByteSize_append, String.utf8ByteSize_singleton, List.length_cons]
      omega
  simpa using counted text.toList

namespace Node.IsName

/-- The name of an entry has few characters. -/
theorem length_le (valid : IsName name) : name.toList.length ≤ FileSystem.maxNameBytes :=
  Nat.le_trans (length_toList_le name) valid.short

/-- The name of an entry is too short to hold too many digits. -/
theorem exists_controlFileId?_eq_ok (valid : IsName name) :
    ∃ answer, controlFileId? name = .ok answer := by
  rw [controlFileId?]
  cases known : Rule.matchName? name.toList with
  | none => exact ⟨none, rfl⟩
  | some found =>
    have length := (Rule.digits_of_matchName? known).2
    have few := valid.length_le
    -- An entry has no name as long as the limit on digits.
    have short : found.digits.length ≤ Numeral.maxDigits := by
      simp only [FileSystem.maxNameBytes, Numeral.maxDigits] at *
      omega
    dsimp only
    rw [Failure.readNumeral_eq_ok short]
    exact ⟨some (Numeral.value found.digits), rfl⟩

/-- The number in the name of an entry is small. -/
theorem controlFileId?_lt (valid : IsName name) (known : controlFileId? name = .ok (some id)) :
    id < 10 ^ FileSystem.maxNameBytes := by
  obtain ⟨digits, -, decimal, -, shape, rfl⟩ := controlFileId?_eq_some_iff.mp known
  have few := valid.length_le
  rw [shape, List.length_append, List.length_append] at few
  exact Nat.lt_of_lt_of_le (Numeral.value_lt decimal) (Nat.pow_le_pow_right (by omega) (by omega))

end Node.IsName

end CounterTrace
