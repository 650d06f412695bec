import CounterTrace.Proofs.Numerals

/-!
# Names of control files

The name of a control file is a stem, ASCII digits and an ending, with nothing before or behind. It
is read back to the number that the digits stand for, as long as there are not too many of them.
Digits that stand for a number are its decimal digits behind some zeros. So each number has one name
without needless zeros, and its other names have zeros in front of the digits.

## Main definitions

* `controlFileName`, `IsControlFileName` — the name of a control file with certain digits
* `paddedDigits` — a number in decimal digits, behind zeros

## Main results

* `Numeral.exists_zeros_of_isDigit` — digits are those of their number behind zeros
* `controlFileId?_of_isControlFileName` — what the name of a control file is read as
* `controlFileId?_grammar` — which names are read, and as which number
-/

namespace CounterTrace

variable {name : String} {digits : List Char} {id zeros : Nat} {c : Char}

/-! ### Digits and their numbers -/

namespace Numeral

/-- Zeros in front change no number. -/
theorem value_replicate_zero (zeros : Nat) (digits : List Char) :
    value (List.replicate zeros '0' ++ digits) = value digits := by
  induction zeros with
  | zero => rfl
  | succ zeros ih =>
    rw [List.replicate_succ, List.cons_append, ← ih]
    rfl

/-- A digit is the decimal numeral of the number that it stands for. -/
theorem toDigits_of_isDigit (digit : c.isDigit) : Nat.toDigits 10 (c.toNat - 48) = [c] := by
  have small := lt_ten_of_isDigit digit
  have same : (c.toNat - 48).digitChar = c := by
    obtain ⟨lower, -⟩ := isDigit_iff.mp digit
    apply Char.toNat_inj.mp
    rw [Nat.toNat_digitChar_of_lt_ten small]
    omega
  rw [Nat.toDigits_of_lt_base small, same]

/-- Digits are the decimal digits of the number that they stand for, behind zeros. -/
theorem exists_zeros_of_isDigit (proper : digits ≠ []) (decimal : ∀ c ∈ digits, c.isDigit) :
    ∃ zeros, digits = List.replicate zeros '0' ++ Nat.toDigits 10 (value digits) := by
  -- Decimal digits grow at their end, so the induction takes digits off there.
  induction digits using List.reverseRecOn with
  | nil => exact absurd rfl proper
  | append_singleton digits c ih =>
    have digit : c.isDigit := decimal c (by simp)
    have last : Nat.toDigits 10 (c.toNat - 48) = [c] := toDigits_of_isDigit digit
    rw [value_concat]
    by_cases nothing : digits = []
    · refine ⟨0, ?_⟩
      rw [nothing, show value [] = 0 from rfl, Nat.mul_zero, Nat.zero_add, last]
      rfl
    obtain ⟨zeros, shape⟩ := ih nothing fun other member => decimal other (by simp [member])
    rcases Nat.eq_zero_or_pos (value digits) with zero | positive
    -- If only zeros stand in front, the one that stands for them is a needless zero now.
    · refine ⟨zeros + 1, ?_⟩
      rw [zero, Nat.mul_zero, Nat.zero_add, last, shape, zero, Nat.toDigits_zero,
        List.replicate_succ']
    · refine ⟨zeros, ?_⟩
      rw [← Nat.toDigits_append_toDigits (by omega) positive (lt_ten_of_isDigit digit), last,
        ← List.append_assoc, ← shape]

end Numeral

/-! ### Names -/

/-- The name with certain digits between the stem and the ending. -/
def controlFileName (digits : List Char) : String :=
  "aie_runtime_control" ++ String.ofList digits ++ ".asm"

theorem toList_controlFileName (digits : List Char) :
    (controlFileName digits).toList = Rule.stem ++ digits ++ Rule.ending := by
  have parts : ("aie_runtime_control" ++ String.ofList digits ++ ".asm").toList =
      "aie_runtime_control".toList ++ digits ++ ".asm".toList := by
    rw [String.toList_append, String.toList_append, @String.toList_ofList digits]
  exact parts

/-- The name of a control file with certain digits, of which there is at least one. -/
structure IsControlFileName (digits : List Char) (name : String) : Prop where
  proper : digits ≠ []
  decimal : ∀ c ∈ digits, c.isDigit
  shape : name = controlFileName digits

theorem isControlFileName_iff :
    IsControlFileName digits name ↔
      Rule.matchName? name.toList = some ⟨0, name.toList.length, digits⟩ := by
  rw [Rule.matchName?_eq_some_iff]
  constructor
  · rintro ⟨proper, decimal, rfl⟩
    exact ⟨digits, proper, decimal, toList_controlFileName digits, rfl⟩
  · rintro ⟨others, proper, decimal, shape, same⟩
    obtain rfl : digits = others := congrArg Match.digits same
    rw [← toList_controlFileName, String.toList_inj] at shape
    exact ⟨proper, decimal, shape⟩

/-- The name of a control file is read as the number that its digits stand for. -/
theorem IsControlFileName.eq_ok (named : IsControlFileName digits name)
    (short : digits.length ≤ Numeral.maxDigits) :
    controlFileId? name = .ok (some (Numeral.value digits)) := by
  rw [controlFileId?, isControlFileName_iff.mp named]
  dsimp only
  rw [Failure.readNumeral_eq_ok short]
  rfl

/-- The name of a control file with too many digits is not read. -/
theorem IsControlFileName.eq_error (named : IsControlFileName digits name)
    (long : Numeral.maxDigits < digits.length) :
    controlFileId? name = .error (.numeralTooLong digits.length) := by
  rw [controlFileId?, isControlFileName_iff.mp named]
  dsimp only
  rw [Failure.readNumeral_eq_error long]
  rfl

/-- Any other name is none of a control file. -/
theorem controlFileId?_eq_none (unnamed : ¬ ∃ digits, IsControlFileName digits name) :
    controlFileId? name = .ok none := by
  rw [controlFileId?]
  cases matched : Rule.matchName? name.toList with
  | none => rfl
  | some found =>
    obtain ⟨digits, -, -, -, rfl⟩ := Rule.matchName?_eq_some_iff.mp matched
    exact absurd ⟨digits, isControlFileName_iff.mpr matched⟩ unnamed

theorem controlFileId?_eq_none_iff :
    controlFileId? name = .ok none ↔ ¬ ∃ digits, IsControlFileName digits name := by
  refine ⟨?_, controlFileId?_eq_none⟩
  rintro known ⟨digits, named⟩
  rcases Nat.lt_or_ge Numeral.maxDigits digits.length with long | short
  · cases known.symm.trans (named.eq_error long)
  · cases known.symm.trans (named.eq_ok short)

theorem controlFileId?_eq_error_iff {failure : Failure} :
    controlFileId? name = .error failure ↔
      ∃ digits, IsControlFileName digits name ∧ Numeral.maxDigits < digits.length ∧
        failure = .numeralTooLong digits.length := by
  constructor
  · intro failed
    by_cases some : ∃ digits, IsControlFileName digits name
    · obtain ⟨digits, named⟩ := some
      rcases Nat.lt_or_ge Numeral.maxDigits digits.length with long | short
      · exact ⟨digits, named, long, Except.error.inj (failed.symm.trans (named.eq_error long))⟩
      · cases failed.symm.trans (named.eq_ok short)
    · cases failed.symm.trans (controlFileId?_eq_none some)
  · rintro ⟨digits, named, long, rfl⟩
    exact named.eq_error long

/-- A name that is read is the name of a control file whose digits stand for the number. -/
theorem exists_digits_iff :
    controlFileId? name = .ok (some id) ↔
      ∃ digits, IsControlFileName digits name ∧ digits.length ≤ Numeral.maxDigits ∧
        id = Numeral.value digits := by
  rw [controlFileId?_eq_some_iff]
  constructor
  · rintro ⟨digits, proper, decimal, short, shape, same⟩
    rw [← toList_controlFileName, String.toList_inj] at shape
    exact ⟨digits, ⟨proper, decimal, shape⟩, short, same⟩
  · rintro ⟨digits, ⟨proper, decimal, rfl⟩, short, same⟩
    exact ⟨digits, proper, decimal, short, toList_controlFileName digits, same⟩

/-! ### Numbers in names -/

/-- A number in decimal digits, behind zeros. -/
def paddedDigits (zeros id : Nat) : List Char := List.replicate zeros '0' ++ Nat.toDigits 10 id

theorem length_paddedDigits :
    (paddedDigits zeros id).length = zeros + (Nat.toDigits 10 id).length := by
  simp [paddedDigits]

theorem value_paddedDigits : Numeral.value (paddedDigits zeros id) = id := by
  rw [paddedDigits, Numeral.value_replicate_zero, Numeral.value_toDigits]

theorem isControlFileName_paddedDigits (zeros id : Nat) :
    IsControlFileName (paddedDigits zeros id) (controlFileName (paddedDigits zeros id)) where
  proper := by simp [paddedDigits, Nat.toDigits_ne_nil]
  decimal := by
    intro c member
    rcases List.mem_append.mp member with zero | digit
    · rw [(List.mem_replicate.mp zero).2]
      rfl
    · exact Nat.isDigit_of_mem_toDigits (by omega) (by omega) digit
  shape := rfl

/-- The names of a number have its decimal digits behind zeros. -/
theorem exists_zeros_iff :
    controlFileId? name = .ok (some id) ↔
      ∃ zeros, zeros + (Nat.toDigits 10 id).length ≤ Numeral.maxDigits ∧
        name = controlFileName (paddedDigits zeros id) := by
  rw [exists_digits_iff]
  constructor
  · rintro ⟨digits, named, short, rfl⟩
    obtain ⟨zeros, shape⟩ := Numeral.exists_zeros_of_isDigit named.proper named.decimal
    refine ⟨zeros, ?_, ?_⟩
    · rw [← length_paddedDigits, paddedDigits, ← shape]
      exact short
    · rw [paddedDigits, ← shape]
      exact named.shape
  · rintro ⟨zeros, short, rfl⟩
    rw [← length_paddedDigits] at short
    exact ⟨_, isControlFileName_paddedDigits zeros id, short, value_paddedDigits.symm⟩

/-- Which names are read, and as which number. A name is read as a number exactly if it is the stem,
one to 4300 ASCII digits that stand for the number, and the ending; with more digits it fails, and
any other name is none of a control file. So the names of a number have its decimal digits between
stem and ending, with any zeros in front of them. -/
theorem controlFileId?_grammar (name : String) :
    (∀ id, controlFileId? name = .ok (some id) ↔
      ∃ digits, IsControlFileName digits name ∧ digits.length ≤ 4300 ∧
        id = Numeral.value digits) ∧
    (∀ failure, controlFileId? name = .error failure ↔
      ∃ digits, IsControlFileName digits name ∧ 4300 < digits.length ∧
        failure = .numeralTooLong digits.length) ∧
    (controlFileId? name = .ok none ↔ ¬ ∃ digits, IsControlFileName digits name) ∧
    (∀ id, (Nat.toDigits 10 id).length ≤ 4300 →
      controlFileId? (controlFileName (Nat.toDigits 10 id)) = .ok (some id)) ∧
    ∀ id, controlFileId? name = .ok (some id) ↔
      ∃ zeros, zeros + (Nat.toDigits 10 id).length ≤ 4300 ∧
        name = controlFileName (paddedDigits zeros id) := by
  refine ⟨fun id => exists_digits_iff, fun failure => controlFileId?_eq_error_iff,
    controlFileId?_eq_none_iff, ?_, fun id => exists_zeros_iff⟩
  -- The decimal digits of a number are those behind no zeros at all.
  intro id short
  apply exists_zeros_iff.mpr
  exact ⟨0, by rwa [Nat.zero_add], rfl⟩

theorem controlFileId?_seventeen :
    (Nat.toDigits 10 17).length ≤ 4300 ∧
      controlFileId? (controlFileName (Nat.toDigits 10 17)) = .ok (some 17) ∧
      controlFileId? "aie_runtime_control0017.asm" = .ok (some 17) := by
  have short : (Nat.toDigits 10 17).length ≤ 4300 := by decide
  have padded : "aie_runtime_control0017.asm" = controlFileName (paddedDigits 2 17) := by
    decide +kernel
  have grammar := controlFileId?_grammar "aie_runtime_control0017.asm"
  exact ⟨short, grammar.2.2.2.1 17 short, (grammar.2.2.2.2 17).mpr ⟨2, by decide, padded⟩⟩

example : controlFileId? "aie_runtime_control17.asm\n" = .ok none := by decide

end CounterTrace
