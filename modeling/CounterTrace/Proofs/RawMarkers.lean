import Mathlib.Data.List.Infix
import CounterTrace.Proofs.Decoding
import CounterTrace.Proofs.Markers

/-!
# Markers in raw bytes

The markers of a control file can be found without decoding it. The instruction, the blanks and the
digits behind it and the line feed are ASCII, and a decoded text shows the ASCII part of its bytes
as it is. A character beyond ASCII is no letter of the instruction, no blank, no digit and no line
feed, just as little as the bytes for which it stands. So both ways cut the same lines, find the
instruction at the same places and take the same digits, whatever bytes lie between them.

## Main definitions

* `RawMarker` — a marker as it stands in the bytes: its line and the digits of its index
* `RawMarker.scan` — the markers in bytes

## Main results

* `RawMarker.lexMarkers_decodeReplacing` — the markers of a decoded text are those in its bytes
* `RawMarker.readMarkers_eq_scan` — the markers of a control file are those in its bytes
-/

namespace CounterTrace

open Utf8 (asChar toNat_asChar Shows)

/-- A marker as it stands in bytes: the number of its line, counted from one, and the digits of its
index. -/
structure RawMarker where
  line : Nat
  digits : List UInt8
  deriving DecidableEq

namespace RawMarker

/-! ### Scanning bytes -/

/-- The word of the marker instruction in uppercase. -/
def instruction : List UInt8 :=
  [0x53, 0x41, 0x56, 0x45, 0x5F, 0x54, 0x49, 0x4D, 0x45, 0x53, 0x54, 0x41, 0x4D, 0x50, 0x53]

/-- An ASCII letter in uppercase, and any other byte as it is. -/
def upper (b : UInt8) : UInt8 := if 0x61 ≤ b ∧ b ≤ 0x7A then b - 0x20 else b

/-- Whether a byte is an ASCII blank. -/
def isBlank (b : UInt8) : Bool := (0x09 ≤ b && b ≤ 0x0D) || b == 0x20

/-- Whether a byte is an ASCII digit. -/
def isDigit (b : UInt8) : Bool := 0x30 ≤ b && b ≤ 0x39

/-- Whether bytes begin with the instruction, in any letter case. -/
def begins (bytes : List UInt8) : Bool := (bytes.take instruction.length).map upper == instruction

/-- The digits behind an instruction at the front and the blanks after it. -/
def digitsBehind (bytes : List UInt8) : List UInt8 :=
  ((bytes.drop instruction.length).dropWhile isBlank).takeWhile isDigit

/-- The digits behind the first instruction on a line, if there is one. -/
def digits? (line : List UInt8) : Option (List UInt8) := (line.tails.find? begins).map digitsBehind

/-- The markers on lines of which the first has the number `start`. -/
def scanLines (start : Nat) (lines : List (List UInt8)) : List RawMarker :=
  (lines.zipIdx start).filterMap fun numbered =>
    (digits? numbered.1).map fun digits => ⟨numbered.2, digits⟩

/-- The markers in bytes, line by line. -/
def scan (bytes : List UInt8) : List RawMarker := scanLines 1 (bytes.splitOn 0x0A)

/-- The number that digits stand for, most significant digit first. -/
def decimal (digits : List UInt8) : Nat := digits.foldl (fun n b => 10 * n + (b.toNat - 0x30)) 0

/-- The index of a marker, minus one where it has no digits. -/
def index (found : RawMarker) : Int := if found.digits.isEmpty then -1 else decimal found.digits

/-- The marker as it is reported. -/
def toMarker (found : RawMarker) : Marker :=
  ⟨found.line, if found.digits.isEmpty then none else some (decimal found.digits)⟩

variable {bytes line run : List UInt8} {text tail : List Char} {b : UInt8}
  {pieces : List (List UInt8)} {lines : List (List Char)} {start : Nat} {lexer : Lexer}
  {files : FileSystem} {path : String}

theorem shownIndex_toMarker (found : RawMarker) : found.toMarker.shownIndex = found.index := by
  rw [toMarker, index, Marker.shownIndex]
  split
  · rfl
  · rfl

/-- Digits stand for the same number as their characters. -/
theorem value_map_asChar (digits : List UInt8) :
    Numeral.value (digits.map asChar) = decimal digits := by
  simp only [Numeral.value, decimal, List.foldl_map, toNat_asChar]

/-! ### Bytes and their characters -/

private theorem forall_ascii {P : UInt8 → Prop} (tested : ∀ n < 0x80, P (UInt8.ofNat n))
    (low : b < 0x80) : P b := by
  rw [← UInt8.ofNat_toNat (x := b)]
  exact tested b.toNat (UInt8.lt_iff_toNat_lt.mp low)

private theorem toUpper_asChar (low : b < 0x80) : (asChar b).toUpper = asChar (upper b) :=
  forall_ascii (P := fun b => (asChar b).toUpper = asChar (upper b)) (by decide +kernel) low

private theorem isAsciiBlank_asChar (low : b < 0x80) : Text.isAsciiBlank (asChar b) = isBlank b :=
  forall_ascii (P := fun b => Text.isAsciiBlank (asChar b) = isBlank b) (by decide +kernel) low

private theorem isDigit_asChar (low : b < 0x80) : (asChar b).isDigit = isDigit b :=
  forall_ascii (P := fun b => (asChar b).isDigit = isDigit b) (by decide +kernel) low

private theorem upper_of_high (high : 0x80 ≤ b) : upper b = b := by
  rw [UInt8.le_iff_toNat_le] at high
  have notLetter : ¬ (0x61 ≤ b ∧ b ≤ 0x7A) := by
    rw [UInt8.le_iff_toNat_le, UInt8.le_iff_toNat_le]
    simp at high ⊢
    omega
  rw [upper, if_neg notLetter]

private theorem isBlank_of_high (high : 0x80 ≤ b) : isBlank b = false := by
  rw [UInt8.le_iff_toNat_le] at high
  simp [isBlank, UInt8.le_iff_toNat_le, ← UInt8.toNat_inj] at high ⊢
  omega

private theorem isDigit_of_high (high : 0x80 ≤ b) : isDigit b = false := by
  rw [UInt8.le_iff_toNat_le] at high
  simp [isDigit, UInt8.le_iff_toNat_le] at high ⊢
  omega

variable {c : Char}

private theorem toUpper_of_beyond (beyond : 0x80 ≤ c.toNat) : c.toUpper = c := by
  have notLetter : ¬ ('a'.val ≤ c.val ∧ c.val ≤ 'z'.val) := by
    rw [UInt32.le_iff_toNat_le, UInt32.le_iff_toNat_le]
    simp
    omega
  exact dif_neg notLetter

private theorem isAsciiBlank_of_beyond (beyond : 0x80 ≤ c.toNat) :
    Text.isAsciiBlank c = false := by
  simp [Text.isAsciiBlank]
  omega

private theorem isDigit_of_beyond (beyond : 0x80 ≤ c.toNat) : c.isDigit = false := by
  simp [Char.isDigit, UInt32.le_iff_toNat_le]
  omega

variable {expected : UInt8}

private theorem sameLetter_asChar (low : b < 0x80) :
    Rule.sameLetter (asChar expected) (asChar b) = (upper b == expected) := by
  have lowUpper : upper b < 0x80 :=
    forall_ascii (P := fun b => upper b < 0x80) (by decide +kernel) low
  rw [Rule.sameLetter, toUpper_asChar low, Bool.eq_iff_iff, beq_iff_eq, beq_iff_eq]
  constructor
  · intro same
    rw [← UInt8.toNat_inj, ← toNat_asChar, same, toNat_asChar]
  · intro same
    rw [same]

private theorem sameLetter_of_beyond (letter : expected < 0x80) (beyond : 0x80 ≤ c.toNat) :
    Rule.sameLetter (asChar expected) c = false := by
  rw [Rule.sameLetter, toUpper_of_beyond beyond, beq_eq_false_iff_ne]
  rintro rfl
  rw [toNat_asChar] at beyond
  rw [UInt8.lt_iff_toNat_lt] at letter
  exact Nat.not_lt.mpr beyond letter

/-! ### One line -/

/-- A word at the front of a line: it is at the front of the bytes if it is at the front of the
text, and what follows in the text shows what follows in the bytes. -/
private theorem after?_of_shows (letters : List UInt8)
    (plain : ∀ letter ∈ letters, letter < 0x80 ∧ letter ≠ 0x0A) (ends : tail = [] ∨ tail = ['\n'])
    (shown : Shows bytes text) :
    ((bytes.take letters.length).map upper = letters ∧ ∃ rest,
        Rule.after? Rule.sameLetter (letters.map asChar) (text ++ tail) = some (rest ++ tail) ∧
        Shows (bytes.drop letters.length) rest) ∨
      (bytes.take letters.length).map upper ≠ letters ∧
        Rule.after? Rule.sameLetter (letters.map asChar) (text ++ tail) = none := by
  induction letters generalizing bytes text with
  | nil => exact Or.inl ⟨rfl, text, rfl, shown⟩
  | cons expected letters ih =>
    obtain ⟨⟨letter, notEnd⟩, others⟩ := List.forall_mem_cons.mp plain
    rw [List.map_cons]
    cases shown with
    | nil =>
      refine Or.inr ⟨by simp, ?_⟩
      rcases ends with rfl | rfl
      · rfl
      · have different : Rule.sameLetter (asChar expected) '\n' = false := by
          rw [show '\n' = asChar 0x0A from rfl, sameLetter_asChar (by decide),
            beq_eq_false_iff_ne]
          exact fun same => notEnd same.symm
        rw [List.nil_append, Rule.after?, if_neg (by simp [different])]
    | @ascii b bytes text low onward =>
      rw [List.cons_append, Rule.after?, sameLetter_asChar low]
      by_cases same : upper b = expected
      · simpa [same] using ih others onward
      · simp [same]
    | @other run bytes c text proper high beyond onward =>
      obtain ⟨first, run, rfl⟩ := List.exists_cons_of_ne_nil proper
      have firstHigh := high first List.mem_cons_self
      have different : upper first ≠ expected := by
        rw [upper_of_high firstHigh]
        rintro rfl
        exact absurd letter (UInt8.not_lt.mpr firstHigh)
      have missed : Rule.after? Rule.sameLetter (asChar expected :: letters.map asChar)
          (c :: (text ++ tail)) = none := by
        rw [Rule.after?, sameLetter_of_beyond letter beyond, if_neg Bool.false_ne_true]
      exact Or.inr ⟨by simp [different], missed⟩

/-- The digits at the front of a text are those at the front of its bytes. -/
private theorem takeWhile_of_shows (ends : tail = [] ∨ tail = ['\n']) (shown : Shows bytes text) :
    (text ++ tail).takeWhile Char.isDigit = (bytes.takeWhile isDigit).map asChar := by
  induction shown with
  | nil => rcases ends with rfl | rfl <;> rfl
  | @ascii b bytes text low onward ih =>
    rw [List.cons_append, List.takeWhile_cons, List.takeWhile_cons, isDigit_asChar low, ih]
    split <;> rfl
  | @other run bytes c text proper high beyond onward ih =>
    obtain ⟨first, run, rfl⟩ := List.exists_cons_of_ne_nil proper
    simp [isDigit_of_beyond beyond, isDigit_of_high (high first List.mem_cons_self)]

/-- The digits behind the blanks at the front of a text are those behind the blanks at the front of
its bytes. -/
private theorem digits_of_shows (ends : tail = [] ∨ tail = ['\n']) (shown : Shows bytes text) :
    ((text ++ tail).dropWhile Text.isAsciiBlank).takeWhile Char.isDigit =
      ((bytes.dropWhile isBlank).takeWhile isDigit).map asChar := by
  induction shown with
  | nil => rcases ends with rfl | rfl <;> rfl
  | @ascii b bytes text low onward ih =>
    rw [List.cons_append, List.dropWhile_cons, List.dropWhile_cons, isAsciiBlank_asChar low]
    split
    · exact ih
    · exact takeWhile_of_shows ends (.ascii low onward)
  | @other run bytes c text proper high beyond onward ih =>
    obtain ⟨first, run, rfl⟩ := List.exists_cons_of_ne_nil proper
    simp [isAsciiBlank_of_beyond beyond, isDigit_of_beyond beyond,
      isBlank_of_high (high first List.mem_cons_self),
      isDigit_of_high (high first List.mem_cons_self)]

private theorem instruction_eq : Rule.instruction = instruction.map asChar := by decide

/-- The marker rule at the front of a text. -/
private theorem markerAt?_of_shows (ends : tail = [] ∨ tail = ['\n']) (position : Nat)
    (shown : Shows bytes text) :
    (Rule.markerAt? position (text ++ tail)).map Match.digits =
      if begins bytes then some ((digitsBehind bytes).map asChar) else none := by
  have plain : ∀ letter ∈ instruction, letter < 0x80 ∧ letter ≠ 0x0A := by simp [instruction]
  rw [Rule.markerAt?, instruction_eq]
  rcases after?_of_shows instruction plain ends shown with ⟨front, rest, met, behind⟩ | ⟨front, met⟩
  · rw [begins, if_pos (beq_iff_eq.mpr front), met, Option.map_some, digits_of_shows ends behind,
      digitsBehind]
  · rw [begins, if_neg (mt beq_iff_eq.mp front), met, Option.map_none]

private theorem digits?_cons :
    digits? (b :: bytes) =
      (if begins (b :: bytes) then some (digitsBehind (b :: bytes)) else none).or
        (digits? bytes) := by
  rw [digits?, List.tails_cons, List.find?_cons]
  cases begins (b :: bytes) with
  | false => rfl
  | true => rfl

private theorem begins_of_high (high : 0x80 ≤ b) : begins (b :: bytes) = false := by
  have notLetter : b ≠ 0x53 := by
    rintro rfl
    exact absurd high (by decide)
  simp [begins, instruction, upper_of_high high, notLetter]

/-- Bytes beyond ASCII are passed over. -/
private theorem digits?_of_high (high : ∀ b ∈ run, 0x80 ≤ b) :
    digits? (run ++ bytes) = digits? bytes := by
  induction run with
  | nil => rfl
  | cons first run ih =>
    obtain ⟨firstHigh, others⟩ := List.forall_mem_cons.mp high
    rw [List.cons_append, digits?_cons, begins_of_high firstHigh, ih others]
    rfl

/-- The marker rule on a line takes the digits that stand in the bytes. -/
private theorem match?_of_shows (ends : tail = [] ∨ tail = ['\n']) (shown : Shows bytes text) :
    (Rule.saveTimestamps.match? (text ++ tail)).map Match.digits =
      (digits? bytes).map (List.map asChar) := by
  rw [Rule.match?]
  -- The search moves on through the text, so its position is left open.
  generalize (0 : Nat) = position
  induction shown generalizing position with
  | nil => rcases ends with rfl | rfl <;> rfl
  | @ascii b bytes text low onward ih =>
    have front := markerAt?_of_shows ends position (.ascii low onward)
    rw [List.cons_append] at front ⊢
    rw [Rule.digits_findMarker?_cons, digits?_cons, front, ih]
    split <;> rfl
  | @other run bytes c text proper high beyond onward ih =>
    have front := markerAt?_of_shows ends position (.other proper high beyond onward)
    have missed : begins (run ++ bytes) = false := by
      obtain ⟨first, run, rfl⟩ := List.exists_cons_of_ne_nil proper
      exact begins_of_high (high first List.mem_cons_self)
    rw [missed, if_neg Bool.false_ne_true, List.cons_append] at front
    rw [List.cons_append, Rule.digits_findMarker?_cons, front, ih, digits?_of_high high]
    rfl

/-! ### All lines -/

/-- The lines of a text show the pieces into which its bytes fall at the line feeds. The last piece
gives a line only if there is something in it. -/
private inductive Lined : List (List UInt8) → List (List Char) → Prop
  | done : Lined [[]] []
  | last {piece : List UInt8} {shown : List Char} (shows : Shows piece shown) :
      Lined [piece] [shown]
  | more {piece : List UInt8} {shown : List Char} {pieces : List (List UInt8)}
      {lines : List (List Char)} (shows : Shows piece shown) (onward : Lined pieces lines) :
      Lined (piece :: pieces) ((shown ++ ['\n']) :: lines)

private theorem lined_linesFrom {before : List UInt8} {begun : List Char}
    (first : Shows before begun.reverse) (whole : 0x0A ∉ before) (shown : Shows bytes text) :
    Lined ((before ++ bytes).splitOn 0x0A) (Text.linesFrom begun text) := by
  -- What has been read of a line is shown by what has begun of it, and holds no line feed.
  induction shown generalizing before begun with
  | nil =>
    rw [List.append_nil, List.splitOn_eq_singleton whole, Text.linesFrom]
    cases begun with
    | nil =>
      rw [List.reverse_nil] at first
      cases first
      exact .done
    | cons c begun => exact .last first
  | @ascii b bytes text low onward ih =>
    rw [Text.linesFrom]
    by_cases lineFeed : b = 0x0A
    · subst lineFeed
      rw [List.splitOn_append_cons_self_of_not_mem whole, if_pos (show asChar 0x0A = '\n' from rfl),
        List.reverse_cons]
      exact .more first (ih .nil List.not_mem_nil)
    · have different : asChar b ≠ '\n' := by
        intro same
        rw [← UInt8.toNat_inj, ← toNat_asChar, same] at lineFeed
        exact lineFeed rfl
      rw [if_neg different, List.append_cons]
      apply ih
      · rw [List.reverse_cons]
        exact first.append (.ascii low .nil)
      · intro member
        rcases List.mem_append.mp member with early | late
        · exact whole early
        · exact lineFeed (List.mem_singleton.mp late).symm
  | @other run bytes c text proper high beyond onward ih =>
    have different : c ≠ '\n' := by
      rintro rfl
      exact absurd beyond (by decide)
    rw [Text.linesFrom, if_neg different, ← List.append_assoc]
    apply ih
    · rw [List.reverse_cons]
      exact first.concat_other proper high beyond
    · intro member
      rcases List.mem_append.mp member with early | late
      · exact whole early
      · exact absurd (high _ late) (by decide)

/-- A line has the marker that stands in its bytes, unless its index is too long. -/
private theorem onLine_of_shows (ends : tail = [] ∨ tail = ['\n']) (shown : Shows bytes text)
    (number : Nat) :
    Marker.onLine .saveTimestamps number (text ++ tail) =
      match digits? bytes with
      | none => .ok none
      | some digits =>
        if digits.length ≤ Numeral.maxDigits then .ok (some (toMarker ⟨number, digits⟩))
        else .error (.numeralTooLong digits.length) := by
  have taken := match?_of_shows ends shown
  rw [Marker.onLine]
  cases known : digits? bytes with
  | none =>
    rw [known, Option.map_none, Option.map_eq_none_iff] at taken
    rw [taken]
  | some digits =>
    rw [known] at taken
    obtain ⟨found, met, same⟩ := Option.map_eq_some_iff.mp taken
    rw [met]
    dsimp only
    rw [same, List.isEmpty_map, toMarker]
    have length : (digits.map asChar).length = digits.length := List.length_map asChar
    by_cases none : digits.isEmpty
    · rw [if_pos none, if_pos none, List.isEmpty_iff.mp none]
      rfl
    · rw [if_neg none, if_neg none]
      split
      · rename_i short
        rw [Failure.readNumeral_eq_ok (length.trans_le short), value_map_asChar]
        rfl
      · rename_i long
        rw [Failure.readNumeral_eq_error (by omega), length]
        rfl

private theorem scanLines_cons (number : Nat) :
    scanLines number (line :: pieces) =
      ((digits? line).map fun digits => ⟨number, digits⟩).toList ++
        scanLines (number + 1) pieces := by
  rw [scanLines, List.zipIdx_cons, List.filterMap_cons]
  cases digits? line with
  | none => rfl
  | some digits => rfl

/-- Whether the index of a marker has more digits than are read. -/
def isTooLong (found : RawMarker) : Bool := Numeral.maxDigits < found.digits.length

/-- The markers in bytes behind earlier ones, up to the first with an index that is too long. -/
def reading (earlier : List Marker) (found : List RawMarker) : Except Failure (List Marker) :=
  match found.find? isTooLong with
  | none => .ok (earlier ++ found.map toMarker)
  | some long => .error (.numeralTooLong long.digits.length)

theorem reading_of_short {earlier : List Marker} {found : List RawMarker}
    (short : ∀ marker ∈ found, marker.digits.length ≤ Numeral.maxDigits) :
    reading earlier found = .ok (earlier ++ found.map toMarker) := by
  have none : found.find? isTooLong = none := by
    rw [List.find?_eq_none]
    intro marker member
    rw [isTooLong, decide_eq_true_iff]
    exact Nat.not_lt.mpr (short marker member)
  rw [reading, none]

/-- An index that is too long is at fault, though perhaps not the one that is known to be. -/
theorem exists_reading_eq_error {earlier : List Marker} {found : List RawMarker}
    {marker : RawMarker} (member : marker ∈ found)
    (long : Numeral.maxDigits < marker.digits.length) :
    ∃ first ∈ found, Numeral.maxDigits < first.digits.length ∧
      reading earlier found = .error (.numeralTooLong first.digits.length) := by
  have some : (found.find? isTooLong).isSome :=
    List.find?_isSome.mpr ⟨marker, member, decide_eq_true long⟩
  obtain ⟨first, met⟩ := Option.isSome_iff_exists.mp some
  have firstLong : isTooLong first = true := List.find?_some met
  refine ⟨first, List.mem_of_find?_eq_some met, of_decide_eq_true firstLong, ?_⟩
  rw [reading, met]

private theorem reading_cons (found : RawMarker) (more : List RawMarker) :
    reading [] (found :: more) =
      if found.digits.length ≤ Numeral.maxDigits then (reading [] more).map (toMarker found :: ·)
      else .error (.numeralTooLong found.digits.length) := by
  rw [reading, List.find?_cons, isTooLong]
  by_cases short : found.digits.length ≤ Numeral.maxDigits
  · rw [if_pos short, decide_eq_false (Nat.not_lt.mpr short), reading]
    cases more.find? isTooLong with
    | none => rfl
    | some long => rfl
  · rw [if_neg short, decide_eq_true (Nat.not_le.mp short)]

/-- One more line at the front. -/
private theorem onLines_cons_of_shows (ends : tail = [] ∨ tail = ['\n']) (shown : Shows line text)
    (onward : Marker.onLines .saveTimestamps (start + 1) lines =
      reading [] (scanLines (start + 1) pieces)) :
    Marker.onLines .saveTimestamps start ((text ++ tail) :: lines) =
      reading [] (scanLines start (line :: pieces)) := by
  rw [Marker.onLines, onLine_of_shows ends shown, scanLines_cons, onward]
  cases digits? line with
  | none =>
    rw [Option.map_none, Option.toList_none, List.nil_append]
    rcases reading [] (scanLines (start + 1) pieces) with failure | later
    · rfl
    · rfl
  | some digits =>
    rw [Option.map_some, Option.toList_some, List.singleton_append, reading_cons]
    dsimp only
    split
    · rcases reading [] (scanLines (start + 1) pieces) with failure | later
      · rfl
      · rfl
    · rfl

/-- The markers on lines are those that stand in their bytes. -/
private theorem onLines_of_lined (lined : Lined pieces lines) :
    Marker.onLines .saveTimestamps start lines = reading [] (scanLines start pieces) := by
  induction lined generalizing start with
  | done =>
    have nothing : digits? [] = none := by decide
    simp [Marker.onLines, scanLines, reading, nothing]
  | @last piece shown shows =>
    rw [← List.append_nil shown]
    exact onLines_cons_of_shows (Or.inl rfl) shows rfl
  | more shows onward ih => exact onLines_cons_of_shows (Or.inr rfl) shows ih

/-- The markers of a decoded text are those that stand in its bytes. -/
theorem lexMarkers_decodeReplacing (bytes : List UInt8) :
    lexMarkers (Utf8.decodeReplacing bytes) = reading [] (scan bytes) := by
  have nothing : Shows [] (List.reverse []) := .nil
  rw [lexMarkers_eq_onLines, scan]
  exact onLines_of_lined
    (lined_linesFrom nothing List.not_mem_nil (Utf8.shows_decodeReplacing bytes))

/-- The markers of a control file that can be opened are read off its bytes. -/
theorem markersAt_eq_reading (opened : files.readPermitted path = .ok bytes) :
    ControlFile.markersAt files path = reading [] (scan bytes) := by
  rw [ControlFile.markersAt, opened]
  exact lexMarkers_decodeReplacing bytes

theorem isSome_digits?_iff :
    (digits? line).isSome ↔ ∃ word, word <:+: line ∧ word.map upper = instruction := by
  rw [digits?, Option.isSome_map, List.find?_isSome]
  constructor
  · rintro ⟨rest, member, front⟩
    have suffix := (List.mem_tails rest line).mp member
    exact ⟨rest.take instruction.length,
      (List.take_prefix _ _).isInfix.trans suffix.isInfix, beq_iff_eq.mp front⟩
  · rintro ⟨word, ⟨before, after, rfl⟩, same⟩
    have length : word.length = instruction.length := by rw [← same, List.length_map]
    refine ⟨word ++ after, (List.mem_tails _ _).mpr ⟨before, by simp⟩, ?_⟩
    rw [begins, List.take_left' length, same, beq_self_eq_true]

theorem mem_scanLines {found : RawMarker} :
    found ∈ scanLines start pieces ↔ ∃ line, start ≤ found.line ∧
      pieces[found.line - start]? = some line ∧ digits? line = some found.digits := by
  obtain ⟨number, digits⟩ := found
  simp only [scanLines, List.mem_filterMap, Prod.exists,
    List.mk_mem_zipIdx_iff_le_and_getElem?_sub, Option.map_eq_some_iff, mk.injEq]
  constructor
  · rintro ⟨line, _, ⟨low, here⟩, _, taken, rfl, rfl⟩
    exact ⟨line, low, here, taken⟩
  · rintro ⟨line, low, here, taken⟩
    exact ⟨line, number, ⟨low, here⟩, digits, taken, rfl, rfl⟩

/-- A line has a marker exactly if the instruction stands somewhere in it. -/
theorem exists_mem_scan_iff {number : Nat} :
    (∃ found ∈ scan bytes, found.line = number) ↔
      ∃ line word, 1 ≤ number ∧ (bytes.splitOn 0x0A)[number - 1]? = some line ∧
        word <:+: line ∧ word.map upper = instruction := by
  constructor
  · rintro ⟨found, member, rfl⟩
    obtain ⟨line, low, here, taken⟩ := mem_scanLines.mp member
    obtain ⟨word, inside, same⟩ := isSome_digits?_iff.mp (Option.isSome_of_eq_some taken)
    exact ⟨line, word, low, here, inside, same⟩
  · rintro ⟨line, word, low, here, inside, same⟩
    obtain ⟨digits, taken⟩ :=
      Option.isSome_iff_exists.mp (isSome_digits?_iff.mpr ⟨word, inside, same⟩)
    exact ⟨⟨number, digits⟩, mem_scanLines.mpr ⟨line, low, here, taken⟩, rfl⟩

/-- The numbers of the lines ascend. -/
theorem pairwise_scanLines : (scanLines start pieces).Pairwise (·.line < ·.line) := by
  induction pieces generalizing start with
  | nil => exact List.Pairwise.nil
  | cons line pieces ih =>
    rw [scanLines_cons]
    cases digits? line with
    | none => exact ih
    | some digits =>
      refine List.pairwise_cons.mpr ⟨fun found member => ?_, ih⟩
      obtain ⟨-, low, -⟩ := mem_scanLines.mp member
      exact low

/-- The markers of a control file that can be opened are those that stand in its bytes. Each line in
which the instruction stands in any letter case has one marker, in the order of the lines, with the
number behind it as index. The report counts them, unless an index has more than 4300 digits: then
there are none, and one warning. -/
theorem readMarkers_eq_scan (opened : files.readPermitted path = .ok bytes) :
    ((∀ found ∈ scan bytes, found.digits.length ≤ 4300) →
      ControlFile.readMarkers files path =
        ⟨[⟨.debug, "Found " ++ Numeral.text (scan bytes).length ++ " SAVE_TIMESTAMPS in " ++ path⟩],
          .ok ((scan bytes).map toMarker)⟩) ∧
    ((∃ found ∈ scan bytes, 4300 < found.digits.length) →
      ∃ long ∈ scan bytes, 4300 < long.digits.length ∧
        ControlFile.readMarkers files path =
          ⟨[⟨.warning, "Error parsing SAVE_TIMESTAMPS in " ++ path ++ ": " ++
              (Failure.numeralTooLong long.digits.length).message⟩], .ok []⟩) ∧
    (∀ found : RawMarker,
      found.toMarker.line = found.line ∧ found.toMarker.shownIndex = found.index) ∧
    (scan bytes).Pairwise (·.line < ·.line) ∧
    ∀ number, (∃ found ∈ scan bytes, found.line = number) ↔
      ∃ line word, 1 ≤ number ∧ (bytes.splitOn 0x0A)[number - 1]? = some line ∧
        word <:+: line ∧ word.map upper = instruction := by
  have markers : ControlFile.markersAt files path = reading [] (scan bytes) := by
    rw [ControlFile.markersAt, opened]
    exact lexMarkers_decodeReplacing bytes
  refine ⟨fun short => ?_, fun exceeded => ?_,
    fun found => ⟨rfl, shownIndex_toMarker found⟩, pairwise_scanLines,
    fun number => exists_mem_scan_iff⟩
  · rw [ControlFile.readMarkers, markers, reading_of_short short, List.nil_append]
    simp [ControlFile.markersMessage, Except.toOption]
  · obtain ⟨found, member, long⟩ := exceeded
    obtain ⟨first, among, firstLong, failed⟩ := exists_reading_eq_error member long
    refine ⟨first, among, firstLong, ?_⟩
    rw [ControlFile.readMarkers, markers, failed]
    rfl

/-- Three lines, broken up by truncated and by stray bytes: a mixed-case marker with an index behind
a character that breaks off, nothing, and a marker of which a no-break space keeps away a digit. -/
def brokenBytes : List UInt8 :=
  [0xE2, 0x82] ++ Utf8.encode "save_TimeStamps\t7".toList ++ [0xF0, 0x0A, 0xFF, 0xC3, 0x0A, 0xED] ++
    instruction ++ [0xC2, 0xA0, 0x38]

/-- A control file with these bytes. -/
def brokenFiles : FileSystem :=
  ⟨.directory [("aie_runtime_control0.asm", .file brokenBytes)], [], []⟩

theorem readMarkers_brokenFiles :
    brokenFiles.readPermitted "/aie_runtime_control0.asm" = .ok brokenBytes ∧
      ControlFile.readMarkers brokenFiles "/aie_runtime_control0.asm" =
        ⟨[⟨.debug, "Found 2 SAVE_TIMESTAMPS in /aie_runtime_control0.asm"⟩],
          .ok [⟨1, some 7⟩, ⟨3, none⟩]⟩ := by
  have opened : brokenFiles.readPermitted "/aie_runtime_control0.asm" = .ok brokenBytes := rfl
  have scanned : scan brokenBytes = [⟨1, [0x37]⟩, ⟨3, []⟩] := by decide +kernel
  have short : ∀ found ∈ scan brokenBytes, found.digits.length ≤ 4300 := by
    rw [scanned]
    decide
  refine ⟨opened, ?_⟩
  rw [(readMarkers_eq_scan opened).1 short, scanned]
  rfl

end RawMarker

end CounterTrace
