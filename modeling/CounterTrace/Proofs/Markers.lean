import Mathlib.Data.List.Basic
import CounterTrace.ControlFile.Markers
import CounterTrace.Proofs.Numerals

/-!
# The lines of markers

The lexer counts the lines that it reads, so that the markers of a text stand on exactly the lines
that the marker rule matches, in order. It fails exactly where an index is too long. The markers of
a control file are therefore those lines, as long as the file can be read and no index in it is too
long, and none otherwise.

## Main definitions

* `Rule.matchingLines` — the numbers of the lines that a rule matches
* `Rule.isOverlong` — a line whose index is too long
* `Rule.markersOn` — the markers on numbered lines
* `Marker.onLines` — the markers on numbered lines, or the first failure
* `ControlFile.Legible` — a control file whose markers can be read
* `ControlFile.IsMarkerLine` — the number of a line with a marker

## Main results

* `Rule.after?_sameLetter` — the word of the marker rule, in uppercase, at the front of a text
* `Lexer.runOn_result`, `Lexer.run_result` — a run gives the markers on its lines
* `lexMarkers_lines` — the markers of a text stand on the matching lines
* `exists_lexMarkers_eq_ok_iff` — which texts have markers
* `ControlFile.exists_lines_markersOf` — the markers of a control file stand on its marker lines
-/

namespace CounterTrace

variable {rule : Rule} {text line : List Char} {lines : List (List Char)} {number start : Nat}
  {lexer : Lexer} {files : FileSystem} {path : String}

/-! ### Letter case -/

namespace Text

/-- The uppercase of a character by its number. -/
theorem toNat_toUpper (c : Char) :
    c.toUpper.toNat = if 97 ≤ c.toNat ∧ c.toNat ≤ 122 then c.toNat - 32 else c.toNat := by
  have number : c.toUpper.val = if 'a'.val ≤ c.val ∧ c.val ≤ 'z'.val then
      c.val + ('A'.val - 'a'.val) else c.val := apply_dite Char.val _ _ _
  have down : ('A'.val - 'a'.val).toNat = 2 ^ 32 - 32 := by decide
  rw [← Char.toNat_val, number]
  simp only [UInt32.le_iff_toNat_le]
  split
  case isTrue lower =>
    have bounds : 97 ≤ c.toNat ∧ c.toNat ≤ 122 := lower
    rw [if_pos bounds, UInt32.toNat_add, down, Char.toNat_val]
    omega
  case isFalse other => exact (if_neg other).symm

/-- The lowercase of a character by its number. -/
theorem toNat_toLower (c : Char) :
    c.toLower.toNat = if 65 ≤ c.toNat ∧ c.toNat ≤ 90 then c.toNat + 32 else c.toNat := by
  have number : c.toLower.val = if 'A'.val ≤ c.val ∧ c.val ≤ 'Z'.val then
      c.val + ('a'.val - 'A'.val) else c.val := apply_dite Char.val _ _ _
  have up : ('a'.val - 'A'.val).toNat = 32 := by decide
  rw [← Char.toNat_val, number]
  simp only [UInt32.le_iff_toNat_le]
  split
  case isTrue upper =>
    have bounds : 65 ≤ c.toNat ∧ c.toNat ≤ 90 := upper
    rw [if_pos bounds, UInt32.toNat_add, up, Char.toNat_val]
    omega
  case isFalse other => exact (if_neg other).symm

end Text

/-! ### Matching lines -/

namespace Rule

/-- A word is in front of a text if its characters are, in uppercase, the first of the text. -/
theorem after?_sameLetter (word text : List Char) :
    after? sameLetter word text =
      if (text.take word.length).map Char.toUpper = word then some (text.drop word.length)
      else none := by
  induction word generalizing text with
  | nil => simp [after?]
  | cons expected word ih =>
    cases text with
    | nil => simp [after?]
    | cons c text =>
      rw [after?, ih, sameLetter]
      by_cases same : c.toUpper = expected
      · simp [same]
      · simp [same]

/-- What does not begin with a marker is searched from its next character on. -/
theorem digits_findMarker?_cons (position : Nat) (c : Char) (text : List Char) :
    (findMarker? position (c :: text)).map Match.digits =
      ((markerAt? position (c :: text)).map Match.digits).or
        ((findMarker? (position + 1) text).map Match.digits) := by
  rw [findMarker?]
  cases markerAt? position (c :: text) with
  | none => rfl
  | some found => rfl

/-- The numbers of the lines that a rule matches, if the first line has the number `start`. -/
def matchingLines (rule : Rule) (start : Nat) (lines : List (List Char)) : List Nat :=
  (lines.zipIdx start).filterMap fun entry =>
    if (rule.match? entry.1).isSome then some entry.2 else none

theorem matchingLines_cons :
    rule.matchingLines start (line :: lines) =
      (if (rule.match? line).isSome then [start] else []) ++
        rule.matchingLines (start + 1) lines := by
  rw [matchingLines, List.zipIdx_cons, List.filterMap_cons]
  split <;> simp_all [matchingLines]

theorem mem_matchingLines :
    number ∈ rule.matchingLines start lines ↔
      ∃ line, start ≤ number ∧ lines[number - start]? = some line ∧ (rule.match? line).isSome := by
  simp only [matchingLines, List.mem_filterMap, Prod.exists,
    List.mk_mem_zipIdx_iff_le_and_getElem?_sub]
  constructor
  · rintro ⟨line, index, ⟨low, found⟩, shown⟩
    split at shown
    · rename_i matched
      obtain rfl := Option.some_inj.mp shown
      exact ⟨line, low, found, matched⟩
    · cases shown
  · rintro ⟨line, low, found, matched⟩
    exact ⟨line, number, ⟨low, found⟩, if_pos matched⟩

/-- The numbers of matching lines ascend. -/
theorem pairwise_matchingLines : (rule.matchingLines start lines).Pairwise (· < ·) := by
  induction lines generalizing start with
  | nil => exact List.Pairwise.nil
  | cons line lines ih =>
    rw [matchingLines_cons]
    split
    -- The numbers of later lines are greater than that of the first.
    · refine List.pairwise_cons.mpr ⟨fun number member => ?_, ih⟩
      obtain ⟨-, low, -⟩ := mem_matchingLines.mp member
      omega
    · exact ih

/-- Whether the index on a line has more digits than are read. -/
def isOverlong (rule : Rule) (line : List Char) : Bool :=
  (rule.match? line).any fun found => Numeral.maxDigits < found.digits.length

theorem not_isOverlong_iff :
    ¬ rule.isOverlong line ↔
      ∀ found, rule.match? line = some found → found.digits.length ≤ Numeral.maxDigits := by
  simp [isOverlong, Option.any_eq_true]

/-- The marker on a numbered line, as far as its index may be read. -/
def markerOn? (rule : Rule) (number : Nat) (line : List Char) : Option Marker :=
  (rule.match? line).map fun found =>
    ⟨number, if found.digits.isEmpty then none else some (Numeral.value found.digits)⟩

/-- The markers on lines of which the first has the number `start`. -/
def markersOn (rule : Rule) (start : Nat) (lines : List (List Char)) : List Marker :=
  (lines.zipIdx start).filterMap fun entry => rule.markerOn? entry.2 entry.1

theorem markersOn_cons :
    rule.markersOn start (line :: lines) =
      (rule.markerOn? start line).toList ++ rule.markersOn (start + 1) lines := by
  rw [markersOn, List.zipIdx_cons, List.filterMap_cons]
  cases rule.markerOn? start line with
  | none => rfl
  | some marker => rfl

/-- Markers stand on the lines that the rule matches. -/
theorem map_line_markersOn :
    (rule.markersOn start lines).map (·.line) = (rule.matchingLines start lines).map Nat.cast := by
  induction lines generalizing start with
  | nil => rfl
  | cons line lines ih =>
    rw [markersOn_cons, matchingLines_cons, List.map_append, List.map_append, ih, markerOn?]
    cases rule.match? line with
    | none => rfl
    | some found => rfl

end Rule

/-! ### Markers on lines -/

namespace Marker

/-- A line whose index is not too long gives its marker. -/
theorem onLine_of_not_isOverlong (readable : ¬ rule.isOverlong line) :
    onLine rule number line = .ok (rule.markerOn? number line) := by
  rw [onLine, Rule.markerOn?]
  cases matched : rule.match? line with
  | none => rfl
  | some found =>
    have short := Rule.not_isOverlong_iff.mp readable found matched
    dsimp only [Option.map_some]
    rw [Failure.readNumeral_eq_ok short]
    split
    · rfl
    · rfl

/-- A line whose index is too long fails, and tells how many digits there are. -/
theorem onLine_of_isOverlong (overlong : rule.isOverlong line) :
    ∃ digits, Numeral.maxDigits < digits ∧
      ∀ number, onLine rule number line = .error (.numeralTooLong digits) := by
  obtain ⟨found, matched, long⟩ := (Option.any_eq_true _ _).mp overlong
  rw [decide_eq_true_eq] at long
  refine ⟨found.digits.length, long, fun number => ?_⟩
  -- An index that is too long is not a missing one.
  have proper : found.digits ≠ [] := by
    intro empty
    simp [empty] at long
  rw [onLine, matched]
  dsimp only
  rw [if_neg (by simpa using proper), Failure.readNumeral_eq_error long]
  rfl

/-- The marker on a line has the number of the line. -/
theorem line_of_onLine {marker : Marker} (shown : onLine rule number line = .ok (some marker)) :
    marker.line = number := by
  by_cases overlong : rule.isOverlong line
  · obtain ⟨digits, -, failed⟩ := onLine_of_isOverlong overlong
    rw [failed] at shown
    cases shown
  · rw [onLine_of_not_isOverlong overlong, Rule.markerOn?] at shown
    obtain ⟨found, -, rfl⟩ := Option.map_eq_some_iff.mp (Except.ok.inj shown)
    rfl

/-- The markers on lines of which the first has the number `start`, or the first failure. -/
def onLines (rule : Rule) (start : Nat) : List (List Char) → Except Failure (List Marker)
  | [] => .ok []
  | line :: lines => do
    let first ← onLine rule start line
    let later ← onLines rule (start + 1) lines
    pure (first.toList ++ later)

theorem onLines_of_legible (readable : ∀ line ∈ lines, ¬ rule.isOverlong line) :
    onLines rule start lines = .ok (rule.markersOn start lines) := by
  induction lines generalizing start with
  | nil => rfl
  | cons line lines ih =>
    obtain ⟨first, later⟩ := List.forall_mem_cons.mp readable
    rw [onLines, onLine_of_not_isOverlong first, ih later, Rule.markersOn_cons]
    rfl

/-- What is wrong with the first line that fails is what is wrong with the lines. -/
theorem onLines_of_isOverlong (overlong : ∃ line ∈ lines, rule.isOverlong line) :
    ∃ digits, Numeral.maxDigits < digits ∧
      ∀ start, onLines rule start lines = .error (.numeralTooLong digits) := by
  induction lines with
  | nil => simp at overlong
  | cons line lines ih =>
    by_cases first : rule.isOverlong line
    · obtain ⟨digits, long, failed⟩ := onLine_of_isOverlong first
      refine ⟨digits, long, fun start => ?_⟩
      rw [onLines, failed]
      rfl
    · obtain ⟨other, member, later⟩ := overlong
      have among : other ∈ lines := by
        rcases List.mem_cons.mp member with rfl | among
        · exact absurd later first
        · exact among
      obtain ⟨digits, long, failed⟩ := ih ⟨other, among, later⟩
      refine ⟨digits, long, fun start => ?_⟩
      rw [onLines, onLine_of_not_isOverlong first, failed]
      rfl

/-- Lines have markers if no index on them is too long. -/
theorem onLines_eq_ok_iff {markers : List Marker} :
    onLines rule start lines = .ok markers ↔
      (∀ line ∈ lines, ¬ rule.isOverlong line) ∧ rule.markersOn start lines = markers := by
  by_cases overlong : ∃ line ∈ lines, rule.isOverlong line
  · obtain ⟨digits, -, failed⟩ := onLines_of_isOverlong overlong
    obtain ⟨line, member, long⟩ := overlong
    rw [failed]
    constructor
    · intro known
      cases known
    · rintro ⟨readable, -⟩
      exact absurd long (readable line member)
  · have readable : ∀ line ∈ lines, ¬ rule.isOverlong line := by
      simpa using overlong
    rw [onLines_of_legible readable, Except.ok.injEq, and_iff_right readable]

end Marker

/-! ### The lexer -/

namespace Lexer

/-- A run gives the markers of its lines behind those that the lexer has already. -/
theorem runOn_result :
    ((runOn lexer lines).2.map fun _ => (runOn lexer lines).1.markers) =
      (Marker.onLines lexer.rule (lexer.line + 1) lines).map (lexer.markers ++ ·) := by
  induction lines generalizing lexer with
  | nil => simp [runOn, Marker.onLines, Except.map]
  | cons line lines ih =>
    rw [runOn, feed, Marker.onLines]
    rcases Marker.onLine lexer.rule (lexer.line + 1) line with failure | _ | marker
    · rfl
    · dsimp only
      rw [ih]
      rcases Marker.onLines lexer.rule (lexer.line + 1 + 1) lines with failure | later
      · rfl
      · rfl
    · dsimp only
      rw [ih]
      rcases Marker.onLines lexer.rule (lexer.line + 1 + 1) lines with failure | later
      · rfl
      · simp [Except.map, bind, Except.bind, pure, Except.pure]

/-- A run is made from a fresh start, and gives the markers that the lexer has at its end. -/
theorem run_eq :
    run lexer lines =
      ((runOn (fresh lexer.rule) lines).1,
        (runOn (fresh lexer.rule) lines).2.map fun _ =>
          (runOn (fresh lexer.rule) lines).1.markers) := by
  rw [run]
  rcases runOn (fresh lexer.rule) lines with ⟨next, failure | ⟨⟩⟩
  · rfl
  · rfl

/-- What a run gives: the markers of its lines, or the first failure. -/
theorem run_result : (run lexer lines).2 = Marker.onLines lexer.rule 1 lines := by
  rw [run_eq, runOn_result]
  change (Marker.onLines lexer.rule 1 lines).map ([] ++ ·) = _
  rcases Marker.onLines lexer.rule 1 lines with failure | markers
  · rfl
  · rfl

end Lexer

/-- The markers of a text are those on its lines. -/
theorem lexMarkers_eq_onLines (text : List Char) :
    lexMarkers text = Marker.onLines .saveTimestamps 1 (Text.lines text) :=
  Lexer.run_result

/-- The markers of a text stand on the lines that the marker rule matches, counted from one. -/
theorem lexMarkers_lines {markers : List Marker} (known : lexMarkers text = .ok markers) :
    markers.map (·.line) =
      (Rule.saveTimestamps.matchingLines 1 (Text.lines text)).map Nat.cast := by
  rw [lexMarkers_eq_onLines] at known
  obtain ⟨-, rfl⟩ := Marker.onLines_eq_ok_iff.mp known
  exact Rule.map_line_markersOn

/-- A text has markers, if no index in it is too long. -/
theorem exists_lexMarkers_eq_ok_iff :
    (∃ markers, lexMarkers text = .ok markers) ↔
      ∀ line ∈ Text.lines text, ∀ found, Rule.saveTimestamps.match? line = some found →
        found.digits.length ≤ Numeral.maxDigits := by
  simp only [lexMarkers_eq_onLines, Marker.onLines_eq_ok_iff, exists_and_left, exists_eq', and_true,
    Rule.not_isOverlong_iff]

/-! ### Control files -/

namespace ControlFile

/-- A control file whose markers can be read: its text, which is at hand, and in which no index is
too long. -/
structure Legible (files : FileSystem) (path : String) (text : List Char) : Prop where
  content : ∃ bytes, files.readPermitted path = .ok bytes ∧ Utf8.decodeReplacing bytes = text
  indices : ∀ line ∈ Text.lines text, ∀ found, Rule.saveTimestamps.match? line = some found →
    found.digits.length ≤ Numeral.maxDigits

/-- The number, counted from one, of a line with a marker in a control file whose markers can be
read. -/
def IsMarkerLine (files : FileSystem) (path : String) (number : Nat) : Prop :=
  ∃ text line, Legible files path text ∧ 1 ≤ number ∧
    (Text.lines text)[number - 1]? = some line ∧ (Rule.saveTimestamps.match? line).isSome

/-- The markers in the file at a path; none where they cannot be read. -/
def markersOf (files : FileSystem) (path : String) : List Marker :=
  (markersAt files path).toOption.getD []

/-- The markers of a control file stand on its marker lines, in order. -/
theorem exists_lines_markersOf (files : FileSystem) (path : String) :
    ∃ numbers : List Nat, (markersOf files path).map (·.line) = numbers.map Nat.cast ∧
      numbers.Pairwise (· < ·) ∧ ∀ number, number ∈ numbers ↔ IsMarkerLine files path number := by
  rw [markersOf, markersAt]
  cases read : files.readPermitted path with
  -- A file that cannot be read, or that holds an index that is too long, has no markers at all.
  | error error =>
    refine ⟨[], rfl, List.Pairwise.nil, fun number => ⟨by simp, ?_⟩⟩
    rintro ⟨text, line, ⟨⟨bytes, known, -⟩, -⟩, -⟩
    cases read.symm.trans known
  | ok bytes =>
    dsimp only
    cases lexed : lexMarkers (Utf8.decodeReplacing bytes) with
    | error failure =>
      refine ⟨[], rfl, List.Pairwise.nil, fun number => ⟨by simp, ?_⟩⟩
      rintro ⟨text, line, ⟨⟨others, known, rfl⟩, indices⟩, -⟩
      obtain rfl : bytes = others := Except.ok.inj (read.symm.trans known)
      obtain ⟨markers, through⟩ := exists_lexMarkers_eq_ok_iff.mpr indices
      cases lexed.symm.trans through
    | ok markers =>
      refine ⟨_, lexMarkers_lines lexed, Rule.pairwise_matchingLines, fun number => ?_⟩
      rw [Rule.mem_matchingLines]
      constructor
      · rintro ⟨line, low, found, matched⟩
        exact ⟨_, line, ⟨⟨bytes, read, rfl⟩, exists_lexMarkers_eq_ok_iff.mp ⟨markers, lexed⟩⟩, low,
          found, matched⟩
      · rintro ⟨text, line, ⟨⟨others, known, rfl⟩, -⟩, low, found, matched⟩
        obtain rfl : bytes = others := Except.ok.inj (read.symm.trans known)
        exact ⟨line, low, found, matched⟩

end ControlFile

end CounterTrace
