import CounterTrace.Proofs.Listings

/-!
# Line ends and letter case

Listings are written in several ways. Some have a carriage return in front of each line feed, some
lack the last line feed, and the instruction stands in any letter case. None of this changes the
markers. A marker is a word with digits behind it. A blank at the end of its line follows the digits
or stands where no digits are, and both characters of a line end are blanks. A letter is no blank
and no digit, and the word is compared in uppercase.

## Main definitions

* `Text.withReturns` — a text with a carriage return in front of each line feed

## Main results

* `Rule.match?_append_blank` — the marker rule does not notice a blank at the end of a line
* `Rule.match?_toUpper` — the marker rule does not notice the case of letters
* `lexMarkers_varied` — line ends and letter case make no difference to the markers
-/

namespace CounterTrace

variable {rule : Rule} {text line other begun : List Char} {number start position : Nat} {c : Char}

/-! ### Blanks, digits and letters -/

namespace Text

private theorem toNat_of_isAsciiBlank (blank : isAsciiBlank c) : c.toNat < 48 := by
  simp only [isAsciiBlank, Bool.or_eq_true, Bool.and_eq_true, decide_eq_true_eq, beq_iff_eq]
    at blank
  omega

theorem isAlpha_iff :
    c.isAlpha ↔ 65 ≤ c.toNat ∧ c.toNat ≤ 90 ∨ 97 ≤ c.toNat ∧ c.toNat ≤ 122 := by
  have upper : c.isUpper ↔ 65 ≤ c.toNat ∧ c.toNat ≤ 90 :=
    decide_eq_true_iff.trans (and_congr UInt32.le_iff_toNat_le UInt32.le_iff_toNat_le)
  have lower : c.isLower ↔ 97 ≤ c.toNat ∧ c.toNat ≤ 122 :=
    (Bool.and_eq_true_iff.trans (and_congr decide_eq_true_iff decide_eq_true_iff)).trans
      (and_congr UInt32.le_iff_toNat_le UInt32.le_iff_toNat_le)
  rw [← upper, ← lower]
  exact Bool.or_eq_true_iff

theorem isDigit_of_isAsciiBlank (blank : isAsciiBlank c) : c.isDigit = false := by
  have low := toNat_of_isAsciiBlank blank
  apply Bool.eq_false_iff.mpr
  intro digit
  obtain ⟨lower, upper⟩ := Numeral.isDigit_iff.mp digit
  omega

theorem isAsciiBlank_of_isAlpha (letter : c.isAlpha) : isAsciiBlank c = false := by
  have bounds := isAlpha_iff.mp letter
  apply Bool.eq_false_iff.mpr
  intro blank
  have low := toNat_of_isAsciiBlank blank
  omega

theorem isDigit_of_isAlpha (letter : c.isAlpha) : c.isDigit = false := by
  have bounds := isAlpha_iff.mp letter
  apply Bool.eq_false_iff.mpr
  intro digit
  obtain ⟨lower, upper⟩ := Numeral.isDigit_iff.mp digit
  omega

/-- A character is its own uppercase, or both are letters. -/
theorem toUpper_cases (c : Char) : c.toUpper = c ∨ c.isAlpha ∧ c.toUpper.isAlpha := by
  have number := toNat_toUpper c
  split at number
  case isTrue lower =>
    refine Or.inr ⟨isAlpha_iff.mpr (Or.inr lower), isAlpha_iff.mpr ?_⟩
    omega
  case isFalse => exact Or.inl (Char.toNat_inj.mp number)

theorem isAsciiBlank_toUpper (c : Char) : isAsciiBlank c.toUpper = isAsciiBlank c := by
  rcases toUpper_cases c with same | ⟨letter, upper⟩
  · rw [same]
  · rw [isAsciiBlank_of_isAlpha letter, isAsciiBlank_of_isAlpha upper]

theorem isDigit_toUpper (c : Char) : c.toUpper.isDigit = c.isDigit := by
  rcases toUpper_cases c with same | ⟨letter, upper⟩
  · rw [same]
  · rw [isDigit_of_isAlpha letter, isDigit_of_isAlpha upper]

theorem toUpper_of_isDigit (digit : c.isDigit) : c.toUpper = c := by
  rcases toUpper_cases c with same | ⟨letter, -⟩
  · exact same
  · rw [isDigit_of_isAlpha letter] at digit
    cases digit

theorem toUpper_eq_lineFeed_iff (c : Char) : c.toUpper = '\n' ↔ c = '\n' := by
  rcases toUpper_cases c with same | ⟨letter, upper⟩
  · rw [same]
  · constructor
    · intro lineFeed
      rw [lineFeed] at upper
      cases upper
    · rintro rfl
      cases letter

end Text

/-! ### Blanks at the ends of lines -/

namespace Rule

/-- A character that no expected one is like is left over at the end. -/
theorem after?_append {same : Char → Char → Bool} {word : List Char}
    (different : ∀ expected ∈ word, same expected c = false) (text : List Char) :
    after? same word (text ++ [c]) = (after? same word text).map (· ++ [c]) := by
  induction word generalizing text with
  | nil => rfl
  | cons expected word ih =>
    obtain ⟨front, others⟩ := List.forall_mem_cons.mp different
    cases text with
    | nil => simp [after?, front]
    | cons first text =>
      rw [List.cons_append, after?, after?, ih others]
      split
      · rfl
      · rfl

/-- The digits behind blanks do not notice a blank at the end. -/
theorem digits_append_blank (blank : Text.isAsciiBlank c) (text : List Char) :
    ((text ++ [c]).dropWhile Text.isAsciiBlank).takeWhile Char.isDigit =
      (text.dropWhile Text.isAsciiBlank).takeWhile Char.isDigit := by
  have nothing : [c].takeWhile Char.isDigit = [] := by
    simp [Text.isDigit_of_isAsciiBlank blank]
  induction text with
  | nil => simp [blank]
  | cons first text ih =>
    rw [List.cons_append, List.dropWhile_cons, List.dropWhile_cons]
    split
    · exact ih
    · rw [← List.cons_append, List.takeWhile_append, nothing]
      split
      · rename_i whole
        rw [List.append_nil]
        exact ((List.takeWhile_prefix _).eq_of_length whole).symm
      · rfl

theorem markerAt?_append_blank (blank : Text.isAsciiBlank c) (position : Nat) (text : List Char) :
    (markerAt? position (text ++ [c])).map Match.digits =
      (markerAt? position text).map Match.digits := by
  -- The word holds no blank, in any letter case.
  have different : ∀ expected ∈ instruction, sameLetter expected c = false := by
    intro expected member
    have proper : instruction.any Text.isAsciiBlank = false := by decide
    rw [sameLetter, beq_eq_false_iff_ne]
    rintro rfl
    refine List.any_eq_false.mp proper c.toUpper member ?_
    rw [Text.isAsciiBlank_toUpper, blank]
  rw [markerAt?, markerAt?, after?_append different]
  cases after? sameLetter instruction text with
  | none => rfl
  | some rest => exact congrArg some (digits_append_blank blank rest)

/-- The marker rule takes the same digits from a line with one more blank at its end. -/
theorem match?_append_blank (blank : Text.isAsciiBlank c) (line : List Char) :
    (Rule.saveTimestamps.match? (line ++ [c])).map Match.digits =
      (Rule.saveTimestamps.match? line).map Match.digits := by
  rw [match?, match?]
  -- The search moves on through the line, so its position is left open.
  generalize (0 : Nat) = position
  induction line generalizing position with
  | nil =>
    rw [List.nil_append, digits_findMarker?_cons, ← List.nil_append [c],
      markerAt?_append_blank blank]
    rfl
  | cons first line ih =>
    rw [List.cons_append, digits_findMarker?_cons, digits_findMarker?_cons, ih,
      ← List.cons_append, markerAt?_append_blank blank]

end Rule

/-- The marker on a line depends on what the rule takes from it. -/
theorem Marker.onLine_congr
    (same : (rule.match? line).map Match.digits = (rule.match? other).map Match.digits) :
    onLine rule number line = onLine rule number other := by
  rw [onLine, onLine]
  cases known : rule.match? line with
  | none =>
    rw [known, Option.map_none, eq_comm, Option.map_eq_none_iff] at same
    rw [same]
  | some found =>
    rw [known, Option.map_some, eq_comm, Option.map_eq_some_iff] at same
    obtain ⟨shown, others, digits⟩ := same
    rw [others]
    dsimp only
    rw [digits]

theorem Marker.onLine_append_blank (blank : Text.isAsciiBlank c) :
    onLine .saveTimestamps number (line ++ [c]) = onLine .saveTimestamps number line :=
  onLine_congr (Rule.match?_append_blank blank line)

namespace Text

/-- The text with a carriage return in front of each line feed. -/
def withReturns (text : List Char) : List Char :=
  text.flatMap fun c => if c = '\n' then ['\r', '\n'] else [c]

end Text

/-- Carriage returns in front of the line feeds change no marker. -/
theorem onLines_linesFrom_withReturns :
    Marker.onLines .saveTimestamps start (Text.linesFrom begun (Text.withReturns text)) =
      Marker.onLines .saveTimestamps start (Text.linesFrom begun text) := by
  -- A line that ends has one more blank in front of its line feed.
  induction text generalizing begun start with
  | nil => rfl
  | cons c text ih =>
    rw [Text.withReturns, List.flatMap_cons, ← Text.withReturns]
    by_cases lineEnd : c = '\n'
    · rw [if_pos lineEnd, List.cons_append, List.singleton_append, Text.linesFrom,
        if_neg (by decide), Text.linesFrom, if_pos rfl, Text.linesFrom, if_pos lineEnd, lineEnd,
        Marker.onLines, Marker.onLines, ih, List.reverse_cons, List.reverse_cons, List.reverse_cons,
        Marker.onLine_append_blank (by decide), Marker.onLine_append_blank (by decide),
        Marker.onLine_append_blank (by decide)]
    · rw [if_neg lineEnd, List.singleton_append, Text.linesFrom, if_neg lineEnd, Text.linesFrom,
        if_neg lineEnd, ih]

/-- A line feed behind the last line changes no marker. -/
theorem onLines_linesFrom_append :
    Marker.onLines .saveTimestamps start (Text.linesFrom begun (text ++ ['\n'])) =
      Marker.onLines .saveTimestamps start (Text.linesFrom begun text) := by
  induction text generalizing begun start with
  | nil =>
    have fed : Text.linesFrom begun ['\n'] = [begun.reverse ++ ['\n']] := by
      simp [Text.linesFrom]
    rw [List.nil_append, fed, Text.linesFrom, Marker.onLines,
      Marker.onLine_append_blank (by decide)]
    split
    -- A line feed by itself is one more line, but it has no marker.
    · rename_i nothing
      rw [List.isEmpty_iff.mp nothing]
      rfl
    · rfl
  | cons c text ih =>
    rw [List.cons_append, Text.linesFrom, Text.linesFrom]
    split
    · rw [Marker.onLines, Marker.onLines, ih]
    · exact ih

/-! ### Letter case -/

namespace Text

/-- A text in uppercase has the lines of the text in uppercase. -/
theorem linesFrom_toUpper (begun text : List Char) :
    linesFrom (begun.map Char.toUpper) (text.map Char.toUpper) =
      (linesFrom begun text).map (List.map Char.toUpper) := by
  induction text generalizing begun with
  | nil => cases begun <;> simp [linesFrom]
  | cons c text ih =>
    rw [List.map_cons, linesFrom, linesFrom]
    simp only [toUpper_eq_lineFeed_iff]
    split
    · have onward := ih []
      rw [List.map_nil] at onward
      rw [List.map_cons, onward, ← List.map_cons, List.map_reverse]
    · rw [← List.map_cons, ih]

/-- The digits behind blanks do not notice letter case. -/
theorem digits_toUpper (text : List Char) :
    ((text.map Char.toUpper).dropWhile isAsciiBlank).takeWhile Char.isDigit =
      (text.dropWhile isAsciiBlank).takeWhile Char.isDigit := by
  have blanks : isAsciiBlank ∘ Char.toUpper = isAsciiBlank := funext isAsciiBlank_toUpper
  have digits : Char.isDigit ∘ Char.toUpper = Char.isDigit := funext isDigit_toUpper
  rw [List.dropWhile_map, List.takeWhile_map, blanks, digits]
  refine (List.map_congr_left fun c member => ?_).trans (List.map_id _)
  exact toUpper_of_isDigit (List.mem_takeWhile_imp member)

end Text

namespace Rule

theorem after?_toUpper (word text : List Char) :
    after? sameLetter word (text.map Char.toUpper) =
      (after? sameLetter word text).map (List.map Char.toUpper) := by
  have twice : Char.toUpper ∘ Char.toUpper = Char.toUpper := funext fun c => by
    apply Char.toNat_inj.mp
    rw [Function.comp_apply, Text.toNat_toUpper, Text.toNat_toUpper]
    grind
  rw [after?_sameLetter, after?_sameLetter, ← List.map_take, ← List.map_drop, List.map_map, twice]
  split
  · rfl
  · rfl

theorem markerAt?_toUpper (position : Nat) (text : List Char) :
    (markerAt? position (text.map Char.toUpper)).map Match.digits =
      (markerAt? position text).map Match.digits := by
  rw [markerAt?, markerAt?, after?_toUpper]
  cases after? sameLetter instruction text with
  | none => rfl
  | some rest => exact congrArg some (Text.digits_toUpper rest)

/-- The marker rule takes the same digits from a line in uppercase. -/
theorem match?_toUpper (line : List Char) :
    (Rule.saveTimestamps.match? (line.map Char.toUpper)).map Match.digits =
      (Rule.saveTimestamps.match? line).map Match.digits := by
  rw [match?, match?]
  generalize (0 : Nat) = position
  induction line generalizing position with
  | nil => rfl
  | cons c line ih =>
    rw [List.map_cons, digits_findMarker?_cons, digits_findMarker?_cons, ih, ← List.map_cons,
      markerAt?_toUpper]

end Rule

/-- A listing in uppercase has the same markers. -/
theorem lexMarkers_toUpper (text : List Char) :
    lexMarkers (text.map Char.toUpper) = lexMarkers text := by
  have cut : Text.lines (text.map Char.toUpper) = (Text.lines text).map (List.map Char.toUpper) :=
    Text.linesFrom_toUpper [] text
  rw [lexMarkers_eq_onLines, lexMarkers_eq_onLines, cut]
  generalize (1 : Nat) = start
  induction Text.lines text generalizing start with
  | nil => rfl
  | cons line lines ih =>
    rw [List.map_cons, Marker.onLines, Marker.onLines, ih,
      Marker.onLine_congr (Rule.match?_toUpper line)]

/-- Line ends and letter case make no difference to the markers of a listing: it may have a carriage
return in front of each line feed, a line feed behind its last line, and its ASCII letters in any
case. What differs in the case of ASCII letters only is the same in uppercase. -/
theorem lexMarkers_varied (text : List Char) :
    lexMarkers (Text.withReturns text) = lexMarkers text ∧
      lexMarkers (text ++ ['\n']) = lexMarkers text ∧
      ∀ other, other.map Char.toUpper = text.map Char.toUpper →
        lexMarkers other = lexMarkers text := by
  refine ⟨?_, ?_, ?_⟩
  · rw [lexMarkers_eq_onLines, lexMarkers_eq_onLines]
    exact onLines_linesFrom_withReturns
  · rw [lexMarkers_eq_onLines, lexMarkers_eq_onLines]
    exact onLines_linesFrom_append
  · intro other same
    calc
      lexMarkers other = lexMarkers (other.map Char.toUpper) := (lexMarkers_toUpper other).symm
      _ = lexMarkers (text.map Char.toUpper) := by rw [same]
      _ = lexMarkers text := lexMarkers_toUpper text

/-- The two lines of `upperListing` in another letter case. -/
def recasedListing : List Char := "save_timestamps 4\nsAVE_tIMESTAMPS 5 save_timestamps 6\n".toList

theorem lexMarkers_varied_listings :
    recasedListing.map Char.toUpper = upperListing.map Char.toUpper ∧
      lexMarkers recasedListing = .ok [⟨1, some 4⟩, ⟨2, some 5⟩] ∧
      lexMarkers (Text.withReturns recasedListing) = .ok [⟨1, some 4⟩, ⟨2, some 5⟩] := by
  have same : recasedListing.map Char.toUpper = upperListing.map Char.toUpper := by decide
  have first : lexMarkers upperListing = .ok [⟨1, some 4⟩, ⟨2, some 5⟩] := rfl
  have recased := ((lexMarkers_varied upperListing).2.2 recasedListing same).trans first
  exact ⟨same, recased, (lexMarkers_varied recasedListing).1.trans recased⟩

end CounterTrace
