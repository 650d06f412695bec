import CounterTrace.Proofs.Markers

/-!
# Searching for a marker

The marker rule is a regular expression: a word in any ASCII letter case, any number of ASCII blanks
behind it, and any number of ASCII digits behind these, which are its group. It fits a text in many
ways, since fewer blanks and digits may be taken than there are. The search takes the first position
at which the word stands, all the blanks that follow, and all the digits behind them. Of all ways to
fit the text this is the one that a leftmost, greedy search prefers: first an early start counts,
then the number of blanks, and then the number of digits.

Where the group is empty the marker has no index. A written index is never taken for a missing one,
since no digits stand for minus one.

## Main definitions

* `Text.Fills`, `Text.IsRun` — characters of one kind between two positions, and the longest run of
  them
* `Rule.WordAt` — a position at which the word of the instruction stands
* `Rule.IsGreedy`, `Rule.IsLeftmost` — a match with the longest runs, and the one at the first word
* `Rule.Fits` — a way in which the expression fits a text

## Main results

* `Rule.markerAt?_drop` — what the rule matches at a position
* `Rule.findMarker?_cases` — the search stops at the first position with a match
* `Rule.IsLeftmost.unique` — there is only one leftmost match
* `Rule.IsLeftmost.preferred` — no way to fit the text is preferred to it
* `match?_leftmost` — the marker rule finds the leftmost match
-/

namespace CounterTrace

variable {text allowed : List Char} {first last other position : Nat} {found : Match}

/-! ### Runs of characters -/

namespace Text

/-- The six ASCII blanks. -/
def asciiBlanks : List Char := [' ', '\t', '\n', '\u000b', '\u000c', '\r']

/-- The ten ASCII digits. -/
def asciiDigits : List Char := ['0', '1', '2', '3', '4', '5', '6', '7', '8', '9']

/-- From one position of a text up to another there are only characters of one kind. -/
structure Fills (allowed text : List Char) (first last : Nat) : Prop where
  ordered : first ≤ last
  inside : ∀ index, first ≤ index → index < last → ∃ c ∈ allowed, text[index]? = some c

/-- The longest run of characters of one kind that begins at a position of a text. -/
structure IsRun (allowed text : List Char) (first last : Nat) : Prop
    extends Fills allowed text first last where
  ends : ∀ c ∈ allowed, text[last]? ≠ some c

theorem mem_asciiBlanks {c : Char} : c ∈ asciiBlanks ↔ isAsciiBlank c := by
  simp only [asciiBlanks, isAsciiBlank, List.mem_cons, List.not_mem_nil, or_false,
    ← Char.toNat_inj, Char.reduceToNat, Bool.or_eq_true, Bool.and_eq_true, decide_eq_true_eq,
    beq_iff_eq]
  omega

theorem mem_asciiDigits {c : Char} : c ∈ asciiDigits ↔ c.isDigit := by
  simp only [asciiDigits, Numeral.isDigit_iff, List.mem_cons, List.not_mem_nil, or_false,
    ← Char.toNat_inj, Char.reduceToNat]
  omega

/-- No characters of one kind go on beyond their longest run. -/
theorem IsRun.le_of_fills (run : IsRun allowed text first last)
    (fills : Fills allowed text first other) : other ≤ last := by
  by_contra beyond
  obtain ⟨c, member, here⟩ := fills.inside last run.ordered (Nat.not_le.mp beyond)
  exact run.ends c member here

theorem IsRun.unique (run : IsRun allowed text first last)
    (otherRun : IsRun allowed text first other) : last = other :=
  Nat.le_antisymm (otherRun.le_of_fills run.toFills) (run.le_of_fills otherRun.toFills)

/-- Behind the characters in front that pass a test begins what is left without them. -/
theorem drop_length_takeWhile (test : Char → Bool) (text : List Char) :
    text.drop (text.takeWhile test).length = text.dropWhile test := by
  calc text.drop (text.takeWhile test).length
      = (text.takeWhile test ++ text.dropWhile test).drop (text.takeWhile test).length := by
        rw [List.takeWhile_append_dropWhile]
    _ = text.dropWhile test := List.drop_left

/-- The characters behind a position that pass a test are the longest run of them. -/
theorem isRun_takeWhile {test : Char → Bool} (same : ∀ c, c ∈ allowed ↔ test c)
    (text : List Char) (first : Nat) :
    IsRun allowed text first (first + ((text.drop first).takeWhile test).length) := by
  refine ⟨⟨Nat.le_add_right _ _, fun index low high => ?_⟩, fun c member here => ?_⟩
  · obtain ⟨offset, rfl⟩ := Nat.exists_eq_add_of_le low
    have within := Nat.lt_of_add_lt_add_left high
    have taken := List.prefix_iff_getElem?.mp (List.takeWhile_prefix test) offset within
    refine ⟨_, (same _).mpr (List.mem_takeWhile_imp (List.getElem_mem within)), ?_⟩
    rw [← taken, List.getElem?_drop]
  · rw [← List.getElem?_drop, ← List.head?_drop, drop_length_takeWhile] at here
    have stopped := List.head?_dropWhile_not test (text.drop first)
    rw [here] at stopped
    exact Bool.eq_false_iff.mp stopped ((same c).mp member)

end Text

/-! ### The word of the instruction -/

namespace Rule

/-- The word of the instruction stands at a position of a text, in any ASCII letter case. -/
def WordAt (text : List Char) (position : Nat) : Prop :=
  ((text.drop position).take 15).map Char.toLower = "save_timestamps".toList

instance : Decidable (WordAt text position) := inferInstanceAs (Decidable (_ = _))

/-- Letters that are the same in uppercase are the same in lowercase. -/
theorem map_toUpper_eq_iff {word : List Char} (upper : word.map Char.toUpper = word) :
    text.map Char.toUpper = word ↔ text.map Char.toLower = word.map Char.toLower := by
  have lowered : Char.toLower ∘ Char.toUpper = Char.toLower := funext fun c => by
    apply Char.toNat_inj.mp
    rw [Function.comp_apply, Text.toNat_toLower, Text.toNat_toLower, Text.toNat_toUpper]
    grind
  have raised : Char.toUpper ∘ Char.toLower = Char.toUpper := funext fun c => by
    apply Char.toNat_inj.mp
    rw [Function.comp_apply, Text.toNat_toUpper, Text.toNat_toUpper, Text.toNat_toLower]
    grind
  constructor
  · rintro rfl
    rw [List.map_map, lowered]
  · intro same
    have back := congrArg (List.map Char.toUpper) same
    rwa [List.map_map, List.map_map, raised, upper] at back

theorem wordAt_iff :
    WordAt text position ↔
      ((text.drop position).take instruction.length).map Char.toUpper = instruction := by
  have upper : instruction.map Char.toUpper = instruction := by decide
  rw [map_toUpper_eq_iff upper]
  exact Iff.rfl

/-- A match at a position with the word: the group begins where the longest run of blanks behind the
word ends, and it is the longest run of digits from there. -/
structure IsGreedy (text : List Char) (found : Match) : Prop where
  word : WordAt text found.start
  runs : ∃ group, Text.IsRun Text.asciiBlanks text (found.start + 15) group ∧
    Text.IsRun Text.asciiDigits text group found.stop ∧
    found.digits = text.extract group found.stop

/-- Where the word stands, the rule matches with the longest runs behind it. -/
theorem markerAt?_drop (text : List Char) (position : Nat) :
    (markerAt? position (text.drop position) = none ∧ ¬ WordAt text position) ∨
      ∃ found, markerAt? position (text.drop position) = some found ∧
        found.start = position ∧ IsGreedy text found := by
  have length : instruction.length = 15 := rfl
  rw [markerAt?, after?_sameLetter]
  by_cases word : WordAt text position
  · rw [if_pos (wordAt_iff.mp word), List.drop_drop, length]
    -- The digits are taken from the text behind the blanks, which is the text behind a position.
    have blanks := Text.isRun_takeWhile (fun _ => Text.mem_asciiBlanks) text (position + 15)
    have behind := Text.drop_length_takeWhile Text.isAsciiBlank (text.drop (position + 15))
    rw [List.drop_drop] at behind
    have digits := Text.isRun_takeWhile (fun _ => Text.mem_asciiDigits) text
      (position + 15 + ((text.drop (position + 15)).takeWhile Text.isAsciiBlank).length)
    rw [behind] at digits
    refine Or.inr ⟨_, rfl, rfl, word, _, blanks, digits, ?_⟩
    rw [List.extract_eq_take_drop, behind, Nat.add_sub_cancel_left]
    exact List.prefix_iff_eq_take.mp (List.takeWhile_prefix _)
  · rw [if_neg (mt wordAt_iff.mpr word)]
    exact Or.inl ⟨rfl, word⟩

/-- The search stops at the first position with a match. -/
theorem findMarker?_cases (position : Nat) (text : List Char) :
    (findMarker? position text = none ∧
        ∀ offset, markerAt? (position + offset) (text.drop offset) = none) ∨
      ∃ offset found, findMarker? position text = some found ∧
        markerAt? (position + offset) (text.drop offset) = some found ∧
        ∀ earlier < offset, markerAt? (position + earlier) (text.drop earlier) = none := by
  induction text generalizing position with
  | nil => exact Or.inl ⟨rfl, fun offset => by rw [List.drop_nil]; rfl⟩
  | cons c text ih =>
    rw [findMarker?]
    cases front : markerAt? position (c :: text) with
    | some found => exact Or.inr ⟨0, found, rfl, front, by simp⟩
    | none =>
      dsimp only
      -- A position in the rest of the text is one further in the text.
      have further (offset : Nat) :
          markerAt? (position + (offset + 1)) ((c :: text).drop (offset + 1)) =
            markerAt? (position + 1 + offset) (text.drop offset) := by
        rw [List.drop_succ_cons, Nat.add_assoc, Nat.add_comm 1]
      rcases ih (position + 1) with ⟨missed, nowhere⟩ | ⟨offset, found, known, here, earlier⟩
      · refine Or.inl ⟨missed, fun offset => ?_⟩
        cases offset with
        | zero => exact front
        | succ offset => rw [further, nowhere]
      · refine Or.inr ⟨offset + 1, found, known, by rw [further, here], fun before less => ?_⟩
        cases before with
        | zero => exact front
        | succ before => rw [further, earlier before (Nat.lt_of_succ_lt_succ less)]

/-- The leftmost match: its word stands at the first position at which it stands at all. -/
structure IsLeftmost (text : List Char) (found : Match) : Prop extends IsGreedy text found where
  least : ∀ position < found.start, ¬ WordAt text position

/-- There is only one leftmost match. -/
theorem IsLeftmost.unique {other : Match} (leftmost : IsLeftmost text found)
    (otherLeftmost : IsLeftmost text other) : found = other := by
  obtain ⟨start, stop, digits⟩ := found
  obtain ⟨otherStart, otherStop, otherDigits⟩ := other
  -- Neither of them begins before the other, and then the same runs follow.
  obtain rfl : start = otherStart := by
    rcases Nat.lt_trichotomy start otherStart with before | same | behind
    · exact absurd leftmost.word (otherLeftmost.least start before)
    · exact same
    · exact absurd otherLeftmost.word (leftmost.least otherStart behind)
  obtain ⟨group, blanks, run, captured⟩ := leftmost.runs
  obtain ⟨otherGroup, otherBlanks, otherRun, otherCaptured⟩ := otherLeftmost.runs
  obtain rfl := blanks.unique otherBlanks
  obtain rfl : stop = otherStop := run.unique otherRun
  rw [Match.mk.injEq]
  exact ⟨rfl, rfl, captured.trans otherCaptured.symm⟩

/-- The marker rule finds nothing where the word stands nowhere, and else the leftmost match. -/
theorem match?_cases (text : List Char) :
    (saveTimestamps.match? text = none ∧ ∀ position, ¬ WordAt text position) ∨
      ∃ found, saveTimestamps.match? text = some found ∧ IsLeftmost text found := by
  have absent {position : Nat} (missed : markerAt? position (text.drop position) = none) :
      ¬ WordAt text position := by
    rcases markerAt?_drop text position with ⟨-, absent⟩ | ⟨found, known, -⟩
    · exact absent
    · cases missed.symm.trans known
  have search := findMarker?_cases 0 text
  simp only [Nat.zero_add] at search
  rcases search with ⟨missed, nowhere⟩ | ⟨start, found, known, here, earlier⟩
  · exact Or.inl ⟨missed, fun position => absent (nowhere position)⟩
  · rcases markerAt?_drop text start with ⟨missed, -⟩ | ⟨other, matched, rfl, greedy⟩
    · cases here.symm.trans missed
    · obtain rfl := Option.some_inj.mp (here.symm.trans matched)
      exact Or.inr ⟨found, known, greedy, fun position less => absent (earlier position less)⟩

theorem match?_eq_some_iff :
    saveTimestamps.match? text = some found ↔ IsLeftmost text found := by
  constructor
  · intro known
    rcases match?_cases text with ⟨missed, -⟩ | ⟨other, matched, leftmost⟩
    · cases missed.symm.trans known
    · obtain rfl := Option.some_inj.mp (matched.symm.trans known)
      exact leftmost
  · intro leftmost
    rcases match?_cases text with ⟨-, nowhere⟩ | ⟨other, matched, otherLeftmost⟩
    · exact absurd leftmost.word (nowhere found.start)
    · rw [matched, otherLeftmost.unique leftmost]

theorem match?_eq_none_iff :
    saveTimestamps.match? text = none ↔ ∀ position, ¬ WordAt text position := by
  constructor
  · intro missed
    rcases match?_cases text with ⟨-, nowhere⟩ | ⟨found, matched, -⟩
    · exact nowhere
    · cases missed.symm.trans matched
  · intro nowhere
    rcases match?_cases text with ⟨missed, -⟩ | ⟨found, -, leftmost⟩
    · exact missed
    · exact absurd leftmost.word (nowhere found.start)

/-! ### Ways to fit -/

/-- A way in which the expression of the marker rule fits a text: the word, blanks from its end to
the group, and digits from there. -/
structure Fits (text : List Char) (start group stop : Nat) : Prop where
  word : WordAt text start
  blanks : Text.Fills Text.asciiBlanks text (start + 15) group
  digits : Text.Fills Text.asciiDigits text group stop

/-- The leftmost match is a way to fit the text, and no other is preferred to it: every other one
starts later, or takes fewer blanks from the same start, or fewer digits behind the same blanks. -/
theorem IsLeftmost.preferred (leftmost : IsLeftmost text found) :
    ∃ group, Fits text found.start group found.stop ∧
      found.digits = text.extract group found.stop ∧
      ∀ start otherGroup stop, Fits text start otherGroup stop →
        found.start < start ∨ found.start = start ∧
          (otherGroup < group ∨ otherGroup = group ∧ stop ≤ found.stop) := by
  obtain ⟨group, blanks, run, captured⟩ := leftmost.runs
  refine ⟨group, ⟨leftmost.word, blanks.toFills, run.toFills⟩, captured, ?_⟩
  intro start otherGroup stop fits
  rcases Nat.lt_trichotomy found.start start with before | rfl | behind
  · exact Or.inl before
  · refine Or.inr ⟨rfl, ?_⟩
    rcases Nat.lt_or_eq_of_le (blanks.le_of_fills fits.blanks) with fewer | rfl
    · exact Or.inl fewer
    · exact Or.inr ⟨rfl, run.le_of_fills fits.digits⟩
  · exact absurd fits.word (leftmost.least start behind)

end Rule

/-! ### The marker of a match -/

/-- A match of which the digits are not too many gives a marker. It has an index, and is shown with
one other than minus one, exactly if there are digits. -/
theorem Marker.exists_onLine_of_match? {rule : Rule} (matched : rule.match? text = some found)
    (short : found.digits.length ≤ Numeral.maxDigits) (number : Nat) :
    ∃ marker, onLine rule number text = .ok (some marker) ∧
      (marker.index.isSome ↔ found.digits ≠ []) ∧
      (marker.shownIndex ≠ -1 ↔ found.digits ≠ []) := by
  have readable : ¬ rule.isOverlong text := by
    rw [Rule.not_isOverlong_iff]
    intro other known
    obtain rfl := Option.some_inj.mp (matched.symm.trans known)
    exact short
  rw [onLine_of_not_isOverlong readable, Rule.markerOn?, matched]
  refine ⟨_, rfl, ?_⟩
  obtain ⟨start, stop, digits⟩ := found
  cases digits with
  | nil => simp [shownIndex]
  -- What digits stand for is not negative.
  | cons c digits => simp [shownIndex]

/-- The marker rule finds what a leftmost, greedy search for its expression finds. It finds nothing
exactly if the word stands nowhere in the text. Otherwise it finds the one match at the first
position of the word, of which the group begins at the end of the longest run of blanks behind the
word and is the longest run of digits from there. No other way in which the expression fits the text
is preferred to this one. A lexer that reads the text as a line fails if there are more than 4300
digits; otherwise the marker has an index exactly if there are any, and only then is it shown with
another index than minus one. -/
theorem match?_leftmost (text : List Char) :
    (Rule.saveTimestamps.match? text = none ↔ ∀ position, ¬ Rule.WordAt text position) ∧
    (∀ found, Rule.saveTimestamps.match? text = some found ↔ Rule.IsLeftmost text found) ∧
    ∀ found, Rule.IsLeftmost text found →
      (∃ group, Rule.Fits text found.start group found.stop ∧
        found.digits = text.extract group found.stop ∧
        ∀ start otherGroup stop, Rule.Fits text start otherGroup stop →
          found.start < start ∨ found.start = start ∧
            (otherGroup < group ∨ otherGroup = group ∧ stop ≤ found.stop)) ∧
      ∀ line markers,
        (found.digits.length ≤ 4300 → ∃ marker,
          ((Lexer.mk .saveTimestamps line markers).feed text).2 = .ok (some marker) ∧
          (marker.index.isSome ↔ found.digits ≠ []) ∧
          (marker.shownIndex ≠ -1 ↔ found.digits ≠ [])) ∧
        (4300 < found.digits.length → ∃ failure,
          ((Lexer.mk .saveTimestamps line markers).feed text).2 = .error failure) := by
  refine ⟨Rule.match?_eq_none_iff, fun found => Rule.match?_eq_some_iff, ?_⟩
  intro found leftmost
  have matched := Rule.match?_eq_some_iff.mpr leftmost
  refine ⟨leftmost.preferred, fun line markers => ⟨fun short => ?_, fun long => ?_⟩⟩
  · exact Marker.exists_onLine_of_match? matched short (line + 1)
  · have overlong : Rule.saveTimestamps.isOverlong text := by
      rw [Rule.isOverlong, matched]
      exact decide_eq_true long
    obtain ⟨digits, -, failed⟩ := Marker.onLine_of_isOverlong overlong
    exact ⟨_, failed (line + 1)⟩

/-- A word that begins with a long s, a word that breaks off where another one begins, digits of
which the last is no ASCII digit, and one more marker. -/
def nearMisses : List Char :=
  "ſAVE_TIMESTAMPS 1 SAVE_TIMESTAMSave_Timestamps\t\u000b07٣ SAVE_TIMESTAMPS 8".toList

theorem match?_nearMisses :
    Rule.saveTimestamps.match? nearMisses = some ⟨31, 50, ['0', '7']⟩ ∧
      Rule.IsLeftmost nearMisses ⟨31, 50, ['0', '7']⟩ ∧
      ['0', '7'].length ≤ 4300 ∧
      ∃ marker, ((Lexer.fresh .saveTimestamps).feed nearMisses).2 = .ok (some marker) ∧
        marker.index.isSome ∧ marker.shownIndex ≠ -1 := by
  have matched : Rule.saveTimestamps.match? nearMisses = some ⟨31, 50, ['0', '7']⟩ := by decide
  obtain ⟨-, searched, built⟩ := match?_leftmost nearMisses
  have leftmost := (searched _).mp matched
  have short : ['0', '7'].length ≤ 4300 := by decide
  obtain ⟨marker, read, indexed, shown⟩ := ((built _ leftmost).2 0 []).1 short
  exact ⟨matched, leftmost, short, marker, read, indexed.mpr (by decide), shown.mpr (by decide)⟩

end CounterTrace
