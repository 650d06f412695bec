import CounterTrace.Proofs.Markers

/-!
# Listings in parts

The markers of a listing are found line by line. So a listing can be put together from others where
a line ends: its markers are those of the upper part, and behind them those of the lower part, moved
down by the lines above them. They stand on lines of the listing in ascending order, and no line has
more than one. Only the line feed ends a line, whatever other separators the text holds.

## Main definitions

* `Text.EndsLine` — a text that ends with its last line
* `Marker.down` — a marker, a number of lines further down

## Main results

* `Text.lines_append`, `Text.length_lines` — the lines of a text that ends with its last line
* `Marker.onLines_append`, `Marker.onLines_down` — the markers on lines in two parts
* `lexMarkers_append` — the markers of a listing that is put together
* `lexMarkers_joined` — markers are found line by line
-/

namespace CounterTrace

variable {rule : Rule} {text line begun upper : List Char} {lines more : List (List Char)}
  {number start count : Nat} {c : Char} {markers : List Marker}

/-! ### Lines of a text -/

namespace Text

/-- A text that ends with its last line: it is empty, or its last character is a line feed. -/
def EndsLine (text : List Char) : Prop := text = [] ∨ text.getLast? = some '\n'

instance : Decidable (EndsLine text) := inferInstanceAs (Decidable (_ ∨ _))

theorem endsLine_cons (ends : EndsLine (c :: text)) : EndsLine text ∧ (text = [] → c = '\n') := by
  rcases ends with nothing | last
  · cases nothing
  · cases text with
    | nil => exact ⟨Or.inl rfl, fun _ => by simpa using last⟩
    | cons second text => exact ⟨Or.inr (by simpa using last), by simp⟩

private theorem linesFrom_append (ends : EndsLine upper) (closed : upper = [] → begun = [])
    (lower : List Char) :
    linesFrom begun (upper ++ lower) = linesFrom begun upper ++ linesFrom [] lower := by
  -- Where the upper text ends, no line has begun.
  induction upper generalizing begun with
  | nil => simp [closed rfl, linesFrom]
  | cons c upper ih =>
    obtain ⟨onward, last⟩ := endsLine_cons ends
    rw [List.cons_append, linesFrom, linesFrom]
    split
    · rw [ih onward (fun _ => rfl), List.cons_append]
    · rename_i notEnd
      exact ih onward fun nothing => absurd (last nothing) notEnd

/-- A text that is put together at the end of a line has the lines of both parts. -/
theorem lines_append (ends : EndsLine upper) (lower : List Char) :
    Text.lines (upper ++ lower) = Text.lines upper ++ Text.lines lower :=
  linesFrom_append ends (fun _ => rfl) lower

private theorem length_linesFrom (ends : EndsLine text) (closed : text = [] → begun = []) :
    (linesFrom begun text).length = text.count '\n' := by
  induction text generalizing begun with
  | nil => simp [closed rfl, linesFrom]
  | cons c text ih =>
    obtain ⟨onward, last⟩ := endsLine_cons ends
    rw [linesFrom, List.count_cons]
    split
    · rename_i isEnd
      rw [List.length_cons, ih onward (fun _ => rfl), isEnd]
      simp
    · rename_i notEnd
      rw [ih onward fun nothing => absurd (last nothing) notEnd]
      simp [notEnd]

/-- A text that ends with its last line has as many lines as line feeds. -/
theorem length_lines (ends : EndsLine text) : (Text.lines text).length = text.count '\n' :=
  length_linesFrom ends fun _ => rfl

end Text

/-! ### Markers further down -/

namespace Marker

/-- A marker, a number of lines further down. -/
def down (count : Nat) (marker : Marker) : Marker := { marker with line := marker.line + count }

theorem onLine_down :
    onLine rule (number + count) line =
      (onLine rule number line).map (Option.map (down count)) := by
  by_cases overlong : rule.isOverlong line
  · obtain ⟨digits, -, failed⟩ := onLine_of_isOverlong overlong
    rw [failed, failed]
    rfl
  · rw [onLine_of_not_isOverlong overlong, onLine_of_not_isOverlong overlong, Rule.markerOn?,
      Rule.markerOn?]
    cases rule.match? line with
    | none => rfl
    | some found => rfl

/-- Lines further down have their markers further down. -/
theorem onLines_down :
    onLines rule (start + count) lines =
      (onLines rule start lines).map (List.map (down count)) := by
  induction lines generalizing start with
  | nil => rfl
  | cons line lines ih =>
    rw [onLines, onLines, onLine_down, Nat.add_right_comm, ih]
    rcases onLine rule start line with failure | _ | marker
    · rfl
    · rcases onLines rule (start + 1) lines with failure | later
      · rfl
      · rfl
    · rcases onLines rule (start + 1) lines with failure | later
      · rfl
      · rfl

/-- Lines in two parts have the markers of both parts, unless one of them fails. -/
theorem onLines_append :
    onLines rule start (lines ++ more) = (do
      let first ← onLines rule start lines
      let later ← onLines rule (start + lines.length) more
      pure (first ++ later)) := by
  induction lines generalizing start with
  | nil =>
    rw [List.nil_append, onLines, List.length_nil, Nat.add_zero]
    rcases onLines rule start more with failure | later
    · rfl
    · rfl
  | cons line lines ih =>
    have below : start + (lines.length + 1) = start + 1 + lines.length := by omega
    rw [List.cons_append, onLines, onLines, ih, List.length_cons, below]
    rcases onLine rule start line with failure | found
    · rfl
    · rcases onLines rule (start + 1) lines with failure | first
      · rfl
      · rcases onLines rule (start + 1 + lines.length) more with failure | later
        · rfl
        · exact congrArg Except.ok (List.append_assoc _ _ _).symm

end Marker

/-- The markers of a listing that is put together at the end of a line. -/
theorem lexMarkers_append (ends : Text.EndsLine upper) (lower : List Char) :
    lexMarkers (upper ++ lower) = (do
      let first ← lexMarkers upper
      let later ← lexMarkers lower
      pure (first ++ later.map (Marker.down (upper.count '\n')))) := by
  rw [lexMarkers_eq_onLines, Text.lines_append ends, Marker.onLines_append, Text.length_lines ends,
    Marker.onLines_down, ← lexMarkers_eq_onLines, ← lexMarkers_eq_onLines]
  rcases lexMarkers upper with failure | first
  · rfl
  · rcases lexMarkers lower with failure | later
    · rfl
    · rfl

/-! ### Where markers stand -/

/-- The numbers of the lines with markers ascend. -/
theorem pairwise_line_of_lexMarkers (known : lexMarkers text = .ok markers) :
    (markers.map (·.line)).Pairwise (· < ·) := by
  rw [lexMarkers_lines known, List.pairwise_map]
  exact Rule.pairwise_matchingLines.imp fun less => Int.ofNat_lt.mpr less

/-- A line has a marker exactly if the marker rule matches it. -/
theorem exists_marker_iff (known : lexMarkers text = .ok markers) :
    (∃ marker ∈ markers, marker.line = number) ↔
      ∃ line, 1 ≤ number ∧ (Text.lines text)[number - 1]? = some line ∧
        (Rule.saveTimestamps.match? line).isSome := by
  have listed : (∃ marker ∈ markers, marker.line = number) ↔
      (number : Int) ∈ markers.map (·.line) := by
    rw [List.mem_map]
  have injective : Function.Injective (Nat.cast : Nat → Int) := fun _ _ same =>
    Int.ofNat_inj.mp same
  rw [listed, lexMarkers_lines known, List.mem_map_of_injective injective, Rule.mem_matchingLines]

/-- A marker stands on one of the lines of its text. -/
theorem line_bounds_of_lexMarkers (known : lexMarkers text = .ok markers) {marker : Marker}
    (member : marker ∈ markers) : 1 ≤ marker.line ∧ marker.line ≤ (Text.lines text).length := by
  have among : marker.line ∈ markers.map (·.line) := List.mem_map_of_mem member
  rw [lexMarkers_lines known] at among
  obtain ⟨number, listed, same⟩ := List.mem_map.mp among
  obtain ⟨line, low, here, -⟩ := Rule.mem_matchingLines.mp listed
  obtain ⟨within, -⟩ := List.getElem?_eq_some_iff.mp here
  omega

/-- Markers are found line by line. A listing that is put together where a line ends fails exactly
if one of its parts does; otherwise it has the markers of the upper part, and behind them those of
the lower part, moved down by the line feeds of the upper one. So the markers of a text stand on its
lines in ascending order, one on each line that the marker rule matches and none on any other. -/
theorem lexMarkers_joined (upper lower : List Char) (ends : Text.EndsLine upper) :
    ((∃ failure, lexMarkers (upper ++ lower) = .error failure) ↔
      (∃ failure, lexMarkers upper = .error failure) ∨
        ∃ failure, lexMarkers lower = .error failure) ∧
    (∀ first later, lexMarkers upper = .ok first → lexMarkers lower = .ok later →
      lexMarkers (upper ++ lower) = .ok (first ++ later.map (Marker.down (upper.count '\n')))) ∧
    ∀ text markers, lexMarkers text = .ok markers →
      (markers.map (·.line)).Pairwise (· < ·) ∧
      (∀ marker ∈ markers, 1 ≤ marker.line ∧ marker.line ≤ (Text.lines text).length) ∧
      ∀ number : Nat, (∃ marker ∈ markers, marker.line = number) ↔
        ∃ line, 1 ≤ number ∧ (Text.lines text)[number - 1]? = some line ∧
          (Rule.saveTimestamps.match? line).isSome := by
  rw [lexMarkers_append ends]
  refine ⟨?_, ?_, ?_⟩
  · rcases lexMarkers upper with failure | first
    · exact ⟨fun _ => Or.inl ⟨failure, rfl⟩, fun _ => ⟨failure, rfl⟩⟩
    · rcases lexMarkers lower with failure | later
      · exact ⟨fun _ => Or.inr ⟨failure, rfl⟩, fun _ => ⟨failure, rfl⟩⟩
      · constructor
        · rintro ⟨failure, failed⟩
          cases failed
        · rintro (⟨failure, failed⟩ | ⟨failure, failed⟩)
          · cases failed
          · cases failed
  · intro first later known onward
    rw [known, onward]
    rfl
  · intro text markers known
    have ascending := pairwise_line_of_lexMarkers known
    refine ⟨ascending, ?_, ?_⟩
    · intro marker member
      exact line_bounds_of_lexMarkers known member
    · intro number
      exact exists_marker_iff known

/-- Two lines with markers, the second of them with two. -/
def upperListing : List Char := "SAVE_TIMESTAMPS 4\nSave_Timestamps 5 SAVE_TIMESTAMPS 6\n".toList

/-- A marker without an index, and the word broken by a line feed; other separators end no line. -/
def lowerListing : List Char :=
  "NOP\r\u2028\u0085\nSAVE_TIMESTAMPS\n7 SAVE_\nTIMESTAMPS".toList

theorem lexMarkers_joined_listings :
    Text.EndsLine upperListing ∧
      lexMarkers upperListing = .ok [⟨1, some 4⟩, ⟨2, some 5⟩] ∧
      lexMarkers lowerListing = .ok [⟨2, none⟩] ∧
      lexMarkers (upperListing ++ lowerListing) = .ok [⟨1, some 4⟩, ⟨2, some 5⟩, ⟨4, none⟩] := by
  have ends : Text.EndsLine upperListing := by decide
  have first : lexMarkers upperListing = .ok [⟨1, some 4⟩, ⟨2, some 5⟩] := rfl
  have later : lexMarkers lowerListing = .ok [⟨2, none⟩] := rfl
  exact ⟨ends, first, later,
    (lexMarkers_joined upperListing lowerListing ends).2.1 _ _ first later⟩

end CounterTrace
