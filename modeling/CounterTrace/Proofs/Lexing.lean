import Mathlib.Data.List.DropRight
import Mathlib.Data.List.ReduceOption
import CounterTrace.Proofs.Markers

/-!
# Lexers in use

A lexer is used again and again: it reads single lines, and it runs on whole listings. What it has
at hand after any history of uses depends only on its last run and on the lines that were read one
by one since. A run forgets everything before it, so that it goes as it would with a fresh lexer. A
line whose index is too long ends a run; it counts as read, and the markers in front of it are kept.
Reading a line by itself counts the line and leaves the markers as they are.

## Main definitions

* `Rule.legible`, `Rule.heard` — the lines in front of the first whose index is too long, and the
  lines up to it
* `Lexer.Call`, `Lexer.after` — a use of a lexer, and the lexer after a history of uses
* `Lexer.lastRun`, `Lexer.sinceRun` — what a history leaves behind
* `Lexer.feedEach` — what lines give that are read one by one

## Main results

* `Lexer.runOn_state`, `Lexer.run_state` — where a run leaves the lexer
* `Lexer.onLines_eq_feedEach` — a run gives what its lines give one by one
* `Lexer.after_history` — a lexer after any history of uses
-/

namespace CounterTrace

variable {rule : Rule} {line : List Char} {lines : List (List Char)} {lexer : Lexer}

/-! ### Lines up to a failure -/

namespace Rule

/-- The lines in front of the first one whose index is too long. -/
def legible (rule : Rule) (lines : List (List Char)) : List (List Char) :=
  lines.takeWhile fun line => !rule.isOverlong line

/-- The lines up to the first one whose index is too long, this one included. -/
def heard (rule : Rule) (lines : List (List Char)) : List (List Char) :=
  lines.take ((rule.legible lines).length + 1)

theorem legible_cons_of_isOverlong (overlong : rule.isOverlong line) :
    rule.legible (line :: lines) = [] := by
  rw [legible, List.takeWhile_cons_of_neg (by simp [overlong])]

theorem legible_cons_of_not_isOverlong (readable : ¬ rule.isOverlong line) :
    rule.legible (line :: lines) = line :: rule.legible lines := by
  rw [legible, List.takeWhile_cons_of_pos (by simpa using readable), legible]

theorem heard_cons_of_isOverlong (overlong : rule.isOverlong line) :
    rule.heard (line :: lines) = [line] := by
  rw [heard, legible_cons_of_isOverlong overlong]
  rfl

theorem heard_cons_of_not_isOverlong (readable : ¬ rule.isOverlong line) :
    rule.heard (line :: lines) = line :: rule.heard lines := by
  rw [heard, legible_cons_of_not_isOverlong readable]
  rfl

end Rule

/-! ### Runs -/

namespace Lexer

/-- A run leaves the lexer on the last line that it has read, with the markers in front of a line
whose index is too long. -/
theorem runOn_state :
    (runOn lexer lines).1 =
      ⟨lexer.rule, lexer.line + (lexer.rule.heard lines).length,
        lexer.markers ++ lexer.rule.markersOn (lexer.line + 1) (lexer.rule.legible lines)⟩ := by
  -- A marker is added behind those of the lexer before the next line is read.
  induction lines generalizing lexer with
  | nil => simp [runOn, Rule.heard, Rule.legible, Rule.markersOn]
  | cons line lines ih =>
    rw [runOn, feed]
    by_cases overlong : lexer.rule.isOverlong line
    · obtain ⟨digits, -, failed⟩ := Marker.onLine_of_isOverlong overlong
      rw [failed, Rule.heard_cons_of_isOverlong overlong, Rule.legible_cons_of_isOverlong overlong]
      simp [Rule.markersOn]
    · rw [Marker.onLine_of_not_isOverlong overlong, Rule.heard_cons_of_not_isOverlong overlong,
        Rule.legible_cons_of_not_isOverlong overlong, Rule.markersOn_cons, List.length_cons]
      cases lexer.rule.markerOn? (lexer.line + 1) line with
      | none =>
        dsimp only
        rw [ih]
        simp [Nat.add_assoc, Nat.add_comm 1]
      | some marker =>
        dsimp only
        rw [ih]
        simp [Nat.add_assoc, Nat.add_comm 1]

/-- Where a run leaves the lexer. -/
theorem run_state :
    (run lexer lines).1 =
      ⟨lexer.rule, (lexer.rule.heard lines).length,
        lexer.rule.markersOn 1 (lexer.rule.legible lines)⟩ := by
  rw [run_eq, runOn_state]
  simp [fresh]

/-- What the lines give if a lexer reads them one by one. -/
def feedEach (lexer : Lexer) : List (List Char) → List (Except Failure (Option Marker))
  | [] => []
  | line :: lines => (lexer.feed line).2 :: feedEach (lexer.feed line).1 lines

/-- Lines give together what they give one by one: the first failure, or else all markers. -/
theorem onLines_eq_feedEach (lexer : Lexer) (lines : List (List Char)) :
    Marker.onLines lexer.rule (lexer.line + 1) lines =
      ((lexer.feedEach lines).mapM id).map List.reduceOption := by
  induction lines generalizing lexer with
  | nil => rfl
  | cons line lines ih =>
    have first : (lexer.feed line).2 = Marker.onLine lexer.rule (lexer.line + 1) line := rfl
    have later : Marker.onLines lexer.rule (lexer.line + 1 + 1) lines =
        (((lexer.feed line).1.feedEach lines).mapM id).map List.reduceOption :=
      ih (lexer.feed line).1
    rw [feedEach, List.mapM_cons, Marker.onLines, later, first]
    rcases Marker.onLine lexer.rule (lexer.line + 1) line with failure | _ | marker
    · rfl
    · rcases ((lexer.feed line).1.feedEach lines).mapM id with failure | rest
      · rfl
      · rfl
    · rcases ((lexer.feed line).1.feedEach lines).mapM id with failure | rest
      · rfl
      · rfl

/-! ### Histories -/

/-- A use of a lexer: one line is read, or a run is made on lines. -/
inductive Call where
  | feed (line : List Char)
  | run (lines : List (List Char))
  deriving DecidableEq

/-- The lines of a run. -/
def Call.lines? : Call → Option (List (List Char))
  | .feed _ => none
  | .run lines => some lines

/-- The lexer after a use, whether it went through or not. -/
def use (lexer : Lexer) : Call → Lexer
  | .feed line => (lexer.feed line).1
  | .run lines => (lexer.run lines).1

/-- The lexer after a history of uses. -/
def after (lexer : Lexer) (history : List Call) : Lexer := history.foldl use lexer

/-- The lines of the last run in a history; there are none before the first run. -/
def lastRun (history : List Call) : List (List Char) :=
  (history.reverse.findSome? Call.lines?).getD []

/-- The uses since the last run in a history, by each of which one line was read. -/
def sinceRun (history : List Call) : List Call := history.rtakeWhile fun call => call.lines?.isNone

variable {history : List Call}

theorem lastRun_concat_feed : lastRun (history ++ [.feed line]) = lastRun history := by
  rw [lastRun, List.reverse_concat, List.findSome?_cons]
  rfl

theorem lastRun_concat_run : lastRun (history ++ [.run lines]) = lines := by
  rw [lastRun, List.reverse_concat, List.findSome?_cons]
  rfl

theorem sinceRun_concat_feed :
    sinceRun (history ++ [.feed line]) = sinceRun history ++ [.feed line] :=
  List.rtakeWhile_concat_pos _ _ _ rfl

theorem sinceRun_concat_run : sinceRun (history ++ [.run lines]) = [] :=
  List.rtakeWhile_concat_neg _ _ _ (by simp [Call.lines?])

/-- What a history leaves behind. -/
theorem after_fresh_state :
    (fresh rule).after history =
      ⟨rule, (rule.heard (lastRun history)).length + (sinceRun history).length,
        rule.markersOn 1 (rule.legible (lastRun history))⟩ := by
  -- The last use decides: a line adds to what is there, and a run replaces it.
  induction history using List.reverseRecOn with
  | nil => rfl
  | append_singleton history call ih =>
    rw [after, List.foldl_concat, ← after, ih]
    cases call with
    | feed line =>
      rw [lastRun_concat_feed, sinceRun_concat_feed, List.length_append]
      rfl
    | run lines =>
      rw [lastRun_concat_run, sinceRun_concat_run]
      exact run_state

/-- A lexer after any history of uses. It has counted the lines of its last run, up to one whose
index is too long, and the lines that were read one by one since. It has the markers of the last run
in front of such a line. Reading one more line counts it, leaves the markers alone, and gives the
marker on it, which bears the new count; it fails exactly if the index is too long. A run goes as
with a fresh lexer, and gives what its lines give one by one. -/
theorem after_history (rule : Rule) (history : List Call) :
    let lexer := (fresh rule).after history
    lexer.line = (rule.heard (lastRun history)).length + (sinceRun history).length ∧
    lexer.markers = rule.markersOn 1 (rule.legible (lastRun history)) ∧
    (∀ line, (lexer.feed line).1 = { lexer with line := lexer.line + 1 } ∧
      (¬ rule.isOverlong line →
        (lexer.feed line).2 = .ok (rule.markerOn? (lexer.line + 1) line)) ∧
      (rule.isOverlong line → ∃ digits, 4300 < digits ∧
        (lexer.feed line).2 = .error (.numeralTooLong digits)) ∧
      ∀ marker, (lexer.feed line).2 = .ok (some marker) →
        marker.line = (lexer.feed line).1.line) ∧
    ∀ lines, lexer.run lines = (fresh rule).run lines ∧
      ((∀ line ∈ lines, ¬ rule.isOverlong line) →
        (lexer.run lines).2 = .ok (rule.markersOn 1 lines)) ∧
      ((∃ line ∈ lines, rule.isOverlong line) → ∃ digits, 4300 < digits ∧
        (lexer.run lines).2 = .error (.numeralTooLong digits)) ∧
      (lexer.run lines).2 = (((fresh rule).feedEach lines).mapM id).map List.reduceOption := by
  intro lexer
  have state : lexer = ⟨rule, _, _⟩ := after_fresh_state
  have same : lexer.rule = rule := congrArg Lexer.rule state
  refine ⟨congrArg Lexer.line state, congrArg Lexer.markers state, ?_, ?_⟩
  · intro line
    have fed : (lexer.feed line).2 = Marker.onLine rule (lexer.line + 1) line := by
      rw [← same]
      rfl
    refine ⟨rfl, ?_, ?_, ?_⟩
    · intro readable
      rw [fed, Marker.onLine_of_not_isOverlong readable]
    · intro overlong
      obtain ⟨digits, long, failed⟩ := Marker.onLine_of_isOverlong overlong
      exact ⟨digits, long, fed.trans (failed _)⟩
    · intro marker shown
      exact Marker.line_of_onLine (fed.symm.trans shown)
  · intro lines
    have result : (lexer.run lines).2 = Marker.onLines rule 1 lines := by
      rw [run_result, same]
    refine ⟨?_, ?_, ?_, ?_⟩
    · change (fresh lexer.rule).run lines = _
      rw [same]
    · intro readable
      rw [result, Marker.onLines_of_legible readable]
    · intro overlong
      obtain ⟨digits, long, failed⟩ := Marker.onLines_of_isOverlong overlong
      exact ⟨digits, long, result.trans (failed 1)⟩
    · rw [result]
      exact onLines_eq_feedEach (fresh rule) lines

/-- A line with an index of 4301 digits. -/
def overlongLine : List Char := Rule.instruction ++ List.replicate 4301 '7'

/-- A history of a lexer: a run, a line by itself, a run that ends at its second line, and two lines
by themselves, of which the last fails. -/
def wornHistory : List Call :=
  [.run ["NOP\n".toList, "SAVE_TIMESTAMPS 1\n".toList], .feed "SAVE_TIMESTAMPS 2".toList,
    .run ["save_timestamps 5\n".toList, overlongLine, "SAVE_TIMESTAMPS 6\n".toList],
    .feed "NOP".toList, .feed overlongLine]

theorem after_wornHistory :
    let lexer := (fresh .saveTimestamps).after wornHistory
    lexer.line = 4 ∧ lexer.markers = [⟨1, some 5⟩] ∧
      (lexer.feed "SAVE_TIMESTAMPS".toList).2 = .ok (some ⟨5, none⟩) ∧
      (lexer.run ["NOP\n".toList, "SAVE_TIMESTAMPS 1\n".toList]).2 = .ok [⟨2, some 1⟩] := by
  intro lexer
  obtain ⟨line, markers, fed, run⟩ := after_history .saveTimestamps wornHistory
  have heard : (Rule.saveTimestamps.heard (lastRun wornHistory)).length = 2 := by decide +kernel
  have later : (sinceRun wornHistory).length = 2 := by decide +kernel
  have kept : Rule.saveTimestamps.markersOn 1 (Rule.saveTimestamps.legible (lastRun wornHistory)) =
      [⟨1, some 5⟩] := by decide +kernel
  have known : lexer.line = 4 := by rw [line, heard, later]
  refine ⟨known, markers.trans kept, ?_, ?_⟩
  · rw [(fed _).2.1 (by decide), known]
    decide
  · rw [(run _).2.1 (by decide)]
    decide

end Lexer

end CounterTrace
