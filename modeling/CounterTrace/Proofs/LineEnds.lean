import CounterTrace.Proofs.Encoding
import CounterTrace.Proofs.Scanning
import CounterTrace.Settings.Load

/-!
# Line ends in settings texts

Unified line ends do not change what a settings text says. A carriage return and a line feed are
both blanks between tokens, both end a word, and are both refused inside a string, so that one of
them can stand for the other, or for a pair of both.

## Main results

* `Json.tokens?_unifyLineEnds` — the tokens of a text with unified line ends
* `Settings.readText_of_encode`, `CounterStore.load_of_encode` — a file that holds an encoded text
* `Settings.load_eq_ofText` — settings files are read as their texts are
-/

namespace CounterTrace

/-! ### Tokens -/

namespace Json.Scanner

/-- The scanner makes no difference between the two line ends. -/
theorem step_carriageReturn (scanner : Scanner) : scanner.step '\r' = scanner.step '\n' := by
  obtain ⟨mode, tokens⟩ := scanner
  cases mode with
  | between => rfl
  | word text => rfl
  | string text high => cases high <;> rfl
  | escape text high => cases high <;> rfl
  | unit text high count value => rfl

/-- A second line end changes nothing. -/
theorem step_lineFeed_twice (scanner : Scanner) :
    (scanner.step '\n').bind (·.step '\n') = scanner.step '\n' := by
  obtain ⟨mode, tokens⟩ := scanner
  cases mode with
  | between => rfl
  | word text => rfl
  | string text high => cases high <;> rfl
  | escape text high => cases high <;> rfl
  | unit text high count value => rfl

theorem foldlM_lineEndPair (scanner : Scanner) (rest : List Char) :
    ('\r' :: '\n' :: rest).foldlM step scanner = ('\n' :: rest).foldlM step scanner := by
  have twice := step_lineFeed_twice scanner
  cases first : scanner.step '\n' with
  | none => rw [List.foldlM_cons, List.foldlM_cons, step_carriageReturn, first]; rfl
  | some next =>
    rw [first] at twice
    rw [foldlM_cons_of_eq_some ((step_carriageReturn scanner).trans first),
      foldlM_cons_of_eq_some twice, foldlM_cons_of_eq_some first]

theorem foldlM_unifyLineEndsFrom (scanner : Scanner) (result text : List Char) :
    (Text.unifyLineEndsFrom result text).foldlM step scanner =
      (result.reverse ++ text).foldlM step scanner := by
  -- What has been read is behind the scanner on both sides; what differs are the next characters.
  fun_induction Text.unifyLineEndsFrom result text with
  | case1 result => rw [List.append_nil]
  | case2 result rest ih =>
    rw [ih, List.reverse_cons, List.append_assoc, List.foldlM_append, List.foldlM_append]
    exact congrArg _ (funext fun next => (foldlM_lineEndPair next rest).symm)
  | case3 result rest apart ih =>
    rw [ih, List.reverse_cons, List.append_assoc, List.foldlM_append, List.foldlM_append]
    refine congrArg _ (funext fun next => ?_)
    rw [List.singleton_append, List.foldlM_cons, List.foldlM_cons, step_carriageReturn]
  | case4 result c rest notPair notReturn ih =>
    rw [ih, List.reverse_cons, List.append_assoc, List.singleton_append]

end Json.Scanner

/-- The tokens of a text do not depend on its line ends. -/
theorem Json.tokens?_unifyLineEnds (text : List Char) :
    tokens? (Text.unifyLineEnds text) = tokens? text := by
  rw [tokens?, tokens?, Text.unifyLineEnds, Scanner.foldlM_unifyLineEndsFrom, List.reverse_nil,
    List.nil_append]

theorem Json.parse?_unifyLineEnds [Numeral.SignRule] (text : List Char) :
    parse? (Text.unifyLineEnds text) = parse? text := by
  rw [parse?, parse?, tokens?_unifyLineEnds]

/-! ### Settings files -/

section

variable {files : FileSystem} {path : String} {text : List Char}

theorem Settings.readText_of_encode (content : files.read path = .ok (Utf8.encode text)) :
    readText files path = .ok (Text.unifyLineEnds text) := by
  rw [readText, content]
  dsimp only
  rw [Utf8.decode_encode]

variable [Numeral.SignRule]

/-- A counter file that holds an encoded text holds what the text says. -/
theorem CounterStore.load_of_encode (content : files.read path = .ok (Utf8.encode text)) :
    load files path = parse text := by
  rw [load, Settings.readText_of_encode content, Except.bind, parse, parse, ofText, ofText,
    Json.parse?_unifyLineEnds]

/-- So does a metadata file. -/
theorem Metadata.load_of_encode (content : files.read path = .ok (Utf8.encode text)) :
    load files path = parse text := by
  rw [load, Settings.readText_of_encode content, Except.bind, parse, parse, ofText, ofText,
    Json.parse?_unifyLineEnds]

/-- A settings file that holds the bytes of a text is read as the text itself would be, though its
line ends are unified first: it gives the same store or metadata, or is refused with the same issues
at the same places. -/
theorem Settings.load_eq_ofText (content : files.read path = .ok (Utf8.encode text)) :
    CounterStore.load files path = (CounterStore.ofText text).mapError (.invalid .counters) ∧
      Metadata.load files path = (Metadata.ofText text).mapError (.invalid .metadata) :=
  ⟨CounterStore.load_of_encode content, Metadata.load_of_encode content⟩

end

/-- A text with both other line ends, between tokens and behind a word. -/
def Settings.mixedText : List Char :=
  "\x7b\r\"7\":\r\n[\rnull\r]\r\n,\"row_shift\"\r: 21\r\x7d".toList

/-- A file system that holds this text. -/
def Settings.mixedFiles : FileSystem :=
  ⟨.directory [("s.json", .file (Utf8.encode mixedText))], [], []⟩

/-- As metadata the text sets one shift; as a store it has two issues, at a name and at its
value. -/
theorem Settings.load_mixedFiles :
    mixedFiles.read "/s.json" = .ok (Utf8.encode mixedText) ∧
      Metadata.load mixedFiles "/s.json" = .ok { rowShift := 21 } ∧
      CounterStore.load mixedFiles "/s.json" =
        .error (.invalid .counters [⟨.unreadableInteger, [.member "row_shift", .member "[key]"]⟩,
          ⟨.notArray, [.member "row_shift"]⟩]) := by
  have content : mixedFiles.read "/s.json" = .ok (Utf8.encode mixedText) := rfl
  obtain ⟨store, metadata⟩ := load_eq_ofText content
  have issues : CounterStore.ofText mixedText =
      .error [⟨.unreadableInteger, [.member "row_shift", .member "[key]"]⟩,
        ⟨.notArray, [.member "row_shift"]⟩] := rfl
  have settings : Metadata.ofText mixedText = .ok { rowShift := 21 } := rfl
  rw [issues] at store
  rw [settings] at metadata
  exact ⟨content, metadata, store⟩

end CounterTrace
