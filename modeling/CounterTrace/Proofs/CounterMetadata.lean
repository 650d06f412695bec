import CounterTrace.Proofs.Documents
import CounterTrace.Proofs.Spelling
import CounterTrace.Script.Render

/-!
# The list of counters in the script

The begin block lists the counters as an array of records. The records are written piece by piece,
with a comma behind each but the last, and the name of a module stands between its quotes as it was
given. So the array reads back to the counters exactly if every name of a module is a plain text: a
quote ends the string too early, a backslash begins an escape, and a control character may not stand
in a string at all. The reader counts digits only, as the writer does, so that no number is too long
for it that has been written.

## Main definitions

* `Script.metadataText` — the array that the begin block holds
* `Script.record` — the object that describes a counter

## Main results

* `Script.render_eq_metadata` — the array stands in the script between two texts
* `Script.parse?_metadataText` — plain names of modules are read back
* `Script.isPlainText_of_parse?` — and no others are
* `Script.counterMetadata_iff` — when the list of counters in a script reads back to the counters
-/

namespace CounterTrace.Script

variable {counter : Counter} {counters : List Counter} {tokens before : List Json.Token}
  {text : List Char}

/-! ### The array in the script -/

/-- The array of the records of counters, as the begin block holds it. -/
def metadataText (counters : List Counter) : String :=
  String.intercalate "\n" (["["] ++ counterEntries counters ++ ["    ]"])

/-- The lines of the script before the array. -/
def linesBefore : List String :=
  header ++
  ["begin",
    "\x7b",
    "    ts_start = timestamp32()",
    "    print(\"\\nAIE Profile tracing started\\n\")",
    blockOpen,
    "import json",
    "import os",
    "",
    "# Initialize data collection",
    "profile_data = \x7b",
    "    \"start_timestamp\": ts_start,"]

/-- The lines of the script behind the array. -/
def linesAfter (dataFile : String) (files : List ControlFile) : List String :=
  ["    \"probes\": []",
    "\x7d",
    blockClose,
    "\x7d",
    ""] ++ (files.filter (·.isProbed)).flatMap probeBlock ++ endBlock dataFile

/-- The script up to the array. -/
def metadataBefore : String :=
  String.intercalate "\n" (linesBefore ++ ["    \"counter_metadata\": "])

/-- The script from the array on. -/
def metadataAfter (dataFile : String) (files : List ControlFile) : String :=
  String.intercalate "\n" ("," :: linesAfter dataFile files) ++ "\n"

/-- Lines joined by a separator are cut inside one of them. -/
theorem intercalate_cut (separator : String) (lines more : List String) (first second : String) :
    String.intercalate separator (lines ++ (first ++ second) :: more) =
      String.intercalate separator (lines ++ [first]) ++
        String.intercalate separator (second :: more) := by
  by_cases empty : lines = []
  · rw [empty, List.nil_append, List.nil_append, String.intercalate_cons_append,
      String.intercalate_singleton]
  · rw [String.intercalate_append_of_ne_nil empty (by simp),
      String.intercalate_append_of_ne_nil empty (by simp), String.intercalate_cons_append,
      String.intercalate_singleton]
    simp only [String.append_assoc]

theorem scriptLines_eq_metadata (dataFile : String) (files : List ControlFile)
    (counters : List Counter) :
    scriptLines dataFile files counters =
      linesBefore ++ ("    \"counter_metadata\": " ++ "[") ::
        (counterEntries counters ++ ("    ]" ++ ",") :: linesAfter dataFile files) := by
  have opening : "    \"counter_metadata\": [" = "    \"counter_metadata\": " ++ "[" := rfl
  have closing : "    ]," = "    ]" ++ "," := rfl
  rw [scriptLines, beginBlock, opening, closing, linesBefore, linesAfter]
  simp only [List.cons_append, List.nil_append, List.append_assoc]

/-- The array stands in the script between two texts that do not depend on the counters listed. -/
theorem render_eq_metadata (dataFile : String) (files : List ControlFile)
    (counters : List Counter) :
    render dataFile files counters =
      metadataBefore ++ metadataText counters ++ metadataAfter dataFile files := by
  rw [render, scriptLines_eq_metadata, intercalate_cut, ← List.cons_append, intercalate_cut,
    metadataBefore, metadataText, metadataAfter, List.append_assoc, List.singleton_append,
    List.cons_append]
  simp only [String.append_assoc]

/-! ### Records as text -/

/-- The array behind its opening bracket. -/
def entriesText (counters : List Counter) : String :=
  "\n" ++ String.intercalate "\n" (counterEntries counters ++ ["    ]"])

theorem metadataText_eq (counters : List Counter) :
    metadataText counters = "[" ++ entriesText counters := by
  rw [metadataText, entriesText, List.append_assoc, List.singleton_append,
    String.intercalate_cons_of_ne_nil (by simp), String.append_assoc]

theorem entriesText_singleton (last : Counter) :
    entriesText [last] = "\n" ++ counterEntry last ++ "\n    ]" := by
  have closing : "\n    ]" = "\n" ++ "    ]" := rfl
  rw [entriesText, counterEntries, List.singleton_append, String.intercalate_cons_cons,
    String.intercalate_singleton, closing]
  simp only [String.append_assoc]

theorem entriesText_cons_cons (counter second : Counter) (rest : List Counter) :
    entriesText (counter :: second :: rest) =
      "\n" ++ counterEntry counter ++ "," ++ entriesText (second :: rest) := by
  rw [entriesText, counterEntries, List.cons_append, String.intercalate_cons_of_ne_nil (by simp),
    entriesText]
  · simp only [String.append_assoc]
  · simp

/-- A record up to the quote before the name of the module. -/
def frontText (counter : Counter) : String :=
  "        \x7b\"column\": " ++ Numeral.text counter.column ++
    ", \"row\": " ++ Numeral.text counter.row ++
    ", \"counter\": " ++ Numeral.text counter.number ++ ", \"module\": "

/-- A record from behind the quote that closes the name of the module. -/
def backText (counter : Counter) : String :=
  ", \"address\": \"" ++ counter.addressText ++ "\"\x7d"

theorem toList_counterEntry (counter : Counter) :
    (counterEntry counter).toList = (frontText counter).toList ++
      '"' :: (counter.module.toList ++ '"' :: (backText counter).toList) := by
  have front : ", \"module\": \"" = ", \"module\": " ++ "\"" := rfl
  have back : "\", \"address\": \"" = "\"" ++ ", \"address\": \"" := rfl
  have quote : "\"".toList = ['"'] := rfl
  unfold counterEntry frontText backText
  rw [front, back]
  simp only [String.toList_append, List.append_assoc, quote, List.cons_append, List.nil_append]

/-- The tokens of a record up to the name of the module. -/
def frontTokens (counter : Counter) : List Json.Token :=
  [.openBrace, .string "column", .colon, .word (Numeral.text counter.column).toList,
    .comma, .string "row", .colon, .word (Numeral.text counter.row).toList,
    .comma, .string "counter", .colon, .word (Numeral.text counter.number).toList,
    .comma, .string "module", .colon]

/-- The tokens of a record behind the name of the module. -/
def backTokens (counter : Counter) : List Json.Token :=
  [.comma, .string "address", .colon, .string counter.addressText, .closeBrace]

/-- The tokens of a record. -/
def entryTokens (counter : Counter) : List Json.Token :=
  frontTokens counter ++ .string counter.module :: backTokens counter

/-- A number and the comma behind it. -/
theorem scans_number (n : Int) (rest : Json.Scans (',' :: text) tokens) :
    Json.Scans ((Numeral.text n).toList ++ ',' :: text)
      (.word (Numeral.text n).toList :: tokens) := by
  have proper : (Numeral.text n).toList ≠ [] := by
    rw [Numeral.toList_text]
    exact List.append_ne_nil_of_right_ne_nil _ Nat.toDigits_ne_nil
  refine .word_append proper (fun c member => ?_) rfl rest
  rcases Numeral.mem_text member with rfl | decimal
  · rfl
  · simp [Json.isWordChar, Char.isAlphanum, decimal]

theorem scans_front (counter : Counter) :
    Json.Scans (frontText counter).toList (frontTokens counter) := by
  have opening : Json.Scans "        \x7b\"column\": ".toList
      [.openBrace, .string "column", .colon] := fun _ => rfl
  have row : Json.Scans ", \"row\": ".toList [.comma, .string "row", .colon] := fun _ => rfl
  have number : Json.Scans ", \"counter\": ".toList
      [.comma, .string "counter", .colon] := fun _ => rfl
  have module : Json.Scans ", \"module\": ".toList
      [.comma, .string "module", .colon] := fun _ => rfl
  unfold frontText
  simp only [String.toList_append, List.append_assoc]
  exact opening.append (scans_number counter.column (row.append
    (scans_number counter.row (number.append (scans_number counter.number module)))))

theorem isPlainText_addressText (counter : Counter) : Json.IsPlainText counter.addressText := by
  intro c member
  rcases Numeral.mem_address member with rfl | rfl | digit
  · rfl
  · rfl
  · have plain : Json.IsPlainText "0123456789abcdef" := by decide
    exact plain c digit

theorem scans_back (counter : Counter) :
    Json.Scans (backText counter).toList (backTokens counter) := by
  have opening : Json.Scans ", \"address\": ".toList
      [.comma, .string "address", .colon] := fun _ => rfl
  have closing : Json.Scans ['\x7d'] [.closeBrace] := fun _ => rfl
  have text : (backText counter).toList = ", \"address\": ".toList ++
      (('"' :: counter.addressText.toList ++ ['"']) ++ ['\x7d']) := by
    unfold backText
    simp only [String.toList_append, List.append_assoc]
    rfl
  rw [text]
  exact opening.append ((Json.scans_string (isPlainText_addressText counter)).append closing)

/-- A record whose name of the module is plain. -/
theorem scans_counterEntry (plain : Json.IsPlainText counter.module) :
    Json.Scans (counterEntry counter).toList (entryTokens counter) := by
  rw [toList_counterEntry]
  have onward := (scans_front counter).append
    ((Json.scans_string plain).append (scans_back counter))
  rwa [List.append_assoc, List.singleton_append, List.cons_append] at onward

/-! ### Plain names are read back -/

/-- The object that describes a counter. -/
def record (counter : Counter) : Json.Value :=
  .object [("column", .integer counter.column), ("row", .integer counter.row),
    ("counter", .integer counter.number), ("module", .string counter.module),
    ("address", .string counter.addressText)]

/-- The tokens of the array behind its opening bracket. -/
def listTokens : List Counter → List Json.Token
  | [] => [.closeBracket]
  | [last] => entryTokens last ++ [.closeBracket]
  | counter :: rest => entryTokens counter ++ .comma :: listTokens rest

theorem scans_entriesText (plain : ∀ counter ∈ counters, Json.IsPlainText counter.module) :
    Json.Scans (entriesText counters).toList (listTokens counters) := by
  have lineEnd : Json.Scans "\n".toList [] := fun _ => rfl
  have comma : Json.Scans ",".toList [.comma] := fun _ => rfl
  have closing : Json.Scans "\n    ]".toList [.closeBracket] := fun _ => rfl
  fun_induction listTokens counters with
  | case1 => exact closing
  | case2 last =>
    rw [entriesText_singleton, String.toList_append, String.toList_append]
    exact (lineEnd.append (scans_counterEntry (plain last List.mem_cons_self))).append closing
  | case3 counter rest several ih =>
    obtain ⟨second, rest, rfl⟩ := List.exists_cons_of_ne_nil several
    rw [List.forall_mem_cons] at plain
    rw [entriesText_cons_cons, String.toList_append, String.toList_append, String.toList_append]
    have entry := (lineEnd.append (scans_counterEntry plain.1)).append comma
    simpa using entry.append (ih plain.2)

/-- A reader that is due to read an item reads the record of a counter. -/
theorem foldlM_entryTokens {reader : Json.Reader} {items : List Json.Value}
    (writable : ∀ number ∈ entryNumbers counter, Numeral.isWritable number)
    (opened : reader.step .openBrace = some (.firstName [.item items])) :
    (entryTokens counter).foldlM Json.Reader.step reader =
      some (.afterItem (record counter :: items) []) := by
  -- A reader that counts digits only reads whatever can be written.
  have readable : ∀ number ∈ entryNumbers counter, Numeral.isReadable number := fun number inside =>
    (Numeral.isReadable_digitsOnly number).trans (writable number inside)
  have column := readable counter.column (by simp [entryNumbers])
  have row := readable counter.row (by simp [entryNumbers])
  have number := readable counter.number (by simp [entryNumbers])
  have single : [Json.Frame.item items].length < Json.maxDepth := by
    simp [Json.maxDepth]
  rw [entryTokens, frontTokens, backTokens]
  simp only [List.cons_append, List.nil_append]
  rw [Json.foldlM_cons_of_eq_some opened,
    Json.Reader.foldlM_firstName single, Json.Reader.foldlM_number column,
    Json.Reader.foldlM_comma, Json.Reader.foldlM_number row,
    Json.Reader.foldlM_comma, Json.Reader.foldlM_number number,
    Json.Reader.foldlM_comma, Json.Reader.foldlM_string,
    Json.Reader.foldlM_comma, Json.Reader.foldlM_string, Json.Reader.foldlM_closeBrace]
  rfl

/-- And it reads the rest of the array, record by record. -/
theorem foldlM_listTokens {reader : Json.Reader} {items : List Json.Value}
    (writable : ∀ counter ∈ counters, ∀ number ∈ entryNumbers counter, Numeral.isWritable number)
    (opened : reader.step .openBrace = some (.firstName [.item items])) (proper : counters ≠ []) :
    (listTokens counters).foldlM Json.Reader.step reader =
      some (.complete (.array (items.reverse ++ counters.map record))) := by
  fun_induction listTokens counters generalizing reader items with
  | case1 => cases proper rfl
  | case2 last =>
    rw [List.foldlM_append, foldlM_entryTokens (writable last List.mem_cons_self) opened]
    simp [Json.Reader.step, Json.Reader.put]
  | case3 counter rest several ih =>
    rw [List.forall_mem_cons] at writable
    rw [List.foldlM_append, foldlM_entryTokens writable.1 opened]
    have onward : Json.Reader.step (.item [.item (record counter :: items)]) .openBrace =
        some (.firstName [.item (record counter :: items)]) := rfl
    have rest := ih writable.2 onward several
    simpa [Json.Reader.step] using rest

/-- Plain names of modules are read back. -/
theorem parse?_metadataText
    (writable : ∀ counter ∈ counters, ∀ number ∈ entryNumbers counter, Numeral.isWritable number)
    (plain : ∀ counter ∈ counters, Json.IsPlainText counter.module) :
    Json.parse? (metadataText counters).toList = some (.array (counters.map record)) := by
  have bracket : Json.Scans "[".toList [.openBracket] := fun _ => rfl
  have text := bracket.append (scans_entriesText plain)
  rw [← String.toList_append, ← metadataText_eq] at text
  rw [Json.parse?, Json.tokens?_of_scans text, Option.bind_some, Json.ofTokens?,
    List.singleton_append, List.foldlM_cons]
  by_cases empty : counters = []
  · subst empty
    rfl
  · have opened : Json.Reader.step (.firstItem []) .openBrace = some (.firstName [.item []]) := rfl
    have read := foldlM_listTokens writable opened empty
    simp [Json.Reader.step, Json.Reader.start, read, Json.Reader.finish]

/-! ### No other names are -/

theorem texts_entryTokens (counter : Counter) :
    (entryTokens counter).filterMap Json.Token.text? = (record counter).texts := by
  simp only [record, Json.Value.texts, Json.memberTexts, List.cons_append, List.nil_append]
  rfl

/-- A record goes on with another string behind the name of the module. -/
theorem exists_backText_eq (counter : Counter) :
    ∃ more, (backText counter).toList = ',' :: ' ' :: '"' :: more := by
  unfold backText
  simp only [String.toList_append, List.append_assoc]
  exact ⟨_, rfl⟩

/-- A name is plain if the string that the scanner makes of it is the name. It is, if the strings of
all tokens go on with those of the counter. -/
theorem isPlainText_of_foldlM {rest : List Char} {last : Json.Scanner} {more : List String}
    (known : ((counterEntry counter).toList ++ rest).foldlM Json.Scanner.step ⟨.between, before⟩ =
      some last)
    (kept : last.tokens.reverse <+: tokens)
    (read : tokens.filterMap Json.Token.text? =
      before.reverse.filterMap Json.Token.text? ++ ((record counter).texts ++ more)) :
    Json.IsPlainText counter.module := by
  -- Up to the quote before the name, the tokens are those of the counter in any case.
  obtain ⟨behind, back⟩ := exists_backText_eq counter
  rw [toList_counterEntry, back, List.append_assoc,
    Json.foldlM_append_of_eq_some (scans_front counter before), List.cons_append,
    List.append_assoc] at known
  have inside : (counter.module.toList ++ '"' :: ',' :: ' ' :: '"' :: (behind ++ rest)).foldlM
      Json.Scanner.step ⟨.string [] none, (frontTokens counter).reverse ++ before⟩ = some last :=
    known
  obtain ⟨result, made, closes⟩ := Json.exists_string_of_foldlM rfl inside
  -- The next string is what the scanner makes of the name, and the next one there is the name.
  have same : String.ofList result = counter.module := by
    have begun := ((List.reverse_prefix.mpr made).trans kept).filterMap Json.Token.text?
    rw [read, List.reverse_cons, List.reverse_append, List.reverse_reverse, List.append_assoc,
      List.filterMap_append, List.prefix_append_right_inj, ← texts_entryTokens, entryTokens,
      List.filterMap_append, List.filterMap_append, List.append_assoc,
      List.prefix_append_right_inj] at begun
    simpa [Json.Token.text?] using begun
  obtain rfl : result = counter.module.toList := by
    rw [← same, String.toList_ofList]
  exact closes.forall_isPlain

/-- If the strings that the scanner makes of the array are those of the counters, every name of a
module is plain. -/
theorem isPlainText_of_foldlM_entriesText {last : Json.Scanner}
    (known : (entriesText counters).toList.foldlM Json.Scanner.step ⟨.between, before⟩ = some last)
    (kept : last.tokens.reverse <+: tokens)
    (read : tokens.filterMap Json.Token.text? =
      before.reverse.filterMap Json.Token.text? ++ Json.itemTexts (counters.map record)) :
    ∀ counter ∈ counters, Json.IsPlainText counter.module := by
  have lineEnd : Json.Scans "\n".toList [] := fun _ => rfl
  have comma : Json.Scans ",".toList [.comma] := fun _ => rfl
  induction counters generalizing before with
  | nil => simp
  | cons counter rest ih =>
    rw [List.map_cons, Json.itemTexts] at read
    cases rest with
    | nil =>
      rw [entriesText_singleton, String.toList_append, String.toList_append, List.append_assoc,
        Json.foldlM_append_of_eq_some (lineEnd before), List.reverse_nil, List.nil_append] at known
      simpa using isPlainText_of_foldlM known kept read
    | cons second rest =>
      rw [entriesText_cons_cons, String.toList_append, String.toList_append, String.toList_append,
        List.append_assoc, List.append_assoc, Json.foldlM_append_of_eq_some (lineEnd before),
        List.reverse_nil, List.nil_append] at known
      have plain := isPlainText_of_foldlM known kept read
      -- The record of a plain name is what it stands for, so that the others begin behind it.
      have entry := (scans_counterEntry plain).append comma before
      rw [← List.append_assoc, Json.foldlM_append_of_eq_some entry] at known
      refine List.forall_mem_cons.mpr ⟨plain, ih known ?_⟩
      rw [read, ← texts_entryTokens]
      simp [Json.Token.text?]

/-- Only plain names of modules are read back. -/
theorem isPlainText_of_parse?
    (read : Json.parse? (metadataText counters).toList = some (.array (counters.map record))) :
    ∀ counter ∈ counters, Json.IsPlainText counter.module := by
  obtain ⟨tokens, scanned, made⟩ := Option.bind_eq_some_iff.mp read
  obtain ⟨last, known, finished⟩ := Option.bind_eq_some_iff.mp scanned
  have bracket : Json.Scans "[".toList [.openBracket] := fun _ => rfl
  rw [metadataText_eq, String.toList_append, Json.foldlM_append_of_eq_some (bracket [])] at known
  refine isPlainText_of_foldlM_entriesText known (Json.prefix_of_finish finished) ?_
  rw [Json.texts_of_ofTokens? made, Json.Value.texts]
  rfl

/-! ### The list of counters -/

/-- The list of counters in a script stands between two texts that hold none of it. It is an array
that reads back to the counters, in order and with all their fields, exactly if the name of every
module is a plain text. -/
theorem counterMetadata_iff {dataFile script : String} {files : List ControlFile}
    (produced : render? dataFile files counters = .ok script) :
    script = metadataBefore ++ metadataText counters ++ metadataAfter dataFile files ∧
      (Json.parse? (metadataText counters).toList = some (.array (counters.map record)) ↔
        ∀ counter ∈ counters, Json.IsPlainText counter.module) := by
  rw [render?, renderWithin] at produced
  split at produced
  case isFalse => cases produced
  rename_i within
  rw [← Except.ok.inj produced]
  refine ⟨render_eq_metadata dataFile files counters, isPlainText_of_parse?, ?_⟩
  refine parse?_metadataText fun counter member number inside => ?_
  refine List.all_eq_true.mp within number (List.mem_append_left _ ?_)
  exact List.mem_append_left _ (List.mem_flatMap.mpr ⟨counter, member, inside⟩)

/-- One counter on the second column, with a plain name of its module. -/
theorem counterMetadata_core :
    render? defaultDataFile [] [⟨1, 2, 0, "aie", 0x2231520⟩] =
        .ok (render defaultDataFile [] [⟨1, 2, 0, "aie", 0x2231520⟩]) ∧
      Json.parse? (metadataText [⟨1, 2, 0, "aie", 0x2231520⟩]).toList =
        some (.array [record ⟨1, 2, 0, "aie", 0x2231520⟩]) := by
  have produced : render? defaultDataFile [] [⟨1, 2, 0, "aie", 0x2231520⟩] =
      .ok (render defaultDataFile [] [⟨1, 2, 0, "aie", 0x2231520⟩]) := rfl
  exact ⟨produced, (counterMetadata_iff produced).2.mpr (by decide)⟩

/-- A quote in the name of a module: the settings are accepted, and the list of counters in the
script does not read back to the counters. -/
theorem counterMetadata_quote :
    ∃ store counters script,
      CounterStore.ofText ("\x7b\"0\": [\x7b\"column\": 1, \"row\": 2, \"counterNumber\": 0, " ++
        "\"module\": \"a\\\"b\"\x7d]\x7d").toList = .ok store ∧
      Counter.ofSlots ⟨25, 20⟩ (store.slots 0) = .ok counters ∧
      render? defaultDataFile [] counters = .ok script ∧
      script = metadataBefore ++ metadataText counters ++ metadataAfter defaultDataFile [] ∧
      Json.parse? (metadataText counters).toList ≠ some (.array (counters.map record)) := by
  refine ⟨⟨[(0, [some ⟨1, 2, 0, "a\"b"⟩])]⟩, [⟨1, 2, 0, "a\"b", 0x2231520⟩], _, rfl, rfl, rfl,
    render_eq_metadata _ _ _, fun read => ?_⟩
  have plain : Json.IsPlainText "a\"b" := isPlainText_of_parse? read _ List.mem_cons_self
  exact absurd plain (by decide)

end CounterTrace.Script
