import Mathlib.Data.List.Infix
import CounterTrace.Proofs.Generation

/-!
# What the probes of a script record

The probe blocks of a generated script belong to the control files that have a marker and a counter
on their columns, in order. Each block declares one probe on exactly the marker lines of its file,
reads the counters on its columns in the order in which the script lists them, and records the
values in that order. So a position in a record stands for the same position among the listed
counters on those columns.

What a block does is told from the lines that hold a word. No name of a control file and no number
has the characters that decide this.

## Main definitions

* `Script.linesHolding` — the lines that hold a word
* `Script.columnEntries` — the listed counters on the columns of a control file
* `Script.IsProbe` — what a probe block declares, reads and records

## Main results

* `Script.isProbe_block` — the block of a control file is its probe
* `Generator.generate_probes` — the probe blocks of a generated script
-/

namespace CounterTrace

variable {files after : FileSystem} {file : ControlFile} {counters : List Counter}
  {lines : List String} {word line : String} {c : Char}

namespace Script

/-- The lines that hold a word. -/
def linesHolding (word : String) (lines : List String) : List String :=
  lines.filter fun line => decide (word.toList <:+: line.toList)

/-- The counters of a list that are on the columns of a control file with an identifier, in the
order of the list. -/
def columnEntries (counters : List Counter) (id : Int) : List Counter :=
  counters.filter fun counter => decide (4 * id ≤ counter.column ∧ counter.column ≤ 4 * id + 3)

/-- What the probe block of a control file does: it declares one probe, on all the marker lines; it
reads one register for each listed counter on the columns of the file, in order; and it records the
values in that order. -/
structure IsProbe (files : FileSystem) (counters : List Counter) (file : ControlFile)
    (block : List String) : Prop where
  declared : ∃ numbers : List Nat, numbers.Pairwise (· < ·) ∧
    (∀ number, number ∈ numbers ↔ ControlFile.IsMarkerLine files file.path number) ∧
    linesHolding "jprobe:" block =
      ["jprobe:" ++ file.baseName ++ ":uc" ++ Numeral.text (4 * file.id) ++ ":line" ++
        String.intercalate "," (numbers.map fun (number : Nat) => Numeral.text number)]
  read : linesHolding "read_reg(" block =
    (columnEntries counters file.id).zipIdx.map fun (counter, position) =>
      "    ctr_" ++ Numeral.text position ++ " = read_reg(" ++ counter.addressText ++ ")"
  recorded : linesHolding "\"counters\": [" block =
    ["    \"counters\": [" ++ String.intercalate ", "
      ((List.range (columnEntries counters file.id).length).map fun (position : Nat) =>
        "ctr_" ++ Numeral.text position) ++ "]"]

/-! ### Lines that hold a word -/

theorem linesHolding_append (word : String) (lines more : List String) :
    linesHolding word (lines ++ more) = linesHolding word lines ++ linesHolding word more :=
  List.filter_append _ _

theorem linesHolding_cons_of_held (held : word.toList <:+: line.toList) :
    linesHolding word (line :: lines) = line :: linesHolding word lines :=
  List.filter_cons_of_pos (decide_eq_true held)

theorem linesHolding_cons_of_not_held (lacks : ¬ word.toList <:+: line.toList) :
    linesHolding word (line :: lines) = linesHolding word lines :=
  List.filter_cons_of_neg (by simpa using lacks)

theorem held_append (front word rest : String) :
    word.toList <:+: (front ++ (word ++ rest)).toList := by
  rw [String.toList_append, String.toList_append]
  exact (List.prefix_append _ _).isInfix.trans (List.suffix_append _ _).isInfix

/-- A word with a character that a line lacks is not in the line. -/
theorem not_held_of_notMem (inside : c ∈ word.toList) (outside : c ∉ line.toList) :
    ¬ word.toList <:+: line.toList :=
  fun held => outside (held.subset inside)

theorem linesHolding_eq_nil (inside : c ∈ word.toList) (outside : ∀ line ∈ lines, c ∉ line.toList) :
    linesHolding word lines = [] := by
  rw [linesHolding, List.filter_eq_nil_iff]
  intro line member held
  exact not_held_of_notMem inside (outside line member) (of_decide_eq_true held)

theorem linesHolding_eq_self (held : ∀ line ∈ lines, word.toList <:+: line.toList) :
    linesHolding word lines = lines := by
  rw [linesHolding, List.filter_eq_self]
  exact fun line member => decide_eq_true (held line member)

/-- A character that can stand in a line only if it stands in the fixed parts of the line: no name
of a control file, no number and no address holds it. -/
structure Foreign (c : Char) (file : ControlFile) : Prop where
  name : c ∉ file.baseName.toList
  number : ∀ n, c ∉ (Numeral.text n).toList
  address : ∀ n, c ∉ (Numeral.address n).toList

/-- A character is foreign to a control file if it is none of those of which names and numbers are
made. -/
theorem foreign_of_name {id : Nat} (named : controlFileId? file.baseName = .ok (some id))
    (mark : c ≠ '-' ∧ c ≠ 'x') (digit : c.isDigit = false)
    (hexadecimal : c ∉ "0123456789abcdef".toList) (fixed : c ∉ Rule.stem ∧ c ∉ Rule.ending) :
    Foreign c file where
  name := by
    obtain ⟨digits, -, decimal, -, shape, -⟩ := controlFileId?_eq_some_iff.mp named
    rw [shape, List.mem_append, List.mem_append]
    rintro ((stem | inside) | ending)
    · exact fixed.1 stem
    · simp [decimal c inside] at digit
    · exact fixed.2 ending
  number := Numeral.notMem_text mark.1 digit
  address := Numeral.notMem_address mark hexadecimal

theorem notMem_append {text more : String} (first : c ∉ text.toList) (second : c ∉ more.toList) :
    c ∉ (text ++ more).toList := by
  rw [String.toList_append, List.mem_append]
  exact not_or.mpr ⟨first, second⟩

theorem notMem_intercalate {separator : String} {texts : List String}
    (between : c ∉ separator.toList) (outside : ∀ text ∈ texts, c ∉ text.toList) :
    c ∉ (String.intercalate separator texts).toList := by
  rw [String.toList_intercalate]
  intro member
  rcases Path.mem_of_mem_intercalate member with inside | ⟨piece, among, inside⟩
  · exact between inside
  · obtain ⟨text, listed, rfl⟩ := List.mem_map.mp among
    exact outside text listed inside

/-! ### The lines of a probe block -/

/-- The lines of a probe block before those that read registers. -/
def blockFront (file : ControlFile) : List String :=
  ["# Probes for " ++ file.baseName ++ " (columns " ++ Numeral.text file.firstColumn ++ "-" ++
      Numeral.text file.lastColumn ++ ")",
    declaration file,
    "\x7b",
    "    ts = timestamp32()"]

/-- The lines of a probe block that read registers. -/
def blockReads (file : ControlFile) : List String :=
  file.counters.zipIdx.map fun (counter, position) => readLine counter position

/-- The line of a probe block that records the values. -/
def recordLine (file : ControlFile) : String :=
  "    \"counters\": [" ++
    String.intercalate ", " ((List.range file.counters.length).map counterVariable) ++ "]"

/-- The lines of a probe block behind those that read registers. -/
def blockBack (file : ControlFile) : List String :=
  ["    print(f\"Probe fired: ts=\x7bts\x7d\")",
    blockOpen,
    "profile_data[\"probes\"].append(\x7b",
    "    \"asm_file\": \"" ++ file.baseName ++ "\",",
    "    \"timestamp\": ts,",
    recordLine file,
    "\x7d)",
    blockClose,
    "\x7d",
    ""]

/-- The fixed parts of the lines before those that read registers. -/
def frontParts : List String :=
  ["# Probes for ", " (columns ", "-", ")", "jprobe:", ":uc", ":line", ",", "\x7b",
    "    ts = timestamp32()"]

/-- The fixed parts of the lines that read registers. -/
def readParts : List String := ["    ", "ctr_", " = read_reg(", ")"]

/-- The fixed parts of the lines behind those that read registers. -/
def backParts : List String :=
  ["    print(f\"Probe fired: ts=\x7bts\x7d\")", blockOpen, "profile_data[\"probes\"].append(\x7b",
    "    \"asm_file\": \"", "\",", "    \"timestamp\": ts,", "    \"counters\": [", ", ", "ctr_",
    "]", "\x7d)", blockClose, "\x7d"]

theorem probeBlock_eq (file : ControlFile) :
    probeBlock file = blockFront file ++ blockReads file ++ blockBack file := rfl

namespace Foreign

variable {position : Nat} {counter : Counter}

theorem notMem_title (foreign : Foreign c file)
    (fixed : c ∉ "# Probes for ".toList ∧ c ∉ " (columns ".toList ∧ c ∉ "-".toList ∧
      c ∉ ")".toList) :
    c ∉ ("# Probes for " ++ file.baseName ++ " (columns " ++ Numeral.text file.firstColumn ++ "-" ++
      Numeral.text file.lastColumn ++ ")").toList :=
  notMem_append (notMem_append (notMem_append (notMem_append (notMem_append
    (notMem_append fixed.1 foreign.name) fixed.2.1) (foreign.number _)) fixed.2.2.1)
      (foreign.number _)) fixed.2.2.2

theorem notMem_declaration (foreign : Foreign c file)
    (fixed : c ∉ "jprobe:".toList ∧ c ∉ ":uc".toList ∧ c ∉ ":line".toList ∧ c ∉ ",".toList) :
    c ∉ (declaration file).toList := by
  have lines : c ∉ (markerLines file).toList := by
    refine notMem_intercalate fixed.2.2.2 fun text listed => ?_
    obtain ⟨marker, -, rfl⟩ := List.mem_map.mp listed
    exact foreign.number _
  exact notMem_append (notMem_append (notMem_append (notMem_append (notMem_append fixed.1
    foreign.name) fixed.2.1) (foreign.number _)) fixed.2.2.1) lines

theorem notMem_counterVariable (foreign : Foreign c file) (fixed : c ∉ "ctr_".toList) :
    c ∉ (counterVariable position).toList :=
  notMem_append fixed (foreign.number _)

theorem notMem_readLine (foreign : Foreign c file)
    (fixed : c ∉ "    ".toList ∧ c ∉ "ctr_".toList ∧ c ∉ " = read_reg(".toList ∧ c ∉ ")".toList) :
    c ∉ (readLine counter position).toList :=
  notMem_append (notMem_append (notMem_append (notMem_append fixed.1
    (foreign.notMem_counterVariable fixed.2.1)) fixed.2.2.1) (foreign.address _)) fixed.2.2.2

theorem notMem_recordLine (foreign : Foreign c file)
    (fixed : c ∉ "    \"counters\": [".toList ∧ c ∉ ", ".toList ∧ c ∉ "ctr_".toList ∧
      c ∉ "]".toList) :
    c ∉ (recordLine file).toList := by
  have named : c ∉ (String.intercalate ", "
      ((List.range file.counters.length).map counterVariable)).toList := by
    refine notMem_intercalate fixed.2.1 fun text listed => ?_
    obtain ⟨position, -, rfl⟩ := List.mem_map.mp listed
    exact foreign.notMem_counterVariable fixed.2.2.1
  exact notMem_append (notMem_append fixed.1 named) fixed.2.2.2

theorem notMem_source (foreign : Foreign c file)
    (fixed : c ∉ "    \"asm_file\": \"".toList ∧ c ∉ "\",".toList) :
    c ∉ ("    \"asm_file\": \"" ++ file.baseName ++ "\",").toList :=
  notMem_append (notMem_append fixed.1 foreign.name) fixed.2

theorem notMem_front (foreign : Foreign c file)
    (fixed : ∀ part ∈ frontParts, c ∉ part.toList) : ∀ line ∈ blockFront file, c ∉ line.toList := by
  simp only [frontParts, List.forall_mem_cons] at fixed
  obtain ⟨probes, columns, dash, close, probe, controller, line, comma, brace, clock, -⟩ := fixed
  simp only [blockFront, List.forall_mem_cons]
  exact ⟨foreign.notMem_title ⟨probes, columns, dash, close⟩,
    foreign.notMem_declaration ⟨probe, controller, line, comma⟩, brace, clock, by simp⟩

theorem notMem_reads (foreign : Foreign c file)
    (fixed : ∀ part ∈ readParts, c ∉ part.toList) : ∀ line ∈ blockReads file, c ∉ line.toList := by
  simp only [readParts, List.forall_mem_cons] at fixed
  obtain ⟨indent, named, read, close, -⟩ := fixed
  intro line listed
  obtain ⟨⟨counter, position⟩, -, rfl⟩ := List.mem_map.mp listed
  exact foreign.notMem_readLine ⟨indent, named, read, close⟩

theorem notMem_back (foreign : Foreign c file)
    (fixed : ∀ part ∈ backParts, c ∉ part.toList) : ∀ line ∈ blockBack file, c ∉ line.toList := by
  simp only [backParts, List.forall_mem_cons] at fixed
  obtain ⟨shown, opened, appended, source, quote, clock, values, comma, named, close, record,
    closed, brace, -⟩ := fixed
  simp only [blockBack, List.forall_mem_cons]
  exact ⟨shown, opened, appended, foreign.notMem_source ⟨source, quote⟩, clock,
    foreign.notMem_recordLine ⟨values, comma, named, close⟩, record, closed, brace, by simp,
    by simp⟩

end Foreign

/-! ### What a probe block does -/

/-- The block declares one probe. -/
theorem linesHolding_declaration (foreign : Foreign 'j' file) :
    linesHolding "jprobe:" (probeBlock file) = [declaration file] := by
  have inside : 'j' ∈ "jprobe:".toList := by decide
  have held : "jprobe:".toList <:+: (declaration file).toList := by
    simp only [declaration, String.append_assoc]
    exact held_append "" _ _
  have front : linesHolding "jprobe:" (blockFront file) = [declaration file] := by
    rw [blockFront,
      linesHolding_cons_of_not_held (not_held_of_notMem inside (foreign.notMem_title (by decide))),
      linesHolding_cons_of_held held, linesHolding_eq_nil inside (by decide)]
  have reads := linesHolding_eq_nil inside (foreign.notMem_reads (by decide))
  have back := linesHolding_eq_nil inside (foreign.notMem_back (by decide))
  rw [probeBlock_eq, linesHolding_append, linesHolding_append, front, reads, back]
  rfl

/-- The block reads the registers of the file's counters, in order. -/
theorem linesHolding_reads (foreign : Foreign 'g' file) :
    linesHolding "read_reg(" (probeBlock file) = blockReads file := by
  have inside : 'g' ∈ "read_reg(".toList := by decide
  have front := linesHolding_eq_nil inside (foreign.notMem_front (by decide))
  have back := linesHolding_eq_nil inside (foreign.notMem_back (by decide))
  have reads : linesHolding "read_reg(" (blockReads file) = blockReads file := by
    apply linesHolding_eq_self
    intro line listed
    obtain ⟨⟨counter, position⟩, -, rfl⟩ := List.mem_map.mp listed
    have shape : readLine counter position = "    " ++ counterVariable position ++
        (" = " ++ "read_reg(") ++ counter.addressText ++ ")" := rfl
    dsimp only
    rw [shape, ← String.append_assoc, String.append_assoc, String.append_assoc]
    exact held_append _ _ _
  rw [probeBlock_eq, linesHolding_append, linesHolding_append, front, reads, back, List.nil_append,
    List.append_nil]

/-- The block records the values once. -/
theorem linesHolding_record (foreign : Foreign '[' file) :
    linesHolding "\"counters\": [" (probeBlock file) = [recordLine file] := by
  have inside : '[' ∈ "\"counters\": [".toList := by decide
  have held : "\"counters\": [".toList <:+: (recordLine file).toList := by
    have shape : recordLine file = "    " ++ "\"counters\": [" ++
      String.intercalate ", " ((List.range file.counters.length).map counterVariable) ++ "]" := rfl
    rw [shape, String.append_assoc, String.append_assoc]
    exact held_append _ _ _
  have front := linesHolding_eq_nil inside (foreign.notMem_front (by decide))
  have reads := linesHolding_eq_nil inside (foreign.notMem_reads (by decide))
  -- The line that appends the record has a bracket too, but not the word.
  have back : linesHolding "\"counters\": [" (blockBack file) = [recordLine file] := by
    rw [blockBack, linesHolding_cons_of_not_held (not_held_of_notMem inside (by decide)),
      linesHolding_cons_of_not_held (not_held_of_notMem inside (by decide)),
      linesHolding_cons_of_not_held (by decide),
      linesHolding_cons_of_not_held (not_held_of_notMem inside (foreign.notMem_source (by decide))),
      linesHolding_cons_of_not_held (not_held_of_notMem inside (by decide)),
      linesHolding_cons_of_held held, linesHolding_eq_nil inside (by decide)]
  rw [probeBlock_eq, linesHolding_append, linesHolding_append, front, reads, back]
  rfl

end Script

/-! ### The probes of found control files -/

namespace ControlFile

/-- A found control file with its markers and with its counters out of a list. -/
def completed (files : FileSystem) (counters : List Counter) (file : ControlFile) : ControlFile :=
  { marked files file with
    counters := onColumns counters file.firstColumn file.lastColumn }

/-- The found control files that get a probe. -/
def probed (files : FileSystem) (counters : List Counter) (found : List ControlFile) :
    List ControlFile :=
  found.filter fun file => (completed files counters file).isProbed

/-- The probe block of a found control file. -/
def block (files : FileSystem) (counters : List Counter) (file : ControlFile) : List String :=
  Script.probeBlock (completed files counters file)

theorem assign_marked (files : FileSystem) (found : List ControlFile) (counters : List Counter) :
    assign (found.map (marked files)) counters = found.map (completed files counters) := by
  rw [assign, List.map_map]
  rfl

/-- The counters that a control file is given are those on its columns. -/
theorem counters_completed :
    (completed files counters file).counters = Script.columnEntries counters file.id := by
  have last : file.lastColumn = 4 * file.id + 3 := by
    simp only [lastColumn, firstColumn, columnCount]
    omega
  rw [completed, onColumns, Script.columnEntries, last, firstColumn, columnCount]
  exact List.filter_congr fun counter _ => (Bool.decide_and _ _).symm

/-- A found control file gets a probe if it has a marker line, and a counter on its columns. -/
theorem isProbed_completed_iff :
    (completed files counters file).isProbed ↔
      (∃ number, IsMarkerLine files file.path number) ∧
        ∃ counter ∈ counters, 4 * file.id ≤ counter.column ∧ counter.column ≤ 4 * file.id + 3 := by
  obtain ⟨numbers, lines, -, all⟩ := exists_lines_markersOf files file.path
  -- There is a marker exactly if there is a number among those of the marker lines.
  have someMarker : (completed files counters file).markers ≠ [] ↔
      ∃ number, IsMarkerLine files file.path number := by
    have same : markersOf files file.path = [] ↔ numbers = [] := by
      rw [← List.map_eq_nil_iff, lines, List.map_eq_nil_iff]
    rw [completed, marked, Ne, same, ← exists_congr all]
    exact ⟨List.exists_mem_of_ne_nil numbers, fun ⟨_, member⟩ => List.ne_nil_of_mem member⟩
  have someCounter : (completed files counters file).counters ≠ [] ↔
      ∃ counter ∈ counters, 4 * file.id ≤ counter.column ∧ counter.column ≤ 4 * file.id + 3 := by
    rw [counters_completed, Script.columnEntries, Ne, List.filter_eq_nil_iff]
    simp
  rw [isProbed, Bool.and_eq_true, ← someMarker, ← someCounter]
  simp

end ControlFile

namespace Script

/-- The probe block of a found control file does what a probe does. -/
theorem isProbe_block {id : Nat} (named : controlFileId? file.baseName = .ok (some id)) :
    IsProbe files counters file (ControlFile.block files counters file) where
  declared := by
    obtain ⟨numbers, lines, ascending, all⟩ :=
      ControlFile.exists_lines_markersOf files file.path
    have foreign : Foreign 'j' (ControlFile.completed files counters file) :=
      foreign_of_name named (by decide) (by decide) (by decide) (by decide)
    have shown : markerLines (ControlFile.completed files counters file) =
        String.intercalate "," (numbers.map fun (number : Nat) => Numeral.text number) := by
      have texts := congrArg (List.map Numeral.text) lines
      rw [List.map_map, List.map_map] at texts
      exact congrArg (String.intercalate ",") texts
    refine ⟨numbers, ascending, all, ?_⟩
    rw [ControlFile.block, linesHolding_declaration foreign, declaration, shown]
    rfl
  read := by
    have foreign : Foreign 'g' (ControlFile.completed files counters file) :=
      foreign_of_name named (by decide) (by decide) (by decide) (by decide)
    rw [ControlFile.block, linesHolding_reads foreign, blockReads, ControlFile.counters_completed]
    rfl
  recorded := by
    have foreign : Foreign '[' (ControlFile.completed files counters file) :=
      foreign_of_name named (by decide) (by decide) (by decide) (by decide)
    have shown : (List.range (ControlFile.completed files counters file).counters.length).map
        counterVariable = (List.range (columnEntries counters file.id).length).map
          fun (position : Nat) => "ctr_" ++ Numeral.text position := by
      rw [ControlFile.counters_completed]
      rfl
    rw [ControlFile.block, linesHolding_record foreign]
    exact congrArg (fun names => ["    \"counters\": [" ++ String.intercalate ", " names ++ "]"])
      shown

end Script

/-! ### What a generation has written -/

namespace Script

/-- The metadata of the script are the records of the listed counters, in order. -/
theorem forall₂_counterEntries (counters : List Counter) :
    List.Forall₂ (fun counter entry =>
      entry = counterEntry counter ∨ entry = counterEntry counter ++ ",")
      counters (counterEntries counters) := by
  induction counters with
  | nil => exact List.Forall₂.nil
  | cons counter rest ih =>
    cases rest with
    | nil => exact List.Forall₂.cons (Or.inl rfl) List.Forall₂.nil
    | cons next rest => exact List.Forall₂.cons (Or.inr rfl) ih

/-- The records stand between the line that begins the metadata and the next closing bracket. -/
theorem beginBlock_eq (counters : List Counter) :
    ∃ front back, "    \"counter_metadata\": [" ∉ front ∧
      beginBlock counters =
        front ++ "    \"counter_metadata\": [" :: counterEntries counters ++ "    ]," :: back :=
  ⟨(beginBlock []).take 11, (beginBlock []).drop 13, by decide, rfl⟩

/-- The blocks of the script for found control files are those of the probed ones. -/
theorem scriptLines_completed (dataFile : String) (found : List ControlFile) :
    scriptLines dataFile (found.map (ControlFile.completed files counters)) counters =
      header ++ beginBlock counters ++
        ((ControlFile.probed files counters found).map
          (ControlFile.block files counters)).flatten ++ endBlock dataFile := by
  rw [scriptLines, List.filter_map, List.flatMap_map, List.flatMap_def]
  rfl

/-- A text that has been rendered is the text of the script. -/
theorem eq_render_of_renderWithin {numbers : List Int} {dataFile text : String}
    {found : List ControlFile} (shown : renderWithin numbers dataFile found counters = .ok text) :
    text = render dataFile found counters := by
  rw [renderWithin] at shown
  split at shown
  · exact (Except.ok.inj shown).symm
  · cases shown

/-- A script that has been saved has been written. -/
theorem write_of_save {script path : String}
    (saved : (save files script path).result = .ok (true, after)) :
    files.write (Path.ofString path).text (Utf8.encode script.toList) = .ok after := by
  rw [save] at saved
  cases tried : files.write (Path.ofString path).text (Utf8.encode script.toList) with
  | ok written =>
    rw [tried] at saved
    have same : written = after := by simpa [Report.tell] using saved
    rw [same]
  | error error =>
    rw [tried] at saved
    cases error with
    | nullCharacter => cases saved
    | refused reason path => simp [Report.tell] at saved

end Script

namespace Generator

variable {generator : Generator} {report : Report (List Counter)} {text : String}

/-- A script is that of the found control files and the counters. -/
theorem render_of_script?_some
    (known : (script? files root report).result = .ok (some text)) :
    ∃ found counters, (ControlFile.discover files root).result = .ok found ∧
      report.result = .ok counters ∧
      text = Script.render Script.defaultDataFile (found.map (ControlFile.completed files counters))
        counters := by
  obtain ⟨found, discovered, rest⟩ := Report.bind_result_eq_ok.mp known
  -- At each of the three gates the other way gives no script.
  by_cases nothingFound : found.isEmpty
  · rw [if_pos nothingFound, nothing_result] at rest
    cases rest
  rw [if_neg nothingFound] at rest
  obtain ⟨counters, counted, rest⟩ := Report.bind_result_eq_ok.mp rest
  refine ⟨found, counters, discovered, counted, ?_⟩
  by_cases nothingCounted : counters.isEmpty
  · rw [if_pos nothingCounted, nothing_result] at rest
    cases rest
  rw [if_neg nothingCounted, Report.bind_result_of_ok (ControlFile.withMarkers_result files found)]
    at rest
  by_cases unmarked : (found.map (ControlFile.marked files)).all fun file => file.markers.isEmpty
  · rw [if_pos unmarked, nothing_result] at rest
    cases rest
  rw [if_neg unmarked, ControlFile.assign_marked] at rest
  obtain ⟨rendered, shown, same⟩ := Report.bind_result_eq_ok.mp rest
  obtain rfl : rendered = text := by simpa using same
  exact Script.eq_render_of_renderWithin shown

/-- A generation that has written has written the script of the found control files and the
counters. -/
theorem exists_write_of_generate (done : (generator.generate files).result = .ok (true, after)) :
    ∃ found counters, (ControlFile.discover files generator.searchDirectory).result = .ok found ∧
      generator.counters.result = .ok counters ∧
      files.write (generator.outputPath files) (Utf8.encode (Script.render Script.defaultDataFile
        (found.map (ControlFile.completed files counters)) counters).toList) = .ok after := by
  obtain ⟨script, known, saved⟩ := Report.bind_result_eq_ok.mp done
  cases script with
  | none => simp [save] at saved
  | some text =>
    obtain ⟨found, counters, discovered, counted, rfl⟩ := render_of_script?_some known
    have written := Script.write_of_save saved
    rw [outputPath, Script.tidy_outputPath] at written
    exact ⟨found, counters, discovered, counted, written⟩

/-- What a collection finds, from the control files and the counters. -/
theorem collect_of_discover {found : List ControlFile}
    (discovered : (ControlFile.discover files generator.searchDirectory).result = .ok found)
    (counted : generator.counters.result = .ok counters) :
    (generator.collect files).result =
      .ok ⟨found.map (ControlFile.completed files counters), counters,
        ControlFile.unassigned (found.map (ControlFile.marked files)) counters⟩ := by
  rw [← ControlFile.assign_marked]
  exact Collection.gather_result_eq_ok_iff.mpr ⟨found, counters, discovered, counted, rfl, rfl, rfl⟩

/-- Where a generation has written, the script lists the counters behind the first line that begins
their metadata, up to a closing bracket. It holds one probe block for each found control file that
has a marker and a counter on its columns, in the order of identifier and path, and for no other
file. Each block declares a probe on the marker lines of its file, and reads and records the
counters on its columns in the order in which they are listed. -/
theorem generate_probes (wellFormed : files.WellFormed)
    (done : (generator.generate files).result = .ok (true, after)) :
    ∃ found counters probed blocks,
      (ControlFile.discover files generator.searchDirectory).result = .ok found ∧
      generator.counters.result = .ok counters ∧
      after.read (generator.outputPath files) = .ok (Utf8.encode (String.intercalate "\n"
        (Script.header ++ Script.beginBlock counters ++ blocks.flatten ++
          Script.endBlock Script.defaultDataFile) ++ "\n").toList) ∧
      (∃ front back, "    \"counter_metadata\": [" ∉ front ∧
        Script.beginBlock counters = front ++ "    \"counter_metadata\": [" ::
          Script.counterEntries counters ++ "    ]," :: back) ∧
      List.Forall₂ (fun counter entry =>
        entry = Script.counterEntry counter ∨ entry = Script.counterEntry counter ++ ",")
        counters (Script.counterEntries counters) ∧
      (probed.Pairwise fun a b => a.id < b.id ∨ a.id = b.id ∧ a.path < b.path) ∧
      (∀ file, file ∈ probed ↔ file ∈ found ∧
        (∃ number, ControlFile.IsMarkerLine files file.path number) ∧
        ∃ counter ∈ counters,
          4 * file.id ≤ counter.column ∧ counter.column ≤ 4 * file.id + 3) ∧
      List.Forall₂ (Script.IsProbe files counters) probed blocks := by
  obtain ⟨found, counters, discovered, counted, written⟩ := exists_write_of_generate done
  refine ⟨found, counters, ControlFile.probed files counters found,
    (ControlFile.probed files counters found).map (ControlFile.block files counters), discovered,
    counted, ?_, Script.beginBlock_eq counters, Script.forall₂_counterEntries counters,
    (ControlFile.strict_of_discover wellFormed discovered).filter _, ?_, ?_⟩
  · rw [FileSystem.read_of_write wellFormed written, Script.render, Script.scriptLines_completed]
  · intro file
    rw [ControlFile.probed, List.mem_filter, ControlFile.isProbed_completed_iff]
  · rw [List.forall₂_map_right_iff, List.forall₂_same]
    intro file member
    obtain ⟨id, -, named⟩ := ControlFile.exists_id_of_mem_discover wellFormed discovered
      (List.mem_of_mem_filter member)
    exact Script.isProbe_block named

theorem isProbe_listingFiles :
    listingFiles.WellFormed ∧ ∃ after counters block,
      ((listingGenerator 25).generate listingFiles).result = .ok (true, after) ∧
        (listingGenerator 25).counters.result = .ok counters ∧
        Script.IsProbe listingFiles counters (ControlFile.ofPath "/aie_runtime_control0.asm" 0)
          block := by
  have wellFormed := (admissible_listingGenerator 25).files
  rcases generate_of_collect_ok (admissible_listingGenerator 25) collect_listingFiles with
    ⟨-, after, -, done⟩ | ⟨short, -⟩
  · obtain ⟨found, counters, probed, blocks, discovered, counted, -, -, -, -, all, probes⟩ :=
      generate_probes wellFormed done
    obtain rfl : _ = found := Except.ok.inj (discover_listingFiles.symm.trans discovered)
    obtain rfl : _ = counters := Except.ok.inj (Eq.trans rfl counted)
    have marker : ControlFile.IsMarkerLine listingFiles "/aie_runtime_control0.asm" 1 :=
      ⟨_, "SAVE_TIMESTAMPS".toList, ⟨⟨_, rfl, rfl⟩, by decide⟩, le_rfl, rfl, by decide⟩
    have inside : ControlFile.ofPath "/aie_runtime_control0.asm" 0 ∈ probed :=
      (all _).mpr ⟨List.mem_cons_self, ⟨1, marker⟩, _, List.mem_cons_self, by decide⟩
    obtain ⟨position, low, here⟩ := List.mem_iff_getElem.mp inside
    have probe := probes.get low (probes.length_eq ▸ low)
    rw [List.get_eq_getElem, here] at probe
    exact ⟨wellFormed, after, _, _, done, counted, probe⟩
  · exact absurd ⟨suffices_listingCollection, _, writeLocation_listingFiles⟩ short

end Generator

end CounterTrace
