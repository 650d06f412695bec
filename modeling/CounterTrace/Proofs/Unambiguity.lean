import CounterTrace.Proofs.NumberTexts
import CounterTrace.Proofs.Probes

/-!
# What can be read off a script

A script says which counters it lists and what each of its probes is: two scripts with the same text
agree on the column, the row, the number, the module and the address of every listed counter, and on
what stands in the block of every probe. Nothing marks where the list of counters and the list of
blocks end but the text itself, and the name of a module stands between its quotes as it was given.

The text is decoded from the front. Its lines are read off at the line feeds, since no line holds
one. A number ends at the first character that is none of its own. The name of a module may hold
quotes, so the end of a record is cut off from behind, at the brace and at the quotes of the
address. Each list of lines ends at the first line that begins otherwise than its own.

## Main definitions

* `ControlFile.IsNamed` — the identifier of a control file is the one in its name
* `Script.SameProbe` — two control files of which the same is written in a probe block

## Main results

* `Script.counterEntries_append_inj` — a list of records ends where it is closed
* `Script.probeBlock_append_inj` — so does a probe block
* `Script.render_congr` — what the text of a script depends on
* `Script.text_eq_iff` — all of that can be read off the text
-/

namespace CounterTrace

/-- The identifier of a control file is the one in its name. -/
def ControlFile.IsNamed (file : ControlFile) : Prop :=
  ∃ id : Nat, controlFileId? file.baseName = .ok (some id) ∧ file.id = id

namespace Script

variable {file other : ControlFile} {files others : List ControlFile}
  {counter next : Counter} {counters more : List Counter} {lines rest tail : List String}
  {c : Char}

/-! ### Texts that are cut at a character -/

private theorem cut_at_first {front before behind after : List Char} (outside : c ∉ front)
    (absent : c ∉ before) (same : front ++ c :: behind = before ++ c :: after) :
    front = before ∧ behind = after := by
  induction front generalizing before with
  | nil =>
    cases before with
    | nil => exact ⟨rfl, List.tail_eq_of_cons_eq same⟩
    | cons first before => exact absurd ((List.cons.inj same).1 ▸ List.mem_cons_self) absent
  | cons first front ih =>
    cases before with
    | nil => exact absurd ((List.cons.inj same).1 ▸ List.mem_cons_self) outside
    | cons second before =>
      obtain ⟨rfl, behindSame⟩ := List.cons.inj same
      have cut := ih (List.not_mem_of_not_mem_cons outside) (List.not_mem_of_not_mem_cons absent)
        behindSame
      exact ⟨congrArg (first :: ·) cut.1, cut.2⟩

/-- Two texts are cut alike in front of a word, if neither holds the character that begins it. -/
theorem cut_before {front before behind after word : String} (begins : word.toList.head? = some c)
    (outside : c ∉ front.toList) (absent : c ∉ before.toList)
    (same : front ++ (word ++ behind) = before ++ (word ++ after)) :
    front = before ∧ behind = after := by
  obtain ⟨letters, spelled⟩ := List.head?_eq_some_iff.mp begins
  have chars := congrArg String.toList same
  simp only [String.toList_append, spelled, List.cons_append] at chars
  have cut := cut_at_first outside absent chars
  exact ⟨String.toList_inj.mp cut.1, String.toList_inj.mp (List.append_cancel_left cut.2)⟩

/-- Two texts are cut alike behind a word, if neither holds the character that ends it. -/
theorem cut_behind {front before behind after word : String}
    (ends : word.toList.getLast? = some c) (outside : c ∉ behind.toList)
    (absent : c ∉ after.toList) (same : front ++ (word ++ behind) = before ++ (word ++ after)) :
    front = before ∧ behind = after := by
  obtain ⟨letters, spelled⟩ := List.getLast?_eq_some_iff.mp ends
  -- Read backwards, the last character of the word is the first of its kind.
  have chars := congrArg (fun text : String => text.toList.reverse) same
  simp only [String.toList_append, spelled, List.reverse_append, List.append_assoc,
    List.singleton_append, List.reverse_cons] at chars
  have cut := cut_at_first (by simpa using outside) (by simpa using absent) chars
  exact ⟨String.toList_inj.mp (List.reverse_injective (List.append_cancel_left cut.2)),
    String.toList_inj.mp (List.reverse_injective cut.1)⟩

/-- Texts that are joined by a character which none of them holds can be told apart again. -/
theorem intercalate_inj {separator : String} {others : List String}
    (single : separator.toList = [c]) (proper : lines ≠ []) (othersProper : others ≠ [])
    (outside : ∀ line ∈ lines, c ∉ line.toList) (absent : ∀ line ∈ others, c ∉ line.toList)
    (same : String.intercalate separator lines = String.intercalate separator others) :
    lines = others := by
  have chars := congrArg (fun text : String => text.toList.splitOn c) same
  simp only [String.toList_intercalate, single] at chars
  rw [List.splitOn_intercalate c (by simpa using outside) (by simpa using proper),
    List.splitOn_intercalate c (by simpa using absent) (by simpa using othersProper)] at chars
  exact List.map_injective_iff.mpr (fun _ _ => String.toList_inj.mp) chars

/-- A number ends in front of a word that begins with none of its characters. -/
theorem cut_number {m n : Int} {behind after word : String} (begins : word.toList.head? = some c)
    (foreign : c ≠ '-' ∧ c.isDigit = false)
    (same : Numeral.text m ++ (word ++ behind) = Numeral.text n ++ (word ++ after)) :
    m = n ∧ behind = after := by
  have outside := Numeral.notMem_text foreign.1 foreign.2
  have cut := cut_before begins (outside m) (outside n) same
  exact ⟨Numeral.text_injective cut.1, cut.2⟩

/-! ### The list of counters -/

/-- A record and the mark behind it, in the parts in which it is decoded. -/
theorem counterEntry_append (counter : Counter) (mark : String) :
    counterEntry counter ++ mark =
      "        \x7b\"column\": " ++ (Numeral.text counter.column ++
        (", \"row\": " ++ (Numeral.text counter.row ++
          (", \"counter\": " ++ (Numeral.text counter.number ++
            (", \"module\": \"" ++ ((counter.module ++
              ("\", \"address\": \"" ++ counter.addressText)) ++ ("\"\x7d" ++ mark)))))))) := by
  unfold counterEntry
  simp only [String.append_assoc]

/-- The record of a counter can be read off, whatever mark without a brace follows it. -/
theorem counterEntry_append_inj {mark sign : String} (outside : '\x7d' ∉ mark.toList)
    (absent : '\x7d' ∉ sign.toList)
    (same : counterEntry counter ++ mark = counterEntry next ++ sign) : counter = next := by
  rw [counterEntry_append, counterEntry_append] at same
  have fields := (String.append_right_inj _).mp same
  obtain ⟨column, fields⟩ := cut_number (c := ',') (by decide) (by decide) fields
  obtain ⟨row, fields⟩ := cut_number (c := ',') (by decide) (by decide) fields
  obtain ⟨number, fields⟩ := cut_number (c := ',') (by decide) (by decide) fields
  -- The name of the module may hold quotes, so the rest is cut from behind.
  have closed := (cut_behind (c := '\x7d') (by decide) outside absent fields).1
  have unquoted := Numeral.notMem_address (c := '"') (by decide) (by decide)
  obtain ⟨module, addressText⟩ := cut_behind (by decide) (unquoted counter.address)
    (unquoted next.address) closed
  have address := Numeral.address_injective addressText
  cases counter
  cases next
  simp_all only

/-- A list of records begins with that of its first counter. -/
theorem exists_counterEntries_cons (counter : Counter) (counters : List Counter) :
    ∃ mark : String, '\x7d' ∉ mark.toList ∧
      counterEntries (counter :: counters) = (counterEntry counter ++ mark) ::
        counterEntries counters := by
  cases counters with
  | nil => exact ⟨"", by decide, by rw [String.append_empty]; rfl⟩
  | cons next counters => exact ⟨",", by decide, rfl⟩

/-- The line that closes the list of counters. -/
def listClose : String := "    ],"

/-- The line that closes the list is no record. -/
theorem counterEntry_append_ne (counter : Counter) (mark : String) :
    counterEntry counter ++ mark ≠ listClose := by
  intro same
  have fifth := congrArg (fun text : String => text.toList[4]?) same
  rw [counterEntry_append] at fifth
  simp only [String.toList_append] at fifth
  rw [List.getElem?_append_left (by decide)] at fifth
  exact absurd fifth (by decide)

/-- A list of records ends where it is closed. -/
theorem counterEntries_append_inj
    (same : counterEntries counters ++ listClose :: rest =
      counterEntries more ++ listClose :: tail) :
    counters = more ∧ rest = tail := by
  induction counters generalizing more with
  | nil =>
    cases more with
    | nil => exact ⟨rfl, List.tail_eq_of_cons_eq same⟩
    | cons next more =>
      obtain ⟨mark, -, entries⟩ := exists_counterEntries_cons next more
      rw [entries] at same
      exact absurd (List.cons.inj same).1.symm (counterEntry_append_ne next mark)
  | cons counter counters ih =>
    obtain ⟨mark, outside, entries⟩ := exists_counterEntries_cons counter counters
    cases more with
    | nil =>
      rw [entries] at same
      exact absurd (List.cons.inj same).1 (counterEntry_append_ne counter mark)
    | cons next more =>
      obtain ⟨sign, absent, moreEntries⟩ := exists_counterEntries_cons next more
      rw [entries, moreEntries] at same
      obtain ⟨first, others⟩ := List.cons.inj same
      obtain ⟨rfl, restSame⟩ := ih others
      exact ⟨by rw [counterEntry_append_inj outside absent first], restSame⟩

/-! ### A probe block -/

/-- Two control files of which the same is written in a probe block. -/
structure SameProbe (file other : ControlFile) : Prop where
  baseName : file.baseName = other.baseName
  microController : file.microController = other.microController
  firstColumn : file.firstColumn = other.firstColumn
  lastColumn : file.lastColumn = other.lastColumn
  lines : file.markers.map (·.line) = other.markers.map (·.line)
  addresses : file.counters.map (·.address) = other.counters.map (·.address)

/-- The micro-controller and the columns follow from the identifier. -/
theorem sameProbe_of_id (baseName : file.baseName = other.baseName) (id : file.id = other.id)
    (lines : file.markers.map (·.line) = other.markers.map (·.line))
    (addresses : file.counters.map (·.address) = other.counters.map (·.address)) :
    SameProbe file other := by
  have firstColumn : file.firstColumn = other.firstColumn := by
    rw [ControlFile.firstColumn, ControlFile.firstColumn, id]
  refine ⟨baseName, ?_, firstColumn, ?_, lines, addresses⟩
  · rw [ControlFile.microController, ControlFile.microController, id]
  · rw [ControlFile.lastColumn, ControlFile.lastColumn, firstColumn]

theorem blockReads_eq (file : ControlFile) :
    blockReads file = (file.counters.map (·.address)).zipIdx.map fun (address, position) =>
      "    " ++ counterVariable position ++ " = read_reg(" ++ Numeral.address address ++ ")" := by
  rw [blockReads, List.zipIdx_map, List.map_map]
  rfl

theorem markerLines_eq (file : ControlFile) :
    markerLines file = String.intercalate "," ((file.markers.map (·.line)).map Numeral.text) := by
  rw [markerLines, List.map_map]
  rfl

/-- What the block of a control file depends on. -/
theorem SameProbe.probeBlock_eq (same : SameProbe file other) :
    probeBlock file = probeBlock other := by
  have count : file.counters.length = other.counters.length := by
    simpa using congrArg List.length same.addresses
  have title : declaration file = declaration other := by
    rw [declaration, declaration, markerLines_eq, markerLines_eq, same.baseName,
      same.microController, same.lines]
  have front : blockFront file = blockFront other := by
    rw [blockFront, blockFront, title, same.baseName, same.firstColumn, same.lastColumn]
  have reads : blockReads file = blockReads other := by
    rw [blockReads_eq, blockReads_eq, same.addresses]
  have back : blockBack file = blockBack other := by
    unfold blockBack recordLine
    rw [same.baseName, count]
  rw [Script.probeBlock_eq, Script.probeBlock_eq, front, reads, back]

/-- The line behind those that read registers is none of them. -/
theorem readLine_ne (counter : Counter) (position : Nat) :
    readLine counter position ≠ "    print(f\"Probe fired: ts=\x7bts\x7d\")" := by
  intro same
  have fifth := congrArg (fun text : String => text.toList[4]?) same
  simp only [readLine, counterVariable, String.append_assoc] at fifth
  simp only [String.toList_append] at fifth
  rw [List.getElem?_append_right (by decide), List.getElem?_append_left (by decide)] at fifth
  exact absurd fifth (by decide)

theorem readLine_inj {position : Nat} (same : readLine counter position = readLine next position) :
    counter.address = next.address := by
  rw [readLine, readLine, String.append_left_inj, String.append_right_inj] at same
  exact Numeral.address_injective same

/-- The lines that read registers end where the next line is none of them. -/
theorem reads_append_inj {line : String} {position : Nat}
    (ending : ∀ counter position, readLine counter position ≠ line)
    (same : (counters.zipIdx position).map (fun (counter, position) => readLine counter position) ++
        line :: rest =
      (more.zipIdx position).map (fun (counter, position) => readLine counter position) ++
        line :: tail) :
    counters.map (·.address) = more.map (·.address) ∧ rest = tail := by
  induction counters generalizing more position with
  | nil =>
    cases more with
    | nil => exact ⟨rfl, List.tail_eq_of_cons_eq same⟩
    | cons next more => exact absurd (List.cons.inj same).1.symm (ending next position)
  | cons counter counters ih =>
    cases more with
    | nil => exact absurd (List.cons.inj same).1 (ending counter position)
    | cons next more =>
      obtain ⟨first, others⟩ := List.cons.inj same
      obtain ⟨addresses, restSame⟩ := ih others
      exact ⟨congrArg₂ List.cons (readLine_inj first) addresses, restSame⟩

/-- A control file whose identifier is in its name has a name without characters that end a name in
the script. -/
theorem foreign_of_isNamed (named : file.IsNamed) (mark : c ≠ '-' ∧ c ≠ 'x')
    (digit : c.isDigit = false) (hexadecimal : c ∉ "0123456789abcdef".toList)
    (fixed : c ∉ Rule.stem ∧ c ∉ Rule.ending) : Foreign c file := by
  obtain ⟨id, known, -⟩ := named
  exact foreign_of_name known mark digit hexadecimal fixed

/-- The identifier follows from the name. -/
theorem id_eq_of_baseName (named : file.IsNamed) (otherNamed : other.IsNamed)
    (same : file.baseName = other.baseName) : file.id = other.id := by
  obtain ⟨id, known, isId⟩ := named
  obtain ⟨number, otherKnown, isNumber⟩ := otherNamed
  rw [same, otherKnown] at known
  cases known
  rw [isId, isNumber]

theorem markerLines_inj (marked : file.markers ≠ []) (otherMarked : other.markers ≠ [])
    (same : markerLines file = markerLines other) :
    file.markers.map (·.line) = other.markers.map (·.line) := by
  have outside : ∀ lines : List Int, ∀ text ∈ lines.map Numeral.text, ',' ∉ text.toList := by
    intro lines text member comma
    obtain ⟨line, -, rfl⟩ := List.mem_map.mp member
    exact Numeral.notMem_text (by decide) (by decide) line comma
  rw [markerLines_eq, markerLines_eq] at same
  exact List.map_injective_iff.mpr Numeral.text_injective
    (intercalate_inj rfl (by simpa using marked) (by simpa using otherMarked) (outside _)
      (outside _) same)

/-- The line that declares a probe shows the name and the marker lines of its control file. -/
theorem declaration_inj (named : file.IsNamed) (otherNamed : other.IsNamed)
    (marked : file.markers ≠ []) (otherMarked : other.markers ≠ [])
    (same : declaration file = declaration other) :
    file.baseName = other.baseName ∧
      file.markers.map (·.line) = other.markers.map (·.line) := by
  unfold declaration at same
  simp only [String.append_assoc] at same
  have texts := (String.append_right_inj _).mp same
  have colon : Foreign ':' file :=
    foreign_of_isNamed named (by decide) (by decide) (by decide) (by decide)
  have otherColon : Foreign ':' other :=
    foreign_of_isNamed otherNamed (by decide) (by decide) (by decide) (by decide)
  obtain ⟨baseName, texts⟩ := cut_before (c := ':') (by decide) colon.name otherColon.name texts
  obtain ⟨-, texts⟩ := cut_number (c := ':') (by decide) (by decide) texts
  exact ⟨baseName, markerLines_inj marked otherMarked texts⟩

/-- A probe block ends where it is closed, and what it says can be read off. -/
theorem probeBlock_append_inj (named : file.IsNamed) (otherNamed : other.IsNamed)
    (marked : file.markers ≠ []) (otherMarked : other.markers ≠ [])
    (same : probeBlock file ++ rest = probeBlock other ++ tail) :
    SameProbe file other ∧ rest = tail := by
  rw [probeBlock_eq, probeBlock_eq, List.append_assoc, List.append_assoc, List.append_assoc,
    List.append_assoc] at same
  -- In front there are four lines, of which the second declares the probe.
  obtain ⟨front, lines⟩ := List.append_inj same (by simp only [blockFront, List.length_cons])
  have declared : declaration file = declaration other :=
    (List.cons.inj (List.cons.inj front).2).1
  obtain ⟨baseName, markers⟩ := declaration_inj named otherNamed marked otherMarked declared
  obtain ⟨addresses, lines⟩ := reads_append_inj readLine_ne lines
  have id := id_eq_of_baseName named otherNamed baseName
  -- Behind the lines that read registers there are as many lines in both blocks.
  obtain ⟨-, others⟩ := List.append_inj lines (by simp only [List.length_cons])
  exact ⟨sameProbe_of_id baseName id markers addresses, others⟩

/-- Blocks one behind the other can be read off one by one. -/
theorem flatMap_probeBlock_inj (named : ∀ file ∈ files, file.IsNamed ∧ file.markers ≠ [])
    (othersNamed : ∀ other ∈ others, other.IsNamed ∧ other.markers ≠ [])
    (same : files.flatMap probeBlock = others.flatMap probeBlock) :
    List.Forall₂ SameProbe files others := by
  induction files generalizing others with
  | nil =>
    cases others with
    | nil => exact List.Forall₂.nil
    | cons other others => cases same
  | cons file files ih =>
    cases others with
    | nil => cases same
    | cons other others =>
      rw [List.forall_mem_cons] at named othersNamed
      rw [List.flatMap_cons, List.flatMap_cons] at same
      obtain ⟨block, blocks⟩ := probeBlock_append_inj named.1.1 othersNamed.1.1 named.1.2
        othersNamed.1.2 same
      exact List.Forall₂.cons block (ih named.2 othersNamed.2 blocks)

/-! ### The whole script -/

/-- The lines of a script before its end block. -/
def frontLines (files : List ControlFile) (counters : List Counter) : List String :=
  header ++ beginBlock counters ++ (files.filter (·.isProbed)).flatMap probeBlock

/-- The end block of a script, from the line feed before it on. -/
def endText (dataFile : String) : String :=
  "\n" ++ String.intercalate "\n" (endBlock dataFile) ++ "\n"

theorem render_eq_front (dataFile : String) (files : List ControlFile) (counters : List Counter) :
    render dataFile files counters =
      String.intercalate "\n" (frontLines files counters) ++ endText dataFile := by
  have front : frontLines files counters ≠ [] := by simp [frontLines, header]
  have back : endBlock dataFile ≠ [] := by simp [endBlock]
  rw [render, scriptLines, ← frontLines, String.intercalate_append_of_ne_nil front back, endText]
  simp only [String.append_assoc]

/-- A line feed is in the record of a counter only as part of the name of the module. -/
theorem lineFeed_notMem_counterEntry (plain : '\n' ∉ counter.module.toList) :
    '\n' ∉ (counterEntry counter).toList := by
  have number := Numeral.notMem_text (c := '\n') (by decide) (by decide)
  have address := Numeral.notMem_address (c := '\n') (by decide) (by decide)
  exact notMem_append (notMem_append (notMem_append (notMem_append (notMem_append (notMem_append
    (notMem_append (notMem_append (notMem_append (notMem_append (by decide) (number _)) (by decide))
      (number _)) (by decide)) (number _)) (by decide)) plain) (by decide)) (address _)) (by decide)

/-- A line feed is in no line that lists a counter, unless it is in the name of a module. -/
theorem lineFeed_notMem_counterEntries
    (plain : ∀ counter ∈ counters, '\n' ∉ counter.module.toList) :
    ∀ line ∈ counterEntries counters, '\n' ∉ line.toList := by
  fun_induction counterEntries counters with
  | case1 => exact List.forall_mem_nil _
  | case2 last =>
    rw [List.forall_mem_singleton] at plain ⊢
    exact lineFeed_notMem_counterEntry plain
  | case3 counter rest proper ih =>
    rw [List.forall_mem_cons] at plain ⊢
    exact ⟨notMem_append (lineFeed_notMem_counterEntry plain.1) (by decide), ih plain.2⟩

/-- No line before the end block holds a line feed. -/
theorem lineFeed_notMem_frontLines (plain : ∀ counter ∈ counters, '\n' ∉ counter.module.toList)
    (named : ∀ file ∈ files, file.IsNamed) :
    ∀ line ∈ frontLines files counters, '\n' ∉ line.toList := by
  have blocks : ∀ line ∈ (files.filter (·.isProbed)).flatMap probeBlock, '\n' ∉ line.toList := by
    intro line member
    obtain ⟨file, listed, inside⟩ := List.mem_flatMap.mp member
    have foreign : Foreign '\n' file :=
      foreign_of_isNamed (named file (List.mem_of_mem_filter listed)) (by decide) (by decide)
        (by decide) (by decide)
    rw [probeBlock_eq, List.mem_append, List.mem_append] at inside
    rcases inside with (front | reads) | back
    · exact foreign.notMem_front (by decide) line front
    · exact foreign.notMem_reads (by decide) line reads
    · exact foreign.notMem_back (by decide) line back
  rw [frontLines, beginBlock]
  simp only [List.forall_mem_append]
  exact ⟨⟨by decide, ⟨by decide, lineFeed_notMem_counterEntries plain⟩, by decide⟩, blocks⟩

/-- What the text of a script depends on: the counters, and of the probed control files the names
and the lines and the addresses in their blocks. -/
theorem render_congr (dataFile : String) (listed : counters = more)
    (probes : List.Forall₂ SameProbe (files.filter (·.isProbed)) (others.filter (·.isProbed))) :
    render dataFile files counters = render dataFile others more := by
  have blocks : (files.filter (·.isProbed)).map probeBlock =
      (others.filter (·.isProbed)).map probeBlock := by
    rw [← List.forall₂_eq_eq_eq, List.forall₂_map_left_iff, List.forall₂_map_right_iff]
    exact probes.imp fun _ _ same => same.probeBlock_eq
  rw [render, render, scriptLines, scriptLines, List.flatMap_def, List.flatMap_def, blocks, listed]

variable {dataFile text second : String}

/-- Two scripts have the same text only if the same is written in their blocks. -/
theorem of_render_eq (plain : ∀ counter ∈ counters, '\n' ∉ counter.module.toList)
    (morePlain : ∀ counter ∈ more, '\n' ∉ counter.module.toList)
    (named : ∀ file ∈ files, file.IsNamed) (othersNamed : ∀ other ∈ others, other.IsNamed)
    (same : render dataFile files counters = render dataFile others more) :
    counters = more ∧
      List.Forall₂ SameProbe (files.filter (·.isProbed)) (others.filter (·.isProbed)) := by
  rw [render_eq_front, render_eq_front, String.append_left_inj] at same
  have proper : ∀ files counters, frontLines files counters ≠ [] := by simp [frontLines, header]
  have lines := intercalate_inj rfl (proper files counters) (proper others more)
    (lineFeed_notMem_frontLines plain named) (lineFeed_notMem_frontLines morePlain othersNamed)
    same
  simp only [frontLines, beginBlock, List.append_assoc] at lines
  have entries := List.append_cancel_left (List.append_cancel_left lines)
  obtain ⟨listed, lines⟩ := counterEntries_append_inj entries
  have blocks := List.append_cancel_left lines
  have probed : ∀ files : List ControlFile, (∀ file ∈ files, file.IsNamed) →
      ∀ file ∈ files.filter (·.isProbed), file.IsNamed ∧ file.markers ≠ [] := by
    intro files named file member
    obtain ⟨inside, probe⟩ := List.mem_filter.mp member
    rw [ControlFile.isProbed, Bool.and_eq_true] at probe
    exact ⟨named file inside, by simpa using probe.1⟩
  exact ⟨listed, flatMap_probeBlock_inj (probed files named) (probed others othersNamed) blocks⟩

/-- A script with names of modules without line feeds is unambiguous: two such scripts have the same
text exactly if they list the same counters and the same is written in the blocks of their probes,
one by one. -/
theorem text_eq_iff (plain : ∀ counter ∈ counters, '\n' ∉ counter.module.toList)
    (morePlain : ∀ counter ∈ more, '\n' ∉ counter.module.toList)
    (named : ∀ file ∈ files, file.IsNamed) (othersNamed : ∀ other ∈ others, other.IsNamed)
    (shown : render? dataFile files counters = .ok text)
    (secondShown : render? dataFile others more = .ok second) :
    text = second ↔ counters = more ∧
      List.Forall₂ SameProbe (files.filter (·.isProbed)) (others.filter (·.isProbed)) := by
  obtain rfl := eq_render_of_renderWithin shown
  obtain rfl := eq_render_of_renderWithin secondShown
  constructor
  · exact of_render_eq plain morePlain named othersNamed
  · exact fun ⟨listed, probes⟩ => render_congr dataFile listed probes

/-- A counter whose module has a quote and a backslash in its name. -/
def quotedCounter : Counter := ⟨5, 2, 0, "aie\"\\", 0xa231520⟩

/-- A control file with two markers and a counter, and one that gets no probe. -/
def markedFiles : List ControlFile :=
  [⟨"/work/aie_runtime_control0.asm", 0, [⟨1, none⟩], []⟩,
    ⟨"/work/aie_runtime_control1.asm", 1, [⟨3, some 7⟩, ⟨12, none⟩], [quotedCounter]⟩]

/-- The probed one of these files in another directory, with other marker indexes. -/
def movedFiles : List ControlFile :=
  [⟨"/aie_runtime_control1.asm", 1, [⟨3, none⟩, ⟨12, some 0⟩], [quotedCounter]⟩]

theorem text_eq_movedFiles :
    ∃ text second, render? defaultDataFile markedFiles [quotedCounter] = .ok text ∧
      render? defaultDataFile movedFiles [quotedCounter] = .ok second ∧ text = second := by
  have plain : ∀ counter ∈ [quotedCounter], '\n' ∉ counter.module.toList := by decide
  have named : ∀ file ∈ markedFiles, file.IsNamed := by
    rw [markedFiles, List.forall_mem_cons, List.forall_mem_singleton]
    exact ⟨⟨0, by decide, rfl⟩, 1, by decide, rfl⟩
  have movedNamed : ∀ file ∈ movedFiles, file.IsNamed := by
    rw [movedFiles, List.forall_mem_singleton]
    exact ⟨1, by decide, rfl⟩
  have probes : List.Forall₂ SameProbe (markedFiles.filter (·.isProbed))
      (movedFiles.filter (·.isProbed)) := by
    refine List.Forall₂.cons ⟨?_, rfl, rfl, rfl, rfl, rfl⟩ List.Forall₂.nil
    decide
  exact ⟨_, _, rfl, rfl, (text_eq_iff plain plain named movedNamed rfl rfl).mpr ⟨rfl, probes⟩⟩

end Script

end CounterTrace
