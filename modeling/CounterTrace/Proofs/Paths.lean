import Mathlib.Data.List.Basic
import CounterTrace.Path

/-!
# Tidy paths and their texts

A tidy path is written as one text and read back from it unchanged, so that two tidy paths with the
same text are the same path. What a look-up follows can be read off the tidy form: the steps of a
tidy text are its names.

## Main definitions

* `Path.IsPiece`, `Path.Tidy` — the names and anchors that a tidy path is made of
* `Path.descend` — a path with several names appended
* `Path.joinAll` — a directory's text followed by several names

## Main results

* `Path.tidy_ofString` — every text is read as a tidy path
* `Path.ofString_text` — reading undoes writing
* `Path.Tidy.text_inj` — a tidy path is determined by its text
* `Path.ofString_join`, `Path.ofString_joinAll` — appending names to a text appends them to its tidy
  form
* `Path.steps_text` — what a look-up follows in a tidy text
-/

namespace CounterTrace.Path

/-- What can stand between the slashes of a tidy path. -/
def IsPiece (name : String) : Prop := name ≠ "" ∧ name ≠ "." ∧ '/' ∉ name.toList

/-- A path in tidy form: at most two slashes in front, and nothing between the others that would be
dropped or cut. -/
structure Tidy (path : Path) : Prop where
  anchor : path.anchor = "" ∨ path.anchor = "/" ∨ path.anchor = "//"
  names : ∀ name ∈ path.names, IsPiece name

/-- The path with names appended. -/
def descend (path : Path) (names : List String) : Path := ⟨path.anchor, path.names ++ names⟩

/-- The text of a directory followed by the names on the way to something below it. -/
def joinAll (directory : String) (names : List String) : String := names.foldl join directory

@[simp] theorem descend_nil (path : Path) : path.descend [] = path := by
  simp [descend]

theorem descend_child (path : Path) (names : List String) (name : String) :
    (path.descend names).child name = path.descend (names ++ [name]) := by
  simp [descend, child]

theorem Tidy.descend {path : Path} (tidy : path.Tidy) {names : List String}
    (pieces : ∀ name ∈ names, IsPiece name) : (path.descend names).Tidy := by
  refine ⟨tidy.anchor, fun name member => ?_⟩
  rcases List.mem_append.mp member with old | new
  · exact tidy.names name old
  · exact pieces name new

theorem Tidy.child {path : Path} (tidy : path.Tidy) {name : String} (piece : IsPiece name) :
    (path.child name).Tidy := by
  have below : (path.descend [name]).Tidy := tidy.descend (by simpa using piece)
  exact below

/-! ### The pieces of a text -/

private theorem slash_notMem_splitOn (text : List Char) :
    ∀ piece ∈ text.splitOn '/', '/' ∉ piece := by
  -- A character other than a slash goes to the first piece, which exists because no text splits
  -- into nothing.
  induction text with
  | nil => simp
  | cons c text ih =>
    rw [List.splitOn_cons_eq_if_modifyHead]
    by_cases slash : c = '/'
    · simpa [slash] using ih
    · obtain ⟨first, rest, split⟩ := List.exists_cons_of_ne_nil (List.splitOn_ne_nil '/' text)
      rw [split] at ih ⊢
      simp only [beq_iff_eq, slash, if_false, List.modifyHead_cons, List.mem_cons,
        forall_eq_or_imp] at ih ⊢
      exact ⟨not_or.mpr ⟨Ne.symm slash, ih.1⟩, ih.2⟩

theorem slash_notMem_of_mem_pieces {text name : String} (member : name ∈ pieces text) :
    '/' ∉ name.toList := by
  obtain ⟨piece, inside, rfl⟩ := List.mem_map.mp member
  simpa using slash_notMem_splitOn text.toList piece inside

theorem pieces_eq_of_slash {text : String} (before after : String)
    (cut : text.toList = before.toList ++ '/' :: after.toList) :
    pieces text = pieces before ++ pieces after := by
  rw [pieces, cut, List.splitOn_append_cons_self, List.map_append]
  rfl

theorem pieces_of_notMem {text : String} (whole : '/' ∉ text.toList) : pieces text = [text] := by
  rw [pieces, List.splitOn_eq_singleton whole]
  simp

theorem pieces_intercalate {names : List String} (named : names ≠ [])
    (whole : ∀ name ∈ names, '/' ∉ name.toList) {text : String}
    (written : text.toList = ['/'].intercalate (names.map String.toList)) :
    pieces text = names := by
  rw [pieces, written, List.splitOn_intercalate '/' (by simpa using whole) (by simpa using named),
    List.map_map]
  simp

/-! ### Reading back what was written -/

theorem tidy_ofString (text : String) : (ofString text).Tidy := by
  constructor
  · simp only [ofString, anchorOf]
    split <;> simp
  · intro name member
    obtain ⟨inside, kept⟩ := List.mem_filter.mp member
    have parts : name ≠ "" ∧ name ≠ "." := by simpa using kept
    exact ⟨parts.1, parts.2, slash_notMem_of_mem_pieces inside⟩

private theorem names_filter_ne_empty {path : Path} (tidy : path.Tidy) :
    path.names.filter (· != "") = path.names := by
  rw [List.filter_eq_self]
  intro name member
  simpa using (tidy.names name member).1

/-- The path with neither anchor nor names is the one whose text is a dot. -/
theorem text_eq_dot {path : Path} (anchor : path.anchor = "") (names : path.names = []) :
    path.text = "." := by
  simp [text, anchor, names]

theorem toList_text {path : Path} (proper : path.anchor ≠ "" ∨ path.names ≠ []) :
    path.text.toList = path.anchor.toList ++ ['/'].intercalate (path.names.map String.toList) := by
  have shown : (path.anchor == "" && path.names.isEmpty) = false := by
    rcases proper with anchor | names
    · simp [anchor]
    · simp [names]
  simp [text, shown]

/-- The components of a tidy text are its names, but for the text `.`. -/
theorem components_text {path : Path} (tidy : path.Tidy)
    (proper : path.anchor ≠ "" ∨ path.names ≠ []) : components path.text = path.names := by
  have written := toList_text proper
  -- Without its anchor the text splits at the slashes into the names alone.
  have below : ∀ text : String,
      text.toList = ['/'].intercalate (path.names.map String.toList) →
        components text = path.names := by
    intro text same
    by_cases empty : path.names = []
    · have nothing : text = "" := by
        apply String.toList_inj.mp
        simpa [empty] using same
      simp [components, nothing, empty, pieces]
    · have whole : ∀ name ∈ path.names, '/' ∉ name.toList :=
        fun name member => (tidy.names name member).2.2
      rw [components, pieces_intercalate empty whole same]
      exact names_filter_ne_empty tidy
  have rest := below (String.ofList (['/'].intercalate (path.names.map String.toList))) (by simp)
  -- Each slash of the anchor adds an empty piece, which is dropped.
  rcases tidy.anchor with none | one | two
  · exact below _ (by simpa [none] using written)
  · have cut : pieces path.text = pieces "" ++
        pieces (String.ofList (['/'].intercalate (path.names.map String.toList))) :=
      pieces_eq_of_slash _ _ (by simpa [one] using written)
    rw [components, cut, List.filter_append]
    exact rest
  · have cut : pieces path.text = pieces "/" ++
        pieces (String.ofList (['/'].intercalate (path.names.map String.toList))) :=
      pieces_eq_of_slash _ _ (by simpa [two] using written)
    rw [components, cut, List.filter_append]
    exact rest

private theorem head?_names {path : Path} (tidy : path.Tidy) :
    (['/'].intercalate (path.names.map String.toList)).head? ≠ some '/' := by
  cases shape : path.names with
  | nil => simp
  | cons name rest =>
    have piece := tidy.names name (by simp [shape])
    obtain ⟨c, more, letters⟩ := List.exists_cons_of_ne_nil
      (show name.toList ≠ [] by simpa using piece.1)
    have other : c ≠ '/' := by
      rintro rfl
      exact piece.2.2 (by simp [letters])
    cases rest <;> simp [letters, other]

private theorem takeWhile_slash {text : List Char} (other : text.head? ≠ some '/') :
    text.takeWhile (· == '/') = [] := by
  cases text with
  | nil => rfl
  | cons c rest =>
    have different : (c == '/') = false := by simpa using other
    rw [List.takeWhile_cons, different]
    rfl

theorem anchorOf_text {path : Path} (tidy : path.Tidy) : anchorOf path.text = path.anchor := by
  by_cases proper : path.anchor ≠ "" ∨ path.names ≠ []
  · have written := toList_text proper
    -- The slashes at the front are those of the anchor: no name starts with one.
    have rest := takeWhile_slash (head?_names tidy)
    rcases tidy.anchor with none | one | two
    · simp [anchorOf, written, none, rest]
    · simp [anchorOf, written, one, rest]
    · simp [anchorOf, written, two, rest]
  · have bare : path.anchor = "" ∧ path.names = [] := by
      simpa [not_or] using proper
    rw [text_eq_dot bare.1 bare.2, bare.1]
    rfl

/-- Reading undoes writing. -/
theorem ofString_text {path : Path} (tidy : path.Tidy) : ofString path.text = path := by
  have names : (ofString path.text).names = path.names := by
    by_cases proper : path.anchor ≠ "" ∨ path.names ≠ []
    · have same := components_text tidy proper
      -- Reading drops dots beside empty pieces; there are none among the names.
      have drop : (ofString path.text).names = (components path.text).filter (· != ".") := by
        simp only [ofString, components, List.filter_filter]
        congr 1
        funext piece
        exact Bool.and_comm _ _
      rw [drop, same, List.filter_eq_self]
      intro name member
      simpa using (tidy.names name member).2.1
    -- What is left is the empty path, which is written as a dot.
    · have bare : path.anchor = "" ∧ path.names = [] := by
        simpa [not_or] using proper
      rw [text_eq_dot bare.1 bare.2, bare.2]
      rfl
  have anchor : (ofString path.text).anchor = path.anchor := anchorOf_text tidy
  cases path
  cases shape : ofString (text _)
  simp_all

/-- Two tidy paths with one text are one path. -/
theorem Tidy.text_inj {first second : Path} (tidy : first.Tidy) (other : second.Tidy)
    (same : first.text = second.text) : first = second := by
  rw [← ofString_text tidy, same, ofString_text other]

/-! ### What a look-up reads off a text -/

theorem text_ne_empty {path : Path} (tidy : path.Tidy) : path.text ≠ "" := by
  intro empty
  by_cases proper : path.anchor ≠ "" ∨ path.names ≠ []
  · have written := toList_text proper
    rw [empty] at written
    have parts := List.append_eq_nil_iff.mp written.symm
    have anchor : path.anchor = "" := by simpa using parts.1
    obtain ⟨name, rest, shape⟩ :=
      List.exists_cons_of_ne_nil (proper.resolve_left (not_not.mpr anchor))
    have piece := tidy.names name (by simp [shape])
    have nothing : name = "" := by
      cases rest <;> simp_all
    exact piece.1 nothing
  · have bare : path.anchor = "" ∧ path.names = [] := by
      simpa [not_or] using proper
    rw [text_eq_dot bare.1 bare.2] at empty
    exact absurd empty (by decide)

/-- A tidy text starts at the root if it has an anchor. -/
theorem isAbsolute_text {path : Path} (tidy : path.Tidy) :
    isAbsolute path.text = (path.anchor != "") := by
  by_cases proper : path.anchor ≠ "" ∨ path.names ≠ []
  · have written := toList_text proper
    rcases tidy.anchor with none | one | two
    · have first : path.text.toList.head? ≠ some '/' := by
        simpa [written, none] using head?_names tidy
      simpa [isAbsolute, none] using first
    · simp [isAbsolute, written, one]
    · simp [isAbsolute, written, two]
  · have bare : path.anchor = "" ∧ path.names = [] := by
      simpa [not_or] using proper
    rw [text_eq_dot bare.1 bare.2, bare.1]
    rfl

private theorem endsInSlash_eq_false {text name : String} (before : List Char)
    (piece : IsPiece name) (written : text.toList = before ++ name.toList) :
    endsInSlash text = false := by
  have letters : name.toList ≠ [] := by simpa using piece.1
  have last : text.toList.getLast? = some (name.toList.getLast letters) := by
    rw [written, List.getLast?_append, List.getLast?_eq_some_getLast letters]
    rfl
  have other : name.toList.getLast letters ≠ '/' := by
    intro slash
    exact piece.2.2 (slash ▸ List.getLast_mem letters)
  simp [endsInSlash, last, other]

private theorem exists_intercalate_eq (names : List String) (last : String) :
    ∃ before : List Char, ['/'].intercalate ((names ++ [last]).map String.toList) =
      before ++ last.toList := by
  by_cases single : names = []
  · exact ⟨[], by simp [single]⟩
  · refine ⟨['/'].intercalate (names.map String.toList) ++ ['/'], ?_⟩
    have parts := congrArg String.toList (String.intercalate_append_of_ne_nil (s := "/") single
      (List.cons_ne_nil last []))
    simpa using parts

/-- What a look-up follows in a tidy text with names. -/
theorem steps_text {path : Path} (tidy : path.Tidy) (named : path.names ≠ []) :
    steps path.text = path.names := by
  have proper : path.anchor ≠ "" ∨ path.names ≠ [] := Or.inr named
  -- The text ends in its last name, so that no slash behind it asks for a directory.
  have open_end : endsInSlash path.text = false := by
    obtain ⟨before, last, shape⟩ := (List.eq_nil_or_concat path.names).resolve_left named
    rw [List.concat_eq_append] at shape
    obtain ⟨front, cut⟩ := exists_intercalate_eq before last
    refine endsInSlash_eq_false (path.anchor.toList ++ front)
      (tidy.names last (by simp [shape])) ?_
    rw [toList_text proper, shape, cut, List.append_assoc]
  rw [steps, components_text tidy proper, open_end]
  simp

/-- A tidy text without names says only where a look-up starts. -/
theorem steps_text_of_names_eq_nil {path : Path} (tidy : path.Tidy) (bare : path.names = []) :
    steps path.text = ["."] ∨ steps path.text = [""] := by
  have shown : path.text = "." ∨ path.text = "/" ∨ path.text = "//" := by
    rcases tidy.anchor with empty | one | two
    · exact Or.inl (text_eq_dot empty bare)
    · exact Or.inr (Or.inl (by simp [text, one, bare]))
    · exact Or.inr (Or.inr (by simp [text, two, bare]))
  rcases shown with dot | root | double
  · exact Or.inl (by rw [dot]; decide)
  · exact Or.inr (by rw [root]; decide)
  · exact Or.inr (by rw [double]; decide)

/-- Joined texts hold no characters but their own and those of the separator. -/
theorem mem_of_mem_intercalate {c : Char} {separator : List Char} {pieces : List (List Char)}
    (member : c ∈ separator.intercalate pieces) :
    c ∈ separator ∨ ∃ piece ∈ pieces, c ∈ piece := by
  induction pieces with
  | nil => simp at member
  | cons first pieces ih =>
    cases pieces with
    | nil => exact Or.inr ⟨first, by simp, by simpa using member⟩
    | cons second pieces =>
      rw [List.intercalate_cons_cons, List.append_assoc] at member
      rcases List.mem_append.mp member with inside | member
      · exact Or.inr ⟨first, by simp, inside⟩
      · rcases List.mem_append.mp member with between | member
        · exact Or.inl between
        · rcases ih member with between | ⟨piece, among, inside⟩
          · exact Or.inl between
          · exact Or.inr ⟨piece, by simp [among], inside⟩

private theorem mem_intercalate_of_mem {c : Char} {piece : List Char} {pieces : List (List Char)}
    (among : piece ∈ pieces) (inside : c ∈ piece) : c ∈ ['/'].intercalate pieces := by
  induction pieces with
  | nil => simp at among
  | cons first pieces ih =>
    cases pieces with
    | nil =>
      obtain rfl : piece = first := by simpa using among
      simpa using inside
    | cons second pieces =>
      rw [List.intercalate_cons_cons]
      rcases List.mem_cons.mp among with rfl | later
      · simp [inside]
      · simp [ih later]

/-- A text that goes on with names holds no characters but its own, those of the names, and
slashes. -/
theorem mem_text_descend {path : Path} {names : List String} {c : Char}
    (member : c ∈ (path.descend names).text.toList) :
    c ∈ path.text.toList ∨ c = '/' ∨ ∃ name ∈ names, c ∈ name.toList := by
  -- A path with an anchor or a name is written as those; otherwise no name has been appended.
  by_cases proper : (path.descend names).anchor ≠ "" ∨ (path.descend names).names ≠ []
  · rw [toList_text proper] at member
    rcases List.mem_append.mp member with anchor | member
    · have shown : path.anchor ≠ "" := by
        rintro none
        simp [descend, none] at anchor
      rw [toList_text (Or.inl shown)]
      exact Or.inl (List.mem_append_left _ anchor)
    · rcases mem_of_mem_intercalate member with slash | ⟨piece, among, inside⟩
      · exact Or.inr (Or.inl (by simpa using slash))
      · obtain ⟨name, named, rfl⟩ := List.mem_map.mp among
        rcases List.mem_append.mp named with old | new
        · rw [toList_text (Or.inr (List.ne_nil_of_mem old))]
          exact Or.inl (List.mem_append_right _
            (mem_intercalate_of_mem (List.mem_map_of_mem old) inside))
        · exact Or.inr (Or.inr ⟨name, new, inside⟩)
  · obtain ⟨-, bare⟩ : path.anchor = "" ∧ path.names ++ names = [] := by
      simpa [descend, not_or] using proper
    obtain ⟨-, rfl⟩ := List.append_eq_nil_iff.mp bare
    rw [descend_nil] at member
    exact Or.inl member

theorem mem_toList_of_mem_pieces {text name : String} {c : Char} (member : name ∈ pieces text)
    (inside : c ∈ name.toList) : c ∈ text.toList := by
  obtain ⟨piece, among, rfl⟩ := List.mem_map.mp member
  rw [String.toList_ofList] at inside
  have whole : ['/'].intercalate (text.toList.splitOn '/') = text.toList :=
    List.intercalate_splitOn '/'
  rw [← whole]
  exact mem_intercalate_of_mem among inside

/-- The names of a path hold the characters of its text. -/
theorem mem_toList_of_mem_names {text name : String} {c : Char}
    (member : name ∈ (ofString text).names) (inside : c ∈ name.toList) : c ∈ text.toList := by
  rw [ofString] at member
  exact mem_toList_of_mem_pieces (List.mem_filter.mp member).1 inside

/-- The steps of a text hold no slash, and no null character unless the text holds one. -/
theorem notMem_of_mem_steps {text step : String} (whole : '\x00' ∉ text.toList)
    (member : step ∈ steps text) : '/' ∉ step.toList ∧ '\x00' ∉ step.toList := by
  rcases List.mem_append.mp member with component | last
  · have piece := (List.mem_filter.mp component).1
    exact ⟨slash_notMem_of_mem_pieces piece,
      fun null => whole (mem_toList_of_mem_pieces piece null)⟩
  · split at last
    · obtain rfl := List.mem_singleton.mp last
      decide
    · cases last

/-- The text of a tidy path holds a null character only where one of its names does. -/
theorem null_notMem_text {path : Path} (tidy : path.Tidy)
    (whole : ∀ name ∈ path.names, '\x00' ∉ name.toList) : '\x00' ∉ path.text.toList := by
  intro null
  -- The path goes on with its names from its anchor alone, whose text is known.
  have appended : '\x00' ∈ ((⟨path.anchor, []⟩ : Path).descend path.names).text.toList := null
  rcases mem_text_descend appended with front | slash | ⟨name, member, inside⟩
  · rcases tidy.anchor with empty | root | double
    · simp [text, empty] at front
    · simp [text, root] at front
    · simp [text, double] at front
  · exact absurd slash (by decide)
  · exact whole name member inside

/-- The tidy form brings no null character into a text. -/
theorem null_notMem_text_ofString {text : String} (whole : '\x00' ∉ text.toList) :
    '\x00' ∉ (ofString text).text.toList :=
  null_notMem_text (tidy_ofString text) fun _ member inside =>
    whole (mem_toList_of_mem_names member inside)

/-! ### Appending names to a text -/

private theorem anchorOf_append {directory text : String} (rest : List Char)
    (written : text.toList = directory.toList ++ rest)
    (stop : directory.toList.all (· == '/') → rest.head? ≠ some '/') :
    anchorOf text = anchorOf directory := by
  -- The slashes at the front end inside the directory, or else at the first character behind it.
  have run : text.toList.takeWhile (· == '/') = directory.toList.takeWhile (· == '/') := by
    rw [written, List.takeWhile_append]
    split
    case isTrue full =>
      have all : directory.toList.takeWhile (· == '/') = directory.toList :=
        (List.takeWhile_prefix _).eq_of_length full
      have slashes : directory.toList.all (· == '/') := by
        rw [← all]
        exact List.all_takeWhile
      rw [takeWhile_slash (stop slashes), all, List.append_nil]
    case isFalse => rfl
  rw [anchorOf, run, anchorOf]

private theorem endsInSlash_of_all {directory : String} (named : directory ≠ "")
    (slashes : directory.toList.all (· == '/')) : endsInSlash directory = true := by
  have letters : directory.toList ≠ [] := by simpa using named
  have last := List.all_eq_true.mp slashes _ (List.getLast_mem letters)
  simpa [endsInSlash, List.getLast?_eq_some_getLast letters] using last

private theorem names_append {directory entry text : String} (piece : IsPiece entry)
    (cut : pieces text = pieces directory ++ [entry] ∨
      ∃ before, pieces directory = before ++ [""] ∧ pieces text = before ++ [entry]) :
    (ofString text).names = (ofString directory).names ++ [entry] := by
  have kept : [entry].filter (fun piece => piece != "" && piece != ".") = [entry] := by
    simp [piece.1, piece.2.1]
  rcases cut with whole | ⟨before, front, whole⟩
  · simp only [ofString, whole, List.filter_append, kept]
  · simp only [ofString, front, whole, List.filter_append, kept]
    simp

/-- A name that is appended to the text of a directory is one more piece, or takes the place of the
empty piece behind a slash at the end. -/
private theorem pieces_join {directory entry : String} (named : directory ≠ "")
    (piece : IsPiece entry) :
    pieces (join directory entry) = pieces directory ++ [entry] ∨
      ∃ before, pieces directory = before ++ [""] ∧
        pieces (join directory entry) = before ++ [entry] := by
  by_cases slash : endsInSlash directory
  · have joined : join directory entry = directory ++ entry := by simp [join, slash]
    obtain ⟨before, cut⟩ : ∃ before, directory.toList = before ++ ['/'] := by
      obtain ⟨before, last, shape⟩ :=
        (List.eq_nil_or_concat directory.toList).resolve_left (by simpa using named)
      refine ⟨before, ?_⟩
      simp_all [endsInSlash]
    have front : pieces directory = pieces (String.ofList before) ++ [""] :=
      pieces_eq_of_slash _ "" (by simpa using cut)
    refine Or.inr ⟨_, front, ?_⟩
    rw [pieces_eq_of_slash (String.ofList before) entry (by simp [joined, cut]),
      pieces_of_notMem piece.2.2]
  · have joined : join directory entry = directory ++ "/" ++ entry := by simp [join, slash]
    left
    rw [pieces_eq_of_slash directory entry (by simp [joined]), pieces_of_notMem piece.2.2]

/-- Appending a name to the text of a directory appends it to the tidy form. -/
theorem ofString_join {directory entry : String} (named : directory ≠ "")
    (piece : IsPiece entry) :
    ofString (join directory entry) = (ofString directory).child entry := by
  have names := names_append piece (pieces_join named piece)
  have anchor : anchorOf (join directory entry) = anchorOf directory := by
    by_cases slash : endsInSlash directory
    · have joined : join directory entry = directory ++ entry := by simp [join, slash]
      have first : entry.toList.head? ≠ some '/' := fun slash =>
        piece.2.2 (List.mem_of_mem_head? slash)
      exact anchorOf_append entry.toList (by simp [joined]) fun _ => first
    · have joined : join directory entry = directory ++ "/" ++ entry := by simp [join, slash]
      refine anchorOf_append ('/' :: entry.toList) (by simp [joined]) fun slashes => ?_
      exact absurd (endsInSlash_of_all named slashes) slash
  exact congrArg₂ Path.mk anchor names

theorem join_ne_empty {directory entry : String} (named : directory ≠ "") :
    join directory entry ≠ "" := by
  intro empty
  have letters := congrArg String.toList empty
  simp only [join] at letters
  split at letters <;> simp_all

/-- Appending names to the text of a directory appends them to the tidy form. -/
theorem ofString_joinAll {directory : String} (named : directory ≠ "") {names : List String}
    (piecesOnly : ∀ name ∈ names, IsPiece name) :
    ofString (joinAll directory names) = (ofString directory).descend names := by
  induction names generalizing directory with
  | nil => simp [joinAll]
  | cons name names ih =>
    have piece := piecesOnly name (by simp)
    calc ofString (joinAll directory (name :: names))
        = ofString (joinAll (join directory name) names) := rfl
      _ = (ofString (join directory name)).descend names :=
          ih (join_ne_empty named) fun other member => piecesOnly other (by simp [member])
      _ = ((ofString directory).child name).descend names := by rw [ofString_join named piece]
      _ = (ofString directory).descend (name :: names) := by
          simp [child, descend]

/-- Appending names to the text of a tidy path gives a text of the path below it. -/
theorem ofString_joinAll_text {path : Path} (tidy : path.Tidy) {names : List String}
    (piecesOnly : ∀ name ∈ names, IsPiece name) :
    ofString (joinAll path.text names) = path.descend names := by
  rw [ofString_joinAll (text_ne_empty tidy) piecesOnly, ofString_text tidy]

/-! ### What a look-up reads off a text with names appended -/

private theorem components_join {directory entry : String} (named : directory ≠ "")
    (piece : IsPiece entry) :
    components (join directory entry) = components directory ++ [entry] := by
  have kept : [entry].filter (· != "") = [entry] := by simp [piece.1]
  rcases pieces_join named piece with whole | ⟨before, front, whole⟩
  · simp only [components, whole, List.filter_append, kept]
  · simp only [components, front, whole, List.filter_append, kept]
    simp

private theorem endsInSlash_join (directory : String) {entry : String} (piece : IsPiece entry) :
    endsInSlash (join directory entry) = false := by
  rw [join]
  split
  · exact endsInSlash_eq_false directory.toList piece (by simp)
  · exact endsInSlash_eq_false (directory.toList ++ ['/']) piece (by simp)

private theorem isAbsolute_join {directory entry : String} (named : directory ≠ "") :
    isAbsolute (join directory entry) = isAbsolute directory := by
  obtain ⟨first, rest, shape⟩ := List.exists_cons_of_ne_nil
    (fun empty => named (by simpa using empty) : directory.toList ≠ [])
  rw [isAbsolute, isAbsolute, join]
  split <;> simp [shape]

/-- The components of a text with names appended. -/
theorem components_joinAll {directory : String} (named : directory ≠ "")
    {names : List String} (piecesOnly : ∀ name ∈ names, IsPiece name) :
    components (joinAll directory names) = components directory ++ names := by
  induction names generalizing directory with
  | nil => simp [joinAll]
  | cons name names ih =>
    rw [List.forall_mem_cons] at piecesOnly
    have joined : join directory name ≠ "" := join_ne_empty named
    have onward := ih joined piecesOnly.2
    rw [components_join named piecesOnly.1, List.append_assoc] at onward
    exact onward

theorem isAbsolute_joinAll {directory : String} (named : directory ≠ "") (names : List String) :
    isAbsolute (joinAll directory names) = isAbsolute directory := by
  induction names generalizing directory with
  | nil => rfl
  | cons name names ih => exact (ih (join_ne_empty named)).trans (isAbsolute_join named)

theorem joinAll_ne_empty {directory : String} (named : directory ≠ "") (names : List String) :
    joinAll directory names ≠ "" := by
  induction names generalizing directory with
  | nil => exact named
  | cons name names ih => exact ih (join_ne_empty named)

/-- A look-up of a text with names appended follows the text, and then the names. -/
theorem steps_joinAll {directory : String} (named : directory ≠ "") {names : List String}
    (piecesOnly : ∀ name ∈ names, IsPiece name) (proper : names ≠ []) :
    steps (joinAll directory names) = components directory ++ names := by
  obtain ⟨front, last, rfl⟩ := (List.eq_nil_or_concat names).resolve_left proper
  rw [List.concat_eq_append] at piecesOnly ⊢
  have ended : joinAll directory (front ++ [last]) = join (joinAll directory front) last := by
    simp [joinAll]
  rw [steps, components_joinAll named piecesOnly, ended,
    endsInSlash_join _ (piecesOnly last (by simp))]
  simp

theorem null_notMem_joinAll {directory : String} {names : List String}
    (whole : '\x00' ∉ directory.toList) (wholeNames : ∀ name ∈ names, '\x00' ∉ name.toList) :
    '\x00' ∉ (joinAll directory names).toList := by
  induction names generalizing directory with
  | nil => exact whole
  | cons name names ih =>
    rw [List.forall_mem_cons] at wholeNames
    refine ih ?_ wholeNames.2
    rw [join]
    split <;> simp [whole, wholeNames.1]

/-- A tidy text is followed along its components, but that one without components is followed by a
step that stays. -/
theorem steps_text_cases {path : Path} (tidy : path.Tidy) :
    steps path.text = components path.text ∨
      components path.text = [] ∧ steps path.text = [""] := by
  by_cases named : path.names = []
  · rcases tidy.anchor with empty | one | two
    · left
      rw [text_eq_dot empty named]
      decide
    · right
      have root : path.text = "/" := by simp [text, one, named]
      rw [root]
      decide
    · right
      have double : path.text = "//" := by simp [text, two, named]
      rw [double]
      decide
  · left
    rw [steps_text tidy named, components_text tidy (Or.inr named)]

end CounterTrace.Path
