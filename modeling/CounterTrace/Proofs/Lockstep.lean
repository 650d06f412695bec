import CounterTrace.Proofs.Discovery

/-!
# Look-ups in two trees

Two file systems hold the same but for files at some places, which the second one has and the first
may lack. A path is followed through both in lockstep: what is met at every step is the same, until
the second look-up comes to one of those places. If it ends there, nothing is said about the first.
If it has to go on from there, it cannot, and neither could the first, which met a file or nothing.

## Main definitions

* `FileSystem.SameBut` — two trees that hold the same but for files at some places
* `FileSystem.Alike` — the outcomes of one look-up in two such trees

## Main results

* `FileSystem.followSteps_alike` — one look-up in two trees has outcomes that are alike
* `FileSystem.EqualBut.isFile_eq`, `FileSystem.EqualBut.readPermitted_eq` — paths that do not lead
  to a changed place
-/

namespace CounterTrace.FileSystem

/-- Two trees that hold the same at every place, but for some: there the second tree has a file, and
the first a file or nothing. Directories are compared without their entries. -/
structure SameBut (changed : Location → Prop) (root other : Node) : Prop where
  elsewhere : ∀ place, ¬ changed place →
    (other.at? place).map Node.bare = (root.at? place).map Node.bare
  before : ∀ place node, changed place → root.at? place = some node →
    ∃ content, node = .file content
  after : ∀ place, changed place → ∃ content, other.at? place = some (.file content)

/-- The outcomes of one look-up in two trees that hold the same but for some places: they agree, or
the look-up in the second tree ends at one of the places. What is refused because it leads nowhere
may be refused in the one tree for a missing entry and in the other for a file on the way. -/
inductive Alike (changed : Location → Prop) : Except Refusal Target → Except Refusal Target → Prop
  | refused (reason : Refusal) : Alike changed (.error reason) (.error reason)
  | nowhere {reason other : Refusal} (first : reason = .notFound ∨ reason = .notDirectory)
    (second : other = .notFound ∨ other = .notDirectory) :
    Alike changed (.error reason) (.error other)
  | free (directory : Location) (name : String) :
    Alike changed (.ok (.absent directory name)) (.ok (.absent directory name))
  | found {place : Location} {node other : Node} (same : other.bare = node.bare) :
    Alike changed (.ok (.present place node)) (.ok (.present place other))
  | ended {outcome : Except Refusal Target} {place : Location} {other : Node}
    (there : changed place)
    (leaf : ∀ first node, outcome = .ok (.present first node) → node.isDirectory = false) :
    Alike changed outcome (.ok (.present place other))

variable {changed : Location → Prop} {root other : Node} {purpose : Purpose} {links : Nat}
  {here place : Location} {steps : List String} {files others : FileSystem} {path : String}
  {node : Node} {content : List UInt8} {entries : List (String × Node)}

/-! ### In lockstep -/

/-- What stands at a place that is the same in both trees. -/
theorem SameBut.at?_cases (same : SameBut changed root other) (unchanged : ¬ changed place) :
    (root.at? place = none ∧ other.at? place = none) ∨
      (∃ content, root.at? place = some (.file content) ∧
        other.at? place = some (.file content)) ∨
      (∃ text, root.at? place = some (.link text) ∧ other.at? place = some (.link text)) ∨
      ∃ entries others, root.at? place = some (.directory entries) ∧
        other.at? place = some (.directory others) := by
  have bare := same.elsewhere place unchanged
  generalize root.at? place = first at bare ⊢
  generalize other.at? place = second at bare ⊢
  -- A file and a link are what they are without entries, and a directory is none of these.
  rcases first with _ | content | text | entries <;>
    rcases second with _ | otherContent | otherText | otherEntries <;>
    simp_all [Node.bare]

variable {follow otherFollow : Location → String → List String → Except Refusal Target}
  {step : String} {rest : List String}

/-- Two walks arrive at one place. -/
theorem arrive_alike (same : SameBut changed root other) :
    Alike changed (walkSteps root purpose follow here [])
      (walkSteps other purpose otherFollow here []) := by
  rw [walkSteps, walkSteps]
  by_cases there : changed here
  · obtain ⟨content, now⟩ := same.after here there
    rw [now]
    refine .ended there fun first node known => ?_
    split at known
    · rename_i old found
      obtain ⟨-, rfl⟩ := Target.present.inj (Except.ok.inj known)
      obtain ⟨content, rfl⟩ := same.before here _ there found
      rfl
    · cases known
  · rcases same.at?_cases there with ⟨before, after⟩ | ⟨content, before, after⟩ |
      ⟨text, before, after⟩ | ⟨entries, others, before, after⟩
    · rw [before, after]
      exact .refused _
    · rw [before, after]
      exact .found rfl
    · rw [before, after]
      exact .found rfl
    · rw [before, after]
      exact .found rfl

/-- At a changed place both walks end: in the second tree at the file there, and in the first at a
file or at nothing. -/
theorem changed_alike (same : SameBut changed root other) (names : Names purpose step rest)
    (there : changed (here ++ [step])) :
    Alike changed (walkSteps root purpose follow here (step :: rest))
      (walkSteps other purpose otherFollow here (step :: rest)) := by
  obtain ⟨content, now⟩ := same.after _ there
  rw [walkSteps_name names, walkSteps_name names, now]
  rcases found : root.at? (here ++ [step]) with _ | old
  · cases rest with
    | nil => exact .ended there fun first node known => by cases known
    | cons next rest => exact .nowhere (Or.inl rfl) (Or.inr rfl)
  · obtain ⟨content, rfl⟩ := same.before _ _ there found
    cases rest with
    | nil =>
      refine .ended there fun first node known => ?_
      obtain ⟨-, rfl⟩ := Target.present.inj (Except.ok.inj known)
      rfl
    | cons next rest => exact .nowhere (Or.inr rfl) (Or.inr rfl)

/-- At any other place both walks meet the same, and go on in the same way if they go on. -/
theorem unchanged_alike (same : SameBut changed root other) (names : Names purpose step rest)
    (unchanged : ¬ changed (here ++ [step]))
    (behind : ∀ here text rest,
      Alike changed (follow here text rest) (otherFollow here text rest))
    (onward : Alike changed (walkSteps root purpose follow (here ++ [step]) rest)
      (walkSteps other purpose otherFollow (here ++ [step]) rest)) :
    Alike changed (walkSteps root purpose follow here (step :: rest))
      (walkSteps other purpose otherFollow here (step :: rest)) := by
  rw [walkSteps_name names, walkSteps_name names]
  rcases same.at?_cases unchanged with ⟨before, after⟩ | ⟨content, before, after⟩ |
    ⟨text, before, after⟩ | ⟨entries, others, before, after⟩
  · rw [before, after]
    cases rest with
    | nil => exact .free here step
    | cons next rest => exact .refused _
  · rw [before, after]
    cases rest with
    | nil => exact .found rfl
    | cons next rest => exact .refused _
  · rw [before, after]
    exact behind here text rest
  · rw [before, after]
    exact onward

theorem walkSteps_alike (same : SameBut changed root other)
    (behind : ∀ here text rest,
      Alike changed (follow here text rest) (otherFollow here text rest)) :
    Alike changed (walkSteps root purpose follow here steps)
      (walkSteps other purpose otherFollow here steps) := by
  induction steps generalizing here with
  | nil => exact arrive_alike same
  | cons step rest ih =>
    -- Up to the look-up of the entry both walks ask the same questions.
    by_cases dot : (step == "." || step == "") = true
    · rw [walkSteps, walkSteps, if_pos dot, if_pos dot]
      exact ih
    by_cases parent : (step == "..") = true
    · rw [walkSteps, walkSteps, if_neg dot, if_neg dot, if_pos parent, if_pos parent]
      exact ih
    by_cases made : (purpose == .create && rest == [""]) = true
    · rw [walkSteps, walkSteps, if_neg dot, if_neg dot, if_neg parent, if_neg parent, if_pos made,
        if_pos made]
      exact .refused _
    by_cases long : maxNameBytes < step.utf8ByteSize
    · rw [walkSteps, walkSteps, if_neg dot, if_neg dot, if_neg parent, if_neg parent, if_neg made,
        if_neg made, if_pos long, if_pos long]
      exact .refused _
    have names : Names purpose step rest := .of_tests dot parent made long
    by_cases there : changed (here ++ [step])
    · exact changed_alike same names there
    · exact unchanged_alike same names there behind ih

/-- One look-up in two trees has outcomes that are alike. -/
theorem followSteps_alike (same : SameBut changed root other) :
    Alike changed (followSteps root purpose links here steps)
      (followSteps other purpose links here steps) := by
  induction links generalizing here steps with
  | zero => exact walkSteps_alike same fun _ _ _ => .refused _
  | succ links ih => exact walkSteps_alike same fun _ _ _ => ih

/-! ### Paths -/

/-- Two file systems that hold the same but for some places, with one working directory and the same
places barred. -/
structure EqualBut (changed : Location → Prop) (files others : FileSystem) : Prop where
  trees : SameBut changed files.root others.root
  workingDirectory : others.workingDirectory = files.workingDirectory
  barred : others.barred = files.barred

theorem EqualBut.isBarred_eq (equal : EqualBut changed files others) (path : String) :
    others.isBarred path = files.isBarred path := by
  rw [isBarred, isBarred, lexical, lexical, equal.workingDirectory, equal.barred]

theorem EqualBut.obstacle?_eq (equal : EqualBut changed files others) (path : String) :
    others.obstacle? path = files.obstacle? path := by
  rw [obstacle?, obstacle?, equal.isBarred_eq]

/-- The target of a path that is not refused as a text. -/
theorem target_eq_mapError (whole : '\x00' ∉ path.toList)
    (short : path.utf8ByteSize ≤ maxPathBytes) :
    files.target purpose path =
      (files.resolve purpose path).mapError (AccessError.refused · path) := by
  rw [target, if_neg (by simpa using whole), if_neg (Nat.not_lt.mpr short)]
  cases files.resolve purpose path <;> rfl

/-- A path is refused as a text in both file systems, or its targets are alike. -/
theorem EqualBut.target_alike (equal : EqualBut changed files others) (path : String) :
    (∃ error, files.target purpose path = .error error ∧
        others.target purpose path = .error error) ∨
      ∃ outcome other, Alike changed outcome other ∧
        files.target purpose path = outcome.mapError (AccessError.refused · path) ∧
        others.target purpose path = other.mapError (AccessError.refused · path) := by
  by_cases null : '\x00' ∈ path.toList
  · exact Or.inl ⟨_, target_eq_nullCharacter_iff.mpr null, target_eq_nullCharacter_iff.mpr null⟩
  by_cases long : maxPathBytes < path.utf8ByteSize
  · refine Or.inl ⟨.refused .nameTooLong path, ?_, ?_⟩ <;> simp [target, null, long]
  have alike : Alike changed (files.resolve purpose path) (others.resolve purpose path) := by
    rw [resolve, resolve, equal.workingDirectory]
    split
    · exact .refused _
    · exact followSteps_alike equal.trees
  exact Or.inr ⟨_, _, alike, target_eq_mapError null (Nat.not_lt.mp long),
    target_eq_mapError null (Nat.not_lt.mp long)⟩

/-- A path whose look-up does not end at a changed place leads to a file in both or in neither. -/
theorem EqualBut.isFile_eq (equal : EqualBut changed files others)
    (apart : ∀ place node, changed place →
      others.target .find path ≠ .ok (.present place node)) :
    others.isFile path = files.isFile path := by
  rw [isFile, isFile]
  rcases equal.target_alike path with ⟨error, first, second⟩ |
    ⟨outcome, other, alike, first, second⟩
  · rw [first, second]
  · rw [second] at apart
    rw [first, second]
    cases alike with
    | refused reason => rfl
    | nowhere reason another =>
      rcases reason with rfl | rfl <;> rcases another with rfl | rfl <;> rfl
    | free directory name => rfl
    | @found place node other same =>
      cases node <;> cases other <;> first | rfl | cases same
    | ended there leaf => exact absurd rfl (apart _ _ there)

/-- What a path leads to, it leads to in both, unless its look-up ends at a changed place. -/
theorem EqualBut.target_present (equal : EqualBut changed files others)
    (known : files.target purpose path = .ok (.present place node))
    (apart : ∀ place other, changed place → node.isDirectory = false →
      others.target purpose path ≠ .ok (.present place other)) :
    ∃ other, others.target purpose path = .ok (.present place other) ∧ other.bare = node.bare := by
  rcases equal.target_alike path with ⟨error, first, -⟩ |
    ⟨outcome, other, alike, first, second⟩
  · cases known.symm.trans first
  · rw [known] at first
    rw [second] at apart ⊢
    cases alike with
    | refused reason => cases first
    | nowhere reasons others => cases first
    | free directory name => cases first
    | found same =>
      obtain ⟨rfl, rfl⟩ := Target.present.inj (Except.ok.inj first)
      exact ⟨_, rfl, same⟩
    | @ended outcome place other there leaf =>
      -- The first look-up has ended at a file, and that is excluded.
      cases outcome with
      | error reason => cases first
      | ok target =>
        obtain rfl := Except.ok.inj first
        exact absurd rfl (apart place other there (leaf _ _ rfl))

/-- A path that leads to a directory leads to a directory in the same place. -/
theorem EqualBut.target_directory (equal : EqualBut changed files others)
    (known : files.target purpose path = .ok (.present place (.directory entries))) :
    ∃ children, others.target purpose path = .ok (.present place (.directory children)) := by
  obtain ⟨other, there, same⟩ := equal.target_present known fun _ _ _ wrong => by cases wrong
  cases other with
  | file content => cases same
  | link text => cases same
  | directory children => exact ⟨children, there⟩

/-- A path that leads to a file, and not to a changed place, leads to the same file. -/
theorem EqualBut.target_file (equal : EqualBut changed files others)
    (known : files.target purpose path = .ok (.present place (.file content)))
    (apart : ∀ place other, changed place →
      others.target purpose path ≠ .ok (.present place other)) :
    others.target purpose path = .ok (.present place (.file content)) := by
  obtain ⟨other, there, same⟩ := equal.target_present known fun place other changed _ =>
    apart place other changed
  cases other with
  | file content =>
    obtain rfl := Node.file.inj same
    exact there
  | link text => cases same
  | directory children => cases same

/-- A path to a file that does not lead to a changed place is read with one content in both. -/
theorem EqualBut.read_eq (equal : EqualBut changed files others) (leads : files.LeadsToFile path)
    (apart : ∀ place other, changed place →
      others.target .find path ≠ .ok (.present place other)) :
    others.read path = files.read path := by
  obtain ⟨place, content, known⟩ := leads
  rw [read, read, known, equal.target_file known apart]

/-- A control file that does not lead to a changed place has one content in both. -/
theorem EqualBut.readPermitted_eq (equal : EqualBut changed files others)
    (leads : files.LeadsToFile path)
    (apart : ∀ place other, changed place →
      others.target .find path ≠ .ok (.present place other)) :
    others.readPermitted path = files.readPermitted path := by
  rw [readPermitted, readPermitted, equal.isBarred_eq, equal.read_eq leads apart]

end CounterTrace.FileSystem
