import CounterTrace.FileSystem.Access
import CounterTrace.Proofs.Trees

/-!
# Where paths lead

A look-up that succeeds is a derivation: one rule for each kind of step. What is known about
successful look-ups is proved by induction on derivations, and carried over to the function that
follows a path.

## Main definitions

* `FileSystem.Follows` — the rules of a successful look-up

## Main results

* `FileSystem.followSteps_eq_ok_iff` — the function follows the rules
* `FileSystem.target_descend` — where a path leads that goes on through real directories
-/

namespace CounterTrace.FileSystem

/-- A step that names an entry, with the steps behind it: not one of the steps that stand for a
directory, not too long, and not the name of a file to be made with a slash after it. -/
structure Names (purpose : Purpose) (step : String) (rest : List String) : Prop where
  ne_dot : step ≠ "."
  ne_empty : step ≠ ""
  ne_parent : step ≠ ".."
  short : step.utf8ByteSize ≤ maxNameBytes
  made : ¬ (purpose = .create ∧ rest = [""])

/-- Where a text is followed from that is read in a directory. -/
def startOf (here : Location) (text : String) : Location :=
  if Path.isAbsolute text then [] else here

/-- A successful look-up through at most so many links: from a directory along the steps to a
target. -/
inductive Follows (root : Node) (purpose : Purpose) :
    Nat → Location → List String → Target → Prop
  | arrive {links : Nat} {here : Location} {node : Node} (found : root.at? here = some node) :
    Follows root purpose links here [] (.present here node)
  | stay {links : Nat} {here : Location} {step : String} {rest : List String} {target : Target}
    (dot : step = "." ∨ step = "") (onward : Follows root purpose links here rest target) :
    Follows root purpose links here (step :: rest) target
  | up {links : Nat} {here : Location} {rest : List String} {target : Target}
    (onward : Follows root purpose links here.dropLast rest target) :
    Follows root purpose links here (".." :: rest) target
  | free {links : Nat} {here : Location} {step : String} (names : Names purpose step [])
    (nothing : root.at? (here ++ [step]) = none) :
    Follows root purpose links here [step] (.absent here step)
  | enter {links : Nat} {here : Location} {step : String} {rest : List String} {target : Target}
    {entries : List (String × Node)} (names : Names purpose step rest)
    (found : root.at? (here ++ [step]) = some (.directory entries))
    (onward : Follows root purpose links (here ++ [step]) rest target) :
    Follows root purpose links here (step :: rest) target
  | file {links : Nat} {here : Location} {step : String} {content : List UInt8}
    (names : Names purpose step [])
    (found : root.at? (here ++ [step]) = some (.file content)) :
    Follows root purpose links here [step] (.present (here ++ [step]) (.file content))
  | link {links : Nat} {here : Location} {step : String} {rest : List String} {target : Target}
    {text : String} (names : Names purpose step rest)
    (found : root.at? (here ++ [step]) = some (.link text))
    (onward : Follows root purpose links (startOf here text) (Path.steps text ++ rest) target) :
    Follows root purpose (links + 1) here (step :: rest) target

variable {root : Node} {purpose : Purpose} {links : Nat} {here : Location} {steps : List String}
  {target : Target} {files after : FileSystem} {path : String} {location : Location}
  {entries : List (String × Node)} {node : Node}

/-- A step that passes the tests of a look-up names an entry. -/
theorem Names.of_tests {step : String} {rest : List String}
    (notDot : ¬ (step == "." || step == "") = true) (notParent : ¬ (step == "..") = true)
    (notMade : ¬ (purpose == .create && rest == [""]) = true)
    (notLong : ¬ maxNameBytes < step.utf8ByteSize) : Names purpose step rest := by
  rw [Bool.or_eq_true, beq_iff_eq, beq_iff_eq, not_or] at notDot
  rw [beq_iff_eq] at notParent
  rw [Bool.and_eq_true, beq_iff_eq, beq_iff_eq] at notMade
  exact ⟨notDot.1, notDot.2, notParent, Nat.not_lt.mp notLong, notMade⟩

/-- What names an entry names one to be found, whatever comes behind it. -/
theorem Names.find {step : String} {rest more : List String} (names : Names purpose step rest) :
    Names .find step more :=
  ⟨names.ne_dot, names.ne_empty, names.ne_parent, names.short, by simp⟩

/-- A step on which a file can be made passes every look-up. -/
theorem Names.of_create {step : String} {rest : List String} (names : Names .create step rest) :
    Names purpose step rest := by
  cases purpose with
  | find => exact names.find
  | create => exact names

/-! ### The function and the rules -/

private theorem follows_of_walkSteps
    {follow : Location → String → List String → Except Refusal Target}
    (behind : ∀ here text rest, follow here text rest = .ok target →
      ∃ fewer, links = fewer + 1 ∧
        Follows root purpose fewer (startOf here text) (Path.steps text ++ rest) target)
    (found : walkSteps root purpose follow here steps = .ok target) :
    Follows root purpose links here steps target := by
  -- One case for each way through the function: every success is one of the rules.
  fun_induction walkSteps root purpose follow here steps with
  | case1 here node there =>
    obtain rfl := Except.ok.inj found
    exact .arrive there
  | case2 => cases found
  | case3 here step rest dot ih => exact .stay (by simpa using dot) (ih found)
  | case4 here step rest notDot parent ih =>
    obtain rfl : step = ".." := by simpa using parent
    exact .up (ih found)
  | case5 => cases found
  | case6 => cases found
  | case7 here step rest notDot notParent notMade notLong nothing last =>
    obtain rfl := Except.ok.inj found
    obtain rfl : rest = [] := by simpa using last
    exact .free (.of_tests notDot notParent notMade notLong) nothing
  | case8 => cases found
  | case9 here step rest notDot notParent notMade notLong entries there ih =>
    exact .enter (.of_tests notDot notParent notMade notLong) there (ih found)
  | case10 here step rest notDot notParent notMade notLong content there last =>
    obtain rfl := Except.ok.inj found
    obtain rfl : rest = [] := by simpa using last
    exact .file (.of_tests notDot notParent notMade notLong) there
  | case11 => cases found
  | case12 here step rest notDot notParent notMade notLong text there =>
    obtain ⟨fewer, rfl, onward⟩ := behind here text rest found
    exact .link (.of_tests notDot notParent notMade notLong) there onward

theorem follows_of_followSteps (found : followSteps root purpose links here steps = .ok target) :
    Follows root purpose links here steps target := by
  -- The steps are walked anew behind each link, so the induction is on the links that are left.
  induction links generalizing here steps target with
  | zero => exact follows_of_walkSteps (by simp) found
  | succ links ih => exact follows_of_walkSteps (fun _ _ _ onward => ⟨links, rfl, ih onward⟩) found

/-- How a look-up goes on behind a link, if any more links may be followed. -/
private def behindLink (root : Node) (purpose : Purpose) :
    Nat → Location → String → List String → Except Refusal Target
  | 0, _, _, _ => .error .tooManyLinks
  | links + 1, here, text, rest =>
    followSteps root purpose links (startOf here text) (Path.steps text ++ rest)

private theorem followSteps_eq_walkSteps :
    followSteps root purpose links here steps =
      walkSteps root purpose (behindLink root purpose links) here steps := by
  cases links <;> rfl

/-- What a look-up does at the name of an entry. -/
theorem walkSteps_name {follow : Location → String → List String → Except Refusal Target}
    {step : String} {rest : List String} (names : Names purpose step rest) :
    walkSteps root purpose follow here (step :: rest) =
      match root.at? (here ++ [step]) with
      | none => if rest.isEmpty then .ok (.absent here step) else .error .notFound
      | some (.directory _) => walkSteps root purpose follow (here ++ [step]) rest
      | some (.file content) =>
        if rest.isEmpty then .ok (.present (here ++ [step]) (.file content))
        else .error .notDirectory
      | some (.link text) => follow here text rest := by
  have notDot : (step == "." || step == "") = false := by
    simp [names.ne_dot, names.ne_empty]
  have notParent : (step == "..") = false := by simpa using names.ne_parent
  have notMade : (purpose == .create && rest == [""]) = false := by
    simpa using fun create last => names.made ⟨create, last⟩
  -- None of the four tests before the entry is looked up succeeds.
  rw [walkSteps, notDot, notParent, notMade]
  exact (if_neg Bool.false_ne_true).trans <| (if_neg Bool.false_ne_true).trans <|
    (if_neg Bool.false_ne_true).trans (if_neg (Nat.not_lt.mpr names.short))

theorem followSteps_of_follows (found : Follows root purpose links here steps target) :
    followSteps root purpose links here steps = .ok target := by
  induction found with
  | arrive found =>
    rw [followSteps_eq_walkSteps, walkSteps, found]
  | stay dot _ ih =>
    rw [followSteps_eq_walkSteps] at ih ⊢
    rw [walkSteps]
    simpa [dot] using ih
  | up _ ih =>
    rw [followSteps_eq_walkSteps] at ih ⊢
    rw [walkSteps]
    simpa using ih
  | free names nothing =>
    rw [followSteps_eq_walkSteps, walkSteps_name names, nothing]
    rfl
  | enter names found _ ih =>
    rw [followSteps_eq_walkSteps, walkSteps_name names, found]
    exact followSteps_eq_walkSteps.symm.trans ih
  | file names found =>
    rw [followSteps_eq_walkSteps, walkSteps_name names, found]
    rfl
  | link names found _ ih =>
    rw [followSteps_eq_walkSteps, walkSteps_name names, found]
    exact ih

/-- The function follows the rules. -/
theorem followSteps_eq_ok_iff :
    followSteps root purpose links here steps = .ok target ↔
      Follows root purpose links here steps target :=
  ⟨follows_of_followSteps, followSteps_of_follows⟩

/-! ### What a successful look-up finds -/

theorem Follows.at?_of_present {place : Location}
    (found : Follows root purpose links here steps (.present place node)) :
    root.at? place = some node := by
  -- A look-up for a file that is present ends by `arrive` or by `file`.
  generalize shape : Target.present place node = target at found
  induction found with
  | arrive found =>
    obtain ⟨rfl, rfl⟩ := Target.present.inj shape
    exact found
  | stay _ _ ih => exact ih shape
  | up _ ih => exact ih shape
  | free => cases shape
  | enter _ _ _ ih => exact ih shape
  | file _ found =>
    obtain ⟨rfl, rfl⟩ := Target.present.inj shape
    exact found
  | link _ _ _ ih => exact ih shape

theorem exists_directory_dropLast (inside : root.at? here = some (.directory entries)) :
    ∃ above, root.at? here.dropLast = some (.directory above) := by
  rcases List.eq_nil_or_concat here with rfl | ⟨front, last, rfl⟩
  · exact ⟨entries, inside⟩
  · rw [List.concat_eq_append] at inside ⊢
    rw [List.dropLast_concat]
    exact Node.exists_directory_of_at?_append (by simp) inside

theorem exists_directory_startOf (text : String)
    (top : ∃ children, root = .directory children)
    (inside : root.at? here = some (.directory entries)) :
    ∃ above, root.at? (startOf here text) = some (.directory above) := by
  rw [startOf]
  split
  · obtain ⟨children, rfl⟩ := top
    exact ⟨children, Node.at?_nil⟩
  · exact ⟨entries, inside⟩

/-- A free name is the name of no entry of a directory. -/
theorem Follows.directory_of_absent {directory : Location} {name : String}
    (found : Follows root purpose links here steps (.absent directory name))
    (top : ∃ children, root = .directory children)
    (inside : root.at? here = some (.directory entries)) :
    (∃ children, root.at? directory = some (.directory children)) ∧
      root.at? (directory ++ [name]) = none := by
  -- Along the way the look-up stands in a directory: this is what each rule hands on.
  generalize shape : Target.absent directory name = target at found
  induction found generalizing entries with
  | arrive => cases shape
  | stay _ _ ih => exact ih inside shape
  | up _ ih =>
    obtain ⟨above, higher⟩ := exists_directory_dropLast inside
    exact ih higher shape
  | free _ nothing =>
    obtain ⟨rfl, rfl⟩ := Target.absent.inj shape
    exact ⟨⟨entries, inside⟩, nothing⟩
  | enter _ found _ ih => exact ih found shape
  | file => cases shape
  | link _ _ _ ih =>
    obtain ⟨above, start⟩ := exists_directory_startOf _ top inside
    exact ih start shape

/-- A free name is one that an entry can have. -/
theorem Follows.isName_of_absent {directory : Location} {name : String}
    (found : Follows root purpose links here steps (.absent directory name))
    (wellFormed : root.WellFormed)
    (plain : ∀ step ∈ steps, '/' ∉ step.toList ∧ '\x00' ∉ step.toList) : Node.IsName name := by
  -- The name is one of the steps of the path, or of the target of a link on the way.
  generalize shape : Target.absent directory name = target at found
  induction found with
  | arrive => cases shape
  | stay _ _ ih => exact ih (List.forall_mem_cons.mp plain).2 shape
  | up _ ih => exact ih (List.forall_mem_cons.mp plain).2 shape
  | free names _ =>
    obtain ⟨-, rfl⟩ := Target.absent.inj shape
    obtain ⟨slash, whole⟩ := plain _ List.mem_cons_self
    exact ⟨⟨names.ne_empty, names.ne_dot, slash⟩, names.ne_parent, whole, names.short⟩
  | enter _ _ _ ih => exact ih (List.forall_mem_cons.mp plain).2 shape
  | file => cases shape
  | link _ found _ ih =>
    cases (wellFormed.at? found).1 with
    | link named whole =>
      refine ih (fun step member => ?_) shape
      rcases List.mem_append.mp member with ofLink | later
      · exact Path.notMem_of_mem_steps whole ofLink
      · exact plain step (List.mem_cons_of_mem _ later)

/-! ### Going on through real directories -/

/-- From a directory, the names on the way to a node below it lead to that node. -/
theorem Follows.of_at? {names : List String} (inside : root.at? here = some (.directory entries))
    (found : (Node.directory entries).at? names = some node)
    (isName : ∀ name ∈ names, Node.IsName name) (proper : ∀ text, node ≠ .link text) :
    Follows root .find links here names (.present (here ++ names) node) := by
  induction names generalizing here entries with
  | nil =>
    obtain rfl : Node.directory entries = node := by simpa using found
    simpa using Follows.arrive inside
  | cons name names ih =>
    have valid := isName name (by simp)
    have step : Names .find name names :=
      ⟨valid.piece.2.1, valid.piece.1, valid.ne_parent, valid.short, by simp⟩
    -- What is there decides the rule; below a file or a link there is no node to be found.
    rw [Node.at?_cons] at found
    obtain ⟨child, entry, found⟩ := Option.bind_eq_some_iff.mp found
    have there := Node.at?_of_lookup inside entry
    cases child with
    | file content =>
      cases names with
      | nil =>
        obtain rfl : Node.file content = node := by simpa using found
        exact .file step there
      | cons next names => simp at found
    | link text =>
      cases names with
      | nil => exact absurd (by simpa using found.symm) (proper text)
      | cons next names => simp at found
    | directory children =>
      have onward := ih there found fun other member => isName other (by simp [member])
      rw [List.append_assoc] at onward
      exact .enter step there onward

/-- A look-up that ends in a directory can be continued through real directories. -/
theorem Follows.append {place : Location} {names : List String}
    (start : Follows root .find links here steps (.present place (.directory entries)))
    (found : (Node.directory entries).at? names = some node)
    (isName : ∀ name ∈ names, Node.IsName name) (proper : ∀ text, node ≠ .link text) :
    Follows root .find links here (steps ++ names) (.present (place ++ names) node) := by
  generalize shape : Target.present place (Node.directory entries) = target at start
  induction start with
  | arrive inside =>
    obtain ⟨rfl, rfl⟩ := Target.present.inj shape
    exact .of_at? inside found isName proper
  | stay dot _ ih => exact .stay dot (ih shape)
  | up _ ih => exact .up (ih shape)
  | free => cases shape
  | enter step inside _ ih =>
    exact .enter step.find inside (ih shape)
  | file => cases shape
  | link step inside _ ih =>
    have onward := ih shape
    rw [List.append_assoc] at onward
    exact .link step.find inside onward

/-- When a path can be followed, however long it is. -/
theorem resolve_eq_ok_iff :
    files.resolve purpose path = .ok target ↔ path ≠ "" ∧
      Follows files.root purpose maxLinks (startOf files.workingDirectory path)
        (Path.steps path) target := by
  rw [resolve, ← followSteps_eq_ok_iff, startOf]
  by_cases empty : path = ""
  · simp [empty]
  · simp [String.isEmpty_iff, empty]

/-- When the target of a path is found. -/
theorem target_eq_ok_iff :
    files.target purpose path = .ok target ↔
      '\x00' ∉ path.toList ∧ path.utf8ByteSize ≤ maxPathBytes ∧ path ≠ "" ∧
        Follows files.root purpose maxLinks (startOf files.workingDirectory path)
          (Path.steps path) target := by
  rw [FileSystem.target, ← resolve_eq_ok_iff]
  by_cases null : '\x00' ∈ path.toList
  · simp [null]
  by_cases long : maxPathBytes < path.utf8ByteSize
  · simp [null, long, Nat.not_le.mpr long]
  · simp only [List.contains_eq_mem, null, decide_false, Bool.false_eq_true, if_false, long,
      not_false_eq_true, Nat.not_lt.mp long, true_and]
    cases files.resolve purpose path <;> simp

/-- What a path leads to stands where the path leads. -/
theorem at?_of_target {place : Location}
    (known : files.target purpose path = .ok (.present place node)) :
    files.root.at? place = some node := by
  obtain ⟨-, -, -, follows⟩ := target_eq_ok_iff.mp known
  exact follows.at?_of_present

/-- When a path is rejected before the file system is asked. -/
theorem target_eq_nullCharacter_iff :
    files.target purpose path = .error .nullCharacter ↔ '\x00' ∈ path.toList := by
  rw [FileSystem.target]
  by_cases null : '\x00' ∈ path.toList
  · simp [null]
  · simp only [List.contains_eq_mem, null, decide_false, Bool.false_eq_true, if_false, iff_false]
    split
    · simp
    · cases files.resolve purpose path <;> simp

theorem follows_stay_iff {step : String} {rest : List String} (dot : step = "." ∨ step = "") :
    Follows root purpose links here (step :: rest) target ↔
      Follows root purpose links here rest target := by
  refine ⟨fun found => ?_, .stay dot⟩
  rw [← followSteps_eq_ok_iff, followSteps_eq_walkSteps] at found ⊢
  rw [walkSteps] at found
  simpa [dot] using found

/-- A path to a directory that goes on through real directories leads to what is there. -/
theorem target_descend {top : Path} {place : Location} {names : List String} (tidy : top.Tidy)
    (start : files.target .find top.text = .ok (.present place (.directory entries)))
    (found : (Node.directory entries).at? names = some node)
    (isName : ∀ name ∈ names, Node.IsName name) (proper : ∀ text, node ≠ .link text)
    (named : names ≠ []) (short : (top.descend names).text.utf8ByteSize ≤ maxPathBytes) :
    files.target .find (top.descend names).text = .ok (.present (place ++ names) node) := by
  have below : (top.descend names).Tidy :=
    tidy.descend fun name member => (isName name member).piece
  obtain ⟨whole, -, -, follows⟩ := target_eq_ok_iff.mp start
  refine target_eq_ok_iff.mpr ⟨?_, short, Path.text_ne_empty below, ?_⟩
  · intro null
    rcases Path.mem_text_descend null with old | slash | ⟨name, member, inside⟩
    · exact whole old
    · exact absurd slash (by decide)
    · exact (isName name member).whole inside
  · have same : startOf files.workingDirectory (top.descend names).text =
        startOf files.workingDirectory top.text := by
      rw [startOf, startOf, Path.isAbsolute_text below, Path.isAbsolute_text tidy]
      rfl
    have steps : Path.steps (top.descend names).text = top.names ++ names :=
      Path.steps_text below (by simp [Path.descend, named])
    rw [same, steps]
    refine Follows.append ?_ found isName proper
    -- A path without names is followed by a step that stays, which the longer path does not have.
    by_cases bare : top.names = []
    · rw [bare]
      rcases Path.steps_text_of_names_eq_nil tidy bare with dot | empty
      · exact (follows_stay_iff (Or.inl rfl)).mp (dot ▸ follows)
      · exact (follows_stay_iff (Or.inr rfl)).mp (empty ▸ follows)
    · rwa [Path.steps_text tidy bare] at follows

/-- The text of a directory goes on through real directories if the names on the way are appended
one by one, however long it becomes. -/
theorem follows_joinAll {top : Path} {place : Location} {names : List String} (tidy : top.Tidy)
    (start : Follows files.root .find maxLinks (startOf files.workingDirectory top.text)
      (Path.steps top.text) (.present place (.directory entries)))
    (found : (Node.directory entries).at? names = some node)
    (isName : ∀ name ∈ names, Node.IsName name) (proper : ∀ text, node ≠ .link text)
    (named : names ≠ []) :
    Follows files.root .find maxLinks
      (startOf files.workingDirectory (Path.joinAll top.text names))
      (Path.steps (Path.joinAll top.text names)) (.present (place ++ names) node) := by
  have text := Path.text_ne_empty tidy
  rw [startOf, Path.isAbsolute_joinAll text, ← startOf,
    Path.steps_joinAll text (fun name member => (isName name member).piece) named]
  refine Follows.append ?_ found isName proper
  rcases Path.steps_text_cases tidy with same | ⟨nothing, stay⟩
  · rwa [same] at start
  · rw [nothing]
    rw [stay] at start
    exact (follows_stay_iff (Or.inr rfl)).mp start

/-- So does the text of the directory with the names appended one by one. -/
theorem target_joinAll {top : Path} {place : Location} {names : List String} (tidy : top.Tidy)
    (start : files.target .find top.text = .ok (.present place (.directory entries)))
    (found : (Node.directory entries).at? names = some node)
    (isName : ∀ name ∈ names, Node.IsName name) (proper : ∀ text, node ≠ .link text)
    (short : (Path.joinAll top.text names).utf8ByteSize ≤ maxPathBytes) :
    files.target .find (Path.joinAll top.text names) = .ok (.present (place ++ names) node) := by
  by_cases named : names = []
  · obtain rfl : Node.directory entries = node := by simpa [named] using found
    simpa [named, Path.joinAll] using start
  obtain ⟨whole, -, -, follows⟩ := target_eq_ok_iff.mp start
  refine target_eq_ok_iff.mpr ⟨?_, short, Path.joinAll_ne_empty (Path.text_ne_empty tidy) names,
    follows_joinAll tidy follows found isName proper named⟩
  exact Path.null_notMem_joinAll whole fun name member => (isName name member).whole

end CounterTrace.FileSystem
