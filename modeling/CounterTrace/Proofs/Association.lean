import Mathlib.Data.List.Perm.Basic
import CounterTrace.ControlFile.Basic

/-!
# Dividing counters among control files

The columns of a device fall into groups of four, and each control file owns the group with the
number of its identifier. Two tests decide where a counter goes: one picks the counters of a control
file, another the counters that are left over. Both ask for the group of the counter's column, so
that they never disagree: a counter goes to every control file with the number of its group, and is
left over exactly if there is none.

## Main definitions

* `ControlFile.groupOf` — the group of a column
* `ControlFile.inGroup` — the counters on the columns of a group

## Main results

* `ControlFile.groupOf_eq_iff` — a group is four columns wide
* `ControlFile.perm_assign` — dividing loses no counter and repeats none
* `ControlFile.assign_by_group` — how counters are divided among control files
-/

namespace CounterTrace.ControlFile

variable {file : ControlFile} {files : List ControlFile} {counters : List Counter}
  {column group other : Int}

/-- The group of a column: the column divided by the width of a group, rounded down. -/
def groupOf (column : Int) : Int := column.fdiv columnCount

/-- The counters on the columns of a group, in their order. -/
def inGroup (group : Int) (counters : List Counter) : List Counter :=
  counters.filter fun counter => decide (groupOf counter.column = group)

/-- A group is four columns wide, on both sides of zero. -/
theorem groupOf_eq_iff : groupOf column = group ↔ 4 * group ≤ column ∧ column ≤ 4 * group + 3 := by
  have width : columnCount = 4 := rfl
  rw [groupOf, width, Int.fdiv_eq_ediv_of_nonneg column (by omega)]
  omega

/-- The test for the counters that are left over asks for the group of a column. -/
theorem owns_eq : file.owns column = decide (groupOf column = file.id) := by
  rw [owns, ← Bool.decide_and, decide_eq_decide, groupOf_eq_iff, lastColumn, firstColumn,
    columnCount]
  omega

/-- And so does the test for the counters of a control file. -/
theorem onColumns_eq (file : ControlFile) (counters : List Counter) :
    onColumns counters file.firstColumn file.lastColumn = inGroup file.id counters := by
  refine List.filter_congr fun counter _ => ?_
  exact owns_eq

theorem assign_eq (files : List ControlFile) (counters : List Counter) :
    assign files counters =
      files.map fun file => { file with counters := inGroup file.id counters } := by
  refine List.map_congr_left fun file _ => ?_
  rw [onColumns_eq]

theorem unassigned_eq (files : List ControlFile) (counters : List Counter) :
    unassigned files counters =
      counters.filter fun counter => decide (∀ file ∈ files, file.id ≠ groupOf counter.column) := by
  refine List.filter_congr fun counter _ => ?_
  rw [Bool.eq_iff_iff, decide_eq_true_eq, Bool.not_eq_true', List.any_eq_false]
  refine forall₂_congr fun file _ => not_congr ?_
  rw [owns_eq, decide_eq_true_eq, eq_comm]

/-! ### Nothing is lost -/

/-- The counters outside a group. -/
def outsideGroup (group : Int) (counters : List Counter) : List Counter :=
  counters.filter fun counter => !decide (groupOf counter.column = group)

theorem inGroup_outsideGroup (different : group ≠ other) (counters : List Counter) :
    inGroup group (outsideGroup other counters) = inGroup group counters := by
  rw [inGroup, outsideGroup, List.filter_filter]
  refine List.filter_congr fun counter _ => ?_
  by_cases same : groupOf counter.column = group
  · simp [same, different]
  · simp [same]

theorem unassigned_outsideGroup (file : ControlFile) (files : List ControlFile)
    (counters : List Counter) :
    unassigned files (outsideGroup file.id counters) = unassigned (file :: files) counters := by
  rw [unassigned_eq, unassigned_eq, outsideGroup, List.filter_filter]
  refine List.filter_congr fun counter _ => ?_
  rw [Bool.eq_iff_iff, Bool.and_eq_true, Bool.not_eq_true', decide_eq_true_eq,
    decide_eq_false_iff_not, decide_eq_true_eq, List.forall_mem_cons, and_comm, ne_comm, ne_eq]

/-- Control files with different identifiers divide the counters: with those that are left over,
their counters are all counters, each as often as it was there. -/
theorem perm_assign (distinct : (files.map (·.id)).Nodup) (counters : List Counter) :
    ((assign files counters).flatMap (·.counters) ++ unassigned files counters).Perm counters := by
  rw [assign_eq, List.flatMap_map]
  -- What the first control file takes is taken away; the others divide what is outside its group.
  induction files generalizing counters with
  | nil => simp [unassigned]
  | cons file files ih =>
    rw [List.map_cons, List.nodup_cons] at distinct
    have rest := ih distinct.2 (outsideGroup file.id counters)
    rw [unassigned_outsideGroup] at rest
    have untouched : files.flatMap (fun other => inGroup other.id (outsideGroup file.id counters)) =
        files.flatMap fun other => inGroup other.id counters := by
      refine List.flatMap_congr fun other member => inGroup_outsideGroup ?_ counters
      exact fun same => distinct.1 (List.mem_map.mpr ⟨other, member, same⟩)
    rw [untouched] at rest
    rw [List.flatMap_cons, List.append_assoc]
    exact (rest.append_left _).trans (List.filter_append_perm _ counters)

/-- How counters are divided. A control file gets exactly the counters on the columns of its group,
in their order, in place of any that it had, and is otherwise as before; left over are exactly those
whose group is the identifier of no control file. So every occurrence of a counter comes once to
each control file of its group, and is left over exactly if there is none; and where the identifiers
are different nothing is lost and nothing repeated. -/
theorem assign_by_group (files : List ControlFile) (counters : List Counter) :
    assign files counters = files.map (fun file =>
        { file with
          counters := counters.filter fun counter =>
            decide (groupOf counter.column = file.id) }) ∧
      unassigned files counters = counters.filter (fun counter =>
        decide (∀ file ∈ files, file.id ≠ groupOf counter.column)) ∧
      (∀ counter,
        (∀ file ∈ assign files counters, file.counters.count counter =
          if groupOf counter.column = file.id then counters.count counter else 0) ∧
        (unassigned files counters).count counter =
          if ∃ file ∈ files, file.id = groupOf counter.column then 0
          else counters.count counter) ∧
      ((files.map (·.id)).Nodup →
        ((assign files counters).flatMap (·.counters) ++ unassigned files counters).Perm
          counters) := by
  refine ⟨assign_eq files counters, unassigned_eq files counters, fun counter => ⟨?_, ?_⟩,
    fun distinct => perm_assign distinct counters⟩
  · intro file member
    rw [assign_eq] at member
    obtain ⟨file, -, rfl⟩ := List.mem_map.mp member
    dsimp only
    split
    case isTrue same => exact List.count_filter (by simpa using same)
    case isFalse apart =>
      refine List.count_eq_zero.mpr fun among => apart ?_
      exact of_decide_eq_true (List.mem_filter.mp among).2
  · rw [unassigned_eq]
    split
    case isTrue owned =>
      obtain ⟨file, member, same⟩ := owned
      refine List.count_eq_zero.mpr fun among => ?_
      have free : ∀ file ∈ files, file.id ≠ groupOf counter.column := by
        simpa using (List.mem_filter.mp among).2
      exact free file member same
    case isFalse free =>
      refine List.count_filter ?_
      simpa using free

/-- Three counters at the borders of two groups, one of them with negative columns. -/
theorem assign_by_group_negative :
    ([ofPath "a" 0, ofPath "b" (-1)].map (·.id)).Nodup ∧
      ((assign [ofPath "a" 0, ofPath "b" (-1)]
          [⟨-1, 0, 0, "aie", 0⟩, ⟨3, 0, 0, "aie", 0⟩, ⟨4, 0, 0, "aie", 0⟩]).flatMap
            (·.counters) ++
        unassigned [ofPath "a" 0, ofPath "b" (-1)]
          [⟨-1, 0, 0, "aie", 0⟩, ⟨3, 0, 0, "aie", 0⟩, ⟨4, 0, 0, "aie", 0⟩]).Perm
        [⟨-1, 0, 0, "aie", 0⟩, ⟨3, 0, 0, "aie", 0⟩, ⟨4, 0, 0, "aie", 0⟩] :=
  ⟨by decide, (assign_by_group _ _).2.2.2 (by decide)⟩

end CounterTrace.ControlFile
