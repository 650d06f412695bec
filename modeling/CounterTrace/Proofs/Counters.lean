import Mathlib.Data.List.Forall2
import Mathlib.Data.List.ReduceOption
import CounterTrace.Counter
import CounterTrace.Proofs.Settings
import CounterTrace.Script.Render

/-!
# The counters of a device

A tile has an address as long as both of its coordinates can be moved up. The counters of a device
exist all together, one for each configured counter and in the same order, or not at all: one
coordinate that cannot be moved up is enough.

## Main definitions

* `Geometry.Fits` — a coordinate that can be moved up by a shift
* `Geometry.HasTile` — a tile that has an address

## Main results

* `Geometry.exists_tileAddress_eq_ok_iff` — which tiles have an address
* `Counter.ofSlots_eq_ok_iff` — the counters are those of the slots, in order
* `Counter.exists_ofSlots_eq_error_iff` — when there are none
* `Counter.isWritable_of_ofSlots` — the numbers of counters from accepted settings can be written
-/

namespace CounterTrace

namespace Geometry

/-- A coordinate can be moved up by a shift: the shift is not negative, and what comes out takes no
more limbs than the largest machine can address. -/
structure Fits (coordinate shift : Int) : Prop where
  nonneg : 0 ≤ shift
  addressable : limbs coordinate shift.toNat < unaddressableLimbs

/-- A tile has an address: both of its coordinates can be moved up. -/
structure HasTile (geometry : Geometry) (column row : Int) : Prop where
  column : Fits column geometry.columnShift
  row : Fits row geometry.rowShift

variable {geometry : Geometry} {coordinate shift column row number : Int} {module : String}
  {failure : Failure}

theorem shifted_of_fits (fits : Fits coordinate shift) :
    shifted coordinate shift = .ok (field coordinate shift.toNat) := by
  -- What can be addressed is below both limits.
  have smaller : unaddressableLimbs ≤ maxLimbs := by decide
  have addressable := fits.addressable
  rw [shifted, if_neg (Int.not_lt.mpr fits.nonneg), if_neg (by omega), if_neg (by omega)]

/-- A coordinate that does not fit has no place, and the failure tells a negative shift from one
that is too large. -/
theorem shifted_of_not_fits (fails : ¬ Fits coordinate shift) :
    ∃ failure, shifted coordinate shift = .error failure ∧
      (failure = .negativeShift ∧ shift < 0 ∨
        (failure = .numberTooWide ∨ failure = .outOfMemory) ∧ 0 ≤ shift) := by
  rw [shifted]
  split
  · exact ⟨_, rfl, Or.inl ⟨rfl, by assumption⟩⟩
  rename_i notNegative
  have nonneg : 0 ≤ shift := Int.not_lt.mp notNegative
  split
  · exact ⟨_, rfl, Or.inr ⟨Or.inl rfl, nonneg⟩⟩
  split
  · exact ⟨_, rfl, Or.inr ⟨Or.inr rfl, nonneg⟩⟩
  · rename_i addressable
    exact absurd ⟨nonneg, Nat.not_le.mp addressable⟩ fails

/-- Which tiles have an address. -/
theorem exists_tileAddress_eq_ok_iff :
    (∃ address, geometry.tileAddress column row = .ok address) ↔ geometry.HasTile column row := by
  rw [tileAddress]
  by_cases columnFits : Fits column geometry.columnShift
  · rw [shifted_of_fits columnFits]
    dsimp only
    by_cases rowFits : Fits row geometry.rowShift
    · rw [shifted_of_fits rowFits]
      exact ⟨fun _ => ⟨columnFits, rowFits⟩, fun _ => ⟨_, rfl⟩⟩
    · obtain ⟨failure, failed, -⟩ := shifted_of_not_fits rowFits
      rw [failed]
      exact ⟨fun ⟨_, known⟩ => (by cases known), fun tile => absurd tile.row rowFits⟩
  · obtain ⟨failure, failed, -⟩ := shifted_of_not_fits columnFits
    rw [failed]
    exact ⟨fun ⟨_, known⟩ => (by cases known), fun tile => absurd tile.column columnFits⟩

/-- Why a tile has no address. -/
theorem tileAddress_eq_error (failed : geometry.tileAddress column row = .error failure) :
    failure = .negativeShift ∧ (geometry.columnShift < 0 ∨ geometry.rowShift < 0) ∨
      failure = .numberTooWide ∨ failure = .outOfMemory := by
  rw [tileAddress] at failed
  by_cases columnFits : Fits column geometry.columnShift
  · rw [shifted_of_fits columnFits] at failed
    dsimp only at failed
    by_cases rowFits : Fits row geometry.rowShift
    · rw [shifted_of_fits rowFits] at failed
      cases failed
    · obtain ⟨found, known, reason⟩ := shifted_of_not_fits rowFits
      rw [known] at failed
      obtain rfl := Except.error.inj failed
      rcases reason with ⟨rfl, negative⟩ | ⟨large, -⟩
      · exact Or.inl ⟨rfl, Or.inr negative⟩
      · exact Or.inr large
  · obtain ⟨found, known, reason⟩ := shifted_of_not_fits columnFits
    rw [known] at failed
    obtain rfl := Except.error.inj failed
    rcases reason with ⟨rfl, negative⟩ | ⟨large, -⟩
    · exact Or.inl ⟨rfl, Or.inl negative⟩
    · exact Or.inr large

end Geometry

namespace Counter

variable {geometry : Geometry} {configured : ConfiguredCounter} {counter : Counter}
  {slots : List (Option ConfiguredCounter)} {counters : List Counter} {failure : Failure}

/-- A counter with an address is the configured counter, with the address of its register. -/
theorem ofConfigured_eq_ok_iff :
    ofConfigured geometry configured = .ok counter ↔
      ∃ address, geometry.counterAddress configured.column configured.row configured.number
          configured.module = .ok address ∧
        counter = ⟨configured.column, configured.row, configured.number, configured.module,
          address.toNat⟩ := by
  rw [ofConfigured]
  cases geometry.counterAddress configured.column configured.row configured.number
    configured.module <;> simp [Except.map, eq_comm]

theorem exists_ofConfigured_eq_ok_iff :
    (∃ counter, ofConfigured geometry configured = .ok counter) ↔
      geometry.HasTile configured.column configured.row := by
  rw [← Geometry.exists_tileAddress_eq_ok_iff, ofConfigured, Geometry.counterAddress]
  cases geometry.tileAddress configured.column configured.row <;> simp [Except.map]

theorem ofConfigured_eq_error_iff :
    ofConfigured geometry configured = .error failure ↔
      geometry.tileAddress configured.column configured.row = .error failure := by
  rw [ofConfigured, Geometry.counterAddress]
  cases geometry.tileAddress configured.column configured.row <;> simp [Except.map]

/-- The counters of some slots are those of the configured counters in them, in order. -/
theorem ofSlots_eq_ok_iff :
    ofSlots geometry slots = .ok counters ↔
      List.Forall₂ (fun configured counter => ofConfigured geometry configured = .ok counter)
        slots.reduceOption counters := by
  -- An empty slot is passed over; the first counter without an address ends the enumeration.
  induction slots generalizing counters with
  | nil => cases counters <;> simp [ofSlots]
  | cons slot slots ih =>
    cases slot with
    | none =>
      rw [ofSlots, List.reduceOption_cons_of_none]
      exact ih
    | some configured =>
      rw [ofSlots, List.reduceOption_cons_of_some]
      cases first : ofConfigured geometry configured with
      | error failure => cases counters <;> simp [first]
      | ok counter =>
        cases rest : ofSlots geometry slots with
        | error failure => cases counters <;> simp [Except.map, ← ih, rest]
        | ok more =>
          cases counters with
          | nil => simp [Except.map]
          | cons head counters => simp [Except.map, ← ih, rest, first]

/-- The counters of some slots fail where one of them does. -/
theorem ofSlots_eq_error (failed : ofSlots geometry slots = .error failure) :
    ∃ configured, some configured ∈ slots ∧ ofConfigured geometry configured = .error failure := by
  induction slots with
  | nil => cases failed
  | cons slot slots ih =>
    cases slot with
    | none =>
      obtain ⟨configured, member, known⟩ := ih failed
      exact ⟨configured, by simp [member], known⟩
    | some configured =>
      rw [ofSlots] at failed
      cases first : ofConfigured geometry configured with
      | error found =>
        rw [first] at failed
        obtain rfl := Except.error.inj failed
        exact ⟨configured, by simp, first⟩
      | ok counter =>
        rw [first] at failed
        cases rest : ofSlots geometry slots with
        | error found =>
          rw [rest] at failed
          obtain rfl := Except.error.inj failed
          obtain ⟨other, member, known⟩ := ih rest
          exact ⟨other, by simp [member], known⟩
        | ok more =>
          rw [rest] at failed
          cases failed

/-- Every counter is that of a configured counter in the slots. -/
theorem exists_configured_of_mem (known : ofSlots geometry slots = .ok counters)
    (member : counter ∈ counters) :
    ∃ configured, some configured ∈ slots ∧ ofConfigured geometry configured = .ok counter := by
  have all := ofSlots_eq_ok_iff.mp known
  obtain ⟨index, bound, rfl⟩ := List.getElem_of_mem member
  have inside : index < slots.reduceOption.length := all.length_eq ▸ bound
  exact ⟨_, List.reduceOption_mem_iff.mp (List.getElem_mem inside), all.get inside bound⟩

/-- Every configured counter in the slots has its counter. -/
theorem exists_counter_of_mem (known : ofSlots geometry slots = .ok counters)
    (member : some configured ∈ slots) :
    ∃ counter ∈ counters, ofConfigured geometry configured = .ok counter := by
  have all := ofSlots_eq_ok_iff.mp known
  obtain ⟨index, inside, rfl⟩ := List.getElem_of_mem (List.reduceOption_mem_iff.mpr member)
  have bound : index < counters.length := all.length_eq ▸ inside
  exact ⟨_, List.getElem_mem bound, all.get inside bound⟩

/-- The counters of some slots fail exactly if one of them is on a tile without an address. -/
theorem exists_ofSlots_eq_error_iff :
    (∃ failure, ofSlots geometry slots = .error failure) ↔
      ∃ configured, some configured ∈ slots ∧
        ¬ geometry.HasTile configured.column configured.row := by
  constructor
  · rintro ⟨failure, failed⟩
    obtain ⟨configured, member, known⟩ := ofSlots_eq_error failed
    refine ⟨configured, member, fun tile => ?_⟩
    obtain ⟨counter, other⟩ := exists_ofConfigured_eq_ok_iff.mpr tile
    cases known.symm.trans other
  · rintro ⟨configured, member, tileless⟩
    cases known : ofSlots geometry slots with
    | error failure => exact ⟨failure, rfl⟩
    | ok counters =>
      obtain ⟨counter, -, addressed⟩ := exists_counter_of_mem known member
      exact absurd (exists_ofConfigured_eq_ok_iff.mp ⟨counter, addressed⟩) tileless

/-- The numbers of counters from accepted settings can be written. -/
theorem isWritable_of_ofSlots [Numeral.SignRule] (within : CounterStore.SlotsWithin slots)
    (known : ofSlots geometry slots = .ok counters) :
    ∀ number ∈ counters.flatMap Script.entryNumbers, Numeral.isWritable number := by
  intro number member
  obtain ⟨counter, among, member⟩ := List.mem_flatMap.mp member
  obtain ⟨configured, listed, addressed⟩ := exists_configured_of_mem known among
  obtain ⟨address, -, rfl⟩ := ofConfigured_eq_ok_iff.mp addressed
  have limits := within configured listed
  simp only [Script.entryNumbers, List.mem_cons, List.not_mem_nil, or_false] at member
  rcases member with rfl | rfl | rfl
  · exact Numeral.isWritable_of_isReadable limits.column
  · exact Numeral.isWritable_of_isReadable limits.row
  · exact Numeral.isWritable_of_isReadable limits.number

/-- The result of an enumeration. -/
theorem enumerate_result (geometry : Geometry) (store : CounterStore) (device : Int) :
    (enumerate geometry store device).result = ofSlots geometry (store.slots device) := by
  rw [enumerate, Report.ofExcept]
  cases ofSlots geometry (store.slots device) <;> rfl

end Counter

end CounterTrace
