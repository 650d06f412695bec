import CounterTrace.Proofs.Addresses

/-!
# The fields of an address

An address is made of three fields: the column above the column shift, the row between the two
shifts, and the register below the row shift. As long as each of them is small enough for its place
the fields do not touch each other. Then joining the coordinates bit by bit is adding them, adding
the register carries nothing into the row, nothing leaves the word, and each field can be read back.

The registers of the four modules begin at offsets that are far enough apart for 320 counters, and
no more: the register behind the last of them on the interface tile is the first of the core.

## Main definitions

* `Geometry.IsLayout` — shifts that leave room for a register, a row and a column
* `Geometry.HasRoom` — a tile whose coordinates fit into their fields

## Main results

* `Geometry.joined_eq` — coordinates in their fields are joined by adding them
* `ModuleKind.register_inj` — the registers of the modules are distinct
* `Geometry.counterAddress_fields` — the fields of an address read back
-/

namespace CounterTrace

/-! ### Numbers in one number -/

section Packed

variable {high low width total : Nat}

theorem packed_div (fits : low < 2 ^ width) : (high * 2 ^ width + low) / 2 ^ width = high := by
  rw [Nat.mul_comm, Nat.mul_add_div (Nat.two_pow_pos width), Nat.div_eq_of_lt fits, Nat.add_zero]

theorem packed_mod (fits : low < 2 ^ width) : (high * 2 ^ width + low) % 2 ^ width = low := by
  rw [Nat.mul_comm, Nat.mul_add_mod, Nat.mod_eq_of_lt fits]

/-- The highest of three numbers in one number. -/
theorem packed_div_top {middle : Nat} (within : width ≤ total)
    (middleFits : middle < 2 ^ (total - width)) (fits : low < 2 ^ width) :
    ((high * 2 ^ (total - width) + middle) * 2 ^ width + low) / 2 ^ total = high := by
  calc ((high * 2 ^ (total - width) + middle) * 2 ^ width + low) / 2 ^ total
      = ((high * 2 ^ (total - width) + middle) * 2 ^ width + low) / 2 ^ width /
          2 ^ (total - width) := by
        rw [Nat.div_div_eq_div_mul, ← Nat.pow_add, Nat.add_sub_cancel' within]
    _ = high := by rw [packed_div fits, packed_div middleFits]

/-- Two numbers in one number take the width of both. -/
theorem packed_lt (within : width ≤ total) (highFits : high < 2 ^ (total - width))
    (fits : low < 2 ^ width) : high * 2 ^ width + low < 2 ^ total := by
  calc high * 2 ^ width + low
      < (high + 1) * 2 ^ width := by rw [Nat.succ_mul]; exact Nat.add_lt_add_left fits _
    _ ≤ 2 ^ (total - width) * 2 ^ width := Nat.mul_le_mul_right _ highFits
    _ = 2 ^ total := by rw [← Nat.pow_add, Nat.sub_add_cancel within]

end Packed

/-! ### Registers of modules -/

namespace ModuleKind

/-- Up to 320 counters the registers of a module lie below bit twenty. -/
theorem register_lt (kind : ModuleKind) {number : Nat} (few : number < 320) :
    kind.counterOffset + 4 * number < 2 ^ 20 := by
  cases kind <;> simp only [counterOffset] <;> omega

/-- Up to 320 counters no two modules have a register in common. -/
theorem register_inj {kind other : ModuleKind} {number otherNumber : Nat} (few : number < 320)
    (otherFew : otherNumber < 320)
    (same : kind.counterOffset + 4 * number = other.counterOffset + 4 * otherNumber) :
    kind = other ∧ number = otherNumber := by
  cases kind <;> cases other <;> simp only [counterOffset, reduceCtorEq, true_and, false_and]
    at same ⊢ <;> omega

end ModuleKind

namespace Geometry

/-- Shifts that leave room for a register, for a row above it and for a column above the row, none
of them beyond the word. -/
structure IsLayout (geometry : Geometry) : Prop where
  register : 20 ≤ geometry.rowShift
  ordered : geometry.rowShift ≤ geometry.columnShift
  word : geometry.columnShift ≤ 64

/-- A tile whose coordinates fit into their fields: the column above the column shift, and the row
between the shifts. -/
structure HasRoom (geometry : Geometry) (column row : Int) : Prop where
  column_nonneg : 0 ≤ column
  column_lt : column < 2 ^ (64 - geometry.columnShift).toNat
  row_nonneg : 0 ≤ row
  row_lt : row < 2 ^ (geometry.columnShift - geometry.rowShift).toNat

variable {geometry : Geometry} {column row : Int} {coordinate shift : Nat}

/-- A number of the word can be moved up by any number of bits up to the width of the word. -/
theorem fits_of_lt (small : coordinate < 2 ^ 64) (inside : shift ≤ 64) :
    Fits (coordinate : Int) shift := by
  refine ⟨Int.natCast_nonneg shift, ?_⟩
  rw [limbs, Int.toNat_natCast, Int.natAbs_natCast, unaddressableLimbs]
  split
  · decide
  · rename_i proper
    have bits : coordinate.log2 < 64 := (Nat.log2_lt (by exact_mod_cast proper)).mpr small
    have few : shift / limbBits + (coordinate.log2 / limbBits + 1) + 1 ≤ 6 := by
      simp only [limbBits]
      omega
    split
    · exact Nat.lt_of_le_of_lt (Nat.le_of_succ_le few) (by decide)
    · exact Nat.lt_of_le_of_lt few (by decide)

/-- Coordinates in their fields have no bit in common: joining them is adding them. -/
theorem joined_eq {c r columnShift rowShift : Nat} (ordered : rowShift ≤ columnShift)
    (rowFits : r < 2 ^ (columnShift - rowShift)) :
    (Geometry.mk columnShift rowShift).joined c r =
      ((c * 2 ^ (columnShift - rowShift) + r) * 2 ^ rowShift : Nat) := by
  have below : r <<< rowShift < 2 ^ columnShift := by
    rw [Nat.shiftLeft_eq]
    exact packed_lt ordered rowFits (Nat.two_pow_pos rowShift)
  have words : (Geometry.mk columnShift rowShift).joined c r =
      ((c <<< columnShift ||| r <<< rowShift : Nat) : Int) := rfl
  rw [words, ← Nat.shiftLeft_add_eq_or_of_lt below, Nat.shiftLeft_eq, Nat.shiftLeft_eq,
    Nat.add_mul, Nat.mul_assoc, ← Nat.pow_add, Nat.sub_add_cancel ordered]

/-- Fields that fit fill one word. -/
theorem packed_lt_word {c r register columnShift rowShift : Nat} (ordered : rowShift ≤ columnShift)
    (word : columnShift ≤ 64) (columnFits : c < 2 ^ (64 - columnShift))
    (rowFits : r < 2 ^ (columnShift - rowShift)) (registerFits : register < 2 ^ rowShift) :
    (c * 2 ^ (columnShift - rowShift) + r) * 2 ^ rowShift + register < 2 ^ 64 := by
  refine packed_lt (ordered.trans word) (packed_lt (by omega) ?_ rowFits) registerFits
  rwa [Nat.sub_sub_sub_cancel_right ordered]

/-- Where the fields fit, the address is the sum of the joined coordinates and the register, and
nothing of it is lost. -/
theorem toNat_wrappedAddress_of_fits {c r number columnShift rowShift : Nat} {module : String}
    (ordered : rowShift ≤ columnShift) (word : columnShift ≤ 64)
    (columnFits : c < 2 ^ (64 - columnShift)) (rowFits : r < 2 ^ (columnShift - rowShift))
    (registerFits : (ModuleKind.ofName module).counterOffset + 4 * number < 2 ^ rowShift) :
    ((Geometry.mk columnShift rowShift).wrappedAddress c r number module).toNat =
      (c * 2 ^ (columnShift - rowShift) + r) * 2 ^ rowShift +
        ((ModuleKind.ofName module).counterOffset + 4 * number) := by
  have whole := packed_lt_word ordered word columnFits rowFits registerFits
  have sum := toNat_wrappedAddress ⟨columnShift, rowShift⟩ c r number module
  rw [joined_eq ordered rowFits, Int.add_assoc] at sum
  have exact : (((c * 2 ^ (columnShift - rowShift) + r) * 2 ^ rowShift : Nat) : Int) +
      ((ModuleKind.ofName module).counterOffset + 4 * (number : Int)) =
        (((c * 2 ^ (columnShift - rowShift) + r) * 2 ^ rowShift +
          ((ModuleKind.ofName module).counterOffset + 4 * number) : Nat) : Int) := by
    push_cast
    rfl
  rw [← Int.natCast_inj, sum, exact]
  exact Int.emod_eq_of_lt (Int.natCast_nonneg _) (by exact_mod_cast whole)

/-- An address that holds a column, a row and a register in its fields: it is what the coordinates
and the register add up to, without a cut, and each of the three can be read from it. -/
structure HasFields (geometry : Geometry) (column row register : Int) (address : Address) :
    Prop where
  sum : (address.toNat : Int) = geometry.joined column row + register
  column : (address.toNat : Int) / 2 ^ geometry.columnShift.toNat = column
  row : (address.toNat : Int) / 2 ^ geometry.rowShift.toNat %
    2 ^ (geometry.columnShift - geometry.rowShift).toNat = row
  register : (address.toNat : Int) % 2 ^ geometry.rowShift.toNat = register

/-- A counter whose fields fit has an address that holds them. -/
theorem exists_counterAddress_hasFields {number : Int} {module : String}
    (layout : geometry.IsLayout) (room : geometry.HasRoom column row) (nonneg : 0 ≤ number)
    (fits : (ModuleKind.ofName module).counterOffset + 4 * number <
      2 ^ geometry.rowShift.toNat) :
    ∃ address, geometry.counterAddress column row number module = .ok address ∧
      geometry.HasFields column row ((ModuleKind.ofName module).counterOffset + 4 * number)
        address := by
  obtain ⟨columnShift, rowShift⟩ := geometry
  obtain ⟨register, ordered, word⟩ := layout
  obtain ⟨columnNonneg, columnLt, rowNonneg, rowLt⟩ := room
  dsimp only at register ordered word columnLt rowLt fits
  -- None of the numbers is negative, and the bounds are bounds on natural numbers.
  lift rowShift to Nat using by omega
  lift columnShift to Nat using by omega
  lift column to Nat using columnNonneg
  lift row to Nat using rowNonneg
  lift number to Nat using nonneg
  have above : ((64 : Int) - columnShift).toNat = 64 - columnShift := by omega
  have between : ((columnShift : Int) - rowShift).toNat = columnShift - rowShift := by omega
  rw [above] at columnLt
  rw [between] at rowLt
  rw [Int.toNat_natCast] at fits
  norm_cast at ordered word columnLt rowLt fits
  -- The coordinates are far too small to be too wide at their shifts.
  have columnFits := columnLt.trans_le (Nat.pow_le_pow_right Nat.two_pos (Nat.sub_le _ _))
  have rowFits := rowLt.trans_le
    (Nat.pow_le_pow_right Nat.two_pos ((Nat.sub_le _ _).trans word))
  have tile : (Geometry.mk columnShift rowShift).HasTile column row :=
    ⟨fits_of_lt columnFits word, fits_of_lt rowFits (ordered.trans word)⟩
  have fields := toNat_wrappedAddress_of_fits ordered word columnLt rowLt fits
  refine ⟨_, counterAddress_of_hasTile tile, ?_, ?_, ?_, ?_⟩
  · rw [fields, joined_eq ordered rowLt]
    push_cast
    rfl
  · rw [fields]
    exact_mod_cast packed_div_top ordered rowLt fits
  · dsimp only
    rw [fields, between, Int.toNat_natCast]
    norm_cast
    rw [packed_div fits, packed_mod rowLt]
  · rw [fields]
    exact_mod_cast packed_mod fits

/-- A counter among the first 320 of its module on a tile whose coordinates fit. -/
structure Holds (geometry : Geometry) (counter : ConfiguredCounter) : Prop where
  room : geometry.HasRoom counter.column counter.row
  number_nonneg : 0 ≤ counter.number
  number_lt : counter.number < 320

/-- The register of such a counter fits into its field. -/
theorem Holds.register_lt {counter : ConfiguredCounter} (layout : geometry.IsLayout)
    (holds : geometry.Holds counter) :
    (ModuleKind.ofName counter.module).counterOffset + 4 * counter.number <
      2 ^ geometry.rowShift.toNat := by
  obtain ⟨-, nonneg, few⟩ := holds
  lift counter.number to Nat using nonneg with number
  have wide : 20 ≤ geometry.rowShift.toNat := by
    have register := layout.register
    omega
  have below := (ModuleKind.register_lt (ModuleKind.ofName counter.module)
    (by exact_mod_cast few)).trans_le (Nat.pow_le_pow_right Nat.two_pos wide)
  exact_mod_cast below

/-- With shifts that leave room for the fields, the address of a counter does not wrap around, and
the column, the row and the register can be read from it. So the first 320 counters of the modules
on all tiles have addresses of their own: equal addresses belong to one tile, one module and one
number. -/
theorem counterAddress_fields (layout : geometry.IsLayout) :
    (∀ (column row number : Int) (module : String), geometry.HasRoom column row → 0 ≤ number →
      (ModuleKind.ofName module).counterOffset + 4 * number < 2 ^ geometry.rowShift.toNat →
      ∃ address, geometry.counterAddress column row number module = .ok address ∧
        geometry.HasFields column row ((ModuleKind.ofName module).counterOffset + 4 * number)
          address) ∧
    ∀ first second : ConfiguredCounter, geometry.Holds first → geometry.Holds second →
      geometry.counterAddress first.column first.row first.number first.module =
          geometry.counterAddress second.column second.row second.number second.module →
        first.column = second.column ∧ first.row = second.row ∧
          ModuleKind.ofName first.module = ModuleKind.ofName second.module ∧
          first.number = second.number := by
  refine ⟨fun column row number module room nonneg fits =>
    exists_counterAddress_hasFields layout room nonneg fits,
    fun first second firstHolds secondHolds equal => ?_⟩
  obtain ⟨address, known, fields⟩ := exists_counterAddress_hasFields layout firstHolds.room
    firstHolds.number_nonneg (firstHolds.register_lt layout)
  obtain ⟨other, otherKnown, otherFields⟩ := exists_counterAddress_hasFields layout secondHolds.room
    secondHolds.number_nonneg (secondHolds.register_lt layout)
  obtain rfl : address = other := Except.ok.inj (known.symm.trans (equal.trans otherKnown))
  -- The register tells the module and the number.
  have registers := fields.register.symm.trans otherFields.register
  obtain ⟨-, nonneg, few⟩ := firstHolds
  obtain ⟨-, otherNonneg, otherFew⟩ := secondHolds
  have same : (ModuleKind.ofName first.module).counterOffset + 4 * first.number.toNat =
      (ModuleKind.ofName second.module).counterOffset + 4 * second.number.toNat := by
    omega
  obtain ⟨kinds, numbers⟩ := ModuleKind.register_inj (by omega) (by omega) same
  exact ⟨fields.column.symm.trans otherFields.column, fields.row.symm.trans otherFields.row, kinds,
    by omega⟩

example : (Geometry.mk 25 20).counterAddress 1 2 320 "interface_tile" = .ok 0x2231520 ∧
    (Geometry.mk 25 20).counterAddress 1 2 0 "aie" = .ok 0x2231520 := ⟨rfl, rfl⟩

/-- The last register of the last tile fills the word but for its two lowest bits; on one tile the
last but one of 320 counters of the interface tile is apart from the first of the core. -/
theorem counterAddress_last :
    (Geometry.mk 25 20).IsLayout ∧ (Geometry.mk 25 20).HasRoom (2 ^ 39 - 1) 31 ∧
      (Geometry.mk 25 20).counterAddress (2 ^ 39 - 1) 31 113655 "memory_tile" =
        .ok 0xFFFFFFFFFFFFFFFC ∧
      (Geometry.mk 25 20).HasFields (2 ^ 39 - 1) 31 0xFFFFC 0xFFFFFFFFFFFFFFFC ∧
      (Geometry.mk 25 20).Holds ⟨1, 2, 319, "interface_tile"⟩ ∧
      (Geometry.mk 25 20).Holds ⟨1, 2, 0, "aie"⟩ ∧
      (Geometry.mk 25 20).counterAddress 1 2 319 "interface_tile" ≠
        (Geometry.mk 25 20).counterAddress 1 2 0 "aie" := by
  have layout : (Geometry.mk 25 20).IsLayout := ⟨by decide, by decide, by decide⟩
  have room : (Geometry.mk 25 20).HasRoom (2 ^ 39 - 1) 31 :=
    ⟨by decide, by decide, by decide, by decide⟩
  have interface : (Geometry.mk 25 20).Holds ⟨1, 2, 319, "interface_tile"⟩ :=
    ⟨⟨by decide, by decide, by decide, by decide⟩, by decide, by decide⟩
  have core : (Geometry.mk 25 20).Holds ⟨1, 2, 0, "aie"⟩ :=
    ⟨⟨by decide, by decide, by decide, by decide⟩, by decide, by decide⟩
  obtain ⟨fields, apart⟩ := counterAddress_fields layout
  obtain ⟨address, known, read⟩ := fields (2 ^ 39 - 1) 31 113655 "memory_tile" room (by decide)
    (by decide)
  have last : (Geometry.mk 25 20).counterAddress (2 ^ 39 - 1) 31 113655 "memory_tile" =
      .ok 0xFFFFFFFFFFFFFFFC := rfl
  obtain rfl : 0xFFFFFFFFFFFFFFFC = address := Except.ok.inj (last.symm.trans known)
  refine ⟨layout, room, last, read, interface, core, fun same => ?_⟩
  obtain ⟨-, -, kinds, -⟩ := apart _ _ interface core same
  exact absurd kinds (by decide)

end Geometry

end CounterTrace
