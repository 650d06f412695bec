import Mathlib.Data.Int.Bitwise
import CounterTrace.Proofs.Counters

/-!
# Addresses as unbounded integers

An address can be computed on integers of any width, which are cut to the word where the coordinates
have been joined and once more at the end; or on words throughout, where everything that leaves the
word is lost at once. Both give the same, and so does a single cut at the end: taking an integer
modulo the size of the word keeps sums and products, and bit by bit it keeps what is moved up and
what is joined. This holds for negative coordinates, whose bits above any position are ones, and for
shifts beyond the width of the word.

## Main definitions

* `Geometry.joined` — the two coordinates joined without a limit on their width
* `Geometry.maskedAddress` — the address on unbounded integers, cut twice
* `Geometry.wrappedAddress` — the address on words

## Main results

* `Geometry.ofInt_lor`, `Geometry.ofInt_shiftLeft` — joining and moving up, cut to a word
* `Geometry.land_mask` — cutting with a mask is taking the remainder
* `Geometry.counterAddress_eq_wrapped` — all ways to compute an address agree
-/

namespace CounterTrace.Geometry

variable {width index shift : Nat} {a b : Int}

/-! ### Integers cut to a word -/

/-- The bits of an integer that is cut to a word are its lowest bits. -/
theorem getLsbD_ofInt (a : Int) :
    (BitVec.ofInt width a).getLsbD index = (decide (index < width) && a.testBit index) := by
  cases a with
  | ofNat n =>
    rw [Int.ofNat_eq_natCast, BitVec.ofInt_natCast, BitVec.getLsbD_ofNat]
    rfl
  -- A negative integer has the bits of its predecessor's opposite, turned over.
  | negSucc n =>
    rw [BitVec.ofInt_negSucc_eq_not_ofNat, BitVec.getLsbD_not, BitVec.getLsbD_ofNat]
    by_cases inside : index < width
    · simp [inside, Int.testBit]
    · simp [inside]

/-- Integers joined bit by bit and then cut are the cut integers joined. -/
theorem ofInt_lor (a b : Int) :
    BitVec.ofInt width (a.lor b) = BitVec.ofInt width a ||| BitVec.ofInt width b := by
  apply BitVec.eq_of_getLsbD_eq
  intro index inside
  rw [BitVec.getLsbD_or, getLsbD_ofInt, getLsbD_ofInt, getLsbD_ofInt, Int.testBit_lor,
    Bool.and_or_distrib_left]

/-- An integer moved up and then cut is the cut integer moved up, however far. -/
theorem ofInt_shiftLeft (a : Int) (shift : Nat) :
    BitVec.ofInt width (a <<< shift) = BitVec.ofInt width a <<< shift := by
  have power : BitVec.ofInt width ((2 : Int) ^ shift) = BitVec.twoPow width shift := by
    apply BitVec.eq_of_toNat_eq
    rw [BitVec.toNat_ofInt, BitVec.toNat_twoPow]
    norm_cast
  rw [Int.shiftLeft_eq, BitVec.ofInt_mul, power, BitVec.shiftLeft_eq_mul_twoPow]

/-- A cut integer, read as a number, is the remainder by the size of the word. -/
theorem toNat_ofInt (a : Int) : ((BitVec.ofInt width a).toNat : Int) = a % 2 ^ width := by
  have size : ((2 ^ width : Nat) : Int) = 2 ^ width := by norm_cast
  have positive : (0 : Int) < 2 ^ width := Int.pow_pos (by decide)
  rw [BitVec.toNat_ofInt, size, Int.toNat_of_nonneg (Int.emod_nonneg _ (Int.ne_of_gt positive))]

/-- Cutting with a mask of ones is taking the remainder. -/
theorem land_mask (a : Int) : a.land (2 ^ width - 1) = a % 2 ^ width := by
  have positive : 0 < 2 ^ width := Nat.two_pow_pos width
  have mask : (2 ^ width - 1 : Int) = ((2 ^ width - 1 : Nat) : Int) := by
    push_cast [Nat.one_le_two_pow]
    rfl
  rw [mask]
  cases a with
  | ofNat n =>
    have cut : n &&& (2 ^ width - 1) = n % 2 ^ width := Nat.and_two_pow_sub_one_eq_mod n width
    calc (Int.ofNat n).land ((2 ^ width - 1 : Nat) : Int)
        = ((n &&& (2 ^ width - 1) : Nat) : Int) := rfl
      _ = Int.ofNat n % 2 ^ width := by
        rw [cut]
        norm_cast
  -- The bits of a negative integer that are kept are those that its word has.
  | negSucc n =>
    have kept : Nat.ldiff (2 ^ width - 1) n = (~~~ BitVec.ofNat width n).toNat := by
      apply Nat.eq_of_testBit_eq
      intro index
      rw [Nat.testBit_ldiff, Nat.testBit_two_pow_sub_one, BitVec.testBit_toNat, BitVec.getLsbD_not,
        BitVec.getLsbD_ofNat]
      by_cases inside : index < width
      · simp [inside]
      · simp [inside]
    calc (Int.negSucc n).land ((2 ^ width - 1 : Nat) : Int)
        = ((Nat.ldiff (2 ^ width - 1) n : Nat) : Int) := rfl
      _ = ((BitVec.ofInt width (Int.negSucc n)).toNat : Int) := by
        rw [kept, BitVec.ofInt_negSucc_eq_not_ofNat]
      _ = Int.negSucc n % 2 ^ width := toNat_ofInt _

/-! ### Three ways to an address -/

/-- The mask of an address, sixty-four ones. -/
def addressMask : Int := 0xFFFF_FFFF_FFFF_FFFF

/-- The two coordinates at their shifts, joined bit by bit without a limit on their width. -/
def joined (geometry : Geometry) (column row : Int) : Int :=
  (column <<< geometry.columnShift.toNat).lor (row <<< geometry.rowShift.toNat)

/-- The address computed on unbounded integers. It is cut to sixty-four bits where the coordinates
are joined, and once more at the end. -/
def maskedAddress (geometry : Geometry) (column row number : Int) (module : String) : Int :=
  ((geometry.joined column row).land addressMask + (ModuleKind.ofName module).counterOffset +
    number * 4).land addressMask

/-- The address computed on words: everything is cut to sixty-four bits first, and every step loses
what leaves the word. -/
def wrappedAddress (geometry : Geometry) (column row number : Int) (module : String) : Address :=
  (BitVec.ofInt 64 column <<< geometry.columnShift.toNat |||
      BitVec.ofInt 64 row <<< geometry.rowShift.toNat) +
    BitVec.ofNat 64 (ModuleKind.ofName module).counterOffset + 4 * BitVec.ofInt 64 number

variable {geometry : Geometry} {column row number : Int} {module : String}

theorem land_addressMask (a : Int) : a.land addressMask = a % 2 ^ 64 := by
  have ones : addressMask = 2 ^ 64 - 1 := by decide
  rw [ones, land_mask]

/-- A coordinate at its shift is the cut coordinate moved up, also from sixty-four bits on. -/
theorem field_eq (coordinate : Int) (shift : Nat) :
    field coordinate shift = BitVec.ofInt 64 coordinate <<< shift := by
  rw [field]
  split
  · rfl
  · rename_i beyond
    exact (BitVec.shiftLeft_eq_zero (Nat.not_lt.mp beyond)).symm

/-- Where a tile has an address, the counter has the one that is computed on words. -/
theorem counterAddress_of_hasTile (tile : geometry.HasTile column row) :
    geometry.counterAddress column row number module =
      .ok (geometry.wrappedAddress column row number module) := by
  have base : geometry.tileAddress column row =
      .ok (BitVec.ofInt 64 column <<< geometry.columnShift.toNat |||
        BitVec.ofInt 64 row <<< geometry.rowShift.toNat) := by
    rw [tileAddress, shifted_of_fits tile.column, shifted_of_fits tile.row, field_eq, field_eq]
    rfl
  rw [counterAddress, base, wrappedAddress, counterStride, BitVec.mul_comm (4 : Address)]
  rfl

/-- The address on words, read as a number, is the remainder of the sum on unbounded integers. -/
theorem toNat_wrappedAddress (geometry : Geometry) (column row number : Int) (module : String) :
    ((geometry.wrappedAddress column row number module).toNat : Int) =
      (geometry.joined column row + (ModuleKind.ofName module).counterOffset + 4 * number) %
        2 ^ 64 := by
  rw [← toNat_ofInt, BitVec.ofInt_add, BitVec.ofInt_add, BitVec.ofInt_mul, joined, ofInt_lor,
    ofInt_shiftLeft, ofInt_shiftLeft, BitVec.ofInt_natCast, wrappedAddress]
  rfl

/-- The cut of the joined coordinates loses nothing that the cut at the end would keep. -/
theorem maskedAddress_eq (geometry : Geometry) (column row number : Int) (module : String) :
    geometry.maskedAddress column row number module =
      (geometry.joined column row + (ModuleKind.ofName module).counterOffset + 4 * number) %
        2 ^ 64 := by
  rw [maskedAddress, land_addressMask, land_addressMask, Int.mul_comm number 4, Int.add_assoc,
    Int.emod_add_emod, ← Int.add_assoc]

/-- A tile without an address has none because of a negative shift or for want of memory, and then
no counter on it has one. -/
theorem counterAddress_of_not_hasTile (columnShift : 0 ≤ geometry.columnShift)
    (rowShift : 0 ≤ geometry.rowShift) (tileless : ¬ geometry.HasTile column row) :
    geometry.counterAddress column row number module = .error .numberTooWide ∨
      geometry.counterAddress column row number module = .error .outOfMemory := by
  rw [counterAddress]
  cases base : geometry.tileAddress column row with
  | ok address => exact absurd (exists_tileAddress_eq_ok_iff.mp ⟨address, base⟩) tileless
  | error failure =>
    rcases tileAddress_eq_error base with ⟨-, negative | negative⟩ | rfl | rfl
    · exact absurd negative (Int.not_lt.mpr columnShift)
    · exact absurd negative (Int.not_lt.mpr rowShift)
    · exact Or.inl rfl
    · exact Or.inr rfl

/-- With shifts that are not negative, the address of a counter register is the one computed on
words; only a coordinate that takes more memory at its shift than there is has none. For integers
and shifts of any size, the address on words, read as a number, is the one on unbounded integers
with its two cuts; that is the sum with one cut at the end, and it has sixty-four bits. -/
theorem counterAddress_eq_wrapped (geometry : Geometry) (column row number : Int)
    (module : String) (columnShift : 0 ≤ geometry.columnShift) (rowShift : 0 ≤ geometry.rowShift) :
    (geometry.HasTile column row → geometry.counterAddress column row number module =
        .ok (geometry.wrappedAddress column row number module)) ∧
      (¬ geometry.HasTile column row →
        geometry.counterAddress column row number module = .error .numberTooWide ∨
          geometry.counterAddress column row number module = .error .outOfMemory) ∧
      ((geometry.wrappedAddress column row number module).toNat : Int) =
        geometry.maskedAddress column row number module ∧
      geometry.maskedAddress column row number module =
        (geometry.joined column row + (ModuleKind.ofName module).counterOffset + 4 * number) %
          2 ^ 64 ∧
      0 ≤ geometry.maskedAddress column row number module ∧
      geometry.maskedAddress column row number module < 2 ^ 64 := by
  have masked := maskedAddress_eq geometry column row number module
  refine ⟨counterAddress_of_hasTile, counterAddress_of_not_hasTile columnShift rowShift, ?_,
    masked, ?_, ?_⟩
  · rw [toNat_wrappedAddress, masked]
  · rw [masked]
    exact Int.emod_nonneg _ (by decide)
  · rw [masked]
    exact Int.emod_lt_of_pos _ (by decide)

/-- A negative column at the upper end of the word, a row that is moved out of it, and a negative
counter number: the address wraps around to one just below the sign bit. -/
theorem counterAddress_wrapsAround :
    (0 ≤ (Geometry.mk 63 64).columnShift) ∧ (0 ≤ (Geometry.mk 63 64).rowShift) ∧
      (Geometry.mk 63 64).counterAddress (-1) 5 (-0x20000) "aie" = .ok 0x7FFFFFFFFFFB1520 ∧
      (Geometry.mk 63 64).maskedAddress (-1) 5 (-0x20000) "aie" = 0x7FFFFFFFFFFB1520 := by
  have columnShift : 0 ≤ (Geometry.mk 63 64).columnShift := by decide
  have rowShift : 0 ≤ (Geometry.mk 63 64).rowShift := by decide
  have tile : (Geometry.mk 63 64).HasTile (-1) 5 :=
    ⟨⟨columnShift, by decide⟩, ⟨rowShift, by decide⟩⟩
  have word : (Geometry.mk 63 64).wrappedAddress (-1) 5 (-0x20000) "aie" =
      0x7FFFFFFFFFFB1520 := by decide
  obtain ⟨computed, -, same, -⟩ :=
    counterAddress_eq_wrapped ⟨63, 64⟩ (-1) 5 (-0x20000) "aie" columnShift rowShift
  rw [word] at computed same
  exact ⟨columnShift, rowShift, computed tile, same.symm⟩

end CounterTrace.Geometry
