import CounterTrace.Device.ModuleKind
import CounterTrace.Failure

/-!
# Register addresses

The address of a counter register is a word of sixty-four bits. The column and the row of the tile
stand at the two shifts of the geometry and are joined bit by bit; the offset of the module and four
bytes for each counter before it are added. All of it wraps around at sixty-four bits.

A coordinate is moved up at its full width before it is cut to the word, so that a shift can be too
large: the number must not have more limbs of thirty bits than a number may have, and it must not
need more memory than can be addressed. A coordinate of zero can be moved up by any number of bits.
The second limit is that of the largest machine. One with less memory runs out of it earlier, at a
point that depends on what else it holds; such failures are not modelled.

## Main definitions

* `Geometry` — the two shifts
* `Geometry.limbs` — the limbs of a coordinate at its shift
* `Geometry.field`, `Geometry.shifted` — a coordinate at its shift, without and with the limits
* `Geometry.tileAddress`, `Geometry.counterAddress` — the addresses of a tile and of a counter
-/

namespace CounterTrace

/-- An address on the device. -/
abbrev Address := BitVec 64

/-- Where the column and the row start in a tile address. -/
structure Geometry where
  columnShift : Int
  rowShift : Int
  deriving DecidableEq

namespace Geometry

/-- The bytes from one counter register to the next. -/
def counterStride : Address := 4

/-- A coordinate moved up by a number of bits. What leaves the word is lost, so that from sixty-four
bits on nothing remains. -/
def field (coordinate : Int) (shift : Nat) : Address :=
  if shift < 64 then BitVec.ofInt 64 coordinate <<< shift else 0

/-- The bits of a limb. -/
def limbBits : Nat := 30

/-- The most limbs of a number. -/
def maxLimbs : Nat := 2305843009213693945

/-- The number of limbs that no machine can address, at four bytes for each. A machine with less
memory fails earlier. -/
def unaddressableLimbs : Nat := Nat.pow 2 45

/-- The limbs taken by a coordinate at its full width after it is moved up. -/
def limbs (coordinate : Int) (shift : Nat) : Nat :=
  if coordinate = 0 then 0
  else
    shift / limbBits + (coordinate.natAbs.log2 / limbBits + 1) +
      (if shift % limbBits = 0 then 0 else 1)

/-- A coordinate moved up by a shift. The shift must not be negative, and not too large for a
coordinate other than zero. -/
def shifted (coordinate shift : Int) : Except Failure Address :=
  if shift < 0 then .error .negativeShift
  else if maxLimbs < limbs coordinate shift.toNat then .error .numberTooWide
  else if unaddressableLimbs ≤ limbs coordinate shift.toNat then .error .outOfMemory
  else .ok (field coordinate shift.toNat)

/-- The base address of a tile. There is none where a coordinate cannot be moved up; the column
comes first. -/
def tileAddress (geometry : Geometry) (column row : Int) : Except Failure Address :=
  match shifted column geometry.columnShift with
  | .error failure => .error failure
  | .ok columnField => (shifted row geometry.rowShift).map (columnField ||| ·)

/-- The address of a counter register of a module on a tile. -/
def counterAddress (geometry : Geometry) (column row number : Int) (module : String) :
    Except Failure Address :=
  (geometry.tileAddress column row).map fun base =>
    base + BitVec.ofNat 64 (ModuleKind.ofName module).counterOffset +
      BitVec.ofInt 64 number * counterStride

example : (Geometry.mk 25 20).counterAddress 1 2 3 "aie" = .ok 0x223152C := rfl
example : (Geometry.mk (2 ^ 70) (2 ^ 70)).tileAddress 0 0 = .ok 0 := rfl
example : (Geometry.mk (2 ^ 70) (-1)).tileAddress 1 0 = .error .numberTooWide := rfl

end Geometry

end CounterTrace
