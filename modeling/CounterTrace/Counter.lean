import CounterTrace.Device.Geometry
import CounterTrace.Message
import CounterTrace.Settings.CounterStore
import CounterTrace.Settings.Metadata

/-!
# Counters

A counter is a configured counter together with the address of its register. The counters of a
device are enumerated in the order of its slots; unavailable slots are passed over.

## Main definitions

* `Counter` — a counter with its register address
* `Metadata.geometry` — the geometry that the metadata describe
* `Counter.enumerate` — the counters of a device
-/

namespace CounterTrace

/-- A counter with the address of its register. Enumerated counters have an address of sixty-four
bits; a counter given from outside may have any. -/
structure Counter where
  column : Int
  row : Int
  number : Int
  module : String
  address : Int
  deriving DecidableEq

/-- The address layout of a device. -/
def Metadata.geometry (metadata : Metadata) : Geometry :=
  ⟨metadata.columnShift, metadata.rowShift⟩

namespace Counter

/-- The module that owns the counter. -/
def kind (counter : Counter) : ModuleKind := ModuleKind.ofName counter.module

/-- The address as text. -/
def addressText (counter : Counter) : String := Numeral.address counter.address

/-- A configured counter with its register address. -/
def ofConfigured (geometry : Geometry) (configured : ConfiguredCounter) :
    Except Failure Counter :=
  (geometry.counterAddress configured.column configured.row configured.number
    configured.module).map fun address =>
      ⟨configured.column, configured.row, configured.number, configured.module, address.toNat⟩

/-- The counters of some slots in order. The first counter without an address ends it. -/
def ofSlots (geometry : Geometry) : List (Option ConfiguredCounter) → Except Failure (List Counter)
  | [] => .ok []
  | none :: slots => ofSlots geometry slots
  | some configured :: slots =>
    match ofConfigured geometry configured with
    | .error failure => .error failure
    | .ok counter => (ofSlots geometry slots).map (counter :: ·)

/-- The counters of a device in the order of its slots, and how many they are. -/
def enumerate (geometry : Geometry) (store : CounterStore) (device : Int) :
    Report (List Counter) := do
  let counters ← Report.ofExcept (ofSlots geometry (store.slots device))
  Report.tell .debug ("Retrieved " ++ Numeral.text counters.length ++ " configured AIE counters")
  pure counters

end Counter

end CounterTrace
