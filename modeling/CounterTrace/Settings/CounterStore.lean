import CounterTrace.Json.Document
import CounterTrace.Settings.Integer

/-!
# Counter stores

What a counter file says: for each device, by its number, the slots for performance counters. A slot
holds a configured counter or is unavailable.

## Main definitions

* `ConfiguredCounter` — a counter as it is configured, without its address
* `CounterStore` — the slots of every device
* `CounterStore.slots`, `CounterStore.slot?`, `CounterStore.devices` — reading the store
* `CounterStore.ofText` — the store that a JSON text holds, or its issues
-/

namespace CounterTrace

/-- A configured performance counter: its tile, its number inside the module, and the module's
name as it was given. -/
structure ConfiguredCounter where
  column : Int
  row : Int
  number : Int
  module : String
  deriving DecidableEq

/-- The slots of each device. A device occurs once; `none` is an unavailable slot. -/
structure CounterStore where
  entries : List (Int × List (Option ConfiguredCounter))
  deriving DecidableEq

namespace CounterStore

/-- The store without devices. -/
def empty : CounterStore := ⟨[]⟩

/-- The entries with the slots of a device replaced, or added at the end. -/
def setSlots (device : Int) (slots : List (Option ConfiguredCounter)) :
    List (Int × List (Option ConfiguredCounter)) → List (Int × List (Option ConfiguredCounter))
  | [] => [(device, slots)]
  | entry :: rest =>
    if entry.1 = device then (device, slots) :: rest else entry :: setSlots device slots rest

/-- The store with the slots of a device replaced. -/
def insert (store : CounterStore) (device : Int) (slots : List (Option ConfiguredCounter)) :
    CounterStore :=
  ⟨setSlots device slots store.entries⟩

/-- The slots of a device; an unknown device has none. -/
def slots (store : CounterStore) (device : Int) : List (Option ConfiguredCounter) :=
  (store.entries.lookup device).getD []

/-- The counter in a slot of a device; none for an unavailable slot and for an index that the device
does not have. -/
def slot? (store : CounterStore) (device index : Int) : Option ConfiguredCounter :=
  if 0 ≤ index then (store.slots device)[index.toNat]?.join else none

/-- The numbers of all devices in ascending order. -/
def devices (store : CounterStore) : List Int :=
  (store.entries.map (·.1)).mergeSort fun a b => decide (a ≤ b)

/-- A member that a record must have, checked where it is present. -/
def required {α : Type} (members : List (String × Json.Value)) (name : String)
    (check : Json.Value → Checked α) : Checked α :=
  match Json.member? members name with
  | none => (Checked.fail .missing).within (.member name)
  | some value => (check value).within (.member name)

/-- The check of a JSON value that must be a string. -/
def checkText : Json.Value → Checked String
  | .string text => .ok text
  | _ => Checked.fail .notText

variable [Numeral.SignRule]

/-- The counter that a JSON value holds, or nothing for null. -/
def checkSlot : Json.Value → Checked (Option ConfiguredCounter)
  | .null => .ok none
  | .object members =>
    (Checked.both (required members "column" Settings.checkInteger)
      (Checked.both (required members "row" Settings.checkInteger)
        (Checked.both (required members "counterNumber" Settings.checkInteger)
          (required members "module" checkText)))).map
      fun (column, row, number, module) => some ⟨column, row, number, module⟩
  | _ => Checked.fail .notRecord

/-- The slots that a JSON value holds. -/
def checkSlots : Json.Value → Checked (List (Option ConfiguredCounter))
  | .array items =>
    Checked.all (items.zipIdx.map fun (item, index) => (checkSlot item).within (.item index))
  | _ => Checked.fail .notArray

/-- The number of a device, written as the name of a member. -/
def checkDevice (name : String) : Checked Int :=
  match Settings.integerOfText name.toList with
  | .ok device => .ok device
  | .error problem => (Checked.fail problem).within (.member "[key]")

/-- One member of the store: the device and its slots. -/
def checkEntry (entry : String × Json.Value) :
    Checked (Int × List (Option ConfiguredCounter)) :=
  (Checked.both (checkDevice entry.1) (checkSlots entry.2)).within (.member entry.1)

/-- The store that a JSON value holds, or the issues of its members in the order of the document.
Of two members for one device the later one counts. -/
def ofValue : Json.Value → Checked CounterStore
  | .object members =>
    (Checked.all (members.map checkEntry)).map fun entries =>
      entries.foldl (fun store (device, slots) => store.insert device slots) empty
  | _ => Checked.fail .notMapping

/-- The store that a JSON text holds. -/
def ofText (text : List Char) : Checked CounterStore :=
  match Json.parse? text with
  | none => Checked.fail .notJson
  | some value => ofValue value

end CounterStore

end CounterTrace
