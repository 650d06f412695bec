import CounterTrace.Proofs.Addresses
import CounterTrace.Proofs.Dumps
import CounterTrace.Proofs.Messages

/-!
# Enumerating the counters of a device

A device is enumerated by asking how many slots it has and then for each of them. What comes out
depends on the configured counters only, and on their order: where the unavailable slots are and how
many there are does not matter, and neither does any other device. Every configured counter yields
one counter, and their number is told once all of them have been found. The first one without an
address ends the enumeration, and then nothing is told, not even about those before it.

A counter has no address where a shift is negative; then no counter of the device has one. It also
has none where a shift is so large that a coordinate other than zero, moved up by it at its full
width, would take more memory than the largest machine can address. Shifts and coordinates are not
limited when they are read, so that this does happen, although little of such a coordinate would be
left in the word. A machine with less memory has no address for some more tiles.

## Main definitions

* `CounterStore.configured` — the configured counters of a device, asked for slot by slot
* `Geometry.Exceeds`, `Geometry.TooWide` — a coordinate that is too large where its shift moves it,
  and a tile with one
* `Counter.addressed` — a configured counter with the address that is computed on words
* `Counter.Enumerates` — what the enumeration of some configured counters comes to

## Main results

* `CounterStore.configured_eq` — asking slot by slot finds what is in the slots
* `Counter.ofSlots_eq_mapM` — the counters of some slots are those of the configured counters
* `Counter.enumerate_configured` — the enumeration of a device
* `Counter.enumerate_tooWide` — a shift that is not negative, and no counters
-/

namespace CounterTrace

/-! ### The configured counters of a device -/

namespace CounterStore

variable {store : CounterStore} {device other : Int} {slots : List (Option ConfiguredCounter)}

/-- The configured counters of a device: each of its slots is asked for by its index. -/
def configured (store : CounterStore) (device : Int) : List ConfiguredCounter :=
  (List.range (store.slots device).length).filterMap fun (index : Nat) => store.slot? device index

/-- Asking for every index of a list finds what is there. -/
theorem filterMap_range (slots : List (Option ConfiguredCounter)) :
    (List.range slots.length).filterMap (fun index => slots[index]?.join) =
      slots.reduceOption := by
  induction slots with
  | nil => rfl
  | cons slot slots ih =>
    rw [List.length_cons, List.range_succ_eq_map, List.filterMap_cons, List.filterMap_map]
    have rest : (List.range slots.length).filterMap
        ((fun index => (slot :: slots)[index]?.join) ∘ Nat.succ) = slots.reduceOption := ih
    cases slot with
    | none => rw [rest, List.reduceOption_cons_of_none]; rfl
    | some counter => rw [rest, List.reduceOption_cons_of_some]; rfl

theorem configured_eq : store.configured device = (store.slots device).reduceOption := by
  have asked : (fun index : Nat => store.slot? device index) =
      fun index => (store.slots device)[index]?.join := by
    funext index
    rw [slot?, if_pos (Int.natCast_nonneg index), Int.toNat_natCast]
  rw [configured, asked, filterMap_range]

theorem lookup_setSlots (entries : List (Int × List (Option ConfiguredCounter))) :
    (setSlots device slots entries).lookup device = some slots := by
  induction entries with
  | nil => rw [setSlots, List.lookup_cons_self]
  | cons entry entries ih =>
    rw [setSlots]
    split
    · rw [List.lookup_cons_self]
    · rename_i different
      rw [List.lookup_cons, beq_false_of_ne (Ne.symm different), ih]

theorem lookup_setSlots_of_ne (different : device ≠ other)
    (entries : List (Int × List (Option ConfiguredCounter))) :
    (setSlots other slots entries).lookup device = entries.lookup device := by
  induction entries with
  | nil => rw [setSlots, List.lookup_cons, beq_false_of_ne different]
  | cons entry entries ih =>
    rw [setSlots]
    split
    · rename_i same
      rw [List.lookup_cons, List.lookup_cons, same, beq_false_of_ne different]
    · rw [List.lookup_cons, List.lookup_cons, ih]

@[simp] theorem slots_insert : (store.insert device slots).slots device = slots := by
  rw [CounterStore.slots, insert, lookup_setSlots]
  rfl

theorem slots_insert_of_ne (different : device ≠ other) :
    (store.insert other slots).slots device = store.slots device := by
  rw [CounterStore.slots, insert, lookup_setSlots_of_ne different, CounterStore.slots]

theorem configured_of_notMem (unknown : device ∉ store.devices) :
    store.configured device = [] := by
  have missing : device ∉ store.entries.map (·.1) := fun member =>
    unknown ((List.mergeSort_perm _ _).mem_iff.mpr member)
  rw [configured_eq, slots_eq_nil missing]
  rfl

end CounterStore

/-! ### Tiles that are too wide -/

namespace Geometry

variable {geometry : Geometry} {coordinate shift column row : Int}

/-- A coordinate that takes, moved up by a shift, more limbs than the largest machine can address. A
coordinate of zero takes none, and with a negative shift nothing is moved up. -/
def Exceeds (coordinate shift : Int) : Prop :=
  0 ≤ shift ∧ unaddressableLimbs ≤ limbs coordinate shift.toNat

instance : Decidable (Exceeds coordinate shift) :=
  inferInstanceAs (Decidable (_ ∧ _))

/-- A tile with a coordinate that is too large where its shift moves it. -/
def TooWide (geometry : Geometry) (column row : Int) : Prop :=
  Exceeds column geometry.columnShift ∨ Exceeds row geometry.rowShift

instance : Decidable (geometry.TooWide column row) :=
  inferInstanceAs (Decidable (_ ∨ _))

theorem fits_iff : Fits coordinate shift ↔ 0 ≤ shift ∧ ¬ Exceeds coordinate shift := by
  constructor
  · rintro ⟨nonneg, addressable⟩
    exact ⟨nonneg, fun exceeds => Nat.not_lt.mpr exceeds.2 addressable⟩
  · rintro ⟨nonneg, narrow⟩
    exact ⟨nonneg, Nat.not_le.mp fun large => narrow ⟨nonneg, large⟩⟩

/-- A tile has no address for a negative shift, or because it is too wide. -/
theorem hasTile_iff : geometry.HasTile column row ↔
    ¬ (geometry.columnShift < 0 ∨ geometry.rowShift < 0) ∧ ¬ geometry.TooWide column row := by
  have both : geometry.HasTile column row ↔
      Fits column geometry.columnShift ∧ Fits row geometry.rowShift :=
    ⟨fun tile => ⟨tile.column, tile.row⟩, fun ⟨column, row⟩ => ⟨column, row⟩⟩
  rw [both, fits_iff, fits_iff, TooWide, not_or, not_or, Int.not_lt, Int.not_lt,
    and_and_and_comm]

theorem shifted_of_neg (negative : shift < 0) :
    shifted coordinate shift = .error .negativeShift := by
  rw [shifted, if_pos negative]

/-- A negative shift is found, unless the column is too wide before the row is looked at. -/
theorem tileAddress_of_neg (negative : geometry.columnShift < 0 ∨ geometry.rowShift < 0)
    (narrow : ¬ geometry.TooWide column row) :
    geometry.tileAddress column row = .error .negativeShift := by
  rw [tileAddress]
  by_cases columnNegative : geometry.columnShift < 0
  · rw [shifted_of_neg columnNegative]
  · have fits : Fits column geometry.columnShift :=
      fits_iff.mpr ⟨Int.not_lt.mp columnNegative, fun exceeds => narrow (Or.inl exceeds)⟩
    rw [shifted_of_fits fits, shifted_of_neg (negative.resolve_left columnNegative)]
    rfl

end Geometry

/-! ### From configured counters to counters -/

namespace Counter

open Generator (retrievedMessage)

variable {geometry : Geometry} {store : CounterStore} {device : Int}
  {counter : ConfiguredCounter} {listed : List ConfiguredCounter}
  {front back slots : List (Option ConfiguredCounter)} {report : Report (List Counter)}

/-- A configured counter with the address of its register, computed on words. -/
def addressed (geometry : Geometry) (counter : ConfiguredCounter) : Counter :=
  ⟨counter.column, counter.row, counter.number, counter.module,
    (geometry.wrappedAddress counter.column counter.row counter.number counter.module).toNat⟩

theorem ofConfigured_of_hasTile (tile : geometry.HasTile counter.column counter.row) :
    ofConfigured geometry counter = .ok (addressed geometry counter) := by
  rw [ofConfigured, Geometry.counterAddress_of_hasTile tile]
  rfl

/-- The counters of some slots are those of the configured counters in them. -/
theorem ofSlots_eq_mapM (slots : List (Option ConfiguredCounter)) :
    ofSlots geometry slots = slots.reduceOption.mapM (ofConfigured geometry) := by
  induction slots with
  | nil => rfl
  | cons slot slots ih =>
    cases slot with
    | none => rw [ofSlots, List.reduceOption_cons_of_none, ih]
    | some counter =>
      rw [ofSlots, List.reduceOption_cons_of_some, List.mapM_cons, ih]
      cases ofConfigured geometry counter with
      | error failure => rfl
      | ok found => cases slots.reduceOption.mapM (ofConfigured geometry) <;> rfl

/-- The counters of slots behind slots are those of the first and then those of the second. -/
theorem ofSlots_append (front back : List (Option ConfiguredCounter)) :
    ofSlots geometry (front ++ back) =
      (ofSlots geometry front).bind fun counters =>
        (ofSlots geometry back).map (counters ++ ·) := by
  rw [ofSlots_eq_mapM, ofSlots_eq_mapM, ofSlots_eq_mapM, List.reduceOption_append,
    List.mapM_append]
  cases front.reduceOption.mapM (ofConfigured geometry) with
  | error failure => rfl
  | ok counters => cases back.reduceOption.mapM (ofConfigured geometry) <;> rfl

/-- What the enumeration of configured counters comes to: a counter for each of them and one message
with their number, or a failure of the first one without an address, and no message. -/
inductive Enumerates (geometry : Geometry) :
    List ConfiguredCounter → Report (List Counter) → Prop
  | complete {listed : List ConfiguredCounter}
      (tiles : ∀ counter ∈ listed, geometry.HasTile counter.column counter.row) :
    Enumerates geometry listed
      ⟨[retrievedMessage (listed.map (addressed geometry))],
        .ok (listed.map (addressed geometry))⟩
  | failed {before after : List ConfiguredCounter} {counter : ConfiguredCounter}
      {failure : Failure}
      (tiles : ∀ counter ∈ before, geometry.HasTile counter.column counter.row)
      (fault : geometry.tileAddress counter.column counter.row = .error failure) :
    Enumerates geometry (before ++ counter :: after) ⟨[], .error failure⟩

theorem ofSlots_slots :
    ofSlots geometry (store.slots device) =
      (store.configured device).mapM (ofConfigured geometry) := by
  rw [ofSlots_eq_mapM, CounterStore.configured_eq]

theorem enumerate_of_ok {counters : List Counter}
    (known : ofSlots geometry (store.slots device) = .ok counters) :
    enumerate geometry store device = ⟨[retrievedMessage counters], .ok counters⟩ := by
  rw [enumerate, known]
  rfl

theorem enumerate_of_error {failure : Failure}
    (known : ofSlots geometry (store.slots device) = .error failure) :
    enumerate geometry store device = ⟨[], .error failure⟩ := by
  rw [enumerate, known]
  rfl

/-- The enumeration depends on the configured counters only. -/
theorem enumerate_congr {other : CounterStore} {otherDevice : Int}
    (same : other.configured otherDevice = store.configured device) :
    enumerate geometry other otherDevice = enumerate geometry store device := by
  rw [enumerate, ofSlots_slots, same, ← ofSlots_slots, enumerate]

/-! ### The enumeration of a device -/

/-- Configured counters have counters up to the first one without an address. -/
theorem mapM_ofConfigured (listed : List ConfiguredCounter) :
    ((∀ counter ∈ listed, geometry.HasTile counter.column counter.row) ∧
        listed.mapM (ofConfigured geometry) = .ok (listed.map (addressed geometry))) ∨
      ∃ before counter after failure, listed = before ++ counter :: after ∧
        (∀ counter ∈ before, geometry.HasTile counter.column counter.row) ∧
        geometry.tileAddress counter.column counter.row = .error failure ∧
        listed.mapM (ofConfigured geometry) = .error failure := by
  -- The first fault of a longer list is that of its rest, unless it is at the first counter.
  induction listed with
  | nil => exact Or.inl ⟨by simp, rfl⟩
  | cons first listed ih =>
    rw [List.mapM_cons]
    cases found : ofConfigured geometry first with
    | error failure =>
      exact Or.inr ⟨[], first, listed, failure, rfl, by simp, ofConfigured_eq_error_iff.mp found,
        rfl⟩
    | ok counter =>
      have tile := exists_ofConfigured_eq_ok_iff.mp ⟨counter, found⟩
      rcases ih with ⟨tiles, rest⟩ | ⟨before, fault, after, failure, rfl, tiles, missing, rest⟩
      · have counted := (found.symm.trans (ofConfigured_of_hasTile tile))
        obtain rfl := Except.ok.inj counted
        refine Or.inl ⟨List.forall_mem_cons.mpr ⟨tile, tiles⟩, ?_⟩
        rw [rest, List.map_cons]
        rfl
      · refine Or.inr ⟨first :: before, fault, after, failure, rfl,
          List.forall_mem_cons.mpr ⟨tile, tiles⟩, missing, ?_⟩
        rw [rest]
        rfl

theorem enumerates (geometry : Geometry) (store : CounterStore) (device : Int) :
    Enumerates geometry (store.configured device) (enumerate geometry store device) := by
  rcases @mapM_ofConfigured geometry (store.configured device) with
    ⟨tiles, known⟩ | ⟨before, counter, after, failure, split, tiles, fault, known⟩
  · rw [enumerate_of_ok (ofSlots_slots.trans known)]
    exact .complete tiles
  · rw [enumerate_of_error (ofSlots_slots.trans known), split]
    exact .failed tiles fault

/-- If every configured counter is on a tile with an address, all of them are found. -/
theorem Enumerates.eq_of_hasTile (enumerates : Enumerates geometry listed report)
    (all : ∀ counter ∈ listed, geometry.HasTile counter.column counter.row) :
    report = ⟨[retrievedMessage (listed.map (addressed geometry))],
      .ok (listed.map (addressed geometry))⟩ := by
  cases enumerates with
  | complete tiles => rfl
  | failed tiles fault =>
    obtain ⟨address, known⟩ := Geometry.exists_tileAddress_eq_ok_iff.mpr
      (all _ (List.mem_append_right _ List.mem_cons_self))
    cases known.symm.trans fault

/-- If no configured counter is too wide, only a negative shift can be wrong, and only if there is a
configured counter. -/
theorem Enumerates.eq_of_regular (enumerates : Enumerates geometry listed report)
    (narrow : ∀ counter ∈ listed, ¬ geometry.TooWide counter.column counter.row)
    (regular : ¬ ((geometry.columnShift < 0 ∨ geometry.rowShift < 0) ∧ listed ≠ [])) :
    report = ⟨[retrievedMessage (listed.map (addressed geometry))],
      .ok (listed.map (addressed geometry))⟩ := by
  refine enumerates.eq_of_hasTile fun counter member => Geometry.hasTile_iff.mpr ⟨?_, ?_⟩
  · exact fun negative => regular ⟨negative, List.ne_nil_of_mem member⟩
  · exact narrow counter member

/-- A negative shift is what is wrong if there is a configured counter and none is too wide. -/
theorem Enumerates.eq_of_neg (enumerates : Enumerates geometry listed report)
    (negative : geometry.columnShift < 0 ∨ geometry.rowShift < 0) (configured : listed ≠ [])
    (narrow : ∀ counter ∈ listed, ¬ geometry.TooWide counter.column counter.row) :
    report = ⟨[], .error .negativeShift⟩ := by
  cases enumerates with
  | complete tiles =>
    obtain ⟨counter, member⟩ := List.exists_mem_of_ne_nil _ configured
    exact absurd negative (Geometry.hasTile_iff.mp (tiles counter member)).1
  | failed tiles fault =>
    have known := Geometry.tileAddress_of_neg negative
      (narrow _ (List.mem_append_right _ List.mem_cons_self))
    obtain rfl := Except.error.inj (known.symm.trans fault)
    rfl

/-- An enumeration fails exactly if a configured counter is on a tile without an address. -/
theorem Enumerates.exists_eq_error_iff (enumerates : Enumerates geometry listed report) :
    (∃ failure, report = ⟨[], .error failure⟩) ↔
      ∃ counter ∈ listed, ¬ geometry.HasTile counter.column counter.row := by
  cases enumerates with
  | complete tiles =>
    constructor
    · rintro ⟨failure, known⟩
      cases known
    · rintro ⟨counter, member, tileless⟩
      exact absurd (tiles counter member) tileless
  | failed tiles fault =>
    refine ⟨fun _ => ⟨_, List.mem_append_right _ List.mem_cons_self, fun tile => ?_⟩,
      fun _ => ⟨_, rfl⟩⟩
    obtain ⟨address, known⟩ := Geometry.exists_tileAddress_eq_ok_iff.mpr tile
    cases known.symm.trans fault

/-- What the enumeration of a device comes to, whatever the shifts are. If no configured counter is
on a tile that is too wide, it fails exactly if a shift is negative and there is a configured
counter, and then it tells nothing; otherwise it finds a counter for each configured one, in order,
and tells their number. In any case it fails only at a tile without an address, and what comes out
depends on the configured counters only. -/
theorem enumerate_configured (geometry : Geometry) (store : CounterStore) (device : Int) :
    Enumerates geometry (store.configured device) (enumerate geometry store device) ∧
      ((∃ failure, enumerate geometry store device = ⟨[], .error failure⟩) ↔
        ∃ counter ∈ store.configured device,
          (geometry.columnShift < 0 ∨ geometry.rowShift < 0) ∨
            geometry.TooWide counter.column counter.row) ∧
      ((∀ counter ∈ store.configured device, ¬ geometry.TooWide counter.column counter.row) →
        (enumerate geometry store device = ⟨[], .error .negativeShift⟩ ↔
            (geometry.columnShift < 0 ∨ geometry.rowShift < 0) ∧ store.configured device ≠ []) ∧
          (¬ ((geometry.columnShift < 0 ∨ geometry.rowShift < 0) ∧
              store.configured device ≠ []) →
            enumerate geometry store device =
              ⟨[retrievedMessage ((store.configured device).map (addressed geometry))],
                .ok ((store.configured device).map (addressed geometry))⟩)) ∧
      (device ∉ store.devices →
        enumerate geometry store device = ⟨[retrievedMessage []], .ok []⟩) ∧
      (∀ (other : CounterStore) (otherDevice : Int),
        other.configured otherDevice = store.configured device →
          enumerate geometry other otherDevice = enumerate geometry store device) ∧
      (∀ front back, enumerate geometry (store.insert device (front ++ none :: back)) device =
        enumerate geometry (store.insert device (front ++ back)) device) ∧
      (∀ other slots, device ≠ other →
        enumerate geometry (store.insert other slots) device = enumerate geometry store device) ∧
      ∀ front back, (enumerate geometry (store.insert device (front ++ back)) device).result =
        (enumerate geometry (store.insert device front) device).result.bind fun counters =>
          (enumerate geometry (store.insert device back) device).result.map (counters ++ ·) := by
  have outcome := enumerates geometry store device
  refine ⟨outcome, ?_, fun narrow => ?_, fun unknown => ?_,
    fun other otherDevice => enumerate_congr, fun front back => enumerate_congr ?_,
    fun other slots different => enumerate_congr ?_, fun front back => ?_⟩
  · rw [outcome.exists_eq_error_iff]
    refine exists_congr fun counter => and_congr_right fun _ => ?_
    rw [Geometry.hasTile_iff, ← not_or, not_not]
  · refine ⟨⟨fun failed => ?_, fun ⟨negative, configured⟩ =>
      outcome.eq_of_neg negative configured narrow⟩, outcome.eq_of_regular narrow⟩
    by_contra regular
    cases (outcome.eq_of_regular narrow regular).symm.trans failed
  · have empty := CounterStore.configured_of_notMem unknown
    rw [empty] at outcome
    exact outcome.eq_of_hasTile (by simp)
  · rw [CounterStore.configured_eq, CounterStore.configured_eq, CounterStore.slots_insert,
      CounterStore.slots_insert, List.reduceOption_append, List.reduceOption_append,
      List.reduceOption_cons_of_none]
  · rw [CounterStore.configured_eq, CounterStore.slots_insert_of_ne different,
      CounterStore.configured_eq]
  · rw [enumerate_result, enumerate_result, enumerate_result, CounterStore.slots_insert,
      CounterStore.slots_insert, CounterStore.slots_insert, ofSlots_append]

/-- Two devices, one of them with gaps between its counters. -/
def gappedStore : CounterStore :=
  ⟨[(3, [none]), (0, [none, some ⟨1, 2, 0, "aie"⟩, none, some ⟨0, 1, 3, "memory_tile"⟩])]⟩

/-- No counter of the device with gaps is too wide; it has two counters, and none with a negative
shift. -/
theorem enumerate_gappedStore :
    (∀ counter ∈ gappedStore.configured 0,
        ¬ (Geometry.mk 25 20).TooWide counter.column counter.row) ∧
      enumerate ⟨25, 20⟩ gappedStore 0 =
        ⟨[⟨.debug, "Retrieved 2 configured AIE counters"⟩],
          .ok [⟨1, 2, 0, "aie", 0x2231520⟩, ⟨0, 1, 3, "memory_tile", 0x19102C⟩]⟩ ∧
      (∀ counter ∈ gappedStore.configured 0,
        ¬ (Geometry.mk 25 (-1)).TooWide counter.column counter.row) ∧
      enumerate ⟨25, -1⟩ gappedStore 0 = ⟨[], .error .negativeShift⟩ ∧
      (1 ∉ gappedStore.devices ∧
        enumerate ⟨25, 20⟩ gappedStore 1 = ⟨[retrievedMessage []], .ok []⟩) := by
  have listed : gappedStore.configured 0 = [⟨1, 2, 0, "aie"⟩, ⟨0, 1, 3, "memory_tile"⟩] := rfl
  have narrow : ∀ counter ∈ gappedStore.configured 0,
      ¬ (Geometry.mk 25 20).TooWide counter.column counter.row := by
    rw [listed]
    decide
  have negativeNarrow : ∀ counter ∈ gappedStore.configured 0,
      ¬ (Geometry.mk 25 (-1)).TooWide counter.column counter.row := by
    rw [listed]
    decide
  have unknown : 1 ∉ gappedStore.devices := by
    rw [CounterStore.devices, (List.mergeSort_perm _ _).mem_iff]
    decide
  obtain ⟨-, -, regular, -⟩ := enumerate_configured ⟨25, 20⟩ gappedStore 0
  obtain ⟨-, -, negative, -⟩ := enumerate_configured ⟨25, -1⟩ gappedStore 0
  obtain ⟨-, -, -, nothing, -⟩ := enumerate_configured ⟨25, 20⟩ gappedStore 1
  refine ⟨narrow, ?_, negativeNarrow, ?_, unknown, nothing unknown⟩
  · rw [(regular narrow).2 (by decide), listed]
    rfl
  · exact (negative negativeNarrow).1.mpr ⟨by decide, by decide⟩

/-- A shift is not negative, and yet a device with one counter has no counters: the column of the
counter, moved up, is too large a number. A negative shift is not what is wrong either where the
column is too large already. -/
theorem enumerate_tooWide :
    0 ≤ (Geometry.mk (2 ^ 70) 20).columnShift ∧ 0 ≤ (Geometry.mk (2 ^ 70) 20).rowShift ∧
      enumerate ⟨2 ^ 70, 20⟩ ⟨[(0, [some ⟨1, 2, 0, "aie"⟩])]⟩ 0 = ⟨[], .error .numberTooWide⟩ ∧
      enumerate ⟨2 ^ 70, -1⟩ ⟨[(0, [some ⟨1, 2, 0, "aie"⟩])]⟩ 0 = ⟨[], .error .numberTooWide⟩ :=
  ⟨by decide, by decide, rfl, rfl⟩

end Counter

end CounterTrace
