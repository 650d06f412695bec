import CounterTrace.Proofs.Numerals
import CounterTrace.Settings.Load

/-!
# Numbers in accepted settings

Every integer of an accepted settings file could stand in such a file again: a literal and a string
have no more digits than a numeral may have, one less behind a sign that counts, and what is read by
way of double precision fits into sixty-four bits. So it can be written, too. The reader of
documents keeps this for all values that it has read, from token to token.

## Main definitions

* `Json.Value.Within` — a value in which every integer can be read
* `Json.Reader.Within` — the same for what a reader has read
* `CounterStore.Within` — a store in which every number can be read

## Main results

* `Json.within_of_parse?` — a document that is read is within the limits
* `Settings.isReadable_of_integerOfValue` — so is the integer that a value stands for
* `CounterStore.within_of_ofText` — and every number of an accepted store
-/

namespace CounterTrace

namespace Numeral

variable [SignRule]

/-- A natural number below the limit can be read, and with a sign its negation can. -/
theorem isReadable_of_lt {n : Nat} {negative : Bool} (below : n < 10 ^ maxDigitsBehind negative) :
    isReadable (if negative then -(n : Int) else n) := by
  rw [isReadable_iff]
  cases negative with
  | true =>
    -- The negation of zero is zero, which has no sign.
    by_cases proper : 0 < n
    · simpa [proper] using below
    · have wider := Nat.pow_le_pow_right (n := 10) (by omega) (maxDigitsBehind_le true)
      simpa [proper] using Nat.lt_of_lt_of_le below wider
  | false =>
    have above : ¬ (n : Int) < 0 := by omega
    simpa [above] using below

/-- A run of digits that is not too long stands for a number that can be read. -/
theorem isReadable_value {digits : List Char} {negative : Bool}
    (decimal : ∀ c ∈ digits, c.isDigit) (short : digits.length ≤ maxDigitsBehind negative) :
    isReadable (if negative then -(value digits : Int) else value digits) :=
  isReadable_of_lt
    (Nat.lt_of_lt_of_le (value_lt decimal) (Nat.pow_le_pow_right (by omega) short))

/-- What fits into sixty-four bits with a sign takes fewer digits than a numeral may have. -/
theorem isReadable_of_lt_two_pow {n : Nat} (small : n < 2 ^ 63) (negative : Bool) :
    isReadable (if negative then -(n : Int) else n) := by
  have shortest : 63 ≤ maxDigits - 1 := by decide
  have room : 2 ^ 63 ≤ 10 ^ maxDigitsBehind negative :=
    (Nat.pow_le_pow_left (by omega) 63).trans
      (Nat.pow_le_pow_right (by omega) (shortest.trans (maxDigitsBehind_bounds negative).1))
  exact isReadable_of_lt (Nat.lt_of_lt_of_le small room)

end Numeral

/-! ### Documents -/

namespace Json

variable [Numeral.SignRule]

/-- A value in which every integer can be read. -/
inductive Value.Within : Value → Prop
  | null : Within .null
  | bool (b : Bool) : Within (.bool b)
  | integer {n : Int} (readable : Numeral.isReadable n) : Within (.integer n)
  | fractional (x : Fractional) : Within (.fractional x)
  | string (text : String) : Within (.string text)
  | array {items : List Value} (below : ∀ item ∈ items, Within item) : Within (.array items)
  | object {members : List (String × Value)} (below : ∀ member ∈ members, Within member.2) :
    Within (.object members)

/-- What an open container holds is within the limits. -/
def Frame.Within : Frame → Prop
  | .item items => ∀ item ∈ items, item.Within
  | .member members _ => ∀ member ∈ members, member.2.Within

/-- What a reader has read is within the limits. -/
def Reader.Within : Reader → Prop
  | .item frames => ∀ frame ∈ frames, frame.Within
  | .firstItem frames => ∀ frame ∈ frames, frame.Within
  | .afterItem items frames => (∀ item ∈ items, item.Within) ∧ ∀ frame ∈ frames, frame.Within
  | .firstName frames => ∀ frame ∈ frames, frame.Within
  | .nextName members frames =>
    (∀ member ∈ members, member.2.Within) ∧ ∀ frame ∈ frames, frame.Within
  | .colon members _ frames =>
    (∀ member ∈ members, member.2.Within) ∧ ∀ frame ∈ frames, frame.Within
  | .afterMember members frames =>
    (∀ member ∈ members, member.2.Within) ∧ ∀ frame ∈ frames, frame.Within
  | .complete result => result.Within

variable {value : Value} {frames : List Frame} {reader next : Reader} {token : Token}
  {text : List Char}

/-- A word that is a number is within the limits. -/
theorem within_of_number? (known : number? text = some value) : value.Within := by
  -- Only a word without a fraction and without an exponent becomes an integer, and that one has
  -- passed the test of its length.
  rw [number?] at known
  dsimp only at known
  split at known
  · cases known
  split at known
  · cases known
  rename_i notLong
  split at known
  · cases known
  rename_i fraction rest _
  split at known
  · split at known
    · rename_i noFraction
      obtain rfl := Option.some_inj.mp known
      obtain rfl : fraction = [] := by simpa using noFraction
      rw [List.append_nil]
      exact .integer (Numeral.isReadable_value (fun c member => List.mem_takeWhile_imp member)
        (Nat.not_lt.mp notLong))
    · obtain rfl := Option.some_inj.mp known
      exact .fractional _
  · split at known
    · obtain ⟨exponent, -, rfl⟩ := Option.map_eq_some_iff.mp known
      exact .fractional _
    · cases known

theorem within_of_ofWord? (known : Value.ofWord? text = some value) : value.Within := by
  -- The fixed words are tested one after another; what is none of them is read as a number.
  unfold Value.ofWord? at known
  repeat'
    split at known
    · obtain rfl := Option.some_inj.mp known
      constructor
  exact within_of_number? known

namespace Reader

/-- A value that is read is put where it belongs. -/
theorem within_put (valueWithin : value.Within) (framesWithin : ∀ frame ∈ frames, frame.Within) :
    (put value frames).Within := by
  cases frames with
  | nil => exact valueWithin
  | cons frame frames =>
    obtain ⟨frameWithin, rest⟩ := List.forall_mem_cons.mp framesWithin
    cases frame with
    | item items => exact ⟨List.forall_mem_cons.mpr ⟨valueWithin, frameWithin⟩, rest⟩
    | member members name => exact ⟨List.forall_mem_cons.mpr ⟨valueWithin, frameWithin⟩, rest⟩

theorem within_start (framesWithin : ∀ frame ∈ frames, frame.Within)
    (known : start frames token = some next) : next.Within := by
  cases token with
  | openBracket =>
    obtain rfl := Option.some_inj.mp known
    exact framesWithin
  | openBrace =>
    obtain rfl := Option.some_inj.mp known
    exact framesWithin
  | string text =>
    obtain rfl := Option.some_inj.mp known
    exact within_put (.string text) framesWithin
  | word text =>
    obtain ⟨value, word, rfl⟩ := Option.map_eq_some_iff.mp known
    exact within_put (within_of_ofWord? word) framesWithin
  | closeBrace => cases known
  | closeBracket => cases known
  | comma => cases known
  | colon => cases known

/-- One token keeps what has been read within the limits. -/
theorem within_step (within : reader.Within) (known : step reader token = some next) :
    next.Within := by
  -- One case for each state of the reader, and within it for each token that the state takes.
  unfold step at known
  split at known
  · exact within_start within known
  · obtain rfl := Option.some_inj.mp known
    exact within_put (.array (by simp)) within
  · split at known
    · exact within_start (List.forall_mem_cons.mpr ⟨by simp [Frame.Within], within⟩) known
    · cases known
  · obtain rfl := Option.some_inj.mp known
    exact List.forall_mem_cons.mpr within
  · obtain rfl := Option.some_inj.mp known
    exact within_put (.array (by simpa using within.1)) within.2
  · obtain rfl := Option.some_inj.mp known
    exact within_put (.object (by simp)) within
  · split at known
    · obtain rfl := Option.some_inj.mp known
      exact ⟨by simp, within⟩
    · cases known
  · obtain rfl := Option.some_inj.mp known
    exact within
  · obtain rfl := Option.some_inj.mp known
    exact List.forall_mem_cons.mpr within
  · obtain rfl := Option.some_inj.mp known
    exact within
  · obtain rfl := Option.some_inj.mp known
    exact within_put (.object (by simpa using within.1)) within.2
  · cases known

/-- All tokens of a document keep it so. -/
theorem within_foldlM {tokens : List Token} (within : reader.Within)
    (known : tokens.foldlM step reader = some next) : next.Within := by
  induction tokens generalizing reader with
  | nil =>
    obtain rfl := Option.some_inj.mp known
    exact within
  | cons token tokens ih =>
    rw [List.foldlM_cons] at known
    obtain ⟨middle, first, rest⟩ := Option.bind_eq_some_iff.mp known
    exact ih (within_step within first) rest

end Reader

/-- In a document that is read every integer can be written. -/
theorem within_of_parse? (known : parse? text = some value) : value.Within := by
  obtain ⟨tokens, -, known⟩ := Option.bind_eq_some_iff.mp known
  obtain ⟨reader, read, finished⟩ := Option.bind_eq_some_iff.mp known
  have within : reader.Within := Reader.within_foldlM (by simp [Reader.Within]) read
  cases reader with
  | complete result =>
    obtain rfl := Option.some_inj.mp finished
    exact within
  | _ => cases finished

end Json

/-! ### Integers -/

namespace Settings

variable [Numeral.SignRule] {text : List Char} {n : Int}

theorem isReadable_of_plainInteger (known : plainInteger text = .ok n) : Numeral.isReadable n := by
  rw [plainInteger] at known
  dsimp only at known
  split at known
  · cases known
  split at known
  · cases known
  rename_i notLong
  split at known
  · obtain rfl := Except.ok.inj known
    exact Numeral.isReadable_value (fun c member => List.mem_takeWhile_imp member)
      (Nat.not_lt.mp notLong)
  · cases known

theorem isReadable_of_integerOfText (known : integerOfText text = .ok n) :
    Numeral.isReadable n := by
  rw [integerOfText] at known
  split at known
  · rename_i plain
    obtain rfl := Except.ok.inj known
    exact isReadable_of_plainInteger plain
  · cases known
  · split at known
    · rename_i simplified
      obtain rfl := Except.ok.inj known
      obtain ⟨rest, -, plain⟩ := Option.map_eq_some_iff.mp simplified
      exact isReadable_of_plainInteger plain
    · cases known

theorem isReadable_of_integerOfFractional {x : Json.Fractional}
    (known : integerOfFractional x = .ok n) : Numeral.isReadable n := by
  unfold integerOfFractional at known
  split at known
  · cases known
  · cases known
  split at known
  · cases known
  split at known
  · cases known
  split at known
  · rename_i small
    obtain rfl := Except.ok.inj known
    exact Numeral.isReadable_of_lt_two_pow small _
  · cases known

/-- The integer that a value within the limits stands for can be read. -/
theorem isReadable_of_integerOfValue {value : Json.Value} (within : value.Within)
    (known : integerOfValue value = .ok n) : Numeral.isReadable n := by
  cases within with
  | integer readable =>
    obtain rfl := Except.ok.inj known
    exact readable
  | bool b =>
    obtain rfl := Except.ok.inj known
    cases b with
    | true => exact Numeral.isReadable_of_lt_two_pow (n := 1) (by omega) false
    | false => exact Numeral.isReadable_of_lt_two_pow (n := 0) (by omega) false
  | fractional x => exact isReadable_of_integerOfFractional known
  | string text => exact isReadable_of_integerOfText known
  | null => cases known
  | array => cases known
  | object => cases known

theorem checkInteger_eq_ok_iff {value : Json.Value} :
    checkInteger value = .ok n ↔ integerOfValue value = .ok n := by
  rw [checkInteger]
  cases integerOfValue value <;> simp [Checked.fail]

end Settings

/-! ### Checked parts -/

namespace Checked

variable {α β : Type} {a : α} {b : β} {place : Place} {part : Checked α} {other : Checked β}

theorem within_eq_ok_iff : part.within place = .ok a ↔ part = .ok a := by
  cases part <;> simp [within]

theorem map_eq_ok_iff {f : α → β} : part.map f = .ok b ↔ ∃ a, part = .ok a ∧ f a = b := by
  cases part <;> simp [Except.map]

theorem both_eq_ok_iff : both part other = .ok (a, b) ↔ part = .ok a ∧ other = .ok b := by
  cases part <;> cases other <;> simp [both]

/-- All parts together give their values, one for each and in order. -/
theorem all_eq_ok_iff {parts : List (Checked α)} {values : List α} :
    all parts = .ok values ↔ parts = values.map Except.ok := by
  induction parts generalizing values with
  | nil => cases values <;> simp [all]
  | cons part parts ih =>
    rw [all]
    cases values with
    | nil =>
      cases known : both part (all parts) <;> simp [Except.map]
    | cons value values =>
      rw [List.map_cons, List.cons.injEq, ← ih, ← both_eq_ok_iff]
      cases known : both part (all parts) with
      | error issues => simp [Except.map]
      | ok pair =>
        obtain ⟨first, rest⟩ := pair
        simp [Except.map]

/-- Each value of all parts together is the value of a part. -/
theorem ok_mem_of_all {parts : List (Checked α)} {values : List α} (known : all parts = .ok values)
    (member : a ∈ values) : .ok a ∈ parts := by
  rw [all_eq_ok_iff.mp known]
  exact List.mem_map.mpr ⟨a, member, rfl⟩

end Checked

/-! ### Stores -/

/-- A configured counter whose numbers can be read. -/
structure ConfiguredCounter.Within [Numeral.SignRule] (configured : ConfiguredCounter) : Prop where
  column : Numeral.isReadable configured.column
  row : Numeral.isReadable configured.row
  number : Numeral.isReadable configured.number

namespace CounterStore

theorem required_eq_ok_iff {α : Type} {members : List (String × Json.Value)} {name : String}
    {check : Json.Value → Checked α} {a : α} :
    required members name check = .ok a ↔
      ∃ value, Json.member? members name = some value ∧ check value = .ok a := by
  rw [required]
  cases Json.member? members name with
  | none => simp [Checked.fail, Checked.within]
  | some value => simp [Checked.within_eq_ok_iff]

variable [Numeral.SignRule]

/-- Slots whose counters have numbers that can be read. -/
def SlotsWithin (slots : List (Option ConfiguredCounter)) : Prop :=
  ∀ configured, some configured ∈ slots → configured.Within

/-- A store in which every number can be read. -/
def Within (store : CounterStore) : Prop := ∀ entry ∈ store.entries, SlotsWithin entry.2

variable {store : CounterStore} {value : Json.Value} {slots : List (Option ConfiguredCounter)}
  {device : Int}

/-- A required integer of a record within the limits can be read. -/
theorem isReadable_of_required {members : List (String × Json.Value)} {name : String} {n : Int}
    (within : ∀ member ∈ members, member.2.Within)
    (known : required members name Settings.checkInteger = .ok n) : Numeral.isReadable n := by
  obtain ⟨value, found, checked⟩ := required_eq_ok_iff.mp known
  -- Of members with one name the last counts, so that the look-up is in the reversed list.
  have member : (name, value) ∈ members := by
    rw [Json.member?, List.lookup_eq_some_iff] at found
    obtain ⟨before, after, reversed, -⟩ := found
    have inside : (name, value) ∈ members.reverse := by simp [reversed]
    exact List.mem_reverse.mp inside
  exact Settings.isReadable_of_integerOfValue (within _ member)
    (Settings.checkInteger_eq_ok_iff.mp checked)

theorem within_of_checkSlot {configured : ConfiguredCounter} (within : value.Within)
    (known : checkSlot value = .ok (some configured)) : configured.Within := by
  unfold checkSlot at known
  split at known
  · cases known
  · rename_i members
    cases within with
    | object below =>
      obtain ⟨⟨column, row, number, module⟩, parts, same⟩ := Checked.map_eq_ok_iff.mp known
      obtain ⟨columnPart, parts⟩ := Checked.both_eq_ok_iff.mp parts
      obtain ⟨rowPart, parts⟩ := Checked.both_eq_ok_iff.mp parts
      obtain ⟨numberPart, -⟩ := Checked.both_eq_ok_iff.mp parts
      obtain rfl := Option.some_inj.mp same
      exact ⟨isReadable_of_required below columnPart, isReadable_of_required below rowPart,
        isReadable_of_required below numberPart⟩
  · cases known

theorem slotsWithin_of_checkSlots (within : value.Within) (known : checkSlots value = .ok slots) :
    SlotsWithin slots := by
  unfold checkSlots at known
  split at known
  · rename_i items
    cases within with
    | array below =>
      intro configured member
      obtain ⟨⟨item, index⟩, listed, checked⟩ :=
        List.mem_map.mp (Checked.ok_mem_of_all known member)
      exact within_of_checkSlot (below item (List.fst_mem_of_mem_zipIdx listed))
        (Checked.within_eq_ok_iff.mp checked)
  · cases known

theorem within_empty : Within empty := by
  simp [Within, empty]

theorem Within.insert (within : store.Within) (slotsWithin : SlotsWithin slots) :
    (store.insert device slots).Within := by
  obtain ⟨entries⟩ := store
  rw [Within, CounterStore.insert]
  dsimp only
  rw [Within] at within
  -- The slots replace those of the device where it stands, or are put behind all entries.
  induction entries with
  | nil => simpa [setSlots] using slotsWithin
  | cons entry entries ih =>
    obtain ⟨entryWithin, rest⟩ := List.forall_mem_cons.mp within
    rw [setSlots]
    split
    · exact List.forall_mem_cons.mpr ⟨slotsWithin, rest⟩
    · exact List.forall_mem_cons.mpr ⟨entryWithin, ih rest⟩

theorem within_foldl_insert {entries : List (Int × List (Option ConfiguredCounter))}
    (within : store.Within) (entriesWithin : ∀ entry ∈ entries, SlotsWithin entry.2) :
    (entries.foldl (fun store (device, slots) => store.insert device slots) store).Within := by
  induction entries generalizing store with
  | nil => exact within
  | cons entry entries ih =>
    obtain ⟨first, rest⟩ := List.forall_mem_cons.mp entriesWithin
    exact ih (within.insert first) rest

/-- A store that is read off a document within the limits is within the limits. -/
theorem within_of_ofValue (within : value.Within) (known : ofValue value = .ok store) :
    store.Within := by
  unfold ofValue at known
  split at known
  · rename_i members
    cases within with
    | object below =>
      obtain ⟨entries, parts, rfl⟩ := Checked.map_eq_ok_iff.mp known
      -- The store is filled entry by entry, each from one member of the document.
      refine within_foldl_insert within_empty fun entry member => ?_
      obtain ⟨⟨name, value⟩, listed, checked⟩ :=
        List.mem_map.mp (Checked.ok_mem_of_all parts member)
      obtain ⟨-, slotsChecked⟩ :=
        Checked.both_eq_ok_iff.mp (Checked.within_eq_ok_iff.mp checked)
      exact slotsWithin_of_checkSlots (below _ listed) slotsChecked
  · cases known

/-- Every number of an accepted store can be read. -/
theorem within_of_ofText {text : List Char} (known : ofText text = .ok store) : store.Within := by
  rw [ofText] at known
  split at known
  · cases known
  · rename_i value parsed
    exact within_of_ofValue (Json.within_of_parse? parsed) known

/-- The slots of a device in a store within the limits. -/
theorem Within.slotsWithin (within : store.Within) : SlotsWithin (store.slots device) := by
  rw [CounterStore.slots]
  cases found : store.entries.lookup device with
  | none => simp [SlotsWithin]
  | some slots =>
    rw [List.lookup_eq_some_iff] at found
    obtain ⟨before, after, same, -⟩ := found
    exact within (device, slots) (by simp [same])

end CounterStore

end CounterTrace
