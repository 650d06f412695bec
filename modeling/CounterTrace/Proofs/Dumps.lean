import Mathlib.Data.List.Forall2
import Mathlib.Data.List.Nodup
import Mathlib.Data.List.Sort
import CounterTrace.Proofs.LineEnds
import CounterTrace.Proofs.Printing
import CounterTrace.Proofs.Spelling
import CounterTrace.Proofs.Trees

/-!
# Dumped counter stores

Loading undoes dumping. A store is dumped as an object with a member for each device, whose name is
the decimal number of the device and whose value is the array of its slots: null for an unavailable
slot, and for a counter an object with four members in any order. However the document is spelled,
the file that holds it is loaded as the store that was dumped.

A settings file holds no longer numbers than the reader of numbers allows, and whether it counts the
sign of a number is a rule of that reader. The results hold under either rule: a dump is loaded if
its numbers are readable by the rule, and refused if one of them is not.

## Main definitions

* `CounterStore.HoldsSlot`, `CounterStore.HoldsEntry` — slots and devices as JSON values
* `CounterStore.IsDump` — a text that is the dump of a store
* `CounterStore.Readable` — entries whose numbers a settings file can hold
* `CounterStore.Answers` — a store that answers for exactly the devices and the slots of a list

## Main results

* `CounterStore.ofValue_of_holds` — a value that holds entries is checked as the store of them
* `CounterStore.answers_of_nodup` — the store of entries of different devices answers for them
* `CounterStore.load_of_dump` — what is loaded from a file with a dump
-/

namespace CounterTrace

/-! ### Integers as names -/

namespace Settings

/-- The decimal text of an integer stands for that integer, if a settings file can hold it, and is
too large otherwise. -/
theorem plainInteger_text [Numeral.SignRule] (n : Int) :
    plainInteger (Numeral.text n).toList =
      if Numeral.isReadable n then .ok n else .error .integerTooLarge := by
  rw [plainInteger, Json.splitSign_text]
  dsimp only
  rw [Numeral.takeWhile_toDigits, Numeral.dropWhile_toDigits, Numeral.not_padded_toDigits,
    if_neg Bool.false_ne_true, List.isEmpty_nil, if_pos rfl, Numeral.value_toDigits,
    Numeral.signed_natAbs]
  by_cases readable : Numeral.isReadable n
  · rw [if_neg (Numeral.isReadable_iff_length.mp readable), if_pos readable]
  · rw [if_pos (not_not.mp (mt Numeral.isReadable_iff_length.mpr readable)), if_neg readable]

theorem integerOfText_text [Numeral.SignRule] (n : Int) :
    integerOfText (Numeral.text n).toList =
      if Numeral.isReadable n then .ok n else .error .integerTooLarge := by
  rw [integerOfText, plainInteger_text]
  by_cases readable : Numeral.isReadable n
  · rw [if_pos readable]
  · rw [if_neg readable]

end Settings

namespace CounterStore

variable {device : Int} {slot : Option ConfiguredCounter} {counter : ConfiguredCounter}
  {slots : List (Option ConfiguredCounter)} {value : Json.Value} {items : List Json.Value}
  {fields : List (String × Json.Value)}
  {entries before : List (Int × List (Option ConfiguredCounter))}
  {files : FileSystem} {path : String} {text : List Char}

/-! ### Stores as values -/

/-- The members of the object that describes a configured counter. -/
def fieldsOf (counter : ConfiguredCounter) : List (String × Json.Value) :=
  [("column", .integer counter.column), ("row", .integer counter.row),
    ("counterNumber", .integer counter.number), ("module", .string counter.module)]

/-- A slot as a JSON value: null, or an object with the members of the counter in any order. -/
inductive HoldsSlot : Option ConfiguredCounter → Json.Value → Prop
  | unavailable : HoldsSlot none .null
  | configured {counter : ConfiguredCounter} {fields : List (String × Json.Value)}
      (order : fields.Perm (fieldsOf counter)) : HoldsSlot (some counter) (.object fields)

/-- A device and its slots as a member of an object. -/
inductive HoldsEntry : Int × List (Option ConfiguredCounter) → String × Json.Value → Prop
  | device {device : Int} {slots : List (Option ConfiguredCounter)} {items : List Json.Value}
      (each : List.Forall₂ HoldsSlot slots items) :
      HoldsEntry (device, slots) (Numeral.text device, .array items)

/-- A text that is a dump of the entries of a store: any spelling of an object that holds them. -/
def IsDump (entries : List (Int × List (Option ConfiguredCounter))) (text : List Char) : Prop :=
  ∃ members tokens, List.Forall₂ HoldsEntry entries members ∧
    Json.Printed (.object members) tokens ∧ Json.Spelled tokens text

/-! ### Checking a value that holds a store -/

theorem member?_of_perm (order : fields.Perm (fieldsOf counter)) {name : String}
    (member : (name, value) ∈ fieldsOf counter) : Json.member? fields name = some value := by
  have reversed : fields.reverse.Perm (fieldsOf counter) := (List.reverse_perm fields).trans order
  have names : ((fieldsOf counter).map (·.1)).Nodup := by
    simp [fieldsOf]
  have distinct : (fields.reverse.map (·.1)).Nodup :=
    (reversed.map (fun field => field.1)).nodup_iff.mpr names
  rw [Json.member?, lookup_eq_some_iff_mem distinct]
  exact reversed.mem_iff.mpr member

theorem required_of_perm {α : Type} {check : Json.Value → Checked α} {a : α} {name : String}
    (order : fields.Perm (fieldsOf counter)) (value : Json.Value)
    (member : (name, value) ∈ fieldsOf counter) (checked : check value = .ok a) :
    required fields name check = .ok a :=
  required_eq_ok_iff.mpr ⟨value, member?_of_perm order member, checked⟩

section

variable [Numeral.SignRule]

theorem checkSlot_of_holds (holds : HoldsSlot slot value) : checkSlot value = .ok slot := by
  cases holds with
  | unavailable => rfl
  | @configured counter fields order =>
    have column : required fields "column" Settings.checkInteger = .ok counter.column :=
      required_of_perm order (.integer counter.column) (by simp [fieldsOf]) rfl
    have row : required fields "row" Settings.checkInteger = .ok counter.row :=
      required_of_perm order (.integer counter.row) (by simp [fieldsOf]) rfl
    have number : required fields "counterNumber" Settings.checkInteger = .ok counter.number :=
      required_of_perm order (.integer counter.number) (by simp [fieldsOf]) rfl
    have module : required fields "module" checkText = .ok counter.module :=
      required_of_perm order (.string counter.module) (by simp [fieldsOf]) rfl
    rw [checkSlot, column, row, number, module]
    rfl

theorem checkSlots_of_holds (each : List.Forall₂ HoldsSlot slots items) :
    checkSlots (.array items) = .ok slots := by
  rw [checkSlots, Checked.all_eq_ok_iff]
  -- The index of an item stands only in its issues, of which there are none.
  generalize (0 : Nat) = start
  induction each generalizing start with
  | nil => rfl
  | cons first rest ih =>
    rw [List.zipIdx_cons, List.map_cons, List.map_cons, ih]
    congr 1
    exact Checked.within_eq_ok_iff.mpr (checkSlot_of_holds first)

/-- A member that holds a device and its slots is checked as these, if its name can be read. -/
theorem checkEntry_eq_ok_iff {entry other : Int × List (Option ConfiguredCounter)}
    {member : String × Json.Value} (holds : HoldsEntry entry member) :
    checkEntry member = .ok other ↔ Numeral.isReadable entry.1 ∧ entry = other := by
  cases holds with
  | @device device slots items each =>
    obtain ⟨otherDevice, otherSlots⟩ := other
    have named : checkDevice (Numeral.text device) = .ok otherDevice ↔
        Numeral.isReadable device ∧ device = otherDevice := by
      rw [checkDevice, Settings.integerOfText_text]
      by_cases readable : Numeral.isReadable device
      · simp [readable]
      · simp [readable, Checked.fail, Checked.within]
    rw [checkEntry, Checked.within_eq_ok_iff, Checked.both_eq_ok_iff, named,
      checkSlots_of_holds each, Except.ok.injEq, Prod.mk.injEq, and_assoc]

theorem all_checkEntry_eq_ok_iff {members : List (String × Json.Value)}
    {others : List (Int × List (Option ConfiguredCounter))}
    (holds : List.Forall₂ HoldsEntry entries members) :
    Checked.all (members.map checkEntry) = .ok others ↔
      (∀ entry ∈ entries, Numeral.isReadable entry.1) ∧ entries = others := by
  rw [Checked.all_eq_ok_iff]
  induction holds generalizing others with
  | nil => cases others <;> simp
  | @cons entry member entries members first rest ih =>
    cases others with
    | nil => simp
    | cons other others =>
      rw [List.map_cons, List.map_cons, List.cons.injEq, checkEntry_eq_ok_iff first, ih,
        List.forall_mem_cons, List.cons.injEq]
      exact and_and_and_comm

end

/-! ### Filling a store -/

theorem setSlots_of_notMem (fresh : device ∉ before.map (·.1)) :
    setSlots device slots before = before ++ [(device, slots)] := by
  induction before with
  | nil => rfl
  | cons entry before ih =>
    rw [List.map_cons, List.mem_cons, not_or] at fresh
    rw [setSlots, if_neg (fun same => fresh.1 same.symm), ih fresh.2, List.cons_append]

/-- Different devices are put into a store one behind the other. -/
theorem foldl_insert_of_nodup (distinct : ((before ++ entries).map (·.1)).Nodup) :
    entries.foldl (fun store (device, slots) => store.insert device slots)
      (⟨before⟩ : CounterStore) = ⟨before ++ entries⟩ := by
  induction entries generalizing before with
  | nil => rw [List.foldl_nil, List.append_nil]
  | cons entry entries ih =>
    obtain ⟨device, slots⟩ := entry
    have fresh : device ∉ before.map (·.1) := by
      rw [List.map_append, List.map_cons, List.nodup_append] at distinct
      intro member
      exact distinct.2.2 device member device List.mem_cons_self rfl
    rw [List.append_cons] at distinct
    rw [List.foldl_cons, List.append_cons, ← ih distinct]
    dsimp only
    rw [insert, setSlots_of_notMem fresh]

/-- A value that holds the entries of different devices is checked as the store of these entries,
if every device can be read. -/
theorem ofValue_of_holds [Numeral.SignRule] {members : List (String × Json.Value)}
    (holds : List.Forall₂ HoldsEntry entries members) (distinct : (entries.map (·.1)).Nodup)
    (readable : ∀ entry ∈ entries, Numeral.isReadable entry.1) :
    ofValue (.object members) = .ok ⟨entries⟩ := by
  have checked : Checked.all (members.map checkEntry) = .ok entries :=
    (all_checkEntry_eq_ok_iff holds).mpr ⟨readable, rfl⟩
  have filled : entries.foldl (fun store (device, slots) => store.insert device slots)
      (⟨[]⟩ : CounterStore) = ⟨[] ++ entries⟩ := foldl_insert_of_nodup distinct
  rw [ofValue, checked]
  exact congrArg Except.ok filled

/-- Every device can be read, if the value is checked without issues. -/
theorem isReadable_of_ofValue [Numeral.SignRule] {members : List (String × Json.Value)}
    {store : CounterStore} (holds : List.Forall₂ HoldsEntry entries members)
    (known : ofValue (.object members) = .ok store) :
    ∀ entry ∈ entries, Numeral.isReadable entry.1 := by
  obtain ⟨others, checked, -⟩ := Checked.map_eq_ok_iff.mp known
  exact ((all_checkEntry_eq_ok_iff holds).mp checked).1

/-! ### Limits of a value that holds a store -/

/-- A property of the first of two lists that belong together, as one of the second. -/
theorem forall_mem_iff_of_forall₂ {α β : Type} {Related : α → β → Prop} {P : α → Prop}
    {Q : β → Prop} {first : List α} {second : List β} (each : List.Forall₂ Related first second)
    (same : ∀ a b, Related a b → (P a ↔ Q b)) : (∀ a ∈ first, P a) ↔ ∀ b ∈ second, Q b := by
  induction each with
  | nil => simp
  | cons related rest ih => rw [List.forall_mem_cons, List.forall_mem_cons, same _ _ related, ih]

theorem within_holdsSlot_iff [Numeral.SignRule] (holds : HoldsSlot slot value) :
    value.Within ↔ ∀ counter, slot = some counter → counter.Within := by
  cases holds with
  | unavailable => exact iff_of_true .null nofun
  | @configured counter fields order =>
    constructor
    · intro within other same
      obtain rfl := Option.some_inj.mp same
      cases within with
      | object below =>
        have readable (name : String) {n : Int} (listed : (name, .integer n) ∈ fieldsOf counter) :
            Numeral.isReadable n := by
          cases below _ (order.mem_iff.mpr listed) with
          | integer readable => exact readable
        exact ⟨readable "column" (by simp [fieldsOf]), readable "row" (by simp [fieldsOf]),
          readable "counterNumber" (by simp [fieldsOf])⟩
    · intro within
      obtain ⟨column, row, number⟩ := within counter rfl
      have each : ∀ field ∈ fieldsOf counter, field.2.Within := by
        simp only [fieldsOf, List.forall_mem_cons]
        exact ⟨.integer column, .integer row, .integer number, .string _, by simp⟩
      exact .object fun field member => each field (order.mem_iff.mp member)

theorem nests_of_holdsSlot (holds : HoldsSlot slot value) : value.Nests 1 := by
  cases holds with
  | unavailable => exact .null
  | @configured counter fields order =>
    have each : ∀ field ∈ fieldsOf counter, field.2.Nests 0 := by
      simp only [fieldsOf, List.forall_mem_cons]
      exact ⟨.integer _, .integer _, .integer _, .string _, by simp⟩
    exact .object fun field member => each field (order.mem_iff.mp member)

/-- An object that holds entries is within the limits if and only if their counters are. -/
theorem within_holds_iff [Numeral.SignRule] {members : List (String × Json.Value)}
    (holds : List.Forall₂ HoldsEntry entries members) :
    (Json.Value.object members).Within ↔ Within ⟨entries⟩ := by
  have eachSlot {slots : List (Option ConfiguredCounter)} {items : List Json.Value}
      (each : List.Forall₂ HoldsSlot slots items) :
      SlotsWithin slots ↔ (Json.Value.array items).Within := by
    have items := forall_mem_iff_of_forall₂ each fun slot value holds =>
      (within_holdsSlot_iff holds).symm
    constructor
    · intro within
      exact .array (items.mp fun slot inside counter same => within counter (same ▸ inside))
    · rintro ⟨⟩
      rename_i below
      exact fun counter inside => items.mpr below _ inside counter rfl
  have eachEntry := forall_mem_iff_of_forall₂ holds (P := fun entry => SlotsWithin entry.2)
    (Q := fun member => member.2.Within) fun entry member holds => by
      cases holds with
      | device each => exact eachSlot each
  constructor
  · rintro ⟨⟩
    rename_i below
    exact eachEntry.mpr below
  · exact fun within => .object (eachEntry.mp within)

/-- Its containers are nested three deep: the object, the arrays and the objects for counters. -/
theorem nests_of_holds {members : List (String × Json.Value)}
    (holds : List.Forall₂ HoldsEntry entries members) : (Json.Value.object members).Nests 3 := by
  have eachSlot {slots : List (Option ConfiguredCounter)} {items : List Json.Value}
      (each : List.Forall₂ HoldsSlot slots items) : (Json.Value.array items).Nests 2 :=
    .array ((forall_mem_iff_of_forall₂ (P := fun _ => True) each fun slot value holds =>
      iff_of_true trivial (nests_of_holdsSlot holds)).mp fun _ _ => trivial)
  refine .object ((forall_mem_iff_of_forall₂ (P := fun _ => True) holds
    fun entry member holds => iff_of_true trivial ?_).mp fun _ _ => trivial)
  cases holds with
  | device each => exact eachSlot each

/-! ### Reading a store -/

/-- A store that answers for exactly the devices and the slots of the entries. -/
structure Answers (store : CounterStore) (entries : List (Int × List (Option ConfiguredCounter))) :
    Prop where
  ascending : store.devices.Pairwise (· < ·)
  devices : ∀ device, device ∈ store.devices ↔ device ∈ entries.map (·.1)
  count : ∀ device slots, (device, slots) ∈ entries → (store.slots device).length = slots.length
  inside : ∀ device slots, (device, slots) ∈ entries → ∀ (index : Nat) (h : index < slots.length),
    store.slot? device index = slots[index]
  outside : ∀ device slots, (device, slots) ∈ entries → ∀ index : Int,
    index < 0 ∨ slots.length ≤ index → store.slot? device index = none
  unknown : ∀ device, device ∉ entries.map (·.1) →
    (store.slots device).length = 0 ∧ ∀ index, store.slot? device index = none

theorem slot?_eq_none {store : CounterStore} {index : Int}
    (outside : index < 0 ∨ (store.slots device).length ≤ index) :
    store.slot? device index = none := by
  rw [slot?]
  split
  case isTrue proper =>
    have beyond : (store.slots device).length ≤ index.toNat := by omega
    rw [List.getElem?_eq_none beyond]
    rfl
  case isFalse negative => rfl

theorem slots_eq_of_mem (distinct : (entries.map (·.1)).Nodup)
    (member : (device, slots) ∈ entries) : CounterStore.slots ⟨entries⟩ device = slots := by
  rw [CounterStore.slots, (lookup_eq_some_iff_mem distinct).mpr member]
  rfl

theorem slots_eq_nil (unknown : device ∉ entries.map (·.1)) :
    CounterStore.slots ⟨entries⟩ device = [] := by
  have missing : entries.lookup device = none := by
    rw [List.lookup_eq_none_iff]
    intro entry member
    have other : device ≠ entry.1 := by
      rintro rfl
      exact unknown (List.mem_map_of_mem member)
    simpa using other
  rw [CounterStore.slots, missing]
  rfl

/-- The store of entries of different devices answers for them. -/
theorem answers_of_nodup (distinct : (entries.map (·.1)).Nodup) : Answers ⟨entries⟩ entries where
  ascending := by
    have sorted : (CounterStore.devices ⟨entries⟩).Pairwise (· ≤ ·) :=
      List.pairwise_mergeSort' (· ≤ ·) _
    have once : (CounterStore.devices ⟨entries⟩).Nodup :=
      (List.mergeSort_perm _ _).nodup_iff.mpr distinct
    exact (sorted.sortedLE.sortedLT_of_nodup once).pairwise
  devices device := (List.mergeSort_perm _ _).mem_iff
  count device slots member := by rw [slots_eq_of_mem distinct member]
  inside device slots member index inside := by
    rw [slot?, slots_eq_of_mem distinct member, if_pos (Int.natCast_nonneg index),
      Int.toNat_natCast, List.getElem?_eq_getElem inside]
    rfl
  outside device slots member index outside :=
    slot?_eq_none (by rwa [slots_eq_of_mem distinct member])
  unknown device unknown := by
    have empty := slots_eq_nil unknown
    refine ⟨by rw [empty, List.length_nil], fun index => slot?_eq_none ?_⟩
    rw [empty, List.length_nil]
    omega

/-! ### Loading a dump -/

section

variable [Numeral.SignRule]

/-- Entries whose numbers a settings file can hold: those of the devices and of the counters. -/
structure Readable (entries : List (Int × List (Option ConfiguredCounter))) : Prop where
  devices : ∀ entry ∈ entries, Numeral.isReadable entry.1
  counters : Within ⟨entries⟩

/-- A dump is read as an object that holds the entries, if the numbers of the counters allow it. -/
theorem exists_parse?_of_isDump (dump : IsDump entries text) :
    ∃ members, List.Forall₂ HoldsEntry entries members ∧
      (Within ⟨entries⟩ → Json.parse? text = some (.object members)) ∧
      (¬ Within ⟨entries⟩ → Json.parse? text = none) := by
  obtain ⟨members, tokens, holds, printed, spelled⟩ := dump
  rw [Json.parse?_of_spelled spelled printed.apart, ← within_holds_iff holds]
  exact ⟨members, holds,
    fun within => Json.ofTokens?_of_printed printed within (nests_of_holds holds) (by decide),
    Json.ofTokens?_of_not_within printed⟩

/-- Loading undoes dumping: from a file with any dump of entries, a store is loaded that answers for
these entries. Their numbers have no more digits than a settings file may hold; a dump with a longer
number is refused. Under the rule that counts digits alone, all numbers of up to `maxDigits` digits
are read, and under the other rule all but the negative ones of just this length. -/
theorem load_of_dump (distinct : (entries.map (·.1)).Nodup) (dump : IsDump entries text)
    (content : files.read path = .ok (Utf8.encode text)) :
    (Readable entries → ∃ store, load files path = .ok store ∧ store.Answers entries) ∧
      (¬ Readable entries → ∃ issues, load files path = .error (.invalid .counters issues)) := by
  obtain ⟨members, holds, read, refused⟩ := exists_parse?_of_isDump dump
  rw [load_of_encode content, parse, ofText]
  constructor
  · intro readable
    rw [read readable.counters]
    dsimp only
    rw [ofValue_of_holds holds distinct readable.devices]
    exact ⟨⟨entries⟩, rfl, answers_of_nodup distinct⟩
  · intro unreadable
    by_cases within : Within ⟨entries⟩
    · rw [read within]
      dsimp only
      cases checked : ofValue (.object members) with
      | error issues => exact ⟨issues, rfl⟩
      | ok store => exact absurd ⟨isReadable_of_ofValue holds checked, within⟩ unreadable
    · rw [refused within]
      exact ⟨_, rfl⟩

end

/-- Two devices, the greater one first, with an unavailable slot and a counter. -/
def looseEntries : List (Int × List (Option ConfiguredCounter)) :=
  [(7, [none, some ⟨1, -2, 0, "\"😀"⟩]), (-3, [])]

/-- A dump of these entries with several kinds of blanks and escapes, and with the members of the
counter in another order. -/
def looseText : List Char :=
  "\x7b \"7\" :\r\n[null,\t\x7b\"module\":\"\\\"\\uD83d\\uDE00\",\"counterNumber\":0,".toList ++
    "\"row\":-2,\"column\":1\x7d],\"-3\":[]\x7d\n".toList

/-- The tokens of that dump. -/
def looseTokens : List Json.Token :=
  [.openBrace, .string "7", .colon, .openBracket, .word "null".toList, .comma,
    .openBrace, .string "module", .colon, .string "\"😀",
    .comma, .string "counterNumber", .colon, .word "0".toList,
    .comma, .string "row", .colon, .word "-2".toList,
    .comma, .string "column", .colon, .word "1".toList, .closeBrace, .closeBracket,
    .comma, .string "-3", .colon, .openBracket, .closeBracket, .closeBrace]

theorem spelled_looseText : Json.Spelled looseTokens looseText := by
  have blank : ∀ c ∈ [' '], c ∈ [' ', '\t', '\n', '\r'] := by simp
  have tab : ∀ c ∈ ['\t'], c ∈ [' ', '\t', '\n', '\r'] := by simp
  have lineFeed : ∀ c ∈ ['\n'], c ∈ [' ', '\t', '\n', '\r'] := by simp
  have lineEnd : ∀ c ∈ ['\r', '\n'], c ∈ [' ', '\t', '\n', '\r'] := by simp
  have name (text : String) (plain : Json.IsPlainText text) :=
    Json.SpelledToken.string (Json.spelledChars_of_isPlain plain)
  have number (text : List Char) (proper : text ≠ []) (letters : text.all Json.isWordChar) :=
    Json.SpelledToken.word proper (List.all_eq_true.mp letters)
  have member (text : String) (plain : Json.IsPlainText text) {token : Json.Token}
      {tokens : List Json.Token} {spelled more : List Char}
      (value : Json.SpelledToken token spelled) (rest : Json.Spelled tokens more) :=
    Json.Spelled.cons_adjacent (name text plain) (.cons_adjacent .colon (.cons_adjacent value rest))
  have quote : Json.SpelledChar '"' ['\\', '"'] := .short (by decide)
  have face : Json.SpelledChar '😀'
      ['\\', 'u', 'D', '8', '3', 'd', '\\', 'u', 'D', 'E', '0', '0'] :=
    .pair (by decide) (.digits (by decide) (by decide) (by decide) (by decide))
      (.digits (by decide) (by decide) (by decide) (by decide))
  have module := @Json.SpelledToken.string "\"😀" _ (.cons quote (.cons face .nil))
  -- From the end to the front: the second device, the counter, and the first device around it.
  have second : Json.Spelled _ _ :=
    .cons_adjacent .comma <| member "-3" (by decide) .openBracket <|
    .cons_adjacent .closeBracket <| .cons_adjacent .closeBrace <| .done lineFeed
  have counter : Json.Spelled _ _ := .cons tab .openBrace <| member "module" (by decide) module <|
    .cons_adjacent .comma <| member "counterNumber" (by decide) (number ['0'] (by simp) rfl) <|
    .cons_adjacent .comma <| member "row" (by decide) (number ['-', '2'] (by simp) rfl) <|
    .cons_adjacent .comma <| member "column" (by decide) (number ['1'] (by simp) rfl) <|
    .cons_adjacent .closeBrace <| .cons_adjacent .closeBracket second
  have null : Json.SpelledToken (.word "null".toList) "null".toList :=
    .word (by simp) (List.all_eq_true.mp rfl)
  have first : Json.Spelled looseTokens _ :=
    .cons_adjacent .openBrace <| .cons blank (name "7" (by decide)) <| .cons blank .colon <|
      .cons lineEnd .openBracket <| .cons_adjacent null <| .cons_adjacent .comma counter
  exact first

theorem isDump_looseText : IsDump looseEntries looseText := by
  have fields : HoldsSlot (some ⟨1, -2, 0, "\"😀"⟩) (.object [("module", .string "\"😀"),
      ("counterNumber", .integer 0), ("row", .integer (-2)), ("column", .integer 1)]) :=
    .configured (List.reverse_perm (fieldsOf ⟨1, -2, 0, "\"😀"⟩))
  have holds : List.Forall₂ HoldsEntry looseEntries _ :=
    .cons (.device (.cons .unavailable (.cons fields .nil))) (.cons (.device .nil) .nil)
  have record := @Json.Printed.object
    [("module", _, _), ("counterNumber", _, _), ("row", _, _), ("column", _, _)] (by
      simp only [List.forall_mem_cons]
      exact ⟨.string "\"😀", .integer 0, .integer (-2), .integer 1, by simp⟩)
  have slots := @Json.Printed.array [(_, _), (_, _)] (by
    simp only [List.forall_mem_cons]
    exact ⟨.null, record, by simp⟩)
  have document := @Json.Printed.object [(Numeral.text 7, _, _), (Numeral.text (-3), _, _)] (by
    simp only [List.forall_mem_cons]
    exact ⟨slots, @Json.Printed.array [] (by simp), by simp⟩)
  exact ⟨_, looseTokens, holds, document, spelled_looseText⟩

theorem readable_looseEntries : Readable looseEntries := by
  refine ⟨by decide, ?_⟩
  rintro entry member counter inside
  simp only [looseEntries, List.mem_cons, List.not_mem_nil, or_false] at member
  rcases member with rfl | rfl
  · have same : counter = ⟨1, -2, 0, "\"😀"⟩ := by simpa using inside
    subst same
    exact ⟨by decide, by decide, by decide⟩
  · simp at inside

/-- A dump with one device, which has no slots. -/
def deviceText (device : Int) : List Char :=
  '\x7b' :: ('"' :: (Numeral.text device).toList ++ ['"'] ++ ":[]\x7d".toList)

theorem isDump_deviceText (device : Int) : IsDump [(device, [])] (deviceText device) := by
  have plain : Json.IsPlainText (Numeral.text device) := by
    have plainDigit : ∀ c : Char, c.isDigit → Json.isPlain c := fun c digit => by
      obtain ⟨lower, upper⟩ := Numeral.isDigit_iff.mp digit
      refine Json.isPlain_iff.mpr ⟨?_, ?_, by omega⟩
      all_goals
        rintro rfl
        exact absurd digit (by decide)
    intro c member
    rcases Numeral.mem_text member with rfl | digit
    · decide
    · exact plainDigit c digit
  have spelled : Json.Spelled _ (deviceText device) :=
    .cons_adjacent .openBrace <|
    .cons_adjacent (.string (Json.spelledChars_of_isPlain plain)) <| .cons_adjacent .colon <|
    .cons_adjacent .openBracket <| .cons_adjacent .closeBracket <| .cons_adjacent .closeBrace <|
    @Json.Spelled.done [] (by simp)
  have slots := @Json.Printed.array [] (by simp)
  have document := @Json.Printed.object [(Numeral.text device, _, _)] (by simpa using slots)
  exact ⟨_, _, .cons (.device .nil) .nil, document, spelled⟩

/-- The least number with so many digits as a numeral may have. -/
def signedNines : Int := -((10 ^ Numeral.maxDigits - 1 : Nat) : Int)

theorem readable_singleton_iff [Numeral.SignRule] :
    Readable [(device, [])] ↔ Numeral.isReadable device := by
  refine ⟨fun readable => readable.devices (device, []) List.mem_cons_self,
    fun readable => ⟨?_, ?_⟩⟩
  · simpa using readable
  · simp [Within, SlotsWithin]

theorem isReadable_signedNines (rule : Numeral.SignRule) :
    Numeral.isReadable signedNines ↔ rule.counted = false := by
  -- The limit is kept as a successor, so that no power of ten is computed.
  obtain ⟨limit, same⟩ : ∃ limit, Numeral.maxDigits = limit + 1 := ⟨4299, rfl⟩
  have proper : 0 < 10 ^ limit := Nat.pow_pos (by omega)
  have size : signedNines.natAbs = 10 ^ limit * 10 - 1 := by
    rw [signedNines, Int.natAbs_neg, Int.natAbs_natCast, same, Nat.pow_succ]
  have negative : decide (signedNines < 0) = true := by
    rw [decide_eq_true_eq, signedNines, same, Nat.pow_succ]
    omega
  rw [Numeral.isReadable_iff, size, negative, Numeral.maxDigitsBehind, same,
    Nat.add_sub_cancel, Bool.and_true]
  cases rule.counted with
  | false =>
    rw [if_neg Bool.false_ne_true, Nat.pow_succ]
    exact iff_of_true (by omega) rfl
  | true =>
    rw [if_pos rfl]
    exact iff_of_false (by omega) (by decide)

/-- A file system that holds a text as a counter file. -/
def counterFiles (text : List Char) : FileSystem :=
  ⟨.directory [("counters.json", .file (Utf8.encode text))], [], []⟩

theorem read_counterFiles (text : List Char) :
    (counterFiles text).read "/counters.json" = .ok (Utf8.encode text) := rfl

/-- The loose dump in a file, read off its bytes; and the dump with the longest number, which is
read where digits alone are counted and refused where the sign is counted too. -/
theorem load_looseText :
    (∃ store, load (counterFiles looseText) "/counters.json" = .ok store ∧
      store.Answers looseEntries) ∧
    (∃ store, load (counterFiles (deviceText signedNines)) "/counters.json" = .ok store ∧
      store.Answers [(signedNines, [])]) ∧
    ∃ issues, @load ⟨true⟩ (counterFiles (deviceText signedNines)) "/counters.json" =
      .error (.invalid .counters issues) := by
  refine ⟨?_, ?_, ?_⟩
  · exact (load_of_dump (by decide) isDump_looseText (read_counterFiles _)).1 readable_looseEntries
  · exact (load_of_dump (by simp) (isDump_deviceText signedNines) (read_counterFiles _)).1
      (readable_singleton_iff.mpr ((isReadable_signedNines _).mpr rfl))
  · refine (@load_of_dump _ _ _ _ ⟨true⟩ (by simp) (isDump_deviceText signedNines)
      (read_counterFiles _)).2 fun readable => ?_
    have short := (@readable_singleton_iff _ ⟨true⟩).mp readable
    exact absurd ((isReadable_signedNines ⟨true⟩).mp short) (by decide)

end CounterStore

end CounterTrace
