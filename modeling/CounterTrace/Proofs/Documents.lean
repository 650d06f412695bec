import CounterTrace.Json.Document
import CounterTrace.Proofs.Numerals

/-!
# Values of documents

What is known about a document from its value. The decimal text of an integer is a word that stands
for that integer. The strings of a document, names included, are the strings of its value in the
same order: a reader drops none, adds none and changes none.

## Main definitions

* `Json.Token.text?`, `Json.Value.texts` — the string of a token, and the strings of a value

## Main results

* `Json.ofWord?_text` — the decimal text of an integer is read as that integer
* `Json.texts_of_ofTokens?` — the strings of a document are those of its value
-/

namespace CounterTrace

/-! ### Integers -/

namespace Numeral

variable {n : Nat}

/-- A decimal text has no leading zero. -/
theorem length_toDigits_of_head? (zero : (Nat.toDigits 10 n).head? = some '0') :
    (Nat.toDigits 10 n).length = 1 := by
  obtain ⟨rest, shape⟩ := List.head?_eq_some_iff.mp zero
  by_contra several
  have proper : 0 < rest.length := by
    rw [shape, List.length_cons] at several
    omega
  -- Behind a zero the number has one digit less, and with so few digits it would be too small.
  have decimal : ∀ c ∈ rest, c.isDigit := fun c member =>
    Nat.isDigit_of_mem_toDigits (b := 10) (n := n) (by omega) (by omega) (by simp [shape, member])
  have same : value rest = n := by
    rw [← value_toDigits n, shape]
    rfl
  have small : n < 10 ^ rest.length := same ▸ value_lt decimal
  have short := (Nat.length_toDigits_le_iff (by omega) proper).mpr small
  rw [shape, List.length_cons] at short
  omega

theorem isDigit_of_mem_toDigits (c : Char) (member : c ∈ Nat.toDigits 10 n) : c.isDigit :=
  Nat.isDigit_of_mem_toDigits (by omega) (by omega) member

theorem takeWhile_toDigits (n : Nat) :
    (Nat.toDigits 10 n).takeWhile Char.isDigit = Nat.toDigits 10 n :=
  List.takeWhile_eq_self_iff.mpr isDigit_of_mem_toDigits

theorem dropWhile_toDigits (n : Nat) : (Nat.toDigits 10 n).dropWhile Char.isDigit = [] :=
  List.dropWhile_eq_nil_iff.mpr isDigit_of_mem_toDigits

/-- A decimal text passes the test that a reader puts to a run of digits. -/
theorem not_padded_toDigits (n : Nat) :
    ((Nat.toDigits 10 n).isEmpty ||
      ((Nat.toDigits 10 n).head? == some '0' && (Nat.toDigits 10 n).length != 1)) = false := by
  have proper : (Nat.toDigits 10 n).isEmpty = false := by
    simp [Nat.toDigits_ne_nil]
  rw [proper, Bool.false_or, Bool.and_eq_false_iff]
  by_cases zero : (Nat.toDigits 10 n).head? = some '0'
  · exact Or.inr (by simpa using length_toDigits_of_head? zero)
  · exact Or.inl (by simpa using zero)

/-- An integer from its sign and its size. -/
theorem signed_natAbs (m : Int) :
    (if decide (m < 0) = true then -(m.natAbs : Int) else (m.natAbs : Int)) = m := by
  split
  case isTrue negative =>
    have below := of_decide_eq_true negative
    omega
  case isFalse negative =>
    have above : ¬ m < 0 := fun below => negative (decide_eq_true below)
    omega

end Numeral

namespace Json

variable {text : List Char} {value : Value} {token : Token} {tokens : List Token}
  {frames : List Frame} {reader next : Reader}

/-- The sign and the digits of a decimal text. -/
theorem splitSign_text (m : Int) :
    splitSign (Numeral.text m).toList = (decide (m < 0), Nat.toDigits 10 m.natAbs) := by
  rw [Numeral.toList_text]
  by_cases negative : m < 0
  · simp [negative, splitSign]
  · -- The first digit is no minus sign.
    obtain ⟨first, digits, shape⟩ := List.exists_cons_of_ne_nil
      (Nat.toDigits_ne_nil (n := m.natAbs) (b := 10))
    have other : first ≠ '-' := by
      rintro rfl
      exact absurd (Numeral.isDigit_of_mem_toDigits '-' (shape ▸ List.mem_cons_self)) (by decide)
    simp [negative, shape, splitSign, other]

theorem number?_text [Numeral.SignRule] (m : Int) :
    number? (Numeral.text m).toList =
      if Numeral.isReadable m then some (.integer m) else none := by
  rw [number?, splitSign_text]
  dsimp only
  rw [Numeral.takeWhile_toDigits, Numeral.dropWhile_toDigits, Numeral.not_padded_toDigits,
    if_neg Bool.false_ne_true]
  by_cases readable : Numeral.isReadable m
  · rw [if_neg (Numeral.isReadable_iff_length.mp readable), if_pos readable]
    simp only [splitFraction, List.append_nil, List.isEmpty_nil, if_true, Numeral.value_toDigits]
    rw [Numeral.signed_natAbs]
  · rw [if_pos (not_not.mp (mt Numeral.isReadable_iff_length.mpr readable)), if_neg readable]

/-- The decimal text of an integer is read as that integer, if a settings file can hold it, and is
no value otherwise. -/
theorem ofWord?_text [Numeral.SignRule] (m : Int) :
    Value.ofWord? (Numeral.text m).toList =
      if Numeral.isReadable m then some (.integer m) else none := by
  -- Each of the fixed words has a letter, and a number has none.
  have different : ∀ {word : List Char}, (∃ c ∈ word, c ≠ '-' ∧ c.isDigit = false) →
      ((Numeral.text m).toList == word) = false := by
    rintro word ⟨letter, inside, minus, digit⟩
    rw [beq_eq_false_iff_ne]
    rintro rfl
    rcases Numeral.mem_text inside with same | decimal
    · exact minus same
    · simp [digit] at decimal
  rw [Value.ofWord?, different ⟨'n', by decide⟩, different ⟨'t', by decide⟩,
    different ⟨'f', by decide⟩, different ⟨'N', by decide⟩, different ⟨'I', by decide⟩,
    different ⟨'I', by decide⟩]
  simpa using number?_text m

/-! ### Members of an object -/

namespace Reader

variable [Numeral.SignRule] {members : List (String × Value)} {items : List Value} {name : String}

/-- The first member of an object is read like the others, if there is room for one more
container. -/
theorem foldlM_firstName (inside : frames.length < maxDepth) :
    (.string name :: tokens).foldlM step (.firstName frames) =
      (.string name :: tokens).foldlM step (.nextName [] frames) := by
  have same : step (.firstName frames) (.string name) = step (.nextName [] frames) (.string name) :=
    if_pos inside
  rw [List.foldlM_cons, List.foldlM_cons, same]

theorem foldlM_number {m : Int} (readable : Numeral.isReadable m) :
    (.string name :: .colon :: .word (Numeral.text m).toList :: tokens).foldlM step
        (.nextName members frames) =
      tokens.foldlM step (.afterMember ((name, .integer m) :: members) frames) := by
  have number : step (.item (.member members name :: frames)) (.word (Numeral.text m).toList) =
      some (.afterMember ((name, .integer m) :: members) frames) := by
    rw [step, start, ofWord?_text, if_pos readable]
    rfl
  have named : (.string name :: .colon :: .word (Numeral.text m).toList :: tokens).foldlM step
      (.nextName members frames) = (.word (Numeral.text m).toList :: tokens).foldlM step
        (.item (.member members name :: frames)) := rfl
  rw [named, List.foldlM_cons, number, Option.bind_eq_bind, Option.bind_some]

theorem foldlM_string (content : String) :
    (.string name :: .colon :: .string content :: tokens).foldlM step (.nextName members frames) =
      tokens.foldlM step (.afterMember ((name, .string content) :: members) frames) := rfl

theorem foldlM_comma : (.comma :: tokens).foldlM step (.afterMember members frames) =
    tokens.foldlM step (.nextName members frames) := rfl

theorem foldlM_closeBrace :
    (.closeBrace :: tokens).foldlM step (.afterMember members (.item items :: frames)) =
      tokens.foldlM step (.afterItem (.object members.reverse :: items) frames) := rfl

end Reader

/-! ### Strings -/

/-- The string that a token is, if it is one. -/
def Token.text? : Token → Option String
  | .string text => some text
  | _ => none

mutual

/-- The strings in a value, names included, in the order of the document. -/
def Value.texts : Value → List String
  | .string text => [text]
  | .array items => itemTexts items
  | .object members => memberTexts members
  | .null => []
  | .bool _ => []
  | .integer _ => []
  | .fractional _ => []

/-- The strings in the items of an array. -/
def itemTexts : List Value → List String
  | [] => []
  | item :: rest => item.texts ++ itemTexts rest

/-- The names of members and the strings in their values. -/
def memberTexts : List (String × Value) → List String
  | [] => []
  | (name, value) :: rest => name :: value.texts ++ memberTexts rest

end

theorem itemTexts_append (items more : List Value) :
    itemTexts (items ++ more) = itemTexts items ++ itemTexts more := by
  induction items with
  | nil => rfl
  | cons item items ih => rw [List.cons_append, itemTexts, itemTexts, ih, List.append_assoc]

theorem memberTexts_append (members more : List (String × Value)) :
    memberTexts (members ++ more) = memberTexts members ++ memberTexts more := by
  induction members with
  | nil => rfl
  | cons member members ih =>
    obtain ⟨name, value⟩ := member
    simp only [List.cons_append, memberTexts, ih, List.append_assoc]

/-- The strings in an open container. -/
def Frame.texts : Frame → List String
  | .item items => itemTexts items.reverse
  | .member members name => memberTexts members.reverse ++ [name]

/-- The strings in open containers, the outermost first. -/
def frameTexts : List Frame → List String
  | [] => []
  | frame :: frames => frameTexts frames ++ frame.texts

/-- The strings that a reader has read. -/
def Reader.texts : Reader → List String
  | .item frames => frameTexts frames
  | .firstItem frames => frameTexts frames
  | .afterItem items frames => frameTexts frames ++ itemTexts items.reverse
  | .firstName frames => frameTexts frames
  | .nextName members frames => frameTexts frames ++ memberTexts members.reverse
  | .colon members name frames => frameTexts frames ++ (memberTexts members.reverse ++ [name])
  | .afterMember members frames => frameTexts frames ++ memberTexts members.reverse
  | .complete result => result.texts

theorem texts_of_number? [Numeral.SignRule] (known : number? text = some value) :
    value.texts = [] := by
  rw [number?] at known
  dsimp only at known
  split at known
  · cases known
  split at known
  · cases known
  split at known
  · cases known
  split at known
  · split at known
    · obtain rfl := Option.some_inj.mp known
      rw [Value.texts]
    · obtain rfl := Option.some_inj.mp known
      rw [Value.texts]
  · split at known
    · obtain ⟨exponent, -, rfl⟩ := Option.map_eq_some_iff.mp known
      rw [Value.texts]
    · cases known

/-- A word is no string and holds none. -/
theorem texts_of_ofWord? [Numeral.SignRule] (known : Value.ofWord? text = some value) :
    value.texts = [] := by
  unfold Value.ofWord? at known
  repeat'
    split at known
    · obtain rfl := Option.some_inj.mp known
      rfl
  exact texts_of_number? known

namespace Reader

theorem texts_put (value : Value) (frames : List Frame) :
    (put value frames).texts = frameTexts frames ++ value.texts := by
  cases frames with
  | nil => rfl
  | cons frame frames =>
    cases frame with
    | item items =>
      simp [put, texts, frameTexts, Frame.texts, itemTexts_append, itemTexts]
    | member members name =>
      simp [put, texts, frameTexts, Frame.texts, memberTexts_append, memberTexts]

variable [Numeral.SignRule]

theorem texts_start (known : start frames token = some next) :
    next.texts = frameTexts frames ++ token.text?.toList := by
  cases token with
  | openBracket =>
    obtain rfl := Option.some_inj.mp known
    simp [texts, Token.text?]
  | openBrace =>
    obtain rfl := Option.some_inj.mp known
    simp [texts, Token.text?]
  | string text =>
    obtain rfl := Option.some_inj.mp known
    exact texts_put _ _
  | word text =>
    obtain ⟨value, word, rfl⟩ := Option.map_eq_some_iff.mp known
    rw [texts_put, texts_of_ofWord? word]
    rfl
  | closeBrace => cases known
  | closeBracket => cases known
  | comma => cases known
  | colon => cases known

/-- A reader keeps the strings that it reads, in order. -/
theorem texts_step (known : step reader token = some next) :
    next.texts = reader.texts ++ token.text?.toList := by
  unfold step at known
  split at known
  · exact texts_start known
  · obtain rfl := Option.some_inj.mp known
    exact texts_put _ _
  · split at known
    · rw [texts_start known]
      simp [texts, frameTexts, Frame.texts, itemTexts]
    · cases known
  · obtain rfl := Option.some_inj.mp known
    simp [texts, frameTexts, Frame.texts, Token.text?]
  · obtain rfl := Option.some_inj.mp known
    rw [texts_put]
    simp [texts, Value.texts, Token.text?]
  · obtain rfl := Option.some_inj.mp known
    exact texts_put _ _
  · split at known
    · obtain rfl := Option.some_inj.mp known
      simp [texts, memberTexts, Token.text?]
    · cases known
  · obtain rfl := Option.some_inj.mp known
    simp [texts, Token.text?]
  · obtain rfl := Option.some_inj.mp known
    simp [texts, frameTexts, Frame.texts, Token.text?]
  · obtain rfl := Option.some_inj.mp known
    simp [texts, Token.text?]
  · obtain rfl := Option.some_inj.mp known
    rw [texts_put]
    simp [texts, Value.texts, Token.text?]
  · cases known

theorem texts_foldlM (known : tokens.foldlM step reader = some next) :
    next.texts = reader.texts ++ tokens.filterMap Token.text? := by
  induction tokens generalizing reader with
  | nil =>
    obtain rfl := Option.some_inj.mp known
    simp
  | cons token tokens ih =>
    rw [List.foldlM_cons] at known
    obtain ⟨middle, first, rest⟩ := Option.bind_eq_some_iff.mp known
    rw [ih rest, texts_step first, List.filterMap_cons, List.append_assoc]
    cases token.text? <;> rfl

end Reader

/-- The strings of a document are those of its value. -/
theorem texts_of_ofTokens? [Numeral.SignRule] (known : ofTokens? tokens = some value) :
    tokens.filterMap Token.text? = value.texts := by
  obtain ⟨reader, read, finished⟩ := Option.bind_eq_some_iff.mp known
  have all := Reader.texts_foldlM read
  cases reader with
  | complete result =>
    obtain rfl := Option.some_inj.mp finished
    simpa [Reader.texts, frameTexts] using all.symm
  | _ => cases finished

end Json

end CounterTrace
