import Mathlib.Data.List.Basic
import CounterTrace.Proofs.Documents
import CounterTrace.Proofs.Scanning
import CounterTrace.Proofs.Settings
import CounterTrace.Proofs.Spelling

/-!
# Printed values

Reading undoes printing. A value is printed as tokens in the one way that its form allows: null and
integers as words, strings as strings, and containers between their brackets, with commas between
the items. The reader makes the same value of them, at any place where a value is due, as long as
its integers are within the limits and the containers are not nested too deep. An integer beyond the
limits is a word that the reader refuses, wherever it stands.

## Main definitions

* `Json.Printed` — the tokens of a value
* `Json.Value.Nests` — a value whose containers are nested at most so deep

## Main results

* `Json.Printed.apart` — the tokens of a value are apart
* `Json.readAs_of_printed` — a printed value is read where a value is due
* `Json.ofTokens?_of_printed` — a printed document is read as its value
* `Json.ofTokens?_of_not_within` — it is refused if an integer is beyond the limits
-/

namespace CounterTrace.Json

variable {value : Value} {tokens rest : List Token} {room : Nat} {frames : List Frame}

/-- Tokens with a comma between each two of them. -/
def separated (pieces : List (List Token)) : List Token := [.comma].intercalate pieces

/-- A member of an object: its name, its value and the tokens of that. -/
abbrev PrintedMember := String × Value × List Token

/-- The tokens of a member. -/
def memberTokens (member : PrintedMember) : List Token := .string member.1 :: .colon :: member.2.2

/-- The tokens that a value is printed as. Items and members come with the tokens of their
values. -/
inductive Printed : Value → List Token → Prop
  | null : Printed .null [.word "null".toList]
  | integer (n : Int) : Printed (.integer n) [.word (Numeral.text n).toList]
  | string (text : String) : Printed (.string text) [.string text]
  | array {items : List (Value × List Token)} (each : ∀ item ∈ items, Printed item.1 item.2) :
    Printed (.array (items.map (·.1)))
      (.openBracket :: separated (items.map (·.2)) ++ [.closeBracket])
  | object {members : List PrintedMember}
      (each : ∀ member ∈ members, Printed member.2.1 member.2.2) :
    Printed (.object (members.map fun member => (member.1, member.2.1)))
      (.openBrace :: separated (members.map memberTokens) ++ [.closeBrace])

/-- A value in which containers are nested at most so deep. -/
inductive Value.Nests : Nat → Value → Prop
  | null {room : Nat} : Nests room .null
  | integer {room : Nat} (n : Int) : Nests room (.integer n)
  | string {room : Nat} (text : String) : Nests room (.string text)
  | array {room : Nat} {items : List Value} (each : ∀ item ∈ items, Nests room item) :
    Nests (room + 1) (.array items)
  | object {room : Nat} {members : List (String × Value)}
      (each : ∀ member ∈ members, Nests room member.2) : Nests (room + 1) (.object members)

theorem separated_cons_cons (first second : List Token) (more : List (List Token)) :
    separated (first :: second :: more) = first ++ .comma :: separated (second :: more) := by
  rw [separated, List.intercalate_cons_cons, ← separated, List.append_assoc,
    List.singleton_append]

/-- A printed value does not begin like the end of an array. -/
theorem Printed.exists_cons (printed : Printed value tokens) :
    ∃ first more, tokens = first :: more ∧ first ≠ .closeBracket := by
  cases printed <;> exact ⟨_, _, rfl, by simp⟩

theorem separated_cons (first : List Token) (more : List (List Token)) :
    ∃ rest, separated (first :: more) = first ++ rest := by
  cases more with
  | nil => exact ⟨[], by rw [separated, List.intercalate_singleton, List.append_nil]⟩
  | cons second more => exact ⟨_, separated_cons_cons first second more⟩

theorem exists_cons_separated {items : List (Value × List Token)} (proper : items ≠ [])
    (each : ∀ item ∈ items, Printed item.1 item.2) :
    ∃ first more, separated (items.map (·.2)) = first :: more ∧ first ≠ .closeBracket := by
  obtain ⟨item, items, rfl⟩ := List.exists_cons_of_ne_nil proper
  obtain ⟨first, more, shape, begins⟩ := (each item List.mem_cons_self).exists_cons
  obtain ⟨rest, whole⟩ := separated_cons item.2 (items.map (·.2))
  exact ⟨first, more ++ rest, by rw [List.map_cons, whole, shape, List.cons_append], begins⟩

theorem exists_cons_separated_members {members : List PrintedMember} (proper : members ≠ []) :
    ∃ name more, separated (members.map memberTokens) = .string name :: more := by
  obtain ⟨member, members, rfl⟩ := List.exists_cons_of_ne_nil proper
  obtain ⟨rest, whole⟩ := separated_cons (memberTokens member) (members.map memberTokens)
  exact ⟨member.1, .colon :: member.2.2 ++ rest, by rw [List.map_cons, whole, memberTokens]; rfl⟩

/-- What stands in a piece stands among the pieces with their commas. -/
theorem mem_separated {piece : List Token} {pieces : List (List Token)} (listed : piece ∈ pieces)
    {token : Token} (inside : token ∈ piece) : token ∈ separated pieces := by
  induction pieces with
  | nil => cases listed
  | cons first more ih =>
    rcases List.mem_cons.mp listed with rfl | later
    · obtain ⟨rest, whole⟩ := separated_cons piece more
      exact whole ▸ List.mem_append_left rest inside
    · obtain ⟨second, more, rfl⟩ := List.exists_cons_of_ne_nil (List.ne_nil_of_mem later)
      rw [separated_cons_cons]
      exact List.mem_append_right first (List.mem_cons_of_mem _ (ih later))

theorem apart_separated {pieces : List (List Token)} (each : ∀ piece ∈ pieces, Apart piece) :
    Apart (separated pieces) := by
  induction pieces with
  | nil => exact List.IsChain.nil
  | cons first more ih =>
    obtain ⟨head, tail⟩ := List.forall_mem_cons.mp each
    cases more with
    | nil => rwa [separated, List.intercalate_singleton]
    | cons second more =>
      rw [separated_cons_cons]
      exact head.append_cons rfl (ih tail)

/-- Tokens that are apart are so between brackets. -/
theorem Apart.enclosed {first last : Token} (apart : Apart tokens) (opens : first.isWord = false)
    (closes : last.isWord = false) : Apart (first :: tokens ++ [last]) :=
  have start : Apart [] := .nil
  start.append_cons opens (apart.append_cons closes .nil)

/-- In the tokens of a value no two in a row are words. -/
theorem Printed.apart (printed : Printed value tokens) : Apart tokens := by
  induction printed with
  | null => exact .singleton _
  | integer n => exact .singleton _
  | string text => exact .singleton _
  | array each ih => exact (apart_separated (List.forall_mem_map.mpr ih)).enclosed rfl rfl
  | object each ih =>
    refine (apart_separated (List.forall_mem_map.mpr fun member listed => ?_)).enclosed rfl rfl
    have name : Apart [.string member.1] := .singleton _
    exact name.append_cons rfl (ih member listed)

variable [Numeral.SignRule]

/-! ### Containers -/

/-- What is read where a value is due. -/
def ReadAs (value : Value) (tokens : List Token) (frames : List Frame) : Prop :=
  ∀ rest : List Token, (tokens ++ rest).foldlM Reader.step (.item frames) =
    rest.foldlM Reader.step (Reader.put value frames)

/-- The items of an array, up to its end. -/
theorem foldlM_items {items : List (Value × List Token)} {before : List Value} (proper : items ≠ [])
    (each : ∀ item ∈ items, ∀ others, ReadAs item.1 item.2 (.item others :: frames)) :
    (separated (items.map (·.2)) ++ .closeBracket :: rest).foldlM Reader.step
        (.item (.item before :: frames)) =
      rest.foldlM Reader.step
        (Reader.put (.array (before.reverse ++ items.map (·.1))) frames) := by
  induction items generalizing before with
  | nil => exact absurd rfl proper
  | cons item items ih =>
    obtain ⟨first, later⟩ := List.forall_mem_cons.mp each
    cases items with
    | nil =>
      rw [List.map_singleton, separated, List.intercalate_singleton, first before]
      simp [Reader.put, Reader.step]
    | cons next items =>
      have comma : (Reader.put item.1 (.item before :: frames)).step .comma =
          some (.item (.item (item.1 :: before) :: frames)) := rfl
      rw [List.map_cons, List.map_cons, separated_cons_cons, List.append_assoc, first before,
        List.cons_append, foldlM_cons_of_eq_some comma, ← List.map_cons,
        ih (List.cons_ne_nil _ _) later]
      simp

/-- The members of an object, up to its end. -/
theorem foldlM_members {members : List PrintedMember} {before : List (String × Value)}
    (proper : members ≠ [])
    (each : ∀ member ∈ members, ∀ others,
      ReadAs member.2.1 member.2.2 (.member others member.1 :: frames)) :
    (separated (members.map memberTokens) ++ .closeBrace :: rest).foldlM Reader.step
        (.nextName before frames) =
      rest.foldlM Reader.step
        (Reader.put (.object (before.reverse ++ members.map fun member => (member.1, member.2.1)))
          frames) := by
  induction members generalizing before with
  | nil => exact absurd rfl proper
  | cons member members ih =>
    obtain ⟨first, later⟩ := List.forall_mem_cons.mp each
    have named : Reader.step (.nextName before frames) (.string member.1) =
        some (.colon before member.1 frames) := rfl
    have colon : Reader.step (.colon before member.1 frames) .colon =
        some (.item (.member before member.1 :: frames)) := rfl
    cases members with
    | nil =>
      rw [List.map_singleton, separated, List.intercalate_singleton, memberTokens, List.cons_append,
        List.cons_append, foldlM_cons_of_eq_some named, foldlM_cons_of_eq_some colon, first before]
      simp [Reader.put, Reader.step]
    | cons next members =>
      have comma : (Reader.put member.2.1 (.member before member.1 :: frames)).step .comma =
          some (.nextName ((member.1, member.2.1) :: before) frames) := rfl
      rw [List.map_cons, List.map_cons, separated_cons_cons, List.append_assoc, memberTokens,
        List.cons_append, List.cons_append, foldlM_cons_of_eq_some named,
        foldlM_cons_of_eq_some colon, first before, List.cons_append, foldlM_cons_of_eq_some comma,
        ← List.map_cons, ih (List.cons_ne_nil _ _) later]
      simp

/-- The first item of an array is read like the others, if there is room for one more container. -/
theorem Reader.foldlM_firstItem {first : Token} (inside : frames.length < maxDepth)
    (begins : first ≠ .closeBracket) :
    (first :: tokens).foldlM step (.firstItem frames) =
      (first :: tokens).foldlM step (.item (.item [] :: frames)) := by
  have same : step (.firstItem frames) first = step (.item (.item [] :: frames)) first := by
    cases first with
    | closeBracket => exact absurd rfl begins
    | _ => exact if_pos inside
  rw [List.foldlM_cons, List.foldlM_cons, same]

/-! ### Values -/

/-- A printed value is read where a value is due. -/
theorem readAs_of_printed (printed : Printed value tokens) (within : value.Within)
    (nests : value.Nests room) (enough : frames.length + room ≤ maxDepth) :
    ReadAs value tokens frames := by
  induction printed generalizing room frames with
  | null => exact fun rest => foldlM_cons_of_eq_some rfl
  | integer n =>
    cases within with
    | integer readable =>
      have read : Reader.step (.item frames) (.word (Numeral.text n).toList) =
          some (Reader.put (.integer n) frames) := by
        rw [Reader.step, Reader.start, ofWord?_text, if_pos readable]
        rfl
      exact fun rest => foldlM_cons_of_eq_some read
  | string text => exact fun rest => foldlM_cons_of_eq_some rfl
  | @array items each ih =>
    cases within with
    | array within =>
    cases nests with
    | @array room items nests =>
    rw [List.forall_mem_map] at within nests
    have opened : Reader.step (.item frames) .openBracket = some (.firstItem frames) := rfl
    intro rest
    rw [List.cons_append, List.cons_append, foldlM_cons_of_eq_some opened, List.append_assoc,
      List.singleton_append]
    by_cases empty : items = []
    · subst empty
      exact foldlM_cons_of_eq_some rfl
    · obtain ⟨first, more, shape, begins⟩ := exists_cons_separated empty each
      have inside : frames.length < maxDepth := by omega
      rw [shape, List.cons_append, Reader.foldlM_firstItem inside begins, ← List.cons_append,
        ← shape]
      refine foldlM_items empty fun item member others => ?_
      exact ih item member (within item member) (nests item member)
        (by rw [List.length_cons]; omega)
  | @object members each ih =>
    cases within with
    | object within =>
    cases nests with
    | @object room members nests =>
    rw [List.forall_mem_map] at within nests
    have opened : Reader.step (.item frames) .openBrace = some (.firstName frames) := rfl
    intro rest
    rw [List.cons_append, List.cons_append, foldlM_cons_of_eq_some opened, List.append_assoc,
      List.singleton_append]
    by_cases empty : members = []
    · subst empty
      exact foldlM_cons_of_eq_some rfl
    · obtain ⟨name, more, shape⟩ := exists_cons_separated_members empty
      have inside : frames.length < maxDepth := by omega
      rw [shape, List.cons_append, Reader.foldlM_firstName inside, ← List.cons_append, ← shape]
      refine foldlM_members empty fun member among others => ?_
      exact ih member among (within member among) (nests member among)
        (by rw [List.length_cons]; omega)

/-- A printed document is read as its value. -/
theorem ofTokens?_of_printed (printed : Printed value tokens) (within : value.Within)
    (nests : value.Nests room) (enough : room ≤ maxDepth) : ofTokens? tokens = some value := by
  have enough : ([] : List Frame).length + room ≤ maxDepth := by
    rw [List.length_nil]
    omega
  have read := readAs_of_printed printed within nests enough []
  rw [List.append_nil] at read
  rw [ofTokens?, read]
  rfl

/-! ### Integers beyond the limits -/

/-- A word that stands for no value may come next nowhere. -/
theorem Reader.foldlM_eq_none {word : List Char} {reader : Reader}
    (unknown : Value.ofWord? word = none) (inside : .word word ∈ tokens) :
    tokens.foldlM step reader = none := by
  have refused : ∀ reader : Reader, reader.step (.word word) = none := by
    have start : ∀ frames : List Frame, start frames (.word word) = none := fun frames => by
      rw [Reader.start, unknown]
      rfl
    intro reader
    cases reader with
    | item frames => exact start frames
    | firstItem frames => simp [Reader.step, start]
    | _ => rfl
  obtain ⟨before, after, rfl⟩ := List.append_of_mem inside
  rw [List.foldlM_append]
  cases before.foldlM step reader with
  | none => rfl
  | some middle =>
    change (Token.word word :: after).foldlM step middle = none
    rw [List.foldlM_cons, refused]
    rfl

/-- A printed value is within the limits if its words are. -/
theorem Printed.within (printed : Printed value tokens)
    (readable : ∀ n, .word (Numeral.text n).toList ∈ tokens → Numeral.isReadable n) :
    value.Within := by
  induction printed with
  | null => exact .null
  | integer n => exact .integer (readable n (by simp))
  | string text => exact .string text
  | array each ih =>
    refine .array (List.forall_mem_map.mpr fun item listed => ih item listed fun n inside => ?_)
    exact readable n (List.mem_append_left _ (List.mem_cons_of_mem _
      (mem_separated (List.mem_map_of_mem listed) inside)))
  | object each ih =>
    refine .object (List.forall_mem_map.mpr fun member listed =>
      ih member listed fun n inside => ?_)
    have behind : .word (Numeral.text n).toList ∈ memberTokens member :=
      List.mem_cons_of_mem _ (List.mem_cons_of_mem _ inside)
    exact readable n (List.mem_append_left _ (List.mem_cons_of_mem _
      (mem_separated (List.mem_map_of_mem listed) behind)))

/-- A printed document in which an integer is beyond the limits is refused. -/
theorem ofTokens?_of_not_within (printed : Printed value tokens) (beyond : ¬ value.Within) :
    ofTokens? tokens = none := by
  obtain ⟨n, tooLong, inside⟩ : ∃ n, ¬ Numeral.isReadable n ∧
      .word (Numeral.text n).toList ∈ tokens := by
    by_contra none
    push Not at none
    exact beyond (printed.within fun n inside => by_contra fun tooLong => none n tooLong inside)
  have unknown : Value.ofWord? (Numeral.text n).toList = none := by
    rw [ofWord?_text, if_neg tooLong]
  rw [ofTokens?, Reader.foldlM_eq_none unknown inside]
  rfl

end CounterTrace.Json
