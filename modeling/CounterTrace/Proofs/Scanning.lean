import CounterTrace.Json.Token

/-!
# Text as tokens

What the scanner makes of pieces of text. A piece stands for tokens if the scanner makes them of it
wherever it stands between two tokens; such pieces are put together by appending. A text without
quotes, backslashes and control characters stands for itself between quotes. No other text does: the
scanner then fails, or finishes a string that is shorter, or runs over the closing quote. For this a
quote is always followed by a comma, a blank and the next quote, as between two strings of a record.

## Main definitions

* `Json.isPlain`, `Json.IsPlainText` — characters and texts that stand for themselves in a string
* `Json.Scans` — the tokens that a piece of text stands for
* `Json.Closes` — the strings that a text in front of a closing quote may become

## Main results

* `Json.Scans.append`, `Json.Scans.word_append` — pieces put together
* `Json.exists_string_of_foldlM` — the first string of a text that begins inside a string
* `Json.Closes.forall_isPlain` — only a plain text is read as itself
-/

namespace CounterTrace.Json

variable {c : Char} {text more acc longer result run : List Char} {mode onward : Mode}
  {tokens before others : List Token} {scanner next : Scanner}

/-- A character that stands for itself in a string. -/
def isPlain (c : Char) : Bool := c != '"' && c != '\\' && decide (0x20 ≤ c.toNat)

/-- A text whose characters all stand for themselves in a string. -/
def IsPlainText (text : String) : Prop := ∀ c ∈ text.toList, isPlain c

instance (text : String) : Decidable (IsPlainText text) :=
  decidable_of_iff (text.toList.all isPlain = true) List.all_eq_true

theorem isPlain_iff : isPlain c ↔ c ≠ '"' ∧ c ≠ '\\' ∧ 0x20 ≤ c.toNat := by
  simp [isPlain, and_assoc]

/-! ### Runs of characters and tokens -/

theorem foldlM_cons_of_eq_some {σ α : Type} {step : σ → α → Option σ} {state onward : σ} {first : α}
    {rest : List α} (known : step state first = some onward) :
    (first :: rest).foldlM step state = rest.foldlM step onward := by
  rw [List.foldlM_cons, known, Option.bind_eq_bind, Option.bind_some]

theorem foldlM_append_of_eq_some {σ α : Type} {step : σ → α → Option σ} {state onward : σ}
    {first rest : List α} (known : first.foldlM step state = some onward) :
    (first ++ rest).foldlM step state = rest.foldlM step onward := by
  rw [List.foldlM_append, known, Option.bind_eq_bind, Option.bind_some]

/-! ### Pieces of text -/

/-- A piece of text stands for tokens: a scanner that is between two tokens makes them of it, and is
between two tokens again. -/
def Scans (text : List Char) (tokens : List Token) : Prop :=
  ∀ before : List Token, text.foldlM Scanner.step ⟨.between, before⟩ =
    some ⟨.between, tokens.reverse ++ before⟩

theorem Scans.append (first : Scans text tokens) (second : Scans more others) :
    Scans (text ++ more) (tokens ++ others) := by
  intro before
  rw [foldlM_append_of_eq_some (first before), second (tokens.reverse ++ before)]
  simp

theorem tokens?_of_scans (scans : Scans text tokens) : tokens? text = some tokens := by
  rw [tokens?, scans []]
  simp [Scanner.finish]

theorem start_of_isWordChar (letter : isWordChar c) :
    Scanner.start before c = some ⟨.word [c], before⟩ := by
  have other : ∀ mark, isWordChar mark = false → (c == mark) = false := by
    intro mark apart
    rw [beq_eq_false_iff_ne]
    rintro rfl
    cases letter.symm.trans apart
  simp [Scanner.start, isJsonBlank, letter, other ' ' rfl, other '\t' rfl, other '\n' rfl,
    other '\r' rfl, other '\x7b' rfl, other '\x7d' rfl, other '[' rfl, other ']' rfl, other ',' rfl,
    other ':' rfl, other '"' rfl]

theorem foldlM_word (letters : ∀ c ∈ run, isWordChar c) :
    run.foldlM Scanner.step ⟨.word text, before⟩ = some ⟨.word (run.reverse ++ text), before⟩ := by
  induction run generalizing text with
  | nil => rfl
  | cons c run ih =>
    rw [List.forall_mem_cons] at letters
    have first : Scanner.step ⟨.word text, before⟩ c = some ⟨.word (c :: text), before⟩ := by
      simp [Scanner.step, letters.1]
    rw [foldlM_cons_of_eq_some first, ih letters.2]
    simp

/-- A word is begun between two tokens and not finished yet. -/
theorem foldlM_word_of_between (proper : run ≠ []) (letters : ∀ c ∈ run, isWordChar c) :
    run.foldlM Scanner.step ⟨.between, before⟩ = some ⟨.word run.reverse, before⟩ := by
  obtain ⟨first, run, rfl⟩ := List.exists_cons_of_ne_nil proper
  rw [List.forall_mem_cons] at letters
  have opened : Scanner.step ⟨.between, before⟩ first = some ⟨.word [first], before⟩ :=
    start_of_isWordChar letters.1
  rw [foldlM_cons_of_eq_some opened, foldlM_word letters.2, List.reverse_cons]

/-- A character that cannot go on with a word is read as if the word had been finished before it. -/
theorem step_word_of_stop (stop : isWordChar c = false) :
    Scanner.step ⟨.word run.reverse, before⟩ c =
      Scanner.step ⟨.between, .word run :: before⟩ c := by
  simp [Scanner.step, stop]

/-- A word ends at the first character that cannot go on with it. -/
theorem Scans.word_append (proper : run ≠ []) (letters : ∀ c ∈ run, isWordChar c)
    (stop : isWordChar c = false) (rest : Scans (c :: more) tokens) :
    Scans (run ++ c :: more) (.word run :: tokens) := by
  intro before
  rw [foldlM_append_of_eq_some (foldlM_word_of_between proper letters), List.foldlM_cons,
    step_word_of_stop stop, ← List.foldlM_cons, rest (.word run :: before)]
  simp

theorem step_string_of_isPlain (plain : isPlain c) :
    Scanner.step ⟨.string text none, before⟩ c = some ⟨.string (c :: text) none, before⟩ := by
  obtain ⟨quote, slash, visible⟩ := isPlain_iff.mp plain
  simp [Scanner.step, quote, slash, Nat.not_lt.mpr visible]

/-! ### What the scanner keeps -/

/-- The scanner keeps the tokens that it has made. -/
theorem suffix_of_step (known : Scanner.step scanner c = some next) :
    scanner.tokens <:+ next.tokens := by
  have started : ∀ {tokens : List Token} {next : Scanner},
      Scanner.start tokens c = some next → tokens <:+ next.tokens := by
    intro tokens next known
    rw [Scanner.start] at known
    repeat'
      split at known
      · obtain rfl := Option.some_inj.mp known
        simp
    cases known
  rw [Scanner.step] at known
  split at known
  · exact started known
  · split at known
    · obtain rfl := Option.some_inj.mp known
      simp
    · exact (List.suffix_cons _ _).trans (started known)
  · split at known
    · obtain rfl := Option.some_inj.mp known
      simp
    · split at known
      · cases known
      · split at known
        · obtain rfl := Option.some_inj.mp known
          simp
        · obtain rfl := Option.some_inj.mp known
          simp
  · split at known
    · obtain rfl := Option.some_inj.mp known
      simp
    · split at known
      · cases known
      · obtain ⟨letter, -, rfl⟩ := Option.map_eq_some_iff.mp known
        simp
  · split at known
    · cases known
    · split at known
      · obtain rfl := Option.some_inj.mp known
        simp
      · obtain ⟨mode, -, rfl⟩ := Option.map_eq_some_iff.mp known
        simp

theorem suffix_of_foldlM (known : text.foldlM Scanner.step scanner = some next) :
    scanner.tokens <:+ next.tokens := by
  induction text generalizing scanner with
  | nil =>
    obtain rfl := Option.some_inj.mp known
    exact List.suffix_refl _
  | cons c text ih =>
    rw [List.foldlM_cons] at known
    obtain ⟨middle, first, rest⟩ := Option.bind_eq_some_iff.mp known
    exact (suffix_of_step first).trans (ih rest)

theorem prefix_of_finish (known : scanner.finish = some tokens) :
    scanner.tokens.reverse <+: tokens := by
  rw [Scanner.finish] at known
  split at known
  · obtain rfl := Option.some_inj.mp known
    exact List.prefix_refl _
  · obtain rfl := Option.some_inj.mp known
    simp
  · cases known

/-! ### Strings -/

namespace Mode

/-- The characters read so far of the string in which a scanner stands, reversed. -/
def inString? : Mode → Option (List Char)
  | .string text _ => some text
  | .escape text _ => some text
  | .unit text _ _ _ => some text
  | _ => none

/-- Whether a scanner stands inside an escape: behind a backslash, in the digits of a code unit, or
between the two halves of a surrogate pair. -/
def isPending : Mode → Bool
  | .string _ high => high.isSome
  | .escape _ _ => true
  | .unit _ _ _ _ => true
  | _ => false

/-- Whether a scanner stands behind a backslash. -/
def isEscape : Mode → Bool
  | .escape _ _ => true
  | _ => false

end Mode

/-- What may come of a text in front of a closing quote, read by a scanner that stands in a string
and has read some characters of it: all characters of the text stand for themselves; or escapes and
quotes in it make the string shorter than it is; or its last character is a backslash, so that the
string goes on behind the quote and ends with the blank before the next one. -/
inductive Closes (mode : Mode) (acc text result : List Char) : Prop
  | plain (settled : mode.isPending = false) (plain : ∀ c ∈ text, isPlain c)
      (same : result = acc.reverse ++ text)
  | shorter (fewer : result.length + (if mode.isPending then 0 else 1) ≤ acc.length + text.length)
  | beyond (last : result.getLast? = some ' ')
      (slash : text.getLast? = some '\\' ∨ text = [] ∧ mode.isEscape)

/-- One more character of an escape, which comes to at most one character of the string. -/
theorem Closes.cons_of_pending (pending : mode.isPending) (noEscape : onward.isEscape = false)
    (length : longer.length ≤ acc.length + (if onward.isPending then 0 else 1))
    (closes : Closes onward longer text result) : Closes mode acc (c :: text) result := by
  cases closes with
  | plain settled plain same =>
    refine .shorter ?_
    rw [settled] at length
    rw [pending, same, List.length_append, List.length_reverse, List.length_cons]
    simp only [Bool.false_eq_true, if_true, if_false] at length ⊢
    omega
  | shorter fewer =>
    refine .shorter ?_
    rw [pending, List.length_cons]
    simp only [if_true]
    omega
  | beyond last slash =>
    refine .beyond last (Or.inl ?_)
    rcases slash with behind | ⟨-, escape⟩
    · rw [List.getLast?_cons, behind]
      rfl
    · cases noEscape.symm.trans escape

/-- One more character of the string that stands for itself. -/
theorem Closes.cons_of_isPlain (visible : isPlain c)
    (closes : Closes (.string (c :: acc) none) (c :: acc) text result) :
    Closes (.string acc none) acc (c :: text) result := by
  cases closes with
  | plain settled plain same =>
    exact .plain rfl (List.forall_mem_cons.mpr ⟨visible, plain⟩) (by simp [same])
  | shorter fewer =>
    refine .shorter ?_
    simp only [Mode.isPending, Option.isSome_none, Bool.false_eq_true, if_false, List.length_cons]
      at fewer ⊢
    omega
  | beyond last slash =>
    refine .beyond last (Or.inl ?_)
    rcases slash with behind | ⟨-, escape⟩
    · rw [List.getLast?_cons, behind]
      rfl
    · cases escape

/-- A backslash in the string. -/
theorem Closes.cons_backslash {high : Option Nat}
    (closes : Closes (.escape acc high) acc text result) :
    Closes (.string acc high) acc ('\\' :: text) result := by
  cases closes with
  | plain settled plain same => cases settled
  | shorter fewer =>
    refine .shorter ?_
    have most : (if (Mode.string acc high).isPending then 0 else 1) ≤ 1 := by
      split <;> omega
    simp only [Mode.isPending, if_true] at fewer
    rw [List.length_cons]
    omega
  | beyond last slash =>
    refine .beyond last (Or.inl ?_)
    rcases slash with behind | ⟨rfl, -⟩
    · rw [List.getLast?_cons, behind]
      rfl
    · rfl

/-- A code unit at its last digit: one more character of the string, or half of one. -/
theorem inString?_of_endUnit {high : Option Nat} {unit : Nat}
    (known : endUnit acc high unit = some onward) :
    ∃ longer, onward.inString? = some longer ∧ onward.isEscape = false ∧
      longer.length ≤ acc.length + (if onward.isPending then 0 else 1) := by
  rw [endUnit.eq_def] at known
  dsimp only at known
  split at known
  · split at known
    · obtain rfl := Option.some_inj.mp known
      exact ⟨_, rfl, rfl, by simp [Mode.isPending]⟩
    · cases known
  · split at known
    · obtain rfl := Option.some_inj.mp known
      exact ⟨_, rfl, rfl, by simp [Mode.isPending]⟩
    · split at known
      · cases known
      · obtain rfl := Option.some_inj.mp known
        exact ⟨_, rfl, rfl, by simp [Mode.isPending]⟩

/-- What one character does inside a string: a quote closes the string, and any other is read on. -/
theorem step_inside (inside : mode.inString? = some acc)
    (first : Scanner.step ⟨mode, before⟩ c = some next) :
    (mode = .string acc none ∧ c = '"' ∧
        next = ⟨.between, .string (String.ofList acc.reverse) :: before⟩) ∨
      ∃ onward longer, next = ⟨onward, before⟩ ∧ onward.inString? = some longer ∧
        ∀ text result, Closes onward longer text result → Closes mode acc (c :: text) result := by
  cases mode with
  | between => cases inside
  | word run => cases inside
  | string run high =>
    obtain rfl := Option.some_inj.mp inside
    by_cases slash : c = '\\'
    · subst slash
      obtain rfl := Option.some_inj.mp first
      exact Or.inr ⟨_, _, rfl, rfl, fun _ _ closes => closes.cons_backslash⟩
    · rw [Scanner.step] at first
      dsimp only at first
      rw [if_neg (by simpa using slash)] at first
      split at first
      · cases first
      rename_i visible
      rw [Bool.or_eq_true, not_or, Bool.not_eq_true, Option.isSome_eq_false_iff,
        Option.isNone_iff_eq_none, decide_eq_true_eq] at visible
      obtain ⟨rfl, visible⟩ := visible
      split at first
      · rename_i quote
        obtain rfl := Option.some_inj.mp first
        exact Or.inl ⟨rfl, by simpa using quote, rfl⟩
      · rename_i quote
        obtain rfl := Option.some_inj.mp first
        have plain : isPlain c :=
          isPlain_iff.mpr ⟨by simpa using quote, slash, Nat.not_lt.mp visible⟩
        exact Or.inr ⟨_, _, rfl, rfl, fun _ _ closes => closes.cons_of_isPlain plain⟩
  | escape run high =>
    obtain rfl := Option.some_inj.mp inside
    rw [Scanner.step] at first
    dsimp only at first
    split at first
    · obtain rfl := Option.some_inj.mp first
      exact Or.inr ⟨_, _, rfl, rfl, fun _ _ closes =>
        closes.cons_of_pending rfl rfl (by simp [Mode.isPending])⟩
    · split at first
      · cases first
      · obtain ⟨letter, -, rfl⟩ := Option.map_eq_some_iff.mp first
        exact Or.inr ⟨_, _, rfl, rfl, fun _ _ closes =>
          closes.cons_of_pending rfl rfl (by simp [Mode.isPending])⟩
  | unit run high count value =>
    obtain rfl := Option.some_inj.mp inside
    rw [Scanner.step] at first
    dsimp only at first
    split at first
    · cases first
    · split at first
      · obtain rfl := Option.some_inj.mp first
        exact Or.inr ⟨_, _, rfl, rfl, fun _ _ closes =>
          closes.cons_of_pending rfl rfl (by simp [Mode.isPending])⟩
      · obtain ⟨onward, ended, rfl⟩ := Option.map_eq_some_iff.mp first
        obtain ⟨longer, within, noEscape, length⟩ := inString?_of_endUnit ended
        exact Or.inr ⟨_, _, rfl, within, fun _ _ closes =>
          closes.cons_of_pending rfl noEscape length⟩

/-- The quote behind a text closes the string, unless a backslash stands before it: then the next
quote does. -/
theorem exists_string_of_quote {rest : List Char} {last : Scanner}
    (inside : mode.inString? = some acc)
    (scanned : ('"' :: ',' :: ' ' :: '"' :: rest).foldlM Scanner.step ⟨mode, before⟩ =
      some last) :
    ∃ result, .string (String.ofList result) :: before <:+ last.tokens ∧
      Closes mode acc [] result := by
  cases mode with
  | between => cases inside
  | word run => cases inside
  | string run high =>
    obtain rfl := Option.some_inj.mp inside
    cases high with
    | some first => cases scanned
    | none =>
      have closed : (',' :: ' ' :: '"' :: rest).foldlM Scanner.step
          ⟨.between, .string (String.ofList run.reverse) :: before⟩ = some last := scanned
      exact ⟨run.reverse, suffix_of_foldlM closed, .plain rfl (by simp) (by simp)⟩
  | escape run high =>
    obtain rfl := Option.some_inj.mp inside
    cases high with
    | some first => cases scanned
    | none =>
      have closed : rest.foldlM Scanner.step
          ⟨.between, .string (String.ofList (' ' :: ',' :: '"' :: run).reverse) :: before⟩ =
            some last := scanned
      exact ⟨_, suffix_of_foldlM closed, .beyond (by simp) (Or.inr ⟨rfl, rfl⟩)⟩
  | unit run high count value => cases scanned

/-- What the scanner makes of a text in front of a closing quote, a comma and a blank, and of the
next quote. -/
theorem exists_string_of_foldlM {rest : List Char} {last : Scanner}
    (inside : mode.inString? = some acc)
    (scanned : (text ++ '"' :: ',' :: ' ' :: '"' :: rest).foldlM Scanner.step ⟨mode, before⟩ =
      some last) :
    ∃ result, .string (String.ofList result) :: before <:+ last.tokens ∧
      Closes mode acc text result := by
  induction text generalizing mode acc with
  | nil => exact exists_string_of_quote inside scanned
  | cons c text ih =>
    rw [List.cons_append, List.foldlM_cons] at scanned
    obtain ⟨next, first, scanned⟩ := Option.bind_eq_some_iff.mp scanned
    rcases step_inside inside first with ⟨rfl, rfl, rfl⟩ | ⟨onward, longer, rfl, within, closes⟩
    · exact ⟨acc.reverse, suffix_of_foldlM scanned, .shorter (by simp [Mode.isPending])⟩
    · obtain ⟨result, made, closed⟩ := ih within scanned
      exact ⟨result, made, closes text result closed⟩

/-- Only a plain text comes of itself. -/
theorem Closes.forall_isPlain (closes : Closes (.string [] none) [] text text) :
    ∀ c ∈ text, isPlain c := by
  cases closes with
  | plain settled plain same => exact plain
  | shorter fewer =>
    simp only [Mode.isPending, Option.isSome_none, Bool.false_eq_true, if_false, List.length_nil]
      at fewer
    omega
  | beyond last slash =>
    rcases slash with behind | ⟨-, escape⟩
    · cases last.symm.trans behind
    · cases escape

end CounterTrace.Json
