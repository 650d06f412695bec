import Mathlib.Data.List.Chain
import CounterTrace.Json.Document
import CounterTrace.Proofs.Scanning

/-!
# Ways to spell tokens

The same tokens can be spelled in many ways. Any blanks may stand before a token and at the end; a
character of a string may stand for itself, behind a backslash as a letter, as a code unit of four
hexadecimal digits, or as a pair of surrogates. The scanner reads all of them as the same tokens.
Only two words must not follow each other, as they could run into one; in a document they never do.

## Main definitions

* `Json.SpelledUnit`, `Json.SpelledChar`, `Json.SpelledChars` — spellings inside a string
* `Json.SpelledToken`, `Json.Spelled` — spellings of a token and of tokens
* `Json.Apart` — tokens of which no two in a row are words

## Main results

* `Json.SpelledChars.foldlM` — the scanner reads the characters that are spelled
* `Json.scans_string` — a plain text between quotes is one string
* `Json.tokens?_of_spelled` — the scanner reads the tokens that are spelled
* `Json.parse?_of_spelled` — a spelled document has the value of its tokens
-/

namespace CounterTrace.Json

variable {c : Char} {text more acc spelled : List Char} {before tokens : List Token} {token : Token}
  {unit : Nat} {high : Option Nat} {digits : List Char}

/-! ### Characters of a string -/

/-- A hexadecimal digit of either case, with its value. -/
def IsHexDigit (value : Nat) (c : Char) : Prop :=
  "0123456789abcdef".toList[value]? = some c ∨ "0123456789ABCDEF".toList[value]? = some c

/-- A code unit of sixteen bits as four hexadecimal digits. -/
inductive SpelledUnit : Nat → List Char → Prop
  | digits {unit : Nat} {first second third last : Char}
      (firstDigit : IsHexDigit (unit / 0x1000) first)
      (secondDigit : IsHexDigit (unit / 0x100 % 0x10) second)
      (thirdDigit : IsHexDigit (unit / 0x10 % 0x10) third)
      (lastDigit : IsHexDigit (unit % 0x10) last) :
      SpelledUnit unit [first, second, third, last]

/-- The letters that stand for a character behind a backslash, each with its character. -/
def shortEscapes : List (Char × Char) :=
  [('"', '"'), ('\\', '\\'), ('/', '/'), ('b', '\x08'), ('f', '\x0c'), ('n', '\n'), ('r', '\r'),
    ('t', '\t')]

/-- The ways to spell a character inside a string: as itself, unless it is a quote, a backslash or a
control character; as a letter behind a backslash; or as one code unit or two. -/
inductive SpelledChar : Char → List Char → Prop
  | plain {c : Char} (quote : c ≠ '"') (slash : c ≠ '\\') (visible : 0x20 ≤ c.toNat) :
      SpelledChar c [c]
  | short {c letter : Char} (known : (letter, c) ∈ shortEscapes) : SpelledChar c ['\\', letter]
  | unit {c : Char} {digits : List Char} (spelled : SpelledUnit c.toNat digits) :
      SpelledChar c ('\\' :: 'u' :: digits)
  | pair {c : Char} {first second : List Char} (beyond : 0x10000 ≤ c.toNat)
      (high : SpelledUnit (0xD800 + (c.toNat - 0x10000) / 0x400) first)
      (low : SpelledUnit (0xDC00 + (c.toNat - 0x10000) % 0x400) second) :
      SpelledChar c ('\\' :: 'u' :: first ++ '\\' :: 'u' :: second)

/-- A way to spell the characters of a string one by one. -/
inductive SpelledChars : List Char → List Char → Prop
  | nil : SpelledChars [] []
  | cons {c : Char} {text piece spelled : List Char} (first : SpelledChar c piece)
      (rest : SpelledChars text spelled) : SpelledChars (c :: text) (piece ++ spelled)

instance (value : Nat) (c : Char) : Decidable (IsHexDigit value c) :=
  inferInstanceAs (Decidable (_ ∨ _))

theorem hexDigit?_of_isHexDigit {value : Nat} (digit : IsHexDigit value c) :
    hexDigit? c = some value := by
  have lower : ∀ i : Fin 16, hexDigit? "0123456789abcdef".toList[i] = some i.val := by decide
  have upper : ∀ i : Fin 16, hexDigit? "0123456789ABCDEF".toList[i] = some i.val := by decide
  rcases digit with found | found
  · obtain ⟨inside, rfl⟩ := List.getElem?_eq_some_iff.mp found
    exact lower ⟨value, inside⟩
  · obtain ⟨inside, rfl⟩ := List.getElem?_eq_some_iff.mp found
    exact upper ⟨value, inside⟩

theorem lt_of_isHexDigit {value : Nat} (digit : IsHexDigit value c) : value < 16 := by
  rcases digit with found | found
  · exact (List.getElem?_eq_some_iff.mp found).1
  · exact (List.getElem?_eq_some_iff.mp found).1

theorem Scanner.foldlM_backslash_unit :
    ('\\' :: 'u' :: text).foldlM Scanner.step ⟨.string acc high, before⟩ =
      text.foldlM Scanner.step ⟨.unit acc high 0 0, before⟩ :=
  (foldlM_cons_of_eq_some rfl).trans (foldlM_cons_of_eq_some rfl)

theorem Scanner.step_digit {value digit count : Nat} (known : IsHexDigit digit c)
    (more : count < 3) :
    Scanner.step ⟨.unit acc high count value, before⟩ c =
      some ⟨.unit acc high (count + 1) (16 * value + digit), before⟩ := by
  rw [Scanner.step]
  dsimp only
  rw [hexDigit?_of_isHexDigit known]
  exact if_pos more

theorem Scanner.step_lastDigit {value digit : Nat} (known : IsHexDigit digit c) :
    Scanner.step ⟨.unit acc high 3 value, before⟩ c =
      (endUnit acc high (16 * value + digit)).map fun mode => ⟨mode, before⟩ := by
  rw [Scanner.step]
  dsimp only
  rw [hexDigit?_of_isHexDigit known]
  exact if_neg (Nat.lt_irrefl 3)

/-- The four digits of a code unit finish it. -/
theorem SpelledUnit.foldlM {mode : Mode} (spells : SpelledUnit unit digits)
    (ends : endUnit acc high unit = some mode) :
    (digits ++ text).foldlM Scanner.step ⟨.unit acc high 0 0, before⟩ =
      text.foldlM Scanner.step ⟨mode, before⟩ := by
  cases spells with
  | @digits first second third last firstDigit secondDigit thirdDigit lastDigit =>
    have small := lt_of_isHexDigit firstDigit
    have whole : 16 * (16 * (16 * (16 * 0 + unit / 0x1000) + unit / 0x100 % 0x10) +
        unit / 0x10 % 0x10) + unit % 0x10 = unit := by omega
    have finished : Scanner.step ⟨.unit acc high 3 (16 * (16 * (16 * 0 + unit / 0x1000) +
        unit / 0x100 % 0x10) + unit / 0x10 % 0x10), before⟩ last = some ⟨mode, before⟩ := by
      rw [Scanner.step_lastDigit lastDigit, whole, ends, Option.map_some]
    rw [List.cons_append, List.cons_append, List.cons_append, List.cons_append, List.nil_append,
      foldlM_cons_of_eq_some (Scanner.step_digit firstDigit (by decide)),
      foldlM_cons_of_eq_some (Scanner.step_digit secondDigit (by decide)),
      foldlM_cons_of_eq_some (Scanner.step_digit thirdDigit (by decide)),
      foldlM_cons_of_eq_some finished]

theorem endUnit_single (c : Char) : endUnit acc none c.toNat = some (.string (c :: acc) none) := by
  have valid : c.toNat < 0xD800 ∨ 0xDFFF < c.toNat ∧ c.toNat < 0x110000 := c.valid
  have notHigh : ¬ (0xD800 ≤ c.toNat ∧ c.toNat < 0xDC00) := by omega
  have notLow : ¬ (0xDC00 ≤ c.toNat ∧ c.toNat < 0xE000) := by omega
  simp [endUnit, notHigh, notLow]

theorem endUnit_high {first : Nat} (low : 0xD800 ≤ first) (high : first < 0xDC00) :
    endUnit acc none first = some (.string acc (some first)) := by
  simp [endUnit, low, high]

theorem endUnit_low {c : Char} (beyond : 0x10000 ≤ c.toNat) :
    endUnit acc (some (0xD800 + (c.toNat - 0x10000) / 0x400))
        (0xDC00 + (c.toNat - 0x10000) % 0x400) = some (.string (c :: acc) none) := by
  have isLow : 0xDC00 ≤ 0xDC00 + (c.toNat - 0x10000) % 0x400 ∧
      0xDC00 + (c.toNat - 0x10000) % 0x400 < 0xE000 := by omega
  have whole : 0x10000 + (0xD800 + (c.toNat - 0x10000) / 0x400 - 0xD800) * 0x400 +
      (0xDC00 + (c.toNat - 0x10000) % 0x400 - 0xDC00) = c.toNat := by omega
  rw [endUnit.eq_def]
  dsimp only
  rw [whole, if_pos (by simpa using isLow.2), Char.ofNat_toNat]

/-- A spelled character becomes one character of the string. -/
theorem SpelledChar.foldlM (spells : SpelledChar c spelled) :
    (spelled ++ text).foldlM Scanner.step ⟨.string acc none, before⟩ =
      text.foldlM Scanner.step ⟨.string (c :: acc) none, before⟩ := by
  cases spells with
  | plain quote slash visible =>
    exact foldlM_cons_of_eq_some (step_string_of_isPlain (isPlain_iff.mpr ⟨quote, slash, visible⟩))
  | @short letter known =>
    have table : ∀ entry ∈ shortEscapes, entry.1 ≠ 'u' ∧ escaped? entry.1 = some entry.2 := by
      decide
    obtain ⟨notUnit, stands⟩ := table _ known
    have escaped : Scanner.step ⟨.escape acc none, before⟩ letter =
        some ⟨.string (c :: acc) none, before⟩ := by
      simp [Scanner.step, notUnit, stands]
    exact (foldlM_cons_of_eq_some rfl).trans (foldlM_cons_of_eq_some escaped)
  | unit spells =>
    rw [List.cons_append, List.cons_append, Scanner.foldlM_backslash_unit,
      spells.foldlM (endUnit_single c)]
  | pair beyond first second =>
    have valid : c.toNat < 0xD800 ∨ 0xDFFF < c.toNat ∧ c.toNat < 0x110000 := c.valid
    rw [List.cons_append, List.cons_append, List.cons_append, List.cons_append, List.append_assoc,
      List.cons_append, List.cons_append, Scanner.foldlM_backslash_unit,
      first.foldlM (endUnit_high (by omega) (by omega)), Scanner.foldlM_backslash_unit,
      second.foldlM (endUnit_low beyond)]

/-- Spelled characters become the characters of the string. -/
theorem SpelledChars.foldlM {content : List Char} (spells : SpelledChars content spelled) :
    spelled.foldlM Scanner.step ⟨.string acc none, before⟩ =
      some ⟨.string (content.reverse ++ acc) none, before⟩ := by
  induction spells generalizing acc with
  | nil => rfl
  | cons first rest ih =>
    rw [first.foldlM, ih, List.reverse_cons, List.append_assoc]
    rfl

/-- Plain characters spell themselves. -/
theorem spelledChars_of_isPlain (plain : ∀ c ∈ text, isPlain c) : SpelledChars text text := by
  induction text with
  | nil => exact .nil
  | cons c text ih =>
    obtain ⟨first, rest⟩ := List.forall_mem_cons.mp plain
    obtain ⟨quote, slash, visible⟩ := isPlain_iff.mp first
    exact .cons (.plain quote slash visible) (ih rest)

/-! ### Tokens -/

/-- The ways to spell a token. -/
inductive SpelledToken : Token → List Char → Prop
  | openBrace : SpelledToken .openBrace ['\x7b']
  | closeBrace : SpelledToken .closeBrace ['\x7d']
  | openBracket : SpelledToken .openBracket ['[']
  | closeBracket : SpelledToken .closeBracket [']']
  | comma : SpelledToken .comma [',']
  | colon : SpelledToken .colon [':']
  | string {content : String} {spelled : List Char}
      (inside : SpelledChars content.toList spelled) :
      SpelledToken (.string content) ('"' :: spelled ++ ['"'])
  | word {word : List Char} (proper : word ≠ []) (letters : ∀ c ∈ word, isWordChar c) :
      SpelledToken (.word word) word

/-- The ways to spell tokens: any blanks stand before each of them and at the end. -/
inductive Spelled : List Token → List Char → Prop
  | done {blanks : List Char} (blank : ∀ c ∈ blanks, c ∈ [' ', '\t', '\n', '\r']) :
      Spelled [] blanks
  | cons {blanks text more : List Char} {token : Token} {tokens : List Token}
      (blank : ∀ c ∈ blanks, c ∈ [' ', '\t', '\n', '\r']) (first : SpelledToken token text)
      (rest : Spelled tokens more) : Spelled (token :: tokens) (blanks ++ text ++ more)

/-- Whether a token is a word. -/
def Token.isWord : Token → Bool
  | .word _ => true
  | _ => false

/-- No two tokens in a row are words. -/
def Apart (tokens : List Token) : Prop :=
  tokens.IsChain fun first second => first.isWord = false ∨ second.isWord = false

/-- Between two parts that are apart any other token may stand. -/
theorem Apart.append_cons (first : Apart before) (noWord : token.isWord = false)
    (rest : Apart tokens) : Apart (before ++ token :: tokens) :=
  List.IsChain.append first (List.isChain_cons.mpr ⟨fun _ _ => Or.inl noWord, rest⟩)
    fun _ _ next member => by
      obtain rfl := Option.some_inj.mp member
      exact Or.inr noWord

/-- A text is completed to tokens: a scanner that is between two tokens makes them of it, up to its
end. -/
def Completes (text : List Char) (tokens : List Token) : Prop :=
  ∀ before : List Token, (text.foldlM Scanner.step ⟨.between, before⟩).bind Scanner.finish =
    some (before.reverse ++ tokens)

theorem Scans.completes {first : List Token} (scans : Scans text first)
    (completes : Completes more tokens) : Completes (text ++ more) (first ++ tokens) := by
  intro before
  rw [foldlM_append_of_eq_some (scans before), completes (first.reverse ++ before)]
  simp

theorem scans_blanks (blank : ∀ c ∈ text, c ∈ [' ', '\t', '\n', '\r']) : Scans text [] := by
  intro before
  induction text with
  | nil => rfl
  | cons c text ih =>
    obtain ⟨first, rest⟩ := List.forall_mem_cons.mp blank
    have table : ∀ c ∈ [' ', '\t', '\n', '\r'], isJsonBlank c := by simp [isJsonBlank]
    have passed : Scanner.step ⟨.between, before⟩ c = some ⟨.between, before⟩ := by
      simp [Scanner.step, Scanner.start, table c first]
    rw [foldlM_cons_of_eq_some passed, ih rest]

/-- Every token but a word ends with its last character. -/
theorem SpelledToken.scans (spells : SpelledToken token text) (noWord : token.isWord = false) :
    Scans text [token] := by
  cases spells with
  | @string content spelled inside =>
    intro before
    have opened : Scanner.step ⟨.between, before⟩ '"' = some ⟨.string [] none, before⟩ := rfl
    have closed : Scanner.step ⟨.string content.toList.reverse none, before⟩ '"' =
        some ⟨.between, .string (String.ofList content.toList.reverse.reverse) :: before⟩ := rfl
    rw [List.reverse_reverse, String.ofList_toList] at closed
    rw [List.cons_append, foldlM_cons_of_eq_some opened, foldlM_append_of_eq_some inside.foldlM,
      List.append_nil, foldlM_cons_of_eq_some closed]
    rfl
  | word proper letters => cases noWord
  | _ => exact fun before => rfl

/-- A plain text between quotes is one string. -/
theorem scans_string {content : String} (plain : IsPlainText content) :
    Scans ('"' :: content.toList ++ ['"']) [.string content] :=
  (SpelledToken.string (spelledChars_of_isPlain plain)).scans rfl

/-- A word is completed by what comes next, or by the end of the text. -/
theorem Completes.word_append {word : List Char} (proper : word ≠ [])
    (letters : ∀ c ∈ word, isWordChar c) (stop : ∀ c ∈ more.head?, isWordChar c = false)
    (completes : Completes more tokens) : Completes (word ++ more) (.word word :: tokens) := by
  intro before
  have closed : (more.foldlM Scanner.step ⟨.word word.reverse, before⟩).bind Scanner.finish =
      (more.foldlM Scanner.step ⟨.between, .word word :: before⟩).bind Scanner.finish := by
    cases more with
    | nil => simp [Scanner.finish]
    | cons c more => rw [List.foldlM_cons, List.foldlM_cons, step_word_of_stop (stop c rfl)]
  rw [foldlM_append_of_eq_some (foldlM_word_of_between proper letters), closed,
    completes (.word word :: before)]
  simp

/-- What comes behind a word does not go on with it. -/
theorem Spelled.head?_stops (spells : Spelled tokens text)
    (noWord : ∀ token ∈ tokens.head?, token.isWord = false) :
    ∀ c ∈ text.head?, isWordChar c = false := by
  have table : ∀ c ∈ [' ', '\t', '\n', '\r'], isWordChar c = false := by
    simp only [List.forall_mem_cons]
    exact ⟨rfl, rfl, rfl, rfl, by simp⟩
  cases spells with
  | done blank => exact fun c member => table c (blank c (List.mem_of_mem_head? member))
  | @cons blanks text more token tokens blank first rest =>
    cases blanks with
    | cons c blanks =>
      rintro _ ⟨⟩
      exact table c (blank c List.mem_cons_self)
    | nil =>
      have other := noWord token rfl
      cases first with
      | word proper letters => cases other
      | _ =>
        rintro _ ⟨⟩
        rfl

/-- A token may follow at once. -/
theorem Spelled.cons_adjacent (first : SpelledToken token text) (rest : Spelled tokens more) :
    Spelled (token :: tokens) (text ++ more) :=
  @Spelled.cons [] text more token tokens (by simp) first rest

theorem Spelled.completes (spells : Spelled tokens text) (apart : Apart tokens) :
    Completes text tokens := by
  induction spells with
  | done blank =>
    intro before
    rw [scans_blanks blank before]
    simp [Scanner.finish]
  | @cons blanks text more token tokens blank first rest ih =>
    obtain ⟨next, onward⟩ := List.isChain_cons.mp apart
    rw [List.append_assoc]
    refine (scans_blanks blank).completes ?_
    cases isWord : token.isWord with
    | false => exact (first.scans isWord).completes (ih onward)
    | true =>
      cases first with
      | word proper letters =>
        have noWord : ∀ token ∈ tokens.head?, token.isWord = false := by
          intro token member
          rcases next token member with wrong | noWord
          · cases wrong
          · exact noWord
        exact (ih onward).word_append proper letters (rest.head?_stops noWord)
      | _ => cases isWord

/-- Tokens that are apart are read as they are spelled. -/
theorem tokens?_of_spelled (spells : Spelled tokens text) (apart : Apart tokens) :
    tokens? text = some tokens :=
  spells.completes apart []

/-- A spelled document has the value of its tokens. -/
theorem parse?_of_spelled [Numeral.SignRule] (spells : Spelled tokens text)
    (apart : Apart tokens) : parse? text = ofTokens? tokens := by
  rw [parse?, tokens?_of_spelled spells apart]
  rfl

end CounterTrace.Json
