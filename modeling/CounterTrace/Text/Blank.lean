/-!
# Blanks

Two sets of blank characters. The marker grammar of control files knows the six ASCII blanks; a
number written as text may be surrounded by any character with the `White_Space` property.

## Main definitions

* `Text.isAsciiBlank` — the ASCII blanks
* `Text.isBlank` — the characters with the `White_Space` property
* `Text.trim` — a text without the blanks around it
-/

namespace CounterTrace.Text

/-- The six ASCII blanks: tab, line feed, vertical tab, form feed, carriage return and space. -/
def isAsciiBlank (c : Char) : Bool :=
  (9 ≤ c.toNat && c.toNat ≤ 13) || c.toNat == 32

/-- The twenty-five characters with the `White_Space` property. -/
def isBlank (c : Char) : Bool :=
  isAsciiBlank c || c.toNat == 0x85 || c.toNat == 0xA0 || c.toNat == 0x1680 ||
    (0x2000 ≤ c.toNat && c.toNat ≤ 0x200A) || c.toNat == 0x2028 || c.toNat == 0x2029 ||
    c.toNat == 0x202F || c.toNat == 0x205F || c.toNat == 0x3000

theorem isBlank_of_isAsciiBlank {c : Char} (blank : isAsciiBlank c) : isBlank c := by
  simp [isBlank, blank]

/-- The text without the blanks at its two ends. -/
def trim (text : List Char) : List Char :=
  ((text.dropWhile isBlank).reverse.dropWhile isBlank).reverse

end CounterTrace.Text
