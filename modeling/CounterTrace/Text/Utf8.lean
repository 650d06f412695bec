/-!
# UTF-8

Reading bytes as UTF-8. The reader walks over the bytes once and reports, in order, the characters
and the ill-formed pieces that it meets. An ill-formed piece is as long as the bytes still agree
with some character: a byte that cannot start one stands alone, and a character that breaks off
early is one piece up to the byte that does not continue it. Settings files are refused at the first
such piece; in control files each becomes one replacement character.

## Main definitions

* `Utf8.Piece`, `Utf8.pieces` — what a byte sequence is made of
* `Utf8.decode` — the text of a well-formed byte sequence, or its first fault
* `Utf8.decodeReplacing` — the text with `U+FFFD` for each ill-formed piece
* `Utf8.encode` — the bytes of a text
-/

namespace CounterTrace.Utf8

/-- What is wrong with an ill-formed piece. -/
inductive Flaw where
  | start
  | continuation
  | truncation
  deriving DecidableEq

/-- A character, or an ill-formed piece with its first byte and its length. -/
inductive Piece where
  | char (c : Char)
  | illFormed (flaw : Flaw) (first : UInt8) (length : Nat)
  deriving DecidableEq

/-- A character of which some bytes have been read: its first byte, how many bytes have been read,
how many are missing, the bounds of the next byte, and the number that the bytes so far make up. -/
structure Pending where
  first : UInt8
  seen : Nat
  missing : Nat
  low : UInt8
  high : UInt8
  bits : Nat

/-- The reader between two bytes: an unfinished character if there is one, and the pieces so far in
reverse order. -/
structure Reader where
  pending : Option Pending
  pieces : List Piece

/-- Reads a byte where a character starts. The narrower bounds of the second byte exclude the
overlong forms, the surrogates and what lies above `U+10FFFF`. -/
def Reader.start (pieces : List Piece) (b : UInt8) : Reader :=
  if b < 0x80 then ⟨none, .char (Char.ofNat b.toNat) :: pieces⟩
  else if b < 0xC2 then ⟨none, .illFormed .start b 1 :: pieces⟩
  else if b < 0xE0 then ⟨some ⟨b, 1, 1, 0x80, 0xBF, b.toNat % 0x20⟩, pieces⟩
  else if b < 0xF0 then
    ⟨some ⟨b, 1, 2, if b = 0xE0 then 0xA0 else 0x80, if b = 0xED then 0x9F else 0xBF,
      b.toNat % 0x10⟩, pieces⟩
  else if b < 0xF5 then
    ⟨some ⟨b, 1, 3, if b = 0xF0 then 0x90 else 0x80, if b = 0xF4 then 0x8F else 0xBF,
      b.toNat % 0x08⟩, pieces⟩
  else ⟨none, .illFormed .start b 1 :: pieces⟩

/-- Reads one byte. A byte that does not continue the unfinished character ends that as ill-formed
and is then read as a start. -/
def Reader.step (reader : Reader) (b : UInt8) : Reader :=
  match reader.pending with
  | none => Reader.start reader.pieces b
  | some p =>
    if p.low ≤ b && b ≤ p.high then
      let bits := p.bits * 0x40 + b.toNat % 0x40
      if p.missing ≤ 1 then ⟨none, .char (Char.ofNat bits) :: reader.pieces⟩
      else ⟨some ⟨p.first, p.seen + 1, p.missing - 1, 0x80, 0xBF, bits⟩, reader.pieces⟩
    else Reader.start (.illFormed .continuation p.first p.seen :: reader.pieces) b

/-- The pieces in order; a character still unfinished at the end is ill-formed. -/
def Reader.finish (reader : Reader) : List Piece :=
  match reader.pending with
  | none => reader.pieces.reverse
  | some p => (.illFormed .truncation p.first p.seen :: reader.pieces).reverse

/-- The characters and ill-formed pieces of a byte sequence, in order. -/
def pieces (bytes : List UInt8) : List Piece :=
  (bytes.foldl Reader.step ⟨none, []⟩).finish

/-- The first ill-formed piece of a byte sequence and where it begins. -/
structure Fault where
  flaw : Flaw
  first : UInt8
  position : Nat
  length : Nat
  deriving DecidableEq

/-- The characters of the pieces, or the first fault; `position` is the offset of the first piece
and `text` holds, reversed, the characters before it. -/
def decodePieces (position : Nat) (text : List Char) : List Piece → Except Fault (List Char)
  | [] => .ok text.reverse
  | .char c :: rest => decodePieces (position + c.utf8Size) (c :: text) rest
  | .illFormed flaw first length :: _ => .error ⟨flaw, first, position, length⟩

/-- The text of a well-formed byte sequence, or its first fault. -/
def decode (bytes : List UInt8) : Except Fault (List Char) :=
  decodePieces 0 [] (pieces bytes)

/-- The character that stands for a piece: its own, or the replacement character. -/
def Piece.shown : Piece → Char
  | .char c => c
  | .illFormed .. => '\uFFFD'

/-- The text of a byte sequence with one replacement character for each ill-formed piece. -/
def decodeReplacing (bytes : List UInt8) : List Char :=
  (pieces bytes).map Piece.shown

/-- The bytes of a text. -/
def encode (text : List Char) : List UInt8 :=
  text.flatMap String.utf8EncodeChar

/-- The reason given for a fault. -/
def Flaw.reason : Flaw → String
  | .start => "invalid start byte"
  | .continuation => "invalid continuation byte"
  | .truncation => "unexpected end of data"

example : decode [0x61, 0xE2, 0x82, 0x22] = .error ⟨.continuation, 0xE2, 1, 2⟩ := rfl
example : decodeReplacing [0xED, 0xA0, 0x80, 0x41] = ['\uFFFD', '\uFFFD', '\uFFFD', 'A'] := rfl
example : decode (encode "é€😀".toList) = .ok "é€😀".toList := rfl

end CounterTrace.Utf8
