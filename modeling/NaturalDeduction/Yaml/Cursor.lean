import NaturalDeduction.Yaml.Character

/-!
# Positions in a document

A `Cursor` is what is left of a document together with the place where it begins. Columns count from
zero; the byte order mark has no width.
-/

namespace NaturalDeduction.Yaml

/-- A position in a document. -/
structure Cursor where
  /-- What is left of the document. -/
  rest : List Char
  /-- The number of characters before. -/
  index : Nat
  /-- The number of lines before. -/
  line : Nat
  /-- The number of characters before on the line. -/
  column : Nat

namespace Cursor

/-- The beginning of a document. -/
def start (s : List Char) : Cursor :=
  ⟨s, 0, 0, 0⟩

/-- The position one character further on. A carriage return before a line feed does not yet break
the line. -/
def next (c : Cursor) : Cursor :=
  match c.rest with
  | [] => c
  | ch :: rest =>
    if isBreak ch && !(ch == '\r' && rest.head? == some '\n') then
      ⟨rest, c.index + 1, c.line + 1, 0⟩
    else if ch == byteOrderMark then ⟨rest, c.index + 1, c.line, c.column⟩
    else ⟨rest, c.index + 1, c.line, c.column + 1⟩

/-- The position `n` characters further on. -/
def advance : (n : Nat) → Cursor → Cursor
  | 0, c => c
  | n + 1, c => advance n c.next

/-- The characters that satisfy a test, up to the first that does not, and the position there. -/
def span (test : Char → Bool) (c : Cursor) : List Char × Cursor :=
  let taken := c.rest.takeWhile test
  (taken, c.advance taken.length)

/-- The position after characters that satisfy a test. -/
def skip (test : Char → Bool) (c : Cursor) : Cursor :=
  (c.span test).2

/-- The position after at most `n` spaces. -/
def skipSpaces : (n : Nat) → Cursor → Cursor
  | 0, c => c
  | n + 1, c => if c.rest.head? == some ' ' then skipSpaces n c.next else c

/-- The break at a position, as it stands in a text, and the position after it. There may be none.
-/
def takeBreak (c : Cursor) : List Char × Cursor :=
  match c.rest with
  | '\r' :: '\n' :: _ => (['\n'], c.advance 2)
  | ch :: _ =>
    if ch == lineSeparator || ch == paragraphSeparator then ([ch], c.next)
    else if isBreak ch then (['\n'], c.next)
    else ([], c)
  | [] => ([], c)

/-- Whether a position is at a break. -/
def atBreak (c : Cursor) : Bool :=
  match c.rest with
  | ch :: _ => isBreak ch
  | [] => false

/-- The position after spaces and a comment, at the end of the line; there may be nothing else. -/
def restOfLine? (c : Cursor) : Option Cursor :=
  let c := c.skip (· == ' ')
  let c := if c.rest.head? == some '#' then c.skip fun ch => !isBreak ch else c
  if startsWithBreak c.rest then some c.takeBreak.2 else none

end Cursor

end NaturalDeduction.Yaml
