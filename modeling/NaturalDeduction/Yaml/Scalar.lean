import NaturalDeduction.Number.Digits
import NaturalDeduction.Yaml.Cursor
import NaturalDeduction.Yaml.Fault

/-!
# The texts in YAML documents

A text is written in one of five ways: between apostrophes, between double marks with escapes,
plain, or as the lines below a sign, which are kept or folded. Inside a text of the first three ways
a break is folded: a single one is a space, and of several the first is dropped (`folded`).

The functions go through the text from a position and return the characters and the position after
them. Each step goes over at least one character, so that the length of what is left is enough fuel.
-/

namespace NaturalDeduction.Yaml

/-- A break and the breaks after it, folded. -/
def folded (first others : List Char) : List Char :=
  if first ≠ ['\n'] then first ++ others
  else if others.isEmpty then [' ']
  else others

/-! ## Quoted texts -/

/-- The breaks of the empty lines at a position inside a quoted text, and the position after them
and the spaces behind them. The marks between documents may not stand there. -/
def emptyLines : (fuel : Nat) → Cursor → Except Fault (List Char × Cursor)
  | 0, _ => .error .malformed
  | fuel + 1, c =>
    if startsWithMarks c.rest then .error .malformed
    else
      let c := c.skip isSpace
      if c.atBreak then do
        let (b, c) := c.takeBreak
        let (bs, c) ← emptyLines fuel c
        .ok (b ++ bs, c)
      else .ok ([], c)

/-- The single characters that a character stands for after a backslash. -/
def escapes : List (Char × Char) :=
  [('0', '\x00'), ('a', '\x07'), ('b', '\x08'), ('t', '\t'), ('\t', '\t'), ('n', '\n'),
    ('v', '\x0b'), ('f', '\x0c'), ('r', '\r'), ('e', '\x1b'), (' ', ' '), ('\x22', '\x22'),
    ('/', '/'), ('\x5c', '\x5c'), ('N', nextLine), ('_', Char.ofNat 0xA0), ('L', lineSeparator),
    ('P', paragraphSeparator)]

/-- The number of hexadecimal digits that a letter wants after a backslash. -/
def hexWidths : List (Char × Nat) :=
  [('x', 2), ('u', 4), ('U', 8)]

/-- The number in the first `width` hexadecimal digits of a text. -/
def hexNumber? (width : Nat) (s : List Char) : Option Nat :=
  if s.length < width then none else Digits.ofDigits? 16 (s.take width)

/-- The second half of a character that is given in two halves. -/
def lowHalf? : List Char → Option Nat
  | '\x5c' :: 'u' :: s =>
    (hexNumber? 4 s).bind fun n => if 0xDC00 ≤ n ∧ n < 0xE000 then some (n - 0xDC00) else none
  | _ => none

/-- The character with a given number and the number of characters that give its second half. A half
without the other one is shown by the replacement character. -/
def characterOf (n : Nat) (after : List Char) : Except Fault (Char × Nat) :=
  if 0x110000 ≤ n then .error (.outOfRange "chr() arg not in range(0x110000)")
  else if 0xD800 ≤ n ∧ n < 0xE000 then
    match (if n < 0xDC00 then lowHalf? after else none) with
    | some low => .ok (Char.ofNat (0x10000 + (n - 0xD800) * 1024 + low), 6)
    | none => .ok (Char.ofNat 0xFFFD, 0)
  else .ok (Char.ofNat n, 0)

/-- What an escape stands for; the position is after the backslash. -/
def escaped (fuel : Nat) (c : Cursor) : Except Fault (List Char × Cursor) :=
  match c.rest with
  | [] => .error .malformed
  | ch :: s =>
    match escapes.lookup ch, hexWidths.lookup ch with
    | some e, _ => .ok ([e], c.next)
    | none, some width =>
      match hexNumber? width s with
      | some n => do
        let (e, more) ← characterOf n (s.drop width)
        .ok ([e], c.advance (1 + width + more))
      | none => .error .malformed
    | none, none => if isBreak ch then emptyLines fuel c.takeBreak.2 else .error .malformed

/-- The characters of a quoted text up to the closing mark, and the position after it. -/
def quotedText (double : Bool) : (fuel : Nat) → Cursor → Except Fault (List Char × Cursor)
  | 0, _ => .error .malformed
  | fuel + 1, c =>
    match c.rest with
    | [] => .error .malformed
    | ch :: s =>
      if !double && ch == '\x27' && s.head? == some '\x27' then do
        let (t, c) ← quotedText double fuel (c.advance 2)
        .ok (ch :: t, c)
      else if ch == (if double then '\x22' else '\x27') then .ok ([], c.next)
      else if double && ch == '\x5c' then do
        let (e, c) ← escaped fuel c.next
        let (t, c) ← quotedText double fuel c
        .ok (e ++ t, c)
      else if isGap ch then
        let (spaces, c) := c.span isSpace
        if c.atBreak then do
          let (b, c) := c.takeBreak
          let (bs, c) ← emptyLines fuel c
          let (t, c) ← quotedText double fuel c
          .ok (folded b bs ++ t, c)
        else do
          let (t, c) ← quotedText double fuel c
          .ok (spaces ++ t, c)
      else do
        let (t, c) ← quotedText double fuel c.next
        .ok (ch :: t, c)

/-! ## Plain texts -/

/-- The signs with a meaning of their own at the front of a text. -/
def reservedSigns : List Char :=
  ['#', '&', '*', '!', '|', '>', '\x27', '\x22', '%', '@', '\x60']

/-- Whether a plain text may begin here. Most signs have a meaning of their own at the front; the
dash has it only before a gap, and outside lists and records so have the question mark and the
colon. -/
def startsPlain (inFlow : Bool) : List Char → Bool
  | [] => false
  | c :: s =>
    if c == '-' then !startsWithGap s
    else if c == '?' || c == ':' then !inFlow && !startsWithGap s
    else !isGap c && !isFlowSign c && !reservedSigns.contains c

/-- Whether a colon before the text `s` ends a key. -/
def endsKey (inFlow : Bool) : List Char → Bool
  | [] => true
  | c :: _ => isGap c || (inFlow && isFlowSign c)

/-- The characters of a plain text up to the next gap or sign. -/
def plainRun (inFlow : Bool) : List Char → List Char
  | [] => []
  | c :: s =>
    if isGap c || (c == ':' && endsKey inFlow s) || (inFlow && (isFlowSign c || c == '?')) then []
    else c :: plainRun inFlow s

/-- What is found between the words of a plain text. -/
structure PlainGap where
  /-- The gap as it stands in the text; none if the text ends here. -/
  text : List Char
  /-- The position after it. -/
  cursor : Cursor
  /-- Whether there is a break in it. -/
  breaks : Bool

/-- The empty lines inside a plain text, unless the marks between documents stand there. -/
def plainLines : (fuel : Nat) → Cursor → Option (List Char) × Cursor
  | 0, c => (none, c)
  | fuel + 1, c =>
    if c.rest.head? == some ' ' then plainLines fuel c.next
    else if c.atBreak then
      let (b, c) := c.takeBreak
      if startsWithMarks c.rest then (none, c)
      else
        let (bs, c) := plainLines fuel c
        (bs.map (b ++ ·), c)
    else (some [], c)

/-- The gap at a position inside a plain text. -/
def plainGap (fuel : Nat) (c : Cursor) : PlainGap :=
  let (spaces, c) := c.span (· == ' ')
  if c.atBreak then
    let (b, c) := c.takeBreak
    if startsWithMarks c.rest then ⟨[], c, true⟩
    else
      let (bs, c) := plainLines fuel c
      ⟨(bs.map (folded b)).getD [], c, true⟩
  else ⟨spaces, c, false⟩

/-- A plain text that has been read. -/
structure PlainText where
  /-- Its characters. -/
  text : List Char
  /-- The position after it. -/
  cursor : Cursor
  /-- Whether it ends with a break, so that a key may follow. -/
  breaks : Bool

/-- A plain text from a position, whose further lines are indented by at least `indent` outside
lists and records. `gap` comes before the next word. -/
def plainText (inFlow : Bool) (indent : Int) :
    (fuel : Nat) → (gap : List Char) → (breaks : Bool) → Cursor → PlainText
  | 0, _, breaks, c => ⟨[], c, breaks⟩
  | fuel + 1, gap, breaks, c =>
    let word := if c.rest.head? == some '#' then [] else plainRun inFlow c.rest
    if word.isEmpty then ⟨[], c, breaks⟩
    else
      let after := plainGap fuel (c.advance word.length)
      let ends := after.text.isEmpty || after.cursor.rest.head? == some '#' ||
        (!inFlow && (after.cursor.column : Int) < indent)
      if ends then ⟨gap ++ word, after.cursor, after.breaks⟩
      else
        let more := plainText inFlow indent fuel after.text after.breaks after.cursor
        ⟨gap ++ word ++ more.text, more.cursor, more.breaks⟩

/-! ## Texts in lines -/

/-- What becomes of the breaks at the end of a text in lines. -/
inductive Chomping where
  /-- One is kept. -/
  | clip
  /-- None is kept. -/
  | strip
  /-- All are kept. -/
  | keep
deriving DecidableEq

/-- The chomping that a sign asks for. -/
def chompingOf? : Char → Option Chomping
  | '+' => some .keep
  | '-' => some .strip
  | _ => none

/-- The indentation that a digit asks for, which is not zero. -/
def indentationOf? (c : Char) : Option Nat :=
  if c.isDigit then some (c.toNat - '0'.toNat) else none

/-- The signs behind the sign of a text in lines: chomping and indentation in either order. -/
def blockSigns (c : Cursor) : Except Fault (Chomping × Option Nat × Cursor) :=
  let first := c.rest.head?
  let second := (c.rest.drop 1).head?
  let (chomping, increment, c) : Option Chomping × Option Nat × Cursor :=
    match first.bind chompingOf?, first.bind indentationOf? with
    | some chomping, _ =>
      match second.bind indentationOf? with
      | some n => (some chomping, some n, c.advance 2)
      | none => (some chomping, none, c.next)
    | none, some n =>
      match second.bind chompingOf? with
      | some chomping => (some chomping, some n, c.advance 2)
      | none => (none, some n, c.next)
    | none, none => (none, none, c)
  if increment = some 0 || !startsWithSpace c.rest then .error .malformed
  else .ok (chomping.getD .clip, increment, c)

/-- The breaks of the lines that hold nothing but spaces, with the greatest indentation among them
and the first line after them. -/
def blockIndentation : (fuel : Nat) → (widest : Nat) → Cursor → List Char × Nat × Cursor
  | 0, widest, c => ([], widest, c)
  | fuel + 1, widest, c =>
    if c.rest.head? == some ' ' then blockIndentation fuel (max widest c.next.column) c.next
    else if c.atBreak then
      let (b, c) := c.takeBreak
      let (bs, widest, c) := blockIndentation fuel widest c
      (b ++ bs, widest, c)
    else ([], widest, c)

/-- The breaks of empty lines, where lines are indented by `indent`. -/
def blockBreaks (indent : Nat) : (fuel : Nat) → Cursor → List Char × Cursor
  | 0, c => ([], c)
  | fuel + 1, c =>
    let c := c.skipSpaces (indent - c.column)
    if c.atBreak then
      let (b, c) := c.takeBreak
      let (bs, c) := blockBreaks indent fuel c
      (b ++ bs, c)
    else ([], c)

/-- The lines of a text with their breaks, and the breaks after the last one: the last break and
those of the empty lines after it. The breaks of empty lines before a line are `empty`. -/
def blockLines (fold : Bool) (indent : Nat) :
    (fuel : Nat) → (empty : List Char) → Cursor → List Char × List Char × List Char × Cursor
  | 0, empty, c => ([], [], empty, c)
  | fuel + 1, empty, c =>
    let line := c.rest.takeWhile fun ch => !isBreak ch
    let opens := !(c.rest.head?.map isSpace).getD false
    let (b, c) := (c.advance line.length).takeBreak
    let (bs, c) := blockBreaks indent fuel c
    if c.column = indent ∧ c.rest ≠ [] then
      let joint :=
        if fold && b == ['\n'] && opens && !(c.rest.head?.map isSpace).getD false then
          (if bs.isEmpty then [' '] else [])
        else b
      let (text, lastBreak, others, c) := blockLines fold indent fuel bs c
      (empty ++ line ++ joint ++ text, lastBreak, others, c)
    else (empty ++ line, b, bs, c)

/-- A text in lines; the position is after its sign, and the lines around it are indented by
`parent`. -/
def blockText (fold : Bool) (parent : Int) (fuel : Nat) (c : Cursor) :
    Except Fault (List Char × Cursor) := do
  let (chomping, increment, c) ← blockSigns c
  let some c := c.restOfLine? | .error .malformed
  let least := (max (parent + 1) 1).toNat
  let (empty, indent, c) :=
    match increment with
    | none =>
      let (bs, widest, c) := blockIndentation fuel 0 c
      (bs, max least widest, c)
    | some n =>
      let indent := least + n - 1
      let (bs, c) := blockBreaks indent fuel c
      (bs, indent, c)
  let (text, lastBreak, others, c) :=
    if c.column = indent ∧ c.rest ≠ [] then blockLines fold indent fuel empty c
    else ([], [], empty, c)
  match chomping with
  | .clip => .ok (text ++ lastBreak, c)
  | .strip => .ok (text, c)
  | .keep => .ok (text ++ lastBreak ++ others, c)

end NaturalDeduction.Yaml
