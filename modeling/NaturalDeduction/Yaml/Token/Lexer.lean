import NaturalDeduction.Yaml.Scalar
import NaturalDeduction.Yaml.Token.Name

/-!
# Cutting a document into tokens

Tokens come in the order of the text (`tokens`), with one exception. Whether a text or a list is a
key shows only at the colon after it. So the place of each token that may be a key is remembered
(`Candidate`), and at the colon the token for the key, and if need be the one for the beginning of
the record, are put in at that place. A key stands on one line and is at most 1024 characters long.

Outside brackets the nesting follows the columns: a dash, a question mark or a key further to the
right begins a list or a record, and a token further to the left ends all that are indented more.
-/

namespace NaturalDeduction.Yaml

/-- A token that may turn out to be a key. -/
structure Candidate where
  /-- The number of tokens before it. -/
  position : Nat
  /-- Whether nothing but a key may stand there. -/
  required : Bool
  /-- The number of characters before it. -/
  index : Nat
  /-- The line it begins on. -/
  line : Nat
  /-- The column it begins in. -/
  column : Nat

/-- How far a document has been cut up. -/
structure Lexer where
  /-- The position. -/
  cursor : Cursor
  /-- The tokens so far. -/
  tokens : Array Token
  /-- The number of brackets and braces that are open. -/
  depth : Nat
  /-- The column of the innermost list or record in lines. -/
  indent : Int
  /-- The columns of those around it. -/
  indents : List Int
  /-- Whether a key may begin here. -/
  keyAllowed : Bool
  /-- The candidates for keys, by the number of open brackets. -/
  candidates : List (Nat × Candidate)

namespace Lexer

/-- The beginning of a document. -/
def start (s : List Char) : Lexer :=
  ⟨.start s, #[], 0, -1, [], true, []⟩

/-- The greatest distance between a key and its colon. -/
def longestKey : Nat := 1024

/-- Whether the position is inside brackets. -/
def inFlow (l : Lexer) : Bool :=
  0 < l.depth

/-- One more token. -/
def push (l : Lexer) (t : Token) : Lexer :=
  { l with tokens := l.tokens.push t }

/-- The position further on. -/
def goTo (l : Lexer) (c : Cursor) : Lexer :=
  { l with cursor := c }

/-- A token that is read from `n` characters. -/
def take (l : Lexer) (n : Nat) (t : Token) : Lexer :=
  (l.push t).goTo (l.cursor.advance n)

/-! ## Keys -/

/-- Whether a candidate has become too old to be a key. -/
def isStale (l : Lexer) (k : Candidate) : Bool :=
  k.line != l.cursor.line || longestKey < l.cursor.index - k.index

/-- Drops the candidates that have become too old. None of them may have been required. -/
def dropStale (l : Lexer) : Except Fault Lexer :=
  if l.candidates.any fun (_, k) => l.isStale k && k.required then .error .malformed
  else .ok { l with candidates := l.candidates.filter fun (_, k) => !l.isStale k }

/-- Drops the candidate at the present depth, which may not have been required. -/
def dropCandidate (l : Lexer) : Except Fault Lexer :=
  match l.candidates.lookup l.depth with
  | some k =>
    if k.required then .error .malformed
    else .ok { l with candidates := l.candidates.filter fun (d, _) => d != l.depth }
  | none => .ok l

/-- Remembers that the next token may be a key. -/
def saveCandidate (l : Lexer) : Except Fault Lexer :=
  if l.keyAllowed then do
    let l ← l.dropCandidate
    let c := l.cursor
    let k : Candidate :=
      ⟨l.tokens.size, !l.inFlow && l.indent == (c.column : Int), c.index, c.line, c.column⟩
    .ok { l with candidates := (l.depth, k) :: l.candidates }
  else .ok l

/-! ## Columns -/

/-- The columns that are left when those to the right of a column are dropped, with their number. -/
def dropColumns (column : Int) : (indent : Int) → List Int → Nat × Int × List Int
  | indent, [] => (0, indent, [])
  | indent, outer :: others =>
    if column < indent then
      let (n, indent, rest) := dropColumns column outer others
      (n + 1, indent, rest)
    else (0, indent, outer :: others)

/-- Ends the lists and records in lines that begin to the right of a column. -/
def unwind (l : Lexer) (column : Int) : Lexer :=
  if l.inFlow then l
  else
    let (n, indent, indents) := dropColumns column l.indent l.indents
    { l with
      tokens := l.tokens ++ Array.replicate n Token.blockEnd
      indent
      indents }

/-- Begins a list or a record in lines at a column, unless there is one that begins there or further
to the right. The token for it goes to the position `position`. -/
def beginAt (l : Lexer) (column position : Nat) (t : Token) : Lexer :=
  if l.indent < (column : Int) then
    { l with
      tokens := l.tokens.insertIdxIfInBounds position t
      indent := column
      indents := l.indent :: l.indents }
  else l

/-- Begins a list or a record in lines at the present column. A key must be allowed there. Inside
brackets there is nothing to begin. -/
def beginHere (l : Lexer) (t : Token) : Except Fault Lexer :=
  if l.inFlow then .ok l
  else if l.keyAllowed then .ok (l.beginAt l.cursor.column l.tokens.size t)
  else .error .malformed

/-! ## Tokens -/

/-- The position after spaces, comments and breaks, with the number of breaks. -/
def skipGaps : (fuel : Nat) → Cursor → Nat × Cursor
  | 0, c => (0, c)
  | fuel + 1, c =>
    let c := c.skip (· == ' ')
    let c := if c.rest.head? == some '#' then c.skip fun ch => !isBreak ch else c
    if c.atBreak then
      let (n, c) := skipGaps fuel c.takeBreak.2
      (n + 1, c)
    else (0, c)

/-- Goes to the next token. Outside brackets a key may begin on a new line. -/
def toNextToken (fuel : Nat) (l : Lexer) : Lexer :=
  let c := l.cursor
  let c := if c.index = 0 ∧ c.rest.head? = some byteOrderMark then c.next else c
  let (breaks, c) := skipGaps fuel c
  { l with
    cursor := c
    keyAllowed := l.keyAllowed || (decide (0 < breaks) && !l.inFlow) }

/-- Ends everything that is laid out in lines, before the marks between documents and at the end. -/
def closeAll (l : Lexer) : Except Fault Lexer := do
  let l ← (l.unwind (-1)).dropCandidate
  .ok { l with keyAllowed := false }

/-- A token that may be a key and after which none may begin at once. -/
def keyToken (l : Lexer) (read : Lexer → Except Fault (Token × Cursor)) : Except Fault Lexer := do
  let l ← l.saveCandidate
  let (t, c) ← read l
  .ok ({ l with keyAllowed := false }.push t |>.goTo c)

/-- A name read by a function that may fail. -/
def named (f : Option (Token × Cursor)) : Except Fault (Token × Cursor) :=
  match f with
  | some r => .ok r
  | none => .error .malformed

/-- An opening bracket or brace. -/
def openFlow (l : Lexer) (t : Token) : Except Fault Lexer := do
  let l ← l.saveCandidate
  .ok ({ l with depth := l.depth + 1, keyAllowed := true }.take 1 t)

/-- A closing bracket or brace, which must have a partner. -/
def closeFlow (l : Lexer) (t : Token) : Except Fault Lexer := do
  if l.depth = 0 then .error .malformed
  let l ← l.dropCandidate
  .ok ({ l with depth := l.depth - 1, keyAllowed := false }.take 1 t)

/-- The colon before a value. -/
def takeColon (l : Lexer) : Except Fault Lexer := do
  match l.candidates.lookup l.depth with
  | some k =>
    let l := { l with candidates := l.candidates.filter fun (d, _) => d != l.depth }
    let l := { l with tokens := l.tokens.insertIdxIfInBounds k.position .key }
    let l := if l.inFlow then l else l.beginAt k.column k.position .recordStart
    .ok ({ l with keyAllowed := false }.take 1 .value)
  | none =>
    let l ← l.beginHere .recordStart
    let l ← { l with keyAllowed := !l.inFlow }.dropCandidate
    .ok (l.take 1 .value)

/-- A plain text. -/
def takePlain (fuel : Nat) (l : Lexer) : Except Fault Lexer := do
  let l ← l.saveCandidate
  let p := plainText l.inFlow (l.indent + 1) fuel [] false l.cursor
  .ok ({ l with keyAllowed := p.breaks }.push (.scalar p.text true) |>.goTo p.cursor)

/-- The lines of a text below a sign. -/
def takeBlock (fuel : Nat) (fold : Bool) (l : Lexer) : Except Fault Lexer := do
  let l ← { l with keyAllowed := true }.dropCandidate
  let (text, c) ← blockText fold l.indent fuel l.cursor.next
  .ok (l.push (.scalar text false) |>.goTo c)

/-- The token at the position, where no gap stands. -/
def takeToken (fuel : Nat) (l : Lexer) : Except Fault Lexer := do
  let c := l.cursor
  let gapAfter := startsWithGap (c.rest.drop 1)
  match c.rest with
  | [] => return (← l.closeAll).push .streamEnd
  | ch :: s =>
    if ch == '%' && c.column == 0 then
      let l ← l.closeAll
      let (t, c) ← named (instruction? fuel c.next)
      return l.push t |>.goTo c
    else if c.column == 0 && startsWithMarks c.rest then
      return (← l.closeAll).take 3 (if ch == '-' then .documentStart else .documentEnd)
    else if ch == '[' then l.openFlow .openBracket
    else if ch == '\x7b' then l.openFlow .openBrace
    else if ch == ']' then l.closeFlow .closeBracket
    else if ch == '\x7d' then l.closeFlow .closeBrace
    else if ch == ',' then
      return (← { l with keyAllowed := true }.dropCandidate).take 1 .comma
    else if ch == '-' && gapAfter then
      let l ← l.beginHere .listStart
      return (← { l with keyAllowed := true }.dropCandidate).take 1 .dash
    else if ch == '?' && (l.inFlow || gapAfter) then
      let l ← l.beginHere .recordStart
      return (← { l with keyAllowed := !l.inFlow }.dropCandidate).take 1 .key
    else if ch == ':' && (l.inFlow || gapAfter) then l.takeColon
    else if ch == '*' then
      l.keyToken fun l => named ((anchorName? l.cursor.next).map fun (n, c) => (.alias n, c))
    else if ch == '&' then
      l.keyToken fun l => named ((anchorName? l.cursor.next).map fun (n, c) => (.anchor n, c))
    else if ch == '!' then
      l.keyToken fun l => named ((tag? fuel l.cursor).map fun (n, c) => (.tag n, c))
    else if ch == '|' && !l.inFlow then l.takeBlock fuel false
    else if ch == '>' && !l.inFlow then l.takeBlock fuel true
    else if ch == '\x27' || ch == '\x22' then
      l.keyToken fun l => do
        let (text, c) ← quotedText (ch == '\x22') fuel l.cursor.next
        return (.scalar text false, c)
    else if startsPlain l.inFlow (ch :: s) then l.takePlain fuel
    else throw .malformed

/-- The next token and those that it brings with it. -/
def step (fuel : Nat) (l : Lexer) : Except Fault Lexer := do
  let l ← (l.toNextToken fuel).dropStale
  (l.unwind l.cursor.column).takeToken fuel

/-- All tokens up to the end of the text. A token takes at least one character. -/
def run (fuel : Nat) : (steps : Nat) → Lexer → Except Fault (List Token)
  | 0, _ => .error .malformed
  | steps + 1, l => do
    let l ← l.step fuel
    match l.tokens.back? with
    | some .streamEnd => .ok l.tokens.toList
    | _ => run fuel steps l

end Lexer

/-- The tokens of a document, all of whose characters must be admitted. -/
def tokens (s : List Char) : Except Fault (List Token) :=
  if s.all isAdmitted then Lexer.run (s.length + 1) (s.length + 1) (.start s)
  else .error .malformed

end NaturalDeduction.Yaml
