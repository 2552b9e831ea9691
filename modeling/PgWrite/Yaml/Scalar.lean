import PgWrite.Text.Half
import PgWrite.Text.Scan
import PgWrite.Yaml.Cursor

/-!
# Scalars of a YAML text

Reading the three written forms of a scalar. A plain scalar ends before a colon or a comment
that blanks set off; inside brackets it also ends before an indicator. Line breaks inside a
plain or quoted scalar are folded: one alone becomes a blank, and of several the first goes.
A block scalar keeps its lines, or folds those that do not start with a blank, and keeps its
final breaks as its header says.
-/

namespace PgWrite.Yaml

/-- The text of pieces that are kept with the last one first. -/
def ofPieces (pieces : List (List Char)) : List Char :=
  pieces.reverse.flatten

/-- A line break and the further ones behind it, folded. -/
def foldBreaks (first : List Char) (others : List (List Char)) : List Char :=
  let head := if first ≠ ['\n'] then first else if others.isEmpty then [' '] else []
  head ++ others.flatten

/-- The character ends a plain scalar, seen with the one behind it. -/
def endsPlain (inFlow : Bool) (c next : Char) : Bool :=
  isSpaceOrEnd c
    || (c = ':' && (isSpaceOrEnd next || (inFlow && (",[]\x7b\x7d".toList.contains next))))
    || (inFlow && ",?[]\x7b\x7d".toList.contains c)

/-- The characters of a plain scalar up to a blank or its end. -/
def plainWord (inFlow : Bool) : List Char → List Char
  | [] => []
  | c :: rest =>
    if endsPlain inFlow c (rest.head?.getD endMark) then []
    else c :: plainWord inFlow rest

/-- What lies between two words of a plain scalar. -/
structure PlainGap where
  /-- The text that the gap stands for, none if the scalar ends here. -/
  text : Option (List Char)
  /-- The gap spans a line break. -/
  broken : Bool
  cursor : Cursor

/-- The line breaks and blanks in front of a word; none if a document marker comes first. -/
def moreBreaks (c : Cursor) : Except YamlFault (Option (List (List Char)) × Cursor) :=
  repeatUntil (fun (breaks, c) =>
    if c.peek = ' ' then .ok (.again (breaks, c.next))
    else if isBreak c.peek then
      let (br, c) := c.takeBreak
      if c.atMarker then .ok (.done (none, c)) else .ok (.again (breaks ++ [br], c))
    else .ok (.done (some breaks, c))) c.turns ([], c)

/-- Reads what lies behind a word of a plain scalar. -/
def plainGap (c : Cursor) : Except YamlFault PlainGap := do
  let (blanks, c) := c.takeWhile (· = ' ')
  if isBreak c.peek then
    let (first, c) := c.takeBreak
    if c.atMarker then return { text := none, broken := true, cursor := c }
    match ← moreBreaks c with
    | (none, c) => return { text := none, broken := true, cursor := c }
    | (some others, c) =>
      return { text := some (foldBreaks first others), broken := true, cursor := c }
  else if blanks.isEmpty then return { text := none, broken := false, cursor := c }
  else return { text := some blanks, broken := false, cursor := c }

/-- A plain scalar that is being read. -/
structure PlainState where
  /-- The words and the gaps behind them, the last one first. -/
  pieces : List (List Char)
  /-- The last gap spans a line break. -/
  broken : Bool
  cursor : Cursor

/-- Reads a plain scalar whose lines are indented to a column. -/
def readPlain (inFlow : Bool) (indent : Int) (c : Cursor) :
    Except YamlFault (List Char × Bool × Cursor) :=
  repeatUntil (fun (s : PlainState) => do
    let word := if s.cursor.peek = '#' then [] else plainWord inFlow s.cursor.rest
    if word.isEmpty then return .done (ofPieces (s.pieces.drop 1), s.broken, s.cursor)
    let pieces := word :: s.pieces
    let gap ← plainGap (s.cursor.advance word.length)
    match gap.text with
    | none => return .done (ofPieces pieces, gap.broken, gap.cursor)
    | some between =>
      if gap.cursor.peek = '#' || (!inFlow && (gap.cursor.column : Int) < indent) then
        return .done (ofPieces pieces, gap.broken, gap.cursor)
      return .again { pieces := between :: pieces, broken := gap.broken, cursor := gap.cursor })
    c.turns { pieces := [], broken := false, cursor := c }

/-- The character that a one-letter escape stands for. -/
def escapedChar? (c : Char) : Option Char :=
  match c with
  | '0' => some '\x00' | 'a' => some '\x07' | 'b' => some '\x08' | 't' => some '\t'
  | '\t' => some '\t' | 'n' => some '\n' | 'v' => some '\x0b' | 'f' => some '\x0c'
  | 'r' => some '\r' | 'e' => some '\x1b' | ' ' => some ' ' | '"' => some '"'
  | '\\' => some '\\' | '/' => some '/' | 'N' => some '\u0085' | '_' => some '\u00a0'
  | 'L' => some '\u2028' | 'P' => some '\u2029'
  | _ => none

/-- The number of digits behind an escape by number. -/
def escapeWidth? (c : Char) : Option Nat :=
  match c with
  | 'x' => some 2
  | 'u' => some 4
  | 'U' => some 8
  | _ => none

/-- The line breaks inside a quoted scalar; a document marker is refused. -/
def quotedBreaks (c : Cursor) : Except YamlFault (List (List Char) × Cursor) :=
  repeatUntil (fun (breaks, c) =>
    if c.atMarker then .error .malformed
    else
      let c := c.skipWhile fun ch => ch = ' ' || ch = '\t'
      if isBreak c.peek then
        let (br, c) := c.takeBreak
        .ok (.again (breaks ++ [br], c))
      else .ok (.done (breaks, c))) c.turns ([], c)

/-- The character of a number, which may be half of a surrogate pair. -/
def numberedChar (n : Nat) : Except YamlFault Char :=
  if n.isValidChar then .ok (Char.ofNat n)
  else if n < 0x110000 then .ok (Text.ofHalf n)
  else .error (if n < 0x80000000 then .badNumber else .hugeNumber)

/-- Reads an escape behind its backslash. -/
def readEscape (c : Cursor) : Except YamlFault (List Char × Cursor) :=
  match escapedChar? c.peek, escapeWidth? c.peek with
  | some ch, _ => .ok ([ch], c.next)
  | none, some width =>
    let digits := c.next.rest.take width
    match Text.hexNumber? digits with
    | some n =>
      if digits.length < width then .error .malformed
      else (numberedChar n).map fun ch => ([ch], c.next.advance width)
    | none => .error .malformed
  | none, none =>
    if isBreak c.peek then do
      let (breaks, c) ← quotedBreaks c.takeBreak.2
      return (breaks.flatten, c)
    else .error .malformed

/-- Reads the characters of a quoted scalar up to a blank, a line break or a quote. -/
def quotedWord (double : Bool) (c : Cursor) : Except YamlFault (List Char × Cursor) :=
  repeatUntil (fun (pieces, c) => do
    let (plain, c) := c.takeWhile fun ch =>
      !(ch = '\'' || ch = '"' || ch = '\\' || isSpaceOrEnd ch)
    let pieces := plain :: pieces
    let ch := c.peek
    if !double && ch = '\'' && c.peekAt 1 = '\'' then return .again ([ch] :: pieces, c.advance 2)
    if (double && ch = '\'') || (!double && (ch = '"' || ch = '\\')) then
      return .again ([ch] :: pieces, c.next)
    if double && ch = '\\' then
      let (escaped, c) ← readEscape c.next
      return .again (escaped :: pieces, c)
    return .done (ofPieces pieces, c)) c.turns ([], c)

/-- Reads the blanks and line breaks between two words of a quoted scalar. -/
def quotedGap (c : Cursor) : Except YamlFault (List Char × Cursor) := do
  let (blanks, c) := c.takeWhile fun ch => ch = ' ' || ch = '\t'
  if c.peek = endMark then throw .malformed
  if isBreak c.peek then
    let (first, c) := c.takeBreak
    let (others, c) ← quotedBreaks c
    return (foldBreaks first others, c)
  return (blanks, c)

/-- Reads a quoted scalar that opens here. -/
def readQuoted (double : Bool) (c : Cursor) : Except YamlFault (List Char × Cursor) := do
  let quote := c.peek
  let (first, c) ← quotedWord double c.next
  repeatUntil (fun (pieces, c) => do
    if c.peek = quote then return .done (ofPieces pieces, c.next)
    let (gap, c) ← quotedGap c
    let (word, c) ← quotedWord double c
    return .again (word :: gap :: pieces, c)) c.turns ([first], c)

/-- What becomes of the line breaks at the end of a block scalar. -/
inductive Chomping where
  | clip
  | strip
  | keep
  deriving DecidableEq, Repr

/-- The header of a block scalar: what becomes of its last breaks, and its added indentation. -/
def blockHeader (c : Cursor) : Except YamlFault (Chomping × Option Nat × Cursor) := do
  let isSign := fun (ch : Char) => ch = '+' || ch = '-'
  let chomp := fun (ch : Char) => if ch = '+' then Chomping.keep else Chomping.strip
  let digit := fun (c : Cursor) =>
    if c.peek.isDigit then some (c.peek.toNat - '0'.toNat) else none
  let (chomping, increment, c) :=
    if isSign c.peek then
      match digit c.next with
      | some n => (chomp c.peek, some n, c.advance 2)
      | none => (chomp c.peek, none, c.next)
    else match digit c with
      | some n =>
        if isSign c.next.peek then (chomp c.next.peek, some n, c.advance 2)
        else (.clip, some n, c.next)
      | none => (.clip, none, c)
  if increment = some 0 then throw .malformed
  if !(isBreakOrEnd c.peek || c.peek = ' ') then throw .malformed
  return (chomping, increment, c)

/-- The rest of a line that holds nothing but blanks and a comment. -/
def ignoredLine (c : Cursor) : Except YamlFault Cursor := do
  let c := c.skipWhile (· = ' ')
  let c := if c.peek = '#' then c.skipWhile fun ch => !isBreakOrEnd ch else c
  if !isBreakOrEnd c.peek then throw .malformed
  return c.takeBreak.2

/-- The blank lines in front of a block scalar, and the widest indentation among them. -/
def blockIndentation (c : Cursor) : Except YamlFault (List (List Char) × Nat × Cursor) :=
  repeatUntil (fun (breaks, widest, c) =>
    if c.peek = ' ' then
      let c := c.next
      .ok (.again (breaks, max widest c.column, c))
    else if isBreak c.peek then
      let (br, c) := c.takeBreak
      .ok (.again (breaks ++ [br], widest, c))
    else .ok (.done (breaks, widest, c))) c.turns ([], 0, c)

/-- The place behind the blanks up to a column. -/
def skipIndent (indent : Nat) (c : Cursor) : Cursor :=
  let blanks := (c.rest.takeWhile (· = ' ')).length
  c.advance (min blanks (indent - c.column))

/-- The blank lines between two lines of a block scalar. -/
def blockBreaks (indent : Nat) (c : Cursor) : Except YamlFault (List (List Char) × Cursor) :=
  repeatUntil (fun (breaks, c) =>
    let c := skipIndent indent c
    if isBreak c.peek then
      let (br, c) := c.takeBreak
      .ok (.again (breaks ++ [br], c))
    else .ok (.done (breaks, c))) c.turns ([], c)

/-- A block scalar that is being read: its pieces, the last one first, the break of its last line,
and the blank lines behind it. -/
structure BlockState where
  pieces : List (List Char)
  lineBreak : List Char
  breaks : List (List Char)
  cursor : Cursor

/-- Reads a block scalar behind its indicator; `indent` is the column of the block around it. -/
def readBlock (folded : Bool) (indent : Int) (c : Cursor) :
    Except YamlFault (List Char × Cursor) := do
  let (chomping, increment, c) ← blockHeader c
  let c ← ignoredLine c
  let least := (max (indent + 1) 1).toNat
  let (breaks, indent, c) ← match increment with
    | none => do
      let (breaks, widest, c) ← blockIndentation c
      pure (breaks, max least widest, c)
    | some n => do
      let (breaks, c) ← blockBreaks (least + n - 1) c
      pure (breaks, least + n - 1, c)
  let last ← repeatUntil (fun (s : BlockState) => do
    if s.cursor.column ≠ indent || s.cursor.peek = endMark then return .done s
    let startsInk := !(s.cursor.peek = ' ' || s.cursor.peek = '\t')
    let (line, c) := s.cursor.takeWhile fun ch => !isBreakOrEnd ch
    let (lineBreak, c) := c.takeBreak
    let (breaks, c) ← blockBreaks indent c
    let pieces := line :: s.breaks.flatten :: s.pieces
    if c.column = indent && c.peek ≠ endMark then
      let joint :=
        if folded && lineBreak = ['\n'] && startsInk && !(c.peek = ' ' || c.peek = '\t') then
          if breaks.isEmpty then [' '] else []
        else lineBreak
      return .again { pieces := joint :: pieces, lineBreak, breaks, cursor := c }
    return .done { pieces, lineBreak, breaks, cursor := c })
    c.turns { pieces := [], lineBreak := [], breaks, cursor := c }
  let ending := match chomping with
    | .strip => []
    | .clip => last.lineBreak
    | .keep => last.lineBreak ++ last.breaks.flatten
  return (ofPieces last.pieces ++ ending, last.cursor)

end PgWrite.Yaml
