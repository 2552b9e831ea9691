import PgWrite.Yaml.Property

/-!
# The tokens of a YAML text

Tokens are read one after the other. Indentation opens and closes blocks: a column to the
left of the innermost block ends it. Where a key may stand without a mark, its place among
the tokens is kept, so that the key token can be put there once a colon follows; the place
is given up at the end of its line or after 1024 characters, and a key that had to be there
is then missed.

A text that breaks off with a fault still has the tokens in front of it, for what reads them
may find an earlier fault.
-/

namespace PgWrite.Yaml

/-- The place of a token that may turn out to be a key. -/
structure KeyPlace where
  /-- How deep in flow brackets the token is. -/
  level : Nat
  /-- The number of the token. -/
  token : Nat
  /-- The token opens a line of its block, where only a key may stand. -/
  required : Bool
  index : Nat
  line : Nat
  column : Nat

/-- The state between two tokens. -/
structure Scan where
  cursor : Cursor
  /-- The tokens read so far, the last one first. -/
  back : List Token
  /-- How many tokens have been read. -/
  count : Nat
  /-- How deep in flow brackets the cursor is. -/
  level : Nat
  /-- The column of the innermost block, or minus one. -/
  indent : Int
  /-- The columns of the blocks around it, from inside out. -/
  outer : List Int
  /-- A key may stand here without a mark. -/
  keyAllowed : Bool
  keys : List KeyPlace

namespace Scan

/-- The state in front of a text. -/
def start (text : List Char) : Scan where
  cursor := Cursor.start text
  back := []
  count := 0
  level := 0
  indent := -1
  outer := []
  keyAllowed := true
  keys := []

/-- Adds a token. -/
def add (s : Scan) (t : Token) : Scan :=
  { s with back := t :: s.back, count := s.count + 1 }

/-- Puts tokens in front of the one with a number. -/
def insertAt (s : Scan) (place : Nat) (ts : List Token) : Scan :=
  let (behind, before) := s.back.splitAt (s.count - place)
  { s with back := behind ++ ts.reverse ++ before, count := s.count + ts.length }

/-- The tokens in front of every place at which a key token may still be put. -/
def settled (s : Scan) : List Token :=
  s.back.reverse.take ((s.keys.map KeyPlace.token).foldl min s.count)

/-- The place behind what lies in front of a token on a line: blanks and a comment. -/
def skipIgnored (c : Cursor) : Cursor :=
  let c := c.skipWhile (· = ' ')
  if c.peek = '#' then c.skipWhile fun ch => !isBreakOrEnd ch else c

/-- Goes to the next token; outside brackets a key may stand on a new line. -/
def toNextToken (s : Scan) : Except YamlFault Scan :=
  let c := if s.cursor.index = 0 && s.cursor.peek = '\ufeff' then s.cursor.next else s.cursor
  repeatUntil (fun (s : Scan) =>
    let c := skipIgnored s.cursor
    if isBreak c.peek then
      .ok (.again { s with cursor := c.takeBreak.2, keyAllowed := s.keyAllowed || s.level = 0 })
    else .ok (.done { s with cursor := c })) c.turns { s with cursor := c }

/-- A place is out of reach of a colon at the cursor. -/
def isStale (s : Scan) (k : KeyPlace) : Bool :=
  k.line ≠ s.cursor.line || k.index + 1024 < s.cursor.index

/-- Gives up the places that are out of reach. -/
def dropStale (s : Scan) : Except YamlFault Scan := do
  expect !(s.keys.any fun k => s.isStale k && k.required)
  return { s with keys := s.keys.filter fun k => !s.isStale k }

/-- Ends the blocks that lie to the right of a column. -/
def closeBlocks (column : Int) : List Int → Int → List Token → Int × List Int × List Token
  | [], indent, ended => (indent, [], ended)
  | next :: outer, indent, ended =>
    if column < indent then closeBlocks column outer next (.blockEnd :: ended)
    else (indent, next :: outer, ended)

/-- Ends the blocks that lie to the right of a column; inside brackets indentation is free. -/
def unwind (s : Scan) (column : Int) : Scan :=
  if s.level ≠ 0 then s
  else
    let (indent, outer, ended) := closeBlocks column s.outer s.indent []
    { s with indent, outer, back := ended ++ s.back, count := s.count + ended.length }

/-- Opens a block at a column, if it lies to the right of the innermost one. -/
def opened (s : Scan) (column : Nat) : Bool × Scan :=
  if s.indent < column then (true, { s with indent := column, outer := s.indent :: s.outer })
  else (false, s)

/-- Gives up the place at this depth of brackets. -/
def dropKey (s : Scan) : Except YamlFault Scan := do
  expect !(s.keys.any fun k => k.level = s.level && k.required)
  return { s with keys := s.keys.filter fun k => k.level ≠ s.level }

/-- Keeps the place of the next token as one of a possible key. -/
def saveKey (s : Scan) : Except YamlFault Scan :=
  if s.keyAllowed then do
    let c := s.cursor
    let s ← s.dropKey
    let place : KeyPlace := {
      level := s.level, token := s.count
      required := s.level = 0 && s.indent = c.column
      index := c.index, line := c.line, column := c.column }
    return { s with keys := place :: s.keys }
  else .ok s

/-- Goes behind the next few characters. -/
def advance (s : Scan) (n : Nat) : Scan :=
  { s with cursor := s.cursor.advance n }

/-- Whether a key may stand behind the next token. -/
def allowKey (s : Scan) (allowed : Bool) : Scan :=
  { s with keyAllowed := allowed }

/-- Reads a directive or a mark between documents. -/
def between (s : Scan) (read : Cursor → Except YamlFault (Token × Cursor)) :
    Except YamlFault Scan := do
  let s ← (s.unwind (-1)).dropKey
  let (token, cursor) ← read s.cursor
  return { (s.allowKey false).add token with cursor }

/-- Reads an opening bracket. -/
def openFlow (s : Scan) (t : Token) : Except YamlFault Scan := do
  let s ← s.saveKey
  return ({ s with level := s.level + 1 }.allowKey true |>.advance 1).add t

/-- Reads a closing bracket. -/
def closeFlow (s : Scan) (t : Token) : Except YamlFault Scan := do
  let s ← s.dropKey
  expect (s.level ≠ 0)
  return ({ s with level := s.level - 1 }.allowKey false |>.advance 1).add t

/-- Opens a block for an indicator that needs one, where it may stand. -/
def openBlock (s : Scan) (t : Token) : Except YamlFault Scan := do
  if s.level ≠ 0 then return s
  expect s.keyAllowed
  let (isNew, s) := s.opened s.cursor.column
  return if isNew then s.add t else s

/-- Reads an indicator of one character. -/
def indicator (s : Scan) (keyAllowed : Bool) (t : Token) : Except YamlFault Scan := do
  let s ← s.dropKey
  return ((s.allowKey keyAllowed).advance 1).add t

/-- Reads a colon: it makes a key of the token at the kept place, or has no key in front. -/
def colon (s : Scan) : Except YamlFault Scan := do
  match s.keys.find? fun k => k.level = s.level with
  | some k =>
    let s := { s with keys := s.keys.filter fun k => k.level ≠ s.level }
    let (isNew, s) := if s.level = 0 then s.opened k.column else (false, s)
    let s := s.insertAt k.token (if isNew then [.blockMappingStart, .key] else [.key])
    return ((s.allowKey false).advance 1).add .value
  | none =>
    let s ← s.openBlock .blockMappingStart
    s.indicator (s.level = 0) .value

/-- Reads a part of a node that may begin a key. -/
def nodePart (s : Scan) (read : Cursor → Except YamlFault (Token × Cursor)) :
    Except YamlFault Scan := do
  let s ← s.saveKey
  let (token, cursor) ← read s.cursor
  return { (s.allowKey false).add token with cursor }

/-- Reads a quoted scalar. -/
def quoted (s : Scan) (double : Bool) : Except YamlFault Scan :=
  s.nodePart fun c => do
    let (text, c) ← readQuoted double c
    return (.scalar text .quoted, c)

/-- Reads a block scalar. -/
def block (s : Scan) (folded : Bool) : Except YamlFault Scan := do
  let s ← s.dropKey
  let (text, cursor) ← readBlock folded s.indent s.cursor.next
  return { (s.allowKey true).add (.scalar text .quoted) with cursor }

/-- Reads a plain scalar; behind a line break a key may stand. -/
def plain (s : Scan) : Except YamlFault Scan := do
  let s ← s.saveKey
  let (text, broken, cursor) ← readPlain (s.level ≠ 0) (s.indent + 1) s.cursor
  return { (s.allowKey broken).add (.scalar text .plain) with cursor }

/-- A plain scalar may start here. -/
def startsPlain (s : Scan) : Bool :=
  let ch := s.cursor.peek
  let inkFollows := !isSpaceOrEnd (s.cursor.peekAt 1)
  !(isSpaceOrEnd ch || "-?:,[]\x7b\x7d#&*!|>'\"%@\x60".toList.contains ch)
    || (inkFollows && (ch = '-' || (s.level = 0 && (ch = '?' || ch = ':'))))

/-- Reads the next token at the cursor; none is left at the end of the text. -/
def readToken (s : Scan) : Except YamlFault (Turn Scan (List Token)) := do
  let c := s.cursor
  let blankFollows := isSpaceOrEnd (c.peekAt 1)
  let inFlow := s.level ≠ 0
  if c.rest.isEmpty then
    let s ← (s.unwind (-1)).dropKey
    return .done (s.back.reverse ++ [.streamEnd])
  let s ← match c.peek with
    | '%' =>
      if c.column = 0 then s.between fun c => do
        let (d, c) ← readDirective c.next
        return (.directive d, c)
      else .error .malformed
    | '[' => s.openFlow .flowSequenceStart
    | '\x7b' => s.openFlow .flowMappingStart
    | ']' => s.closeFlow .flowSequenceEnd
    | '\x7d' => s.closeFlow .flowMappingEnd
    | ',' => s.indicator true .flowEntry
    | '*' => s.nodePart fun c => do
      let (name, c) ← readAnchor c.next
      return (.alias name, c)
    | '&' => s.nodePart fun c => do
      let (name, c) ← readAnchor c.next
      return (.anchor name, c)
    | '!' => s.nodePart readTag
    | '\'' => s.quoted false
    | '"' => s.quoted true
    | ch =>
      if c.column = 0 && c.atMarker then
        s.between fun c => .ok (if ch = '-' then .documentStart else .documentEnd, c.advance 3)
      else if ch = '-' && blankFollows then do
        (← s.openBlock .blockSequenceStart).indicator true .blockEntry
      else if ch = '?' && (inFlow || blankFollows) then do
        (← s.openBlock .blockMappingStart).indicator (!inFlow) .key
      else if ch = ':' && (inFlow || blankFollows) then s.colon
      else if ch = '|' && !inFlow then s.block false
      else if ch = '>' && !inFlow then s.block true
      else if s.startsPlain then s.plain
      else .error .malformed
  return .again s

/-- Goes to the next token and reads it. -/
def step (s : Scan) : Except YamlFault (Turn Scan (List Token)) := do
  let s ← s.toNextToken
  let s ← s.dropStale
  (s.unwind s.cursor.column).readToken

end Scan

/-- Tokens, and the fault with which they break off. -/
structure TokenStream where
  tokens : List Token
  fault : YamlFault

/-- Reads tokens for a number of turns. -/
def readTokens : Nat → Scan → TokenStream
  | 0, s => ⟨s.settled, .malformed⟩
  | turns + 1, s =>
    match s.step with
    | .error fault => ⟨s.settled, fault⟩
    | .ok (.again s) => readTokens turns s
    | .ok (.done tokens) => ⟨tokens, .malformed⟩

/-- The tokens of a text; characters that may not stand in one are refused. -/
def TokenStream.ofText (text : List Char) : TokenStream :=
  if text.all isAllowed then
    readTokens (text.length + 2) (Scan.start text)
  else ⟨[], .malformed⟩

end PgWrite.Yaml
