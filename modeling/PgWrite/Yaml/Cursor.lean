/-!
# A place in a YAML text

A cursor is what is left of a text together with the line and the column of its first
character. Behind the end of the text every character reads as the end mark. Loops over a
cursor are steps that are repeated as long as they ask for it, at most as often as the text
allows; a step that neither ends nor advances runs out of turns and is reported as no result.
-/

namespace PgWrite.Yaml

/-- The character that is read behind the end of a text. -/
def endMark : Char := '\x00'

/-- Characters that end a line. -/
def isBreak (c : Char) : Bool :=
  c = '\n' || c = '\r' || c = '\u0085' || c = '\u2028' || c = '\u2029'

/-- Characters that end a line, or the end of the text. -/
def isBreakOrEnd (c : Char) : Bool :=
  isBreak c || c = endMark

/-- Blanks, characters that end a line, or the end of the text. -/
def isSpaceOrEnd (c : Char) : Bool :=
  isBreakOrEnd c || c = ' ' || c = '\t'

/-- Characters that may stand in a YAML text. -/
def isAllowed (c : Char) : Bool :=
  let n := c.toNat
  n = 9 || n = 10 || n = 13 || (0x20 ≤ n && n ≤ 0x7e) || n = 0x85
    || (0xa0 ≤ n && n ≤ 0xd7ff) || (0xe000 ≤ n && n ≤ 0xfffd) || 0x10000 ≤ n

/-- A place in a text. -/
structure Cursor where
  rest : List Char
  /-- How many characters the whole text has. -/
  size : Nat
  index : Nat
  line : Nat
  column : Nat

namespace Cursor

/-- The start of a text. -/
def start (text : List Char) : Cursor :=
  { rest := text, size := text.length, index := 0, line := 0, column := 0 }

/-- The character some places ahead. -/
def peekAt (c : Cursor) (ahead : Nat) : Char :=
  ((c.rest.drop ahead).head?).getD endMark

/-- The next character. -/
def peek (c : Cursor) : Char :=
  c.peekAt 0

/-- The place behind the next character. -/
def next (c : Cursor) : Cursor :=
  match c.rest with
  | [] => c
  | ch :: rest =>
    let c := { c with rest, index := c.index + 1 }
    if isBreak ch && !(ch = '\r' && rest.head? = some '\n') then
      { c with line := c.line + 1, column := 0 }
    else if ch = '\ufeff' then c
    else { c with column := c.column + 1 }

/-- The place behind the next few characters. -/
def advance : Nat → Cursor → Cursor
  | 0, c => c
  | n + 1, c => advance n c.next

/-- The characters up to the first one that is not of a class, and the place behind them. -/
def takeWhile (p : Char → Bool) (c : Cursor) : List Char × Cursor :=
  let taken := c.rest.takeWhile p
  (taken, c.advance taken.length)

/-- The place behind the characters of a class. -/
def skipWhile (p : Char → Bool) (c : Cursor) : Cursor :=
  (c.takeWhile p).2

/-- A line break, as text, and the place behind it; nothing if none stands here. -/
def takeBreak (c : Cursor) : List Char × Cursor :=
  if c.peek = '\r' && c.peekAt 1 = '\n' then (['\n'], c.advance 2)
  else if c.peek = '\u2028' || c.peek = '\u2029' then ([c.peek], c.next)
  else if isBreak c.peek then (['\n'], c.next)
  else ([], c)

/-- A document marker of three equal characters stands here. -/
def atMarker (c : Cursor) : Bool :=
  (c.rest.take 3 = ['-', '-', '-'] || c.rest.take 3 = ['.', '.', '.']) && isSpaceOrEnd (c.peekAt 3)

end Cursor

/-- Why a YAML text cannot be read. -/
inductive YamlFault where
  /-- The text is not well formed, or asks for data that cannot be built. -/
  | malformed
  /-- A number or a date is out of range. -/
  | badNumber
  /-- A number of a character does not fit into 31 bits. -/
  | hugeNumber
  /-- A truth value has an unknown name. -/
  | unknownTruth
  /-- A number has no digits. -/
  | noDigits
  /-- A date does not have the form of one. -/
  | noDate
  /-- A date is no scalar. -/
  | wrongNode
  /-- Collections lie too deep in one another. -/
  | tooDeep
  deriving DecidableEq, Repr

/-- What a step of a loop asks for. -/
inductive Turn (σ α : Type) where
  | again (state : σ)
  | done (result : α)

/-- Repeats a step until it is done, at most a number of times. -/
def repeatUntil {σ α : Type} (step : σ → Except YamlFault (Turn σ α)) :
    Nat → σ → Except YamlFault α
  | 0, _ => .error .malformed
  | turns + 1, state =>
    match step state with
    | .error fault => .error fault
    | .ok (.again state) => repeatUntil step turns state
    | .ok (.done result) => .ok result

/-- Enough turns for a loop that takes at least one character each time but the last. -/
def Cursor.turns (c : Cursor) : Nat :=
  c.size + 2

end PgWrite.Yaml
