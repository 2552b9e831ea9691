import PgWrite.Number.Numeral
import PgWrite.Yaml.Scalar
import PgWrite.Yaml.Token

/-!
# Properties and directives of a YAML text

A node may have an anchor, by which it is referred to later, and a tag, which says what it
stands for. A tag is written in full between angle brackets, or as a handle with a suffix;
directives in front of a document say what its handles stand for.
-/

namespace PgWrite.Yaml

/-- Characters of anchors, handles and directive names. -/
def isNameChar (c : Char) : Bool :=
  c.isAlphanum || c = '-' || c = '_'

/-- Characters of a tag written as a resource name. -/
def isUriChar (c : Char) : Bool :=
  c.isAlphanum || "-;/?:@&=+$,_.!~*'()[]".toList.contains c

/-- Blanks and ends of lines behind a tag or a directive. -/
def endsWord (c : Char) : Bool :=
  isBreakOrEnd c || c = ' '

/-- Fails where a condition does not hold. -/
def expect (condition : Bool) : Except YamlFault Unit :=
  if condition then .ok () else .error .malformed

/-- Reads a name of at least one character. -/
def readName (c : Cursor) : Except YamlFault (List Char × Cursor) := do
  let (name, c) := c.takeWhile isNameChar
  expect !name.isEmpty
  return (name, c)

/-- Reads the name of an anchor behind its indicator. -/
def readAnchor (c : Cursor) : Except YamlFault (List Char × Cursor) := do
  let (name, c) ← readName c
  expect (isSpaceOrEnd c.peek || "?:,]%@\x60\x7d".toList.contains c.peek)
  return (name, c)

/-- The octets that percent signs with two hexadecimal digits stand for. -/
def uriOctets : Nat → List Char → Except YamlFault (List UInt8)
  | turns + 1, '%' :: rest =>
    match rest.take 2, Text.hexNumber? (rest.take 2) with
    | [_, _], some n => (uriOctets turns (rest.drop 2)).map (n.toUInt8 :: ·)
    | _, _ => .error .malformed
  | _, _ => .ok []

/-- Reads a tag written as a resource name. -/
def readUri (c : Cursor) : Except YamlFault (List Char × Cursor) := do
  let (text, c) ← repeatUntil (fun ((text, c) : List Char × Cursor) => do
    let (plain, c) := c.takeWhile isUriChar
    let text := text ++ plain
    if c.peek ≠ '%' then return .done (text, c)
    let octets ← uriOctets c.turns c.rest
    match String.fromUTF8? ⟨octets.toArray⟩ with
    | some s => return .again (text ++ s.toList, c.advance (3 * octets.length))
    | none => throw .malformed) c.turns ([], c)
  expect !text.isEmpty
  return (text, c)

/-- Reads the handle of a tag: one mark, or a name between two. -/
def readHandle (c : Cursor) : Except YamlFault (List Char × Cursor) := do
  expect (c.peek = '!')
  if c.peekAt 1 = ' ' then return (['!'], c.next)
  let (name, c) := c.next.takeWhile isNameChar
  expect (c.peek = '!')
  return ('!' :: name ++ ['!'], c.next)

/-- The tag at this place has a handle of more than one mark. -/
def hasHandle (c : Cursor) : Bool :=
  (c.next.rest.takeWhile fun ch => !endsWord ch).contains '!'

/-- Reads a tag. -/
def readTag (c : Cursor) : Except YamlFault (Token × Cursor) := do
  let (handle, suffix, c) ←
    if c.peekAt 1 = '<' then do
      let (suffix, c) ← readUri (c.advance 2)
      expect (c.peek = '>')
      pure (none, suffix, c.next)
    else if isSpaceOrEnd (c.peekAt 1) then pure (none, ['!'], c.next)
    else do
      let (handle, c) ← if hasHandle c then readHandle c else pure (['!'], c.next)
      let (suffix, c) ← readUri c
      pure (some handle, suffix, c)
  expect (endsWord c.peek)
  return (.tag handle suffix, c)

/-- Reads a run of decimal digits, which must not have too many of them. -/
def readVersionPart (c : Cursor) : Except YamlFault (Nat × Cursor) := do
  let (digits, c) := c.takeWhile Char.isDigit
  expect !digits.isEmpty
  if maxDigits < digits.length then throw .badNumber
  return (Text.digitsValue digits, c)

/-- Reads a directive behind its percent sign, with the rest of its line. -/
def readDirective (c : Cursor) : Except YamlFault (Directive × Cursor) := do
  let (name, c) ← readName c
  expect (endsWord c.peek)
  let blank := fun (ch : Char) => ch = ' '
  let (directive, c) ←
    if name = "YAML".toList then do
      let (major, c) ← readVersionPart (c.skipWhile blank)
      expect (c.peek = '.')
      let (minor, c) ← readVersionPart c.next
      expect (endsWord c.peek)
      pure (Directive.yaml major minor, c)
    else if name = "TAG".toList then do
      let (handle, c) ← readHandle (c.skipWhile blank)
      expect (c.peek = ' ')
      let (start, c) ← readUri (c.skipWhile blank)
      expect (endsWord c.peek)
      pure (Directive.tag handle start, c)
    else pure (Directive.reserved, c.skipWhile fun ch => !isBreakOrEnd ch)
  return (directive, ← ignoredLine c)

end PgWrite.Yaml
