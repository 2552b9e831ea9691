import PgWrite.Errors.Verdict
import PgWrite.Fault
import PgWrite.Value.Equality
import PgWrite.Value.Shown

/-!
# Driver errors

An error of a database driver has arguments, attributes and perhaps an error that it wraps.
It is reduced to a signal by looking at itself first and at the wrapped error second: at the
three places where drivers keep the SQLSTATE, at its error number or first argument, and at
its text. Only one layer of wrapping is looked through.

An error of the operating system takes a number, a text and up to two files from its
arguments. For an operation that would have to wait, a number in the place of the first file
counts the characters that were written.
-/

namespace PgWrite

/-- The parts of an error of the operating system. -/
structure SystemParts where
  number : Option Value
  text : Option Value
  file : Option Value
  /-- The file that an operation leads to. -/
  target : Option Value

mutual

/-- An error as a driver raises it. -/
inductive DriverError where
  | mk (arguments : List Value) (system : Option SystemParts) (ownText : Option Value)
    (attributes : List (String × Value)) (origin : Origin)

/-- What an error says it was raised from. -/
inductive Origin where
  | none
  | itself
  | error (e : DriverError)
  /-- Something that is no error. -/
  | other

end

namespace SystemParts

/-- No part is given. -/
def nothing : SystemParts :=
  { number := none, text := none, file := none, target := none }

/-- The numbers of operations that would have to wait. -/
def waitingNumbers : List Int :=
  [11, 114, 115]

/-- The number of an operation that would have to wait. -/
def isWaiting (number : Value) : Bool :=
  number.int?.any waitingNumbers.contains

/-- A value that is not null. -/
def given? : Option Value → Option Value
  | some .null => none
  | v => v

/-- Fails unless a value can count written characters. -/
def checkWritten (v : Value) : Except Fault Unit :=
  match v.int? with
  | some n => if -(Int.pow 2 63) ≤ n ∧ n < Int.pow 2 63 then .ok () else .error .notNumeral
  | none => .error (.wrongKind v.kindWord)

/-- A number of any kind. -/
def isNumber : Value → Bool
  | .int _ => true
  | .bool _ => true
  | .float _ => true
  | _ => false

/-- The parts of an error with the given arguments, and the arguments that it keeps. -/
def ofArguments (args : List Value) : Except Fault (SystemParts × List Value) :=
  match args with
  | number :: text :: more =>
    let parts := { nothing with number := some number, text := some text }
    if 3 < more.length then .ok (nothing, args)
    else match given? more.head? with
      | none => .ok (parts, args)
      | some file =>
        if isWaiting number && isNumber file then
          (checkWritten file).map fun _ => (parts, args)
        else
          .ok ({ parts with file := some file, target := given? (more[2]?) }, [number, text])
  | _ => .ok (nothing, args)

/-- The parts with attributes that are set on the error; one that is set to null is set. -/
def withAttributes (parts : SystemParts) (attributes : List (String × Value)) : SystemParts where
  number := (attributes.lookup "errno").or parts.number
  text := (attributes.lookup "strerror").or parts.text
  file := (attributes.lookup "filename").or parts.file
  target := (attributes.lookup "filename2").or parts.target

end SystemParts

namespace DriverError

/-- The arguments that an error keeps. -/
def arguments : DriverError → List Value
  | mk arguments _ _ _ _ => arguments

/-- The parts of an error, if it is one of the operating system. -/
def system : DriverError → Option SystemParts
  | mk _ system _ _ _ => system

/-- The text that the error gives for itself. -/
def ownText : DriverError → Option Value
  | mk _ _ ownText _ _ => ownText

/-- What the error says it was raised from. -/
def origin : DriverError → Origin
  | mk _ _ _ _ origin => origin

/-- An attribute that was set on the error. -/
def attribute? : DriverError → String → Option Value
  | mk _ _ _ attributes _, name => attributes.lookup name

/-- The arguments of an error after its attributes have been set. -/
def argumentsAfter (attributes : List (String × Value)) (args : List Value) :
    Except Fault (List Value) :=
  match attributes.lookup "args" with
  | none => .ok args
  | some v => match v.elements? with
    | some items => .ok items
    | none => .error (.notIterable v.kindWord)

/-- An error of a driver's own. -/
def make (args : List Value) (ownText : Option Value) (attributes : List (String × Value))
    (origin : Origin) : Except Fault DriverError := do
  return mk (← argumentsAfter attributes args) none ownText attributes origin

/-- An error of the operating system. -/
def makeSystem (args : List Value) (attributes : List (String × Value)) (origin : Origin) :
    Except Fault DriverError := do
  let (parts, kept) ← SystemParts.ofArguments args
  let kept ← argumentsAfter attributes kept
  if let some count := attributes.lookup "characters_written" then
    SystemParts.checkWritten count
  return mk kept (some (parts.withAttributes attributes)) none attributes origin

/-- The text of an error's arguments: none, the single one, or all between parentheses. -/
def argumentsText : List Value → String
  | [] => ""
  | [v] => v.display
  | vs => tupleText (Value.shownItems vs)

/-- A part of a system error in its text. -/
def partText (part : Option Value) : String :=
  (part.getD .null).display

/-- The text of a system error that names a file or has a number and a text, or of its
arguments. -/
def systemText (parts : SystemParts) (args : List Value) : String :=
  let head := "[Errno " ++ partText parts.number ++ "] " ++ partText parts.text
  match parts.file, parts.target with
  | some file, some target => head ++ ": " ++ file.shown ++ " -> " ++ target.shown
  | some file, none => head ++ ": " ++ file.shown
  | none, _ =>
    if parts.number.isSome && parts.text.isSome then head else argumentsText args

/-- The text of an error; one that it gives for itself must be text. -/
def text (e : DriverError) : Except Fault String :=
  match e.system, e.ownText with
  | some parts, _ => .ok (systemText parts e.arguments)
  | none, some v => match v.text? with
    | some s => .ok s
    | none => .error (.wrongKind v.kindWord)
  | none, none => .ok (argumentsText e.arguments)

/-- A text that is not empty. -/
def filledText? (v : Option Value) : Option String :=
  (v.bind Value.text?).filter (· ≠ "")

/-- The member of an attribute that has members. -/
def member? (v : Option Value) (name : String) : Option Value :=
  match v with
  | some (.map _ members) => Row.field? members name
  | _ => none

/-- The SQLSTATE of an error, from the first of three places that has one. -/
def sqlstate? (e : DriverError) : Option String :=
  (filledText? (e.attribute? "sqlstate")).or <|
    (filledText? (e.attribute? "pgcode")).or <|
      filledText? (member? (e.attribute? "diag") "sqlstate")

/-- An integer that is no truth value. -/
def number? : Option Value → Option Int
  | some (.int n) => some n
  | _ => none

/-- The number that an error bears. -/
def ownNumber (e : DriverError) : Option Value :=
  match e.system with
  | some parts => parts.number
  | none => e.attribute? "errno"

/-- The error number of an error, or its first argument if that is a number. -/
def code? (e : DriverError) : Option Int :=
  (number? e.ownNumber).or (number? e.arguments.head?)

/-- The error and the one that it wraps. -/
def sources (e : DriverError) : List DriverError :=
  match e.origin with
  | .error inner => [e, inner]
  | _ => [e]

/-- The text of an error, or of the one that it wraps if its own is empty. -/
def messageOf (e : DriverError) : Except Fault String := do
  let own ← e.text
  match e.origin with
  | .error inner => if own = "" then inner.text else return own
  | _ => return own

/-- An error reduced to what rules look at. -/
def signal (e : DriverError) : Except Fault ErrorSignal := do
  return {
    sqlstate := e.sources.findSome? sqlstate?
    driverCode := e.sources.findSome? code?
    message := ← e.messageOf }

end DriverError

end PgWrite
