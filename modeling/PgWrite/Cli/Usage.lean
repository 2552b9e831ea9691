import PgWrite.Number.Numeral
import PgWrite.Text.DecimalDigit
import PgWrite.Value.Shown

/-!
# Command lines

The words of a command line are options and plain words. An option is known by its flag, by
any start of a long flag that fits no other flag, and with a value behind an equality sign. A
word that looks like a negative number or holds a blank is plain, and so is every word behind
a double dash. What fits nowhere is gathered and refused at the end, so that an error of a
known option is reported first.
-/

namespace PgWrite.Cli

/-- What an option does. -/
inductive OptionAction where
  | help
  | text (name : String)
  | number (name : String)
  deriving DecidableEq, Repr

/-- Why a command line asks for no command. -/
inductive Refusal where
  | help
  | error (program message : String)
  deriving DecidableEq, Repr

/-- What a command takes. -/
structure Form where
  program : String
  options : List (String × OptionAction)
  /-- A plain word is taken as the name of a file. -/
  takesFile : Bool

/-- The flags of help. -/
def helpOptions : List (String × OptionAction) :=
  [("-h", .help), ("--help", .help)]

/-- A value that stands in one word with its flag. -/
inductive Joint where
  | none
  /-- Directly behind the flag. -/
  | attached (value : List Char)
  /-- Behind an equality sign. -/
  | equated (value : List Char)
  deriving DecidableEq, Repr

/-- An option as it is used. -/
structure OptionUse where
  flag : String
  action : OptionAction
  joint : Joint
  deriving DecidableEq, Repr

/-- A word of a command line. -/
inductive Word where
  /-- A double dash. -/
  | marker
  | plain (s : String)
  | option (o : OptionUse)
  /-- A word in the form of an option that is not known. -/
  | unknown (s : String)
  deriving DecidableEq, Repr

/-- A word in the form of a negative number. -/
def looksNegative (word : List Char) : Bool :=
  let isDigit := fun (c : Char) => (Text.digitValue? c).isSome
  match word with
  | '-' :: body =>
    let body := if body.getLast? = some '\n' then body.dropLast else body
    match body.dropWhile isDigit with
    | [] => !body.isEmpty
    | '.' :: fraction => !fraction.isEmpty && fraction.all isDigit
    | _ => false
  | _ => false

/-- The part of a word in front of its first equality sign, and the part behind it. -/
def splitEquated (word : List Char) : List Char × Joint :=
  match word.dropWhile (· ≠ '=') with
  | _ :: value => (word.takeWhile (· ≠ '='), .equated value)
  | [] => (word, .none)

namespace Form

/-- The action of a flag. -/
def action? (f : Form) (flag : List Char) : Option OptionAction :=
  f.options.lookup (String.ofList flag)

/-- The options that a word may be short for. -/
def candidates (f : Form) (word : List Char) : List OptionUse :=
  match word with
  | '-' :: '-' :: _ =>
    let (start, joint) := splitEquated word
    f.options.filterMap fun (flag, action) =>
      if start.isPrefixOf flag.toList then some { flag, action, joint } else none
  | _ =>
    f.options.filterMap fun (flag, action) =>
      if flag.toList = word.take 2 then some { flag, action, joint := .attached (word.drop 2) }
      else if word.isPrefixOf flag.toList then some { flag, action, joint := .none }
      else none

/-- The error of a command line. -/
def error {α : Type} (f : Form) (message : String) : Except Refusal α :=
  .error (.error f.program message)

/-- What a word is, standing in front of any double dash. -/
def wordOf (f : Form) (word : String) : Except Refusal Word :=
  let cs := word.toList
  match cs with
  | '-' :: _ :: _ =>
    let (start, joint) := splitEquated cs
    match f.action? cs, f.action? start with
    | some action, _ => .ok (.option { flag := word, action, joint := .none })
    | none, some action => .ok (.option { flag := String.ofList start, action, joint })
    | none, none =>
      match f.candidates cs with
      | [o] => .ok (.option o)
      | [] =>
        if looksNegative cs || cs.contains ' ' then .ok (.plain word) else .ok (.unknown word)
      | many =>
        f.error ("ambiguous option: " ++ word ++ " could match "
          ++ Text.joined ", " (many.map OptionUse.flag))
  | _ => .ok (.plain word)

/-- The words of a command line; behind the first double dash all are plain. -/
def words (f : Form) : List String → Except Refusal (List Word)
  | [] => .ok []
  | word :: rest =>
    if word = "--" then .ok (.marker :: rest.map .plain)
    else do return (← f.wordOf word) :: (← f.words rest)

end Form

/-- The name by which errors call an option. -/
def OptionUse.label (o : OptionUse) : String :=
  if o.action = .help then "-h/--help" else o.flag

/-- The text of a plain word. -/
def Word.text : Word → String
  | .marker => "--"
  | .plain s => s
  | .unknown s => s
  | .option o => o.flag

/-- The error of an option. -/
def optionError {α : Type} (f : Form) (label message : String) : Except Refusal α :=
  f.error ("argument " ++ label ++ ": " ++ message)

/-- The value that stands in one word with a flag. -/
def Joint.value? : Joint → Option (List Char)
  | .none => Option.none
  | .attached value => some value
  | .equated value => some value

/-- A flag of two dashes. -/
def OptionUse.isLong (o : OptionUse) : Bool :=
  "--".toList.isPrefixOf o.flag.toList

/-- A value that help has no use for; behind a short flag its own letter may be repeated. -/
def uselessValue? (o : OptionUse) : Option (List Char) :=
  match o.joint.value? with
  | none => none
  | some [] => some []
  | some value =>
    if o.isLong then some value
    else (some (value.dropWhile (· = 'h'))).filter fun tail => !tail.isEmpty

/-- What a command line gives. -/
structure Given where
  /-- The values of options; the last value of an option stands first. -/
  values : List (String × Value)
  file : Option String
  /-- Words that fit nowhere. -/
  extras : List String

namespace Given

/-- Nothing is given. -/
def nothing : Given :=
  { values := [], file := none, extras := [] }

/-- Adds words that fit nowhere. -/
def addExtras (g : Given) (words : List String) : Given :=
  { g with extras := g.extras ++ words }

/-- Stores the value of an option; a later value takes the place of an earlier one. -/
def store (g : Given) (f : Form) (o : OptionUse) (value : String) : Except Refusal Given :=
  match o.action with
  | .help => .error .help
  | .text name => .ok { g with values := (name, .text value) :: g.values }
  | .number name => match readInteger? value.toList with
    | some n => .ok { g with values := (name, .int n) :: g.values }
    | none => optionError f o.label ("invalid int value: " ++ quotedText value)

/-- Stores a value that stands in one word with its flag; a double dash is no value and leaves
an empty list. -/
def storeJoint (g : Given) (f : Form) (o : OptionUse) (value : List Char) :
    Except Refusal Given :=
  match o.action, value with
  | .text name, ['-', '-'] => .ok { g with values := (name, .ofList []) :: g.values }
  | .number name, ['-', '-'] => .ok { g with values := (name, .ofList []) :: g.values }
  | _, _ => g.store f o (String.ofList value)

/-- Takes an option with the words behind it. -/
def takeOption (g : Given) (f : Form) (o : OptionUse) (rest : List Word) :
    Except Refusal (Given × List Word) :=
  match o.action, o.joint, rest with
  | .help, _, _ =>
    match uselessValue? o with
    | some value =>
      optionError f o.label ("ignored explicit argument " ++ quotedText (String.ofList value))
    | none => .error .help
  | _, .attached value, _ => (g.storeJoint f o value).map (·, rest)
  | _, .equated value, _ => (g.storeJoint f o value).map (·, rest)
  | _, .none, .plain value :: rest => (g.store f o value).map (·, rest)
  | _, .none, _ => optionError f o.label "expected one argument"

/-- Takes the name of a file with the markers around it, if one is still wanted. -/
def takeFile (g : Given) (words : List Word) : Given × List Word :=
  let isMarker := fun (w : Word) => w = .marker
  match words.dropWhile isMarker with
  | .plain s :: rest => ({ g with file := some s }, rest.dropWhile isMarker)
  | rest => (g, rest)

/-- The word is no option. -/
def isPlain : Word → Bool
  | .plain _ => true
  | .marker => true
  | _ => false

/-- Reads words for a number of turns; `wantsFile` says whether a file may still be named. -/
def read (f : Form) : Nat → Bool → Given → List Word → Except Refusal Given
  | 0, _, g, _ => .ok g
  | _, _, g, [] => .ok g
  | turns + 1, wantsFile, g, word :: rest =>
    match word with
    | .unknown s => read f turns wantsFile (g.addExtras [s]) rest
    | .option o => do
      let (g, rest) ← g.takeOption f o rest
      read f turns wantsFile g rest
    | _ =>
      if wantsFile then
        let (g, rest) := g.takeFile (word :: rest)
        read f turns false g rest
      else
        let passed := (word :: rest).takeWhile isPlain
        read f turns false (g.addExtras (passed.map Word.text)) ((word :: rest).dropWhile isPlain)

end Given

namespace Form

/-- What a command line gives to a form. -/
def given (f : Form) (line : List String) : Except Refusal Given := do
  let words ← f.words line
  Given.read f (words.length + 1) f.takesFile Given.nothing words

end Form

end PgWrite.Cli
