import PgWrite.Text.DecimalDigit
import PgWrite.Text.Scan

/-!
# Environment files

A file of variables has one `NAME=value` to a line, perhaps behind the word `export`. Blanks
around the parts mean nothing, a value may stand in quotes, and a comment starts at a number
sign. A line of another form is passed over. A name without a value is known but not set. A
name between braces behind a dollar sign stands for the value of that variable.
-/

namespace PgWrite.EnvFile

/-- Characters that end a line. -/
def isLineEnd (c : Char) : Bool :=
  c = '\n' || c = '\r'

/-- Blanks within a line. -/
def isInlineBlank (c : Char) : Bool :=
  Text.isBlank c && !isLineEnd c

/-- The text behind the blanks of a line. -/
def skipInline (text : List Char) : List Char :=
  text.dropWhile isInlineBlank

/-- The text behind the rest of a line. -/
def skipLine (text : List Char) : List Char :=
  match text.dropWhile fun c => !isLineEnd c with
  | '\r' :: '\n' :: rest => rest
  | _ :: rest => rest
  | [] => []

/-- The text behind the word `export` and blanks, if they stand here. -/
def skipExport (text : List Char) : List Char :=
  match Text.dropStart? "export".toList text with
  | some (c :: rest) => if isInlineBlank c then skipInline rest else text
  | _ => text

/-- The text up to a closing quote, and what is behind it. A backslash lets a backslash or a
quote stand in the text; the latter closes it if no other quote does. -/
def takeQuoted (quote : Char) : List Char → Option (List Char × List Char)
  | [] => none
  | '\\' :: c :: rest =>
    if c = '\\' then
      (takeQuoted quote rest).map fun (text, behind) => ('\\' :: c :: text, behind)
    else if c = quote then
      match takeQuoted quote rest with
      | some (text, behind) => some ('\\' :: c :: text, behind)
      | none => some (['\\'], rest)
    else (takeQuoted quote (c :: rest)).map fun (text, behind) => ('\\' :: text, behind)
  | c :: rest =>
    if c = quote then some ([], rest)
    else (takeQuoted quote rest).map fun (text, behind) => (c :: text, behind)

/-- The character of an escape between double quotes. -/
def escaped? (c : Char) : Option Char :=
  match c with
  | '\\' => some '\\' | '\'' => some '\'' | '"' => some '"' | 'a' => some '\x07'
  | 'b' => some '\x08' | 'f' => some '\x0c' | 'n' => some '\n' | 'r' => some '\r'
  | 't' => some '\t' | 'v' => some '\x0b'
  | _ => none

/-- The character of an escape between single quotes. -/
def escapedQuote? (c : Char) : Option Char :=
  if c = '\\' || c = '\'' then some c else none

/-- Text with its escapes replaced. -/
def unescape (escape? : Char → Option Char) : List Char → List Char
  | '\\' :: c :: rest => match escape? c with
    | some d => d :: unescape escape? rest
    | none => '\\' :: unescape escape? (c :: rest)
  | c :: rest => c :: unescape escape? rest
  | [] => []

/-- Text up to a comment that blanks set off. -/
def dropComment : List Char → List Char
  | [] => []
  | c :: rest =>
    if Text.isBlank c && (rest.dropWhile Text.isBlank).head? = some '#' then []
    else c :: dropComment rest

/-- A value behind its equality sign, and the text behind it. -/
def takeValue (text : List Char) : Option (List Char × List Char) :=
  match text with
  | '\'' :: rest => (takeQuoted '\'' rest).map fun (v, behind) => (unescape escapedQuote? v, behind)
  | '"' :: rest => (takeQuoted '"' rest).map fun (v, behind) => (unescape escaped? v, behind)
  | _ =>
    let line := text.takeWhile fun c => !isLineEnd c
    some (Text.trim Text.isBlank (dropComment line), text.drop line.length)

/-- A name, which may stand between quotes, and the text behind it. -/
def takeName (text : List Char) : Option (List Char × List Char) :=
  let inName := fun (c : Char) => !(c = '=' || c = '#' || Text.isBlank c)
  let (name, rest) := match text with
    | '\'' :: rest => match rest.dropWhile (· ≠ '\'') with
      | _ :: behind => (rest.takeWhile (· ≠ '\''), behind)
      | [] => ([], rest)
    | _ => (text.takeWhile inName, text.dropWhile inName)
  if name.isEmpty then none else some (name, rest)

/-- The end of a line behind blanks and a comment stands here. -/
def endsLine (text : List Char) : Bool :=
  match skipInline text with
  | [] => true
  | c :: _ => c = '#' || isLineEnd c

/-- The variable of a line, and the text behind what was read of it. -/
def readLine (text : List Char) : Option (String × Option String) × List Char :=
  match takeName (skipExport text) with
  | none => (none, text)
  | some (name, rest) =>
    let name := String.ofList name
    match skipInline rest with
    | '=' :: rest =>
      match takeValue (skipInline rest) with
      | some (v, behind) =>
        if endsLine behind then (some (name, some (String.ofList v)), behind) else (none, behind)
      | none => (none, rest)
    | rest => if endsLine rest then (some (name, none), rest) else (none, rest)

/-- The variables of a text, line by line. -/
def readLines : Nat → List Char → List (String × Option String)
  | 0, _ => []
  | fuel + 1, text =>
    match text.dropWhile Text.isBlank with
    | [] => []
    | c :: rest =>
      let (found?, behind) := readLine (c :: rest)
      let others := readLines fuel (skipLine behind)
      match found? with
      | some entry => entry :: others
      | none => others

/-- The variables of a text in order; a byte order mark in front of it does not count. -/
def assignments (text : String) : List (String × Option String) :=
  match text.toList with
  | '\ufeff' :: rest => readLines (text.length + 1) rest
  | rest => readLines (text.length + 1) rest

/-- The name and the default of a reference behind its opening brace, and the text behind its
closing brace. -/
def takeReference (text : List Char) : Option (List Char × List Char × List Char) :=
  let endsName := fun (c : Char) => c = '\x7d' || c = ':'
  let name := text.takeWhile fun c => !endsName c
  match text.dropWhile fun c => !endsName c with
  | '\x7d' :: rest => some (name, [], rest)
  | ':' :: '-' :: rest => match rest.dropWhile (· ≠ '\x7d') with
    | _ :: behind => some (name, rest.takeWhile (· ≠ '\x7d'), behind)
    | [] => none
  | _ => none

/-- A text with its references replaced by the values of variables, or by their defaults. -/
def expandFrom (value? : String → Option String) : Nat → List Char → List Char
  | fuel + 1, '$' :: '\x7b' :: rest =>
    match takeReference rest with
    | some (name, default, behind) =>
      ((value? (String.ofList name)).map String.toList).getD default
        ++ expandFrom value? fuel behind
    | none => '$' :: expandFrom value? fuel ('\x7b' :: rest)
  | fuel + 1, c :: rest => c :: expandFrom value? fuel rest
  | _, _ => []

/-- Variables of a file, of which some have no value. -/
abbrev FileVariables := List (String × Option String)

/-- Sets a variable, which keeps its place if it is known. -/
def setVariable (name : String) (value : Option String) : FileVariables → FileVariables
  | [] => [(name, value)]
  | (n, v) :: rest =>
    if n = name then (n, value) :: rest else (n, v) :: setVariable name value rest

/-- The value that a reference stands for: that of a variable of the file so far, which counts
as empty if it has none, or else that of a variable of the environment. -/
def referredValue (env : List (String × String)) (known : FileVariables) (name : String) :
    Option String :=
  match known.lookup name with
  | some value => some (value.getD "")
  | none => env.lookup name

/-- The variables of assignments in order, with the references in their values replaced. Of two
assignments to one name the later one counts. -/
def expanded (env : List (String × String)) : FileVariables → FileVariables → FileVariables
  | known, [] => known
  | known, (name, value) :: rest =>
    let value := value.map fun v =>
      String.ofList (expandFrom (referredValue env known) (v.length + 1) v.toList)
    expanded env (setVariable name value known) rest

/-- The variables of a text. -/
def variablesOf (env : List (String × String)) (text : String) : FileVariables :=
  expanded env [] (assignments text)

end PgWrite.EnvFile
