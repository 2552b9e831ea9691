import PgWrite.Text.Scan

/-!
# Faults

What can be wrong with a request, by cause. A shape violation of a transaction is an
`InvalidInput` and names the columns or rows it is about; its message is a function of the
cause. The other faults say that a value is of a kind on which an operation does not work,
that arguments do not fit a signature, or that a configuration cannot be used.
-/

namespace PgWrite

/-- Shape violations of transactions, conflict targets, queries and documents. -/
inductive InvalidInput where
  | emptyRows
  | noColumns
  | rowDiffers (row : Nat) (missing unexpected : List String)
  | unknownRowHints (names : List String)
  | unknownUpdateHints (names : List String)
  | emptyUpsertColumns
  | emptyCaseColumns
  | emptyValues
  | emptyIdentifiers
  /-- Update columns, then conflict columns, that the rows do not have. -/
  | missingColumns (update conflict : List String)
  | limitNotInteger (shown : String)
  | limitNotPositive (limit : Int)
  | rowsWithoutIdentifier (column : String) (rows : List Nat)
  | nothingAssigned (columns : List String)
  | emptyTargetColumns
  | emptyConstraint
  | namesGivenAsText (field shown : String)
  | valuesGivenAsText
  | notATarget
  | unknownKind (shown : String) (known : List String)
  | unknownPolicy (shown : String)
  | typeCountMismatch (params types : Nat)
  | markerCountMismatch (markers params : Nat)
  | documentNotObject
  | documentWithoutKind
  /-- A violation stated by its own message and names. -/
  | stated (message label : String) (names : List String)
  deriving DecidableEq, Repr

namespace InvalidInput

/-- The columns or rows that a violation is about. -/
def names : InvalidInput → List String
  | .rowDiffers _ missing unexpected => missing ++ unexpected
  | .unknownRowHints names => names
  | .unknownUpdateHints names => names
  | .missingColumns update conflict => update ++ conflict
  | .rowsWithoutIdentifier _ rows => rows.map fun (i : Nat) => Text.decimal i
  | .nothingAssigned columns => columns
  | .stated _ _ names => names
  | _ => []

/-- A message with the names it is about behind a label, if there are any. -/
def labelled (message label : String) (names : List String) : String :=
  if names.isEmpty then message else message ++ " " ++ label ++ ": " ++ Text.joined ", " names

/-- A label and names, if there are any names. -/
def listed (label : String) (names : List String) : List String :=
  if names.isEmpty then [] else [label ++ ": " ++ Text.joined ", " names]

/-- The message on missing update columns or on missing conflict columns, if any are missing. -/
def missingText (message : String) (names : List String) : List String :=
  if names.isEmpty then [] else [labelled message "Missing" names]

/-- The message of a violation. -/
def message : InvalidInput → String
  | .emptyRows => "Rows must not be empty."
  | .noColumns => "Rows must contain at least one column."
  | .rowDiffers row missing unexpected =>
    "All rows must have the same columns; row " ++ Text.decimal row ++ " differs. "
      ++ Text.joined "; " (listed "Missing" missing ++ listed "Unexpected" unexpected)
  | .unknownRowHints names => labelled "Column types must refer to row columns." "Unknown" names
  | .unknownUpdateHints names =>
    labelled "Column types must refer to updated columns." "Unknown" names
  | .emptyUpsertColumns => "UpsertTransaction requires non-empty update_columns."
  | .emptyCaseColumns => "CaseUpdateTransaction requires non-empty update_columns."
  | .emptyValues => "BulkUpdateTransaction requires non-empty values."
  | .emptyIdentifiers => "Identifiers must not be empty."
  | .missingColumns update conflict =>
    Text.joined "; " (missingText "Update columns must exist in rows." update
      ++ missingText "Conflict columns must exist in rows." conflict)
  | .limitNotInteger shown => "Limit must be an integer, got " ++ shown ++ "."
  | .limitNotPositive limit => "Limit must be a positive integer, got " ++ Text.decimal limit ++ "."
  | .rowsWithoutIdentifier column rows =>
    labelled ("Every row must contain the identifier column " ++ column ++ ".") "Rows"
      (rows.map fun (i : Nat) => Text.decimal i)
  | .nothingAssigned columns =>
    labelled "No row carries a value for any update column." "Missing" columns
  | .emptyTargetColumns => "ColumnsConflictTarget requires non-empty columns."
  | .emptyConstraint => "ConstraintConflictTarget requires non-empty constraint_name."
  | .namesGivenAsText field shown =>
    field ++ " must be a sequence of names, not a string: " ++ shown
  | .valuesGivenAsText => "identifiers must be a sequence of values, not a string."
  | .notATarget => "conflict_target must be a ConflictTarget or a mapping with exactly "
      ++ "one of 'columns' or 'constraint'."
  | .unknownKind shown known =>
    "Unknown transaction kind " ++ shown ++ ". Expected one of: " ++ Text.joined ", " known
  | .unknownPolicy shown => "Unknown statement reuse policy " ++ shown ++ "."
  | .typeCountMismatch params types =>
    "Query params and types must have equal length (params=" ++ Text.decimal params
      ++ ", types=" ++ Text.decimal types ++ ")."
  | .markerCountMismatch markers params =>
    "Placeholder count (" ++ Text.decimal markers ++ ") does not match parameter count ("
      ++ Text.decimal params ++ ")."
  | .documentNotObject => "Transaction document must be a JSON object."
  | .documentWithoutKind => "Transaction document requires a 'kind' field."
  | .stated message label names => labelled message label names

end InvalidInput

/-- Why a field of a configuration does not fit its schema. -/
inductive SchemaFault where
  | notList
  | notText
  | undecodable
  | unknownField
  | notAllowed
  deriving DecidableEq, Repr

/-- The places at which a configuration does not fit its schema. -/
abbrev SchemaFaults := List (String × SchemaFault)

/-- Why a file with error rules cannot be used. -/
inductive ConfigFault where
  | notFound (path : String)
  | notYaml
  | notMapping
  | schema (faults : SchemaFaults)
  deriving DecidableEq, Repr

/-- What can be wrong with a request. -/
inductive Fault where
  | invalid (cause : InvalidInput)
  | config (cause : ConfigFault)
  | schema (faults : SchemaFaults)
  | unexpectedArgument (callable name : String)
  | repeatedArgument (callable name : String)
  | missingArguments (callable : String) (names : List String)
  /-- A value of this kind cannot be walked through. -/
  | notIterable (kind : String)
  /-- A value of this kind cannot serve as a key. -/
  | unhashable (kind : String)
  /-- A list of names holds a value of this kind. -/
  | notJoinable (index : Nat) (kind : String)
  /-- A list of entries holds something that is no pair. -/
  | entryNotSequence (index : Nat)
  | entryLength (index length : Nat)
  /-- An operation does not take a value of this kind. -/
  | wrongKind (kind : String)
  /-- A value of this kind lacks the operation. -/
  | noOperation (kind : String)
  | notNumeral
  | infiniteNumber
  /-- A count is beyond every index. -/
  | countTooLarge
  /-- A list of this length finds no room. -/
  | noRoom
  /-- Values lie too deep in one another. -/
  | tooDeep
  | missingKey
  | indexOutOfRange
  /-- A named parameter has no place in the text. -/
  | unplacedBind (name : String)
  | frozenField (field : String)
  | frozenFieldDeleted (field : String)
  | isDirectory
  | fileExists
  | notDirectory
  /-- The home directory of a user is not known. -/
  | homeUnknown
  | undecodable
  /-- A text holds a character that cannot be written, such as half of a surrogate pair. -/
  | notEncodable
  /-- A path holds a character that no path may hold. -/
  | unusablePath
  /-- A path, or a name in it, is too long. -/
  | pathTooLong
  /-- The name or the value of a variable holds a character that it may not hold. -/
  | unusableVariable
  /-- A variable has an empty name. -/
  | namelessVariable
  /-- A document cannot be read. -/
  | unreadableDocument
  deriving DecidableEq, Repr

/-- Names in a sentence: `a`, `a and b`, `a, b, and c`, each in quotes. -/
def sentenceNames (names : List String) : String :=
  let quoted := names.map fun n => "'" ++ n ++ "'"
  match quoted with
  | [] => ""
  | [a] => a
  | [a, b] => a ++ " and " ++ b
  | _ => Text.joined ", " quoted.dropLast ++ ", and " ++ quoted.getLastD ""

/-- The message of a fault. -/
def Fault.message : Fault → String
  | .invalid cause => cause.message
  | .config (.notFound path) => "Heuristics config not found: " ++ path
  | .config .notYaml => "Invalid YAML in heuristics config"
  | .config .notMapping => "Heuristics config must be a mapping"
  | .config (.schema _) => "Heuristics config validation failed"
  | .unexpectedArgument callable name =>
    callable ++ "() got an unexpected keyword argument '" ++ name ++ "'"
  | .repeatedArgument callable name =>
    callable ++ "() got multiple values for argument '" ++ name ++ "'"
  | .missingArguments callable names =>
    callable ++ "() missing " ++ Text.decimal names.length ++ " required positional argument"
      ++ (if names.length = 1 then "" else "s") ++ ": " ++ sentenceNames names
  | .notIterable kind => "'" ++ kind ++ "' object is not iterable"
  | .unhashable kind => "unhashable type: '" ++ kind ++ "'"
  | .notJoinable index kind =>
    "sequence item " ++ Text.decimal index ++ ": expected str instance, " ++ kind ++ " found"
  | .entryNotSequence index =>
    "cannot convert dictionary update sequence element #" ++ Text.decimal index ++ " to a sequence"
  | .entryLength index length =>
    "dictionary update sequence element #" ++ Text.decimal index ++ " has length "
      ++ Text.decimal length ++ "; 2 is required"
  | .unreadableDocument => "cannot read transaction document"
  | .frozenField field => "cannot assign to field '" ++ field ++ "'"
  | .frozenFieldDeleted field => "cannot delete field '" ++ field ++ "'"
  | .schema faults => "the settings do not fit at " ++ Text.joined ", " (faults.map (·.1))
  | .wrongKind kind => "an operation does not take a value of the kind '" ++ kind ++ "'"
  | .noOperation kind => "a value of the kind '" ++ kind ++ "' lacks an operation"
  | .notNumeral => "a text is no numeral"
  | .infiniteNumber => "a number is out of range"
  | .countTooLarge => "a count is beyond every index"
  | .noRoom => "a list finds no room"
  | .tooDeep => "values lie too deep in one another"
  | .missingKey => "a key is missing"
  | .indexOutOfRange => "an index is out of range"
  | .unplacedBind name => "the parameter " ++ name ++ " has no place in the text"
  | .isDirectory => "a directory stands in the place of a file"
  | .fileExists => "a file stands in the place of a directory"
  | .notDirectory => "a path leads through a file"
  | .homeUnknown => "a home directory is not known"
  | .undecodable => "a file holds octets that are no text"
  | .notEncodable => "a text holds a character that cannot be written"
  | .unusablePath => "a path holds a character that no path may hold"
  | .pathTooLong => "a path is too long"
  | .unusableVariable => "a variable holds a character that it may not hold"
  | .namelessVariable => "a variable has no name"

end PgWrite
