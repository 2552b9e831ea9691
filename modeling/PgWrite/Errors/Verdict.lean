import PgWrite.Errors.Rules
import PgWrite.Text.Scan

/-!
# Verdicts

An error is a lost connection if its SQLSTATE starts with a connection prefix or its message
holds a connection text; else it is transient if its SQLSTATE is a transient state or its
message holds a transient text; else it is fatal. All comparisons are made in lower case, and
an empty prefix matches nothing.
-/

namespace PgWrite

/-- What becomes of a request that met an error. -/
inductive Verdict where
  | fatal
  | transient
  | connection
  deriving DecidableEq, Repr

namespace Verdict

/-- The verdict in capitals. -/
def name : Verdict → String
  | .connection => "CONNECTION"
  | .transient => "TRANSIENT"
  | .fatal => "FATAL"

/-- The verdict in small letters. -/
def value : Verdict → String
  | .connection => "connection"
  | .transient => "transient"
  | .fatal => "fatal"

/-- How bad the state of the connection is. -/
def rank : Verdict → Nat
  | .fatal => 0
  | .transient => 1
  | .connection => 2

end Verdict

/-- An error reduced to what rules look at. -/
structure ErrorSignal where
  sqlstate : Option String
  driverCode : Option Int
  message : String
  deriving DecidableEq, Repr

/-- Some of the texts occurs in a message in lower case. -/
def mentions (texts : List String) (message : String) : Bool :=
  texts.any fun text => Text.occursIn text.toList (Text.lower message).toList

/-- A SQLSTATE in lower case starts with a prefix that is not empty. -/
def startsWithAny (starts : List String) (state : String) : Bool :=
  starts.any fun start => start ≠ "" && start.toList.isPrefixOf (Text.lower state).toList

/-- Some of the texts is part of a message in lower case. -/
theorem mentions_iff {texts : List String} {message : String} :
    mentions texts message = true ↔
      ∃ text ∈ texts, text.toList <:+: (Text.lower message).toList := by
  simp only [mentions, List.any_eq_true, Text.occursIn_iff_infix]

/-- A state in lower case starts with some prefix that is not empty. -/
theorem startsWithAny_iff {starts : List String} {state : String} :
    startsWithAny starts state = true ↔
      ∃ start ∈ starts, start ≠ "" ∧ start.toList <+: (Text.lower state).toList := by
  simp only [startsWithAny, List.any_eq_true, Bool.and_eq_true, decide_eq_true_eq,
    List.isPrefixOf_iff_prefix]

namespace Rules

/-- The error means a lost connection. -/
def isConnectionIssue (rules : Rules) (e : ErrorSignal) : Bool :=
  e.sqlstate.any (startsWithAny rules.connectionPrefixes)
    || mentions rules.connectionMessages e.message

/-- The error means a conflict that may pass. -/
def isTransientIssue (rules : Rules) (e : ErrorSignal) : Bool :=
  e.sqlstate.any (fun state => rules.transientStates.contains (Text.lower state))
    || mentions rules.transientMessages e.message

/-- The verdict on an error: a lost connection outranks a conflict. -/
def classify (rules : Rules) (e : ErrorSignal) : Verdict :=
  if rules.isConnectionIssue e then .connection
  else if rules.isTransientIssue e then .transient
  else .fatal

end Rules

end PgWrite
