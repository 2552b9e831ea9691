import PgWrite.Errors.Verdict
import PgWrite.Log.Event
import PgWrite.Signature
import PgWrite.Value.Elements

/-!
# Errors and rules as they are given

The parts of an error and the rules may be of any kind where they are given, and only what is
looked at has to fit. What can be put into lower case is text or octets. Comparing the one with
the other is a fault, except where a whole SQLSTATE is looked up in a list.
-/

namespace PgWrite

/-- Text, or octets in its place. -/
inductive GivenText where
  | text (s : String)
  | octets (o : List UInt8)
  deriving DecidableEq, Repr

/-- Some element passes a test; what stands behind the first such element is not tested. -/
def anyPasses {α : Type} (test : α → Except Fault Bool) : List α → Except Fault Bool
  | [] => .ok false
  | a :: rest =>
    match test a with
    | .ok false => anyPasses test rest
    | outcome => outcome

/-- An octet with a letter in lower case. -/
def lowerOctet (o : UInt8) : UInt8 :=
  if 0x41 ≤ o && o ≤ 0x5a then o + 0x20 else o

namespace GivenText

/-- What a value gives that can be put into lower case. -/
def ofValue (v : Value) : Except Fault GivenText :=
  match v.text?, v with
  | some s, _ => .ok (.text s)
  | none, .bytes o => .ok (.octets o)
  | none, _ => .error (.noOperation v.kindWord)

/-- Text or octets as a value. -/
def toValue : GivenText → Value
  | .text s => .text s
  | .octets o => .bytes o

/-- Letters in lower case; of octets only those of ASCII. -/
def lower : GivenText → GivenText
  | .text s => .text (Text.lower s)
  | .octets o => .octets (o.map lowerOctet)

/-- Nothing is in it. -/
def isBlank : GivenText → Bool
  | .text s => s = ""
  | .octets o => o.isEmpty

/-- Another one starts with this one. -/
def startsOff (start : GivenText) : GivenText → Except Fault Bool
  | .text s => match start with
    | .text t => .ok (t.toList.isPrefixOf s.toList)
    | .octets _ => .error (.wrongKind "bytes")
  | .octets o => match start with
    | .octets p => .ok (p.isPrefixOf o)
    | .text _ => .error (.wrongKind "str")

/-- Another one holds this one somewhere. -/
def occursIn (needle : GivenText) : GivenText → Except Fault Bool
  | .text s => match needle with
    | .text t => .ok (Text.occursIn t.toList s.toList)
    | .octets _ => .error (.wrongKind "bytes")
  | .octets o => match needle with
    | .octets p => .ok (Text.occursIn p o)
    | .text _ => .error (.wrongKind "str")

end GivenText

/-- Complete lists of rules as they are given, in lower case. -/
abbrev GivenRules := RuleLists (List GivenText)

/-- Rules as they would be given. -/
def Rules.given (rules : Rules) : GivenRules :=
  RuleLists.map (fun list => list.map .text) rules

namespace GivenRules

/-- A list of rules given as a value, in lower case; null stands for the built-in list. -/
def listOf (v : Value) (default : List String) : Except Fault (List GivenText) := do
  let items ← match v with
    | .null => pure (default.map .text)
    | _ => (← v.elements).mapM GivenText.ofValue
  return items.map GivenText.lower

/-- The rules of lists given as values. -/
def ofValues (given : RuleLists Value) : Except Fault GivenRules := do
  let default := defaultRules
  return {
    connectionPrefixes := ← listOf given.connectionPrefixes default.connectionPrefixes
    connectionMessages := ← listOf given.connectionMessages default.connectionMessages
    transientStates := ← listOf given.transientStates default.transientStates
    transientMessages := ← listOf given.transientMessages default.transientMessages }

/-- The rules of lists given as named arguments. -/
def construct (args : Arguments) : Except Fault GivenRules := do
  let signature : Signature :=
    { callable := "PostgreSQLErrorHeuristics.__init__"
      parameters := RuleLists.names.toList.map fun name => Signature.optional name .null }
  let arg ← signature.bind args
  ofValues (RuleLists.names.map arg)

end GivenRules

/-- An error as it is given, with parts of any kind. -/
structure GivenSignal where
  sqlstate : Value
  driverCode : Value
  message : Value

/-- An optional part of an error as a value. -/
def optionValue {α : Type} (f : α → Value) : Option α → Value
  | some a => f a
  | none => .null

/-- A signal with its parts as values. -/
def ErrorSignal.given (e : ErrorSignal) : GivenSignal where
  sqlstate := optionValue .text e.sqlstate
  driverCode := optionValue .int e.driverCode
  message := .text e.message

namespace GivenSignal

/-- The SQLSTATE in lower case, if it is not null. -/
def state? (e : GivenSignal) : Except Fault (Option GivenText) :=
  match e.sqlstate with
  | .null => .ok none
  | v => (GivenText.ofValue v).map fun state => some state.lower

/-- The given SQLSTATE starts with one of the given starts that are not empty. -/
def startsWithAny (e : GivenSignal) (starts : List GivenText) : Except Fault Bool := do
  match ← e.state? with
  | none => return false
  | some state =>
    anyPasses (fun start => if start.isBlank then .ok false else start.startsOff state) starts

/-- The given SQLSTATE is one of the given ones. -/
def isAnyOf (e : GivenSignal) (states : List GivenText) : Except Fault Bool := do
  match ← e.state? with
  | none => return false
  | some state => return states.contains state

/-- Some of the texts occurs in the given message. -/
def mentions (e : GivenSignal) (texts : List GivenText) : Except Fault Bool := do
  let message ← GivenText.ofValue e.message
  anyPasses (fun needle => needle.occursIn message.lower) texts

/-- The error means a lost connection. -/
def isConnectionIssue (e : GivenSignal) (rules : GivenRules) : Except Fault Bool := do
  if ← e.startsWithAny rules.connectionPrefixes then return true
  e.mentions rules.connectionMessages

/-- The error means a conflict that may pass. -/
def isTransientIssue (e : GivenSignal) (rules : GivenRules) : Except Fault Bool := do
  if ← e.isAnyOf rules.transientStates then return true
  e.mentions rules.transientMessages

/-- The verdict on an error: a lost connection outranks a conflict. -/
def classify (e : GivenSignal) (rules : GivenRules) : Except Fault Verdict := do
  if ← e.isConnectionIssue rules then return .connection
  if ← e.isTransientIssue rules then return .transient
  return .fatal

end GivenSignal

/-- The report on a verdict. -/
def verdictEvent (e : GivenSignal) (v : Verdict) : LogEvent where
  logger := "pg_transactions.infrastructure.errors.classifier"
  level := .debug
  fields := [("verdict", .text v.value), ("sqlstate", e.sqlstate), ("driver_code", e.driverCode)]
  event := .text "errors.classified"

/-- A test of texts that never fails tells whether any text passes. -/
theorem anyPasses_texts (test : GivenText → Except Fault Bool) (plain : String → Bool)
    (agree : ∀ s, test (.text s) = .ok (plain s)) (texts : List String) :
    anyPasses test (texts.map .text) = .ok (texts.any plain) := by
  induction texts with
  | nil => rfl
  | cons s rest ih =>
    simp only [List.map_cons, anyPasses, agree, List.any_cons]
    cases plain s
    · simpa using ih
    · rfl

/-- A signal has the same verdict with its parts, and the rules, as values. -/
theorem classify_given (e : ErrorSignal) (rules : Rules) :
    e.given.classify rules.given = .ok (rules.classify e) := by
  have starts (list : List String) :
      e.given.startsWithAny (list.map .text) = .ok (e.sqlstate.any (startsWithAny list)) := by
    cases h : e.sqlstate with
    | none => simp [GivenSignal.startsWithAny, GivenSignal.state?, ErrorSignal.given, h,
        optionValue, pure, Except.pure, bind, Except.bind]
    | some state =>
      simp only [GivenSignal.startsWithAny, GivenSignal.state?, ErrorSignal.given, h,
        optionValue, GivenText.ofValue, Value.text?, GivenText.lower, Except.map, bind,
        Except.bind, Option.any_some]
      exact anyPasses_texts _ _ (fun s => by
        by_cases hs : s = "" <;> simp [GivenText.isBlank, GivenText.startsOff, hs]) list
  have states (list : List String) :
      e.given.isAnyOf (list.map .text)
        = .ok (e.sqlstate.any fun state => list.contains (Text.lower state)) := by
    cases h : e.sqlstate with
    | none => simp [GivenSignal.isAnyOf, GivenSignal.state?, ErrorSignal.given, h,
        optionValue, pure, Except.pure, bind, Except.bind]
    | some state =>
      simp [GivenSignal.isAnyOf, GivenSignal.state?, ErrorSignal.given, h, optionValue,
        GivenText.ofValue, Value.text?, GivenText.lower, Except.map, bind, Except.bind, pure,
        Except.pure, List.contains_eq_mem]
  have message (list : List String) :
      e.given.mentions (list.map .text) = .ok (mentions list e.message) :=
    anyPasses_texts _ _ (fun _ => rfl) list
  have connection :
      e.given.isConnectionIssue rules.given = .ok (rules.isConnectionIssue e) := by
    simp only [GivenSignal.isConnectionIssue, Rules.isConnectionIssue, Rules.given,
      RuleLists.map, starts, message]
    cases e.sqlstate.any (startsWithAny rules.connectionPrefixes) <;> rfl
  have passing : e.given.isTransientIssue rules.given = .ok (rules.isTransientIssue e) := by
    simp only [GivenSignal.isTransientIssue, Rules.isTransientIssue, Rules.given,
      RuleLists.map, states, message]
    cases e.sqlstate.any (fun state => rules.transientStates.contains (Text.lower state)) <;> rfl
  simp only [GivenSignal.classify, Rules.classify, connection, passing]
  cases rules.isConnectionIssue e <;> cases rules.isTransientIssue e <;> rfl

end PgWrite
