import PgWrite.Text.Lowercase

/-!
# Error rules

Database errors are told apart by four lists of rules: prefixes of SQLSTATEs and parts of
messages that mean a lost connection, and whole SQLSTATEs and parts of messages that mean a
conflict which may pass. A list that is not given falls back to the built-in one; an empty
list is given and switches its rule off. All rules are in lower case.
-/

namespace PgWrite

/-- One entry for each of the four rule lists. -/
structure RuleLists (α : Type) where
  connectionPrefixes : α
  connectionMessages : α
  transientStates : α
  transientMessages : α
  deriving Repr

namespace RuleLists

variable {α β : Type}

/-- Applies a function to every entry. -/
def map (f : α → β) (r : RuleLists α) : RuleLists β where
  connectionPrefixes := f r.connectionPrefixes
  connectionMessages := f r.connectionMessages
  transientStates := f r.transientStates
  transientMessages := f r.transientMessages

/-- Combines two entries to one, list by list. -/
def zipWith {γ : Type} (f : α → β → γ) (r : RuleLists α) (s : RuleLists β) : RuleLists γ where
  connectionPrefixes := f r.connectionPrefixes s.connectionPrefixes
  connectionMessages := f r.connectionMessages s.connectionMessages
  transientStates := f r.transientStates s.transientStates
  transientMessages := f r.transientMessages s.transientMessages

/-- The names of the lists, in the order of their entries. -/
def names : RuleLists String where
  connectionPrefixes := "connection_sqlstate_prefixes"
  connectionMessages := "connection_message_substrings"
  transientStates := "transient_sqlstates"
  transientMessages := "transient_message_substrings"

/-- The entries in order. -/
def toList (r : RuleLists α) : List α :=
  [r.connectionPrefixes, r.connectionMessages, r.transientStates, r.transientMessages]

/-- The entries in order, each with its name. -/
def named (r : RuleLists α) : List (String × α) :=
  names.toList.zip r.toList

end RuleLists

/-- Lists of rules, each of which may be left out. -/
abbrev RuleOverrides := RuleLists (Option (List String))

/-- Complete lists of rules in lower case. -/
abbrev Rules := RuleLists (List String)

/-- The built-in rules. -/
def defaultRules : RuleLists (List String) where
  connectionPrefixes := ["08", "57P0"]
  connectionMessages := [
    "server closed the connection unexpectedly",
    "terminating connection due to administrator command",
    "terminating connection due to idle-in-transaction timeout",
    "could not receive data from server",
    "could not send data to server",
    "connection to server at",
    "connection refused",
    "no route to host",
    "ssl syscall error",
    "eof detected",
    "broken pipe",
    "connection reset by peer",
    "the database system is starting up",
    "the database system is shutting down"]
  transientStates := ["40001", "40P01", "55P03"]
  transientMessages := [
    "deadlock detected",
    "could not serialize access",
    "canceling statement due to lock timeout",
    "lock not available",
    "canceling statement due to conflict with recovery",
    "could not obtain lock on"]

/-- No list is given. -/
def noOverrides : RuleOverrides where
  connectionPrefixes := none
  connectionMessages := none
  transientStates := none
  transientMessages := none

/-- The rules of the given lists, the built-in ones for the others, all in lower case. -/
def Rules.ofOverrides (given : RuleOverrides) : Rules :=
  RuleLists.zipWith (fun list default => (list.getD default).map Text.lower) given defaultRules

/-- The first of two sources that gives a list gives it. -/
def RuleOverrides.orElse (first second : RuleOverrides) : RuleOverrides :=
  RuleLists.zipWith (fun a b => a.or b) first second

end PgWrite
