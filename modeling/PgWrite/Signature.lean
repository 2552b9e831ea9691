import PgWrite.Fault
import PgWrite.Value.Basic

/-!
# Signatures

A signature lists the arguments that a call takes, each with the value it has when it is left
out, or none if it must be given. Arguments are checked in the order in which they are given,
and only then is it asked which ones are missing.
-/

namespace PgWrite

/-- Named arguments in the order in which they are given. -/
abbrev Arguments := List (String × Value)

/-- An argument of a call. -/
structure Parameter where
  name : String
  default? : Option Value

/-- The arguments that a call takes. -/
structure Signature where
  callable : String
  parameters : List Parameter

namespace Signature

/-- An argument that must be given. -/
def required (name : String) : Parameter := ⟨name, none⟩

/-- An argument with a value for when it is left out. -/
def optional (name : String) (value : Value) : Parameter := ⟨name, some value⟩

/-- The first argument that the signature does not take. -/
def firstUnfit (s : Signature) : Arguments → Option Fault
  | [] => none
  | (name, _) :: rest =>
    if name = "self" then some (.repeatedArgument s.callable name)
    else if s.parameters.any (·.name = name) then firstUnfit s rest
    else some (.unexpectedArgument s.callable name)

/-- The arguments that must be given and are not. -/
def missing (s : Signature) (args : Arguments) : List String :=
  (s.parameters.filter fun p => p.default?.isNone && (args.lookup p.name).isNone).map (·.name)

/-- The value of every argument of a call that fits the signature. -/
def bind (s : Signature) (args : Arguments) : Except Fault (String → Value) :=
  match s.firstUnfit args with
  | some fault => .error fault
  | none =>
    match s.missing args with
    | [] => .ok fun name =>
      match args.lookup name with
      | some v => v
      | none => ((s.parameters.find? (·.name = name)).bind (·.default?)).getD .null
    | names => .error (.missingArguments s.callable names)

end Signature

end PgWrite
