import PgWrite.Signature
import PgWrite.Sql.RowSet
import PgWrite.Value.Shown

/-!
# Stated violations

A violation may also be stated in words of the caller's own, with names that are listed
behind a label. The names must be texts, but only if there are any.
-/

namespace PgWrite

namespace InvalidInput

/-- What a stated violation takes. -/
def signature : Signature where
  callable := "InvalidInputError.__init__"
  parameters := [Signature.required "message", Signature.optional "names" .null,
    Signature.optional "label" (.text "Missing")]

/-- A stated violation from named arguments. -/
def construct (args : Arguments) : Except Fault InvalidInput := do
  let arg ← signature.bind args
  let names ← match arg "names" with
    | .null => pure []
    | names => names.elements
  return .stated (arg "message").display (arg "label").display (← namesOf names)

end InvalidInput

end PgWrite
