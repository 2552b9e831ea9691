import PgWrite.Fault
import PgWrite.Value.Basic

/-!
# Elements

What a value yields where its elements are asked for one after the other: a list its items, a
text its characters, a mapping its keys and octets their numbers. Asking any other value is a
fault.
-/

namespace PgWrite

/-- The list of what a walk over a value meets. -/
def Value.elements (v : Value) : Except Fault (List Value) :=
  match v.elements? with
  | some items => .ok items
  | none => .error (.notIterable v.kindWord)

end PgWrite
