import PgWrite.Fault
import PgWrite.Sql.Segment
import PgWrite.Value.Basic

/-!
# Marker styles

A statement is compiled with question marks for its parameters. Both other styles are maps
over the segments of its text. In the format style a marker is `%s` and every percent sign is
doubled, inside regions too, so the text can be read back. In the named style the markers are
numbered from left to right; the text succeeds exactly with one parameter to a marker, and a
marker before a colon stands in parentheses, so that it is not read as part of a cast.
-/

namespace PgWrite

/-- Question marks for a number of parameters. -/
def placeholders (count : Nat) : String :=
  Text.joined ", " (List.replicate count "?")

/-- A text with every percent sign doubled. -/
def doublePercents : List Char → List Char
  | [] => []
  | c :: rest => if c = '%' then c :: c :: doublePercents rest else c :: doublePercents rest

/-- A segment in the format style. -/
def Segment.format : Segment → List Char
  | .marker _ => ['%', 's']
  | s => doublePercents s.source

/-- SQL text in the format style. -/
def formatStyle (sql : String) : String :=
  String.ofList ((segments sql).flatMap Segment.format)

/-- The name of the parameter with an index. -/
def bindName (stem : String) (index : Nat) : String :=
  stem ++ "_" ++ Text.decimal index

/-- The named form of a marker. -/
def namedMarker (stem : String) (index : Nat) (beforeColon : Bool) : List Char :=
  let mark := ':' :: (bindName stem index).toList
  if beforeColon then '(' :: mark ++ [')'] else mark

/-- Segments in the named style, the markers numbered from an index on. -/
def nameMarkers (stem : String) : Nat → List Segment → List Char
  | _, [] => []
  | index, .marker beforeColon :: rest =>
    namedMarker stem index beforeColon ++ nameMarkers stem (index + 1) rest
  | index, s :: rest => s.source ++ nameMarkers stem index rest

/-- The number of markers in a text. -/
def markerCount (sql : String) : Nat :=
  (segments sql).countP Segment.isMarker

/-- Values under the names of their indices, counted from an index on. -/
def indexedFrom (stem : String) : Nat → List Value → List (String × Value)
  | _, [] => []
  | index, v :: vs => (bindName stem index, v) :: indexedFrom stem (index + 1) vs

/-- Values under the names of their indices. -/
def indexedParams (stem : String) (values : List Value) : List (String × Value) :=
  indexedFrom stem 0 values

/-- SQL text in the named style with the value of every name. -/
structure NamedSql where
  sql : String
  values : List (String × Value)

/-- SQL text in the named style; the parameters must be as many as the markers. -/
def namedStyle (sql : String) (params : List Value) (stem : String) : Except Fault NamedSql :=
  let markers := markerCount sql
  if markers = params.length then
    .ok { sql := String.ofList (nameMarkers stem 0 (segments sql))
          values := indexedParams stem params }
  else .error (.invalid (.markerCountMismatch markers params.length))

end PgWrite
