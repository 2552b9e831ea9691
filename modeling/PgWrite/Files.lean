import PgWrite.Text.Scan

/-!
# Files

Files are found by paths that start at a working directory or at the root of all files. A path
is a list of parts: repeated and trailing strokes and single dots mean nothing, while two dots
lead up. A path is looked up part by part, so a part behind a file leads nowhere, and a part
that is too long for a name is only noticed in a directory.
-/

namespace PgWrite

/-- A path in its parts. -/
structure Path where
  /-- The strokes at the start: none, one, or exactly two. -/
  root : List Char
  parts : List (List Char)
  deriving DecidableEq, Repr

namespace Path

/-- The strokes that a path starts with; more than two count as one. -/
def rootOf (text : List Char) : List Char :=
  match text.takeWhile (· = '/') with
  | [] => []
  | ['/', '/'] => ['/', '/']
  | _ => ['/']

/-- The path of a text. -/
def ofText (text : String) : Path where
  root := rootOf text.toList
  parts := (Text.splitAtChar '/' text.toList).filter fun part => part ≠ [] && part ≠ ['.']

/-- The path starts at the root of all files. -/
def isAbsolute (p : Path) : Bool :=
  !p.root.isEmpty

/-- The text of a path; a path without parts is a single dot. -/
def text (p : Path) : String :=
  let body := p.root ++ (Text.joined "/" (p.parts.map String.ofList)).toList
  if body.isEmpty then "." else String.ofList body

/-- The parts of a path, with a part of its own for the root of all files. -/
def place (p : Path) : List (List Char) :=
  if p.isAbsolute then ['/'] :: p.parts else p.parts

/-- A path that continues another one, unless it starts at the root itself. -/
def append (p q : Path) : Path :=
  if q.isAbsolute then q else { p with parts := p.parts ++ q.parts }

/-- The parts with every pair of a name and two dots behind it dropped. -/
def resolved (p : Path) : List (List Char) :=
  (p.parts.foldl (fun above part =>
    match above with
    | last :: rest => if part = ['.', '.'] && last ≠ ['.', '.'] then rest else part :: above
    | [] => [part]) []).reverse

end Path

/-- What a name in a directory stands for. -/
inductive FileEntry where
  | file (octets : List UInt8)
  | directory
  deriving DecidableEq, Repr

/-- Files by the parts of their paths. -/
abbrev Files := List (List (List Char) × FileEntry)

/-- Where a path leads. -/
inductive Lookup where
  | file (octets : List UInt8)
  | directory
  /-- Nothing has the name. -/
  | absent
  /-- A part of the path is a file. -/
  | throughFile
  /-- The path, or a name that is looked for, is too long. -/
  | tooLong
  deriving DecidableEq, Repr

namespace Files

/-- The files of named entries. -/
def ofList (entries : List (String × FileEntry)) : Files :=
  entries.map fun (name, entry) => ((Path.ofText name).place, entry)

/-- What stands at a place: an entry, or a directory above one. -/
def entryAt (files : Files) (place : List (List Char)) : Lookup :=
  match files.find? fun (parts, _) => parts = place with
  | some (_, .file octets) => .file octets
  | some (_, .directory) => .directory
  | none =>
    let leadsOn := files.any fun (parts, _) => place.isPrefixOf parts
    let isAbove := place.all (· = ['.', '.'])
    if isAbove || place = [['/']] || leadsOn then .directory else .absent

/-- The place above a place. The root of all files is above itself, and what is above the working
directory is written with two dots. -/
def above (place : List (List Char)) : List (List Char) :=
  if place.isEmpty || place.getLast? = some ['.', '.'] then place ++ [['.', '.']]
  else if place = [['/']] then place
  else place.dropLast

/-- The number of octets of a text. -/
def octetCount (text : List Char) : Nat :=
  text.foldl (fun count c => count + c.utf8Size) 0

/-- How many octets a name may have. -/
def maxName : Nat := 255

/-- How many octets a path may have. -/
def maxPath : Nat := 4095

/-- Follows parts from a place on. -/
def follow (files : Files) (place : List (List Char)) : List (List Char) → Lookup
  | [] => files.entryAt place
  | part :: rest =>
    match files.entryAt place with
    | .directory =>
      if maxName < octetCount part then .tooLong
      else follow files (if part = ['.', '.'] then above place else place ++ [part]) rest
    | .file _ => .throughFile
    | found => found

/-- Where a path leads. -/
def find (files : Files) (p : Path) : Lookup :=
  if maxPath < octetCount p.text.toList then .tooLong else files.follow [] p.place

end Files

/-- Text with every kind of line end as a line feed. -/
def unifyLines : List Char → List Char
  | [] => []
  | '\r' :: '\n' :: rest => '\n' :: unifyLines rest
  | c :: rest => (if c = '\r' then '\n' else c) :: unifyLines rest

/-- The text that octets stand for, with every kind of line end as a line feed. -/
def decodeText? (octets : List UInt8) : Option String :=
  (String.fromUTF8? ⟨octets.toArray⟩).map fun s => String.ofList (unifyLines s.toList)

end PgWrite
