import PgWrite.Config.Variables
import PgWrite.Files

/-!
# The file of variables

The file with the variables of the settings lies in the root of a project, unless a variable
names another one. A path that starts with a tilde is taken from a home directory, and any
other path that does not start at the root of all files from the project.
-/

namespace PgWrite

/-- Where paths that are not complete lead. -/
structure HomePlaces where
  /-- The root of the project. -/
  project : Path
  /-- The home directory of the account in use, unless a variable names another one. -/
  home : String
  /-- The home directories of all accounts by name. -/
  accounts : List (String × String)

namespace HomePlaces

/-- The text of a directory without strokes at its end; nothing is left of the root of all files,
which is written as one stroke. -/
def directoryText (home : String) : List Char :=
  match (home.toList.reverse.dropWhile (· = '/')).reverse with
  | [] => ['/']
  | text => text

/-- The home directory that a tilde with the name of an account stands for. -/
def homeOf (places : HomePlaces) (env : Variables) (account : List Char) :
    Except Fault Path :=
  let home? :=
    if account.isEmpty then some ((env.lookup "HOME").getD places.home)
    else places.accounts.lookup (String.ofList account)
  match home?.map directoryText with
  | none => .error .homeUnknown
  | some ('~' :: _) => .error .homeUnknown
  | some text => .ok (Path.ofText (String.ofList text))

/-- A path with a tilde at its start replaced. -/
def expand (places : HomePlaces) (env : Variables) (p : Path) : Except Fault Path :=
  match p.isAbsolute, p.parts with
  | false, ('~' :: account) :: rest => do
    let home ← places.homeOf env account
    return home.append { root := [], parts := rest }
  | _, _ => .ok p

/-- The path of the file with the variables of the settings. -/
def settingsEnvFile (places : HomePlaces) (env : Variables) : Except Fault Path :=
  match (env.lookup "PGTX_ENV_FILE").filter (· ≠ "") with
  | some path => (places.expand env (Path.ofText path)).map places.project.append
  | none => .ok (places.project.append (Path.ofText ".env"))

end HomePlaces

end PgWrite
