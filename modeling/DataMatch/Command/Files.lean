import DataMatch.Text.Bytes

/-! Files that a command opens, by path. Paths are followed from a working directory, one component
after another. -/
namespace DataMatch

inductive OpenError where
  | notFound
  | notDirectory
  | denied
  | nulInPath
  | other (reason : String)
deriving DecidableEq, Repr

def OpenError.message : OpenError → String
  | notFound => "No such file or directory (os error 2)"
  | notDirectory => "Not a directory (os error 20)"
  | denied => "Permission denied (os error 13)"
  | nulInPath => "file name contained an unexpected NUL byte"
  | other reason => reason

/-- What can be opened. A directory opens, but nothing can be read from it. -/
inductive FileEntry where
  | file (bytes : Bytes)
  | directory
deriving DecidableEq, Repr

abbrev Files := String → Except OpenError FileEntry

namespace Files

/-- A place below the working directory: the names that lead there. -/
abbrev Place := List (List Char)

def placeOf (name : String) : Place := (name.toList.splitOn '/').filter (· ≠ [])

def entryAt (entries : List (String × Bytes)) (place : Place) : Option FileEntry :=
  match entries.find? fun (name, _) => placeOf name == place with
  | some (_, bytes) => some (.file bytes)
  | none =>
    if place = [] ∨ entries.any fun (name, _) => place.isPrefixOf (placeOf name) then
      some .directory
    else
      none

/-- One component further. Nothing is known outside the working directory. -/
def Place.step (place : Place) (component : List Char) : Option Place :=
  if component = [] ∨ component = ['.'] then some place
  else if component = ['.', '.'] then
    match place with
    | [] => none
    | names => some names.dropLast
  else some (place ++ [component])

def walk (entries : List (String × Bytes)) (place : Place) :
    List (List Char) → Except OpenError FileEntry
  | [] =>
    match entryAt entries place with
    | some entry => .ok entry
    | none => .error .notFound
  | component :: rest =>
    match entryAt entries place with
    | some .directory =>
      match place.step component with
      | some next => walk entries next rest
      | none => .error .notFound
    | some (.file _) => .error .notDirectory
    | none => .error .notFound

def ofList (entries : List (String × Bytes)) : Files := fun path =>
  if path.toList.contains '\x00' then .error .nulInPath
  else if path = "" ∨ path.toList.head? = some '/' then .error .notFound
  else walk entries [] (path.toList.splitOn '/')

end Files

end DataMatch
