/-! # Paths
Paths are texts whose parts are set apart by slashes. Putting one path behind another keeps both as
they are: nothing is normalised, and an absolute path replaces what comes before it. -/

namespace TypeWitness.Path

/-- Whether a path starts at the root. -/
def isAbsolute (path : String) : Bool := path.toList.head? == some '/'

/-- Put a path behind another one. -/
def join (base path : String) : String :=
  if isAbsolute path then path
  else if base.isEmpty || base.toList.getLast? == some '/' then base ++ path
  else base ++ "/" ++ path

/-- The parts of a text between the occurrences of a character. -/
def splitAt (separator : Char) : List Char → List (List Char)
  | [] => [[]]
  | c :: rest =>
    if c = separator then [] :: splitAt separator rest
    else
      match splitAt separator rest with
      | [] => [[c]]
      | first :: others => (c :: first) :: others

/-- Drop the parts at the end of a path that do not count, the last one first: slashes, and dots
that stand for the directory they are in. -/
def trimEnd : List Char → List Char
  | '/' :: rest => trimEnd rest
  | ['.'] => ['.']
  | '.' :: '/' :: rest => trimEnd rest
  | rest => rest

/-- The path without its last part, or nothing when there is no such part. -/
def parent? (path : String) : Option String :=
  match trimEnd path.toList.reverse with
  | [] => none
  | last =>
    let before := last.dropWhile (· != '/')
    match before, trimEnd before with
    | [], _ => some ""
    | _, [] => some "/"
    | _, rest => some (String.ofList rest.reverse)

/-- The path of the source file for a class: the parts of the package's name that are not empty, and
the name of the class. -/
def ofClass (packageName simpleName : String) : String :=
  let parts := (splitAt '.' packageName.toList).filter (!·.isEmpty)
  join (parts.foldl (fun path part => join path (String.ofList part)) "") (simpleName ++ ".java")

end TypeWitness.Path
