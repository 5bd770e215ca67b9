/-!
# Path Names

File names as messages show them: without components that name nothing, that is
empty ones and single dots. The slashes at the front stay, one for an absolute
path and two where exactly two were written.

## Main definitions

* `tidyPath`: A path without the components that name nothing.
* `parentPath`: The path of the directory that holds a file.
-/

namespace SqlCatalog

namespace Text

/-- The components of a path. -/
def pathComponents : List Char → List (List Char)
  | [] => [[]]
  | c :: rest =>
    if c = '/' then [] :: pathComponents rest
    else match pathComponents rest with
      | [] => [[c]]
      | first :: more => (c :: first) :: more

/-- The components that name something. -/
def namedComponents (s : List Char) : List (List Char) :=
  (pathComponents s).filter fun c => !c.isEmpty && c != ['.']

/-- The slashes at the front of a path that are kept. -/
def pathRoot (s : List Char) : List Char :=
  match (s.takeWhile (· == '/')).length with
  | 0 => []
  | 2 => ['/', '/']
  | _ => ['/']

/-- A path from its root and its components. -/
def joinPath (root : List Char) (components : List (List Char)) : String :=
  let path := root ++ ['/'].intercalate components
  String.ofList (if path.isEmpty then ['.'] else path)

/-- A path without the components that name nothing. -/
def tidyPath (path : String) : String :=
  joinPath (pathRoot path.toList) (namedComponents path.toList)

/-- The path of the directory that holds a file. -/
def parentPath (path : String) : String :=
  joinPath (pathRoot path.toList) (namedComponents path.toList).dropLast

end Text

end SqlCatalog
